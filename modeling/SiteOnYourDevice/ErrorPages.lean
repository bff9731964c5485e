import SiteOnYourDevice.HttpResponseText
import SiteOnYourDevice.ProxiedConnection

namespace SiteOnYourDevice
open CString
set_option relaxedAutoImplicit false
set_option autoImplicit true

/-- What `snprintf` returns is what it stored only when the text fits. -/
theorem snprintf_eq_iff {n : Nat} {text : Str} (hn : 0 < n) (hmax : n ≤ INT_MAX) :
    (snprintf n text).1 = (snprintf n text).2.length ↔ text.length < n := by
  have hstored : (snprintf n text).2.length = min (n - 1) text.length := List.length_take
  rw [hstored, snprintf]
  dsimp only
  split
  · omega
  · omega

theorem snprintf_length {n : Nat} {text : Str} (h : text.length ≤ INT_MAX) :
    (snprintf n text).1 = text.length := if_pos h

/-- A page as it is sent: the length in its headers, `err_data`, and the length that `Write` or the
`DATA` frame takes of it. -/
structure ErrorPage where
  content_length : Int
  err_data : Str
  nwrite : Int

/-- Both lengths are in the buffer, and are those of what is stored there. -/
structure ErrorPage.InBuffer (page : ErrorPage) : Prop where
  content_length : page.content_length ≤ ResponseTexts.ERR_DATA_SIZE ∧
    page.content_length = page.err_data.length
  nwrite : page.nwrite ≤ ResponseTexts.ERR_DATA_SIZE ∧ page.nwrite = page.err_data.length

namespace ResponseTexts

variable (texts : ResponseTexts)

/-- The page of both functions `send_error`: `err_len` serves for all. -/
def errorPage (status : Nat) (text : Option Str) : ErrorPage :=
  let err := texts.err_data status text
  ⟨err.1, err.2, err.1⟩

/-- The page in what is written, as text or as frames. -/
def pageOf : HttpWritten → Option ErrorPage
  | .text status _ text _ => some (texts.errorPage status text)
  | .frames _ status text => some (texts.errorPage status text)
  | _ => none

/-- The bytes of `HTML_PATTERN_ISISSSS7` itself, and the texts that go into it. -/
def pageSize (status : Nat) (text : Option Str) : Nat :=
  2 * (decimalText status).length + 2 * (texts.title status).length +
    ((text.map cstr).getD "(null)".toList).length + texts.server_url.length +
    texts.server_name.length + 232

theorem fill_length {pieces args : List Str} (h : args.length ≤ pieces.length) :
    (fill pieces args).length = pieces.flatten.length + args.flatten.length := by
  induction args generalizing pieces with
  | nil => cases pieces <;> rfl
  | cons arg args ih =>
    cases pieces with
    | nil => exact absurd h (Nat.not_succ_le_zero _)
    | cons piece pieces =>
      rw [fill, List.length_append, List.length_append, ih (Nat.le_of_succ_le_succ h),
        List.flatten_cons, List.length_append, List.flatten_cons, List.length_append]
      omega

theorem page_length (status : Nat) (text : Option Str) :
    (texts.page status text).length = texts.pageSize status text := by
  have hpattern : HTML_PATTERN_ISISSSS7.flatten.length = 232 := by decide +kernel
  rw [page, fill_length, hpattern, pageSize]
  · simp only [List.flatten_cons, List.flatten_nil, List.length_append, List.length_nil]
    omega
  · exact Nat.le_succ 7

theorem inBuffer_iff {text : Str} :
    ErrorPage.InBuffer ⟨(snprintf ERR_DATA_SIZE text).1, (snprintf ERR_DATA_SIZE text).2,
      (snprintf ERR_DATA_SIZE text).1⟩ ↔ text.length < ERR_DATA_SIZE := by
  rw [← snprintf_eq_iff (by decide) (by decide)]
  constructor
  · intro h
    exact h.content_length.2
  · intro h
    have hstored : (snprintf ERR_DATA_SIZE text).2.length ≤ ERR_DATA_SIZE :=
      (List.length_take_le _ _).trans (Nat.sub_le _ _)
    have hle : (snprintf ERR_DATA_SIZE text).1 ≤ ERR_DATA_SIZE := by
      rw [h]
      exact Int.ofNat_le.2 hstored
    exact ⟨⟨hle, h⟩, ⟨hle, h⟩⟩

theorem errorPage_inBuffer_iff {status : Nat} {text : Option Str} :
    (texts.errorPage status text).InBuffer ↔ texts.pageSize status text < ERR_DATA_SIZE := by
  rw [← page_length]
  exact inBuffer_iff

theorem errorPage_nwrite {status : Nat} {text : Option Str}
    (h : texts.pageSize status text ≤ INT_MAX) :
    (texts.errorPage status text).nwrite = texts.pageSize status text := by
  rw [← page_length] at h ⊢
  simp only [errorPage, err_data]
  exact snprintf_length h

/-- What both functions write is one page with their status and text. -/
theorem pageOf_sent {c c' : Http2Client} {protocol : http_protocols} {status : Nat}
    {extra_header text : Option Str} {keep : Bool}
    (h : c.send_error_text protocol status extra_header text keep = some c' ∨
      c.send_error protocol status extra_header text keep = some c') :
    ∀ w ∈ c'.written.drop c.written.length,
      texts.pageOf w = some (texts.errorPage status text) := by
  rcases h with h | h
  · rw [Http2Client.send_error_text] at h
    split at h
    · cases h
    · cases h
      rw [Http2Client.Write, List.drop_left]
      intro w hw
      rw [List.mem_singleton.1 hw, pageOf]
  · rw [Http2Client.send_error_eq] at h
    obtain ⟨out, hr, rfl⟩ := Option.map_eq_some_iff.1 h
    rw [Http2Client.Write, List.drop_left]
    intro w hw
    obtain ⟨_, _, ⟨header_stream, _, he⟩ | he⟩ | ⟨_, he⟩ := Http2Client.respond_cases hr
    · rw [he] at hw
      rw [List.mem_singleton.1 hw, pageOf]
    · rw [he] at hw
      cases hw
    · rw [he] at hw
      rw [List.mem_singleton.1 hw, pageOf]

/-- What is sent of a page is in its buffer exactly when the page fits. -/
theorem send_error_inBuffer_iff {c c' : Http2Client} {protocol : http_protocols} {status : Nat}
    {extra_header text : Option Str} {keep : Bool} {w : HttpWritten}
    (h : c.send_error_text protocol status extra_header text keep = some c' ∨
      c.send_error protocol status extra_header text keep = some c')
    (hw : w ∈ c'.written.drop c.written.length) :
    (∃ page, texts.pageOf w = some page ∧ page.InBuffer) ↔
      texts.pageSize status text < ERR_DATA_SIZE := by
  rw [pageOf_sent texts h w hw, ← errorPage_inBuffer_iff]
  simp only [Option.some.injEq, exists_eq_left']

theorem send_error_inBuffer_iff_notFound :
    ResponseTexts.sample.pageSize HS_NOT_FOUND (some "File not found.".toList) < ERR_DATA_SIZE ∧
      ∃ page, ResponseTexts.sample.pageOf
          (.text HS_NOT_FOUND none (some "File not found.".toList) true) = some page ∧
        page.InBuffer := by
  have hsize : ResponseTexts.sample.pageSize HS_NOT_FOUND (some "File not found.".toList) <
      ERR_DATA_SIZE := by
    decide +kernel
  have hsent : Http2Client.new.send_error .HP_1_1 HS_NOT_FOUND none
      (some "File not found.".toList) true = some (Http2Client.new.Write
        [.text HS_NOT_FOUND none (some "File not found.".toList) true]) := rfl
  exact ⟨hsize, (send_error_inBuffer_iff sample (.inr hsent) List.mem_cons_self).2 hsize⟩

/-- A path of 900 bytes that belongs to nobody: more is sent than there is. -/
theorem not_inBuffer_longPath :
    ∃ w, ProxyClient.refuse .HP_1_1 HS_NOT_FOUND
        (ProxyClient.notRegistered (List.replicate 900 'a')) = some (.closed [w]) ∧
      ∀ page, ResponseTexts.sample.pageOf w = some page →
        ¬ page.InBuffer ∧ (ERR_DATA_SIZE : Int) < page.nwrite := by
  have hsize : ERR_DATA_SIZE < ResponseTexts.sample.pageSize HS_NOT_FOUND
        (some (ProxyClient.notRegistered (List.replicate 900 'a'))) ∧
      ResponseTexts.sample.pageSize HS_NOT_FOUND
        (some (ProxyClient.notRegistered (List.replicate 900 'a'))) ≤ INT_MAX := by
    decide +kernel
  have hlong := Int.ofNat_lt.2 hsize.1
  rw [← sample.errorPage_nwrite hsize.2] at hlong
  refine ⟨.text HS_NOT_FOUND none (some (ProxyClient.notRegistered (List.replicate 900 'a'))) false,
    rfl, ?_⟩
  intro page hpage
  rw [pageOf, Option.some.injEq] at hpage
  rw [← hpage]
  exact ⟨fun h => absurd h.nwrite.1 (Int.not_le.2 hlong), hlong⟩

end ResponseTexts
end SiteOnYourDevice
