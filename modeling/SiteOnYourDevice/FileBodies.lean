import SiteOnYourDevice.HttpCallbacks

namespace SiteOnYourDevice
open CString
set_option relaxedAutoImplicit false
set_option autoImplicit true

/-- The last of a list has the property and no other. -/
inductive OnlyLast (p : α → Prop) : List α → Prop
  | last {a : α} : p a → OnlyLast p [a]
  | cons {a : α} {l : List α} : ¬ p a → OnlyLast p l → OnlyLast p (a :: l)

theorem not_onlyLast_nil {p : α → Prop} : ¬ OnlyLast p [] := by
  intro h
  cases h

theorem onlyLast_singleton {p : α → Prop} : OnlyLast p [a] ↔ p a := by
  constructor
  · intro h
    cases h with
    | last ha => exact ha
    | cons _ h => exact absurd h not_onlyLast_nil
  · exact .last

theorem onlyLast_cons {p : α → Prop} {l : List α} (hl : l ≠ []) :
    OnlyLast p (a :: l) ↔ ¬ p a ∧ OnlyLast p l := by
  constructor
  · intro h
    cases h with
    | last _ => exact absurd rfl hl
    | cons ha h => exact ⟨ha, h⟩
  · intro h
    exact .cons h.1 h.2

/-- A frame, when it was built by the code itself. -/
def HttpWritten.frame? : HttpWritten → Option frame_base
  | .frame f => some f
  | _ => none

/-- The frame is the end of its stream. -/
def frame_base.EndStream (f : frame_base) : Prop := f.flags &&& HTTP2_FLAG_END_STREAM ≠ 0

/-- A file that was sent in frames: `DATA` with its bytes in order, and the end of the stream on
the last frame and on no other. -/
structure EndsOnce (parts : List Str) (w : List HttpWritten) : Prop where
  bytes : ((w.filterMap HttpWritten.frame?).filter (·.type = .HTTP2_DATA)).flatMap (·.payload) =
    parts.flatten
  ended : OnlyLast frame_base.EndStream (w.filterMap HttpWritten.frame?)

namespace Http2Client

/-- The frames of `data_frames`. -/
def dataFrames (stream_id : Nat) (all_size : UInt32) (parts : List Str) : List frame_base :=
  (data_frames stream_id all_size parts).filterMap HttpWritten.frame?

theorem dataFrames_cons (stream_id : Nat) (all_size : UInt32) (buff : Str) (rest : List Str) :
    dataFrames stream_id all_size (buff :: rest) =
      ⟨.HTTP2_DATA, if all_size - UInt32.ofNat buff.length = 0 then HTTP2_FLAG_END_STREAM else 0,
          stream_id, buff, true⟩ ::
        dataFrames stream_id (all_size - UInt32.ofNat buff.length) rest := rfl

/-- Whatever the flags are, the bytes are those of the file. -/
theorem dataFrames_bytes (stream_id : Nat) (all_size : UInt32) (parts : List Str) :
    ((dataFrames stream_id all_size parts).filter (·.type = .HTTP2_DATA)).flatMap (·.payload) =
      parts.flatten := by
  induction parts generalizing all_size with
  | nil => rfl
  | cons buff rest ih =>
    simp only [dataFrames_cons, List.filter_cons, decide_true, if_true, List.flatMap_cons, ih,
      List.flatten_cons]

theorem dataFrames_ne_nil (stream_id : Nat) (all_size : UInt32) (buff : Str) (rest : List Str) :
    dataFrames stream_id all_size (buff :: rest) ≠ [] := by
  rw [dataFrames_cons]
  exact List.cons_ne_nil _ _

/-- The length that is left, in its 32 bits. -/
theorem size_sub (m n : Nat) : UInt32.ofNat (m + n) - UInt32.ofNat m = UInt32.ofNat n := by
  rw [UInt32.ofNat_add, UInt32.add_comm, UInt32.add_sub_cancel]

theorem size_eq_zero_iff (n : Nat) : UInt32.ofNat n = 0 ↔ 2 ^ 32 ∣ n := by
  rw [← UInt32.toNat_inj, UInt32.toNat_ofNat', Nat.dvd_iff_mod_eq_zero]
  rfl

theorem endStream_iff (type : frame_t) (stream_id n : Nat) (buff : Str) :
    frame_base.EndStream ⟨type, if UInt32.ofNat n = 0 then HTTP2_FLAG_END_STREAM else 0, stream_id,
      buff, true⟩ ↔ 2 ^ 32 ∣ n := by
  rw [← size_eq_zero_iff, frame_base.EndStream]
  by_cases h : UInt32.ofNat n = 0
  · simp only [h, if_true, iff_true]
    decide
  · simp only [h, if_false, iff_false]
    decide

/-- What is left of a file is a multiple of 2^32 only when nothing is. -/
def EndsAtEnd (parts : List Str) : Prop :=
  ∀ sent left, parts = sent ++ left → sent ≠ [] → left ≠ [] → ¬ 2 ^ 32 ∣ left.flatten.length

theorem endsAtEnd_singleton (buff : Str) : EndsAtEnd [buff] := by
  intro sent left h hsent hleft
  cases sent with
  | nil => exact absurd rfl hsent
  | cons _ sent =>
    rw [List.cons_append, List.cons.injEq, List.nil_eq, List.append_eq_nil_iff] at h
    exact absurd h.2.2 hleft

theorem endsAtEnd_cons {buff : Str} {rest : List Str} (hrest : rest ≠ []) :
    EndsAtEnd (buff :: rest) ↔ ¬ 2 ^ 32 ∣ rest.flatten.length ∧ EndsAtEnd rest := by
  constructor
  · intro h
    refine ⟨h [buff] rest rfl (List.cons_ne_nil _ _) hrest, ?_⟩
    intro sent left hr _ hleft
    exact h (buff :: sent) left (congrArg _ hr) (List.cons_ne_nil _ _) hleft
  · rintro ⟨hfirst, h⟩ sent left hr hsent hleft
    cases sent with
    | nil => exact absurd rfl hsent
    | cons _ sent =>
      rw [List.cons_append, List.cons.injEq] at hr
      by_cases hs : sent = []
      · rw [hs, List.nil_append] at hr
        rw [← hr.2]
        exact hfirst
      · exact h sent left hr.2 hs hleft

/-- By induction over the parts: each frame ends the stream as what is left says. -/
theorem onlyLast_dataFrames (stream_id : Nat) {parts : List Str} (hparts : parts ≠ []) :
    OnlyLast frame_base.EndStream
        (dataFrames stream_id (UInt32.ofNat parts.flatten.length) parts) ↔ EndsAtEnd parts := by
  induction parts with
  | nil => exact absurd rfl hparts
  | cons buff rest ih =>
    rw [dataFrames_cons, List.flatten_cons, List.length_append, size_sub]
    cases rest with
    | nil =>
      have hlast := (endStream_iff .HTTP2_DATA stream_id 0 buff).2 (Nat.dvd_zero _)
      exact ⟨fun _ => endsAtEnd_singleton buff, fun _ => .last hlast⟩
    | cons next rest =>
      rw [onlyLast_cons (dataFrames_ne_nil _ _ _ _), endStream_iff, ih (List.cons_ne_nil _ _),
        endsAtEnd_cons (List.cons_ne_nil _ _)]

end Http2Client

open Http2Client

variable {ρ : Type*} {http : HttpRequestTypes ρ} {header : ResponseHeader} {hclient : Http2Client}
  {header_stream : IStream} {parts : List Str} {size : Nat}

/-- A file for a stream: the frame of its headers, then those of its parts. -/
theorem sendFile_http2 (h2 : hclient.is_http2 = some true)
    (hs : hclient.findStreamByType .HTTP2_HEADERS = some (some header_stream)) :
    sendFile http .HP_2_0 header parts size false true hclient =
      some (.frame ⟨.HTTP2_HEADERS, HTTP2_FLAG_END_HEADERS, header_stream.sid,
        http.http2_deflate_hd_bufs header, true⟩ ::
          data_frames header_stream.sid (UInt32.ofNat size) parts, true) := by
  simp only [sendFile, send_headers, send_file_by_fd, respond_http2 h2 hs, Option.bind_some,
    Bool.not_true, Bool.or_self, Bool.false_eq_true, if_false, if_true, Option.map_some,
    List.cons_append, List.nil_append]

/-- The headers do not end the stream. -/
theorem sendFile_ended (stream_id : Nat) (all_size : UInt32) (parts : List Str) (payload : Str) :
    OnlyLast frame_base.EndStream
        ((.frame ⟨.HTTP2_HEADERS, HTTP2_FLAG_END_HEADERS, stream_id, payload, true⟩ ::
          data_frames stream_id all_size parts).filterMap HttpWritten.frame?) ↔
      parts ≠ [] ∧ OnlyLast frame_base.EndStream (dataFrames stream_id all_size parts) := by
  have hheaders : ¬ frame_base.EndStream
      ⟨.HTTP2_HEADERS, HTTP2_FLAG_END_HEADERS, stream_id, payload, true⟩ :=
    not_not.2 (by decide : HTTP2_FLAG_END_HEADERS &&& HTTP2_FLAG_END_STREAM = 0)
  simp only [List.filterMap_cons, HttpWritten.frame?]
  cases parts with
  | nil => exact ⟨fun h => absurd (onlyLast_singleton.1 h) hheaders, fun h => absurd rfl h.1⟩
  | cons buff rest =>
    rw [← dataFrames, onlyLast_cons (dataFrames_ne_nil _ _ _ _)]
    exact ⟨fun h => ⟨List.cons_ne_nil _ _, h.2⟩, fun h => ⟨hheaders, h.2⟩⟩

/-- What does get its end: a file that is not empty and is read so that the rest is at no time a
multiple of 2^32. -/
theorem endsOnce_iff {w : List HttpWritten} {sent : Bool} (hsize : parts.flatten.length = size)
    (hparts : ∀ part ∈ parts, part ≠ []) (h2 : hclient.is_http2 = some true)
    (hs : hclient.findStreamByType .HTTP2_HEADERS = some (some header_stream))
    (h : sendFile http .HP_2_0 header parts size false true hclient = some (w, sent)) :
    EndsOnce parts w ↔ 0 < size ∧ EndsAtEnd parts := by
  rw [sendFile_http2 h2 hs] at h
  cases h
  have hempty : parts ≠ [] ↔ 0 < size := by
    rw [← hsize, List.length_pos_iff, ne_eq, ne_eq, List.flatten_eq_nil_iff, not_iff_not]
    constructor
    · rintro rfl part hpart
      cases hpart
    · intro hnil
      exact List.eq_nil_iff_forall_not_mem.2 fun part hpart =>
        absurd (hnil part hpart) (hparts part hpart)
  constructor
  · intro h
    obtain ⟨hne, honly⟩ := (sendFile_ended _ _ _ _).1 h.ended
    rw [← hsize] at honly
    exact ⟨hempty.1 hne, (onlyLast_dataFrames _ hne).1 honly⟩
  · rintro ⟨hpos, hends⟩
    have hne := hempty.2 hpos
    have honly := (onlyLast_dataFrames header_stream.sid hne).2 hends
    rw [hsize] at honly
    exact ⟨dataFrames_bytes _ _ _, (sendFile_ended _ _ _ _).2 ⟨hne, honly⟩⟩

/-- A client with a stream for a request. -/
def streamClient : Http2Client :=
  ⟨false, [some ⟨.HTTP2_SETTINGS, 0, true⟩, some ⟨.HTTP2_HEADERS, 3, false⟩], []⟩

def fileHeader (size : Nat) : ResponseHeader :=
  ⟨HS_OK, none, some "text/html".toList, some size, some 0, true⟩

theorem endsOnce_iff_abc :
    (0 < 3 ∧ EndsAtEnd ["ab".toList, "c".toList]) ∧
      ∃ w, sendFile .plain .HP_2_0 (fileHeader 3) ["ab".toList, "c".toList] 3 false true
          streamClient = some (w, true) ∧ EndsOnce ["ab".toList, "c".toList] w := by
  have hends : EndsAtEnd ["ab".toList, "c".toList] :=
    (endsAtEnd_cons (List.cons_ne_nil _ _)).2 ⟨by decide, endsAtEnd_singleton _⟩
  have hsend : sendFile .plain .HP_2_0 (fileHeader 3) ["ab".toList, "c".toList] 3 false true
      streamClient = some (_, true) :=
    sendFile_http2 rfl rfl
  exact ⟨⟨by decide, hends⟩, _, hsend,
    (endsOnce_iff (by decide) (by decide) rfl rfl hsend).2 ⟨by decide, hends⟩⟩

/-- A byte and 2^32 more: what is left behind the first part counts as nothing. -/
theorem large_ends {b c : Str} (hb : b.length = 2 ^ 31) (hc : c.length = 2 ^ 31) :
    [['a'], b, c].flatten.length = 2 ^ 32 + 1 ∧ (∀ part ∈ [['a'], b, c], part ≠ []) ∧
      ¬ EndsAtEnd [['a'], b, c] := by
  have hleft : [b, c].flatten.length = 2 ^ 32 := by
    rw [List.flatten_cons, List.flatten_cons, List.flatten_nil, List.append_nil,
      List.length_append, hb, hc]
    rfl
  have hne : ∀ {l : Str}, l.length = 2 ^ 31 → l ≠ [] := by
    rintro l hl rfl
    cases hl
  refine ⟨?_, ?_, ?_⟩
  · rw [List.flatten_cons, List.length_append, hleft]
    rfl
  · simp only [List.forall_mem_cons, List.not_mem_nil, false_implies, implies_true, and_true]
    exact ⟨List.cons_ne_nil _ _, hne hb, hne hc⟩
  · intro h
    exact h [['a']] [b, c] rfl (List.cons_ne_nil _ _) (List.cons_ne_nil _ _)
      (hleft ▸ Nat.dvd_refl _)

/-- An empty file gets no end, and a large one may get it with its first byte. -/
theorem not_endsOnce_empty_large :
    (∃ w, sendFile .plain .HP_2_0 (fileHeader 0) [] 0 false true streamClient = some (w, true) ∧
      ¬ EndsOnce [] w) ∧
    ∃ parts w, parts.flatten.length = 2 ^ 32 + 1 ∧ (∀ part ∈ parts, part ≠ []) ∧
      sendFile .plain .HP_2_0 (fileHeader (2 ^ 32 + 1)) parts (2 ^ 32 + 1) false true
        streamClient = some (w, true) ∧ ¬ EndsOnce parts w := by
  obtain ⟨hsize, hparts, hends⟩ := large_ends (List.length_replicate (n := 2 ^ 31) (a := 'b'))
    (List.length_replicate (n := 2 ^ 31) (a := 'c'))
  apply And.intro
  · refine ⟨_, sendFile_http2 rfl rfl, fun h => ?_⟩
    exact absurd rfl ((sendFile_ended _ _ _ _).1 h.ended).1
  · refine ⟨_, _, hsize, hparts, sendFile_http2 rfl rfl, fun h => ?_⟩
    obtain ⟨hne, honly⟩ := (sendFile_ended _ _ _ _).1 h.ended
    rw [← hsize, onlyLast_dataFrames _ hne] at honly
    exact hends honly

end SiteOnYourDevice
