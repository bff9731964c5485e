import SiteOnYourDevice.HttpResponseText
import SiteOnYourDevice.HeadersFrames

namespace SiteOnYourDevice
open CString
set_option relaxedAutoImplicit false
set_option autoImplicit true

namespace ResponseTexts

variable (texts : ResponseTexts)

theorem append_ne_close {a : Str} (h : ¬ a <+: CONNECTION_CLOSE) (b : Str) :
    CONNECTION_CLOSE ≠ a ++ b := by
  intro he
  exact h (he ▸ List.prefix_append a b)

/-- A block says that the connection is closed only with its last line. -/
theorem close_mem_iff {status : Nat} {extra_header mime_type : Option Str} {length : Option Int}
    {mod : Option Nat} {keep : Bool}
    (he : ∀ l ∈ extra_header, '\r' ∉ l ∧ "WWW-Authenticate: ".toList <+: l)
    (hm : ∀ l ∈ mime_type, '\r' ∉ l) :
    CONNECTION_CLOSE ∈
        headerLines (block (texts.lines status extra_header mime_type length mod keep)) ↔
      keep = false := by
  rw [headerLines_block (texts.lines_line (fun l hl => (he l hl).1) hm)]
  constructor
  · intro h
    simp only [lines, List.mem_append, List.mem_cons, List.not_mem_nil, or_false,
      Option.mem_toList, Option.map_eq_some_iff] at h
    rcases h with (((((h | h) | h) | h) | h) | h) | h | h
    · rcases h with h | h | h
      · exact absurd (h.trans (List.append_assoc _ _ _)) (append_ne_close (by decide +kernel) _)
      · exact absurd h (append_ne_close (by decide +kernel) _)
      · exact absurd h (append_ne_close (by decide +kernel) _)
    · obtain ⟨realm, hrealm⟩ := (he _ h).2
      exact absurd hrealm.symm (append_ne_close (by decide +kernel) _)
    · obtain ⟨mime, _, hmime⟩ := h
      exact absurd hmime.symm (append_ne_close (by decide +kernel) _)
    · obtain ⟨n, _, hn⟩ := h
      exact absurd hn.symm (append_ne_close (by decide +kernel) _)
    · obtain ⟨t, _, ht⟩ := h
      exact absurd ht.symm (append_ne_close (by decide +kernel) _)
    · cases keep with
      | true => exact absurd h (by decide +kernel)
      | false => rfl
    · cases h
    · cases h
  · rintro rfl
    exact List.mem_append_left _ (List.mem_append_right _ List.mem_cons_self)

/-- So does that of a page. -/
theorem close_mem_page {status : Nat} {extra_header text : Option Str} {keep : Bool}
    (he : ∀ l ∈ extra_header, '\r' ∉ l ∧ "WWW-Authenticate: ".toList <+: l) :
    ∃ block, texts.blockOf (.text status extra_header text keep) = some block ∧
      (CONNECTION_CLOSE ∈ headerLines block ↔ keep = false) := by
  refine ⟨_, rfl, texts.close_mem_iff he ?_⟩
  intro l hl
  cases hl
  decide

end ResponseTexts

/-- The response that was written in a step says that the connection is closed. -/
def SaysClose {ρ : Type*} (texts : ResponseTexts) (s s' : Connection ρ) : Prop :=
  ∃ block ∈ (s'.client.written.drop s.client.written.length).head?.bind texts.blockOf,
    CONNECTION_CLOSE ∈ headerLines block

/-- The connection is closed if and only if the response says so. -/
def PersistenceHonoured {ρ : Type*} (texts : ResponseTexts) (s s' : Connection ρ) : Prop :=
  s'.phase = .closed ↔ SaysClose texts s s'

section
variable {ρ : Type*} {http : HttpRequestTypes ρ} {texts : ResponseTexts} {c : Http2Client}
  {request : ρ} {out : Option (List HttpWritten × Bool)} {http2 : Bool} {s s' : Connection ρ}

/-- The first thing that a callback answers as text is a block with the wish of the request. -/
theorem CallbackAnswer.block (h : CallbackAnswer (http.withTexts texts) c request out)
    (hmime : ∀ path, '\r' ∉ http.GetMime path) (hc : c.is_http2 = some http2)
    (hp : (http.withTexts texts).protocol request ≠ .HP_2_0) :
    ∃ x rest, out = some (x :: rest, true) ∧ ∃ block, texts.blockOf x = some block ∧
      (CONNECTION_CLOSE ∈ headerLines block ↔ isKeepAlive http request = false) := by
  have hextra : ∀ l ∈ (none : Option Str), '\r' ∉ l ∧ "WWW-Authenticate: ".toList <+: l := by
    intro l hl
    cases hl
  cases h with
  | page status text =>
    rw [sent_send_error, Http2Client.respond_text hc hp]
    exact ⟨_, _, rfl, texts.close_mem_page hextra⟩
  | file file_path size mtime parts headersFail get =>
    obtain ⟨rest, hrest⟩ := sendFile_eq (Http2Client.respond_text hc hp)
      (Http2Client.respond_text hc hp)
    have hmime' : ∀ l ∈ some (http.GetMime file_path), '\r' ∉ l := by
      intro l hl
      cases hl
      exact hmime file_path
    exact ⟨_, _, hrest, _, rfl, texts.close_mem_iff hextra hmime'⟩

theorem CallbackAnswer.none_of_none (h : CallbackAnswer http c request out)
    (hc : c.is_http2 = none) : out = none := by
  cases h with
  | page status text => rw [sent_send_error, Http2Client.respond, hc, Option.bind_none,
      Option.map_none]
  | file file_path size mtime parts headersFail get =>
    rw [sendFile, Http2Client.send_headers, Http2Client.respond, hc, Option.bind_none,
      Option.bind_none]

end

namespace HttpServerHandler
variable {ρ : Type*} {http : HttpRequestTypes ρ} {texts : ResponseTexts} {request : ρ}
  {out : Option (List HttpWritten × Bool)} {s s' : Connection ρ} {notClose : Bool}

/-- Whether a request is addressed to the proxy. -/
def isProxy (http : HttpTypes ρ) (request : ρ) : Bool :=
  http.EqualsASCII ((http.findHeaderByKey request "Host".toList false).getD [])
    HTTP_PROXY_HOST_NAME false

theorem finish_phase (handlers : List Handler) (hclient : Option Http2Client) :
    (finish s request handlers notClose hclient).phase = .closed ↔
      (finish s request handlers notClose hclient).phase ≠ .aborted ∧ notClose = false := by
  cases hclient with
  | none =>
    constructor
    · intro h
      cases h
    · intro h
      exact absurd rfl h.1
  | some client => cases notClose <;> simp [finish]

/-- A request that does not end the process closes its connection as it was told to. -/
theorem handleRequest_phase (http : HttpTypes ρ) (h : HttpServerHandler ρ) (s : Connection ρ)
    (request : ρ) (notClose : Bool) :
    (h.handleRequest http s request notClose).phase = .closed ↔
      (h.handleRequest http s request notClose).phase ≠ .aborted ∧ notClose = false := by
  rw [handleRequest]
  split
  · exact finish_phase _ _
  · exact finish_phase _ _
  · exact finish_phase _ _

theorem saysClose_iff (ht : Took s s' out) :
    SaysClose texts s s' ↔ ∃ block ∈ ((out.map Prod.fst).getD []).head?.bind texts.blockOf,
      CONNECTION_CLOSE ∈ headerLines block := by
  rw [SaysClose, ht.written, List.drop_left]

variable (hphase : s'.phase = .closed ↔ s'.phase ≠ .aborted ∧ notClose = false)
include hphase

theorem honoured_of_none (ht : Took s s' none) : PersistenceHonoured texts s s' := by
  rw [PersistenceHonoured, hphase, saysClose_iff ht]
  constructor
  · intro h
    exact absurd (ht.aborted.2 rfl) h.1
  · rintro ⟨block, hblock, _⟩
    cases hblock

theorem honoured_silent_iff {handled : Bool} (ht : Took s s' (some ([], handled))) :
    PersistenceHonoured texts s s' ↔ notClose = true := by
  have hopen : s'.phase ≠ .aborted := fun h => by cases ht.aborted.1 h
  have hsaid : ¬ SaysClose texts s s' := by
    rw [saysClose_iff ht]
    rintro ⟨block, hblock, _⟩
    cases hblock
  rw [PersistenceHonoured, hphase, ← Bool.not_eq_false]
  constructor
  · intro h hclose
    exact hsaid (h.1 ⟨hopen, hclose⟩)
  · intro h
    exact ⟨fun h' => absurd h'.2 h, fun h' => absurd h' hsaid⟩

theorem honoured_block_iff {x : HttpWritten} {rest : List HttpWritten} {handled keep : Bool}
    {block : Str} (ht : Took s s' (some (x :: rest, handled)))
    (hx : texts.blockOf x = some block)
    (hblock : CONNECTION_CLOSE ∈ headerLines block ↔ keep = false) :
    PersistenceHonoured texts s s' ↔ (notClose = false ↔ keep = false) := by
  have hopen : s'.phase ≠ .aborted := fun h => by cases ht.aborted.1 h
  have hsaid : SaysClose texts s s' ↔ keep = false := by
    rw [saysClose_iff ht, ← hblock]
    simp only [Option.map_some, Option.getD_some, List.head?_cons, Option.bind_some, hx,
      Option.mem_some_iff, exists_eq_left']
  rw [PersistenceHonoured, hphase, hsaid]
  exact ⟨fun h => ⟨fun hn => h.1 ⟨hopen, hn⟩, fun hk => (h.2 hk).2⟩,
    fun h => ⟨fun hn => h.1 hn.2, fun hk => ⟨hopen, h.2 hk⟩⟩⟩

omit hphase

/-- A refusal is sent as text with its own header, and always offers to stay. -/
theorem honoured_refused_iff {sys : SystemCalls} {urls : Str → Option (Option HCTypes)}
    {authChecker_ : Option IHttpAuthObserver} (hl : passes http authChecker_ s request = false)
    (hs' : s' = (configured (http.withTexts texts) sys urls authChecker_).handleRequest
      (http.withTexts texts).toHttpTypes s request notClose) :
    PersistenceHonoured texts s s' ↔ (s.client.is_http2 ≠ none → notClose = true) := by
  have hphase := handleRequest_phase (http.withTexts texts).toHttpTypes
    (configured (http.withTexts texts) sys urls authChecker_) s request notClose
  obtain ⟨extra_header, ⟨hfield, hline⟩, ht⟩ := handleRequest_refused
    (http.withTexts texts).toHttpTypes (configured (http.withTexts texts) sys urls authChecker_)
    s request notClose hl
  rw [← hs'] at hphase ht
  rw [sent_send_error] at ht
  cases hc : s.client.is_http2 with
  | none =>
    rw [Http2Client.respond, hc] at ht
    exact ⟨fun _ h => absurd rfl h, fun _ => honoured_of_none hphase ht⟩
  | some http2 =>
    rw [Http2Client.respond_text hc (by decide)] at ht
    have hextra : ∀ l ∈ some extra_header, '\r' ∉ l ∧ "WWW-Authenticate: ".toList <+: l := by
      intro l hl
      cases hl
      exact ⟨hline, hfield⟩
    obtain ⟨block, hx, hblock⟩ := texts.close_mem_page hextra
    rw [honoured_block_iff hphase ht hx hblock, ← Bool.not_eq_false]
    exact ⟨fun h _ hn => Bool.noConfusion (h.1 hn),
      fun h => ⟨fun hn => absurd hn (h (Option.some_ne_none _)), fun hk => Bool.noConfusion hk⟩⟩

/-- A callback repeats the wish of the request, or says nothing. -/
theorem honoured_passed_iff {sys : SystemCalls} {urls : Str → Option (Option HCTypes)}
    {authChecker_ : Option IHttpAuthObserver} (hmime : ∀ path, '\r' ∉ http.GetMime path)
    (hp : http.protocol request ≠ .HP_2_0) (hl : passes http authChecker_ s request = true)
    (hs' : s' = (configured (http.withTexts texts) sys urls authChecker_).handleRequest
      (http.withTexts texts).toHttpTypes s request notClose) :
    PersistenceHonoured texts s s' ↔
      if isAnswered http urls request then
        s.client.is_http2 ≠ none → notClose = isKeepAlive http request
      else notClose = true := by
  have hphase := handleRequest_phase (http.withTexts texts).toHttpTypes
    (configured (http.withTexts texts) sys urls authChecker_) s request notClose
  obtain ⟨auth, ht⟩ := handleRequest_passed (http.withTexts texts) sys urls authChecker_ s request
    notClose hl
  obtain ⟨hanswer, hsilent⟩ := createHttpCallback_answer (http.withTexts texts) sys
    (callbackOf urls ((http.withTexts texts).path request)) s.log.length
    (s.client.setIsAuthenticated auth) request
  rw [← hs'] at hphase ht
  cases ha : isAnswered http urls request with
  | false =>
    have hout := hsilent ha
    rw [hout] at ht
    rw [if_neg Bool.false_ne_true]
    exact honoured_silent_iff hphase ht
  | true =>
    have hcall := hanswer ha
    rw [if_pos rfl]
    cases hc : s.client.is_http2 with
    | none =>
      rw [hcall.none_of_none hc] at ht
      exact ⟨fun _ h => absurd rfl h, fun _ => honoured_of_none hphase ht⟩
    | some http2 =>
      obtain ⟨x, rest, hout, block, hx, hblock⟩ := hcall.block hmime hc hp
      rw [hout] at ht
      rw [honoured_block_iff hphase ht hx hblock]
      cases notClose <;> cases isKeepAlive http request <;> simp

/-- What a connection is told of itself: a page or a file tells the truth unless the proxy's own
name keeps a connection that did not ask for it, a refusal always offers to stay, and a callback
without a word should leave the connection open. -/
theorem persistence_iff (sys : SystemCalls) (urls : Str → Option (Option HCTypes))
    (authChecker_ : Option IHttpAuthObserver) {text : Str}
    (hmime : ∀ path, '\r' ∉ http.GetMime path)
    (hparse : http.parse_http_request text = .ok request)
    (hp : http.protocol request ≠ .HP_2_0) :
    PersistenceHonoured texts s ((configured (http.withTexts texts) sys urls
        authChecker_).processReceived_http1 (http.withTexts texts).toHttpTypes s text) ↔
      if passes http authChecker_ s request then
        if isAnswered http urls request then
          s.client.is_http2 ≠ none → isProxy http.toHttpTypes request = true →
            isKeepAlive http request = true
        else (isKeepAlive http request || isProxy http.toHttpTypes request) = true
      else
        s.client.is_http2 ≠ none →
          (isKeepAlive http request || isProxy http.toHttpTypes request) = true := by
  have hs' : (configured (http.withTexts texts) sys urls authChecker_).processReceived_http1
      (http.withTexts texts).toHttpTypes s text =
      (configured (http.withTexts texts) sys urls authChecker_).handleRequest
        (http.withTexts texts).toHttpTypes s request
        (isKeepAlive http request || isProxy http.toHttpTypes request) := by
    have hparse' : (http.withTexts texts).parse_http_request text = .ok request := hparse
    rw [processReceived_http1, hparse']
    rfl
  cases hl : passes http authChecker_ s request with
  | false =>
    rw [if_neg Bool.false_ne_true]
    exact honoured_refused_iff hl hs'
  | true =>
    rw [if_pos rfl, honoured_passed_iff hmime hp hl hs']
    split
    · cases isKeepAlive http request <;> cases isProxy http.toHttpTypes request <;> simp
    · rfl

/-- A file behind every name. -/
def oneFile : SystemCalls := ⟨fun _ _ => .file 2 0 ["ab".toList] false, fun _ => none⟩

/-- The read of a request with some more lines, on a new connection. -/
def readRequest (authChecker_ : Option IHttpAuthObserver) (fields : String) :
    Connection (List Str) :=
  (configured (HttpRequestTypes.plain.withTexts .sample) oneFile (fun _ => none)
    authChecker_).processReceived_http1 (HttpRequestTypes.plain.withTexts .sample).toHttpTypes
    (.new false) ("GET / HTTP/1.1\r\n" ++ fields ++ "\r\n").toList

/-- A request to the proxy that asks to keep the connection. -/
def keptRequest : List Str :=
  ["GET / HTTP/1.1".toList, "Host: proxy.siteonyourdevice.com".toList,
    "Connection: Keep-Alive".toList, [], []]

theorem persistence_iff_keepAlive :
    PersistenceHonoured .sample (.new false)
      (readRequest none "Host: proxy.siteonyourdevice.com\r\nConnection: Keep-Alive\r\n") := by
  have hmime : ∀ path, '\r' ∉ HttpRequestTypes.plain.GetMime path := by
    intro path
    change '\r' ∉ "text/html".toList
    decide
  have hparse : HttpRequestTypes.plain.parse_http_request ("GET / HTTP/1.1\r\n" ++
      "Host: proxy.siteonyourdevice.com\r\nConnection: Keep-Alive\r\n" ++ "\r\n").toList =
        .ok keptRequest :=
    congrArg Except.ok (by decide +kernel)
  have hprotocol : HttpRequestTypes.plain.protocol keptRequest ≠ .HP_2_0 := by decide +kernel
  have hpasses : passes .plain none (Connection.new false) keptRequest = true := rfl
  have hanswered : isAnswered .plain (fun _ => none) keptRequest = true := by decide +kernel
  have hkeep : isKeepAlive .plain keptRequest = true := by decide +kernel
  refine (persistence_iff oneFile (fun _ => none) none hmime hparse hprotocol).2 ?_
  rw [if_pos hpasses, if_pos hanswered]
  exact fun _ _ => hkeep

/-- With the proxy's own name a connection is told that it is closed and stays open; a refused
request is offered to stay and its connection is closed. -/
theorem not_persistenceHonoured :
    ¬ PersistenceHonoured .sample (.new false)
        (readRequest none "Host: proxy.siteonyourdevice.com\r\n") ∧
      ¬ PersistenceHonoured .sample (.new false)
        (readRequest (some fun _ _ _ => false) "Host: d\r\n") := by
  constructor
  · have hopen : (readRequest none "Host: proxy.siteonyourdevice.com\r\n").phase = .opened := by
      decide +kernel
    have hsaid : SaysClose .sample (.new false)
        (readRequest none "Host: proxy.siteonyourdevice.com\r\n") := by
      rw [SaysClose]
      decide +kernel
    intro h
    exact Phase.noConfusion (hopen.symm.trans (h.2 hsaid))
  · have hclosed : (readRequest (some fun _ _ _ => false) "Host: d\r\n").phase = .closed := by
      decide +kernel
    have hsaid : ¬ SaysClose .sample (.new false)
        (readRequest (some fun _ _ _ => false) "Host: d\r\n") := by
      rw [SaysClose]
      decide +kernel
    exact fun h => hsaid (h.1 hclosed)

end HttpServerHandler

end SiteOnYourDevice
