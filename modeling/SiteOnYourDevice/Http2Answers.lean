import SiteOnYourDevice.HeadersFrames

namespace SiteOnYourDevice
open CString Transition
set_option relaxedAutoImplicit false
set_option autoImplicit true

namespace Http2Client

/-- The first stream of a class, when no null stream is before it. -/
def FirstOfType (c : Http2Client) (type : frame_t) (s : IStream) : Prop :=
  ∃ pre suf, c.streams_ = pre ++ some s :: suf ∧
    (∀ x ∈ pre, ∃ s', x = some s' ∧ s'.type ≠ type) ∧ s.type = type

theorem find_eq_some_iff {p : IStream → Bool} {streams : List (Option IStream)} {s : IStream} :
    IStream.find p streams = some (some s) ↔ ∃ pre suf, streams = pre ++ some s :: suf ∧
      (∀ x ∈ pre, ∃ s', x = some s' ∧ p s' = false) ∧ p s = true := by
  induction streams with
  | nil =>
    constructor
    · intro h
      cases h
    · rintro ⟨pre, suf, h, _⟩
      cases pre <;> cases h
  | cons d streams ih =>
    cases d with
    | none =>
      constructor
      · intro h
        cases h
      · rintro ⟨pre, suf, h, hpre, _⟩
        cases pre with
        | nil => cases h
        | cons x pre =>
          cases h
          obtain ⟨s', hs', _⟩ := hpre none List.mem_cons_self
          cases hs'
    | some d =>
      rw [IStream.find]
      constructor
      · intro h
        split at h
        · rename_i hp
          cases h
          refine ⟨[], streams, rfl, ?_, hp⟩
          intro x hx
          cases hx
        · rename_i hp
          obtain ⟨pre, suf, hsplit, hpre, hs⟩ := ih.1 h
          refine ⟨some d :: pre, suf, by rw [hsplit]; rfl, ?_, hs⟩
          intro x hx
          rcases List.mem_cons.1 hx with rfl | hx
          · exact ⟨d, rfl, Bool.not_eq_true _ ▸ hp⟩
          · exact hpre x hx
      · rintro ⟨pre, suf, h, hpre, hs⟩
        cases pre with
        | nil =>
          cases h
          rw [if_pos hs]
        | cons x pre =>
          cases h
          obtain ⟨s', hs', hp⟩ := hpre (some d) List.mem_cons_self
          cases hs'
          rw [hp, if_neg Bool.false_ne_true]
          exact ih.2 ⟨pre, suf, rfl, fun x hx => hpre x (List.mem_cons_of_mem _ hx), hs⟩

theorem firstOfType_iff {c : Http2Client} {type : frame_t} {s : IStream} :
    c.FirstOfType type s ↔ c.findStreamByType type = some (some s) := by
  rw [findStreamByType, find_eq_some_iff, FirstOfType]
  simp only [decide_eq_false_iff_not, decide_eq_true_eq, ne_eq]

end Http2Client

namespace Http2Answers
open HttpServerHandler ServedClient

variable {ρ : Type*} (net : NetTypes) (http : HttpRequestTypes ρ) (sys : SystemCalls)
  (urls : Str → Option (Option HCTypes)) (authChecker_ : Option IHttpAuthObserver)

/-- The frames that are written for the request of a `HEADERS` frame are of its stream. -/
def OnItsStream (s : ServedClient ρ) (e : ServeEvent) (s' : ServedClient ρ) : Prop :=
  e = .head → ∀ head ∈ s.headers_frames.head?, ∀ request,
    http.parse_http2_request head = .ok request →
      ∀ x ∈ emitted s s', ∀ stream_id ∈ x.stream_id?, stream_id = head.stream_id

/-- A request that is answered in frames. -/
structure InFrames (c : Connection ρ) (request : ρ) : Prop extends
    ForHttp2 http urls authChecker_ c request where
  http2 : c.client.is_http2 = some true

/-- A request that is answered in frames is on the first of the `HEADERS` streams. -/
def OnFirstStream (s : ServedClient ρ) (e : ServeEvent) : Prop :=
  e = .head → ∀ c, s.client.connection = some c → ∀ head ∈ s.headers_frames.head?, ∀ request,
    http.parse_http2_request head = .ok request → InFrames http urls authChecker_ c request →
      ∀ first, c.client.FirstOfType .HTTP2_HEADERS first → first.sid = head.stream_id

variable {net http sys urls authChecker_} {s s' : ServedClient ρ} {e : ServeEvent}

/-- What is written in frames for a request is of the first `HEADERS` stream. -/
theorem handled_frames {c : Connection ρ} {request : ρ}
    {out : Option (List HttpWritten × Bool)} (hh : Handled http urls authChecker_ c request out)
    {x : HttpWritten} {stream_id : Nat} (hx : x ∈ (out.map Prod.fst).getD [])
    (hid : x.stream_id? = some stream_id) :
    InFrames http urls authChecker_ c request ∧
      ∃ first, c.client.findStreamByType .HTTP2_HEADERS = some (some first) ∧
        first.sid = stream_id := by
  cases out with
  | none => cases hx
  | some p =>
    obtain ⟨w, handled⟩ := p
    rw [Option.map_some, Option.getD_some] at hx
    have htext : ∀ protocol, Answer http c.client protocol (some (w, handled)) →
        protocol = .HP_2_0 := by
      intro protocol ha
      by_contra hne
      have hnone := (ha.responds rfl).2.text hne x hx
      rw [hid] at hnone
      cases hnone
    cases hp : passes http authChecker_ c request with
    | false => cases htext _ (hh.refused hp)
    | true =>
      cases ha : isAnswered http urls request with
      | false =>
        cases hh.silent hp ha
        cases hx
      | true =>
        have hanswer := hh.answered hp ha
        have hproto := htext _ hanswer
        obtain ⟨hhttp2, first, hf, hsid⟩ := (hanswer.responds rfl).2.frames hproto x hx
        rw [hid] at hsid
        exact ⟨⟨⟨hp, ha, hproto⟩, hhttp2⟩, first, hf, (Option.some.inj hsid).symm⟩

theorem onItsStream_iff
    (hs : step net http.toHttpTypes (configured http sys urls authChecker_) s e = some s') :
    OnItsStream http s e s' ↔ OnFirstStream http urls authChecker_ s e := by
  constructor
  · intro h he c hc head hhead request hr hin first hfirst
    subst he
    obtain ⟨c', head', frames, out, hc', hf, hemit, _, _, hok⟩ := head_spec hs
    rw [hc] at hc'
    cases hc'
    rw [hf] at hhead
    cases hhead
    have hanswer := (hok request hr).answered hin.passes hin.answered
    rw [hin.protocol] at hanswer
    obtain ⟨w, hw, x, hx, hid⟩ := hanswer.frames hin.http2 (Http2Client.firstOfType_iff.1 hfirst)
    rw [hw] at hemit
    apply h rfl head (by rw [hf]; rfl) request hr x _ first.sid hid
    rw [hemit]
    exact hx
  · intro h he head hhead request hr x hx stream_id hid
    subst he
    obtain ⟨c, head', frames, out, hc, hf, hemit, _, _, hok⟩ := head_spec hs
    rw [hemit] at hx
    obtain ⟨hin, first, hfirst, hsid⟩ := handled_frames (hok request
      (by rw [hf] at hhead; cases hhead; exact hr)) hx hid
    rw [← hsid]
    exact h rfl c hc head hhead request hr hin first (Http2Client.firstOfType_iff.2 hfirst)

/-- Along a run the frames of every answer are of the stream that asked exactly when every request
that is answered in frames is on the first `HEADERS` stream of its connection. -/
theorem along_onItsStream_iff (net : NetTypes) (http : HttpRequestTypes ρ) (sys : SystemCalls)
    (urls : Str → Option (Option HCTypes)) (authChecker_ : Option IHttpAuthObserver)
    (start : ServedClient ρ) (es : List ServeEvent) :
    Along (step net http.toHttpTypes (configured http sys urls authChecker_))
        (OnItsStream http) start es ↔
      Along (step net http.toHttpTypes (configured http sys urls authChecker_))
        (fun s e _ => OnFirstStream http urls authChecker_ s e) start es :=
  along_congr fun _ _ _ hs => onItsStream_iff hs

/-- A frame of a short payload, with the bytes of its header. -/
def frameText (type stream_id : Nat) (payload : Str) : Str :=
  [0, 0, payload.length, type, 0, 0, 0, 0, stream_id].map Char.ofNat ++ payload

/-- `GET /` in fields of the static table. -/
def getRoot : Str := [Char.ofNat 0x82, Char.ofNat 0x84]

def preface : Str := "PRI * HTTP/2.0\r\n\r\nSM\r\n\r\n".toList

/-- A device with one page. -/
def onePage : SystemCalls where
  file _ path :=
    if path = "index.html".toList then .file 5 0 ["hello".toList] false else .missing
  Shutdown _ := none

def noUrls : Str → Option (Option HCTypes) := fun _ => none

/-- A device on which every user logs in with `u` and `p`. -/
def onlyUser : IHttpAuthObserver := fun _ user password => user = ['u'] && password = ['p']

/-- A step of a device with one page. -/
def serve (authChecker_ : Option IHttpAuthObserver) :
    ServedClient (List Str) → ServeEvent → Option (ServedClient (List Str)) :=
  step .plain HttpRequestTypes.plain.toHttpTypes (configured .plain onePage noUrls authChecker_)

def newConnection (isAuth : Bool) : ServedClient (List Str) :=
  ⟨.Http2Client (Connection.new isAuth), []⟩

/-- A request on the stream 1 of a new connection, before it is handled. -/
def firstRequest : List ServeEvent :=
  [.data (preface ++ frameText 4 0 [] ++ frameText 1 1 getRoot) ⟨none, 0, none⟩]

/-- A second request, on the stream 3. -/
def secondRequest : List ServeEvent :=
  firstRequest ++ [.head, .data (frameText 1 3 getRoot) ⟨none, 0, none⟩]

theorem not_along_onItsStream_secondRequest :
    ¬ Along (serve none) (OnItsStream .plain) (newConnection true) (secondRequest ++ [.head]) := by
  intro h
  have hrun : ((run (serve none) (newConnection true) secondRequest).bind fun s =>
      (serve none s .head).map fun s' =>
        (s.headers_frames, (emitted s s').map HttpWritten.stream_id?)) =
      some ([⟨.HTTP2_HEADERS, 0, 3, getRoot, true⟩], [some 1, some 1]) := by decide
  obtain ⟨s, s', hs, hs', heq⟩ := exists_step hrun
  obtain ⟨hframes, hids⟩ := Prod.mk.inj heq
  have hmem : some 1 ∈ (emitted s s').map HttpWritten.stream_id? := by
    rw [hids]
    exact List.mem_cons_self
  obtain ⟨x, hx, hid⟩ := List.mem_map.1 hmem
  have hone := h.at_step hs hs' rfl ⟨.HTTP2_HEADERS, 0, 3, getRoot, true⟩ (by rw [hframes]; rfl)
    _ rfl x hx 1 hid
  cases hone

theorem answer_framed {c : Http2Client} {out : Option (List HttpWritten × Bool)}
    (ha : Answer http c .HP_2_0 out) :
    ∀ x ∈ (out.map Prod.fst).getD [], x.stream_id?.isSome = true := by
  intro x hx
  cases out with
  | none => cases hx
  | some p =>
    obtain ⟨_, first, _, hid⟩ := (ha.responds rfl).2.frames rfl x hx
    rw [hid]
    rfl

/-- On a connection with a stream 0 everything written for a `HEADERS` frame is frames exactly when
the gate lets its request through. The library makes a request of a `HEADERS` frame one of
HTTP/2. -/
theorem framed_iff
    (hlib : ∀ head request, http.parse_http2_request head = .ok request →
      http.protocol request = .HP_2_0)
    (hs : step net http.toHttpTypes (configured http sys urls authChecker_) s .head = some s')
    (h2 : s.client.hclient.is_http2 = some true) :
    (∀ x ∈ emitted s s', x.stream_id?.isSome = true) ↔
      ∀ c, s.client.connection = some c → ∀ head ∈ s.headers_frames.head?, ∀ request,
        http.parse_http2_request head = .ok request →
          passes http authChecker_ c request = true := by
  obtain ⟨c, head, frames, out, hc, hf, hemit, _, herror, hok⟩ := head_spec hs
  rw [IoClient.hclient_eq hc] at h2
  rw [hemit]
  constructor
  · intro h c' hc' head' hhead request hr
    rw [hc] at hc'
    cases hc'
    rw [hf] at hhead
    cases hhead
    by_contra hrefused
    rw [Bool.not_eq_true] at hrefused
    have hanswer := (hok request hr).refused hrefused
    obtain ⟨w, rfl, x, hx, hid⟩ := hanswer.text h2 http_protocols.noConfusion
    have hsome := h x hx
    rw [hid] at hsome
    cases hsome
  · intro h
    cases hr : http.parse_http2_request head with
    | error error => exact answer_framed (herror error hr)
    | ok request =>
      have hp := h c hc head (by rw [hf]; rfl) request hr
      have hh := hok request hr
      cases ha : isAnswered http urls request with
      | true =>
        have hanswer := hh.answered hp ha
        rw [hlib head request hr] at hanswer
        exact answer_framed hanswer
      | false =>
        rw [hh.silent hp ha]
        intro x hx
        cases hx

/-- The request of a new connection is answered with text when the site is private. -/
theorem firstRequest_text :
    ∃ s s', run (serve (some onlyUser)) (newConnection false) firstRequest = some s ∧
      serve (some onlyUser) s .head = some s' ∧ s.client.hclient.is_http2 = some true ∧
      ¬ ∀ x ∈ emitted s s', x.stream_id?.isSome = true := by
  have hrun : ((run (serve (some onlyUser)) (newConnection false) firstRequest).bind fun s =>
      (serve (some onlyUser) s .head).map fun s' =>
        (s.client.hclient.is_http2, (emitted s s').map HttpWritten.stream_id?)) =
      some (some true, [none]) := by decide
  obtain ⟨s, s', hs, hs', heq⟩ := exists_step hrun
  obtain ⟨h2, hids⟩ := Prod.mk.inj heq
  refine ⟨s, s', hs, hs', h2, ?_⟩
  intro h
  have hmem : none ∈ (emitted s s').map HttpWritten.stream_id? := by
    rw [hids]
    exact List.mem_cons_self
  obtain ⟨x, hx, hid⟩ := List.mem_map.1 hmem
  have hsome := h x hx
  rw [hid] at hsome
  cases hsome

theorem framed_iff_firstRequest :
    ∃ s s', run (serve none) (newConnection true) firstRequest = some s ∧
      serve none s .head = some s' ∧
      ((∀ x ∈ emitted s s', x.stream_id?.isSome = true) ↔
        ∀ c, s.client.connection = some c → ∀ head ∈ s.headers_frames.head?, ∀ request,
          HttpRequestTypes.plain.parse_http2_request head = .ok request →
            passes .plain none c request = true) := by
  have hrun : ((run (serve none) (newConnection true) firstRequest).bind fun s =>
      (serve none s .head).map fun _ => s.client.hclient.is_http2) = some (some true) := by decide
  obtain ⟨s, s', hs, hs', h2⟩ := exists_step hrun
  refine ⟨s, s', hs, hs', framed_iff ?_ hs' h2⟩
  intro head request
  exact HttpRequestTypes.plain_protocol

end Http2Answers

end SiteOnYourDevice
