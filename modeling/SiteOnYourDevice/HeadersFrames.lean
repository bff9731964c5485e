import SiteOnYourDevice.HttpCallbacks
import SiteOnYourDevice.AuthenticationGate

namespace SiteOnYourDevice
open CString Transition
set_option relaxedAutoImplicit false
set_option autoImplicit true

namespace HttpServerHandler
variable {ρ : Type*} (http : HttpTypes ρ) (h : HttpServerHandler ρ)

/-- The body of the loop of `handleHttp2Request`. -/
def handleHead (s : Connection ρ) (head : frame_base) : Connection ρ :=
  match http.parse_http2_request head with
  | .error error => refuse s .HP_2_0 error
  | .ok request => h.handleRequest http s request true

/-- The frames of a buffer of HTTP/2. -/
def framesOf (buff : Str) : Option (List frame_base) :=
  if http.is_preface_data buff then some (http.parse_frames (buff.drop http.PREFACE_STARTS_LEN))
  else if http.is_frame_header_data buff then some (http.parse_frames buff)
  else none

/-- `handleHttp2Request` up to its loop, with the frames that are left to it. -/
def readFrames (s : Connection ρ) (frames : List frame_base) : Connection ρ × List frame_base :=
  match s.client.processFrames frames with
  | none => ({ s with phase := .aborted }, [])
  | some client => ({ s with client }, headers_frames frames)

/-- A read up to the loop of `handleHttp2Request`. -/
def readData (s : Connection ρ) (buff : Str) : Connection ρ × List frame_base :=
  if buff = [] then ({ s with phase := .closed }, [])
  else
    match framesOf http buff with
    | some frames => readFrames s frames
    | none => (h.processReceived_http1 http s buff, [])

end HttpServerHandler

namespace IoClient
variable {ρ : Type*}

/-- The connection of a class that answers requests by itself. -/
def connection : IoClient ρ → Option (Connection ρ)
  | .Http2Client s => some s
  | .RelayClient s => some s
  | .RelayClientEx _ => none

def withConnection (s : Connection ρ) : IoClient ρ → IoClient ρ
  | .Http2Client _ => .Http2Client s
  | .RelayClient _ => .RelayClient s
  | .RelayClientEx r => .RelayClientEx r

variable {client : IoClient ρ} {s s' : Connection ρ}

theorem withConnection_self (h : client.connection = some s) : client.withConnection s = client := by
  cases client <;> cases h <;> rfl

theorem withConnection_twice : (client.withConnection s).withConnection s' =
    client.withConnection s' := by
  cases client <;> rfl

theorem connection_withConnection (h : client.connection = some s) (s' : Connection ρ) :
    (client.withConnection s').connection = some s' := by
  cases client with
  | RelayClientEx r => cases h
  | RelayClient s => rfl
  | Http2Client s => rfl

theorem hclient_eq (h : client.connection = some s) : client.hclient = s.client := by
  cases client <;> cases h <;> rfl

theorem phase_eq (h : client.connection = some s) :
    Http2ClientServerHandler.phase client = s.phase := by
  cases client <;> cases h <;> rfl

end IoClient

/-- A connection with the `HEADERS` frames of the last buffer that are still to be handled. -/
structure ServedClient (ρ : Type*) where
  client : IoClient ρ
  headers_frames : List frame_base

/-- A read, the next turn of the loop over the `HEADERS` frames, and a read of the proxy. -/
inductive ServeEvent
  | data (buff : Str) (ext : ExternalOutcome)
  | head
  | proxyData (buff : Str) (accepted : Nat)

namespace ServedClient
open Http2ClientServerHandler HttpServerHandler
variable {ρ : Type*} (net : NetTypes) (http : HttpTypes ρ) (h : HttpServerHandler ρ)

def step (s : ServedClient ρ) : ServeEvent → Option (ServedClient ρ)
  | .data buff ext =>
    if phase s.client = .opened ∧ s.headers_frames = [] ∧ buff.length ≤ BUF_SIZE then
      match s.client.connection with
      | some c =>
        some ⟨s.client.withConnection (h.readData http c buff).1, (h.readData http c buff).2⟩
      | none => some ⟨Http2ClientServerHandler.DataReceived net http h s.client buff ext, []⟩
    else none
  | .head =>
    match s.client.connection, s.headers_frames with
    | some c, head :: frames =>
      if c.phase = .opened then
        let c' := h.handleHead http c head
        some ⟨s.client.withConnection c', if c'.phase = .opened then frames else []⟩
      else none
    | _, _ => none
  | .proxyData buff accepted =>
    (Http2ClientServerHandler.step net http h s.client (.proxyData buff accepted)).map
      fun client => { s with client }

/-- What a step writes to the connection. -/
def emitted (s s' : ServedClient ρ) : List HttpWritten :=
  s'.client.hclient.written.drop s.client.hclient.written.length

variable {net http h} {s : Connection ρ}

theorem handleHeaders_cons (head : frame_base) (frames : List frame_base) :
    h.handleHeaders http s (head :: frames) =
      if (h.handleHead http s head).phase = .opened then
        h.handleHeaders http (h.handleHead http s head) frames
      else h.handleHead http s head := by
  rw [handleHeaders, handleHead]
  cases http.parse_http2_request head with
  | error error => rw [if_neg (AuthenticationGate.refuse_spec s .HP_2_0 error).2.2]
  | ok request => rfl

theorem handleHttp2Request_eq (ho : s.phase = .opened) (request : Str) :
    h.handleHttp2Request http s request =
      if (readFrames s (http.parse_frames request)).1.phase = .opened then
        h.handleHeaders http (readFrames s (http.parse_frames request)).1
          (readFrames s (http.parse_frames request)).2
      else (readFrames s (http.parse_frames request)).1 := by
  rw [handleHttp2Request, readFrames]
  cases s.client.processFrames (http.parse_frames request) with
  | none => simp only [reduceCtorEq, if_false]
  | some client => simp only [ho, if_true]

/-- What follows a read is the loop over the frames it left. -/
theorem DataReceived_eq (ho : s.phase = .opened) (buff : Str) :
    h.DataReceived http s buff =
      if (h.readData http s buff).1.phase = .opened then
        h.handleHeaders http (h.readData http s buff).1 (h.readData http s buff).2
      else (h.readData http s buff).1 := by
  rw [HttpServerHandler.DataReceived, readData, processReceived, framesOf]
  by_cases hb : buff = []
  · simp only [if_pos hb, reduceCtorEq, if_false]
  simp only [if_neg hb]
  split
  · exact handleHttp2Request_eq ho _
  split
  · exact handleHttp2Request_eq ho _
  · simp only [handleHeaders, ite_self]

theorem readData_pending (ho : s.phase = .opened) (buff : Str)
    (he : (h.readData http s buff).1.phase ≠ .opened) : (h.readData http s buff).2 = [] := by
  rw [readData] at he ⊢
  split
  · rfl
  · rename_i hb
    rw [if_neg hb] at he
    cases hf : framesOf http buff with
    | none => rfl
    | some frames =>
      simp only [hf, readFrames] at he ⊢
      cases hp : s.client.processFrames frames with
      | none => rfl
      | some client =>
        rw [hp] at he
        exact absurd ho he

/-- The loop over the `HEADERS` frames of a buffer, turn after turn. -/
theorem run_heads (net : NetTypes) {client : IoClient ρ} (frames : List frame_base)
    (hc : client.connection = some s)
    (ho : s.phase = .opened) :
    ∃ k, run (step net http h) ⟨client, frames⟩ (List.replicate k .head) =
      some ⟨client.withConnection (h.handleHeaders http s frames), []⟩ := by
  induction frames generalizing client s with
  | nil =>
    refine ⟨0, ?_⟩
    rw [handleHeaders, IoClient.withConnection_self hc]
    rfl
  | cons head frames ih =>
    rw [handleHeaders_cons]
    have hstep : step net http h ⟨client, head :: frames⟩ .head =
        some ⟨client.withConnection (h.handleHead http s head),
          if (h.handleHead http s head).phase = .opened then frames else []⟩ := by
      simp only [step, hc, if_pos ho]
    by_cases ho' : (h.handleHead http s head).phase = .opened
    · obtain ⟨k, hk⟩ := ih (IoClient.connection_withConnection hc (h.handleHead http s head)) ho'
      rw [if_pos ho'] at hstep
      refine ⟨k + 1, ?_⟩
      rw [List.replicate_succ, run_cons hstep, hk, IoClient.withConnection_twice, if_pos ho']
    · rw [if_neg ho'] at hstep
      exact ⟨1, by rw [List.replicate_one, run_cons hstep, if_neg ho']; rfl⟩

/-- A read and the turns of the loop that follow it are a read of `Http2ClientServerHandler`. -/
theorem run_data {client client' : IoClient ρ} {buff : Str} {ext : ExternalOutcome}
    (hs : Http2ClientServerHandler.step net http h client (.data buff ext) = some client') :
    ∃ k, run (step net http h) ⟨client, []⟩ (.data buff ext :: List.replicate k .head) =
      some ⟨client', []⟩ := by
  simp only [Http2ClientServerHandler.step] at hs
  split at hs
  · rename_i hg
    cases hs
    cases hc : client.connection with
    | none =>
      refine ⟨0, ?_⟩
      rw [List.replicate_zero, run]
      simp only [step, hc, hg.1, hg.2, and_self, if_true, Option.bind_some, run]
    | some c =>
      have ho : c.phase = .opened := (IoClient.phase_eq hc).symm.trans hg.1
      have hstep : step net http h ⟨client, []⟩ (.data buff ext) =
          some ⟨client.withConnection (h.readData http c buff).1, (h.readData http c buff).2⟩ := by
        simp only [step, hc, hg.1, hg.2, and_self, if_true]
      have hdata : Http2ClientServerHandler.DataReceived net http h client buff ext =
          client.withConnection (h.DataReceived http c buff) := by
        cases client <;> cases hc <;> rfl
      rw [hdata, DataReceived_eq ho]
      by_cases ho' : (h.readData http c buff).1.phase = .opened
      · obtain ⟨k, hk⟩ := run_heads net (h.readData http c buff).2
          (IoClient.connection_withConnection hc _) ho'
        refine ⟨k, ?_⟩
        rw [run_cons hstep, hk, IoClient.withConnection_twice, if_pos ho']
      · have hpending := readData_pending ho buff ho'
        refine ⟨0, ?_⟩
        rw [run_cons hstep, hpending, if_neg ho']
        rfl
  · cases hs

end ServedClient

namespace HttpServerHandler
open Http2ClientServerHandler

/-- What came of a request: what was written, or the end of the process. -/
structure Took {ρ : Type*} (s s' : Connection ρ) (out : Option (List HttpWritten × Bool)) :
    Prop where
  written : s'.client.written = s.client.written ++ (out.map Prod.fst).getD []
  aborted : s'.phase = .aborted ↔ out = none

variable {ρ : Type*} (http : HttpRequestTypes ρ) (urls : Str → Option (Option HCTypes))
  (authChecker_ : Option IHttpAuthObserver)

/-- A request gets past `tryAuthenticateIfNeeded`. -/
def passes (s : Connection ρ) (request : ρ) : Bool :=
  letsThrough http.toHttpTypes authChecker_ s.log.length s.client request

/-- The callback of a request does not take it without a word. -/
def isAnswered (request : ρ) : Bool :=
  answers http (callbackOf urls (http.path request)) request

/-- How a request is handled: the gate refuses it as HTTP/1, or its callback answers it in its own
protocol or says nothing. -/
structure Handled (s : Connection ρ) (request : ρ) (out : Option (List HttpWritten × Bool)) :
    Prop where
  refused : passes http authChecker_ s request = false → Answer http s.client .HP_1_1 out
  answered : passes http authChecker_ s request = true → isAnswered http urls request = true →
    Answer http s.client (http.protocol request) out
  silent : passes http authChecker_ s request = true → isAnswered http urls request = false →
    out = some ([], true)

/-- A request that is answered for HTTP/2: the gate lets it through, and its callback answers. -/
structure ForHttp2 (s : Connection ρ) (request : ρ) : Prop where
  passes : passes http authChecker_ s request = true
  answered : isAnswered http urls request = true
  protocol : http.protocol request = .HP_2_0

variable {http urls authChecker_} {s : Connection ρ} {request : ρ}
  {out : Option (List HttpWritten × Bool)}

/-- Without a stream 0 exactly the answers for HTTP/2 fail a `CHECK`. -/
theorem Handled.none_iff (hh : Handled http urls authChecker_ s request out)
    (h : s.client.is_http2 = some false) :
    out = none ↔ ForHttp2 http urls authChecker_ s request := by
  cases hp : passes http authChecker_ s request with
  | false =>
    rw [(hh.refused hp).none_iff h]
    constructor
    · intro he
      cases he
    · intro hfor
      rw [hfor.passes] at hp
      cases hp
  | true =>
    cases ha : isAnswered http urls request with
    | false =>
      rw [hh.silent hp ha]
      constructor
      · intro he
        cases he
      · intro hfor
        rw [hfor.answered] at ha
        cases ha
    | true =>
      rw [(hh.answered hp ha).none_iff h]
      exact ⟨fun hproto => ⟨hp, ha, hproto⟩, fun hfor => hfor.protocol⟩

theorem send_error_written (c : Http2Client) (protocol : http_protocols) (status : Nat)
    (extra_header text : Option Str) (keep : Bool) :
    (c.send_error protocol status extra_header text keep).map (·.written) =
      (sent c (c.send_error protocol status extra_header text keep)).map
        fun p => c.written ++ p.1 := by
  rw [sent_send_error, Http2Client.send_error_eq, Option.map_map, Option.map_map]
  rfl

theorem refuse_took (http : HttpRequestTypes ρ) (s : Connection ρ) (protocol : http_protocols)
    (error : HttpError) :
    ∃ out, Took s (refuse s protocol error) out ∧ Answer http s.client protocol out := by
  refine ⟨_, ?_, .page error.1 none (some error.2) false⟩
  have hw := send_error_written s.client protocol error.1 none (some error.2) false
  rw [refuse]
  cases he : s.client.send_error protocol error.1 none (some error.2) false with
  | none => exact ⟨(List.append_nil _).symm, fun _ => rfl, fun _ => rfl⟩
  | some client =>
    rw [he] at hw
    obtain ⟨p, hp, hwritten⟩ := Option.map_eq_some_iff.1 hw.symm
    rw [hp]
    exact ⟨hwritten.symm, fun h => Phase.noConfusion h, fun h => by cases h⟩

theorem finish_took {t : Connection ρ} {handlers : List Handler} {notClose : Bool}
    {hclient : Option Http2Client}
    (ht : t.client.written = s.client.written)
    (ho : hclient.map (·.written) = out.map fun p => s.client.written ++ p.1) :
    Took s (finish t request handlers notClose hclient) out := by
  cases hclient with
  | none =>
    cases out with
    | none => exact ⟨ht.trans (List.append_nil _).symm, fun _ => rfl, fun _ => rfl⟩
    | some p => cases ho
  | some c =>
    cases out with
    | none => cases ho
    | some p =>
      refine ⟨Option.some.inj ho, ?_, fun h => by cases h⟩
      intro h
      cases notClose <;> cases h

theorem handleRequest_refused (http : HttpTypes ρ) (h : HttpServerHandler ρ) (s : Connection ρ)
    (request : ρ) (notClose : Bool)
    (hl : letsThrough http h.authChecker_ s.log.length s.client request = false) :
    ∃ extra_header, ("WWW-Authenticate: ".toList <+: extra_header ∧ '\r' ∉ extra_header) ∧
      Took s (h.handleRequest http s request notClose) (sent s.client
        (s.client.send_error .HP_1_1 HS_UNAUTHORIZED (some extra_header) none true)) := by
  obtain ⟨extra_header, hfield, he⟩ :=
    (tryAuthenticate_eq http h s.log.length s.client request).2 hl
  have hw := send_error_written s.client .HP_1_1 HS_UNAUTHORIZED (some extra_header) none true
  refine ⟨extra_header, hfield, ?_⟩
  rw [handleRequest, he]
  cases hc : s.client.send_error .HP_1_1 HS_UNAUTHORIZED (some extra_header) none true with
  | none =>
    rw [hc] at hw
    exact finish_took rfl hw
  | some client =>
    rw [hc] at hw
    exact finish_took rfl hw

theorem handleRequest_passed (http : HttpRequestTypes ρ) (sys : SystemCalls)
    (urls : Str → Option (Option HCTypes)) (authChecker_ : Option IHttpAuthObserver)
    (s : Connection ρ) (request : ρ) (notClose : Bool)
    (hl : passes http authChecker_ s request = true) :
    ∃ auth, Took s ((configured http sys urls authChecker_).handleRequest http.toHttpTypes s request
      notClose) (createHttpCallback http sys (callbackOf urls (http.path request)) s.log.length
        (s.client.setIsAuthenticated auth) request) := by
  obtain ⟨auth, he⟩ := (tryAuthenticate_eq http.toHttpTypes (configured http sys urls authChecker_)
    s.log.length s.client request).1 hl
  obtain ⟨handlers, hcall⟩ := callCallbacks_configured http sys urls authChecker_ s.log.length
    (s.client.setIsAuthenticated auth) request
  refine ⟨auth, ?_⟩
  rw [handleRequest, he]
  simp only [hcall]
  apply finish_took
  · rfl
  · rw [Option.map_map]
    rfl

theorem handleRequest_took (http : HttpRequestTypes ρ) (sys : SystemCalls)
    (urls : Str → Option (Option HCTypes)) (authChecker_ : Option IHttpAuthObserver)
    (s : Connection ρ) (request : ρ) (notClose : Bool) :
    ∃ out, Took s ((configured http sys urls authChecker_).handleRequest http.toHttpTypes s request
      notClose) out ∧ Handled http urls authChecker_ s request out := by
  cases hl : passes http authChecker_ s request with
  | false =>
    obtain ⟨extra_header, _, ht⟩ := handleRequest_refused http.toHttpTypes
      (configured http sys urls authChecker_) s request notClose hl
    refine ⟨_, ht, fun _ => .page _ _ _ _, ?_, ?_⟩
    · intro hp
      rw [hl] at hp
      cases hp
    · intro hp
      rw [hl] at hp
      cases hp
  | true =>
    obtain ⟨auth, ht⟩ := handleRequest_passed http sys urls authChecker_ s request notClose hl
    obtain ⟨hanswer, hsilent⟩ := createHttpCallback_answer http sys
      (callbackOf urls (http.path request)) s.log.length (s.client.setIsAuthenticated auth) request
    refine ⟨_, ht, ?_, fun _ ha => .of_authenticated (hanswer ha).answer, fun _ ha => hsilent ha⟩
    intro hp
    rw [hl] at hp
    cases hp

section
variable {http : HttpRequestTypes ρ} {urls : Str → Option (Option HCTypes)}
  {authChecker_ : Option IHttpAuthObserver} {s s' : Connection ρ} {protocol : http_protocols}

/-- A text that is no request is answered. -/
theorem took_error {error : HttpError}
    (h : ∃ out, Took s s' out ∧ Answer http s.client protocol out) :
    ∃ out, Took s s' out ∧
      (∀ error', (.error error : Except HttpError ρ) = .error error' →
        Answer http s.client protocol out) ∧
      ∀ request, (.error error : Except HttpError ρ) = .ok request →
        Handled http urls authChecker_ s request out := by
  obtain ⟨out, ht, ha⟩ := h
  refine ⟨out, ht, fun _ _ => ha, ?_⟩
  intro _ he
  cases he

/-- A text that is a request is handled. -/
theorem took_ok {request : ρ}
    (h : ∃ out, Took s s' out ∧ Handled http urls authChecker_ s request out) :
    ∃ out, Took s s' out ∧
      (∀ error, (.ok request : Except HttpError ρ) = .error error →
        Answer http s.client protocol out) ∧
      ∀ request', (.ok request : Except HttpError ρ) = .ok request' →
        Handled http urls authChecker_ s request' out := by
  obtain ⟨out, ht, hh⟩ := h
  refine ⟨out, ht, ?_, ?_⟩
  · intro _ he
    cases he
  · intro request' he
    cases he
    exact hh

end

/-- A read of HTTP/1: an error of the text is answered as HTTP/1, and its request is handled. -/
theorem processReceived_http1_took (http : HttpRequestTypes ρ) (sys : SystemCalls)
    (urls : Str → Option (Option HCTypes)) (authChecker_ : Option IHttpAuthObserver)
    (s : Connection ρ) (buff : Str) :
    ∃ out, Took s ((configured http sys urls authChecker_).processReceived_http1 http.toHttpTypes s
        buff) out ∧
      (∀ error, http.parse_http_request buff = .error error → Answer http s.client .HP_1_1 out) ∧
      ∀ request, http.parse_http_request buff = .ok request →
        Handled http urls authChecker_ s request out := by
  rw [processReceived_http1]
  cases http.parse_http_request buff with
  | error error => exact took_error (refuse_took http s .HP_1_1 error)
  | ok request => exact took_ok (handleRequest_took http sys urls authChecker_ s request _)

/-- A turn of the loop over the `HEADERS` frames: an error of the frame is answered as HTTP/2, and
its request is handled. -/
theorem handleHead_took (http : HttpRequestTypes ρ) (sys : SystemCalls)
    (urls : Str → Option (Option HCTypes)) (authChecker_ : Option IHttpAuthObserver)
    (s : Connection ρ) (head : frame_base) :
    ∃ out, Took s ((configured http sys urls authChecker_).handleHead http.toHttpTypes s head)
        out ∧
      (∀ error, http.parse_http2_request head = .error error → Answer http s.client .HP_2_0 out) ∧
      ∀ request, http.parse_http2_request head = .ok request →
        Handled http urls authChecker_ s request out := by
  rw [handleHead]
  cases http.parse_http2_request head with
  | error error => exact took_error (refuse_took http s .HP_2_0 error)
  | ok request => exact took_ok (handleRequest_took http sys urls authChecker_ s request true)

end HttpServerHandler

namespace ServedClient
open Http2ClientServerHandler HttpServerHandler
variable {ρ : Type*} {net : NetTypes} {s s' : ServedClient ρ}

theorem step_head {http : HttpTypes ρ} {h : HttpServerHandler ρ}
    (hs : step net http h s .head = some s') :
    ∃ c head frames, s.client.connection = some c ∧ s.headers_frames = head :: frames ∧
      s'.client = s.client.withConnection (h.handleHead http c head) := by
  simp only [step] at hs
  split at hs
  · rename_i c head frames hc hf
    split at hs
    · cases hs
      exact ⟨c, head, frames, hc, hf, rfl⟩
    · cases hs
  · cases hs

/-- What a turn of the loop over the `HEADERS` frames writes, and when it ends the process. -/
theorem head_spec {http : HttpRequestTypes ρ} {sys : SystemCalls}
    {urls : Str → Option (Option HCTypes)} {authChecker_ : Option IHttpAuthObserver}
    (hs : step net http.toHttpTypes (configured http sys urls authChecker_) s .head = some s') :
    ∃ c head frames out, s.client.connection = some c ∧ s.headers_frames = head :: frames ∧
      emitted s s' = (out.map Prod.fst).getD [] ∧ (phase s'.client = .aborted ↔ out = none) ∧
      (∀ error, http.parse_http2_request head = .error error → Answer http c.client .HP_2_0 out) ∧
      ∀ request, http.parse_http2_request head = .ok request →
        Handled http urls authChecker_ c request out := by
  obtain ⟨c, head, frames, hc, hf, hs'⟩ := step_head hs
  obtain ⟨out, ht, herror, hok⟩ := handleHead_took http sys urls authChecker_ c head
  have hc' := IoClient.connection_withConnection hc
    ((configured http sys urls authChecker_).handleHead http.toHttpTypes c head)
  rw [← hs'] at hc'
  refine ⟨c, head, frames, out, hc, hf, ?_, ?_, herror, hok⟩
  · rw [emitted, IoClient.hclient_eq hc', IoClient.hclient_eq hc, ht.written, List.drop_left]
  · rw [IoClient.phase_eq hc']
    exact ht.aborted

end ServedClient

end SiteOnYourDevice
