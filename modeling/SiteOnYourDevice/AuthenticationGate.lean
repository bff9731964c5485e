import SiteOnYourDevice.HttpCallbacks
import SiteOnYourDevice.HttpInnerServerHandler

namespace SiteOnYourDevice
open CString Transition
set_option relaxedAutoImplicit false
set_option autoImplicit true

/-- The part of the class `Http2Client`. -/
def IoClient.hclient {ρ : Type*} : IoClient ρ → SiteOnYourDevice.Http2Client
  | .Http2Client s => s.client
  | .RelayClient s => s.client
  | .RelayClientEx r => r.client

namespace AuthenticationGate
open HttpServerHandler Http2ClientServerHandler

variable {ρ : Type*} (net : NetTypes) (http : HttpTypes ρ) (config : Nat → HttpConfig)

/-- One of the first `i + 1` requests carries the credentials of its time. -/
def CarriedBy (log : List (Logged ρ)) (i : Nat) : Prop :=
  ∃ j c, j ≤ i ∧ log[j]? = some c ∧ Carries net http (config j) c.request

/-- A request gets to a callback exactly when it or an earlier one carries the credentials. -/
def Gated (log : List (Logged ρ)) : Prop :=
  ∀ i e, log[i]? = some e → (e.handlers ≠ [] ↔ CarriedBy net http config log i)

/-- The requests of a connection; an external relay does not look at them. -/
def log : IoClient ρ → List (Logged ρ)
  | .RelayClientEx _ => []
  | .RelayClient s => s.log
  | .Http2Client s => s.log

/-- The frames of a buffer of HTTP/2. -/
def framesIn (buff : Str) : List frame_base :=
  if http.is_preface_data buff then http.parse_frames (buff.drop http.PREFACE_STARTS_LEN)
  else if http.is_frame_header_data buff then http.parse_frames buff
  else []

/-- What a buffer is parsed as: its `HEADERS` frames each by itself, or its text. -/
def readings (buff : Str) : List (Except HttpError ρ) :=
  if buff = [] then []
  else if http.is_preface_data buff || http.is_frame_header_data buff then
    (headers_frames (framesIn http buff)).map http.parse_http2_request
  else [http.parse_http_request buff]

/-- The requests before the first error. -/
def parsed : List (Except HttpError ρ) → List ρ
  | .ok request :: readings => request :: parsed readings
  | _ => []

/-- Whether the connection is to stay open behind a buffer. -/
def Stays (buff : Str) : Prop :=
  buff ≠ [] ∧ (http.is_preface_data buff = false → http.is_frame_header_data buff = false →
    ∀ request, http.parse_http_request buff = .ok request →
      http.EqualsASCII ((http.findHeaderByKey request "Connection".toList false).getD [])
        "Keep-Alive".toList false = true ∨
      http.EqualsASCII ((http.findHeaderByKey request "Host".toList false).getD [])
        HTTP_PROXY_HOST_NAME false = true)

/-- A callback ends the process at the request. -/
def EndsProcess (h : HttpServerHandler ρ) (request : ρ) : Prop :=
  ∃ n c, (∃ uri callback, h.httpCallbacks_ uri = some (some callback) ∧
    callback n c request = none) ∨ h.fshandler_ n c request = none

/-- The frames make a null stream, or run into one. -/
def NullStream (client : Http2Client) (frames : List frame_base) : Prop :=
  ∀ c, client.processFrames frames = some c → none ∈ c.streams_

/-- The requests that are received of a buffer: all of them, when the connection stays open; those
before an error, when it is closed; and those up to a null stream or to the request whose callback
does it, when the process ends. -/
def Received (h : HttpServerHandler ρ) (null stays : Prop) (readings : List (Except HttpError ρ))
    (requests : List ρ) : Phase → Prop
  | .opened => readings = requests.map .ok ∧ stays
  | .closed => requests = parsed readings ∧ ((∃ error, .error error ∈ readings) ∨ ¬ stays)
  | .aborted => requests <+: parsed readings ∧ (null ∨ (∃ request ∈ requests, EndsProcess h request) ∨
      requests = parsed readings ∧ ∃ error, .error error ∈ readings)

/-- The requests of a buffer are added to the log, none but the received ones. -/
def AllReceived (h : HttpServerHandler ρ) (client : IoClient ρ) (e : ReadEvent)
    (client' : IoClient ρ) : Prop :=
  ∀ buff ext, e = .data buff ext → ∃ requests,
    (log client').map Logged.request = (log client).map Logged.request ++ requests ∧
      Received h (NullStream client.hclient (framesIn http buff)) (Stays http buff)
        (readings http buff) requests (phase client')

/-- The flag of the connection tells whether the credentials were there. -/
structure Held (s : Connection ρ) : Prop where
  flag : s.client.isAuth_ = true ↔
    ∃ j c, s.log[j]? = some c ∧ Carries net http (config j) c.request
  gated : Gated net http config s.log

variable {net http config} {h : HttpServerHandler ρ} {s : Connection ρ} {request : ρ}

theorem userCanAuth_iff {n : Nat} {user password : Str} :
    HttpAuthObserver net config n user password = true ↔
      user ≠ [] ∧ password ≠ [] ∧ (config n).authInfo.isValid net = true ∧
        (config n).login = user ∧ (config n).password = password := by
  rw [HttpAuthObserver]
  split
  · rename_i hu
    exact ⟨fun h => absurd h Bool.false_ne_true, fun h => absurd hu h.1⟩
  rename_i hu
  split
  · rename_i hp
    exact ⟨fun h => absurd h Bool.false_ne_true, fun h => absurd hp h.2.1⟩
  rename_i hp
  cases hv : (config n).authInfo.isValid net with
  | false => simp only [hv, Bool.not_false, if_true, Bool.false_eq_true, false_and, and_false]
  | true =>
    simp only [hv, Bool.not_true, Bool.false_eq_true, if_false, Bool.and_eq_true,
      decide_eq_true_eq, ne_eq, hu, hp, not_false_eq_true, true_and]
    exact Iff.rfl

/-- The value of the field passes when it is `Basic`, a blank and the code of the credentials. -/
theorem authorized_iff {n : Nat} {auth : Str} :
    authorized http (HttpAuthObserver net config) n auth = true ↔
      ∃ enc name password, auth = AUTH_BASIC_METHOD ++ ' ' :: enc ∧
        http.decode64 enc = name ++ ':' :: password ∧ ':' ∉ name ∧
        HttpAuthObserver net config n name password = true := by
  rw [authorized]
  constructor
  · intro ha
    split at ha
    · cases ha
    rename_i method blank hm
    obtain ⟨enc, rfl, rfl⟩ := strchr_eq_some hm
    split at ha
    · rename_i hmethod
      split at ha
      · cases ha
      rename_i name colon hn
      obtain ⟨password, rfl, hdec⟩ := strchr_eq_some hn
      exact ⟨enc, name, password, hmethod ▸ rfl, hdec, strchr_not_mem hn, ha⟩
    · cases ha
  · rintro ⟨enc, name, password, rfl, hdec, hcolon, ha⟩
    have hblank : ' ' ∉ AUTH_BASIC_METHOD := by decide
    rw [strchr_append hblank]
    simp only [List.tail_cons, hdec, strchr_append hcolon, if_true]
    exact ha

theorem carries_iff {n : Nat} :
    Carries net http (config n) request ↔
      ∃ auth, http.findHeaderByKey request "Authorization".toList false = some auth ∧
        authorized http (HttpAuthObserver net config) n auth = true := by
  constructor
  · rintro ⟨enc, name, password, hf, hdec, hcolon, hname, hpass, hv, hl, hp⟩
    refine ⟨_, hf, authorized_iff.2 ⟨enc, name, password, rfl, hdec, hcolon, ?_⟩⟩
    exact userCanAuth_iff.2 ⟨hname, hpass, hv, hl, hp⟩
  · rintro ⟨auth, hf, ha⟩
    obtain ⟨enc, name, password, rfl, hdec, hcolon, hcan⟩ := authorized_iff.1 ha
    obtain ⟨hname, hpass, hv, hl, hp⟩ := userCanAuth_iff.1 hcan
    exact ⟨enc, name, password, hf, hdec, hcolon, hname, hpass, hv, hl, hp⟩

/-- The gate lets a request through when the flag is set or the request sets it. -/
theorem tryAuthenticate_cases {n : Nat} {hclient : Http2Client}
    {out : Option (Bool × Http2Client)}
    (ho : (h.setAuthChecker (HttpAuthObserver net config)).tryAuthenticateIfNeeded http n hclient
      request = out) :
    (hclient.isAuth_ = true ∧ out = some (false, hclient)) ∨
      (hclient.isAuth_ = false ∧ Carries net http (config n) request ∧
        out = some (false, hclient.setIsAuthenticated true)) ∨
      (hclient.isAuth_ = false ∧ ¬ Carries net http (config n) request ∧
        (out = none ∨ ∃ c, out = some (true, c) ∧ c.isAuth_ = false)) := by
  have hrefused : ∀ text, hclient.isAuth_ = false →
      (hclient.send_error .HP_1_1 HS_UNAUTHORIZED text none true).map (true, ·) = out →
      out = none ∨ ∃ c, out = some (true, c) ∧ c.isAuth_ = false := by
    intro text hflag hout
    cases he : hclient.send_error .HP_1_1 HS_UNAUTHORIZED text none true with
    | none =>
      rw [he] at hout
      exact .inl hout.symm
    | some c =>
      rw [he] at hout
      exact .inr ⟨c, hout.symm, (Http2Client.send_error_isAuth he).trans hflag⟩
  simp only [tryAuthenticateIfNeeded, setAuthChecker] at ho
  cases hflag : hclient.isAuth_ with
  | true =>
    rw [hflag, if_pos rfl] at ho
    exact .inl ⟨rfl, ho.symm⟩
  | false =>
    rw [hflag, if_neg Bool.false_ne_true] at ho
    right
    split at ho
    · rename_i auth hf
      split at ho
      · rename_i ha
        exact .inl ⟨rfl, carries_iff.2 ⟨auth, hf, ha⟩, ho.symm⟩
      · rename_i ha
        refine .inr ⟨rfl, ?_, hrefused _ hflag ho⟩
        intro hc
        obtain ⟨auth', hf', ha'⟩ := carries_iff.1 hc
        rw [hf] at hf'
        cases hf'
        exact ha ha'
    · rename_i hf
      refine .inr ⟨rfl, ?_, hrefused _ hflag ho⟩
      intro hc
      obtain ⟨auth', hf', _⟩ := carries_iff.1 hc
      rw [hf] at hf'
      cases hf'

/-- Behind the gate some callback gets the request, and none of them touches the flag. -/
theorem callCallbacks_spec {n : Nat} {hclient : Http2Client} {handlers : List Handler}
    {out : Option Http2Client}
    (ho : h.callCallbacks http n hclient request = (handlers, out)) :
    handlers ≠ [] ∧ ∀ c, out = some c → c.isAuth_ = hclient.isAuth_ := by
  have hreg : ∀ hs o, h.tryToHandleAsRegisteredCallback n hclient (http.path request) request =
      (hs, o) → (o ≠ some (false, hclient) → hs ≠ []) ∧
        ∀ b c, o = some (b, c) → c.isAuth_ = hclient.isAuth_ := by
    intro hs o hr
    rw [tryToHandleAsRegisteredCallback] at hr
    split at hr
    · cases hr
      refine ⟨fun _ => List.cons_ne_nil _ _, ?_⟩
      intro b c hc
      obtain ⟨p, _, he⟩ := Option.map_eq_some_iff.1 hc
      cases he
      rfl
    · cases hr
      refine ⟨fun hne => absurd rfl hne, ?_⟩
      intro b c hc
      cases hc
      rfl
  rw [callCallbacks] at ho
  split at ho
  · rename_i hs hr
    cases ho
    refine ⟨(hreg _ _ hr).1 (by simp), ?_⟩
    intro c hc
    cases hc
  · rename_i hs c hr
    cases ho
    refine ⟨(hreg _ _ hr).1 (by simp), ?_⟩
    intro c' hc
    cases hc
    exact (hreg _ _ hr).2 _ _ rfl
  · rename_i hs c hr
    cases ho
    refine ⟨List.append_ne_nil_of_right_ne_nil _ (List.cons_ne_nil _ _), ?_⟩
    intro c' hc
    obtain ⟨⟨written, handled⟩, _, rfl⟩ := Option.map_eq_some_iff.1 hc
    exact (hreg _ _ hr).2 false c rfl

theorem finish_isAuth {handlers : List Handler} {notClose : Bool} {out : Option Http2Client}
    (ho : ∀ c, out = some c → c.isAuth_ = s.client.isAuth_) :
    (finish s request handlers notClose out).client.isAuth_ = s.client.isAuth_ := by
  cases out with
  | none => rfl
  | some c => exact ho c rfl

theorem handleRequest_spec (net : NetTypes) (http : HttpTypes ρ) (config : Nat → HttpConfig)
    (h : HttpServerHandler ρ) (s : Connection ρ) (request : ρ) (notClose : Bool) :
    ∃ handlers,
      let s' := (h.setAuthChecker (HttpAuthObserver net config)).handleRequest http s request
        notClose
      s'.log = s.log ++ [⟨request, handlers⟩] ∧
      (s'.client.isAuth_ = true ↔
        s.client.isAuth_ = true ∨ Carries net http (config s.log.length) request) ∧
      (handlers ≠ [] ↔ s'.client.isAuth_ = true) := by
  cases ho : (h.setAuthChecker (HttpAuthObserver net config)).tryAuthenticateIfNeeded http
    s.log.length s.client request with
  | none =>
    refine ⟨[], ?_⟩
    simp only [handleRequest, ho]
    obtain ⟨_, he⟩ | ⟨_, _, he⟩ | ⟨hflag, hnot, _⟩ := tryAuthenticate_cases ho
    · cases he
    · cases he
    · refine ⟨rfl, ?_, ?_⟩
      · simp only [finish, Option.getD_none, hnot, or_false]
      · simp only [finish, Option.getD_none, hflag, ne_eq, not_true_eq_false, Bool.false_eq_true]
  | some p =>
    obtain ⟨refused, hclient⟩ := p
    cases refused with
    | true =>
      refine ⟨[], ?_⟩
      simp only [handleRequest, ho]
      obtain ⟨_, he⟩ | ⟨_, _, he⟩ | ⟨hflag, hnot, he | ⟨c, he, hc⟩⟩ := tryAuthenticate_cases ho
      · cases he
      · cases he
      · cases he
      · cases he
        refine ⟨rfl, ?_, ?_⟩
        · simp only [finish, Option.getD_some, hc, hflag, hnot, or_false]
        · simp only [finish, Option.getD_some, hc, ne_eq, not_true_eq_false, Bool.false_eq_true]
    | false =>
      cases hcb : (h.setAuthChecker (HttpAuthObserver net config)).callCallbacks http
        s.log.length hclient request with
      | mk handlers out =>
        refine ⟨handlers, ?_⟩
        obtain ⟨hne, hkeep⟩ := callCallbacks_spec hcb
        have hfin : (finish { s with client := hclient } request handlers notClose
            out).client.isAuth_ = hclient.isAuth_ := finish_isAuth hkeep
        simp only [handleRequest, ho, hcb, hfin]
        obtain ⟨hflag, he⟩ | ⟨hflag, hc, he⟩ | ⟨_, _, he | ⟨c, he, _⟩⟩ := tryAuthenticate_cases ho
        · cases he
          exact ⟨rfl, by simp only [hflag, true_or], by simp only [hflag, hne, ne_eq,
            not_false_eq_true]⟩
        · cases he
          exact ⟨rfl, by simp only [Http2Client.setIsAuthenticated, hc, or_true],
            by simp only [Http2Client.setIsAuthenticated, hne, ne_eq, not_false_eq_true]⟩
        · cases he
        · cases he

theorem concat_getElem? {α : Type*} {l : List α} {x c : α} {j : Nat} :
    (l ++ [x])[j]? = some c ↔ l[j]? = some c ∨ (j = l.length ∧ c = x) := by
  rw [List.getElem?_append]
  split
  · rename_i hj
    exact ⟨.inl, fun h => h.resolve_right fun hc => hj.ne hc.1⟩
  · rename_i hj
    rw [List.getElem?_eq_none (Nat.le_of_not_lt hj)]
    constructor
    · intro h
      obtain ⟨hlt, hc⟩ := List.getElem?_eq_some_iff.1 h
      rw [List.length_singleton] at hlt
      rw [List.getElem_singleton] at hc
      exact .inr ⟨by omega, hc.symm⟩
    · intro h
      obtain ⟨rfl, rfl⟩ := h.resolve_left (fun h => by cases h)
      rw [Nat.sub_self]
      rfl

theorem carried_concat (net : NetTypes) (http : HttpTypes ρ) (config : Nat → HttpConfig)
    (l : List (Logged ρ)) (x : Logged ρ) :
    (∃ j c, (l ++ [x])[j]? = some c ∧ Carries net http (config j) c.request) ↔
      (∃ j c, l[j]? = some c ∧ Carries net http (config j) c.request) ∨
        Carries net http (config l.length) x.request := by
  constructor
  · intro h
    obtain ⟨j, c, hj, hc⟩ := h
    obtain hj | ⟨rfl, rfl⟩ := concat_getElem?.1 hj
    · exact .inl ⟨j, c, hj, hc⟩
    · exact .inr hc
  · intro h
    obtain ⟨j, c, hj, hc⟩ | hx := h
    · exact ⟨j, c, concat_getElem?.2 (.inl hj), hc⟩
    · exact ⟨l.length, x, concat_getElem?.2 (.inr ⟨rfl, rfl⟩), hx⟩

theorem Gated.concat {l : List (Logged ρ)} {x : Logged ρ} (hg : Gated net http config l)
    (hx : x.handlers ≠ [] ↔
      ∃ j c, (l ++ [x])[j]? = some c ∧ Carries net http (config j) c.request) :
    Gated net http config (l ++ [x]) := by
  intro i e hi
  obtain hi | ⟨rfl, rfl⟩ := concat_getElem?.1 hi
  · have hlt : i < l.length := (List.getElem?_eq_some_iff.1 hi).1
    rw [hg i e hi]
    constructor
    · intro h
      obtain ⟨j, c, hji, hj, hc⟩ := h
      exact ⟨j, c, hji, concat_getElem?.2 (.inl hj), hc⟩
    · intro h
      obtain ⟨j, c, hji, hj, hc⟩ := h
      have hj := (concat_getElem?.1 hj).resolve_right fun h => by omega
      exact ⟨j, c, hji, hj, hc⟩
  · rw [hx]
    constructor
    · intro h
      obtain ⟨j, c, hj, hc⟩ := h
      have hlt := (List.getElem?_eq_some_iff.1 hj).1
      rw [List.length_append, List.length_singleton] at hlt
      exact ⟨j, c, Nat.le_of_lt_succ hlt, hj, hc⟩
    · intro h
      obtain ⟨j, c, _, hj, hc⟩ := h
      exact ⟨j, c, hj, hc⟩

theorem held_handleRequest (hs : Held net http config s) (request : ρ) (notClose : Bool) :
    Held net http config
      ((h.setAuthChecker (HttpAuthObserver net config)).handleRequest http s request notClose) := by
  obtain ⟨handlers, hlog, hflag, hhandled⟩ :=
    handleRequest_spec net http config h s request notClose
  have hcarried := carried_concat net http config s.log ⟨request, handlers⟩
  rw [hs.flag, ← hcarried, ← hlog] at hflag
  refine ⟨hflag, ?_⟩
  rw [hlog] at hflag ⊢
  exact hs.gated.concat (hhandled.trans hflag)

theorem Held.congr {s' : Connection ρ} (hs : Held net http config s) (hlog : s'.log = s.log)
    (hflag : s'.client.isAuth_ = s.client.isAuth_) : Held net http config s' := by
  obtain ⟨hf, hg⟩ := hs
  rw [← hlog] at hf hg
  rw [← hflag] at hf
  exact ⟨hf, hg⟩

theorem refuse_spec (s : Connection ρ) (protocol : http_protocols) (error : HttpError) :
    (refuse s protocol error).log = s.log ∧
      (refuse s protocol error).client.isAuth_ = s.client.isAuth_ ∧
      (refuse s protocol error).phase ≠ .opened := by
  rw [refuse]
  split
  · exact ⟨rfl, rfl, by simp⟩
  · rename_i client hc
    exact ⟨rfl, Http2Client.send_error_isAuth hc, by simp⟩

theorem held_handleHeaders (frames : List frame_base) (hs : Held net http config s) :
    Held net http config
      ((h.setAuthChecker (HttpAuthObserver net config)).handleHeaders http s frames) := by
  induction frames generalizing s with
  | nil => exact hs
  | cons head frames ih =>
    rw [handleHeaders]
    split
    · rename_i error _
      obtain ⟨hlog, hflag, _⟩ := refuse_spec s .HP_2_0 error
      exact hs.congr hlog hflag
    · rename_i request _
      have hs' := held_handleRequest (h := h) hs request true
      simp only
      split
      · exact ih hs'
      · exact hs'

theorem held_handleHttp2Request (hs : Held net http config s) (buff : Str) :
    Held net http config
      ((h.setAuthChecker (HttpAuthObserver net config)).handleHttp2Request http s buff) := by
  rw [handleHttp2Request]
  split
  · exact hs.congr rfl rfl
  · rename_i client hc
    apply held_handleHeaders
    exact hs.congr rfl (Http2Client.processFrames_isAuth hc)

theorem held_DataReceived (hs : Held net http config s) (buff : Str) :
    Held net http config
      ((h.setAuthChecker (HttpAuthObserver net config)).DataReceived http s buff) := by
  rw [HttpServerHandler.DataReceived]
  split
  · exact hs.congr rfl rfl
  rw [processReceived]
  split
  · exact held_handleHttp2Request hs _
  split
  · exact held_handleHttp2Request hs _
  rw [processReceived_http1]
  split
  · rename_i error _
    obtain ⟨hlog, hflag, _⟩ := refuse_spec s .HP_1_1 error
    exact hs.congr hlog hflag
  · exact held_handleRequest hs _ _

theorem handleRequest_log (s : Connection ρ) (request : ρ) (notClose : Bool) :
    (h.handleRequest http s request notClose).log.map Logged.request =
      s.log.map Logged.request ++ [request] := by
  rw [handleRequest]
  split <;> exact List.map_append

/-- A null stream is among those of a client that cannot tell its protocol. -/
theorem find_null {p : IStream → Bool} {streams : List (Option IStream)}
    (hf : IStream.find p streams = none) : none ∈ streams := by
  induction streams with
  | nil => cases hf
  | cons s streams ih =>
    cases s with
    | none => exact List.mem_cons_self
    | some s =>
      rw [IStream.find] at hf
      split at hf
      · cases hf
      · exact List.mem_cons_of_mem _ (ih hf)

theorem send_error_null {client : Http2Client} {status : Nat} {extra_header text : Option Str}
    {keep : Bool} (hn : client.send_error .HP_1_1 status extra_header text keep = none) :
    none ∈ client.streams_ := by
  rw [Http2Client.send_error] at hn
  cases hc : client.is_http2 with
  | none =>
    rw [Http2Client.is_http2, Option.map_eq_none_iff] at hc
    exact find_null hc
  | some http2 =>
    have htext : (http2 && decide (http_protocols.HP_1_1 = .HP_2_0)) = false := by
      cases http2 <;> rfl
    simp only [hc, Option.bind_some, htext, Bool.false_eq_true, if_false] at hn
    cases hn

theorem send_error_streams {client c : Http2Client} {protocol : http_protocols} {status : Nat}
    {extra_header text : Option Str} {keep : Bool}
    (hs : client.send_error protocol status extra_header text keep = some c) :
    c.streams_ = client.streams_ := by
  obtain ⟨http2, _, hs⟩ := Option.bind_eq_some_iff.1 hs
  split at hs
  · obtain ⟨header_stream, _, rfl⟩ := Option.map_eq_some_iff.1 hs
    cases header_stream <;> rfl
  · rw [Http2Client.send_error_text] at hs
    split at hs
    · cases hs
    · cases hs
      rfl

/-- The gate leaves the streams alone, and ends the process at a null stream alone. -/
theorem tryAuthenticate_streams (n : Nat) (hclient : Http2Client) (request : ρ) :
    (h.tryAuthenticateIfNeeded http n hclient request = none → none ∈ hclient.streams_) ∧
      ∀ b c, h.tryAuthenticateIfNeeded http n hclient request = some (b, c) →
        c.streams_ = hclient.streams_ := by
  have hrefused : ∀ text,
      ((hclient.send_error .HP_1_1 HS_UNAUTHORIZED text none true).map (true, ·) = none →
        none ∈ hclient.streams_) ∧
      ∀ b c, (hclient.send_error .HP_1_1 HS_UNAUTHORIZED text none true).map (true, ·) =
        some (b, c) → c.streams_ = hclient.streams_ := by
    intro text
    refine ⟨fun hn => send_error_null (Option.map_eq_none_iff.1 hn), fun b c hc => ?_⟩
    obtain ⟨c', hs, he⟩ := Option.map_eq_some_iff.1 hc
    cases he
    exact send_error_streams hs
  have hpassed : ∀ c' : Http2Client, c'.streams_ = hclient.streams_ →
      (some (false, c') = none → none ∈ hclient.streams_) ∧
        ∀ b (c : Http2Client), some (false, c') = some (b, c) → c.streams_ = hclient.streams_ := by
    intro c' hsame
    refine ⟨fun hn => (by cases hn), fun b c hc => ?_⟩
    cases hc
    exact hsame
  rw [tryAuthenticateIfNeeded]
  split
  · exact hpassed hclient rfl
  split
  · exact hpassed hclient rfl
  split
  · split
    · exact hpassed _ rfl
    · exact hrefused _
  · exact hrefused _

/-- So do the callbacks. -/
theorem callCallbacks_streams (n : Nat) (hclient : Http2Client) (request : ρ) :
    ((h.callCallbacks http n hclient request).2 = none → EndsProcess h request) ∧
      ∀ c, (h.callCallbacks http n hclient request).2 = some c →
        c.streams_ = hclient.streams_ := by
  have hreg : ∀ hs o, h.tryToHandleAsRegisteredCallback n hclient (http.path request) request =
      (hs, o) → (o = none → EndsProcess h request) ∧
        ∀ b c, o = some (b, c) → c.streams_ = hclient.streams_ := by
    intro hs o hr
    rw [tryToHandleAsRegisteredCallback] at hr
    split at hr
    · rename_i callback hu
      cases hr
      refine ⟨fun hn => ⟨n, hclient, .inl ⟨_, callback, hu, Option.map_eq_none_iff.1 hn⟩⟩, ?_⟩
      intro b c hc
      obtain ⟨p, _, he⟩ := Option.map_eq_some_iff.1 hc
      cases he
      rfl
    · cases hr
      refine ⟨fun hn => (by cases hn), ?_⟩
      intro b c hc
      cases hc
      rfl
  rw [callCallbacks]
  split
  · rename_i hs hr
    exact ⟨fun _ => (hreg _ _ hr).1 rfl, fun _ hc => by cases hc⟩
  · rename_i hs c hr
    refine ⟨fun hn => (by cases hn), ?_⟩
    intro c' hc
    cases hc
    exact (hreg _ _ hr).2 _ _ rfl
  · rename_i hs c hr
    refine ⟨fun hn => ⟨n, c, .inr (Option.map_eq_none_iff.1 hn)⟩, ?_⟩
    intro c' hc
    obtain ⟨⟨written, handled⟩, _, rfl⟩ := Option.map_eq_some_iff.1 hc
    exact (hreg _ _ hr).2 false c rfl

/-- A request keeps the connection open when it is told to, unless the process ends. -/
theorem handleRequest_stays (s : Connection ρ) (request : ρ) (notClose : Bool) :
    let s' := h.handleRequest http s request notClose
    s'.client.streams_ = s.client.streams_ ∧
      (s'.phase = .aborted → none ∈ s.client.streams_ ∨ EndsProcess h request) ∧
      (s'.phase ≠ .aborted → s'.phase = if notClose then .opened else .closed) := by
  intro s'
  obtain ⟨hnull, hsame⟩ := @tryAuthenticate_streams ρ http h s.log.length s.client
    request
  cases ho : h.tryAuthenticateIfNeeded http s.log.length s.client request with
  | none =>
    have hs' : s' = finish s request [] notClose none := by
      simp only [s', handleRequest, ho]
    rw [hs']
    exact ⟨rfl, fun _ => .inl (hnull ho), fun hne => absurd rfl hne⟩
  | some p =>
    obtain ⟨refused, hclient⟩ := p
    have hstreams := hsame refused hclient ho
    cases refused with
    | true =>
      have hs' : s' = finish s request [] notClose (some hclient) := by
        simp only [s', handleRequest, ho]
      rw [hs']
      refine ⟨hstreams, fun ha => ?_, fun _ => rfl⟩
      cases notClose <;> cases ha
    | false =>
      obtain ⟨hends, hkeep⟩ := @callCallbacks_streams ρ http h s.log.length hclient
        request
      have hs' : s' = finish { s with client := hclient } request
          (h.callCallbacks http s.log.length hclient request).1 notClose
          (h.callCallbacks http s.log.length hclient request).2 := by
        simp only [s', handleRequest, ho]
      rw [hs']
      cases hout : (h.callCallbacks http s.log.length hclient request).2 with
      | none => exact ⟨hstreams, fun _ => .inr (hends hout), fun hne => absurd rfl hne⟩
      | some c =>
        refine ⟨(hkeep c hout).trans hstreams, fun ha => ?_, fun _ => rfl⟩
        cases notClose <;> cases ha

/-- The loop over the `HEADERS` frames, from a state of the connection that is open. -/
theorem handleHeaders_received {null stays : Prop} (frames : List frame_base)
    (ho : s.phase = .opened) (hn : none ∈ s.client.streams_ → null) (hs : stays) :
    ∃ requests, (h.handleHeaders http s frames).log.map Logged.request =
        s.log.map Logged.request ++ requests ∧
      Received h null stays (frames.map http.parse_http2_request) requests
        (h.handleHeaders http s frames).phase := by
  induction frames generalizing s with
  | nil =>
    refine ⟨[], (List.append_nil _).symm, ?_⟩
    rw [handleHeaders, ho]
    exact ⟨rfl, hs⟩
  | cons head frames ih =>
    rw [handleHeaders, List.map_cons]
    cases hp : http.parse_http2_request head with
    | error error =>
      obtain ⟨hlog, _, hne⟩ := refuse_spec s .HP_2_0 error
      refine ⟨[], by simp only [hlog, List.append_nil], ?_⟩
      simp only
      cases hphase : (refuse s .HP_2_0 error).phase with
      | opened => exact absurd hphase hne
      | closed => exact ⟨rfl, .inl ⟨error, List.mem_cons_self⟩⟩
      | aborted => exact ⟨List.nil_prefix, .inr (.inr ⟨rfl, error, List.mem_cons_self⟩)⟩
    | ok request =>
      obtain ⟨hstreams, haborted, hphase⟩ := @handleRequest_stays ρ http h s request
        true
      have hlog := @handleRequest_log ρ http h s request true
      simp only
      split
      · rename_i hopen
        obtain ⟨requests, hrest, hreceived⟩ := ih hopen (hstreams ▸ hn)
        refine ⟨request :: requests, ?_, ?_⟩
        · rw [hrest, hlog, List.append_assoc]
          rfl
        · generalize (h.handleHeaders http (h.handleRequest http s request true) frames).phase = p
            at hreceived
          cases p with
          | opened => exact ⟨congrArg _ hreceived.1, hs⟩
          | closed =>
            obtain ⟨rfl, ⟨error, he⟩ | hc⟩ := hreceived
            · exact ⟨rfl, .inl ⟨error, List.mem_cons_of_mem _ he⟩⟩
            · exact absurd hs hc
          | aborted =>
            obtain ⟨hpre, hcause⟩ := hreceived
            refine ⟨List.cons_prefix_cons.2 ⟨rfl, hpre⟩, ?_⟩
            obtain hnull | ⟨r, hr, hends⟩ | ⟨rfl, error, he⟩ := hcause
            · exact .inl hnull
            · exact .inr (.inl ⟨r, List.mem_cons_of_mem _ hr, hends⟩)
            · exact .inr (.inr ⟨rfl, error, List.mem_cons_of_mem _ he⟩)
      · rename_i hnot
        have ha : (h.handleRequest http s request true).phase = .aborted := by
          by_contra hne
          exact hnot (hphase hne)
        refine ⟨[request], hlog, ?_⟩
        rw [ha]
        refine ⟨List.cons_prefix_cons.2 ⟨rfl, List.nil_prefix⟩, ?_⟩
        obtain hnull | hends := haborted ha
        · exact .inl (hn hnull)
        · exact .inr (.inl ⟨request, List.mem_cons_self, hends⟩)

theorem handleHttp2Request_received {stays : Prop} (buff : Str) (ho : s.phase = .opened)
    (hs : stays) : ∃ requests, (h.handleHttp2Request http s buff).log.map Logged.request =
        s.log.map Logged.request ++ requests ∧
      Received h (NullStream s.client (http.parse_frames buff)) stays
        ((headers_frames (http.parse_frames buff)).map http.parse_http2_request) requests
        (h.handleHttp2Request http s buff).phase := by
  rw [handleHttp2Request]
  split
  · rename_i hnone
    refine ⟨[], (List.append_nil _).symm, List.nil_prefix, .inl fun c hc => ?_⟩
    rw [hnone] at hc
    cases hc
  · rename_i client hc
    refine handleHeaders_received (s := { s with client }) _ ho (fun hn c hc' => ?_) hs
    rw [hc] at hc'
    cases hc'
    exact hn

theorem processReceived_http1_received {stays : Prop} (buff : Str)
    (hs : stays ↔ ∀ request, http.parse_http_request buff = .ok request →
      http.EqualsASCII ((http.findHeaderByKey request "Connection".toList false).getD [])
        "Keep-Alive".toList false = true ∨
      http.EqualsASCII ((http.findHeaderByKey request "Host".toList false).getD [])
        HTTP_PROXY_HOST_NAME false = true) :
    ∃ requests, (h.processReceived_http1 http s buff).log.map Logged.request =
        s.log.map Logged.request ++ requests ∧
      Received h (NullStream s.client []) stays [http.parse_http_request buff] requests
        (h.processReceived_http1 http s buff).phase := by
  rw [processReceived_http1]
  cases hp : http.parse_http_request buff with
  | error error =>
    obtain ⟨hlog, _, hne⟩ := refuse_spec s .HP_1_1 error
    refine ⟨[], by simp only [hlog, List.append_nil], ?_⟩
    simp only
    cases hphase : (refuse s .HP_1_1 error).phase with
    | opened => exact absurd hphase hne
    | closed => exact ⟨rfl, .inl ⟨error, List.mem_cons_self⟩⟩
    | aborted => exact ⟨List.nil_prefix, .inr (.inr ⟨rfl, error, List.mem_cons_self⟩)⟩
  | ok request =>
    have hkeep : stays ↔
        (http.EqualsASCII ((http.findHeaderByKey request "Connection".toList false).getD [])
            "Keep-Alive".toList false ||
          http.EqualsASCII ((http.findHeaderByKey request "Host".toList false).getD [])
            HTTP_PROXY_HOST_NAME false) = true := by
      rw [hs, Bool.or_eq_true]
      exact ⟨fun h => h request hp, fun h r hr => by cases hp.symm.trans hr; exact h⟩
    simp only
    generalize (http.EqualsASCII _ _ _ || http.EqualsASCII _ _ _) = notClose at hkeep ⊢
    obtain ⟨_, haborted, hphase⟩ := @handleRequest_stays ρ http h s request notClose
    refine ⟨[request], handleRequest_log s request notClose, ?_⟩
    by_cases ha : (h.handleRequest http s request notClose).phase = .aborted
    · rw [ha]
      refine ⟨List.prefix_rfl, ?_⟩
      obtain hnull | hends := haborted ha
      · refine .inl fun c hc => ?_
        cases hc
        exact hnull
      · exact .inr (.inl ⟨request, List.mem_cons_self, hends⟩)
    · rw [hphase ha]
      cases notClose with
      | true => exact ⟨rfl, hkeep.2 rfl⟩
      | false => exact ⟨rfl, .inr fun hc => Bool.noConfusion (hkeep.1 hc)⟩

theorem DataReceived_received (buff : Str) (ho : s.phase = .opened) :
    ∃ requests, (h.DataReceived http s buff).log.map Logged.request =
        s.log.map Logged.request ++ requests ∧
      Received h (NullStream s.client (framesIn http buff)) (Stays http buff) (readings http buff)
        requests (h.DataReceived http s buff).phase := by
  rw [HttpServerHandler.DataReceived, readings]
  split
  · rename_i hb
    exact ⟨[], (List.append_nil _).symm, rfl, .inr fun hs => hs.1 hb⟩
  rename_i hb
  rw [processReceived, framesIn]
  cases hpre : http.is_preface_data buff with
  | true =>
    have hs : Stays http buff := ⟨hb, fun hf => by rw [hpre] at hf; cases hf⟩
    exact handleHttp2Request_received _ ho hs
  | false =>
    cases hframe : http.is_frame_header_data buff with
    | true =>
      have hs : Stays http buff := ⟨hb, fun _ hf => by rw [hframe] at hf; cases hf⟩
      exact handleHttp2Request_received _ ho hs
    | false =>
      apply processReceived_http1_received
      exact ⟨fun hs => hs.2 hpre hframe, fun hs => ⟨hb, fun _ _ => hs⟩⟩

/-- The two classes of connection behind the gate. -/
def Gateable (net : NetTypes) (http : HttpTypes ρ) (config : Nat → HttpConfig) :
    IoClient ρ → Prop
  | .RelayClientEx _ => False
  | .RelayClient s => Held net http config s
  | .Http2Client s => Held net http config s

theorem gateable_step {client client' : IoClient ρ} {e : ReadEvent}
    (hc : Gateable net http config client)
    (hs : step net http (h.setAuthChecker (HttpAuthObserver net config)) client e = some client') :
    Gateable net http config client' ∧ AllReceived http h client e client' := by
  cases e with
  | proxyData buff accepted =>
    cases client with
    | RelayClientEx s => exact absurd hc id
    | RelayClient s => cases hs
    | Http2Client s => cases hs
  | data buff ext =>
    simp only [step] at hs
    split at hs
    · rename_i hopen
      cases hs
      cases client with
      | RelayClientEx s => exact absurd hc id
      | RelayClient s =>
        refine ⟨held_DataReceived hc buff, ?_⟩
        intro buff' ext' he
        cases he
        exact DataReceived_received (h := h.setAuthChecker _) buff hopen.1
      | Http2Client s =>
        refine ⟨held_DataReceived hc buff, ?_⟩
        intro buff' ext' he
        cases he
        exact DataReceived_received (h := h.setAuthChecker _) buff hopen.1
    · cases hs

theorem held_new : Held net http config (Connection.new (ρ := ρ) false) := by
  constructor
  · constructor
    · intro h
      cases h
    · intro h
      obtain ⟨j, c, hj, _⟩ := h
      cases hj
  · intro i e hi
    cases hi

theorem gateable_run {start : IoClient ρ} (hg : Gateable net http config start)
    (es : List ReadEvent) :
    Always (step net http (h.setAuthChecker (HttpAuthObserver net config)))
        (fun client => Gated net http config (log client)) start es ∧
      Along (step net http (h.setAuthChecker (HttpAuthObserver net config)))
        (AllReceived http h) start es := by
  have hgated : ∀ client, Gateable net http config client →
      Gated net http config (log client) := by
    intro client hc
    cases client with
    | RelayClientEx s => exact absurd hc id
    | RelayClient s => exact hc.gated
    | Http2Client s => exact hc.gated
  constructor
  · refine ⟨hgated start hg, ?_⟩
    apply along_of_invariant hg
    intro client e client' hc hs
    obtain ⟨hc', _⟩ := gateable_step hc hs
    exact ⟨hgated client' hc', hc'⟩
  · apply along_of_invariant hg
    intro client e client' hc hs
    obtain ⟨hc', hall⟩ := gateable_step hc hs
    exact ⟨hall, hc'⟩

def getRoot : Str := [Char.ofNat 0x82, Char.ofNat 0x84]

def privateSite : HttpConfig :=
  ⟨⟨"one".toList, 80⟩, "u".toList, "p".toList, true, ⟨"ext".toList, 80⟩, .FASTO_SERVER⟩

def pages : HttpServerHandler (List Str) :=
  ⟨fun _ => none, fun _ _ _ => some ([.text 200 none none true], true), none⟩

/-- A private site that is served from the device starts every connection behind the gate. -/
theorem private_site_gated (site : HttpConfig) (hp : site.is_private_site = true)
    (hl : site.server_type = .FASTO_SERVER) (start : IoClient ρ)
    (hstart : start = CreateClient site ∨ start = relayConnection site) (es : List ReadEvent) :
    Always (step net http (h.setAuthChecker (HttpAuthObserver net config)))
      (fun client => Gated net http config (log client)) start es := by
  have hne : site.server_type ≠ .EXTERNAL_SERVER := by
    rw [hl]
    decide
  refine (gateable_run ?_ es).1
  rcases hstart with rfl | rfl
  · rw [CreateClient, hp]
    exact held_new
  · rw [relayConnection, if_neg hne, hp]
    exact held_new

end AuthenticationGate

end SiteOnYourDevice
