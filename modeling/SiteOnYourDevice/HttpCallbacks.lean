import SiteOnYourDevice.HttpServerHandler

namespace SiteOnYourDevice
open CString
set_option relaxedAutoImplicit false
set_option autoImplicit true

def HS_OK : Nat := 200
def HS_BAD_REQUEST : Nat := 400
def HS_FORBIDDEN : Nat := 403
def HS_NOT_FOUND : Nat := 404
def HS_NOT_ALLOWED : Nat := 405

def HTTP2_FLAG_END_STREAM : UInt8 := 1
def HTTP2_FLAG_END_HEADERS : UInt8 := 4

inductive http_method
  | HM_GET | HM_HEAD | other
deriving DecidableEq

/-- The fields of a response. -/
structure ResponseHeader where
  status : Nat
  extra_header : Option Str
  mime_type : Option Str
  length : Option Nat
  mod : Option Nat
  is_keep_alive : Bool

/-- What the callbacks take from the library besides: the protocol and the method of a request,
whether its path is empty or the root, the type of a file, and the fields of a response as a block
of HTTP/2 or as lines. -/
structure HttpRequestTypes (ρ : Type*) extends HttpTypes ρ where
  protocol : ρ → http_protocols
  method : ρ → http_method
  isRoot : ρ → Bool
  GetMime : Str → Str
  http2_deflate_hd_bufs : ResponseHeader → Str
  header_data : ResponseHeader → Str

namespace HttpWritten

/-- The stream of what is written as frames; text has none. -/
def stream_id? : HttpWritten → Option Nat
  | .frame f => some f.stream_id
  | .frames stream_id _ _ => some stream_id
  | .reset stream_id => some stream_id
  | .raw _ | .text _ _ _ _ => none

end HttpWritten

namespace Http2Client

/-- What `send_error`, `send_headers` and `send_file_by_fd` have in common: frames of the first
`HEADERS` stream, or text of the class `HttpClient`; `none` when its `CHECK` of the protocol fails
or a null stream is used. The flag is false for the error of a missing stream. -/
def respond (protocol : http_protocols) (frames : IStream → List HttpWritten)
    (text : List HttpWritten) (c : Http2Client) : Option (Bool × List HttpWritten) :=
  c.is_http2.bind fun http2 =>
    if http2 && protocol = .HP_2_0 then
      (c.findStreamByType .HTTP2_HEADERS).map fun
        | some header_stream => (true, frames header_stream)
        | none => (false, [])
    else if protocol = .HP_2_0 then none
    else some (true, text)

def send_headers (http : HttpRequestTypes ρ) (protocol : http_protocols)
    (header : ResponseHeader) (c : Http2Client) : Option (Bool × List HttpWritten) :=
  c.respond protocol
    (fun header_stream => [.frame ⟨.HTTP2_HEADERS, HTTP2_FLAG_END_HEADERS, header_stream.sid,
      http.http2_deflate_hd_bufs header, true⟩])
    [.raw (http.header_data header)]

/-- `send_data_frame` for each part that is read of a file. -/
def data_frames (stream_id : Nat) : UInt32 → List Str → List HttpWritten
  | _, [] => []
  | all_size, buff :: rest =>
    let left := all_size - UInt32.ofNat buff.length
    let flags := if left = 0 then HTTP2_FLAG_END_STREAM else 0
    .frame ⟨.HTTP2_DATA, flags, stream_id, buff, true⟩ :: data_frames stream_id left rest

def send_file_by_fd (protocol : http_protocols) (fdesc : List Str) (size : Nat) (c : Http2Client) :
    Option (Bool × List HttpWritten) :=
  c.respond protocol
    (fun header_stream => data_frames header_stream.sid (UInt32.ofNat size) fdesc)
    [.raw fdesc.flatten]

def send_ok (protocol : http_protocols) (extra_header text : Option Str) (is_keep_alive : Bool)
    (c : Http2Client) : Option Http2Client :=
  c.send_error protocol HS_OK extra_header text is_keep_alive

variable {c c' : Http2Client} {protocol : http_protocols} {frames : IStream → List HttpWritten}
  {text : List HttpWritten} {w : List HttpWritten} {ok : Bool}

/-- `Http2Client::send_error` is one of the three. -/
theorem send_error_eq (protocol : http_protocols) (status : Nat) (extra_header text : Option Str)
    (keep : Bool) (c : Http2Client) :
    c.send_error protocol status extra_header text keep =
      (c.respond protocol (fun header_stream => [.frames header_stream.sid status text])
        [.text status extra_header text keep]).map fun out => c.Write out.2 := by
  rw [send_error, respond]
  cases c.is_http2 with
  | none => rfl
  | some http2 =>
    simp only [Option.bind_some]
    split
    · rw [Option.map_map]
      congr 1
      funext stream
      cases stream with
      | none => exact (congrArg (Http2Client.mk c.isAuth_ c.streams_) (List.append_nil _)).symm
      | some header_stream => rfl
    · rw [send_error_text]
      split <;> rfl

/-- A response is frames of the first `HEADERS` stream, nothing when there is none, or text. -/
theorem respond_cases (h : c.respond protocol frames text = some (ok, w)) :
    (protocol = .HP_2_0 ∧ c.is_http2 = some true ∧
      ((∃ header_stream, c.findStreamByType .HTTP2_HEADERS = some (some header_stream) ∧
          w = frames header_stream) ∨ w = [])) ∨
      protocol ≠ .HP_2_0 ∧ w = text := by
  obtain ⟨http2, hh, h⟩ := Option.bind_eq_some_iff.1 h
  split at h
  · rename_i hp
    rw [Bool.and_eq_true, decide_eq_true_eq] at hp
    obtain ⟨stream, hs, he⟩ := Option.map_eq_some_iff.1 h
    refine .inl ⟨hp.2, hp.1 ▸ hh, ?_⟩
    cases stream with
    | none =>
      cases he
      exact .inr rfl
    | some header_stream =>
      cases he
      exact .inl ⟨header_stream, hs, rfl⟩
  · split at h
    · cases h
    · rename_i hne
      cases h
      exact .inr ⟨hne, rfl⟩

theorem respond_http2 {header_stream : IStream} (h : c.is_http2 = some true)
    (hs : c.findStreamByType .HTTP2_HEADERS = some (some header_stream)) :
    c.respond .HP_2_0 frames text = some (true, frames header_stream) := by
  rw [respond, h, Option.bind_some, Bool.true_and, decide_eq_true rfl, if_pos rfl, hs,
    Option.map_some]

theorem respond_text {http2 : Bool} (h : c.is_http2 = some http2) (hp : protocol ≠ .HP_2_0) :
    c.respond protocol frames text = some (true, text) := by
  rw [respond, h, Option.bind_some, decide_eq_false hp, Bool.and_false, if_neg Bool.false_ne_true,
    if_neg hp]

/-- Without a stream 0 a response is text, and the `CHECK` fails for HTTP/2. -/
theorem respond_http1 (h : c.is_http2 = some false) :
    c.respond protocol frames text = if protocol = .HP_2_0 then none else some (true, text) := by
  rw [respond, h, Option.bind_some, Bool.false_and, if_neg Bool.false_ne_true]

end Http2Client

/-- What a file name leads to. -/
inductive FileOutcome
  | missing | directory | isProtected
  | file (size mtime : Nat) (parts : List Str) (headersFail : Bool)

section Callbacks
variable {ρ : Type*} (http : HttpRequestTypes ρ)

/-- The result of a callback that sends one page. -/
def sent (hclient : Http2Client) (out : Option Http2Client) : Option (List HttpWritten × Bool) :=
  out.map fun c => (c.written.drop hclient.written.length, true)

def isKeepAlive (request : ρ) : Bool :=
  http.EqualsASCII ((http.findHeaderByKey request "Connection".toList false).getD [])
    "Keep-Alive".toList false

/-- The callback behind `open`. -/
def sendFile (protocol : http_protocols) (header : ResponseHeader) (parts : List Str) (size : Nat)
    (headersFail get : Bool) (hclient : Http2Client) : Option (List HttpWritten × Bool) :=
  (hclient.send_headers http protocol header).bind fun (ok, headers) =>
    if !ok || headersFail then some (headers, true)
    else if get then
      (hclient.send_file_by_fd protocol parts size).map fun (_, data) => (headers ++ data, true)
    else some (headers, true)

/-- `fs n path` is what the name leads to at the `n`-th request. -/
def HttpFileSystemCallback (fs : Nat → Str → FileOutcome) : IHttpCallback ρ :=
  fun n hclient request =>
    let keep := isKeepAlive http request
    let protocol := http.protocol request
    if http.method request = .HM_GET ∨ http.method request = .HM_HEAD then
      let file_path := if http.isRoot request then "index.html".toList else http.path request
      match fs n file_path with
      | .missing =>
        sent hclient (hclient.send_error protocol HS_NOT_FOUND none
          (some "File not found.".toList) keep)
      | .directory =>
        sent hclient (hclient.send_error protocol HS_BAD_REQUEST none
          (some "Bad filename.".toList) keep)
      | .isProtected =>
        sent hclient (hclient.send_error protocol HS_FORBIDDEN none
          (some "File is protected.".toList) keep)
      | .file size mtime parts headersFail =>
        sendFile http protocol
          ⟨HS_OK, none, some (http.GetMime file_path), some size, some mtime, keep⟩ parts size
          headersFail (http.method request = .HM_GET) hclient
    else
      match http.findHeaderByKey request "Content-Type".toList false with
      | none =>
        sent hclient (hclient.send_error protocol HS_NOT_ALLOWED none
          (some "Unsupported request.".toList) keep)
      | some contentTypeValue =>
        if contentTypeValue = "application/json".toList then some ([], true)
        else if contentTypeValue = "application/x-www-form-urlencoded".toList then some ([], true)
        else if contentTypeValue = "multipart/form-data".toList then some ([], true)
        else
          sent hclient (hclient.send_error protocol HS_NOT_ALLOWED none
            (some "Unsupported content type.".toList) keep)

/-- `Shutdown n` is the error of the call at the `n`-th request. -/
def HttpSystemShutdownCallback (Shutdown : Nat → Option Str) : IHttpCallback ρ :=
  fun n hclient request =>
    let keep := isKeepAlive http request
    let protocol := http.protocol request
    match Shutdown n with
    | some description =>
      sent hclient (hclient.send_error protocol HS_NOT_ALLOWED none
        (some ("Shutdown failed(".toList ++ description ++ ").".toList)) keep)
    | none =>
      sent hclient (hclient.send_ok protocol none (some "Your device shutdowned!".toList) keep)

inductive HCTypes
  | system | file_system
deriving DecidableEq

/-- The files and the calls of the system that the callbacks use. -/
structure SystemCalls where
  file : Nat → Str → FileOutcome
  Shutdown : Nat → Option Str

variable (sys : SystemCalls)

/-- `createHttpCallback` for a configured callback. -/
def createHttpCallback : HCTypes → IHttpCallback ρ
  | .system => HttpSystemShutdownCallback http sys.Shutdown
  | .file_system => HttpFileSystemCallback http sys.file

/-- A handler with the callbacks of a configuration; `urls` may hold a null callback. -/
def HttpServerHandler.configured (urls : Str → Option (Option HCTypes))
    (authChecker : Option IHttpAuthObserver) : HttpServerHandler ρ where
  httpCallbacks_ uri := (urls uri).map (Option.map (createHttpCallback http sys))
  fshandler_ := createHttpCallback http sys .file_system
  authChecker_ := authChecker

/-- The callback that gets a request of a path. -/
def callbackOf (urls : Str → Option (Option HCTypes)) (uri : Str) : HCTypes :=
  match urls uri with
  | some (some type) => type
  | _ => .file_system

/-- Whether a callback answers a request: a form or a JSON text is taken without a word. -/
def answers : HCTypes → ρ → Bool
  | .system, _ => true
  | .file_system, request =>
    http.method request = .HM_GET || http.method request = .HM_HEAD ||
      match http.findHeaderByKey request "Content-Type".toList false with
      | none => true
      | some contentTypeValue =>
        contentTypeValue ≠ "application/json".toList &&
          contentTypeValue ≠ "application/x-www-form-urlencoded".toList &&
          contentTypeValue ≠ "multipart/form-data".toList

/-- What is written for a protocol: frames of the first `HEADERS` stream, or text. -/
structure Responds (c : Http2Client) (protocol : http_protocols) (w : List HttpWritten) : Prop where
  frames : protocol = .HP_2_0 → ∀ x ∈ w, c.is_http2 = some true ∧ ∃ header_stream,
    c.findStreamByType .HTTP2_HEADERS = some (some header_stream) ∧
      x.stream_id? = some header_stream.sid
  text : protocol ≠ .HP_2_0 → ∀ x ∈ w, x.stream_id? = none

variable {http} {sys} {c : Http2Client} {request : ρ} {n : Nat} {w : List HttpWritten}
  {protocol : http_protocols}

theorem Responds.nil : Responds c protocol [] := by
  constructor <;>
    · intro _ x hx
      cases hx

theorem Responds.append {v : List HttpWritten} (h : Responds c protocol w)
    (h' : Responds c protocol v) : Responds c protocol (w ++ v) := by
  constructor
  · intro hp x hx
    rcases List.mem_append.1 hx with hx | hx
    · exact h.frames hp x hx
    · exact h'.frames hp x hx
  · intro hp x hx
    rcases List.mem_append.1 hx with hx | hx
    · exact h.text hp x hx
    · exact h'.text hp x hx

theorem responds_respond {frames : IStream → List HttpWritten} {text : List HttpWritten} {ok : Bool}
    (h : c.respond protocol frames text = some (ok, w))
    (hf : ∀ header_stream, ∀ x ∈ frames header_stream, x.stream_id? = some header_stream.sid)
    (ht : ∀ x ∈ text, x.stream_id? = none) : Responds c protocol w := by
  obtain ⟨hp, hh, ⟨header_stream, hs, rfl⟩ | rfl⟩ | ⟨hp, rfl⟩ := Http2Client.respond_cases h
  · refine ⟨fun _ x hx => ⟨hh, header_stream, hs, hf header_stream x hx⟩, fun hne => absurd hp hne⟩
  · exact .nil
  · exact ⟨fun heq => absurd heq hp, fun _ => ht⟩

theorem data_frames_stream_id (stream_id : Nat) (parts : List Str) :
    ∀ size, ∀ x ∈ Http2Client.data_frames stream_id size parts, x.stream_id? = some stream_id := by
  induction parts with
  | nil =>
    intro size x hx
    cases hx
  | cons buff parts ih =>
    intro size x hx
    rcases List.mem_cons.1 hx with rfl | hx
    · rfl
    · exact ih _ x hx

theorem sent_send_error (protocol : http_protocols) (status : Nat) (extra_header text : Option Str)
    (keep : Bool) :
    sent c (c.send_error protocol status extra_header text keep) =
      (c.respond protocol (fun header_stream => [.frames header_stream.sid status text])
        [.text status extra_header text keep]).map fun out => (out.2, true) := by
  rw [Http2Client.send_error_eq, sent, Option.map_map]
  congr 1
  funext out
  simp only [Function.comp, Http2Client.Write, List.drop_left]

/-- How a callback answers: with a page, or with a file. -/
inductive Answer (http : HttpRequestTypes ρ) (c : Http2Client) (protocol : http_protocols) :
    Option (List HttpWritten × Bool) → Prop
  | page (status : Nat) (extra_header text : Option Str) (keep : Bool) :
    Answer http c protocol (sent c (c.send_error protocol status extra_header text keep))
  | file (header : ResponseHeader) (parts : List Str) (size : Nat) (headersFail get : Bool) :
    Answer http c protocol (sendFile http protocol header parts size headersFail get c)

/-- How a callback answers a request: with a page, or with a file; both repeat whether the request
asks to keep the connection. -/
inductive CallbackAnswer (http : HttpRequestTypes ρ) (c : Http2Client) (request : ρ) :
    Option (List HttpWritten × Bool) → Prop
  | page (status : Nat) (text : Str) :
    CallbackAnswer http c request (sent c (c.send_error (http.protocol request) status none
      (some text) (isKeepAlive http request)))
  | file (file_path : Str) (size mtime : Nat) (parts : List Str) (headersFail get : Bool) :
    CallbackAnswer http c request (sendFile http (http.protocol request)
      ⟨HS_OK, none, some (http.GetMime file_path), some size, some mtime,
        isKeepAlive http request⟩ parts size headersFail get c)

theorem CallbackAnswer.answer {out : Option (List HttpWritten × Bool)}
    (h : CallbackAnswer http c request out) : Answer http c (http.protocol request) out := by
  cases h with
  | page status text => exact .page _ _ _ _
  | file file_path size mtime parts headersFail get => exact .file _ _ _ _ _

/-- A callback that takes a request without a word writes nothing, and any other one answers. -/
theorem createHttpCallback_answer (http : HttpRequestTypes ρ) (sys : SystemCalls) (type : HCTypes)
    (n : Nat) (c : Http2Client) (request : ρ) :
    (answers http type request = true →
      CallbackAnswer http c request (createHttpCallback http sys type n c request)) ∧
    (answers http type request = false →
      createHttpCallback http sys type n c request = some ([], true)) := by
  cases type with
  | system =>
    refine ⟨fun _ => ?_, fun h => Bool.noConfusion h⟩
    simp only [createHttpCallback, HttpSystemShutdownCallback]
    cases sys.Shutdown n with
    | some description => exact .page _ _
    | none => exact .page _ _
  | file_system =>
    simp only [createHttpCallback, HttpFileSystemCallback, answers]
    by_cases hm : http.method request = .HM_GET ∨ http.method request = .HM_HEAD
    · have hm' : (decide (http.method request = .HM_GET) ||
          decide (http.method request = .HM_HEAD)) = true := by
        rw [Bool.or_eq_true, decide_eq_true_eq, decide_eq_true_eq]
        exact hm
      simp only [if_pos hm, hm', Bool.true_or]
      refine ⟨fun _ => ?_, fun h => Bool.noConfusion h⟩
      split
      · exact .page _ _
      · exact .page _ _
      · exact .page _ _
      · exact .file _ _ _ _ _ _
    · have hm' : (decide (http.method request = .HM_GET) ||
          decide (http.method request = .HM_HEAD)) = false := by
        rw [← Bool.not_eq_true, Bool.or_eq_true, decide_eq_true_eq, decide_eq_true_eq]
        exact hm
      simp only [if_neg hm, hm', Bool.false_or]
      cases http.findHeaderByKey request "Content-Type".toList false with
      | none => exact ⟨fun _ => .page _ _, fun h => Bool.noConfusion h⟩
      | some contentTypeValue =>
        simp only [Bool.and_eq_true, decide_eq_true_eq, Bool.and_eq_false_iff,
          decide_eq_false_iff_not, ne_eq, not_not]
        constructor
        · intro ⟨⟨hjson, hform⟩, hmulti⟩
          rw [if_neg hjson, if_neg hform, if_neg hmulti]
          exact .page _ _
        · intro h
          rcases h with (h | h) | h
          · rw [if_pos h]
          · rw [if_pos h, ite_self]
          · rw [if_pos h, ite_self, ite_self]

theorem stream_id_singleton {x y : HttpWritten} {id : Option Nat} (hy : y.stream_id? = id)
    (hx : x ∈ [y]) : x.stream_id? = id := by
  rw [List.mem_singleton.1 hx, hy]

theorem responds_headers {header : ResponseHeader} {ok : Bool}
    (h : c.send_headers http protocol header = some (ok, w)) : Responds c protocol w := by
  apply responds_respond h
  · intro header_stream x
    exact stream_id_singleton rfl
  · intro x
    exact stream_id_singleton rfl

theorem responds_file {parts : List Str} {size : Nat} {ok : Bool}
    (h : c.send_file_by_fd protocol parts size = some (ok, w)) : Responds c protocol w := by
  apply responds_respond h
  · intro header_stream
    exact data_frames_stream_id header_stream.sid parts _
  · intro x
    exact stream_id_singleton rfl

theorem Answer.of_authenticated {auth : Bool} {out : Option (List HttpWritten × Bool)}
    (h : Answer http (c.setIsAuthenticated auth) protocol out) : Answer http c protocol out := by
  cases h with
  | page status extra_header text keep =>
    have heq : sent (c.setIsAuthenticated auth) ((c.setIsAuthenticated auth).send_error protocol
        status extra_header text keep) =
        sent c (c.send_error protocol status extra_header text keep) := by
      rw [sent_send_error, sent_send_error]
      rfl
    rw [heq]
    exact .page _ _ _ _
  | file header parts size headersFail get => exact .file header parts size headersFail get

/-- A file of which the header is sent goes on with its data, or with nothing. -/
theorem sendFile_eq {header : ResponseHeader} {parts : List Str} {size : Nat}
    {headersFail get ok : Bool} {headers data : List HttpWritten}
    (hh : c.send_headers http protocol header = some (true, headers))
    (hd : c.send_file_by_fd protocol parts size = some (ok, data)) :
    ∃ rest, sendFile http protocol header parts size headersFail get c =
      some (headers ++ rest, true) := by
  rw [sendFile, hh, Option.bind_some, hd]
  cases headersFail with
  | true => exact ⟨[], by rw [List.append_nil]; rfl⟩
  | false =>
    cases get with
    | true => exact ⟨data, rfl⟩
    | false => exact ⟨[], by rw [List.append_nil]; rfl⟩

/-- Whatever a callback answers is for its protocol, and the request is handled with it. -/
theorem Answer.responds {out : Option (List HttpWritten × Bool)} {handled : Bool}
    (ha : Answer http c protocol out) (h : out = some (w, handled)) :
    handled = true ∧ Responds c protocol w := by
  cases ha with
  | page status extra_header text keep =>
    rw [sent_send_error] at h
    obtain ⟨⟨ok, v⟩, hr, he⟩ := Option.map_eq_some_iff.1 h
    cases he
    refine ⟨rfl, responds_respond hr ?_ ?_⟩
    · intro header_stream x
      exact stream_id_singleton rfl
    · intro x
      exact stream_id_singleton rfl
  | file header parts size headersFail get =>
    rw [sendFile] at h
    obtain ⟨⟨ok, headers⟩, hh, hrest⟩ := Option.bind_eq_some_iff.1 h
    simp only at hrest
    split at hrest
    · cases hrest
      exact ⟨rfl, responds_headers hh⟩
    split at hrest
    · obtain ⟨⟨_, data⟩, hd, he⟩ := Option.map_eq_some_iff.1 hrest
      cases he
      exact ⟨rfl, (responds_headers hh).append (responds_file hd)⟩
    · cases hrest
      exact ⟨rfl, responds_headers hh⟩

/-- Without a stream 0 an answer fails a `CHECK` exactly when it is for HTTP/2. -/
theorem Answer.none_iff {out : Option (List HttpWritten × Bool)}
    (ha : Answer http c protocol out) (h : c.is_http2 = some false) :
    out = none ↔ protocol = .HP_2_0 := by
  by_cases hp : protocol = .HP_2_0
  · refine ⟨fun _ => hp, fun _ => ?_⟩
    cases ha with
    | page status extra_header text keep =>
      rw [sent_send_error, Http2Client.respond_http1 h, if_pos hp, Option.map_none]
    | file header parts size headersFail get =>
      rw [sendFile, Http2Client.send_headers, Http2Client.respond_http1 h, if_pos hp,
        Option.bind_none]
  · refine ⟨fun hn => ?_, fun hp' => absurd hp' hp⟩
    cases ha with
    | page status extra_header text keep =>
      rw [sent_send_error, Http2Client.respond_http1 h, if_neg hp] at hn
      cases hn
    | file header parts size headersFail get =>
      obtain ⟨rest, hrest⟩ := sendFile_eq (Http2Client.respond_text h hp)
        (Http2Client.respond_text h hp)
      rw [hrest] at hn
      cases hn

theorem Answer.frames {out : Option (List HttpWritten × Bool)} {header_stream : IStream}
    (ha : Answer http c .HP_2_0 out) (h : c.is_http2 = some true)
    (hs : c.findStreamByType .HTTP2_HEADERS = some (some header_stream)) :
    ∃ w, out = some (w, true) ∧ ∃ x ∈ w, x.stream_id? = some header_stream.sid := by
  cases ha with
  | page status extra_header text keep =>
    rw [sent_send_error, Http2Client.respond_http2 h hs]
    exact ⟨_, rfl, _, List.mem_singleton_self _, rfl⟩
  | file header parts size headersFail get =>
    obtain ⟨rest, hrest⟩ := sendFile_eq (Http2Client.respond_http2 h hs)
      (Http2Client.respond_http2 h hs)
    exact ⟨_, hrest, _, List.mem_cons_self, rfl⟩

theorem Answer.text {out : Option (List HttpWritten × Bool)} {http2 : Bool}
    (ha : Answer http c protocol out) (h : c.is_http2 = some http2) (hp : protocol ≠ .HP_2_0) :
    ∃ w, out = some (w, true) ∧ ∃ x ∈ w, x.stream_id? = none := by
  cases ha with
  | page status extra_header text keep =>
    rw [sent_send_error, Http2Client.respond_text h hp]
    exact ⟨_, rfl, _, List.mem_singleton_self _, rfl⟩
  | file header parts size headersFail get =>
    obtain ⟨rest, hrest⟩ := sendFile_eq (Http2Client.respond_text h hp)
      (Http2Client.respond_text h hp)
    exact ⟨_, hrest, _, List.mem_cons_self, rfl⟩

end Callbacks

namespace HttpServerHandler
variable {ρ : Type*}

/-- Whether `tryAuthenticateIfNeeded` lets a request through. -/
def letsThrough (http : HttpTypes ρ) (authChecker_ : Option IHttpAuthObserver) (n : Nat)
    (c : Http2Client) (request : ρ) : Bool :=
  match authChecker_ with
  | none => true
  | some checker =>
    c.isAuth_ ||
      (http.findHeaderByKey request "Authorization".toList false).any (authorized http checker n)

/-- A request that is let through may set the flag, and any other one gets its error as HTTP/1. -/
theorem tryAuthenticate_eq (http : HttpTypes ρ) (h : HttpServerHandler ρ) (n : Nat)
    (c : Http2Client) (request : ρ) :
    (letsThrough http h.authChecker_ n c request = true →
      ∃ auth, h.tryAuthenticateIfNeeded http n c request =
        some (false, c.setIsAuthenticated auth)) ∧
    (letsThrough http h.authChecker_ n c request = false →
      ∃ extra_header, ("WWW-Authenticate: ".toList <+: extra_header ∧ '\r' ∉ extra_header) ∧
        h.tryAuthenticateIfNeeded http n c request =
          (c.send_error .HP_1_1 HS_UNAUTHORIZED (some extra_header) none true).map (true, ·)) := by
  have hincorrect : "WWW-Authenticate: ".toList <+:
        "WWW-Authenticate: Basic realm=User or password incorrect, try again".toList ∧
      '\r' ∉ "WWW-Authenticate: Basic realm=User or password incorrect, try again".toList := by
    decide +kernel
  have hprivate : "WWW-Authenticate: ".toList <+:
        "WWW-Authenticate: Basic realm=Private page please authenticate".toList ∧
      '\r' ∉ "WWW-Authenticate: Basic realm=Private page please authenticate".toList := by
    decide +kernel
  simp only [letsThrough, tryAuthenticateIfNeeded]
  cases h.authChecker_ with
  | none => exact ⟨fun _ => ⟨c.isAuth_, rfl⟩, fun hl => Bool.noConfusion hl⟩
  | some checker =>
    cases ha : c.isAuth_ with
    | true =>
      refine ⟨fun _ => ⟨true, ?_⟩, fun hl => Bool.noConfusion hl⟩
      simp only [if_pos, ← ha]
      rfl
    | false =>
      simp only [Bool.false_or, Bool.false_eq_true, if_false]
      cases http.findHeaderByKey request "Authorization".toList false with
      | none => exact ⟨fun hl => Bool.noConfusion hl, fun _ => ⟨_, hprivate, rfl⟩⟩
      | some auth =>
        simp only [Option.any_some]
        cases authorized http checker n auth with
        | true => exact ⟨fun _ => ⟨true, rfl⟩, fun hl => Bool.noConfusion hl⟩
        | false => exact ⟨fun hl => Bool.noConfusion hl, fun _ => ⟨_, hincorrect, rfl⟩⟩

/-- Every callback handles its request, so that a second one is never asked. -/
theorem callCallbacks_configured (http : HttpRequestTypes ρ) (sys : SystemCalls)
    (urls : Str → Option (Option HCTypes)) (authChecker_ : Option IHttpAuthObserver) (n : Nat)
    (c : Http2Client) (request : ρ) :
    ∃ handlers, (configured http sys urls authChecker_).callCallbacks http.toHttpTypes n c
      request = (handlers, (createHttpCallback http sys (callbackOf urls (http.path request)) n c
        request).map fun (written, _) => c.Write written) := by
  have hhandled : ∀ type w handled,
      createHttpCallback http sys type n c request = some (w, handled) → handled = true := by
    intro type w handled he
    obtain ⟨hanswer, hsilent⟩ := createHttpCallback_answer http sys type n c request
    cases ha : answers http type request with
    | true => exact ((hanswer ha).answer.responds he).1
    | false =>
      rw [hsilent ha] at he
      cases he
      rfl
  rw [callCallbacks, tryToHandleAsRegisteredCallback, callbackOf]
  simp only [configured]
  cases hu : urls (http.path request) with
  | none => exact ⟨_, rfl⟩
  | some entry =>
    cases entry with
    | none => exact ⟨_, rfl⟩
    | some type =>
      simp only [Option.map_some]
      cases he : createHttpCallback http sys type n c request with
      | none => exact ⟨_, rfl⟩
      | some out =>
        obtain ⟨w, handled⟩ := out
        rw [hhandled type w handled he]
        exact ⟨_, rfl⟩

end HttpServerHandler

/-- The types of frames by their numbers. -/
def frame_t.ofByte : Nat → frame_t
  | 0 => .HTTP2_DATA
  | 1 => .HTTP2_HEADERS
  | 2 => .HTTP2_PRIORITY
  | 3 => .HTTP2_RST_STREAM
  | 4 => .HTTP2_SETTINGS
  | 5 => .HTTP2_PUSH_PROMISE
  | 6 => .HTTP2_PING
  | 7 => .HTTP2_GOAWAY
  | 8 => .HTTP2_WINDOW_UPDATE
  | 9 => .HTTP2_CONTINUATION
  | _ => .other

/-- The frame at the start of a text, with the text behind it. -/
def parse_frame : Str → Option (frame_base × Str)
  | l₂ :: l₁ :: l₀ :: type :: flags :: s₃ :: s₂ :: s₁ :: s₀ :: rest =>
    let length := (l₂.toNat * 256 + l₁.toNat) * 256 + l₀.toNat
    let stream_id := ((s₃.toNat % 128 * 256 + s₂.toNat) * 256 + s₁.toNat) * 256 + s₀.toNat
    some (⟨.ofByte type.toNat, UInt8.ofNat flags.toNat, stream_id, rest.take length,
      length ≤ rest.length⟩, rest.drop length)
  | _ => none

/-- The frames of a text of at most so many bytes. -/
def parse_frames_upto : Nat → Str → List frame_base
  | 0, _ => []
  | n + 1, text =>
    match parse_frame text with
    | none => []
    | some (frame, rest) => frame :: parse_frames_upto n rest

/-- The fields of the static table that name a request. -/
def staticField (index : Char) : Option (Str × Str) :=
  match index.toNat with
  | 0x82 => some (":method".toList, "GET".toList)
  | 0x83 => some (":method".toList, "POST".toList)
  | 0x84 => some (":path".toList, "/".toList)
  | 0x85 => some (":path".toList, "/index.html".toList)
  | _ => none

/-- The value of a field of a block of indexed fields. -/
def blockField (block : Str) (name : Str) : Option Str :=
  block.findSome? fun index =>
    (staticField index).bind fun (key, value) => if key = name then some value else none

/-- HTTP/1, and HTTP/2 with fields of the static table; a request is its lines. -/
def HttpRequestTypes.plain : HttpRequestTypes (List Str) where
  toHttpTypes := { HttpTypes.plain with
    is_preface_data text := "PRI * HTTP/2.0\r\n\r\nSM\r\n\r\n".toList.isPrefixOf text
    is_frame_header_data text := (parse_frame text).any fun (frame, _) =>
      frame.IsValid && frame.type ≠ .other
    parse_frames text := parse_frames_upto text.length text
    parse_http2_request head :=
      match blockField head.payload ":method".toList, blockField head.payload ":path".toList with
      | some method, some path => .ok [method ++ ' ' :: path ++ " HTTP/2.0".toList]
      | _, _ => .error (HS_BAD_REQUEST, "Bad request".toList) }
  protocol request :=
    let version := ((request.headD []).splitOn ' ').getD 2 []
    if version = "HTTP/2.0".toList then .HP_2_0
    else if version = "HTTP/1.0".toList then .HP_1_0
    else .HP_1_1
  method request :=
    let method := ((request.headD []).splitOn ' ').headD []
    if method = "GET".toList then .HM_GET
    else if method = "HEAD".toList then .HM_HEAD
    else .other
  isRoot request := HttpTypes.plain.path request = "/".toList
  GetMime _ := "text/html".toList
  http2_deflate_hd_bufs header := if header.status = HS_OK then [Char.ofNat 0x88] else []
  header_data header := "HTTP/1.1 ".toList ++ (toString header.status).toList

example : parse_frame ("\x00\x00\x02\x01\x04\x00\x00\x00\x03".toList ++ ['a', 'b']) =
    some (⟨.HTTP2_HEADERS, HTTP2_FLAG_END_HEADERS, 3, ['a', 'b'], true⟩, []) := by decide

theorem blockField_mem {block name value : Str} (h : blockField block name = some value) :
    (name, value) ∈ [(":method".toList, "GET".toList), (":method".toList, "POST".toList),
      (":path".toList, "/".toList), (":path".toList, "/index.html".toList)] := by
  obtain ⟨index, _, hindex⟩ := List.exists_of_findSome?_eq_some h
  obtain ⟨⟨key, value'⟩, hfield, hkey⟩ := Option.bind_eq_some_iff.1 hindex
  simp only [Option.ite_none_right_eq_some, Option.some.injEq] at hkey
  obtain ⟨rfl, rfl⟩ := hkey
  rw [staticField] at hfield
  split at hfield
  all_goals
    cases hfield
    try decide

theorem HttpRequestTypes.plain_protocol {head : frame_base} {request : List Str}
    (h : plain.parse_http2_request head = .ok request) : plain.protocol request = .HP_2_0 := by
  simp only [plain] at h
  split at h
  · rename_i method path hm hp
    cases h
    have hmethod : method = "GET".toList ∨ method = "POST".toList := by
      simpa using blockField_mem hm
    have hpath : path = "/".toList ∨ path = "/index.html".toList := by
      simpa using blockField_mem hp
    rcases hmethod with rfl | rfl <;> rcases hpath with rfl | rfl <;> decide
  · cases h

end SiteOnYourDevice
