import SiteOnYourDevice.HttpClient
import SiteOnYourDevice.Infos

namespace SiteOnYourDevice
open CString
set_option relaxedAutoImplicit false
set_option autoImplicit true

def AUTH_BASIC_METHOD : Str := "Basic".toList
def HTTP_PROXY_HOST_NAME : Str := "proxy.siteonyourdevice.com".toList

/-- The status and the text of an error. -/
abbrev HttpError := Nat × Str

/-- What the code takes from the library of HTTP, over its type of requests. `path` is the text of
the path of a request, `findHeaderByKey` the value of a header that is there. -/
structure HttpTypes (ρ : Type*) where
  parse_http_request : Str → Except HttpError ρ
  is_preface_data : Str → Bool
  PREFACE_STARTS_LEN : Nat
  is_frame_header_data : Str → Bool
  parse_frames : Str → List frame_base
  parse_http2_request : frame_base → Except HttpError ρ
  path : ρ → Str
  findHeaderByKey : ρ → Str → Bool → Option Str
  EqualsASCII : Str → Str → Bool → Bool
  decode64 : Str → Str

/-- An `http_server_t` has the number of an enumerator, or any other one that was cast to it. -/
structure http_server_t where
  number : Int32
deriving DecidableEq

namespace http_server_t

def FASTO_SERVER : http_server_t := ⟨0⟩

def EXTERNAL_SERVER : http_server_t := ⟨1⟩

/-- `static_cast` to an `int`, and back. -/
def toInt (t : http_server_t) : Int := t.number.toInt

def ofInt (n : Int) : http_server_t := ⟨.ofInt n⟩

@[simp] theorem ofInt_toInt (t : http_server_t) : ofInt t.toInt = t :=
  congrArg mk (Int32.ofInt_toInt t.number)

end http_server_t

structure HttpConfig where
  local_host : HostAndPort
  login : Str
  password : Str
  is_private_site : Bool
  external_host : HostAndPort
  server_type : http_server_t

/-- `InnerServerHandler::authInfo`. -/
def HttpConfig.authInfo (config : HttpConfig) : UserAuthInfo :=
  ⟨config.login, config.password, config.local_host⟩

/-- `IHttpAuthObserver::userCanAuth`, at the `n`-th request of a connection. -/
abbrev IHttpAuthObserver := Nat → Str → Str → Bool

/-- `HttpAuthObserver::userCanAuth`; `config n` is the configuration of `servh_` at the `n`-th
request. -/
def HttpAuthObserver (net : NetTypes) (config : Nat → HttpConfig) : IHttpAuthObserver :=
  fun n user password =>
    if user = [] then false
    else if password = [] then false
    else
      let ainf := (config n).authInfo
      if !ainf.isValid net then false else ainf.login = user && ainf.password = password

/-- `handleRequest` of a callback, at the `n`-th request of a connection: what it writes and
whether it handled the request. `none` when it ends the process. -/
abbrev IHttpCallback (ρ : Type*) :=
  Nat → Http2Client → ρ → Option (List HttpWritten × Bool)

/-- `httpCallbacks_ uri` is the entry of the map, which may hold a null pointer. -/
structure HttpServerHandler (ρ : Type*) where
  httpCallbacks_ : Str → Option (Option (IHttpCallback ρ))
  fshandler_ : IHttpCallback ρ
  authChecker_ : Option IHttpAuthObserver

/-- A callback that got a request. -/
inductive Handler
  | registered (uri : Str)
  | file_system
deriving DecidableEq

/-- A request that was received, with the callbacks that got it. -/
structure Logged (ρ : Type*) where
  request : ρ
  handlers : List Handler
deriving DecidableEq

/-- `aborted` is the end of the whole process. -/
inductive Phase
  | opened | closed | aborted
deriving DecidableEq

/-- A connection and all the requests received on it. -/
structure Connection (ρ : Type*) where
  client : Http2Client
  phase : Phase
  log : List (Logged ρ)

def Connection.new {ρ : Type*} (isAuth : Bool) : Connection ρ :=
  ⟨Http2Client.new.setIsAuthenticated isAuth, .opened, []⟩

namespace HttpServerHandler
variable {ρ : Type*} (http : HttpTypes ρ) (h : HttpServerHandler ρ)

def setAuthChecker (authChecker : IHttpAuthObserver) : HttpServerHandler ρ :=
  { h with authChecker_ := some authChecker }

/-- The checks of `tryAuthenticateIfNeeded` on the value of the field. -/
def authorized (checker : IHttpAuthObserver) (n : Nat) (auth : Str) : Bool :=
  match strchr ' ' auth with
  | none => false
  | some (method, enc) =>
    if method = AUTH_BASIC_METHOD then
      match strchr ':' (http.decode64 enc.tail) with
      | none => false
      | some (name, password) => checker n name password.tail
    else false

/-- Whether the request was refused. -/
def tryAuthenticateIfNeeded (n : Nat) (hclient : Http2Client) (request : ρ) :
    Option (Bool × Http2Client) :=
  match h.authChecker_ with
  | none => some (false, hclient)
  | some checker =>
    if hclient.isAuth_ then some (false, hclient)
    else
      match http.findHeaderByKey request "Authorization".toList false with
      | some auth =>
        if authorized http checker n auth then some (false, hclient.setIsAuthenticated true)
        else
          (hclient.send_error .HP_1_1 HS_UNAUTHORIZED (some
            "WWW-Authenticate: Basic realm=User or password incorrect, try again".toList)
            none true).map (true, ·)
      | none =>
        (hclient.send_error .HP_1_1 HS_UNAUTHORIZED (some
          "WWW-Authenticate: Basic realm=Private page please authenticate".toList)
          none true).map (true, ·)

/-- The callbacks that got the request, and the result; `NOTREACHED` of a null callback does
nothing. -/
def tryToHandleAsRegisteredCallback (n : Nat) (hclient : Http2Client) (uri : Str) (request : ρ) :
    List Handler × Option (Bool × Http2Client) :=
  match h.httpCallbacks_ uri with
  | some (some callback) =>
    ([.registered uri],
      (callback n hclient request).map fun (written, handled) => (handled, hclient.Write written))
  | _ => ([], some (false, hclient))

/-- The part of `handleRequest` behind the authentication. -/
def callCallbacks (n : Nat) (hclient : Http2Client) (request : ρ) :
    List Handler × Option Http2Client :=
  match h.tryToHandleAsRegisteredCallback n hclient (http.path request) request with
  | (handlers, none) => (handlers, none)
  | (handlers, some (true, hclient)) => (handlers, some hclient)
  | (handlers, some (false, hclient)) =>
    (handlers ++ [.file_system],
      (h.fshandler_ n hclient request).map fun (written, _) => hclient.Write written)

/-- The state of a connection after a request. -/
def finish (s : Connection ρ) (request : ρ) (handlers : List Handler) (notClose : Bool)
    (hclient : Option Http2Client) : Connection ρ where
  client := hclient.getD s.client
  phase := if hclient.isNone then .aborted else if notClose then .opened else .closed
  log := s.log ++ [⟨request, handlers⟩]

def handleRequest (s : Connection ρ) (request : ρ) (notClose : Bool) : Connection ρ :=
  match h.tryAuthenticateIfNeeded http s.log.length s.client request with
  | none => finish s request [] notClose none
  | some (true, hclient) => finish s request [] notClose (some hclient)
  | some (false, hclient) =>
    let (handlers, hclient') := h.callCallbacks http s.log.length hclient request
    finish { s with client := hclient } request handlers notClose hclient'

/-- The end of a connection by `send_error`, `Close` and `delete`. -/
def refuse (s : Connection ρ) (protocol : http_protocols) (error : HttpError) : Connection ρ :=
  match s.client.send_error protocol error.1 none (some error.2) false with
  | none => { s with phase := .aborted }
  | some client => { s with client, phase := .closed }

/-- `HttpServerHandler::processReceived`. -/
def processReceived_http1 (s : Connection ρ) (request : Str) : Connection ρ :=
  match http.parse_http_request request with
  | .error error => refuse s .HP_1_1 error
  | .ok hrequest =>
    let connectionField := (http.findHeaderByKey hrequest "Connection".toList false).getD []
    let isKeepAlive := http.EqualsASCII connectionField "Keep-Alive".toList false
    let hostField := (http.findHeaderByKey hrequest "Host".toList false).getD []
    let isProxy := http.EqualsASCII hostField HTTP_PROXY_HOST_NAME false
    h.handleRequest http s hrequest (isKeepAlive || isProxy)

/-- The loop of `handleHttp2Request` over the `HEADERS` frames. -/
def handleHeaders (s : Connection ρ) : List frame_base → Connection ρ
  | [] => s
  | head :: frames =>
    match http.parse_http2_request head with
    | .error error => refuse s .HP_2_0 error
    | .ok request =>
      let s' := h.handleRequest http s request true
      if s'.phase = .opened then handleHeaders s' frames else s'

def headers_frames (frames : List frame_base) : List frame_base :=
  frames.filter (·.type = .HTTP2_HEADERS)

def handleHttp2Request (s : Connection ρ) (request : Str) : Connection ρ :=
  let frames := http.parse_frames request
  match s.client.processFrames frames with
  | none => { s with phase := .aborted }
  | some client => h.handleHeaders http { s with client } (headers_frames frames)

/-- `Http2ServerHandler::processReceived`. -/
def processReceived (s : Connection ρ) (request : Str) : Connection ρ :=
  if http.is_preface_data request then
    h.handleHttp2Request http s (request.drop http.PREFACE_STARTS_LEN)
  else if http.is_frame_header_data request then h.handleHttp2Request http s request
  else h.processReceived_http1 http s request

/-- A read that fails or is empty ends the connection. -/
def DataReceived (s : Connection ρ) (buff : Str) : Connection ρ :=
  if buff = [] then { s with phase := .closed } else h.processReceived http s buff

end HttpServerHandler

/-- The value of a base64 digit; the padding has none. -/
def base64Digit (c : Char) : Option Nat :=
  if 'A' ≤ c ∧ c ≤ 'Z' then some (c.toNat - 'A'.toNat)
  else if 'a' ≤ c ∧ c ≤ 'z' then some (c.toNat - 'a'.toNat + 26)
  else if isdigit c then some (c.toNat - '0'.toNat + 52)
  else if c = '+' then some 62
  else if c = '/' then some 63
  else none

def base64Decode : Str → Str
  | a :: b :: c :: d :: code =>
    let digit (c : Char) := (base64Digit c).getD 0
    let n := digit a * 2 ^ 18 + digit b * 2 ^ 12 + digit c * 2 ^ 6 + digit d
    let bytes := [n / 2 ^ 16, n / 2 ^ 8 % 2 ^ 8, n % 2 ^ 8].map Char.ofNat
    bytes.take (if c = '=' then 1 else if d = '=' then 2 else 3) ++ base64Decode code
  | _ => []

/-- HTTP/1 alone, a request being its lines. -/
def HttpTypes.plain : HttpTypes (List Str) where
  parse_http_request text := .ok ((text.filter (· ≠ '\r')).splitOn '\n')
  is_preface_data _ := false
  PREFACE_STARTS_LEN := 24
  is_frame_header_data _ := false
  parse_frames _ := []
  parse_http2_request _ := .error (400, [])
  path request := ((request.headD []).splitOn ' ').getD 1 []
  findHeaderByKey request key _ := request.findSome? fun line =>
    (strchr ':' line).bind fun (name, value) =>
      if name.map Char.toLower = key.map Char.toLower then some (value.drop 2) else none
  EqualsASCII a b case_sensitive :=
    if case_sensitive then a = b else a.map Char.toLower = b.map Char.toLower
  decode64 := base64Decode

example : base64Decode "dTpw".toList = "u:p".toList := by decide

end SiteOnYourDevice
