import SiteOnYourDevice.HttpServerHandler
import SiteOnYourDevice.Transition

namespace SiteOnYourDevice
open CString Transition
set_option relaxedAutoImplicit false
set_option autoImplicit true

/-- A relay connection in front of an external host. `eclient_` tells whether it has a
`ProxyRelayClient`, `forwarded` is what the external host took, `received` are the buffers read. -/
structure RelayClientEx where
  client : Http2Client
  phase : Phase
  external_host_ : HostAndPort
  eclient_ : Bool
  forwarded : Str
  received : List Str

/-- A connection of `Http2ClientServerHandler`, by its class. -/
inductive IoClient (ρ : Type*)
  | Http2Client (s : Connection ρ)
  | RelayClient (s : Connection ρ)
  | RelayClientEx (s : RelayClientEx)

/-- What happens to the external host during a read: the error of `connect`, the bytes a `Write`
takes, and its error. -/
structure ExternalOutcome where
  connect : Option Str
  accepted : Nat
  write : Option Str

/-- A read on a connection, and one on its proxy connection; an empty one ends it. -/
inductive ReadEvent
  | data (buff : Str) (ext : ExternalOutcome)
  | proxyData (buff : Str) (accepted : Nat)

namespace Http2ClientServerHandler
variable {ρ : Type*} (net : NetTypes) (http : HttpTypes ρ) (h : HttpServerHandler ρ)

def BUF_SIZE : Nat := 4096

/-- `Http2InnerServer::CreateClient`. -/
def CreateClient (config : HttpConfig) : IoClient ρ :=
  .Http2Client (Connection.new !config.is_private_site)

/-- The connection that `handleInnerRequestCommand` registers for `plz_connect_http`. -/
def relayConnection (config : HttpConfig) : IoClient ρ :=
  if config.server_type = .EXTERNAL_SERVER then
    .RelayClientEx ⟨Http2Client.new.setIsAuthenticated !config.is_private_site, .opened,
      config.external_host, false, [], []⟩
  else .RelayClient (Connection.new !config.is_private_site)

/-- A relay connection is read like a direct one. -/
def relayDataReceived (s : Connection ρ) (buff : Str) : Connection ρ := h.DataReceived http s buff

def send_internal_error (s : RelayClientEx) (protocol : http_protocols) (text : Str) :
    RelayClientEx :=
  match s.client.send_error protocol HS_INTERNAL_ERROR none (some text) false with
  | none => { s with phase := .aborted }
  | some client => { s with client }

def relayExDataReceived (s : RelayClientEx) (buff : Str) (ext : ExternalOutcome) :
    RelayClientEx :=
  if buff = [] then { s with phase := .closed }
  else
    let s := { s with received := s.received ++ [buff] }
    let protocol : http_protocols :=
      if http.is_preface_data buff then .HP_2_0
      else if http.is_frame_header_data buff then .HP_2_0
      else .HP_1_1
    if net.IsValid s.external_host_ then
      match if s.eclient_ then none else ext.connect with
      | some error_text => send_internal_error s protocol error_text
      | none =>
        let s := { s with
          eclient_ := true
          forwarded := s.forwarded ++ buff.take ext.accepted }
        match ext.write with
        | none => s
        | some error_text => send_internal_error s protocol error_text
    else send_internal_error s protocol "Invalid external host!".toList

/-- The end of the proxy connection runs `Closed`, which resets `eclient_`. -/
def proxyDataReceived (s : RelayClientEx) (buff : Str) (accepted : Nat) : RelayClientEx :=
  if buff = [] then { s with eclient_ := false }
  else { s with client := s.client.Write [.raw (buff.take accepted)] }

def DataReceived (client : IoClient ρ) (buff : Str) (ext : ExternalOutcome) : IoClient ρ :=
  match client with
  | .RelayClientEx s => .RelayClientEx (relayExDataReceived net http s buff ext)
  | .RelayClient s => .RelayClient (relayDataReceived http h s buff)
  | .Http2Client s => .Http2Client (h.DataReceived http s buff)

def phase : IoClient ρ → Phase
  | .RelayClientEx s => s.phase
  | .RelayClient s => s.phase
  | .Http2Client s => s.phase

def step (client : IoClient ρ) : ReadEvent → Option (IoClient ρ)
  | .data buff ext =>
    if phase client = .opened ∧ buff.length ≤ BUF_SIZE then
      some (DataReceived net http h client buff ext)
    else none
  | .proxyData buff accepted =>
    match client with
    | .RelayClientEx s =>
      if s.phase = .opened ∧ s.eclient_ ∧ buff.length ≤ BUF_SIZE then
        some (.RelayClientEx (proxyDataReceived s buff accepted))
      else none
    | _ => none

end Http2ClientServerHandler

/-- The requests a buffer holds. -/
def requestsIn {ρ : Type*} (http : HttpTypes ρ) (buff : Str) : List ρ :=
  let ofFrames (frames : List frame_base) :=
    (HttpServerHandler.headers_frames frames).filterMap fun f =>
      (http.parse_http2_request f).toOption
  if http.is_preface_data buff then
    ofFrames (http.parse_frames (buff.drop http.PREFACE_STARTS_LEN))
  else if http.is_frame_header_data buff then ofFrames (http.parse_frames buff)
  else (http.parse_http_request buff).toOption.toList

/-- A request carries the configured login and password: its field `Authorization` has the method
`Basic`, and what it encodes splits at the first colon into the two. -/
def Carries {ρ : Type*} (net : NetTypes) (http : HttpTypes ρ) (config : HttpConfig)
    (request : ρ) : Prop :=
  ∃ enc name password,
    http.findHeaderByKey request "Authorization".toList false =
      some (AUTH_BASIC_METHOD ++ ' ' :: enc) ∧
    http.decode64 enc = name ++ ':' :: password ∧ ':' ∉ name ∧
    name ≠ [] ∧ password ≠ [] ∧
    config.authInfo.isValid net = true ∧ config.login = name ∧ config.password = password

end SiteOnYourDevice
