import SiteOnYourDevice.HttpCallbacks
import SiteOnYourDevice.Transition
import SiteOnYourDevice.WebSocketStream

namespace SiteOnYourDevice
open CString Transition
set_option relaxedAutoImplicit false
set_option autoImplicit true

def HS_SWITCH_PROTOCOL : Nat := 101
def WEBSOCK_GUID : Str := "258EAFA5-E914-47DA-95CA-C5AB0DC85B11".toList

/-- What the upgrade takes from the library besides. -/
structure WebSocketTypes (ρ : Type*) extends HttpRequestTypes ρ where
  StringToLowerASCII : Str → Str
  sha1 : Str → Str
  encode64 : Str → Str

/-- What a connection is answered with: 101 with its header, a page with an error, a frame of text
or of bytes, a frame that closes. -/
inductive WebSocketAnswer
  | switched (header_up : Str)
  | refused (status : Nat)
  | echo (odata : List UInt8)
  | closing (odata : List UInt8)
deriving DecidableEq

/-- The frame of text or of bytes that was sent back. -/
def WebSocketAnswer.echo? : WebSocketAnswer → Option (List UInt8)
  | .echo odata => some odata
  | _ => none

/-- A connection of a `WebSocketServerHandler`. Not in the source: `answers`, what the client was
answered with so far. -/
structure WebSocketConnection where
  client : Http2Client
  phase : Phase
  answers : List WebSocketAnswer

namespace WebSocketConnection
open WebSocketServerHandler
variable {ρ : Type*} (http : WebSocketTypes ρ) {s s' : WebSocketConnection} {buff : List UInt8}

def new : WebSocketConnection := ⟨.new, .opened, []⟩

/-- The bytes of a read as the text that HTTP sees. -/
def asText (buff : List UInt8) : Str := buff.map fun b => Char.ofNat b.toNat

/-- `Write` of a frame. -/
def writeFrame (answer : WebSocketAnswer) (odata : List UInt8) (s : WebSocketConnection) :
    WebSocketConnection :=
  { s with
    client := s.client.Write [.raw (asText odata)]
    answers := s.answers ++ [answer] }

/-- `send_error`; the connection is not closed by it. -/
def send_error (protocol : http_protocols) (status : Nat) (text : Str) (notClose : Bool)
    (s : WebSocketConnection) : WebSocketConnection :=
  match s.client.send_error protocol status none (some text) notClose with
  | none => { s with phase := .aborted }
  | some client => { s with client, answers := s.answers ++ [.refused status] }

def badRequest (protocol : http_protocols) (notClose : Bool) (s : WebSocketConnection) :
    WebSocketConnection :=
  s.send_error protocol HS_BAD_REQUEST "Bad Request".toList notClose

/-- `header_up`, for the value of the key. -/
def headerUp (key : Str) : Str :=
  "Upgrade: websocket\r\nConnection: Upgrade\r\nSec-WebSocket-Accept: ".toList ++
    http.encode64 (http.sha1 (key ++ WEBSOCK_GUID))

/-- The end of `handleRequest`; without a stream for the headers nothing is sent. -/
def switchProtocol (protocol : http_protocols) (header_up : Str) (notClose : Bool)
    (s : WebSocketConnection) : WebSocketConnection :=
  match s.client.send_headers http.toHttpRequestTypes protocol
      ⟨HS_SWITCH_PROTOCOL, some header_up, none, none, none, notClose⟩ with
  | none => { s with phase := .aborted }
  | some (true, w) =>
    { s with client := s.client.Write w, answers := s.answers ++ [.switched header_up] }
  | some (false, w) => { s with client := s.client.Write w }

def handleRequest (request : ρ) (notClose : Bool) (s : WebSocketConnection) :
    WebSocketConnection :=
  let protocol := http.protocol request
  if http.method request ≠ .HM_GET then s.badRequest protocol notClose
  else
    let connectionField := (http.findHeaderByKey request "Connection".toList false).getD []
    -- `find_first_of`: any of the letters will do
    let isUpgrade := (http.StringToLowerASCII connectionField).any (· ∈ "upgrade".toList)
    if !isUpgrade then s.badRequest protocol notClose
    else
      let upgradeField := (http.findHeaderByKey request "Upgrade".toList false).getD []
      if !http.EqualsASCII upgradeField "websocket".toList false then
        s.badRequest protocol notClose
      else
        match http.findHeaderByKey request "Sec-WebSocket-Key".toList false,
            http.findHeaderByKey request "Sec-WebSocket-Version".toList false with
        | some key, some _ => s.switchProtocol http protocol (headerUp http key) notClose
        | _, _ => s.badRequest protocol notClose

/-- `send_error` of a request that is none, with `Close` and `delete`. -/
def refuse (protocol : http_protocols) (error : HttpError) (s : WebSocketConnection) :
    WebSocketConnection :=
  let s' := s.send_error protocol error.1 error.2 false
  if s'.phase = .aborted then s' else { s' with phase := .closed }

/-- `HttpServerHandler::processReceived`, with the `handleRequest` of this class. -/
def processReceived_http1 (request : Str) (s : WebSocketConnection) : WebSocketConnection :=
  match http.parse_http_request request with
  | .error error => s.refuse .HP_1_1 error
  | .ok hrequest =>
    let connectionField := (http.findHeaderByKey hrequest "Connection".toList false).getD []
    let isKeepAlive := http.EqualsASCII connectionField "Keep-Alive".toList false
    let hostField := (http.findHeaderByKey hrequest "Host".toList false).getD []
    let isProxy := http.EqualsASCII hostField HTTP_PROXY_HOST_NAME false
    s.handleRequest http hrequest (isKeepAlive || isProxy)

/-- The loop of `handleHttp2Request`. -/
def handleHeaders : List frame_base → WebSocketConnection → WebSocketConnection
  | [], s => s
  | head :: frames, s =>
    match http.parse_http2_request head with
    | .error error => s.refuse .HP_2_0 error
    | .ok request =>
      let s' := s.handleRequest http request true
      if s'.phase = .opened then handleHeaders frames s' else s'

def handleHttp2Request (request : Str) (s : WebSocketConnection) : WebSocketConnection :=
  let frames := http.parse_frames request
  match s.client.processFrames frames with
  | none => { s with phase := .aborted }
  | some client =>
    handleHeaders http (HttpServerHandler.headers_frames frames) { s with client }

/-- `Http2ServerHandler::processReceived`. -/
def processReceived_http2 (request : Str) (s : WebSocketConnection) : WebSocketConnection :=
  if http.is_preface_data request then
    s.handleHttp2Request http (request.drop http.PREFACE_STARTS_LEN)
  else if http.is_frame_header_data request then s.handleHttp2Request http request
  else s.processReceived_http1 http request

/-- `WebSocketServerHandler::processReceived` on the connection. -/
def reply (buff : List UInt8) (s : WebSocketConnection) : WebSocketConnection :=
  match WebSocketServerHandler.processReceived buff with
  | .http2 => s.processReceived_http2 http (asText buff)
  | .write odata => s.writeFrame (.echo odata) odata
  | .writeAndClose odata => { s.writeFrame (.closing odata) odata with phase := .closed }
  | .close => { s with phase := .closed }
  | .nothing => s
  | .overflow => { s with phase := .aborted }

/-- A read of an open connection. -/
def step (s : WebSocketConnection) (buff : List UInt8) : Option WebSocketConnection :=
  if s.phase = .opened ∧ buff.length ≤ WebSocketServerHandler.BUF_SIZE then
    some (if buff = [] then { s with phase := .closed } else s.reply http buff)
  else none

/-- The frames of text and of bytes that were sent back. -/
def echoes (s : WebSocketConnection) : List (List UInt8) :=
  s.answers.filterMap WebSocketAnswer.echo?

/-- A request was answered with 101, and none behind it was refused. -/
def Handshaken (answers : List WebSocketAnswer) : Prop :=
  ∃ before header_up after, answers = before ++ .switched header_up :: after ∧
    ∀ status, .refused status ∉ after

/-- Every echo comes after a handshake. -/
def EchoesHandshaken (s : WebSocketConnection) : Prop :=
  ∀ before odata after, s.answers = before ++ .echo odata :: after → Handshaken before

/-- What a read is sent back as, when it is a complete frame of text or of bytes. -/
def echoOf (buff : List UInt8) : Option (List UInt8) :=
  match wsParseInputFrame buff with
  | (.WS_TEXT_FRAME, data) => wsMakeFrame data .WS_TEXT_FRAME
  | (.WS_BINARY_FRAME, data) => wsMakeFrame data .WS_BINARY_FRAME
  | _ => none

variable {http}

theorem echoes_answer (answer : WebSocketAnswer) (h : s'.answers = s.answers ++ [answer]) :
    s'.echoes = s.echoes ++ answer.echo?.toList := by
  rw [echoes, h, List.filterMap_append, echoes]
  cases answer <;> rfl

theorem send_error_echoes (protocol : http_protocols) (status : Nat) (text : Str)
    (notClose : Bool) : (s.send_error protocol status text notClose).echoes = s.echoes := by
  rw [send_error]
  split
  · rfl
  · exact (echoes_answer _ rfl).trans (List.append_nil _)

theorem switchProtocol_echoes (protocol : http_protocols) (header_up : Str) (notClose : Bool) :
    (s.switchProtocol http protocol header_up notClose).echoes = s.echoes := by
  rw [switchProtocol]
  split
  · rfl
  · exact (echoes_answer _ rfl).trans (List.append_nil _)
  · rfl

variable (http) in
/-- A request is never answered with a frame of text or of bytes. -/
theorem handleRequest_echoes (request : ρ) (notClose : Bool) :
    (s.handleRequest http request notClose).echoes = s.echoes := by
  simp only [handleRequest]
  split
  · exact send_error_echoes _ _ _ _
  · split
    · exact send_error_echoes _ _ _ _
    · split
      · exact send_error_echoes _ _ _ _
      · split
        · exact switchProtocol_echoes _ _ _
        · exact send_error_echoes _ _ _ _

theorem refuse_echoes (protocol : http_protocols) (error : HttpError) :
    (s.refuse protocol error).echoes = s.echoes := by
  have herror := send_error_echoes (s := s) protocol error.1 error.2 false
  simp only [refuse]
  split
  · exact herror
  · exact herror

theorem processReceived_http1_echoes (request : Str) :
    (s.processReceived_http1 http request).echoes = s.echoes := by
  rw [processReceived_http1]
  split
  · exact refuse_echoes _ _
  · exact handleRequest_echoes http _ _

theorem handleHeaders_echoes (frames : List frame_base) :
    (handleHeaders http frames s).echoes = s.echoes := by
  induction frames generalizing s with
  | nil => rfl
  | cons head frames ih =>
    rw [handleHeaders]
    split
    · exact refuse_echoes _ _
    · rename_i request _
      have hrequest := handleRequest_echoes http (s := s) request true
      dsimp only
      split
      · exact ih.trans hrequest
      · exact hrequest

theorem handleHttp2Request_echoes (request : Str) :
    (s.handleHttp2Request http request).echoes = s.echoes := by
  simp only [handleHttp2Request]
  split
  · rfl
  · exact handleHeaders_echoes _

theorem processReceived_http2_echoes (request : Str) :
    (s.processReceived_http2 http request).echoes = s.echoes := by
  rw [processReceived_http2]
  split
  · exact handleHttp2Request_echoes _
  · split
    · exact handleHttp2Request_echoes _
    · exact processReceived_http1_echoes _

/-- What a read is sent back as depends on its bytes alone. -/
theorem processReceived_write (odata : List UInt8) :
    processReceived buff = .write odata ↔ echoOf buff = some odata := by
  rcases hframe : wsParseInputFrame buff with ⟨type, data⟩
  have hwrite (made : Option (List UInt8)) :
      made.elim Reply.overflow .write = .write odata ↔ made = some odata := by
    cases made <;> simp
  have hclose (made : Option (List UInt8)) :
      made.elim Reply.overflow .writeAndClose ≠ .write odata := by
    cases made <;> simp
  rw [processReceived, echoOf, hframe]
  cases type with
  | WS_TEXT_FRAME => exact hwrite _
  | WS_BINARY_FRAME => exact hwrite _
  | WS_INCOMPLETE_FRAME =>
    by_cases hlength : buff.length = BUF_LEN
    · simpa [hlength] using hclose _
    · simp [hlength]
  | _ => simp

theorem reply_echoes : (s.reply http buff).echoes = s.echoes ++ (echoOf buff).toList := by
  have hnone (h : ∀ odata, processReceived buff ≠ .write odata) : echoOf buff = none := by
    apply Option.eq_none_iff_forall_ne_some.2
    intro odata ho
    exact h odata ((processReceived_write odata).2 ho)
  rw [reply]
  cases hp : processReceived buff with
  | write odata =>
    rw [(processReceived_write odata).1 hp]
    exact echoes_answer (.echo odata) rfl
  | http2 =>
    rw [hnone (by simp [hp])]
    exact (processReceived_http2_echoes _).trans (List.append_nil _).symm
  | writeAndClose odata =>
    rw [hnone (by simp [hp])]
    exact echoes_answer (.closing odata) rfl
  | close =>
    rw [hnone (by simp [hp])]
    exact (List.append_nil _).symm
  | nothing =>
    rw [hnone (by simp [hp])]
    exact (List.append_nil _).symm
  | overflow =>
    rw [hnone (by simp [hp])]
    exact (List.append_nil _).symm

theorem step_echoes (h : step http s buff = some s') :
    s'.echoes = s.echoes ++ (echoOf buff).toList := by
  rw [step] at h
  split at h
  · cases h
    split
    · subst buff
      exact (List.append_nil _).symm
    · exact reply_echoes
  · cases h

theorem run_echoes_append {buffs : List (List UInt8)} (h : run (step http) s buffs = some s') :
    s'.echoes = s.echoes ++ buffs.filterMap echoOf := by
  induction buffs generalizing s with
  | nil =>
    cases h
    exact (List.append_nil _).symm
  | cons buff buffs ih =>
    obtain ⟨t, ht, hrun⟩ := Option.bind_eq_some_iff.1 h
    rw [ih hrun, step_echoes ht, List.append_assoc, List.filterMap_cons]
    cases echoOf buff <;> rfl

/-- A connection has no state of a handshake: over all its reads it echoes the frames of text and of
bytes among them, in order, and the requests in between make no difference. -/
theorem run_echoes {buffs : List (List UInt8)} (h : run (step http) new buffs = some s) :
    s.echoes = buffs.filterMap echoOf :=
  run_echoes_append h

/-- The hash of the sample key `dGhlIHNhbXBsZSBub25jZQ==`. -/
def sampleHash : Str :=
  [0xb3, 0x7a, 0x4f, 0x2c, 0xc0, 0x62, 0x4f, 0x16, 0x90, 0xf6, 0x46, 0x06, 0xcf, 0x38, 0x59, 0x45,
    0xb2, 0xbe, 0xc4, 0xea].map Char.ofNat

/-- HTTP/1 with the hash of that one key. -/
def plain : WebSocketTypes (List Str) where
  toHttpRequestTypes := .plain
  StringToLowerASCII text := text.map Char.toLower
  sha1 text :=
    if text = "dGhlIHNhbXBsZSBub25jZQ==".toList ++ WEBSOCK_GUID then sampleHash else []
  encode64 text := if text = sampleHash then "s3pPLMBiTxaQ9kYGzzhZRbK+xOo=".toList else []

def bytes (text : String) : List UInt8 := text.toList.map fun c => UInt8.ofNat c.toNat

def upgradeRequest : List UInt8 :=
  bytes ("GET /chat HTTP/1.1\r\nConnection: Upgrade\r\nUpgrade: websocket\r\n" ++
    "Sec-WebSocket-Key: dGhlIHNhbXBsZSBub25jZQ==\r\nSec-WebSocket-Version: 13\r\n\r\n")

def pageRequest : List UInt8 := bytes "GET / HTTP/1.1\r\nHost: d\r\n\r\n"

/-- Two greetings, the first before any request, between them an upgrade and a refused request. -/
def conversation : List (List UInt8) :=
  [textFrame.text, upgradeRequest, pageRequest, textFrame.text]

theorem run_echoes_conversation :
    ∃ s, run (step plain) new conversation = some s ∧
      s.echoes = conversation.filterMap echoOf ∧
      s.answers = [.echo [0x81, 2, 0x48, 0x69],
        .switched (headerUp plain "dGhlIHNhbXBsZSBub25jZQ==".toList), .refused HS_BAD_REQUEST,
        .echo [0x81, 2, 0x48, 0x69]] := by
  have hrun : (run (step plain) new conversation).map (·.answers) =
      some [.echo [0x81, 2, 0x48, 0x69],
        .switched (headerUp plain "dGhlIHNhbXBsZSBub25jZQ==".toList), .refused HS_BAD_REQUEST,
        .echo [0x81, 2, 0x48, 0x69]] := by decide +kernel
  obtain ⟨s, hs, hanswers⟩ := Option.map_eq_some_iff.1 hrun
  exact ⟨s, hs, run_echoes hs, hanswers⟩

/-- A greeting on a new connection is echoed. -/
theorem not_echoesHandshaken :
    ∃ s, run (step plain) new [textFrame.text] = some s ∧ ¬ s.EchoesHandshaken := by
  refine ⟨_, rfl, ?_⟩
  intro h
  obtain ⟨before, header_up, after, hanswers, _⟩ := h [] [0x81, 2, 0x48, 0x69] [] rfl
  simp at hanswers

end WebSocketConnection

end SiteOnYourDevice
