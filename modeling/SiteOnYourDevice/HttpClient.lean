import SiteOnYourDevice.CString

namespace SiteOnYourDevice
open CString
set_option relaxedAutoImplicit false
set_option autoImplicit true

inductive http_protocols
  | HP_1_0 | HP_1_1 | HP_2_0
deriving DecidableEq

def HS_UNAUTHORIZED : Nat := 401
def HS_INTERNAL_ERROR : Nat := 500

/-- The types of HTTP/2 frames; `other` is any number that names none. -/
inductive frame_t
  | HTTP2_DATA | HTTP2_HEADERS | HTTP2_PRIORITY | HTTP2_RST_STREAM | HTTP2_SETTINGS
  | HTTP2_PUSH_PROMISE | HTTP2_PING | HTTP2_GOAWAY | HTTP2_WINDOW_UPDATE | HTTP2_CONTINUATION
  | other
deriving DecidableEq

structure frame_base where
  type : frame_t
  flags : UInt8
  stream_id : Nat
  payload : Str
  IsValid : Bool
deriving DecidableEq

def HTTP2_FLAG_ACK : UInt8 := 1

/-- A stream; the type of its first frame is also its class. -/
structure IStream where
  type : frame_t
  sid : Nat
  negotiated_ : Bool
deriving DecidableEq

/-- What is written to a connection: bytes of an external host, a frame sent back, a frame that
resets a stream, a page as text, and a page as frames of a stream. -/
inductive HttpWritten
  | raw (data : Str)
  | frame (frame : frame_base)
  | reset (stream_id : Nat)
  | text (status : Nat) (extra_header text : Option Str) (is_keep_alive : Bool)
  | frames (stream_id status : Nat) (text : Option Str)
deriving DecidableEq

namespace IStream

/-- `none` is the null stream. -/
def createStream (frame : frame_base) : Option IStream :=
  if frame.IsValid then
    match frame.type with
    | .HTTP2_DATA | .HTTP2_HEADERS | .HTTP2_PRIORITY | .HTTP2_SETTINGS =>
      some ⟨frame.type, frame.stream_id, false⟩
    | _ => none
  else none

def processFrameImpl (s : IStream) (frame : frame_base) : IStream × List HttpWritten :=
  match s.type with
  | .HTTP2_SETTINGS =>
    if frame.type = .HTTP2_SETTINGS then
      ({ s with negotiated_ := s.negotiated_ || frame.flags &&& HTTP2_FLAG_ACK ≠ 0 },
        [.frame frame])
    else if frame.type ≠ .HTTP2_GOAWAY then (s, [.reset s.sid])
    else (s, [])
  | .HTTP2_PRIORITY => (s, [.reset s.sid])
  | _ => (s, [])

/-- An invalid frame is dropped before the stream is looked at; `none` is a call of the virtual
`processFrameImpl` on the null stream. -/
def processFrame (s : Option IStream) (frame : frame_base) :
    Option (Option IStream × List HttpWritten) :=
  if frame.IsValid then
    s.map fun s => ((s.processFrameImpl frame).1, (s.processFrameImpl frame).2)
  else some (s, [])

/-- The scan of a stream table. The outer `none` is a null stream it comes across. -/
def find (p : IStream → Bool) : List (Option IStream) → Option (Option IStream)
  | [] => some none
  | none :: _ => none
  | some s :: streams => if p s then some (some s) else find p streams

/-- The table with another state of the stream that the scan finds. -/
def replace (p : IStream → Bool) (s' : Option IStream) :
    List (Option IStream) → List (Option IStream)
  | some s :: streams => if p s then s' :: streams else some s :: replace p s' streams
  | streams => streams

end IStream

structure Http2Client where
  isAuth_ : Bool
  streams_ : List (Option IStream)
  written : List HttpWritten

namespace Http2Client

def new : Http2Client := ⟨false, [], []⟩

def setIsAuthenticated (auth : Bool) (c : Http2Client) : Http2Client := { c with isAuth_ := auth }

def Write (w : List HttpWritten) (c : Http2Client) : Http2Client :=
  { c with written := c.written ++ w }

def findStreamByStreamID (c : Http2Client) (stream_id : Nat) : Option (Option IStream) :=
  IStream.find (·.sid = stream_id) c.streams_

def findStreamByType (c : Http2Client) (type : frame_t) : Option (Option IStream) :=
  IStream.find (·.type = type) c.streams_

def is_http2 (c : Http2Client) : Option Bool := (c.findStreamByStreamID 0).map Option.isSome

/-- `HttpClient::send_error`; `none` when its `CHECK` of the protocol fails. -/
def send_error_text (protocol : http_protocols) (status : Nat) (extra_header text : Option Str)
    (is_keep_alive : Bool) (c : Http2Client) : Option Http2Client :=
  if protocol = .HP_2_0 then none else some (c.Write [.text status extra_header text is_keep_alive])

/-- `Http2Client::send_error`. The error of a missing stream is only logged by its callers. -/
def send_error (protocol : http_protocols) (status : Nat) (extra_header text : Option Str)
    (is_keep_alive : Bool) (c : Http2Client) : Option Http2Client :=
  c.is_http2.bind fun http2 =>
    if http2 && protocol = .HP_2_0 then
      (c.findStreamByType .HTTP2_HEADERS).map fun
        | some header_stream => c.Write [.frames header_stream.sid status text]
        | none => c
    else c.send_error_text protocol status extra_header text is_keep_alive

/-- The body of the loop of `processFrames`. -/
def processFrame (c : Http2Client) (frame : frame_base) : Option Http2Client :=
  (c.findStreamByStreamID frame.stream_id).bind fun
    | some stream =>
      (IStream.processFrame (some stream) frame).map fun (stream', w) =>
        { c with streams_ := IStream.replace (·.sid = frame.stream_id) stream' c.streams_ }.Write w
    | none =>
      (IStream.processFrame (IStream.createStream frame) frame).map fun (stream', w) =>
        { c with streams_ := c.streams_ ++ [stream'] }.Write w

/-- `none` when a null stream is used. -/
def processFrames (c : Http2Client) : List frame_base → Option Http2Client
  | [] => some c
  | frame :: frames => (c.processFrame frame).bind fun c' => c'.processFrames frames

variable {c c' : Http2Client}

theorem send_error_isAuth {protocol : http_protocols} {status : Nat}
    {extra_header text : Option Str} {keep : Bool}
    (h : c.send_error protocol status extra_header text keep = some c') :
    c'.isAuth_ = c.isAuth_ := by
  obtain ⟨http2, _, h⟩ := Option.bind_eq_some_iff.1 h
  split at h
  · obtain ⟨header_stream, _, rfl⟩ := Option.map_eq_some_iff.1 h
    cases header_stream <;> rfl
  · rw [send_error_text] at h
    split at h
    · cases h
    · cases h
      rfl

theorem processFrame_isAuth {frame : frame_base} (h : c.processFrame frame = some c') :
    c'.isAuth_ = c.isAuth_ := by
  obtain ⟨stream, _, h⟩ := Option.bind_eq_some_iff.1 h
  cases stream <;>
    · obtain ⟨p, _, rfl⟩ := Option.map_eq_some_iff.1 h
      rfl

theorem processFrames_isAuth {frames : List frame_base} (h : c.processFrames frames = some c') :
    c'.isAuth_ = c.isAuth_ := by
  induction frames generalizing c with
  | nil =>
    cases h
    rfl
  | cons frame frames ih =>
    obtain ⟨c₁, h₁, h₂⟩ := Option.bind_eq_some_iff.1 h
    rw [ih h₂, processFrame_isAuth h₁]

end Http2Client

end SiteOnYourDevice
