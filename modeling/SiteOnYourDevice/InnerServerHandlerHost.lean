import SiteOnYourDevice.CommandSeqParser
import SiteOnYourDevice.HttpServerHost
import SiteOnYourDevice.Transition

namespace SiteOnYourDevice
open CString Sds
set_option relaxedAutoImplicit false
set_option autoImplicit true

/-- A callback waiting for the response to a forwarded request: `cb_` is always
`processSubscribed`. Not in the source: `fclient`, the connection the request was written to, and
`written`, the place of this write among all writes. -/
structure RequestCallback where
  request_id_ : cmd_seq_t
  fclient : ClientId
  written : Nat
deriving DecidableEq

/-- One call of `Write`, with the description of its error if it failed. -/
structure Written where
  client : ClientId
  data : Str
  error : Option Str
deriving DecidableEq

/-- A message for the commands-out channel; `answers` is the callback that published it. -/
structure Published where
  msg : Str
  answers : Option RequestCallback
deriving DecidableEq

/-- What one step finds outside the program: the outcome of each write, by its place among all
writes, the user store, and the bytes behind the buffer of `handleMessage`. -/
structure Env where
  writeError : Nat → Option Str
  findUser : UserAuthInfo → Bool
  behindBuff : Nat → Char

/-- Every write succeeds and the store knows everybody. -/
def Env.calm : Env := ⟨fun _ => none, fun _ => true, fun _ => '\x00'⟩

/-- The inner server: the inner loop and the Redis listener thread share its state. `listener` is
the callback the listener thread holds between its write and `subscribeRequest`. -/
structure InnerServerHandlerHost where
  parent_ : HttpServerHost
  id_ : UInt64
  subscribed_requests_ : List RequestCallback
  listener : Option RequestCallback
  writes : List Written
  commands_out : List Published
  clients_state : List Str

namespace InnerServerHandlerHost

def init : InnerServerHandlerHost := ⟨.init, 0, [], none, [], [], []⟩

variable (net : NetTypes) (env : Env)

def Write (c : ClientId) (data : Str) (s : InnerServerHandlerHost) :
    Option Str × InnerServerHandlerHost :=
  let err := env.writeError s.writes.length
  (err, { s with writes := s.writes ++ [⟨c, data, err⟩] })

def publish_command_out (msg : Str) (s : InnerServerHandlerHost) : InnerServerHandlerHost :=
  { s with commands_out := s.commands_out ++ [⟨msg, none⟩] }

def publish_clients_state (msg : Str) (s : InnerServerHandlerHost) : InnerServerHandlerHost :=
  { s with clients_state := s.clients_state ++ [msg] }

/-- `Close` with its callback `Closed`, then `delete`. -/
def closeClient (c : ClientId) (s : InnerServerHandlerHost) : InnerServerHandlerHost :=
  let isOk := (s.parent_.unRegisterInnerConnectionByHost net c).1
  let s' := { s with parent_ := s.parent_.close net c }
  match s.parent_.clients c with
  | none => s'
  | some hinf =>
    if isOk then
      s'.publish_clients_state (SERVER_NOTIFY_CLIENT_DISCONNECTED_1S hinf.host.host)
    else s'

/-- The text `processSubscribed` joins; each argument ends at its first NUL. -/
def joined (request_id : cmd_seq_t) (argv : List Str) : Str :=
  cstr request_id ++ ' ' :: List.intercalate [' '] (argv.map cstr)

def processSubscribed (rc : RequestCallback) (argv : List Str) (s : InnerServerHandlerHost) :
    InnerServerHandlerHost :=
  { s with commands_out := s.commands_out ++ [⟨joined rc.request_id_ argv, some rc⟩] }

/-- `remove_if` runs the callback of every request it removes; a NULL `argv` comes with
`argc` 0. -/
def processRequest (request_id : cmd_seq_t) (argv : Option (List Str))
    (s : InnerServerHandlerHost) : InnerServerHandlerHost :=
  let called := s.subscribed_requests_.filter fun rc => request_id = rc.request_id_
  let kept := s.subscribed_requests_.filter fun rc => request_id ≠ rc.request_id_
  called.foldl (fun s rc => s.processSubscribed rc (argv.getD []))
    { s with subscribed_requests_ := kept }

def subscribeRequest (req : RequestCallback) (s : InnerServerHandlerHost) :
    InnerServerHandlerHost :=
  { s with subscribed_requests_ := s.subscribed_requests_ ++ [req] }

def writeApprove (c : ClientId) (id : cmd_seq_t) (fmt : Fmt) (s : InnerServerHandlerHost) :
    Option Str × InnerServerHandlerHost :=
  s.Write env c (make_approve_responce id fmt).cmd_

/-- An approval of a failure, then the label `fail`. -/
def failWith (c : ClientId) (id : cmd_seq_t) (fmt : Fmt) (s : InnerServerHandlerHost) :
    InnerServerHandlerHost :=
  (s.writeApprove env c id fmt).2.closeClient net c

/-- The last part of the `who_are_you` branch: the host gets its connection. -/
def register (c : ClientId) (uauth : UserAuthInfo) (s : InnerServerHandlerHost) :
    InnerServerHandlerHost :=
  { s with parent_ := s.parent_.registerInnerConnectionByUser uauth c }.publish_clients_state
    (SERVER_NOTIFY_CLIENT_CONNECTED_1S uauth.host.host)

/-- The `who_are_you` branch, for an `argv[2]` that is there. -/
def handleWhoAreYou (c : ClientId) (id : cmd_seq_t) (uauthstr : Str) (s : InnerServerHandlerHost) :
    InnerServerHandlerHost :=
  let uauth := (userAuthInfoOfString net (cstr uauthstr)).getD .empty
  if uauth.isValid net then
    if env.findUser uauth then
      match s.parent_.findInnerConnectionByHost uauth.host.host with
      | some _ =>
        s.failWith net env c id
          (SERVER_WHO_ARE_YOU_COMMAND_APPROVE_FAIL_1S CAUSE_DOUBLE_CONNECTION_HOST)
      | none =>
        match s.writeApprove env c id SERVER_WHO_ARE_YOU_COMMAND_APPROVE_SUCCESS with
        | (some err, s) =>
          s.failWith net env c id (SERVER_WHO_ARE_YOU_COMMAND_APPROVE_FAIL_1S err)
        | (none, s) => s.register c uauth
    else
      s.failWith net env c id (SERVER_WHO_ARE_YOU_COMMAND_APPROVE_FAIL_1S CAUSE_UNREGISTERED_USER)
  else s.failWith net env c id (SERVER_WHO_ARE_YOU_COMMAND_APPROVE_FAIL_1S CAUSE_INVALID_USER)

/-- The `ping` branch; the approval of a failure alone does not end the connection. -/
def handlePong (c : ClientId) (id : cmd_seq_t) (args : List Str) (s : InnerServerHandlerHost) :
    InnerServerHandlerHost :=
  match args with
  | [] => (s.writeApprove env c id (PING_COMMAND_APPROVE_FAIL_1S CAUSE_INVALID_ARGS)).2
  | _ :: _ =>
    match s.writeApprove env c id PING_COMMAND_APPROVE_SUCCESS with
    | (some _, s) => s.closeClient net c
    | (none, s) => s

/-- With no argument at all `argv[0]` is not initialised: taken to match no command here, as in
the other two handlers. -/
def handleInnerResponceCommand (c : ClientId) (id : cmd_seq_t) (argv : List Str)
    (s : InnerServerHandlerHost) : InnerServerHandlerHost :=
  match argv with
  | state_command :: command :: args =>
    if IS_EQUAL_COMMAND state_command SUCCESS_COMMAND then
      if IS_EQUAL_COMMAND command PING_COMMAND then s.handlePong net env c id args
      else if IS_EQUAL_COMMAND command SERVER_WHO_ARE_YOU_COMMAND then
        match args with
        | [] =>
          (s.writeApprove env c id
            (SERVER_WHO_ARE_YOU_COMMAND_APPROVE_FAIL_1S CAUSE_INVALID_ARGS)).2
        | uauthstr :: _ => s.handleWhoAreYou net env c id uauthstr
      else s
    else s
  | _ => s

def handleInnerRequestCommand (c : ClientId) (id : cmd_seq_t) (argv : List Str)
    (s : InnerServerHandlerHost) : InnerServerHandlerHost :=
  match argv with
  | [] => s
  | command :: _ =>
    if IS_EQUAL_COMMAND command PING_COMMAND then
      (s.Write env c (make_responce id PING_COMMAND_RESP_SUCCESS).cmd_).2
    else s

/-- Every branch of the approval handler is empty. -/
def handleInnerApproveCommand (_id : cmd_seq_t) (_argv : List Str) (s : InnerServerHandlerHost) :
    InnerServerHandlerHost := s

/-- The parser of the inner server, at work on a buffer from the connection `c`. -/
def seqParser (c : ClientId) : InnerServerCommandSeqParser InnerServerHandlerHost where
  next_id s := ((next_id s.id_).1, { s with id_ := (next_id s.id_).2 })
  processRequest := processRequest
  Write data s := (s.Write env c data).2
  Close s := s.closeClient net c
  handleInnerRequestCommand id argv s := s.handleInnerRequestCommand env c id argv
  handleInnerResponceCommand id argv s := s.handleInnerResponceCommand net env c id argv
  handleInnerApproveCommand id argv s := s.handleInnerApproveCommand id argv

def writeRequest (c : ClientId) (fmt : Fmt) (s : InnerServerHandlerHost) :
    Option Str × InnerServerHandlerHost :=
  let req := make_request fmt s.id_
  { s with id_ := req.2 }.Write env c req.1.cmd_

def Accepted (s : InnerServerHandlerHost) : InnerServerHandlerHost :=
  let s' := { s with parent_ := s.parent_.accept }
  (s'.writeRequest env s.parent_.accepted SERVER_WHO_ARE_YOU_COMMAND_REQ).2

/-- The ping of one client; the connection ends when it cannot be written. -/
def pingClient (s : InnerServerHandlerHost) (c : ClientId) : InnerServerHandlerHost :=
  match s.writeRequest env c PING_COMMAND_REQ with
  | (some _, s) => s.closeClient net c
  | (none, s) => s

def TimerEmited (s : InnerServerHandlerHost) : InnerServerHandlerHost :=
  let online_clients := (List.range s.parent_.accepted).filter fun c => (s.parent_.clients c).isSome
  online_clients.foldl (pingClient net env) s

/-- The bytes of `Write(buff, len, ..)`, where `len` is the length before the text was cut to
fit into `buff`. -/
def forwarded (rest : Str) : Str :=
  let text := CID_FMT REQUEST_COMMAND ++ ' ' :: rest ++ END_OF_COMMAND
  let buff := text.take (MAX_COMMAND_SIZE - 1)
  let padded := buff ++ List.replicate (MAX_COMMAND_SIZE - buff.length) '\x00'
  (padded ++ (List.range (text.length - MAX_COMMAND_SIZE)).map env.behindBuff).take text.length

/-- The answer to a request that could not be forwarded. The first word of the command is read
without a look at `argc`: `none` when there is none. -/
def publishFail (cause : Str) (id cmd : Str) (s : InnerServerHandlerHost) :
    Option InnerServerHandlerHost :=
  match sdssplitargs cmd with
  | some (command :: _) =>
    some (s.publish_command_out (SERVER_COMMANDS_OUT_FAIL_2US cause id (cstr command)))
  | _ => none

/-- `handleMessage` up to `subscribeRequest`; `none` where it reads an argument that is not there
or writes to a deleted connection. -/
def handleMessage (msg : Str) (s : InnerServerHandlerHost) : Option InnerServerHandlerHost :=
  match strchr ' ' (cstr msg) with
  | none => some (s.publish_command_out ("UNKNOWN COMMAND: ".toList ++ cstr msg))
  | some (host, space) =>
    let rest := space.tail
    let buff := buffText (CID_FMT REQUEST_COMMAND ++ ' ' :: rest ++ END_OF_COMMAND)
    match strtoul buff with
    | (_, ' ' :: star_seq) =>
      match strchr ' ' star_seq with
      | none => some (s.publish_command_out ("PROBLEM EXTRACTING ID: ".toList ++ rest))
      | some (id, cmd) =>
        match s.parent_.findInnerConnectionByHost host with
        | none => s.publishFail CAUSE_NOT_CONNECTED id cmd
        | some fclient =>
          if (s.parent_.clients fclient).isSome then
            match s.Write env fclient (forwarded env rest) with
            | (some _, s) => s.publishFail CAUSE_NOT_HANDLED id cmd
            | (none, s') => some { s' with listener := some ⟨id, fclient, s.writes.length⟩ }
          else none
    | _ => some (s.publish_command_out ("PROBLEM EXTRACTING SEQUENCE: ".toList ++ rest))

/-- The steps of the two threads: of the inner loop an accepted connection, a read on a live one
(an empty one ends it) and the ping timer; of the listener thread `handleMessage` up to its last
call, and `subscribeRequest`. -/
inductive Event
  | accepted (env : Env)
  | dataReceived (c : ClientId) (read : Str) (env : Env)
  | timerEmited (env : Env)
  | handleMessage (msg : Str) (env : Env)
  | subscribeRequest

def step (s : InnerServerHandlerHost) : Event → Option InnerServerHandlerHost
  | .accepted env => some (s.Accepted env)
  | .dataReceived c read env =>
    if (s.parent_.clients c).isSome ∧ read.length ≤ MAX_COMMAND_SIZE then
      some ((seqParser net env c).DataReceived read s)
    else none
  | .timerEmited env => some (s.TimerEmited net env)
  | .handleMessage msg env => if s.listener = none then s.handleMessage env msg else none
  | .subscribeRequest =>
    s.listener.map fun rc => { s with listener := none }.subscribeRequest rc

variable {net env} {s : InnerServerHandlerHost} {c : ClientId} {data : Str} {id : cmd_seq_t}
  {fmt : Fmt} {argv : Option (List Str)}

@[simp] theorem closeClient_parent_ : (s.closeClient net c).parent_ = s.parent_.close net c := by
  simp only [closeClient]
  split <;> [rfl; (split <;> rfl)]

@[simp] theorem failWith_parent_ : (s.failWith net env c id fmt).parent_ = s.parent_.close net c :=
  closeClient_parent_

@[simp] theorem register_parent_ (u : UserAuthInfo) :
    (s.register c u).parent_ = s.parent_.registerInnerConnectionByUser u c := rfl

/-- The callbacks of a frame publish one message each and change nothing else. -/
theorem processRequest_eq (id : cmd_seq_t) (argv : Option (List Str)) (s : InnerServerHandlerHost) :
    s.processRequest id argv =
      { s with
        subscribed_requests_ := s.subscribed_requests_.filter fun rc => id ≠ rc.request_id_
        commands_out := s.commands_out ++
          (s.subscribed_requests_.filter fun rc => id = rc.request_id_).map fun rc =>
            ⟨joined rc.request_id_ (argv.getD []), some rc⟩ } := by
  have hfold : ∀ (l : List RequestCallback) (t : InnerServerHandlerHost),
      l.foldl (fun s rc => s.processSubscribed rc (argv.getD [])) t =
        { t with
          commands_out := t.commands_out ++
            l.map fun rc => ⟨joined rc.request_id_ (argv.getD []), some rc⟩ } := by
    intro l
    induction l with
    | nil => intro t; simp
    | cons rc l ih =>
      intro t
      rw [List.foldl_cons, ih]
      simp [processSubscribed]
  exact hfold _ _

@[simp] theorem processRequest_parent_ : (s.processRequest id argv).parent_ = s.parent_ := by
  rw [processRequest_eq]

@[simp] theorem processRequest_writes : (s.processRequest id argv).writes = s.writes := by
  rw [processRequest_eq]

/-- What `handleMessage` does before its last call: it publishes an answer of its own, or it has
written the request and holds its callback. -/
inductive Handled (s : InnerServerHandlerHost) : InnerServerHandlerHost → Prop
  | answered (ws : List Written) (msg : Str) :
      Handled s { s with
        writes := s.writes ++ ws
        commands_out := s.commands_out ++ [⟨msg, none⟩] }
  | forwarded (id : cmd_seq_t) (fclient : ClientId) (data : Str)
      (live : (s.parent_.clients fclient).isSome = true) :
      Handled s { s with
        writes := s.writes ++ [⟨fclient, data, none⟩]
        listener := some ⟨id, fclient, s.writes.length⟩ }

theorem Handled.of_publish (s : InnerServerHandlerHost) (msg : Str) :
    Handled s (s.publish_command_out msg) := by
  have h := Handled.answered (s := s) [] msg
  rw [List.append_nil] at h
  exact h

theorem Handled.subscribed {s' : InnerServerHandlerHost} (h : Handled s s') :
    s'.subscribed_requests_ = s.subscribed_requests_ := by
  cases h <;> rfl

theorem publishFail_eq {cause cmd : Str} {s' : InnerServerHandlerHost}
    (h : s.publishFail cause id cmd = some s') : ∃ msg, s' = s.publish_command_out msg := by
  rw [publishFail] at h
  split at h
  · cases h
    exact ⟨_, rfl⟩
  · cases h

theorem handleMessage_cases {msg : Str} {s' : InnerServerHandlerHost}
    (h : s.handleMessage env msg = some s') : Handled s s' := by
  rw [handleMessage] at h
  split at h
  · cases h
    exact .of_publish s _
  rename_i host space _
  simp only at h
  split at h
  · split at h
    · cases h
      exact .of_publish s _
    rename_i id cmd _
    split at h
    · obtain ⟨msg', rfl⟩ := publishFail_eq h
      exact .of_publish s msg'
    rename_i fclient _
    split at h
    · rename_i hlive
      split at h
      · rename_i err t ht
        obtain ⟨msg', rfl⟩ := publishFail_eq h
        obtain rfl : (s.Write env fclient (forwarded env space.tail)).2 = t := congrArg Prod.snd ht
        exact .answered [⟨fclient, _, _⟩] msg'
      · rename_i t ht
        cases h
        obtain ⟨herr, rfl⟩ := Prod.mk.inj ht
        have hf := Handled.forwarded (s := s) id fclient (forwarded env space.tail) hlive
        rw [← herr] at hf
        exact hf
    · cases h
  · cases h
    exact .of_publish s _

end InnerServerHandlerHost

end SiteOnYourDevice
