import SiteOnYourDevice.HonestApprovals

namespace SiteOnYourDevice
open CString JsonC
set_option relaxedAutoImplicit false
set_option autoImplicit true

/-- The handler of a device with the sockets of its `common::net::connect` calls, numbered in their
order. `owned` are those that a relay client handed to a loop was made of, `closed` those that were
closed; neither handler of a relay request closes one. -/
structure DeviceSockets (Url : Type) extends InnerServerHandler Url where
  opened : Nat
  owned : List Nat
  closed : List Nat

namespace DeviceSockets

variable {Url : Type} (types : CommonTypes Url) (json : Texts) (env : DeviceEnv)

def Write (data : Str) (s : DeviceSockets Url) : Option Str × DeviceSockets Url :=
  let written := s.toInnerServerHandler.Write env data
  (written.1, { s with toInnerServerHandler := written.2 })

def respond (id : cmd_seq_t) (fmt : Fmt) (s : DeviceSockets Url) : DeviceSockets Url :=
  (s.Write env (make_responce id fmt).cmd_).2

/-- `common::net::connect`: the new socket, unless it fails. -/
def connect (host : HostAndPort) (s : DeviceSockets Url) : Option Nat × DeviceSockets Url :=
  if env.connect host then (some s.opened, { s with opened := s.opened + 1 }) else (none, s)

/-- A relay client of the socket, handed to a loop. -/
def registerRelay (rinfo : Nat) (relay : RegisteredRelay) (s : DeviceSockets Url) :
    DeviceSockets Url :=
  { s with
    toInnerServerHandler := s.toInnerServerHandler.registerRelay relay
    owned := s.owned ++ [rinfo] }

def handleConnectHttp (id : cmd_seq_t) (args : List Str) (s : DeviceSockets Url) :
    DeviceSockets Url :=
  match args with
  | [] => s.respond env id (CLIENT_PLEASE_CONNECT_HTTP_COMMAND_RESP_FAIL_1S CAUSE_INVALID_ARGS)
  | hostandport :: _ =>
    match s.connect env (types.hostAndPort (cstr hostandport)) with
    | (none, s) =>
      s.respond env id (CLIENT_PLEASE_CONNECT_HTTP_COMMAND_RESP_FAIL_1S CAUSE_CONNECT_FAILED)
    | (some rinfo, s) =>
      if env.FindExistLoopByPredicate ["local_http_server".toList, "proxy_http_server".toList] then
        match s.Write env (make_responce id
            (CLIENT_PLEASE_CONNECT_HTTP_COMMAND_RESP_SUCCSESS_1S (cstr hostandport))).cmd_ with
        | (some _, s) => s
        | (none, s) =>
          s.registerRelay rinfo
            ⟨if s.config_.server_type = .EXTERNAL_SERVER then some s.config_.external_host else none,
              !s.config_.is_private_site⟩
      else
        s.respond env id (CLIENT_PLEASE_CONNECT_HTTP_COMMAND_RESP_FAIL_1S CAUSE_CONNECT_FAILED)

/-- The loop that a web socket goes to. -/
def websocketLoop (host_src : HostAndPort) (s : DeviceSockets Url) : Bool :=
  if s.config_.server_type = .EXTERNAL_SERVER then
    env.FindExistLoopByPredicate ["proxy_http_server".toList]
  else env.FindExistServerByHost host_src

def handleConnectWebsocket (id : cmd_seq_t) (args : List Str) (s : DeviceSockets Url) :
    DeviceSockets Url :=
  match args with
  | hostandport :: hostandport_src :: _ =>
    let host_src := types.hostAndPort (cstr hostandport_src)
    if types.IsValid host_src then
      match s.connect env (types.hostAndPort (cstr hostandport)) with
      | (none, s) =>
        s.respond env id
          (CLIENT_PLEASE_CONNECT_WEBSOCKET_COMMAND_RESP_FAIL_1S CAUSE_CONNECT_FAILED)
      | (some rinfo, s) =>
        if s.websocketLoop env host_src then
          (s.registerRelay rinfo
            ⟨if s.config_.server_type = .EXTERNAL_SERVER then some host_src else none,
              false⟩).respond env id
            (CLIENT_PLEASE_CONNECT_WEBSOCKET_COMMAND_RESP_SUCCSESS_1S (cstr hostandport))
        else
          s.respond env id (CLIENT_PLEASE_CONNECT_WEBSOCKET_COMMAND_RESP_FAIL_1S CAUSE_INVALID_ARGS)
    else
      s.respond env id (CLIENT_PLEASE_CONNECT_WEBSOCKET_COMMAND_RESP_FAIL_1S CAUSE_INVALID_ARGS)
  | _ => s.respond env id (CLIENT_PLEASE_CONNECT_WEBSOCKET_COMMAND_RESP_FAIL_1S CAUSE_INVALID_ARGS)

/-- The handler of the requests; the other commands open no socket. -/
def handleInnerRequestCommand (id : cmd_seq_t) (argv : List Str) (s : DeviceSockets Url) :
    Option (DeviceSockets Url) :=
  match argv with
  | [] => some s
  | command :: args =>
    if IS_EQUAL_COMMAND command SERVER_PLEASE_CONNECT_HTTP_COMMAND then
      some (s.handleConnectHttp types env id args)
    else if IS_EQUAL_COMMAND command SERVER_PLEASE_CONNECT_WEBSOCKET_COMMAND then
      some (s.handleConnectWebsocket types env id args)
    else
      (s.toInnerServerHandler.handleInnerRequestCommand types json env id (command :: args)).map
        fun h => { s with toInnerServerHandler := h }

end DeviceSockets

/-- The two requests for a relay connection. -/
inductive RelayRequest
  | http
  | websocket
deriving DecidableEq

def RelayRequest.command : RelayRequest → Str
  | .http => SERVER_PLEASE_CONNECT_HTTP_COMMAND
  | .websocket => SERVER_PLEASE_CONNECT_WEBSOCKET_COMMAND

/-- The sockets that a call opened are owned or closed by then, and with the answer of a failure no
relay connection was made. -/
structure Released {Url : Type} (s s' : DeviceSockets Url) : Prop where
  sockets : ∀ rinfo, s.opened ≤ rinfo → rinfo < s'.opened →
    rinfo ∈ s'.owned.drop s.owned.length ∨ rinfo ∈ s'.closed.drop s.closed.length
  failed : ∀ answer ∈ s'.writes.drop s.writes.length, statusWord answer.1 = some FAIL_COMMAND →
    s'.relays = s.relays ∧ s'.owned = s.owned

namespace RelayRequest

variable {Url : Type} (types : CommonTypes Url) (env : DeviceEnv)

/-- The request gets to its `connect`, which succeeds. -/
def Connects : RelayRequest → List Str → Prop
  | http, hostandport :: _ => env.connect (types.hostAndPort (cstr hostandport)) = true
  | websocket, hostandport :: hostandport_src :: _ =>
    types.IsValid (types.hostAndPort (cstr hostandport_src)) = true ∧
      env.connect (types.hostAndPort (cstr hostandport)) = true
  | _, _ => False

/-- What comes after the `connect` goes well: there is a loop for the connection, and the response
of an `http` request can be written. -/
def HandsOver (s : DeviceSockets Url) : RelayRequest → List Str → Prop
  | http, _ =>
    env.FindExistLoopByPredicate ["local_http_server".toList, "proxy_http_server".toList] = true ∧
      env.writeError s.writes.length = none
  | websocket, _ :: hostandport_src :: _ =>
    s.websocketLoop env (types.hostAndPort (cstr hostandport_src)) = true
  | websocket, _ => False

end RelayRequest

namespace DeviceSockets

variable {Url : Type} {types : CommonTypes Url} {json : Texts} {env : DeviceEnv} {id : cmd_seq_t}
  {s s' : DeviceSockets Url} {count : Nat} {new : List Nat}

theorem handleConnectHttp_handler (args : List Str) :
    (s.handleConnectHttp types env id args).toInnerServerHandler =
      s.toInnerServerHandler.handleConnectHttp types env id args := by
  cases args with
  | nil => rfl
  | cons hostandport args =>
    simp only [handleConnectHttp, InnerServerHandler.handleConnectHttp, connect]
    cases env.connect (types.hostAndPort (cstr hostandport)) with
    | false => rfl
    | true =>
      simp only [if_true]
      split
      · simp only [Write, InnerServerHandler.Write]
        cases env.writeError s.writes.length <;> rfl
      · rfl

theorem handleConnectWebsocket_handler (args : List Str) :
    (s.handleConnectWebsocket types env id args).toInnerServerHandler =
      s.toInnerServerHandler.handleConnectWebsocket types env id args := by
  cases args with
  | nil => rfl
  | cons hostandport args =>
    cases args with
    | nil => rfl
    | cons hostandport_src args =>
      simp only [handleConnectWebsocket, InnerServerHandler.handleConnectWebsocket, connect]
      split
      · cases env.connect (types.hostAndPort (cstr hostandport)) with
        | false => rfl
        | true =>
          simp only [if_true, websocketLoop]
          by_cases ht : s.config_.server_type = .EXTERNAL_SERVER
          · simp only [if_pos ht]
            split <;> rfl
          · simp only [if_neg ht]
            split <;> rfl
      · rfl

/-- Without its sockets, the handler of the requests is the one of the device. -/
theorem handleInnerRequestCommand_handler (argv : List Str) :
    (s.handleInnerRequestCommand types json env id argv).map toInnerServerHandler =
      s.toInnerServerHandler.handleInnerRequestCommand types json env id argv := by
  cases argv with
  | nil => rfl
  | cons command args =>
    simp only [handleInnerRequestCommand]
    split
    · rename_i hhttp
      have hother := InnerServerHandler.names_one (by decide) hhttp
      rw [Option.map_some, handleConnectHttp_handler]
      simp only [InnerServerHandler.handleInnerRequestCommand, if_pos hhttp,
        hother PING_COMMAND (by decide) (by decide),
        hother SERVER_WHO_ARE_YOU_COMMAND (by decide) (by decide), Bool.false_eq_true, if_false]
    split
    · rename_i hhttp hweb
      have hother := InnerServerHandler.names_one (by decide) hweb
      rw [Option.map_some, handleConnectWebsocket_handler]
      simp only [InnerServerHandler.handleInnerRequestCommand, if_pos hweb, if_neg hhttp,
        hother PING_COMMAND (by decide) (by decide),
        hother SERVER_WHO_ARE_YOU_COMMAND (by decide) (by decide), Bool.false_eq_true, if_false]
    · rw [Option.map_map]
      exact Option.map_id_apply

/-- One call of a relay handler: how many sockets it opened, which of them it handed over, and its
one answer, which is a success when there was one to hand over. -/
structure Called (id : cmd_seq_t) (count : Nat) (new : List Nat) (s s' : DeviceSockets Url) :
    Prop where
  opened : s'.opened = s.opened + count
  owned : s'.owned = s.owned ++ new
  closed : s'.closed = s.closed
  relays : new = [] → s'.relays = s.relays
  answer : ∃ CMD CMD_FMT err,
    s'.writes = s.writes ++
        [((make_responce id (GENEATATE_SUCCESS_FMT CMD CMD_FMT)).cmd_, err)] ∨
      new = [] ∧ s'.writes = s.writes ++
        [((make_responce id (GENEATATE_FAIL_FMT CMD CMD_FMT)).cmd_, err)]

/-- After one call nothing is left behind when what it opened is what it handed over. -/
theorem Called.released (h : Called id count new s s') (hid : AnsweredId id) :
    Released s s' ↔ ∀ rinfo, s.opened ≤ rinfo → rinfo < s.opened + count → rinfo ∈ new := by
  have hnew : s'.owned.drop s.owned.length = new := by rw [h.owned, List.drop_left]
  have hclosed : s'.closed.drop s.closed.length = [] := by rw [h.closed, List.drop_length]
  apply Iff.intro
  · intro hr rinfo hle hlt
    obtain hm | hm := hr.sockets rinfo hle (by rw [h.opened]; exact hlt)
    · rwa [hnew] at hm
    · rw [hclosed] at hm
      exact absurd hm List.not_mem_nil
  · intro hall
    refine ⟨?_, ?_⟩
    · intro rinfo hle hlt
      rw [h.opened] at hlt
      rw [hnew]
      exact .inl (hall rinfo hle hlt)
    · intro answer hm hfail
      obtain ⟨CMD, CMD_FMT, err, hw | ⟨hnil, hw⟩⟩ := h.answer
      · rw [hw, List.drop_left, List.mem_singleton] at hm
        rw [hm] at hfail
        have hok := hid.statusWord_success (t := RESPONCE_COMMAND) (by decide) CMD CMD_FMT
        have hne : SUCCESS_COMMAND ≠ FAIL_COMMAND := by decide
        exact absurd (Option.some.inj (hok.symm.trans hfail)) hne
      · refine ⟨h.relays hnil, ?_⟩
        rw [h.owned, hnil, List.append_nil]

theorem Called.fail (count : Nat) (CMD CMD_FMT : Str) :
    Called id count [] s
      ({ s with opened := s.opened + count }.respond env id (GENEATATE_FAIL_FMT CMD CMD_FMT)) :=
  ⟨rfl, (List.append_nil _).symm, rfl, fun _ => rfl, CMD, CMD_FMT, _, .inr ⟨rfl, rfl⟩⟩

/-- A socket that was opened and not handed over is left behind. -/
theorem not_handed (s : DeviceSockets Url) :
    ¬ ∀ rinfo, s.opened ≤ rinfo → rinfo < s.opened + 1 → rinfo ∈ ([] : List Nat) := by
  intro h
  exact absurd (h s.opened le_rfl (Nat.lt_succ_self _)) List.not_mem_nil

theorem none_opened (s : DeviceSockets Url) (new : List Nat) :
    ∀ rinfo, s.opened ≤ rinfo → rinfo < s.opened + 0 → rinfo ∈ new := by
  intro rinfo hle hlt
  omega

theorem one_handed (s : DeviceSockets Url) :
    ∀ rinfo, s.opened ≤ rinfo → rinfo < s.opened + 1 → rinfo ∈ [s.opened] := by
  intro rinfo hle hlt
  rw [List.mem_singleton]
  omega

/-- What the handler of a relay request does with its socket. -/
def Balanced (id : cmd_seq_t) (s s' : DeviceSockets Url) (P : Prop) : Prop :=
  ∃ count new, Called id count new s s' ∧
    ((∀ rinfo, s.opened ≤ rinfo → rinfo < s.opened + count → rinfo ∈ new) ↔ P)

/-- Nothing is opened, and the request fails. -/
theorem Balanced.refused {P : Prop} (CMD CMD_FMT : Str) (hP : P) :
    Balanced id s (s.respond env id (GENEATATE_FAIL_FMT CMD CMD_FMT)) P :=
  ⟨0, [], Called.fail 0 _ _, iff_of_true (none_opened s []) hP⟩

/-- The socket is opened, and the request fails behind it. -/
theorem Balanced.leftOpen {P : Prop} (CMD CMD_FMT : Str) (hP : ¬ P) :
    Balanced id s
      ({ s with opened := s.opened + 1 }.respond env id (GENEATATE_FAIL_FMT CMD CMD_FMT)) P :=
  ⟨1, [], Called.fail 1 _ _, iff_of_false (not_handed s) hP⟩

theorem handleConnectHttp_balanced (args : List Str) :
    Balanced id s (s.handleConnectHttp types env id args)
      (RelayRequest.http.Connects types env args →
        RelayRequest.http.HandsOver types env s args) := by
  cases args with
  | nil => exact .refused _ _ (by simp [RelayRequest.Connects])
  | cons hostandport args =>
    simp only [handleConnectHttp, connect, RelayRequest.Connects, RelayRequest.HandsOver]
    cases hc : env.connect (types.hostAndPort (cstr hostandport)) with
    | false => exact .refused _ _ (by simp)
    | true =>
      simp only [if_true]
      split
      · rename_i hloop
        simp only [Write, InnerServerHandler.Write]
        cases hw : env.writeError s.writes.length with
        | some err =>
          refine ⟨1, [], ⟨rfl, (List.append_nil _).symm, rfl, fun _ => rfl, _, _, _, .inl rfl⟩,
            iff_of_false (not_handed s) (by simp)⟩
        | none =>
          refine ⟨1, [s.opened], ⟨rfl, rfl, rfl, by simp, _, _, _, .inl rfl⟩,
            iff_of_true (one_handed s) (fun _ => ⟨hloop, rfl⟩)⟩
      · rename_i hloop
        exact .leftOpen _ _ (fun h => hloop (h trivial).1)

theorem handleConnectWebsocket_balanced (args : List Str) :
    Balanced id s (s.handleConnectWebsocket types env id args)
      (RelayRequest.websocket.Connects types env args →
        RelayRequest.websocket.HandsOver types env s args) := by
  cases args with
  | nil => exact .refused _ _ (by simp [RelayRequest.Connects])
  | cons hostandport args =>
    cases args with
    | nil => exact .refused _ _ (by simp [RelayRequest.Connects])
    | cons hostandport_src args =>
      simp only [handleConnectWebsocket, connect, RelayRequest.Connects, RelayRequest.HandsOver]
      split
      · rename_i hvalid
        cases hc : env.connect (types.hostAndPort (cstr hostandport)) with
        | false => exact .refused _ _ (by simp)
        | true =>
          simp only [if_true]
          split
          · rename_i hloop
            refine ⟨1, [s.opened], ⟨rfl, rfl, rfl, by simp, _, _, _, .inl rfl⟩,
              iff_of_true (one_handed s) (fun _ => hloop)⟩
          · rename_i hloop
            exact .leftOpen _ _ (fun h => hloop (h ⟨hvalid, trivial⟩))
      · rename_i hvalid
        exact .refused _ _ (fun h => absurd h.1 hvalid)

end DeviceSockets

namespace RelayRequest

open DeviceSockets InnerServerHandler

variable {Url : Type} {types : CommonTypes Url} {json : Texts} {env : DeviceEnv} {id : cmd_seq_t}
  {s s' : DeviceSockets Url} {command read : Str} {args : List Str}

theorem balanced (r : RelayRequest) (hcommand : IS_EQUAL_COMMAND command r.command = true)
    (hs : s.handleInnerRequestCommand types json env id (command :: args) = some s') :
    Balanced id s s' (r.Connects types env args → r.HandsOver types env s args) := by
  cases r with
  | http =>
    rw [RelayRequest.command] at hcommand
    simp only [DeviceSockets.handleInnerRequestCommand, if_pos hcommand] at hs
    cases hs
    exact handleConnectHttp_balanced args
  | websocket =>
    rw [RelayRequest.command] at hcommand
    have hother : IS_EQUAL_COMMAND command SERVER_PLEASE_CONNECT_HTTP_COMMAND = false :=
      IS_EQUAL_COMMAND_other hcommand (by decide) (by decide)
    simp only [DeviceSockets.handleInnerRequestCommand, hother, Bool.false_eq_true, if_false,
      if_pos hcommand] at hs
    cases hs
    exact handleConnectWebsocket_balanced args

/-- The set-up of a relay leaves no socket behind, unless the socket was connected and then no loop
was found for it or, with `plz_connect_http`, the response could not be written. -/
theorem released_iff (r : RelayRequest) (hread : read.length ≤ MAX_COMMAND_SIZE)
    (hf : frameOf read = some ⟨REQUEST_COMMAND, id, command :: args⟩)
    (hcommand : IS_EQUAL_COMMAND command r.command = true)
    (hs : s.handleInnerRequestCommand types json env id (command :: args) = some s') :
    Released s s' ↔ (r.Connects types env args → r.HandsOver types env s args) := by
  have hid : AnsweredId id := by
    have hlen : 6 ≤ r.command.length := by cases r <;> decide
    have hle := (List.isPrefixOf_iff_prefix.1 hcommand).length_le
    apply AnsweredId.of_frame hread hf
    rw [List.flatten_cons, List.length_append]
    omega
  obtain ⟨count, new, hc, hb⟩ := r.balanced hcommand hs
  exact (hc.released hid).trans hb

/-- A device that has handled nothing yet. -/
def siteSockets : DeviceSockets Str := ⟨siteDevice, 0, [], []⟩

theorem released_iff_calm :
    Released siteSockets
        (siteSockets.handleConnectHttp twoHosts calmDevice "7".toList ["localhost:80".toList]) ↔
      (RelayRequest.http.Connects twoHosts calmDevice ["localhost:80".toList] →
        RelayRequest.http.HandsOver twoHosts calmDevice siteSockets ["localhost:80".toList]) :=
  released_iff .http
    (by decide : "0 7 plz_connect_http localhost:80\r\n".toList.length ≤ MAX_COMMAND_SIZE)
    (by decide +kernel) (by decide : IS_EQUAL_COMMAND "plz_connect_http".toList _ = true)
    (rfl : siteSockets.handleInnerRequestCommand twoHosts siteTexts calmDevice "7".toList
      ["plz_connect_http".toList, "localhost:80".toList] = _)

/-- A device of a site that is not served by a loop of its own. -/
def noLoop : DeviceEnv := { calmDevice with FindExistLoopByPredicate _ := false }

/-- Without a loop the connected socket is left, neither owned nor closed. -/
theorem not_released_noLoop :
    ¬ Released siteSockets
      (siteSockets.handleConnectHttp twoHosts noLoop "7".toList ["localhost:80".toList]) := by
  intro h
  obtain hm | hm := h.sockets 0 le_rfl (by decide)
  · exact absurd hm (by decide)
  · exact absurd hm (by decide)

end RelayRequest

end SiteOnYourDevice
