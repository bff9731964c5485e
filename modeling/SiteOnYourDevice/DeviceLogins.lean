import SiteOnYourDevice.PageRequests
import SiteOnYourDevice.LoginFrame
import SiteOnYourDevice.SequenceIds

namespace SiteOnYourDevice
open CString Sds JsonC Transition
set_option relaxedAutoImplicit false
set_option autoImplicit true

variable {Url : Type} {types : CommonTypes Url} {json : Texts} {env : Env} {denv : DeviceEnv}
  {c : ClientId} {id : cmd_seq_t}

/-- The id of every request that the server makes. -/
def requestId : cmd_seq_t := hexEncode (idBytes 0)

theorem readId_requestId : ReadId requestId := by
  refine ⟨by decide, by decide, ?_⟩
  exact fun h => absurd (h.subset List.mem_cons_self) (by decide)

theorem fitting_who_are_you :
    Fitting REQUEST_COMMAND requestId (SERVER_WHO_ARE_YOU_COMMAND ++ [' ']) :=
  ⟨by decide, by decide, by decide⟩

theorem frameOf_who_are_you :
    frameOf (builtText REQUEST_COMMAND requestId (SERVER_WHO_ARE_YOU_COMMAND ++ [' '])) =
      some ⟨REQUEST_COMMAND, requestId, [SERVER_WHO_ARE_YOU_COMMAND]⟩ := by
  have hsplit : sdssplitargs (SERVER_WHO_ARE_YOU_COMMAND ++ [' ']) =
      some [SERVER_WHO_ARE_YOU_COMMAND] := by decide
  rw [fitting_who_are_you.frameOf_eq (.inl rfl) readId_requestId, hsplit]
  rfl

namespace InnerServerHandlerHost
variable {s : InnerServerHandlerHost}

/-- The server asks every new connection who it is. -/
theorem Accepted_eq (hw : env.writeError s.writes.length = none) :
    s.Accepted env = { s with
      parent_ := s.parent_.accept
      id_ := (next_id s.id_).2
      writes := s.writes ++ [⟨s.parent_.accepted,
        builtText REQUEST_COMMAND requestId (SERVER_WHO_ARE_YOU_COMMAND ++ [' ']), none⟩] } := by
  have htext : (make_request SERVER_WHO_ARE_YOU_COMMAND_REQ s.id_).1.cmd_ =
      builtText REQUEST_COMMAND requestId (SERVER_WHO_ARE_YOU_COMMAND ++ [' ']) := by
    rw [← fitting_who_are_you.buffText_eq (.inl rfl) readId_requestId]
    simp only [make_request, next_id_zero]
    rfl
  rw [Accepted, writeRequest, Write, htext]
  simp only [hw]
  rfl

/-- An admitted login is approved and its connection registered. -/
theorem handleWhoAreYou_admitted {net : NetTypes} {user : UserAuthInfo} {uauthstr : Str}
    (hu : userAuthInfoOfString net (cstr uauthstr) = some user) (ha : Admits net env s user)
    (c : ClientId) (id : cmd_seq_t) :
    s.handleWhoAreYou net env c id uauthstr =
      (s.writeApprove env c id SERVER_WHO_ARE_YOU_COMMAND_APPROVE_SUCCESS).2.register c user := by
  obtain ⟨hv, hfind, hhost, hw⟩ := ha
  have herr : (s.writeApprove env c id SERVER_WHO_ARE_YOU_COMMAND_APPROVE_SUCCESS).1 = none := hw
  simp only [handleWhoAreYou, hu, Option.getD_some, hv, hfind, hhost, if_true]
  split
  · rename_i err t ht
    rw [ht] at herr
    cases herr
  · rename_i t ht
    rw [ht]

/-- Another login of a valid info, when it can be answered, is refused for one of two reasons. -/
theorem handleWhoAreYou_refused {net : NetTypes} {user : UserAuthInfo} {uauthstr : Str}
    (hu : userAuthInfoOfString net (cstr uauthstr) = some user) (hv : user.isValid net = true)
    (hw : env.writeError s.writes.length = none) (ha : ¬ Admits net env s user)
    (c : ClientId) (id : cmd_seq_t) :
    ∃ cause ∈ [CAUSE_UNREGISTERED_USER, CAUSE_DOUBLE_CONNECTION_HOST],
      s.handleWhoAreYou net env c id uauthstr =
        s.failWith net env c id (SERVER_WHO_ARE_YOU_COMMAND_APPROVE_FAIL_1S cause) := by
  simp only [handleWhoAreYou, hu, Option.getD_some, hv, if_true]
  by_cases hfind : env.findUser user = true
  · cases hhost : s.parent_.findInnerConnectionByHost user.host.host with
    | none => exact absurd ⟨hv, hfind, hhost, hw⟩ ha
    | some d =>
      refine ⟨CAUSE_DOUBLE_CONNECTION_HOST, by simp, ?_⟩
      rw [if_pos hfind]
  · refine ⟨CAUSE_UNREGISTERED_USER, by simp, ?_⟩
    rw [if_neg hfind]

end InnerServerHandlerHost

/-- A device with an account of the site that can be read as it is sent. -/
structure PlainLogin (types : CommonTypes Url) (email : JsString) (d : InnerServerHandler Url) :
    Prop where
  account : SiteAccount types email d.authInfo
  no_quote : '\'' ∉ email ∧ '"' ∉ email
  nul_free : '\x00' ∉ email

/-- And with room for its login in a frame. -/
structure LoginReady (types : CommonTypes Url) (email : JsString) (d : InnerServerHandler Url) : Prop
    extends PlainLogin types email d where
  host_valid : types.IsValid d.authInfo.host = true
  length : (builtText RESPONCE_COMMAND requestId (successRest SERVER_WHO_ARE_YOU_COMMAND
    (InnerServerHandler.authStr types d.authInfo))).length ≤ MAX_COMMAND_SIZE - 1

namespace PlainLogin
variable {email : JsString} {d : InnerServerHandler Url}

theorem word (h : PlainLogin types email d) :
    IsWord (InnerServerHandler.authStr types d.authInfo) ∧
      '\x00' ∉ InnerServerHandler.authStr types d.authInfo := by
  obtain ⟨hplain, _⟩ := (ValidateEmail.accepted_of_validateEmail h.account.accepted).plain
    h.no_quote.1 h.no_quote.2
  have hrest := InnerServerHandler.authStr_rest_plain h.account.password h.account.host
  refine ⟨⟨?_, ?_⟩, fun hn => h.nul_free ((InnerServerHandler.nul_mem_authStr h.account).1 hn)⟩
  · simp [InnerServerHandler.authStr]
  · rw [InnerServerHandler.authStr, h.account.login, List.append_assoc]
    exact hplain.utf8.append hrest

theorem read (h : PlainLogin types email d) :
    userAuthInfoOfString types.toNetTypes (cstr (InnerServerHandler.authStr types d.authInfo)) =
      some d.authInfo := by
  obtain ⟨_, hcolon⟩ := (ValidateEmail.accepted_of_validateEmail h.account.accepted).plain
    h.no_quote.1 h.no_quote.2
  have hlogin : ':' ∉ d.authInfo.login := by
    rw [h.account.login, mem_utf8 (by decide)]
    exact hcolon
  rw [cstr_of_nul_free h.word.2]
  exact InnerServerHandler.userAuthInfoOfString_authStr hlogin
    (h.account.password.not_mem (by decide) (by decide)) h.account.host

theorem rest_clean (h : PlainLogin types email d) :
    '\r' ∉ successRest SERVER_WHO_ARE_YOU_COMMAND (InnerServerHandler.authStr types d.authInfo) ∧
      '\x00' ∉ successRest SERVER_WHO_ARE_YOU_COMMAND
        (InnerServerHandler.authStr types d.authInfo) := by
  have hcr := InnerServerHandler.cr_not_mem_authStr h.account
  have hwords : '\r' ∉ SUCCESS_COMMAND ++ ' ' :: SERVER_WHO_ARE_YOU_COMMAND ∧
      '\x00' ∉ SUCCESS_COMMAND ++ ' ' :: SERVER_WHO_ARE_YOU_COMMAND := by decide
  have hrest : successRest SERVER_WHO_ARE_YOU_COMMAND (InnerServerHandler.authStr types d.authInfo) =
      (SUCCESS_COMMAND ++ ' ' :: SERVER_WHO_ARE_YOU_COMMAND) ++
        ' ' :: InnerServerHandler.authStr types d.authInfo := by
    simp [successRest]
  constructor
  · rw [hrest, List.mem_append, not_or]
    exact ⟨hwords.1, by simp [hcr]⟩
  · rw [hrest, List.mem_append, not_or]
    exact ⟨hwords.2, by simp [h.word.2]⟩

theorem fitting (h : PlainLogin types email d)
    (hl : (builtText RESPONCE_COMMAND id (successRest SERVER_WHO_ARE_YOU_COMMAND
      (InnerServerHandler.authStr types d.authInfo))).length ≤ MAX_COMMAND_SIZE - 1) :
    Fitting RESPONCE_COMMAND id (successRest SERVER_WHO_ARE_YOU_COMMAND
      (InnerServerHandler.authStr types d.authInfo)) :=
  ⟨h.rest_clean.1, h.rest_clean.2, hl⟩

theorem frame (h : PlainLogin types email d) (hid : ReadId id)
    (hl : (builtText RESPONCE_COMMAND id (successRest SERVER_WHO_ARE_YOU_COMMAND
      (InnerServerHandler.authStr types d.authInfo))).length ≤ MAX_COMMAND_SIZE - 1) :
    frameOf (builtText RESPONCE_COMMAND id (successRest SERVER_WHO_ARE_YOU_COMMAND
        (InnerServerHandler.authStr types d.authInfo))) =
      some ⟨RESPONCE_COMMAND, id, [SUCCESS_COMMAND, SERVER_WHO_ARE_YOU_COMMAND,
        InnerServerHandler.authStr types d.authInfo]⟩ := by
  have hsplit := h.word.1.splitFrom_blank (v := [SUCCESS_COMMAND, SERVER_WHO_ARE_YOU_COMMAND])
    (p := [])
  rw [List.append_nil] at hsplit
  have hwho : IsWord SERVER_WHO_ARE_YOU_COMMAND := .of_all (by decide) (by decide)
  rw [(h.fitting hl).frameOf_eq (.inr (.inl rfl)) hid, sdssplitargs_successRest hwho, hsplit]
  rfl

end PlainLogin

namespace LoginReady
variable {email : JsString} {d : InnerServerHandler Url}

theorem valid (h : LoginReady types email d) : d.authInfo.isValid types.toNetTypes = true := by
  have hat : '@' ∈ email := by
    cases ValidateEmail.accepted_of_validateEmail h.account.accepted with
    | unquoted => simp
    | quoted => simp
  have hlogin : d.authInfo.login ≠ [] := by
    rw [h.account.login]
    exact List.ne_nil_of_mem ((mem_utf8 (by decide)).2 hat)
  simp [UserAuthInfo.isValid, hlogin, h.host_valid]

end LoginReady

/-- What stands behind the id of a refused login. -/
def refusalRest (cause : Str) : Str :=
  FAIL_COMMAND ++ ' ' :: SERVER_WHO_ARE_YOU_COMMAND ++ ' ' :: cause

theorem fitting_approval :
    Fitting APPROVE_COMMAND requestId (successRest SERVER_WHO_ARE_YOU_COMMAND []) :=
  ⟨by decide, by decide, by decide⟩

theorem fitting_refusal {cause : Str}
    (hcause : cause ∈ [CAUSE_UNREGISTERED_USER, CAUSE_DOUBLE_CONNECTION_HOST]) :
    Fitting APPROVE_COMMAND requestId (refusalRest cause) := by
  rw [List.mem_cons, List.mem_singleton] at hcause
  rcases hcause with rfl | rfl
  · exact ⟨by decide, by decide, by decide⟩
  · exact ⟨by decide, by decide, by decide⟩

theorem frameOf_approval :
    frameOf (builtText APPROVE_COMMAND requestId (successRest SERVER_WHO_ARE_YOU_COMMAND [])) =
      some ⟨APPROVE_COMMAND, requestId, [SUCCESS_COMMAND, SERVER_WHO_ARE_YOU_COMMAND]⟩ := by
  have hsplit : sdssplitargs (successRest SERVER_WHO_ARE_YOU_COMMAND []) =
      some [SUCCESS_COMMAND, SERVER_WHO_ARE_YOU_COMMAND] := by decide
  rw [fitting_approval.frameOf_eq (.inr (.inr rfl)) readId_requestId, hsplit]
  rfl

theorem frameOf_refusal {cause : Str}
    (hcause : cause ∈ [CAUSE_UNREGISTERED_USER, CAUSE_DOUBLE_CONNECTION_HOST]) :
    frameOf (builtText APPROVE_COMMAND requestId (refusalRest cause)) =
      some ⟨APPROVE_COMMAND, requestId, [FAIL_COMMAND, SERVER_WHO_ARE_YOU_COMMAND, cause]⟩ := by
  have hsplit : sdssplitargs (refusalRest cause) =
      some [FAIL_COMMAND, SERVER_WHO_ARE_YOU_COMMAND, cause] := by
    rw [List.mem_cons, List.mem_singleton] at hcause
    rcases hcause with rfl | rfl
    · decide
    · decide
  rw [(fitting_refusal hcause).frameOf_eq (.inr (.inr rfl)) readId_requestId, hsplit]
  rfl

theorem GENEATATE_FAIL_FMT_eq (cause : Str) :
    SERVER_WHO_ARE_YOU_COMMAND_APPROVE_FAIL_1S cause APPROVE_COMMAND requestId =
      builtText APPROVE_COMMAND requestId (refusalRest cause) := by
  simp [SERVER_WHO_ARE_YOU_COMMAND_APPROVE_FAIL_1S, GENEATATE_FAIL_FMT, builtText, refusalRest]

namespace InnerServerHandlerHost
variable {s : InnerServerHandlerHost}

/-- The response of a login is taken to its branch, whatever waits for its id. -/
theorem DataReceived_login (net : NetTypes) {read uauthstr : Str}
    (hf : frameOf read = some ⟨RESPONCE_COMMAND, id,
      [SUCCESS_COMMAND, SERVER_WHO_ARE_YOU_COMMAND, uauthstr]⟩) :
    (seqParser net env c).DataReceived read s =
      (s.processRequest id (some [SUCCESS_COMMAND, SERVER_WHO_ARE_YOU_COMMAND,
        uauthstr])).handleWhoAreYou net env c id uauthstr := by
  rw [DataReceived_of_frameOf hf]
  rfl

theorem Admits.of_processRequest {net : NetTypes} {user : UserAuthInfo}
    {argv : Option (List Str)} :
    Admits net env (s.processRequest id argv) user ↔ Admits net env s user := by
  rw [Admits, Admits, processRequest_parent_, processRequest_writes]

/-- What the server sends in answer to a login, and what it does. -/
theorem login_cases {net : NetTypes} {user : UserAuthInfo} {uauthstr : Str}
    (hu : userAuthInfoOfString net (cstr uauthstr) = some user) (hv : user.isValid net = true)
    (hw : env.writeError s.writes.length = none) (c : ClientId) :
    let s' := s.handleWhoAreYou net env c requestId uauthstr
    (Admits net env s user ∧ Registers c user s s' ∧ s'.writes = s.writes ++ [⟨c,
      builtText APPROVE_COMMAND requestId (successRest SERVER_WHO_ARE_YOU_COMMAND []), none⟩]) ∨
    (¬ Admits net env s user ∧ s'.parent_ = s.parent_.close net c ∧
      s'.clients_state = s.clients_state ++ farewell net s.parent_ c ∧
      ∃ cause ∈ [CAUSE_UNREGISTERED_USER, CAUSE_DOUBLE_CONNECTION_HOST],
        s'.writes = s.writes ++
          [⟨c, builtText APPROVE_COMMAND requestId (refusalRest cause), none⟩]) := by
  by_cases ha : Admits net env s user
  · left
    have htext : (make_approve_responce requestId SERVER_WHO_ARE_YOU_COMMAND_APPROVE_SUCCESS).cmd_ =
        builtText APPROVE_COMMAND requestId (successRest SERVER_WHO_ARE_YOU_COMMAND []) := by
      rw [← fitting_approval.buffText_eq (.inr (.inr rfl)) readId_requestId,
        ← GENEATATE_SUCCESS_FMT_eq]
      rfl
    simp only [handleWhoAreYou_admitted hu ha]
    refine ⟨ha, ⟨rfl, rfl⟩, ?_⟩
    simp [register, publish_clients_state, writeApprove, Write, hw, htext]
  · right
    obtain ⟨cause, hcause, hrefused⟩ := handleWhoAreYou_refused hu hv hw ha c requestId
    have htext : (make_approve_responce requestId
        (SERVER_WHO_ARE_YOU_COMMAND_APPROVE_FAIL_1S cause)).cmd_ =
        builtText APPROVE_COMMAND requestId (refusalRest cause) := by
      rw [← (fitting_refusal hcause).buffText_eq (.inr (.inr rfl)) readId_requestId,
        ← GENEATATE_FAIL_FMT_eq]
      rfl
    simp only [hrefused]
    refine ⟨ha, failWith_parent_, closeClient_clients_state _ c, cause, hcause, ?_⟩
    rw [failWith, closeClient_writes, writeApprove, Write, htext, hw]

end InnerServerHandlerHost

namespace DeviceLink
variable {l : DeviceLink Url} {email : JsString}

/-- A connection that the server has yet to accept. -/
structure Arrives (types : CommonTypes Url) (email : JsString) (c : ClientId) (l : DeviceLink Url) :
    Prop where
  login : LoginReady types email l.device
  isOpen : l.device.inner_connection_ = true
  accepted : l.host.parent_.accepted = c
  toDevice : l.toDevice = []
  toHost : l.toHost = []

/-- The question of the server is on its way. -/
def greeted (env : Env) (l : DeviceLink Url) : DeviceLink Url :=
  { l with
    host := l.host.Accepted env
    toDevice := [builtText REQUEST_COMMAND requestId (SERVER_WHO_ARE_YOU_COMMAND ++ [' '])] }

/-- The login of the device is on its way. -/
def introduced (types : CommonTypes Url) (env : Env) (denv : DeviceEnv) (l : DeviceLink Url) :
    DeviceLink Url :=
  { l.greeted env with
    device := l.device.respond denv requestId (CLIENT_WHO_ARE_YOU_COMMAND_RESP_SUCCSESS_1S
      (InnerServerHandler.authStr types l.device.authInfo))
    toDevice := []
    toHost := [builtText RESPONCE_COMMAND requestId (successRest SERVER_WHO_ARE_YOU_COMMAND
      (InnerServerHandler.authStr types l.device.authInfo))] }

theorem step_greeted (h : l.Arrives types email c) (json : Texts)
    (hw : env.writeError l.host.writes.length = none) :
    step types json c l (.host (.accepted env)) = some (l.greeted env) := by
  have haccepted := InnerServerHandlerHost.Accepted_eq (s := l.host) hw
  have hstep : step types json c l (.host (.accepted env)) =
      some (l.withHost c (l.host.Accepted env)) := rfl
  have harriving : arriving c l.host (l.host.Accepted env) =
      [builtText REQUEST_COMMAND requestId (SERVER_WHO_ARE_YOU_COMMAND ++ [' '])] := by
    rw [haccepted]
    simp [arriving, InnerServerHandlerHost.sent, h.accepted]
  rw [hstep, withHost, harriving, h.toDevice]
  rfl

variable (env) in
theorem step_introduced (h : l.Arrives types email c) (json : Texts)
    (hdw : denv.writeError l.device.writes.length = none) :
    step types json c (l.greeted env) (.deviceReads denv) = some (l.introduced types env denv) := by
  have hread : (InnerServerHandler.seqParser types json denv).DataReceived _ (some l.device) =
      some _ := InnerServerHandler.request_read frameOf_who_are_you rfl
  have hlen : (builtText REQUEST_COMMAND requestId (SERVER_WHO_ARE_YOU_COMMAND ++ [' '])).length ≤
      MAX_COMMAND_SIZE := by decide
  have hdevice : deviceRead types json denv _ l.device = _ := (if_pos ⟨h.isOpen, hlen⟩).trans hread
  have hsent := InnerServerHandler.sent_respond SERVER_WHO_ARE_YOU_COMMAND
    (InnerServerHandler.authStr types l.device.authInfo) (h.login.fitting h.login.length)
    readId_requestId hdw
  simp only [step, greeted, hdevice, Option.map_some, h.toHost, List.nil_append]
  rw [introduced, ← hsent]
  rfl

/-- The server after the read of the login. -/
def received (types : CommonTypes Url) (env env' : Env) (l : DeviceLink Url) :
    InnerServerHandlerHost :=
  ((l.host.Accepted env).processRequest requestId (some [SUCCESS_COMMAND, SERVER_WHO_ARE_YOU_COMMAND,
    InnerServerHandler.authStr types l.device.authInfo])).handleWhoAreYou types.toNetTypes env'
      l.host.parent_.accepted requestId (InnerServerHandler.authStr types l.device.authInfo)

/-- The answer of the server to the login is on its way. -/
def replied (types : CommonTypes Url) (env env' : Env) (denv : DeviceEnv) (data : Str)
    (l : DeviceLink Url) : DeviceLink Url :=
  { l.introduced types env denv with
    host := l.received types env env'
    toDevice := [data]
    toHost := [] }

theorem step_received (h : l.Arrives types email c) (json : Texts) (denv : DeviceEnv) {env' : Env}
    (hw : env.writeError l.host.writes.length = none) {data : Str}
    (hwrites : (l.received types env env').writes =
      (l.host.Accepted env).writes ++ [⟨c, data, none⟩]) :
    step types json c (l.introduced types env denv) (.hostReads env') =
      some (l.replied types env env' denv data) := by
  have hlive : ((l.host.Accepted env).parent_.clients c).isSome = true := by
    rw [InnerServerHandlerHost.Accepted_eq hw, ← h.accepted, HttpServerHost.accept_clients_self]
    rfl
  have hlen : (builtText RESPONCE_COMMAND requestId (successRest SERVER_WHO_ARE_YOU_COMMAND
      (InnerServerHandler.authStr types l.device.authInfo))).length ≤ MAX_COMMAND_SIZE :=
    h.login.length.trans (Nat.sub_le _ _)
  have hread : (InnerServerHandlerHost.seqParser types.toNetTypes env' c).DataReceived _
      (l.host.Accepted env) = _ :=
    InnerServerHandlerHost.DataReceived_login types.toNetTypes
      (h.login.frame readId_requestId h.login.length)
  have hhost : InnerServerHandlerHost.step types.toNetTypes (l.host.Accepted env)
      (.dataReceived c (builtText RESPONCE_COMMAND requestId (successRest SERVER_WHO_ARE_YOU_COMMAND
        (InnerServerHandler.authStr types l.device.authInfo))) env') =
      some (l.received types env env') := by
    refine (if_pos ⟨hlive, hlen⟩).trans ?_
    rw [hread, received, h.accepted]
  have harriving : arriving c (l.host.Accepted env) (l.received types env env') = [data] := by
    rw [arriving, InnerServerHandlerHost.sent_of_writes hwrites]
    simp
  have hstep : step types json c (l.introduced types env denv) (.hostReads env') =
      some (withHost c { l.introduced types env denv with toHost := [] }
        (l.received types env env')) := congrArg (Option.map _) hhost
  have hhere : (l.introduced types env denv).host = l.host.Accepted env := rfl
  rw [hstep, withHost, hhere, harriving]
  rfl

/-- The login is taken in and approved, or its connection ends with a reason. -/
theorem received_cases (h : l.Arrives types email c)
    (hw : env.writeError l.host.writes.length = none) {env' : Env}
    (hw' : env'.writeError (l.host.writes.length + 1) = none) :
    let user := l.device.authInfo
    let s := l.host.Accepted env
    let s' := l.received types env env'
    (s.Admits types.toNetTypes env' user ∧ s.Registers c user s' ∧ s'.writes = s.writes ++ [⟨c,
      builtText APPROVE_COMMAND requestId (successRest SERVER_WHO_ARE_YOU_COMMAND []), none⟩]) ∨
    (¬ s.Admits types.toNetTypes env' user ∧ s'.parent_ = s.parent_.close types.toNetTypes c ∧
      s'.clients_state = s.clients_state ∧
      ∃ cause ∈ [CAUSE_UNREGISTERED_USER, CAUSE_DOUBLE_CONNECTION_HOST], s'.writes = s.writes ++
        [⟨c, builtText APPROVE_COMMAND requestId (refusalRest cause), none⟩]) := by
  intro user s s'
  have haccepted := InnerServerHandlerHost.Accepted_eq (s := l.host) hw
  have hplace : s.writes.length = l.host.writes.length + 1 := by
    simp only [s, haccepted, List.length_append]
    rfl
  have hfarewell : InnerServerHandlerHost.farewell types.toNetTypes s.parent_ c = [] := by
    simp only [s, haccepted, ← h.accepted, InnerServerHandlerHost.farewell,
      HttpServerHost.accept_clients_self]
    rfl
  have hanswer : (s.processRequest requestId (some [SUCCESS_COMMAND, SERVER_WHO_ARE_YOU_COMMAND,
      InnerServerHandler.authStr types l.device.authInfo])).writes = s.writes :=
    InnerServerHandlerHost.processRequest_writes
  rw [← hplace, ← hanswer] at hw'
  have hcases := InnerServerHandlerHost.login_cases h.login.read h.login.valid hw' c
  simp only [InnerServerHandlerHost.Admits.of_processRequest,
    InnerServerHandlerHost.processRequest_parent_, InnerServerHandlerHost.processRequest_writes,
    InnerServerHandlerHost.processRequest_clients_state, hfarewell, List.append_nil] at hcases
  simp only [s', received, h.accepted]
  obtain ⟨ha, hr, hwrites⟩ | hrefused := hcases
  · have hp := hr.parent_
    have hm := hr.clients_state
    rw [InnerServerHandlerHost.processRequest_parent_] at hp
    rw [InnerServerHandlerHost.processRequest_clients_state] at hm
    exact .inl ⟨ha, ⟨hp, hm⟩, hwrites⟩
  · exact .inr hrefused

variable (types) in
/-- A device that reads an approval sends nothing. -/
theorem step_approved (c : ClientId) (denv : DeviceEnv) (json : Texts) {read : Str}
    {argv : List Str} (hopen : l.device.inner_connection_ = true) (hto : l.toDevice = [read])
    (hf : frameOf read = some ⟨APPROVE_COMMAND, id, argv⟩) (hlen : read.length ≤ MAX_COMMAND_SIZE) :
    step types json c l (.deviceReads denv) =
      some { l with
        device := l.device.handleInnerApproveCommand id argv
        toDevice := [] } := by
  have hdevice : deviceRead types json denv read l.device =
      some (l.device.handleInnerApproveCommand id argv) := by
    rw [deviceRead, if_pos ⟨hopen, hlen⟩, DataReceived_of_frameOf hf]
    rfl
  have hsent : l.device.sent (l.device.handleInnerApproveCommand id argv) = [] := by
    rw [InnerServerHandler.sent, InnerServerHandler.handleInnerApproveCommand_writes,
      List.drop_length]
    rfl
  simp only [step, hto, hdevice, Option.map_some, hsent, List.append_nil]

/-- A device that comes in gets its entry in the registry and is told so exactly when the store knows
it and its host has no connection; the server ends the connection of any other one. -/
theorem run_login (h : l.Arrives types email c) (json : Texts)
    (hw : env.writeError l.host.writes.length = none)
    (hdw : denv.writeError l.device.writes.length = none) {env' : Env}
    (hw' : env'.writeError (l.host.writes.length + 1) = none) (denv' : DeviceEnv) :
    ∃ l', run (step types json c) l
        [.host (.accepted env), .deviceReads denv, .hostReads env', .deviceReads denv'] = some l' ∧
      l'.toDevice = [] ∧ l'.toHost = [] ∧
      let user := l.device.authInfo
      let s := l.host.Accepted env
      (s.Admits types.toNetTypes env' user ∧ s.Registers c user l'.host ∧
          l'.device.events = l.device.events ++ [.InnerClientConnectedEvent user] ∨
        ¬ s.Admits types.toNetTypes env' user ∧ l'.host.parent_ = s.parent_.close types.toNetTypes c ∧
          l'.host.clients_state = s.clients_state ∧ l'.device.events = l.device.events) := by
  have hgreeted := step_greeted h json hw
  have hintroduced := step_introduced env h json hdw
  obtain ⟨ha, hr, hwrites⟩ | ⟨ha, hp, hm, cause, hcause, hwrites⟩ := received_cases h hw hw'
  · have hreceived := step_received h json denv hw hwrites
    have hread := step_approved types c denv' json (l := l.replied types env env' denv _) h.isOpen
      rfl frameOf_approval (fitting_approval.length.trans (Nat.sub_le _ _))
    have hrun := (run_cons hgreeted).trans <| (run_cons hintroduced).trans <|
      (run_cons hreceived).trans (run_cons hread : run (step types json c) _ [_] = _)
    exact ⟨_, hrun, rfl, rfl, .inl ⟨ha, hr, rfl⟩⟩
  · have hreceived := step_received h json denv hw hwrites
    have hread := step_approved types c denv' json (l := l.replied types env env' denv _) h.isOpen
      rfl (frameOf_refusal hcause) ((fitting_refusal hcause).length.trans (Nat.sub_le _ _))
    have hrun := (run_cons hgreeted).trans <| (run_cons hintroduced).trans <|
      (run_cons hreceived).trans (run_cons hread : run (step types json c) _ [_] = _)
    exact ⟨_, hrun, rfl, rfl, .inr ⟨ha, hp, hm, rfl⟩⟩

/-- A device with an account of the web site, before it comes in. -/
def mikeLink : DeviceLink Str :=
  ⟨.init, InnerServerHandler.accountDevice "mike@mail.com", [], []⟩

theorem arrives_mikeLink :
    mikeLink.Arrives InnerServerHandler.twoHosts "mike@mail.com".toList 0 := by
  refine ⟨⟨⟨InnerServerHandler.siteAccount_accountDevice (by decide +kernel), by decide, by decide⟩,
    by decide, by decide +kernel⟩, rfl, rfl, rfl, rfl⟩

open InnerServerHandler in
theorem run_login_mike : ∃ l', run (step twoHosts siteTexts 0) mikeLink
      [.host (.accepted .calm), .deviceReads calmDevice, .hostReads .calm,
        .deviceReads calmDevice] = some l' ∧
    l'.host.parent_.findInnerConnectionByHost "localhost".toList = some 0 ∧
      l'.device.events = [.InnerClientConnectedEvent (accountDevice "mike@mail.com").authInfo] := by
  have hw : Env.calm.writeError mikeLink.host.writes.length = none := rfl
  have hdw : calmDevice.writeError mikeLink.device.writes.length = none := rfl
  have hw' : Env.calm.writeError (mikeLink.host.writes.length + 1) = none := rfl
  obtain ⟨l', hrun, _, _, ⟨_, hr, hevents⟩ | ⟨hn, _⟩⟩ :=
    run_login arrives_mikeLink siteTexts hw hdw hw' calmDevice
  · refine ⟨l', hrun, ?_, hevents⟩
    rw [hr.parent_]
    exact HttpServerHost.register_connections_self
  · exact absurd ⟨by decide, rfl, rfl, rfl⟩ hn

end DeviceLink

end SiteOnYourDevice
