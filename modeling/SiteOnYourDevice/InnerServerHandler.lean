import SiteOnYourDevice.CommandSeqParser
import SiteOnYourDevice.HttpServerHandler
import SiteOnYourDevice.Json

namespace SiteOnYourDevice
open CString JsonC
set_option relaxedAutoImplicit false
set_option autoImplicit true

def CAUSE_CONNECT_FAILED : Str := "connect_failed".toList

def SERVER_PLEASE_CONNECT_HTTP_COMMAND : Str := "plz_connect_http".toList
def SERVER_PLEASE_CONNECT_WEBSOCKET_COMMAND : Str := "plz_connect_websocket".toList
def SERVER_PLEASE_SYSTEM_INFO_COMMAND : Str := "plz_system_info".toList
def SERVER_PLEASE_CONFIG_COMMAND : Str := "plz_config".toList
def SERVER_PLEASE_SET_CONFIG_COMMAND : Str := "plz_set_config".toList

def CLIENT_WHO_ARE_YOU_COMMAND_RESP_SUCCSESS_1S (s : Str) : Fmt :=
  GENEATATE_SUCCESS_FMT SERVER_WHO_ARE_YOU_COMMAND s
def CLIENT_PLEASE_CONNECT_HTTP_COMMAND_RESP_FAIL_1S (s : Str) : Fmt :=
  GENEATATE_FAIL_FMT SERVER_PLEASE_CONNECT_HTTP_COMMAND s
def CLIENT_PLEASE_CONNECT_HTTP_COMMAND_RESP_SUCCSESS_1S (s : Str) : Fmt :=
  GENEATATE_SUCCESS_FMT SERVER_PLEASE_CONNECT_HTTP_COMMAND s
def CLIENT_PLEASE_CONNECT_WEBSOCKET_COMMAND_RESP_FAIL_1S (s : Str) : Fmt :=
  GENEATATE_FAIL_FMT SERVER_PLEASE_CONNECT_WEBSOCKET_COMMAND s
def CLIENT_PLEASE_CONNECT_WEBSOCKET_COMMAND_RESP_SUCCSESS_1S (s : Str) : Fmt :=
  GENEATATE_SUCCESS_FMT SERVER_PLEASE_CONNECT_WEBSOCKET_COMMAND s

/-- The format of an argument between single quotes. -/
def quoted (s : Str) : Str := '\'' :: s ++ ['\'']

def CLIENT_PLEASE_SYSTEM_INFO_COMMAND_RESP_SUCCSESS_1J (s : Str) : Fmt :=
  GENEATATE_SUCCESS_FMT SERVER_PLEASE_SYSTEM_INFO_COMMAND (quoted s)
def CLIENT_PLEASE_CONFIG_COMMAND_RESP_SUCCSESS_1J (s : Str) : Fmt :=
  GENEATATE_SUCCESS_FMT SERVER_PLEASE_CONFIG_COMMAND (quoted s)
def CLIENT_PLEASE_SET_CONFIG_COMMAND_RESP_FAIL_1S (s : Str) : Fmt :=
  GENEATATE_FAIL_FMT SERVER_PLEASE_SET_CONFIG_COMMAND s
def CLIENT_PLEASE_SET_CONFIG_COMMAND_RESP_SUCCSESS : Fmt :=
  GENEATATE_SUCCESS_FMT SERVER_PLEASE_SET_CONFIG_COMMAND []

def LOGIN_SETTING_LABEL : Str := "login".toList
def PASSWORD_SETTING_LABEL : Str := "password".toList
def SERVER_TYPE_SETTING_LABEL : Str := "server_type".toList
def PRIVATE_SITE_SETTING_LABEL : Str := "private_site".toList
def CONTENT_PATH_SETTING_LABEL : Str := "content_path".toList
def LOCAL_HOST_SETTING_LABEL : Str := "local_host".toList
def EXTERNAL_HOST_SETTING_LABEL : Str := "external_host".toList
def HANDLERS_URLS_SECTION_LABEL : Str := "http_handlers_utls".toList
def SERVER_SOCKETS_SECTION_LABEL : Str := "http_server_sockets".toList

/-- What the code takes from the library of network types to write a host, and from that of
URLs. -/
structure CommonTypes (Url : Type) extends NetTypes where
  ConvertToString : HostAndPort → Str
  mkUrl : Str → Url
  GetUrl : Url → Str

/-- All the fields of `HttpConfig`; its base has those the HTTP servers read. -/
structure DeviceConfig (Url : Type) extends HttpConfig where
  content_path : Str
  handlers_urls : List (Str × Str)
  server_sockets_urls : List (Str × Url)

structure SystemInfo where
  os_name : Str
  os_version : Str
  os_arch : Str
  brand : Str
  ram_total : Int
  ram_free : Int

/-- What one call finds outside the program: the outcome of each write, by its place among all
writes, the connects, the loops with one of the names and the server with the host, the system,
and what stood in the fields that `HttpConfig new_config` does not initialise. -/
structure DeviceEnv where
  writeError : Nat → Option Str
  connect : HostAndPort → Bool
  FindExistLoopByPredicate : List Str → Bool
  FindExistServerByHost : HostAndPort → Bool
  systemInfo : SystemInfo
  uninitialised : Bool × http_server_t

/-- A relay connection given to a loop: the external host of a `RelayClientEx`, and whether it is
authenticated. -/
structure RegisteredRelay where
  external_host_ : Option HostAndPort
  isAuth_ : Bool
deriving DecidableEq

/-- An event on the bus. -/
inductive PostedEvent (Url : Type)
  | InnerClientConnectedEvent (info : UserAuthInfo)
  | InnerClientDisconnectedEvent (info : UserAuthInfo)
  | ConfigChangedEvent (config : DeviceConfig Url)

/-- The handler of a device; `inner_connection_` tells whether there is a connection. `writes` are
the calls of its `Write` with their errors, `relays` the connections given to other loops and
`events` what it posted. -/
structure InnerServerHandler (Url : Type) where
  config_ : DeviceConfig Url
  id_ : UInt64
  inner_connection_ : Bool
  writes : List (Str × Option Str)
  relays : List RegisteredRelay
  events : List (PostedEvent Url)

variable {Url : Type} (types : CommonTypes Url) (json : Texts) (env : DeviceEnv)

/-- The JSON value of an array of pairs. -/
def pairsJson (first second : Str) (pairs : List (Str × Str)) : json_object :=
  .array (pairs.map fun p =>
    .object [(first, .new_string p.1), (second, .new_string p.2)])

namespace DeviceConfig

/-- The value that the `plz_config` branch builds. -/
def toJson (config : DeviceConfig Url) : json_object :=
  .object
    [(LOCAL_HOST_SETTING_LABEL, .new_string (types.ConvertToString config.local_host)),
      (CONTENT_PATH_SETTING_LABEL, .new_string config.content_path),
      (PRIVATE_SITE_SETTING_LABEL, .boolean config.is_private_site),
      (EXTERNAL_HOST_SETTING_LABEL, .new_string (types.ConvertToString config.external_host)),
      (SERVER_TYPE_SETTING_LABEL, .int config.server_type.toInt),
      (HANDLERS_URLS_SECTION_LABEL, pairsJson "url".toList "handler".toList config.handlers_urls),
      (SERVER_SOCKETS_SECTION_LABEL, pairsJson "type".toList "path".toList
        (config.server_sockets_urls.map fun p => (p.1, types.GetUrl p.2)))]

end DeviceConfig

/-- A field that is read when it is there. -/
def readField (config_json : json_object) (label : Str) (read : json_object → α) (old : α) : α :=
  ((json.get config_json label).toOption.map read).getD old

/-- One element of an array of pairs; without one of the two it is left out. -/
def readPair (first second : Str) (x : json_object) : Option (Str × Str) :=
  (json.get x first).toOption.bind fun a =>
    (json.get x second).toOption.map fun b => (json.get_string a, json.get_string b)

/-- The loop over an array of pairs, when the array is there. -/
def readPairs (config_json : json_object) (label first second : Str) :
    Option (List (Str × Str)) :=
  match (json.get config_json label).toOption with
  | none => some []
  | some pairs => (json.elements pairs).map fun xs => xs.filterMap (readPair json first second)

/-- The configuration that the `plz_set_config` branch reads from a value, next to the one the
handler has; `none` where a list is no array. -/
def DeviceConfig.ofJson (config : DeviceConfig Url) (config_json : json_object) :
    Option (DeviceConfig Url) :=
  (readPairs json config_json HANDLERS_URLS_SECTION_LABEL "url".toList "handler".toList).bind
    fun handlers_urls =>
  (readPairs json config_json SERVER_SOCKETS_SECTION_LABEL "type".toList "path".toList).map
    fun server_sockets_urls =>
  { login := config.login
    password := config.password
    local_host := readField json config_json LOCAL_HOST_SETTING_LABEL
      (fun j => types.hostAndPort (json.get_string j)) ⟨[], 0⟩
    external_host := readField json config_json EXTERNAL_HOST_SETTING_LABEL
      (fun j => types.hostAndPort (json.get_string j)) ⟨[], 0⟩
    content_path := readField json config_json CONTENT_PATH_SETTING_LABEL json.get_string []
    is_private_site := readField json config_json PRIVATE_SITE_SETTING_LABEL json.get_boolean
      env.uninitialised.1
    server_type := readField json config_json SERVER_TYPE_SETTING_LABEL
      (fun j => .ofInt (json.get_int j)) env.uninitialised.2
    handlers_urls := handlers_urls
    server_sockets_urls := server_sockets_urls.map fun p => (p.1, types.mkUrl p.2) }

namespace InnerServerHandler

def authInfo (s : InnerServerHandler Url) : UserAuthInfo := s.config_.authInfo

def Write (data : Str) (s : InnerServerHandler Url) : Option Str × InnerServerHandler Url :=
  let err := env.writeError s.writes.length
  (err, { s with writes := s.writes ++ [(data, err)] })

/-- A response written without a look at the error. -/
def respond (id : cmd_seq_t) (fmt : Fmt) (s : InnerServerHandler Url) : InnerServerHandler Url :=
  (s.Write env (make_responce id fmt).cmd_).2

def PostEvent (event : PostedEvent Url) (s : InnerServerHandler Url) : InnerServerHandler Url :=
  { s with events := s.events ++ [event] }

/-- `ExecInLoopThread` with the registration of a new connection. -/
def registerRelay (relay : RegisteredRelay) (s : InnerServerHandler Url) :
    InnerServerHandler Url :=
  { s with relays := s.relays ++ [relay] }

/-- `ConvertToString` of a `UserAuthInfo`. -/
def authStr (info : UserAuthInfo) : Str :=
  info.login ++ ':' :: info.password ++ ':' :: types.ConvertToString info.host

def handleConnectHttp (id : cmd_seq_t) (args : List Str) (s : InnerServerHandler Url) :
    InnerServerHandler Url :=
  match args with
  | [] => s.respond env id (CLIENT_PLEASE_CONNECT_HTTP_COMMAND_RESP_FAIL_1S CAUSE_INVALID_ARGS)
  | hostandport :: _ =>
    if env.connect (types.hostAndPort (cstr hostandport)) then
      if env.FindExistLoopByPredicate ["local_http_server".toList, "proxy_http_server".toList] then
        match s.Write env (make_responce id
            (CLIENT_PLEASE_CONNECT_HTTP_COMMAND_RESP_SUCCSESS_1S (cstr hostandport))).cmd_ with
        | (some _, s) => s
        | (none, s) =>
          s.registerRelay
            ⟨if s.config_.server_type = .EXTERNAL_SERVER then some s.config_.external_host else none,
              !s.config_.is_private_site⟩
      else
        s.respond env id (CLIENT_PLEASE_CONNECT_HTTP_COMMAND_RESP_FAIL_1S CAUSE_CONNECT_FAILED)
    else s.respond env id (CLIENT_PLEASE_CONNECT_HTTP_COMMAND_RESP_FAIL_1S CAUSE_CONNECT_FAILED)

/-- Here the connection is registered before the response is written, and its authentication is
left as it is in a new client. -/
def handleConnectWebsocket (id : cmd_seq_t) (args : List Str) (s : InnerServerHandler Url) :
    InnerServerHandler Url :=
  match args with
  | hostandport :: hostandport_src :: _ =>
    let host_src := types.hostAndPort (cstr hostandport_src)
    if types.IsValid host_src then
      if env.connect (types.hostAndPort (cstr hostandport)) then
        if s.config_.server_type = .EXTERNAL_SERVER then
          if env.FindExistLoopByPredicate ["proxy_http_server".toList] then
            (s.registerRelay ⟨some host_src, false⟩).respond env id
              (CLIENT_PLEASE_CONNECT_WEBSOCKET_COMMAND_RESP_SUCCSESS_1S (cstr hostandport))
          else
            s.respond env id
              (CLIENT_PLEASE_CONNECT_WEBSOCKET_COMMAND_RESP_FAIL_1S CAUSE_INVALID_ARGS)
        else
          if env.FindExistServerByHost host_src then
            (s.registerRelay ⟨none, false⟩).respond env id
              (CLIENT_PLEASE_CONNECT_WEBSOCKET_COMMAND_RESP_SUCCSESS_1S (cstr hostandport))
          else
            s.respond env id
              (CLIENT_PLEASE_CONNECT_WEBSOCKET_COMMAND_RESP_FAIL_1S CAUSE_INVALID_ARGS)
      else
        s.respond env id
          (CLIENT_PLEASE_CONNECT_WEBSOCKET_COMMAND_RESP_FAIL_1S CAUSE_CONNECT_FAILED)
    else
      s.respond env id (CLIENT_PLEASE_CONNECT_WEBSOCKET_COMMAND_RESP_FAIL_1S CAUSE_INVALID_ARGS)
  | _ => s.respond env id (CLIENT_PLEASE_CONNECT_WEBSOCKET_COMMAND_RESP_FAIL_1S CAUSE_INVALID_ARGS)

def infoJson (info : SystemInfo) : json_object :=
  .object
    [("os".toList, .new_string (info.os_name ++ ' ' :: info.os_version ++ '(' :: info.os_arch ++ [')'])),
      ("cpu".toList, .new_string info.brand), ("ram_total".toList, .int info.ram_total),
      ("ram_free".toList, .int info.ram_free)]

/-- The `plz_set_config` branch; `none` where the process is aborted. -/
def handleSetConfig (id : cmd_seq_t) (args : List Str) (s : InnerServerHandler Url) :
    Option (InnerServerHandler Url) :=
  match args with
  | [] =>
    some (s.respond env id (CLIENT_PLEASE_SET_CONFIG_COMMAND_RESP_FAIL_1S CAUSE_INVALID_ARGS))
  | config_json_str :: _ =>
    match (json.json_tokener_parse (cstr config_json_str)).toOption with
    | none =>
      some (s.respond env id (CLIENT_PLEASE_SET_CONFIG_COMMAND_RESP_FAIL_1S CAUSE_INVALID_ARGS))
    | some config_json =>
      (s.config_.ofJson types json env config_json).map fun new_config =>
        if new_config.local_host.host = s.config_.local_host.host then
          (s.respond env id CLIENT_PLEASE_SET_CONFIG_COMMAND_RESP_SUCCSESS).PostEvent
            (.ConfigChangedEvent new_config)
        else
          s.respond env id (CLIENT_PLEASE_SET_CONFIG_COMMAND_RESP_FAIL_1S CAUSE_INVALID_ARGS)

def handleInnerRequestCommand (id : cmd_seq_t) (argv : List Str) (s : InnerServerHandler Url) :
    Option (InnerServerHandler Url) :=
  match argv with
  | [] => some s
  | command :: args =>
    if IS_EQUAL_COMMAND command PING_COMMAND then
      some (s.respond env id PING_COMMAND_RESP_SUCCESS)
    else if IS_EQUAL_COMMAND command SERVER_WHO_ARE_YOU_COMMAND then
      some (s.respond env id
        (CLIENT_WHO_ARE_YOU_COMMAND_RESP_SUCCSESS_1S (authStr types s.authInfo)))
    else if IS_EQUAL_COMMAND command SERVER_PLEASE_CONNECT_HTTP_COMMAND then
      some (s.handleConnectHttp types env id args)
    else if IS_EQUAL_COMMAND command SERVER_PLEASE_CONNECT_WEBSOCKET_COMMAND then
      some (s.handleConnectWebsocket types env id args)
    else if IS_EQUAL_COMMAND command SERVER_PLEASE_SYSTEM_INFO_COMMAND then
      some (s.respond env id (CLIENT_PLEASE_SYSTEM_INFO_COMMAND_RESP_SUCCSESS_1J
        (json.get_string (infoJson env.systemInfo))))
    else if IS_EQUAL_COMMAND command SERVER_PLEASE_CONFIG_COMMAND then
      some (s.respond env id (CLIENT_PLEASE_CONFIG_COMMAND_RESP_SUCCSESS_1J
        (json.get_string (s.config_.toJson types))))
    else if IS_EQUAL_COMMAND command SERVER_PLEASE_SET_CONFIG_COMMAND then
      s.handleSetConfig types json env id args
    else some s

def handleInnerResponceCommand (id : cmd_seq_t) (argv : List Str) (s : InnerServerHandler Url) :
    InnerServerHandler Url :=
  match argv with
  | state_command :: command :: args =>
    if IS_EQUAL_COMMAND state_command SUCCESS_COMMAND then
      if IS_EQUAL_COMMAND command PING_COMMAND then
        match args with
        | [] =>
          (s.Write env
            (make_approve_responce id (PING_COMMAND_APPROVE_FAIL_1S CAUSE_INVALID_ARGS)).cmd_).2
        | _ :: _ => (s.Write env (make_approve_responce id PING_COMMAND_APPROVE_SUCCESS).cmd_).2
      else s
    else s
  | _ => s

def handleInnerApproveCommand (_id : cmd_seq_t) (argv : List Str) (s : InnerServerHandler Url) :
    InnerServerHandler Url :=
  match argv with
  | command :: okrespcommand :: _ =>
    if IS_EQUAL_COMMAND command SUCCESS_COMMAND then
      if IS_EQUAL_COMMAND okrespcommand PING_COMMAND then s
      else if IS_EQUAL_COMMAND okrespcommand SERVER_WHO_ARE_YOU_COMMAND then
        s.PostEvent (.InnerClientConnectedEvent s.authInfo)
      else s
    else s
  | _ => s

/-- `Close` of the connection with its callback `Closed`, then `delete`. -/
def Close (s : InnerServerHandler Url) : InnerServerHandler Url :=
  if s.inner_connection_ then
    { s with inner_connection_ := false }.PostEvent (.InnerClientDisconnectedEvent s.authInfo)
  else s

def setConfig (config : DeviceConfig Url) (s : InnerServerHandler Url) : InnerServerHandler Url :=
  { s with config_ := config }

/-- The parser of the device; `none` is its aborted process. No callback waits for a frame. -/
def seqParser : InnerServerCommandSeqParser (Option (InnerServerHandler Url)) where
  next_id s :=
    match s with
    | none => ([], none)
    | some s => ((SiteOnYourDevice.next_id s.id_).1,
        some { s with id_ := (SiteOnYourDevice.next_id s.id_).2 })
  processRequest _ _ s := s
  Write data s := s.map fun s => (s.Write env data).2
  Close s := s.map Close
  handleInnerRequestCommand id argv s :=
    s.bind fun s => s.handleInnerRequestCommand types json env id argv
  handleInnerResponceCommand id argv s :=
    s.map fun s => s.handleInnerResponceCommand env id argv
  handleInnerApproveCommand id argv s :=
    s.map fun s => s.handleInnerApproveCommand id argv

/-- The requests that a device has a branch for. -/
def commands : List Str :=
  [PING_COMMAND, SERVER_WHO_ARE_YOU_COMMAND, SERVER_PLEASE_CONNECT_HTTP_COMMAND,
    SERVER_PLEASE_CONNECT_WEBSOCKET_COMMAND, SERVER_PLEASE_SYSTEM_INFO_COMMAND,
    SERVER_PLEASE_CONFIG_COMMAND, SERVER_PLEASE_SET_CONFIG_COMMAND]

end InnerServerHandler

/-- The first word names one of the commands. -/
def Knows (commands : List Str) : List Str → Prop
  | [] => False
  | command :: _ => ∃ k ∈ commands, IS_EQUAL_COMMAND command k = true

/-- One of the two lists of a configuration is there and is no array. -/
def ListsNoArray (json : Texts) (config_json : json_object) : Prop :=
  ∃ label ∈ [HANDLERS_URLS_SECTION_LABEL, SERVER_SOCKETS_SECTION_LABEL],
    json.get config_json label ≠ .null ∧ ∀ xs, json.get config_json label ≠ .array xs

/-- A `plz_set_config` with a list that is no array. -/
def SetsNoArray (json : Texts) : List Str → Prop
  | command :: config_json_str :: _ =>
    IS_EQUAL_COMMAND command SERVER_PLEASE_SET_CONFIG_COMMAND = true ∧
      ListsNoArray json (json.json_tokener_parse (cstr config_json_str))
  | _ => False

/-- Two infos of one account and one domain. -/
def UserAuthInfo.Same (a b : UserAuthInfo) : Prop :=
  a.login = b.login ∧ a.password = b.password ∧ a.host.host = b.host.host

namespace InnerServerHandler

/-- The handler after one response: it posted `events`, and may have given connections away. -/
structure Answered (env : DeviceEnv) (id : cmd_seq_t) (fmt : Fmt)
    (events : List (PostedEvent Url)) (s s' : InnerServerHandler Url) : Prop where
  framed : Framed fmt
  config_ : s'.config_ = s.config_
  inner_connection_ : s'.inner_connection_ = s.inner_connection_
  writes : s'.writes =
    s.writes ++ [((make_responce id fmt).cmd_, env.writeError s.writes.length)]
  events : s'.events = s.events ++ events

/-- What a request leads to; `none` is the aborted process. -/
inductive Requested (json : Texts) (env : DeviceEnv) (id : cmd_seq_t) (argv : List Str)
    (s : InnerServerHandler Url) : Option (InnerServerHandler Url) → Prop
  | unknown (h : ¬ Knows commands argv) : Requested json env id argv s (some s)
  | answered (fmt : Fmt) (events : List (PostedEvent Url)) {s' : InnerServerHandler Url}
      (hk : Knows commands argv) (hn : ¬ SetsNoArray json argv)
      (he : ∀ config, .ConfigChangedEvent config ∈ events → config.authInfo.Same s.authInfo)
      (h : Answered env id fmt events s s') :
      Requested json env id argv s (some s')
  | aborted (hk : Knows commands argv) (h : SetsNoArray json argv) : Requested json env id argv s none

section Requests
variable {types} {json} {env} {s s' : InnerServerHandler Url} {id : cmd_seq_t} {argv : List Str}

theorem respond_answered {fmt : Fmt} (hf : Framed fmt) :
    Answered env id fmt [] s (s.respond env id fmt) :=
  ⟨hf, rfl, rfl, rfl, (List.append_nil _).symm⟩

theorem handleConnectHttp_answered (args : List Str) :
    ∃ fmt, Answered env id fmt [] s (s.handleConnectHttp types env id args) := by
  fun_cases handleConnectHttp types env id args s with
  | case1 => exact ⟨_, respond_answered (framed_fail _ _)⟩
  | case2 hostandport args hc hl err t ht =>
    obtain rfl : _ = t := congrArg Prod.snd ht
    exact ⟨_, respond_answered (framed_success _ _)⟩
  | case3 hostandport args hc hl t ht =>
    obtain rfl : _ = t := congrArg Prod.snd ht
    exact ⟨_, framed_success _ _, rfl, rfl, rfl, (List.append_nil _).symm⟩
  | case4 => exact ⟨_, respond_answered (framed_fail _ _)⟩
  | case5 => exact ⟨_, respond_answered (framed_fail _ _)⟩

theorem handleConnectWebsocket_answered (args : List Str) :
    ∃ fmt, Answered env id fmt []
      s (s.handleConnectWebsocket types env id args) := by
  have hrelay : ∀ relay fmt, Framed fmt → Answered env id fmt [] s
      ((s.registerRelay relay).respond env id fmt) := by
    intro relay fmt hf
    exact ⟨hf, rfl, rfl, rfl, (List.append_nil _).symm⟩
  fun_cases handleConnectWebsocket types env id args s with
  | case1 | case3 => exact ⟨_, hrelay _ _ (framed_success _ _)⟩
  | case2 | case4 | case5 | case6 | case7 => exact ⟨_, respond_answered (framed_fail _ _)⟩

theorem readPairs_eq_none (json : Texts) {j : json_object} {label : Str} (first second : Str) :
    readPairs json j label first second = none ↔
      json.get j label ≠ .null ∧ ∀ xs, json.get j label ≠ .array xs := by
  rw [readPairs]
  cases json.get j label with
  | array xs => simp [json_object.toOption, json.elements_array]
  | _ => simp [json_object.toOption, json.elements_asserts]

/-- Reading a configuration fails exactly when one of its lists is no array. -/
theorem ofJson_eq_none {config : DeviceConfig Url} {j : json_object} :
    config.ofJson types json env j = none ↔ ListsNoArray json j := by
  simp only [DeviceConfig.ofJson, ListsNoArray, List.mem_cons, List.not_mem_nil, or_false,
    exists_eq_or_imp, exists_eq_left]
  rw [← readPairs_eq_none json "url".toList "handler".toList,
    ← readPairs_eq_none json "type".toList "path".toList]
  cases readPairs json j HANDLERS_URLS_SECTION_LABEL "url".toList "handler".toList with
  | none => simp
  | some => simp

theorem ofJson_account {old c : DeviceConfig Url} {config_json : json_object}
    (h : old.ofJson types json env config_json = some c) :
    c.login = old.login ∧ c.password = old.password := by
  obtain ⟨handlers_urls, _, h⟩ := Option.bind_eq_some_iff.1 h
  obtain ⟨server_sockets_urls, _, rfl⟩ := Option.map_eq_some_iff.1 h
  exact ⟨rfl, rfl⟩

theorem not_listsNoArray_null : ¬ ListsNoArray json .null := by
  rintro ⟨label, _, hne, _⟩
  exact hne (json.get_no_object _ _ fun _ h => by cases h)

theorem handleSetConfig_requested {command : Str} (args : List Str)
    (hcommand : IS_EQUAL_COMMAND command SERVER_PLEASE_SET_CONFIG_COMMAND = true) :
    Requested json env id (command :: args) s (s.handleSetConfig types json env id args) := by
  have hk : Knows commands (command :: args) :=
    ⟨SERVER_PLEASE_SET_CONFIG_COMMAND, by decide, hcommand⟩
  cases args with
  | nil => exact .answered _ [] hk nofun nofun (respond_answered (framed_fail _ _))
  | cons config_json_str args =>
    cases hparse : (json.json_tokener_parse (cstr config_json_str)).toOption with
    | none =>
      have hn : ¬ SetsNoArray json (command :: config_json_str :: args) := by
        intro h
        apply not_listsNoArray_null
        rw [← json_object.toOption_eq_none.1 hparse]
        exact h.2
      simp only [handleSetConfig, hparse]
      exact .answered _ [] hk hn nofun (respond_answered (framed_fail _ _))
    | some config_json =>
      have hj := json_object.toOption_eq_some hparse
      cases hread : s.config_.ofJson types json env config_json with
      | none =>
        simp only [handleSetConfig, hparse, hread]
        refine .aborted hk ⟨hcommand, ?_⟩
        rw [hj]
        exact ofJson_eq_none.1 hread
      | some new_config =>
        have hn : ¬ SetsNoArray json (command :: config_json_str :: args) := by
          intro h
          have hno : ListsNoArray json config_json := hj ▸ h.2
          rw [ofJson_eq_none.2 hno] at hread
          cases hread
        simp only [handleSetConfig, hparse, hread, Option.map_some]
        split
        · rename_i hhost
          obtain ⟨hlogin, hpassword⟩ := ofJson_account hread
          refine .answered CLIENT_PLEASE_SET_CONFIG_COMMAND_RESP_SUCCSESS
            [.ConfigChangedEvent new_config] hk hn ?_ ⟨framed_success _ _, rfl, rfl, rfl, rfl⟩
          intro config hc
          obtain ⟨⟩ := List.mem_singleton.1 hc
          exact ⟨hlogin, hpassword, hhost⟩
        · exact .answered _ [] hk hn nofun (respond_answered (framed_fail _ _))

theorem commands_apart :
    ∀ a ∈ commands, ∀ b ∈ commands, a ≠ b → IS_EQUAL_COMMAND a b = false := by
  decide

/-- A word names one command at most. -/
theorem names_one {command k : Str} (hm : k ∈ commands) (hk : IS_EQUAL_COMMAND command k = true) :
    ∀ b ∈ commands, k ≠ b → IS_EQUAL_COMMAND command b = false := by
  intro b hb hne
  exact IS_EQUAL_COMMAND_other hk (commands_apart k hm b hb hne)
    (commands_apart b hb k hm (Ne.symm hne))

/-- A word that names another command than `plz_set_config` is answered as its branch does. -/
theorem requested_of_command {command k : Str} {args : List Str} (hm : k ∈ commands)
    (hk : IS_EQUAL_COMMAND command k = true) (hne : k ≠ SERVER_PLEASE_SET_CONFIG_COMMAND)
    (h : ∃ fmt, Answered env id fmt [] s s') :
    Requested json env id (command :: args) s (some s') := by
  have hset : ¬ SetsNoArray json (command :: args) := by
    cases args with
    | nil => exact nofun
    | cons a args =>
      rw [SetsNoArray, names_one hm hk _ (by decide) hne]
      exact nofun
  obtain ⟨fmt, h⟩ := h
  exact .answered fmt [] ⟨k, hm, hk⟩ hset nofun h

theorem handleInnerRequestCommand_requested :
    Requested json env id argv s (s.handleInnerRequestCommand types json env id argv) := by
  fun_cases handleInnerRequestCommand types json env id argv s with
  | case1 => exact .unknown nofun
  | case2 command args h =>
    exact requested_of_command (by decide) h (by decide)
      ⟨_, respond_answered (framed_success _ _)⟩
  | case3 command args _ h =>
    exact requested_of_command (by decide) h (by decide)
      ⟨_, respond_answered (framed_success _ _)⟩
  | case4 command args _ _ h =>
    exact requested_of_command (by decide) h (by decide)
      (handleConnectHttp_answered args)
  | case5 command args _ _ _ h =>
    exact requested_of_command (by decide) h (by decide)
      (handleConnectWebsocket_answered args)
  | case6 command args _ _ _ _ h =>
    exact requested_of_command (by decide) h (by decide)
      ⟨_, respond_answered (framed_success _ _)⟩
  | case7 command args _ _ _ _ _ h =>
    exact requested_of_command (by decide) h (by decide)
      ⟨_, respond_answered (framed_success _ _)⟩
  | case8 command args _ _ _ _ _ _ h => exact handleSetConfig_requested args h
  | case9 command args h₁ h₂ h₃ h₄ h₅ h₆ h₇ =>
    apply Requested.unknown
    rintro ⟨k, hk, h⟩
    simp only [commands, List.mem_cons, List.not_mem_nil, or_false] at hk
    rcases hk with rfl | rfl | rfl | rfl | rfl | rfl | rfl
    · exact h₁ h
    · exact h₂ h
    · exact h₃ h
    · exact h₄ h
    · exact h₅ h
    · exact h₆ h
    · exact h₇ h

theorem handleInnerRequestCommand_config {command : Str}
    (hcommand : IS_EQUAL_COMMAND command SERVER_PLEASE_CONFIG_COMMAND = true) (args : List Str) :
    s.handleInnerRequestCommand types json env id (command :: args) =
      some (s.respond env id (CLIENT_PLEASE_CONFIG_COMMAND_RESP_SUCCSESS_1J
        (json.get_string (s.config_.toJson types)))) := by
  have hone := names_one (by decide) hcommand
  simp only [commands, List.forall_mem_cons] at hone
  obtain ⟨hping, hwho, hhttp, hsocket, hinfo, -⟩ := hone
  simp only [handleInnerRequestCommand, hping (by decide), hwho (by decide), hhttp (by decide),
    hsocket (by decide), hinfo (by decide), hcommand, Bool.false_eq_true, if_false, if_true]

theorem handleInnerRequestCommand_set_config {command : Str}
    (hcommand : IS_EQUAL_COMMAND command SERVER_PLEASE_SET_CONFIG_COMMAND = true)
    (args : List Str) :
    s.handleInnerRequestCommand types json env id (command :: args) =
      s.handleSetConfig types json env id args := by
  have hone := names_one (by decide) hcommand
  simp only [commands, List.forall_mem_cons] at hone
  obtain ⟨hping, hwho, hhttp, hsocket, hinfo, hconfig, -⟩ := hone
  simp only [handleInnerRequestCommand, hping (by decide), hwho (by decide), hhttp (by decide),
    hsocket (by decide), hinfo (by decide), hconfig (by decide), hcommand, Bool.false_eq_true,
    if_false, if_true]

theorem knows_of_setsNoArray (h : SetsNoArray json argv) : Knows commands argv := by
  match argv with
  | command :: _ :: _ => exact ⟨SERVER_PLEASE_SET_CONFIG_COMMAND, by decide, h.1⟩

/-- The process is aborted by a list that is no array, and by nothing else. -/
theorem handleInnerRequestCommand_eq_none :
    s.handleInnerRequestCommand types json env id argv = none ↔ SetsNoArray json argv := by
  have hr : Requested json env id argv s (s.handleInnerRequestCommand types json env id argv) :=
    handleInnerRequestCommand_requested
  cases hs : s.handleInnerRequestCommand types json env id argv with
  | none =>
    rw [hs] at hr
    cases hr with
    | aborted _ h => simp [h]
  | some s' =>
    rw [hs] at hr
    cases hr with
    | unknown hk => simp [mt knows_of_setsNoArray hk]
    | answered _ _ _ hn => simp [hn]

end Requests

end InnerServerHandler

end SiteOnYourDevice
