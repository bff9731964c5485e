import SiteOnYourDevice.InnerServerHandler

namespace SiteOnYourDevice
open CString JsonC
set_option relaxedAutoImplicit false
set_option autoImplicit true

variable {Url : Type} {types : CommonTypes Url} {json : Texts} {env : DeviceEnv}

/-- The texts of the valid hosts, and of the URLs of a configuration, are read as these. -/
structure CommonTypes.RoundTrip (types : CommonTypes Url) (c : DeviceConfig Url) : Prop where
  host : ∀ h, types.IsValid h = true → types.hostAndPort (cstr (types.ConvertToString h)) = h
  url : ∀ p ∈ c.server_sockets_urls, types.mkUrl (cstr (types.GetUrl p.2)) = p.2

namespace DeviceConfig

/-- The hosts are valid. -/
structure Valid (types : CommonTypes Url) (c : DeviceConfig Url) : Prop where
  local_host : types.IsValid c.local_host = true
  external_host : types.IsValid c.external_host = true

/-- The strings are those of C strings. -/
structure CStrings (c : DeviceConfig Url) : Prop where
  content_path : '\x00' ∉ c.content_path
  handlers_urls : ∀ p ∈ c.handlers_urls, '\x00' ∉ p.1 ∧ '\x00' ∉ p.2
  server_sockets_urls : ∀ p ∈ c.server_sockets_urls, '\x00' ∉ p.1

end DeviceConfig

theorem readPair_eq_some {first second : Str} {x : json_object} {p : Str × Str}
    (h : readPair json first second x = some p) :
    ∃ a b, json.get x first = a ∧ json.get x second = b ∧ p = (json.get_string a, json.get_string b) := by
  obtain ⟨a, ha, h⟩ := Option.bind_eq_some_iff.1 h
  obtain ⟨b, hb, rfl⟩ := Option.map_eq_some_iff.1 h
  exact ⟨a, b, json_object.toOption_eq_some ha, json_object.toOption_eq_some hb, rfl⟩

/-- A pair of an array is read as the C strings of the pair it was made of. -/
theorem readPair_object {first second : Str} (hne : (second == first) = false) (p : Str × Str) :
    readPair json first second
      (.object [(first, .new_string p.1), (second, .new_string p.2)]) =
    some (cstr p.1, cstr p.2) := by
  have ha : json.get_string (.new_string p.1) = cstr p.1 :=
    json_object.get_string_new_string json
  have hb : json.get_string (.new_string p.2) = cstr p.2 :=
    json_object.get_string_new_string json
  rw [readPair, json.get_cons_self, json.get_cons_of_ne hne, json.get_cons_self]
  exact congrArg some (Prod.ext ha hb)

theorem readPairs_pairsJson {config_json : json_object} {label first second : Str}
    (pairs : List (Str × Str)) (hj : json.get config_json label = pairsJson first second pairs)
    (hne : (second == first) = false) :
    readPairs json config_json label first second =
      some (pairs.map fun p => (cstr p.1, cstr p.2)) := by
  have hlist : ((pairs.map fun p => json_object.object
      [(first, .new_string p.1), (second, .new_string p.2)]).filterMap
        (readPair json first second)) = pairs.map fun p => (cstr p.1, cstr p.2) := by
    clear hj
    induction pairs with
    | nil => rfl
    | cons p pairs ih =>
      rw [List.map_cons, List.filterMap_cons_some (readPair_object hne p), ih, List.map_cons]
  rw [readPairs, hj]
  exact (congrArg (Option.map _) (json.elements_array _)).trans (congrArg some hlist)

theorem readPairs_cStrings {config_json : json_object} {label first second : Str}
    {pairs : List (Str × Str)}
    (h : readPairs json config_json label first second = some pairs) :
    ∀ p ∈ pairs, '\x00' ∉ p.1 ∧ '\x00' ∉ p.2 := by
  intro p hp
  rw [readPairs] at h
  split at h
  · cases h
    cases hp
  · obtain ⟨xs, hxs, rfl⟩ := Option.map_eq_some_iff.1 h
    obtain ⟨x, hx, hread⟩ := List.mem_filterMap.1 hp
    obtain ⟨a, b, ha, hb, rfl⟩ := readPair_eq_some hread
    exact ⟨json.nul_not_mem_get_string a, json.nul_not_mem_get_string b⟩

namespace DeviceConfig
variable {c : DeviceConfig Url}

theorem ofJson_cStrings {old : DeviceConfig Url} {config_json : json_object}
    (h : old.ofJson types json env config_json = some c) : c.CStrings := by
  obtain ⟨handlers_urls, hhandlers, h⟩ := Option.bind_eq_some_iff.1 h
  obtain ⟨server_sockets_urls, hsockets, rfl⟩ := Option.map_eq_some_iff.1 h
  have hpath : '\x00' ∉ readField json config_json CONTENT_PATH_SETTING_LABEL json.get_string [] := by
    rw [readField]
    cases (json.get config_json CONTENT_PATH_SETTING_LABEL).toOption with
    | none => exact List.not_mem_nil
    | some j => exact json.nul_not_mem_get_string j
  refine ⟨hpath, readPairs_cStrings hhandlers, ?_⟩
  intro p hp
  obtain ⟨q, hq, rfl⟩ := List.mem_map.1 hp
  exact (readPairs_cStrings hsockets q hq).1

/-- Reading the value of a configuration next to any one with the same account gives it back. -/
theorem ofJson_toJson {old : DeviceConfig Url} (hv : c.Valid types) (hc : c.CStrings)
    (hr : types.RoundTrip c) (hlogin : old.login = c.login)
    (hpassword : old.password = c.password) :
    old.ofJson types json env (c.toJson types) = some c := by
  have hhandlers : readPairs json (c.toJson types) HANDLERS_URLS_SECTION_LABEL "url".toList
      "handler".toList = some c.handlers_urls := by
    have hmap : c.handlers_urls.map (fun p => (cstr p.1, cstr p.2)) = c.handlers_urls := by
      refine (List.map_congr_left (g := id) ?_).trans (List.map_id _)
      intro p hp
      obtain ⟨h₁, h₂⟩ := hc.handlers_urls p hp
      exact Prod.ext (cstr_of_nul_free h₁) (cstr_of_nul_free h₂)
    rw [readPairs_pairsJson c.handlers_urls (json.get_object _ _) (by decide), hmap]
  have hsockets : readPairs json (c.toJson types) SERVER_SOCKETS_SECTION_LABEL "type".toList
      "path".toList =
      some (c.server_sockets_urls.map fun p => (cstr p.1, cstr (types.GetUrl p.2))) := by
    rw [readPairs_pairsJson (c.server_sockets_urls.map fun p => (p.1, types.GetUrl p.2))
      (json.get_object _ _) (by decide), List.map_map]
    rfl
  have hurls : (c.server_sockets_urls.map fun p => (cstr p.1, cstr (types.GetUrl p.2))).map
      (fun p => (p.1, types.mkUrl p.2)) = c.server_sockets_urls := by
    rw [List.map_map]
    refine (List.map_congr_left (g := id) ?_).trans (List.map_id _)
    intro p hp
    exact Prod.ext (cstr_of_nul_free (hc.server_sockets_urls p hp)) (hr.url p hp)
  have hhost : ∀ label h, types.IsValid h = true →
      json.get (c.toJson types) label = .new_string (types.ConvertToString h) →
      readField json (c.toJson types) label (fun j => types.hostAndPort (json.get_string j))
        ⟨[], 0⟩ = h := by
    intro label h hh hget
    have hstring : json.get_string (.new_string (types.ConvertToString h)) =
        cstr (types.ConvertToString h) := json_object.get_string_new_string json
    rw [readField, hget]
    exact (congrArg types.hostAndPort hstring).trans (hr.host h hh)
  have hlocal := hhost LOCAL_HOST_SETTING_LABEL _ hv.local_host (json.get_object _ _)
  have hexternal := hhost EXTERNAL_HOST_SETTING_LABEL _ hv.external_host (json.get_object _ _)
  have hpath : readField json (c.toJson types) CONTENT_PATH_SETTING_LABEL json.get_string [] =
      c.content_path := by
    have hget : json.get (c.toJson types) CONTENT_PATH_SETTING_LABEL =
        .new_string c.content_path := json.get_object _ _
    rw [readField, hget]
    exact (json_object.get_string_new_string json).trans (cstr_of_nul_free hc.content_path)
  have hprivate : readField json (c.toJson types) PRIVATE_SITE_SETTING_LABEL json.get_boolean
      env.uninitialised.1 = c.is_private_site := by
    have hget : json.get (c.toJson types) PRIVATE_SITE_SETTING_LABEL =
        .boolean c.is_private_site := json.get_object _ _
    rw [readField, hget]
    exact json.get_boolean_boolean c.is_private_site
  have htype : readField json (c.toJson types) SERVER_TYPE_SETTING_LABEL
      (fun j => http_server_t.ofInt (json.get_int j)) env.uninitialised.2 = c.server_type := by
    have hle := Int32.le_toInt c.server_type.number
    have hlt := Int32.toInt_lt c.server_type.number
    have hget : json.get (c.toJson types) SERVER_TYPE_SETTING_LABEL =
        .int c.server_type.toInt := json.get_object _ _
    rw [readField, hget]
    exact (congrArg http_server_t.ofInt (json.get_int_int _ hle hlt)).trans
      (http_server_t.ofInt_toInt c.server_type)
  simp only [ofJson, hhandlers, hsockets, Option.bind_some, Option.map_some, hurls]
  apply congrArg some
  obtain ⟨⟨_, _, _, _, _, _⟩, _, _, _⟩ := c
  simp only [DeviceConfig.mk.injEq, HttpConfig.mk.injEq]
  exact ⟨⟨hlocal, hlogin, hpassword, hprivate, hexternal, htype⟩, hpath, trivial, trivial⟩

end DeviceConfig

namespace InnerServerHandler

/-- What a device answers to `plz_config` is accepted as the argument of `plz_set_config`, by this
device and by any other one of its account and host, and the configuration posted is the one that
answered. -/
theorem set_config_get_config {s s' : InnerServerHandler Url} {id : cmd_seq_t} {command : Str}
    (hcommand : IS_EQUAL_COMMAND command SERVER_PLEASE_SET_CONFIG_COMMAND = true)
    (hlogin : s'.config_.login = s.config_.login)
    (hpassword : s'.config_.password = s.config_.password)
    (hhost : s'.config_.local_host.host = s.config_.local_host.host)
    (hv : s.config_.Valid types) (hc : s.config_.CStrings) (hr : types.RoundTrip s.config_)
    (hj : json.RoundTrip (s.config_.toJson types)) (args : List Str) :
    ∃ J, s.handleInnerRequestCommand types json env id [SERVER_PLEASE_CONFIG_COMMAND] =
        some (s.respond env id (CLIENT_PLEASE_CONFIG_COMMAND_RESP_SUCCSESS_1J J)) ∧
      s'.handleInnerRequestCommand types json env id (command :: J :: args) =
        some ((s'.respond env id CLIENT_PLEASE_SET_CONFIG_COMMAND_RESP_SUCCSESS).PostEvent
          (.ConfigChangedEvent s.config_)) := by
  refine ⟨json.get_string (s.config_.toJson types), rfl, ?_⟩
  have hnul := json.nul_not_mem_get_string (s.config_.toJson types)
  have hparse : (json.json_tokener_parse (cstr (json.get_string (s.config_.toJson types)))).toOption =
      some (s.config_.toJson types) := by
    rw [cstr_of_nul_free hnul, hj]
    rfl
  have hread : s'.config_.ofJson types json env (s.config_.toJson types) = some s.config_ :=
    DeviceConfig.ofJson_toJson hv hc hr hlogin hpassword
  rw [handleInnerRequestCommand_set_config hcommand]
  simp only [handleSetConfig, hparse, hread, Option.map_some, if_pos hhost.symm]

/-- Types that know two hosts, and a URL by its text. -/
def twoHosts : CommonTypes Str where
  hostAndPort := NetTypes.plain.hostAndPort
  IsValid h := h = ⟨"localhost".toList, 80⟩ || h = ⟨"unknown.com".toList, 8080⟩
  ConvertToString h := h.host ++ ':' :: Nat.toDigits 10 h.port
  mkUrl := id
  GetUrl := id

def siteConfig : DeviceConfig Str where
  local_host := ⟨"localhost".toList, 80⟩
  login := "login".toList
  password := "password".toList
  is_private_site := true
  external_host := ⟨"unknown.com".toList, 8080⟩
  server_type := .EXTERNAL_SERVER
  content_path := "content".toList
  handlers_urls := [("hello".toList, "world".toList)]
  server_sockets_urls := [("echo".toList, "ws:chat".toList)]

/-- The text of `siteConfig`. -/
def siteText : Str :=
  "\x7b \"local_host\": ".toList ++ "\"localhost:80\", ".toList ++
    "\"content_path\": ".toList ++ "\"content\", ".toList ++
    "\"private_site\": ".toList ++ "true, ".toList ++
    "\"external_host\": ".toList ++ "\"unknown.com:8080\", ".toList ++
    "\"server_type\": 1, ".toList ++
    "\"http_handlers_utls\": ".toList ++ "[ \x7b \"url\": \"hello\", ".toList ++
    "\"handler\": \"world\" \x7d ], ".toList ++
    "\"http_server_sockets\": ".toList ++ "[ \x7b \"type\": \"echo\", ".toList ++
    "\"path\": \"ws:chat\" \x7d ] \x7d".toList

/-- The texts of one value. -/
def siteTexts : Texts := .of (fun _ => siteConfig.toJson twoHosts) fun _ => siteText

def calmDevice : DeviceEnv where
  writeError _ := none
  connect _ := true
  FindExistLoopByPredicate _ := true
  FindExistServerByHost _ := true
  systemInfo := ⟨[], [], [], [], 0, 0⟩
  uninitialised := (false, .FASTO_SERVER)

def siteDevice : InnerServerHandler Str := ⟨siteConfig, 0, true, [], [], []⟩

theorem roundTrip_siteConfig : twoHosts.RoundTrip siteConfig := by
  constructor
  · intro h hv
    simp only [twoHosts, Bool.or_eq_true, decide_eq_true_eq] at hv
    rcases hv with rfl | rfl
    · decide
    · decide
  · decide

/-- `siteDevice` before its site was configured. -/
def newDevice : InnerServerHandler Str :=
  { siteDevice with
    config_ := { siteConfig with
      is_private_site := false
      content_path := []
      handlers_urls := []
      server_sockets_urls := [] } }

theorem set_config_get_config_site :
    ∃ J, siteDevice.handleInnerRequestCommand twoHosts siteTexts calmDevice "7".toList
        [SERVER_PLEASE_CONFIG_COMMAND] =
        some (siteDevice.respond calmDevice "7".toList
          (CLIENT_PLEASE_CONFIG_COMMAND_RESP_SUCCSESS_1J J)) ∧
      newDevice.handleInnerRequestCommand twoHosts siteTexts calmDevice "7".toList
        ["plz_set_config".toList, J] =
        some ((newDevice.respond calmDevice "7".toList
          CLIENT_PLEASE_SET_CONFIG_COMMAND_RESP_SUCCSESS).PostEvent
            (.ConfigChangedEvent siteConfig)) := by
  apply set_config_get_config
  · decide
  · rfl
  · rfl
  · rfl
  · exact ⟨by decide, by decide⟩
  · exact ⟨by decide, by decide, by decide⟩
  · exact roundTrip_siteConfig
  · rfl

end InnerServerHandler

end SiteOnYourDevice
