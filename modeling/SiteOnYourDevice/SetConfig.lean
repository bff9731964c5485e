import SiteOnYourDevice.DeviceConfiguration

namespace SiteOnYourDevice
open CString JsonC
set_option relaxedAutoImplicit false
set_option autoImplicit true

variable {Url : Type} {types : CommonTypes Url} {json : Texts} {env : DeviceEnv}

/-- A configuration and the number in its `server_type`, which need not be that of an enumerator. -/
structure NumberedConfig (Url : Type) extends DeviceConfig Url where
  number : Int
  server_type_eq : server_type = .ofInt number

/-- What stands in the fields that `HttpConfig new_config` does not initialise. -/
structure Memory where
  is_private_site : Bool
  server_type : Int

def DeviceEnv.over (env : DeviceEnv) (m : Memory) : DeviceEnv :=
  { env with uninitialised := (m.is_private_site, .ofInt m.server_type) }

/-- The number that `plz_set_config` leaves in `server_type`. -/
def typeNumber (json : Texts) (m : Memory) (config_json : json_object) : Int :=
  readField json config_json SERVER_TYPE_SETTING_LABEL json.get_int m.server_type

/-- What holds of the value of a field, or without one. -/
def AtField (json : Texts) (config_json : json_object) (label : Str) (absent : Prop)
    (given : json_object → Prop) : Prop :=
  match (json.get config_json label).toOption with
  | none => absent
  | some v => given v

/-- The list that a value gives: an array of elements that can all be read. -/
def GivesList (read : json_object → Option α) (v : json_object) (list : List α) : Prop :=
  ∃ xs, v = .array xs ∧ xs.map read = list.map some

/-- Each field of `new` is the one given in the value, or that of `old` where none is given; the
account cannot be given. -/
structure ChangesOnly (types : CommonTypes Url) (json : Texts) (config_json : json_object)
    (old new : NumberedConfig Url) : Prop where
  login : new.login = old.login
  password : new.password = old.password
  local_host : AtField json config_json LOCAL_HOST_SETTING_LABEL (new.local_host = old.local_host)
    fun v => new.local_host = types.hostAndPort (json.get_string v)
  external_host : AtField json config_json EXTERNAL_HOST_SETTING_LABEL
    (new.external_host = old.external_host)
    fun v => new.external_host = types.hostAndPort (json.get_string v)
  content_path : AtField json config_json CONTENT_PATH_SETTING_LABEL
    (new.content_path = old.content_path) fun v => new.content_path = json.get_string v
  is_private_site : AtField json config_json PRIVATE_SITE_SETTING_LABEL
    (new.is_private_site = old.is_private_site) fun v => new.is_private_site = json.get_boolean v
  server_type : AtField json config_json SERVER_TYPE_SETTING_LABEL (new.number = old.number)
    fun v => new.number = json.get_int v
  handlers_urls : AtField json config_json HANDLERS_URLS_SECTION_LABEL
    (new.handlers_urls = old.handlers_urls)
    fun v => GivesList (readPair json "url".toList "handler".toList) v new.handlers_urls
  server_sockets_urls : AtField json config_json SERVER_SOCKETS_SECTION_LABEL
    (new.server_sockets_urls = old.server_sockets_urls)
    fun v => GivesList (fun x => (readPair json "type".toList "path".toList x).map
      fun p => (p.1, types.mkUrl p.2)) v new.server_sockets_urls

/-- Every element of an array has both members. -/
def AllPairs (json : Texts) (first second : Str) (v : json_object) : Prop :=
  ∀ xs, v = .array xs → ∀ x ∈ xs, json.get x first ≠ .null ∧ json.get x second ≠ .null

/-- Every field with a default is given or is in `old` as a new configuration has it, and no pair of
a list lacks a member. -/
structure TellsRest (json : Texts) (config_json : json_object) (old : NumberedConfig Url) : Prop where
  local_host : json.get config_json LOCAL_HOST_SETTING_LABEL = .null → old.local_host = ⟨[], 0⟩
  external_host :
    json.get config_json EXTERNAL_HOST_SETTING_LABEL = .null → old.external_host = ⟨[], 0⟩
  content_path : json.get config_json CONTENT_PATH_SETTING_LABEL = .null → old.content_path = []
  handlers_urls : (json.get config_json HANDLERS_URLS_SECTION_LABEL = .null → old.handlers_urls = []) ∧
    AllPairs json "url".toList "handler".toList (json.get config_json HANDLERS_URLS_SECTION_LABEL)
  server_sockets_urls :
    (json.get config_json SERVER_SOCKETS_SECTION_LABEL = .null → old.server_sockets_urls = []) ∧
    AllPairs json "type".toList "path".toList (json.get config_json SERVER_SOCKETS_SECTION_LABEL)

/-- The two fields without a default are given too. -/
structure TellsAll (json : Texts) (config_json : json_object) (old : NumberedConfig Url) : Prop
    extends TellsRest json config_json old where
  is_private_site : json.get config_json PRIVATE_SITE_SETTING_LABEL ≠ .null
  server_type : json.get config_json SERVER_TYPE_SETTING_LABEL ≠ .null

section Fields
variable {config_json : json_object} {label first second : Str}

/-- A field that is read keeps its old value, when none is given, exactly when the old value is the
one it starts from. -/
theorem atField_readField (read : json_object → α) (start old : α) :
    (AtField json config_json label (readField json config_json label read start = old)
      fun v => readField json config_json label read start = read v) ↔
    (json.get config_json label = .null → old = start) := by
  rw [AtField, readField]
  cases h : (json.get config_json label).toOption with
  | none =>
    rw [json_object.toOption_eq_none] at h
    simp only [h, forall_const]
    exact eq_comm
  | some v =>
    have hne : json.get config_json label ≠ .null := by
      intro hnull
      rw [hnull] at h
      cases h
    simp [hne]

theorem givesList_filterMap {read : json_object → Option α} {xs : List json_object} :
    GivesList read (.array xs) (xs.filterMap read) ↔ ∀ x ∈ xs, (read x).isSome = true := by
  apply Iff.intro
  · rintro ⟨ys, hys, hmap⟩
    cases hys
    have hl := congrArg List.length hmap
    rw [List.length_map, List.length_map] at hl
    exact List.filterMap_length_eq_length.1 hl.symm
  · intro h
    refine ⟨xs, rfl, ?_⟩
    induction xs with
    | nil => rfl
    | cons x xs ih =>
      obtain ⟨a, ha⟩ := Option.isSome_iff_exists.1 (h x List.mem_cons_self)
      rw [List.filterMap_cons_some ha, List.map_cons, List.map_cons, ha,
        ih fun y hy => h y (List.mem_cons_of_mem x hy)]

theorem readPair_isSome {x : json_object} :
    (readPair json first second x).isSome = true ↔
      json.get x first ≠ .null ∧ json.get x second ≠ .null := by
  rw [readPair]
  cases json.get x first <;> cases json.get x second <;> simp [json_object.toOption]

/-- A list that is read keeps its old value, when none is given, exactly when that is empty, and is
the one given exactly when no pair lacks a member. -/
theorem atField_readPairs {pairs : List (Str × Str)} {l : List α} {f : Str × Str → α}
    (h : readPairs json config_json label first second = some pairs) :
    (AtField json config_json label (pairs.map f = l)
      fun v => GivesList (fun x => (readPair json first second x).map f) v (pairs.map f)) ↔
    (json.get config_json label = .null → l = []) ∧
      AllPairs json first second (json.get config_json label) := by
  rw [readPairs] at h
  rw [AtField]
  cases hv : (json.get config_json label).toOption with
  | none =>
    rw [json_object.toOption_eq_none] at hv
    simp only [hv, json_object.toOption] at h
    cases h
    simp [hv, AllPairs, eq_comm]
  | some v =>
    obtain rfl := json_object.toOption_eq_some hv
    simp only [hv] at h
    obtain ⟨xs, hxs, rfl⟩ := Option.map_eq_some_iff.1 h
    have harray : json.get config_json label = .array xs := json.elements_eq_some_iff.1 hxs
    simp only [harray, List.map_filterMap, reduceCtorEq, false_implies, true_and]
    rw [givesList_filterMap]
    simp [AllPairs, readPair_isSome]

end Fields

section Read
variable {config_json : json_object} {old new : NumberedConfig Url} {m : Memory}

/-- A configuration that is read differs by a default that was not told, or by the memory. -/
theorem changesOnly_iff_of_read
    (h : old.ofJson types json (env.over m) config_json = some new.toDeviceConfig)
    (hn : new.number = typeNumber json m config_json) :
    ChangesOnly types json config_json old new ↔ TellsRest json config_json old ∧
      (json.get config_json PRIVATE_SITE_SETTING_LABEL = .null →
        old.is_private_site = m.is_private_site) ∧
      (json.get config_json SERVER_TYPE_SETTING_LABEL = .null → old.number = m.server_type) := by
  obtain ⟨c, number, htype⟩ := new
  obtain ⟨handlers_urls, hhandlers, h⟩ := Option.bind_eq_some_iff.1 h
  obtain ⟨server_sockets_urls, hsockets, hc⟩ := Option.map_eq_some_iff.1 h
  dsimp only at hc hn
  subst hc hn
  have hurls := atField_readPairs (l := old.handlers_urls) (f := id) hhandlers
  simp only [List.map_id, Option.map_id] at hurls
  apply Iff.intro
  · intro hc
    refine ⟨⟨?_, ?_, ?_, ?_, ?_⟩, ?_, ?_⟩
    · exact (atField_readField _ _ _).1 hc.local_host
    · exact (atField_readField _ _ _).1 hc.external_host
    · exact (atField_readField _ _ _).1 hc.content_path
    · exact hurls.1 hc.handlers_urls
    · exact (atField_readPairs hsockets).1 hc.server_sockets_urls
    · exact (atField_readField _ _ _).1 hc.is_private_site
    · exact (atField_readField _ _ _).1 hc.server_type
  · rintro ⟨hrest, hprivate, htype⟩
    exact
      { login := rfl
        password := rfl
        local_host := (atField_readField _ _ _).2 hrest.local_host
        external_host := (atField_readField _ _ _).2 hrest.external_host
        content_path := (atField_readField _ _ _).2 hrest.content_path
        is_private_site := (atField_readField _ _ _).2 hprivate
        server_type := (atField_readField _ _ _).2 htype
        handlers_urls := hurls.2 hrest.handlers_urls
        server_sockets_urls := (atField_readPairs hsockets).2 hrest.server_sockets_urls }

theorem ofJson_server_type {c : DeviceConfig Url}
    (h : old.ofJson types json (env.over m) config_json = some c) :
    c.server_type = .ofInt (typeNumber json m config_json) := by
  obtain ⟨handlers_urls, _, h⟩ := Option.bind_eq_some_iff.1 h
  obtain ⟨server_sockets_urls, _, rfl⟩ := Option.map_eq_some_iff.1 h
  dsimp only [typeNumber, readField, DeviceEnv.over]
  cases (json.get config_json SERVER_TYPE_SETTING_LABEL).toOption <;> rfl

variable (types json env) in
/-- A configuration is read over every memory when its lists are arrays. -/
theorem exists_read (h : ¬ ListsNoArray json config_json) (old : NumberedConfig Url) (m : Memory) :
    ∃ new : NumberedConfig Url,
      old.ofJson types json (env.over m) config_json = some new.toDeviceConfig ∧
        new.number = typeNumber json m config_json := by
  cases hread : old.ofJson types json (env.over m) config_json with
  | none => exact absurd (InnerServerHandler.ofJson_eq_none.1 hread) h
  | some c => exact ⟨⟨c, typeNumber json m config_json, ofJson_server_type hread⟩, rfl, rfl⟩

end Read

/-- The local host of the value has the old host name. -/
def KeepsHost (types : CommonTypes Url) (json : Texts) (config_json : json_object)
    (old : DeviceConfig Url) : Prop :=
  (readField json config_json LOCAL_HOST_SETTING_LABEL
    (fun v => types.hostAndPort (json.get_string v)) ⟨[], 0⟩).host = old.local_host.host

instance (config_json : json_object) (old : DeviceConfig Url) :
    Decidable (KeepsHost types json config_json old) :=
  inferInstanceAs (Decidable (_ = _))

namespace InnerServerHandler

/-- The device answers `plz_set_config` with success and posts `new`. -/
structure Acknowledges (types : CommonTypes Url) (json : Texts) (env : DeviceEnv) (m : Memory)
    (id : cmd_seq_t) (argv : List Str) (config_json : json_object) (s : InnerServerHandler Url)
    (new : NumberedConfig Url) : Prop where
  answered : s.handleInnerRequestCommand types json (env.over m) id argv =
    some ((s.respond (env.over m) id CLIENT_PLEASE_SET_CONFIG_COMMAND_RESP_SUCCSESS).PostEvent
      (.ConfigChangedEvent new.toDeviceConfig))
  number : new.number = typeNumber json m config_json

variable {config_json : json_object} {old new : NumberedConfig Url} {m : Memory} {id : cmd_seq_t}
variable {s : InnerServerHandler Url} {command config_json_str : Str} {args : List Str}

/-- What is acknowledged is what is read, when it keeps the host name. -/
theorem acknowledges_iff
    (hcommand : IS_EQUAL_COMMAND command SERVER_PLEASE_SET_CONFIG_COMMAND = true)
    (hparse : (json.json_tokener_parse (cstr config_json_str)).toOption = some config_json) :
    s.Acknowledges types json env m id (command :: config_json_str :: args) config_json new ↔
      (s.config_.ofJson types json (env.over m) config_json = some new.toDeviceConfig ∧
        new.number = typeNumber json m config_json) ∧ KeepsHost types json config_json s.config_ := by
  have hhandle : s.handleInnerRequestCommand types json (env.over m) id
      (command :: config_json_str :: args) =
      s.handleSetConfig types json (env.over m) id (config_json_str :: args) :=
    handleInnerRequestCommand_set_config hcommand (config_json_str :: args)
  have hkeeps : ∀ c, s.config_.ofJson types json (env.over m) config_json = some c →
      (c.local_host.host = s.config_.local_host.host ↔
        KeepsHost types json config_json s.config_) := by
    intro c hc
    obtain ⟨_, _, hc⟩ := Option.bind_eq_some_iff.1 hc
    obtain ⟨_, _, rfl⟩ := Option.map_eq_some_iff.1 hc
    exact Iff.rfl
  simp only [handleSetConfig, hparse] at hhandle
  apply Iff.intro
  · rintro ⟨hanswer, hn⟩
    rw [hhandle, Option.map_eq_some_iff] at hanswer
    obtain ⟨c, hread, hanswer⟩ := hanswer
    split at hanswer
    · rename_i hhost
      have hevents := congrArg InnerServerHandler.events hanswer
      have hc := List.append_cancel_left hevents
      cases hc
      exact ⟨⟨hread, hn⟩, (hkeeps _ hread).1 hhost⟩
    · have hevents := congrArg InnerServerHandler.events hanswer
      exact absurd (List.self_eq_append_right.1 hevents) (List.cons_ne_nil _ _)
  · rintro ⟨⟨hread, hn⟩, hhost⟩
    refine ⟨?_, hn⟩
    rw [hhandle, hread, Option.map_some, if_pos ((hkeeps _ hread).2 hhost)]

/-- Every configuration that is posted has only the changes it was told, over every memory, exactly
when none can be posted or everything but its defaults was told. -/
theorem changesOnly_iff
    (hcommand : IS_EQUAL_COMMAND command SERVER_PLEASE_SET_CONFIG_COMMAND = true)
    (hparse : (json.json_tokener_parse (cstr config_json_str)).toOption = some config_json)
    (hold : s.config_ = old.toDeviceConfig) (hkeeps : KeepsHost types json config_json s.config_) :
    (∀ m new,
      s.Acknowledges types json env m id (command :: config_json_str :: args) config_json new →
        ChangesOnly types json config_json old new) ↔
      ListsNoArray json config_json ∨ TellsAll json config_json old := by
  rw [hold] at hkeeps
  simp only [acknowledges_iff hcommand hparse, hold, hkeeps, and_true]
  apply Iff.intro
  · intro h
    by_cases hno : ListsNoArray json config_json
    · exact .inl hno
    · let m : Memory := ⟨!old.is_private_site, old.number + 1⟩
      obtain ⟨new, hread, hn⟩ := exists_read types json env hno old m
      obtain ⟨hrest, hprivate, htype⟩ :=
        (changesOnly_iff_of_read hread hn).1 (h m new ⟨hread, hn⟩)
      refine .inr ⟨hrest, ?_, ?_⟩
      · intro hnull
        exact (Bool.eq_not_self _).1 (hprivate hnull)
      · intro hnull
        exact absurd (htype hnull) (Int.ne_of_lt (Int.lt_succ old.number))
  · rintro (hno | htold) m new ⟨hread, hn⟩
    · rw [ofJson_eq_none.2 hno] at hread
      cases hread
    · exact (changesOnly_iff_of_read hread hn).2
        ⟨htold.toTellsRest, fun hnull => absurd hnull htold.is_private_site,
          fun hnull => absurd hnull htold.server_type⟩

/-- `siteConfig`, of the second server type. -/
def siteNumbered : NumberedConfig Str :=
  { siteConfig with
    number := 1
    server_type_eq := rfl }

theorem changesOnly_iff_siteConfig :
    (∀ m new, siteDevice.Acknowledges twoHosts siteTexts calmDevice m "7".toList
      ["plz_set_config".toList, siteText] (siteConfig.toJson twoHosts) new →
        ChangesOnly twoHosts siteTexts (siteConfig.toJson twoHosts) siteNumbered new) ↔
      ListsNoArray siteTexts (siteConfig.toJson twoHosts) ∨
        TellsAll siteTexts (siteConfig.toJson twoHosts) siteNumbered :=
  changesOnly_iff (by decide) rfl rfl (by decide)

/-- A value that gives the local host only. -/
def hostOnly : json_object := .object [(LOCAL_HOST_SETTING_LABEL, .string "localhost:80".toList)]

def hostOnlyText : Str := "\x7b \"local_host\": \"localhost:80\" \x7d".toList

def hostOnlyTexts : Texts := .of (fun _ => hostOnly) fun _ => hostOnlyText

/-- The configuration that is posted for `hostOnly` over a memory of zeros: a public site of the
first type without content. -/
def hostOnlyPosted : NumberedConfig Str where
  local_host := ⟨"localhost".toList, 80⟩
  login := "login".toList
  password := "password".toList
  is_private_site := false
  external_host := ⟨[], 0⟩
  server_type := .FASTO_SERVER
  content_path := []
  handlers_urls := []
  server_sockets_urls := []
  number := 0
  server_type_eq := rfl

theorem not_changesOnly_hostOnly :
    ¬ ∀ m new, siteDevice.Acknowledges twoHosts hostOnlyTexts calmDevice m "7".toList
      ["plz_set_config".toList, hostOnlyText] hostOnly new →
        ChangesOnly twoHosts hostOnlyTexts hostOnly siteNumbered new := by
  intro h
  have hc : ChangesOnly twoHosts hostOnlyTexts hostOnly siteNumbered hostOnlyPosted :=
    h ⟨false, 0⟩ hostOnlyPosted ⟨by rfl, rfl⟩
  have hpath : [] = "content".toList := hc.content_path
  cases hpath

end InnerServerHandler

end SiteOnYourDevice
