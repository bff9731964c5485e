import SiteOnYourDevice.DeviceConfiguration
import SiteOnYourDevice.IniFile
import Mathlib.Tactic.IntervalCases

namespace SiteOnYourDevice
open CString IniFile
set_option relaxedAutoImplicit false
set_option autoImplicit true

def SERVER_SETTINGS_SECTION_LABEL : Str := "http_server".toList

/-- The variables of a branded build. -/
structure UserSpecific where
  DEFAULT_LOGIN : Str
  DEFAULT_PASSWORD : Str
  DEFAULT_LOCAL_DOMAIN : Str
  DEFAULT_EXTERNAL_DOMAIN : Str
  CONTENT_PATH : Str
  DEFAULT_PRIVATE_SITE : Int
  SERVER_TYPE : Int

/-- Their values when a build sets none of them. -/
def UserSpecific.cache : UserSpecific where
  DEFAULT_LOGIN := "anon@fastogt.com".toList
  DEFAULT_PASSWORD := "anon".toList
  DEFAULT_LOCAL_DOMAIN := "unknown.com:8080".toList
  DEFAULT_EXTERNAL_DOMAIN := "localhost:80".toList
  CONTENT_PATH := "content".toList
  DEFAULT_PRIVATE_SITE := 0
  SERVER_TYPE := 0

/-- What the code takes from the library of file systems and from the application. -/
structure FileSystem where
  is_valid_path : Str → Bool
  stable_dir_path : Str → Str
  GetAppDir : Str

def prepare_content_path (fs : FileSystem) (path : Str) : Str :=
  if fs.is_valid_path path then fs.stable_dir_path path else fs.GetAppDir ++ path

abbrev MATCH (k : Call) (s n : Str) : Prop := k.sect = s ∧ k.name = n

variable {Url : Type} (types : CommonTypes Url) (fs : FileSystem) (ini : Ini) (user : UserSpecific)

/-- The handler of a line, with the number it returns. -/
def ini_handler_fasto (config : DeviceConfig Url) (k : Call) : Nat × DeviceConfig Url :=
  if MATCH k SERVER_SETTINGS_SECTION_LABEL CONTENT_PATH_SETTING_LABEL then
    (1, { config with content_path := prepare_content_path fs k.value })
  else if MATCH k SERVER_SETTINGS_SECTION_LABEL LOCAL_HOST_SETTING_LABEL then
    (1, { config with local_host := types.hostAndPort k.value })
  else if MATCH k SERVER_SETTINGS_SECTION_LABEL LOGIN_SETTING_LABEL then
    (1, { config with login := k.value })
  else if MATCH k SERVER_SETTINGS_SECTION_LABEL PASSWORD_SETTING_LABEL then
    (1, { config with password := k.value })
  else if MATCH k SERVER_SETTINGS_SECTION_LABEL PRIVATE_SITE_SETTING_LABEL then
    (1, { config with is_private_site := atoi k.value ≠ 0 })
  else if MATCH k SERVER_SETTINGS_SECTION_LABEL EXTERNAL_HOST_SETTING_LABEL then
    (1, { config with external_host := types.hostAndPort k.value })
  else if MATCH k SERVER_SETTINGS_SECTION_LABEL SERVER_TYPE_SETTING_LABEL then
    (1, { config with server_type := .ofInt (atoi k.value) })
  else if k.sect = HANDLERS_URLS_SECTION_LABEL then
    (1, { config with handlers_urls := config.handlers_urls ++ [(k.name, k.value)] })
  else if k.sect = SERVER_SOCKETS_SECTION_LABEL then
    (1, { config with
      server_sockets_urls := config.server_sockets_urls ++ [(k.name, types.mkUrl k.value)] })
  else (0, config)

/-- The settings that `readConfig` starts from. -/
def defaultConfig : DeviceConfig Url where
  content_path := prepare_content_path fs user.CONTENT_PATH
  local_host := types.hostAndPort user.DEFAULT_LOCAL_DOMAIN
  login := user.DEFAULT_LOGIN
  password := user.DEFAULT_PASSWORD
  is_private_site := user.DEFAULT_PRIVATE_SITE ≠ 0
  external_host := types.hostAndPort user.DEFAULT_EXTERNAL_DOMAIN
  server_type := .ofInt user.SERVER_TYPE
  handlers_urls := []
  server_sockets_urls := []

/-- The configuration that is set, for the file there is. The handler is called for every line,
whatever it returns for one. -/
def readConfig (file : Option Str) : DeviceConfig Url :=
  match file with
  | none => defaultConfig types fs user
  | some text =>
    (ini.ini_parse text).foldl (fun config k => (ini_handler_fasto types fs config k).2)
      (defaultConfig types fs user)

namespace DeviceConfig
variable (c : DeviceConfig Url)

/-- The line that opens a section. -/
def sectionLine (label : Str) : Str := '[' :: label ++ "]\n".toList

/-- The flag is passed as the size of the text. -/
def privateSiteWrite : Str :=
  (PRIVATE_SITE_SETTING_LABEL ++ "=%u\n".toList).take c.is_private_site.toNat

/-- So is the number of the type, an `unsigned int`. -/
def serverTypeSize : Nat := (c.server_type.toInt % 2 ^ 32).toNat

/-- So many bytes of the text and of the zero that ends it. -/
def typeText (size : Nat) : Str :=
  (SERVER_TYPE_SETTING_LABEL ++ "=%u\n\x00".toList).take size

/-- The writes of `saveConfig`. -/
def writes : List Str :=
  [sectionLine SERVER_SETTINGS_SECTION_LABEL,
    pairLine (LOCAL_HOST_SETTING_LABEL, types.ConvertToString c.local_host),
    pairLine (LOGIN_SETTING_LABEL, c.login),
    pairLine (PASSWORD_SETTING_LABEL, c.password),
    pairLine (CONTENT_PATH_SETTING_LABEL, c.content_path),
    c.privateSiteWrite,
    pairLine (EXTERNAL_HOST_SETTING_LABEL, types.ConvertToString c.external_host),
    typeText c.serverTypeSize,
    sectionLine HANDLERS_URLS_SECTION_LABEL] ++
  c.handlers_urls.map pairLine ++
  [sectionLine SERVER_SOCKETS_SECTION_LABEL] ++
  c.server_sockets_urls.map fun p => pairLine (p.1, types.GetUrl p.2)

/-- The file after `saveConfig`, which does not make one; the outer `none` when it reads behind the
text of the type. -/
def saveConfig (file : Option Str) : Option (Option Str) :=
  match file with
  | none => some none
  | some old =>
    if c.serverTypeSize ≤ (typeText 16).length then
      some (some ((c.writes types).foldl File.Write ⟨old, 0⟩).content)
    else none

/-- The names and values that are written before the handlers. What is written of the flag stands
before the name after it. -/
def settings : List (Str × Str) :=
  [(LOCAL_HOST_SETTING_LABEL, types.ConvertToString c.local_host),
    (LOGIN_SETTING_LABEL, c.login), (PASSWORD_SETTING_LABEL, c.password),
    (CONTENT_PATH_SETTING_LABEL, c.content_path),
    (c.privateSiteWrite ++ EXTERNAL_HOST_SETTING_LABEL, types.ConvertToString c.external_host)]

def sockets : List (Str × Str) :=
  c.server_sockets_urls.map fun p => (p.1, types.GetUrl p.2)

/-- The section that the handlers are read in: theirs when the line that opens it is a line. -/
def handlersSection (size : Nat) : Str :=
  if size = 0 ∨ size = 15 then HANDLERS_URLS_SECTION_LABEL else SERVER_SETTINGS_SECTION_LABEL

/-- The calls for what was written of the type: a value of it, that may end with the line behind. -/
def typeCalls (size : Nat) : List Call :=
  if size < 12 then []
  else if size < 15 then
    [⟨SERVER_SETTINGS_SECTION_LABEL, SERVER_TYPE_SETTING_LABEL,
      "%u".toList.take (size - 12) ++ '[' :: HANDLERS_URLS_SECTION_LABEL ++ [']']⟩]
  else [⟨SERVER_SETTINGS_SECTION_LABEL, SERVER_TYPE_SETTING_LABEL, "%u".toList⟩]

/-- The calls for the type and the handlers. -/
def typeAndHandlers : List Call :=
  typeCalls c.serverTypeSize ++ callsFor (handlersSection c.serverTypeSize) c.handlers_urls

/-- The lines that are written are lines of pairs. -/
structure Legible : Prop where
  settings : ∀ p ∈ c.settings types, IsPair p.1 p.2
  handlers_urls : ∀ p ∈ c.handlers_urls, IsPair p.1 p.2
  server_sockets_urls : ∀ p ∈ c.sockets types, IsPair p.1 p.2

end DeviceConfig

theorem settings_nodup :
    [CONTENT_PATH_SETTING_LABEL, LOCAL_HOST_SETTING_LABEL, LOGIN_SETTING_LABEL,
      PASSWORD_SETTING_LABEL, PRIVATE_SITE_SETTING_LABEL, EXTERNAL_HOST_SETTING_LABEL,
      SERVER_TYPE_SETTING_LABEL].Nodup := by
  decide

theorem sections_nodup :
    [SERVER_SOCKETS_SECTION_LABEL, HANDLERS_URLS_SECTION_LABEL,
      SERVER_SETTINGS_SECTION_LABEL].Nodup := by
  decide

variable {types fs ini user}

/-- A line sets the one field that it names, or its pair is put at the end of one list. -/
theorem ini_handler_fasto_eq (config : DeviceConfig Url) (k : Call) :
    (ini_handler_fasto types fs config k).2 =
      { content_path := setBy SERVER_SETTINGS_SECTION_LABEL CONTENT_PATH_SETTING_LABEL
          (prepare_content_path fs) k config.content_path
        local_host := setBy SERVER_SETTINGS_SECTION_LABEL LOCAL_HOST_SETTING_LABEL
          types.hostAndPort k config.local_host
        login := setBy SERVER_SETTINGS_SECTION_LABEL LOGIN_SETTING_LABEL id k config.login
        password := setBy SERVER_SETTINGS_SECTION_LABEL PASSWORD_SETTING_LABEL id k
          config.password
        is_private_site := setBy SERVER_SETTINGS_SECTION_LABEL PRIVATE_SITE_SETTING_LABEL
          (fun v => decide (atoi v ≠ 0)) k config.is_private_site
        external_host := setBy SERVER_SETTINGS_SECTION_LABEL EXTERNAL_HOST_SETTING_LABEL
          types.hostAndPort k config.external_host
        server_type := setBy SERVER_SETTINGS_SECTION_LABEL SERVER_TYPE_SETTING_LABEL
          (fun v => .ofInt (atoi v)) k config.server_type
        handlers_urls := putBy HANDLERS_URLS_SECTION_LABEL id k config.handlers_urls
        server_sockets_urls := putBy SERVER_SOCKETS_SECTION_LABEL
          (fun p => (p.1, types.mkUrl p.2)) k config.server_sockets_urls } := by
  have hlabels := settings_nodup
  have hsections := sections_nodup
  simp only [List.nodup_cons, List.mem_cons, List.not_mem_nil, or_false, not_or]
    at hlabels hsections
  by_cases hs : k.sect = SERVER_SETTINGS_SECTION_LABEL
  · have hhandlers := Ne.symm hsections.2.1
    have hsockets := Ne.symm hsections.1.2
    fun_cases ini_handler_fasto types fs config k <;> simp_all [MATCH, setBy, putBy]
  · have hlists := Ne.symm hsections.1.1
    fun_cases ini_handler_fasto types fs config k <;> simp_all [MATCH, setBy, putBy]

/-- The configuration that calls of the handler make of another one. -/
def configOf (types : CommonTypes Url) (fs : FileSystem) (calls : List Call)
    (config : DeviceConfig Url) : DeviceConfig Url where
  content_path := setByAll SERVER_SETTINGS_SECTION_LABEL CONTENT_PATH_SETTING_LABEL
    (prepare_content_path fs) calls config.content_path
  local_host := setByAll SERVER_SETTINGS_SECTION_LABEL LOCAL_HOST_SETTING_LABEL
    types.hostAndPort calls config.local_host
  login := setByAll SERVER_SETTINGS_SECTION_LABEL LOGIN_SETTING_LABEL id calls config.login
  password := setByAll SERVER_SETTINGS_SECTION_LABEL PASSWORD_SETTING_LABEL id calls
    config.password
  is_private_site := setByAll SERVER_SETTINGS_SECTION_LABEL PRIVATE_SITE_SETTING_LABEL
    (fun v => decide (atoi v ≠ 0)) calls config.is_private_site
  external_host := setByAll SERVER_SETTINGS_SECTION_LABEL EXTERNAL_HOST_SETTING_LABEL
    types.hostAndPort calls config.external_host
  server_type := setByAll SERVER_SETTINGS_SECTION_LABEL SERVER_TYPE_SETTING_LABEL
    (fun v => .ofInt (atoi v)) calls config.server_type
  handlers_urls := putByAll HANDLERS_URLS_SECTION_LABEL id calls config.handlers_urls
  server_sockets_urls := putByAll SERVER_SOCKETS_SECTION_LABEL
    (fun p => (p.1, types.mkUrl p.2)) calls config.server_sockets_urls

theorem foldl_ini_handler_fasto (calls : List Call) (config : DeviceConfig Url) :
    calls.foldl (fun config k => (ini_handler_fasto types fs config k).2) config =
      configOf types fs calls config := by
  induction calls generalizing config with
  | nil => simp only [configOf, setByAll, lastValue, putByAll, pairsIn, List.foldl_nil,
      List.filterMap_nil, List.map_nil, List.append_nil, Option.map_none, Option.getD_none]
  | cons k calls ih =>
    rw [List.foldl_cons, ih, ini_handler_fasto_eq]
    simp only [configOf, setByAll_setBy, putByAll_putBy]

theorem readConfig_some (text : Str) :
    readConfig types fs ini user (some text) =
      configOf types fs (ini.ini_parse text) (defaultConfig types fs user) :=
  foldl_ini_handler_fasto _ _

theorem cStrings_ini_handler_fasto {config : DeviceConfig Url} {k : Call}
    (hpath : ∀ path, '\x00' ∉ path → '\x00' ∉ prepare_content_path fs path)
    (hk : '\x00' ∉ k.name ∧ '\x00' ∉ k.value) (hc : config.CStrings) :
    (ini_handler_fasto types fs config k).2.CStrings := by
  fun_cases ini_handler_fasto types fs config k with
  | case1 => exact ⟨hpath k.value hk.2, hc.handlers_urls, hc.server_sockets_urls⟩
  | case2 | case3 | case4 | case5 | case6 | case7 | case10 =>
    exact ⟨hc.content_path, hc.handlers_urls, hc.server_sockets_urls⟩
  | case8 =>
    refine ⟨hc.content_path, ?_, hc.server_sockets_urls⟩
    exact List.forall_mem_append.2 ⟨hc.handlers_urls, List.forall_mem_singleton.2 hk⟩
  | case9 =>
    refine ⟨hc.content_path, hc.handlers_urls, ?_⟩
    exact List.forall_mem_append.2 ⟨hc.server_sockets_urls, List.forall_mem_singleton.2 hk.1⟩

theorem cStrings_foldl_ini_handler_fasto {calls : List Call} {config : DeviceConfig Url}
    (hpath : ∀ path, '\x00' ∉ path → '\x00' ∉ prepare_content_path fs path)
    (hcalls : ∀ k ∈ calls, '\x00' ∉ k.name ∧ '\x00' ∉ k.value) (hc : config.CStrings) :
    (calls.foldl (fun config k => (ini_handler_fasto types fs config k).2) config).CStrings := by
  induction calls generalizing config with
  | nil => exact hc
  | cons k calls ih =>
    obtain ⟨hk, hcalls⟩ := List.forall_mem_cons.1 hcalls
    exact ih hcalls (cStrings_ini_handler_fasto hpath hk hc)

/-- A configuration that is read from a file is made of C strings. -/
theorem readConfig_cStrings (hpath : ∀ path, '\x00' ∉ path → '\x00' ∉ prepare_content_path fs path)
    (huser : '\x00' ∉ user.CONTENT_PATH)
    (hcalls : ∀ text, ∀ k ∈ ini.ini_parse text, '\x00' ∉ k.name ∧ '\x00' ∉ k.value)
    (file : Option Str) : (readConfig types fs ini user file).CStrings := by
  have hdefault : (defaultConfig types fs user).CStrings := ⟨hpath _ huser, nofun, nofun⟩
  cases file with
  | none => exact hdefault
  | some text => exact cStrings_foldl_ini_handler_fasto hpath (hcalls text) hdefault

namespace DeviceConfig
variable {c : DeviceConfig Url}

theorem saveConfig_some (old : Str) :
    c.saveConfig types (some old) =
      if c.serverTypeSize ≤ 16 then
        some (some ((c.writes types).flatten ++ old.drop (c.writes types).flatten.length))
      else none := by
  have hlen : (typeText 16).length = 16 := by decide
  rw [saveConfig, hlen, File.content_foldl_write]

theorem flatten_writes :
    (c.writes types).flatten =
      sectionLine SERVER_SETTINGS_SECTION_LABEL ++ ((c.settings types).flatMap pairLine ++
        (typeText c.serverTypeSize ++ (sectionLine HANDLERS_URLS_SECTION_LABEL ++
          (c.handlers_urls.flatMap pairLine ++ (sectionLine SERVER_SOCKETS_SECTION_LABEL ++
            (c.sockets types).flatMap pairLine))))) := by
  simp [writes, settings, sockets, pairLine, List.flatMap_def, Function.comp_def]

/-- What is written of the type is put before the line that opens the section of the handlers. -/
theorem calls_typeText (hi : ini.Documented) {size : Nat} (hsize : size ≤ 16) (prev rest : Str) :
    ∃ prev', ini.calls SERVER_SETTINGS_SECTION_LABEL prev
        (typeText size ++ (sectionLine HANDLERS_URLS_SECTION_LABEL ++ rest)) =
      typeCalls size ++ ini.calls (handlersSection size) prev' rest := by
  have hother : ∀ s, IsOther (s ++ '[' :: HANDLERS_URLS_SECTION_LABEL ++ [']']) →
      ini.calls SERVER_SETTINGS_SECTION_LABEL prev
        (s ++ (sectionLine HANDLERS_URLS_SECTION_LABEL ++ rest)) =
      ini.calls SERVER_SETTINGS_SECTION_LABEL prev rest := by
    intro s hs
    have hline := hi.other SERVER_SETTINGS_SECTION_LABEL prev _ rest hs
    simpa [sectionLine] using hline
  have hvalue : ∀ v, IsPair SERVER_TYPE_SETTING_LABEL
      (v ++ '[' :: HANDLERS_URLS_SECTION_LABEL ++ [']']) →
      ini.calls SERVER_SETTINGS_SECTION_LABEL prev
        (SERVER_TYPE_SETTING_LABEL ++ '=' :: v ++
          (sectionLine HANDLERS_URLS_SECTION_LABEL ++ rest)) =
      ⟨SERVER_SETTINGS_SECTION_LABEL, SERVER_TYPE_SETTING_LABEL,
        v ++ '[' :: HANDLERS_URLS_SECTION_LABEL ++ [']']⟩ ::
        ini.calls SERVER_SETTINGS_SECTION_LABEL SERVER_TYPE_SETTING_LABEL rest := by
    intro v hv
    have hline := hi.pair SERVER_SETTINGS_SECTION_LABEL prev _ _ rest hv
    simpa [sectionLine] using hline
  have hwhole : ∀ rest', ini.calls SERVER_SETTINGS_SECTION_LABEL prev
      (SERVER_TYPE_SETTING_LABEL ++ "=%u\n".toList ++ rest') =
      ⟨SERVER_SETTINGS_SECTION_LABEL, SERVER_TYPE_SETTING_LABEL, "%u".toList⟩ ::
        ini.calls SERVER_SETTINGS_SECTION_LABEL SERVER_TYPE_SETTING_LABEL rest' := by
    intro rest'
    have hline := hi.pair SERVER_SETTINGS_SECTION_LABEL prev SERVER_TYPE_SETTING_LABEL "%u".toList
      rest' (by decide)
    simpa using hline
  obtain hzero | hpart | hval | hfull | hnul : size = 0 ∨ (1 ≤ size ∧ size ≤ 11) ∨
      (12 ≤ size ∧ size ≤ 14) ∨ size = 15 ∨ size = 16 := by omega
  · subst hzero
    exact ⟨[], hi.head _ prev HANDLERS_URLS_SECTION_LABEL rest (by decide)⟩
  · refine ⟨prev, ?_⟩
    obtain ⟨hlow, hhigh⟩ := hpart
    -- some bytes of the name stand before the bracket
    interval_cases size <;> exact hother _ (by decide)
  · refine ⟨SERVER_TYPE_SETTING_LABEL, ?_⟩
    obtain ⟨hlow, hhigh⟩ := hval
    interval_cases size
    · exact hvalue [] (by decide)
    · exact hvalue "%".toList (by decide)
    · exact hvalue "%u".toList (by decide)
  · subst hfull
    refine ⟨[], (hwhole _).trans ?_⟩
    exact congrArg _ (hi.head _ _ HANDLERS_URLS_SECTION_LABEL rest (by decide))
  · subst hnul
    refine ⟨SERVER_TYPE_SETTING_LABEL, (hwhole ('\x00' :: _)).trans ?_⟩
    have hskip := hi.nul SERVER_SETTINGS_SECTION_LABEL SERVER_TYPE_SETTING_LABEL
      ('[' :: HANDLERS_URLS_SECTION_LABEL ++ [']']) rest (by decide) (by decide)
    have hsect : handlersSection 16 = SERVER_SETTINGS_SECTION_LABEL := by decide
    rw [hsect]
    exact congrArg _ (by simpa [sectionLine] using hskip)

/-- The calls for a saved configuration and what stands after it. -/
theorem ini_parse_writes (hi : ini.Documented) (hc : c.Legible types)
    (hsize : c.serverTypeSize ≤ 16) (left : Str) :
    ini.ini_parse ((c.writes types).flatten ++ left) =
      callsFor SERVER_SETTINGS_SECTION_LABEL (c.settings types) ++
        (c.typeAndHandlers ++
          (callsFor SERVER_SOCKETS_SECTION_LABEL (c.sockets types) ++
            ini.calls SERVER_SOCKETS_SECTION_LABEL (lastName [] (c.sockets types)) left)) := by
  have hfirst : ∀ rest, ini.ini_parse (sectionLine SERVER_SETTINGS_SECTION_LABEL ++ rest) =
      ini.calls SERVER_SETTINGS_SECTION_LABEL [] rest :=
    fun rest => hi.first SERVER_SETTINGS_SECTION_LABEL rest (by decide)
  have hsockets : ∀ sect prev rest,
      ini.calls sect prev (sectionLine SERVER_SOCKETS_SECTION_LABEL ++ rest) =
        ini.calls SERVER_SOCKETS_SECTION_LABEL [] rest :=
    fun sect prev rest => hi.head sect prev SERVER_SOCKETS_SECTION_LABEL rest (by decide)
  simp only [flatten_writes, List.append_assoc]
  rw [hfirst, hi.pairs hc.settings]
  obtain ⟨prev, hprev⟩ := calls_typeText hi hsize (lastName [] (c.settings types))
    (c.handlers_urls.flatMap pairLine ++ (sectionLine SERVER_SOCKETS_SECTION_LABEL ++
      ((c.sockets types).flatMap pairLine ++ left)))
  rw [hprev, hi.pairs hc.handlers_urls, hsockets, hi.pairs hc.server_sockets_urls, typeAndHandlers,
    List.append_assoc]

/-- The value that the line of a setting gives it, when it has one under its own name. -/
def saved (types : CommonTypes Url) (c : DeviceConfig Url) (label : Str) : Option Str :=
  lastValue SERVER_SETTINGS_SECTION_LABEL label
    (callsFor SERVER_SETTINGS_SECTION_LABEL (c.settings types))

/-- The flag and the type have no line, and the flag takes the external host its own. -/
theorem saved_eq :
    c.saved types LOCAL_HOST_SETTING_LABEL = some (types.ConvertToString c.local_host) ∧
      c.saved types LOGIN_SETTING_LABEL = some c.login ∧
      c.saved types PASSWORD_SETTING_LABEL = some c.password ∧
      c.saved types CONTENT_PATH_SETTING_LABEL = some c.content_path ∧
      c.saved types PRIVATE_SITE_SETTING_LABEL = none ∧
      c.saved types EXTERNAL_HOST_SETTING_LABEL =
        (if c.is_private_site then none else some (types.ConvertToString c.external_host)) ∧
      c.saved types SERVER_TYPE_SETTING_LABEL = none := by
  obtain ⟨⟨_, _, _, is_private_site, _, _⟩, _, _, _⟩ := c
  cases is_private_site with
  | false => exact ⟨rfl, rfl, rfl, rfl, rfl, rfl, rfl⟩
  | true => exact ⟨rfl, rfl, rfl, rfl, rfl, rfl, rfl⟩

/-- The calls for the lines after the settings: those of the type and of the handlers, and those for
what is left of an old file. -/
def later (types : CommonTypes Url) (ini : Ini) (c : DeviceConfig Url) (old : Str) : List Call :=
  c.typeAndHandlers ++
    ini.calls SERVER_SOCKETS_SECTION_LABEL (lastName [] (c.sockets types))
      (old.drop (c.writes types).flatten.length)

/-- The later lines leave the settings that were written, or give them again what they were, and
they make up for those that were not. -/
structure Restorable (types : CommonTypes Url) (fs : FileSystem) (user : UserSpecific)
    (c : DeviceConfig Url) (later : List Call) : Prop where
  content_path : setByAll SERVER_SETTINGS_SECTION_LABEL CONTENT_PATH_SETTING_LABEL
    (prepare_content_path fs) later (prepare_content_path fs c.content_path) = c.content_path
  local_host : setByAll SERVER_SETTINGS_SECTION_LABEL LOCAL_HOST_SETTING_LABEL
    types.hostAndPort later c.local_host = c.local_host
  login : setByAll SERVER_SETTINGS_SECTION_LABEL LOGIN_SETTING_LABEL id later c.login = c.login
  password : setByAll SERVER_SETTINGS_SECTION_LABEL PASSWORD_SETTING_LABEL id later
    c.password = c.password
  is_private_site : setByAll SERVER_SETTINGS_SECTION_LABEL PRIVATE_SITE_SETTING_LABEL
    (fun v => decide (atoi v ≠ 0)) later (decide (user.DEFAULT_PRIVATE_SITE ≠ 0)) =
      c.is_private_site
  external_host : setByAll SERVER_SETTINGS_SECTION_LABEL EXTERNAL_HOST_SETTING_LABEL
    types.hostAndPort later (if c.is_private_site
      then types.hostAndPort user.DEFAULT_EXTERNAL_DOMAIN else c.external_host) = c.external_host
  server_type : setByAll SERVER_SETTINGS_SECTION_LABEL SERVER_TYPE_SETTING_LABEL
    (fun v => .ofInt (atoi v)) later (.ofInt user.SERVER_TYPE) = c.server_type
  handlers_urls : pairsIn HANDLERS_URLS_SECTION_LABEL later = c.handlers_urls
  server_sockets_urls : pairsIn SERVER_SOCKETS_SECTION_LABEL later = []

/-- The hosts and the URLs of a configuration are read from their texts. -/
structure Reads (types : CommonTypes Url) (c : DeviceConfig Url) : Prop where
  local_host : types.hostAndPort (types.ConvertToString c.local_host) = c.local_host
  external_host : types.hostAndPort (types.ConvertToString c.external_host) = c.external_host
  server_sockets_urls : ∀ p ∈ c.server_sockets_urls, types.mkUrl (types.GetUrl p.2) = p.2

/-- A setting after the calls for a saved configuration and for what is left. -/
theorem setByAll_saved (label : Str) (read : Str → α) (left : List Call) (old : α) :
    setByAll SERVER_SETTINGS_SECTION_LABEL label read
        (callsFor SERVER_SETTINGS_SECTION_LABEL (c.settings types) ++
          (c.typeAndHandlers ++
            (callsFor SERVER_SOCKETS_SECTION_LABEL (c.sockets types) ++ left))) old =
      setByAll SERVER_SETTINGS_SECTION_LABEL label read (c.typeAndHandlers ++ left)
        (((c.saved types label).map read).getD old) := by
  rw [setByAll_append, setByAll_append, setByAll_append, setByAll_append,
    setByAll_callsFor_of_ne (by decide)]
  rfl

theorem handlersSection_ne (size : Nat) : handlersSection size ≠ SERVER_SOCKETS_SECTION_LABEL := by
  rw [handlersSection]
  split <;> decide

/-- The calls for the type are no pairs of a list. -/
theorem pairsIn_typeCalls {sect : Str} (hne : SERVER_SETTINGS_SECTION_LABEL ≠ sect) (size : Nat) :
    pairsIn sect (typeCalls size) = [] := by
  rw [typeCalls]
  split
  · rfl
  · split
    · exact pairsIn_callsFor_of_ne hne [(_, _)]
    · exact pairsIn_callsFor_of_ne hne [(_, _)]

theorem pairsIn_typeAndHandlers :
    pairsIn SERVER_SOCKETS_SECTION_LABEL c.typeAndHandlers = [] := by
  rw [typeAndHandlers, pairsIn_append, pairsIn_typeCalls (by decide),
    pairsIn_callsFor_of_ne (handlersSection_ne _), List.append_nil]

theorem Reads.sockets (hr : c.Reads types) :
    (c.sockets types).map (fun p => (p.1, types.mkUrl p.2)) = c.server_sockets_urls := by
  rw [DeviceConfig.sockets, List.map_map]
  refine (List.map_congr_left (g := id) ?_).trans (List.map_id _)
  intro p hp
  exact Prod.ext rfl (hr.server_sockets_urls p hp)

/-- The external host after the settings: the flag takes it its line. -/
theorem Reads.savedExternalHost (hr : c.Reads types) (old : HostAndPort) :
    ((c.saved types EXTERNAL_HOST_SETTING_LABEL).map types.hostAndPort).getD old =
      if c.is_private_site then old else c.external_host := by
  obtain ⟨_, _, _, _, _, hexternal, _⟩ := @saved_eq Url types c
  rw [hexternal]
  split
  · rfl
  · exact hr.external_host

/-- The configuration that those calls lead to. -/
theorem configOf_saved (hr : c.Reads types) (left : List Call) :
    configOf types fs
        (callsFor SERVER_SETTINGS_SECTION_LABEL (c.settings types) ++
          (c.typeAndHandlers ++
            (callsFor SERVER_SOCKETS_SECTION_LABEL (c.sockets types) ++ left)))
        (defaultConfig types fs user) =
      configOf types fs (c.typeAndHandlers ++ left)
          { content_path := prepare_content_path fs c.content_path
            local_host := c.local_host
            login := c.login
            password := c.password
            is_private_site := user.DEFAULT_PRIVATE_SITE ≠ 0
            external_host := if c.is_private_site
              then types.hostAndPort user.DEFAULT_EXTERNAL_DOMAIN else c.external_host
            server_type := .ofInt user.SERVER_TYPE
            handlers_urls := []
            server_sockets_urls := c.server_sockets_urls } := by
  obtain ⟨hlocal, hlogin, hpassword, hpath, hprivate, _, htype⟩ := @saved_eq Url types c
  have hnodup := sections_nodup
  simp only [List.nodup_cons, List.mem_cons, List.not_mem_nil, or_false, not_or] at hnodup
  simp only [configOf, setByAll_saved, hlocal, hlogin, hpassword, hpath, hprivate, htype,
    hr.savedExternalHost, defaultConfig, Option.map_some, Option.map_none, Option.getD_some,
    Option.getD_none, hr.local_host, id_eq, putByAll, pairsIn_append, List.map_append,
    List.nil_append, pairsIn_callsFor_self, pairsIn_typeAndHandlers, hr.sockets,
    pairsIn_callsFor_of_ne (Ne.symm hnodup.2.1), pairsIn_callsFor_of_ne (Ne.symm hnodup.1.2),
    pairsIn_callsFor_of_ne hnodup.1.1]

/-- What is read after saving is the configuration that was saved. -/
def Restored (types : CommonTypes Url) (fs : FileSystem) (ini : Ini) (user : UserSpecific)
    (c : DeviceConfig Url) (old : Str) : Prop :=
  (c.saveConfig types (some old)).map (readConfig types fs ini user) = some c

/-- The text of the type has that many bytes. -/
def TypeInText (c : DeviceConfig Url) : Prop := c.serverTypeSize ≤ 16

theorem readConfig_saveConfig (hi : ini.Documented) (hc : c.Legible types) (hr : c.Reads types)
    (old : Str) :
    c.Restored types fs ini user old ↔
      c.TypeInText ∧ c.Restorable types fs user (c.later types ini old) := by
  rw [Restored, saveConfig_some, TypeInText]
  split
  · rename_i hsize
    rw [Option.map_some, Option.some.injEq, readConfig_some, ini_parse_writes hi hc hsize,
      configOf_saved hr, ← later, and_iff_right hsize]
    generalize c.later types ini old = calls
    obtain ⟨⟨_, _, _, _, _, _⟩, _, _, _⟩ := c
    simp only [configOf, DeviceConfig.mk.injEq, HttpConfig.mk.injEq, putByAll, List.nil_append,
      List.map_id, List.append_right_eq_self, List.map_eq_nil_iff]
    constructor
    · rintro ⟨⟨hlocal, hlogin, hpassword, hprivate, hexternal, htype⟩, hpath, hhandlers, hsockets⟩
      exact ⟨hpath, hlocal, hlogin, hpassword, hprivate, hexternal, htype, hhandlers, hsockets⟩
    · intro h
      exact ⟨⟨h.local_host, h.login, h.password, h.is_private_site, h.external_host,
        h.server_type⟩, h.content_path, h.handlers_urls, h.server_sockets_urls⟩
  · rename_i hsize
    exact ⟨fun hn => (by cases hn), fun h => absurd h.1 hsize⟩

/-- The flag and the type are those of the build, the flag does not take the external host its
line and the type not the handlers their section, nor is it long enough to be given a value, and
the content path is prepared already. -/
structure Unaltered (types : CommonTypes Url) (fs : FileSystem) (user : UserSpecific)
    (c : DeviceConfig Url) : Prop where
  content_path : prepare_content_path fs c.content_path = c.content_path
  is_private_site : decide (user.DEFAULT_PRIVATE_SITE ≠ 0) = c.is_private_site
  external_host : c.is_private_site = true →
    types.hostAndPort user.DEFAULT_EXTERNAL_DOMAIN = c.external_host
  server_type : .ofInt user.SERVER_TYPE = c.server_type
  unwritten : c.serverTypeSize < 12
  handlers_urls : c.server_type ≠ .FASTO_SERVER → c.handlers_urls = []

theorem serverTypeSize_eq_zero : c.serverTypeSize = 0 ↔ c.server_type = .FASTO_SERVER := by
  have hle := Int32.le_toInt c.server_type.number
  have hlt := Int32.toInt_lt c.server_type.number
  have hzero : c.serverTypeSize = 0 ↔ c.server_type.toInt = 0 := by
    rw [serverTypeSize, http_server_t.toInt]
    omega
  rw [hzero]
  constructor
  · intro h
    rw [← http_server_t.ofInt_toInt c.server_type, h]
    rfl
  · intro h
    rw [h]
    rfl

theorem later_of_length_le (hi : ini.Documented) {old : Str}
    (hle : old.length ≤ (c.writes types).flatten.length) :
    c.later types ini old = c.typeAndHandlers := by
  rw [later, List.drop_of_length_le hle, hi.empty, List.append_nil]

/-- When the handlers are read in their section, they are all that the last lines give; otherwise
these give nothing when there are none. -/
theorem setByAll_typeAndHandlers {label : Str}
    (hlabel : SERVER_TYPE_SETTING_LABEL ≠ label ∨ c.serverTypeSize < 12)
    (hh : handlersSection c.serverTypeSize = SERVER_SETTINGS_SECTION_LABEL → c.handlers_urls = [])
    (read : Str → α) (old : α) :
    setByAll SERVER_SETTINGS_SECTION_LABEL label read c.typeAndHandlers old = old := by
  have htype : setByAll SERVER_SETTINGS_SECTION_LABEL label read (typeCalls c.serverTypeSize) old =
      old := by
    rw [typeCalls]
    split
    · rfl
    · rename_i hlong
      have hne := hlabel.resolve_right hlong
      split
      · simp [setByAll, lastValue, hne]
      · simp [setByAll, lastValue, hne]
  rw [typeAndHandlers, setByAll_append, htype]
  by_cases hsect : handlersSection c.serverTypeSize = SERVER_SETTINGS_SECTION_LABEL
  · rw [hh hsect]
    rfl
  · exact setByAll_callsFor_of_ne hsect label read _ old

/-- A type that is given a value is given zero. -/
theorem setByAll_type (hlong : 12 ≤ c.serverTypeSize)
    (hh : handlersSection c.serverTypeSize = SERVER_SETTINGS_SECTION_LABEL → c.handlers_urls = [])
    (old : http_server_t) :
    setByAll SERVER_SETTINGS_SECTION_LABEL SERVER_TYPE_SETTING_LABEL (fun v => .ofInt (atoi v))
      c.typeAndHandlers old = .FASTO_SERVER := by
  have htype : ∀ old, setByAll SERVER_SETTINGS_SECTION_LABEL SERVER_TYPE_SETTING_LABEL
      (fun v => .ofInt (atoi v)) (typeCalls c.serverTypeSize) old =
        (.FASTO_SERVER : http_server_t) := by
    intro old
    rw [typeCalls, if_neg (Nat.not_lt.2 hlong)]
    split
    · rename_i hshort
      obtain h | h | h : c.serverTypeSize = 12 ∨ c.serverTypeSize = 13 ∨ c.serverTypeSize = 14 := by
        omega
      · rw [h]
        rfl
      · rw [h]
        rfl
      · rw [h]
        rfl
    · rfl
  rw [typeAndHandlers, setByAll_append, htype]
  by_cases hsect : handlersSection c.serverTypeSize = SERVER_SETTINGS_SECTION_LABEL
  · rw [hh hsect]
    rfl
  · exact setByAll_callsFor_of_ne hsect _ _ _ _

theorem handlersRead_iff (hlen : c.serverTypeSize < 12) :
    pairsIn HANDLERS_URLS_SECTION_LABEL c.typeAndHandlers = c.handlers_urls ↔
      (c.server_type ≠ .FASTO_SERVER → c.handlers_urls = []) := by
  have htype : c.server_type ≠ .FASTO_SERVER ↔ c.serverTypeSize ≠ 0 :=
    not_congr serverTypeSize_eq_zero.symm
  rw [typeAndHandlers, pairsIn_append, pairsIn_typeCalls (by decide), List.nil_append,
    handlersSection, htype]
  by_cases hzero : c.serverTypeSize = 0
  · rw [if_pos (.inl hzero)]
    exact iff_of_true (pairsIn_callsFor_self _ _) fun h => absurd hzero h
  · rw [if_neg (by omega), pairsIn_callsFor_of_ne (by decide)]
    exact ⟨fun h _ => h.symm, fun h => (h hzero).symm⟩

/-- Handlers that are read back are read in their own section. -/
theorem handlers_nil (h : pairsIn HANDLERS_URLS_SECTION_LABEL c.typeAndHandlers = c.handlers_urls)
    (hsect : handlersSection c.serverTypeSize = SERVER_SETTINGS_SECTION_LABEL) :
    c.handlers_urls = [] := by
  rw [typeAndHandlers, pairsIn_append, pairsIn_typeCalls (by decide), List.nil_append, hsect,
    pairsIn_callsFor_of_ne (by decide)] at h
  exact h.symm

/-- Then nothing makes up for what was not written. -/
theorem restorable_iff :
    c.TypeInText ∧ c.Restorable types fs user c.typeAndHandlers ↔ c.Unaltered types fs user := by
  constructor
  · rintro ⟨_, h⟩
    have hh := handlers_nil h.handlers_urls
    have hlen : c.serverTypeSize < 12 := by
      by_contra hlong
      have htype := h.server_type
      rw [setByAll_type (Nat.not_lt.1 hlong) hh] at htype
      have hzero := serverTypeSize_eq_zero.2 htype.symm
      omega
    have hpath := h.content_path
    have hprivate := h.is_private_site
    have hexternal := h.external_host
    have htype := h.server_type
    rw [setByAll_typeAndHandlers (.inr hlen) hh] at hpath hprivate hexternal htype
    refine ⟨hpath, hprivate, ?_, htype, hlen, (handlersRead_iff hlen).1 h.handlers_urls⟩
    intro hp
    rw [if_pos hp] at hexternal
    exact hexternal
  · intro h
    have hread := (handlersRead_iff h.unwritten).2 h.handlers_urls
    have hset {α : Type} (label : Str) (read : Str → α) (old : α) :
        setByAll SERVER_SETTINGS_SECTION_LABEL label read c.typeAndHandlers old = old :=
      setByAll_typeAndHandlers (.inr h.unwritten) (handlers_nil hread) read old
    have hexternal : (if c.is_private_site then types.hostAndPort user.DEFAULT_EXTERNAL_DOMAIN
        else c.external_host) = c.external_host := by
      split
      · rename_i hp
        exact h.external_host hp
      · rfl
    refine ⟨h.unwritten.le.trans (by decide), ?_⟩
    exact
      { content_path := (hset _ _ _).trans h.content_path
        local_host := hset _ _ _
        login := hset _ _ _
        password := hset _ _ _
        is_private_site := (hset _ _ _).trans h.is_private_site
        external_host := (hset _ _ _).trans hexternal
        server_type := (hset _ _ _).trans h.server_type
        handlers_urls := hread
        server_sockets_urls := pairsIn_typeAndHandlers }

/-- A saved configuration is the one that is read if and only if the type does not make `saveConfig`
read behind its text and what is left of the old file makes up for what was not written, and changes
nothing else; when nothing is left, if and only if the build has what was not written. -/
theorem readConfig_saveConfig_iff (hi : ini.Documented) (hc : c.Legible types)
    (hr : c.Reads types) (old : Str) :
    (c.Restored types fs ini user old ↔
        c.TypeInText ∧ c.Restorable types fs user (c.later types ini old)) ∧
      (old.length ≤ (c.writes types).flatten.length →
        (c.Restored types fs ini user old ↔ c.Unaltered types fs user)) := by
  have hiff : c.Restored types fs ini user old ↔
      c.TypeInText ∧ c.Restorable types fs user (c.later types ini old) :=
    readConfig_saveConfig hi hc hr old
  refine ⟨hiff, ?_⟩
  intro hle
  rw [hiff, later_of_length_le hi hle, restorable_iff]

/-- Paths of a file system with one root. -/
def rootedFiles : FileSystem where
  is_valid_path path := path.head? = some '/'
  stable_dir_path path := if path.getLast? = some '/' then path else path ++ ['/']
  GetAppDir := "/opt/".toList

def openSite : DeviceConfig Str where
  local_host := ⟨"localhost".toList, 80⟩
  login := "login".toList
  password := "password".toList
  is_private_site := false
  external_host := ⟨"unknown.com".toList, 8080⟩
  server_type := .FASTO_SERVER
  content_path := "/srv/".toList
  handlers_urls := [("hello".toList, "world".toList)]
  server_sockets_urls := [("echo".toList, "ws:chat".toList)]

theorem readConfig_saveConfig_openSite :
    openSite.Restored InnerServerHandler.twoHosts rootedFiles .plain .cache [] := by
  have hlegible : openSite.Legible InnerServerHandler.twoHosts :=
    ⟨by decide +kernel, by decide +kernel, by decide +kernel⟩
  have hreads : openSite.Reads InnerServerHandler.twoHosts := ⟨by decide, by decide, by decide⟩
  apply ((readConfig_saveConfig_iff Ini.documented_plain hlegible hreads []).2 (Nat.zero_le _)).2
  exact ⟨by decide, by decide, nofun, by decide, by decide, fun h => absurd rfl h⟩

/-- The configuration of a file that makes the site private. -/
def privateSite : DeviceConfig Str :=
  readConfig InnerServerHandler.twoHosts rootedFiles .plain .cache
    (some "[http_server]\nprivate_site=1\n".toList)

theorem not_readConfig_saveConfig_privateSite :
    Ini.plain.Documented ∧ privateSite.Legible InnerServerHandler.twoHosts ∧
      privateSite.Reads InnerServerHandler.twoHosts ∧
      ¬ privateSite.Restored InnerServerHandler.twoHosts rootedFiles .plain .cache [] := by
  refine ⟨Ini.documented_plain, ⟨?_, ?_, ?_⟩, ⟨?_, ?_, ?_⟩, ?_⟩
  · decide +kernel
  · decide +kernel
  · decide +kernel
  · decide +kernel
  · decide +kernel
  · decide +kernel
  · intro h
    have hflag := congrArg (Option.map fun c => c.is_private_site) h
    revert hflag
    decide +kernel

end DeviceConfig

end SiteOnYourDevice
