import SiteOnYourDevice.CommandFraming
import SiteOnYourDevice.DeviceConfiguration

namespace SiteOnYourDevice
open CString Sds JsonC
set_option relaxedAutoImplicit false
set_option autoImplicit true

variable {Url : Type} {types : CommonTypes Url} {json : Texts} {env : DeviceEnv}

/-- The texts of a configuration that go into JSON. -/
def DeviceConfig.texts (types : CommonTypes Url) (c : DeviceConfig Url) : List Str :=
  [types.ConvertToString c.local_host, c.content_path, types.ConvertToString c.external_host] ++
    c.handlers_urls.flatMap (fun p => [p.1, p.2]) ++
    c.server_sockets_urls.flatMap fun p => [p.1, types.GetUrl p.2]

/-- The answer to `plz_config` behind its id, without its end. -/
def configArgs (J : Str) : Str :=
  ' ' :: SUCCESS_COMMAND ++ ' ' :: SERVER_PLEASE_CONFIG_COMMAND ++ ' ' :: quoted J

def configLine (id : cmd_seq_t) (J : Str) : Str := '1' :: ' ' :: id ++ configArgs J

/-- No end of command begins in a text without `\r`. -/
theorem not_infix_append (ha : ¬ END_OF_COMMAND <:+: a) (hb : '\r' ∉ b)
    (hn : b.head? ≠ some '\n') : ¬ END_OF_COMMAND <:+: a ++ b := by
  induction a with
  | nil => exact fun h => hb (h.subset List.mem_cons_self)
  | cons c a ih =>
    rw [List.infix_cons_iff, not_or] at ha
    rw [List.cons_append, List.infix_cons_iff, not_or]
    refine ⟨?_, ih ha.2⟩
    intro hp
    cases a with
    | nil =>
      cases b with
      | nil => exact absurd hp.length_le (by simp [END_OF_COMMAND])
      | cons d b =>
        obtain ⟨_, hd⟩ := List.cons_prefix_cons.1 hp
        obtain ⟨hd, _⟩ := List.cons_prefix_cons.1 hd
        exact hn (congrArg some hd.symm)
    | cons d a =>
      obtain ⟨hc, hd⟩ := List.cons_prefix_cons.1 hp
      obtain ⟨hd, _⟩ := List.cons_prefix_cons.1 hd
      exact ha.1 ⟨a, by rw [← hc, ← hd]; rfl⟩

/-- What an id that was read is like. -/
structure ReadId (id : cmd_seq_t) : Prop where
  no_blank : ' ' ∉ id
  nul_free : '\x00' ∉ id
  no_end : ¬ END_OF_COMMAND <:+: id

theorem readId_of_scanCommand {read cmd b : Str} {seq : cmd_id_t} {id : cmd_seq_t}
    (h : scanCommand read = .command seq id cmd b) : ReadId id := by
  have hblank := scanCommand_id_plain h
  rw [scanCommand] at h
  split at h
  · cases h
  rename_i line after hs
  obtain ⟨n, v, _, _, hline, _⟩ := scanLine_eq_command h
  have hid : id <:+: line := ⟨n ++ [' '], cmd, by rw [hline]; simp⟩
  have hread : line <:+: cstr read := by
    rw [(strstr_eq_some hs).1]
    exact (List.prefix_append line after).isInfix
  refine ⟨hblank, ?_, ?_⟩
  · exact fun hn => nul_not_mem_cstr read (hread.subset (hid.subset hn))
  · exact fun he => strstr_not_infix (by decide) hs (he.trans hid)

theorem ends_of_frameOf {read : Str} {c : Command} (h : frameOf read = some c) : 1 ≤ ends read := by
  obtain ⟨cmd, b, hscan, _, _⟩ := frameOf_eq_some h
  rw [scanCommand] at hscan
  split at hscan
  · cases hscan
  rename_i line after hs
  obtain ⟨hcut, hend⟩ := strstr_eq_some hs
  apply ends_pos
  have hinf : END_OF_COMMAND <:+: cstr read := by
    rw [hcut]
    exact hend.isInfix.trans (List.suffix_append _ _).isInfix
  exact hinf.trans (List.takeWhile_prefix _).isInfix

variable {id : cmd_seq_t} {J : Str}

theorem buffText_of_long (hn : '\x00' ∉ s) : buffText s = s.take (MAX_COMMAND_SIZE - 1) :=
  cstr_of_nul_free fun h => hn (List.mem_of_mem_take h)

theorem configLine_fmt (id : cmd_seq_t) (J : Str) :
    CLIENT_PLEASE_CONFIG_COMMAND_RESP_SUCCSESS_1J J RESPONCE_COMMAND id =
      configLine id J ++ END_OF_COMMAND := by
  have hc : CID_FMT RESPONCE_COMMAND = ['1'] := by decide
  simp only [CLIENT_PLEASE_CONFIG_COMMAND_RESP_SUCCSESS_1J, GENEATATE_SUCCESS_FMT, configLine,
    configArgs, hc, List.append_assoc, List.cons_append, List.nil_append]

theorem length_configLine (id : cmd_seq_t) (J : Str) :
    (configLine id J ++ END_OF_COMMAND).length = id.length + J.length + 21 := by
  have hok : SUCCESS_COMMAND.length = 2 := rfl
  have hconfig : SERVER_PLEASE_CONFIG_COMMAND.length = 10 := rfl
  have hend : END_OF_COMMAND.length = 2 := rfl
  simp only [configLine, configArgs, quoted, List.length_append, List.length_cons, List.length_nil,
    hok, hconfig, hend]
  omega

theorem configArgs_printable (hJ : ∀ c ∈ J, ' ' ≤ c) : ∀ c ∈ configArgs J, ' ' ≤ c := by
  have hwords : (' ' :: SUCCESS_COMMAND ++ ' ' :: SERVER_PLEASE_CONFIG_COMMAND ++ [' ', '\'']).all
      (fun c => ' ' ≤ c) = true := by
    decide
  intro c hc
  have hargs : configArgs J =
      ' ' :: SUCCESS_COMMAND ++ ' ' :: SERVER_PLEASE_CONFIG_COMMAND ++ [' ', '\''] ++ J ++ ['\''] := by
    simp [configArgs, quoted]
  rw [hargs] at hc
  obtain hc | hc := List.mem_append.1 hc
  · obtain hc | hc := List.mem_append.1 hc
    · exact of_decide_eq_true (List.all_eq_true.1 hwords c hc)
    · exact hJ c hc
  · obtain rfl := List.mem_singleton.1 hc
    decide

theorem configLine_clean (hid : ReadId id) (hJ : ∀ c ∈ J, ' ' ≤ c) :
    '\x00' ∉ configLine id J ∧ ¬ END_OF_COMMAND <:+: configLine id J := by
  have hprint := configArgs_printable hJ
  constructor
  · intro h
    obtain h | h := List.mem_append.1 h
    · simp only [List.mem_cons, hid.nul_free, or_false] at h
      rcases h with h | h
      · exact absurd h (by decide)
      · exact absurd h (by decide)
    · exact absurd (hprint _ h) (by decide)
  · apply not_infix_append
    · simp only [List.infix_cons_iff, hid.no_end, or_false, not_or]
      constructor
      · exact fun hp => absurd (List.cons_prefix_cons.1 hp).1 (by decide)
      · exact fun hp => absurd (List.cons_prefix_cons.1 hp).1 (by decide)
    · exact fun h => absurd (hprint _ h) (by decide)
    · exact fun h => absurd (Option.some.inj h) (by decide)

/-- The two words are split off, and the quote opens. -/
theorem sdssplitargs_configArgs (J : Str) :
    sdssplitargs (configArgs J) =
      splitFrom (.insq []) [SUCCESS_COMMAND, SERVER_PLEASE_CONFIG_COMMAND] (J ++ ['\'']) := by
  have hok : IsWord SUCCESS_COMMAND := .of_all (by decide) (by decide)
  have hconfig : IsWord SERVER_PLEASE_CONFIG_COMMAND := .of_all (by decide) (by decide)
  rw [sdssplitargs, configArgs, List.append_assoc, List.cons_append, splitFrom_blank_space rfl,
    hok.splitFrom_blank, List.cons_append, splitFrom_token_end rfl, hconfig.splitFrom_blank,
    splitFrom_token_end rfl, quoted, List.cons_append, splitFrom_blank_char rfl]
  rfl

/-- A line too long for its buffer loses its end. -/
theorem frameOf_of_long (hid : ReadId id) (hJ : ∀ c ∈ J, ' ' ≤ c)
    (hl : MAX_COMMAND_SIZE - 1 < (configLine id J ++ END_OF_COMMAND).length) :
    frameOf (buffText (configLine id J ++ END_OF_COMMAND)) = none := by
  obtain ⟨hnul, hend⟩ := configLine_clean hid hJ
  have hnul' : '\x00' ∉ configLine id J ++ END_OF_COMMAND := by
    rw [List.mem_append, not_or]
    exact ⟨hnul, by decide⟩
  rw [buffText_of_long hnul']
  cases hf : frameOf ((configLine id J ++ END_OF_COMMAND).take (MAX_COMMAND_SIZE - 1)) with
  | none => rfl
  | some c =>
    have hpos := ends_of_frameOf hf
    rw [ends_of_short hend (List.take_prefix _ _)] at hpos
    · cases hpos
    · rw [List.length_take]
      omega

/-- A line that fits is split into the arguments it was built from exactly when there is no
apostrophe between its quotes. -/
theorem frameOf_of_fits (hid : ReadId id) (hJ : ∀ c ∈ J, ' ' ≤ c) (hlast : J.getLast? ≠ some '\\')
    (hl : (configLine id J ++ END_OF_COMMAND).length ≤ MAX_COMMAND_SIZE - 1) :
    frameOf (buffText (configLine id J ++ END_OF_COMMAND)) =
        some ⟨RESPONCE_COMMAND, id, [SUCCESS_COMMAND, SERVER_PLEASE_CONFIG_COMMAND, J]⟩ ↔
      '\'' ∉ J := by
  obtain ⟨hnul, hend⟩ := configLine_clean hid hJ
  have hnul' : '\x00' ∉ configLine id J ++ END_OF_COMMAND := by
    rw [List.mem_append, not_or]
    exact ⟨hnul, by decide⟩
  obtain ⟨cmd, hcmd⟩ : ∃ cmd, configArgs J = ' ' :: cmd := ⟨_, rfl⟩
  have hscan : scanCommand (configLine id J ++ END_OF_COMMAND) =
      .command RESPONCE_COMMAND id (configArgs J) (configLine id J) := by
    have h := scanCommand_line hnul hend []
    rw [List.append_nil] at h
    rw [h, configLine, hcmd]
    exact scanLine_digit rfl hid.no_blank cmd
  rw [buffText_of_fits hnul' hl, frameOf_command hscan, sdssplitargs_configArgs,
    ← splitFrom_insq_iff (t := []) (v := [SUCCESS_COMMAND, SERVER_PLEASE_CONFIG_COMMAND]) hlast]
  have ht : IsType RESPONCE_COMMAND := .inr (.inl rfl)
  simp [if_pos ht, Option.bind_eq_some_iff]

theorem shows_pairsJson (first second : Str) (hf : '\'' ∉ first) (hs : '\'' ∉ second)
    (pairs : List (Str × Str)) :
    (pairsJson first second pairs).Shows '\'' ↔
      ∃ p ∈ pairs, '\'' ∈ cstr p.1 ∨ '\'' ∈ cstr p.2 := by
  simp [pairsJson, hf, hs]

/-- The apostrophes of the JSON value are those of the texts of the configuration. -/
theorem DeviceConfig.shows_toJson (c : DeviceConfig Url) :
    (c.toJson types).Shows '\'' ↔ ∃ t ∈ c.texts types, '\'' ∈ cstr t := by
  have hlocal : '\'' ∉ LOCAL_HOST_SETTING_LABEL := by decide
  have hpath : '\'' ∉ CONTENT_PATH_SETTING_LABEL := by decide
  have hprivate : '\'' ∉ PRIVATE_SITE_SETTING_LABEL := by decide
  have hexternal : '\'' ∉ EXTERNAL_HOST_SETTING_LABEL := by decide
  have htype : '\'' ∉ SERVER_TYPE_SETTING_LABEL := by decide
  have hhandlers : '\'' ∉ HANDLERS_URLS_SECTION_LABEL := by decide
  have hsockets : '\'' ∉ SERVER_SOCKETS_SECTION_LABEL := by decide
  have hurls := shows_pairsJson "url".toList "handler".toList (by decide) (by decide)
    c.handlers_urls
  have hpaths := shows_pairsJson "type".toList "path".toList (by decide) (by decide)
    (c.server_sockets_urls.map fun p => (p.1, types.GetUrl p.2))
  simp only [toJson, texts, json_object.shows_object, List.mem_cons, List.not_mem_nil, or_false,
    exists_eq_or_imp, exists_eq_left, hlocal, hpath, hprivate, hexternal, htype, hhandlers,
    hsockets, false_or, json_object.shows_new_string, json_object.not_shows_boolean,
    json_object.not_shows_int, hurls, hpaths, List.mem_append, List.mem_flatMap, List.mem_map]
  grind

namespace InnerServerHandler

/-- The device answers `plz_config` with a frame that the other side splits into the two words and
the JSON text that was built. -/
def ConfigArrives (types : CommonTypes Url) (json : Texts) (env : DeviceEnv) (id : cmd_seq_t)
    (argv : List Str) (s : InnerServerHandler Url) : Prop :=
  ∃ data, s.handleInnerRequestCommand types json env id argv = some (s.Write env data).2 ∧
    frameOf data = some ⟨RESPONCE_COMMAND, id, [SUCCESS_COMMAND, SERVER_PLEASE_CONFIG_COMMAND,
      json.get_string (s.config_.toJson types)]⟩

variable (types json env id) in
theorem handleInnerRequestCommand_plz_config {command : Str} (args : List Str)
    (s : InnerServerHandler Url)
    (hcommand : IS_EQUAL_COMMAND command SERVER_PLEASE_CONFIG_COMMAND = true) :
    s.handleInnerRequestCommand types json env id (command :: args) =
      some (s.Write env (buffText (configLine id (json.get_string (s.config_.toJson types)) ++
        END_OF_COMMAND))).2 := by
  rw [handleInnerRequestCommand_config hcommand, ← configLine_fmt]
  rfl

theorem Write_inj {s : InnerServerHandler Url} {data data' : Str}
    (h : (s.Write env data).2 = (s.Write env data').2) : data = data' := by
  have hw := congrArg writes h
  obtain ⟨hd, _⟩ := List.cons.inj (List.append_cancel_left hw)
  exact (Prod.mk.inj hd).1

/-- The configuration arrives exactly when its JSON text leaves room for the rest of the frame in
the buffer, and no text of it has an apostrophe. -/
theorem configArrives_iff {read cmd b command : Str} {seq : cmd_id_t} {args : List Str}
    {s : InnerServerHandler Url} (hread : scanCommand read = .command seq id cmd b)
    (hcommand : IS_EQUAL_COMMAND command SERVER_PLEASE_CONFIG_COMMAND = true)
    (hj : json.OneLine (s.config_.toJson types)) :
    s.ConfigArrives types json env id (command :: args) ↔
      id.length + (json.get_string (s.config_.toJson types)).length + 21 ≤ MAX_COMMAND_SIZE - 1 ∧
        ∀ t ∈ s.config_.texts types, '\'' ∉ cstr t := by
  have hid := readId_of_scanCommand hread
  have hlast : (json.get_string (s.config_.toJson types)).getLast? ≠ some '\\' := by
    rw [hj.closed]
    decide
  have hquotes : '\'' ∉ json.get_string (s.config_.toJson types) ↔
      ∀ t ∈ s.config_.texts types, '\'' ∉ cstr t := by
    rw [hj.apostrophes, DeviceConfig.shows_toJson]
    push Not
    rfl
  rw [← hquotes, ← length_configLine]
  have hans := handleInnerRequestCommand_plz_config types json env id args s hcommand
  constructor
  · rintro ⟨data, hdata, hframe⟩
    obtain rfl := Write_inj (Option.some.inj (hans.symm.trans hdata))
    by_cases hl : (configLine id (json.get_string (s.config_.toJson types)) ++
        END_OF_COMMAND).length ≤ MAX_COMMAND_SIZE - 1
    · exact ⟨hl, (frameOf_of_fits hid hj.printable hlast hl).1 hframe⟩
    · rw [frameOf_of_long hid hj.printable (not_le.1 hl)] at hframe
      cases hframe
  · rintro ⟨hl, hq⟩
    exact ⟨_, hans, (frameOf_of_fits hid hj.printable hlast hl).2 hq⟩

theorem get_string_toJson {c : DeviceConfig Url}
    (h : ∀ x ∈ json.json_object_to_json_string (c.toJson types), ' ' ≤ x) :
    json.get_string (c.toJson types) = json.json_object_to_json_string (c.toJson types) :=
  (json.get_string_object _).trans (cstr_of_nul_free fun hn => absurd (h _ hn) (by decide))

theorem siteText_plain : (∀ c ∈ siteText, ' ' ≤ c ∧ c ≠ '\'') ∧ siteText.getLast? = some '}' ∧
    siteText.length ≤ 1000 := by
  have hall : siteText.all (fun c => ' ' ≤ c ∧ c ≠ '\'') = true ∧ siteText.getLast? = some '}' ∧
      siteText.length ≤ 1000 := by
    decide +kernel
  exact ⟨fun c hc => of_decide_eq_true (List.all_eq_true.1 hall.1 c hc), hall.2⟩

theorem get_string_site : siteTexts.get_string (siteConfig.toJson twoHosts) = siteText :=
  get_string_toJson fun c hc => (siteText_plain.1 c hc).1

theorem oneLine_site : siteTexts.OneLine (siteConfig.toJson twoHosts) := by
  obtain ⟨hplain, hlast, _⟩ := siteText_plain
  constructor
  · rw [get_string_site]
    exact fun c hc => (hplain c hc).1
  · rw [get_string_site]
    exact hlast
  · rw [get_string_site, DeviceConfig.shows_toJson]
    constructor
    · exact fun h => absurd rfl (hplain _ h).2
    · decide

theorem configArrives_site :
    siteDevice.ConfigArrives twoHosts siteTexts calmDevice "7".toList ["plz_config".toList] := by
  have hread : scanCommand "0 7 plz_config \r\n".toList =
      .command 0 "7".toList " plz_config ".toList "0 7 plz_config ".toList := by
    decide
  apply (configArrives_iff hread (by decide) oneLine_site).2
  constructor
  · have hlen := siteText_plain.2.2
    have hget : siteTexts.get_string (siteDevice.config_.toJson twoHosts) = siteText :=
      get_string_site
    have hid : "7".toList.length = 1 := rfl
    rw [hget, hid, MAX_COMMAND_SIZE]
    omega
  · decide

/-- A site whose content path has an apostrophe. -/
def quotedConfig : DeviceConfig Str :=
  { siteConfig with
    content_path := "mike's".toList
    handlers_urls := []
    server_sockets_urls := [] }

/-- The text of `quotedConfig`. -/
def quotedText : Str :=
  "\x7b \"local_host\": ".toList ++ "\"localhost:80\", ".toList ++
    "\"content_path\": ".toList ++ "\"mike's\", ".toList ++
    "\"private_site\": ".toList ++ "true, ".toList ++
    "\"external_host\": ".toList ++ "\"unknown.com:8080\", ".toList ++
    "\"server_type\": 1, ".toList ++ "\"http_handlers_utls\": [ ], ".toList ++
    "\"http_server_sockets\": [ ] \x7d".toList

def quotedTexts : Texts := .of (fun _ => quotedConfig.toJson twoHosts) fun _ => quotedText

/-- The quote is closed inside the content path. -/
theorem not_configArrives_quoted :
    ¬ InnerServerHandler.ConfigArrives twoHosts quotedTexts calmDevice "7".toList
      ["plz_config".toList] ⟨quotedConfig, 0, true, [], [], []⟩ := by
  have hplain : quotedText.all (fun c => ' ' ≤ c) = true ∧ '\'' ∈ quotedText ∧
      quotedText.getLast? ≠ some '\\' ∧ quotedText.length ≤ 1000 := by
    decide +kernel
  obtain ⟨hall, hquote, hlast, hlen⟩ := hplain
  have hprint : ∀ c ∈ quotedText, ' ' ≤ c :=
    fun c hc => of_decide_eq_true (List.all_eq_true.1 hall c hc)
  have hid : ReadId "7".toList := ⟨by decide, by decide, by decide⟩
  have hget : quotedTexts.get_string (quotedConfig.toJson twoHosts) = quotedText :=
    get_string_toJson hprint
  have hcommand : IS_EQUAL_COMMAND "plz_config".toList SERVER_PLEASE_CONFIG_COMMAND = true := by
    decide
  rintro ⟨data, hdata, hframe⟩
  have hans := handleInnerRequestCommand_plz_config twoHosts quotedTexts calmDevice "7".toList []
    ⟨quotedConfig, 0, true, [], [], []⟩ hcommand
  obtain rfl := Write_inj (Option.some.inj (hans.symm.trans hdata))
  replace hframe := hget ▸ hframe
  refine (frameOf_of_fits hid hprint hlast ?_).1 hframe hquote
  rw [length_configLine, MAX_COMMAND_SIZE]
  have hone : "7".toList.length = 1 := rfl
  omega

end InnerServerHandler

end SiteOnYourDevice
