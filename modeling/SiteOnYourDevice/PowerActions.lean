import SiteOnYourDevice.HttpCallbacks
import SiteOnYourDevice.InnerServerHandler

namespace SiteOnYourDevice
open CString
set_option relaxedAutoImplicit false
set_option autoImplicit true

inductive HSCTypes
  | system_shutdown | system_logout | system_reboot
deriving DecidableEq

inductive shutdown_t
  | SHUTDOWN | LOGOUT | REBOOT
deriving DecidableEq

def HCallbackTypes : List (Str × HCTypes) :=
  [("system".toList, .system), ("file_system".toList, .file_system)]

def HSystemCallbackTypes : List (Str × HSCTypes) :=
  [("shutdown".toList, .system_shutdown), ("logout".toList, .system_logout),
    ("reboot".toList, .system_reboot)]

/-- `ConvertFromString` to an enumerator; `none` when it stores nothing in its result. -/
def ConvertFromString (types : List (Str × τ)) (text : Str) : Option τ :=
  (types.find? fun type => text = type.1).map Prod.snd

/-- The place of the first character that is one of `chars`. -/
def find_first_of (text chars : Str) : Option Nat := text.findIdx? fun c => c ∈ chars

/-- `substr(pos)`, which throws `std::out_of_range` behind the end. -/
def substr (text : Str) (pos : Nat) : Option Str :=
  if pos ≤ text.length then some (text.drop pos) else none

/-- A callback of a configuration. The type of a power callback is `none` when it is copied from a
variable in which nothing was stored. -/
inductive HttpCallback
  | file_system
  | system (type_ : Option HSCTypes)
deriving DecidableEq

def createSystemHttpCallback (name : Str) : HttpCallback :=
  .system (ConvertFromString HSystemCallbackTypes name)

/-- The `createHttpCallback` of a namespace and a name. -/
def IHttpCallback.createHttpCallback (ns_name name : Str) : Option HttpCallback :=
  match ConvertFromString HCallbackTypes ns_name with
  | some .file_system => some .file_system
  | some .system => some (createSystemHttpCallback name)
  | none => none

/-- The map of the callbacks by its assignments, the latest one first. -/
abbrev HttpCallbacks := List (Str × HttpCallback)

def registerHttpCallback (url : Str) (callback : HttpCallback) (h : HttpCallbacks) :
    HttpCallbacks :=
  (url, callback) :: h

/-- The namespace and the name of an entry. -/
def callbackName (httpcallbackstr : Str) : Option (Str × Str) :=
  match find_first_of httpcallbackstr "::".toList with
  | none => some (httpcallbackstr, [])
  | some ns_del =>
    (substr httpcallbackstr (ns_del + 2)).map fun name => (httpcallbackstr.take ns_del, name)

/-- The loop of `CreateHandler` over the entries; nothing catches what it throws. -/
def registerHandler (h : HttpCallbacks) (handurl : Str × Str) : Option HttpCallbacks :=
  (callbackName handurl.2).map fun (ns, name) =>
    match IHttpCallback.createHttpCallback ns name with
    | some hhandler => registerHttpCallback handurl.1 hhandler h
    | none => h

def registerHandlers (handlers_urls : List (Str × Str)) : Option HttpCallbacks :=
  handlers_urls.foldlM registerHandler []

/-- The callbacks of the handler that `ServerControllerBase::CreateHandler` makes. -/
def DeviceConfig.CreateHandler {Url : Type} (config : DeviceConfig Url) : Option HttpCallbacks :=
  registerHandlers config.handlers_urls

/-- What `HttpSystemShutdownCallback::handleRequest` gives to `Shutdown`; `none` is a value that was
never stored. -/
def sh_type : Option HSCTypes → Option shutdown_t
  | some .system_shutdown => some .SHUTDOWN
  | some .system_logout => some .LOGOUT
  | some .system_reboot => some .REBOOT
  | none => none

namespace HttpCallback
variable {ρ : Type*} (http : HttpRequestTypes ρ) (file : Nat → Str → FileOutcome)
  (Shutdown : shutdown_t → Nat → Option Str)

/-- The answer of a callback; `none` is a power callback with an action nobody chose. -/
def handleRequest : HttpCallback → Option (IHttpCallback ρ)
  | .file_system => some (HttpFileSystemCallback http file)
  | .system type_ => (sh_type type_).map fun action =>
      HttpSystemShutdownCallback http (Shutdown action)

end HttpCallback

/-- How a configuration names an action. -/
def shutdown_t.text : shutdown_t → Str
  | .SHUTDOWN => "system::shutdown".toList
  | .LOGOUT => "system::logout".toList
  | .REBOOT => "system::reboot".toList

/-- The entry behind the entries `pre` makes `CreateHandler` register a callback. -/
def Registers (pre : List (Str × Str)) (handurl : Str × Str) (callback : HttpCallback) : Prop :=
  ∃ h, registerHandlers pre = some h ∧
    registerHandlers (pre ++ [handurl]) = some (registerHttpCallback handurl.1 callback h)

/-- Each entry registers a power callback exactly when it names an action, and the callback calls
for this action. -/
def DeviceConfig.OnlyNamed {Url : Type} (config : DeviceConfig Url) : Prop :=
  ∀ pre url s post, config.handlers_urls = pre ++ (url, s) :: post → ∀ action,
    (∃ type_, Registers pre (url, s) (.system type_) ∧ sh_type type_ = action) ↔
      ∃ named : shutdown_t, s = named.text ∧ action = some named

/-- Text behind `system` that no action is named by. -/
def Loose (s : Str) : Prop :=
  s = "system".toList ∨
    (∃ c rest, s = "system:".toList ++ c :: rest) ∧ ∀ named : shutdown_t, s ≠ named.text

/-- The first colon is the last character: `substr` throws. -/
def EndsAtColon (s : Str) : Prop := ∃ ns, ':' ∉ ns ∧ s = ns ++ [':']

variable {pre : List (Str × Str)} {url s ns name : Str} {h : HttpCallbacks}

theorem find_first_of_colon (hns : ':' ∉ ns) (rest : Str) :
    find_first_of (ns ++ ':' :: rest) "::".toList = some ns.length := by
  have hnone : ns.findIdx? (fun c => decide (c ∈ "::".toList)) = none := by
    apply List.findIdx?_eq_none_iff.2
    intro c hc
    have hne : c ≠ ':' := fun he => hns (he ▸ hc)
    simpa using hne
  rw [find_first_of, List.findIdx?_append, hnone, List.findIdx?_cons]
  simp

theorem callbackName_bare (hs : ':' ∉ s) : callbackName s = some (s, []) := by
  have hnone : find_first_of s "::".toList = none := by
    apply List.findIdx?_eq_none_iff.2
    intro c hc
    have hne : c ≠ ':' := fun he => hs (he ▸ hc)
    simpa using hne
  rw [callbackName, hnone]

theorem callbackName_ends (hns : ':' ∉ ns) : callbackName (ns ++ [':']) = none := by
  have hlength : ¬ ns.length + 2 ≤ (ns ++ [':']).length := by simp
  simp only [callbackName, find_first_of_colon hns, substr, if_neg hlength, Option.map_none]

theorem callbackName_colon (hns : ':' ∉ ns) (c : Char) (name : Str) :
    callbackName (ns ++ ':' :: c :: name) = some (ns, name) := by
  have hlength : ns.length + 2 ≤ (ns ++ ':' :: c :: name).length := by simp
  have hdrop : (ns ++ ':' :: c :: name).drop (ns.length + 2) = name := by simp
  have htake : (ns ++ ':' :: c :: name).take ns.length = ns := by simp
  simp only [callbackName, find_first_of_colon hns, substr, if_pos hlength, Option.map_some,
    hdrop, htake]

/-- The text of an entry has no colon, nothing behind its first one, or a name there. -/
inductive EntryText : Str → Prop
  | bare {s : Str} (hs : ':' ∉ s) : EntryText s
  | ends {ns : Str} (hns : ':' ∉ ns) : EntryText (ns ++ [':'])
  | colon {ns : Str} (hns : ':' ∉ ns) (c : Char) (name : Str) : EntryText (ns ++ ':' :: c :: name)

theorem entryText (s : Str) : EntryText s := by
  by_cases hs : ':' ∈ s
  · obtain ⟨ns, rest, rfl, hns⟩ := List.eq_append_cons_of_mem hs
    cases rest with
    | nil => exact .ends hns
    | cons c name => exact .colon hns c name
  · exact .bare hs

theorem callbackName_eq_none : callbackName s = none ↔ EndsAtColon s := by
  constructor
  · intro h
    cases entryText s with
    | bare hs => simp only [callbackName_bare hs, reduceCtorEq] at h
    | ends hns => exact ⟨_, hns, rfl⟩
    | colon hns c name => simp only [callbackName_colon hns, reduceCtorEq] at h
  · rintro ⟨ns, hns, rfl⟩
    exact callbackName_ends hns

theorem createHttpCallback_system {type_ : Option HSCTypes} :
    IHttpCallback.createHttpCallback ns name = some (.system type_) ↔
      ns = "system".toList ∧ type_ = ConvertFromString HSystemCallbackTypes name := by
  rw [IHttpCallback.createHttpCallback, ConvertFromString, HCallbackTypes, List.find?_cons]
  by_cases hns : ns = "system".toList
  · simp [hns, createSystemHttpCallback, eq_comm]
  · simp only [hns, decide_false, false_and, iff_false]
    intro h
    split at h
    · cases h
    · rename_i hfind
      obtain ⟨type, htype, he⟩ := Option.map_eq_some_iff.1 hfind
      obtain rfl := List.mem_singleton.1 (List.mem_of_find?_eq_some htype)
      cases he
    · cases h

/-- What an entry registers, when the loop gets to it. -/
theorem registerHandler_system {type_ : Option HSCTypes} :
    registerHandler h (url, s) = some (registerHttpCallback url (.system type_) h) ↔
      ∃ name, callbackName s = some ("system".toList, name) ∧
        type_ = ConvertFromString HSystemCallbackTypes name := by
  rw [registerHandler, Option.map_eq_some_iff]
  constructor
  · intro ⟨⟨ns, name⟩, hname, he⟩
    dsimp only at he
    split at he
    · rename_i hhandler hcreate
      simp only [registerHttpCallback, List.cons.injEq, Prod.mk.injEq, true_and, and_true] at he
      rw [he] at hcreate
      obtain ⟨rfl, htype⟩ := createHttpCallback_system.1 hcreate
      exact ⟨name, hname, htype⟩
    · exact absurd he.symm (List.cons_ne_self _ _)
  · intro ⟨name, hname, htype⟩
    refine ⟨_, hname, ?_⟩
    dsimp only
    rw [createHttpCallback_system.2 ⟨rfl, htype⟩]

/-- The loop gets to its end unless an entry throws. -/
theorem foldlM_registerHandler (urls : List (Str × Str)) (h : HttpCallbacks) :
    urls.foldlM registerHandler h = none ↔ ∃ e ∈ urls, EndsAtColon e.2 := by
  induction urls generalizing h with
  | nil => simp
  | cons e urls ih =>
    rw [List.foldlM_cons, List.exists_mem_cons_iff, ← callbackName_eq_none]
    cases hname : callbackName e.2 with
    | none => simp [registerHandler, hname]
    | some name =>
      simp only [registerHandler, hname, Option.map_some, reduceCtorEq, false_or]
      exact ih _

theorem registerHandlers_concat (urls : List (Str × Str)) (e : Str × Str) :
    registerHandlers (urls ++ [e]) = (registerHandlers urls).bind fun h => registerHandler h e := by
  simp only [registerHandlers, List.foldlM_append, List.foldlM_cons, List.foldlM_nil, bind_pure]
  rfl

theorem registers_system {type_ : Option HSCTypes} :
    Registers pre (url, s) (.system type_) ↔ (∀ e ∈ pre, ¬ EndsAtColon e.2) ∧
      ∃ name, callbackName s = some ("system".toList, name) ∧
        type_ = ConvertFromString HSystemCallbackTypes name := by
  have hend : (∀ e ∈ pre, ¬ EndsAtColon e.2) ↔ registerHandlers pre ≠ none := by
    rw [registerHandlers, Ne, foldlM_registerHandler]
    simp only [not_exists, not_and]
  rw [hend]
  constructor
  · intro ⟨h, hpre, hreg⟩
    rw [registerHandlers_concat, hpre, Option.bind_some] at hreg
    refine ⟨?_, registerHandler_system.1 hreg⟩
    rw [hpre]
    exact nofun
  · intro ⟨hne, hs⟩
    obtain ⟨h, hpre⟩ := Option.ne_none_iff_exists'.1 hne
    refine ⟨h, hpre, ?_⟩
    rw [registerHandlers_concat, hpre, Option.bind_some]
    exact registerHandler_system.2 hs

theorem callbackName_system : callbackName s = some ("system".toList, name) ↔
    s = "system".toList ∧ name = [] ∨ ∃ c, s = "system:".toList ++ c :: name := by
  have hcolon : ':' ∉ "system".toList := by decide
  have hsplit (c : Char) :
      "system:".toList ++ c :: name = "system".toList ++ ':' :: c :: name := by simp
  simp only [hsplit]
  constructor
  · intro h
    cases entryText s with
    | bare hs =>
      rw [callbackName_bare hs, Option.some.injEq, Prod.mk.injEq] at h
      exact .inl ⟨h.1, h.2.symm⟩
    | ends hns =>
      rw [callbackName_ends hns] at h
      cases h
    | colon hns c rest =>
      rw [callbackName_colon hns, Option.some.injEq, Prod.mk.injEq] at h
      exact .inr ⟨c, by rw [h.1, h.2]⟩
  · rintro (⟨rfl, rfl⟩ | ⟨c, rfl⟩)
    · exact callbackName_bare hcolon
    · exact callbackName_colon hcolon c name

/-- The text that names an action leads to this action. -/
theorem callbackName_text (named : shutdown_t) :
    ∃ name, callbackName named.text = some ("system".toList, name) ∧
      sh_type (ConvertFromString HSystemCallbackTypes name) = some named := by
  cases named with
  | SHUTDOWN => exact ⟨"shutdown".toList, by decide, by decide⟩
  | LOGOUT => exact ⟨"logout".toList, by decide, by decide⟩
  | REBOOT => exact ⟨"reboot".toList, by decide, by decide⟩

/-- Power callbacks have the actions that the configuration names, exactly when each entry that the
loop gets to is free of loose text, and no entry that names an action stands behind one that
throws. -/
theorem onlyNamed_iff {Url : Type} (config : DeviceConfig Url) :
    config.OnlyNamed ↔ ∀ pre url s post, config.handlers_urls = pre ++ (url, s) :: post →
      ((∀ e ∈ pre, ¬ EndsAtColon e.2) → ¬ Loose s) ∧
        ((∃ e ∈ pre, EndsAtColon e.2) → ∀ named : shutdown_t, s ≠ named.text) := by
  apply forall₅_congr
  intro pre url s post hsplit
  simp only [registers_system]
  constructor
  · intro h
    constructor
    · rintro hpre (rfl | ⟨⟨c, rest, rfl⟩, hnot⟩)
      · have hbare := callbackName_system.2 (.inl ⟨rfl, rfl⟩)
        obtain ⟨named, _, hnone⟩ := (h none).1 ⟨none, ⟨hpre, [], hbare, rfl⟩, rfl⟩
        cases hnone
      · have hname : callbackName ("system:".toList ++ c :: rest) = some ("system".toList, rest) :=
          callbackName_system.2 (.inr ⟨c, rfl⟩)
        obtain ⟨named, he, _⟩ := (h _).1 ⟨_, ⟨hpre, rest, hname, rfl⟩, rfl⟩
        exact hnot named he
    · rintro ⟨e, he, hends⟩ named rfl
      obtain ⟨_, ⟨hpre, _⟩, _⟩ := (h (some named)).2 ⟨named, rfl, rfl⟩
      exact hpre e he hends
  · rintro ⟨hloose, hthrows⟩ action
    constructor
    · rintro ⟨type_, ⟨hpre, name, hname, rfl⟩, rfl⟩
      have hnot := hloose hpre
      rw [Loose, not_or, not_and, not_forall] at hnot
      obtain ⟨rfl, rfl⟩ | ⟨c, hs⟩ := callbackName_system.1 hname
      · exact absurd rfl hnot.1
      · obtain ⟨named, hnamed⟩ := hnot.2 ⟨c, name, hs⟩
        rw [ne_eq, not_not] at hnamed
        obtain ⟨name', hname', haction⟩ := callbackName_text named
        rw [← hnamed, hname, Option.some.injEq, Prod.mk.injEq] at hname'
        exact ⟨named, hnamed, hname'.2 ▸ haction⟩
    · rintro ⟨named, rfl, rfl⟩
      obtain ⟨name, hname, haction⟩ := callbackName_text named
      refine ⟨_, ⟨?_, name, hname, rfl⟩, haction⟩
      intro e he hends
      exact hthrows ⟨e, he, hends⟩ named rfl

theorem exists_registers {callback : HttpCallback} (urls : List (Str × Str))
    (hc : registerHandlers urls = some h) (hmem : (url, callback) ∈ h) :
    ∃ pre s post, urls = pre ++ (url, s) :: post ∧ Registers pre (url, s) callback := by
  induction urls using List.reverseRecOn generalizing h with
  | nil =>
    cases hc
    cases hmem
  | append_singleton urls e ih =>
    have hlast := hc
    rw [registerHandlers_concat] at hlast
    obtain ⟨h₀, hpre, hlast⟩ := Option.bind_eq_some_iff.1 hlast
    have hearlier (hmem₀ : (url, callback) ∈ h₀) :
        ∃ pre s post, urls ++ [e] = pre ++ (url, s) :: post ∧ Registers pre (url, s) callback := by
      obtain ⟨pre, s, post, rfl, hreg⟩ := ih hpre hmem₀
      exact ⟨pre, s, post ++ [e], by simp, hreg⟩
    obtain ⟨⟨ns, name⟩, hname, rfl⟩ := Option.map_eq_some_iff.1 hlast
    dsimp only at hmem hc
    split at hmem
    · rename_i hhandler hcreate
      obtain he | hmem₀ := List.mem_cons.1 hmem
      · cases he
        refine ⟨urls, e.2, [], rfl, h₀, hpre, ?_⟩
        rw [hc, hcreate]
      · exact hearlier hmem₀
    · exact hearlier hmem

/-- A configuration with an unknown name. -/
def haltConfig : DeviceConfig Str where
  local_host := ⟨"localhost".toList, 8080⟩
  login := "login".toList
  password := "password".toList
  is_private_site := false
  external_host := ⟨[], 0⟩
  server_type := .FASTO_SERVER
  content_path := "/srv".toList
  handlers_urls := [("/halt".toList, "system::halt".toList)]
  server_sockets_urls := []

theorem not_onlyNamed_haltConfig : ¬ haltConfig.OnlyNamed := by
  intro h
  have hname : callbackName "system::halt".toList = some ("system".toList, "halt".toList) := by
    decide
  have hreg : Registers [] ("/halt".toList, "system::halt".toList) (.system none) :=
    registers_system.2 ⟨nofun, "halt".toList, hname, by decide⟩
  obtain ⟨named, _, hnone⟩ := (h [] _ _ [] rfl none).1 ⟨none, hreg, rfl⟩
  cases hnone

/-- A power callback of a handler then answers with the action that an entry of its url names. -/
theorem DeviceConfig.OnlyNamed.handleRequest {Url : Type} {config : DeviceConfig Url}
    {type_ : Option HSCTypes} {ρ : Type*} (hnamed : config.OnlyNamed)
    (hc : config.CreateHandler = some h) (hmem : (url, .system type_) ∈ h)
    (http : HttpRequestTypes ρ) (file : Nat → Str → FileOutcome)
    (Shutdown : shutdown_t → Nat → Option Str) :
    ∃ named : shutdown_t, (url, named.text) ∈ config.handlers_urls ∧
      (HttpCallback.system type_).handleRequest http file Shutdown =
        some (HttpSystemShutdownCallback http (Shutdown named)) := by
  obtain ⟨pre, s, post, hsplit, hreg⟩ := exists_registers _ hc hmem
  obtain ⟨named, rfl, haction⟩ := (hnamed pre url s post hsplit _).1 ⟨type_, hreg, rfl⟩
  refine ⟨named, ?_, ?_⟩
  · rw [hsplit]
    exact List.mem_append_right _ List.mem_cons_self
  · rw [HttpCallback.handleRequest, haction, Option.map_some]

end SiteOnYourDevice
