import SiteOnYourDevice.DomainRequests
import SiteOnYourDevice.Infos
import SiteOnYourDevice.Json

namespace SiteOnYourDevice
open CString JsonC
set_option relaxedAutoImplicit false
set_option autoImplicit true

/-- The hash `users` of Redis; `none` when it cannot be asked. -/
structure RedisStorage where
  users : Option (Str → Option Str)

variable (net : NetTypes) (json : Texts)

/-- The members of `hosts`; a string cannot be made of a NULL. -/
def hostNames (jhosts : json_object) : Option (List Str) :=
  match jhosts.toOption with
  | none => some []
  | some jhosts =>
    (json.elements jhosts).bind fun xs => xs.mapM fun jhost => jhost.toOption.map json.get_string

/-- `parse_user_json`: the info and the hosts, or `some none` where it returns false. -/
def parse_user_json (login : Str) (userJson : Option Str) :
    Option (Option (UserAuthInfo × List Str)) :=
  match userJson with
  | none => some none
  | some userJson =>
    match (json.json_tokener_parse (cstr userJson)).toOption with
    | none => some none
    | some obj =>
      let password := ((json.get obj "password".toList).toOption.map json.get_string).getD []
      (hostNames json (json.get obj "hosts".toList)).map fun hosts =>
        some ({ UserAuthInfo.empty with login, password }, hosts)

/-- `RedisStorage::findUser`; `none` where it fails. -/
def RedisStorage.findUser (storage : RedisStorage) (user : UserAuthInfo) : Option Bool :=
  if user.isValid net then
    match storage.users with
    | none => some false
    | some users =>
      (parse_user_json json user.login (users (cstr user.login))).map fun
        | none => false
        | some (info, hosts) =>
          hosts.any fun host => host = user.host.host && user.password = info.password
  else some false

/-- A record as the web site makes it: what is absent is left out, but for the name of a host, which
is a null then. -/
structure UserRecord where
  name : Option json_object
  password : Option json_object
  hosts : List json_object

def UserRecord.toJson (r : UserRecord) : json_object :=
  .object (r.name.toList.map (("name".toList, ·)) ++
    r.password.toList.map (("password".toList, ·)) ++ [("hosts".toList, .array r.hosts)])

/-- The store says that the user may log in. -/
def Entitled (store : Str → Option UserRecord) (user : UserAuthInfo) : Prop :=
  user.isValid net = true ∧ ∃ r, store user.login = some r ∧
    r.password = some (.string user.password) ∧ .string user.host.host ∈ r.hosts

/-- The texts of an info that was read from an argument of a command. -/
structure UserAuthInfo.CStrings (user : UserAuthInfo) : Prop where
  login : '\x00' ∉ user.login
  password : '\x00' ∉ user.password
  host : '\x00' ∉ user.host.host

/-- No member of the hosts is a null; and a password and a host that read as those of the user are
these strings: the password is not missing, and neither is something else with the same text. -/
structure UserRecord.Plain (r : UserRecord) (user : UserAuthInfo) : Prop where
  no_null : ∀ h ∈ r.hosts, h ≠ .null
  text : json.get_string (r.password.getD .null) = user.password →
    (∃ h ∈ r.hosts, json.get_string h = user.host.host) →
    r.password = some (.string user.password) ∧ .string user.host.host ∈ r.hosts

variable {net json} {r : UserRecord} {user : UserAuthInfo}

theorem UserRecord.get_password (r : UserRecord) :
    json.get r.toJson "password".toList = r.password.getD .null := by
  obtain ⟨name, password, hosts⟩ := r
  cases name <;> cases password <;> exact json.get_object _ _

theorem UserRecord.get_hosts (r : UserRecord) :
    json.get r.toJson "hosts".toList = .array r.hosts := by
  obtain ⟨name, password, hosts⟩ := r
  cases name <;> cases password <;> exact json.get_object _ _

theorem hostNames_array (xs : List json_object) :
    hostNames json (.array xs) =
      xs.mapM fun jhost => jhost.toOption.map json.get_string := by
  simp only [hostNames, json_object.toOption, json.elements_array, Option.bind_some]

theorem hostNames_eq_none {xs : List json_object} (h : .null ∈ xs) :
    hostNames json (.array xs) = none := by
  rw [hostNames_array]
  induction xs with
  | nil => exact absurd h List.not_mem_nil
  | cons x xs ih =>
    rw [List.mapM_cons]
    obtain rfl | h := List.mem_cons.1 h
    · rfl
    · rw [ih h]
      cases x.toOption <;> rfl

theorem hostNames_eq_some {xs : List json_object} (h : ∀ x ∈ xs, x ≠ .null) :
    hostNames json (.array xs) = some (xs.map json.get_string) := by
  rw [hostNames_array]
  induction xs with
  | nil => rfl
  | cons x xs ih =>
    have hx : x.toOption = some x := by
      cases x with
      | null => exact absurd rfl (h .null List.mem_cons_self)
      | _ => rfl
    rw [List.mapM_cons, hx, ih fun y hy => h y (List.mem_cons_of_mem x hy)]
    rfl

variable {store : Str → Option UserRecord} {stringify : UserRecord → Str}

theorem toOption_getD (j : json_object) :
    (j.toOption.map json.get_string).getD [] = json.get_string j := by
  cases j with
  | null => exact json.get_string_null.symm
  | _ => rfl

theorem parse_user_json_record
    (hp : json.json_tokener_parse (cstr (stringify r)) = r.toJson) (login : Str) :
    parse_user_json json login (some (stringify r)) =
      (hostNames json (.array r.hosts)).map fun hosts =>
        some ({ UserAuthInfo.empty with
          login, password := json.get_string (r.password.getD .null) }, hosts) := by
  have hobj : r.toJson.toOption = some r.toJson := rfl
  simp only [parse_user_json, hp, hobj, r.get_hosts, r.get_password, toOption_getD]

/-- What the store of the records of the web site answers. -/
def siteStorage (store : Str → Option UserRecord) (stringify : UserRecord → Str) : RedisStorage :=
  ⟨some fun login => (store login).map stringify⟩

/-- The login is accepted exactly when the store says so, and nothing fails. -/
def FindsExactly (net : NetTypes) (json : Texts) (store : Str → Option UserRecord)
    (stringify : UserRecord → Str) (user : UserAuthInfo) : Prop :=
  ∃ b, (siteStorage store stringify).findUser net json user = some b ∧
    (b = true ↔ Entitled net store user)

theorem findUser_record (hu : user.CStrings) (hv : user.isValid net = true)
    (hr : store user.login = some r)
    (hp : json.json_tokener_parse (cstr (stringify r)) = r.toJson) :
    (siteStorage store stringify).findUser net json user =
      (hostNames json (.array r.hosts)).map fun hosts => hosts.any fun host =>
        host = user.host.host && user.password = json.get_string (r.password.getD .null) := by
  rw [RedisStorage.findUser, if_pos hv]
  simp only [siteStorage, cstr_of_nul_free hu.login, hr, Option.map_some,
    parse_user_json_record hp]
  cases hostNames json (.array r.hosts) <;> rfl

/-- A user that is not valid, or has no record, is refused, as the store says. -/
theorem findsExactly_refused (hu : user.CStrings)
    (h : user.isValid net = false ∨ store user.login = none) :
    FindsExactly net json store stringify user := by
  refine ⟨false, ?_, ?_⟩
  · obtain hv | hr := h
    · rw [RedisStorage.findUser, hv]
      rfl
    · simp only [RedisStorage.findUser, siteStorage, cstr_of_nul_free hu.login, hr]
      cases user.isValid net <;> rfl
  · obtain hv | hr := h
    · simp [Entitled, hv]
    · simp [Entitled, hr]

theorem findsExactly_record (hu : user.CStrings) (hv : user.isValid net = true)
    (hr : store user.login = some r)
    (hp : json.json_tokener_parse (cstr (stringify r)) = r.toJson) :
    FindsExactly net json store stringify user ↔ r.Plain json user := by
  have hfind := findUser_record hu hv hr hp
  have hent : Entitled net store user ↔
      r.password = some (.string user.password) ∧ .string user.host.host ∈ r.hosts := by
    simp [Entitled, hv, hr]
  by_cases hnull : .null ∈ r.hosts
  · rw [hostNames_eq_none hnull] at hfind
    apply iff_of_false
    · rintro ⟨b, hb, _⟩
      rw [hfind] at hb
      cases hb
    · exact fun hplain => hplain.no_null _ hnull rfl
  · have hno : ∀ h ∈ r.hosts, h ≠ .null := by
      rintro h hh rfl
      exact hnull hh
    rw [hostNames_eq_some hno, Option.map_some] at hfind
    rw [FindsExactly, hfind, hent]
    simp only [Option.some.injEq, exists_eq_left', List.any_map, List.any_eq_true,
      Function.comp_apply, Bool.and_eq_true, decide_eq_true_eq]
    apply Iff.intro
    · intro h
      refine ⟨hno, ?_⟩
      rintro hpass ⟨x, hx, hhost⟩
      exact h.1 ⟨x, hx, hhost, hpass.symm⟩
    · intro hplain
      apply Iff.intro
      · rintro ⟨x, hx, hhost, hpass⟩
        exact hplain.text hpass.symm ⟨x, hx, hhost⟩
      · rintro ⟨hpass, hhost⟩
        refine ⟨_, hhost, json.get_string_of_nul_free hu.host, ?_⟩
        rw [hpass]
        exact (json.get_string_of_nul_free hu.password).symm

theorem findUser_iff (hu : user.CStrings)
    (hp : ∀ login r, store login = some r →
      json.json_tokener_parse (cstr (stringify r)) = r.toJson) :
    FindsExactly net json store stringify user ↔
      (user.isValid net = true → ∀ r, store user.login = some r → r.Plain json user) := by
  cases hv : user.isValid net with
  | false =>
    apply iff_of_true
    · exact findsExactly_refused hu (.inl hv)
    · simp
  | true =>
    cases hr : store user.login with
    | none =>
      apply iff_of_true
      · exact findsExactly_refused hu (.inr hr)
      · simp
    | some r =>
      simp only [forall_const, Option.some.injEq, forall_eq']
      exact findsExactly_record hu hv hr (hp _ _ hr)

/-- What an argument of a command is read as has no NUL, where the network types make none. -/
theorem userAuthInfoOfString_cStrings (hnet : ∀ s, '\x00' ∉ s → '\x00' ∉ (net.hostAndPort s).host)
    (h : userAuthInfoOfString net (cstr s) = some user) : user.CStrings := by
  obtain ⟨⟨login, up⟩, hup, h⟩ := Option.bind_eq_some_iff.1 h
  obtain ⟨⟨password, ph⟩, hph, rfl⟩ := Option.map_eq_some_iff.1 h
  obtain ⟨x, rfl, hx⟩ := strchr_eq_some hup
  obtain ⟨y, rfl, hy⟩ := strchr_eq_some hph
  have hs := nul_not_mem_cstr s
  rw [hx, List.mem_append, List.mem_cons, not_or, not_or] at hs
  have htail := hs.2.2
  rw [← @List.tail_cons _ ':' x, hy, List.mem_append, List.mem_cons, not_or,
    not_or] at htail
  exact ⟨hs.1, htail.1, hnet y htail.2.2⟩

/-- A record of strings, as the sign-up and the domain requests make it. -/
def LoginRecord.toUserRecord (r : LoginRecord) : UserRecord :=
  ⟨r.name.map .string, r.password.map .string, r.hosts.map .string⟩

/-- Of the records of strings only one without a password is taken for another one. -/
theorem LoginRecord.plain_iff {r : LoginRecord} (hp : ∀ p ∈ r.password, '\x00' ∉ p)
    (hh : ∀ h ∈ r.hosts, '\x00' ∉ h) :
    r.toUserRecord.Plain json user ↔
      ¬ (r.password = none ∧ user.password = [] ∧ user.host.host ∈ r.hosts) := by
  obtain ⟨name, password, hosts⟩ := r
  have hhost : (∃ h ∈ hosts.map json_object.string, json.get_string h = user.host.host) ↔
      user.host.host ∈ hosts := by
    apply Iff.intro
    · rintro ⟨_, hx, hx'⟩
      obtain ⟨h, hmem, rfl⟩ := List.mem_map.1 hx
      rw [← hx', json.get_string_of_nul_free (hh h hmem)]
      exact hmem
    · intro hmem
      exact ⟨_, List.mem_map_of_mem hmem, json.get_string_of_nul_free (hh _ hmem)⟩
  have hnull : ∀ h ∈ hosts.map json_object.string, h ≠ .null := by
    intro x hx
    obtain ⟨h, _, rfl⟩ := List.mem_map.1 hx
    exact json_object.noConfusion
  apply Iff.intro
  · rintro ⟨_, htext⟩ ⟨rfl, hpass, hmem⟩
    obtain ⟨hno, _⟩ := htext (json.get_string_null.trans hpass.symm) (hhost.2 hmem)
    cases hno
  · intro hno
    refine ⟨hnull, ?_⟩
    intro htext hmem
    have hin := hhost.1 hmem
    cases password with
    | none => exact absurd ⟨rfl, htext.symm.trans json.get_string_null, hin⟩ hno
    | some p =>
      have hpp : p = user.password := (json.get_string_of_nul_free (hp p rfl)).symm.trans htext
      exact ⟨by rw [← hpp]; rfl, List.mem_map_of_mem hin⟩

/-- Over a store of such records every login is accepted as the store says, but for an empty password
where the record has none. -/
theorem findsExactly_logins_iff {logins : Str → Option LoginRecord} (hu : user.CStrings)
    (hnul : ∀ login r, logins login = some r →
      (∀ p ∈ r.password, '\x00' ∉ p) ∧ ∀ h ∈ r.hosts, '\x00' ∉ h)
    (hp : ∀ login r, logins login = some r →
      json.json_tokener_parse (cstr (stringify r.toUserRecord)) = r.toUserRecord.toJson) :
    FindsExactly net json (fun login => (logins login).map LoginRecord.toUserRecord) stringify user ↔
      (user.isValid net = true → ∀ r, logins user.login = some r →
        ¬ (r.password = none ∧ user.password = [] ∧ user.host.host ∈ r.hosts)) := by
  cases hv : user.isValid net with
  | false =>
    apply iff_of_true
    · exact findsExactly_refused hu (.inl hv)
    · simp
  | true =>
    cases hr : logins user.login with
    | none =>
      apply iff_of_true
      · exact findsExactly_refused hu (.inr (congrArg (Option.map _) hr))
      · simp
    | some r =>
      obtain ⟨hpassword, hhosts⟩ := hnul _ r hr
      have hrecord := congrArg (Option.map LoginRecord.toUserRecord) hr
      rw [findsExactly_record hu hv hrecord (hp _ r hr), r.plain_iff hpassword hhosts]
      simp

/-- A parser that knows one record, and a store that has it under one login. -/
def oneText (r : UserRecord) : Texts := .of (fun _ => r.toJson) fun _ => []

def oneRecord (r : UserRecord) : Str → Option UserRecord :=
  fun login => if login = "user".toList then some r else none

def deviceRecord : UserRecord :=
  ⟨some (.string "user".toList), some (.string "secret".toList), [.string "dev".toList]⟩

/-- The same record without a password. -/
def openRecord : UserRecord := { deviceRecord with password := none }

def deviceUser (password : Str) : UserAuthInfo := ⟨"user".toList, password, ⟨"dev".toList, 80⟩⟩

theorem findUser_iff_device :
    FindsExactly .plain (oneText deviceRecord) (oneRecord deviceRecord) (fun _ => [])
        (deviceUser "secret".toList) ↔
      ((deviceUser "secret".toList).isValid .plain = true →
        ∀ r, oneRecord deviceRecord (deviceUser "secret".toList).login = some r →
          r.Plain (oneText deviceRecord) (deviceUser "secret".toList)) := by
  apply findUser_iff
  · exact ⟨by decide, by decide, by decide⟩
  · intro login r hr
    rw [oneRecord] at hr
    split at hr <;> cases hr
    rfl

/-- An empty password logs in to a record that has none. -/
theorem not_findsExactly_open :
    ¬ FindsExactly .plain (oneText openRecord) (oneRecord openRecord) (fun _ => [])
      (deviceUser []) := by
  rintro ⟨b, hb, hent⟩
  have hfind : (siteStorage (oneRecord openRecord) (fun _ => [])).findUser .plain
      (oneText openRecord) (deviceUser []) = some true := by decide +kernel
  rw [hfind] at hb
  cases hb
  obtain ⟨_, r, hr, hpass, _⟩ := hent.1 rfl
  cases hr
  cases hpass

end SiteOnYourDevice
