import SiteOnYourDevice.DomainRequests

namespace SiteOnYourDevice
open Documents Transition
set_option relaxedAutoImplicit false
set_option autoImplicit true

/-- The documents of the users, and what the back end logs devices in with. -/
structure LoginStore where
  users : List User
  redis : RedisUsers

/-- Operations that have completed, each with its save and its `hset`: a sign-up, or `/connect/local`
when the session has a user; a new account of a social sign-in; and the requests of the user at a
place. `id` and `created_date` are those of the new subdocument. -/
inductive AccountEvent
  | signup (req_user : Option Nat) (email password : JsString)
  | social (user : User)
  | unlink_local (place : Nat)
  | add_domain (place : Nat) (domain_name : JsString) (id : Nat) (created_date : JsString)
  | remove_domain (place domain_id : Nat)

namespace LoginStore

def init : LoginStore := ⟨[], fun _ => none⟩

variable (lib : FrontEndLib) (coerces : Bool)

/-- A save of the user at a place that is followed by the `hset` of the changed document. -/
def saveAndSet (place : Nat) (user : User) (change : User → User) (s : LoginStore) : LoginStore :=
  ⟨s.users.modify place change, hset coerces user.local_.email (change user).neededVal s.redis⟩

/-- The domain that `/add_domain` takes, if it is valid and available. -/
def acceptedDomain (users : List User) (domain_name : JsString) : Option JsString :=
  let new_domain := lib.toLowerCase (stripWww domain_name)
  if checkIsValidDomain new_domain && (findOne User.domainNames users new_domain).isNone then
    some new_domain
  else none

def step (s : LoginStore) : AccountEvent → Option LoginStore
  | .signup req_user email password =>
    if req_user.all fun place => place < s.users.length then
      some { s with users := (localSignup lib req_user email password s.users).1 }
    else none
  | .social user =>
    some { s with users := s.users ++ [{ user with local_ := ⟨none, none⟩, domains := [] }] }
  | .unlink_local place =>
    if place < s.users.length then
      some { s with users := s.users.modify place (User.setLocal ⟨none, none⟩) }
    else none
  | .add_domain place domain_name id created_date =>
    s.users[place]?.map fun user =>
      match acceptedDomain lib s.users domain_name with
      | none => s
      | some name => s.saveAndSet coerces place user (User.pushDomain ⟨id, name, created_date⟩)
  | .remove_domain place domain_id =>
    s.users[place]?.map fun user =>
      s.saveAndSet coerces place user (User.pullDomain domain_id)

/-- Every record of Redis is that of a user: under the email, with the password and the domains. -/
def Mirrors (s : LoginStore) : Prop :=
  ∀ e v, s.redis e = some v → ∃ (place : Nat) (user : User) (password : JsString),
    s.users[place]? = some user ∧
    user.local_ = ⟨some e, some password⟩ ∧ v.password = some password ∧
    v.hosts = user.domainNames

/-- No local account is unlinked while Redis has a record of it; and where an undefined field becomes
a text, no user without a local account gets a domain or removes one. -/
def KeepsMirror (s : LoginStore) : AccountEvent → Prop
  | .unlink_local place => ∀ user, s.users[place]? = some user →
      ∀ e, user.local_.email = some e → s.redis e = none
  | .add_domain place domain_name _ _ => ∀ user, s.users[place]? = some user →
      user.local_.email = none → acceptedDomain lib s.users domain_name ≠ none → coerces = false
  | .remove_domain place _ => ∀ user, s.users[place]? = some user →
      user.local_.email = none → coerces = false
  | _ => True

/-- What holds of the local accounts: an email is one user's, it is a valid one, and it comes with a
password. -/
structure Accounts (users : List User) : Prop where
  oneOwner : Documents.OneOwner User.emails users
  valid : ∀ (i : Nat) e, HasKey User.emails users i e → validateEmail e = true
  password : ∀ (i : Nat) (user : User) e, users[i]? = some user → user.local_.email = some e →
    ∃ password, user.local_.password = some password

variable {lib coerces} {s s' : LoginStore} {e : AccountEvent} {users : List User} {place : Nat}

theorem not_validateEmail_undefined : validateEmail "undefined".toList = false := by
  decide +kernel

theorem not_validateEmail_nil : validateEmail [] = false := by decide +kernel

theorem accounts_nil : Accounts [] := by
  refine ⟨oneOwner_nil, ?_, ?_⟩
  · rintro i e ⟨user, hu, _⟩
    cases hu
  · intro i user e hu
    cases hu

theorem Accounts.modify (h : Accounts users) {change : User → User}
    (hc : ∀ user, (change user).local_ = user.local_ ∨ (change user).local_ = ⟨none, none⟩) :
    Accounts (users.modify place change) := by
  have hsub (user : User) : (change user).emails.Sublist user.emails := by
    rw [User.emails]
    obtain he | he := hc user
    · rw [he]
      exact List.Sublist.refl _
    · rw [he]
      exact List.nil_sublist _
  refine ⟨h.oneOwner.modify_of_sublist hsub, ?_, ?_⟩
  · intro i e hi
    exact h.valid i e (hi.of_modify fun user _ k hk => (hsub user).subset hk)
  · intro i user e hu he
    by_cases hi : i = place
    · subst hi
      rw [List.getElem?_modify_eq] at hu
      obtain ⟨old, hold, rfl⟩ := Option.map_eq_some_iff.1 hu
      obtain hl | hl := hc old
      · rw [hl] at he ⊢
        exact h.password i old e hold he
      · rw [hl] at he
        cases he
    · rw [List.getElem?_modify_ne _ _ (Ne.symm hi)] at hu
      exact h.password i user e hu he

theorem Accounts.concat (h : Accounts users) {user : User}
    (hl : user.local_ = ⟨none, none⟩ ∨ ∃ email password, user.local_ = ⟨some email, some password⟩ ∧
      validateEmail email = true ∧ ∀ i, ¬ HasKey User.emails users i email) :
    Accounts (users ++ [user]) := by
  refine ⟨h.oneOwner.concat ?_ ?_, ?_, ?_⟩
  · obtain hl | ⟨email, password, hl, _⟩ := hl
    · rw [User.emails, hl]
      exact List.nodup_nil
    · rw [User.emails, hl]
      exact List.nodup_singleton _
  · intro e he
    rw [User.mem_emails] at he
    obtain hl | ⟨email, password, hl, _, hnew⟩ := hl
    · rw [hl] at he
      cases he
    · rw [hl] at he
      cases he
      exact hnew
  · intro i e hi
    obtain hi | ⟨_, he⟩ := hasKey_concat.1 hi
    · exact h.valid i e hi
    · rw [User.mem_emails] at he
      obtain hl | ⟨email, password, hl, hv, _⟩ := hl
      · rw [hl] at he
        cases he
      · rw [hl] at he
        cases he
        exact hv
  · intro i u e hu he
    by_cases hlt : i < users.length
    · rw [List.getElem?_append_left hlt] at hu
      exact h.password i u e hu he
    · rw [List.getElem?_append_right (Nat.le_of_not_lt hlt)] at hu
      obtain rfl := List.mem_singleton.1 (List.mem_of_getElem? hu)
      obtain hl | ⟨email, password, hl, _⟩ := hl
      · rw [hl] at he
        cases he
      · exact ⟨password, by rw [hl]⟩

theorem Accounts.connect (h : Accounts users) {email password : JsString}
    (hv : validateEmail email = true) (hnew : ∀ i, ¬ HasKey User.emails users i email) :
    Accounts (users.modify place (User.setLocal ⟨some email, some password⟩)) := by
  cases hu : users[place]? with
  | none => rwa [List.modify_eq_self (List.getElem?_eq_none_iff.1 hu)]
  | some user =>
    have hcarries {i : Nat} {e : JsString} (hi : HasKey User.emails
        (users.modify place (User.setLocal ⟨some email, some password⟩)) i e) :
        e = email ∨ HasKey User.emails users i e := by
      by_cases hp : i = place
      · subst hp
        have he := (hasKey_modify_self hu).1 hi
        rw [User.mem_emails] at he
        cases he
        exact .inl rfl
      · exact .inr ((hasKey_modify_of_ne hp).1 hi)
    refine ⟨(h.oneOwner.modify_iff hu).2 ⟨List.nodup_singleton _, ?_⟩, ?_, ?_⟩
    · intro e he j hj
      rw [User.mem_emails] at he
      cases he
      exact absurd hj (hnew j)
    · intro i e hi
      obtain rfl | hi := hcarries hi
      · exact hv
      · exact h.valid i e hi
    · intro i u e hi he
      by_cases hp : i = place
      · subst hp
        rw [List.getElem?_modify_eq, hu] at hi
        cases hi
        exact ⟨password, rfl⟩
      · rw [List.getElem?_modify_ne _ _ (Ne.symm hp)] at hi
        exact h.password i u e hi he

/-- The records stay those of their users when no user with a record changes. -/
theorem Mirrors.of_users (h : s.Mirrors)
    (hu : ∀ (i : Nat) (user : User) e, s.users[i]? = some user → user.local_.email = some e →
      users[i]? = some user) : Mirrors ⟨users, s.redis⟩ := by
  intro e v hv
  obtain ⟨place, user, password, hp, hl, hrest⟩ := h e v hv
  exact ⟨place, user, password, hu place user e hp (by rw [hl]), hl, hrest⟩

theorem getElem?_concat_of_some {user x : User} {i : Nat} (h : users[i]? = some user) :
    (users ++ [x])[i]? = some user := by
  rw [List.getElem?_append_left (List.getElem?_eq_some_iff.1 h).1, h]

/-- A sign-up changes no user who has an email. -/
theorem Accounts.signedUp {req_user : Option Nat} {users' : List User} (h : Accounts users)
    (hs : SignedUp users req_user users') :
    Accounts users' ∧ ∀ (i : Nat) (user : User) e, users[i]? = some user →
      user.local_.email = some e → users'[i]? = some user := by
  cases hs with
  | same => exact ⟨h, fun i user e hu _ => hu⟩
  | created email password _ hv hnew =>
    refine ⟨h.concat (.inr ⟨email, password, rfl, hv, hnew⟩), ?_⟩
    intro i user e hu _
    exact getElem?_concat_of_some hu
  | connected place email password _ hv hread hnew =>
    refine ⟨h.connect hv hnew, ?_⟩
    intro i user e hu he
    have hne : place ≠ i := by
      rintro rfl
      have hnil := hread user hu e he
      have hvalid := h.valid place e ⟨user, hu, User.mem_emails.2 he⟩
      rw [hnil, not_validateEmail_nil] at hvalid
      cases hvalid
    rw [List.getElem?_modify_ne _ _ hne]
    exact hu

/-- Unlinking a local account leaves its record behind. -/
theorem mirrors_unlink_iff (h : s.Mirrors) (ha : Accounts s.users) :
    Mirrors ⟨s.users.modify place (User.setLocal ⟨none, none⟩), s.redis⟩ ↔
      ∀ user, s.users[place]? = some user → ∀ e, user.local_.email = some e →
        s.redis e = none := by
  constructor
  · intro h' user hu e he
    by_contra hne
    obtain ⟨v, hv⟩ := Option.ne_none_iff_exists'.1 hne
    obtain ⟨i, u, password, hi, hl, _⟩ := h' e v hv
    by_cases hp : i = place
    · subst hp
      rw [List.getElem?_modify_eq, hu] at hi
      cases hi
      cases hl
    · rw [List.getElem?_modify_ne _ _ (Ne.symm hp)] at hi
      exact hp (ha.oneOwner.owner i place e ⟨u, hi, User.mem_emails.2 (by rw [hl])⟩
        ⟨user, hu, User.mem_emails.2 he⟩)
  · intro hgone e v hv
    obtain ⟨i, user, password, hi, hl, hrest⟩ := h e v hv
    refine ⟨i, user, password, ?_, hl, hrest⟩
    have hne : place ≠ i := by
      rintro rfl
      rw [hgone user hi e (by rw [hl])] at hv
      cases hv
    rw [List.getElem?_modify_ne _ _ hne]
    exact hi

theorem saveAndSet_redis_email {user : User} {e : JsString} {change : User → User}
    (he : user.local_.email = some e) :
    (s.saveAndSet coerces place user change).redis =
      Function.update s.redis e (some (change user).neededVal) := by
  rw [saveAndSet, he]
  rfl

theorem saveAndSet_redis_none {user : User} {change : User → User}
    (he : user.local_.email = none) :
    (s.saveAndSet coerces place user change).redis =
      if coerces then
        Function.update s.redis "undefined".toList (some (change user).neededVal)
      else s.redis := by
  rw [saveAndSet, he]
  rfl

theorem Mirrors.other (h : s.Mirrors) {user : User} (hu : s.users[place]? = some user)
    {change : User → User} {e : JsString} {v : LoginRecord} (he : user.local_.email ≠ some e)
    (hv : s.redis e = some v) :
    ∃ (i : Nat) (u : User) (password : JsString), (s.users.modify place change)[i]? = some u ∧
      u.local_ = ⟨some e, some password⟩ ∧ v.password = some password ∧
      v.hosts = u.domainNames := by
  obtain ⟨i, u, password, hi, hl, hrest⟩ := h e v hv
  refine ⟨i, u, password, ?_, hl, hrest⟩
  have hp : place ≠ i := by
    rintro rfl
    rw [hu] at hi
    cases hi
    exact he (by rw [hl])
  rw [List.getElem?_modify_ne _ _ hp]
  exact hi

/-- A change of the domains goes to Redis under the email of its user; without an email, at most to a
place where nobody's record is. -/
theorem mirrors_saveAndSet_iff (h : s.Mirrors) (ha : Accounts s.users) {user : User}
    (hu : s.users[place]? = some user) {change : User → User}
    (hc : ∀ u, (change u).local_ = u.local_) :
    (s.saveAndSet coerces place user change).Mirrors ↔
      (user.local_.email = none → coerces = false) := by
  cases hemail : user.local_.email with
  | some e =>
    refine ⟨fun _ => nofun, fun _ => ?_⟩
    obtain ⟨password, hpassword⟩ := ha.password place user e hu hemail
    intro e' v hv
    rw [saveAndSet_redis_email hemail] at hv
    by_cases he : e' = e
    · subst he
      rw [Function.update_self] at hv
      cases hv
      refine ⟨place, change user, password, ?_, ?_, ?_, rfl⟩
      · rw [saveAndSet, List.getElem?_modify_eq, hu]
        rfl
      · rw [hc, ← hemail, ← hpassword]
      · rw [User.neededVal, hc]
        exact hpassword
    · rw [Function.update_of_ne he] at hv
      apply h.other hu _ hv
      rw [hemail]
      exact fun heq => he (Option.some.inj heq).symm
  | none =>
    cases coerces with
    | false =>
      refine ⟨fun _ _ => rfl, fun _ e v hv => ?_⟩
      rw [saveAndSet_redis_none hemail] at hv
      exact h.other hu (by rw [hemail]; exact nofun) hv
    | true =>
      refine ⟨fun h' => ?_, fun hf => absurd (hf rfl) (by decide)⟩
      obtain ⟨i, u, password, hi, hl, _⟩ := h' "undefined".toList (change user).neededVal (by
        rw [saveAndSet_redis_none hemail, if_pos rfl, Function.update_self])
      have hcarries : HasKey User.emails (s.users.modify place change) i "undefined".toList :=
        ⟨u, hi, User.mem_emails.2 (by rw [hl])⟩
      have hvalid := ha.valid i _ (hcarries.of_modify fun x _ k hk => by
        rwa [User.emails, hc] at hk)
      rw [not_validateEmail_undefined] at hvalid
      cases hvalid

theorem step_mirrors_iff (h : s.Mirrors) (ha : Accounts s.users)
    (hs : s.step lib coerces e = some s') :
    (s'.Mirrors ↔ s.KeepsMirror lib coerces e) ∧ Accounts s'.users := by
  cases e with
  | signup req_user email password =>
    simp only [step] at hs
    split at hs
    · cases hs
      obtain ⟨ha', hkept⟩ := ha.signedUp (localSignup_cases lib req_user email password s.users)
      exact ⟨⟨fun _ => trivial, fun _ => h.of_users hkept⟩, ha'⟩
    · cases hs
  | social user =>
    cases hs
    refine ⟨⟨fun _ => trivial, fun _ => h.of_users ?_⟩, ha.concat (.inl rfl)⟩
    intro i u e hu _
    exact getElem?_concat_of_some hu
  | unlink_local place =>
    simp only [step] at hs
    split at hs
    · cases hs
      exact ⟨mirrors_unlink_iff h ha, ha.modify fun _ => .inr rfl⟩
    · cases hs
  | add_domain place domain_name id created_date =>
    obtain ⟨user, hu, rfl⟩ := Option.map_eq_some_iff.1 hs
    have hkeeps : s.KeepsMirror lib coerces (.add_domain place domain_name id created_date) ↔
        (user.local_.email = none → acceptedDomain lib s.users domain_name ≠ none →
          coerces = false) := by
      simp only [KeepsMirror, hu, Option.some.injEq, forall_eq']
    rw [hkeeps]
    cases hd : acceptedDomain lib s.users domain_name with
    | none => exact ⟨iff_of_true h fun _ hn => absurd rfl hn, ha⟩
    | some name =>
      have hlocal (u : User) : (u.pushDomain ⟨id, name, created_date⟩).local_ = u.local_ := rfl
      refine ⟨(mirrors_saveAndSet_iff h ha hu hlocal).trans ?_, ha.modify fun u => .inl (hlocal u)⟩
      simp only [ne_eq, reduceCtorEq, not_false_eq_true, forall_const]
  | remove_domain place domain_id =>
    obtain ⟨user, hu, rfl⟩ := Option.map_eq_some_iff.1 hs
    have hlocal (u : User) : (u.pullDomain domain_id).local_ = u.local_ := rfl
    refine ⟨(mirrors_saveAndSet_iff h ha hu hlocal).trans ?_, ha.modify fun u => .inl (hlocal u)⟩
    simp only [KeepsMirror, hu, Option.some.injEq, forall_eq']

/-- The login store mirrors the accounts along a run exactly when every operation keeps the
mirror. -/
theorem always_mirrors_iff (lib : FrontEndLib) (coerces : Bool) (es : List AccountEvent) :
    Always (step lib coerces) Mirrors init es ↔
      Along (step lib coerces) (fun s e _ => s.KeepsMirror lib coerces e) init es := by
  apply always_iff_along (I := fun s => Accounts s.users) nofun accounts_nil
  intro s e s' h ha hs
  obtain ⟨hiff, ha'⟩ := step_mirrors_iff h ha hs
  exact ⟨hiff, fun _ => ha'⟩

/-- A user signs up, registers a domain, and unlinks the local account. -/
def unlinkedOwner : List AccountEvent :=
  [.signup none "me@mail.com".toList "secret".toList, .add_domain 0 "one.com".toList 0 [],
    .unlink_local 0]

theorem not_always_mirrors_unlinkedOwner :
    ¬ Always (step .plain true) Mirrors init unlinkedOwner := by
  intro h
  have hend : (run (step .plain true) init unlinkedOwner).map
      (fun s => (s.users.map (·.local_.email), s.redis "me@mail.com".toList)) =
        some ([none], some ⟨some "me@mail.com".toList, some "#secret".toList,
          ["one.com".toList]⟩) := by
    decide +kernel
  obtain ⟨t, ht, hend⟩ := Option.map_eq_some_iff.1 hend
  obtain ⟨hemails, hrecord⟩ := Prod.mk.inj hend
  obtain ⟨i, user, password, hu, hl, _⟩ := h.at_end ht _ _ hrecord
  have hemail : user.local_.email ∈ t.users.map (·.local_.email) :=
    List.mem_map_of_mem (List.mem_of_getElem? hu)
  rw [hemails, hl] at hemail
  cases List.mem_singleton.1 hemail

end LoginStore

namespace FrontEnd
variable {lib : FrontEndLib} {coerces : Bool} {s : FrontEnd} {n place : Nat} {user : User}

/-- The documents and the records of a front end. -/
def loginStore (s : FrontEnd) : LoginStore := ⟨s.users, s.redis⟩

variable (lib coerces) in
/-- From its lookup on, when nothing comes in between. -/
theorem run_uninterrupted {name : JsString} (hr : s.requests n = some (.looksUp place user name))
    (hf : findOne User.domainNames s.users name = none) (created_date : JsString) :
    run (step lib coerces) s [.findOne n none, .push n created_date, .save n none] =
      some (saved coerces place (user.pushDomain ⟨s.next_id, name, created_date⟩)
        (User.pushDomain ⟨s.next_id, name, created_date⟩)
        (setRequest n none (setRequest n (some (.saves place
          (user.pushDomain ⟨s.next_id, name, created_date⟩) ⟨s.next_id, name, created_date⟩))
            { s.setRequest n (some (.available place user name)) with
              next_id := s.next_id + 1 }))) := by
  rw [run_cons (step_findOne lib coerces hr hf),
    run_cons (step_push lib coerces (setRequest_requests ..) created_date),
    run_cons (step_save lib coerces (setRequest_requests ..))]
  rfl

variable (lib coerces) in
/-- A request to add a domain that runs without interruption is the completed operation. -/
theorem completed_add_domain (hu : s.users[place]? = some user) (hn : s.requests n = none)
    (domain_name created_date : JsString) :
    ∃ es t, run (step lib coerces) s es = some t ∧
      s.loginStore.step lib coerces (.add_domain place domain_name s.next_id created_date) =
        some t.loginStore := by
  have hstore : s.loginStore.step lib coerces
      (.add_domain place domain_name s.next_id created_date) =
        some (match LoginStore.acceptedDomain lib s.users domain_name with
          | none => s.loginStore
          | some name => s.loginStore.saveAndSet coerces place user
              (User.pushDomain ⟨s.next_id, name, created_date⟩)) := by
    rw [LoginStore.step, loginStore, hu]
    rfl
  rw [hstore, LoginStore.acceptedDomain]
  cases hvalid : checkIsValidDomain (lib.toLowerCase (stripWww domain_name)) with
  | false =>
    have hrefused : s.step lib coerces (.add_domain n place domain_name) = some (s.flashTo place
        (lib.toLowerCase (stripWww domain_name) ++ " not valid domain name.".toList)) := by
      simp only [step, hu, hn, hvalid, Bool.false_eq_true, if_false]
    exact ⟨[.add_domain n place domain_name], _, run_cons hrefused, rfl⟩
  | true =>
    have hsent := step_add_domain lib coerces hu hn hvalid
    generalize lib.toLowerCase (stripWww domain_name) = new_domain at hsent
    cases hf : findOne User.domainNames s.users new_domain with
    | some i =>
      have htaken : ∃ t, (s.setRequest n (some (.looksUp place user new_domain))).step lib coerces
          (.findOne n none) = some t ∧ t.loginStore = s.loginStore := by
        simp only [step, setRequest_requests]
        rw [setRequest, hf]
        exact ⟨_, rfl, rfl⟩
      obtain ⟨t, ht, hsame⟩ := htaken
      refine ⟨[.add_domain n place domain_name, .findOne n none], t, ?_, ?_⟩
      · exact (run_cons hsent).trans (run_cons ht)
      · rw [hsame]
        rfl
    | none =>
      refine ⟨[.add_domain n place domain_name, .findOne n none, .push n created_date,
        .save n none], _, (run_cons hsent).trans (run_uninterrupted lib coerces
          (setRequest_requests ..) hf created_date), rfl⟩

variable (lib coerces) in
theorem completed_remove_domain (hu : s.users[place]? = some user) (hn : s.requests n = none)
    (domain_id : Nat) :
    ∃ es t, run (step lib coerces) s es = some t ∧
      s.loginStore.step lib coerces (.remove_domain place domain_id) = some t.loginStore := by
  have hsent : s.step lib coerces (.remove_domain n place domain_id) =
      some (s.setRequest n (some (.pulls place (user.pullDomain domain_id) domain_id))) := by
    simp only [step, hu, hn]
  have hsave : ∃ t, (s.setRequest n (some (.pulls place (user.pullDomain domain_id)
      domain_id))).step lib coerces (.save n none) = some t ∧
        t.loginStore = s.loginStore.saveAndSet coerces place user (User.pullDomain domain_id) := by
    simp only [step, setRequest_requests]
    exact ⟨_, rfl, rfl⟩
  obtain ⟨t, ht, hsame⟩ := hsave
  refine ⟨[.remove_domain n place domain_id, .save n none], t, ?_, ?_⟩
  · exact (run_cons hsent).trans (run_cons ht)
  · rw [hsame, LoginStore.step, loginStore, hu]
    rfl

end FrontEnd

end SiteOnYourDevice
