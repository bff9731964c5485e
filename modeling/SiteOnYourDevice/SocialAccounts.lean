import SiteOnYourDevice.Accounts
import SiteOnYourDevice.Transition

namespace SiteOnYourDevice
open Documents Transition
set_option relaxedAutoImplicit false
set_option autoImplicit true

/-- What the strategies read of a provider's profile; `emails` has the `value` of each entry. -/
structure Profile where
  id : JsString
  givenName : Option JsString
  familyName : Option JsString
  displayName : Option JsString
  username : Option JsString
  emails : List (Option JsString)

/-- A strategy of a provider: its account in a document, and what it shows of a profile; without
that, it throws. -/
structure SocialStrategy where
  Details : Type
  account : User → SocialAccount Details
  setAccount : SocialAccount Details → User → User
  details : Profile → Option Details
  account_setAccount : ∀ a u, account (setAccount a u) = a

/-- An operand of `+` with a string. -/
def shown (s : Option JsString) : JsString := s.getD "undefined".toList

/-- `if (user.facebook.token)`. -/
def truthy (s : Option JsString) : Bool := s.any (· ≠ [])

/-- `(profile.emails[0].value || '').toLowerCase()`. -/
def firstEmail (lib : FrontEndLib) (profile : Profile) : Option JsString :=
  profile.emails.head?.map fun value => lib.toLowerCase (value.getD [])

def FacebookStrategy (lib : FrontEndLib) : SocialStrategy where
  Details := MailDetails
  account := User.facebook
  setAccount a u := { u with facebook := a }
  details profile := (firstEmail lib profile).map fun email =>
    ⟨email, some (shown profile.givenName ++ ' ' :: shown profile.familyName)⟩
  account_setAccount _ _ := rfl

def TwitterStrategy : SocialStrategy where
  Details := TwitterDetails
  account := User.twitter
  setAccount a u := { u with twitter := a }
  details profile := some ⟨profile.displayName, profile.username⟩
  account_setAccount _ _ := rfl

def GoogleStrategy (lib : FrontEndLib) : SocialStrategy where
  Details := MailDetails
  account := User.google
  setAccount a u := { u with google := a }
  details profile := (firstEmail lib profile).map fun email => ⟨email, profile.displayName⟩
  account_setAccount _ _ := rfl

namespace SocialStrategy
variable (s : SocialStrategy)

def ids (u : User) : List JsString := (s.account u).id.toList

/-- The account as a callback fills it in; one that is known keeps its id. -/
def link (id token : JsString) (d : s.Details) (u : User) : User :=
  s.setAccount ⟨some id, some token, some d⟩ u

def relink (token : JsString) (d : s.Details) (u : User) : User :=
  s.setAccount ⟨(s.account u).id, some token, some d⟩ u

/-- The unlink route: only the token goes. -/
def unlink (u : User) : User :=
  s.setAccount ⟨(s.account u).id, none, (s.account u).details⟩ u

/-- The callback with its save: the documents, and the place of the user it signs in. -/
def callback (req_user : Option Nat) (token : JsString) (profile : Profile) (users : List User) :
    Option (List User × Nat) :=
  match req_user with
  | none =>
    match findOne s.ids users profile.id with
    | some place =>
      if users[place]?.any fun u => truthy (s.account u).token then some (users, place)
      else (s.details profile).map fun d => (users.modify place (s.relink token d), place)
    | none => (s.details profile).map fun d =>
        (users ++ [s.link profile.id token d User.empty], users.length)
  | some place =>
    if place < users.length then (s.details profile).map fun d =>
      (users.modify place (s.link profile.id token d), place)
    else none

end SocialStrategy

inductive Provider
  | facebook
  | twitter
  | google
deriving DecidableEq

namespace Provider

def strategy (lib : FrontEndLib) : Provider → SocialStrategy
  | facebook => FacebookStrategy lib
  | twitter => TwitterStrategy
  | google => GoogleStrategy lib

/-- The id of a provider in a document. -/
def ids : Provider → User → List JsString
  | facebook, u => u.facebook.id.toList
  | twitter, u => u.twitter.id.toList
  | google, u => u.google.id.toList

end Provider

/-- Completed operations: a callback, for a session with or without a user, whether it came from
`/auth` or from `/connect`; an unlink route; and a local sign-up. -/
inductive SocialEvent
  | callback (p : Provider) (req_user : Option Nat) (token : JsString) (profile : Profile)
  | unlink (p : Provider) (place : Nat)
  | signup (account : LocalAccount)

namespace SocialAccounts
variable (lib : FrontEndLib)

def step (users : List User) : SocialEvent → Option (List User)
  | .callback p req_user token profile =>
    ((p.strategy lib).callback req_user token profile users).map Prod.fst
  | .unlink p place =>
    if place < users.length then some (users.modify place (p.strategy lib).unlink) else none
  | .signup account => some (users ++ [User.empty.setLocal account])

/-- An id of a provider is in one document, and a sign-in by it selects this one. -/
def OneAccount (users : List User) : Prop :=
  ∀ p : Provider, OneOwner p.ids users ∧
    ∀ place id, HasKey p.ids users place id → ∀ token profile r, profile.id = id →
      (p.strategy lib).callback none token profile users = some r → r.2 = place

/-- A user who is logged in links an id that no other document has. -/
def LinksOwn (users : List User) : SocialEvent → Prop
  | .callback p (some place) _ profile => ∀ i, HasKey p.ids users i profile.id → i = place
  | _ => True

variable {lib} {users users' : List User} {e : SocialEvent} {p q : Provider} {place : Nat}

variable (lib) in
theorem ids_strategy (p : Provider) : (p.strategy lib).ids = p.ids := by
  cases p <;> rfl

theorem ids_setAccount_ne (h : p ≠ q) (a : SocialAccount (p.strategy lib).Details) (u : User) :
    q.ids ((p.strategy lib).setAccount a u) = q.ids u := by
  cases p <;> cases q <;> first | rfl | exact absurd rfl h

theorem ids_setAccount (a : SocialAccount (p.strategy lib).Details) (u : User) :
    p.ids ((p.strategy lib).setAccount a u) = a.id.toList := by
  rw [← ids_strategy lib p, SocialStrategy.ids, SocialStrategy.account_setAccount]

theorem ids_of_same_id {a : SocialAccount (p.strategy lib).Details} {u : User}
    (h : a.id = ((p.strategy lib).account u).id) (q : Provider) :
    q.ids ((p.strategy lib).setAccount a u) = q.ids u := by
  by_cases hq : p = q
  · subst hq
    rw [ids_setAccount, h, ← ids_strategy lib p]
    rfl
  · exact ids_setAccount_ne hq a u

theorem ids_relink (token : JsString) (d : (p.strategy lib).Details) (q : Provider) (u : User) :
    q.ids ((p.strategy lib).relink token d u) = q.ids u := by
  apply ids_of_same_id
  rfl

theorem ids_unlink (q : Provider) (u : User) : q.ids ((p.strategy lib).unlink u) = q.ids u := by
  apply ids_of_same_id
  rfl

theorem mem_ids_link {id token : JsString} {d : (p.strategy lib).Details} {u : User}
    {k : JsString} (h : k ∈ q.ids ((p.strategy lib).link id token d u)) :
    p = q ∧ k = id ∨ p ≠ q ∧ k ∈ q.ids u := by
  rw [SocialStrategy.link] at h
  by_cases hq : p = q
  · subst hq
    rw [ids_setAccount] at h
    exact .inl ⟨rfl, (Option.mem_toList.1 h |> Option.some.inj).symm⟩
  · rw [ids_setAccount_ne hq] at h
    exact .inr ⟨hq, h⟩

theorem nodup_ids (q : Provider) (u : User) : (q.ids u).Nodup := by
  cases q <;> exact Option.toList_nodup _

theorem ids_empty (q : Provider) (account : LocalAccount) :
    q.ids (User.empty.setLocal account) = [] := by
  cases q <;> rfl

/-- A sign-in finds the one document with its id. -/
theorem callback_selects {id token : JsString} {profile : Profile} {r : List User × Nat}
    (h : OneOwner p.ids users) (hc : HasKey p.ids users place id) (hid : profile.id = id)
    (hr : (p.strategy lib).callback none token profile users = some r) : r.2 = place := by
  subst hid
  simp only [SocialStrategy.callback, ids_strategy, h.findOne_eq hc] at hr
  split at hr
  · cases hr
    rfl
  · obtain ⟨d, _, rfl⟩ := Option.map_eq_some_iff.1 hr
    rfl

theorem oneAccount_iff : OneAccount lib users ↔ ∀ p : Provider, OneOwner p.ids users := by
  constructor
  · exact fun h p => (h p).1
  · intro h p
    refine ⟨h p, ?_⟩
    intro place id hc token profile r hid hr
    exact callback_selects (h p) hc hid hr

variable (lib) in
/-- What a step does to the ids. -/
inductive IdStep (users : List User) (e : SocialEvent) (users' : List User) : Prop
  | kept (he : ∀ p place token profile, e ≠ .callback p (some place) token profile)
      (place : Nat) (change : User → User) (hids : ∀ (q : Provider) u, q.ids (change u) = q.ids u)
      (hu : users' = users.modify place change)
  | created (he : ∀ p place token profile, e ≠ .callback p (some place) token profile)
      (user : User) (hnew : ∀ (q : Provider), ∀ id ∈ q.ids user, ∀ i, ¬ HasKey q.ids users i id)
      (hu : users' = users ++ [user])
  | linked (p : Provider) (place : Nat) (token : JsString) (profile : Profile)
      (d : (p.strategy lib).Details) (he : e = .callback p (some place) token profile)
      (hlt : place < users.length)
      (hu : users' = users.modify place ((p.strategy lib).link profile.id token d))

theorem linksOwn_of_ne (he : ∀ p place token profile,
    e ≠ .callback p (some place) token profile) : LinksOwn users e := by
  cases e with
  | callback p req_user token profile =>
    cases req_user with
    | none => trivial
    | some place => exact absurd rfl (he p place token profile)
  | unlink | signup => trivial

variable (lib) in
theorem step_ids (hs : step lib users e = some users') : IdStep lib users e users' := by
  cases e with
  | callback p req_user token profile =>
    obtain ⟨r, hr, rfl⟩ := Option.map_eq_some_iff.1 hs
    cases req_user with
    | none =>
      simp only [SocialStrategy.callback, ids_strategy] at hr
      split at hr
      · rename_i place hf
        split at hr
        · cases hr
          exact .kept (by simp) 0 id (fun _ _ => rfl) (List.modify_id 0 users).symm
        · obtain ⟨d, _, rfl⟩ := Option.map_eq_some_iff.1 hr
          exact .kept (by simp) place _ (ids_relink token d) rfl
      · rename_i hf
        obtain ⟨d, _, rfl⟩ := Option.map_eq_some_iff.1 hr
        refine .created (by simp) _ ?_ rfl
        intro q k hk
        obtain ⟨rfl, rfl⟩ | ⟨_, hk⟩ := mem_ids_link hk
        · exact findOne_eq_none.1 hf
        · rw [show User.empty = User.empty.setLocal ⟨none, none⟩ from rfl, ids_empty] at hk
          cases hk
    | some place =>
      simp only [SocialStrategy.callback] at hr
      split at hr
      · rename_i hlt
        obtain ⟨d, _, rfl⟩ := Option.map_eq_some_iff.1 hr
        exact .linked p place token profile d rfl hlt rfl
      · cases hr
  | unlink p place =>
    simp only [step] at hs
    split at hs
    · cases hs
      exact .kept (by simp) place _ ids_unlink rfl
    · cases hs
  | signup account =>
    cases hs
    refine .created (by simp) _ ?_ rfl
    intro q id hid
    rw [ids_empty] at hid
    cases hid

theorem step_oneAccount_iff (h : OneAccount lib users) (hs : step lib users e = some users') :
    OneAccount lib users' ↔ LinksOwn users e := by
  rw [oneAccount_iff] at h ⊢
  cases step_ids lib hs with
  | kept he place change hids hu =>
    subst hu
    refine ⟨fun _ => linksOwn_of_ne he, fun _ q => (h q).modify_of_sublist fun u => ?_⟩
    rw [hids]
  | created he user hnew hu =>
    subst hu
    exact ⟨fun _ => linksOwn_of_ne he, fun _ q => (h q).concat (nodup_ids q user) (hnew q)⟩
  | linked p place token profile d he hlt hu =>
    subst he hu
    have hiff (q : Provider) := (h q).modify_iff (List.getElem?_eq_getElem hlt)
      (f := (p.strategy lib).link profile.id token d)
    constructor
    · intro h' i hi
      apply ((hiff p).1 (h' p)).2 _ _ i hi
      rw [SocialStrategy.link, ids_setAccount]
      exact List.mem_singleton_self _
    · intro hown q
      refine (hiff q).2 ⟨nodup_ids q _, ?_⟩
      intro k hk i hi
      obtain ⟨rfl, rfl⟩ | ⟨_, hk⟩ := mem_ids_link hk
      · exact hown i hi
      · exact (h q).owner i place k hi ⟨_, List.getElem?_eq_getElem hlt, hk⟩

/-- An id of a provider is one user's along a run exactly when only ids that no other document has
are linked. -/
theorem always_oneAccount_iff (lib : FrontEndLib) (es : List SocialEvent) :
    Always (step lib) (OneAccount lib) [] es ↔
      Along (step lib) (fun users e _ => LinksOwn users e) [] es := by
  apply always_iff_along (I := fun _ => True) (oneAccount_iff.2 fun _ => oneOwner_nil) trivial
  intro users e users' h _ hs
  exact ⟨step_oneAccount_iff h hs, fun _ => trivial⟩

def aliceProfile : Profile :=
  ⟨"7".toList, some "Alice".toList, some "A".toList, none, none, [some "alice@mail.com".toList]⟩

/-- Alice signs in with a provider; a second user signs up and links the same identity. -/
def linkedTwice : List SocialEvent :=
  [.callback .facebook none "t1".toList aliceProfile, .signup ⟨some "b@mail.com".toList, none⟩,
    .callback .facebook (some 1) "t2".toList aliceProfile]

theorem not_always_oneAccount_linkedTwice :
    ¬ Always (step .plain) (OneAccount .plain) [] linkedTwice := by
  intro h
  obtain ⟨users, hr, hids⟩ : ∃ users, run (step .plain) [] linkedTwice = some users ∧
      users.map Provider.facebook.ids = [["7".toList], ["7".toList]] := ⟨_, rfl, rfl⟩
  have hfirst : HasKey Provider.facebook.ids users 0 "7".toList := by
    rw [hasKey_iff_map, hids]
    exact ⟨_, rfl, List.mem_singleton_self _⟩
  have hsecond : HasKey Provider.facebook.ids users 1 "7".toList := by
    rw [hasKey_iff_map, hids]
    exact ⟨_, rfl, List.mem_singleton_self _⟩
  exact absurd ((h.at_end hr Provider.facebook).1.owner 0 1 _ hfirst hsecond) (by decide)

end SocialAccounts

end SiteOnYourDevice
