import SiteOnYourDevice.Accounts
import SiteOnYourDevice.Transition

namespace SiteOnYourDevice
open CString Documents Regex Transition
set_option relaxedAutoImplicit false
set_option autoImplicit true

/-- `\w`. -/
def jsWord (c : Char) : Bool := isalpha c || isdigit c || c = '_'

namespace CheckIsValidDomain
open Re

def word : Re Char := cls jsWord

/-- `\w[\.\-\+]?`. -/
def wordSep : Re Char := cat word (opt (cls fun c => c ∈ ['.', '-', '+']))

def re : Re Char :=
  cat (plus (cat (star wordSep) word))
    (cat (plus (cat (wordSep.between 0 62) word)) (cat (sym '.') (word.between 2 4)))

end CheckIsValidDomain

def checkIsValidDomain (domain : JsString) : Bool := CheckIsValidDomain.re.test domain

example : checkIsValidDomain "one.com".toList = true := by decide +kernel

example : checkIsValidDomain "one".toList = false := by decide +kernel

/-- `domain_name.replace(/^www\./ig, '')`. -/
def stripWww (domain_name : JsString) : JsString :=
  match domain_name with
  | a :: b :: c :: '.' :: rest =>
    if [a, b, c].all fun x => x = 'w' || x = 'W' then rest else domain_name
  | _ => domain_name

/-- What Redis has for a login; `JSON.stringify` leaves out what is undefined. -/
structure LoginRecord where
  name : Option JsString
  password : Option JsString
  hosts : List JsString
deriving DecidableEq

/-- `needed_val`. -/
def User.neededVal (user : User) : LoginRecord :=
  ⟨user.local_.email, user.local_.password, user.domainNames⟩

abbrev RedisUsers := JsString → Option LoginRecord

/-- `hset("users", ..)`; an undefined field becomes the text `undefined`, or the client refuses
it. -/
def hset (coerces : Bool) (field : Option JsString) (v : LoginRecord) (redis : RedisUsers) :
    RedisUsers :=
  match field with
  | some field => Function.update redis field (some v)
  | none => if coerces then Function.update redis "undefined".toList (some v) else redis

/-- A request between two of its database operations, with the document of the user as it was
when the request came in and as the request has changed it since. -/
inductive DomainRequest
  | looksUp (place : Nat) (user : User) (new_domain : JsString)
  | available (place : Nat) (user : User) (new_domain : JsString)
  | saves (place : Nat) (user : User) (d : Domain)
  | pulls (place : Nat) (user : User) (domain_id : Nat)
deriving DecidableEq

/-- The database, the requests under way, and the flash messages; `next_id` is the next id of a
subdocument. -/
structure FrontEnd where
  users : List User
  redis : RedisUsers
  requests : Nat → Option DomainRequest
  next_id : Nat
  flash : List (Nat × JsString)

/-- A new account; a request that comes in under a new number, from the user at a place; the answer
to its lookup, its `push`, and the answer to its save. -/
inductive DomainEvent
  | newUser (user : User)
  | add_domain (n place : Nat) (domain_name : JsString)
  | remove_domain (n place : Nat) (domain_id : Nat)
  | findOne (n : Nat) (err : Option JsString)
  | push (n : Nat) (created_date : JsString)
  | save (n : Nat) (err : Option JsString)

namespace FrontEnd

def init : FrontEnd := ⟨[], fun _ => none, fun _ => none, 0, []⟩

def setRequest (n : Nat) (r : Option DomainRequest) (s : FrontEnd) : FrontEnd :=
  { s with requests := Function.update s.requests n r }

/-- `req.flash('statusProfileMessage', ..)`. -/
def flashTo (place : Nat) (message : JsString) (s : FrontEnd) : FrontEnd :=
  { s with flash := s.flash ++ [(place, message)] }

/-- A save that succeeded: the change goes to the stored document, the record of the document in
memory to Redis. -/
def saved (coerces : Bool) (place : Nat) (user : User) (change : User → User) (s : FrontEnd) :
    FrontEnd :=
  { s with
    users := s.users.modify place change
    redis := hset coerces user.local_.email user.neededVal s.redis }

variable (lib : FrontEndLib) (coerces : Bool)

def step (s : FrontEnd) : DomainEvent → Option FrontEnd
  | .newUser user => some { s with users := s.users ++ [{ user with domains := [] }] }
  | .add_domain n place domain_name =>
    match s.users[place]?, s.requests n with
    | some user, none =>
      let new_domain := lib.toLowerCase (stripWww domain_name)
      if checkIsValidDomain new_domain then
        some (s.setRequest n (some (.looksUp place user new_domain)))
      else some (s.flashTo place (new_domain ++ " not valid domain name.".toList))
    | _, _ => none
  | .remove_domain n place domain_id =>
    match s.users[place]?, s.requests n with
    | some user, none =>
      some (s.setRequest n (some (.pulls place (user.pullDomain domain_id) domain_id)))
    | _, _ => none
  | .findOne n err =>
    match s.requests n with
    | some (.looksUp place user new_domain) =>
      match err with
      | some err => some ((s.setRequest n none).flashTo place err)
      | none =>
        match Documents.findOne User.domainNames s.users new_domain with
        | some _ =>
          some ((s.setRequest n none).flashTo place
            ("Sorry, ".toList ++ new_domain ++ " isn’t available.".toList))
        | none => some (s.setRequest n (some (.available place user new_domain)))
    | _ => none
  | .push n created_date =>
    match s.requests n with
    | some (.available place user new_domain) =>
      let d : Domain := ⟨s.next_id, new_domain, created_date⟩
      some ({ s with next_id := s.next_id + 1 }.setRequest n
        (some (.saves place (user.pushDomain d) d)))
    | _ => none
  | .save n err =>
    match s.requests n with
    | some (.saves place user d) =>
      match err with
      | some err => some ((s.setRequest n none).flashTo place err)
      | none => some ((s.setRequest n none).saved coerces place user (User.pushDomain d))
    | some (.pulls place user domain_id) =>
      match err with
      | some err => some ((s.setRequest n none).flashTo place err)
      | none => some ((s.setRequest n none).saved coerces place user (User.pullDomain domain_id))
    | _ => none

/-- A domain has one owner. -/
def OneOwner (s : FrontEnd) : Prop := Documents.OneOwner User.domainNames s.users

end FrontEnd

/-- The domain that a request has found available and has not saved. -/
def DomainRequest.awaits : DomainRequest → Option JsString
  | .available _ _ new_domain => some new_domain
  | .saves _ _ d => some d.name
  | .looksUp .. | .pulls .. => none

/-- The place of the user a request is from. -/
def DomainRequest.place : DomainRequest → Nat
  | .looksUp place _ _ | .available place _ _ | .saves place _ _ | .pulls place _ _ => place

namespace FrontEnd

/-- The request awaits the save of the domain. -/
def Awaits (s : FrontEnd) (n : Nat) (name : JsString) : Prop :=
  ∃ r, s.requests n = some r ∧ r.awaits = some name

/-- While a request looks its domain up, no other request is between its lookup and its save of the
same domain. -/
def LooksUpAlone (s : FrontEnd) : DomainEvent → Prop
  | .findOne n none => ∀ place user new_domain,
      s.requests n = some (.looksUp place user new_domain) → ∀ m, ¬ s.Awaits m new_domain
  | _ => True

variable {lib : FrontEndLib} {coerces : Bool} {s s' : FrontEnd} {e : DomainEvent}
  {m n place : Nat} {r : Option DomainRequest} {name : JsString}

@[simp] theorem setRequest_requests (s : FrontEnd) (n : Nat) (r : Option DomainRequest) :
    (s.setRequest n r).requests n = r := Function.update_self ..

theorem Awaits.of_update (hreq : s'.requests = Function.update s.requests n r)
    (h : s'.Awaits m name) :
    m = n ∧ r.bind DomainRequest.awaits = some name ∨ m ≠ n ∧ s.Awaits m name := by
  obtain ⟨q, hq, hname⟩ := h
  rw [hreq] at hq
  by_cases hm : m = n
  · subst hm
    rw [Function.update_self] at hq
    exact .inl ⟨rfl, by rw [hq]; exact hname⟩
  · rw [Function.update_of_ne hm] at hq
    exact .inr ⟨hm, q, hq, hname⟩

theorem Awaits.ended (h : s'.Awaits m name)
    (hreq : s'.requests = Function.update s.requests n r)
    (hr : r.bind DomainRequest.awaits = none) : m ≠ n ∧ s.Awaits m name := by
  obtain ⟨_, hm⟩ | hm := h.of_update hreq
  · rw [hr] at hm
    cases hm
  · exact hm

/-- What a step does to the documents, and to the request it is about. -/
inductive DomainStep (s : FrontEnd) (e : DomainEvent) (s' : FrontEnd) : Prop
  | quiet (hreq : s'.requests = s.requests) (hu : s'.users = s.users)
  | newUser (user : User) (hreq : s'.requests = s.requests)
      (hu : s'.users = s.users ++ [{ user with domains := [] }])
  | idle (n : Nat) (r : Option DomainRequest) (hr : r.bind DomainRequest.awaits = none)
      (hp : ∀ q, r = some q → q.place < s.users.length)
      (hreq : s'.requests = Function.update s.requests n r) (hu : s'.users = s.users)
  | available (n place : Nat) (user : User) (name : JsString) (he : e = .findOne n none)
      (hr : s.requests n = some (.looksUp place user name))
      (hnew : ∀ i, ¬ HasKey User.domainNames s.users i name)
      (hreq : s'.requests = Function.update s.requests n (some (.available place user name)))
      (hu : s'.users = s.users)
  | pushed (n : Nat) (q q' : DomainRequest) (hr : s.requests n = some q)
      (ha : q'.awaits = q.awaits) (hp : q'.place = q.place)
      (hreq : s'.requests = Function.update s.requests n (some q')) (hu : s'.users = s.users)
  | added (n place : Nat) (user : User) (d : Domain)
      (hr : s.requests n = some (.saves place user d))
      (hreq : s'.requests = Function.update s.requests n none)
      (hu : s'.users = s.users.modify place (User.pushDomain d))
  | removed (n place domain_id : Nat) (hreq : s'.requests = Function.update s.requests n none)
      (hu : s'.users = s.users.modify place (User.pullDomain domain_id))

theorem placed_none (q : DomainRequest) (h : none = some q) : q.place < s.users.length := by
  cases h

theorem DomainStep.refused (e : DomainEvent) (message : JsString) :
    DomainStep s e ((s.setRequest n none).flashTo place message) :=
  .idle n none rfl placed_none rfl rfl

theorem step_domains (hs : s.step lib coerces e = some s') : DomainStep s e s' := by
  cases e with
  | newUser user =>
    cases hs
    exact .newUser user rfl rfl
  | add_domain n place domain_name =>
    simp only [step] at hs
    split at hs
    · rename_i user hu _
      split at hs
      · cases hs
        refine .idle n _ rfl ?_ rfl rfl
        intro q hq
        cases hq
        exact (List.getElem?_eq_some_iff.1 hu).1
      · cases hs
        exact .quiet rfl rfl
    · cases hs
  | remove_domain n place domain_id =>
    simp only [step] at hs
    split at hs
    · rename_i user hu _
      cases hs
      refine .idle n _ rfl ?_ rfl rfl
      intro q hq
      cases hq
      exact (List.getElem?_eq_some_iff.1 hu).1
    · cases hs
  | findOne n err =>
    simp only [step] at hs
    split at hs
    · rename_i place user name hr
      cases err with
      | some err =>
        cases hs
        exact .refused _ _
      | none =>
        dsimp only at hs
        split at hs
        · cases hs
          exact .refused _ _
        · rename_i hf
          cases hs
          exact .available n place user name rfl hr (findOne_eq_none.1 hf) rfl rfl
    · cases hs
  | push n created_date =>
    simp only [step] at hs
    split at hs
    · rename_i place user name hr
      cases hs
      exact .pushed n _ (.saves place _ ⟨s.next_id, name, created_date⟩) hr rfl rfl rfl rfl
    · cases hs
  | save n err =>
    simp only [step] at hs
    split at hs
    · rename_i place user d hr
      cases err with
      | some err =>
        cases hs
        exact .refused _ _
      | none =>
        cases hs
        exact .added n place user d hr rfl rfl
    · rename_i place user domain_id hr
      cases err with
      | some err =>
        cases hs
        exact .refused _ _
      | none =>
        cases hs
        exact .removed n place domain_id rfl rfl
    · cases hs

theorem hasKey_pushDomain {users : List User} {d : Domain} {i : Nat}
    (h : HasKey User.domainNames (users.modify place (User.pushDomain d)) i name) :
    HasKey User.domainNames users i name ∨ name = d.name := by
  by_cases hi : i = place
  · subst hi
    obtain ⟨u, hu, hname⟩ := h
    rw [List.getElem?_modify_eq] at hu
    obtain ⟨v, hv, rfl⟩ := Option.map_eq_some_iff.1 hu
    rw [User.domainNames_pushDomain, List.mem_append, List.mem_singleton] at hname
    exact hname.imp_left fun hin => ⟨v, hv, hin⟩
  · exact .inl ((hasKey_modify_of_ne hi).1 h)

/-- One more domain is one too many exactly when some document has it. -/
theorem oneOwner_pushDomain_iff {users : List User} {d : Domain} {user : User}
    (h : Documents.OneOwner User.domainNames users) (hu : users[place]? = some user) :
    Documents.OneOwner User.domainNames (users.modify place (User.pushDomain d)) ↔
      ∀ i, ¬ HasKey User.domainNames users i d.name := by
  rw [h.modify_iff hu, User.domainNames_pushDomain]
  constructor
  · rintro ⟨hnodup, hown⟩ i hi
    obtain rfl := hown d.name (List.mem_append_right _ (List.mem_singleton_self _)) i hi
    have hin := (hasKey_at hu).1 hi
    exact (List.nodup_append.1 hnodup).2.2 _ hin _ (List.mem_singleton_self _) rfl
  · intro hfree
    refine ⟨?_, ?_⟩
    · apply List.nodup_append.2
      refine ⟨h.each place user hu, List.nodup_singleton _, ?_⟩
      rintro a ha b hb rfl
      obtain rfl := List.mem_singleton.1 hb
      exact hfree place ⟨user, hu, ha⟩
    · intro k hk i hi
      obtain hk | hk := List.mem_append.1 hk
      · exact h.owner i place k hi ⟨user, hu, hk⟩
      · obtain rfl := List.mem_singleton.1 hk
        exact absurd hi (hfree i)

theorem oneOwner_pushDomain {users : List User} {d : Domain}
    (h : Documents.OneOwner User.domainNames users)
    (hfree : ∀ i, ¬ HasKey User.domainNames users i d.name) :
    Documents.OneOwner User.domainNames (users.modify place (User.pushDomain d)) := by
  cases hu : users[place]? with
  | none => rwa [List.modify_eq_self (List.getElem?_eq_none_iff.1 hu)]
  | some user => exact (oneOwner_pushDomain_iff h hu).2 hfree

/-- What holds between the lookups and the saves: domains about to be saved are about to be saved by
one request each, and are in no document. -/
structure Invariant (s : FrontEnd) : Prop where
  oneOwner : s.OneOwner
  alone : ∀ m n name, s.Awaits m name → s.Awaits n name → m = n
  free : ∀ n name, s.Awaits n name → ∀ i, ¬ HasKey User.domainNames s.users i name

theorem invariant_init : Invariant init := by
  refine ⟨oneOwner_nil, ?_, ?_⟩
  · rintro m n name ⟨r, hr, _⟩
    cases hr
  · rintro n name ⟨r, hr, _⟩
    cases hr

/-- Fewer awaited saves of new domains, and no other stored domains. -/
theorem Invariant.mono (h : Invariant s)
    (hone : Documents.OneOwner User.domainNames s'.users)
    (ha : ∀ m name, s'.Awaits m name → s.Awaits m name)
    (hc : ∀ n name i, s'.Awaits n name → HasKey User.domainNames s'.users i name →
      ∃ j, HasKey User.domainNames s.users j name) : Invariant s' := by
  refine ⟨hone, fun m n name hm hn => h.alone m n name (ha _ _ hm) (ha _ _ hn), ?_⟩
  intro n name hn i hi
  obtain ⟨j, hj⟩ := hc n name i hn hi
  exact h.free n name (ha _ _ hn) j hj

theorem Invariant.available (h : Invariant s) {user : User}
    (hown : ∀ m, ¬ s.Awaits m name) (hnew : ∀ i, ¬ HasKey User.domainNames s.users i name)
    (hreq : s'.requests = Function.update s.requests n (some (.available place user name)))
    (hu : s'.users = s.users) : Invariant s' := by
  have hcases : ∀ m x, s'.Awaits m x → m = n ∧ x = name ∨ s.Awaits m x := by
    intro m x hm
    obtain ⟨rfl, hx⟩ | ⟨_, hm⟩ := hm.of_update hreq
    · exact .inl ⟨rfl, (Option.some.inj hx).symm⟩
    · exact .inr hm
  refine ⟨?_, ?_, ?_⟩
  · rw [OneOwner, hu]
    exact h.oneOwner
  · intro m m' x hm hm'
    obtain ⟨rfl, rfl⟩ | hm := hcases m x hm
    · obtain ⟨rfl, _⟩ | hm' := hcases m' x hm'
      · rfl
      · exact absurd hm' (hown m')
    · obtain ⟨rfl, rfl⟩ | hm' := hcases m' x hm'
      · exact absurd hm (hown m)
      · exact h.alone m m' x hm hm'
  · intro m x hm
    rw [hu]
    obtain ⟨_, rfl⟩ | hm := hcases m x hm
    · exact hnew
    · exact h.free m x hm

theorem Invariant.kept (h : Invariant s) (hu : s'.users = s.users)
    (ha : ∀ m name, s'.Awaits m name → s.Awaits m name) : Invariant s' := by
  apply h.mono (hu ▸ h.oneOwner) ha
  intro n name i _ hi
  exact ⟨i, hu ▸ hi⟩

theorem Invariant.added (h : Invariant s) {user : User} {d : Domain}
    (hr : s.requests n = some (.saves place user d))
    (hreq : s'.requests = Function.update s.requests n none)
    (hu : s'.users = s.users.modify place (User.pushDomain d)) : Invariant s' := by
  have hn : s.Awaits n d.name := ⟨_, hr, rfl⟩
  apply h.mono _ (fun m name hm => (hm.ended hreq rfl).2)
  · intro m x i hm hi
    obtain ⟨hne, hm⟩ := hm.ended hreq rfl
    rw [hu] at hi
    obtain hi | rfl := hasKey_pushDomain hi
    · exact ⟨i, hi⟩
    · exact absurd (h.alone m n d.name hm hn) hne
  · rw [hu]
    exact oneOwner_pushDomain h.oneOwner (h.free n d.name hn)

theorem Invariant.step (h : Invariant s) (hs : s.step lib coerces e = some s')
    (hc : s.LooksUpAlone e) : Invariant s' := by
  cases step_domains hs with
  | quiet hreq hu =>
    apply h.kept hu
    rintro m name ⟨q, hq, hname⟩
    exact ⟨q, hreq ▸ hq, hname⟩
  | newUser user hreq hu =>
    refine h.mono ?_ ?_ ?_
    · rw [hu]
      exact h.oneOwner.concat List.nodup_nil nofun
    · rintro m name ⟨q, hq, hname⟩
      exact ⟨q, hreq ▸ hq, hname⟩
    · intro n name i _ hi
      rw [hu] at hi
      obtain hi | ⟨_, hi⟩ := hasKey_concat.1 hi
      · exact ⟨i, hi⟩
      · cases hi
  | idle n r hr _ hreq hu => exact h.kept hu fun m name hm => (hm.ended hreq hr).2
  | available n place user name he hr hnew hreq hu =>
    subst he
    exact h.available (hc place user name hr) hnew hreq hu
  | pushed n q q' hr ha _ hreq hu =>
    apply h.kept hu
    intro m name hm
    obtain ⟨rfl, hx⟩ | ⟨_, hm⟩ := hm.of_update hreq
    · exact ⟨q, hr, ha ▸ hx⟩
    · exact hm
  | added n place user d hr hreq hu => exact h.added hr hreq hu
  | removed n place domain_id hreq hu =>
    refine h.mono ?_ (fun m name hm => (hm.ended hreq rfl).2) ?_
    · rw [hu]
      exact h.oneOwner.modify_of_sublist (User.domainNames_pullDomain domain_id)
    · intro m x i _ hi
      rw [hu] at hi
      exact ⟨i, hi.of_modify fun u _ x hx => (User.domainNames_pullDomain domain_id u).subset hx⟩

/-- Along a run in which no lookup of a domain falls between another request's lookup and save of
it, a domain has one owner. -/
theorem always_oneOwner (lib : FrontEndLib) (coerces : Bool) (es : List DomainEvent)
    (h : Along (FrontEnd.step lib coerces) (fun s e _ => s.LooksUpAlone e) init es) :
    Always (FrontEnd.step lib coerces) OneOwner init es := by
  apply h.always invariant_init (fun _ hi => hi.oneOwner)
  intro s e s' hi hs hc
  exact hi.step hs hc

/-- Every request is from a user with a document. -/
def Placed (s : FrontEnd) : Prop :=
  ∀ n r, s.requests n = some r → r.place < s.users.length

theorem Placed.of_update (h : s.Placed) (hlen : s.users.length ≤ s'.users.length)
    (hreq : s'.requests = Function.update s.requests n r)
    (hr : ∀ q, r = some q → q.place < s.users.length) : s'.Placed := by
  intro m q hm
  rw [hreq] at hm
  apply Nat.lt_of_lt_of_le _ hlen
  by_cases hmn : m = n
  · subst hmn
    rw [Function.update_self] at hm
    exact hr q hm
  · rw [Function.update_of_ne hmn] at hm
    exact h m q hm

theorem Placed.step (h : s.Placed) (hs : s.step lib coerces e = some s') : s'.Placed := by
  cases step_domains hs with
  | quiet hreq hu =>
    intro m q hm
    rw [hreq] at hm
    rw [hu]
    exact h m q hm
  | newUser user hreq hu =>
    intro m q hm
    rw [hreq] at hm
    rw [hu, List.length_append]
    exact Nat.lt_add_right _ (h m q hm)
  | idle n r _ hp hreq hu => exact h.of_update (by rw [hu]) hreq hp
  | available n place user name _ hr _ hreq hu =>
    apply h.of_update (by rw [hu]) hreq
    intro q hq
    cases hq
    have hlt := h n _ hr
    exact hlt
  | pushed n q q' hr _ hp hreq hu =>
    apply h.of_update (by rw [hu]) hreq
    intro q'' hq
    cases hq
    rw [hp]
    exact h n q hr
  | added n place user d _ hreq hu => exact h.of_update (by rw [hu, List.length_modify]) hreq placed_none
  | removed n place domain_id hreq hu =>
    exact h.of_update (by rw [hu, List.length_modify]) hreq placed_none

theorem placed_run {es : List DomainEvent} (hs : run (FrontEnd.step lib coerces) init es = some s) :
    s.Placed := by
  have h : Always (FrontEnd.step lib coerces) Placed init es := by
    have hinit : init.Placed := by
      intro n q hq
      cases hq
    refine ⟨hinit, along_of_invariant (I := Placed) hinit ?_⟩
    intro t e t' ht he
    exact ⟨ht.step he, ht.step he⟩
  exact h.at_end hs

section
variable (lib coerces) {user : User}

theorem step_add_domain (hu : s.users[place]? = some user) (hn : s.requests n = none)
    {domain_name : JsString}
    (hv : checkIsValidDomain (lib.toLowerCase (stripWww domain_name)) = true) :
    s.step lib coerces (.add_domain n place domain_name) = some (s.setRequest n
      (some (.looksUp place user (lib.toLowerCase (stripWww domain_name))))) := by
  simp only [FrontEnd.step, hu, hn, hv, if_true]

theorem step_findOne (hr : s.requests n = some (.looksUp place user name))
    (hf : Documents.findOne User.domainNames s.users name = none) :
    s.step lib coerces (.findOne n none) =
      some (s.setRequest n (some (.available place user name))) := by
  simp only [FrontEnd.step, hr, hf]

theorem step_push (hr : s.requests n = some (.available place user name))
    (created_date : JsString) :
    s.step lib coerces (.push n created_date) =
      some ({ s with next_id := s.next_id + 1 }.setRequest n (some (.saves place
        (user.pushDomain ⟨s.next_id, name, created_date⟩) ⟨s.next_id, name, created_date⟩))) := by
  simp only [FrontEnd.step, hr]

theorem step_save {d : Domain} (hr : s.requests n = some (.saves place user d)) :
    s.step lib coerces (.save n none) =
      some ((s.setRequest n none).saved coerces place user (User.pushDomain d)) := by
  simp only [FrontEnd.step, hr]

/-- A request that awaits its save can go on to it, whatever the others do. -/
def GoesOn (s : FrontEnd) (n : Nat) (name : JsString) : Prop :=
  ∃ es t place d, run (FrontEnd.step lib coerces) s es = some t ∧ d.name = name ∧
    place < s.users.length ∧ t.users = s.users.modify place (User.pushDomain d) ∧
    t.requests = Function.update s.requests n none

theorem goesOn_saves {d : Domain} (hp : s.Placed)
    (hr : s.requests n = some (.saves place user d)) : GoesOn lib coerces s n d.name :=
  ⟨[.save n none], _, place, d, run_cons (step_save lib coerces hr), rfl, hp n _ hr, rfl, rfl⟩

theorem Awaits.goesOn (h : s.Awaits n name) (hp : s.Placed) : GoesOn lib coerces s n name := by
  obtain ⟨r, hr, hname⟩ := h
  cases r with
  | looksUp | pulls => cases hname
  | saves place user d =>
    cases hname
    exact goesOn_saves lib coerces hp hr
  | available place user new_domain =>
    cases hname
    have hpush := step_push lib coerces hr []
    obtain ⟨es, t, place', d', ht, hd, hlt, hu, hreq⟩ :=
      goesOn_saves lib coerces (hp.step hpush) (setRequest_requests ..)
    refine ⟨.push n [] :: es, t, place', d', (run_cons hpush).trans ht, hd, hlt, hu, ?_⟩
    rw [hreq]
    exact Function.update_idem ..

end

/-- Every lookup between another request's lookup and save can end in two owners. -/
theorem overlap_breaks {es : List DomainEvent}
    (hs : run (FrontEnd.step lib coerces) init es = some s)
    (hm : s.Awaits m name) (hn : s.Awaits n name) (hne : m ≠ n) :
    ∃ fs t, run (FrontEnd.step lib coerces) s fs = some t ∧ ¬ t.OneOwner := by
  have hplaced := placed_run hs
  obtain ⟨fs, t, i, d, ht, rfl, hi, hu, hreq⟩ := hn.goesOn lib coerces hplaced
  by_cases hone : t.OneOwner
  · have hplaced' : t.Placed := by
      apply hplaced.of_update _ hreq placed_none
      rw [hu, List.length_modify]
    have hm' : t.Awaits m d.name := by
      obtain ⟨q, hq, hname⟩ := hm
      exact ⟨q, by rw [hreq, Function.update_of_ne hne, hq], hname⟩
    obtain ⟨gs, t', j, d', ht', hd, hj, hu', _⟩ := hm'.goesOn lib coerces hplaced'
    refine ⟨fs ++ gs, t', by rw [run_append, ht]; exact ht', ?_⟩
    rw [OneOwner, hu', oneOwner_pushDomain_iff hone (List.getElem?_eq_getElem hj), hd]
    intro hfree
    apply hfree i
    rw [hu, hasKey_modify_self (List.getElem?_eq_getElem hi), User.domainNames_pushDomain]
    exact List.mem_append_right _ (List.mem_singleton_self _)
  · exact ⟨fs, t, ht, hone⟩

/-- Two users who ask for two domains, both before either is answered. -/
def interleavedRequests : List DomainEvent :=
  [.newUser .empty, .newUser .empty, .add_domain 0 0 "www.One.com".toList,
    .add_domain 1 1 "two.com".toList, .findOne 0 none, .findOne 1 none, .push 1 "today".toList,
    .push 0 "today".toList, .save 0 none, .save 1 none]

theorem always_oneOwner_interleavedRequests :
    Always (step .plain true) OneOwner init interleavedRequests := by
  apply always_oneOwner
  have hone : checkIsValidDomain (FrontEndLib.plain.toLowerCase
      (stripWww "www.One.com".toList)) = true := by decide +kernel
  have htwo : checkIsValidDomain (FrontEndLib.plain.toLowerCase
      (stripWww "two.com".toList)) = true := by decide +kernel
  apply Along.cons rfl trivial
  apply Along.cons rfl trivial
  apply Along.cons (by simp only [step, init, hone]; rfl) trivial
  apply Along.cons (by simp only [step, htwo]; rfl) trivial
  apply Along.cons rfl
  · intro place user name hr m hm
    obtain ⟨_, hname⟩ | ⟨_, hm⟩ := hm.of_update rfl
    · cases hname
    obtain ⟨_, hname⟩ | ⟨_, r, hinit, _⟩ := hm.of_update rfl
    · cases hname
    · cases hinit
  apply Along.cons rfl
  · intro place user name hr m hm
    obtain ⟨_, hname⟩ | ⟨_, hm⟩ := hm.of_update rfl
    · cases hname
      cases hr
    obtain ⟨_, hname⟩ | ⟨_, hm⟩ := hm.of_update rfl
    · cases hname
    obtain ⟨_, hname⟩ | ⟨_, r, hinit, _⟩ := hm.of_update rfl
    · cases hname
    · cases hinit
  apply Along.cons rfl trivial
  apply Along.cons rfl trivial
  apply Along.cons rfl trivial
  apply Along.cons rfl trivial
  trivial

/-- Two users who ask for the same domain, both before either is answered. -/
def twoRequests : List DomainEvent :=
  [.newUser .empty, .newUser .empty, .add_domain 0 0 "one.com".toList,
    .add_domain 1 1 "one.com".toList, .findOne 0 none, .findOne 1 none, .push 0 "today".toList,
    .push 1 "today".toList, .save 0 none, .save 1 none]

theorem not_always_oneOwner_twoRequests :
    ¬ Always (step .plain true) OneOwner init twoRequests := by
  intro h
  have hnames : (run (step .plain true) init twoRequests).map
      (fun s => s.users.map User.domainNames) = some [["one.com".toList], ["one.com".toList]] := by
    decide +kernel
  obtain ⟨t, ht, hnames⟩ := Option.map_eq_some_iff.1 hnames
  have hfirst : HasKey User.domainNames t.users 0 "one.com".toList := by
    rw [hasKey_iff_map, hnames]
    exact ⟨_, rfl, List.mem_singleton_self _⟩
  have hsecond : HasKey User.domainNames t.users 1 "one.com".toList := by
    rw [hasKey_iff_map, hnames]
    exact ⟨_, rfl, List.mem_singleton_self _⟩
  exact absurd ((h.at_end ht).owner 0 1 _ hfirst hsecond) (by decide)

end FrontEnd

end SiteOnYourDevice
