import SiteOnYourDevice.EventLoop
import SiteOnYourDevice.SocialAccounts

namespace SiteOnYourDevice
open CString EventLoop
set_option relaxedAutoImplicit false
set_option autoImplicit true

inductive AuthOp
  | nextTick
  | findOne (field value : JsString)
  | save (user : User)

abbrev AuthOp.Ans : AuthOp → Type
  | nextTick => Unit
  | findOne _ _ => Except JsString (Option User)
  | save _ => Except JsString Unit

/-- The outcomes of the lookups and of the saves. -/
structure AuthDb where
  findOne : JsString → JsString → Except JsString (Option User)
  save : User → Except JsString Unit

def AuthDb.env (db : AuthDb) : ∀ op : AuthOp, op.Ans
  | .nextTick => ()
  | .findOne field value => db.findOne field value
  | .save user => db.save user

/-- The calls of `done`, a refusal with its flash message. -/
inductive AuthDone
  | error (err : JsString)
  | refused (flash : JsString × JsString)
  | user (user : User)

/-- A field of a request that is there: a text, or what else a body can bring, which has no lower
case and cannot be hashed. -/
inductive FormField
  | text (s : JsString)
  | other
deriving DecidableEq

/-- The callbacks of the five strategies, with what passport hands over. -/
inductive AuthCallback
  | localLogin (email password : FormField)
  | localSignup (email password : FormField)
  | social (p : Provider) (token : JsString) (profile : Profile)

def Provider.idField : Provider → JsString
  | facebook => "facebook.id".toList
  | twitter => "twitter.id".toList
  | google => "google.id".toList

namespace Passport

abbrev AuthTurn := Turn AuthOp AuthOp.Ans Unit AuthDone

abbrev AuthLoop := Loop AuthOp AuthOp.Ans Unit AuthDone

variable (lib : FrontEndLib)

/-- `return done(...)`. -/
def done (d : AuthDone) : AuthTurn := .emit d .stop

def refuse (key text : JsString) : AuthTurn := done (.refused (key, text))

/-- `process.nextTick`. -/
def nextTick (callback : AuthTurn) : AuthTurn := .start .nextTick (fun _ => callback) .stop

/-- `User.findOne`. -/
def findOne (field value : JsString) (callback : Except JsString (Option User) → AuthTurn) :
    AuthTurn :=
  .start (.findOne field value) callback .stop

/-- The callback of `user.save`. -/
def saved (user : User) : Except JsString Unit → AuthTurn
  | .error err => done (.error err)
  | .ok _ => done (.user user)

def save (user : User) : AuthTurn := .start (.save user) (saved user) .stop

def generateHash : FormField → Option JsString
  | .text password => some (User.generateHash lib password)
  | .other => none

def localEmail : JsString := "local.email".toList

def invalidEmail (email : JsString) : JsString := "Invalid email ".toList ++ email ++ ['.']

/-- The callback of the lookup of `local-login`. -/
def loginFound (password : FormField) : Except JsString (Option User) → AuthTurn
  | .error err => done (.error err)
  | .ok none => refuse "loginMessage".toList "No user found.".toList
  | .ok (some user) =>
    match generateHash lib password with
    | none => .stop
    | some hash =>
      if some hash = user.local_.password then done (.user user)
      else refuse "loginMessage".toList "Oops! Wrong password.".toList

def localLogin (email password : FormField) : AuthTurn :=
  match email with
  | .other => .stop
  | .text email =>
    if email = [] then refuse "loginMessage".toList "Invalid input.".toList
    else
      let email := lib.toLowerCase email
      if validateEmail email then
        nextTick (findOne localEmail email (loginFound lib password))
      else refuse "loginMessage".toList (invalidEmail email)

/-- The callbacks of the lookups of `local-signup`, which fill in a new user or the one of the
session. -/
def signupFound (key : JsString) (user : User) (email : JsString) (password : FormField) :
    Except JsString (Option User) → AuthTurn
  | .error err => done (.error err)
  | .ok (some _) => refuse key "That email is already taken.".toList
  | .ok none =>
    match generateHash lib password with
    | none => .stop
    | some hash => save (user.setLocal ⟨some email, some hash⟩)

def hasLocal (user : User) : Bool := truthy user.local_.email

def localSignup (req_user : Option User) (email password : FormField) : AuthTurn :=
  match email with
  | .other => .stop
  | .text email =>
    if email = [] then refuse "signupMessage".toList "Invalid input.".toList
    else
      let email := lib.toLowerCase email
      if validateEmail email then
        nextTick <|
          match req_user with
          | none =>
            findOne localEmail email
              (signupFound lib "signupMessage".toList User.empty email password)
          | some user =>
            if hasLocal user then done (.user user)
            else
              findOne localEmail email (signupFound lib "loginMessage".toList user email password)
      else refuse "signupMessage".toList (invalidEmail email)

section Social
variable (s : SocialStrategy) (token : JsString) (profile : Profile)

/-- The save of an account that was filled in from a profile. -/
def saveLinked (user : User) : AuthTurn :=
  match s.details profile with
  | none => .stop
  | some d => save (s.link profile.id token d user)

/-- The callback of the lookup; nothing stands between the save of a known user and the last
`done`. -/
def socialFound : Except JsString (Option User) → AuthTurn
  | .error err => done (.error err)
  | .ok none => saveLinked s token profile User.empty
  | .ok (some user) =>
    if truthy (s.account user).token then done (.user user)
    else
      match s.details profile with
      | none => .stop
      | some d =>
        .start (.save (s.relink token d user)) (saved (s.relink token d user))
          (done (.user (s.relink token d user)))

def social (idField : JsString) (req_user : Option User) : AuthTurn :=
  nextTick <|
    match req_user with
    | none => findOne idField profile.id (socialFound s token profile)
    | some user => saveLinked s token profile user

end Social

def turn (req_user : Option User) : AuthCallback → AuthTurn
  | .localLogin email password => localLogin lib email password
  | .localSignup email password => localSignup lib req_user email password
  | .social p token profile => social (p.strategy lib) token profile p.idField req_user

def called (req_user : Option User) (callback : AuthCallback) : AuthLoop :=
  (turn lib req_user callback).run ⟨(), [], []⟩

/-- A user as the session, a lookup or a save that has succeeded has it. -/
def Stored (req_user : Option User) (user : User) (trace : List (Event AuthOp AuthOp.Ans AuthDone)) :
    Prop :=
  req_user = some user ∨
    (∃ field value, .answered (.findOne field value) (.ok (some user)) ∈ trace) ∨
      .answered (.save user) (.ok ()) ∈ trace

/-- Every user that was handed over was stored before. -/
def Backed (req_user : Option User) : List (Event AuthOp AuthOp.Ans AuthDone) → Prop
  | [] => True
  | .emitted (.user user) :: trace => Stored req_user user trace ∧ Backed req_user trace
  | .emitted (.error _) :: trace => Backed req_user trace
  | .emitted (.refused _) :: trace => Backed req_user trace
  | .answered _ _ :: trace => Backed req_user trace

structure ReportsOnce (req_user : Option User) (l : AuthLoop) : Prop where
  once : l.emitted.length ≤ 1
  reported : l.waiting = [] → l.emitted.length = 1
  stored : Backed req_user l.trace

/-- A lookup whose callback leaves nothing to fill in, or fills in a new user. -/
def Settled (s : SocialStrategy) (profile : Profile) : Except JsString (Option User) → Prop
  | .error _ => True
  | .ok (some user) => truthy (s.account user).token
  | .ok none => (s.details profile).isSome

/-- What a callback needs of its input: texts where it takes the lower case or a hash, a profile
with the details that it fills in, and no user that is linked again. -/
def Regular (db : AuthDb) (req_user : Option User) : AuthCallback → Prop
  | .localLogin email password =>
    ∃ s, email = .text s ∧
      (password = .other → s ≠ [] → validateEmail (lib.toLowerCase s) = true →
        ∀ user, db.findOne localEmail (lib.toLowerCase s) ≠ .ok (some user))
  | .localSignup email password =>
    ∃ s, email = .text s ∧
      (password = .other → s ≠ [] → validateEmail (lib.toLowerCase s) = true →
        req_user.all (fun user => !hasLocal user) = true →
          db.findOne localEmail (lib.toLowerCase s) ≠ .ok none)
  | .social p _ profile =>
    match req_user with
    | some _ => ((p.strategy lib).details profile).isSome
    | none => Settled (p.strategy lib) profile (db.findOne p.idField profile.id)

/-- A loop in which nothing was handed over yet and nothing waits. -/
structure Quiet (l : AuthLoop) : Prop where
  waiting : l.waiting = []
  emitted : l.emitted = []

variable {lib} {db : AuthDb} {req_user : Option User} {user : User} {l : AuthLoop}
  {trace : List (Event AuthOp AuthOp.Ans AuthDone)} {op : AuthOp}

theorem backed_of_emitted_nil (req_user : Option User) (h : l.emitted = []) :
    Backed req_user l.trace := by
  obtain ⟨_, _, trace⟩ := l
  induction trace with
  | nil => trivial
  | cons event trace ih =>
    cases event with
    | answered op answer => exact ih h
    | emitted out => cases h

theorem stored_of_found {field value : JsString} {found : Except JsString (Option User)}
    (h : found = .ok (some user)) :
    Stored req_user user (.answered (.findOne field value) found :: trace) := by
  subst h
  exact .inr (.inl ⟨field, value, List.mem_cons_self⟩)

theorem reportsOnce_of_waiting (h : l.emitted = []) (hw : l.waiting ≠ []) :
    ReportsOnce req_user l where
  once := by
    rw [h]
    exact Nat.zero_le 1
  reported hrest := absurd hrest hw
  stored := backed_of_emitted_nil req_user h

theorem not_throughout_saved (user : User) (answer : Except JsString Unit) (h : l.emitted ≠ []) :
    ¬ Throughout db.env (ReportsOnce req_user) ((saved user answer).run l) := by
  intro hall
  have honce := (throughout_iff.1 hall).1.once
  have hlength : ((saved user answer).run l).emitted.length = l.emitted.length + 1 := by
    cases answer <;> rfl
  have hpos := List.length_pos_iff.2 h
  omega

namespace Quiet

theorem answered (h : Quiet l) (op : AuthOp) (answer : op.Ans) :
    Quiet { l with trace := .answered op answer :: l.trace } :=
  ⟨h.waiting, h.emitted⟩

theorem not_throughout_stop (h : Quiet l) :
    ¬ Throughout db.env (ReportsOnce req_user) (Turn.stop.run l) := by
  intro hall
  have hone := (throughout_iff.1 hall).1.reported h.waiting
  rw [Turn.run, h.emitted] at hone
  cases hone

theorem throughout_done (h : Quiet l) (d : AuthDone)
    (hd : ∀ user, d = .user user → Stored req_user user l.trace) :
    Throughout db.env (ReportsOnce req_user) ((done d).run l) := by
  have hwaiting : ((done d).run l).waiting = [] := h.waiting
  have hemitted : ((done d).run l).emitted = [d] := congrArg (d :: ·) h.emitted
  rw [throughout_rest hwaiting]
  refine ⟨?_, fun _ => ?_, ?_⟩
  · rw [hemitted]
    exact Nat.le_refl 1
  · rw [hemitted]
    rfl
  · have hbacked := backed_of_emitted_nil req_user h.emitted
    cases d with
    | user user => exact ⟨hd user rfl, hbacked⟩
    | error | refused => exact hbacked

theorem throughout_start (h : Quiet l) (op : AuthOp) (callback : op.Ans → AuthTurn) :
    Throughout db.env (ReportsOnce req_user) ((Turn.start op callback .stop).run l) ↔
      Throughout db.env (ReportsOnce req_user)
        ((callback (db.env op)).run { l with trace := .answered op (db.env op) :: l.trace }) := by
  have hwaiting : ((Turn.start op callback .stop).run l).waiting = [⟨op, callback⟩] := by
    rw [Turn.run, Turn.run, h.waiting]
    rfl
  have hreports : ReportsOnce req_user ((Turn.start op callback .stop).run l) := by
    apply reportsOnce_of_waiting
    · exact h.emitted
    · rw [hwaiting]
      exact List.cons_ne_nil _ _
  rw [throughout_one hwaiting, and_iff_right hreports, Waiting.turn, Turn.run, Turn.run, h.waiting]

theorem throughout_error (h : Quiet l) (err : JsString) :
    Throughout db.env (ReportsOnce req_user) ((done (.error err)).run l) := by
  apply h.throughout_done
  intro _ huser
  cases huser

theorem throughout_refuse (h : Quiet l) (key text : JsString) :
    Throughout db.env (ReportsOnce req_user) ((refuse key text).run l) := by
  apply h.throughout_done
  intro _ huser
  cases huser

theorem throughout_user (h : Quiet l) (hu : Stored req_user user l.trace) :
    Throughout db.env (ReportsOnce req_user) ((done (.user user)).run l) := by
  apply h.throughout_done
  intro _ huser
  cases huser
  exact hu

theorem throughout_saved (h : Quiet l) (user : User) (answer : Except JsString Unit) :
    Throughout db.env (ReportsOnce req_user)
      ((saved user answer).run { l with trace := .answered (.save user) answer :: l.trace }) := by
  have hanswered := h.answered (.save user) answer
  cases answer with
  | error err => exact hanswered.throughout_error err
  | ok => exact hanswered.throughout_user (.inr (.inr List.mem_cons_self))

theorem throughout_save (h : Quiet l) (user : User) :
    Throughout db.env (ReportsOnce req_user) ((save user).run l) := by
  apply (h.throughout_start (.save user) (saved user)).2
  exact h.throughout_saved user (db.save user)

/-- The user is handed over before the save, and its callback calls `done` again. -/
theorem not_throughout_relink (h : Quiet l) (user : User) :
    ¬ Throughout db.env (ReportsOnce req_user)
      ((Turn.start (.save user) (saved user) (done (.user user))).run l) := by
  intro hall
  have hwaiting : ((Turn.start (.save user) (saved user) (done (.user user))).run l).waiting =
      [⟨.save user, saved user⟩] := by
    change l.waiting ++ [_] = _
    rw [h.waiting]
    rfl
  refine not_throughout_saved user (db.save user) ?_ ((throughout_one hwaiting).1 hall).2
  exact List.cons_ne_nil (AuthDone.user user) l.emitted

/-- A lookup, whose answer is then part of the trace. -/
theorem throughout_findOne (h : Quiet l) (field value : JsString)
    (callback : Except JsString (Option User) → AuthTurn) :
    Throughout db.env (ReportsOnce req_user) ((findOne field value callback).run l) ↔
      Throughout db.env (ReportsOnce req_user) ((callback (db.findOne field value)).run
        { l with trace := .answered (.findOne field value) (db.findOne field value) :: l.trace }) :=
  h.throughout_start (.findOne field value) callback

theorem throughout_nextTick (h : Quiet l) (callback : AuthTurn) :
    Throughout db.env (ReportsOnce req_user) ((nextTick callback).run l) ↔
      Throughout db.env (ReportsOnce req_user)
        (callback.run { l with trace := .answered .nextTick () :: l.trace }) :=
  h.throughout_start .nextTick fun _ => callback

theorem loginFound_iff (h : Quiet l) (password : FormField) (found : Except JsString (Option User))
    (hfound : ∀ user, found = .ok (some user) → Stored req_user user l.trace) :
    Throughout db.env (ReportsOnce req_user) ((loginFound lib password found).run l) ↔
      (password = .other → ∀ user, found ≠ .ok (some user)) := by
  cases found with
  | error err => exact iff_of_true (h.throughout_error err) fun _ _ => nofun
  | ok found =>
    cases found with
    | none => exact iff_of_true (h.throughout_refuse _ _) fun _ _ => nofun
    | some user =>
      cases password with
      | other =>
        exact iff_of_false h.not_throughout_stop fun hnone => hnone rfl user rfl
      | text password =>
        refine iff_of_true ?_ nofun
        simp only [loginFound, generateHash]
        split
        · exact h.throughout_user (hfound user rfl)
        · exact h.throughout_refuse _ _

theorem signupFound_iff (h : Quiet l) (key : JsString) (user : User) (email : JsString)
    (password : FormField) (found : Except JsString (Option User)) :
    Throughout db.env (ReportsOnce req_user)
        ((signupFound lib key user email password found).run l) ↔
      (password = .other → found ≠ .ok none) := by
  cases found with
  | error err => exact iff_of_true (h.throughout_error err) fun _ => nofun
  | ok found =>
    cases found with
    | some taken => exact iff_of_true (h.throughout_refuse _ _) fun _ => nofun
    | none =>
      cases password with
      | other => exact iff_of_false h.not_throughout_stop fun hnone => hnone rfl rfl
      | text password => exact iff_of_true (h.throughout_save _) nofun

theorem saveLinked_iff (h : Quiet l) (s : SocialStrategy) (token : JsString) (profile : Profile)
    (user : User) :
    Throughout db.env (ReportsOnce req_user) ((saveLinked s token profile user).run l) ↔
      (s.details profile).isSome := by
  rw [saveLinked]
  cases s.details profile with
  | none => exact iff_of_false h.not_throughout_stop nofun
  | some d => exact iff_of_true (h.throughout_save _) rfl

theorem socialFound_iff (h : Quiet l) (s : SocialStrategy) (token : JsString) (profile : Profile)
    (found : Except JsString (Option User))
    (hfound : ∀ user, found = .ok (some user) → Stored req_user user l.trace) :
    Throughout db.env (ReportsOnce req_user) ((socialFound s token profile found).run l) ↔
      Settled s profile found := by
  cases found with
  | error err => exact iff_of_true (h.throughout_error err) trivial
  | ok found =>
    cases found with
    | none => exact h.saveLinked_iff s token profile User.empty
    | some user =>
      simp only [socialFound]
      split
      · rename_i htoken
        exact iff_of_true (h.throughout_user (hfound user rfl)) htoken
      · rename_i htoken
        refine iff_of_false ?_ htoken
        split
        · exact h.not_throughout_stop
        · exact h.not_throughout_relink _

theorem localLogin_iff (h : Quiet l) (email password : FormField) :
    Throughout db.env (ReportsOnce req_user) ((localLogin lib email password).run l) ↔
      Regular lib db req_user (.localLogin email password) := by
  cases email with
  | other =>
    refine iff_of_false h.not_throughout_stop ?_
    intro ⟨_, hs, _⟩
    cases hs
  | text s =>
    simp only [Regular, FormField.text.injEq, exists_eq_left', localLogin]
    by_cases hs : s = []
    · rw [if_pos hs]
      exact iff_of_true (h.throughout_refuse _ _) fun _ hne => absurd hs hne
    by_cases hv : validateEmail (lib.toLowerCase s) = true
    · rw [if_neg hs, if_pos hv, h.throughout_nextTick, (h.answered _ _).throughout_findOne,
        ((h.answered _ _).answered _ _).loginFound_iff]
      · exact forall_congr' fun _ => ⟨fun hnone _ _ => hnone, fun hnone => hnone hs hv⟩
      · exact fun user hfound => stored_of_found hfound
    · rw [if_neg hs, if_neg hv]
      exact iff_of_true (h.throughout_refuse _ _) fun _ _ hvalid => absurd hvalid hv

theorem localSignup_iff (h : Quiet l) (email password : FormField) :
    Throughout db.env (ReportsOnce req_user) ((localSignup lib req_user email password).run l) ↔
      Regular lib db req_user (.localSignup email password) := by
  cases email with
  | other =>
    refine iff_of_false h.not_throughout_stop ?_
    intro ⟨_, hs, _⟩
    cases hs
  | text s =>
    simp only [Regular, FormField.text.injEq, exists_eq_left', localSignup]
    by_cases hs : s = []
    · rw [if_pos hs]
      exact iff_of_true (h.throughout_refuse _ _) fun _ hne => absurd hs hne
    by_cases hv : validateEmail (lib.toLowerCase s) = true
    · rw [if_neg hs, if_pos hv, h.throughout_nextTick]
      cases req_user with
      | none =>
        dsimp only
        rw [(h.answered _ _).throughout_findOne, ((h.answered _ _).answered _ _).signupFound_iff]
        exact forall_congr' fun _ => ⟨fun hnone _ _ _ => hnone, fun hnone => hnone hs hv rfl⟩
      | some user =>
        dsimp only
        by_cases hlocal : hasLocal user = true
        · rw [if_pos hlocal]
          refine iff_of_true ((h.answered _ _).throughout_user (.inl rfl)) ?_
          intro _ _ _ hall
          rw [Option.all_some, hlocal] at hall
          cases hall
        · rw [if_neg hlocal, (h.answered _ _).throughout_findOne,
            ((h.answered _ _).answered _ _).signupFound_iff]
          have hall : (some user).all (fun user => !hasLocal user) = true := by
            rw [Option.all_some, Bool.eq_false_of_not_eq_true hlocal]
            rfl
          exact forall_congr' fun _ => ⟨fun hnone _ _ _ => hnone, fun hnone => hnone hs hv hall⟩
    · rw [if_neg hs, if_neg hv]
      exact iff_of_true (h.throughout_refuse _ _) fun _ _ hvalid => absurd hvalid hv

theorem social_iff (h : Quiet l) (p : Provider) (token : JsString) (profile : Profile) :
    Throughout db.env (ReportsOnce req_user)
        ((social (p.strategy lib) token profile p.idField req_user).run l) ↔
      Regular lib db req_user (.social p token profile) := by
  unfold social
  rw [h.throughout_nextTick]
  cases req_user with
  | none =>
    dsimp only
    rw [(h.answered _ _).throughout_findOne, ((h.answered _ _).answered _ _).socialFound_iff]
    · rfl
    · exact fun user hfound => stored_of_found hfound
  | some user => exact (h.answered _ _).saveLinked_iff _ token profile user

end Quiet

/-- A strategy calls `done` once, and with a user that is stored, whatever the database answers,
exactly when it can read its input and does not link a user again. -/
theorem reportsOnce_iff (lib : FrontEndLib) (db : AuthDb) (req_user : Option User)
    (callback : AuthCallback) :
    Throughout db.env (ReportsOnce req_user) (called lib req_user callback) ↔
      Regular lib db req_user callback := by
  have hquiet : Quiet ⟨(), [], []⟩ := ⟨rfl, rfl⟩
  cases callback with
  | localLogin email password => exact hquiet.localLogin_iff email password
  | localSignup email password => exact hquiet.localSignup_iff email password
  | social p token profile => exact hquiet.social_iff p token profile

/-- A user who took the Facebook account out again. -/
def unlinkedUser : User := { User.empty with facebook := ⟨some "7".toList, none, none⟩ }

/-- The one document, when all saves succeed. -/
def unlinkedDb : AuthDb where
  findOne _ _ := .ok (some unlinkedUser)
  save _ := .ok ()

theorem not_reportsOnce_unlinked :
    ¬ Throughout unlinkedDb.env (ReportsOnce none)
      (called .plain none (.social .facebook "t2".toList SocialAccounts.aliceProfile)) := by
  intro h
  have hsaved := h _ (.tail (.tail (.tail .refl (.answer [] [] _ rfl)) (.answer [] [] _ rfl))
    (.answer [] [] _ rfl))
  exact Nat.not_succ_le_self 1 hsaved.once

/-- A database of some documents, of which a lookup finds the first one with the key, and in which
every save succeeds. -/
structure Serves (db : AuthDb) (users : List User) (field : JsString) (keys : User → List JsString) :
    Prop where
  findOne : ∀ value, db.findOne field value =
    .ok ((Documents.findOne keys users value).bind fun place => users[place]?)
  save : ∀ user, db.save user = .ok ()

/-- A call of `done` that says what was done with the documents. -/
def Tells (r : List User × Authenticated) : AuthDone → Prop
  | .error _ => False
  | .refused flash => r.2 = .refused flash
  | .user user => ∃ place, r.2 = .user place ∧ r.1[place]? = some user

variable {P : AuthDone → Prop} {users : List User} {field : JsString} {keys : User → List JsString}

theorem emits_done {d : AuthDone} (h : P d) : (done d).Emits db.env P := ⟨h, trivial⟩

theorem emits_save (hdb : Serves db users field keys) (h : P (.user user)) :
    (save user).Emits db.env P := by
  refine ⟨?_, trivial⟩
  change (saved user (db.save user)).Emits db.env P
  rw [hdb.save]
  exact emits_done h

theorem emits_findOne (hdb : Serves db users field keys) {value : JsString}
    {callback : Except JsString (Option User) → AuthTurn}
    (hnone : Documents.findOne keys users value = none → (callback (.ok none)).Emits db.env P)
    (hsome : ∀ place user, Documents.findOne keys users value = some place →
      users[place]? = some user → (callback (.ok (some user))).Emits db.env P) :
    (findOne field value callback).Emits db.env P := by
  refine ⟨?_, trivial⟩
  change (callback (db.findOne field value)).Emits db.env P
  rw [hdb.findOne]
  cases hfind : Documents.findOne keys users value with
  | none => exact hnone hfind
  | some place =>
    obtain ⟨user, huser, _⟩ := Documents.hasKey_of_findOne hfind
    rw [Option.bind_some, huser]
    exact hsome place user hfind huser

theorem throughout_called {callback : AuthCallback}
    (h : (turn lib req_user callback).Emits db.env P) :
    Throughout db.env (fun l => ∀ d ∈ l.emitted, P d) (called lib req_user callback) := by
  have hstart : EmitsOnly db.env P (⟨(), [], []⟩ : AuthLoop) := by
    constructor
    · intro _ hd
      cases hd
    · intro _ hw
      cases hw
  exact (hstart.run _ h).throughout

/-- The sign-up of a text tells what it does to the documents. -/
theorem localSignup_tells (hdb : Serves db users localEmail User.emails) {req_user : Option Nat}
    (hreq : ∀ place, req_user = some place → place < users.length) (email password : JsString) :
    Throughout db.env
      (fun l => ∀ d ∈ l.emitted,
        Tells (SiteOnYourDevice.localSignup lib req_user email password users) d)
      (called lib (req_user.bind fun place => users[place]?)
        (.localSignup (.text email) (.text password))) := by
  apply throughout_called
  simp only [turn, localSignup, SiteOnYourDevice.localSignup]
  by_cases hs : email = []
  · simp only [if_pos hs]
    exact emits_done rfl
  by_cases hv : validateEmail (lib.toLowerCase email) = true
  · simp only [if_neg hs, if_pos hv]
    refine ⟨?_, trivial⟩
    cases req_user with
    | none =>
      apply emits_findOne hdb
      · intro hfind
        apply emits_save hdb
        rw [hfind]
        exact ⟨_, rfl, List.getElem?_concat_length⟩
      · intro place user hfind _
        rw [hfind]
        exact emits_done rfl
    | some place =>
      obtain ⟨user, huser⟩ : ∃ user, users[place]? = some user :=
        ⟨_, List.getElem?_eq_getElem (hreq place rfl)⟩
      have hany : (users[place]?.any fun u => u.local_.email.any (· ≠ [])) = hasLocal user := by
        rw [huser]
        rfl
      rw [Option.bind_some]
      simp only [hany]
      rw [huser]
      dsimp only
      by_cases hlocal : hasLocal user = true
      · rw [if_pos hlocal, if_pos hlocal]
        exact emits_done ⟨place, rfl, huser⟩
      · rw [if_neg hlocal, if_neg hlocal]
        apply emits_findOne hdb
        · intro hfind
          apply emits_save hdb
          rw [hfind]
          refine ⟨place, rfl, ?_⟩
          rw [List.getElem?_modify_eq, huser]
          rfl
        · intro _ _ hfind _
          rw [hfind]
          exact emits_done rfl
  · simp only [if_neg hs, if_neg hv]
    exact emits_done rfl

theorem emits_saveLinked (hdb : Serves db users field keys) {s : SocialStrategy}
    {token : JsString} {profile : Profile}
    (h : ∀ d, s.details profile = some d → P (.user (s.link profile.id token d user))) :
    (saveLinked s token profile user).Emits db.env P := by
  rw [saveLinked]
  cases hd : s.details profile with
  | none => trivial
  | some d => exact emits_save hdb (h d hd)

/-- The callback of a provider tells what `SocialStrategy.callback` does to the documents. -/
theorem social_tells {p : Provider} (hdb : Serves db users p.idField p.ids)
    {req_user : Option Nat} (hreq : ∀ place, req_user = some place → place < users.length)
    (token : JsString) (profile : Profile) :
    Throughout db.env
      (fun l => ∀ d ∈ l.emitted,
        ∃ r, (p.strategy lib).callback req_user token profile users = some r ∧
          Tells (r.1, .user r.2) d)
      (called lib (req_user.bind fun place => users[place]?) (.social p token profile)) := by
  apply throughout_called
  rw [turn]
  refine ⟨?_, trivial⟩
  cases req_user with
  | none =>
    apply emits_findOne hdb
    · intro hfind
      apply emits_saveLinked hdb
      intro d hd
      refine ⟨(users ++ [_], users.length), ?_, _, rfl, List.getElem?_concat_length⟩
      simp only [SocialStrategy.callback, SocialAccounts.ids_strategy, hfind, hd, Option.map_some]
    · intro place user hfind huser
      rw [socialFound]
      split
      · rename_i htoken
        refine emits_done ⟨(users, place), ?_, place, rfl, huser⟩
        simp only [SocialStrategy.callback, SocialAccounts.ids_strategy, hfind, huser,
          Option.any_some, if_pos htoken]
      · rename_i htoken
        cases hd : (p.strategy lib).details profile with
        | none => trivial
        | some d =>
          have htells : ∃ r, (p.strategy lib).callback none token profile users = some r ∧
              Tells (r.1, .user r.2) (.user ((p.strategy lib).relink token d user)) := by
            refine ⟨(users.modify place ((p.strategy lib).relink token d), place), ?_, place, rfl, ?_⟩
            · simp only [SocialStrategy.callback, SocialAccounts.ids_strategy, hfind, huser,
                Option.any_some, if_neg htoken, hd, Option.map_some]
            · rw [List.getElem?_modify_eq, huser]
              rfl
          exact ⟨(emits_save hdb htells).1, emits_done htells⟩
  | some place =>
    have hlt := hreq place rfl
    obtain ⟨user, huser⟩ : ∃ user, users[place]? = some user :=
      ⟨_, List.getElem?_eq_getElem hlt⟩
    rw [Option.bind_some, huser]
    apply emits_saveLinked hdb
    intro d hd
    refine ⟨(users.modify place ((p.strategy lib).link profile.id token d), place), ?_, place, rfl, ?_⟩
    · simp only [SocialStrategy.callback, if_pos hlt, hd, Option.map_some]
    · rw [List.getElem?_modify_eq, huser]
      rfl

end Passport

end SiteOnYourDevice
