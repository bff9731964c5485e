import SiteOnYourDevice.ValidateEmail
import SiteOnYourDevice.Documents

namespace SiteOnYourDevice
open Documents
set_option relaxedAutoImplicit false
set_option autoImplicit true

/-- What the front end uses of the language and of `crypto`. -/
structure FrontEndLib where
  toLowerCase : JsString → JsString
  md5hex : JsString → JsString

/-- Lower case for ASCII, and a hash that shows the password. -/
def FrontEndLib.plain : FrontEndLib := ⟨fun s => s.map Char.toLower, fun s => '#' :: s⟩

structure LocalAccount where
  email : Option JsString
  password : Option JsString
deriving DecidableEq

/-- An account with a provider; what is shown of it is always set together. -/
structure SocialAccount (Details : Type) where
  id : Option JsString
  token : Option JsString
  details : Option Details
deriving DecidableEq

structure MailDetails where
  email : JsString
  name : Option JsString
deriving DecidableEq

structure TwitterDetails where
  displayName : Option JsString
  username : Option JsString
deriving DecidableEq

structure Domain where
  _id : Nat
  name : JsString
  created_date : JsString
deriving DecidableEq

/-- A document of `userSchema`. Its id is its place among the documents: none is ever removed. -/
structure User where
  local_ : LocalAccount
  facebook : SocialAccount MailDetails
  twitter : SocialAccount TwitterDetails
  google : SocialAccount MailDetails
  domains : List Domain
deriving DecidableEq

namespace User

/-- `new User()`. -/
def empty : User := ⟨⟨none, none⟩, ⟨none, none, none⟩, ⟨none, none, none⟩, ⟨none, none, none⟩, []⟩

def generateHash (lib : FrontEndLib) (password : JsString) : JsString := lib.md5hex password

def emails (u : User) : List JsString := u.local_.email.toList

def domainNames (u : User) : List JsString := u.domains.map (·.name)

/-- `user.domains.push`, in memory and as the change that a save sends. -/
def pushDomain (d : Domain) (u : User) : User := { u with domains := u.domains ++ [d] }

/-- `user.domains.pull({_id : id})`, in memory and as the change that a save sends. -/
def pullDomain (id : Nat) (u : User) : User :=
  { u with domains := u.domains.filter fun d => d._id ≠ id }

def setLocal (a : LocalAccount) (u : User) : User := { u with local_ := a }

theorem domainNames_pushDomain (d : Domain) (u : User) :
    (u.pushDomain d).domainNames = u.domainNames ++ [d.name] := by
  rw [domainNames, pushDomain, List.map_append]
  rfl

theorem domainNames_pullDomain (id : Nat) (u : User) :
    (u.pullDomain id).domainNames.Sublist u.domainNames :=
  List.filter_sublist.map _

theorem mem_emails {u : User} {e : JsString} : e ∈ u.emails ↔ u.local_.email = some e :=
  Option.mem_toList

end User

/-- What a strategy tells passport: a refusal with its flash message, or the user. -/
inductive Authenticated
  | refused (flash : JsString × JsString)
  | user (place : Nat)
deriving DecidableEq

variable (lib : FrontEndLib)

/-- The strategy `local-signup`, with the user of the session, if there is one. -/
def localSignup (req_user : Option Nat) (email password : JsString) (users : List User) :
    List User × Authenticated :=
  if email = [] then (users, .refused ("signupMessage".toList, "Invalid input.".toList))
  else
    let email := lib.toLowerCase email
    if validateEmail email then
      let account : LocalAccount := ⟨some email, some (User.generateHash lib password)⟩
      match req_user with
      | none =>
        match findOne User.emails users email with
        | some _ =>
          (users, .refused ("signupMessage".toList, "That email is already taken.".toList))
        | none => (users ++ [User.empty.setLocal account], .user users.length)
      | some place =>
        if users[place]?.any fun u => u.local_.email.any (· ≠ []) then (users, .user place)
        else
          match findOne User.emails users email with
          | some _ =>
            (users, .refused ("loginMessage".toList, "That email is already taken.".toList))
          | none => (users.modify place (User.setLocal account), .user place)
    else (users, .refused ("signupMessage".toList, "Invalid email ".toList ++ email ++ ['.']))

/-- What a sign-up does to the documents. -/
inductive SignedUp (users : List User) (req_user : Option Nat) : List User → Prop
  | same : SignedUp users req_user users
  | created (email password : JsString) (hu : req_user = none)
      (hv : validateEmail email = true) (hnew : ∀ i, ¬ HasKey User.emails users i email) :
      SignedUp users req_user (users ++ [User.empty.setLocal ⟨some email, some password⟩])
  | connected (place : Nat) (email password : JsString) (hu : req_user = some place)
      (hv : validateEmail email = true)
      (hread : ∀ u, users[place]? = some u → ∀ e, u.local_.email = some e → e = [])
      (hnew : ∀ i, ¬ HasKey User.emails users i email) :
      SignedUp users req_user
        (users.modify place (User.setLocal ⟨some email, some password⟩))

theorem localSignup_cases (req_user : Option Nat) (email password : JsString)
    (users : List User) :
    SignedUp users req_user (localSignup lib req_user email password users).1 := by
  rw [localSignup]
  split
  · exact .same
  dsimp only
  split
  · rename_i hv
    cases req_user with
    | none =>
      dsimp only
      split
      · exact .same
      · rename_i hf
        exact .created _ _ rfl hv (findOne_eq_none.1 hf)
    | some place =>
      dsimp only
      split
      · exact .same
      rename_i hread
      split
      · exact .same
      · rename_i hf
        refine .connected place _ _ rfl hv ?_ (findOne_eq_none.1 hf)
        intro u hu e he
        by_contra hne
        apply hread
        rw [hu, Option.any_some, he, Option.any_some]
        exact decide_eq_true hne
  · exact .same

end SiteOnYourDevice
