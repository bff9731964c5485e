import SiteOnYourDevice.EventLoop
import SiteOnYourDevice.ValidateEmail

namespace SiteOnYourDevice
open CString EventLoop
set_option relaxedAutoImplicit false
set_option autoImplicit true

inductive FsOp
  | readdir (dir : JsString)
  | stat (file : JsString)

/-- What `stat` says is whether the entry is a directory. -/
def FsOp.Ans : FsOp → Type
  | readdir _ => Except JsString (List JsString)
  | stat _ => Except JsString Bool

/-- The answers of `fs`, and `path.resolve`. -/
structure Fs where
  readdir : JsString → Except JsString (List JsString)
  stat : JsString → Except JsString Bool
  resolve : JsString → JsString → JsString

/-- An element of `builded_packages`. -/
structure Package where
  path : JsString
  file_name : JsString
deriving DecidableEq

/-- The variables that the callbacks of one `walk` share. -/
structure WalkState where
  pending : Int
  results : List Package
deriving DecidableEq

/-- The arguments of `done`. -/
structure WalkDone where
  err : Option JsString
  results : List Package
deriving DecidableEq

/-- `s.replace(pattern, '')`. -/
def removeFirst (pattern s : JsString) : JsString :=
  match strstr pattern s with
  | some (before, rest) => before ++ rest.drop pattern.length
  | none => s

namespace Fs
variable (fs : Fs) (public_directory dir : JsString)

def env : ∀ op : FsOp, op.Ans
  | .readdir dir => fs.readdir dir
  | .stat file => fs.stat file

abbrev WalkTurn := Turn FsOp FsOp.Ans WalkState WalkDone

abbrev WalkLoop := Loop FsOp FsOp.Ans WalkState WalkDone

def package (file_name : JsString) : Package :=
  ⟨removeFirst public_directory (fs.resolve dir file_name), file_name⟩

/-- The callback of `fs.stat`. -/
def statted (file_name : JsString) : Except JsString Bool → WalkTurn
  | .ok true => .stop
  | .ok false | .error _ =>
    .update (fun s => { s with results := s.results ++ [fs.package public_directory dir file_name] })
      (.update (fun s => { s with pending := s.pending - 1 })
        (.read fun s => if s.pending = 0 then .emit ⟨none, s.results⟩ .stop else .stop))

def forEach : List JsString → WalkTurn
  | [] => .stop
  | file :: list =>
    .start (.stat (fs.resolve dir file)) (fs.statted public_directory dir file) (forEach list)

/-- The callback of `fs.readdir`. -/
def listed : Except JsString (List JsString) → WalkTurn
  | .error err => .emit ⟨some err, []⟩ .stop
  | .ok list =>
    .update (fun s => { s with pending := list.length })
      (.read fun s =>
        if s.pending = 0 then .emit ⟨none, s.results⟩ .stop
        else fs.forEach public_directory dir list)

def walk : WalkTurn := .start (.readdir dir) (fs.listed public_directory dir) .stop

/-- The loop behind the call of `walk`. -/
def walked : WalkLoop := (fs.walk public_directory dir).run ⟨⟨0, []⟩, [], []⟩

def entries : List JsString :=
  match fs.readdir dir with
  | .ok list => list
  | .error _ => []

def isDirectory (file_name : JsString) : Bool :=
  match fs.stat (fs.resolve dir file_name) with
  | .ok isDirectory => isDirectory
  | .error _ => false

/-- What was read so far of some entries. -/
def packages (gone : List JsString) : List Package :=
  (gone.filter fun file => !fs.isDirectory dir file).map (fs.package public_directory dir)

def readError : Option JsString :=
  match fs.readdir dir with
  | .ok _ => none
  | .error err => some err

/-- `done` is called once, behind the last callback, with every entry that is no directory. -/
structure Completes (l : WalkLoop) : Prop where
  once : l.emitted.length ≤ 1
  last : l.emitted ≠ [] → l.waiting = []
  result : l.waiting = [] → ∃ results, l.emitted = [⟨fs.readError dir, results⟩] ∧
    results.Perm (fs.packages public_directory dir (fs.entries dir))

def waiting (file : JsString) : Waiting FsOp FsOp.Ans WalkState WalkDone :=
  ⟨.stat (fs.resolve dir file), fs.statted public_directory dir file⟩

/-- Behind some callbacks of `fs.stat`, in the order in which they came. -/
structure Scanned (list gone left : List JsString) (l : WalkLoop) : Prop where
  perm : (gone ++ left).Perm list
  waiting : l.waiting = left.map (fs.waiting public_directory dir)
  results : l.shared.results = fs.packages public_directory dir gone
  pending : l.shared.pending + (fs.packages public_directory dir gone).length = list.length
  emitted : l.emitted =
    if (fs.packages public_directory dir gone).length = list.length then [⟨none, l.shared.results⟩]
    else []

variable {fs} {public_directory dir} {list gone left right : List JsString} {file : JsString}
  {l l' : WalkLoop}

theorem packages_append (gone left : List JsString) :
    fs.packages public_directory dir (gone ++ left) =
      fs.packages public_directory dir gone ++ fs.packages public_directory dir left := by
  rw [packages, List.filter_append, List.map_append]
  rfl

theorem packages_perm (fs : Fs) (public_directory dir : JsString) (h : gone.Perm list) :
    (fs.packages public_directory dir gone).Perm (fs.packages public_directory dir list) :=
  (h.filter _).map _

theorem length_packages_le (fs : Fs) (public_directory dir : JsString) (gone : List JsString) :
    (fs.packages public_directory dir gone).length ≤ gone.length := by
  rw [packages, List.length_map]
  exact List.length_filter_le _ _

theorem length_packages_eq :
    (fs.packages public_directory dir gone).length = gone.length ↔
      ∀ file ∈ gone, fs.isDirectory dir file = false := by
  rw [packages, List.length_map, List.length_filter_eq_length_iff]
  simp only [Bool.not_eq_true']

theorem forEach_run (list : List JsString) (l : WalkLoop) :
    (fs.forEach public_directory dir list).run l =
      { l with waiting := l.waiting ++ list.map (fs.waiting public_directory dir) } := by
  induction list generalizing l with
  | nil =>
    rw [List.map_nil, List.append_nil]
    rfl
  | cons file list ih =>
    exact (ih _).trans (by rw [List.append_assoc, List.map_cons]; rfl)

theorem isDirectory_iff :
    fs.isDirectory dir file = true ↔ fs.stat (fs.resolve dir file) = .ok true := by
  rw [isDirectory]
  split
  · rename_i isDirectory hstat
    rw [hstat, Except.ok.injEq]
  · rename_i hstat
    rw [hstat]
    exact ⟨nofun, nofun⟩

/-- What is no directory, or cannot be read, is an entry of the list. -/
theorem statted_run {answer : Except JsString Bool} (h : answer ≠ .ok true) (l : WalkLoop) :
    (fs.statted public_directory dir file answer).run l =
      let s : WalkState :=
        ⟨l.shared.pending - 1, l.shared.results ++ [fs.package public_directory dir file]⟩
      { l with
        shared := s
        trace := if s.pending = 0 then .emitted ⟨none, s.results⟩ :: l.trace else l.trace } := by
  have hsame : fs.statted public_directory dir file answer =
      fs.statted public_directory dir file (.ok false) := by
    cases answer with
    | ok isDirectory =>
      cases isDirectory with
      | true => exact absurd rfl h
      | false => rfl
    | error err => rfl
  rw [hsame]
  simp only [statted, Turn.run]
  split <;> rfl

namespace Scanned

theorem start (hlist : list ≠ []) (h : l.waiting = list.map (fs.waiting public_directory dir))
    (hshared : l.shared = ⟨list.length, []⟩) (hemitted : l.emitted = []) :
    fs.Scanned public_directory dir list [] list l where
  perm := .refl list
  waiting := h
  results := by
    rw [hshared]
    rfl
  pending := by
    rw [hshared]
    exact Int.add_zero _
  emitted := by
    rw [hemitted, if_neg]
    exact fun heq => hlist (List.eq_nil_of_length_eq_zero heq.symm)

theorem perm_move (h : fs.Scanned public_directory dir list gone (left ++ file :: right) l) :
    (gone ++ [file] ++ (left ++ right)).Perm list := by
  have hmiddle : (file :: (left ++ right)).Perm (left ++ file :: right) := List.perm_middle.symm
  rw [List.append_assoc]
  exact (hmiddle.append_left gone).trans h.perm

theorem turn_directory (h : fs.Scanned public_directory dir list gone (left ++ file :: right) l)
    (hdir : fs.isDirectory dir file = true)
    (hturn : l'.shared = l.shared ∧ l'.emitted = l.emitted)
    (hw : l'.waiting = (left ++ right).map (fs.waiting public_directory dir)) :
    fs.Scanned public_directory dir list (gone ++ [file]) (left ++ right) l' := by
  have hsame : fs.packages public_directory dir (gone ++ [file]) =
      fs.packages public_directory dir gone := by
    simp [packages, hdir]
  refine ⟨?_, hw, ?_, ?_, ?_⟩
  · exact h.perm_move
  · rw [hsame, hturn.1]
    exact h.results
  · rw [hsame, hturn.1]
    exact h.pending
  · rw [hsame, hturn.1, hturn.2]
    exact h.emitted

theorem turn_file (h : fs.Scanned public_directory dir list gone (left ++ file :: right) l)
    (hdir : fs.isDirectory dir file = false)
    (hshared : l'.shared =
      ⟨l.shared.pending - 1, l.shared.results ++ [fs.package public_directory dir file]⟩)
    (hemitted : l'.emitted =
      if l'.shared.pending = 0 then ⟨none, l'.shared.results⟩ :: l.emitted else l.emitted)
    (hw : l'.waiting = (left ++ right).map (fs.waiting public_directory dir)) :
    fs.Scanned public_directory dir list (gone ++ [file]) (left ++ right) l' := by
  have hone : fs.packages public_directory dir (gone ++ [file]) =
      fs.packages public_directory dir gone ++ [fs.package public_directory dir file] := by
    simp [packages, hdir]
  have hlt : (fs.packages public_directory dir gone).length < list.length := by
    have hle := length_packages_le fs public_directory dir gone
    have hlength := h.perm.length_eq
    simp only [List.length_append, List.length_cons] at hlength
    omega
  have hpending := h.pending
  refine ⟨?_, hw, ?_, ?_, ?_⟩
  · exact h.perm_move
  · rw [hone, hshared, h.results]
  · rw [hone, hshared, List.length_append, List.length_singleton]
    push_cast
    omega
  · have hbefore := h.emitted
    rw [if_neg (Nat.ne_of_lt hlt)] at hbefore
    rw [hemitted, hbefore, hone, List.length_append, List.length_singleton]
    apply if_congr _ rfl rfl
    rw [hshared]
    dsimp only
    omega

/-- The callback of an entry. -/
theorem turn (h : fs.Scanned public_directory dir list gone (left ++ file :: right) l) :
    fs.Scanned public_directory dir list (gone ++ [file]) (left ++ right)
      ((fs.waiting public_directory dir file).turn fs.env
        { l with waiting := (left ++ right).map (fs.waiting public_directory dir) }) := by
  have hcallback : (fs.waiting public_directory dir file).callback
      (fs.env (fs.waiting public_directory dir file).op) =
        fs.statted public_directory dir file (fs.stat (fs.resolve dir file)) := rfl
  rw [Waiting.turn, hcallback]
  by_cases hdir : fs.isDirectory dir file = true
  · rw [isDirectory_iff.1 hdir]
    exact h.turn_directory hdir ⟨rfl, rfl⟩ rfl
  · rw [statted_run fun hstat => hdir (isDirectory_iff.2 hstat)]
    apply h.turn_file (Bool.eq_false_of_not_eq_true hdir) rfl ?_ rfl
    dsimp only
    split <;> rfl

theorem step (h : fs.Scanned public_directory dir list gone left l) (hs : Step fs.env l l') :
    ∃ gone' left', fs.Scanned public_directory dir list gone' left' l' := by
  cases hs with
  | answer before after w hw =>
    rw [h.waiting, List.map_eq_append_iff] at hw
    obtain ⟨before, rest, rfl, rfl, hrest⟩ := hw
    obtain ⟨file, after, rfl, rfl, rfl⟩ := List.map_eq_cons_iff.1 hrest
    rw [← List.map_append]
    exact ⟨_, _, h.turn⟩

/-- Every entry counts when none is a directory. -/
theorem completes (h : fs.Scanned public_directory dir list gone left l)
    (hread : fs.readdir dir = .ok list) (hfiles : ∀ file ∈ list, fs.isDirectory dir file = false) :
    fs.Completes public_directory dir l := by
  have herror : fs.readError dir = none := by
    rw [readError, hread]
  have hentries : fs.entries dir = list := by
    rw [entries, hread]
  have hlength := h.perm.length_eq
  rw [List.length_append] at hlength
  have hcount : (fs.packages public_directory dir gone).length = gone.length := by
    rw [length_packages_eq]
    exact fun file hfile => hfiles file (h.perm.subset (List.mem_append_left _ hfile))
  have hemitted := h.emitted
  rw [hcount] at hemitted
  refine ⟨?_, fun hne => ?_, fun hrest => ⟨l.shared.results, ?_, ?_⟩⟩
  · rw [hemitted]
    split
    · exact Nat.le_refl 1
    · exact Nat.zero_le 1
  · have hgone : gone.length = list.length := by
      by_contra hlt
      exact hne (hemitted.trans (if_neg hlt))
    have hleft : left = [] := List.eq_nil_of_length_eq_zero (by omega)
    rw [h.waiting, hleft, List.map_nil]
  · have hleft : left = [] := List.map_eq_nil_iff.1 (h.waiting.symm.trans hrest)
    rw [hleft, List.length_nil, Nat.add_zero] at hlength
    rw [hemitted, if_pos hlength, herror]
  · have hleft : left = [] := List.map_eq_nil_iff.1 (h.waiting.symm.trans hrest)
    have hperm := h.perm
    rw [hleft, List.append_nil] at hperm
    rw [h.results, hentries]
    exact packages_perm fs public_directory dir hperm

/-- The counter does not get to zero when an entry is a directory. -/
theorem silent (h : fs.Scanned public_directory dir list gone left l)
    (hdir : ¬ ∀ file ∈ list, fs.isDirectory dir file = false) : l.emitted = [] := by
  rw [h.emitted, if_neg]
  intro hcount
  apply hdir
  rw [← length_packages_eq]
  apply Nat.le_antisymm (length_packages_le fs public_directory dir list)
  have hperm := (packages_perm fs public_directory dir h.perm).length_eq
  rw [packages_append, List.length_append] at hperm
  omega

end Scanned

/-- A list that is not empty is gone through. -/
theorem listed_run (fs : Fs) (public_directory dir : JsString) (hlist : list ≠ [])
    {trace : List (Event FsOp FsOp.Ans WalkDone)}
    (hemitted : Loop.emitted ⟨WalkState.mk 0 [], [], trace⟩ = []) :
    fs.Scanned public_directory dir list [] list
      ((fs.listed public_directory dir (.ok list)).run ⟨⟨0, []⟩, [], trace⟩) := by
  have hpending : ¬ (list.length : Int) = 0 := by
    rw [Int.natCast_eq_zero, List.length_eq_zero_iff]
    exact hlist
  simp only [listed, Turn.run, if_neg hpending, forEach_run]
  exact .start hlist rfl rfl hemitted

theorem completes_of_no_entries (hentries : fs.entries dir = []) (hrest : l.waiting = [])
    (hemitted : l.emitted = [⟨fs.readError dir, []⟩]) : fs.Completes public_directory dir l where
  once := by
    rw [hemitted]
    exact Nat.le_refl 1
  last _ := hrest
  result _ := by
    rw [hentries]
    exact ⟨[], hemitted, .refl _⟩

theorem scanned_iff (hread : fs.readdir dir = .ok list)
    (h : fs.Scanned public_directory dir list gone left l) :
    Throughout fs.env (fs.Completes public_directory dir) l ↔
      ∀ file ∈ list, fs.isDirectory dir file = false := by
  have hinvariant (l' : WalkLoop) (hruns : Runs fs.env l l') :
      ∃ gone' left', fs.Scanned public_directory dir list gone' left' l' := by
    have hall : Throughout fs.env
        (fun l => ∃ gone' left', fs.Scanned public_directory dir list gone' left' l) l :=
      throughout_of_invariant ⟨gone, left, h⟩ (fun _ _ ⟨_, _, hl⟩ hs => hl.step hs) fun _ hl => hl
    exact hall l' hruns
  constructor
  · intro hall
    by_contra hdir
    obtain ⟨l', hruns, hrest⟩ := exists_rest fs.env l
    obtain ⟨_, _, hl'⟩ := hinvariant l' hruns
    obtain ⟨_, hemitted, _⟩ := (hall l' hruns).result hrest
    rw [hl'.silent hdir] at hemitted
    cases hemitted
  · intro hfiles l' hruns
    obtain ⟨_, _, hl'⟩ := hinvariant l' hruns
    exact hl'.completes hread hfiles

/-- `walk` calls `done` once, behind all callbacks and with every entry that is no directory, in
every order of the callbacks, exactly when no entry is a directory. -/
theorem completes_iff (fs : Fs) (public_directory dir : JsString) :
    Throughout fs.env (fs.Completes public_directory dir) (fs.walked public_directory dir) ↔
      ∀ file ∈ fs.entries dir, fs.isDirectory dir file = false := by
  have hstart : fs.Completes public_directory dir (fs.walked public_directory dir) :=
    ⟨Nat.zero_le 1, fun hne => absurd rfl hne, nofun⟩
  rw [throughout_one rfl, and_iff_right hstart]
  change Throughout fs.env (fs.Completes public_directory dir)
    ((fs.listed public_directory dir (fs.readdir dir)).run
      ⟨⟨0, []⟩, [], [.answered (.readdir dir) _]⟩) ↔ _
  cases hread : fs.readdir dir with
  | error err =>
    have hentries : fs.entries dir = [] := by
      rw [entries, hread]
    have herror : fs.readError dir = some err := by
      rw [readError, hread]
    rw [throughout_rest rfl, hentries]
    refine ⟨fun _ => nofun, fun _ => completes_of_no_entries hentries rfl ?_⟩
    rw [herror]
    rfl
  | ok list =>
    have hentries : fs.entries dir = list := by
      rw [entries, hread]
    have herror : fs.readError dir = none := by
      rw [readError, hread]
    rw [hentries]
    by_cases hlist : list = []
    · subst hlist
      rw [throughout_rest rfl]
      refine ⟨fun _ => nofun, fun _ => completes_of_no_entries hentries rfl ?_⟩
      rw [herror]
      rfl
    · exact scanned_iff hread (listed_run fs public_directory dir hlist rfl)

/-- One package, and a directory beside it. -/
def oldBuilds : Fs where
  readdir _ := .ok ["site.deb".toList, "old".toList]
  stat file := .ok (file = "/srv/users/old".toList)
  resolve dir file := dir ++ '/' :: file

/-- `done` is not called, whichever callback comes first. -/
theorem not_completes_oldBuilds :
    ¬ Throughout oldBuilds.env (oldBuilds.Completes "/srv".toList "/srv/users".toList)
      (oldBuilds.walked "/srv".toList "/srv/users".toList) := by
  intro h
  have hlisted := (throughout_one rfl).1 h
  have hold := hlisted.2 _ (.tail (.single (.answer [] [_] _ rfl)) (.answer [] [] _ rfl))
  obtain ⟨_, hemitted, _⟩ := hold.result rfl
  exact nomatch hemitted

end Fs

end SiteOnYourDevice
