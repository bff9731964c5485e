import SiteOnYourDevice.CString
import Mathlib.Tactic.MkIffOfInductiveProp

namespace IniFile
open CString
set_option relaxedAutoImplicit false
set_option autoImplicit true

/-- A file that was opened without truncation, and the place of the next write. -/
structure File where
  content : Str
  position : Nat

namespace File

/-- The bytes from the place of the write on are overwritten. -/
def Write (f : File) (data : Str) : File :=
  ⟨f.content.take f.position ++ data ++ f.content.drop (f.position + data.length),
    f.position + data.length⟩

theorem write_at (done left data : Str) :
    Write ⟨done ++ left, done.length⟩ data =
      ⟨(done ++ data) ++ left.drop data.length, (done ++ data).length⟩ := by
  rw [Write, List.take_left, List.drop_append, List.drop_of_length_le (Nat.le_add_right _ _),
    Nat.add_sub_cancel_left, List.nil_append, List.length_append]

theorem foldl_write (writes : List Str) (done left : Str) :
    writes.foldl Write ⟨done ++ left, done.length⟩ =
      ⟨(done ++ writes.flatten) ++ left.drop writes.flatten.length,
        (done ++ writes.flatten).length⟩ := by
  induction writes generalizing done left with
  | nil => simp only [List.foldl_nil, List.flatten_nil, List.append_nil, List.length_nil,
      List.drop_zero]
  | cons data writes ih =>
    rw [List.foldl_cons, write_at, ih, List.drop_drop, List.flatten_cons, ← List.append_assoc,
      ← List.length_append]

/-- Writes from the start leave the part of the old content that they do not reach. -/
theorem content_foldl_write (writes : List Str) (old : Str) :
    (writes.foldl Write ⟨old, 0⟩).content =
      writes.flatten ++ old.drop writes.flatten.length :=
  congrArg content (foldl_write writes [] old)

end File

/-- A call of the handler, for a name and its value. -/
structure Call where
  sect : Str
  name : Str
  value : Str

/-- `ini_parse`: the calls of the handler for the text of a file. `calls` are those for the lines
after the first, in a section and after a name (a line that begins with a blank goes on with its
value). -/
structure Ini where
  ini_parse (text : Str) : List Call
  calls (sect prev text : Str) : List Call

/-- The buffer for a line, its line break and the closing zero. -/
def INI_MAX_LINE : Nat := 200

/-- One line with no blank around it, no comment in it and none made of it. -/
@[mk_iff] structure Clean (s : Str) : Prop where
  first : s.head?.any isspace = false
  last : s.getLast?.any isspace = false
  line : '\n' ∉ s ∧ '\x00' ∉ s
  comment : (' ' :: s).IsChain fun c d => ¬(isspace c = true ∧ d = ';')

@[mk_iff] structure IsSection (s : Str) : Prop where
  clean : Clean s
  bracket : ']' ∉ s
  fits : s.length < 50

@[mk_iff] structure IsPair (name value : Str) : Prop where
  clean : Clean name ∧ Clean value
  ne_nil : name ≠ []
  start : name.head? ≠ some '[' ∧ name.head? ≠ some '#'
  separator : '=' ∉ name ∧ ':' ∉ name
  fits : (name ++ '=' :: value).length + 2 ≤ INI_MAX_LINE

/-- A line that is neither the head of a section nor a pair. -/
@[mk_iff] structure IsOther (s : Str) : Prop where
  clean : Clean s
  start : s.head? ≠ some '['
  separator : '=' ∉ s ∧ ':' ∉ s
  fits : s.length + 2 ≤ INI_MAX_LINE

instance : DecidablePred Clean := fun s => decidable_of_iff _ (clean_iff s).symm

instance : DecidablePred IsSection := fun s => decidable_of_iff _ (isSection_iff s).symm

instance (name value : Str) : Decidable (IsPair name value) :=
  decidable_of_iff _ (isPair_iff name value).symm

instance : DecidablePred IsOther := fun s => decidable_of_iff _ (isOther_iff s).symm

/-- The line syntax: `[section]`, `name=value`, and other lines, which are passed over; a line is a
C string. -/
structure Ini.Documented (ini : Ini) : Prop where
  first : ∀ s rest, IsSection s →
    ini.ini_parse ('[' :: s ++ ']' :: '\n' :: rest) = ini.calls s [] rest
  empty : ∀ sect prev, ini.calls sect prev [] = []
  head : ∀ sect prev s rest, IsSection s →
    ini.calls sect prev ('[' :: s ++ ']' :: '\n' :: rest) = ini.calls s [] rest
  pair : ∀ sect prev name value rest, IsPair name value →
    ini.calls sect prev (name ++ '=' :: value ++ '\n' :: rest) =
      ⟨sect, name, value⟩ :: ini.calls sect name rest
  other : ∀ sect prev s rest, IsOther s →
    ini.calls sect prev (s ++ '\n' :: rest) = ini.calls sect prev rest
  nul : ∀ sect prev s rest, Clean s → s.length + 3 ≤ INI_MAX_LINE →
    ini.calls sect prev ('\x00' :: s ++ '\n' :: rest) = ini.calls sect prev rest

/-- The calls for lines with nothing but the line syntax in them. -/
def lineCalls (sect : Str) : List Str → List Call
  | [] => []
  | line :: lines =>
    if line.head? = some '[' then lineCalls (line.tail.takeWhile (· ≠ ']')) lines
    else match strchr '=' (cstr line) with
      | some (name, _ :: value) => ⟨sect, name, value⟩ :: lineCalls sect lines
      | _ => lineCalls sect lines

/-- A reader of such files. -/
def Ini.plain : Ini where
  ini_parse text := lineCalls [] (text.splitOn '\n')
  calls sect _ text := lineCalls sect (text.splitOn '\n')

theorem lineCalls_section {s : Str} (hs : IsSection s) (sect : Str) (lines : List Str) :
    lineCalls sect (('[' :: s ++ [']']) :: lines) = lineCalls s lines := by
  have hname : (s ++ [']']).takeWhile (· ≠ ']') = s := by
    rw [List.takeWhile_append_of_pos]
    · exact List.append_nil s
    · intro c hc
      have hne : c ≠ ']' := fun he => hs.bracket (he ▸ hc)
      simpa using hne
  have hhead : ('[' :: s ++ [']']).head? = some '[' := rfl
  rw [lineCalls, if_pos hhead]
  exact congrArg (lineCalls · lines) hname

theorem lineCalls_pair {name value : Str} (hp : IsPair name value) (sect : Str)
    (lines : List Str) :
    lineCalls sect ((name ++ '=' :: value) :: lines) =
      ⟨sect, name, value⟩ :: lineCalls sect lines := by
  have hhead : (name ++ '=' :: value).head? ≠ some '[' := by
    cases name with
    | nil => exact absurd rfl hp.ne_nil
    | cons c name => exact hp.start.1
  have hnul : cstr (name ++ '=' :: value) = name ++ '=' :: value := by
    apply cstr_of_nul_free
    simpa using ⟨hp.clean.1.line.2, hp.clean.2.line.2⟩
  rw [lineCalls, if_neg hhead, hnul, strchr_append hp.separator.1]

theorem lineCalls_other {s : Str} (hs : IsOther s) (sect : Str) (lines : List Str) :
    lineCalls sect (s :: lines) = lineCalls sect lines := by
  have hnone : strchr '=' s = none := by
    cases he : strchr '=' s with
    | none => rfl
    | some p =>
      obtain ⟨r, -, hsplit⟩ := strchr_eq_some he
      exact absurd (hsplit ▸ List.mem_append_right p.1 List.mem_cons_self) hs.separator.1
  rw [lineCalls, if_neg hs.start, cstr_of_nul_free hs.clean.line.2, hnone]

theorem lineCalls_splitOn_section {s : Str} (hs : IsSection s) (sect rest : Str) :
    lineCalls sect (('[' :: s ++ ']' :: '\n' :: rest).splitOn '\n') =
      lineCalls s (rest.splitOn '\n') := by
  have hline : '\n' ∉ '[' :: s ++ [']'] := by simpa using hs.clean.line.1
  have hsplit := List.splitOn_append_cons_self_of_not_mem hline rest
  rw [List.append_assoc] at hsplit
  exact (congrArg (lineCalls sect) hsplit).trans (lineCalls_section hs sect _)

theorem Ini.documented_plain : Ini.plain.Documented where
  first s rest hs := lineCalls_splitOn_section hs [] rest
  empty sect prev := rfl
  head sect prev s rest hs := lineCalls_splitOn_section hs sect rest
  pair sect prev name value rest hp := by
    have hline : '\n' ∉ name ++ '=' :: value := by
      simpa using ⟨hp.clean.1.line.1, hp.clean.2.line.1⟩
    have hsplit := List.splitOn_append_cons_self_of_not_mem hline rest
    exact (congrArg (lineCalls sect) hsplit).trans (lineCalls_pair hp sect _)
  other sect prev s rest hs := by
    have hsplit := List.splitOn_append_cons_self_of_not_mem hs.clean.line.1 rest
    exact (congrArg (lineCalls sect) hsplit).trans (lineCalls_other hs sect _)
  nul sect prev s rest hs _ := by
    have hline : '\n' ∉ '\x00' :: s := by simpa using hs.line.1
    have hsplit := List.splitOn_append_cons_self_of_not_mem hline rest
    have hhead : ('\x00' :: s).head? ≠ some '[' := by simp
    have hskip : lineCalls sect (('\x00' :: s) :: rest.splitOn '\n') =
        lineCalls sect (rest.splitOn '\n') := by
      rw [lineCalls, if_neg hhead]
      rfl
    exact (congrArg (lineCalls sect) hsplit).trans hskip

/-- The line of a pair. -/
def pairLine (p : Str × Str) : Str := p.1 ++ '=' :: p.2 ++ ['\n']

/-- The name that stands last. -/
def lastName (prev : Str) (pairs : List (Str × Str)) : Str := pairs.foldl (fun _ p => p.1) prev

/-- The calls for the pairs of a section. -/
def callsFor (sect : Str) (pairs : List (Str × Str)) : List Call :=
  pairs.map fun p => ⟨sect, p.1, p.2⟩

theorem Ini.Documented.pairs {ini : Ini} (hi : ini.Documented) {pairs : List (Str × Str)}
    (hp : ∀ p ∈ pairs, IsPair p.1 p.2) (sect prev rest : Str) :
    ini.calls sect prev (pairs.flatMap pairLine ++ rest) =
      callsFor sect pairs ++ ini.calls sect (lastName prev pairs) rest := by
  induction pairs generalizing prev with
  | nil => rfl
  | cons p pairs ih =>
    have hline : (p :: pairs).flatMap pairLine ++ rest =
        p.1 ++ '=' :: p.2 ++ '\n' :: (pairs.flatMap pairLine ++ rest) := by
      simp only [List.flatMap_cons, pairLine, List.append_assoc, List.cons_append, List.nil_append]
    rw [hline, hi.pair sect prev p.1 p.2 _ (hp p List.mem_cons_self),
      ih fun q hq => hp q (List.mem_cons_of_mem p hq)]
    rfl

/-- The last value that a name of a section is given. -/
def lastValue (sect name : Str) : List Call → Option Str
  | [] => none
  | k :: calls =>
    (lastValue sect name calls).or
      (if k.sect = sect ∧ k.name = name then some k.value else none)

/-- The pairs that stand in a section. -/
def pairsIn (sect : Str) (calls : List Call) : List (Str × Str) :=
  calls.filterMap fun k => if k.sect = sect then some (k.name, k.value) else none

theorem lastValue_append (sect name : Str) (a b : List Call) :
    lastValue sect name (a ++ b) = (lastValue sect name b).or (lastValue sect name a) := by
  induction a with
  | nil => rw [List.nil_append, lastValue, Option.or_none]
  | cons k a ih => rw [List.cons_append, lastValue, ih, lastValue, Option.or_assoc]

theorem pairsIn_append (sect : Str) (a b : List Call) :
    pairsIn sect (a ++ b) = pairsIn sect a ++ pairsIn sect b :=
  List.filterMap_append

theorem lastValue_callsFor_of_ne {sect sect' : Str} (hne : sect' ≠ sect) (name : Str)
    (pairs : List (Str × Str)) : lastValue sect name (callsFor sect' pairs) = none := by
  induction pairs with
  | nil => rfl
  | cons p pairs ih =>
    rw [callsFor, List.map_cons, lastValue, if_neg fun h => hne h.1, Option.or_none]
    exact ih

theorem pairsIn_callsFor_self (sect : Str) (pairs : List (Str × Str)) :
    pairsIn sect (callsFor sect pairs) = pairs := by
  induction pairs with
  | nil => rfl
  | cons p pairs ih =>
    simp only [callsFor, pairsIn, List.map_cons, List.filterMap_cons, if_true] at ih ⊢
    rw [ih]

theorem pairsIn_callsFor_of_ne {sect sect' : Str} (hne : sect' ≠ sect)
    (pairs : List (Str × Str)) : pairsIn sect (callsFor sect' pairs) = [] := by
  induction pairs with
  | nil => rfl
  | cons p pairs ih =>
    simp only [callsFor, pairsIn, List.map_cons, List.filterMap_cons, if_neg hne] at ih ⊢
    exact ih

/-- A field after a call that sets it when it has this name. -/
def setBy (sect name : Str) (read : Str → α) (k : Call) (old : α) : α :=
  if k.sect = sect ∧ k.name = name then read k.value else old

/-- A list after a call that puts its pair at the end when it stands in this section. -/
def putBy (sect : Str) (read : Str × Str → α) (k : Call) (old : List α) : List α :=
  if k.sect = sect then old ++ [read (k.name, k.value)] else old

/-- The field after many calls. -/
def setByAll (sect name : Str) (read : Str → α) (calls : List Call) (old : α) : α :=
  ((lastValue sect name calls).map read).getD old

/-- The list after many calls. -/
def putByAll (sect : Str) (read : Str × Str → α) (calls : List Call) (old : List α) : List α :=
  old ++ (pairsIn sect calls).map read

theorem setByAll_setBy (sect name : Str) (read : Str → α) (k : Call) (calls : List Call)
    (old : α) :
    setByAll sect name read calls (setBy sect name read k old) =
      setByAll sect name read (k :: calls) old := by
  rw [setByAll, setByAll, lastValue]
  cases lastValue sect name calls with
  | some v => rfl
  | none =>
    rw [setBy]
    split
    · rfl
    · rfl

theorem putByAll_putBy (sect : Str) (read : Str × Str → α) (k : Call) (calls : List Call)
    (old : List α) :
    putByAll sect read calls (putBy sect read k old) = putByAll sect read (k :: calls) old := by
  rw [putByAll, putByAll, putBy, pairsIn, pairsIn, List.filterMap_cons]
  split
  · rw [List.map_cons, List.append_assoc]
    rfl
  · rfl

theorem setByAll_append (sect name : Str) (read : Str → α) (a b : List Call) (old : α) :
    setByAll sect name read (a ++ b) old =
      setByAll sect name read b (setByAll sect name read a old) := by
  rw [setByAll, setByAll, setByAll, lastValue_append]
  cases lastValue sect name b with
  | some v => rfl
  | none => rfl

theorem setByAll_callsFor_of_ne {sect sect' : Str} (hne : sect' ≠ sect) (name : Str)
    (read : Str → α) (pairs : List (Str × Str)) (old : α) :
    setByAll sect name read (callsFor sect' pairs) old = old := by
  rw [setByAll, lastValue_callsFor_of_ne hne]
  rfl

end IniFile
