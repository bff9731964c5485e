import SiteOnYourDevice.RedisExchange
import Mathlib.Algebra.BigOperators.Group.List.Basic
import Mathlib.Algebra.Order.BigOperators.Group.List

namespace SiteOnYourDevice
open CString StreamReader
set_option relaxedAutoImplicit false
set_option autoImplicit true

namespace RedisFormat

/-- The number of digits, four of them a turn. -/
def countDigitsFrom (result v : Nat) : Nat :=
  if v < 10 then result
  else if v < 100 then result + 1
  else if v < 1000 then result + 2
  else if v < 10000 then result + 3
  else countDigitsFrom (result + 4) (v / 10000)
termination_by v
decreasing_by omega

def countDigits (v : Nat) : Nat := countDigitsFrom 1 v

def bulklen (len : Nat) : Nat := 1 + countDigits len + 2 + len + 2

/-- What `va_arg` may be asked for. -/
inductive VaType
  | int | long | longLong | double
deriving DecidableEq

/-- An argument behind the format: a `char*`, one with its size, or a number. -/
inductive VaArg
  | string (s : Str)
  | bytes (buf : Str)
  | number (type : VaType) (n : Int)

/-- `undefined` is a read behind the end of the format, or of an argument that is not there, or a
length that overflows. -/
inductive FormatErr
  | format | memory | undefined
deriving DecidableEq

/-- The arguments of a command that are done, and the one being made. -/
structure Formatting where
  argv : List Str
  curarg : Str
  touched : Bool

def Formatting.cat (st : Formatting) (s : Str) : Formatting :=
  { st with curarg := st.curarg ++ s, touched := true }

/-- A blank, or the end of the format. -/
def Formatting.blank (st : Formatting) : Formatting :=
  if st.touched then ⟨st.argv ++ [st.curarg], [], false⟩ else st

def intfmts : Str := "diouxX".toList
def flags : Str := "#0-+ ".toList

/-- The conversion at the end of a numeric directive: what it asks for, and what comes behind it. The
NUL at the end of the format counts for a conversion, too, since `strchr` finds it. -/
def conversion : Str → Except FormatErr (VaType × Option Str)
  | [] => .ok (.int, none)
  | 'h' :: 'h' :: c :: s => if c ∈ intfmts then .ok (.int, some s) else .error .format
  | 'h' :: c :: s => if c ∈ intfmts then .ok (.int, some s) else .error .format
  | 'l' :: 'l' :: c :: s => if c ∈ intfmts then .ok (.longLong, some s) else .error .format
  | 'l' :: c :: s => if c ∈ intfmts then .ok (.long, some s) else .error .format
  | c :: s =>
    if c ∈ intfmts then .ok (.int, some s)
    else if c ∈ "eEfFgGaA".toList then .ok (.double, some s)
    else .error .format

/-- The text behind the flags, the field width and the precision. -/
def behindPrecision (p : Str) : Str :=
  match (p.dropWhile (· ∈ flags)).dropWhile isdigit with
  | '.' :: p => p.dropWhile isdigit
  | p => p

variable (vsnprintf : Str → VaArg → Str)

/-- A numeric directive behind its `%`. One that is too long for `_format` is not printed, and the
format is read again from its second character on; behind the NUL there is nothing to read. -/
def numeric (s : Str) (ap : List VaArg) (st : Formatting) :
    Except FormatErr (Str × List VaArg × Formatting) :=
  match conversion (behindPrecision s), ap with
  | .error e, _ => .error e
  | .ok (type, p), .number type' n :: ap =>
    let _l := p.elim (s.length + 2) fun p => 1 + (s.length - p.length)
    if type ≠ type' then .error .undefined
    else if 14 ≤ _l then .ok (s.tail, ap, st.cat [])
    else
      match p with
      | some p => .ok (p, ap, st.cat (vsnprintf ('%' :: s.take (_l - 1)) (.number type n)))
      | none => .error .undefined
  | .ok _, _ => .error .undefined

/-- A directive behind its `%`: what is left of the format and of the arguments. -/
def directive (s : Str) (ap : List VaArg) (st : Formatting) :
    Except FormatErr (Str × List VaArg × Formatting) :=
  match s, ap with
  | 's' :: s, .string arg :: ap => .ok (s, ap, st.cat (cstr arg))
  | 's' :: _, _ => .error .undefined
  | 'b' :: s, .bytes arg :: ap => .ok (s, ap, st.cat arg)
  | 'b' :: _, _ => .error .undefined
  | '%' :: s, ap => .ok (s, ap, st.cat ['%'])
  | s, ap => numeric vsnprintf s ap st

/-- The loop of `redisvFormatCommand`, of which every turn takes a character of the format. -/
def formatLoop : Nat → Str → List VaArg → Formatting → Except FormatErr Formatting
  | 0, _, _, _ => .error .undefined
  | _ + 1, [], _, st => .ok st
  | fuel + 1, c :: s, ap, st =>
    if c ≠ '%' ∨ s = [] then
      if c = ' ' then formatLoop fuel s ap st.blank else formatLoop fuel s ap (st.cat [c])
    else
      match directive vsnprintf s ap st with
      | .ok (s, ap, st) => formatLoop fuel s ap st
      | .error e => .error e

/-- The number of bytes of a command. -/
def totlen (argv : List Str) : Nat :=
  (argv.map fun arg => bulklen arg.length).sum + (1 + countDigits argv.length + 2)

/-- A command at protocol level. -/
def commandText (argv : List Str) : Str :=
  '*' :: (Nat.toDigits 10 argv.length ++ CRLF) ++
    argv.flatMap fun arg => '$' :: (Nat.toDigits 10 arg.length ++ CRLF ++ (arg ++ CRLF))

/-- The length and the command of `argv`. The length and the size of the block are an `int`, of which
`malloc` gets a `size_t`; a block that is too small is written behind its end. -/
def build (argv : List Str) : Except FormatErr (Nat × Str) :=
  if totlen argv < INT_MAX then .ok (totlen argv, commandText argv)
  else if toInt (totlen argv) < -1 then .error .memory
  else .error .undefined

def redisvFormatCommand (format : Str) (ap : List VaArg) : Except FormatErr (Nat × Str) :=
  (formatLoop vsnprintf (format.length + 1) format ap ⟨[], [], false⟩).bind fun st =>
    build st.blank.argv

/-- `redisFormatCommandArgv`, with the lengths of the arguments. -/
def redisFormatCommandArgv (argv : List Str) : Except FormatErr (Nat × Str) := build argv

/-- `sdscatfmt` with an integer for the directives of its format. A directive that is not known writes
its own character. -/
def sdscatfmt (s : Str) : Str → Nat → Str
  | [], _ => s
  | '%' :: next :: f, n =>
    if next = 'i' ∨ next = 'I' ∨ next = 'u' ∨ next = 'U' then sdscatfmt (s ++ Nat.toDigits 10 n) f n
    else sdscatfmt (s ++ [next]) f n
  | c :: f, n => sdscatfmt (s ++ [c]) f n

/-- `redisFormatSdsCommandArgv`; `none` when its assertion fails. -/
def redisFormatSdsCommandArgv (argv : List Str) : Option (Nat × Str) :=
  let cmd := argv.foldl (fun cmd arg => sdscatfmt cmd "$%T\r\n".toList arg.length ++ arg ++ CRLF)
    (sdscatfmt [] "*%i\r\n".toList argv.length)
  if cmd.length = totlen argv then some (totlen argv, cmd) else none

/-- The first word of a format, and the others; some of them may be empty. -/
def segments : Str → Str × List Str
  | [] => ([], [])
  | c :: s =>
    if c = ' ' then ([], (segments s).1 :: (segments s).2)
    else (c :: (segments s).1, (segments s).2)

/-- The words of a format. -/
def words (format : Str) : List Str :=
  ((segments format).1 :: (segments format).2).filter (· ≠ [])

/-- A word with the arguments in the places of its directives, and the arguments that are left. -/
def fill : Str → List VaArg → Option (Str × List VaArg)
  | [], ap => some ([], ap)
  | '%' :: 's' :: s, .string arg :: ap => (fill s ap).map fun p => (cstr arg ++ p.1, p.2)
  | '%' :: 'b' :: s, .bytes arg :: ap => (fill s ap).map fun p => (arg ++ p.1, p.2)
  | '%' :: '%' :: s, ap => (fill s ap).map fun p => ('%' :: p.1, p.2)
  | '%' :: 's' :: _, _ | '%' :: 'b' :: _, _ => none
  | c :: s, ap => (fill s ap).map fun p => (c :: p.1, p.2)

def fillAll : List Str → List VaArg → Option (List Str)
  | [], _ => some []
  | w :: ws, ap => (fill w ap).bind fun p => (fillAll ws p.2).map (p.1 :: ·)

/-- A format has no other directives than those of strings, and `%%`. -/
def OfStrings : Str → Bool
  | '%' :: c :: s => (c = 's' || c = 'b' || c = '%') && OfStrings s
  | _ :: s => OfStrings s
  | [] => true

theorem countDigitsFrom_eq (result v : Nat) :
    countDigitsFrom result v + 1 = result + (Nat.toDigits 10 v).length := by
  induction result, v using countDigitsFrom.induct with
  | case1 result v h => rw [countDigitsFrom, if_pos h, length_toDigits_small h]
  | case2 result v h h' =>
    rw [countDigitsFrom, if_neg h, if_pos h', length_toDigits_large (by omega),
      length_toDigits_small (by omega)]
  | case3 result v h h' h'' =>
    rw [countDigitsFrom, if_neg h, if_neg h', if_pos h'', length_toDigits_large (by omega),
      length_toDigits_large (by omega), length_toDigits_small (by omega)]
  | case4 result v h h' h'' h''' =>
    rw [countDigitsFrom, if_neg h, if_neg h', if_neg h'', if_pos h''',
      length_toDigits_large (by omega), length_toDigits_large (by omega),
      length_toDigits_large (by omega), length_toDigits_small (by omega)]
  | case5 result v h h' h'' h''' ih =>
    rw [countDigitsFrom, if_neg h, if_neg h', if_neg h'', if_neg h''', ih,
      length_toDigits_large (n := v) (by omega), length_toDigits_large (n := v / 10) (by omega),
      length_toDigits_large (n := v / 10 / 10) (by omega),
      length_toDigits_large (n := v / 10 / 10 / 10) (by omega), Nat.div_div_eq_div_mul,
      Nat.div_div_eq_div_mul, Nat.div_div_eq_div_mul]
    exact Nat.add_right_comm result 4 _

/-- The digits are as many as are written. -/
theorem countDigits_eq (v : Nat) : countDigits v = (Nat.toDigits 10 v).length := by
  have h := countDigitsFrom_eq 1 v
  rw [countDigits]
  omega

/-- The length that is returned is that of the command, and no write goes behind it. -/
theorem totlen_eq (argv : List Str) : totlen argv = (commandText argv).length := by
  have hargs : ((argv.map fun arg => bulklen arg.length).sum) = (argv.flatMap fun arg =>
      '$' :: (Nat.toDigits 10 arg.length ++ CRLF ++ (arg ++ CRLF))).length := by
    rw [List.length_flatMap]
    congr 2
    funext arg
    rw [bulklen, countDigits_eq]
    simp only [CRLF, List.length_cons, List.length_append, List.length_nil]
    omega
  rw [totlen, commandText, List.length_append, hargs, countDigits_eq]
  simp only [CRLF, List.length_cons, List.length_append, List.length_nil]
  omega

theorem encodeAll_map_string (argv : List Str) :
    redisReply.encodeAll (argv.map .string) = argv.flatMap fun arg =>
      '$' :: (Nat.toDigits 10 arg.length ++ CRLF ++ (arg ++ CRLF)) := by
  induction argv with
  | nil => rfl
  | cons arg argv ih =>
    rw [List.map_cons, redisReply.encodeAll, ih]
    rfl

/-- A command is an array of strings. -/
theorem commandText_eq (argv : List Str) :
    commandText argv = (redisReply.array (argv.map .string)).encode := by
  rw [commandText, redisReply.encode, encodeAll_map_string, List.length_map]
  rfl

theorem fill_literal (h : c ≠ '%' ∨ s = []) (ap : List VaArg) :
    fill (c :: s) ap = (fill s ap).map fun p => (c :: p.1, p.2) := by
  obtain h | rfl := h
  · cases s with
    | nil => simp [fill]
    | cons d s => simp [fill, h]
  · simp [fill]

theorem fill_plain (h : '%' ∉ w) (ap : List VaArg) : fill w ap = some (w, ap) := by
  induction w with
  | nil => rfl
  | cons c w ih =>
    rw [List.mem_cons, not_or] at h
    rw [fill_literal (.inl (Ne.symm h.1)), ih h.2]
    rfl

theorem fill_string (arg : Str) (ap : List VaArg) :
    fill "%s".toList (.string arg :: ap) = some (cstr arg, ap) := by
  change some (cstr arg ++ [], ap) = _
  rw [List.append_nil]

theorem ofStrings_tail (h : c ≠ '%' ∨ s = []) (hs : OfStrings (c :: s) = true) :
    OfStrings s = true := by
  obtain h | rfl := h
  · cases s with
    | nil => rfl
    | cons d s => simpa [OfStrings, h] using hs
  · rfl

theorem segments_cons (h : c ≠ ' ') (s : Str) :
    segments (c :: s) = (c :: (segments s).1, (segments s).2) := if_neg h

/-- Behind a blank no argument has been begun. -/
theorem Formatting.blank_spec (st : Formatting) (hst : st.touched = false → st.curarg = []) :
    st.blank.touched = false ∧ st.blank.curarg = [] ∧
      st.blank.argv = st.argv ++ if st.touched = true then [st.curarg] else [] := by
  rw [blank]
  split
  · exact ⟨rfl, rfl, rfl⟩
  · rename_i h
    exact ⟨Bool.eq_false_iff.2 h, hst (Bool.eq_false_iff.2 h), (List.append_nil _).symm⟩

/-- What is made of the word at the front, and of the words behind it. -/
theorem formatLoop_eq {fuel : Nat} {f w : Str} {ap ap' : List VaArg} {ws : List Str}
    {st : Formatting} (hf : OfStrings f = true) (hfuel : f.length < fuel)
    (hst : st.touched = false → st.curarg = []) (hw : fill (segments f).1 ap = some (w, ap'))
    (hws : fillAll ((segments f).2.filter (· ≠ [])) ap' = some ws) :
    ∃ st', formatLoop vsnprintf fuel f ap st = .ok st' ∧ st'.blank.argv = st.argv ++
      (if st.touched = true ∨ (segments f).1 ≠ [] then [st.curarg ++ w] else []) ++ ws := by
  induction fuel generalizing f w ap ap' ws st with
  | zero => exact absurd hfuel (Nat.not_lt_zero _)
  | succ fuel ih =>
    cases f with
    | nil =>
      cases hw
      cases hws
      refine ⟨st, rfl, ?_⟩
      rw [Formatting.blank]
      cases st.touched <;> simp [segments]
    | cons c s =>
      have hfuel' : s.length < fuel := Nat.lt_of_succ_lt_succ hfuel
      -- a directive or a literal puts its text behind the argument that is being made
      have hcat {x s w' : Str} {ap₁ : List VaArg} (hs : s.length < fuel) (hof : OfStrings s = true)
          (hw : fill (segments s).1 ap₁ = some (w', ap'))
          (hws : fillAll ((segments s).2.filter (· ≠ [])) ap' = some ws) :
          ∃ st', formatLoop vsnprintf fuel s ap₁ (st.cat x) = .ok st' ∧
            st'.blank.argv = st.argv ++ [st.curarg ++ (x ++ w')] ++ ws := by
        obtain ⟨st', hloop, hargv⟩ := @ih s w' ap₁ ap' ws (st.cat x) hof hs nofun hw hws
        refine ⟨st', hloop, ?_⟩
        rw [hargv, if_pos (.inl rfl), ← List.append_assoc st.curarg]
        rfl
      by_cases hlit : c ≠ '%' ∨ s = []
      · have hof := ofStrings_tail hlit hf
        rw [formatLoop, if_pos hlit]
        by_cases hblank : c = ' '
        · have hsegments : segments (c :: s) = ([], (segments s).1 :: (segments s).2) := if_pos hblank
          rw [hsegments] at hw hws ⊢
          cases hw
          obtain ⟨htouched, hcurarg, hargv⟩ := st.blank_spec hst
          rw [if_pos hblank, List.append_nil]
          by_cases hempty : (segments s).1 = []
          · rw [List.filter_cons_of_neg (by simpa using hempty)] at hws
            obtain ⟨st', hloop, hargv'⟩ := ih hof hfuel' (fun _ => hcurarg)
              (by rw [hempty]; rfl) hws
            refine ⟨st', hloop, ?_⟩
            rw [hargv', hargv, htouched, hempty]
            simp
          · rw [List.filter_cons_of_pos (by simpa using hempty)] at hws
            obtain ⟨⟨w, ap₁⟩, hw, hrest⟩ := Option.bind_eq_some_iff.1 hws
            obtain ⟨ws', hws', rfl⟩ := Option.map_eq_some_iff.1 hrest
            obtain ⟨st', hloop, hargv'⟩ := ih hof hfuel' (fun _ => hcurarg) hw hws'
            refine ⟨st', hloop, ?_⟩
            rw [hargv', hargv, hcurarg, htouched]
            simp [hempty]
        · rw [segments_cons hblank, fill_literal (hlit.imp_right fun h => by rw [h]; rfl)] at hw
          rw [segments_cons hblank] at hws ⊢
          obtain ⟨⟨w', ap₁⟩, hw', hpair⟩ := Option.map_eq_some_iff.1 hw
          cases hpair
          rw [if_neg hblank, if_pos (.inr (List.cons_ne_nil _ _))]
          exact hcat hfuel' hof hw' hws
      · obtain ⟨rfl, hs⟩ : c = '%' ∧ s ≠ [] := by
          rw [not_or, not_not] at hlit
          exact hlit
        obtain ⟨d, s, rfl⟩ := List.exists_cons_of_ne_nil hs
        have hf' := hf
        rw [OfStrings, Bool.and_eq_true, Bool.or_eq_true, Bool.or_eq_true, decide_eq_true_eq,
          decide_eq_true_eq, decide_eq_true_eq, or_assoc] at hf'
        obtain ⟨hd, hof⟩ := hf'
        have hfuel'' : s.length < fuel := (Nat.lt_succ_self _).trans hfuel'
        have hne : d ≠ ' ' := by
          rintro rfl
          rcases hd with h | h | h <;> cases h
        rw [segments_cons (by decide), segments_cons hne] at hw hws ⊢
        rw [formatLoop, if_neg hlit, if_pos (.inr (List.cons_ne_nil _ _))]
        rcases hd with rfl | rfl | rfl
        · cases ap with
          | nil => cases hw
          | cons arg ap =>
            cases arg with
            | string arg =>
              obtain ⟨⟨w', ap₁⟩, hw', hpair⟩ := Option.map_eq_some_iff.1 hw
              cases hpair
              exact hcat hfuel'' hof hw' hws
            | bytes | number => cases hw
        · cases ap with
          | nil => cases hw
          | cons arg ap =>
            cases arg with
            | bytes arg =>
              obtain ⟨⟨w', ap₁⟩, hw', hpair⟩ := Option.map_eq_some_iff.1 hw
              cases hpair
              exact hcat hfuel'' hof hw' hws
            | string | number => cases hw
        · obtain ⟨⟨w', ap₁⟩, hw', hpair⟩ := Option.map_eq_some_iff.1 hw
          cases hpair
          exact hcat hfuel'' hof hw' hws

/-- What becomes of a word is up to the word and its own arguments; the arguments make no words. -/
theorem redisvFormatCommand_eq {f : Str} {ap : List VaArg} {argv : List Str} (hf : OfStrings f = true)
    (h : fillAll (words f) ap = some argv) (hlen : (commandText argv).length < INT_MAX) :
    redisvFormatCommand vsnprintf f ap = .ok (totlen argv, commandText argv) := by
  -- a blank in front of the format makes no difference, and puts an empty word before the others
  have hloop := @formatLoop_eq vsnprintf (f.length + 2) (' ' :: f) [] ap ap argv ⟨[], [], false⟩
    (by cases f <;> exact hf) (Nat.lt_succ_self _) (fun _ => rfl) rfl h
  obtain ⟨st', hst', hargv⟩ := hloop
  have hformat : formatLoop vsnprintf (f.length + 1) f ap ⟨[], [], false⟩ = .ok st' := hst'
  have hdone : st'.blank.argv = argv := hargv
  rw [← totlen_eq] at hlen
  rw [redisvFormatCommand, hformat]
  simp only [Except.bind, hdone, build, if_pos hlen]

theorem fillAll_length {ws : List Str} {ap : List VaArg} {argv : List Str}
    (h : fillAll ws ap = some argv) : argv.length = ws.length := by
  induction ws generalizing ap argv with
  | nil =>
    cases h
    rfl
  | cons w ws ih =>
    obtain ⟨p, _, h⟩ := Option.bind_eq_some_iff.1 h
    obtain ⟨rest, hrest, rfl⟩ := Option.map_eq_some_iff.1 h
    rw [List.length_cons, List.length_cons, ih hrest]

theorem pointers_map_string (argv : List Str) :
    redisReply.pointers (argv.map .string) = argv.map ReplyPtr.string := by
  induction argv with
  | nil => rfl
  | cons arg argv ih =>
    rw [List.map_cons, redisReply.pointers, ih]
    rfl

theorem length_le_commandText (argv : List Str) :
    argv.length ≤ (commandText argv).length ∧
      ∀ arg ∈ argv, arg.length ≤ (commandText argv).length := by
  rw [← totlen_eq, totlen]
  constructor
  · have hone : ∀ n ∈ argv.map fun arg => bulklen arg.length, 1 ≤ n := by
      intro n hn
      obtain ⟨arg, _, rfl⟩ := List.mem_map.1 hn
      rw [bulklen]
      omega
    have hle := List.length_le_sum_of_one_le _ hone
    rw [List.length_map] at hle
    exact Nat.le_add_right_of_le hle
  · intro arg harg
    have hle : bulklen arg.length ≤ (argv.map fun arg => bulklen arg.length).sum :=
      List.le_sum_of_mem (List.mem_map_of_mem harg)
    rw [bulklen] at hle
    omega

theorem sendableAll_strings {argv : List Str} (h : ∀ arg ∈ argv, arg.length ≤ INT_MAX)
    (depth : Nat) : redisReply.SendableAll depth (argv.map .string) := by
  induction argv with
  | nil => trivial
  | cons arg argv ih =>
    refine ⟨?_, ih fun a ha => h a (List.mem_cons_of_mem _ ha)⟩
    cases depth <;> exact h arg List.mem_cons_self

/-- A command is read back as its arguments. -/
theorem commandText_sendable {argv : List Str} (h : (commandText argv).length ≤ INT_MAX) :
    (redisReply.array (argv.map .string)).Sendable 8 := by
  obtain ⟨hlen, hargs⟩ := length_le_commandText argv
  refine ⟨?_, sendableAll_strings (fun arg ha => (hargs arg ha).trans h) 7⟩
  rw [List.length_map]
  exact hlen.trans h

/-- Whatever the arguments are, the command is read as the words of the format, with the arguments
in their places. -/
theorem redisvFormatCommand_read {f : Str} {ap : List VaArg} {argv : List Str}
    (hf : OfStrings f = true) (h : fillAll (words f) ap = some argv)
    (hlen : (commandText argv).length < INT_MAX) :
    ∃ cmd r, redisvFormatCommand vsnprintf f ap = .ok (cmd.length, cmd) ∧
      (redisReader.create.Feed cmd).2.GetReply = (true, .array (argv.map .string), r) ∧
      r.reading.unread = [] ∧ argv.length = (words f).length := by
  have hsound := redisReader.Feed_sound redisReader.create_sound (commandText argv)
  have hready : ReplyReading.reader.ready (ReplyReading.reader.settle
      (redisReader.create.Feed (commandText argv)).2.reading) =
        some ((redisReply.array (argv.map .string)).pointer, ⟨ReplyReading.expects [], []⟩) := by
    rw [redisReader.Feed_reading redisReader.create_sound]
    have hencode := ReplyReading.ready_encode (commandText_sendable (Nat.le_of_lt hlen)) [] []
    rw [List.append_nil, ← commandText_eq] at hencode
    exact hencode
  obtain ⟨r, hget, hreading, _⟩ := redisReader.GetReply_ready hsound
    ((redisReader.Feed_length _ _).trans
      (Nat.le_trans (Nat.le_of_eq (Nat.zero_add _)) (Nat.le_of_lt hlen))) hready
  refine ⟨commandText argv, r, ?_, ?_, ?_, fillAll_length h⟩
  · rw [redisvFormatCommand_eq vsnprintf hf h hlen, totlen_eq]
  · rw [hget, redisReply.pointer, pointers_map_string]
  · rw [hreading]

theorem redisvFormatCommand_read_blank : ∃ cmd r,
    redisvFormatCommand (fun _ _ => []) "GET %s".toList [.string "a b\r\n".toList] =
        .ok (cmd.length, cmd) ∧
      (redisReader.create.Feed cmd).2.GetReply =
        (true, .array [.string "GET".toList, .string "a b\r\n".toList], r) ∧
      r.reading.unread = [] ∧ 2 = (words "GET %s".toList).length := by
  have hfill : fillAll (words "GET %s".toList) [.string "a b\r\n".toList] =
      some ["GET".toList, "a b\r\n".toList] := by decide +kernel
  exact redisvFormatCommand_read (fun _ _ => []) (by decide +kernel) hfill (by decide +kernel)

theorem foldl_append_flatMap (g : Str → Str) (init : Str) (argv : List Str) :
    argv.foldl (fun cmd arg => cmd ++ g arg) init = init ++ argv.flatMap g := by
  induction argv generalizing init with
  | nil => exact (List.append_nil _).symm
  | cons arg argv ih => rw [List.foldl_cons, ih, List.flatMap_cons, List.append_assoc]

/-- `sdscatfmt` does not know the directive of the lengths, and writes its letter. -/
theorem redisFormatSdsCommandArgv_eq (argv : List Str) :
    redisFormatSdsCommandArgv argv =
      let cmd := '*' :: (Nat.toDigits 10 argv.length ++ CRLF) ++
        argv.flatMap fun arg => "$T\r\n".toList ++ (arg ++ CRLF)
      if cmd.length = totlen argv then some (totlen argv, cmd) else none := by
  have hlen (s : Str) (n : Nat) : sdscatfmt s "$%T\r\n".toList n = s ++ "$T\r\n".toList := by
    simp [sdscatfmt]
  have hhead (n : Nat) : sdscatfmt [] "*%i\r\n".toList n = '*' :: (Nat.toDigits 10 n ++ CRLF) := by
    simp [sdscatfmt, CRLF]
  simp only [redisFormatSdsCommandArgv, hlen, hhead, List.append_assoc, foldl_append_flatMap]

/-- The two formatters agree on no arguments only. -/
theorem redisFormatSdsCommandArgv_eq_iff (argv : List Str) :
    (∃ out, redisFormatSdsCommandArgv argv = some out ∧ redisFormatCommandArgv argv = .ok out) ↔
      argv = [] := by
  rw [redisFormatSdsCommandArgv_eq]
  constructor
  · rintro ⟨out, h, hbuild⟩
    rw [redisFormatCommandArgv, build] at hbuild
    simp only at h
    split at h
    · split at hbuild
      · cases hbuild
        have hcmd := (Prod.mk.inj (Option.some.inj h)).2
        rw [commandText] at hcmd
        have hargs := List.append_cancel_left hcmd
        by_contra hne
        obtain ⟨arg, args, rfl⟩ := List.exists_cons_of_ne_nil hne
        obtain ⟨d, ds, hd⟩ := List.exists_cons_of_ne_nil
          (Nat.toDigits_ne_nil (n := arg.length) (b := 10))
        have hdigit : isdigit d = true :=
          isdigit_of_mem_toDigits (n := arg.length) (hd ▸ List.mem_cons_self)
        rw [List.flatMap_cons, List.flatMap_cons, hd] at hargs
        obtain rfl : 'T' = d := (List.cons.inj (List.cons.inj hargs).2).1
        exact absurd hdigit (by decide)
      · split at hbuild <;> cases hbuild
    · cases h
  · rintro rfl
    refine ⟨(totlen [], commandText []), ?_, ?_⟩
    · rw [if_pos (by decide +kernel)]
      rfl
    · rw [redisFormatCommandArgv, build, if_pos (by decide +kernel)]

end RedisFormat

end SiteOnYourDevice
