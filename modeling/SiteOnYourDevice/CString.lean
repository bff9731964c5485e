import Mathlib.Algebra.Group.Nat.Defs
import Mathlib.Data.List.Basic
import Mathlib.Data.List.TakeWhile
import Mathlib.Data.List.Infix

namespace CString
set_option relaxedAutoImplicit false
set_option autoImplicit true

/-- A C string or a byte buffer: one `Char` stands for one byte. -/
abbrev Str := List Char

/-- `isspace` in the C locale: blank, `\t`, `\n`, `\v`, `\f` and `\r`. -/
def isspace (c : Char) : Bool :=
  c = ' ' || c = '\t' || c = '\n' || c = '\x0b' || c = '\x0c' || c = '\r'

def isdigit (c : Char) : Bool := '0' ≤ c && c ≤ '9'

def isprint (c : Char) : Bool := ' ' ≤ c && c ≤ '~'

/-- `%02x` of an unsigned char. -/
def hex02 (c : Char) : Str := [Nat.digitChar (c.toNat / 16 % 16), Nat.digitChar (c.toNat % 16)]

/-- The text of a zero-initialised buffer, up to its first NUL. -/
def cstr (s : Str) : Str := s.takeWhile (· ≠ '\x00')

/-- `strstr`: the text before the first occurrence of the needle, and the text from it on. -/
def strstr (needle : Str) : Str → Option (Str × Str)
  | [] => if needle = [] then some ([], []) else none
  | c :: s =>
    if needle.isPrefixOf (c :: s) then some ([], c :: s)
    else (strstr needle s).map fun p => (c :: p.1, p.2)

/-- `strchr`: the text before the first `d`, and the text from it on. -/
def strchr (d : Char) : Str → Option (Str × Str)
  | [] => none
  | c :: s => if c = d then some ([], c :: s) else (strchr d s).map fun p => (c :: p.1, p.2)

/-- The largest `unsigned long` of an LP64 platform. -/
def ULONG_MAX : Nat := 2 ^ 64 - 1

def decimal (digits : Str) : Nat := digits.foldl (fun n c => 10 * n + (c.toNat - '0'.toNat)) 0

/-- The optional sign of a numeral and the text after it. -/
def signed : Str → Bool × Str
  | '-' :: s => (true, s)
  | '+' :: s => (false, s)
  | s => (false, s)

/-- The value `strtoul` gives to a digit string: saturated, and negated modulo 2^64. -/
def unsignedLong (neg : Bool) (n : Nat) : Nat :=
  if ULONG_MAX < n then ULONG_MAX else if neg then (2 ^ 64 - n) % 2 ^ 64 else n

/-- `strtoul(s, &end, 10)`: the value and the text at `end`. When no digit is found the value
is 0 and `end` is the start of `s`, blanks included. -/
def strtoul (s : Str) : Nat × Str :=
  let p := signed (s.dropWhile isspace)
  let digits := p.2.takeWhile isdigit
  if digits = [] then (0, s) else (unsignedLong p.1 (decimal digits), p.2.dropWhile isdigit)

/-- `atoi`, as long as the value fits into an `int`. -/
def atoi (s : Str) : Int :=
  let p := signed (s.dropWhile isspace)
  let n : Int := decimal (p.2.takeWhile isdigit)
  if p.1 then -n else n

def INT_MAX : Nat := 2 ^ 31 - 1

/-- `snprintf` into `n` bytes: the length of the whole text, or -1 when it is no `int`, and what
is stored before the NUL. -/
def snprintf (n : Nat) (text : Str) : Int × Str :=
  (if text.length ≤ INT_MAX then text.length else -1, text.take (n - 1))

@[simp] theorem cstr_of_nul_free (h : '\x00' ∉ s) : cstr s = s := by
  rw [cstr, List.takeWhile_eq_self_iff]
  intro c hc
  have hne : c ≠ '\x00' := fun he => h (he ▸ hc)
  simpa using hne

theorem nul_not_mem_cstr (s : Str) : '\x00' ∉ cstr s := by
  intro h
  simpa using List.mem_takeWhile_imp h

@[simp] theorem cstr_cstr (s : Str) : cstr (cstr s) = cstr s :=
  cstr_of_nul_free (nul_not_mem_cstr s)

theorem strstr_here (h : d <+: c :: s) : strstr d (c :: s) = some ([], c :: s) :=
  if_pos (List.isPrefixOf_iff_prefix.2 h)

theorem strstr_later (h : ¬ d <+: c :: s) :
    strstr d (c :: s) = (strstr d s).map fun p => (c :: p.1, p.2) :=
  if_neg fun hp => h (List.isPrefixOf_iff_prefix.1 hp)

theorem strstr_eq_some (h : strstr d s = some (a, b)) : s = a ++ b ∧ d <+: b := by
  induction s generalizing a with
  | nil =>
    rw [strstr] at h
    split at h
    · rename_i hd
      cases h
      exact ⟨rfl, hd ▸ List.nil_prefix⟩
    · cases h
  | cons c s ih =>
    rw [strstr] at h
    split at h
    · rename_i hp
      cases h
      exact ⟨rfl, List.isPrefixOf_iff_prefix.1 hp⟩
    · obtain ⟨⟨a', b'⟩, hs, he⟩ := Option.map_eq_some_iff.1 h
      cases he
      obtain ⟨hsplit, hd⟩ := ih hs
      exact ⟨congrArg (c :: ·) hsplit, hd⟩

/-- What comes behind does not change where the needle is found. -/
theorem strstr_append_right (h : strstr d s = some (a, b)) (v : Str) :
    strstr d (s ++ v) = some (a, b ++ v) := by
  induction s generalizing a with
  | nil =>
    rw [strstr] at h
    split at h
    · rename_i hd
      cases h
      subst hd
      cases v <;> rfl
    · cases h
  | cons c s ih =>
    rw [strstr] at h
    split at h
    · rename_i hp
      cases h
      exact strstr_here ((List.isPrefixOf_iff_prefix.1 hp).trans (List.prefix_append _ v))
    · rename_i hp
      obtain ⟨⟨a', b'⟩, hs, he⟩ := Option.map_eq_some_iff.1 h
      cases he
      have hlength : d.length ≤ (c :: s).length := by
        rw [(strstr_eq_some hs).1, List.length_cons, List.length_append]
        have hle := (strstr_eq_some hs).2.length_le
        omega
      have hp' : ¬ d <+: c :: (s ++ v) := by
        rw [List.isPrefixOf_iff_prefix] at hp
        exact fun hpre => hp
          (List.prefix_of_prefix_length_le hpre (List.prefix_append (c :: s) v) hlength)
      rw [List.cons_append, strstr_later hp', ih hs]
      rfl

/-- The needle does not stand before its first occurrence. -/
theorem strstr_not_infix (hd : d ≠ []) (h : strstr d s = some (a, b)) : ¬ d <:+: a := by
  induction s generalizing a with
  | nil =>
    rw [strstr, if_neg hd] at h
    cases h
  | cons c s ih =>
    rw [strstr] at h
    split at h
    · cases h
      rw [List.infix_nil]
      exact hd
    · rename_i hp
      obtain ⟨⟨a', b'⟩, hs, he⟩ := Option.map_eq_some_iff.1 h
      cases he
      rw [List.infix_cons_iff, not_or]
      refine ⟨?_, ih hs⟩
      intro hpre
      apply hp
      rw [List.isPrefixOf_iff_prefix, (strstr_eq_some hs).1]
      exact hpre.trans (List.prefix_append (c :: a') b')

/-- The needle is found where it first fits, when no earlier place fits. -/
theorem strstr_append (d r : Str) (h : ∀ a b, a ++ b = s → b ≠ [] → ¬ d <+: b ++ (d ++ r)) :
    strstr d (s ++ (d ++ r)) = some (s, d ++ r) := by
  induction s with
  | nil =>
    cases hr : d ++ r with
    | nil =>
      obtain ⟨rfl, rfl⟩ := List.append_eq_nil_iff.1 hr
      rfl
    | cons c t =>
      rw [List.nil_append, strstr, if_pos]
      rw [List.isPrefixOf_iff_prefix, ← hr]
      exact List.prefix_append d r
  | cons c s ih =>
    have hc : ¬ d.isPrefixOf (c :: (s ++ (d ++ r))) = true := by
      rw [List.isPrefixOf_iff_prefix]
      exact h [] (c :: s) rfl (List.cons_ne_nil c s)
    rw [List.cons_append, strstr, if_neg hc, ih]
    · rfl
    · intro a b hab
      exact h (c :: a) b (congrArg (c :: ·) hab)

@[simp] theorem strchr_append (h : d ∉ a) (b : Str) :
    strchr d (a ++ d :: b) = some (a, d :: b) := by
  induction a with
  | nil => simp [strchr]
  | cons c a ih =>
    have hc : c ≠ d := fun he => h (he ▸ List.mem_cons_self)
    rw [List.cons_append, strchr, if_neg hc, ih (fun ha => h (List.mem_cons_of_mem c ha))]
    rfl

theorem strchr_eq_some (h : strchr d s = some (a, b)) : ∃ r, b = d :: r ∧ s = a ++ d :: r := by
  induction s generalizing a with
  | nil => cases h
  | cons c s ih =>
    rw [strchr] at h
    split at h
    · rename_i hc
      cases h
      exact ⟨s, congrArg (· :: s) hc, congrArg (· :: s) hc⟩
    · obtain ⟨⟨a', b'⟩, hs, he⟩ := Option.map_eq_some_iff.1 h
      cases he
      obtain ⟨r, hb, hsr⟩ := ih hs
      exact ⟨r, hb, congrArg (c :: ·) hsr⟩

theorem strchr_not_mem (h : strchr d s = some (a, b)) : d ∉ a := by
  induction s generalizing a with
  | nil => cases h
  | cons c s ih =>
    rw [strchr] at h
    split at h
    · cases h
      exact List.not_mem_nil
    · rename_i hc
      obtain ⟨⟨a', b'⟩, hs, he⟩ := Option.map_eq_some_iff.1 h
      cases he
      rw [List.mem_cons, not_or]
      exact ⟨fun hd => hc hd.symm, ih hs⟩

/-- A text is cut at its first separator in one way. -/
theorem cut_unique {a b : Str} (ha : d ∉ a) (hb : d ∉ b) (h : a ++ d :: p = b ++ d :: q) :
    a = b ∧ p = q := by
  have hs := congrArg (strchr d) h
  rw [strchr_append ha, strchr_append hb] at hs
  cases hs
  exact ⟨rfl, rfl⟩

theorem strchr_eq_none_iff : strchr d s = none ↔ d ∉ s := by
  induction s with
  | nil => exact iff_of_true rfl List.not_mem_nil
  | cons c s ih =>
    rw [strchr, List.mem_cons, not_or]
    split
    · rename_i hc
      simp [hc]
    · rename_i hc
      rw [Option.map_eq_none_iff, ih]
      exact (and_iff_right (Ne.symm hc)).symm

theorem signed_suffix (s : Str) : (signed s).2 <:+ s := by
  rw [signed.eq_def]
  split
  · exact List.suffix_cons _ _
  · exact List.suffix_cons _ _
  · exact List.suffix_rfl

/-- `end` points into the text, and the value is 0 when it points to its start. -/
theorem strtoul_spec (s : Str) :
    ∃ a, s = a ++ (strtoul s).2 ∧ (a = [] → strtoul s = (0, s)) := by
  by_cases hd : (signed (s.dropWhile isspace)).2.takeWhile isdigit = []
  · exact ⟨[], by simp [strtoul, hd], fun _ => by simp [strtoul, hd]⟩
  · set q := (signed (s.dropWhile isspace)).2 with hq
    have he : (strtoul s).2 = q.dropWhile isdigit := by
      simp only [strtoul, ← hq, if_neg hd]
    obtain ⟨a, ha⟩ := (signed_suffix _).trans (List.dropWhile_suffix (l := s) isspace)
    rw [← hq] at ha
    refine ⟨a ++ q.takeWhile isdigit, ?_, ?_⟩
    · rw [he, List.append_assoc, List.takeWhile_append_dropWhile, ha]
    · intro hnil
      exact absurd (List.append_eq_nil_iff.1 hnil).2 hd

theorem isspace_of_isdigit (h : isdigit c = true) : isspace c = false := by
  cases hs : isspace c with
  | false => rfl
  | true =>
    simp only [isspace, Bool.or_eq_true, decide_eq_true_eq, or_assoc] at hs
    rcases hs with rfl | rfl | rfl | rfl | rfl | rfl <;> exact absurd h (by decide)

theorem signed_unsigned (hm : c ≠ '-') (hp : c ≠ '+') (r : Str) :
    signed (c :: r) = (false, c :: r) := by
  rw [signed.eq_def]
  split
  · rename_i he
    exact absurd (List.cons.inj he).1 hm
  · rename_i he
    exact absurd (List.cons.inj he).1 hp
  · rfl

theorem signed_of_isdigit (h : isdigit c = true) (r : Str) : signed (c :: r) = (false, c :: r) := by
  apply signed_unsigned <;>
    · rintro rfl
      exact absurd h (by decide)

theorem signed_append (h : a ≠ []) (b : Str) :
    signed (a ++ b) = ((signed a).1, (signed a).2 ++ b) := by
  cases a with
  | nil => exact absurd rfl h
  | cons c a =>
    by_cases hm : c = '-'
    · subst hm
      rfl
    by_cases hp : c = '+'
    · subst hp
      rfl
    rw [List.cons_append, signed_unsigned hm hp, signed_unsigned hm hp]
    rfl

theorem takeWhile_isdigit_append (h : isdigit d = false) (a b : Str) :
    (a ++ d :: b).takeWhile isdigit = a.takeWhile isdigit := by
  induction a with
  | nil =>
    rw [List.nil_append, List.takeWhile_cons_of_neg (by rw [h]; exact Bool.false_ne_true)]
    rfl
  | cons c a ih =>
    rw [List.cons_append, List.takeWhile_cons, List.takeWhile_cons, ih]

theorem unsignedLong_small (h : n ≤ 9) : unsignedLong false n = n := by
  rw [unsignedLong, if_neg, if_neg Bool.false_ne_true]
  simp only [ULONG_MAX]
  omega

theorem strtoul_digit (hc : isdigit c = true) (hd : isdigit d = false) (r : Str) :
    strtoul (c :: d :: r) = (c.toNat - '0'.toNat, d :: r) := by
  have hle : c.toNat - '0'.toNat ≤ 9 := by
    simp only [isdigit, Bool.and_eq_true, decide_eq_true_eq] at hc
    have h9 : c.toNat ≤ '9'.toNat := hc.2
    have hdiff : '9'.toNat - '0'.toNat = 9 := by decide
    omega
  have hblank : (c :: d :: r).dropWhile isspace = c :: d :: r := by
    simp only [List.dropWhile_cons, isspace_of_isdigit hc, Bool.false_eq_true, if_false]
  simp only [strtoul, hblank, signed_of_isdigit hc, List.takeWhile_cons, List.dropWhile_cons, hc,
    hd, if_true, Bool.false_eq_true, if_false, reduceCtorEq, decimal, List.foldl_cons,
    List.foldl_nil, Nat.mul_zero, Nat.zero_add, unsignedLong_small hle]

end CString
