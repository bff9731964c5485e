import SiteOnYourDevice.CString

namespace Sds
open CString
set_option relaxedAutoImplicit false
set_option autoImplicit true

def is_hex_digit (c : Char) : Bool :=
  ('0' ≤ c && c ≤ '9') || ('a' ≤ c && c ≤ 'f') || ('A' ≤ c && c ≤ 'F')

def hex_digit_to_int (c : Char) : Nat :=
  if '0' ≤ c ∧ c ≤ '9' then c.toNat - '0'.toNat
  else if 'a' ≤ c ∧ c ≤ 'f' then c.toNat - 'a'.toNat + 10
  else if 'A' ≤ c ∧ c ≤ 'F' then c.toNat - 'A'.toNat + 10
  else 0

def hexByte (a b : Char) : Char := Char.ofNat (hex_digit_to_int a * 16 + hex_digit_to_int b)

/-- The byte a backslash escape stands for inside double quotes. -/
def unescape : Char → Char
  | 'n' => '\n'
  | 'r' => '\r'
  | 't' => '\t'
  | 'b' => '\x08'
  | 'a' => '\x07'
  | c => c

/-- Where the tokenizer stands: between tokens, or in a token with its text so far, outside
quotes or inside one of the two kinds. -/
inductive Scan
  | blank
  | token (current : Str)
  | inq (current : Str)
  | insq (current : Str)

/-- The characters that end a token outside quotes; `isspace` has two more. -/
def isTokenEnd (c : Char) : Bool := c = ' ' || c = '\n' || c = '\r' || c = '\t'

/-- Outside quotes any other character opens a quote or belongs to the token. -/
def Scan.unquoted (current : Str) (c : Char) : Scan :=
  if c = '"' then .inq current else if c = '\'' then .insq current else .token (current ++ [c])

/-- A closing quote must be followed by a space or nothing at all. -/
def quoteEnds : Str → Bool
  | [] => true
  | c :: _ => isspace c

/-- The two loops of `sdssplitargs` on the rest of a NUL-terminated line; `none` is its NULL. -/
def splitFrom : Scan → List Str → Str → Option (List Str)
  | .blank, vector, [] => some vector
  | .blank, vector, c :: p =>
    if isspace c then splitFrom .blank vector p else splitFrom (.unquoted [] c) vector p
  | .token current, vector, [] => some (vector ++ [current])
  | .token current, vector, c :: p =>
    if isTokenEnd c then splitFrom .blank (vector ++ [current]) p
    else splitFrom (.unquoted current c) vector p
  | .inq _, _, [] => none
  | .inq current, vector, '\\' :: 'x' :: a :: b :: p =>
    if is_hex_digit a && is_hex_digit b then splitFrom (.inq (current ++ [hexByte a b])) vector p
    else splitFrom (.inq (current ++ ['x'])) vector (a :: b :: p)
  | .inq current, vector, '\\' :: c :: p => splitFrom (.inq (current ++ [unescape c])) vector p
  | .inq current, vector, c :: p =>
    if c = '"' then
      if quoteEnds p then splitFrom .blank (vector ++ [current]) p else none
    else splitFrom (.inq (current ++ [c])) vector p
  | .insq _, _, [] => none
  | .insq current, vector, '\\' :: '\'' :: p => splitFrom (.insq (current ++ ['\''])) vector p
  | .insq current, vector, c :: p =>
    if c = '\'' then
      if quoteEnds p then splitFrom .blank (vector ++ [current]) p else none
    else splitFrom (.insq (current ++ [c])) vector p
termination_by structural _ _ p => p

/-- `sdssplitargs`: the arguments of a line, or `none` when its quotes do not balance. -/
def sdssplitargs (line : Str) : Option (List Str) := splitFrom .blank [] line

example : sdssplitargs "ok plz_config '[\"b c\"]' x\"\\x41\\\" b\" ".toList =
    some ["ok".toList, "plz_config".toList, "[\"b c\"]".toList, "xA\" b".toList] := by
  decide

/-- A hexadecimal escape, as it stands after its backslash. -/
def HexEscape (s : Str) : Prop :=
  ∃ a b p, s = 'x' :: a :: b :: p ∧ is_hex_digit a = true ∧ is_hex_digit b = true

@[simp] theorem splitFrom_token_nil : splitFrom (.token t) v [] = some (v ++ [t]) := rfl

theorem splitFrom_blank_space (h : isspace c = true) :
    splitFrom .blank v (c :: p) = splitFrom .blank v p :=
  if_pos h

theorem splitFrom_blank_char (h : isspace c = false) :
    splitFrom .blank v (c :: p) = splitFrom (.unquoted [] c) v p :=
  if_neg (Bool.eq_false_iff.1 h)

theorem splitFrom_token_end (h : isTokenEnd c = true) :
    splitFrom (.token t) v (c :: p) = splitFrom .blank (v ++ [t]) p :=
  if_pos h

theorem splitFrom_token_char (h : isTokenEnd c = false) :
    splitFrom (.token t) v (c :: p) = splitFrom (.unquoted t c) v p :=
  if_neg (Bool.eq_false_iff.1 h)

theorem splitFrom_inq_close :
    splitFrom (.inq t) v ('"' :: p) =
      if quoteEnds p then splitFrom .blank (v ++ [t]) p else none := rfl

theorem splitFrom_inq_hex (ha : is_hex_digit a = true) (hb : is_hex_digit b = true) :
    splitFrom (.inq t) v ('\\' :: 'x' :: a :: b :: p) =
      splitFrom (.inq (t ++ [hexByte a b])) v p :=
  if_pos (Bool.and_eq_true_iff.2 ⟨ha, hb⟩)

theorem splitFrom_inq_escape (h : ¬ HexEscape (c :: p)) :
    splitFrom (.inq t) v ('\\' :: c :: p) = splitFrom (.inq (t ++ [unescape c])) v p := by
  by_cases hx : ∃ a b q, c = 'x' ∧ p = a :: b :: q
  · obtain ⟨a, b, q, rfl, rfl⟩ := hx
    have hn : ¬ (is_hex_digit a && is_hex_digit b) = true := fun hh =>
      h ⟨a, b, q, rfl, Bool.and_eq_true_iff.1 hh⟩
    rw [splitFrom, if_neg hn]
    rfl
  · rw [splitFrom]
    intro a b q hc hp
    exact hx ⟨a, b, q, hc, hp⟩

theorem splitFrom_inq_char (hq : c ≠ '"') (hb : c ≠ '\\') :
    splitFrom (.inq t) v (c :: p) = splitFrom (.inq (t ++ [c])) v p := by
  rw [splitFrom, if_neg hq]
  · intro a b q hc
    exact absurd hc hb
  · intro d q hc
    exact absurd hc hb

theorem splitFrom_insq_close :
    splitFrom (.insq t) v ('\'' :: p) =
      if quoteEnds p then splitFrom .blank (v ++ [t]) p else none := rfl

theorem splitFrom_insq_escape :
    splitFrom (.insq t) v ('\\' :: '\'' :: p) = splitFrom (.insq (t ++ ['\''])) v p := rfl

theorem splitFrom_insq_char (hq : c ≠ '\'') (hb : c = '\\' → p.head? ≠ some '\'') :
    splitFrom (.insq t) v (c :: p) = splitFrom (.insq (t ++ [c])) v p := by
  rw [splitFrom, if_neg hq]
  intro q hc hp
  exact hb hc (by rw [hp]; rfl)

theorem unquoted_char (hq : c ≠ '"') (hs : c ≠ '\'') :
    Scan.unquoted t c = .token (t ++ [c]) := by
  rw [Scan.unquoted, if_neg hq, if_neg hs]

theorem isTokenEnd_isspace (h : isTokenEnd c = true) : isspace c = true := by
  simp only [isTokenEnd, Bool.or_eq_true, decide_eq_true_eq, or_assoc] at h
  rcases h with rfl | rfl | rfl | rfl <;> rfl

theorem is_hex_digit_plain (h : is_hex_digit c = true) :
    c ≠ '"' ∧ c ≠ '\'' ∧ c ≠ '\\' ∧ c ≠ ' ' := by
  refine ⟨?_, ?_, ?_, ?_⟩ <;>
    · rintro rfl
      exact absurd h (by decide)

/-- A token that needs no quotes. -/
structure IsWord (w : Str) : Prop where
  ne_nil : w ≠ []
  plain : ∀ c ∈ w, isspace c = false ∧ c ≠ '"' ∧ c ≠ '\''

theorem IsWord.of_all (hne : w ≠ [])
    (h : (w.all fun c => !isspace c && c ≠ '"' && c ≠ '\'') = true) : IsWord w := by
  refine ⟨hne, ?_⟩
  intro c hc
  simpa [and_assoc] using List.all_eq_true.1 h c hc

theorem splitFrom_token_plain (h : ∀ c ∈ w, isspace c = false ∧ c ≠ '"' ∧ c ≠ '\'') :
    splitFrom (.token t) v (w ++ p) = splitFrom (.token (t ++ w)) v p := by
  induction w generalizing t with
  | nil => rw [List.append_nil, List.nil_append]
  | cons c w ih =>
    obtain ⟨hc, hq, hs⟩ := h c List.mem_cons_self
    have he : isTokenEnd c = false :=
      Bool.eq_false_iff.2 fun he => Bool.eq_false_iff.1 hc (isTokenEnd_isspace he)
    rw [List.cons_append, splitFrom_token_char he, unquoted_char hq hs,
      ih fun d hd => h d (List.mem_cons_of_mem c hd), List.append_assoc, List.singleton_append]

theorem IsWord.splitFrom_blank (h : IsWord w) :
    splitFrom .blank v (w ++ p) = splitFrom (.token w) v p := by
  cases w with
  | nil => exact absurd rfl h.ne_nil
  | cons c w =>
    obtain ⟨hc, hq, hs⟩ := h.plain c List.mem_cons_self
    rw [List.cons_append, splitFrom_blank_char hc, unquoted_char hq hs,
      splitFrom_token_plain fun d hd => h.plain d (List.mem_cons_of_mem c hd)]
    rfl

theorem splitFrom_blank_blanks (h : ∀ c ∈ p, c = ' ') : splitFrom .blank v p = some v := by
  induction p with
  | nil => rfl
  | cons c p ih =>
    have hc : isspace c = true := h c List.mem_cons_self ▸ rfl
    rw [splitFrom_blank_space hc, ih fun d hd => h d (List.mem_cons_of_mem c hd)]

theorem splitFrom_token_blank (h : ∀ c, p.head? = some c → c = ' ') :
    splitFrom (.token t) v p = splitFrom .blank (v ++ [t]) p := by
  cases p with
  | nil => rfl
  | cons c p =>
    obtain rfl := h c rfl
    rw [splitFrom_token_end rfl, splitFrom_blank_space rfl]

/-- Words that each follow one blank are the arguments; blanks at the end change nothing. -/
theorem splitFrom_words {ws : List Str} (hw : ∀ w ∈ ws, IsWord w) (hp : ∀ c ∈ p, c = ' ') :
    splitFrom .blank v (ws.flatMap (fun w => ' ' :: w) ++ p) = some (v ++ ws) := by
  induction ws generalizing v with
  | nil =>
    rw [List.flatMap_nil, List.nil_append, List.append_nil]
    exact splitFrom_blank_blanks hp
  | cons w ws ih =>
    have hhead : ∀ c, (ws.flatMap (fun w => ' ' :: w) ++ p).head? = some c → c = ' ' := by
      intro c hc
      cases ws with
      | nil => exact hp c (List.mem_of_mem_head? hc)
      | cons u us => exact (Option.some.inj hc).symm
    rw [List.flatMap_cons, List.append_assoc, List.cons_append, splitFrom_blank_space rfl,
      (hw w List.mem_cons_self).splitFrom_blank, splitFrom_token_blank hhead,
      ih fun u hu => hw u (List.mem_cons_of_mem w hu), List.append_assoc, List.singleton_append]

theorem splitFrom_prefix (h : splitFrom m v p = some r) : v <+: r := by
  fun_induction splitFrom m v p with
  | case1 v =>
    cases h
    exact List.prefix_rfl
  | case4 t v =>
    cases h
    exact List.prefix_append v [t]
  | case5 t v c p hc ih | case11 t v p hq _ _ ih | case16 t v p hq _ ih =>
    exact (List.prefix_append v _).trans (ih h)
  | case7 | case12 | case14 | case17 => cases h
  | case2 _ _ _ _ ih | case3 _ _ _ _ ih | case6 _ _ _ _ _ ih | case8 _ _ _ _ _ _ ih
  | case9 _ _ _ _ _ _ ih | case10 _ _ _ _ _ ih | case13 _ _ _ _ _ _ _ ih | case15 _ _ _ ih
  | case18 _ _ _ _ _ _ ih => exact ih h

/-- The text of a token that has been begun. -/
def Scan.current : Scan → Str
  | .blank => []
  | .token t | .inq t | .insq t => t

theorem Scan.unquoted_begun (t : Str) (c : Char) :
    Scan.unquoted t c ≠ .blank ∧ t <+: (Scan.unquoted t c).current := by
  rw [Scan.unquoted]
  split
  · exact ⟨nofun, List.prefix_rfl⟩
  split
  · exact ⟨nofun, List.prefix_rfl⟩
  · exact ⟨nofun, List.prefix_append t [c]⟩

/-- A token that has been begun is the next argument. -/
theorem splitFrom_current (h : splitFrom m v p = some r) (hm : m ≠ .blank) :
    ∃ w u, r = v ++ w :: u ∧ m.current <+: w := by
  have hgrow : ∀ {s t : Str}, (∃ w u, r = v ++ w :: u ∧ t <+: w) → s <+: t →
      ∃ w u, r = v ++ w :: u ∧ s <+: w := by
    rintro s t ⟨w, u, hr, hw⟩ hs
    exact ⟨w, u, hr, hs.trans hw⟩
  fun_induction splitFrom m v p with
  | case1 | case2 | case3 => exact absurd rfl hm
  | case4 t v =>
    cases h
    exact ⟨t, [], rfl, List.prefix_rfl⟩
  | case5 t v c p hc ih | case11 t v p hq _ _ ih | case16 t v p hq _ ih =>
    obtain ⟨u, rfl⟩ := splitFrom_prefix h
    exact ⟨t, u, by rw [List.append_assoc, List.singleton_append], List.prefix_rfl⟩
  | case6 t v c p hc ih =>
    obtain ⟨hb, hp⟩ := Scan.unquoted_begun t c
    exact hgrow (ih h hb @hgrow) hp
  | case7 | case12 | case14 | case17 => cases h
  | case8 t v a b p _ ih | case9 t v a b p _ ih | case10 t v c p _ ih
  | case13 t v c p _ _ _ ih | case15 t v p ih | case18 t v c p _ _ ih =>
    exact hgrow (ih h nofun @hgrow) (List.prefix_append t _)

theorem Scan.unquoted_length (t : Str) (c : Char) :
    (Scan.unquoted t c).current.length ≤ t.length + 1 := by
  rw [Scan.unquoted]
  split
  · exact Nat.le_succ _
  split
  · exact Nat.le_succ _
  · rw [Scan.current, List.length_append, List.length_singleton]

/-- Every character of an argument comes from one of the line. -/
theorem splitFrom_length_le (h : splitFrom m v p = some r) :
    r.flatten.length ≤ v.flatten.length + m.current.length + p.length := by
  fun_induction splitFrom m v p with
  | case1 v =>
    cases h
    exact Nat.le_add_right _ _
  | case4 t v =>
    cases h
    simp [Scan.current]
  | case2 v c p _ ih => exact (ih h).trans (Nat.le_succ _)
  | case3 v c p _ ih =>
    have hl := ih h
    have hu := Scan.unquoted_length [] c
    simp only [Scan.current, List.length_nil, List.length_cons] at hl hu ⊢
    omega
  | case6 t v c p _ ih =>
    have hl := ih h
    have hu := Scan.unquoted_length t c
    simp only [Scan.current, List.length_cons] at hl hu ⊢
    omega
  | case7 | case12 | case14 | case17 => cases h
  | case5 _ _ _ _ _ ih | case11 _ _ _ _ _ _ ih | case16 _ _ _ _ _ ih
  | case8 _ _ _ _ _ _ ih | case9 _ _ _ _ _ _ ih | case10 _ _ _ _ _ ih
  | case13 _ _ _ _ _ _ _ ih | case15 _ _ _ ih | case18 _ _ _ _ _ _ ih =>
    have hl := ih h
    simp only [Scan.current, List.flatten_append, List.flatten_singleton, List.length_append,
      List.length_cons, List.length_nil] at hl ⊢
    omega

theorem sdssplitargs_length_le {line : Str} (h : sdssplitargs line = some r) :
    r.flatten.length ≤ line.length := by
  have hl := splitFrom_length_le h
  simp only [Scan.current, List.flatten_nil, List.length_nil] at hl
  omega

/-- The first argument begins with the first character, when that is a plain one. -/
theorem sdssplitargs_first {cmd : Str} {ws : List Str} (hc : isspace c = false) (hq : c ≠ '"')
    (hs : c ≠ '\'')
    (hcmd : cmd <+: ' ' :: c :: p) (h : sdssplitargs cmd = some (w :: ws)) : [c] <+: w := by
  match cmd with
  | [] => cases h
  | [d] =>
    obtain ⟨rfl, _⟩ := List.cons_prefix_cons.1 hcmd
    cases h
  | d :: e :: q =>
    obtain ⟨hd, he⟩ := List.cons_prefix_cons.1 hcmd
    obtain ⟨he, _⟩ := List.cons_prefix_cons.1 he
    subst hd he
    rw [sdssplitargs, splitFrom_blank_space rfl, splitFrom_blank_char hc, unquoted_char hq hs] at h
    obtain ⟨w', u, hw, hp⟩ := splitFrom_current h nofun
    obtain ⟨rfl, _⟩ := List.cons.inj hw
    exact hp

/-- Between single quotes everything stands for itself, when no quote is among it. -/
theorem splitFrom_insq_quoted (h : '\'' ∉ s) (hb : s.getLast? ≠ some '\\') :
    splitFrom (.insq t) v (s ++ ['\'']) = some (v ++ [t ++ s]) := by
  induction s generalizing t with
  | nil =>
    rw [List.nil_append, splitFrom_insq_close, List.append_nil]
    rfl
  | cons c s ih =>
    rw [List.mem_cons, not_or] at h
    have hhead : c = '\\' → (s ++ ['\'']).head? ≠ some '\'' := by
      rintro rfl hq
      cases s with
      | nil => exact hb rfl
      | cons d s => exact h.2 (Option.some.inj hq ▸ List.mem_cons_self)
    have hlast : s.getLast? ≠ some '\\' := by
      intro hl
      apply hb
      rw [List.getLast?_cons, hl]
      rfl
    rw [List.cons_append, splitFrom_insq_char (Ne.symm h.1) hhead, ih h.2 hlast,
      List.append_assoc, List.singleton_append]

/-- A quote inside is lost: the argument read is shorter than what stands between the quotes. -/
theorem splitFrom_insq_some (h : splitFrom (.insq t) v (s ++ ['\'']) = some r) :
    ∃ w u, r = v ++ (t ++ w) :: u ∧ w.length ≤ s.length ∧
      (w.length = s.length → '\'' ∉ s) := by
  induction hk : s.length using Nat.strong_induction_on generalizing s t with
  | _ k ih =>
    subst hk
    cases s with
    | nil =>
      cases h
      exact ⟨[], [], by rw [List.append_nil], le_rfl, fun _ => List.not_mem_nil⟩
    | cons c s =>
      rw [List.cons_append] at h
      by_cases hq : c = '\''
      · subst hq
        rw [splitFrom_insq_close] at h
        split at h
        · obtain ⟨u, rfl⟩ := splitFrom_prefix h
          exact ⟨[], u, by simp, Nat.zero_le _, fun hl => absurd hl (by simp)⟩
        · cases h
      by_cases hb : c = '\\' ∧ (s ++ ['\'']).head? = some '\''
      · obtain ⟨rfl, hhead⟩ := hb
        cases s with
        | nil => cases h
        | cons d s =>
          obtain rfl : d = '\'' := Option.some.inj hhead
          rw [List.cons_append, splitFrom_insq_escape] at h
          have hlt : s.length < ('\\' :: '\'' :: s).length := by
            simp only [List.length_cons]
            omega
          obtain ⟨w, u, hr, hle, _⟩ := ih s.length hlt h rfl
          refine ⟨'\'' :: w, u, by rw [hr, List.append_assoc, List.singleton_append], ?_, ?_⟩
          · simp only [List.length_cons]
            omega
          · simp only [List.length_cons]
            omega
      · rw [splitFrom_insq_char hq fun hc hhead => hb ⟨hc, hhead⟩] at h
        obtain ⟨w, u, hr, hle, hno⟩ := ih s.length (by simp) h rfl
        refine ⟨c :: w, u, by rw [hr, List.append_assoc, List.singleton_append], ?_, ?_⟩
        · simpa using hle
        · intro hl
          rw [List.mem_cons, not_or]
          exact ⟨Ne.symm hq, hno (Nat.succ.inj hl)⟩

/-- What stands between single quotes is read as it stands exactly when no quote is among it. -/
theorem splitFrom_insq_iff (hb : s.getLast? ≠ some '\\') :
    splitFrom (.insq t) v (s ++ ['\'']) = some (v ++ [t ++ s]) ↔ '\'' ∉ s := by
  constructor
  · intro h
    obtain ⟨w, u, hr, _, hno⟩ := splitFrom_insq_some h
    obtain ⟨hw, _⟩ := List.cons.inj (List.append_cancel_left hr)
    rw [List.append_cancel_left hw] at hno ⊢
    exact hno rfl
  · intro h
    exact splitFrom_insq_quoted h hb

end Sds
