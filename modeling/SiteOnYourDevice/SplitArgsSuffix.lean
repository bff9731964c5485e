import SiteOnYourDevice.SdsSplitArgs

namespace Sds
open CString
set_option relaxedAutoImplicit false
set_option autoImplicit true

/-- Two states of the tokenizer that differ at most in the text of the current token. -/
inductive SameKind : Scan → Scan → Prop
  | blank : SameKind .blank .blank
  | token (t u : Str) : SameKind (.token t) (.token u)
  | inq (t u : Str) : SameKind (.inq t) (.inq u)
  | insq (t u : Str) : SameKind (.insq t) (.insq u)

theorem SameKind.unquoted (t u : Str) (c : Char) :
    SameKind (.unquoted t c) (.unquoted u c) := by
  simp only [Scan.unquoted]
  split
  · exact .inq t u
  · split
    · exact .insq t u
    · exact .token _ _

theorem unquoted_inj (h : Scan.unquoted t c = Scan.unquoted u c) : t = u := by
  simp only [Scan.unquoted] at h
  split at h
  · exact Scan.inq.inj h
  · split at h
    · exact Scan.insq.inj h
    · exact List.append_cancel_right (Scan.token.inj h)

theorem inq_append_inj (h : Scan.inq (t ++ [c]) = .inq (u ++ [c])) : Scan.inq t = .inq u :=
  congrArg Scan.inq (List.append_cancel_right (Scan.inq.inj h))

theorem insq_append_inj (h : Scan.insq (t ++ [c]) = .insq (u ++ [c])) : Scan.insq t = .insq u :=
  congrArg Scan.insq (List.append_cancel_right (Scan.insq.inj h))

/-- From one kind of state, the result determines what had been read before. -/
theorem splitFrom_inj (hk : SameKind m n) (h : splitFrom m v p = some r)
    (h' : splitFrom n w p = some r) : m = n ∧ v = w := by
  induction m, v, p using splitFrom.induct generalizing n w with
  | case1 v =>
    cases hk
    exact ⟨rfl, Option.some.inj (h.trans h'.symm)⟩
  | case2 v c p hc ih =>
    cases hk
    rw [splitFrom_blank_space hc] at h h'
    exact ih .blank h h'
  | case3 v c p hc ih =>
    cases hk
    have hs : isspace c = false := Bool.eq_false_iff.2 hc
    rw [splitFrom_blank_char hs] at h h'
    exact ⟨rfl, (ih (.unquoted _ _ _) h h').2⟩
  | case4 t v =>
    cases hk with
    | token t u =>
      rw [splitFrom_token_nil] at h h'
      have he := Option.some.inj (h.trans h'.symm)
      obtain ⟨hv, ht⟩ := List.append_singleton_inj.1 he
      exact ⟨congrArg Scan.token ht, hv⟩
  | case5 t v c p hc ih =>
    cases hk with
    | token t u =>
      rw [splitFrom_token_end hc] at h h'
      obtain ⟨hv, ht⟩ := List.append_singleton_inj.1 (ih .blank h h').2
      exact ⟨congrArg Scan.token ht, hv⟩
  | case6 t v c p hc ih =>
    cases hk with
    | token t u =>
      have he : isTokenEnd c = false := Bool.eq_false_iff.2 hc
      rw [splitFrom_token_char he] at h h'
      obtain ⟨ht, hv⟩ := ih (.unquoted _ _ _) h h'
      exact ⟨congrArg Scan.token (unquoted_inj ht), hv⟩
  | case7 t v => cases h
  | case8 t v a b p hab ih =>
    cases hk with
    | inq t u =>
      obtain ⟨ha, hb⟩ := Bool.and_eq_true_iff.1 hab
      rw [splitFrom_inq_hex ha hb] at h h'
      obtain ⟨ht, hv⟩ := ih (.inq _ _) h h'
      exact ⟨inq_append_inj ht, hv⟩
  | case9 t v a b p hab ih =>
    cases hk with
    | inq t u =>
      have hn : ¬ HexEscape ('x' :: a :: b :: p) := by
        rintro ⟨a', b', p', he, ha, hb⟩
        cases he
        exact hab (Bool.and_eq_true_iff.2 ⟨ha, hb⟩)
      rw [splitFrom_inq_escape hn] at h h'
      obtain ⟨ht, hv⟩ := ih (.inq _ _) h h'
      exact ⟨inq_append_inj ht, hv⟩
  | case10 t v c p hx ih =>
    cases hk with
    | inq t u =>
      have hn : ¬ HexEscape (c :: p) := by
        rintro ⟨a, b, q, he, _, _⟩
        cases he
        exact hx a b q rfl rfl
      rw [splitFrom_inq_escape hn] at h h'
      obtain ⟨ht, hv⟩ := ih (.inq _ _) h h'
      exact ⟨inq_append_inj ht, hv⟩
  | case11 t v p hq _ _ ih =>
    cases hk with
    | inq t u =>
      rw [splitFrom_inq_close, if_pos hq] at h h'
      obtain ⟨hv, ht⟩ := List.append_singleton_inj.1 (ih .blank h h').2
      exact ⟨congrArg Scan.inq ht, hv⟩
  | case12 t v p hq _ _ =>
    rw [splitFrom_inq_close, if_neg hq] at h
    cases h
  | case13 t v c p _ hb hq ih =>
    cases hk with
    | inq t u =>
      by_cases hc : c = '\\'
      · subst hc
        cases p with
        | nil => cases h
        | cons d p => exact absurd rfl (hb d p rfl)
      · rw [splitFrom_inq_char hq hc] at h h'
        obtain ⟨ht, hv⟩ := ih (.inq _ _) h h'
        exact ⟨inq_append_inj ht, hv⟩
  | case14 t v => cases h
  | case15 t v p ih =>
    cases hk with
    | insq t u =>
      rw [splitFrom_insq_escape] at h h'
      obtain ⟨ht, hv⟩ := ih (.insq _ _) h h'
      exact ⟨insq_append_inj ht, hv⟩
  | case16 t v p hq _ ih =>
    cases hk with
    | insq t u =>
      rw [splitFrom_insq_close, if_pos hq] at h h'
      obtain ⟨hv, ht⟩ := List.append_singleton_inj.1 (ih .blank h h').2
      exact ⟨congrArg Scan.insq ht, hv⟩
  | case17 t v p hq _ =>
    rw [splitFrom_insq_close, if_neg hq] at h
    cases h
  | case18 t v c p hb hq ih =>
    cases hk with
    | insq t u =>
      have hb' : c = '\\' → p.head? ≠ some '\'' := by
        intro hc hp
        obtain ⟨q, rfl⟩ := List.head?_eq_some_iff.1 hp
        exact hb q hc rfl
      rw [splitFrom_insq_char hq hb'] at h h'
      obtain ⟨ht, hv⟩ := ih (.insq _ _) h h'
      exact ⟨insq_append_inj ht, hv⟩

/-- What is read at once inside double quotes, by the text there: the state after it and the rest
of the text. -/
inductive InqRead (t : Str) (v : List Str) : Str → Scan → List Str → Str → Prop
  | close {p : Str} (h : quoteEnds p = true) : InqRead t v ('"' :: p) .blank (v ++ [t]) p
  | hex {a b : Char} {p : Str} (ha : is_hex_digit a = true) (hb : is_hex_digit b = true) :
    InqRead t v ('\\' :: 'x' :: a :: b :: p) (.inq (t ++ [hexByte a b])) v p
  | escape {c : Char} {p : Str} (h : ¬ HexEscape (c :: p)) :
    InqRead t v ('\\' :: c :: p) (.inq (t ++ [unescape c])) v p
  | char {c : Char} {p : Str} (hq : c ≠ '"') (hb : c ≠ '\\') :
    InqRead t v (c :: p) (.inq (t ++ [c])) v p

theorem splitFrom_inq_read (h : splitFrom (.inq t) v p = some r) :
    ∃ m w q, InqRead t v p m w q ∧ splitFrom m w q = some r := by
  match p with
  | [] => cases h
  | c :: p =>
    by_cases hq : c = '"'
    · subst hq
      rw [splitFrom_inq_close] at h
      split at h
      · rename_i hends
        exact ⟨_, _, _, .close hends, h⟩
      · cases h
    by_cases hb : c = '\\'
    · subst hb
      match p with
      | [] => cases h
      | d :: p =>
        by_cases hx : HexEscape (d :: p)
        · obtain ⟨a, b, q, he, ha, hb⟩ := hx
          cases he
          rw [splitFrom_inq_hex ha hb] at h
          exact ⟨_, _, _, .hex ha hb, h⟩
        · rw [splitFrom_inq_escape hx] at h
          exact ⟨_, _, _, .escape hx, h⟩
    · rw [splitFrom_inq_char hq hb] at h
      exact ⟨_, _, _, .char hq hb, h⟩

/-- The same for single quotes. -/
inductive InsqRead (t : Str) (v : List Str) : Str → Scan → List Str → Str → Prop
  | close {p : Str} (h : quoteEnds p = true) : InsqRead t v ('\'' :: p) .blank (v ++ [t]) p
  | escape {p : Str} : InsqRead t v ('\\' :: '\'' :: p) (.insq (t ++ ['\''])) v p
  | char {c : Char} {p : Str} (hq : c ≠ '\'') (hb : c = '\\' → p.head? ≠ some '\'') :
    InsqRead t v (c :: p) (.insq (t ++ [c])) v p

theorem splitFrom_insq_read (h : splitFrom (.insq t) v p = some r) :
    ∃ m w q, InsqRead t v p m w q ∧ splitFrom m w q = some r := by
  match p with
  | [] => cases h
  | c :: p =>
    by_cases hs : c = '\''
    · subst hs
      rw [splitFrom_insq_close] at h
      split at h
      · rename_i hends
        exact ⟨_, _, _, .close hends, h⟩
      · cases h
    by_cases he : c = '\\' ∧ p.head? = some '\''
    · obtain ⟨rfl, hp⟩ := he
      obtain ⟨p, rfl⟩ := List.head?_eq_some_iff.1 hp
      rw [splitFrom_insq_escape] at h
      exact ⟨_, _, _, .escape, h⟩
    · have hb : c = '\\' → p.head? ≠ some '\'' := fun hc hp => he ⟨hc, hp⟩
      rw [splitFrom_insq_char hs hb] at h
      exact ⟨_, _, _, .char hs hb, h⟩

/-- The states in which a quote character opens a quote. -/
inductive Outside : Scan → Prop
  | blank : Outside .blank
  | token (t : Str) : Outside (.token t)

theorem Outside.unquoted (ho : Outside m) (hc : isspace c = false) :
    splitFrom m v (c :: p) = splitFrom (.unquoted m.current c) v p := by
  cases ho with
  | blank => exact splitFrom_blank_char hc
  | token t =>
    apply splitFrom_token_char
    exact Bool.eq_false_iff.2 fun he => Bool.eq_false_iff.1 hc (isTokenEnd_isspace he)

theorem Outside.dquote (ho : Outside m) :
    splitFrom m v ('"' :: p) = splitFrom (.inq m.current) v p :=
  ho.unquoted rfl

theorem Outside.squote (ho : Outside m) :
    splitFrom m v ('\'' :: p) = splitFrom (.insq m.current) v p :=
  ho.unquoted rfl

theorem Outside.backslash (ho : Outside m) :
    splitFrom m v ('\\' :: p) = splitFrom (.token (m.current ++ ['\\'])) v p :=
  ho.unquoted rfl

/-- A character that is no quote leaves the tokenizer outside quotes. -/
theorem Outside.char (ho : Outside m) (hq : c ≠ '"') (hs : c ≠ '\'') (v : List Str) (p : Str) :
    ∃ n w, Outside n ∧ splitFrom m v (c :: p) = splitFrom n w p := by
  cases ho with
  | blank =>
    cases hc : isspace c with
    | true => exact ⟨_, _, .blank, splitFrom_blank_space hc⟩
    | false => exact ⟨_, _, .token [c], by rw [splitFrom_blank_char hc, unquoted_char hq hs]; rfl⟩
  | token t =>
    cases hc : isTokenEnd c with
    | true => exact ⟨_, _, .blank, splitFrom_token_end hc⟩
    | false => exact ⟨_, _, .token _, by rw [splitFrom_token_char hc, unquoted_char hq hs]⟩

/-- Two states that never agree again: at most one is outside quotes, and inside quotes they are
inside different ones. -/
inductive Apart : Scan → Scan → Prop
  | inq_out (t : Str) (ho : Outside n) : Apart (.inq t) n
  | insq_out (t : Str) (ho : Outside n) : Apart (.insq t) n
  | inq_insq (t u : Str) : Apart (.inq t) (.insq u)
  | symm (h : Apart m n) : Apart n m

/-- No text shorter than `p` gives one result from two states that are apart. -/
def ClashBelow (p : Str) : Prop :=
  ∀ q m n v w r, q.length < p.length → Apart m n → splitFrom m v q = some r →
    splitFrom n w q = some r → False

theorem ClashBelow.inq_out (ih : ClashBelow p) (ho : Outside n)
    (h : splitFrom (.inq t) v p = some r) (h' : splitFrom n w p = some r) : False := by
  obtain ⟨_, _, q, hread, hr⟩ := splitFrom_inq_read h
  cases hread with
  | close _ =>
    rw [ho.dquote] at h'
    exact ih q _ _ _ _ r (Nat.lt_succ_self _) (.symm (.inq_out _ .blank)) hr h'
  | @hex a b _ ha hb =>
    obtain ⟨haq, has, _⟩ := is_hex_digit_plain ha
    obtain ⟨hbq, hbs, _⟩ := is_hex_digit_plain hb
    rw [ho.backslash] at h'
    obtain ⟨n₁, w₁, ho₁, h₁⟩ := (Outside.token _).char (c := 'x') (by decide) (by decide) w
      (a :: b :: q)
    obtain ⟨n₂, w₂, ho₂, h₂⟩ := ho₁.char haq has w₁ (b :: q)
    obtain ⟨n₃, w₃, ho₃, h₃⟩ := ho₂.char hbq hbs w₂ q
    rw [h₁, h₂, h₃] at h'
    exact ih q _ _ _ _ r (by simp only [List.length_cons]; omega) (.inq_out _ ho₃) hr h'
  | @escape c =>
    rw [ho.backslash] at h'
    have hlt : q.length < ('\\' :: c :: q).length := by
      simp only [List.length_cons]
      omega
    by_cases hq : c = '"'
    · -- both are inside double quotes now, one after the quote and one after the backslash
      subst hq
      rw [(Outside.token _).dquote] at h'
      have he := Scan.inq.inj (splitFrom_inj (.inq _ _) hr h').1
      exact absurd (List.append_singleton_inj.1 he).2 (by decide)
    by_cases hs : c = '\''
    · subst hs
      rw [(Outside.token _).squote] at h'
      exact ih q _ _ _ _ r hlt (.inq_insq _ _) hr h'
    · obtain ⟨n', w', ho', h₁⟩ := (Outside.token _).char hq hs w q
      rw [h₁] at h'
      exact ih q _ _ _ _ r hlt (.inq_out _ ho') hr h'
  | @char c _ hq =>
    by_cases hs : c = '\''
    · subst hs
      rw [ho.squote] at h'
      exact ih q _ _ _ _ r (Nat.lt_succ_self _) (.inq_insq _ _) hr h'
    · obtain ⟨n', w', ho', h₁⟩ := ho.char hq hs w q
      rw [h₁] at h'
      exact ih q _ _ _ _ r (Nat.lt_succ_self _) (.inq_out _ ho') hr h'

theorem ClashBelow.insq_out (ih : ClashBelow p) (ho : Outside n)
    (h : splitFrom (.insq t) v p = some r) (h' : splitFrom n w p = some r) : False := by
  obtain ⟨_, _, q, hread, hr⟩ := splitFrom_insq_read h
  cases hread with
  | close _ =>
    rw [ho.squote] at h'
    exact ih q _ _ _ _ r (Nat.lt_succ_self _) (.symm (.insq_out _ .blank)) hr h'
  | escape =>
    -- both are inside single quotes now, one after the quote and one after the backslash
    rw [ho.backslash, (Outside.token _).squote] at h'
    have he := Scan.insq.inj (splitFrom_inj (.insq _ _) hr h').1
    exact absurd (List.append_singleton_inj.1 he).2 (by decide)
  | @char c _ hs =>
    by_cases hq : c = '"'
    · subst hq
      rw [ho.dquote] at h'
      exact ih q _ _ _ _ r (Nat.lt_succ_self _) (.symm (.inq_insq _ _)) hr h'
    · obtain ⟨n', w', ho', h₁⟩ := ho.char hq hs w q
      rw [h₁] at h'
      exact ih q _ _ _ _ r (Nat.lt_succ_self _) (.insq_out _ ho') hr h'

theorem ClashBelow.inq_insq (ih : ClashBelow p)
    (h : splitFrom (.inq t) v p = some r) (h' : splitFrom (.insq u) w p = some r) : False := by
  obtain ⟨_, _, q, hread, hr⟩ := splitFrom_inq_read h
  cases hread with
  | close _ =>
    rw [splitFrom_insq_char (by decide) fun hc => absurd hc (by decide)] at h'
    exact ih q _ _ _ _ r (Nat.lt_succ_self _) (.symm (.insq_out _ .blank)) hr h'
  | @hex a b _ ha hb =>
    obtain ⟨_, has, hab, _⟩ := is_hex_digit_plain ha
    obtain ⟨_, hbs, hbb, _⟩ := is_hex_digit_plain hb
    have hx : ('x' :: a :: b :: q).head? ≠ some '\'' := by
      rw [List.head?_cons]
      decide
    rw [splitFrom_insq_char (by decide) fun _ => hx,
      splitFrom_insq_char (by decide) fun hc => absurd hc (by decide),
      splitFrom_insq_char has fun hc => absurd hc hab,
      splitFrom_insq_char hbs fun hc => absurd hc hbb] at h'
    exact ih q _ _ _ _ r (by simp only [List.length_cons]; omega) (.inq_insq _ _) hr h'
  | @escape c =>
    obtain ⟨_, _, _, hread', hr'⟩ := splitFrom_insq_read h'
    have hlt : q.length < ('\\' :: c :: q).length := by
      simp only [List.length_cons]
      omega
    cases hread' with
    | escape => exact ih q _ _ _ _ r hlt (.inq_insq _ _) hr hr'
    | char _ hb =>
      have hc : c ≠ '\'' := fun hc => hb rfl (congrArg some hc)
      by_cases hcq : c = '\\' ∧ q.head? = some '\''
      · -- the escapes overlap: each state reads two of the three characters as one
        obtain ⟨rfl, hq⟩ := hcq
        obtain ⟨q, rfl⟩ := List.head?_eq_some_iff.1 hq
        rw [splitFrom_inq_char (by decide) (by decide)] at hr
        rw [splitFrom_insq_escape] at hr'
        exact ih q _ _ _ _ r (by simp only [List.length_cons]; omega) (.inq_insq _ _) hr hr'
      · rw [splitFrom_insq_char hc fun hc hq => hcq ⟨hc, hq⟩] at hr'
        exact ih q _ _ _ _ r hlt (.inq_insq _ _) hr hr'
  | @char c _ _ hb =>
    obtain ⟨_, _, _, hread', hr'⟩ := splitFrom_insq_read h'
    cases hread' with
    | close => exact ih q _ _ _ _ r (Nat.lt_succ_self _) (.inq_out _ .blank) hr hr'
    | escape => exact absurd rfl hb
    | char => exact ih q _ _ _ _ r (Nat.lt_succ_self _) (.inq_insq _ _) hr hr'

/-- Once a text is read from two such states the results differ, whatever was read before: the
only way into a common state is an escaped quote, which leaves the quote in one current token
and the backslash in the other. -/
theorem Apart.clash (ha : Apart m n) (h : splitFrom m v p = some r)
    (h' : splitFrom n w p = some r) : False := by
  induction hk : p.length using Nat.strong_induction_on generalizing m n v w p r with
  | _ k ih =>
    subst hk
    have hb : ClashBelow p := fun q m n v w r hq ha h h' => ih q.length hq ha h h' rfl
    induction ha generalizing v w with
    | inq_out t ho => exact hb.inq_out ho h h'
    | insq_out t ho => exact hb.insq_out ho h h'
    | inq_insq t u => exact hb.inq_insq h h'
    | symm _ ihs => exact ihs h' h

/-- A state that has a token, complete or begun. -/
def Begun (m : Scan) (v : List Str) : Prop := m ≠ .blank ∨ v ≠ []

theorem Begun.unquoted (t : Str) (c : Char) (v : List Str) : Begun (.unquoted t c) v := by
  apply Or.inl
  simp only [Scan.unquoted]
  split
  · exact Scan.noConfusion
  · split <;> exact Scan.noConfusion

theorem Begun.append (v : List Str) (t : Str) : Begun m (v ++ [t]) :=
  .inr (List.append_ne_nil_of_right_ne_nil v (List.cons_ne_nil t []))

/-- The rest `q` is read with a token at hand, or inside quotes. -/
def PastBlank (q : Str) (r : List Str) : Prop :=
  ∃ n w, splitFrom n w q = some r ∧ (n = .blank ∧ w ≠ [] ∨ Apart n .blank)

/-- A text shorter than `u` that is read from a state with a token ends at such a rest. -/
def ThroughBelow (u q : Str) (r : List Str) : Prop :=
  ∀ u' m v, u'.length < u.length → Begun m v → splitFrom m v (u' ++ ' ' :: q) = some r →
    PastBlank q r

theorem ThroughBelow.inq (ih : ThroughBelow u q r)
    (h : splitFrom (.inq t) v (u ++ ' ' :: q) = some r) : PastBlank q r := by
  have hnext : ∀ t, Begun (.inq t) v := fun t => .inl Scan.noConfusion
  have hopen : ∀ t, splitFrom (.inq t) v q = some r → PastBlank q r :=
    fun t hr => ⟨_, v, hr, .inr (.inq_out t .blank)⟩
  obtain ⟨_, _, p, hread, hr⟩ := splitFrom_inq_read h
  generalize hp : u ++ ' ' :: q = s at hread
  cases hread with
  | close _ =>
    cases u with
    | nil => cases hp
    | cons c u =>
      obtain ⟨_, rfl⟩ := List.cons.inj hp
      exact ih u _ _ (Nat.lt_succ_self _) (.append _ _) hr
  | char _ _ =>
    cases u with
    | nil =>
      cases hp
      exact hopen _ hr
    | cons c u =>
      obtain ⟨_, rfl⟩ := List.cons.inj hp
      exact ih u _ _ (Nat.lt_succ_self _) (hnext _) hr
  | escape _ =>
    match u with
    | [] => cases hp
    | [_] =>
      cases hp
      exact hopen _ hr
    | _ :: _ :: u =>
      cases hp
      apply ih u _ _ _ (hnext _) hr
      simp only [List.length_cons]
      omega
  | hex ha hb =>
    -- a blank is no hexadecimal digit, so the escape ends before it
    match u with
    | [] => cases hp
    | [_] => cases hp
    | [_, _] =>
      cases hp
      exact absurd rfl (is_hex_digit_plain ha).2.2.2
    | [_, _, _] =>
      cases hp
      exact absurd rfl (is_hex_digit_plain hb).2.2.2
    | _ :: _ :: _ :: _ :: u =>
      cases hp
      apply ih u _ _ _ (hnext _) hr
      simp only [List.length_cons]
      omega

theorem ThroughBelow.insq (ih : ThroughBelow u q r)
    (h : splitFrom (.insq t) v (u ++ ' ' :: q) = some r) : PastBlank q r := by
  obtain ⟨_, _, p, hread, hr⟩ := splitFrom_insq_read h
  generalize hp : u ++ ' ' :: q = s at hread
  cases hread with
  | close _ =>
    cases u with
    | nil => cases hp
    | cons c u =>
      obtain ⟨_, rfl⟩ := List.cons.inj hp
      exact ih u _ _ (Nat.lt_succ_self _) (.append _ _) hr
  | char _ _ =>
    cases u with
    | nil =>
      cases hp
      exact ⟨_, v, hr, .inr (.insq_out _ .blank)⟩
    | cons c u =>
      obtain ⟨_, rfl⟩ := List.cons.inj hp
      exact ih u _ _ (Nat.lt_succ_self _) (.inl Scan.noConfusion) hr
  | escape =>
    match u with
    | [] => cases hp
    | [_] => cases hp
    | _ :: _ :: u =>
      cases hp
      apply ih u _ _ _ (.inl Scan.noConfusion) hr
      simp only [List.length_cons]
      omega

/-- After a blank no token is half read outside quotes. -/
theorem Begun.through (hb : Begun m v) (h : splitFrom m v (u ++ ' ' :: q) = some r) :
    PastBlank q r := by
  induction hk : u.length using Nat.strong_induction_on generalizing m v u with
  | _ k ih =>
    subst hk
    have hbelow : ThroughBelow u q r := fun u' m v hu hb h => ih u'.length hu hb h rfl
    match m, u with
    | .blank, [] => exact ⟨.blank, v, h, .inl ⟨rfl, hb.resolve_left fun hn => hn rfl⟩⟩
    | .token t, [] => exact ⟨.blank, _, h, .inl ⟨rfl, by simp⟩⟩
    | .inq t, _ => exact hbelow.inq h
    | .insq t, _ => exact hbelow.insq h
    | .blank, c :: u =>
      rw [List.cons_append] at h
      cases hc : isspace c with
      | true =>
        rw [splitFrom_blank_space hc] at h
        exact hbelow u _ _ (Nat.lt_succ_self _) hb h
      | false =>
        rw [splitFrom_blank_char hc] at h
        exact hbelow u _ _ (Nat.lt_succ_self _) (.unquoted _ _ _) h
    | .token t, c :: u =>
      rw [List.cons_append] at h
      cases hc : isTokenEnd c with
      | true =>
        rw [splitFrom_token_end hc] at h
        exact hbelow u _ _ (Nat.lt_succ_self _) (.append _ _) h
      | false =>
        rw [splitFrom_token_char hc] at h
        exact hbelow u _ _ (Nat.lt_succ_self _) (.unquoted _ _ _) h

/-- The arguments of a line are never those of what follows one of its blanks, unless only blanks
come before: no argument can be dropped or merged so that the rest still reads the same. -/
theorem sdssplitargs_append_ne (hu : ∃ c ∈ u, isspace c = false)
    (h : sdssplitargs (u ++ ' ' :: q) = some r) : sdssplitargs q ≠ some r := by
  intro h'
  have key : PastBlank q r := by
    rw [sdssplitargs] at h
    induction u with
    | nil =>
      obtain ⟨c, hc, _⟩ := hu
      cases hc
    | cons c u ih =>
      rw [List.cons_append] at h
      cases hc : isspace c with
      | true =>
        rw [splitFrom_blank_space hc] at h
        apply ih ?_ h
        obtain ⟨d, hd, hds⟩ := hu
        rcases List.mem_cons.1 hd with rfl | hd
        · rw [hc] at hds
          cases hds
        · exact ⟨d, hd, hds⟩
      | false =>
        rw [splitFrom_blank_char hc] at h
        exact (Begun.unquoted _ _ _).through h
  obtain ⟨n, w, hn, ⟨rfl, hw⟩ | ha⟩ := key
  · exact hw (splitFrom_inj .blank hn h').2
  · exact ha.clash hn h'

/-- Double quotes that nothing closes. -/
theorem splitFrom_inq_open (h : '"' ∉ p) : splitFrom (.inq t) v p ≠ some r := by
  induction hk : p.length using Nat.strong_induction_on generalizing t v p with
  | _ k ih =>
    subst hk
    intro hsome
    obtain ⟨m, w, q, hread, hr⟩ := splitFrom_inq_read hsome
    cases hread with
    | close _ => exact h List.mem_cons_self
    | hex _ _ =>
      simp only [List.mem_cons, not_or] at h
      exact ih q.length (by simp only [List.length_cons]; omega) h.2.2.2.2 rfl hr
    | escape _ =>
      simp only [List.mem_cons, not_or] at h
      exact ih q.length (by simp only [List.length_cons]; omega) h.2.2 rfl hr
    | char _ _ =>
      rw [List.mem_cons, not_or] at h
      exact ih q.length (Nat.lt_succ_self _) h.2 rfl hr

/-- Single quotes that nothing closes. -/
theorem splitFrom_insq_open (h : '\'' ∉ p) : splitFrom (.insq t) v p ≠ some r := by
  induction p generalizing t with
  | nil => exact nofun
  | cons c p ih =>
    rw [List.mem_cons, not_or] at h
    have hhead : p.head? ≠ some '\'' := fun hp => h.2 (List.mem_of_mem_head? hp)
    rw [splitFrom_insq_char (Ne.symm h.1) fun _ => hhead]
    exact ih h.2

def IsQuote (q : Char) : Prop := q = '"' ∨ q = '\''

theorem IsQuote.not_hex (hq : IsQuote q) : is_hex_digit q = false := by
  rcases hq with rfl | rfl
  · rfl
  · rfl

theorem IsQuote.ne (hq : IsQuote q) : q ≠ '\\' ∧ q ≠ 'x' := by
  rcases hq with rfl | rfl
  · decide
  · decide

/-- What may follow a quote without closing it or another one. -/
structure Unclosed (w : Str) : Prop where
  dquote : '"' ∉ w
  squote : '\'' ∉ w
  goes_on : quoteEnds w = false

/-- A text shorter than `u` and then a quote that is not closed are not split. -/
def OpenBelow (u w : Str) (q : Char) (r : List Str) : Prop :=
  ∀ u' m v, u'.length < u.length → splitFrom m v (u' ++ q :: w) ≠ some r

theorem OpenBelow.outside (ih : OpenBelow u w q r) (hq : IsQuote q) (hw : Unclosed w)
    (ho : Outside m) (h : splitFrom m v (u ++ q :: w) = some r) : False := by
  cases u with
  | nil =>
    rcases hq with rfl | rfl
    · exact splitFrom_inq_open hw.dquote (ho.dquote.symm.trans h)
    · exact splitFrom_insq_open hw.squote (ho.squote.symm.trans h)
  | cons c u =>
    rw [List.cons_append] at h
    cases ho with
    | blank =>
      cases hc : isspace c with
      | true => exact ih u _ _ (Nat.lt_succ_self _) ((splitFrom_blank_space hc).symm.trans h)
      | false => exact ih u _ _ (Nat.lt_succ_self _) ((splitFrom_blank_char hc).symm.trans h)
    | token t =>
      cases hc : isTokenEnd c with
      | true => exact ih u _ _ (Nat.lt_succ_self _) ((splitFrom_token_end hc).symm.trans h)
      | false => exact ih u _ _ (Nat.lt_succ_self _) ((splitFrom_token_char hc).symm.trans h)

theorem OpenBelow.inq (ih : OpenBelow u w q r) (hq : IsQuote q) (hw : Unclosed w)
    (h : splitFrom (.inq t) v (u ++ q :: w) = some r) : False := by
  obtain ⟨_, _, p, hread, hr⟩ := splitFrom_inq_read h
  generalize hs : u ++ q :: w = s at hread
  cases hread with
  | close hends =>
    cases u with
    | nil =>
      cases hs
      rw [hw.goes_on] at hends
      cases hends
    | cons c u =>
      cases hs
      exact ih u _ _ (Nat.lt_succ_self _) hr
  | char _ _ =>
    cases u with
    | nil =>
      cases hs
      exact splitFrom_inq_open hw.dquote hr
    | cons c u =>
      cases hs
      exact ih u _ _ (Nat.lt_succ_self _) hr
  | escape _ =>
    match u with
    | [] => exact hq.ne.1 (List.cons.inj hs).1
    | [_] =>
      cases hs
      exact splitFrom_inq_open hw.dquote hr
    | _ :: _ :: u =>
      cases hs
      exact ih u _ _ (by simp only [List.length_cons]; omega) hr
  | hex ha hb =>
    -- a quote is no hexadecimal digit, so the escape ends before it
    match u with
    | [] => exact hq.ne.1 (List.cons.inj hs).1
    | [_] => exact hq.ne.2 (List.cons.inj (List.cons.inj hs).2).1
    | [_, _] =>
      cases hs
      exact absurd ha (Bool.eq_false_iff.1 hq.not_hex)
    | [_, _, _] =>
      cases hs
      exact absurd hb (Bool.eq_false_iff.1 hq.not_hex)
    | _ :: _ :: _ :: _ :: u =>
      cases hs
      exact ih u _ _ (by simp only [List.length_cons]; omega) hr

theorem OpenBelow.insq (ih : OpenBelow u w q r) (hq : IsQuote q) (hw : Unclosed w)
    (h : splitFrom (.insq t) v (u ++ q :: w) = some r) : False := by
  obtain ⟨_, _, p, hread, hr⟩ := splitFrom_insq_read h
  generalize hs : u ++ q :: w = s at hread
  cases hread with
  | close hends =>
    cases u with
    | nil =>
      cases hs
      rw [hw.goes_on] at hends
      cases hends
    | cons c u =>
      cases hs
      exact ih u _ _ (Nat.lt_succ_self _) hr
  | char _ _ =>
    cases u with
    | nil =>
      cases hs
      exact splitFrom_insq_open hw.squote hr
    | cons c u =>
      cases hs
      exact ih u _ _ (Nat.lt_succ_self _) hr
  | escape =>
    match u with
    | [] => exact hq.ne.1 (List.cons.inj hs).1
    | [_] =>
      cases hs
      exact splitFrom_insq_open hw.squote hr
    | _ :: _ :: u =>
      cases hs
      exact ih u _ _ (by simp only [List.length_cons]; omega) hr

/-- After the last quote of a line must come a blank or nothing. -/
theorem splitFrom_last_quote (hq : IsQuote q) (hw : Unclosed w) :
    splitFrom m v (u ++ q :: w) = none := by
  rw [Option.eq_none_iff_forall_ne_some]
  intro r
  induction hk : u.length using Nat.strong_induction_on generalizing m v u with
  | _ k ih =>
    subst hk
    have hbelow : OpenBelow u w q r := fun u' m v hu => ih u'.length hu rfl
    intro h
    cases m with
    | blank => exact hbelow.outside hq hw .blank h
    | token t => exact hbelow.outside hq hw (.token t) h
    | inq t => exact hbelow.inq hq hw h
    | insq t => exact hbelow.insq hq hw h

end Sds
