import SiteOnYourDevice.SplitArgsSuffix

namespace Sds
open CString
set_option relaxedAutoImplicit false
set_option autoImplicit true

theorem quoteEnds_append (h : quoteEnds p = true) (hq : quoteEnds q = true) :
    quoteEnds (p ++ q) = true := by
  cases p with
  | nil => exact hq
  | cons c p => exact h

/-- What a longer text does behind a beginning that splits into `r`: the tokenizer goes on between
tokens or in the last one, unless a closing quote at the end of the beginning has no space behind
it. -/
inductive GoesOn (m : Scan) (v : List Str) (p q : Str) (r : List Str) : Prop
  | stuck (hq : quoteEnds q = false) (h : splitFrom m v (p ++ q) = none)
  | blank (h : splitFrom m v (p ++ q) = splitFrom .blank r q)
  | token (u : List Str) (t : Str) (hr : r = u ++ [t])
      (h : splitFrom m v (p ++ q) = splitFrom (.token t) u q)

theorem GoesOn.of_eq (h : GoesOn n w p' q r)
    (he : splitFrom m v (p ++ q) = splitFrom n w (p' ++ q)) : GoesOn m v p q r := by
  cases h with
  | stuck hq h => exact .stuck hq (he.trans h)
  | blank h => exact .blank (he.trans h)
  | token u t hr h => exact .token u t hr (he.trans h)

/-- Behind a closing quote that is read in the beginning. -/
theorem GoesOn.of_close (ih : splitFrom .blank w p = some r → GoesOn .blank w p q r)
    (h : splitFrom .blank w p = some r) (hends : quoteEnds p = true)
    (he : splitFrom m v ((d :: p) ++ q) =
      if quoteEnds (p ++ q) then splitFrom .blank w (p ++ q) else none) :
    GoesOn m v (d :: p) q r := by
  by_cases hq : quoteEnds (p ++ q) = true
  · rw [if_pos hq] at he
    exact (ih h).of_eq he
  · rw [if_neg hq] at he
    apply GoesOn.stuck _ he
    cases hqq : quoteEnds q with
    | true => exact absurd (quoteEnds_append hends hqq) hq
    | false => rfl

theorem splitFrom_append (h : splitFrom m v p = some r) (q : Str) : GoesOn m v p q r := by
  induction m, v, p using splitFrom.induct with
  | case1 v =>
    cases h
    exact .blank rfl
  | case2 v c p hc ih =>
    rw [splitFrom_blank_space hc] at h
    exact (ih h).of_eq (splitFrom_blank_space hc)
  | case3 v c p hc ih =>
    have hs : isspace c = false := Bool.eq_false_iff.2 hc
    rw [splitFrom_blank_char hs] at h
    exact (ih h).of_eq (splitFrom_blank_char hs)
  | case4 t v =>
    cases h
    exact .token v t rfl rfl
  | case5 t v c p hc ih =>
    rw [splitFrom_token_end hc] at h
    exact (ih h).of_eq (splitFrom_token_end hc)
  | case6 t v c p hc ih =>
    have he : isTokenEnd c = false := Bool.eq_false_iff.2 hc
    rw [splitFrom_token_char he] at h
    exact (ih h).of_eq (splitFrom_token_char he)
  | case7 => cases h
  | case8 t v a b p hab ih =>
    obtain ⟨ha, hb⟩ := Bool.and_eq_true_iff.1 hab
    rw [splitFrom_inq_hex ha hb] at h
    exact (ih h).of_eq (splitFrom_inq_hex ha hb)
  | case9 t v a b p hab ih =>
    have hn : ∀ s, ¬ HexEscape ('x' :: a :: b :: s) := by
      rintro s ⟨a', b', p', he, ha, hb⟩
      cases he
      exact hab (Bool.and_eq_true_iff.2 ⟨ha, hb⟩)
    rw [splitFrom_inq_escape (hn p)] at h
    exact (ih h).of_eq (splitFrom_inq_escape (hn (p ++ q)))
  | case10 t v c p hx ih =>
    have hn : ¬ HexEscape (c :: p) := by
      rintro ⟨a, b, s, he, _, _⟩
      cases he
      exact hx a b s rfl rfl
    rw [splitFrom_inq_escape hn] at h
    have hn' : ¬ HexEscape (c :: (p ++ q)) := by
      -- the quotes are closed in the beginning, so an escape at its end is none of the longer text
      rintro ⟨a, b, s, he, ha, _⟩
      obtain ⟨rfl, hp⟩ := List.cons.inj he
      cases p with
      | nil => cases h
      | cons d p =>
        cases p with
        | nil =>
          have hd : '"' ∉ [d] := by
            rw [List.mem_singleton, (List.cons.inj hp).1]
            exact Ne.symm (is_hex_digit_plain ha).1
          exact splitFrom_inq_open hd h
        | cons e p => exact hx d e p rfl rfl
    exact (ih h).of_eq (splitFrom_inq_escape hn')
  | case11 t v p hq _ _ ih =>
    rw [splitFrom_inq_close, if_pos hq] at h
    exact .of_close ih h hq splitFrom_inq_close
  | case12 t v p hq _ _ =>
    rw [splitFrom_inq_close, if_neg hq] at h
    cases h
  | case13 t v c p _ hb hq ih =>
    by_cases hc : c = '\\'
    · subst hc
      cases p with
      | nil => cases h
      | cons d p => exact absurd rfl (hb d p rfl)
    · rw [splitFrom_inq_char hq hc] at h
      exact (ih h).of_eq (splitFrom_inq_char hq hc)
  | case14 => cases h
  | case15 t v p ih =>
    rw [splitFrom_insq_escape] at h
    exact (ih h).of_eq splitFrom_insq_escape
  | case16 t v p hq _ ih =>
    rw [splitFrom_insq_close, if_pos hq] at h
    exact .of_close ih h hq splitFrom_insq_close
  | case17 t v p hq _ =>
    rw [splitFrom_insq_close, if_neg hq] at h
    cases h
  | case18 t v c p hb hq ih =>
    have hb' : c = '\\' → p.head? ≠ some '\'' := by
      intro hc hp
      obtain ⟨s, rfl⟩ := List.head?_eq_some_iff.1 hp
      exact hb s hc rfl
    rw [splitFrom_insq_char hq hb'] at h
    have hb'' : c = '\\' → (p ++ q).head? ≠ some '\'' := by
      intro hc hp
      cases p with
      | nil => cases h
      | cons d p => exact hb' hc hp
    exact (ih h).of_eq (splitFrom_insq_char hq hb'')

/-- A separator behind a beginning that splits leaves its arguments as they are. -/
theorem splitFrom_separator (h : splitFrom m v p = some r) (hc : isTokenEnd c = true) (q : Str) :
    splitFrom m v (p ++ c :: q) = splitFrom .blank r q := by
  have hs := isTokenEnd_isspace hc
  cases splitFrom_append h (c :: q) with
  | stuck hq _ =>
    rw [quoteEnds, hs] at hq
    cases hq
  | blank h' => rw [h', splitFrom_blank_space hs]
  | token u t hr h' => rw [h', splitFrom_token_end hc, hr]

variable {ws us : List Str}

theorem first_of_separator (h : sdssplitargs p = some (w :: ws)) (hc : isTokenEnd c = true)
    (h' : sdssplitargs (p ++ c :: q) = some (u :: us)) : u = w := by
  rw [sdssplitargs, splitFrom_separator h hc] at h'
  obtain ⟨x, hx⟩ := splitFrom_prefix h'
  exact (List.cons.inj hx).1.symm

/-- The first argument only grows with the text. -/
theorem first_of_prefix (h : sdssplitargs p = some (w :: ws))
    (h' : sdssplitargs (p ++ q) = some (u :: us)) : w <+: u := by
  rw [sdssplitargs] at h'
  cases splitFrom_append h q with
  | stuck _ hn =>
    rw [hn] at h'
    cases h'
  | blank hb =>
    rw [hb] at h'
    obtain ⟨x, hx⟩ := splitFrom_prefix h'
    exact (List.cons.inj hx).1 ▸ List.prefix_rfl
  | token v t hr ht =>
    rw [ht] at h'
    cases v with
    | nil =>
      obtain ⟨y, z, hy, hp⟩ := splitFrom_current h' (by simp)
      rw [(List.cons.inj hr).1, (List.cons.inj hy).1]
      exact hp
    | cons x v =>
      obtain ⟨y, hy⟩ := splitFrom_prefix h'
      rw [(List.cons.inj hr).1, ← (List.cons.inj hy).1]

end Sds
