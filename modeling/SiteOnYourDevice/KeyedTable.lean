import Mathlib.Data.List.Basic

namespace KeyedTable
set_option relaxedAutoImplicit false
set_option autoImplicit true

variable [DecidableEq κ]

/-- A table that only grows: a new key is put at its end, with the value it came with, and a known
one leaves it as it is. -/
def insertNew (t : List (κ × ν)) (e : κ × ν) : List (κ × ν) :=
  if e.1 ∈ t.map Prod.fst then t else t ++ [e]

/-- Every entry with a key that the table and the entries before it do not have is in `P`. -/
def FirstsFrom (P : κ × ν → Prop) (t : List (κ × ν)) : List (κ × ν) → Prop
  | [] => True
  | e :: es => (e.1 ∉ t.map Prod.fst → P e) ∧ FirstsFrom P (insertNew t e) es

variable {P : κ × ν → Prop} {t : List (κ × ν)} {e : κ × ν} {k : κ}

theorem insertNew_known (h : e.1 ∈ t.map Prod.fst) : insertNew t e = t := if_pos h

theorem insertNew_new (h : e.1 ∉ t.map Prod.fst) : insertNew t e = t ++ [e] := if_neg h

theorem mem_keys_insertNew : k ∈ (insertNew t e).map Prod.fst ↔ k ∈ t.map Prod.fst ∨ k = e.1 := by
  by_cases h : e.1 ∈ t.map Prod.fst
  · rw [insertNew_known h]
    constructor
    · exact .inl
    · intro hk
      obtain hk | rfl := hk
      · exact hk
      · exact h
  · rw [insertNew_new h, List.map_append, List.mem_append]
    simp only [List.map_cons, List.map_nil, List.mem_singleton]

theorem firstsFrom_append (es fs : List (κ × ν)) :
    FirstsFrom P t (es ++ fs) ↔ FirstsFrom P t es ∧ FirstsFrom P (es.foldl insertNew t) fs := by
  induction es generalizing t with
  | nil => exact ⟨fun h => ⟨trivial, h⟩, fun h => h.2⟩
  | cons e es ih =>
    rw [List.cons_append, FirstsFrom, FirstsFrom, ih, List.foldl_cons, and_assoc]

/-- The first entries, said with the entries before each of them. -/
theorem firstsFrom_iff (es : List (κ × ν)) :
    FirstsFrom P t es ↔ ∀ pre e suf, es = pre ++ e :: suf → e.1 ∉ t.map Prod.fst →
      e.1 ∉ pre.map Prod.fst → P e := by
  induction es generalizing t with
  | nil =>
    refine ⟨fun _ pre e suf h => ?_, fun _ => trivial⟩
    cases pre <;> cases h
  | cons e es ih =>
    rw [FirstsFrom, ih]
    constructor
    · intro ⟨he, hes⟩ pre e' suf hsplit ht hpre
      cases pre with
      | nil =>
        cases hsplit
        exact he ht
      | cons d pre =>
        cases hsplit
        simp only [List.map_cons, List.mem_cons, not_or] at hpre
        apply hes pre e' suf rfl _ hpre.2
        rw [mem_keys_insertNew, not_or]
        exact ⟨ht, hpre.1⟩
    · intro h
      refine ⟨fun ht => h [] e es rfl ht List.not_mem_nil, ?_⟩
      intro pre e' suf hsplit ht hpre
      rw [mem_keys_insertNew, not_or] at ht
      apply h (e :: pre) e' suf (by rw [hsplit]; rfl) ht.1
      simp only [List.map_cons, List.mem_cons, not_or]
      exact ⟨ht.2, hpre⟩

end KeyedTable
