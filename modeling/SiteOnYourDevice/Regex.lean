import Mathlib.Computability.Language

namespace Regex
set_option relaxedAutoImplicit false
set_option autoImplicit true

/-- Regular expressions over classes of symbols. -/
inductive Re (α : Type)
  | zero
  | one
  | cls (p : α → Bool)
  | alt (r s : Re α)
  | cat (r s : Re α)
  | star (r : Re α)

namespace Re

def language : Re α → Language α
  | zero => 0
  | one => 1
  | cls p => {w | ∃ a, p a = true ∧ w = [a]}
  | alt r s => r.language + s.language
  | cat r s => r.language * s.language
  | star r => KStar.kstar r.language

/-- The expression matches the empty word. -/
def nullable : Re α → Bool
  | zero => false
  | one => true
  | cls _ => false
  | alt r s => r.nullable || s.nullable
  | cat r s => r.nullable && s.nullable
  | star _ => true

/-- What is left to be matched after the symbol `a`. -/
def deriv (a : α) : Re α → Re α
  | zero => zero
  | one => zero
  | cls p => if p a then one else zero
  | alt r s => alt (r.deriv a) (s.deriv a)
  | cat r s => if r.nullable then alt (cat (r.deriv a) s) (s.deriv a) else cat (r.deriv a) s
  | star r => cat (r.deriv a) (star r)

/-- The whole word is matched. -/
def test (r : Re α) : List α → Bool
  | [] => r.nullable
  | a :: w => (r.deriv a).test w

/-- No class of the expression has the symbol. -/
def avoids (a : α) : Re α → Bool
  | zero => true
  | one => true
  | cls p => !p a
  | alt r s => r.avoids a && s.avoids a
  | cat r s => r.avoids a && s.avoids a
  | star r => r.avoids a

def plus (r : Re α) : Re α := cat r (star r)

def opt (r : Re α) : Re α := alt one r

/-- `r{n}`. -/
def times (r : Re α) : Nat → Re α
  | 0 => one
  | n + 1 => cat r (r.times n)

/-- `r{m,n}` for an `n` that is `k` more than `m`. -/
def between (r : Re α) (m : Nat) : Nat → Re α
  | 0 => r.times m
  | k + 1 => cat (opt r) (r.between m k)

def sym [DecidableEq α] (a : α) : Re α := cls (· = a)

@[simp] theorem mem_zero : ¬ w ∈ (zero : Re α).language := Language.notMem_zero w

@[simp] theorem mem_one : w ∈ (one : Re α).language ↔ w = [] := Iff.rfl

@[simp] theorem mem_cls : w ∈ (cls p).language ↔ ∃ a, p a = true ∧ w = [a] := Iff.rfl

@[simp] theorem mem_alt {r s : Re α} :
    w ∈ (alt r s).language ↔ w ∈ r.language ∨ w ∈ s.language := Iff.rfl

theorem mem_cat {r s : Re α} :
    w ∈ (cat r s).language ↔ ∃ u ∈ r.language, ∃ v ∈ s.language, u ++ v = w := Language.mem_mul

theorem mem_star {r : Re α} :
    w ∈ (star r).language ↔ ∃ ws : List (List α), w = ws.flatten ∧ ∀ u ∈ ws, u ∈ r.language :=
  Language.mem_kstar

@[simp] theorem mem_sym [DecidableEq α] {a : α} : w ∈ (sym a).language ↔ w = [a] := by
  simp [sym]

theorem nullable_iff (r : Re α) : r.nullable = true ↔ [] ∈ r.language := by
  induction r with
  | zero => simp [nullable]
  | one => simp [nullable]
  | cls p => simp [nullable]
  | alt r s ihr ihs => simp [nullable, ihr, ihs]
  | cat r s ihr ihs => simp [nullable, ihr, ihs, mem_cat]
  | star r _ => simp [nullable, language, Language.nil_mem_kstar]

/-- A word of a product begins in the first factor, or the first factor has the empty word. -/
theorem cons_mem_cat {r s : Re α} :
    a :: w ∈ (cat r s).language ↔
      (∃ u v, a :: u ∈ r.language ∧ v ∈ s.language ∧ u ++ v = w) ∨
        [] ∈ r.language ∧ a :: w ∈ s.language := by
  rw [mem_cat]
  constructor
  · rintro ⟨u, hu, v, hv, hw⟩
    cases u with
    | nil =>
      rw [List.nil_append] at hw
      subst hw
      exact .inr ⟨hu, hv⟩
    | cons b u =>
      obtain ⟨rfl, rfl⟩ := List.cons.inj hw
      exact .inl ⟨u, v, hu, hv, rfl⟩
  · rintro (⟨u, v, hu, hv, rfl⟩ | ⟨hnil, hw⟩)
    · exact ⟨a :: u, hu, v, hv, rfl⟩
    · exact ⟨[], hnil, a :: w, hw, rfl⟩

/-- A word of an iteration begins in a first round that is not empty. -/
theorem cons_mem_star {r : Re α} :
    a :: w ∈ (star r).language ↔
      ∃ u v, a :: u ∈ r.language ∧ v ∈ (star r).language ∧ u ++ v = w := by
  rw [mem_star]
  constructor
  · rintro ⟨ws, hw, hws⟩
    induction ws with
    | nil => cases hw
    | cons u ws ih =>
      cases u with
      | nil => exact ih hw fun u hu => hws u (List.mem_cons_of_mem _ hu)
      | cons b u =>
        obtain ⟨rfl, rfl⟩ := List.cons.inj hw
        have hrest : ws.flatten ∈ (star r).language :=
          mem_star.2 ⟨ws, rfl, fun u hu => hws u (List.mem_cons_of_mem _ hu)⟩
        exact ⟨u, ws.flatten, hws _ List.mem_cons_self, hrest, rfl⟩
  · rintro ⟨u, v, hu, hv, rfl⟩
    obtain ⟨ws, rfl, hws⟩ := mem_star.1 hv
    refine ⟨(a :: u) :: ws, rfl, ?_⟩
    intro x hx
    obtain rfl | hx := List.mem_cons.1 hx
    · exact hu
    · exact hws x hx

theorem deriv_iff (r : Re α) (a : α) (w : List α) :
    w ∈ (r.deriv a).language ↔ a :: w ∈ r.language := by
  induction r generalizing w with
  | zero => simp [deriv]
  | one => simp [deriv]
  | cls p =>
    rw [deriv]
    split
    · rename_i hp
      simp [hp]
    · rename_i hp
      simp only [mem_zero, mem_cls, false_iff]
      rintro ⟨b, hb, hw⟩
      obtain ⟨rfl, _⟩ := List.cons.inj hw
      exact hp hb
  | alt r s ihr ihs => simp [deriv, ihr, ihs]
  | cat r s ihr ihs =>
    have hcat : w ∈ (cat (r.deriv a) s).language ↔
        ∃ u v, a :: u ∈ r.language ∧ v ∈ s.language ∧ u ++ v = w := by
      rw [mem_cat]
      constructor
      · rintro ⟨u, hu, v, hv, hw⟩
        exact ⟨u, v, (ihr u).1 hu, hv, hw⟩
      · rintro ⟨u, v, hu, hv, hw⟩
        exact ⟨u, (ihr u).2 hu, v, hv, hw⟩
    rw [cons_mem_cat, deriv, ← nullable_iff]
    split
    · rename_i hn
      rw [mem_alt, hcat, ihs]
      simp only [hn, true_and]
    · rename_i hn
      rw [hcat]
      simp only [hn, false_and, or_false, Bool.false_eq_true]
  | star r ih =>
    rw [cons_mem_star, deriv, mem_cat]
    constructor
    · rintro ⟨u, hu, v, hv, hw⟩
      exact ⟨u, v, (ih u).1 hu, hv, hw⟩
    · rintro ⟨u, v, hu, hv, hw⟩
      exact ⟨u, (ih u).2 hu, v, hv, hw⟩

/-- The matcher decides the language. -/
theorem test_iff (r : Re α) (w : List α) : r.test w = true ↔ w ∈ r.language := by
  induction w generalizing r with
  | nil => exact nullable_iff r
  | cons a w ih => rw [test, ih, deriv_iff]

theorem not_mem_of_avoids {r : Re α} (h : r.avoids a = true) (hw : w ∈ r.language) : a ∉ w := by
  induction r generalizing w with
  | zero => exact absurd hw mem_zero
  | one =>
    obtain rfl := mem_one.1 hw
    exact List.not_mem_nil
  | cls p =>
    obtain ⟨b, hb, rfl⟩ := mem_cls.1 hw
    rw [List.mem_singleton]
    rintro rfl
    rw [avoids, hb] at h
    cases h
  | alt r s ihr ihs =>
    obtain ⟨hr, hs⟩ := Bool.and_eq_true_iff.1 h
    obtain hw | hw := mem_alt.1 hw
    · exact ihr hr hw
    · exact ihs hs hw
  | cat r s ihr ihs =>
    obtain ⟨hr, hs⟩ := Bool.and_eq_true_iff.1 h
    obtain ⟨u, hu, v, hv, rfl⟩ := mem_cat.1 hw
    rw [List.mem_append, not_or]
    exact ⟨ihr hr hu, ihs hs hv⟩
  | star r ih =>
    obtain ⟨ws, rfl, hws⟩ := mem_star.1 hw
    intro ha
    obtain ⟨u, hu, hau⟩ := List.mem_flatten.1 ha
    exact ih h (hws u hu) hau

end Re

end Regex
