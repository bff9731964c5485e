import Mathlib.Logic.Function.Basic

namespace PartialInverse
set_option relaxedAutoImplicit false
set_option autoImplicit true

/-- Two partial maps that are inverse to each other: each is null, or points to what points
back. -/
def Inverse (f : α → Option β) (g : β → Option α) : Prop :=
  ∀ a b, f a = some b ↔ g b = some a

variable [DecidableEq α] {f : α → Option β} {g : β → Option α} {a : α} {b : β}

/-- Clearing one end alone is harmless exactly when it is null already. -/
theorem Inverse.clear_iff (h : Inverse f g) : Inverse (Function.update f a none) g ↔ f a = none := by
  constructor
  · intro h'
    cases ha : f a with
    | none => rfl
    | some b =>
      have hb := (h' a b).2 ((h a b).1 ha)
      rw [Function.update_self] at hb
      cases hb
  · intro ha
    rwa [← ha, Function.update_eq_self]

variable [DecidableEq β]

theorem Inverse.link (h : Inverse f g) (ha : f a = none) (hb : g b = none) :
    Inverse (Function.update f a (some b)) (Function.update g b (some a)) := by
  intro x y
  by_cases hx : x = a
  · subst hx
    by_cases hy : y = b
    · subst hy
      simp only [Function.update_self]
    · rw [Function.update_self, Function.update_of_ne hy, ← h, ha]
      simp only [Option.some.injEq, reduceCtorEq, iff_false]
      exact fun hxy => hy hxy.symm
  · by_cases hy : y = b
    · subst hy
      rw [Function.update_of_ne hx, Function.update_self, h, hb]
      simp only [Option.some.injEq, reduceCtorEq, false_iff]
      exact fun hxy => hx hxy.symm
    · rw [Function.update_of_ne hx, Function.update_of_ne hy]
      exact h x y

theorem Inverse.unlink (h : Inverse f g) (hb : g b = some a) :
    Inverse (Function.update f a none) (Function.update g b none) := by
  have ha := (h a b).2 hb
  intro x y
  by_cases hx : x = a
  · subst hx
    by_cases hy : y = b
    · subst hy
      simp only [Function.update_self, reduceCtorEq]
    · rw [Function.update_self, Function.update_of_ne hy, ← h, ha]
      simp only [Option.some.injEq, reduceCtorEq, false_iff]
      exact fun hxy => hy hxy.symm
  · by_cases hy : y = b
    · subst hy
      rw [Function.update_of_ne hx, Function.update_self, h, hb]
      simp only [Option.some.injEq, reduceCtorEq, iff_false]
      exact fun hxy => hx hxy.symm
    · rw [Function.update_of_ne hx, Function.update_of_ne hy]
      exact h x y

end PartialInverse
