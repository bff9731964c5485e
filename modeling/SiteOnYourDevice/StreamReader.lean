import Mathlib.Data.List.Basic

namespace StreamReader
set_option relaxedAutoImplicit false
set_option autoImplicit true

/-- A reader of a stream takes in input, makes turns on what it has taken in, and has a result ready
from time to time. What comes behind does not change a turn that can be made. -/
structure Reader (σ α ρ : Type*) where
  feed : σ → List α → σ
  turn : σ → Option σ
  ready : σ → Option (ρ × σ)
  rank : σ → Nat
  feed_nil (s : σ) : feed s [] = s
  feed_append (s : σ) (u v : List α) : feed s (u ++ v) = feed (feed s u) v
  turn_feed {s s' : σ} (v : List α) : turn s = some s' → turn (feed s v) = some (feed s' v)
  ready_feed {s s' : σ} {r : ρ} (v : List α) :
    ready s = some (r, s') → ready (feed s v) = some (r, feed s' v)
  turn_of_ready {s s' : σ} {r : ρ} : ready s = some (r, s') → turn s = none
  rank_turn {s s' : σ} : turn s = some s' → rank s' < rank s
  rank_ready {s s' : σ} {r : ρ} : ready s = some (r, s') → rank s' < rank s

namespace Reader

variable {σ α ρ : Type*} (R : Reader σ α ρ)

/-- All turns that can be made. -/
def settle (s : σ) : σ :=
  match _h : R.turn s with
  | none => s
  | some s' => settle s'
termination_by R.rank s
decreasing_by exact R.rank_turn _h

variable {R} {s s' t : σ} {r : ρ}

theorem settle_of_turn (h : R.turn s = some s') : R.settle s = R.settle s' := by
  rw [settle.eq_def]
  split
  · rename_i h'
    rw [h] at h'
    cases h'
  · rename_i h'
    rw [h] at h'
    cases h'
    rfl

theorem settle_of_rest (h : R.turn s = none) : R.settle s = s := by
  rw [settle.eq_def]
  split
  · rfl
  · rename_i h'
    rw [h] at h'
    cases h'

theorem settle_of_ready (h : R.ready s = some (r, s')) : R.settle s = s :=
  settle_of_rest (R.turn_of_ready h)

theorem turn_settle (s : σ) : R.turn (R.settle s) = none := by
  induction s using settle.induct R with
  | case1 s h => rw [settle_of_rest h, h]
  | case2 s s' h ih => rw [settle_of_turn h, ih]

theorem rank_settle_le (s : σ) : R.rank (R.settle s) ≤ R.rank s := by
  induction s using settle.induct R with
  | case1 s h => exact Nat.le_of_eq (congrArg R.rank (settle_of_rest h))
  | case2 s s' h ih =>
    rw [settle_of_turn h]
    exact Nat.le_of_lt (Nat.lt_of_le_of_lt ih (R.rank_turn h))

/-- It makes no difference whether the turns are made before more input comes, or behind it. -/
theorem settle_feed (s : σ) (v : List α) :
    R.settle (R.feed (R.settle s) v) = R.settle (R.feed s v) := by
  induction s using settle.induct R with
  | case1 s h => rw [settle_of_rest h]
  | case2 s s' h ih => rw [settle_of_turn h, settle_of_turn (R.turn_feed v h), ih]

variable (R)

/-- All results that are ready, and what the reader is left as. -/
def results (s : σ) : List ρ × σ :=
  match _h : R.ready (R.settle s) with
  | none => ([], R.settle s)
  | some (r, s') => let p := results s'; (r :: p.1, p.2)
termination_by R.rank (R.settle s)
decreasing_by exact Nat.lt_of_le_of_lt (rank_settle_le s') (R.rank_ready _h)

variable {R}

theorem results_of_ready (h : R.ready (R.settle s) = some (r, s')) :
    R.results s = (r :: (R.results s').1, (R.results s').2) := by
  rw [results.eq_def]
  split
  · rename_i h'
    rw [h] at h'
    cases h'
  · rename_i h'
    rw [h] at h'
    cases h'
    rfl

theorem results_of_rest (h : R.ready (R.settle s) = none) : R.results s = ([], R.settle s) := by
  rw [results.eq_def]
  split
  · rfl
  · rename_i h'
    rw [h] at h'
    cases h'

theorem results_settle (s : σ) : R.results (R.settle s) = R.results s := by
  have hs := settle_of_rest (R.turn_settle s)
  cases h : R.ready (R.settle s) with
  | none =>
    rw [results_of_rest h, results_of_rest (by rw [hs, h]), hs]
  | some p => rw [results_of_ready h, results_of_ready (by rw [hs, h])]

/-- The results of more input come behind those that are ready without it. -/
theorem results_feed (s : σ) (v : List α) :
    R.results (R.feed s v) =
      ((R.results s).1 ++ (R.results (R.feed (R.results s).2 v)).1,
        (R.results (R.feed (R.results s).2 v)).2) := by
  induction s using results.induct R with
  | case1 s h =>
    rw [results_of_rest h, ← results_settle, ← settle_feed, results_settle]
    rfl
  | case2 s r s' h ih =>
    have hready : R.ready (R.settle (R.feed s v)) = some (r, R.feed s' v) := by
      have hf := R.ready_feed v h
      rw [← settle_feed, settle_of_ready hf, hf]
    rw [results_of_ready hready, results_of_ready h, ih]
    rfl

variable (R)

/-- The states that are reached from `s₀` with the input `v`, when the results `got` have been taken. -/
inductive Reached (s₀ : σ) : List α → List ρ → σ → Prop
  | start : Reached s₀ [] [] s₀
  | fed {v : List α} {got : List ρ} {s : σ} (h : Reached s₀ v got s) (u : List α) :
    Reached s₀ (v ++ u) got (R.feed s u)
  | turned {v : List α} {got : List ρ} {s s' : σ} (h : Reached s₀ v got s)
    (ht : R.turn s = some s') : Reached s₀ v got s'
  | taken {v : List α} {got : List ρ} {s s' : σ} {r : ρ} (h : Reached s₀ v got s)
    (hr : R.ready s = some (r, s')) : Reached s₀ v (got ++ [r]) s'

variable {R} {s₀ : σ} {v : List α} {got : List ρ}

theorem Reached.settled (h : R.Reached s₀ v got s) : R.Reached s₀ v got (R.settle s) := by
  induction s using settle.induct R with
  | case1 s ht =>
    rw [settle_of_rest ht]
    exact h
  | case2 s s' ht ih =>
    rw [settle_of_turn ht]
    exact ih (h.turned ht)

/-- What has been taken are the first results of the input, and the others are still there. -/
theorem Reached.results_eq (h : R.Reached s₀ v got s) :
    R.results (R.feed s₀ v) = (got ++ (R.results s).1, (R.results s).2) := by
  induction h with
  | start =>
    rw [R.feed_nil]
    rfl
  | @fed v got s h u ih => rw [R.feed_append, results_feed, ih, results_feed s u, List.append_assoc]
  | turned h ht ih => rw [ih, ← results_settle, settle_of_turn ht, results_settle]
  | taken h hr ih =>
    rw [ih, results_of_ready (by rw [settle_of_ready hr, hr]), List.append_assoc]
    rfl

/-- More input does not change what has been taken. -/
theorem Reached.isPrefix (h : R.Reached s₀ v got s) (u : List α) :
    got <+: (R.results (R.feed s₀ (v ++ u))).1 := by
  rw [(h.fed u).results_eq]
  exact List.prefix_append _ _

end Reader

end StreamReader
