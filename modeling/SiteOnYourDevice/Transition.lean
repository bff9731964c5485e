import Mathlib.Logic.Basic
import Mathlib.Data.Option.Basic

namespace Transition
set_option relaxedAutoImplicit false
set_option autoImplicit true

variable {σ ε : Type*} (step : σ → ε → Option σ)

/-- The state after a list of events, when every one of them is possible in turn. -/
def run : σ → List ε → Option σ
  | s, [] => some s
  | s, e :: es => (step s e).bind fun s' => run s' es

/-- `P` holds of every transition a run takes: the state before, the event, the state after. -/
def Along (P : σ → ε → σ → Prop) : σ → List ε → Prop
  | _, [] => True
  | s, e :: es => ∀ s', step s e = some s' → P s e s' ∧ Along P s' es

/-- `Q` holds of every state a run goes through, the first one included. -/
def Always (Q : σ → Prop) (s : σ) (es : List ε) : Prop :=
  Q s ∧ Along step (fun _ _ s' => Q s') s es

/-- `P` holds of some transition that a run takes. -/
def Happens (P : σ → ε → σ → Prop) : σ → List ε → Prop
  | _, [] => False
  | s, e :: es => ∃ s', step s e = some s' ∧ (P s e s' ∨ Happens P s' es)

/-- Whatever steps are taken, a state with `Q` is reached: until then there is a step, and no run goes
on without end. -/
inductive Inevitable (Q : σ → Prop) : σ → Prop
  | reached (s : σ) (h : Q s) : Inevitable Q s
  | next (s t : σ) (e : ε) (he : step s e = some t)
    (h : ∀ e t, step s e = some t → Inevitable Q t) : Inevitable Q s

variable {step} {s t t' : σ} {e : ε} {es fs : List ε}

theorem run_append (s : σ) (es fs : List ε) :
    run step s (es ++ fs) = (run step s es).bind fun t => run step t fs := by
  induction es generalizing s with
  | nil => rfl
  | cons e es ih =>
    simp only [List.cons_append, run, Option.bind_assoc]
    congr 1
    funext s'
    exact ih s'

theorem run_cons (h : step s e = some t) : run step s (e :: es) = run step t es := by
  rw [run, h]
  rfl

/-- The run rule: an invariant carries one step property over to another along a whole run. -/
theorem Along.imp {I : σ → Prop} {P P' : σ → ε → σ → Prop} (h : Along step P s es)
    (hs : I s)
    (hstep : ∀ t e t', I t → step t e = some t' → P t e t' → P' t e t' ∧ I t') :
    Along step P' s es := by
  induction es generalizing s with
  | nil => trivial
  | cons e es ih =>
    intro s' hs'
    obtain ⟨hP, hrest⟩ := h s' hs'
    obtain ⟨hP', hi⟩ := hstep s e s' hs hs' hP
    exact ⟨hP', ih hrest hi⟩

/-- An invariant preserved under a step condition holds along every run that meets it. -/
theorem Along.always {I Q : σ → Prop} {P : σ → ε → σ → Prop} (h : Along step P s es)
    (hs : I s) (hQ : ∀ t, I t → Q t)
    (hstep : ∀ t e t', I t → step t e = some t' → P t e t' → I t') :
    Always step Q s es := by
  refine ⟨hQ s hs, h.imp hs ?_⟩
  intro t e t' ht he hP
  have hi := hstep t e t' ht he hP
  exact ⟨hQ t' hi, hi⟩

theorem Along.mono {P P' : σ → ε → σ → Prop} (h : Along step P s es)
    (hP : ∀ t e t', P t e t' → P' t e t') : Along step P' s es := by
  induction es generalizing s with
  | nil => trivial
  | cons e es ih =>
    intro s' hs'
    obtain ⟨ht, hrest⟩ := h s' hs'
    exact ⟨hP s e s' ht, ih hrest⟩

/-- Two step properties that are the same under an invariant hold along the same runs, when the
invariant goes on as long as they hold. -/
theorem along_congr_while {I : σ → Prop} {P P' : σ → ε → σ → Prop} (hs : I s)
    (hstep : ∀ t e t', I t → step t e = some t' →
      (P t e t' ↔ P' t e t') ∧ (P t e t' → I t')) :
    Along step P s es ↔ Along step P' s es := by
  apply Iff.intro
  · intro h
    apply h.imp hs
    intro t e t' ht he hP
    obtain ⟨hiff, hi⟩ := hstep t e t' ht he
    exact ⟨hiff.1 hP, hi hP⟩
  · intro h
    apply h.imp hs
    intro t e t' ht he hP
    obtain ⟨hiff, hi⟩ := hstep t e t' ht he
    exact ⟨hiff.2 hP, hi (hiff.2 hP)⟩

theorem along_congr_of_invariant {I : σ → Prop} {P P' : σ → ε → σ → Prop} (hs : I s)
    (hstep : ∀ t e t', I t → step t e = some t' → (P t e t' ↔ P' t e t') ∧ I t') :
    Along step P s es ↔ Along step P' s es :=
  along_congr_while hs fun t e t' ht he => (hstep t e t' ht he).imp_right fun hi _ => hi

theorem along_congr {P P' : σ → ε → σ → Prop}
    (hstep : ∀ t e t', step t e = some t' → (P t e t' ↔ P' t e t')) :
    Along step P s es ↔ Along step P' s es := by
  apply along_congr_of_invariant (I := fun _ => True) trivial
  intro t e t' _ he
  exact ⟨hstep t e t' he, trivial⟩

/-- The run rule for an exact condition: a property holds of every state of a run exactly when every
step meets the condition, when one step keeps the property exactly under it. -/
theorem always_iff_along {I Q : σ → Prop} {C : σ → ε → Prop} (hQ : Q s) (hI : I s)
    (hstep : ∀ t e t', Q t → I t → step t e = some t' → (Q t' ↔ C t e) ∧ (C t e → I t')) :
    Always step Q s es ↔ Along step (fun t e _ => C t e) s es := by
  apply Iff.intro
  · intro h
    apply h.2.imp (I := fun t => Q t ∧ I t) ⟨hQ, hI⟩
    intro t e t' ⟨ht, hi⟩ he hq
    obtain ⟨hiff, hi'⟩ := hstep t e t' ht hi he
    exact ⟨hiff.1 hq, hq, hi' (hiff.1 hq)⟩
  · intro h
    apply h.always (I := fun t => Q t ∧ I t) ⟨hQ, hI⟩ (fun _ ht => ht.1)
    intro t e t' ⟨ht, hi⟩ he hc
    obtain ⟨hiff, hi'⟩ := hstep t e t' ht hi he
    exact ⟨hiff.2 hc, hi' hc⟩

/-- What an invariant gives for every step, and keeps, holds along every run. -/
theorem along_of_invariant {I : σ → Prop} {P : σ → ε → σ → Prop} (hs : I s)
    (hstep : ∀ t e t', I t → step t e = some t' → P t e t' ∧ I t') : Along step P s es := by
  induction es generalizing s with
  | nil => trivial
  | cons e es ih =>
    intro s' hs'
    obtain ⟨hP, hi⟩ := hstep s e s' hs hs'
    exact ⟨hP, ih hi⟩

/-- What every step pays for out of a potential stays within the potential the run starts with. -/
theorem always_le_potential (cost potential : σ → Nat)
    (hstep : ∀ t e t', step t e = some t' → cost t' + potential t' ≤ cost t + potential t) :
    Always step (fun t => cost t ≤ cost s + potential s) s es := by
  refine ⟨Nat.le_add_right _ _, ?_⟩
  apply along_of_invariant (I := fun t => cost t + potential t ≤ cost s + potential s)
    (Nat.le_refl _)
  intro t e t' ht he
  have hle := Nat.le_trans (hstep t e t' he) ht
  exact ⟨Nat.le_trans (Nat.le_add_right _ _) hle, hle⟩

theorem Along.cons {P : σ → ε → σ → Prop} (he : step s e = some t) (hP : P s e t)
    (h : Along step P t es) : Along step P s (e :: es) := by
  intro s' hs'
  cases he.symm.trans hs'
  exact ⟨hP, h⟩

theorem Along.suffix {P : σ → ε → σ → Prop} (h : Along step P s (es ++ fs))
    (hr : run step s es = some t) : Along step P t fs := by
  induction es generalizing s with
  | nil =>
    cases hr
    exact h
  | cons e es ih =>
    obtain ⟨s', hs', hr'⟩ := Option.bind_eq_some_iff.1 hr
    exact ih (h s' hs').2 hr'

/-- The step property at one named step of a run. -/
theorem Along.at_step {P : σ → ε → σ → Prop} (h : Along step P s (es ++ e :: fs))
    (hr : run step s es = some t) (he : step t e = some t') : P t e t' :=
  (h.suffix hr t' he).1

/-- A step that can be seen at the end of a run. -/
theorem exists_step {obs : σ → σ → β} {v : β}
    (h : ((run step s es).bind fun t => (step t e).map fun t' => obs t t') = some v) :
    ∃ t t', run step s es = some t ∧ step t e = some t' ∧ obs t t' = v := by
  obtain ⟨t, ht, hstep⟩ := Option.bind_eq_some_iff.1 h
  obtain ⟨t', ht', hv⟩ := Option.map_eq_some_iff.1 hstep
  exact ⟨t, t', ht, ht', hv⟩

theorem Along.at_end {P : σ → ε → σ → Prop} (h : Along step P s (es ++ [e]))
    (hr : run step s (es ++ [e]) = some t') :
    ∃ t, run step s es = some t ∧ step t e = some t' ∧ P t e t' := by
  rw [run_append] at hr
  obtain ⟨t, ht, he⟩ := Option.bind_eq_some_iff.1 hr
  obtain ⟨u, hu, hut⟩ := Option.bind_eq_some_iff.1 he
  cases hut
  exact ⟨t, ht, hu, h.at_step ht hu⟩

theorem Always.at_end {Q : σ → Prop} (h : Always step Q s es) (hr : run step s es = some t) :
    Q t := by
  obtain ⟨hs, ha⟩ := h
  induction es generalizing s with
  | nil =>
    cases hr
    exact hs
  | cons e es ih =>
    obtain ⟨s', hs', hr'⟩ := Option.bind_eq_some_iff.1 hr
    obtain ⟨hQ, hrest⟩ := ha s' hs'
    exact ih hr' hQ hrest

/-- What can be reached in every case is reached with what every step keeps. -/
theorem Inevitable.exists {I Q : σ → Prop} (h : Inevitable step Q s) (hs : I s)
    (hstep : ∀ t e t', I t → step t e = some t' → I t') : ∃ t, I t ∧ Q t := by
  induction h with
  | reached s h => exact ⟨s, hs, h⟩
  | next s t e he h ih => exact ih e t he (hstep s e t hs he)

/-- States that are not to be reached, with no step or one to such a state. -/
theorem not_inevitable {I Q : σ → Prop} (hs : I s) (hQ : ∀ t, I t → ¬ Q t)
    (hstep : ∀ t e t', I t → step t e = some t' → ∃ e t', step t e = some t' ∧ I t') :
    ¬ Inevitable step Q s := by
  intro h
  induction h with
  | reached s h => exact hQ s hs h
  | next s t e he h ih =>
    obtain ⟨e', t', he', ht'⟩ := hstep s e t hs he
    exact ih e' t' he' ht'

/-- A step is possible and every step reaches `Q`, or keeps the invariant and goes down. -/
theorem inevitable_of_measure {I Q : σ → Prop} (m : σ → Nat) (hs : I s)
    (hgo : ∀ t, I t → ∃ e t', step t e = some t')
    (hstep : ∀ t e t', I t → step t e = some t' → Q t' ∨ I t' ∧ m t' < m t) :
    Inevitable step Q s := by
  obtain ⟨n, hn⟩ : ∃ n, m s < n := ⟨_, Nat.lt_succ_self _⟩
  induction n generalizing s with
  | zero => exact absurd hn (Nat.not_lt_zero _)
  | succ n ih =>
    obtain ⟨e, t, he⟩ := hgo s hs
    refine .next s t e he ?_
    intro e t he
    obtain hQ | ⟨ht, hlt⟩ := hstep s e t hs he
    · exact .reached t hQ
    · exact ih ht (Nat.lt_of_lt_of_le hlt (Nat.le_of_lt_succ hn))

/-- What an invariant says when `P` has happened, it says after every run in which it does. -/
theorem happens_of_invariant {P : σ → ε → σ → Prop} {I : Prop → σ → Prop} {B : Prop}
    (hmono : ∀ (A B : Prop) u, (A → B) → I A u → I B u) (hs : I B s)
    (hstep : ∀ B u e u', I B u → step u e = some u' → I (B ∨ P u e u') u')
    (hr : run step s es = some t) : I (B ∨ Happens step P s es) t := by
  induction es generalizing s B with
  | nil =>
    cases hr
    exact hmono _ _ _ .inl hs
  | cons e es ih =>
    obtain ⟨s', hs', hr'⟩ := Option.bind_eq_some_iff.1 hr
    apply hmono _ _ _ ?_ (ih (hstep B s e s' hs hs') hr')
    rintro ((hB | hP) | hrest)
    · exact .inl hB
    · exact .inr ⟨s', hs', .inl hP⟩
    · exact .inr ⟨s', hs', .inr hrest⟩

end Transition
