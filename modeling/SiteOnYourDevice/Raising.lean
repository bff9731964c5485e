import Mathlib.Logic.Basic

set_option relaxedAutoImplicit false
set_option autoImplicit true

/-- A computation with a state that may raise; what it did before it raised stays. -/
def Raising (ε σ α : Type) : Type := σ → Except ε α × σ

namespace Raising

def raise (e : ε) : Raising ε σ α := fun s => (.error e, s)

/-- A call with a known outcome, which leaves the state alone. -/
def lift (outcome : Except ε α) : Raising ε σ α := fun s => (outcome, s)

theorem lift_apply (outcome : Except ε α) (s : σ) : lift outcome s = (outcome, s) := rfl

def get : Raising ε σ σ := fun s => (.ok s, s)

def modify (f : σ → σ) : Raising ε σ Unit := fun s => (.ok (), f s)

def handle (m : Raising ε σ α) (h : ε → Raising ε σ α) : Raising ε σ α := fun s =>
  match m s with
  | (.ok a, t) => (.ok a, t)
  | (.error e, t) => h e t

instance : Monad (Raising ε σ) where
  pure a := fun s => (.ok a, s)
  bind m k := fun s =>
    match m s with
    | (.ok a, t) => k a t
    | (.error e, t) => (.error e, t)

/-- A computation between `try` and a clause that restores something and raises again. -/
def guarded (catches : ε → Bool) (restore : Raising ε σ Unit) (m : Raising ε σ α) :
    Raising ε σ α :=
  m.handle fun e =>
    if catches e then do
      restore
      raise e
    else raise e

variable {m : Raising ε σ α} {k : α → Raising ε σ β} {s t : σ} {a : α} {e : ε}

theorem bind_ok (h : m s = (.ok a, t)) : (m >>= k) s = k a t := by
  change (match m s with
    | (.ok a, t) => k a t
    | (.error e, t) => (.error e, t)) = k a t
  rw [h]

theorem bind_error (h : m s = (.error e, t)) : (m >>= k) s = (.error e, t) := by
  change (match m s with
    | (.ok a, t) => k a t
    | (.error e, t) => (.error e, t)) = (.error e, t)
  rw [h]

theorem lift_modify_ok {outcome : Except ε α} {f : σ → σ} (h : outcome = .ok a) :
    (lift outcome >>= fun _ => modify f) s = (.ok (), f s) := by
  rw [h]
  rfl

theorem lift_modify_error {outcome : Except ε α} {f : σ → σ} (h : outcome = .error e) :
    (lift outcome >>= fun _ => modify f) s = (.error e, s) := by
  rw [h]
  rfl

theorem guarded_ok {catches : ε → Bool} {restore : Raising ε σ Unit} (h : m s = (.ok a, t)) :
    guarded catches restore m s = (.ok a, t) := by
  simp only [guarded, handle, h]

theorem guarded_pass {catches : ε → Bool} {restore : Raising ε σ Unit} (h : m s = (.error e, t))
    (hc : catches e = false) : guarded catches restore m s = (.error e, t) := by
  simp only [guarded, handle, h, hc, Bool.false_eq_true, if_false]
  rfl

/-- A clause that is taken raises again, from the state that `restore` leaves. -/
theorem guarded_catch {catches : ε → Bool} {restore : Raising ε σ Unit} (h : m s = (.error e, t))
    (hc : catches e = true) :
    ∃ e', guarded catches restore m s = (.error e', (restore t).2) := by
  simp only [guarded, handle, h, hc, if_true]
  cases hr : restore t with
  | mk result u =>
    cases result with
    | ok => exact ⟨e, bind_ok hr⟩
    | error e' => exact ⟨e', bind_error hr⟩

/-- A step between a place that was entered and the end: what it raises, and which exceptions are
caught by a clause that leaves the place. -/
structure Step (ε : Type) where
  raises : Option ε
  catches : ε → Bool

/-- The first step that raises, if there is one, is caught. -/
def Caught : List (Step ε) → Prop
  | [] => True
  | step :: steps =>
    match step.raises with
    | none => Caught steps
    | some e => step.catches e = true

theorem caught_some {catches : ε → Bool} {steps : List (Step ε)} :
    Caught (⟨some e, catches⟩ :: steps) ↔ catches e = true := Iff.rfl

def error? : Except ε α → Option ε
  | .ok _ => none
  | .error e => some e

variable {γ : Type} {place : σ → γ} {here back : γ} {outcome : Except ε α}

/-- A computation leaves a part of the state alone, also when it raises. -/
def Keeps (place : σ → γ) (m : Raising ε σ α) : Prop := ∀ s, place (m s).2 = place s

theorem keeps_lift (outcome : Except ε α) : Keeps place (lift outcome : Raising ε σ α) :=
  fun _ => rfl

theorem keeps_pure (a : α) : Keeps place (pure a : Raising ε σ α) := fun _ => rfl

theorem keeps_get : Keeps place (get : Raising ε σ σ) := fun _ => rfl

theorem keeps_modify {f : σ → σ} (hf : ∀ s, place (f s) = place s) :
    Keeps place (modify f : Raising ε σ Unit) := hf

theorem Keeps.bind (h : Keeps place m) (hk : ∀ a, Keeps place (k a)) : Keeps place (m >>= k) := by
  intro s
  cases hm : m s with
  | mk result t =>
    have ht : place t = place s := by
      rw [← h s, hm]
    cases result with
    | ok a => rw [bind_ok hm, hk a t, ht]
    | error e => rw [bind_error hm, ht]

theorem Keeps.handle {clause : ε → Raising ε σ α} (h : Keeps place m)
    (hc : ∀ e, Keeps place (clause e)) : Keeps place (handle m clause) := by
  intro s
  have hs := h s
  rw [Raising.handle]
  split
  · rename_i hm
    rwa [hm] at hs
  · rename_i hm
    rw [hm] at hs
    rw [hc, hs]

theorem Keeps.guarded {catches : ε → Bool} {restore : Raising ε σ Unit} (h : Keeps place m)
    (hr : Keeps place restore) : Keeps place (guarded catches restore m) := by
  apply h.handle
  intro e
  split
  · exact hr.bind fun _ => keeps_lift (.error e)
  · exact keeps_lift (.error e)

/-- At a place, a computation has an outcome and stays there. -/
structure StaysAt (place : σ → γ) (here : γ) (m : Raising ε σ α) (outcome : Except ε α) : Prop where
  result : ∀ s, place s = here → (m s).1 = outcome
  stays : ∀ s, place s = here → place (m s).2 = here

theorem staysAt_lift (outcome : Except ε α) :
    StaysAt place here (lift outcome : Raising ε σ α) outcome :=
  ⟨fun _ _ => rfl, fun _ hs => hs⟩

theorem staysAt_modify {f : σ → σ} (hf : ∀ s, place (f s) = place s) :
    StaysAt place here (modify f : Raising ε σ Unit) (.ok ()) :=
  ⟨fun _ _ => rfl, fun s hs => (hf s).trans hs⟩

theorem StaysAt.run (h : StaysAt place here m outcome) (hs : place s = here) :
    ∃ t, m s = (outcome, t) ∧ place t = here :=
  ⟨(m s).2, Prod.ext (h.result s hs) rfl, h.stays s hs⟩

theorem StaysAt.bind {outcomes : α → Except ε β} (h : StaysAt place here m outcome)
    (hk : ∀ a, StaysAt place here (k a) (outcomes a)) :
    StaysAt place here (m >>= k) (outcome >>= outcomes) := by
  have hrun (s : σ) (hs : place s = here) :
      ((m >>= k) s).1 = (outcome >>= outcomes) ∧ place ((m >>= k) s).2 = here := by
    obtain ⟨t, ht, hplace⟩ := h.run hs
    cases outcome with
    | ok a =>
      rw [bind_ok ht]
      exact ⟨(hk a).result t hplace, (hk a).stays t hplace⟩
    | error e =>
      rw [bind_error ht]
      exact ⟨rfl, hplace⟩
  exact ⟨fun s hs => (hrun s hs).1, fun s hs => (hrun s hs).2⟩

theorem staysAt_get_bind {k : σ → Raising ε σ α}
    (hk : ∀ s, place s = here → StaysAt place here (k s) outcome) :
    StaysAt place here (get >>= k) outcome :=
  ⟨fun s hs => (hk s hs).result s hs, fun s hs => (hk s hs).stays s hs⟩

variable {steps : List (Step ε)} {left : Prop} {restore : Raising ε σ Unit}

/-- A step without a clause has to succeed. -/
theorem back_bind_iff (h : StaysAt place here m outcome) (hne : here ≠ back) (hs : place s = here)
    (hk : ∀ a, outcome = .ok a → ∀ t, place t = here →
      (place (k a t).2 = back ↔ Caught steps ∧ left)) :
    place ((m >>= k) s).2 = back ↔ Caught (⟨error? outcome, fun _ => false⟩ :: steps) ∧ left := by
  obtain ⟨t, ht, hplace⟩ := h.run hs
  cases outcome with
  | ok a =>
    rw [bind_ok ht]
    exact hk a rfl t hplace
  | error e =>
    rw [bind_error ht, hplace]
    constructor
    · exact fun heq => absurd heq hne
    · exact fun hcaught => Bool.noConfusion hcaught.1

/-- A step with a clause may raise what the clause catches. -/
theorem back_guarded_iff {catches : ε → Bool} (h : StaysAt place here m outcome)
    (hne : here ≠ back) (hs : place s = here)
    (hrestore : ∀ t, place t = here → (place (restore t).2 = back ↔ left))
    (hk : ∀ a, outcome = .ok a → ∀ t, place t = here →
      (place (k a t).2 = back ↔ Caught steps ∧ left)) :
    place ((guarded catches restore m >>= k) s).2 = back ↔
      Caught (⟨error? outcome, catches⟩ :: steps) ∧ left := by
  obtain ⟨t, ht, hplace⟩ := h.run hs
  cases outcome with
  | ok a =>
    rw [bind_ok (guarded_ok ht)]
    exact hk a rfl t hplace
  | error e =>
    rw [error?, caught_some]
    cases hc : catches e with
    | true =>
      obtain ⟨e', hrun⟩ := guarded_catch ht hc
      rw [bind_error hrun, hrestore t hplace]
      exact (and_iff_right rfl).symm
    | false =>
      rw [bind_error (guarded_pass ht hc), hplace]
      constructor
      · exact fun heq => absurd heq hne
      · exact fun hcaught => Bool.noConfusion hcaught.1

/-- A clause that catches everything leaves the place in any case. -/
theorem back_guarded_all_iff (h : Keeps place m) (hs : place s = here)
    (hrestore : ∀ t, place t = here → (place (restore t).2 = back ↔ left))
    (hk : ∀ a t, place t = here → (place (k a t).2 = back ↔ left)) :
    place ((guarded (fun _ => true) restore m >>= k) s).2 = back ↔ left := by
  cases hm : m s with
  | mk result t =>
    have ht : place t = here := by
      rw [← hs, ← h s, hm]
    cases result with
    | ok a =>
      rw [bind_ok (guarded_ok hm)]
      exact hk a t ht
    | error e =>
      obtain ⟨e', hrun⟩ :
          ∃ e', guarded (fun _ => true) restore m s = (.error e', (restore t).2) :=
        guarded_catch hm rfl
      rw [bind_error hrun]
      exact hrestore t ht

/-- What only returns something keeps the state of the way back. -/
theorem bind_pure_state (m : Raising ε σ α) (b : β) (s : σ) :
    ((m >>= fun _ => pure b) s).2 = (m s).2 := by
  cases hm : m s with
  | mk result t =>
    cases result with
    | ok a => exact congrArg Prod.snd (bind_ok hm)
    | error e => exact congrArg Prod.snd (bind_error hm)

end Raising
