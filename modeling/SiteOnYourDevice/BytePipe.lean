import Mathlib.Data.List.Basic

namespace BytePipe
set_option relaxedAutoImplicit false
set_option autoImplicit true

/-- One transfer through a pipe: what was read from the source, and how much of it the destination
took. -/
structure Transfer (α : Type) where
  read : List α
  accepted : Nat

def Transfer.taken (t : Transfer α) : List α := t.read.take t.accepted

def Transfer.Whole (t : Transfer α) : Prop := t.read.length ≤ t.accepted

/-- All that was read. -/
def offered (ts : List (Transfer α)) : List α := ts.flatMap (·.read)

/-- All that was taken. -/
def taken (ts : List (Transfer α)) : List α := ts.flatMap Transfer.taken

@[simp] theorem offered_nil : offered ([] : List (Transfer α)) = [] := rfl

@[simp] theorem taken_nil : taken ([] : List (Transfer α)) = [] := rfl

@[simp] theorem offered_cons (t : Transfer α) (ts : List (Transfer α)) :
    offered (t :: ts) = t.read ++ offered ts := rfl

@[simp] theorem taken_cons (t : Transfer α) (ts : List (Transfer α)) :
    taken (t :: ts) = t.taken ++ taken ts := rfl

theorem Transfer.length_taken_le (t : Transfer α) : t.taken.length ≤ t.read.length :=
  List.length_take_le' t.accepted t.read

theorem Transfer.taken_eq_read_iff (t : Transfer α) : t.taken = t.read ↔ t.Whole := by
  constructor
  · intro h
    have hlen := congrArg List.length h
    rw [taken, List.length_take] at hlen
    rw [Whole, ← hlen]
    exact Nat.min_le_left _ _
  · intro h
    exact List.take_of_length_le h

theorem length_taken_le (ts : List (Transfer α)) : (taken ts).length ≤ (offered ts).length := by
  induction ts with
  | nil => exact Nat.le_refl 0
  | cons t ts ih =>
    simp only [taken_cons, offered_cons, List.length_append]
    exact Nat.add_le_add t.length_taken_le ih

theorem taken_append (ts us : List (Transfer α)) : taken (ts ++ us) = taken ts ++ taken us :=
  List.flatMap_append

/-- Nothing that was lost is made up for: the pipe passes exactly what was read when every single
transfer was whole, and otherwise never again. -/
theorem taken_eq_offered_iff (ts : List (Transfer α)) :
    taken ts = offered ts ↔ ∀ t ∈ ts, t.Whole := by
  induction ts with
  | nil => simp
  | cons t ts ih =>
    rw [List.forall_mem_cons, ← ih, ← t.taken_eq_read_iff, taken_cons, offered_cons]
    constructor
    · intro h
      have hlen := congrArg List.length h
      have ht := t.length_taken_le
      have hts := length_taken_le ts
      simp only [List.length_append] at hlen
      exact List.append_inj h (by omega)
    · rintro ⟨ht, hts⟩
      rw [ht, hts]

end BytePipe
