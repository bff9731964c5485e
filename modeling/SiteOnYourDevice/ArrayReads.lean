import Mathlib.Data.List.TakeWhile

namespace ArrayReads
set_option relaxedAutoImplicit false
set_option autoImplicit true

/-- A computation over an array: the indices that it reads, and its result unless one of them is
outside. -/
structure Reading (α : Type*) where
  reads : List Nat
  value : Option α
deriving DecidableEq

/-- An index into an array, and what the array holds from there on. -/
structure Place (α : Type*) where
  index : Nat
  rest : List α
deriving DecidableEq

namespace Reading

/-- The end of the array has been reached, and is read. -/
def outside (i : Nat) : Reading α := ⟨[i], none⟩

def reading (is : List Nat) (r : Reading α) : Reading α := ⟨is ++ r.reads, r.value⟩

instance : Monad Reading where
  pure a := ⟨[], some a⟩
  bind r f :=
    match r.value with
    | none => ⟨r.reads, none⟩
    | some a => (f a).reading r.reads

/-- Everything read is below `n`, and there is a result, which has `Q`. -/
structure Within (n : Nat) (Q : α → Prop) (r : Reading α) : Prop where
  reads : ∀ i ∈ r.reads, i < n
  value : ∃ a, r.value = some a ∧ Q a

variable {r : Reading α} {Q : α → Prop} {is : List Nat}

theorem Within.pure (h : Q a) : Within n Q (Pure.pure a) :=
  ⟨fun _ hi => absurd hi List.not_mem_nil, a, rfl, h⟩

theorem Within.reading (h : Within n Q r) (hi : ∀ i ∈ is, i < n) : Within n Q (r.reading is) := by
  refine ⟨?_, h.value⟩
  intro i hm
  obtain hm | hm := List.mem_append.1 hm
  · exact hi i hm
  · exact h.reads i hm

theorem Within.bind {f : α → Reading β} {R : β → Prop} (h : Within n Q r)
    (hf : ∀ a, Q a → Within n R (f a)) : Within n R (r >>= f) := by
  obtain ⟨a, ha, hq⟩ := h.value
  have hb : r >>= f = (f a).reading r.reads := by
    simp only [Bind.bind, ha]
  rw [hb]
  exact (hf a hq).reading h.reads

theorem Within.mono {R : α → Prop} (h : Within n Q r) (hr : ∀ a, Q a → R a) : Within n R r := by
  obtain ⟨a, ha, hq⟩ := h.value
  exact ⟨h.reads, a, ha, hr a hq⟩

/-- What the first part of a computation reads, the whole of it reads. -/
theorem reads_subset_bind (r : Reading α) (f : α → Reading β) : r.reads ⊆ (r >>= f).reads := by
  simp only [Bind.bind]
  cases r.value with
  | none => exact List.Subset.refl _
  | some a => exact List.subset_append_left _ _

theorem reads_bind (h : r.value = some a) (f : α → Reading β) :
    (r >>= f).reads = r.reads ++ (f a).reads := by
  simp only [Bind.bind, h]
  rfl

end Reading

open Reading

/-- The element at an index. -/
def readAt (i : Nat) : List α → Reading α
  | [] => .outside i
  | c :: _ => ⟨[i], some c⟩

/-- A loop that goes on while `f` holds of the element it reads. -/
def readWhile (f : α → Bool) (i : Nat) : List α → Reading (List α × Place α)
  | [] => .outside i
  | c :: p =>
    .reading [i] <|
      if f c then do
        let x ← readWhile f (i + 1) p
        pure (c :: x.1, x.2)
      else pure ([], ⟨i, c :: p⟩)

theorem readAt_within (hn : i + (c :: p).length = n) :
    Within n (fun x => x = c) (readAt i (c :: p)) := by
  refine ⟨?_, c, rfl, rfl⟩
  intro j hj
  rw [List.mem_singleton.1 hj, ← hn, List.length_cons]
  omega

/-- The loop stays in an array that holds an element it stops at. -/
theorem readWhile_within {f : α → Bool} (hz : f z = false) (h : z ∈ p) (hn : i + p.length = n) :
    Within n (fun x => x = (p.takeWhile f, ⟨i + (p.takeWhile f).length, p.dropWhile f⟩))
      (readWhile f i p) := by
  induction p generalizing i with
  | nil => exact absurd h List.not_mem_nil
  | cons c p ih =>
    rw [List.length_cons] at hn
    rw [readWhile]
    apply Within.reading
    · split
      · rename_i hc
        have hp : z ∈ p := by
          obtain rfl | hp := List.mem_cons.1 h
          · rw [hz] at hc
            cases hc
          · exact hp
        apply (ih hp (by omega)).bind
        rintro _ rfl
        apply Within.pure
        rw [List.takeWhile_cons_of_pos hc, List.dropWhile_cons_of_pos hc, List.length_cons,
          Nat.add_right_comm, Nat.add_assoc]
      · rename_i hc
        apply Within.pure
        rw [List.takeWhile_cons_of_neg hc, List.dropWhile_cons_of_neg hc]
        rfl
    · intro j hj
      rw [List.mem_singleton.1 hj]
      omega

end ArrayReads
