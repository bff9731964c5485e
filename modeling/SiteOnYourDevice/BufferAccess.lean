import Mathlib.Data.List.Basic

namespace BufferAccess
set_option relaxedAutoImplicit false
set_option autoImplicit true

/-- What a program did to a buffer: the indices it read and wrote, the buffer after it, and its
result unless one of the indices was outside. -/
structure Accessed (α β : Type*) where
  reads : List Nat
  writes : List Nat
  buffer : List α
  value : Option β
deriving DecidableEq

/-- A program that works on a buffer in place. -/
def Access (α β : Type*) := List α → Accessed α β

namespace Access

instance : Monad (Access α) where
  pure a := fun b => ⟨[], [], b, some a⟩
  bind m f := fun b =>
    match (m b).value with
    | none => ⟨(m b).reads, (m b).writes, (m b).buffer, none⟩
    | some a =>
      let r := f a (m b).buffer
      ⟨(m b).reads ++ r.reads, (m b).writes ++ r.writes, r.buffer, r.value⟩

end Access

def readAt (i : Nat) : Access α α := fun b => ⟨[i], [], b, b[i]?⟩

def writeAt (i : Nat) (a : α) : Access α Unit := fun b =>
  ⟨[], [i], b.set i a, if i < b.length then some () else none⟩

/-- Everything read is inside the buffer, everything written is inside it and in `W`, what is not
in `W` is as before, and there is a result, which has `Q` together with the buffer. -/
structure Safe (b : List α) (W : Nat → Prop) (Q : β → List α → Prop) (r : Accessed α β) :
    Prop where
  reads : ∀ i ∈ r.reads, i < b.length
  writes : ∀ i ∈ r.writes, i < b.length ∧ W i
  length : r.buffer.length = b.length
  frame : ∀ i, ¬ W i → r.buffer[i]? = b[i]?
  value : ∃ a, r.value = some a ∧ Q a r.buffer

variable {b : List α} {W : Nat → Prop} {Q : β → List α → Prop}

theorem Safe.pure (h : Q a b) : Safe b W Q ((Pure.pure a : Access α β) b) :=
  ⟨fun _ hi => absurd hi List.not_mem_nil, fun _ hi => absurd hi List.not_mem_nil, rfl,
    fun _ _ => rfl, a, rfl, h⟩

theorem Safe.bind {m : Access α β} {f : β → Access α γ} {R : γ → List α → Prop}
    (h : Safe b W Q (m b))
    (hf : ∀ a b', b'.length = b.length → Q a b' → Safe b' W R (f a b')) :
    Safe b W R ((m >>= f) b) := by
  obtain ⟨a, ha, hq⟩ := h.value
  have hn := hf a (m b).buffer h.length hq
  have hb : (m >>= f) b = ⟨(m b).reads ++ (f a (m b).buffer).reads,
      (m b).writes ++ (f a (m b).buffer).writes, (f a (m b).buffer).buffer,
      (f a (m b).buffer).value⟩ := by
    simp only [Bind.bind, ha]
  rw [hb]
  refine ⟨?_, ?_, hn.length.trans h.length, fun i hi => (hn.frame i hi).trans (h.frame i hi),
    hn.value⟩
  · intro i hi
    obtain hi | hi := List.mem_append.1 hi
    · exact h.reads i hi
    · exact h.length ▸ hn.reads i hi
  · intro i hi
    obtain hi | hi := List.mem_append.1 hi
    · exact h.writes i hi
    · exact h.length ▸ hn.writes i hi

theorem Safe.readAt (hi : i < b.length) :
    Safe b W (fun a b' => b = b' ∧ b[i]? = some a) (readAt i b) := by
  refine ⟨?_, fun _ hj => absurd hj List.not_mem_nil, rfl, fun _ _ => rfl, b[i],
    List.getElem?_eq_getElem hi, rfl, List.getElem?_eq_getElem hi⟩
  intro j hj
  rw [List.mem_singleton.1 hj]
  exact hi

theorem Safe.writeAt (hi : i < b.length) (hw : W i) (a : α) :
    Safe b W (fun _ b' => b' = b.set i a) (writeAt i a b) := by
  refine ⟨fun _ hj => absurd hj List.not_mem_nil, ?_, List.length_set, ?_, (), if_pos hi, rfl⟩
  · intro j hj
    rw [List.mem_singleton.1 hj]
    exact ⟨hi, hw⟩
  · intro j hj
    have hne : i ≠ j := fun he => hj (he ▸ hw)
    exact List.getElem?_set_ne hne

/-- What writes nowhere leaves the buffer alone. -/
theorem Safe.unchanged {r : Accessed α β} (h : Safe b (fun _ => False) Q r) :
    r.buffer = b ∧ r.writes = [] := by
  refine ⟨List.ext_getElem? fun i => h.frame i not_false, ?_⟩
  exact List.eq_nil_iff_forall_not_mem.2 fun i hi => (h.writes i hi).2

theorem Safe.mono {R : β → List α → Prop} {r : Accessed α β} (h : Safe b W Q r)
    (hr : ∀ a b', Q a b' → R a b') : Safe b W R r := by
  obtain ⟨a, ha, hq⟩ := h.value
  exact ⟨h.reads, h.writes, h.length, h.frame, a, ha, hr a _ hq⟩

theorem Safe.weaken {W' : Nat → Prop} {r : Accessed α β} (h : Safe b W Q r)
    (hw : ∀ i, W i → W' i) : Safe b W' Q r :=
  ⟨h.reads, fun i hi => ⟨(h.writes i hi).1, hw i (h.writes i hi).2⟩, h.length,
    fun i hi => h.frame i fun hn => hi (hw i hn), h.value⟩

end BufferAccess
