import Mathlib.Data.List.Basic

namespace MemoryBlock
set_option relaxedAutoImplicit false
set_option autoImplicit true

variable {α : Type*} {b t u : List α}

/-- The elements of `t` written from `i` on, when all of them are inside the block. -/
def store (b : List α) (i : Nat) (t : List α) : Option (List α) :=
  if i + t.length ≤ b.length then some (b.take i ++ t ++ b.drop (i + t.length)) else none

def load (b : List α) (i n : Nat) : Option (List α) :=
  if i + n ≤ b.length then some ((b.drop i).take n) else none

/-- A block that takes the place of another: what has room in it comes along. -/
def realloc (b fresh : List α) : List α := b.take fresh.length ++ fresh.drop b.length

/-- What is written behind a prefix of a block makes it longer. -/
theorem store_append (h : t <+: b) (hb : t.length + u.length ≤ b.length) :
    ∃ b', store b t.length u = some b' ∧ b'.length = b.length ∧ t ++ u <+: b' := by
  refine ⟨b.take t.length ++ u ++ b.drop (t.length + u.length), if_pos hb, ?_, ?_⟩
  · simp only [List.length_append, List.length_take, List.length_drop]
    omega
  · rw [← List.prefix_iff_eq_take.1 h]
    exact List.prefix_append _ _

theorem store_append_one (h : t <+: b) (hb : t.length < b.length) (a : α) :
    ∃ b', store b t.length [a] = some b' ∧ b'.length = b.length ∧ t ++ [a] <+: b' :=
  store_append h hb

theorem store_head (hb : u.length ≤ b.length) :
    ∃ b', store b 0 u = some b' ∧ b'.length = b.length ∧ u <+: b' := by
  obtain ⟨b', hs, hlen, hu⟩ := store_append (t := []) (u := u) List.nil_prefix (by simpa using hb)
  exact ⟨b', hs, hlen, hu⟩

/-- A part of a prefix is read back as it is there. -/
theorem load_within (h : t <+: b) (hn : i + n ≤ t.length) :
    load b i n = some ((t.drop i).take n) := by
  obtain ⟨r, rfl⟩ := h
  have hb : i + n ≤ (t ++ r).length := by
    rw [List.length_append]
    omega
  rw [load, if_pos hb, List.drop_append_of_le_length (by omega),
    List.take_append_of_le_length (by rw [List.length_drop]; omega)]

theorem load_head (h : t <+: b) : load b 0 t.length = some t := by
  rw [load_within h (by omega), List.drop_zero, List.take_length]

@[simp] theorem realloc_length (b fresh : List α) : (realloc b fresh).length = fresh.length := by
  simp only [realloc, List.length_append, List.length_take, List.length_drop]
  omega

theorem realloc_keeps {fresh : List α} (h : t <+: b) (ht : t.length ≤ fresh.length) :
    t <+: realloc b fresh := by
  have htake : t <+: b.take fresh.length := List.prefix_take_iff.2 ⟨h, ht⟩
  exact htake.trans (List.prefix_append _ _)

end MemoryBlock
