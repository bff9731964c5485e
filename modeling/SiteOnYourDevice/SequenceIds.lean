import SiteOnYourDevice.Commands

namespace SiteOnYourDevice
open CString
set_option relaxedAutoImplicit false
set_option autoImplicit true

/-- The counter of a parser after some calls of `next_id`. -/
def idCounter : Nat → UInt64
  | 0 => 0
  | n + 1 => (next_id (idCounter n)).2

/-- What a call of `next_id` returns, by its place among the calls. -/
def idOfCall (n : Nat) : cmd_seq_t := (next_id (idCounter n)).1

/-- A byte above the lower half of a word is zero when the word is one of 32 bits. -/
theorem high_byte (x : UInt32) (h : 4 ≤ i) (hi : i < 8) :
    x.toUInt64 >>> UInt64.ofNat (8 * i) = 0 := by
  apply UInt64.toNat_inj.1
  have hx : x.toUInt64.toNat < 2 ^ 32 := x.toNat_lt
  have hs : (UInt64.ofNat (8 * i)).toNat = 8 * i := by
    rw [UInt64.toNat_ofNat']
    omega
  rw [UInt64.toNat_shiftRight, hs, Nat.mod_eq_of_lt (by omega), Nat.shiftRight_eq_div_pow]
  apply Nat.div_eq_of_lt
  exact hx.trans_le (Nat.pow_le_pow_right (by decide) (by omega))

/-- The bytes of a word of 32 bits end up in the upper half. -/
theorem NetToHost64_low (x : UInt32) : (NetToHost64 x.toUInt64).toUInt32 = 0 := by
  have hr : List.range 8 = List.range 4 ++ [4, 5, 6, 7] := by decide
  have h8 : (8 : UInt64).toNat % 64 = 8 := by decide
  rw [NetToHost64, hr, List.foldl_append]
  simp only [List.foldl_cons, List.foldl_nil, high_byte x (i := 4) (by decide) (by decide),
    high_byte x (i := 5) (by decide) (by decide), high_byte x (i := 6) (by decide) (by decide),
    high_byte x (i := 7) (by decide) (by decide), UInt64.zero_and, UInt64.or_zero]
  apply UInt32.toNat_inj.1
  simp only [UInt64.toNat_toUInt32, UInt64.toNat_shiftLeft, Nat.shiftLeft_eq, h8]
  rw [UInt32.toNat_zero]
  omega

/-- Every id is the one of the number zero. -/
theorem next_id_zero (id_ : UInt64) : (next_id id_).1 = hexEncode (idBytes 0) := by
  rw [next_id, NetToHost64_low]

/-- No two calls return ids that differ. -/
theorem not_idOfCall_ne (i j : Nat) : ¬ idOfCall i ≠ idOfCall j := by
  rw [idOfCall, idOfCall, next_id_zero, next_id_zero]
  exact not_not.2 rfl

theorem idOfCall_collide :
    ¬ ∀ i j : Nat, i < 2 ^ 32 → j < 2 ^ 32 → i ≠ j → idOfCall i ≠ idOfCall j := by
  intro h
  exact h 0 1 (by decide) (by decide) (by decide) (by decide)

end SiteOnYourDevice
