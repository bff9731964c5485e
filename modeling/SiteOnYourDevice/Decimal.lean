import SiteOnYourDevice.CString
import Mathlib.Data.Nat.Digits.Defs
import Mathlib.Data.Int.Init

namespace SiteOnYourDevice
open CString
set_option relaxedAutoImplicit false
set_option autoImplicit true

/-- `%d`. -/
def decimalText : Int → Str
  | .ofNat n => Nat.toDigits 10 n
  | .negSucc n => '-' :: Nat.toDigits 10 (n + 1)

theorem cr_not_mem_toDigits (n : Nat) : '\r' ∉ Nat.toDigits 10 n := by
  intro h
  exact absurd (Nat.isDigit_of_mem_toDigits (by decide) (by decide) h) (by decide)

theorem decimalText_line (n : Int) : '\r' ∉ decimalText n := by
  cases n with
  | ofNat n => exact cr_not_mem_toDigits n
  | negSucc n =>
    rw [decimalText, List.mem_cons, not_or]
    exact ⟨by decide, cr_not_mem_toDigits (n + 1)⟩

theorem isdigit_of_mem_toDigits (h : c ∈ Nat.toDigits 10 n) : isdigit c = true := by
  have hc := Nat.isDigit_of_mem_toDigits (by decide) (by decide) h
  simp only [Char.isDigit, Bool.and_eq_true, decide_eq_true_eq] at hc
  simp only [isdigit, Bool.and_eq_true, decide_eq_true_eq]
  exact hc

/-- A numeral without a sign has none. -/
theorem signed_toDigits (n : Nat) (r : Str) :
    signed (Nat.toDigits 10 n ++ r) = (false, Nat.toDigits 10 n ++ r) := by
  cases h : Nat.toDigits 10 n with
  | nil => exact absurd h Nat.toDigits_ne_nil
  | cons c s => exact signed_of_isdigit (isdigit_of_mem_toDigits (h ▸ List.mem_cons_self)) _

theorem length_toDigits_small (h : n < 10) : (Nat.toDigits 10 n).length = 1 := by
  rw [Nat.toDigits_of_lt_base h]
  rfl

theorem length_toDigits_large (h : 10 ≤ n) :
    (Nat.toDigits 10 n).length = (Nat.toDigits 10 (n / 10)).length + 1 := by
  rw [Nat.toDigits_of_base_le (by decide) h, List.length_append]
  rfl

theorem ofDigitChars_le (s : Str) (v : Nat) : v ≤ Nat.ofDigitChars 10 s v := by
  rw [Nat.ofDigitChars_eq_ofDigitChars_zero]
  have hpow : 1 ≤ 10 ^ s.length := Nat.one_le_pow _ _ (by decide)
  exact (Nat.le_mul_of_pos_left v hpow).trans (Nat.le_add_right _ _)

end SiteOnYourDevice
