import Mathlib.Data.List.Basic
import Mathlib.Algebra.Order.Ring.Nat
import Mathlib.Tactic.Ring

namespace WebSocketFrame
set_option relaxedAutoImplicit false
set_option autoImplicit true

section Masking
variable {α κ : Type*} (op : α → κ → α) (key : Nat → κ)

/-- A list masked with a stream of keys, from the key `i` on. -/
def maskFrom : Nat → List α → List α
  | _, [] => []
  | i, a :: as => op a (key i) :: maskFrom (i + 1) as

variable {op key}

theorem length_maskFrom (i : Nat) (as : List α) : (maskFrom op key i as).length = as.length := by
  induction as generalizing i with
  | nil => rfl
  | cons a as ih => rw [maskFrom, List.length_cons, List.length_cons, ih]

/-- A second mask takes the first one off. -/
theorem maskFrom_maskFrom (h : ∀ a k, op (op a k) k = a) (i : Nat) (as : List α) :
    maskFrom op key i (maskFrom op key i as) = as := by
  induction as generalizing i with
  | nil => rfl
  | cons a as ih => rw [maskFrom, maskFrom, h, ih]

end Masking

/-- The last bytes of a number, the highest one first. -/
def bigEndian : Nat → Nat → List UInt8
  | 0, _ => []
  | k + 1, n => bigEndian k (n / 256) ++ [UInt8.ofNat n]

def ofBigEndian (bytes : List UInt8) : Nat := bytes.foldl (fun n b => n * 256 + b.toNat) 0

theorem length_bigEndian (k n : Nat) : (bigEndian k n).length = k := by
  induction k generalizing n with
  | zero => rfl
  | succ k ih => rw [bigEndian, List.length_append, ih, List.length_singleton]

theorem ofBigEndian_bigEndian (k n : Nat) : ofBigEndian (bigEndian k n) = n % 256 ^ k := by
  induction k generalizing n with
  | zero => rw [pow_zero, Nat.mod_one]; rfl
  | succ k ih =>
    have hfold : ofBigEndian (bigEndian (k + 1) n) =
        ofBigEndian (bigEndian k (n / 256)) * 256 + (UInt8.ofNat n).toNat := by
      rw [bigEndian, ofBigEndian, List.foldl_append]
      rfl
    have hbyte : (UInt8.ofNat n).toNat = n % 256 := UInt8.toNat_ofNat'
    rw [hfold, ih, hbyte, Nat.pow_succ', Nat.mod_mul, Nat.mul_comm 256, Nat.add_comm]

/-- The four bytes of a masking key. -/
structure MaskingKey where
  k₀ : UInt8
  k₁ : UInt8
  k₂ : UInt8
  k₃ : UInt8
deriving DecidableEq

namespace MaskingKey

def bytes (key : MaskingKey) : List UInt8 := [key.k₀, key.k₁, key.k₂, key.k₃]

/-- The key that is used over and over again. -/
def byte (key : MaskingKey) (i : Nat) : UInt8 := key.bytes.getD (i % 4) 0

def mask (key : MaskingKey) (data : List UInt8) : List UInt8 :=
  maskFrom (fun a k => a ^^^ k) key.byte 0 data

theorem mask_mask (key : MaskingKey) (data : List UInt8) : key.mask (key.mask data) = data := by
  apply maskFrom_maskFrom
  intro a k
  rw [UInt8.xor_assoc, UInt8.xor_self, UInt8.xor_zero]

theorem length_mask (key : MaskingKey) (data : List UInt8) :
    (key.mask data).length = data.length := length_maskFrom 0 data

end MaskingKey

/-- A frame, by the fields of its header, with the payload before it is masked. -/
structure WireFrame where
  fin : Bool
  rsv : Fin 8
  opcode : Fin 16
  key : Option MaskingKey
  payload : List UInt8
deriving DecidableEq

/-- The seven bits of a length, and the bytes of a longer one behind them. -/
def lengthField (n : Nat) : Nat × List UInt8 :=
  if n ≤ 125 then (n, [])
  else if n < 2 ^ 16 then (126, bigEndian 2 n)
  else (127, bigEndian 8 n)

/-- The number of the bytes behind the seven bits. -/
def extraBytes (bits : Nat) : Nat := if bits = 126 then 2 else if bits = 127 then 8 else 0

namespace WireFrame

def firstByte (f : WireFrame) : UInt8 :=
  UInt8.ofNat (f.fin.toNat * 128 + f.rsv.val * 16 + f.opcode.val)

def secondByte (f : WireFrame) : UInt8 :=
  UInt8.ofNat (f.key.isSome.toNat * 128 + (lengthField f.payload.length).1)

def encode (f : WireFrame) : List UInt8 :=
  f.firstByte :: f.secondByte :: (lengthField f.payload.length).2 ++
    match f.key with
    | some key => key.bytes ++ key.mask f.payload
    | none => f.payload

/-- The frame that a text is, when it is one and its length is written in the shortest form. -/
def decode : List UInt8 → Option WireFrame
  | b₀ :: b₁ :: rest =>
    let bits := b₁.toNat % 128
    let extra := rest.take (extraBytes bits)
    let n := if extraBytes bits = 0 then bits else ofBigEndian extra
    let frame key payload : Option WireFrame :=
      if payload.length = n ∧ lengthField n = (bits, extra) then
        some ⟨128 ≤ b₀.toNat, Fin.ofNat 8 (b₀.toNat / 16), Fin.ofNat 16 b₀.toNat, key, payload⟩
      else none
    if 128 ≤ b₁.toNat then
      match rest.drop (extraBytes bits) with
      | k₀ :: k₁ :: k₂ :: k₃ :: data =>
        frame (some ⟨k₀, k₁, k₂, k₃⟩) (MaskingKey.mask ⟨k₀, k₁, k₂, k₃⟩ data)
      | _ => none
    else frame none (rest.drop (extraBytes bits))
  | _ => none

/-- An unfragmented frame with no extension bits. -/
def final (opcode : UInt8) (key : Option MaskingKey) (payload : List UInt8) : WireFrame :=
  ⟨true, 0, Fin.ofNat 16 opcode.toNat, key, payload⟩

end WireFrame

/-- The form of a length says how many bytes it has, and gives the length back. -/
theorem lengthField_spec {n : Nat} (h : n < 2 ^ 64) :
    (lengthField n).1 < 128 ∧ (lengthField n).2.length = extraBytes (lengthField n).1 ∧
      (if extraBytes (lengthField n).1 = 0 then (lengthField n).1
        else ofBigEndian (lengthField n).2) = n := by
  rw [lengthField]
  split
  · rename_i hn
    have he : extraBytes n = 0 := by
      rw [extraBytes, if_neg (by omega), if_neg (by omega)]
    exact ⟨by omega, he.symm, if_pos he⟩
  split
  · rename_i hn
    have he : extraBytes 126 ≠ 0 := by decide
    refine ⟨(by decide : 126 < 128), length_bigEndian 2 n, (if_neg he).trans ?_⟩
    rw [ofBigEndian_bigEndian]
    exact Nat.mod_eq_of_lt hn
  · have he : extraBytes 127 ≠ 0 := by decide
    refine ⟨(by decide : 127 < 128), length_bigEndian 8 n, (if_neg he).trans ?_⟩
    rw [ofBigEndian_bigEndian]
    exact Nat.mod_eq_of_lt h

namespace WireFrame

theorem firstByte_toNat (f : WireFrame) :
    f.firstByte.toNat = f.fin.toNat * 128 + f.rsv.val * 16 + f.opcode.val := by
  have hfin : f.fin.toNat ≤ 1 := Bool.toNat_le f.fin
  have hrsv := f.rsv.isLt
  have hopcode := f.opcode.isLt
  rw [firstByte, UInt8.toNat_ofNat', Nat.mod_eq_of_lt]
  omega

theorem secondByte_toNat (f : WireFrame) (h : f.payload.length < 2 ^ 64) :
    f.secondByte.toNat = f.key.isSome.toNat * 128 + (lengthField f.payload.length).1 := by
  have hkey : f.key.isSome.toNat ≤ 1 := Bool.toNat_le f.key.isSome
  obtain ⟨hbits, _⟩ := lengthField_spec h
  rw [secondByte, UInt8.toNat_ofNat', Nat.mod_eq_of_lt]
  omega

theorem firstByte_fields (f : WireFrame) :
    decide (128 ≤ f.firstByte.toNat) = f.fin ∧ Fin.ofNat 8 (f.firstByte.toNat / 16) = f.rsv ∧
      Fin.ofNat 16 f.firstByte.toNat = f.opcode := by
  have hrsv := f.rsv.isLt
  have hopcode := f.opcode.isLt
  rw [firstByte_toNat]
  refine ⟨?_, Fin.ext ?_, Fin.ext ?_⟩
  · cases f.fin with
    | false =>
      rw [Bool.toNat_false]
      exact decide_eq_false (by omega)
    | true =>
      rw [Bool.toNat_true]
      exact decide_eq_true (by omega)
  · rw [Fin.val_ofNat]
    omega
  · rw [Fin.val_ofNat]
    omega

theorem decode_encode (f : WireFrame) (h : f.payload.length < 2 ^ 64) : decode f.encode = some f := by
  obtain ⟨hbits, hextra, hn⟩ := lengthField_spec h
  obtain ⟨hfin, hrsv, hopcode⟩ := f.firstByte_fields
  have h₁ := f.secondByte_toNat h
  have hbits₁ : f.secondByte.toNat % 128 = (lengthField f.payload.length).1 := by omega
  rw [encode, List.cons_append, List.cons_append, decode]
  simp only [hbits₁, List.take_left' hextra, List.drop_left' hextra, hn, hfin, hrsv, hopcode]
  cases hkey : f.key with
  | none =>
    have hplain : ¬ 128 ≤ f.secondByte.toNat := by
      rw [hkey, Option.isSome_none, Bool.toNat_false] at h₁
      omega
    simp only [if_neg hplain, true_and, if_true, ← hkey]
  | some key =>
    have hmasked : 128 ≤ f.secondByte.toNat := by
      rw [hkey, Option.isSome_some, Bool.toNat_true] at h₁
      omega
    have hmask : MaskingKey.mask ⟨key.k₀, key.k₁, key.k₂, key.k₃⟩ (key.mask f.payload) =
        f.payload := key.mask_mask f.payload
    simp only [if_pos hmasked, MaskingKey.bytes, List.cons_append, List.nil_append, hmask, true_and,
      if_true]
    rw [← hkey]

end WireFrame

end WebSocketFrame
