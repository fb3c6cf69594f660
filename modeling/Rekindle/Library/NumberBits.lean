import Mathlib.Data.Nat.Bitwise

/-! # Bitwise operators on numbers

In a language whose numbers are doubles a bitwise operator converts its operands to 32 bits and
reads the result as a signed integer. An integer below `2 ^ 53` is exact as a double, so `Int`
stands for the numbers here.
-/
namespace Rekindle.NumberBits
set_option autoImplicit false

def toInt32 (x : Int) : BitVec 32 := BitVec.ofInt 32 x

def bitAnd (x y : Int) : Int := (toInt32 x &&& toInt32 y).toInt

def bitOr (x y : Int) : Int := (toInt32 x ||| toInt32 y).toInt

def shiftLeft (x : Int) (count : Nat) : Int := (toInt32 x <<< (count % 32)).toInt

section
variable {m n mask bit : Nat}

theorem toInt32_natCast : toInt32 (n : Int) = BitVec.ofNat 32 n := BitVec.ofInt_natCast 32 n

theorem toInt32_toInt (word : BitVec 32) : toInt32 word.toInt = word := BitVec.ofInt_toInt

theorem toInt_and_ofNat (word : BitVec 32) (h : mask < 2 ^ 31) :
    (word &&& BitVec.ofNat 32 mask).toInt = ((word.toNat &&& mask : Nat) : Int) := by
  have hMask : (BitVec.ofNat 32 mask).toNat = mask := by
    rw [BitVec.toNat_ofNat]
    omega
  have hNat : (word &&& BitVec.ofNat 32 mask).toNat = word.toNat &&& mask := by
    rw [BitVec.toNat_and, hMask]
  have hSmall : word.toNat &&& mask ≤ mask := Nat.and_le_right
  rw [BitVec.toInt_eq_toNat_of_lt (by omega), hNat]

theorem mod_and (h : mask < 2 ^ 31) : n % 2 ^ 32 &&& mask = n &&& mask := by
  apply Nat.eq_of_testBit_eq
  intro bit
  rw [Nat.testBit_and, Nat.testBit_and, Nat.testBit_mod_two_pow]
  by_cases hBit : bit < 32
  · rw [decide_eq_true hBit, Bool.true_and]
  · have hLarge : mask < 2 ^ bit := lt_of_lt_of_le h (Nat.pow_le_pow_right (by omega) (by omega))
    rw [Nat.testBit_lt_two_pow hLarge, Bool.and_false, Bool.and_false]

/-- A mask of at most 31 bits picks the same bits of the number itself. -/
theorem bitAnd_natCast (h : mask < 2 ^ 31) : bitAnd n mask = ((n &&& mask : Nat) : Int) := by
  rw [bitAnd, toInt32_natCast, toInt32_natCast, toInt_and_ofNat _ h, BitVec.toNat_ofNat, mod_and h]

theorem bitAnd_bitOr_natCast (h : mask < 2 ^ 31) :
    bitAnd (bitOr m n) mask = (((m ||| n) &&& mask : Nat) : Int) := by
  rw [bitAnd, bitOr, toInt32_toInt, toInt32_natCast, toInt32_natCast, toInt32_natCast, toInt_and_ofNat _ h,
    BitVec.toNat_or, BitVec.toNat_ofNat, BitVec.toNat_ofNat, ← Nat.or_mod_two_pow, mod_and h]

/-- Testing one of the 31 low bits. -/
theorem bitAnd_two_pow_ne_zero_iff (h : bit < 31) : bitAnd n (2 ^ bit : Nat) ≠ 0 ↔ n.testBit bit = true := by
  have hMask : 2 ^ bit < 2 ^ 31 := Nat.pow_lt_pow_right (by omega) h
  have hPositive : ((2 ^ bit : Nat) : Int) ≠ 0 := Int.natCast_ne_zero.mpr (Nat.two_pow_pos bit).ne'
  rw [bitAnd_natCast hMask, Nat.and_two_pow]
  cases n.testBit bit with
  | false => simp
  | true =>
    rw [Bool.toNat_true, one_mul]
    exact iff_of_true hPositive rfl

theorem bitAnd_two_pow_eq_iff (h : bit < 31) : bitAnd n (2 ^ bit : Nat) = (2 ^ bit : Nat) ↔ n.testBit bit = true := by
  have hMask : 2 ^ bit < 2 ^ 31 := Nat.pow_lt_pow_right (by omega) h
  have hPositive : ((2 ^ bit : Nat) : Int) ≠ 0 := Int.natCast_ne_zero.mpr (Nat.two_pow_pos bit).ne'
  rw [bitAnd_natCast hMask, Nat.and_two_pow]
  cases n.testBit bit with
  | false =>
    rw [Bool.toNat_false, zero_mul]
    exact iff_of_false hPositive.symm Bool.false_ne_true
  | true => simp

end

end Rekindle.NumberBits
