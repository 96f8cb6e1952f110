import Mathlib.Tactic.Common

/-!
# Conversions between machine integers

C converts between signed and unsigned types, and between widths, without a word. Each
conversion is stated here as arithmetic on the integers.
-/

namespace Infra

/-- To an unsigned type of the same width: modulo `2^64`. -/
theorem toNat_toUInt64 (k : Int64) : (k.toUInt64.toNat : Int) = k.toInt % 18446744073709551616 := by
  have hnat : k.toUInt64.toNat = k.toBitVec.toNat := rfl
  have hint : k.toInt = k.toBitVec.toInt := rfl
  have hlt := k.toBitVec.isLt
  rw [hnat, hint, BitVec.toInt_eq_toNat_bmod, Int.bmod_def]
  split <;> omega

/-- To a signed type of the same width: the other way around. -/
theorem toInt_toInt64 (w : UInt64) : w.toInt64.toInt =
    if w.toNat < 9223372036854775808 then (w.toNat : Int) else w.toNat - 18446744073709551616 := by
  have hint : w.toInt64.toInt = w.toBitVec.toInt := rfl
  have hnat : w.toNat = w.toBitVec.toNat := rfl
  have hlt := w.toBitVec.isLt
  rw [hint, hnat, BitVec.toInt_eq_toNat_bmod, Int.bmod_def]
  split <;> split <;> omega

/-- The word of an integer is what is left of it modulo `2^64`. -/
theorem toNat_ofInt (p : Int) : ((UInt64.ofInt p).toNat : Int) = p % 18446744073709551616 := by
  have hnat : (UInt64.ofInt p).toNat = (p % 2 ^ 64).toNat % 2 ^ 64 := rfl
  rw [hnat]
  omega

theorem toUInt64_eq_ofInt (k : Int64) : k.toUInt64 = UInt64.ofInt k.toInt := by
  apply UInt64.toNat_inj.mp
  have hcast := toNat_toUInt64 k
  have hword := toNat_ofInt k.toInt
  omega

theorem ofInt_sub (p q : Int) : UInt64.ofInt (p - q) = UInt64.ofInt p - UInt64.ofInt q := by
  rw [Int.sub_eq_add_neg, UInt64.ofInt_add, UInt64.ofInt_neg, UInt64.sub_eq_add_neg]

/-- An integer that fits survives its way through the word. -/
theorem toInt_ofInt_of_fits {p : Int} (hlow : -9223372036854775808 ≤ p)
    (hhigh : p < 9223372036854775808) : (UInt64.ofInt p).toInt64.toInt = p := by
  have hword := toNat_ofInt p
  rw [toInt_toInt64]
  split <;> omega

/-- An `int` as a `size_t`: the sign is extended first. -/
theorem toNat_size (k : Int32) :
    (k.toInt64.toUInt64.toNat : Int) = k.toInt % 18446744073709551616 := by
  rw [toNat_toUInt64, Int32.toInt_toInt64]

/-- `(size_t)n` for an `int`. -/
def asSize (n : Int32) : Nat := n.toInt64.toUInt64.toNat

theorem asSize_of_nonneg {n : Int32} (h : 0 ≤ n.toInt) : asSize n = n.toInt.toNat := by
  have hsize := toNat_size n
  have hlt := n.toInt_lt
  simp only [asSize]
  omega

theorem asSize_ofNat {n : Nat} (h : n < 2147483648) : asSize (Int32.ofNat n) = n := by
  have hint := Int32.toInt_ofNat_of_lt h
  rw [asSize_of_nonneg (by omega), hint, Int.toNat_natCast]

theorem ofNat_not_neg {n : Nat} (h : n < 2147483648) : ¬ Int32.ofNat n < 0 := by
  rw [Int32.lt_iff_toInt_lt, Int32.toInt_ofNat_of_lt h]
  simp

/-- A `size_t` as an `int`: the low 32 bits are kept. -/
theorem toInt_low (w : UInt64) : w.toUInt32.toInt32.toInt = (w.toNat : Int).bmod 4294967296 := by
  have hint : w.toUInt32.toInt32.toInt = w.toUInt32.toBitVec.toInt := rfl
  have hnat : w.toUInt32.toBitVec.toNat = w.toNat % 4294967296 := UInt64.toNat_toUInt32 w
  rw [hint, BitVec.toInt_eq_toNat_bmod, hnat, Int.bmod_def, Int.bmod_def]
  split <;> split <;> omega

/-- A `size_t` that is a non-negative `int` survives the conversion. -/
theorem low_of_lt {w : UInt64} (h : w.toNat < 2147483648) :
    w.toUInt32.toInt32.toInt = w.toNat := by
  rw [toInt_low, Int.bmod_def]
  split <;> omega

end Infra
