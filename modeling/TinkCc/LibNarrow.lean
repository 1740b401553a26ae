import Mathlib.Algebra.Group.Int.Defs
import Mathlib.Algebra.Group.Nat.Defs
import Mathlib.Data.Int.Basic
/-!
# LibNarrow — wide lengths in a signed integer of 32 or 64 bits

`toInt` is what is left of an integer in 32 bits, read with its sign: the integer itself from -2^31 to 2^31 - 1, and an
integer that differs from it by a multiple of 2^32 elsewhere.  `toInt64` is the same with 64 bits.
-/
namespace Narrow

def toInt (n : Int) : Int := (Int32.ofInt n).toInt

theorem toInt_eq_bmod (n : Int) : toInt n = n.bmod (2 ^ 32) := Int32.toInt_ofInt

theorem toInt_of_nonneg_of_lt {n : Int} (h₀ : 0 ≤ n) (h : n < 2 ^ 31) : toInt n = n := by
  rw [toInt_eq_bmod, Int.bmod_def]
  omega

/-- The sign is that of the highest bit that is left. -/
theorem toInt_neg_iff (n : Int) : toInt n < 0 ↔ 2 ^ 31 ≤ n % 2 ^ 32 := by
  rw [toInt_eq_bmod, Int.bmod_def]
  omega

theorem toInt_of_emod_lt {n : Int} (h : n % 2 ^ 32 < 2 ^ 31) : toInt n = n % 2 ^ 32 := by
  rw [toInt_eq_bmod, Int.bmod_def]
  omega

theorem toInt_lt (n : Int) : toInt n < 2 ^ 31 := by
  rw [toInt_eq_bmod, Int.bmod_def]
  omega

theorem toInt_le_of_nonneg {n : Int} (h₀ : 0 ≤ n) : toInt n ≤ n := by
  rw [toInt_eq_bmod, Int.bmod_def]
  omega

/-- A natural number is kept if it is below 2^31, and only then. -/
theorem toNat_toInt_eq_iff (n : Nat) : (toInt n).toNat = n ↔ n < 2 ^ 31 := by
  constructor
  · intro h
    have hlt := toInt_lt n
    omega
  · intro h
    rw [toInt_of_nonneg_of_lt (by omega) (by omega), Int.toNat_natCast]

def toInt64 (n : Int) : Int := (Int64.ofInt n).toInt

theorem toInt64_of_le_of_lt {n : Int} (h₀ : -2 ^ 63 ≤ n) (h : n < 2 ^ 63) : toInt64 n = n := by
  have hbmod : toInt64 n = n.bmod (2 ^ 64) := Int64.toInt_ofInt
  rw [hbmod, Int.bmod_def]
  omega

theorem toInt64_natCast {n : Nat} (h : n < 2 ^ 63) : toInt64 n = n :=
  toInt64_of_le_of_lt (by omega) (by omega)

end Narrow
