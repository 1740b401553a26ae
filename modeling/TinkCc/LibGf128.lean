import Mathlib.Algebra.Field.ZMod
import Mathlib.Data.ZMod.Basic
import Mathlib.RingTheory.AdjoinRoot
import Mathlib.Tactic.ComputeDegree
import TinkCc.LibBlocks
/-!
# LibGf128 — blocks as elements of GF(2^128)

The bits of a block are the coefficients of a polynomial over GF(2), taken modulo `x^128 + x^7 + x^2 + x + 1`, which the
block is determined by (`toField_injective`).  A double is a product with `x` there.
-/
namespace Blocks

open Polynomial

noncomputable section

/-- `x^128 + x^7 + x^2 + x + 1` -/
def modulus : (ZMod 2)[X] := X ^ 128 + (X ^ 7 + X ^ 2 + X + 1)

def toPolynomial (block : Block) : (ZMod 2)[X] := ∑ k ∈ Finset.range 128, if bit block k then X ^ k else 0

abbrev Field128 : Type := AdjoinRoot modulus

/-- The element of the field that a block stands for. -/
def toField (block : Block) : Field128 := AdjoinRoot.mk modulus (toPolynomial block)

def coefficient (b : Bool) : ZMod 2 := if b then 1 else 0

theorem coefficient_injective : ∀ a b : Bool, coefficient a = coefficient b → a = b := by decide

theorem coefficient_xor (a b : Bool) : coefficient (a ^^ b) = coefficient a + coefficient b := by
  cases a <;> cases b <;> rfl

theorem coeff_toPolynomial (block : Block) (k : Nat) : (toPolynomial block).coeff k = coefficient (bit block k) := by
  unfold toPolynomial
  rw [finsetSum_coeff]
  have hterm : ∀ i ∈ Finset.range 128,
      (if bit block i then (X ^ i : (ZMod 2)[X]) else 0).coeff k = if k = i then coefficient (bit block i) else 0 := by
    intro i _
    by_cases hbit : bit block i = true
    · rw [if_pos hbit, coeff_X_pow, hbit]
      rfl
    · rw [if_neg hbit, coeff_zero, (Bool.not_eq_true _).mp hbit]
      exact (ite_self _).symm
  rw [Finset.sum_congr rfl hterm, Finset.sum_ite_eq]
  by_cases hk : k < 128
  · rw [if_pos (Finset.mem_range.2 hk)]
  · rw [if_neg (fun h => hk (Finset.mem_range.1 h)), bit_of_le block (not_lt.1 hk)]
    rfl

theorem degree_modulus : modulus.degree = ((128 : Nat) : WithBot Nat) := by
  unfold modulus
  compute_degree!

theorem monic_modulus : modulus.Monic := by
  unfold modulus
  monicity!

theorem coeff_modulus (k : Nat) : modulus.coeff k = coefficient (decide (k = 128) || (0x87 : Nat).testBit k) := by
  unfold modulus
  simp only [coeff_add, coeff_X_pow, coeff_X, coeff_one]
  by_cases hk : k < 8
  · interval_cases k <;> rfl
  · have hbit : (0x87 : Nat).testBit k = false :=
      Nat.testBit_lt_two_pow (lt_of_lt_of_le (by decide) (Nat.pow_le_pow_right (by omega) (not_lt.1 hk)))
    rw [hbit, Bool.or_false, if_neg (by omega : ¬ k = 7), if_neg (by omega : ¬ k = 2), if_neg (by omega : ¬ 1 = k),
      if_neg (by omega : ¬ k = 0)]
    by_cases htop : k = 128
    · rw [if_pos htop, decide_eq_true htop]
      rfl
    · rw [if_neg htop, decide_eq_false htop]
      rfl

/-- A double is the polynomial times `x`, less the modulus when that has a coefficient at `x^128`. -/
theorem toPolynomial_double (block : Block) :
    toPolynomial (double block) = X * toPolynomial block + C (coefficient (bit block 127)) * modulus := by
  ext k
  have hshift : (X * toPolynomial block).coeff k = coefficient (decide (0 < k) && bit block (k - 1)) := by
    cases k with
    | zero => exact mul_coeff_zero _ _ |>.trans (by rw [coeff_X_zero, zero_mul]; rfl)
    | succ k =>
      rw [coeff_X_mul, coeff_toPolynomial]
      simp
  rw [coeff_add, coeff_C_mul, coeff_modulus, hshift, coeff_toPolynomial]
  have hmul : ∀ a b : Bool, coefficient a * coefficient b = coefficient (a && b) := by decide
  rw [hmul, ← coefficient_xor]
  congr 1
  by_cases hk : k < 128
  · rw [bit_double block hk, decide_eq_false (by omega : ¬ k = 128), Bool.false_or]
  · have hbit : (0x87 : Nat).testBit k = false :=
      Nat.testBit_lt_two_pow (lt_of_lt_of_le (by decide) (Nat.pow_le_pow_right (by omega) (by omega : 8 ≤ k)))
    rw [bit_of_le _ (not_lt.1 hk), hbit, Bool.or_false, decide_eq_true (by omega : 0 < k), Bool.true_and]
    by_cases htop : k = 128
    · subst htop
      simp
    · rw [decide_eq_false htop, bit_of_le block (by omega)]
      simp

/-- **Doubling is multiplication by `x` in GF(2^128).** -/
theorem toField_double (block : Block) : toField (double block) = AdjoinRoot.root modulus * toField block := by
  unfold toField
  rw [toPolynomial_double, map_add, map_mul, map_mul, AdjoinRoot.mk_X, AdjoinRoot.mk_self, mul_zero, add_zero]

/-- Polynomials whose difference is of lower degree than a monic one are determined by what they are modulo that. -/
theorem eq_of_mk_eq {R : Type} [CommRing R] {g p q : R[X]} (hg : g.Monic) (hdegree : (p - q).degree < g.degree)
    (h : AdjoinRoot.mk g p = AdjoinRoot.mk g q) : p = q := by
  by_contra hne
  exact hg.not_dvd_of_degree_lt (sub_ne_zero.2 hne) hdegree (AdjoinRoot.mk_eq_mk.1 h)

/-- **A block is determined by its element of the field.** -/
theorem toField_injective {x y : Block} (h : toField x = toField y) : x = y := by
  have hdegree : (toPolynomial x - toPolynomial y).degree < modulus.degree := by
    rw [degree_modulus]
    refine (degree_lt_iff_coeff_zero _ 128).2 fun k hk => ?_
    rw [coeff_sub, coeff_toPolynomial, coeff_toPolynomial, bit_of_le x hk, bit_of_le y hk, sub_self]
  have heq : toPolynomial x = toPolynomial y := eq_of_mk_eq monic_modulus hdegree h
  refine ext_bit fun k _ => coefficient_injective _ _ ?_
  rw [← coeff_toPolynomial, ← coeff_toPolynomial, heq]

end

end Blocks
