import Mathlib.Logic.Function.Iterate
/-!
# LibCrc — a reflected CRC register is linear

A cyclic redundancy check runs a shift register over the bytes, from the all-ones state, and complements what is left.
One step is linear over xor (`bitStep_xor`), so a run splits into the run of the start state over zeros and the run
of the bytes (`run_xor`); that is why two checksums and the length of the second piece give the checksum of the two
pieces together (`concat_checksum`).  The width and the polynomial are parameters.
-/
namespace LinearCrc

variable {w : Nat} (poly : BitVec w)

def bitStep (r : BitVec w) : BitVec w := (r >>> 1) ^^^ (if r.getLsbD 0 then poly else 0)

def byteStep (r : BitVec w) (b : UInt8) : BitVec w := (bitStep poly)^[8] (r ^^^ b.toBitVec.setWidth w)

def run (r : BitVec w) (bs : List UInt8) : BitVec w := bs.foldl (byteStep poly) r

def checksum (bs : List UInt8) : BitVec w := run poly (BitVec.allOnes w) bs ^^^ BitVec.allOnes w

/-- The checksum of two pieces from the checksum of each and the length of the second: the first register is run over
that many zero bytes. -/
def concat (c₁ c₂ : BitVec w) (len : Nat) : BitVec w := run poly c₁ (List.replicate len 0) ^^^ c₂

theorem bitStep_xor (r s : BitVec w) : bitStep poly (r ^^^ s) = bitStep poly r ^^^ bitStep poly s := by
  unfold bitStep
  rw [BitVec.ushiftRight_xor_distrib, BitVec.getLsbD_xor]
  apply BitVec.eq_of_getLsbD_eq
  intro i _
  cases r.getLsbD 0 <;> cases s.getLsbD 0 <;> simp [BitVec.getLsbD_xor] <;> grind

theorem iterate_bitStep_xor : ∀ (n : Nat) (r s : BitVec w),
    (bitStep poly)^[n] (r ^^^ s) = (bitStep poly)^[n] r ^^^ (bitStep poly)^[n] s
  | 0,     _, _ => rfl
  | n + 1, r, s => by
    rw [Function.iterate_succ_apply, Function.iterate_succ_apply, Function.iterate_succ_apply, bitStep_xor,
      iterate_bitStep_xor n]

theorem byteStep_xor (r s : BitVec w) (b : UInt8) :
    byteStep poly (r ^^^ s) b = byteStep poly r 0 ^^^ byteStep poly s b := by
  have hz : (0 : UInt8).toBitVec.setWidth w = 0#w := by
    apply BitVec.eq_of_getLsbD_eq
    intro i _
    simp
  unfold byteStep
  rw [hz, BitVec.xor_zero, ← iterate_bitStep_xor, BitVec.xor_assoc]

/-- **A run is linear in its start state**: the part of the start state that is set aside runs over zeros. -/
theorem run_xor : ∀ (bs : List UInt8) (r s : BitVec w),
    run poly (r ^^^ s) bs = run poly r (List.replicate bs.length 0) ^^^ run poly s bs
  | [],      _, _ => rfl
  | b :: bs, r, s => by
    show run poly (byteStep poly (r ^^^ s) b) bs = run poly (byteStep poly r 0) (List.replicate bs.length 0) ^^^
      run poly (byteStep poly s b) bs
    rw [byteStep_xor, run_xor bs]

theorem run_append (r : BitVec w) (a b : List UInt8) : run poly r (a ++ b) = run poly (run poly r a) b :=
  List.foldl_append

theorem checksum_nil : checksum poly [] = 0#w := BitVec.xor_self

theorem checksum_xor_allOnes (bs : List UInt8) :
    checksum poly bs ^^^ BitVec.allOnes w = run poly (BitVec.allOnes w) bs := by
  rw [checksum, BitVec.xor_assoc, BitVec.xor_self, BitVec.xor_zero]

/-- **Two checksums and a length give the checksum of the whole.** -/
theorem concat_checksum (a b : List UInt8) :
    concat poly (checksum poly a) (checksum poly b) b.length = checksum poly (a ++ b) := by
  have h : run poly (BitVec.allOnes w) (a ++ b) =
      run poly (checksum poly a) (List.replicate b.length 0) ^^^ run poly (BitVec.allOnes w) b := by
    rw [run_append, ← checksum_xor_allOnes, run_xor]
  calc concat poly (checksum poly a) (checksum poly b) b.length
      = run poly (checksum poly a) (List.replicate b.length 0) ^^^
          (run poly (BitVec.allOnes w) b ^^^ BitVec.allOnes w) := rfl
    _ = run poly (BitVec.allOnes w) (a ++ b) ^^^ BitVec.allOnes w := by rw [h, BitVec.xor_assoc]
    _ = checksum poly (a ++ b) := rfl

end LinearCrc
