import Mathlib.Tactic.Ring
import TinkCc.LibBigEndian
/-!
# LibBlocks — blocks of 16 bytes

A block is also a number of 128 bits, highest byte first, and known by its bits (`ext_bit`).
-/
namespace BigEndian

theorem testBit_value : ∀ (bs : List UInt8) (k : Nat),
    (value bs).testBit k = (bs.reverse[k / 8]?.getD 0).toNat.testBit (k % 8)
  | [], k => by simp [value]
  | b :: bs, k => by
    have hlt : value bs < 2 ^ (8 * bs.length) := by
      rw [Nat.pow_mul]
      exact value_lt bs
    have hpow : (256 : Nat) ^ bs.length = 2 ^ (8 * bs.length) := by rw [Nat.pow_mul]
    rw [value_cons, Nat.add_comm, hpow, Nat.testBit_two_pow_mul_add _ hlt, testBit_value bs, List.reverse_cons]
    by_cases hk : k < 8 * bs.length
    · rw [if_pos hk, List.getElem?_append_left (by rw [List.length_reverse]; omega)]
    · rw [if_neg hk, List.getElem?_append_right (by rw [List.length_reverse]; omega), List.length_reverse]
      by_cases htop : k / 8 = bs.length
      · have hbit : k - 8 * bs.length = k % 8 := by omega
        rw [htop, Nat.sub_self, hbit]
        rfl
      · have hnone : ([b] : List UInt8)[k / 8 - bs.length]? = none := by
          rw [List.getElem?_eq_none_iff, List.length_singleton]
          omega
        have hzero : b.toNat.testBit (k - 8 * bs.length) = false := by
          apply Nat.testBit_lt_two_pow
          exact lt_of_lt_of_le b.toNat_lt (Nat.pow_le_pow_right (by omega) (by omega : 8 ≤ k - 8 * bs.length))
        rw [hnone, hzero]
        simp

theorem value_append : ∀ (front bs : List UInt8), value (front ++ bs) = 256 ^ bs.length * value front + value bs
  | [], bs => by simp [value]
  | b :: front, bs => by
    rw [List.cons_append, value_cons, value_cons, value_append front bs, List.length_append, Nat.pow_add]
    ring

/-- Numbers of strings of one length are xored byte by byte. -/
theorem value_zipWith_xor {a b : List UInt8} (h : a.length = b.length) :
    value (List.zipWith (· ^^^ ·) a b) = value a ^^^ value b := by
  refine Nat.eq_of_testBit_eq fun k => ?_
  rw [Nat.testBit_xor, testBit_value, testBit_value, testBit_value, List.reverse_zipWith h]
  by_cases hk : k / 8 < a.length
  · have hk' : k / 8 < b.length := h ▸ hk
    rw [List.getElem?_eq_getElem (by rw [List.length_zipWith, List.length_reverse, List.length_reverse]; omega),
      List.getElem?_eq_getElem (by rwa [List.length_reverse]), List.getElem?_eq_getElem (by rwa [List.length_reverse]),
      List.getElem_zipWith]
    simp only [Option.getD_some]
    rw [UInt8.toNat_xor, Nat.testBit_xor]
  · rw [List.getElem?_eq_none (by rw [List.length_zipWith, List.length_reverse, List.length_reverse]; omega),
      List.getElem?_eq_none (by rw [List.length_reverse]; omega), List.getElem?_eq_none (by rw [List.length_reverse]; omega)]
    simp

end BigEndian

abbrev Block := Vector UInt8 16

namespace Blocks

def zero : Block := Vector.replicate 16 0

def xor (x y : Block) : Block := Vector.zipWith (· ^^^ ·) x y

/-- The first 16 bytes, with zeros behind fewer. -/
def ofBytes (bytes : List UInt8) : Block := Vector.ofFn fun i => bytes[i.1]?.getD 0

@[simp] theorem getElem_zero (i : Nat) (hi : i < 16) : zero[i] = 0 := Vector.getElem_replicate hi

@[simp] theorem getElem_xor (x y : Block) (i : Nat) (hi : i < 16) : (xor x y)[i] = x[i] ^^^ y[i] :=
  Vector.getElem_zipWith hi

@[simp] theorem getElem_ofBytes (bytes : List UInt8) (i : Nat) (hi : i < 16) : (ofBytes bytes)[i] = bytes[i]?.getD 0 :=
  Vector.getElem_ofFn hi

theorem xor_comm (x y : Block) : xor x y = xor y x := by
  ext i hi
  simp [UInt8.xor_comm]

theorem xor_assoc (x y z : Block) : xor (xor x y) z = xor x (xor y z) := by
  ext i hi
  simp [UInt8.xor_assoc]

@[simp] theorem xor_self (x : Block) : xor x x = zero := by
  ext i hi
  simp

@[simp] theorem xor_zero (x : Block) : xor x zero = x := by
  ext i hi
  simp

@[simp] theorem zero_xor (x : Block) : xor zero x = x := by
  rw [xor_comm, xor_zero]

@[simp] theorem ofBytes_toList_append (block : Block) (rest : List UInt8) : ofBytes (block.toList ++ rest) = block := by
  ext i hi
  rw [getElem_ofBytes, List.getElem?_append_left (by rwa [Vector.length_toList]),
    List.getElem?_eq_getElem (by rwa [Vector.length_toList]), Vector.getElem_toList]
  rfl

@[simp] theorem ofBytes_toList (block : Block) : ofBytes block.toList = block := by
  rw [← List.append_nil block.toList, ofBytes_toList_append]

theorem toList_ofBytes {bytes : List UInt8} (h : bytes.length = 16) : (ofBytes bytes).toList = bytes := by
  apply List.ext_getElem
  · rw [Vector.length_toList, h]
  · intro i hi hi'
    rw [Vector.getElem_toList, getElem_ofBytes, List.getElem?_eq_getElem hi']
    rfl

theorem ofBytes_take (bytes : List UInt8) : ofBytes (bytes.take 16) = ofBytes bytes := by
  ext i hi
  rw [getElem_ofBytes, getElem_ofBytes, List.getElem?_take, if_pos hi]

theorem toList_ofBytes_of_le {bytes : List UInt8} (h : 16 ≤ bytes.length) : (ofBytes bytes).toList = bytes.take 16 := by
  rw [← ofBytes_take, toList_ofBytes (by rw [List.length_take, Nat.min_eq_left h])]

theorem getD_toList (block : Block) (i : Nat) (hi : i < 16) : block.toList[i]?.getD 0 = block[i] := by
  rw [List.getElem?_eq_getElem (by rwa [Vector.length_toList]), Vector.getElem_toList]
  rfl

theorem toList_injective {x y : Block} (h : x.toList = y.toList) : x = y := by
  rw [← ofBytes_toList x, ← ofBytes_toList y, h]

/-! ## Numbers and bits -/

def number (block : Block) : Nat := BigEndian.value block.toList

def ofNumber (n : Nat) : Block := ofBytes (BigEndian.encode 16 n)

/-- The bits, the lowest first. -/
def bit (block : Block) (k : Nat) : Bool := (number block).testBit k

theorem number_lt (block : Block) : number block < 2 ^ 128 := by
  have h := BigEndian.value_lt block.toList
  rwa [Vector.length_toList] at h

theorem number_ofNumber {n : Nat} (h : n < 2 ^ 128) : number (ofNumber n) = n := by
  unfold number ofNumber
  rw [toList_ofBytes (BigEndian.encode_length _ _), BigEndian.value_encode h]

theorem number_injective {x y : Block} (h : number x = number y) : x = y :=
  toList_injective (BigEndian.value_injective (by rw [Vector.length_toList, Vector.length_toList]) h)

theorem bit_eq (block : Block) {k : Nat} (hk : k < 128) :
    bit block k = block[15 - k / 8].toNat.testBit (k % 8) := by
  unfold bit number
  rw [BigEndian.testBit_value, List.getElem?_reverse (by rw [Vector.length_toList]; omega), Vector.length_toList,
    List.getElem?_eq_getElem (by rw [Vector.length_toList]; omega), Vector.getElem_toList]
  rfl

theorem bit_of_le (block : Block) {k : Nat} (hk : 128 ≤ k) : bit block k = false :=
  Nat.testBit_lt_two_pow (lt_of_lt_of_le (number_lt block) (Nat.pow_le_pow_right (by omega) hk))

/-- **Blocks with the same bits are the same.** -/
theorem ext_bit {x y : Block} (h : ∀ k < 128, bit x k = bit y k) : x = y := by
  refine number_injective (Nat.eq_of_testBit_eq fun k => ?_)
  by_cases hk : k < 128
  · exact h k hk
  · exact (bit_of_le x (not_lt.1 hk)).trans (bit_of_le y (not_lt.1 hk)).symm

theorem bit_xor (x y : Block) (k : Nat) : bit (xor x y) k = (bit x k ^^ bit y k) := by
  by_cases hk : k < 128
  · rw [bit_eq _ hk, bit_eq _ hk, bit_eq _ hk, getElem_xor, UInt8.toNat_xor, Nat.testBit_xor]
  · rw [bit_of_le _ (by omega), bit_of_le _ (by omega), bit_of_le _ (by omega)]
    rfl

theorem bit_ofNumber {n : Nat} (h : n < 2 ^ 128) (k : Nat) : bit (ofNumber n) k = n.testBit k := by
  unfold bit
  rw [number_ofNumber h]

/-! ## Doubling -/

/-- One bit to the left, without the bit that goes out. -/
def shiftLeft (block : Block) : Block := ofNumber (2 * number block % 2 ^ 128)

/-- `dbl` of the counter modes: the bit that goes out is brought back as `x^7 + x^2 + x + 1`. -/
def double (block : Block) : Block :=
  if bit block 127 then xor (shiftLeft block) (ofNumber 0x87) else shiftLeft block

theorem bit_shiftLeft (block : Block) {k : Nat} (hk : k < 128) :
    bit (shiftLeft block) k = (decide (0 < k) && bit block (k - 1)) := by
  unfold shiftLeft
  rw [bit_ofNumber (Nat.mod_lt _ (by omega)), Nat.testBit_mod_two_pow, decide_eq_true hk, Bool.true_and, Nat.mul_comm]
  cases k with
  | zero => simp
  | succ k =>
    rw [Nat.testBit_succ, Nat.mul_div_cancel _ (by omega)]
    simp [bit]

/-- **The bits of a double.** -/
theorem bit_double (block : Block) {k : Nat} (hk : k < 128) :
    bit (double block) k =
      ((decide (0 < k) && bit block (k - 1)) ^^ (bit block 127 && (0x87 : Nat).testBit k)) := by
  unfold double
  by_cases htop : bit block 127 = true
  · rw [if_pos htop, bit_xor, bit_shiftLeft block hk, bit_ofNumber (by decide), htop, Bool.true_and]
  · rw [if_neg htop, bit_shiftLeft block hk, (Bool.not_eq_true _).mp htop, Bool.false_and, Bool.xor_false]

end Blocks
