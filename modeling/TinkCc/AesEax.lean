import TinkCc.AesSiv
import TinkCc.LibGf128
import TinkCc.StreamSegments
/-!
# AesEax — AES-EAX on words of 64 bits

`subtle/aes_eax_boringssl.cc`.  Blocks are xored, compared and doubled as two words, which are loaded and stored in the
order of the machine's bytes.
-/
namespace Tink

open Blocks

/-- `ABSL_IS_LITTLE_ENDIAN` or `ABSL_IS_BIG_ENDIAN`. -/
inductive Endian
  | little
  | big

/-! ## Words -/

/-- The bytes of a word in memory and its bytes from the highest on. -/
def Endian.order (endian : Endian) (bytes : Bytes) : Bytes :=
  match endian with
  | .little => bytes.reverse
  | .big => bytes

/-- `Load64` of the first eight bytes. -/
def load64 (endian : Endian) (src : Bytes) : UInt64 := UInt64.ofNat (BigEndian.value (endian.order (src.take 8)))

/-- The bytes that `Store64` writes. -/
def store64 (endian : Endian) (val : UInt64) : Bytes := endian.order (BigEndian.encode 8 val.toNat)

def byteSwap (val : UInt64) : UInt64 :=
  let val := ((val &&& 0xffffffff00000000) >>> 32) ||| ((val &&& 0x00000000ffffffff) <<< 32)
  let val := ((val &&& 0xffff0000ffff0000) >>> 16) ||| ((val &&& 0x0000ffff0000ffff) <<< 16)
  ((val &&& 0xff00ff00ff00ff00) >>> 8) ||| ((val &&& 0x00ff00ff00ff00ff) <<< 8)

def bigEndianLoad64 (endian : Endian) (src : Bytes) : UInt64 :=
  match endian with
  | .little => byteSwap (load64 .little src)
  | .big => load64 .big src

def bigEndianStore64 (endian : Endian) (val : UInt64) : Bytes :=
  match endian with
  | .little => store64 .little (byteSwap val)
  | .big => store64 .big val

/-- `AesEaxBoringSslImpl`: the machine, `AES_encrypt` and `AES_ctr128_encrypt` with `aeskey_`, and `nonce_size_`. -/
structure AesEax where
  endian       : Endian
  encryptBlock : Block → Block
  aeskey       : Cmac.CtrMode
  nonceSize    : Nat

namespace AesEax

abbrev kTagSize : Nat := 16

def xorBlock (endian : Endian) (x y : Block) : Block :=
  let r0 := load64 endian x.toList ^^^ load64 endian y.toList
  let r1 := load64 endian (x.toList.drop 8) ^^^ load64 endian (y.toList.drop 8)
  ofBytes (store64 endian r0 ++ store64 endian r1)

def multiplyByX (endian : Endian) (input : Block) : Block :=
  let inHigh := bigEndianLoad64 endian input.toList
  let inLow := bigEndianLoad64 endian (input.toList.drop 8)
  let outHigh := (inHigh <<< 1) ^^^ (inLow >>> 63)
  -- the highest bit is reduced by x^128 + x^7 + x^2 + x + 1
  let outLow := (inLow <<< 1) ^^^ ((0x87 : UInt64) &&& -(inHigh >>> 63))
  ofBytes (bigEndianStore64 endian outHigh ++ bigEndianStore64 endian outLow)

def equalBlocks (endian : Endian) (x y : Block) : Bool :=
  let res := load64 endian x.toList ^^^ load64 endian y.toList
  let res := res ||| (load64 endian (x.toList.drop 8) ^^^ load64 endian (y.toList.drop 8))
  res == 0

section
variable (s : AesEax)

def computeB : Block := multiplyByX s.endian (s.encryptBlock zero)
def computeP : Block := multiplyByX s.endian s.computeB

def pad (data : Bytes) : Block :=
  let paddedBlock := ofBytes data
  if data.length = kBlockSize then xorBlock s.endian s.computeB paddedBlock
  else xorBlock s.endian s.computeP (paddedBlock.setIfInBounds data.length 0x80)

/-- The loop of `Omac`: the block and the index it ends with. -/
def omacLoop (data : Bytes) (idx : Nat) (mac : Block) : Block × Nat :=
  if kBlockSize < data.length - idx then
    omacLoop data (idx + kBlockSize) (s.encryptBlock (xorBlock s.endian (ofBytes (data.drop idx)) mac))
  else (mac, idx)
termination_by data.length - idx
decreasing_by
  unfold kBlockSize at *
  omega

theorem lastByte_lt : 15 < 16 := by decide

def omac (data : Bytes) (tag : Nat) : Block :=
  let mac := zero.set 15 (UInt8.ofNat tag) lastByte_lt
  if data.isEmpty then s.encryptBlock (xorBlock s.endian s.computeB mac)
  else
    let (mac, idx) := s.omacLoop data 0 (s.encryptBlock mac)
    let paddedBlock := s.pad (data.drop idx)
    s.encryptBlock (xorBlock s.endian paddedBlock mac)

def ctrCrypt (n : Block) (input : Bytes) (outSize : Nat) : Except Status Bytes := aesCtr128Crypt s.aeskey input n outSize

/-- `Encrypt`, with the nonce that is drawn. -/
def encrypt (nonce : RandomBytes s.nonceSize) (plaintext associatedData : Bytes) : Except Status Bytes := do
  let n := s.omac nonce.1 0
  let h := s.omac associatedData 1
  let encrypted ← s.ctrCrypt n plaintext (plaintext.length + kTagSize)
  let mac := s.omac encrypted 2
  let mac := xorBlock s.endian n mac
  let mac := xorBlock s.endian h mac
  return nonce.1 ++ encrypted ++ mac.toList

def decrypt (ciphertext associatedData : Bytes) : Except Status Bytes :=
  let ctSize := ciphertext.length
  if ctSize < s.nonceSize + kTagSize then .error ⟨.invalidArgument, "Ciphertext too short"⟩
  else
    let outSize := ctSize - kTagSize - s.nonceSize
    let nonce := ciphertext.take s.nonceSize
    let encrypted := (ciphertext.drop s.nonceSize).take outSize
    let tag := (ciphertext.drop (ctSize - kTagSize)).take kTagSize
    let n := s.omac nonce 0
    let h := s.omac associatedData 1
    let mac := s.omac encrypted 2
    let mac := xorBlock s.endian n mac
    let mac := xorBlock s.endian h mac
    let sig := ofBytes tag
    if !equalBlocks s.endian mac sig then .error ⟨.invalidArgument, "Tag mismatch"⟩
    else s.ctrCrypt n encrypted outSize

end

end AesEax

/-! ## What the words do -/

/-- The bit that a swap of neighbours of `k` bits puts at `i`. -/
def swapIndex (k i : Nat) : Nat := if i / k % 2 = 0 then i + k else i - k

/-- The neighbour of a low part is a high part of the same word, and the other way round. -/
def SwapsParts (k : Nat) : Prop :=
  ∀ i < 64, (i / k % 2 = 0 → i + k < 64 ∧ (i + k) / k % 2 = 1 ∧ (k ≤ i → (i - k) / k % 2 = 1)) ∧
    (i / k % 2 ≠ 0 → k ≤ i ∧ (i - k) / k % 2 = 0 ∧ (i + k < 64 → (i + k) / k % 2 = 0))

theorem testBit_swap (val : UInt64) {k : Nat} (hk : k < 64) (hparts : SwapsParts k) {high low : UInt64}
    (hhigh : ∀ j < 64, high.toNat.testBit j = decide (j / k % 2 = 1))
    (hlow : ∀ j < 64, low.toNat.testBit j = decide (j / k % 2 = 0)) {i : Nat} (hi : i < 64) :
    (((val &&& high) >>> UInt64.ofNat k) ||| ((val &&& low) <<< UInt64.ofNat k)).toNat.testBit i =
      val.toNat.testBit (swapIndex k i) := by
  have hshift : (UInt64.ofNat k).toNat % 64 = k := by
    rw [UInt64.toNat_ofNat', Nat.mod_eq_of_lt (by omega : k < 2 ^ 64), Nat.mod_eq_of_lt hk]
  have hout : ∀ j, 64 ≤ j → val.toNat.testBit j = false := fun j hj =>
    Nat.testBit_lt_two_pow (lt_of_lt_of_le val.toNat_lt (Nat.pow_le_pow_right (by omega) hj))
  rw [UInt64.toNat_or, UInt64.toNat_shiftRight, UInt64.toNat_shiftLeft, hshift, Nat.testBit_or, Nat.testBit_shiftRight,
    Nat.testBit_mod_two_pow, Nat.testBit_shiftLeft, decide_eq_true hi, UInt64.toNat_and, UInt64.toNat_and, Nat.testBit_and,
    Nat.testBit_and, hlow (i - k) (by omega), Nat.add_comm k i, Bool.true_and]
  obtain ⟨heven, hodd⟩ := hparts i hi
  unfold swapIndex
  by_cases hpart : i / k % 2 = 0
  · obtain ⟨hlt, hone, hback⟩ := heven hpart
    rw [if_pos hpart, hhigh _ hlt, decide_eq_true hone, Bool.and_true]
    by_cases hle : k ≤ i
    · rw [decide_eq_false (by omega : ¬ (i - k) / k % 2 = 0), Bool.and_false, Bool.and_false, Bool.or_false]
    · rw [decide_eq_false hle, Bool.false_and, Bool.or_false]
  · obtain ⟨hle, hzero, hnext⟩ := hodd hpart
    rw [if_neg hpart, decide_eq_true hle, decide_eq_true hzero, Bool.and_true, Bool.true_and]
    by_cases hlt : i + k < 64
    · rw [hhigh _ hlt, decide_eq_false (by omega : ¬ (i + k) / k % 2 = 1), Bool.and_false, Bool.false_or]
    · rw [hout _ (not_lt.1 hlt), Bool.false_and, Bool.false_or]

/-- **`ByteSwap` turns the bytes around.** -/
theorem testBit_byteSwap (val : UInt64) {i : Nat} (hi : i < 64) :
    (byteSwap val).toNat.testBit i = val.toNat.testBit (8 * (7 - i / 8) + i % 8) := by
  have hindex : ∀ i < 64, swapIndex 8 i < 64 ∧ swapIndex 16 (swapIndex 8 i) < 64 ∧
      swapIndex 32 (swapIndex 16 (swapIndex 8 i)) = 8 * (7 - i / 8) + i % 8 := by decide
  obtain ⟨h8, h16, h32⟩ := hindex i hi
  unfold byteSwap
  rw [← h32]
  refine (testBit_swap _ (by decide : 8 < 64) (by unfold SwapsParts; decide) (by decide) (by decide) hi).trans ?_
  refine (testBit_swap _ (by decide : 16 < 64) (by unfold SwapsParts; decide) (by decide) (by decide) h8).trans ?_
  exact testBit_swap _ (by decide : 32 < 64) (by unfold SwapsParts; decide) (by decide) (by decide) h16

theorem testBit_value_reverse {bytes : Bytes} (hlen : bytes.length = 8) {i : Nat} (hi : i < 64) :
    (BigEndian.value bytes).testBit i = (BigEndian.value bytes.reverse).testBit (8 * (7 - i / 8) + i % 8) := by
  have hdiv : (8 * (7 - i / 8) + i % 8) / 8 = 7 - i / 8 := by omega
  have hmod : (8 * (7 - i / 8) + i % 8) % 8 = i % 8 := by omega
  rw [BigEndian.testBit_value, BigEndian.testBit_value, List.reverse_reverse, List.getElem?_reverse (by omega), hlen, hdiv,
    hmod]

theorem toNat_value {bytes : Bytes} (hlen : bytes.length = 8) :
    (UInt64.ofNat (BigEndian.value bytes)).toNat = BigEndian.value bytes := by
  have hlt : BigEndian.value bytes < 2 ^ 64 := by
    have h := BigEndian.value_lt bytes
    rwa [hlen] at h
  rw [UInt64.toNat_ofNat', Nat.mod_eq_of_lt hlt]

theorem length_order (endian : Endian) (bytes : Bytes) : (endian.order bytes).length = bytes.length := by
  cases endian
  · exact List.length_reverse
  · rfl

theorem order_order (endian : Endian) (bytes : Bytes) : endian.order (endian.order bytes) = bytes := by
  cases endian
  · exact List.reverse_reverse bytes
  · rfl

/-- **A big-endian word is the number of its bytes** on every machine. -/
theorem bigEndianLoad64_toNat (endian : Endian) {src : Bytes} (hlen : 8 ≤ src.length) :
    (bigEndianLoad64 endian src).toNat = BigEndian.value (src.take 8) := by
  have htake : (src.take 8).length = 8 := by rw [List.length_take, Nat.min_eq_left hlen]
  cases endian with
  | big => exact toNat_value htake
  | little =>
    have hlt : BigEndian.value (src.take 8) < 2 ^ 64 := by
      have h := BigEndian.value_lt (src.take 8)
      rwa [htake] at h
    refine Nat.eq_of_testBit_eq fun i => ?_
    by_cases hi : i < 64
    · show (byteSwap (UInt64.ofNat (BigEndian.value (src.take 8).reverse))).toNat.testBit i = _
      rw [testBit_byteSwap _ hi, toNat_value (by rw [List.length_reverse, htake]), testBit_value_reverse htake hi]
    · rw [Nat.testBit_lt_two_pow (lt_of_lt_of_le (UInt64.toNat_lt _) (Nat.pow_le_pow_right (by omega) (not_lt.1 hi))),
        Nat.testBit_lt_two_pow (lt_of_lt_of_le hlt (Nat.pow_le_pow_right (by omega) (not_lt.1 hi)))]

theorem bigEndianStore64_eq (endian : Endian) (val : UInt64) :
    bigEndianStore64 endian val = BigEndian.encode 8 val.toNat := by
  cases endian with
  | big => rfl
  | little =>
    have hlen : ((BigEndian.encode 8 (byteSwap val).toNat).reverse).length = 8 := by
      rw [List.length_reverse, BigEndian.encode_length]
    apply BigEndian.value_injective
    · rw [BigEndian.encode_length]
      exact hlen
    rw [BigEndian.value_encode val.toNat_lt]
    refine Nat.eq_of_testBit_eq fun i => ?_
    show (BigEndian.value (BigEndian.encode 8 (byteSwap val).toNat).reverse).testBit i = _
    by_cases hi : i < 64
    · rw [testBit_value_reverse hlen hi, List.reverse_reverse, BigEndian.value_encode (byteSwap val).toNat_lt,
        testBit_byteSwap _ (by omega),
        show 8 * (7 - (8 * (7 - i / 8) + i % 8) / 8) + (8 * (7 - i / 8) + i % 8) % 8 = i by omega]
    · have hlt := BigEndian.value_lt (BigEndian.encode 8 (byteSwap val).toNat).reverse
      rw [hlen] at hlt
      rw [Nat.testBit_lt_two_pow (lt_of_lt_of_le hlt (Nat.pow_le_pow_right (by omega) (not_lt.1 hi) : 2 ^ 64 ≤ 2 ^ i)),
        Nat.testBit_lt_two_pow (lt_of_lt_of_le val.toNat_lt (Nat.pow_le_pow_right (by omega) (not_lt.1 hi)))]

theorem load64_toNat (endian : Endian) {src : Bytes} (hlen : (src.take 8).length = 8) :
    (load64 endian src).toNat = BigEndian.value (endian.order (src.take 8)) :=
  toNat_value (by rw [length_order, hlen])

/-- **The xor of two words has the bytes xored.** -/
theorem store64_xor (endian : Endian) {a b : Bytes} (ha : (a.take 8).length = 8) (hb : (b.take 8).length = 8) :
    store64 endian (load64 endian a ^^^ load64 endian b) = List.zipWith (· ^^^ ·) (a.take 8) (b.take 8) := by
  have hzip : (List.zipWith (· ^^^ ·) (endian.order (a.take 8)) (endian.order (b.take 8))).length = 8 := by
    rw [List.length_zipWith, length_order, length_order, ha, hb, Nat.min_self]
  have hencode := BigEndian.encode_value (List.zipWith (· ^^^ ·) (endian.order (a.take 8)) (endian.order (b.take 8)))
  rw [hzip] at hencode
  unfold store64
  rw [UInt64.toNat_xor, load64_toNat endian ha, load64_toNat endian hb,
    ← BigEndian.value_zipWith_xor (by rw [length_order, length_order, ha, hb]), hencode]
  cases endian with
  | big => rfl
  | little =>
    show (List.zipWith _ (a.take 8).reverse (b.take 8).reverse).reverse = _
    rw [List.reverse_zipWith (by rw [List.length_reverse, List.length_reverse, ha, hb]), List.reverse_reverse,
      List.reverse_reverse]

theorem load64_inj (endian : Endian) {a b : Bytes} (ha : (a.take 8).length = 8) (hb : (b.take 8).length = 8)
    (h : load64 endian a = load64 endian b) : a.take 8 = b.take 8 := by
  have hvalue := congrArg UInt64.toNat h
  rw [load64_toNat endian ha, load64_toNat endian hb] at hvalue
  have horder := BigEndian.value_injective (by rw [length_order, length_order, ha, hb]) hvalue
  rw [← order_order endian (a.take 8), horder, order_order]

/-- The two halves of a block. -/
theorem halves (block : Block) : (block.toList.take 8).length = 8 ∧ ((block.toList.drop 8).take 8).length = 8 ∧
    block.toList.take 8 ++ (block.toList.drop 8).take 8 = block.toList := by
  have hrest : (block.toList.drop 8).take 8 = block.toList.drop 8 :=
    List.take_of_length_le (by rw [List.length_drop, Vector.length_toList])
  refine ⟨by rw [List.length_take, Vector.length_toList]; rfl, ?_, by rw [hrest, List.take_append_drop]⟩
  rw [hrest, List.length_drop, Vector.length_toList]

namespace AesEax

/-- **`XorBlock` xors byte by byte.** -/
theorem xorBlock_eq (endian : Endian) (x y : Block) : xorBlock endian x y = xor x y := by
  obtain ⟨hx, hx', hxs⟩ := halves x
  obtain ⟨hy, hy', hys⟩ := halves y
  have hlist : (xor x y).toList = List.zipWith (· ^^^ ·) x.toList y.toList := Vector.toList_zipWith
  unfold xorBlock
  dsimp only
  rw [store64_xor endian hx hy, store64_xor endian hx' hy', ← List.zipWith_append (by rw [hx, hy]), hxs, hys, ← hlist,
    ofBytes_toList]

/-- **`EqualBlocks` compares them.** -/
theorem equalBlocks_iff (endian : Endian) (x y : Block) : equalBlocks endian x y = true ↔ x = y := by
  obtain ⟨hx, hx', hxs⟩ := halves x
  obtain ⟨hy, hy', hys⟩ := halves y
  unfold equalBlocks
  dsimp only
  rw [beq_iff_eq, UInt64.or_eq_zero_iff, UInt64.xor_eq_zero_iff, UInt64.xor_eq_zero_iff]
  constructor
  · rintro ⟨hfirst, hsecond⟩
    apply toList_injective
    rw [← hxs, ← hys, load64_inj endian hx hy hfirst, load64_inj endian hx' hy' hsecond]
  · rintro rfl
    exact ⟨rfl, rfl⟩

/-- The two words of a block. -/
theorem number_words (block : Block) :
    number block = 2 ^ 64 * BigEndian.value (block.toList.take 8) + BigEndian.value ((block.toList.drop 8).take 8) := by
  obtain ⟨-, hsecond, hboth⟩ := halves block
  unfold number
  rw [← hboth, BigEndian.value_append, hsecond, hboth, show (256 : Nat) ^ 8 = 2 ^ 64 by decide]

theorem number_ofBytes_words (high low : UInt64) :
    number (ofBytes (BigEndian.encode 8 high.toNat ++ BigEndian.encode 8 low.toNat)) = 2 ^ 64 * high.toNat + low.toNat := by
  unfold number
  rw [toList_ofBytes (by rw [List.length_append, BigEndian.encode_length, BigEndian.encode_length]), BigEndian.value_append,
    BigEndian.encode_length, BigEndian.value_encode high.toNat_lt, BigEndian.value_encode low.toNat_lt,
    show (256 : Nat) ^ 8 = 2 ^ 64 by decide]

theorem testBit_top (word : UInt64) (j : Nat) : word.toNat.testBit (63 + j) = (decide (j = 0) && word.toNat.testBit 63) := by
  by_cases hzero : j = 0
  · subst hzero
    simp
  · rw [decide_eq_false hzero, Bool.false_and]
    exact Nat.testBit_lt_two_pow (lt_of_lt_of_le word.toNat_lt (Nat.pow_le_pow_right (by omega) (by omega)))

/-- The high word takes the highest bit of the low one. -/
theorem testBit_outHigh (high low : UInt64) {j : Nat} (hj : j < 64) :
    ((high <<< 1) ^^^ (low >>> 63)).toNat.testBit j =
      if j = 0 then low.toNat.testBit 63 else high.toNat.testBit (j - 1) := by
  rw [UInt64.toNat_xor, UInt64.toNat_shiftLeft, UInt64.toNat_shiftRight, Nat.testBit_xor, Nat.testBit_mod_two_pow,
    show (1 : UInt64).toNat % 64 = 1 from rfl, show (63 : UInt64).toNat % 64 = 63 from rfl, Nat.testBit_shiftLeft,
    Nat.testBit_shiftRight, testBit_top, decide_eq_true hj, Bool.true_and]
  by_cases hzero : j = 0
  · subst hzero
    simp
  · rw [decide_eq_false hzero, if_neg hzero, decide_eq_true (by omega : j ≥ 1), Bool.true_and, Bool.false_and, Bool.xor_false]

theorem top_word_eq (word : UInt64) : word >>> 63 = if word.toNat.testBit 63 then 1 else 0 := by
  have hlt := word.toNat_lt
  have hbit : word.toNat.testBit 63 = decide (word.toNat / 2 ^ 63 % 2 = 1) := Nat.testBit_eq_decide_div_mod_eq
  apply UInt64.toNat_inj.1
  rw [UInt64.toNat_shiftRight, show (63 : UInt64).toNat % 64 = 63 from rfl, Nat.shiftRight_eq_div_pow, hbit]
  by_cases hhigh : 2 ^ 63 ≤ word.toNat
  · rw [decide_eq_true (by omega), if_pos rfl, UInt64.toNat_one]
    omega
  · rw [decide_eq_false (by omega), if_neg Bool.false_ne_true, UInt64.toNat_zero]
    omega

/-- The low word takes what the highest bit of the high one is reduced to. -/
theorem testBit_outLow (high low : UInt64) {j : Nat} (hj : j < 64) :
    ((low <<< 1) ^^^ ((0x87 : UInt64) &&& -(high >>> 63))).toNat.testBit j =
      ((decide (0 < j) && low.toNat.testBit (j - 1)) ^^ (high.toNat.testBit 63 && (0x87 : Nat).testBit j)) := by
  have hcarry : ((0x87 : UInt64) &&& -(high >>> 63)).toNat.testBit j =
      (high.toNat.testBit 63 && (0x87 : Nat).testBit j) := by
    rw [top_word_eq]
    cases high.toNat.testBit 63 with
    | false => simp
    | true => simp
  rw [UInt64.toNat_xor, Nat.testBit_xor, hcarry, UInt64.toNat_shiftLeft, show (1 : UInt64).toNat % 64 = 1 from rfl,
    Nat.testBit_mod_two_pow, Nat.testBit_shiftLeft, decide_eq_true hj, Bool.true_and]
  rfl

/-- **`MultiplyByX` on words doubles.** -/
theorem multiplyByX_eq (endian : Endian) (input : Block) : multiplyByX endian input = double input := by
  have hhigh : (bigEndianLoad64 endian input.toList).toNat = BigEndian.value (input.toList.take 8) :=
    bigEndianLoad64_toNat endian (by rw [Vector.length_toList]; omega)
  have hlow : (bigEndianLoad64 endian (input.toList.drop 8)).toNat = BigEndian.value ((input.toList.drop 8).take 8) :=
    bigEndianLoad64_toNat endian (by rw [List.length_drop, Vector.length_toList])
  have hinput := number_words input
  rw [← hhigh, ← hlow] at hinput
  have hbit : ∀ k, bit input k = if k < 64 then (bigEndianLoad64 endian (input.toList.drop 8)).toNat.testBit k
      else (bigEndianLoad64 endian input.toList).toNat.testBit (k - 64) := by
    intro k
    unfold bit
    rw [hinput, Nat.testBit_two_pow_mul_add _ (UInt64.toNat_lt _)]
  unfold multiplyByX
  dsimp only
  rw [bigEndianStore64_eq, bigEndianStore64_eq]
  refine ext_bit fun k hk => ?_
  rw [bit_double input hk, hbit 127, if_neg (by omega), hbit (k - 1)]
  unfold bit
  rw [number_ofBytes_words, Nat.testBit_two_pow_mul_add _ (UInt64.toNat_lt _)]
  by_cases hlt : k < 64
  · rw [if_pos hlt, testBit_outLow _ _ hlt, if_pos (by omega : k - 1 < 64)]
  · have hbelow : (0x87 : Nat).testBit k = false :=
      Nat.testBit_lt_two_pow (lt_of_lt_of_le (by decide) (Nat.pow_le_pow_right (by omega) (by omega : 8 ≤ k)))
    rw [if_neg hlt, testBit_outHigh _ _ (by omega), hbelow, Bool.and_false, Bool.xor_false, decide_eq_true (by omega : 0 < k),
      Bool.true_and]
    by_cases hzero : k = 64
    · subst hzero
      rfl
    · rw [if_neg (by omega), if_neg (by omega), show k - 64 - 1 = k - 1 - 64 by omega]

section
variable (s : AesEax)

theorem computeB_eq : s.computeB = Cmac.subkey1 s.encryptBlock := multiplyByX_eq _ _

theorem computeP_eq : s.computeP = Cmac.subkey2 s.encryptBlock := by
  unfold computeP
  rw [multiplyByX_eq, computeB_eq]
  rfl

theorem setIfInBounds_ofBytes (data : Bytes) (byte : UInt8) :
    (ofBytes data).setIfInBounds data.length byte = ofBytes (data ++ [byte]) := by
  ext i hi
  rw [Vector.getElem_setIfInBounds hi, getElem_ofBytes, getElem_ofBytes]
  by_cases heq : data.length = i
  · subst heq
    rw [if_pos rfl, List.getElem?_append_right (le_refl _), Nat.sub_self]
    rfl
  · rw [if_neg heq]
    by_cases hlt : i < data.length
    · rw [List.getElem?_append_left hlt]
    · rw [List.getElem?_eq_none (by omega), List.getElem?_eq_none (by rw [List.length_append, List.length_singleton]; omega)]

/-- `Pad` is the last block of CMAC. -/
theorem pad_eq (data : Bytes) : s.pad data = Cmac.lastBlock s.encryptBlock data := by
  unfold pad Cmac.lastBlock
  dsimp only
  rw [setIfInBounds_ofBytes, xorBlock_eq, xorBlock_eq, computeB_eq, computeP_eq, Blocks.xor_comm,
    Blocks.xor_comm (Cmac.subkey2 _)]

theorem omacLoop_eq {data : Bytes} {idx count r : Nat} (hpos : 0 < r) (hr : r ≤ 16)
    (h : data.length = idx + 16 * count + r) (mac : Block) :
    s.omacLoop data idx mac = (Cmac.chain s.encryptBlock mac (Cmac.blocksFrom data idx count), idx + 16 * count) := by
  induction count generalizing idx mac with
  | zero =>
    rw [omacLoop, if_neg (by unfold kBlockSize; omega)]
    rfl
  | succ count ih =>
    rw [omacLoop, if_pos (by unfold kBlockSize; omega), ih (by unfold kBlockSize; omega), xorBlock_eq, Cmac.blocksFrom_succ,
      Cmac.chain_cons, Blocks.xor_comm,
      show idx + kBlockSize + 16 * count = idx + 16 * (count + 1) by unfold kBlockSize; omega]

theorem tagBlock_eq : ∀ tag : Fin 3, zero.set 15 (UInt8.ofNat tag) lastByte_lt = ofNumber tag := by
  decide +kernel

/-- **`Omac` is CMAC of the number in a block and the data.** -/
theorem omac_eq (tag : Fin 3) (data : Bytes) : s.omac data tag = Cmac.omac s.encryptBlock tag data := by
  unfold omac Cmac.omac
  dsimp only
  rw [tagBlock_eq]
  cases data with
  | nil =>
    have hlen : (ofNumber tag).toList.length = 16 := Vector.length_toList
    have hlast : Cmac.lastBlock s.encryptBlock (ofNumber tag).toList =
        xor (ofBytes (ofNumber tag).toList) (Cmac.subkey1 s.encryptBlock) := if_pos hlen
    unfold Cmac.cmac
    rw [List.append_nil, Cmac.blocks_of_le _ (le_of_eq hlen), Cmac.chain_cons, zero_xor, hlast, ofBytes_toList, xorBlock_eq,
      computeB_eq, Blocks.xor_comm]
    rfl
  | cons byte rest =>
    generalize hdata : byte :: rest = data
    have hne : data ≠ [] := by
      rw [← hdata]
      exact List.cons_ne_nil _ _
    have hempty : data.isEmpty = false := by
      rw [← hdata]
      rfl
    have hlen := List.length_pos_iff.2 hne
    obtain ⟨count, r, hpos, hr, hsize⟩ : ∃ count r, 0 < r ∧ r ≤ 16 ∧ data.length = 0 + 16 * count + r :=
      ⟨(data.length - 1) / 16, (data.length - 1) % 16 + 1, by omega, by omega, by omega⟩
    rw [hempty, if_neg Bool.false_ne_true, omacLoop_eq s hpos hr hsize, Cmac.cmac_block_append _ _ hne,
      Cmac.blocks_eq _ count (by omega) (by omega), Cmac.chain_append]
    dsimp only
    rw [pad_eq, xorBlock_eq, Nat.zero_add, Blocks.xor_comm]
    rfl

/-- The tag of a ciphertext. -/
def tagOf (nonce associatedData encrypted : Bytes) : Block :=
  xor (xor (Cmac.omac s.encryptBlock 0 nonce) (Cmac.omac s.encryptBlock 1 associatedData))
    (Cmac.omac s.encryptBlock 2 encrypted)

theorem mac_eq (nonce associatedData encrypted : Bytes) :
    xorBlock s.endian (s.omac associatedData 1) (xorBlock s.endian (s.omac nonce 0) (s.omac encrypted 2)) =
      s.tagOf nonce associatedData encrypted := by
  have h0 := omac_eq s 0 nonce
  have h1 := omac_eq s 1 associatedData
  have h2 := omac_eq s 2 encrypted
  unfold tagOf
  rw [xorBlock_eq, xorBlock_eq, ← Blocks.xor_assoc, Blocks.xor_comm (s.omac associatedData 1)]
  exact congrArg₂ Blocks.xor (congrArg₂ Blocks.xor h0 h1) h2

theorem ctrCrypt_eq (n : Block) (input : Bytes) {outSize : Nat} (h : input.length ≤ outSize) :
    s.ctrCrypt n input outSize = .ok (s.aeskey.crypt n input) := by
  unfold ctrCrypt aesCtr128Crypt
  rw [if_neg (not_lt.2 h)]

/-- **What is encrypted.** -/
theorem encrypt_eq (nonce : RandomBytes s.nonceSize) (plaintext associatedData : Bytes) :
    s.encrypt nonce plaintext associatedData =
      .ok (nonce.1 ++ s.aeskey.crypt (Cmac.omac s.encryptBlock 0 nonce.1) plaintext ++
        (s.tagOf nonce.1 associatedData (s.aeskey.crypt (Cmac.omac s.encryptBlock 0 nonce.1) plaintext)).toList) := by
  have hnonce : s.omac nonce.1 0 = Cmac.omac s.encryptBlock 0 nonce.1 := omac_eq s 0 nonce.1
  unfold encrypt
  dsimp only
  rw [hnonce, ctrCrypt_eq s _ _ (Nat.le_add_right _ _)]
  simp only [bind, Except.bind, pure, Except.pure]
  rw [← hnonce, mac_eq]

/-- The three parts of a ciphertext. -/
theorem parts_of_length {ciphertext : Bytes} (h : s.nonceSize + 16 ≤ ciphertext.length) :
    ∃ nonce encrypted : Bytes, ∃ tag : Block, nonce.length = s.nonceSize ∧ ciphertext = nonce ++ encrypted ++ tag.toList := by
  have htag : (ciphertext.drop (ciphertext.length - 16)).length = 16 := by
    rw [List.length_drop]
    omega
  refine ⟨ciphertext.take s.nonceSize, (ciphertext.take (ciphertext.length - 16)).drop s.nonceSize,
    ofBytes (ciphertext.drop (ciphertext.length - 16)), by rw [List.length_take]; omega, ?_⟩
  have hfront : (ciphertext.take (ciphertext.length - 16)).take s.nonceSize = ciphertext.take s.nonceSize := by
    rw [List.take_take, Nat.min_eq_left (by omega)]
  rw [toList_ofBytes htag, ← hfront, List.take_append_drop, List.take_append_drop]

/-- **A ciphertext is decrypted exactly when its tag is the one of its parts.** -/
theorem decrypt_parts (nonce : RandomBytes s.nonceSize) (encrypted associatedData : Bytes) (tag : Block) :
    s.decrypt (nonce.1 ++ encrypted ++ tag.toList) associatedData =
      if tag = s.tagOf nonce.1 associatedData encrypted then
        .ok (s.aeskey.crypt (Cmac.omac s.encryptBlock 0 nonce.1) encrypted)
      else .error ⟨.invalidArgument, "Tag mismatch"⟩ := by
  have hlen : (nonce.1 ++ encrypted ++ tag.toList).length = s.nonceSize + encrypted.length + 16 := by
    rw [List.length_append, List.length_append, nonce.2, Vector.length_toList]
  have hnonce : (nonce.1 ++ encrypted ++ tag.toList).take s.nonceSize = nonce.1 := by
    rw [List.append_assoc, List.take_left' nonce.2]
  have hencrypted : ((nonce.1 ++ encrypted ++ tag.toList).drop s.nonceSize).take encrypted.length = encrypted := by
    rw [List.append_assoc, List.drop_left' nonce.2, List.take_left' rfl]
  have htag : ((nonce.1 ++ encrypted ++ tag.toList).drop (s.nonceSize + encrypted.length)).take kTagSize = tag.toList := by
    rw [List.drop_left' (by rw [List.length_append, nonce.2]), List.take_of_length_le (by rw [Vector.length_toList])]
  have homac : s.omac nonce.1 0 = Cmac.omac s.encryptBlock 0 nonce.1 := omac_eq s 0 nonce.1
  unfold decrypt
  dsimp only
  rw [hlen, if_neg (by unfold kTagSize; omega),
    show s.nonceSize + encrypted.length + 16 - kTagSize - s.nonceSize = encrypted.length by unfold kTagSize; omega,
    show s.nonceSize + encrypted.length + 16 - kTagSize = s.nonceSize + encrypted.length by unfold kTagSize; omega,
    hnonce, hencrypted, htag, mac_eq, ofBytes_toList, ctrCrypt_eq s _ _ (le_refl _), homac]
  by_cases heq : tag = s.tagOf nonce.1 associatedData encrypted
  · have hequal : equalBlocks s.endian (s.tagOf nonce.1 associatedData encrypted) tag = true :=
      (equalBlocks_iff _ _ _).2 heq.symm
    rw [hequal, if_pos heq]
    rfl
  · have hdiffer : equalBlocks s.endian (s.tagOf nonce.1 associatedData encrypted) tag = false :=
      Bool.eq_false_iff.2 fun h => heq ((equalBlocks_iff _ _ _).1 h).symm
    rw [hdiffer, if_neg heq]
    rfl

/-- A string that is long enough is accepted exactly when its last 16 bytes are the tag of the others. -/
theorem decrypt_accepts_iff (ciphertext associatedData : Bytes) :
    (∃ plaintext, s.decrypt ciphertext associatedData = .ok plaintext) ↔
      s.nonceSize + 16 ≤ ciphertext.length ∧ ciphertext.drop (ciphertext.length - 16) =
        (s.tagOf (ciphertext.take s.nonceSize) associatedData
          ((ciphertext.take (ciphertext.length - 16)).drop s.nonceSize)).toList := by
  by_cases hlong : s.nonceSize + 16 ≤ ciphertext.length
  · obtain ⟨nonce, encrypted, tag, hnonce, rfl⟩ := parts_of_length s hlong
    have hlen : (nonce ++ encrypted ++ tag.toList).length - 16 = (nonce ++ encrypted).length := by
      rw [List.length_append, Vector.length_toList, Nat.add_sub_cancel]
    have hfirst : (nonce ++ encrypted ++ tag.toList).take s.nonceSize = nonce := by
      rw [List.append_assoc, List.take_left' hnonce]
    rw [hlen, hfirst, List.drop_left' rfl, List.take_left' rfl, List.drop_left' hnonce]
    have hparts := decrypt_parts s ⟨nonce, hnonce⟩ encrypted associatedData tag
    dsimp only at hparts
    rw [hparts]
    by_cases htag : tag = s.tagOf nonce associatedData encrypted
    · rw [if_pos htag]
      exact iff_of_true ⟨_, rfl⟩ ⟨hlong, congrArg Vector.toList htag⟩
    · rw [if_neg htag]
      exact iff_of_false (fun ⟨_, h⟩ => by cases h) (fun h => htag (toList_injective h.2))
  · refine iff_of_false (fun ⟨_, h⟩ => ?_) (fun h => hlong h.1)
    unfold decrypt at h
    dsimp only at h
    rw [if_pos (by unfold kTagSize; omega)] at h
    cases h

/-- **AES-EAX is EAX** on every machine, for every block function and nonce size: its OMACs are CMACs, its doubling is
multiplication by `x` in GF(2^128), it decrypts what it encrypted and accepts exactly the strings with the right tag. -/
theorem aesEax_eax :
    (∀ (tag : Fin 3) (data : Bytes), s.omac data tag = Cmac.omac s.encryptBlock tag data) ∧
    (∀ block, multiplyByX s.endian block = AesSiv.multiplyByX block ∧
      toField (multiplyByX s.endian block) = AdjoinRoot.root modulus * toField block) ∧
    (∀ nonce plaintext associatedData, ∃ ciphertext, s.encrypt nonce plaintext associatedData = .ok ciphertext ∧
      s.decrypt ciphertext associatedData = .ok plaintext) ∧
    ∀ ciphertext associatedData, (∃ plaintext, s.decrypt ciphertext associatedData = .ok plaintext) ↔
      s.nonceSize + 16 ≤ ciphertext.length ∧ ciphertext.drop (ciphertext.length - 16) =
        (xor (xor (s.omac (ciphertext.take s.nonceSize) 0) (s.omac associatedData 1))
          (s.omac ((ciphertext.take (ciphertext.length - 16)).drop s.nonceSize) 2)).toList := by
  refine ⟨omac_eq s, fun block => ⟨?_, ?_⟩, fun nonce plaintext associatedData => ?_, fun ciphertext associatedData => ?_⟩
  · rw [multiplyByX_eq, AesSiv.multiplyByX_eq]
  · rw [multiplyByX_eq, toField_double]
  · refine ⟨_, encrypt_eq s nonce plaintext associatedData, ?_⟩
    rw [decrypt_parts, if_pos rfl, s.aeskey.crypt_crypt]
  · have h0 : ∀ data, s.omac data 0 = Cmac.omac s.encryptBlock 0 data := fun data => omac_eq s 0 data
    have h1 : ∀ data, s.omac data 1 = Cmac.omac s.encryptBlock 1 data := fun data => omac_eq s 1 data
    have h2 : ∀ data, s.omac data 2 = Cmac.omac s.encryptBlock 2 data := fun data => omac_eq s 2 data
    rw [decrypt_accepts_iff, h0, h1, h2]
    rfl

end

/-- A block function that turns the bytes around, its counter mode, and nonces of 12 bytes. -/
def reversing : AesEax := ⟨.little, Vector.reverse, Cmac.counterMode Vector.reverse, 12⟩

/-- A message of a block and one byte. -/
theorem aesEax_eax_reversing : ∃ ciphertext,
    reversing.encrypt ⟨List.replicate 12 3, List.length_replicate⟩ (List.replicate 17 1) [2] = .ok ciphertext ∧
      ciphertext.length = 12 + 17 + 16 ∧ reversing.decrypt ciphertext [2] = .ok (List.replicate 17 1) := by
  obtain ⟨-, -, hround, -⟩ := aesEax_eax reversing
  obtain ⟨ciphertext, hencrypt, hdecrypt⟩ := hround ⟨List.replicate 12 3, List.length_replicate⟩ (List.replicate 17 1) [2]
  refine ⟨ciphertext, hencrypt, ?_, hdecrypt⟩
  rw [encrypt_eq] at hencrypt
  obtain rfl := Except.ok.inj hencrypt
  rw [List.length_append, List.length_append, reversing.aeskey.length_crypt, Vector.length_toList]
  rfl

end AesEax

end Tink
