import TinkCc.Basic
import TinkCc.LibCmac
/-!
# AesSiv — AES-SIV as in RFC 5297

`subtle/aes_siv_boringssl.cc`.  `Cmac` and `CmacLong` work in one block in place; `CmacLong` xors the block that S2V puts at
the end of the message while it walks over the last two blocks.
-/
namespace Tink

open Blocks

abbrev kBlockSize : Nat := 16

/-- `block[i] ^= byte;` -/
def xorByte (block : Block) (i : Nat) (byte : UInt8) : Block := block.setIfInBounds i (block[i]?.getD 0 ^^^ byte)

/-- A loop `block[i + j] ^= bytes[j];` over the bytes. -/
def xorLoop (block : Block) (i : Nat) : Bytes → Block
  | [] => block
  | byte :: bytes => xorLoop (xorByte block i byte) (i + 1) bytes

/-- `internal::AesCtr128Crypt` into a buffer of its own. -/
def aesCtr128Crypt (mode : Cmac.CtrMode) (data : Bytes) (iv : Block) (outSize : Nat) : Except Status Bytes :=
  if outSize < data.length then
    let size := data.length
    .error ⟨.invalidArgument, s!"Invalid size for output buffer; expected at least {size} got {outSize}"⟩
  else .ok (mode.crypt iv data)

/-- `AesSivBoringSslImpl`: `AES_encrypt` with `k1_`, and `AES_ctr128_encrypt` with `k2_`. -/
structure AesSiv where
  encryptBlock : Block → Block
  k2           : Cmac.CtrMode

namespace AesSiv

/-- The loop of `MultiplyByX`, which shifts all bytes but the last. -/
def shiftLoop (block : Block) (i : Nat) : Block :=
  if h : i < 15 then shiftLoop (block.set i ((block[i] <<< 1) ||| (block[i + 1] >>> 7))) (i + 1) else block
termination_by 15 - i

def multiplyByX (block : Block) : Block :=
  -- carry over 0x87 if the highest bit is 1
  let top : UInt8 := block[0] >>> 7
  let carry : UInt8 := 0x87 &&& -top
  let block := shiftLoop block 0
  block.set 15 ((block[15] <<< 1) ^^^ carry)

def xorBlock (x y : Block) : Block := Vector.ofFn fun i => x[i] ^^^ y[i]

section
variable (s : AesSiv)

def computeCmacK1 : Block := multiplyByX (s.encryptBlock zero)
def computeCmacK2 : Block := multiplyByX s.computeCmacK1

/-- The loop of `Cmac` over the blocks before the last. -/
def cmacLoop (data : Bytes) (lastBlockIdx idx : Nat) (block : Block) : Block :=
  if idx < lastBlockIdx then
    cmacLoop data lastBlockIdx (idx + kBlockSize) (s.encryptBlock (xorBlock block (ofBytes (data.drop idx))))
  else block
termination_by lastBlockIdx - idx
decreasing_by
  unfold kBlockSize
  omega

def cmac (data : Bytes) : Block :=
  let blocks := max 1 ((data.length + kBlockSize - 1) / kBlockSize)
  let lastBlockIdx := kBlockSize * (blocks - 1)
  let lastBlockSize := data.length - lastBlockIdx
  let block := s.cmacLoop data lastBlockIdx 0 zero
  let block := xorLoop block 0 ((data.drop lastBlockIdx).take lastBlockSize)
  if lastBlockSize = kBlockSize then s.encryptBlock (xorBlock block s.computeCmacK1)
  else s.encryptBlock (xorBlock (xorByte block lastBlockSize 0x80) s.computeCmacK2)

/-- The first loop of `CmacLong`: the block and the index it ends with. -/
def cmacLongLoop (data : Bytes) (idx : Nat) (block : Block) : Block × Nat :=
  if kBlockSize ≤ data.length - idx then
    cmacLongLoop data (idx + kBlockSize) (xorBlock (s.encryptBlock block) (ofBytes (data.drop idx)))
  else (block, idx)
termination_by data.length - idx
decreasing_by
  unfold kBlockSize at *
  omega

/-- The last loop of `CmacLong`: `block[j] ^= last[kBlockSize - remaining + j]; block[j] ^= data[idx + j];`. -/
def xorBothLoop (block : Block) (j : Nat) : (last data : Bytes) → Block
  | l :: last, d :: data => xorBothLoop (xorByte (xorByte block j l) j d) (j + 1) last data
  | _, _ => block

def cmacLong (data : Bytes) (last : Block) : Block :=
  let (block, idx) := s.cmacLongLoop data kBlockSize (ofBytes data)
  let remaining := data.length - idx
  let block := xorLoop block remaining (last.toList.take (kBlockSize - remaining))
  if remaining = 0 then s.encryptBlock (xorBlock block s.computeCmacK1)
  else
    let block := s.encryptBlock block
    let block := xorBothLoop block 0 (last.toList.drop (kBlockSize - remaining)) (data.drop idx)
    let block := xorByte block remaining 0x80
    s.encryptBlock (xorBlock block s.computeCmacK2)

def s2v (aad msg : Bytes) : Block :=
  let block := s.cmac zero.toList
  let block := multiplyByX block
  let block := xorBlock block (s.cmac aad)
  if kBlockSize ≤ msg.length then s.cmacLong msg block
  else
    let block := multiplyByX block
    let block := xorLoop block 0 msg
    let block := xorByte block msg.length 0x80
    s.cmac block.toList

def aesCtrCrypt (input : Bytes) (siv : Block) (outSize : Nat) : Except Status Bytes :=
  let iv := siv.set 8 (siv[8] &&& 0x7f)
  let iv := iv.set 12 (iv[12] &&& 0x7f)
  aesCtr128Crypt s.k2 input iv outSize

def encryptDeterministically (plaintext associatedData : Bytes) : Except Status Bytes := do
  let siv := s.s2v associatedData plaintext
  let encrypted ← s.aesCtrCrypt plaintext siv plaintext.length
  return siv.toList ++ encrypted

def decryptDeterministically (ciphertext associatedData : Bytes) : Except Status Bytes :=
  if ciphertext.length < kBlockSize then .error ⟨.invalidArgument, "ciphertext too short"⟩
  else do
    let siv := ofBytes ciphertext
    let plaintext ← s.aesCtrCrypt (ciphertext.drop kBlockSize) siv (ciphertext.length - kBlockSize)
    if siv ≠ s.s2v associatedData plaintext then .error ⟨.invalidArgument, "invalid ciphertext"⟩
    else return plaintext

end

end AesSiv

/-! ## Blocks -/

theorem getElem_xorByte (block : Block) (i : Nat) (byte : UInt8) (j : Nat) (hj : j < 16) :
    (xorByte block i byte)[j] = block[j] ^^^ (if i = j then byte else 0) := by
  unfold xorByte
  rw [Vector.getElem_setIfInBounds]
  by_cases h : i = j
  · subst h
    rw [if_pos rfl, if_pos rfl, Vector.getElem?_eq_getElem hj]
    rfl
  · rw [if_neg h, if_neg h, UInt8.xor_zero]

/-- **What the loop xors in.** -/
theorem getElem_xorLoop : ∀ (bytes : Bytes) (block : Block) (i j : Nat) (hj : j < 16),
    (xorLoop block i bytes)[j] = block[j] ^^^ (if i ≤ j then bytes[j - i]?.getD 0 else 0)
  | [], block, i, j, hj => by
    rw [List.getElem?_nil, Option.getD_none, ite_self, UInt8.xor_zero]
    rfl
  | byte :: bytes, block, i, j, hj => by
    unfold xorLoop
    rw [getElem_xorLoop bytes _ (i + 1) j hj, getElem_xorByte, UInt8.xor_assoc]
    congr 1
    by_cases hlt : i < j
    · obtain ⟨d, rfl⟩ := Nat.exists_eq_add_of_lt hlt
      rw [if_neg (by omega), if_pos (by omega), if_pos (by omega), UInt8.zero_xor,
        show i + d + 1 - (i + 1) = d by omega, show i + d + 1 - i = d + 1 by omega, List.getElem?_cons_succ]
    · by_cases heq : i = j
      · subst heq
        rw [if_pos rfl, if_neg (by omega), if_pos (le_refl _), UInt8.xor_zero, Nat.sub_self]
        rfl
      · rw [if_neg heq, if_neg (by omega), if_neg (by omega), UInt8.xor_zero]

theorem xorLoop_zero (block : Block) (bytes : Bytes) : xorLoop block 0 bytes = xor block (ofBytes bytes) := by
  ext j hj
  rw [getElem_xorLoop bytes block 0 j hj, if_pos (Nat.zero_le j), getElem_xor, getElem_ofBytes, Nat.sub_zero]

/-- A byte behind the others. -/
theorem xorByte_behind (block : Block) (bytes : Bytes) (byte : UInt8) :
    xorByte (xor block (ofBytes bytes)) bytes.length byte = xor block (ofBytes (bytes ++ [byte])) := by
  ext j hj
  have hbyte : (bytes[j]?.getD 0 ^^^ if bytes.length = j then byte else 0) = (bytes ++ [byte])[j]?.getD 0 := by
    by_cases hlt : j < bytes.length
    · rw [if_neg (by omega), UInt8.xor_zero, List.getElem?_append_left hlt]
    · rw [List.getElem?_eq_none (by omega), Option.getD_none, UInt8.zero_xor, List.getElem?_append_right (by omega)]
      by_cases heq : bytes.length = j
      · subst heq
        rw [if_pos rfl, Nat.sub_self]
        rfl
      · rw [if_neg heq, List.getElem?_eq_none (by rw [List.length_singleton]; omega)]
        rfl
  rw [getElem_xorByte, getElem_xor, getElem_xor, getElem_ofBytes, getElem_ofBytes, UInt8.xor_assoc, hbyte]

namespace AesSiv

theorem xorBlock_eq (x y : Block) : xorBlock x y = xor x y := by
  ext j hj
  unfold xorBlock
  rw [getElem_xor, Vector.getElem_ofFn]
  rfl

theorem getElem_shiftLoop (block : Block) (i j : Nat) (hj : j < 16) :
    (shiftLoop block i)[j] =
      if h : i ≤ j ∧ j < 15 then (block[j] <<< 1) ||| (block[j + 1] >>> 7) else block[j] := by
  induction block, i using shiftLoop.induct with
  | case1 block i hi ih =>
    rw [shiftLoop, dif_pos hi, ih]
    by_cases hj' : j < 15
    · by_cases hlt : i + 1 ≤ j
      · have hne : i ≠ j := by omega
        have hne' : i ≠ j + 1 := by omega
        rw [dif_pos ⟨hlt, hj'⟩, dif_pos ⟨by omega, hj'⟩, Vector.getElem_set, Vector.getElem_set, if_neg hne, if_neg hne']
      · rw [dif_neg (by omega), Vector.getElem_set]
        by_cases heq : i = j
        · subst heq
          rw [dif_pos ⟨le_refl i, hj'⟩, if_pos rfl]
        · rw [dif_neg (by omega), if_neg heq]
    · have hne : i ≠ j := by omega
      rw [dif_neg (by omega), dif_neg (by omega), Vector.getElem_set, if_neg hne]
  | case2 block i hi =>
    rw [shiftLoop, dif_neg hi, dif_neg (by omega)]

/-- The bits of a byte shifted into from the next one. -/
theorem testBit_shift (a b : UInt8) {t : Nat} (ht : t < 8) :
    ((a <<< 1) ||| (b >>> 7)).toNat.testBit t = if t = 0 then b.toNat.testBit 7 else a.toNat.testBit (t - 1) := by
  rw [UInt8.toNat_or, UInt8.toNat_shiftLeft, UInt8.toNat_shiftRight, Nat.testBit_or, Nat.testBit_mod_two_pow,
    Nat.testBit_shiftLeft, Nat.testBit_shiftRight]
  have hb : ∀ i, 1 ≤ i → b.toNat.testBit (7 + i) = false := fun i hi =>
    Nat.testBit_lt_two_pow (lt_of_lt_of_le b.toNat_lt (Nat.pow_le_pow_right (by omega) (by omega : 8 ≤ 7 + i)))
  by_cases hzero : t = 0
  · subst hzero
    simp
  · have h7 := hb t (by omega)
    simp [hzero, ht, h7, Nat.one_le_iff_ne_zero]

theorem top_eq (top : UInt8) : top >>> 7 = if top.toNat.testBit 7 then 1 else 0 := by
  have hlt := top.toNat_lt
  have hbit : top.toNat.testBit 7 = decide (top.toNat / 2 ^ 7 % 2 = 1) := Nat.testBit_eq_decide_div_mod_eq
  apply UInt8.toNat_inj.1
  rw [UInt8.toNat_shiftRight, show (7 : UInt8).toNat % 8 = 7 from rfl, Nat.shiftRight_eq_div_pow, hbit]
  by_cases hhigh : 128 ≤ top.toNat
  · rw [decide_eq_true (by omega), if_pos rfl, UInt8.toNat_one]
    omega
  · rw [decide_eq_false (by omega), if_neg Bool.false_ne_true, UInt8.toNat_zero]
    omega

/-- The bits of the last byte, with what was carried. -/
theorem testBit_last (a top : UInt8) {t : Nat} (ht : t < 8) :
    ((a <<< 1) ^^^ ((0x87 : UInt8) &&& -(top >>> 7))).toNat.testBit t =
      ((decide (0 < t) && a.toNat.testBit (t - 1)) ^^ (top.toNat.testBit 7 && (0x87 : Nat).testBit t)) := by
  have hcarry : ((0x87 : UInt8) &&& -(top >>> 7)).toNat.testBit t = (top.toNat.testBit 7 && (0x87 : Nat).testBit t) := by
    rw [top_eq]
    cases top.toNat.testBit 7 with
    | false => simp
    | true => simp
  rw [UInt8.toNat_xor, Nat.testBit_xor, hcarry, UInt8.toNat_shiftLeft, Nat.testBit_mod_two_pow, Nat.testBit_shiftLeft]
  simp [ht, Nat.one_le_iff_ne_zero, Nat.pos_iff_ne_zero]

/-- **`MultiplyByX` doubles.** -/
theorem multiplyByX_eq (block : Block) : multiplyByX block = double block := by
  refine ext_bit fun k hk => ?_
  rw [bit_double block hk, bit_eq _ hk]
  have htop : bit block 127 = block[0].toNat.testBit 7 := bit_eq block (by omega)
  unfold multiplyByX
  simp only [Vector.getElem_set]
  by_cases hlast : k < 8
  · have hidx : 15 - k / 8 = 15 := by omega
    have hmod : k % 8 = k := Nat.mod_eq_of_lt hlast
    simp only [hidx, hmod, if_true]
    rw [getElem_shiftLoop, dif_neg (by omega), testBit_last _ _ hlast, htop]
    by_cases hzero : k = 0
    · subst hzero
      rfl
    · have hbelow : bit block (k - 1) = block[15].toNat.testBit (k - 1) := by
        rw [bit_eq block (by omega)]
        simp only [show 15 - (k - 1) / 8 = 15 by omega, show (k - 1) % 8 = k - 1 by omega]
      rw [hbelow]
  · have hhigh : (0x87 : Nat).testBit k = false :=
      Nat.testBit_lt_two_pow (lt_of_lt_of_le (by decide) (Nat.pow_le_pow_right (by omega) (not_lt.1 hlast)))
    rw [if_neg (by omega), getElem_shiftLoop, dif_pos (by omega), testBit_shift _ _ (Nat.mod_lt _ (by omega)), hhigh,
      Bool.and_false, Bool.xor_false, decide_eq_true (by omega : 0 < k), Bool.true_and, bit_eq block (by omega : k - 1 < 128)]
    by_cases hzero : k % 8 = 0
    · simp only [if_pos hzero, show 15 - (k - 1) / 8 = 15 - k / 8 + 1 by omega, show (k - 1) % 8 = 7 by omega]
    · simp only [if_neg hzero, show 15 - (k - 1) / 8 = 15 - k / 8 by omega, show (k - 1) % 8 = k % 8 - 1 by omega]

section
variable (s : AesSiv)

theorem computeCmacK1_eq : s.computeCmacK1 = Cmac.subkey1 s.encryptBlock := multiplyByX_eq _

theorem computeCmacK2_eq : s.computeCmacK2 = Cmac.subkey2 s.encryptBlock := by
  unfold computeCmacK2
  rw [multiplyByX_eq, computeCmacK1_eq]
  rfl

theorem cmacLoop_eq (data : Bytes) (block : Block) (idx count : Nat) :
    s.cmacLoop data (idx + 16 * count) idx block = Cmac.chain s.encryptBlock block (Cmac.blocksFrom data idx count) := by
  induction count generalizing idx block with
  | zero =>
    rw [cmacLoop, if_neg (by omega)]
    rfl
  | succ count ih =>
    have hnext := ih (s.encryptBlock (xor block (ofBytes (data.drop idx)))) (idx + 16)
    rw [cmacLoop, if_pos (by omega), xorBlock_eq, Cmac.blocksFrom_succ, Cmac.chain_cons, ← hnext,
      show idx + 16 * (count + 1) = idx + 16 + 16 * count by omega]

/-- The end of a CMAC after the chain. -/
theorem lastBlock_eq (block : Block) (rest : Bytes) :
    (if rest.length = kBlockSize then s.encryptBlock (xorBlock (xorLoop block 0 rest) s.computeCmacK1)
      else s.encryptBlock (xorBlock (xorByte (xorLoop block 0 rest) rest.length 0x80) s.computeCmacK2)) =
    s.encryptBlock (xor block (Cmac.lastBlock s.encryptBlock rest)) := by
  unfold Cmac.lastBlock
  rw [xorLoop_zero, xorByte_behind, xorBlock_eq, xorBlock_eq, computeCmacK1_eq, computeCmacK2_eq, Blocks.xor_assoc,
    Blocks.xor_assoc]
  split <;> rfl

/-- **`Cmac` is CMAC.** -/
theorem cmac_eq (data : Bytes) : s.cmac data = Cmac.cmac s.encryptBlock data := by
  unfold cmac Cmac.cmac Cmac.blocks Cmac.blockCount
  dsimp only
  generalize hcount : max 1 ((data.length + 15) / 16) = count
  have hloop := cmacLoop_eq s data zero 0 (count - 1)
  have htake : (data.drop (16 * (count - 1))).take (data.length - 16 * (count - 1)) = data.drop (16 * (count - 1)) :=
    List.take_of_length_le (by rw [List.length_drop])
  have hlast := lastBlock_eq s (Cmac.chain s.encryptBlock zero (Cmac.blocksFrom data 0 (count - 1))) (data.drop (16 * (count - 1)))
  rw [List.length_drop] at hlast
  rw [Nat.zero_add] at hloop
  rw [show data.length + kBlockSize - 1 = data.length + 15 by rfl, show kBlockSize = 16 by rfl, hcount, hloop, htake, hlast,
    Cmac.chain_append]
  unfold Cmac.blocksFrom
  simp only [Nat.zero_add]
  rfl

end

/-! ## The last blocks of a long message -/

theorem length_xorEnd {data : Bytes} (last : Block) (h : 16 ≤ data.length) :
    (Cmac.xorEnd data last).length = data.length := by
  unfold Cmac.xorEnd
  rw [List.length_append, List.length_take, Vector.length_toList]
  omega

/-- The bytes of a message with a block xored into its end. -/
theorem getD_xorEnd {data : Bytes} (last : Block) (h : 16 ≤ data.length) (i : Nat) :
    (Cmac.xorEnd data last)[i]?.getD 0 =
      data[i]?.getD 0 ^^^ (if data.length - 16 ≤ i then last.toList[i - (data.length - 16)]?.getD 0 else 0) := by
  have hfront : (data.take (data.length - 16)).length = data.length - 16 := by
    rw [List.length_take]
    omega
  unfold Cmac.xorEnd
  by_cases hlt : i < data.length - 16
  · rw [if_neg (by omega), UInt8.xor_zero, List.getElem?_append_left (by omega), List.getElem?_take, if_pos hlt]
  · rw [if_pos (by omega), List.getElem?_append_right (by omega), hfront]
    by_cases hend : i < data.length
    · have hj : i - (data.length - 16) < 16 := by omega
      rw [getD_toList _ _ hj, getD_toList _ _ hj, getElem_xor, getElem_ofBytes, List.getElem?_drop,
        show data.length - 16 + (i - (data.length - 16)) = i by omega]
    · rw [List.getElem?_eq_none (by rw [Vector.length_toList]; omega), List.getElem?_eq_none (by omega),
        List.getElem?_eq_none (by rw [Vector.length_toList]; omega)]
      rfl

theorem xorByte_xorByte (block : Block) (i : Nat) (a b : UInt8) :
    xorByte (xorByte block i a) i b = xorByte block i (a ^^^ b) := by
  ext j hj
  rw [getElem_xorByte, getElem_xorByte, getElem_xorByte]
  by_cases h : i = j
  · rw [if_pos h, if_pos h, if_pos h, UInt8.xor_assoc]
  · rw [if_neg h, if_neg h, if_neg h, UInt8.xor_zero, UInt8.xor_zero]

theorem xorBothLoop_eq : ∀ (last data : Bytes) (block : Block) (j : Nat),
    xorBothLoop block j last data = xorLoop block j (List.zipWith (· ^^^ ·) last data)
  | [], _, _, _ => rfl
  | _ :: _, [], _, _ => rfl
  | l :: last, d :: data, block, j => by
    unfold xorBothLoop
    rw [xorBothLoop_eq last data, xorByte_xorByte]
    rfl

theorem xorLoop_xor (x y : Block) (i : Nat) (bytes : Bytes) : xorLoop (xor x y) i bytes = xor x (xorLoop y i bytes) := by
  ext j hj
  rw [getElem_xorLoop _ _ _ _ hj, getElem_xor, getElem_xor, getElem_xorLoop _ _ _ _ hj, UInt8.xor_assoc]

/-- Blocks before the end stay as they are. -/
theorem blocksFrom_xorEnd {data : Bytes} (last : Block) {count : Nat} (h : 16 + 16 * count ≤ data.length) :
    Cmac.blocksFrom (Cmac.xorEnd data last) 0 count = Cmac.blocksFrom data 0 count := by
  refine List.map_congr_left fun i hi => ?_
  have hi := List.mem_range.1 hi
  ext j hj
  rw [getElem_ofBytes, getElem_ofBytes, List.getElem?_drop, List.getElem?_drop, getD_xorEnd last (by omega), if_neg (by omega),
    UInt8.xor_zero]

/-- The block that the end begins in. -/
theorem ofBytes_xorEnd {data : Bytes} (last : Block) {count r : Nat} (h : data.length = 16 + 16 * count + r) :
    ofBytes ((Cmac.xorEnd data last).drop (16 * count)) =
      xorLoop (ofBytes (data.drop (16 * count))) r (last.toList.take (16 - r)) := by
  ext j hj
  rw [getElem_xorLoop _ _ _ _ hj, getElem_ofBytes, getElem_ofBytes, List.getElem?_drop, List.getElem?_drop,
    getD_xorEnd last (by omega), show data.length - 16 = 16 * count + r by omega]
  by_cases hr : r ≤ j
  · rw [if_pos (by omega), if_pos hr, List.getElem?_take, if_pos (by omega),
      show 16 * count + j - (16 * count + r) = j - r by omega]
  · rw [if_neg (by omega), if_neg hr]

/-- The bytes behind that block. -/
theorem drop_xorEnd {data : Bytes} (last : Block) {count r : Nat} (hr : r < 16) (h : data.length = 16 + 16 * count + r) :
    (Cmac.xorEnd data last).drop (16 + 16 * count) =
      List.zipWith (· ^^^ ·) (last.toList.drop (16 - r)) (data.drop (16 + 16 * count)) := by
  have hlen : (Cmac.xorEnd data last).length = data.length := length_xorEnd last (by omega)
  apply List.ext_getElem
  · rw [List.length_drop, List.length_zipWith, List.length_drop, List.length_drop, Vector.length_toList, hlen]
    omega
  · intro j hj hj'
    rw [List.length_drop, hlen] at hj
    have hlong : 16 ≤ data.length := by omega
    have hbyte := getD_xorEnd last hlong (16 + 16 * count + j)
    rw [if_pos (by omega), List.getElem?_eq_getElem (by omega), List.getElem?_eq_getElem (by omega),
      List.getElem?_eq_getElem (by rw [Vector.length_toList]; omega)] at hbyte
    rw [List.getElem_drop, List.getElem_zipWith, List.getElem_drop, List.getElem_drop, UInt8.xor_comm]
    refine hbyte.trans ?_
    simp only [Option.getD_some, show 16 + 16 * count + j - (data.length - 16) = 16 - r + j by omega]

section
variable (s : AesSiv)

theorem cmacLongLoop_eq {data : Bytes} {idx count r : Nat} (hr : r < 16) (h : data.length = idx + 16 * count + r)
    (block : Block) : s.cmacLongLoop data idx block =
      ((Cmac.blocksFrom data idx count).foldl (fun block next => xor (s.encryptBlock block) next) block, idx + 16 * count) := by
  induction count generalizing idx block with
  | zero =>
    rw [cmacLongLoop, if_neg (by unfold kBlockSize; omega)]
    rfl
  | succ count ih =>
    rw [cmacLongLoop, if_pos (by unfold kBlockSize; omega), ih (by unfold kBlockSize; omega), xorBlock_eq, Cmac.blocksFrom_succ, List.foldl_cons,
      show idx + kBlockSize + 16 * count = idx + 16 * (count + 1) by unfold kBlockSize; omega]

/-- **The loop has the chain before the last whole block**, and that block. -/
theorem foldl_chain (data : Bytes) (block : Block) (idx count : Nat) :
    (Cmac.blocksFrom data (idx + 16) count).foldl (fun block next => xor (s.encryptBlock block) next)
        (xor block (ofBytes (data.drop idx))) =
      xor (Cmac.chain s.encryptBlock block (Cmac.blocksFrom data idx count)) (ofBytes (data.drop (idx + 16 * count))) := by
  induction count generalizing idx block with
  | zero => rfl
  | succ count ih =>
    rw [Cmac.blocksFrom_succ, List.foldl_cons, ih, Cmac.blocksFrom_succ, Cmac.chain_cons,
      show idx + 16 + 16 * count = idx + 16 * (count + 1) by omega]

/-- **`CmacLong` is the CMAC of the message with the block in its end.** -/
theorem cmacLong_eq {data : Bytes} (h : 16 ≤ data.length) (last : Block) :
    s.cmacLong data last = s.cmac (Cmac.xorEnd data last) := by
  obtain ⟨count, r, hr, hlen⟩ : ∃ count r, r < 16 ∧ data.length = 16 + 16 * count + r :=
    ⟨(data.length - 16) / 16, (data.length - 16) % 16, by omega, by omega⟩
  have hfold := foldl_chain s data zero 0 count
  rw [Nat.zero_add, Nat.zero_add, zero_xor, List.drop_zero] at hfold
  have hend := length_xorEnd last h
  unfold cmacLong
  rw [cmac_eq, cmacLongLoop_eq s hr hlen]
  dsimp only
  rw [hfold, show data.length - (kBlockSize + 16 * count) = r by unfold kBlockSize; omega, xorLoop_xor,
    ← ofBytes_xorEnd last hlen]
  by_cases hzero : r = 0
  · subst hzero
    have hlast : Cmac.lastBlock s.encryptBlock ((Cmac.xorEnd data last).drop (16 * count)) =
        xor (ofBytes ((Cmac.xorEnd data last).drop (16 * count))) (Cmac.subkey1 s.encryptBlock) :=
      if_pos (by rw [List.length_drop]; omega)
    rw [if_pos rfl, Cmac.cmac_blocksFrom s.encryptBlock count (by omega) (by omega), hlast, blocksFrom_xorEnd last (by omega),
      xorBlock_eq, computeCmacK1_eq, Blocks.xor_assoc]
  · have hrest : ((Cmac.xorEnd data last).drop (16 + 16 * count)).length = r := by
      rw [List.length_drop]
      omega
    have hlast : Cmac.lastBlock s.encryptBlock ((Cmac.xorEnd data last).drop (16 + 16 * count)) =
        xor (ofBytes ((Cmac.xorEnd data last).drop (16 + 16 * count) ++ [0x80])) (Cmac.subkey2 s.encryptBlock) :=
      if_neg (by omega)
    have hbehind := xorByte_behind (s.encryptBlock (xor (Cmac.chain s.encryptBlock zero (Cmac.blocksFrom data 0 count))
      (ofBytes ((Cmac.xorEnd data last).drop (16 * count))))) ((Cmac.xorEnd data last).drop (16 + 16 * count)) 0x80
    rw [hrest] at hbehind
    rw [if_neg hzero, Cmac.cmac_blocksFrom s.encryptBlock (count + 1) (by omega) (by omega), Cmac.blocksFrom_concat,
      blocksFrom_xorEnd last (by omega), Cmac.chain_append, xorBothLoop_eq, ← drop_xorEnd last hr hlen, xorLoop_zero, hbehind,
      xorBlock_eq, computeCmacK2_eq, Blocks.xor_assoc, show 16 * (count + 1) = 16 + 16 * count by omega, hlast, Nat.zero_add]
    rfl

end

/-! ## SIV -/

section
variable (s : AesSiv)

/-- **`S2v` is S2V of the associated data and the message.** -/
theorem s2v_eq (aad msg : Bytes) : s.s2v aad msg = Cmac.s2v s.encryptBlock [aad, msg] := by
  unfold s2v Cmac.s2v Cmac.s2vFrom Cmac.s2vFrom Cmac.s2vLast
  dsimp only
  rw [multiplyByX_eq, xorBlock_eq, cmac_eq, cmac_eq]
  by_cases hlong : kBlockSize ≤ msg.length
  · rw [if_pos hlong, if_pos hlong, cmacLong_eq s hlong, cmac_eq]
  · rw [if_neg hlong, if_neg hlong, multiplyByX_eq, xorLoop_zero, xorByte_behind, cmac_eq]

/-- The two bits that are cleared. -/
theorem testBit_clear (byte : UInt8) {t : Nat} (ht : t < 8) :
    (byte &&& 0x7f).toNat.testBit t = (byte.toNat.testBit t && decide (t ≠ 7)) := by
  have hmask : (0x7f : Nat) = 2 ^ 7 - 1 := rfl
  rw [UInt8.toNat_and, show (0x7f : UInt8).toNat = 0x7f from rfl, Nat.testBit_and, hmask, Nat.testBit_two_pow_sub_one]
  congr 1
  exact decide_eq_decide.2 (by omega)

theorem testBit_mask : ∀ k < 128, (0xffffffffffffffff7fffffff7fffffff : Nat).testBit k = decide (k ≠ 31 ∧ k ≠ 63) := by
  decide

theorem counter_eq (siv : Block) :
    (siv.set 8 (siv[8] &&& 0x7f)).set 12 ((siv.set 8 (siv[8] &&& 0x7f))[12] &&& 0x7f) = Cmac.sivCounter siv := by
  refine ext_bit fun k hk => ?_
  have hlt : number siv &&& 0xffffffffffffffff7fffffff7fffffff < 2 ^ 128 := Nat.and_lt_two_pow _ (by decide)
  have hmod : k % 8 < 8 := Nat.mod_lt _ (by omega)
  have hsiv : (number siv).testBit k = siv[15 - k / 8].toNat.testBit (k % 8) := bit_eq siv hk
  unfold Cmac.sivCounter
  rw [bit_ofNumber hlt, Nat.testBit_and, hsiv, testBit_mask k hk, bit_eq _ hk]
  simp only [Vector.getElem_set]
  by_cases h12 : 12 = 15 - k / 8
  · simp only [← h12, if_true, show ¬ (8 = 12) by decide, if_false]
    rw [testBit_clear _ hmod]
    congr 1
    exact decide_eq_decide.2 (by omega)
  · rw [if_neg h12]
    by_cases h8 : 8 = 15 - k / 8
    · simp only [← h8, if_true]
      rw [testBit_clear _ hmod]
      congr 1
      exact decide_eq_decide.2 (by omega)
    · rw [if_neg h8, decide_eq_true (by omega), Bool.and_true]

theorem aesCtrCrypt_eq (input : Bytes) (siv : Block) :
    s.aesCtrCrypt input siv input.length = .ok (s.k2.crypt (Cmac.sivCounter siv) input) := by
  unfold aesCtrCrypt aesCtr128Crypt
  dsimp only
  rw [counter_eq, if_neg (Nat.lt_irrefl _)]

theorem encryptDeterministically_eq (plaintext associatedData : Bytes) :
    s.encryptDeterministically plaintext associatedData =
      .ok (Cmac.sivEncrypt s.encryptBlock s.k2 associatedData plaintext) := by
  unfold encryptDeterministically
  dsimp only
  rw [aesCtrCrypt_eq, s2v_eq]
  rfl

/-- **What is decrypted**, and when. -/
theorem decryptDeterministically_iff (ciphertext associatedData plaintext : Bytes) :
    s.decryptDeterministically ciphertext associatedData = .ok plaintext ↔
      16 ≤ ciphertext.length ∧ plaintext = s.k2.crypt (Cmac.sivCounter (ofBytes ciphertext)) (ciphertext.drop 16) ∧
        ciphertext.take 16 = (Cmac.s2v s.encryptBlock [associatedData, plaintext]).toList := by
  unfold decryptDeterministically
  by_cases hshort : ciphertext.length < 16
  · rw [if_pos hshort]
    exact iff_of_false (fun h => by cases h) (fun h => absurd hshort (not_lt.2 h.1))
  · have hlong := not_lt.1 hshort
    have hcrypt := aesCtrCrypt_eq s (ciphertext.drop 16) (ofBytes ciphertext)
    rw [List.length_drop] at hcrypt
    rw [if_neg hshort]
    dsimp only
    rw [hcrypt, ← toList_ofBytes_of_le hlong]
    generalize s.k2.crypt (Cmac.sivCounter (ofBytes ciphertext)) (ciphertext.drop 16) = decrypted
    simp only [bind, Except.bind, s2v_eq]
    by_cases hsiv : ofBytes ciphertext = Cmac.s2v s.encryptBlock [associatedData, decrypted]
    · rw [if_neg (not_not.2 hsiv)]
      constructor
      · intro h
        obtain rfl : decrypted = plaintext := Except.ok.inj h
        exact ⟨hlong, rfl, congrArg Vector.toList hsiv⟩
      · rintro ⟨-, rfl, -⟩
        rfl
    · rw [if_pos hsiv]
      refine iff_of_false (fun h => by cases h) ?_
      rintro ⟨-, rfl, htag⟩
      exact hsiv (toList_injective htag)

/-- What was encrypted is decrypted. -/
theorem decrypt_sivEncrypt (plaintext associatedData : Bytes) :
    s.decryptDeterministically (Cmac.sivEncrypt s.encryptBlock s.k2 associatedData plaintext) associatedData =
      .ok plaintext := by
  refine (decryptDeterministically_iff s _ _ _).2 ?_
  unfold Cmac.sivEncrypt
  dsimp only
  rw [ofBytes_toList_append, List.drop_left' Vector.length_toList, List.take_left' Vector.length_toList, s.k2.crypt_crypt]
  refine ⟨?_, rfl, rfl⟩
  rw [List.length_append, Vector.length_toList]
  omega

/-- **AES-SIV is RFC 5297** for every block function: its CMAC and S2V, its encryption, and a decryption that accepts a
ciphertext exactly when it begins with S2V of what the rest decrypts to. -/
theorem aesSiv_rfc5297 :
    s.computeCmacK1 = double (s.encryptBlock zero) ∧ s.computeCmacK2 = double s.computeCmacK1 ∧
    (∀ data, s.cmac data = Cmac.cmac s.encryptBlock data) ∧
    (∀ data last, 16 ≤ data.length → s.cmacLong data last = s.cmac (Cmac.xorEnd data last)) ∧
    (∀ aad msg, s.s2v aad msg = Cmac.s2v s.encryptBlock [aad, msg]) ∧
    (∀ plaintext associatedData, ∃ ciphertext,
      s.encryptDeterministically plaintext associatedData = .ok ciphertext ∧
      ciphertext = Cmac.sivEncrypt s.encryptBlock s.k2 associatedData plaintext ∧
      s.decryptDeterministically ciphertext associatedData = .ok plaintext) ∧
    ∀ ciphertext associatedData, (∃ plaintext, s.decryptDeterministically ciphertext associatedData = .ok plaintext) ↔
      16 ≤ ciphertext.length ∧ ciphertext.take 16 = (s.s2v associatedData
        (s.k2.crypt (Cmac.sivCounter (ofBytes ciphertext)) (ciphertext.drop 16))).toList := by
  refine ⟨multiplyByX_eq _, multiplyByX_eq _, cmac_eq s, fun data last h => cmacLong_eq s h last, s2v_eq s,
    fun plaintext associatedData => ⟨_, encryptDeterministically_eq s plaintext associatedData, rfl,
      decrypt_sivEncrypt s plaintext associatedData⟩, fun ciphertext associatedData => ?_⟩
  simp only [decryptDeterministically_iff, s2v_eq]
  constructor
  · rintro ⟨plaintext, hlong, rfl, htag⟩
    exact ⟨hlong, htag⟩
  · rintro ⟨hlong, htag⟩
    exact ⟨_, hlong, rfl, htag⟩

end

/-- A block function that turns the bytes around, and its counter mode. -/
def reversing : AesSiv := ⟨Vector.reverse, Cmac.counterMode Vector.reverse⟩

/-- A message of a block and one byte. -/
theorem aesSiv_rfc5297_reversing :
    reversing.cmacLong (List.replicate 17 1) (ofNumber 2) = reversing.cmac (List.replicate 16 1 ++ [3]) := by
  have hlong : 16 ≤ (List.replicate 17 (1 : UInt8)).length := by decide
  have hend : Cmac.xorEnd (List.replicate 17 1) (ofNumber 2) = List.replicate 16 1 ++ [3] := by decide +kernel
  rw [(aesSiv_rfc5297 reversing).2.2.2.1 _ (ofNumber 2) hlong, hend]

end AesSiv

end Tink
