import TinkCc.LibBlocks
/-!
# LibCmac — CMAC, S2V and counter mode over a block function

CMAC is the CBC chain over the blocks of the data, the last of which is changed with a subkey: one for a whole block, one
for a block that was padded.  S2V and the OMAC of EAX are made of it.
-/
namespace Cmac

open Blocks

/-- Some blocks of the data. -/
def blocksFrom (data : List UInt8) (idx count : Nat) : List Block :=
  (List.range count).map fun i => ofBytes (data.drop (idx + 16 * i))

theorem blocksFrom_succ (data : List UInt8) (idx count : Nat) :
    blocksFrom data idx (count + 1) = ofBytes (data.drop idx) :: blocksFrom data (idx + 16) count := by
  unfold blocksFrom
  rw [List.range_succ_eq_map, List.map_cons, List.map_map]
  refine congrArg _ (List.map_congr_left fun i _ => ?_)
  show ofBytes (data.drop (idx + 16 * (i + 1))) = ofBytes (data.drop (idx + 16 + 16 * i))
  rw [show idx + 16 * (i + 1) = idx + 16 + 16 * i by omega]

theorem blocksFrom_concat (data : List UInt8) (idx count : Nat) :
    blocksFrom data idx (count + 1) = blocksFrom data idx count ++ [ofBytes (data.drop (idx + 16 * count))] := by
  unfold blocksFrom
  rw [List.range_succ, List.map_append]
  rfl

section
variable (E : Block → Block)

def subkey1 : Block := double (E zero)
def subkey2 : Block := double (subkey1 E)

/-- The CBC chain from a block on. -/
def chain (block : Block) (blocks : List Block) : Block := blocks.foldl (fun block next => E (xor block next)) block

/-- The number of blocks, of which there is always one. -/
def blockCount (data : List UInt8) : Nat := max 1 ((data.length + 15) / 16)

/-- The last block: a whole one, or one with a bit and zeros behind it. -/
def lastBlock (rest : List UInt8) : Block :=
  if rest.length = 16 then xor (ofBytes rest) (subkey1 E) else xor (ofBytes (rest ++ [0x80])) (subkey2 E)

def blocks (data : List UInt8) : List Block :=
  (List.range (blockCount data - 1)).map (fun i => ofBytes (data.drop (16 * i))) ++
    [lastBlock E (data.drop (16 * (blockCount data - 1)))]

/-- **CMAC.** -/
def cmac (data : List UInt8) : Block := chain E zero (blocks E data)

theorem chain_cons (block next : Block) (rest : List Block) :
    chain E block (next :: rest) = chain E (E (xor block next)) rest := rfl

theorem chain_append (block : Block) (front rest : List Block) :
    chain E block (front ++ rest) = chain E (chain E block front) rest := List.foldl_append

theorem blocks_of_le {data : List UInt8} (h : data.length ≤ 16) : blocks E data = [lastBlock E data] := by
  have hcount : blockCount data = 1 := by
    unfold blockCount
    omega
  unfold blocks
  rw [hcount]
  rfl

theorem blocks_of_lt {data : List UInt8} (h : 16 < data.length) :
    blocks E data = ofBytes data :: blocks E (data.drop 16) := by
  have hcount : blockCount data - 1 = blockCount (data.drop 16) - 1 + 1 := by
    unfold blockCount
    rw [List.length_drop]
    omega
  have hdrop : ∀ i, data.drop (16 * (i + 1)) = (data.drop 16).drop (16 * i) := by
    intro i
    rw [List.drop_drop, Nat.mul_add, Nat.mul_one, Nat.add_comm]
  unfold blocks
  rw [hcount, List.range_succ_eq_map, List.map_cons, List.map_map, hdrop]
  simp only [Function.comp_def, Nat.succ_eq_add_one, hdrop]
  rfl

theorem blocks_eq {data : List UInt8} (count : Nat) (h : 16 * count < data.length) (hle : data.length ≤ 16 * count + 16) :
    blocks E data = blocksFrom data 0 count ++ [lastBlock E (data.drop (16 * count))] := by
  have hcount : blockCount data - 1 = count := by
    unfold blockCount
    omega
  unfold blocks blocksFrom
  rw [hcount]
  simp only [Nat.zero_add]

theorem cmac_blocksFrom {data : List UInt8} (count : Nat) (h : 16 * count < data.length)
    (hle : data.length ≤ 16 * count + 16) :
    cmac E data = E (xor (chain E zero (blocksFrom data 0 count)) (lastBlock E (data.drop (16 * count)))) := by
  unfold cmac
  rw [blocks_eq E count h hle, chain_append]
  rfl

/-- CMAC of a block and more. -/
theorem cmac_block_append (block : Block) {data : List UInt8} (h : data ≠ []) :
    cmac E (block.toList ++ data) = chain E (E block) (blocks E data) := by
  have hlen : 16 < (block.toList ++ data).length := by
    rw [List.length_append, Vector.length_toList]
    have := List.length_pos_iff.2 h
    omega
  unfold cmac
  rw [blocks_of_lt E hlen, chain_cons, zero_xor, ofBytes_toList_append, List.drop_left' Vector.length_toList]

/-! ## S2V -/

/-- `xorend`: a block xored into the last 16 bytes. -/
def xorEnd (data : List UInt8) (last : Block) : List UInt8 :=
  data.take (data.length - 16) ++ (xor (ofBytes (data.drop (data.length - 16))) last).toList

/-- The end of S2V, at the last string. -/
def s2vLast (block : Block) (last : List UInt8) : Block :=
  if 16 ≤ last.length then cmac E (xorEnd last block)
  else cmac E (xor (double block) (ofBytes (last ++ [0x80]))).toList

def s2vFrom (block : Block) : List UInt8 → List (List UInt8) → Block
  | last, [] => s2vLast E block last
  | string, next :: rest => s2vFrom (xor (double block) (cmac E string)) next rest

/-- **S2V** of some strings. -/
def s2v : List (List UInt8) → Block
  | [] => cmac E (ofNumber 1).toList
  | string :: rest => s2vFrom E (cmac E zero.toList) string rest

/-- The counter that SIV starts with: S2V without the highest bits of its last two words. -/
def sivCounter (v : Block) : Block := ofNumber (number v &&& 0xffffffffffffffff7fffffff7fffffff)

/-! ## OMAC -/

/-- **The OMAC of EAX** with a number in the first block. -/
def omac (t : Nat) (data : List UInt8) : Block := cmac E ((ofNumber t).toList ++ data)

end

/-! ## Counter mode and SIV -/

/-- A cipher by a stream of bytes that the first counter determines. -/
structure CtrMode where
  crypt        : Block → List UInt8 → List UInt8
  length_crypt : ∀ iv data, (crypt iv data).length = data.length
  crypt_crypt  : ∀ iv data, crypt iv (crypt iv data) = data

/-- **SIV encryption** with the vector of the associated data and the plaintext. -/
def sivEncrypt (E : Block → Block) (mode : CtrMode) (associatedData plaintext : List UInt8) : List UInt8 :=
  let v := s2v E [associatedData, plaintext]
  v.toList ++ mode.crypt (sivCounter v) plaintext

/-- The stream for so many bytes. -/
def keystream (E : Block → Block) (iv : Block) (size : Nat) : List UInt8 :=
  ((BigEndian.counter iv.toList (size / 16 + 1)).flatMap fun block => (E (ofBytes block)).toList).take size

theorem length_keystream (E : Block → Block) (iv : Block) (size : Nat) : (keystream E iv size).length = size := by
  have hblocks : ∀ counters : List (List UInt8),
      (counters.flatMap fun block => (E (ofBytes block)).toList).length = 16 * counters.length := by
    intro counters
    induction counters with
    | nil => rfl
    | cons block counters ih =>
      rw [List.flatMap_cons, List.length_append, ih, Vector.length_toList, List.length_cons]
      omega
  unfold keystream
  rw [List.length_take, hblocks]
  unfold BigEndian.counter
  rw [List.length_iterate]
  omega

/-- **Counter mode of a block function.** -/
def counterMode (E : Block → Block) : CtrMode where
  crypt iv data := List.zipWith (· ^^^ ·) data (keystream E iv data.length)
  length_crypt iv data := by rw [List.length_zipWith, length_keystream, Nat.min_self]
  crypt_crypt iv data := by
    have hlen : (List.zipWith (· ^^^ ·) data (keystream E iv data.length)).length = data.length := by
      rw [List.length_zipWith, length_keystream, Nat.min_self]
    apply List.ext_getElem
    · rw [List.length_zipWith, length_keystream, hlen, Nat.min_self]
    · intro i hi hi'
      simp only [List.getElem_zipWith, hlen, UInt8.xor_assoc, UInt8.xor_self, UInt8.xor_zero]

end Cmac
