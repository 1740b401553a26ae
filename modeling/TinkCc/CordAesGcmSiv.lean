import Mathlib.Data.List.SplitLengths
import TinkCc.CordAesGcm
/-!
# CordAesGcmSiv — AES-GCM-SIV on cords

`aead/internal/cord_aes_gcm_siv_boringssl.cc`.  `BuildIoVecs` walks over the chunks of the input and the output buffers at
once and cuts where either ends.  An output is the addresses that are written, each a buffer and a place in it; what is in
a buffer after the call is read from the memory.
-/
namespace Tink

open Outcome

/-- A byte of a buffer: which buffer, and where in it. -/
abbrev Cell := Nat × Nat

/-- `CRYPTO_IOVEC`; its `len` is the length of both. -/
structure CryptoIovec where
  input  : Bytes
  output : List Cell

/-- An `EVP_AEAD_CTX`, the limit `CRYPTO_IOVEC_MAX` where it is defined, and `GetSslErrors()`.  `sealFlat` and `openFlat` are the
calls on flat strings, `sealv` and `openvDetached` those on pieces; `none` where they fail. -/
structure EvpAeadCtx where
  sealFlat       : (nonce plaintext associatedData : Bytes) → Option (Bytes × Bytes)
  openFlat       : (nonce ciphertext tag associatedData : Bytes) → Option Bytes
  sealv          : (inputs : List Bytes) → (nonce : Bytes) → (aad : List Bytes) → Option (List Bytes × Bytes)
  openvDetached  : (inputs : List Bytes) → (nonce tag : Bytes) → (aad : List Bytes) → Option (List Bytes)
  cryptoIovecMax : Option Nat
  sslErrors      : String

namespace EvpAeadCtx

/-- So many pieces are allowed. -/
def Within (ctx : EvpAeadCtx) (count : Nat) : Prop := ∀ limit, ctx.cryptoIovecMax = some limit → count ≤ limit

/-- **A call on pieces is the call on what they are together**, with each output as long as its input. -/
structure Consecutive (ctx : EvpAeadCtx) : Prop where
  sealv       : ∀ inputs nonce aad, (∀ piece ∈ inputs, piece ≠ []) → (∀ piece ∈ aad, piece ≠ []) →
    ctx.Within inputs.length → ctx.Within aad.length →
    (ctx.sealv inputs nonce aad).map (fun (outputs, tag) => (outputs.flatten, tag)) =
      ctx.sealFlat nonce inputs.flatten aad.flatten
  sealv_shape : ∀ inputs nonce aad outputs tag, ctx.sealv inputs nonce aad = some (outputs, tag) →
    outputs.map List.length = inputs.map List.length
  openv       : ∀ inputs nonce tag aad, (∀ piece ∈ inputs, piece ≠ []) → (∀ piece ∈ aad, piece ≠ []) →
    ctx.Within inputs.length → ctx.Within aad.length →
    (ctx.openvDetached inputs nonce tag aad).map List.flatten = ctx.openFlat nonce inputs.flatten tag aad.flatten
  openv_shape : ∀ inputs nonce tag aad outputs, ctx.openvDetached inputs nonce tag aad = some outputs →
    outputs.map List.length = inputs.map List.length

end EvpAeadCtx

/-- The memory after `bytes` were written to `cells`. -/
def store : (Cell → UInt8) → List Cell → Bytes → Cell → UInt8
  | memory, cell :: cells, byte :: bytes => store (Function.update memory cell byte) cells bytes
  | memory, _, _ => memory

namespace CordAesGcmSiv

variable {ε : Type}

def kIvSizeInBytes : Nat := 12

def kTagSizeInBytes : Nat := 16

/-! ## The code -/

/-- `ValidateMaxBuffers`, with the `size_t` it is called with; its argument is an `int`. -/
def validateMaxBuffers (ctx : EvpAeadCtx) (numBuffers : Nat) : Except Status Unit :=
  match ctx.cryptoIovecMax with
  | none => .ok ()
  | some limit =>
    if limit < Narrow.toInt numBuffers then .error ⟨.internal, "Too many iovecs, exceeding CRYPTO_IOVEC_MAX"⟩ else .ok ()

/-- A turn of the loop of `AllocateCordBuffers`: the bytes that remain, and the buffers. -/
def allocateStep (allocator : Allocator) : Nat × List (List Cell) → Outcome ε (Nat × List (List Cell))
  | (remaining, buffers) =>
    let toUse := min remaining (allocator.memory buffers.length).length
    returns (remaining - toUse, buffers ++ [(List.range toUse).map (buffers.length, ·)])

/-- `AllocateCordBuffers`; a buffer is its bytes' addresses. -/
def allocateCordBuffers (allocator : Allocator) (totalSize : Nat) : Outcome ε (List (List Cell)) := do
  let (_, buffers) ← loop Prod.fst (0 < ·.1) (allocateStep allocator) (totalSize, [])
  return buffers

def buildAadVecs (aad : Cord) : List Bytes := aad.chunks.filter (· ≠ [])

/-- An iterator over pieces, as the pieces from it on, and what is left of the current one. -/
structure Cursor (α : Type) where
  pieces : List (List α)
  curr   : List α

namespace Cursor

variable {α : Type}

/-- The next piece, if there is one, becomes the current one. -/
def next (c : Cursor α) : Cursor α := ⟨c.pieces.tail, c.pieces.tail.headD c.curr⟩

def removePrefix (c : Cursor α) (n : Nat) : Cursor α := { c with curr := c.curr.drop n }

/-- What has not been walked over. -/
def left (c : Cursor α) : List α := c.curr ++ c.pieces.tail.flatten

end Cursor

/-- What `BuildIoVecs` walks over, and the pieces so far. -/
structure Walk where
  input  : Cursor UInt8
  output : Cursor Cell
  iovecs : List CryptoIovec

/-- Chunks and buffers to move on from, and bytes that are left. -/
def Walk.rank (s : Walk) : Nat := s.input.left.length + s.input.pieces.length + s.output.pieces.length

/-- A turn of the loop of `BuildIoVecs`. -/
def buildStep (s : Walk) : Outcome ε Walk :=
  if s.input.curr = [] then returns { s with input := s.input.next }
  else if s.output.curr = [] then returns { s with output := s.output.next }
  else
    let iovLen := min s.input.curr.length s.output.curr.length
    returns
      { input := s.input.removePrefix iovLen
        output := s.output.removePrefix iovLen
        iovecs := s.iovecs ++ [⟨s.input.curr.take iovLen, s.output.curr.take iovLen⟩] }

/-- `BuildIoVecs`, which looks at the first chunk if there is a buffer. -/
def buildIoVecs (input : Cord) (outputBuffers : List (List Cell)) : Outcome ε (List CryptoIovec) :=
  match outputBuffers, input.chunks with
  | [], _ => returns []
  | _ :: _, [] => checkFails
  | currOut :: _, currIn :: _ => do
    let walk ← loop Walk.rank (fun s => s.input.pieces ≠ [] ∧ s.output.pieces ≠ []) buildStep
      ⟨⟨input.chunks, currIn⟩, ⟨outputBuffers, currOut⟩, []⟩
    return walk.iovecs

/-- The memory after a call: every output is written where its piece says. -/
def written (memory : Cell → UInt8) (iovecs : List CryptoIovec) (outputs : List Bytes) : Cell → UInt8 :=
  (iovecs.zip outputs).foldl (fun memory (iovec, bytes) => store memory iovec.output bytes) memory

/-- A new buffer holds what the allocator left there. -/
def fresh (allocator : Allocator) : Cell → UInt8 := fun (buffer, i) => (allocator.memory buffer).getD i 0

end CordAesGcmSiv

/-- `CordAesGcmSivBoringSsl`. -/
structure CordAesGcmSivBoringSsl where
  ctx          : EvpAeadCtx
  outputPrefix : Bytes

namespace CordAesGcmSivBoringSsl

open CordAesGcmSiv

/-- The buffers of a call and its pieces. -/
def pieces {ε : Type} (allocator : Allocator) (input : Cord) : Outcome ε (List (List Cell) × List CryptoIovec) := do
  let buffers ← allocateCordBuffers allocator input.size
  let iovecs ← buildIoVecs input buffers
  return (buffers, iovecs)

/-- `Encrypt`, with the nonce that is drawn. -/
def encrypt (s : CordAesGcmSivBoringSsl) (allocator : Allocator) (nonce : RandomBytes kIvSizeInBytes)
    (plaintext associatedData : Cord) : Outcome Status Cord := do
  let (buffers, iovecs) ← pieces allocator plaintext
  let aadvecs := buildAadVecs associatedData
  ofExcept (validateMaxBuffers s.ctx iovecs.length)
  ofExcept (validateMaxBuffers s.ctx aadvecs.length)
  let (outputs, tag) ← ofExcept
    (required ⟨.internal, "Encryption failed: " ++ s.ctx.sslErrors⟩ (s.ctx.sealv (iovecs.map (·.input)) nonce.1 aadvecs))
  let memory := written (fresh allocator) iovecs outputs
  let ciphertext := Cord.ofChunks []
  let ciphertext := if s.outputPrefix ≠ [] then ciphertext.append s.outputPrefix else ciphertext
  let ciphertext := ciphertext.append nonce.1
  let ciphertext := buffers.foldl (fun ciphertext buffer => ciphertext.append (buffer.map memory)) ciphertext
  return ciphertext.append tag

/-- The ciphertext without the prefix, which is only removed if it is not empty. -/
def removeOutputPrefix (s : CordAesGcmSivBoringSsl) (ciphertext : Cord) : Outcome Status Cord :=
  if s.outputPrefix ≠ [] then ciphertext.removePrefix s.outputPrefix.length else returns ciphertext

/-- What `Decrypt` reads of a ciphertext: the nonce, the tag, and the cord between them. -/
def parse (s : CordAesGcmSivBoringSsl) (ciphertext : Cord) : Outcome Status (Bytes × Bytes × Cord) := do
  if ciphertext.size < s.outputPrefix.length + kIvSizeInBytes + kTagSizeInBytes then
    fails ⟨.invalidArgument, "Ciphertext too short"⟩
  else if s.outputPrefix ≠ [] ∧ !ciphertext.startsWith s.outputPrefix then
    fails ⟨.invalidArgument, "Ciphertext does not start with expected prefix"⟩
  else
    let ciphertext ← s.removeOutputPrefix ciphertext
    let nonce ← (CordReader.new ciphertext).readN kIvSizeInBytes
    let ciphertext ← ciphertext.removePrefix kIvSizeInBytes
    let tagCord := ciphertext.subcord (ciphertext.size - kTagSizeInBytes) kTagSizeInBytes
    let tag ← (CordReader.new tagCord).readN kTagSizeInBytes
    let ciphertext ← ciphertext.removeSuffix kTagSizeInBytes
    return (nonce, tag, ciphertext)

def decrypt (s : CordAesGcmSivBoringSsl) (allocator : Allocator) (ciphertext associatedData : Cord) :
    Outcome Status Cord := do
  let (nonce, tag, ciphertext) ← s.parse ciphertext
  let (buffers, iovecs) ← pieces allocator ciphertext
  let aadvecs := buildAadVecs associatedData
  ofExcept (validateMaxBuffers s.ctx iovecs.length)
  ofExcept (validateMaxBuffers s.ctx aadvecs.length)
  let outputs ← ofExcept (required ⟨.invalidArgument, "Decryption failed"⟩
    (s.ctx.openvDetached (iovecs.map (·.input)) nonce tag aadvecs))
  let memory := written (fresh allocator) iovecs outputs
  return buffers.foldl (fun plaintext buffer => plaintext.append (buffer.map memory)) (Cord.ofChunks [])

/-! ## On flat strings -/

/-- **AES-GCM-SIV of flat strings**: the prefix, the nonce, the encrypted text and the tag. -/
def flatEncrypt (s : CordAesGcmSivBoringSsl) (nonce plaintext associatedData : Bytes) : Except Status Bytes := do
  let (ciphertext, tag) ← required ⟨.internal, "Encryption failed: " ++ s.ctx.sslErrors⟩
    (s.ctx.sealFlat nonce plaintext associatedData)
  return s.outputPrefix ++ nonce ++ ciphertext ++ tag

def flatDecrypt (s : CordAesGcmSivBoringSsl) (ciphertext associatedData : Bytes) : Except Status Bytes :=
  if ciphertext.length < s.outputPrefix.length + kIvSizeInBytes + kTagSizeInBytes then
    .error ⟨.invalidArgument, "Ciphertext too short"⟩
  else if !s.outputPrefix.isPrefixOf ciphertext then
    .error ⟨.invalidArgument, "Ciphertext does not start with expected prefix"⟩
  else
    let body := ciphertext.drop s.outputPrefix.length
    let nonce := body.take kIvSizeInBytes
    let text := (body.drop kIvSizeInBytes).take (body.length - kIvSizeInBytes - kTagSizeInBytes)
    let tag := body.drop (body.length - kTagSizeInBytes)
    required ⟨.invalidArgument, "Decryption failed"⟩ (s.ctx.openFlat nonce text tag associatedData)

end CordAesGcmSivBoringSsl

/-! ## Cutting at two sets of places -/

namespace CordAesGcmSiv

namespace Cursor

variable {α : Type} {c : Cursor α}

/-- The pieces to come are not empty, and at the end there is nothing left. -/
structure Proper (c : Cursor α) : Prop where
  ne_nil : ∀ piece ∈ c.pieces.tail, piece ≠ []
  ended  : c.pieces = [] → c.curr = []

/-- How many pieces there still are. -/
def turns (c : Cursor α) : Nat := (if c.curr = [] then 0 else 1) + c.pieces.tail.length

theorem left_next (h : c.curr = []) : c.next.left = c.left := by
  unfold left next
  cases c.pieces.tail <;> simp [h]

theorem turns_next (hc : c.Proper) (h : c.curr = []) : c.next.turns = c.turns := by
  have hne := hc.ne_nil
  unfold turns next
  cases htail : c.pieces.tail with
  | nil => simp [h]
  | cons piece pieces =>
    have hpiece : piece ≠ [] := hne piece (by simp [htail])
    simp [h, hpiece, Nat.add_comm]

theorem Proper.next (hc : c.Proper) (h : c.curr = []) : c.next.Proper where
  ne_nil := fun piece hpiece => hc.ne_nil piece (List.mem_of_mem_tail hpiece)
  ended := by
    intro hend
    have htail : c.pieces.tail = [] := hend
    simp [Cursor.next, htail, h]

theorem length_next (h : c.pieces ≠ []) : c.next.pieces.length < c.pieces.length := by
  have hpos := List.length_pos_iff.2 h
  simp only [next, List.length_tail]
  omega

theorem take_append_left (c : Cursor α) (n : Nat) : c.curr.take n ++ (c.removePrefix n).left = c.left := by
  unfold left removePrefix
  rw [← List.append_assoc, List.take_append_drop]

theorem Proper.removePrefix (hc : c.Proper) (n : Nat) : (c.removePrefix n).Proper where
  ne_nil := hc.ne_nil
  ended := by
    intro hend
    simp [Cursor.removePrefix, hc.ended hend]

theorem turns_removePrefix_le (n : Nat) : (c.removePrefix n).turns ≤ c.turns := by
  unfold turns removePrefix
  by_cases h : c.curr = []
  · simp [h]
  · simp only [if_neg h]
    split <;> omega

theorem turns_removePrefix_length (h : c.curr ≠ []) : (c.removePrefix c.curr.length).turns + 1 = c.turns := by
  simp [turns, removePrefix, h, Nat.add_comm]

/-- Pieces are what is left. -/
theorem turns_eq_zero_iff (hc : c.Proper) : c.turns = 0 ↔ c.left = [] := by
  unfold turns left
  rw [List.append_eq_nil_iff, List.flatten_eq_nil_iff, Nat.add_eq_zero_iff, List.length_eq_zero_iff]
  constructor
  · rintro ⟨hcurr, htail⟩
    refine ⟨by simpa using hcurr, ?_⟩
    simp [htail]
  · rintro ⟨hcurr, hnil⟩
    refine ⟨by simp [hcurr], List.eq_nil_iff_forall_not_mem.2 fun piece hpiece => ?_⟩
    exact hc.ne_nil piece hpiece (hnil piece hpiece)

end Cursor

/-- **What the loop of `BuildIoVecs` keeps**: the pieces and what is left are the input and the buffers, and there are no
more pieces than ends that were met, where the last two ends are met at once. -/
structure Walk.Keeps (input : Bytes) (cells : List Cell) (bound : Nat) (s : Walk) : Prop where
  inputs    : (s.iovecs.map (·.input)).flatten ++ s.input.left = input
  outputs   : (s.iovecs.map (·.output)).flatten ++ s.output.left = cells
  pieces    : ∀ iovec ∈ s.iovecs, iovec.input ≠ [] ∧ iovec.output.length = iovec.input.length
  properIn  : s.input.Proper
  properOut : s.output.Proper
  length_eq : s.input.left.length = s.output.left.length
  count     : s.iovecs.length + s.input.turns + s.output.turns + (if s.input.left = [] then 1 else 0) ≤ bound

variable {input : Bytes} {cells : List Cell} {bound : Nat}

/-- What is cut off is as long on both sides. -/
theorem Walk.Keeps.length_removePrefix {s : Walk} {n : Nat} (h : s.Keeps input cells bound)
    (hn : n = min s.input.curr.length s.output.curr.length) :
    (s.input.removePrefix n).left.length + n = s.input.left.length ∧
      (s.input.removePrefix n).left.length = (s.output.removePrefix n).left.length := by
  have hinLength := congrArg List.length (s.input.take_append_left n)
  have houtLength := congrArg List.length (s.output.take_append_left n)
  simp only [List.length_append, List.length_take] at hinLength houtLength
  have hlength := h.length_eq
  omega

/-- The nearer end is met, so one of the two has a piece less. -/
theorem Walk.Keeps.count_removePrefix {s : Walk} {n : Nat} (h : s.Keeps input cells bound) (hin : s.input.curr ≠ [])
    (hout : s.output.curr ≠ []) (hn : n = min s.input.curr.length s.output.curr.length) :
    s.iovecs.length + 1 + (s.input.removePrefix n).turns + (s.output.removePrefix n).turns +
      (if (s.input.removePrefix n).left = [] then 1 else 0) ≤ bound := by
  have hinPos := List.length_pos_iff.2 hin
  have houtPos := List.length_pos_iff.2 hout
  obtain ⟨hless, hlength⟩ := h.length_removePrefix hn
  have hlengthEq := h.length_eq
  have hne : s.input.left ≠ [] := List.ne_nil_of_length_pos (by omega)
  have hinTurns := mt (Cursor.turns_eq_zero_iff h.properIn).1 hne
  have houtTurns := mt (Cursor.turns_eq_zero_iff h.properOut).1 (List.ne_nil_of_length_pos (by omega))
  have hcount := h.count
  rw [if_neg hne] at hcount
  by_cases hend : (s.input.removePrefix n).left = []
  · have hendOut : (s.output.removePrefix n).left = [] := by
      rw [hend, List.length_nil] at hlength
      exact List.eq_nil_of_length_eq_zero hlength.symm
    rw [if_pos hend, (Cursor.turns_eq_zero_iff (h.properIn.removePrefix n)).2 hend,
      (Cursor.turns_eq_zero_iff (h.properOut.removePrefix n)).2 hendOut]
    omega
  · rw [if_neg hend]
    have hinLe := Cursor.turns_removePrefix_le (c := s.input) n
    have houtLe := Cursor.turns_removePrefix_le (c := s.output) n
    rcases Nat.le_total s.input.curr.length s.output.curr.length with hle | hle
    · have hturn := Cursor.turns_removePrefix_length hin
      rw [← (hn.trans (Nat.min_eq_left hle))] at hturn
      omega
    · have hturn := Cursor.turns_removePrefix_length hout
      rw [← (hn.trans (Nat.min_eq_right hle))] at hturn
      omega

/-- A piece is cut off both, up to the nearer end. -/
theorem Walk.Keeps.cut {s : Walk} (h : s.Keeps input cells bound) (hin : s.input.curr ≠ []) (hout : s.output.curr ≠ []) :
    ∃ s', buildStep s = (returns s' : Outcome ε Walk) ∧ s'.Keeps input cells bound ∧ s'.rank < s.rank := by
  obtain ⟨n, hn⟩ : ∃ n, n = min s.input.curr.length s.output.curr.length := ⟨_, rfl⟩
  have hinPos := List.length_pos_iff.2 hin
  have houtPos := List.length_pos_iff.2 hout
  obtain ⟨hless, hlength⟩ := h.length_removePrefix hn
  have hcount := h.count_removePrefix hin hout hn
  have hbuild : buildStep s = (returns ⟨s.input.removePrefix n, s.output.removePrefix n,
      s.iovecs ++ [⟨s.input.curr.take n, s.output.curr.take n⟩]⟩ : Outcome ε Walk) := by
    rw [buildStep, if_neg hin, if_neg hout, hn]
  refine ⟨_, hbuild, ⟨?_, ?_, ?_, h.properIn.removePrefix n, h.properOut.removePrefix n, hlength, ?_⟩, ?_⟩
  · simp only [List.map_append, List.flatten_append, List.map_cons, List.map_nil, List.flatten_cons, List.flatten_nil,
      List.append_nil, List.append_assoc]
    rw [s.input.take_append_left n]
    exact h.inputs
  · simp only [List.map_append, List.flatten_append, List.map_cons, List.map_nil, List.flatten_cons, List.flatten_nil,
      List.append_nil, List.append_assoc]
    rw [s.output.take_append_left n]
    exact h.outputs
  · intro iovec hiovec
    rcases List.mem_append.1 hiovec with hold | hnew
    · exact h.pieces iovec hold
    · rw [List.mem_singleton.1 hnew]
      refine ⟨List.ne_nil_of_length_pos ?_, ?_⟩
      · simp only [List.length_take]
        omega
      · simp only [List.length_take]
        omega
  · rwa [List.length_append, List.length_singleton]
  · show (s.input.removePrefix n).left.length + s.input.pieces.length + s.output.pieces.length < s.rank
    unfold rank
    omega

theorem Walk.Keeps.step {s : Walk} (h : s.Keeps input cells bound) (hin : s.input.pieces ≠ []) (hout : s.output.pieces ≠ []) :
    ∃ s', buildStep s = (returns s' : Outcome ε Walk) ∧ s'.Keeps input cells bound ∧ s'.rank < s.rank := by
  by_cases hcurrIn : s.input.curr = []
  · have hleft := Cursor.left_next hcurrIn
    have hless := Cursor.length_next hin
    have hbuild : buildStep s = (returns { s with input := s.input.next } : Outcome ε Walk) := by
      rw [buildStep, if_pos hcurrIn]
    refine ⟨_, hbuild, ⟨?_, h.outputs, h.pieces,
      h.properIn.next hcurrIn, h.properOut, ?_, ?_⟩, ?_⟩
    · rw [hleft]
      exact h.inputs
    · rw [hleft]
      exact h.length_eq
    · rw [hleft, Cursor.turns_next h.properIn hcurrIn]
      exact h.count
    · simp only [rank]
      rw [hleft]
      omega
  by_cases hcurrOut : s.output.curr = []
  · have hleft := Cursor.left_next hcurrOut
    have hless := Cursor.length_next hout
    have hbuild : buildStep s = (returns { s with output := s.output.next } : Outcome ε Walk) := by
      rw [buildStep, if_neg hcurrIn, if_pos hcurrOut]
    refine ⟨_, hbuild, ⟨h.inputs, ?_, h.pieces, h.properIn,
      h.properOut.next hcurrOut, ?_, ?_⟩, ?_⟩
    · rw [hleft]
      exact h.outputs
    · rw [hleft]
      exact h.length_eq
    · rw [Cursor.turns_next h.properOut hcurrOut]
      exact h.count
    · simp only [rank]
      omega
  · exact h.cut hcurrIn hcurrOut

/-- **The pieces of an input and some buffers**: none is empty, and they are the input on one side and the buffers on the
other. -/
structure Tiles (input : Cord) (buffers : List (List Cell)) (iovecs : List CryptoIovec) : Prop where
  inputs  : (iovecs.map (·.input)).flatten = input.flatten
  outputs : (iovecs.map (·.output)).flatten = buffers.flatten
  pieces  : ∀ iovec ∈ iovecs, iovec.input ≠ [] ∧ iovec.output.length = iovec.input.length
  count   : input.flatten ≠ [] → iovecs.length < input.chunks.length + buffers.length

theorem Tiles.inputs_ne_nil {input : Cord} {buffers : List (List Cell)} {iovecs : List CryptoIovec}
    (h : Tiles input buffers iovecs) : ∀ piece ∈ iovecs.map (·.input), piece ≠ [] := by
  intro piece hpiece
  obtain ⟨iovec, hiovec, rfl⟩ := List.mem_map.1 hpiece
  exact (h.pieces iovec hiovec).1

/-- At the end of one side there is nothing left on either. -/
theorem Walk.Keeps.left_nil {s : Walk} (h : s.Keeps input cells bound) (hend : s.input.pieces = [] ∨ s.output.pieces = []) :
    s.input.left = [] ∧ s.output.left = [] := by
  have hlength := h.length_eq
  rcases hend with hend | hend
  · have hleft : s.input.left = [] := by simp [Cursor.left, hend, h.properIn.ended hend]
    rw [hleft] at hlength
    exact ⟨hleft, List.eq_nil_of_length_eq_zero hlength.symm⟩
  · have hleft : s.output.left = [] := by simp [Cursor.left, hend, h.properOut.ended hend]
    rw [hleft] at hlength
    exact ⟨List.eq_nil_of_length_eq_zero hlength, hleft⟩

theorem Walk.keeps_begin {currIn : Bytes} {ins : List Bytes} {currOut : List Cell} {outs : List (List Cell)}
    (hin : ∀ chunk ∈ currIn :: ins, chunk ≠ []) (hout : ∀ buffer ∈ currOut :: outs, buffer ≠ [])
    (hlength : (currOut :: outs).flatten.length = (currIn :: ins).flatten.length) :
    Walk.Keeps (currIn :: ins).flatten (currOut :: outs).flatten ((currIn :: ins).length + (currOut :: outs).length)
      ⟨⟨currIn :: ins, currIn⟩, ⟨currOut :: outs, currOut⟩, []⟩ where
  inputs := rfl
  outputs := rfl
  pieces := by simp
  properIn := ⟨fun chunk hchunk => hin chunk (List.mem_cons_of_mem _ hchunk), by simp⟩
  properOut := ⟨fun buffer hbuffer => hout buffer (List.mem_cons_of_mem _ hbuffer), by simp⟩
  length_eq := hlength.symm
  count := by
    have hcurrIn : currIn ≠ [] := hin currIn List.mem_cons_self
    have hcurrOut : currOut ≠ [] := hout currOut List.mem_cons_self
    simp only [Cursor.turns, Cursor.left, if_neg hcurrOut, List.append_eq_nil_iff, hcurrIn, false_and, if_false,
      List.tail_cons, List.length_cons, List.length_nil]
    omega

/-- **`BuildIoVecs` ends**, where the buffers have room for just the input. -/
theorem buildIoVecs_tiles (input : Cord) {buffers : List (List Cell)} (hne : ∀ buffer ∈ buffers, buffer ≠ [])
    (hlength : buffers.flatten.length = input.size) :
    ∃ iovecs, buildIoVecs input buffers = (returns iovecs : Outcome ε (List CryptoIovec)) ∧ Tiles input buffers iovecs := by
  have hinputNe := input.ne_nil
  have hflatten : input.flatten = input.chunks.flatten := rfl
  unfold Cord.size at hlength
  cases hbuffers : buffers with
  | nil =>
    rw [hbuffers] at hlength
    have hempty : input.flatten = [] := List.eq_nil_of_length_eq_zero hlength.symm
    exact ⟨[], rfl, hempty.symm, rfl, by simp, fun h => (h hempty).elim⟩
  | cons currOut outs =>
    rw [hbuffers] at hne hlength
    cases hchunks : input.chunks with
    | nil =>
      have hcurr := List.length_pos_iff.2 (hne currOut List.mem_cons_self)
      simp only [hflatten, hchunks, List.flatten_cons, List.length_append, List.flatten_nil, List.length_nil] at hlength
      omega
    | cons currIn ins =>
      rw [hflatten, hchunks] at hlength
      rw [hchunks] at hinputNe
      have hstep : ∀ s : Walk, s.Keeps (currIn :: ins).flatten (currOut :: outs).flatten
            ((currIn :: ins).length + (currOut :: outs).length) →
          decide (s.input.pieces ≠ [] ∧ s.output.pieces ≠ []) = true →
          ∃ s', buildStep s = (returns s' : Outcome ε Walk) ∧ s'.Keeps (currIn :: ins).flatten (currOut :: outs).flatten
            ((currIn :: ins).length + (currOut :: outs).length) ∧ s'.rank < s.rank := fun s hs hmore =>
        have hand := of_decide_eq_true hmore
        hs.step hand.1 hand.2
      obtain ⟨walk, hloop, hkeeps, hmore⟩ := loop_returns hstep _ (Walk.keeps_begin hinputNe hne hlength)
      have hend : walk.input.pieces = [] ∨ walk.output.pieces = [] := by
        have hnot := of_decide_eq_false hmore
        by_contra hneither
        exact hnot ⟨fun h => hneither (Or.inl h), fun h => hneither (Or.inr h)⟩
      obtain ⟨hleftIn, hleftOut⟩ := hkeeps.left_nil hend
      have hinputs := hkeeps.inputs
      have houtputs := hkeeps.outputs
      have hcount := hkeeps.count
      rw [hleftIn, List.append_nil] at hinputs
      rw [hleftOut, List.append_nil] at houtputs
      rw [if_pos hleftIn] at hcount
      refine ⟨walk.iovecs, ?_, ?_, houtputs, hkeeps.pieces, fun _ => ?_⟩
      · unfold buildIoVecs
        simp only [hchunks]
        rw [hloop]
        rfl
      · rw [hinputs, hflatten, hchunks]
      · rw [hchunks]
        omega

/-! ## The buffers -/

/-- **`AllocateCordBuffers` ends**: the buffers are not empty, share no byte, and have room for `totalSize` bytes. -/
theorem allocateCordBuffers_returns (allocator : Allocator) (totalSize : Nat) :
    ∃ buffers, allocateCordBuffers allocator totalSize = (returns buffers : Outcome ε (List (List Cell))) ∧
      (∀ buffer ∈ buffers, buffer ≠ []) ∧ buffers.flatten.length = totalSize ∧ buffers.flatten.Nodup := by
  let I : Nat × List (List Cell) → Prop := fun s => (∀ buffer ∈ s.2, buffer ≠ []) ∧ s.2.flatten.length + s.1 = totalSize ∧
    s.2.flatten.Nodup ∧ ∀ cell ∈ s.2.flatten, cell.1 < s.2.length
  have hstep : ∀ s, I s → decide (0 < s.1) = true →
      ∃ s', allocateStep allocator s = (returns s' : Outcome ε (Nat × List (List Cell))) ∧ I s' ∧ s'.1 < s.1 := by
    rintro ⟨remaining, buffers⟩ ⟨hne, hlength, hnodup, hnumber⟩ hmore
    have hpos : 0 < remaining := of_decide_eq_true hmore
    have hmemory := List.length_pos_iff.2 (allocator.ne_nil buffers.length)
    simp only at hne hlength hnodup hnumber
    obtain ⟨toUse, htoUse⟩ : ∃ n, n = min remaining (allocator.memory buffers.length).length := ⟨_, rfl⟩
    refine ⟨(remaining - toUse, buffers ++ [(List.range toUse).map (buffers.length, ·)]), by rw [allocateStep, htoUse],
      ⟨?_, ?_, ?_, ?_⟩, by simp only; omega⟩
    · intro buffer hbuffer
      rcases List.mem_append.1 hbuffer with hold | hnew
      · exact hne buffer hold
      · rw [List.mem_singleton.1 hnew]
        apply List.ne_nil_of_length_pos
        simp only [List.length_map, List.length_range]
        omega
    · simp only [List.flatten_append, List.flatten_singleton, List.length_append, List.length_map, List.length_range]
      omega
    · simp only [List.flatten_append, List.flatten_singleton]
      refine List.nodup_append.2 ⟨hnodup, List.nodup_range.map fun i j h => (Prod.mk.inj h).2, ?_⟩
      intro cell hcell new hnew heq
      obtain ⟨i, _, rfl⟩ := List.mem_map.1 hnew
      have hless := hnumber cell hcell
      rw [heq] at hless
      exact Nat.lt_irrefl _ hless
    · intro cell hcell
      rw [List.length_append, List.length_singleton]
      simp only [List.flatten_append, List.flatten_singleton] at hcell
      rcases List.mem_append.1 hcell with hold | hnew
      · exact Nat.lt_succ_of_lt (hnumber cell hold)
      · obtain ⟨i, _, rfl⟩ := List.mem_map.1 hnew
        exact Nat.lt_succ_self _
  have hinit : I (totalSize, []) := ⟨by simp, Nat.zero_add _, List.nodup_nil, by simp⟩
  obtain ⟨⟨remaining, buffers⟩, hloop, ⟨hne, hlength, hnodup, _⟩, hend⟩ := loop_returns hstep _ hinit
  have hzero : remaining = 0 := by simpa using hend
  subst hzero
  refine ⟨buffers, ?_, hne, hlength, hnodup⟩
  unfold allocateCordBuffers
  rw [hloop]
  rfl

end CordAesGcmSiv

/-! ## The memory -/

theorem store_of_not_mem {cell : Cell} : ∀ (memory : Cell → UInt8) (cells : List Cell) (bytes : Bytes), cell ∉ cells →
    store memory cells bytes cell = memory cell
  | _, [], _, _ => by simp [store]
  | _, _ :: _, [], _ => by simp [store]
  | memory, c :: cells, byte :: bytes, h => by
    rw [store, store_of_not_mem _ cells bytes fun hmem => h (List.mem_cons_of_mem _ hmem)]
    exact Function.update_of_ne (fun heq => h (List.mem_cons.2 (Or.inl heq))) _ _

/-- **What was stored is read back**, if no byte was written twice. -/
theorem map_store : ∀ (memory : Cell → UInt8) (cells : List Cell) (bytes : Bytes), cells.Nodup →
    cells.length = bytes.length → cells.map (store memory cells bytes) = bytes
  | _, [], [], _, _ => rfl
  | memory, cell :: cells, byte :: bytes, hnodup, hlength => by
    obtain ⟨hnot, htail⟩ := List.nodup_cons.1 hnodup
    rw [List.map_cons, store, store_of_not_mem _ _ _ hnot, Function.update_self,
      map_store _ cells bytes htail (Nat.succ.inj hlength)]

theorem store_append : ∀ (memory : Cell → UInt8) (cells cells' : List Cell) (bytes bytes' : Bytes),
    cells.length = bytes.length →
    store memory (cells ++ cells') (bytes ++ bytes') = store (store memory cells bytes) cells' bytes'
  | _, [], _, [], _, _ => rfl
  | memory, cell :: cells, cells', byte :: bytes, bytes', h => by
    rw [List.cons_append, List.cons_append, store, store, store_append _ cells cells' bytes bytes' (Nat.succ.inj h)]

namespace CordAesGcmSiv

theorem written_eq : ∀ (iovecs : List CryptoIovec) (outputs : List Bytes) (memory : Cell → UInt8),
    iovecs.map (·.output.length) = outputs.map List.length →
    written memory iovecs outputs = store memory (iovecs.map (·.output)).flatten outputs.flatten
  | [], [], _, _ => rfl
  | iovec :: iovecs, output :: outputs, memory, h => by
    obtain ⟨hhead, htail⟩ := List.cons.inj h
    rw [List.map_cons, List.flatten_cons, List.flatten_cons, store_append _ _ _ _ _ hhead, ← written_eq iovecs outputs _ htail]
    rfl

/-- **The buffers hold the outputs** of the pieces. -/
theorem flatten_buffers {input : Cord} {buffers : List (List Cell)} {iovecs : List CryptoIovec} {outputs : List Bytes}
    (htiles : Tiles input buffers iovecs) (hnodup : buffers.flatten.Nodup) (memory : Cell → UInt8)
    (hshape : outputs.map List.length = (iovecs.map (·.input)).map List.length) (cord : Cord) :
    (buffers.foldl (fun cord buffer => cord.append (buffer.map (written memory iovecs outputs))) cord).flatten =
      cord.flatten ++ outputs.flatten := by
  have happend : ∀ (buffers : List (List Cell)) (memory : Cell → UInt8) (cord : Cord),
      (buffers.foldl (fun cord buffer => cord.append (buffer.map memory)) cord).flatten =
        cord.flatten ++ buffers.flatten.map memory := by
    intro buffers memory
    induction buffers with
    | nil => simp
    | cons buffer buffers ih =>
      intro cord
      rw [List.foldl_cons, ih, Cord.flatten_append, List.flatten_cons, List.map_append, List.append_assoc]
  have hlengths : iovecs.map (·.output.length) = outputs.map List.length := by
    rw [hshape, List.map_map]
    exact List.map_congr_left fun iovec hiovec => (htiles.pieces iovec hiovec).2
  have hlength : buffers.flatten.length = outputs.flatten.length := by
    rw [← htiles.outputs, List.length_flatten, List.length_flatten, ← hlengths, List.map_map]
    rfl
  rw [happend, written_eq _ _ _ hlengths, htiles.outputs, map_store _ _ _ hnodup hlength]

theorem validateMaxBuffers_within {ctx : EvpAeadCtx} {count : Nat} (h : ctx.Within count) :
    validateMaxBuffers ctx count = .ok () := by
  unfold validateMaxBuffers
  cases hlimit : ctx.cryptoIovecMax with
  | none => rfl
  | some limit =>
    have hle := h limit hlimit
    have hnarrow := Narrow.toInt_le_of_nonneg (Int.natCast_nonneg count)
    exact if_neg (by omega)

theorem buildAadVecs_eq (aad : Cord) : buildAadVecs aad = aad.chunks :=
  List.filter_eq_self.2 fun chunk hchunk => by simpa using aad.ne_nil chunk hchunk

end CordAesGcmSiv

/-! ## Encrypt and Decrypt -/

namespace CordAesGcmSivBoringSsl

open CordAesGcmSiv

theorem pieces_returns {ε : Type} (allocator : Allocator) (input : Cord) :
    ∃ buffers iovecs, pieces allocator input = (returns (buffers, iovecs) : Outcome ε _) ∧ Tiles input buffers iovecs ∧
      buffers.flatten.Nodup := by
  obtain ⟨buffers, hallocate, hne, hlength, hnodup⟩ := allocateCordBuffers_returns (ε := ε) allocator input.size
  obtain ⟨iovecs, hbuild, htiles⟩ := buildIoVecs_tiles (ε := ε) input hne hlength
  refine ⟨buffers, iovecs, ?_, htiles, hnodup⟩
  unfold pieces
  rw [hallocate, returns_bind, hbuild]
  rfl

/-- The pieces of this input are not too many. -/
def PiecesWithin (s : CordAesGcmSivBoringSsl) (allocator : Allocator) (input : Cord) : Prop :=
  ∀ buffers iovecs, pieces allocator input = (returns (buffers, iovecs) : Outcome Status _) → s.ctx.Within iovecs.length

/-- **`Encrypt` of cords is AES-GCM-SIV of what is in them**, where the pieces and the chunks of the associated data are not
too many. -/
theorem encrypt_flat (s : CordAesGcmSivBoringSsl) (hctx : s.ctx.Consecutive) (allocator : Allocator)
    (nonce : RandomBytes kIvSizeInBytes) (plaintext associatedData : Cord) (hpieces : s.PiecesWithin allocator plaintext)
    (haad : s.ctx.Within associatedData.chunks.length) :
    Cord.flatten <$> s.encrypt allocator nonce plaintext associatedData =
      Outcome.ofExcept (s.flatEncrypt nonce.1 plaintext.flatten associatedData.flatten) := by
  obtain ⟨buffers, iovecs, hreturns, htiles, hnodup⟩ := pieces_returns (ε := Status) allocator plaintext
  have hwithin := hpieces buffers iovecs hreturns
  apply Refines.map_eq
  unfold encrypt flatEncrypt
  rw [hreturns, returns_bind]
  simp only [buildAadVecs_eq, validateMaxBuffers_within hwithin, validateMaxBuffers_within haad]
  have hcall := hctx.sealv (iovecs.map (·.input)) nonce.1 associatedData.chunks htiles.inputs_ne_nil associatedData.ne_nil
    (by rwa [List.length_map]) haad
  have haadFlat : associatedData.chunks.flatten = associatedData.flatten := rfl
  rw [htiles.inputs, haadFlat] at hcall
  rw [← hcall]
  cases hsealv : s.ctx.sealv (iovecs.map (·.input)) nonce.1 associatedData.chunks with
  | none => rfl
  | some result =>
    obtain ⟨outputs, tag⟩ := result
    refine Refines.returns ?_
    rw [Cord.flatten_append, flatten_buffers htiles hnodup _ (hctx.sealv_shape _ _ _ _ _ hsealv), Cord.flatten_append]
    by_cases hbegins : s.outputPrefix = []
    · simp [hbegins]
    · simp [hbegins]

/-- What `Decrypt` reads of a ciphertext of the right size that starts with the prefix. -/
theorem parse_returns (s : CordAesGcmSivBoringSsl) {ciphertext : Cord}
    (hsize : s.outputPrefix.length + kIvSizeInBytes + kTagSizeInBytes ≤ ciphertext.size)
    (hbegins : s.outputPrefix.isPrefixOf ciphertext.flatten = true) :
    let body := ciphertext.flatten.drop s.outputPrefix.length
    ∃ text, s.parse ciphertext =
        returns (body.take kIvSizeInBytes, body.drop (body.length - kTagSizeInBytes), text) ∧
      text.flatten = (body.drop kIvSizeInBytes).take (body.length - kIvSizeInBytes - kTagSizeInBytes) := by
  intro body
  have hciphertext : ciphertext.size = ciphertext.flatten.length := rfl
  have hbodyLength : body.length = ciphertext.flatten.length - s.outputPrefix.length := List.length_drop
  obtain ⟨rest, hrest, hrestFlat⟩ : ∃ rest, s.removeOutputPrefix ciphertext = returns rest ∧ rest.flatten = body := by
    unfold removeOutputPrefix
    by_cases hnil : s.outputPrefix = []
    · refine ⟨ciphertext, by rw [if_neg (not_not.2 hnil)], ?_⟩
      show _ = ciphertext.flatten.drop s.outputPrefix.length
      rw [hnil]
      rfl
    · rw [if_pos hnil]
      exact Cord.removePrefix_returns (by omega)
  have hrestSize : rest.size = body.length := by rw [Cord.size, hrestFlat]
  obtain ⟨tail, htail, htailFlat⟩ := Cord.removePrefix_returns (ε := Status) (show kIvSizeInBytes ≤ rest.size by omega)
  have htailSize : tail.size = body.length - kIvSizeInBytes := by
    rw [Cord.size, htailFlat, hrestFlat, List.length_drop]
  obtain ⟨text, htext, htextFlat⟩ := Cord.removeSuffix_returns (ε := Status) (show kTagSizeInBytes ≤ tail.size by omega)
  have htagFlat : (tail.subcord (tail.size - kTagSizeInBytes) kTagSizeInBytes).flatten =
      body.drop (body.length - kTagSizeInBytes) := by
    rw [Cord.flatten_subcord, htailFlat, hrestFlat, List.drop_drop, htailSize, List.take_of_length_le]
    · congr 1
      omega
    · rw [List.length_drop]
      omega
  have htagLength : (body.drop (body.length - kTagSizeInBytes)).length = kTagSizeInBytes := by
    rw [List.length_drop]
    omega
  refine ⟨text, ?_, ?_⟩
  · unfold parse
    rw [if_neg (by omega), if_neg (by simp [Cord.startsWith, hbegins]), hrest]
    have htagRead := (CordReader.at_new (tail.subcord (tail.size - kTagSizeInBytes) kTagSizeInBytes)).readN (ε := Status)
      (htagFlat ▸ htagLength.ge)
    rw [htagFlat, List.take_of_length_le htagLength.le] at htagRead
    have hnonceRead := (CordReader.at_new rest).readN (ε := Status) (show kIvSizeInBytes ≤ rest.size by omega)
    rw [hrestFlat] at hnonceRead
    simp only [returns_bind, hnonceRead, htail, htagRead, htext]
    rfl
  · rw [htextFlat, htailFlat, hrestFlat, htailSize]

/-- **`Decrypt` of cords is AES-GCM-SIV of what is in them**, where the pieces and the chunks of the associated data are not
too many. -/
theorem decrypt_flat (s : CordAesGcmSivBoringSsl) (hctx : s.ctx.Consecutive) (allocator : Allocator)
    (ciphertext associatedData : Cord)
    (hpieces : ∀ nonce tag text, s.parse ciphertext = returns (nonce, tag, text) → s.PiecesWithin allocator text)
    (haad : s.ctx.Within associatedData.chunks.length) :
    Cord.flatten <$> s.decrypt allocator ciphertext associatedData =
      Outcome.ofExcept (s.flatDecrypt ciphertext.flatten associatedData.flatten) := by
  have hciphertext : ciphertext.size = ciphertext.flatten.length := rfl
  unfold decrypt flatDecrypt
  by_cases hshort : ciphertext.size < s.outputPrefix.length + kIvSizeInBytes + kTagSizeInBytes
  · unfold parse
    rw [if_pos hshort, if_pos (hciphertext ▸ hshort)]
    rfl
  rw [if_neg (hciphertext ▸ hshort)]
  by_cases hbegins : s.outputPrefix.isPrefixOf ciphertext.flatten = true
  · obtain ⟨text, hparse, htext⟩ := s.parse_returns (Nat.le_of_not_lt hshort) hbegins
    obtain ⟨buffers, iovecs, hreturns, htiles, hnodup⟩ := pieces_returns (ε := Status) allocator text
    have hwithin := hpieces _ _ _ hparse buffers iovecs hreturns
    rw [if_neg (by simp [hbegins]), hparse, returns_bind]
    generalize (ciphertext.flatten.drop s.outputPrefix.length) = body at htext ⊢
    generalize hnonce : body.take kIvSizeInBytes = nonce
    generalize htag : body.drop (body.length - kTagSizeInBytes) = tag
    have hcall := hctx.openv (iovecs.map (·.input)) nonce tag associatedData.chunks htiles.inputs_ne_nil
      associatedData.ne_nil (by rwa [List.length_map]) haad
    have haadFlat : associatedData.chunks.flatten = associatedData.flatten := rfl
    rw [htiles.inputs, haadFlat, htext] at hcall
    simp only [hreturns, returns_bind, buildAadVecs_eq, validateMaxBuffers_within hwithin, validateMaxBuffers_within haad]
    rw [hnonce, htag, ← hcall]
    cases hopen : s.ctx.openvDetached (iovecs.map (·.input)) nonce tag associatedData.chunks with
    | none => rfl
    | some outputs =>
      have hflat := flatten_buffers htiles hnodup (fresh allocator) (hctx.openv_shape _ _ _ _ _ hopen) (Cord.ofChunks [])
      exact congrArg returns (hflat.trans (by simp))
  · have hnil : s.outputPrefix ≠ [] := by
      intro hnil
      exact hbegins (by simp [hnil])
    have hfalse : s.outputPrefix.isPrefixOf ciphertext.flatten = false := Bool.not_eq_true _ ▸ hbegins
    have hstarts : ciphertext.startsWith s.outputPrefix = false := hfalse
    unfold parse
    rw [if_neg hshort, if_pos ⟨hnil, by simp [hstarts]⟩, if_pos (by simp [hfalse])]
    rfl

end CordAesGcmSivBoringSsl

/-! ## AES-GCM and AES-GCM-SIV -/

/-- A call with chunks of associated data that are too many is refused, whatever the pieces. -/
theorem CordAesGcmSivBoringSsl.encrypt_tooManyAadChunks (s : CordAesGcmSivBoringSsl) (allocator : Allocator)
    (nonce : RandomBytes CordAesGcmSiv.kIvSizeInBytes) (plaintext associatedData : Cord) {limit : Nat}
    (hlimit : s.ctx.cryptoIovecMax = some limit) (hmany : limit < associatedData.chunks.length)
    (hint : associatedData.chunks.length < 2 ^ 31) (hpieces : s.PiecesWithin allocator plaintext) :
    s.encrypt allocator nonce plaintext associatedData =
      fails ⟨.internal, "Too many iovecs, exceeding CRYPTO_IOVEC_MAX"⟩ := by
  obtain ⟨buffers, iovecs, hreturns, _⟩ := pieces_returns (ε := Status) allocator plaintext
  have haad : CordAesGcmSiv.validateMaxBuffers s.ctx associatedData.chunks.length =
      .error ⟨.internal, "Too many iovecs, exceeding CRYPTO_IOVEC_MAX"⟩ := by
    unfold CordAesGcmSiv.validateMaxBuffers
    rw [hlimit]
    have hnarrow := Narrow.toInt_of_nonneg_of_lt (Int.natCast_nonneg associatedData.chunks.length) (by omega)
    exact if_pos (by omega)
  unfold encrypt
  rw [hreturns, returns_bind]
  simp only [CordAesGcmSiv.buildAadVecs_eq, CordAesGcmSiv.validateMaxBuffers_within (hpieces _ _ hreturns), haad]
  rfl

/-- **The cord AEADs are the flat ones**, however the cords are cut and whatever buffers there are: the same bytes and the
same errors, and every loop ends.  The chunks of AES-GCM's associated data have sizes that an `int` holds; for AES-GCM-SIV
the pieces and the chunks of the associated data are no more than are allowed, and `BuildIoVecs` makes fewer pieces than
there are chunks and buffers. -/
theorem cordAeads_flat {lib : EvpAesGcm} (hlib : lib.Consecutive) (gcm : CordAesGcmBoringSsl lib)
    (siv : CordAesGcmSivBoringSsl) (hctx : siv.ctx.Consecutive) (allocator : Allocator) (associatedData : Cord) :
    ((∀ chunk ∈ associatedData.chunks, chunk.length < 2 ^ 31) →
      (∀ iv plaintext, Cord.flatten <$> gcm.encrypt allocator iv plaintext associatedData =
        Outcome.ofExcept (gcm.flatEncrypt iv.1 plaintext.flatten associatedData.flatten)) ∧
      ∀ ciphertext, Cord.flatten <$> gcm.decrypt allocator ciphertext associatedData =
        Outcome.ofExcept (gcm.flatDecrypt ciphertext.flatten associatedData.flatten)) ∧
    (∀ input, ∃ buffers iovecs, CordAesGcmSivBoringSsl.pieces allocator input =
        (returns (buffers, iovecs) : Outcome Status _) ∧ CordAesGcmSiv.Tiles input buffers iovecs) ∧
    (siv.ctx.Within associatedData.chunks.length →
      (∀ nonce plaintext, siv.PiecesWithin allocator plaintext →
        Cord.flatten <$> siv.encrypt allocator nonce plaintext associatedData =
          Outcome.ofExcept (siv.flatEncrypt nonce.1 plaintext.flatten associatedData.flatten)) ∧
      ∀ ciphertext, (∀ nonce tag text, siv.parse ciphertext = returns (nonce, tag, text) →
          siv.PiecesWithin allocator text) →
        Cord.flatten <$> siv.decrypt allocator ciphertext associatedData =
          Outcome.ofExcept (siv.flatDecrypt ciphertext.flatten associatedData.flatten)) := by
  refine ⟨fun hint => ⟨?_, ?_⟩, ?_, fun haad => ⟨?_, ?_⟩⟩
  · intro iv plaintext
    exact gcm.encrypt_flat hlib allocator iv plaintext associatedData hint
  · intro ciphertext
    exact gcm.decrypt_flat hlib allocator ciphertext associatedData hint
  · intro input
    obtain ⟨buffers, iovecs, hreturns, htiles, _⟩ := CordAesGcmSivBoringSsl.pieces_returns (ε := Status) allocator input
    exact ⟨buffers, iovecs, hreturns, htiles⟩
  · intro nonce plaintext hpieces
    exact siv.encrypt_flat hctx allocator nonce plaintext associatedData hpieces haad
  · intro ciphertext hpieces
    exact siv.decrypt_flat hctx allocator ciphertext associatedData hpieces haad

/-! ## The test vectors -/

namespace CordVectors

/-- A text xored with a keystream from a position on. -/
def xorAt (keystream : Bytes) (position : Nat) (text : Bytes) : Bytes :=
  text.mapIdx fun i byte => byte ^^^ keystream.getD (position + i) 0

theorem xorAt_append (keystream a b : Bytes) (position : Nat) :
    xorAt keystream position (a ++ b) = xorAt keystream position a ++ xorAt keystream (position + a.length) b := by
  unfold xorAt
  rw [List.mapIdx_append]
  congr 2
  funext i byte
  rw [Nat.add_assoc, Nat.add_comm i]

theorem xorAt_length (keystream text : Bytes) (position : Nat) : (xorAt keystream position text).length = text.length :=
  List.length_mapIdx

def gcmKey : Bytes := BigEndian.encode 16 0xfeffe9928665731c6d6a8f9467308308

def gcmIv : RandomBytes CordAesGcm.kIvSizeInBytes := ⟨BigEndian.encode 12 0xcafebabefacedbaddecaf888, rfl⟩

def gcmPlaintext : Bytes := BigEndian.encode 64
  0xd9313225f88406e5a55909c5aff5269a86a7a9531534f7da2e4c303d8a318a721c3c0c95956809532fcf0e2449a6b525b16aedf5aa0de657ba637b391aafd255

def gcmCiphertext : Bytes := BigEndian.encode 64
  0x42831ec2217774244b7221b784d0d49ce3aa212f2c02a4e035c17e2329aca12e21d514b25466931c7d8f6a5aac84aa051ba30b396a0aac973d58e091473f5985

def gcmTag : Bytes := BigEndian.encode 16 0x4d5c2af327cd64a62cf35abd2ba6fab4

/-- A library that knows the keystream and the tag of the vector; a context is the number of bytes so far. -/
def gcmLibrary : EvpAesGcm where
  Ctx := Nat
  ctxNew := some 0
  ctxCopy := fun _ ctx => some ctx
  initKey := fun ctx _ _ => some ctx
  setIvLen := fun ctx _ => some ctx
  setIv := fun _ _ _ => some 0
  updateAad := fun ctx _ _ => some ctx
  update := fun ctx data _ => some (ctx + data.length, xorAt (xorAt gcmPlaintext 0 gcmCiphertext) ctx data)
  final := some
  getTag := fun _ length => if length = 16 then some gcmTag else none
  setTag := fun ctx tag => if tag = gcmTag then some ctx else none
  copiesContexts := true

theorem gcmLibrary_consecutive : gcmLibrary.Consecutive where
  aad := fun _ _ _ _ _ => rfl
  text := by
    intro (ctx : Nat) a b _ _
    show some (ctx + (a ++ b).length, xorAt _ ctx (a ++ b)) = some (ctx + a.length + b.length, _)
    rw [xorAt_append, List.length_append, Nat.add_assoc]
  text_length := by
    intro ctx a ctx' out h
    obtain ⟨-, rfl⟩ := Prod.mk.inj (Option.some.inj h)
    exact xorAt_length _ _ _
  tag_length := by
    intro ctx length tag h
    by_cases hlength : (length : Int) = 16
    · simp only [gcmLibrary, if_pos hlength, Option.some.injEq] at h
      have htag : gcmTag.length = 16 := rfl
      rw [← h, htag]
      omega
    · simp only [gcmLibrary, if_neg hlength] at h
      cases h

def gcm : CordAesGcmBoringSsl gcmLibrary := ⟨(0 : Nat), gcmKey⟩

def sivNonce : RandomBytes CordAesGcmSiv.kIvSizeInBytes := ⟨BigEndian.encode 12 0x030000000000000000000000, rfl⟩

def sivPlaintext : Bytes := BigEndian.encode 32 0x0100000000000000000000000000000002000000000000000000000000000000

def sivCiphertext : Bytes := BigEndian.encode 32 0x84e07e62ba83a6585417245d7ec413a9fe427d6315c09b57ce45f2e3936a9445

def sivTag : Bytes := BigEndian.encode 16 0x1a8e45dcd4578c667cd86847bf6155ff

/-- A context that knows the keystream and the tag of the vector, with the limit of 16 pieces. -/
def sivContext : EvpAeadCtx where
  sealFlat := fun _ plaintext _ => some (xorAt (xorAt sivPlaintext 0 sivCiphertext) 0 plaintext, sivTag)
  openFlat := fun _ ciphertext tag _ =>
    if tag = sivTag then some (xorAt (xorAt sivPlaintext 0 sivCiphertext) 0 ciphertext) else none
  sealv := fun inputs _ aad =>
    if inputs.length ≤ 16 ∧ aad.length ≤ 16 then
      some ((inputs.map List.length).splitLengths (xorAt (xorAt sivPlaintext 0 sivCiphertext) 0 inputs.flatten), sivTag)
    else none
  openvDetached := fun inputs _ tag aad =>
    if inputs.length ≤ 16 ∧ aad.length ≤ 16 ∧ tag = sivTag then
      some ((inputs.map List.length).splitLengths (xorAt (xorAt sivPlaintext 0 sivCiphertext) 0 inputs.flatten))
    else none
  cryptoIovecMax := some 16
  sslErrors := ""

theorem sivContext_consecutive : sivContext.Consecutive where
  sealv := by
    intro inputs nonce aad _ _ hinputs haad
    have hlength := xorAt_length (xorAt sivPlaintext 0 sivCiphertext) inputs.flatten 0
    simp only [sivContext, if_pos (And.intro (hinputs 16 rfl) (haad 16 rfl)), Option.map_some]
    rw [List.flatten_splitLengths _ _ (by rw [hlength, List.length_flatten])]
  sealv_shape := by
    intro inputs nonce aad outputs tag h
    have hlength := xorAt_length (xorAt sivPlaintext 0 sivCiphertext) inputs.flatten 0
    simp only [sivContext] at h
    split at h
    · cases h
      exact List.map_splitLengths_length _ _ (by rw [hlength, List.length_flatten])
    · cases h
  openv := by
    intro inputs nonce tag aad _ _ hinputs haad
    have hlength := xorAt_length (xorAt sivPlaintext 0 sivCiphertext) inputs.flatten 0
    by_cases htag : tag = sivTag
    · simp only [sivContext, if_pos (And.intro (hinputs 16 rfl) (And.intro (haad 16 rfl) htag)), if_pos htag,
        Option.map_some]
      rw [List.flatten_splitLengths _ _ (by rw [hlength, List.length_flatten])]
    · simp only [sivContext, htag, and_false, if_false, Option.map_none]
  openv_shape := by
    intro inputs nonce tag aad outputs h
    have hlength := xorAt_length (xorAt sivPlaintext 0 sivCiphertext) inputs.flatten 0
    simp only [sivContext] at h
    split at h
    · cases h
      exact List.map_splitLengths_length _ _ (by rw [hlength, List.length_flatten])
    · cases h

def siv : CordAesGcmSivBoringSsl := ⟨sivContext, [1, 1, 2, 3, 4]⟩

/-- Buffers of seven bytes. -/
def buffers : Allocator := ⟨fun _ => List.replicate 7 0xaa, fun _ => by decide⟩

/-- The number of pieces that a call makes of an input. -/
def pieceCount (input : Cord) : Option Nat :=
  match CordAesGcmSivBoringSsl.pieces buffers input with
  | (returns (_, iovecs) : Outcome Status _) => some iovecs.length
  | _ => none

theorem piecesWithin_of_pieceCount {input : Cord} {n : Nat} (h : pieceCount input = some n) (hn : n ≤ 16) :
    siv.PiecesWithin buffers input := by
  intro cells iovecs hreturns limit hlimit
  unfold pieceCount at h
  rw [hreturns] at h
  cases h
  cases hlimit
  exact hn

/-- The texts in two chunks. -/
def cutAt (n : Nat) (text : Bytes) : Cord := Cord.ofChunks [text.take n, text.drop n]

end CordVectors

open CordVectors in
theorem cordAeads_flat_vectors :
    (Cord.flatten <$> gcm.encrypt buffers gcmIv (cutAt 40 gcmPlaintext)
      (Cord.ofChunks []) = returns (gcmIv.1 ++ gcmCiphertext ++ gcmTag)) ∧
    (Cord.flatten <$> gcm.decrypt buffers
      (cutAt 20 (gcmIv.1 ++ gcmCiphertext ++ gcmTag)) (Cord.ofChunks []) = returns gcmPlaintext) ∧
    (Cord.flatten <$> siv.encrypt buffers sivNonce (cutAt 10 sivPlaintext) (Cord.ofChunks []) =
      returns ([1, 1, 2, 3, 4] ++ sivNonce.1 ++ sivCiphertext ++ sivTag)) := by
  have h := cordAeads_flat gcmLibrary_consecutive gcm siv sivContext_consecutive buffers (Cord.ofChunks [])
  obtain ⟨hgcm, _, hsiv⟩ := h
  obtain ⟨hencrypt, hdecrypt⟩ := hgcm (by decide)
  have haad : siv.ctx.Within (Cord.ofChunks []).chunks.length := fun _ _ => Nat.zero_le _
  have hpieces : siv.PiecesWithin buffers (cutAt 10 sivPlaintext) :=
    piecesWithin_of_pieceCount (show pieceCount (cutAt 10 sivPlaintext) = some 6 by decide +kernel) (by decide)
  refine ⟨(hencrypt gcmIv _).trans ?_, (hdecrypt _).trans ?_, ((hsiv haad).1 sivNonce _ hpieces).trans ?_⟩
  · decide +kernel
  · decide +kernel
  · decide +kernel

open CordVectors in
/-- Associated data in 17 chunks is refused, whatever its size. -/
theorem cordAeads_not_flat : ¬ ∀ (siv : CordAesGcmSivBoringSsl), siv.ctx.Consecutive →
    ∀ allocator nonce plaintext associatedData, siv.PiecesWithin allocator plaintext →
      Cord.flatten <$> siv.encrypt allocator nonce plaintext associatedData =
        Outcome.ofExcept (siv.flatEncrypt nonce.1 plaintext.flatten associatedData.flatten) := by
  intro hflat
  have hpieces : siv.PiecesWithin buffers (cutAt 10 sivPlaintext) :=
    piecesWithin_of_pieceCount (show pieceCount (cutAt 10 sivPlaintext) = some 6 by decide +kernel) (by decide)
  have hequal := hflat siv sivContext_consecutive buffers sivNonce (cutAt 10 sivPlaintext)
    (Cord.ofChunks (List.replicate 17 [0])) hpieces
  rw [siv.encrypt_tooManyAadChunks buffers sivNonce _ _ (show sivContext.cryptoIovecMax = some 16 from rfl) (by decide)
    (by decide) hpieces] at hequal
  exact absurd hequal (by decide +kernel)

end Tink
