import TinkCc.Basic
import TinkCc.LibCrc
/-!
# ProtoState — parsing and serialization states, and their running CRC

`proto_parser_state.{h,cc}` and the part of `SecretData` they meet.  A `ParsingState` is the view still to be parsed
and, when there is one, the CRC cell it updates; a `SerializationState` is the span still to be written, beside what
was written before it.  The CRC cell is a pointer shared with a submessage's state in the source: here the submessage
state hands its cell back (`rejoin`).

Everything later says what a function did to a state in two words: `Consumes` for parsing, `Writes` and `TracksCrc`
for serializing.
-/
namespace Tink

/-- `absl/crc/crc32c.h`: `ComputeCrc32c` and `ConcatCrc32c`, with what the code relies on. -/
class AbslCrc where
  computeCrc32c : Bytes → UInt32
  concatCrc32c  : UInt32 → UInt32 → Nat → UInt32
  compute_nil   : computeCrc32c [] = 0
  concat_compute : ∀ a b : Bytes,
    concatCrc32c (computeCrc32c a) (computeCrc32c b) b.length = computeCrc32c (a ++ b)

/-- CRC32C itself (the Castagnoli polynomial, bit-reflected) is such a library. -/
@[reducible] def castagnoli : AbslCrc where
  computeCrc32c bs := UInt32.ofBitVec (LinearCrc.checksum 0x82F63B78#32 bs)
  concatCrc32c c₁ c₂ len := UInt32.ofBitVec (LinearCrc.concat 0x82F63B78#32 c₁.toBitVec c₂.toBitVec len)
  compute_nil := by rw [LinearCrc.checksum_nil]; rfl
  concat_compute a b := by
    show UInt32.ofBitVec (LinearCrc.concat _ (LinearCrc.checksum _ a) (LinearCrc.checksum _ b) b.length) = _
    rw [LinearCrc.concat_checksum]

-- the check value of the CRC32C parameter set: "123456789" has checksum 0xE3069283
example : castagnoli.computeCrc32c [0x31, 0x32, 0x33, 0x34, 0x35, 0x36, 0x37, 0x38, 0x39] = 0xE3069283 := by
  decide +kernel

open AbslCrc

/-! ## SecretData -/

/-- `SecretDataInternalClass`: the bytes and the CRC stored behind them.  An empty buffer stores no CRC and
`GetCrc32c` answers 0 for it. -/
@[ext] structure SecretData where
  bytes    : Bytes
  crc32c   : UInt32
  crc32c_of_nil : bytes = [] → crc32c = 0

/-- `SecretData(view, crc32c)`: the CRC is ignored for an empty view. -/
def SecretData.ofCrc (view : Bytes) (crc : UInt32) : SecretData :=
  ⟨view, if view = [] then 0 else crc, fun h => if_pos h⟩

/-- `SecretData()`. -/
def SecretData.empty : SecretData := ⟨[], 0, fun _ => rfl⟩

/-- `util::SecretDataEquals`: sizes and bytes, not the CRC. -/
def secretDataEquals (a b : SecretData) : Bool := a.bytes == b.bytes

theorem secretDataEquals_iff (a b : SecretData) : secretDataEquals a b = true ↔ a.bytes = b.bytes := by
  simp [secretDataEquals]

/-! ## The two states -/

structure ParsingState where
  remaining : Bytes
  crc       : Option UInt32

def ParsingState.parsingDone (st : ParsingState) : Bool := st.remaining.isEmpty

/-- `SplitOffSubmessageState`: the submessage's state, and this state past it. -/
def ParsingState.splitOffSubmessageState (st : ParsingState) (length : Nat) : ParsingState × ParsingState :=
  ({ remaining := st.remaining.take length, crc := st.crc }, { remaining := st.remaining.drop length, crc := st.crc })

/-- The state after its submessage state was parsed: the two share one CRC cell. -/
def ParsingState.rejoin (st sub : ParsingState) : ParsingState := { st with crc := sub.crc }

structure SerializationState where
  written : Bytes
  buffer  : Bytes
  crc     : Option UInt32

/-- Storing bytes at the front of the span, without advancing. -/
def SerializationState.store (out : SerializationState) (bs : Bytes) : SerializationState :=
  { out with buffer := bs ++ out.buffer.drop bs.length }

/-- **`out'` is `out` with exactly the bytes `bs` written.** -/
structure SerializationState.Writes (out : SerializationState) (bs : Bytes) (out' : SerializationState) : Prop where
  written : out'.written = out.written ++ bs
  buffer  : out'.buffer = out.buffer.drop bs.length

theorem SerializationState.Writes.refl (out : SerializationState) : out.Writes [] out := ⟨by simp, by simp⟩

theorem SerializationState.Writes.trans {out out₁ out₂ : SerializationState} {a b : Bytes} (h₁ : out.Writes a out₁)
    (h₂ : out₁.Writes b out₂) : out.Writes (a ++ b) out₂ where
  written := by rw [h₂.written, h₁.written, List.append_assoc]
  buffer := by rw [h₂.buffer, h₁.buffer, List.drop_drop, List.length_append]

theorem SerializationState.Writes.length_buffer {out out' : SerializationState} {a : Bytes} (h : out.Writes a out') :
    out'.buffer.length = out.buffer.length - a.length := by
  rw [h.buffer, List.length_drop]

variable [AbslCrc]

/-! ## Stored CRCs -/

/-- The stored CRC is the CRC of the bytes (`ValidateCrc32c` answers OK). -/
def SecretData.CrcOk (s : SecretData) : Prop := s.crc32c = computeCrc32c s.bytes

theorem SecretData.crcOk_empty : SecretData.empty.CrcOk := compute_nil.symm

theorem SecretData.ofCrc_compute (view : Bytes) :
    SecretData.ofCrc view (computeCrc32c view) = ⟨view, computeCrc32c view, fun h => by rw [h, compute_nil]⟩ := by
  ext1
  · rfl
  · show (if view = [] then 0 else computeCrc32c view) = computeCrc32c view
    split
    · rename_i h; rw [h, compute_nil]
    · rfl

theorem SecretData.crcOk_ofCrc_compute (view : Bytes) : (SecretData.ofCrc view (computeCrc32c view)).CrcOk := by
  rw [SecretData.ofCrc_compute]; rfl

/-- Data with a right CRC is rebuilt from its bytes alone. -/
theorem SecretData.ofCrc_compute_of_crcOk {s : SecretData} (h : s.CrcOk) :
    SecretData.ofCrc s.bytes (computeCrc32c s.bytes) = s := by
  rw [SecretData.ofCrc_compute]
  ext1
  · rfl
  · exact h.symm

/-! ## Parsing -/

def ParsingState.advance (st : ParsingState) (length : Nat) : ParsingState where
  remaining := st.remaining.drop length
  crc := st.crc.map (fun c => concatCrc32c c (computeCrc32c (st.remaining.take length)) length)

def ParsingState.advanceAndGetCrc (st : ParsingState) (length : Nat) : UInt32 × ParsingState :=
  let result := computeCrc32c (st.remaining.take length)
  (result, { remaining := st.remaining.drop length, crc := st.crc.map (fun c => concatCrc32c c result length) })

theorem ParsingState.advanceAndGetCrc_eq (st : ParsingState) (length : Nat) :
    st.advanceAndGetCrc length = (computeCrc32c (st.remaining.take length), st.advance length) := rfl

/-- **`st'` is `st` with exactly the bytes `bs` consumed**: a CRC cell holding the CRC of what was seen before holds
the CRC of that and `bs`. -/
structure ParsingState.Consumes (st : ParsingState) (bs : Bytes) (st' : ParsingState) : Prop where
  remaining : st.remaining = bs ++ st'.remaining
  crc_none  : st.crc = none → st'.crc = none
  crc_some  : ∀ seen, st.crc = some (computeCrc32c seen) → st'.crc = some (computeCrc32c (seen ++ bs))

theorem ParsingState.Consumes.refl (st : ParsingState) : st.Consumes [] st :=
  ⟨rfl, id, fun _ h => by rw [h, List.append_nil]⟩

theorem ParsingState.Consumes.trans {st st₁ st₂ : ParsingState} {a b : Bytes} (h₁ : st.Consumes a st₁)
    (h₂ : st₁.Consumes b st₂) : st.Consumes (a ++ b) st₂ where
  remaining := by rw [h₁.remaining, h₂.remaining, List.append_assoc]
  crc_none h := h₂.crc_none (h₁.crc_none h)
  crc_some seen h := by rw [h₂.crc_some _ (h₁.crc_some seen h), List.append_assoc]

theorem ParsingState.Consumes.length_eq {st st' : ParsingState} {bs : Bytes} (h : st.Consumes bs st') :
    st.remaining.length = bs.length + st'.remaining.length := by
  rw [h.remaining, List.length_append]

theorem ParsingState.consumes_advance {st : ParsingState} {n : Nat} (hn : n ≤ st.remaining.length) :
    st.Consumes (st.remaining.take n) (st.advance n) where
  remaining := (List.take_append_drop n _).symm
  crc_none h := by simp [ParsingState.advance, h]
  crc_some seen h := by
    have hl : (st.remaining.take n).length = n := List.length_take_of_le hn
    have hc := concat_compute seen (st.remaining.take n)
    rw [hl] at hc
    simp [ParsingState.advance, h, hc]

/-- Advancing over a known front. -/
theorem ParsingState.consumes_advance_of_eq {st : ParsingState} {a b : Bytes} (h : st.remaining = a ++ b) :
    st.Consumes a (st.advance a.length) ∧ (st.advance a.length).remaining = b := by
  have hn : a.length ≤ st.remaining.length := by rw [h]; simp
  have hc := ParsingState.consumes_advance hn
  rw [h, List.take_left] at hc
  exact ⟨hc, by simp [ParsingState.advance, h]⟩

/-- **A submessage parsed to its end is consumed from the state it was split off.** -/
theorem ParsingState.Consumes.rejoin {st sub' : ParsingState} {n : Nat}
    (h : (st.splitOffSubmessageState n).1.Consumes (st.remaining.take n) sub') :
    st.Consumes (st.remaining.take n) ((st.splitOffSubmessageState n).2.rejoin sub') where
  remaining := (List.take_append_drop n _).symm
  crc_none := h.crc_none
  crc_some := h.crc_some

/-! ## Serializing -/

def SerializationState.advanceWithCrc (out : SerializationState) (length : Nat) (crc : UInt32) :
    SerializationState where
  written := out.written ++ out.buffer.take length
  buffer := out.buffer.drop length
  crc := out.crc.map (fun c => concatCrc32c c crc length)

def SerializationState.advance (out : SerializationState) (length : Nat) : SerializationState :=
  out.advanceWithCrc length (computeCrc32c (out.buffer.take length))

/-- A CRC cell holding the CRC of what was written before holds, after `bs`, the CRC of both. -/
def SerializationState.TracksCrc (out : SerializationState) (bs : Bytes) (out' : SerializationState) : Prop :=
  ∀ seen, out.crc = some (computeCrc32c seen) → out'.crc = some (computeCrc32c (seen ++ bs))

theorem SerializationState.TracksCrc.refl (out : SerializationState) : out.TracksCrc [] out :=
  fun _ h => by rw [h, List.append_nil]

theorem SerializationState.TracksCrc.trans {out out₁ out₂ : SerializationState} {a b : Bytes}
    (h₁ : out.TracksCrc a out₁) (h₂ : out₁.TracksCrc b out₂) : out.TracksCrc (a ++ b) out₂ :=
  fun seen h => by rw [h₂ _ (h₁ seen h), List.append_assoc]

theorem SerializationState.writes_store_advanceWithCrc (out : SerializationState) (bs : Bytes) (crc : UInt32) :
    out.Writes bs ((out.store bs).advanceWithCrc bs.length crc) where
  written := by simp [SerializationState.store, SerializationState.advanceWithCrc]
  buffer := by simp [SerializationState.store, SerializationState.advanceWithCrc]

theorem SerializationState.tracksCrc_store_advanceWithCrc (out : SerializationState) (bs : Bytes) :
    out.TracksCrc bs ((out.store bs).advanceWithCrc bs.length (computeCrc32c bs)) := by
  intro seen h
  simp [SerializationState.store, SerializationState.advanceWithCrc, h, concat_compute]

/-- `Advance` is `AdvanceWithCrc` with the CRC of the bytes that were stored. -/
theorem SerializationState.store_advance (out : SerializationState) (bs : Bytes) :
    (out.store bs).advance bs.length = (out.store bs).advanceWithCrc bs.length (computeCrc32c bs) := by
  simp [SerializationState.advance, SerializationState.store]

end Tink
