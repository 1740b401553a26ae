import TinkCc.StreamingAead
/-!
# RandomAccess — `DecryptingRandomAccessStream`

The stream computes from the size of its source how many segments there are and how long the plaintext is, and decrypts
the segments a read needs, the last of them by that count as the last one.

`Holds` is what a source of fixed bytes promises; it leaves open whether a read that reaches the end is OK or
OUT_OF_RANGE, since the sources of the library differ in that.  `Geometry` is the arithmetic of the segments,
`readAndDecryptSegment_eq` what one segment read gives over any bytes.
-/
namespace Tink

open Cut

/-! ## The source -/

/-- `RandomAccessStream`: `PRead` gives its status and what its buffer then holds. -/
class RandomAccessStream (σ : Type) where
  pread : (position count : Nat) → σ → (Except Status Unit × Bytes) × σ
  size  : σ → Except Status Nat × σ

/-- **A source of the bytes `C`.**  A read that ends before the end of `C` is OK, one that starts at or behind it is
OUT_OF_RANGE, and one that reaches it is either. -/
structure Holds {σ : Type} [RandomAccessStream σ] (C : Bytes) (At : σ → Prop) : Prop where
  size  : ∀ {s}, At s → ∃ s', RandomAccessStream.size s = (.ok C.length, s') ∧ At s'
  pread : ∀ {s} (position count : Nat), 0 < count → At s → ∃ status s',
    RandomAccessStream.pread position count s = ((status, (C.drop position).take count), s') ∧ At s' ∧
    (position + count < C.length → status = .ok ()) ∧
    (C.length ≤ position → status ≠ .ok ()) ∧
    (∀ e, status = .error e → e.code = .outOfRange)

/-- The source stays in `At` through reads, whatever they give. -/
def ReadsStay {σ : Type} [RandomAccessStream σ] (At : σ → Prop) : Prop :=
  ∀ {s} (position count : Nat), 0 < count → At s → ∃ status bytes s',
    RandomAccessStream.pread position count s = ((status, bytes), s') ∧ At s'

theorem Holds.readsStay {σ : Type} [RandomAccessStream σ] {C : Bytes} {At : σ → Prop} (hC : Holds C At) :
    ReadsStay At := by
  intro s position count hpos hat
  obtain ⟨status, s', hpread, hat', -⟩ := hC.pread position count hpos hat
  exact ⟨status, _, s', hpread, hat'⟩

/-- `FileRandomAccessStream` over a file that does not change: a short read is OK if it has some bytes. -/
structure FileSource where
  contents : Bytes

instance : RandomAccessStream FileSource where
  pread position count s :=
    let bytes := (s.contents.drop position).take count
    if count = 0 then ((.error ⟨.invalidArgument, "count must be positive"⟩, []), s)
    else if bytes.isEmpty then ((.error ⟨.outOfRange, "EOF"⟩, []), s)
    else ((.ok (), bytes), s)
  size s := (.ok s.contents.length, s)

theorem FileSource.holds (C : Bytes) : Holds C (fun s : FileSource => s = ⟨C⟩) where
  size := by
    rintro s rfl
    exact ⟨_, rfl, rfl⟩
  pread := by
    rintro s position count hpos rfl
    have hne : count ≠ 0 := by omega
    by_cases hnil : (C.drop position).take count = []
    · have hend : C.length ≤ position := by
        have := congrArg List.length hnil
        rw [List.length_take, List.length_drop, List.length_nil] at this
        omega
      refine ⟨.error ⟨.outOfRange, "EOF"⟩, ⟨C⟩, ?_, rfl, fun h => by omega, fun _ => by simp, ?_⟩
      · simp [RandomAccessStream.pread, hnil, hne]
      · rintro e h
        cases h
        rfl
    · refine ⟨.ok (), ⟨C⟩, ?_, rfl, fun _ => rfl, fun h => ?_, fun e h => by cases h⟩
      · simp [RandomAccessStream.pread, hnil, hne]
      · rw [List.drop_eq_nil_of_le h, List.take_nil] at hnil
        exact absurd rfl hnil

/-- `TestRandomAccessStream`: a read that reaches the end is OUT_OF_RANGE, with its bytes. -/
structure TestSource where
  contents : Bytes

instance : RandomAccessStream TestSource where
  pread position count s :=
    if count = 0 then ((.error ⟨.invalidArgument, "count must be positive"⟩, []), s)
    else if s.contents.length ≤ position then ((.error ⟨.outOfRange, "EOF"⟩, []), s)
    else
      let readCount := min count (s.contents.length - position)
      let bytes := (s.contents.drop position).take readCount
      if position + readCount = s.contents.length then ((.error ⟨.outOfRange, "EOF"⟩, bytes), s)
      else ((.ok (), bytes), s)
  size s := (.ok s.contents.length, s)

/-! ## The stream -/

/-- The members of `DecryptingRandomAccessStream`; `initialized` is what `Init` made of the decrypter. -/
structure DecryptingRandomAccessStream (κ σ : Type) where
  segmentDecrypter  : SegmentDecrypter κ
  ctSource          : σ
  initialized       : Option κ
  status            : Except Status Unit
  headerSize        : Nat
  ctOffset          : Nat
  ctSegmentSize     : Nat
  ptSegmentSize     : Nat
  ctSegmentOverhead : Int
  segmentCount      : Nat
  ptSize            : Int

namespace DecryptingRandomAccessStream
variable {κ σ : Type}

/-- `New`.  The members that have no value yet are 0. -/
def new (segmentDecrypter : SegmentDecrypter κ) (ciphertextSource : σ) :
    Except Status (DecryptingRandomAccessStream κ σ) :=
  let firstSegmentSize : Int :=
    segmentDecrypter.plaintextSegmentSize - segmentDecrypter.ciphertextOffset - segmentDecrypter.headerSize
  if firstSegmentSize ≤ 0 then .error ⟨.invalidArgument, "Size of the first segment must be greater than 0."⟩
  else
    .ok { segmentDecrypter := segmentDecrypter, ctSource := ciphertextSource, initialized := none,
          status := .error ⟨.unavailable, "The header hasn't been read yet."⟩, headerSize := 0, ctOffset := 0,
          ctSegmentSize := 0, ptSegmentSize := 0, ctSegmentOverhead := 0, segmentCount := 0, ptSize := 0 }

/-- The number of segments and the plaintext size, from the size of the source. -/
def setSize (s : DecryptingRandomAccessStream κ σ) (ctSize : Nat) : DecryptingRandomAccessStream κ σ :=
  let fullSegmentCount := ctSize / s.ctSegmentSize
  let remainderSize := ctSize % s.ctSegmentSize
  let segmentCount := if 0 < remainderSize then fullSegmentCount + 1 else fullSegmentCount
  let s := { s with segmentCount := segmentCount }
  -- Tink supports up to 2^32 segments
  if 2 ^ 32 - 1 < (segmentCount : Int) - 1 then
    { s with status := .error ⟨.invalidArgument, s!"too many segments: {segmentCount}"⟩ }
  else
    let overhead : Int := s.ctSegmentOverhead * segmentCount + s.ctOffset + s.headerSize
    if overhead > ctSize then { s with status := .error ⟨.invalidArgument, "ciphertext stream is too short"⟩ }
    else { s with ptSize := ctSize - overhead }

/-- `InitializeIfNeeded`. -/
def initializeIfNeeded [RandomAccessStream σ] (s : DecryptingRandomAccessStream κ σ) :
    DecryptingRandomAccessStream κ σ :=
  match s.status with
  | .ok () => s
  | .error e =>
    if e.code ≠ .unavailable then s
    else
      let s := { s with
        headerSize := s.segmentDecrypter.headerSize, ctOffset := s.segmentDecrypter.ciphertextOffset }
      -- `Buffer::New`
      if s.headerSize = 0 then { s with status := .error ⟨.invalidArgument, "allocated_size must be positive"⟩ }
      else
        let ((status, buf), src) := RandomAccessStream.pread s.ctOffset s.headerSize s.ctSource
        let s := { s with ctSource := src }
        match status with
        | .error e =>
          { s with status := .error (if e.code = .outOfRange then ⟨.invalidArgument, "could not read header"⟩ else e) }
        | .ok () =>
          -- the whole block is taken, however much of it was read
          match s.segmentDecrypter.init s.initialized (resize buf s.headerSize) with
          | .error e => { s with status := .error e }
          | .ok k =>
            let s := { s with
              initialized := some k, status := .ok (),
              ctSegmentSize := s.segmentDecrypter.ciphertextSegmentSize,
              ptSegmentSize := s.segmentDecrypter.plaintextSegmentSize,
              ctSegmentOverhead := s.segmentDecrypter.ciphertextSegmentSize - s.segmentDecrypter.plaintextSegmentSize }
            match RandomAccessStream.size s.ctSource with
            | (.error e, src) => { s with ctSource := src, status := .error e }
            | (.ok ctSize, src) => setSize { s with ctSource := src } ctSize

def size [RandomAccessStream σ] (s : DecryptingRandomAccessStream κ σ) :
    Except Status Int × DecryptingRandomAccessStream κ σ :=
  let s := s.initializeIfNeeded
  match s.status with
  | .error e => (.error e, s)
  | .ok () => (.ok s.ptSize, s)

def getSegmentNr (s : DecryptingRandomAccessStream κ σ) (ptPosition : Nat) : Nat :=
  (ptPosition + s.ctOffset + s.headerSize) / s.ptSegmentSize

def getPlaintextOffset (s : DecryptingRandomAccessStream κ σ) (ptPosition : Nat) : Nat :=
  if s.getSegmentNr ptPosition = 0 then ptPosition else (ptPosition + s.ctOffset + s.headerSize) % s.ptSegmentSize

/-- `DecryptSegment`, on the decrypter as `Init` left it. -/
def decryptSegment (s : DecryptingRandomAccessStream κ σ) (ciphertext : Bytes) (segmentNr : Nat) (isLastSegment : Bool) :
    Except Status Bytes :=
  match s.initialized with
  | none => .error ⟨.failedPrecondition, "decrypter not initialized"⟩
  | some k => s.segmentDecrypter.decryptSegment k ciphertext segmentNr isLastSegment

/-- `ReadAndDecryptSegment`: the status, and what `ptSegment` then holds: the plaintext, or what it held before if
nothing was decrypted. -/
def readAndDecryptSegment [RandomAccessStream σ] (s : DecryptingRandomAccessStream κ σ) (segmentNr : Nat)
    (ptSegment : Bytes) : Except Status Unit × Bytes × DecryptingRandomAccessStream κ σ :=
  let ctSegmentSize := s.ctSegmentSize
  -- the product does not fit an `int64_t`
  if 2 ^ 63 ≤ segmentNr * ctSegmentSize then
    (.error ⟨.outOfRange, s!"segment_nr * ct_segment_size too large: {segmentNr}{ctSegmentSize}"⟩, ptSegment, s)
  else
    let ctPosition := if segmentNr = 0 then s.ctOffset + s.headerSize else segmentNr * ctSegmentSize
    let segmentSize := if segmentNr = 0 then ctSegmentSize - ctPosition else ctSegmentSize
    let isLastSegment := decide (segmentNr + 1 = s.segmentCount)
    let ((preadStatus, ctBuffer), src) := RandomAccessStream.pread ctPosition segmentSize s.ctSource
    let s := { s with ctSource := src }
    let decrypt :=
      match s.decryptSegment ctBuffer segmentNr isLastSegment with
      | .ok p => (if isLastSegment then .error ⟨.outOfRange, "EOF"⟩ else .ok (), p, s)
      | .error e => (.error e, ptSegment, s)
    match preadStatus with
    | .ok () => decrypt
    | .error e =>
      if isLastSegment && 0 < ctBuffer.length && e.code = .outOfRange then decrypt else (.error e, ptSegment, s)

/-- `status.ok() || status.code() == absl::StatusCode::kOutOfRange`. -/
def okOrOutOfRange (status : Except Status Unit) : Bool :=
  match status with
  | .ok () => true
  | .error e => e.code = .outOfRange

/-- The loop of `PReadAndDecrypt`, `fuel` rounds of it.  `destBuffer` holds what was read so far; the rounds after the
first one have offset 0. -/
def preadLoop [RandomAccessStream σ] (position count allocatedSize : Nat) :
    Nat → DecryptingRandomAccessStream κ σ → (ptSegment : Bytes) → (ptOffset : Nat) → (destBuffer : Bytes) →
      Option ((Except Status Unit × Bytes) × DecryptingRandomAccessStream κ σ)
  | 0, _, _, _, _ => none
  | fuel + 1, s, ptSegment, ptOffset, destBuffer =>
    let remaining := count - destBuffer.length
    if remaining = 0 then some ((.ok (), destBuffer), s)
    else
      let (status, ptSegment, s) := s.readAndDecryptSegment (s.getSegmentNr (position + destBuffer.length)) ptSegment
      let ptCount : Int := ptSegment.length - ptOffset
      let toCopyCount := min ptCount remaining
      let newSize := destBuffer.length + toCopyCount
      if ¬ okOrOutOfRange status then some ((status, destBuffer), s)
      -- `set_size`
      else if newSize < 0 ∨ allocatedSize < newSize then
        some ((.error ⟨.invalidArgument, "new_size must satisfy 0 <= new_size <= allocated_size()"⟩, destBuffer), s)
      else
        let destBuffer := destBuffer ++ (ptSegment.drop ptOffset).take toCopyCount.toNat
        if status ≠ .ok () ∧ toCopyCount = ptCount then some ((status, destBuffer), s)
        else preadLoop position count allocatedSize fuel s ptSegment 0 destBuffer

/-- `PReadAndDecrypt`, on an empty buffer. -/
def preadAndDecrypt [RandomAccessStream σ] (fuel : Nat) (s : DecryptingRandomAccessStream κ σ) (position count : Int)
    (allocatedSize : Nat) : Option ((Except Status Unit × Bytes) × DecryptingRandomAccessStream κ σ) :=
  if position < 0 ∨ count < 0 ∨ allocatedSize < count then
    some ((.error ⟨.internal, "Invalid parameters to PReadAndDecrypt"⟩, []), s)
  else if position > 2 ^ 63 - 1 - count then
    some ((.error ⟨.outOfRange,
      s!"Invalid parameters to PReadAndDecrypt; position too large: {position}"⟩, []), s)
  else
    let (ptSize, s) := s.size
    let ctSegmentSize := s.ctSegmentSize
    if ptSize.toOption.any (fun ptSize => position > ptSize) then
      some ((.error ⟨.outOfRange, "position is larger than stream size"⟩, []), s)
    else if ctSegmentSize = 0 then
      some ((.error ⟨.invalidArgument, s!"Invalid ciphertext segment size {ctSegmentSize}."⟩, []), s)
    else
      preadLoop position.toNat count.toNat allocatedSize fuel s [] (s.getPlaintextOffset position.toNat) []

/-- `PRead` with a buffer of `allocatedSize` bytes: the status, and what the buffer then holds.  `none` is a call that
takes more than `fuel` rounds. -/
def pread [RandomAccessStream σ] (fuel : Nat) (s : DecryptingRandomAccessStream κ σ) (position count : Int)
    (allocatedSize : Nat) : Option ((Except Status Unit × Bytes) × DecryptingRandomAccessStream κ σ) :=
  if count < 0 then some ((.error ⟨.invalidArgument, "count cannot be negative"⟩, []), s)
  else if count > allocatedSize then some ((.error ⟨.invalidArgument, "buffer too small"⟩, []), s)
  else if position < 0 then some ((.error ⟨.invalidArgument, "position cannot be negative"⟩, []), s)
  else
    let s := s.initializeIfNeeded
    match s.status with
    | .error e => some ((.error e, []), s)
    | .ok () =>
      if position > s.ptSize then some ((.error ⟨.invalidArgument, "position too large"⟩, []), s)
      else s.preadAndDecrypt fuel position count allocatedSize

end DecryptingRandomAccessStream

section PRead

/-- Arguments are refused whatever the stream is, or they pass the checks of `PRead`. -/
theorem pread_refused_or_valid (position count : Int) (allocatedSize : Nat) :
    (∃ e, ∀ {κ σ : Type} [RandomAccessStream σ] (fuel : Nat) (s : DecryptingRandomAccessStream κ σ),
      s.pread fuel position count allocatedSize = some ((.error e, []), s)) ∨
    (¬ count < 0 ∧ ¬ count > allocatedSize ∧ ¬ position < 0) := by
  by_cases hcount : count < 0
  · refine .inl ⟨⟨.invalidArgument, "count cannot be negative"⟩, fun fuel s => ?_⟩
    unfold DecryptingRandomAccessStream.pread
    exact if_pos hcount
  by_cases hsize : count > allocatedSize
  · refine .inl ⟨⟨.invalidArgument, "buffer too small"⟩, fun fuel s => ?_⟩
    unfold DecryptingRandomAccessStream.pread
    rw [if_neg hcount]
    exact if_pos hsize
  by_cases hposition : position < 0
  · refine .inl ⟨⟨.invalidArgument, "position cannot be negative"⟩, fun fuel s => ?_⟩
    unfold DecryptingRandomAccessStream.pread
    rw [if_neg hcount, if_neg hsize]
    exact if_pos hposition
  exact .inr ⟨hcount, hsize, hposition⟩

variable {κ σ : Type} [RandomAccessStream σ]

/-- `PRead` with arguments that pass their checks. -/
theorem pread_of_valid (fuel : Nat) (s : DecryptingRandomAccessStream κ σ) {position count : Int} {allocatedSize : Nat}
    (hcount : ¬ count < 0) (hsize : ¬ count > allocatedSize) (hposition : ¬ position < 0) :
    s.pread fuel position count allocatedSize =
      match s.initializeIfNeeded.status with
      | .error e => some ((.error e, []), s.initializeIfNeeded)
      | .ok () =>
        if position > s.initializeIfNeeded.ptSize then
          some ((.error ⟨.invalidArgument, "position too large"⟩, []), s.initializeIfNeeded)
        else s.initializeIfNeeded.preadAndDecrypt fuel position count allocatedSize := by
  unfold DecryptingRandomAccessStream.pread
  exact (if_neg hcount).trans ((if_neg hsize).trans (if_neg hposition))

end PRead

/-! ## The geometry of the segments -/

section Geometry
variable {κ : Type} (d : SegmentDecrypter κ)

/-- The segments that a source of `ctSize` bytes has. -/
def SegmentDecrypter.segmentCount (ctSize : Nat) : Nat :=
  if 0 < ctSize % d.ciphertextSegmentSize then ctSize / d.ciphertextSegmentSize + 1
  else ctSize / d.ciphertextSegmentSize

/-- Where segment `i` starts in the source. -/
def SegmentDecrypter.ctPosition (i : Nat) : Nat :=
  if i = 0 then d.ciphertextOffset + d.headerSize else i * d.ciphertextSegmentSize

/-- Segment `i` of the source, as far as it is there. -/
def SegmentDecrypter.segment (C : Bytes) (i : Nat) : Bytes := (C.drop (d.ctPosition i)).take (d.segmentSize i)

/-- The segment of a plaintext position. -/
def SegmentDecrypter.segmentNr (ptPosition : Nat) : Nat :=
  (ptPosition + d.ciphertextOffset + d.headerSize) / d.plaintextSegmentSize

/-- Where segment `i` starts in the plaintext. -/
def SegmentDecrypter.ptStart (i : Nat) : Nat :=
  start (d.plaintextSegmentSize - d.ciphertextOffset - d.headerSize) d.plaintextSegmentSize i

def SegmentDecrypter.ptSize (ctSize : Nat) : Int :=
  ctSize - ((d.ciphertextSegmentSize - d.plaintextSegmentSize : Int) * d.segmentCount ctSize + d.ciphertextOffset +
    d.headerSize)

variable {d}

/-- The segments are those that start before the end. -/
theorem lt_segmentCount_iff (hS : 0 < d.ciphertextSegmentSize) {i L : Nat} :
    i < d.segmentCount L ↔ i * d.ciphertextSegmentSize < L := by
  have hdiv := Nat.div_add_mod L d.ciphertextSegmentSize
  have hmod := Nat.mod_lt L hS
  unfold SegmentDecrypter.segmentCount
  rw [Nat.mul_comm] at hdiv
  split
  · rename_i hr
    constructor
    · intro hi
      have := Nat.mul_le_mul_right d.ciphertextSegmentSize (Nat.le_of_lt_succ hi)
      omega
    · intro hi
      by_contra hge
      have := Nat.mul_le_mul_right d.ciphertextSegmentSize (Nat.le_of_not_lt hge)
      rw [Nat.succ_mul] at this
      omega
  · rename_i hr
    rw [← Nat.mul_lt_mul_right hS]
    omega

theorem segmentCount_eq (hS : 0 < d.ciphertextSegmentSize) {n L : Nat} (hlt : n * d.ciphertextSegmentSize < L)
    (hle : L ≤ (n + 1) * d.ciphertextSegmentSize) : d.segmentCount L = n + 1 := by
  have h1 := (lt_segmentCount_iff hS).2 hlt
  have h2 := mt (lt_segmentCount_iff hS).1 (Nat.not_lt.2 hle)
  omega

theorem le_segmentCount_mul (hS : 0 < d.ciphertextSegmentSize) (L : Nat) :
    L ≤ d.segmentCount L * d.ciphertextSegmentSize :=
  Nat.le_of_not_lt (mt (lt_segmentCount_iff hS).2 (Nat.lt_irrefl _))

/-- Every segment starts where the one before it ends. -/
theorem ctPosition_succ (hF : 0 < d.firstSegmentSize) (i : Nat) :
    d.ctPosition (i + 1) = d.ctPosition i + d.segmentSize i := by
  unfold SegmentDecrypter.ctPosition SegmentDecrypter.segmentSize
  unfold SegmentDecrypter.firstSegmentSize at hF ⊢
  cases i with
  | zero =>
    simp only [if_true, Nat.zero_add, Nat.one_ne_zero, if_false, Nat.one_mul]
    omega
  | succ i =>
    simp only [Nat.add_one_ne_zero, if_false]
    rw [Nat.succ_mul (i + 1)]

theorem segmentSize_pos (hF : 0 < d.firstSegmentSize) (i : Nat) : 0 < d.segmentSize i := by
  unfold SegmentDecrypter.segmentSize
  split
  · omega
  · unfold SegmentDecrypter.firstSegmentSize at hF
    omega

theorem ctSegmentSize_pos (hF : 0 < d.firstSegmentSize) : 0 < d.ciphertextSegmentSize := by
  unfold SegmentDecrypter.firstSegmentSize at hF
  omega

/-- A segment that is not the last ends before the source does. -/
theorem ctPosition_add_lt (hF : 0 < d.firstSegmentSize) {i L : Nat} (h : i + 1 < d.segmentCount L) :
    d.ctPosition i + d.segmentSize i < L := by
  rw [← ctPosition_succ hF]
  unfold SegmentDecrypter.ctPosition
  rw [if_neg (by omega)]
  exact (lt_segmentCount_iff (ctSegmentSize_pos hF)).1 h

/-- Behind the last segment there is nothing. -/
theorem le_ctPosition (hF : 0 < d.firstSegmentSize) {i L : Nat} (hi : 0 < i) (h : d.segmentCount L ≤ i) :
    L ≤ d.ctPosition i := by
  have := mt (lt_segmentCount_iff (ctSegmentSize_pos hF)).2 (Nat.not_lt.2 h)
  unfold SegmentDecrypter.ctPosition
  rw [if_neg (by omega)]
  omega

/-- The source is its segments, behind the header. -/
theorem drop_eq_segments (hF : 0 < d.firstSegmentSize) (C : Bytes) (n : Nat) :
    C.drop (d.ctPosition 0) = ((List.range n).map (d.segment C)).flatten ++ C.drop (d.ctPosition n) := by
  induction n with
  | zero => rfl
  | succ n ih =>
    rw [ih, List.range_succ, List.map_append, List.flatten_append, List.append_assoc]
    congr 1
    rw [List.map_singleton, List.flatten_singleton, ctPosition_succ hF, ← List.drop_drop]
    exact (List.take_append_drop _ _).symm

theorem ptStart_succ (h : d.ciphertextOffset + d.headerSize < d.plaintextSegmentSize) (i : Nat) :
    d.ptStart (i + 1) + d.ciphertextOffset + d.headerSize = (i + 1) * d.plaintextSegmentSize := by
  unfold SegmentDecrypter.ptStart
  rw [start, Nat.succ_mul]
  omega

theorem ptStart_mono (h : d.ciphertextOffset + d.headerSize < d.plaintextSegmentSize) {i j : Nat} (hij : i ≤ j) :
    d.ptStart i ≤ d.ptStart j := by
  cases i with
  | zero => exact Nat.zero_le _
  | succ i =>
    obtain ⟨j, rfl⟩ : ∃ n, j = n + 1 := ⟨j - 1, by omega⟩
    have hi := ptStart_succ h i
    have hj := ptStart_succ h j
    have := Nat.mul_le_mul_right d.plaintextSegmentSize hij
    omega

/-- The segment of a position is the one it lies in. -/
theorem segmentNr_eq_iff (h : d.ciphertextOffset + d.headerSize < d.plaintextSegmentSize) {x i : Nat} :
    d.segmentNr x = i ↔ d.ptStart i ≤ x ∧ x < d.ptStart (i + 1) := by
  have hsucc := ptStart_succ h i
  rw [Nat.succ_mul] at hsucc
  have hpos : 0 < d.plaintextSegmentSize := by omega
  have hle : d.ptStart i ≤ x ↔ i * d.plaintextSegmentSize ≤ x + d.ciphertextOffset + d.headerSize := by
    cases i with
    | zero => simp [SegmentDecrypter.ptStart, start]
    | succ i =>
      have := ptStart_succ h i
      omega
  unfold SegmentDecrypter.segmentNr
  rw [Nat.div_eq_iff hpos, hle]
  omega

theorem segmentNr_spec (h : d.ciphertextOffset + d.headerSize < d.plaintextSegmentSize) (x : Nat) :
    d.ptStart (d.segmentNr x) ≤ x ∧ x < d.ptStart (d.segmentNr x + 1) :=
  (segmentNr_eq_iff h).1 rfl

theorem segmentNr_ptStart (h : d.ciphertextOffset + d.headerSize < d.plaintextSegmentSize) (i : Nat) :
    d.segmentNr (d.ptStart i) = i := by
  rw [segmentNr_eq_iff h]
  refine ⟨le_rfl, ?_⟩
  have hsucc := ptStart_succ h i
  rw [Nat.succ_mul] at hsucc
  cases i with
  | zero =>
    show 0 < d.ptStart (0 + 1)
    omega
  | succ i =>
    have := ptStart_succ h i
    omega

theorem segmentNr_mono {x y : Nat} (h : x ≤ y) : d.segmentNr x ≤ d.segmentNr y :=
  Nat.div_le_div_right (by omega)

theorem plaintextOffset_eq (h : d.ciphertextOffset + d.headerSize < d.plaintextSegmentSize) (x : Nat) :
    (if d.segmentNr x = 0 then x else (x + d.ciphertextOffset + d.headerSize) % d.plaintextSegmentSize) =
      x - d.ptStart (d.segmentNr x) := by
  have hdiv := Nat.div_add_mod (x + d.ciphertextOffset + d.headerSize) d.plaintextSegmentSize
  rw [Nat.mul_comm] at hdiv
  change d.segmentNr x * _ + _ = _ at hdiv
  cases hx : d.segmentNr x with
  | zero => simp [SegmentDecrypter.ptStart, start]
  | succ i =>
    have := ptStart_succ h i
    rw [hx] at hdiv
    simp only [Nat.add_one_ne_zero, if_false]
    omega

end Geometry

/-! ## Initialization -/

section Initialize
variable {κ σ : Type} {At : σ → Prop} {d : SegmentDecrypter κ} {k : κ} {C : Bytes}

/-- The stream that `New` makes. -/
def fresh (d : SegmentDecrypter κ) (src : σ) : DecryptingRandomAccessStream κ σ :=
  ⟨d, src, none, .error ⟨.unavailable, "The header hasn't been read yet."⟩, 0, 0, 0, 0, 0, 0, 0⟩

/-- The stream once it has read the header `k` comes from, over a source of `ctSize` bytes. -/
def ready (d : SegmentDecrypter κ) (k : κ) (ctSize : Nat) (src : σ) : DecryptingRandomAccessStream κ σ :=
  ⟨d, src, some k, .ok (), d.headerSize, d.ciphertextOffset, d.ciphertextSegmentSize, d.plaintextSegmentSize,
    d.ciphertextSegmentSize - d.plaintextSegmentSize, d.segmentCount ctSize, d.ptSize ctSize⟩

/-- The sizes that `InitializeIfNeeded` accepts. -/
structure ReportsSize (d : SegmentDecrypter κ) (ctSize : Nat) : Prop where
  headerSize_pos  : 0 < d.headerSize
  segmentCount_le : d.segmentCount ctSize ≤ 2 ^ 32
  ptSize_nonneg   : 0 ≤ d.ptSize ctSize

theorem new_eq {src : σ} (hF : (0 : Int) < d.plaintextSegmentSize - d.ciphertextOffset - d.headerSize) :
    DecryptingRandomAccessStream.new d src = .ok (fresh d src) := by
  unfold DecryptingRandomAccessStream.new
  rw [if_neg (by omega)]
  rfl

theorem setSize_eq (hr : ReportsSize d C.length) (src : σ) :
    DecryptingRandomAccessStream.setSize ⟨d, src, some k, .ok (), d.headerSize, d.ciphertextOffset,
      d.ciphertextSegmentSize, d.plaintextSegmentSize, d.ciphertextSegmentSize - d.plaintextSegmentSize, 0, 0⟩ C.length =
      ready d k C.length src := by
  have hcount := hr.segmentCount_le
  have hsize := hr.ptSize_nonneg
  unfold SegmentDecrypter.ptSize at hsize
  unfold SegmentDecrypter.segmentCount at hcount hsize
  unfold DecryptingRandomAccessStream.setSize
  simp only
  rw [if_neg (by omega), if_neg (by omega)]
  rfl

/-- A size that is not accepted ends in an error. -/
theorem setSize_of_not (h0 : 0 < d.headerSize) (hr : ¬ ReportsSize d C.length) (src : σ) :
    ∃ e, (DecryptingRandomAccessStream.setSize ⟨d, src, some k, .ok (), d.headerSize, d.ciphertextOffset,
      d.ciphertextSegmentSize, d.plaintextSegmentSize, d.ciphertextSegmentSize - d.plaintextSegmentSize, 0, 0⟩
      C.length).status = .error e := by
  by_cases hcount : d.segmentCount C.length ≤ 2 ^ 32
  · by_cases hsize : 0 ≤ d.ptSize C.length
    · exact absurd ⟨h0, hcount, hsize⟩ hr
    · unfold SegmentDecrypter.ptSize at hsize
      unfold SegmentDecrypter.segmentCount at hcount hsize
      unfold DecryptingRandomAccessStream.setSize
      simp only
      rw [if_neg (by omega), if_pos (by omega)]
      exact ⟨_, rfl⟩
  · unfold SegmentDecrypter.segmentCount at hcount
    unfold DecryptingRandomAccessStream.setSize
    simp only
    rw [if_pos (by omega)]
    exact ⟨_, rfl⟩

variable [RandomAccessStream σ]

/-- `InitializeIfNeeded` after a header was read. -/
theorem initializeIfNeeded_of_pread (hC : Holds C At) (h0 : 0 < d.headerSize) {src src' : σ} {buf : Bytes}
    (hpread : RandomAccessStream.pread d.ciphertextOffset d.headerSize src = ((.ok (), buf), src')) (hat : At src')
    (hinit : d.init none (resize buf d.headerSize) = .ok k) :
    ∃ src'', At src'' ∧ (fresh d src).initializeIfNeeded =
      DecryptingRandomAccessStream.setSize ⟨d, src'', some k, .ok (), d.headerSize, d.ciphertextOffset,
        d.ciphertextSegmentSize, d.plaintextSegmentSize, d.ciphertextSegmentSize - d.plaintextSegmentSize, 0, 0⟩
        C.length := by
  obtain ⟨src'', hsize, hat'⟩ := hC.size hat
  refine ⟨src'', hat', ?_⟩
  unfold DecryptingRandomAccessStream.initializeIfNeeded fresh
  have hne : d.headerSize ≠ 0 := by omega
  simp only [ne_eq, not_true_eq_false, if_false, hne, hpread, hinit, hsize]

/-- The header fills the buffer that it is read into. -/
theorem resize_header (h : d.ciphertextOffset + d.headerSize ≤ C.length) :
    resize ((C.drop d.ciphertextOffset).take d.headerSize) d.headerSize = (C.drop d.ciphertextOffset).take d.headerSize := by
  have hl : ((C.drop d.ciphertextOffset).take d.headerSize).length = d.headerSize := by
    rw [List.length_take, List.length_drop]
    omega
  conv_lhs => arg 2; rw [← hl]
  exact resize_self _

/-- **A stream over a source it accepts is made ready.** -/
theorem initializeIfNeeded_fresh (hC : Holds C At) (hr : ReportsSize d C.length)
    (hlen : d.ciphertextOffset + d.headerSize < C.length)
    (hinit : d.init none ((C.drop d.ciphertextOffset).take d.headerSize) = .ok k) {src : σ} (hat : At src) :
    ∃ src', At src' ∧ (fresh d src).initializeIfNeeded = ready d k C.length src' := by
  obtain ⟨status, src', hpread, hat', hok, -, -⟩ := hC.pread d.ciphertextOffset d.headerSize hr.headerSize_pos hat
  obtain rfl := hok hlen
  obtain ⟨src'', hat'', he⟩ := initializeIfNeeded_of_pread hC hr.headerSize_pos hpread hat'
    (by rw [resize_header hlen.le]; exact hinit)
  exact ⟨src'', hat'', by rw [he, setSize_eq hr]⟩

/-- **What a reported size means.** -/
theorem size_of_ok (hC : Holds C At) {src : σ} (hat : At src) {n : Int} {s : DecryptingRandomAccessStream κ σ}
    (h : (fresh d src).size = (.ok n, s)) :
    ∃ k src', At src' ∧ s = ready d k C.length src' ∧ n = d.ptSize C.length ∧ ReportsSize d C.length ∧
      d.init none (resize ((C.drop d.ciphertextOffset).take d.headerSize) d.headerSize) = .ok k := by
  -- a status that is not OK is what `size` returns
  have hstatus : (fresh d src).initializeIfNeeded.status = .ok () := by
    unfold DecryptingRandomAccessStream.size at h
    simp only at h
    split at h
    · cases h
    · rename_i hst
      exact hst
  by_cases h0 : d.headerSize = 0
  · unfold DecryptingRandomAccessStream.initializeIfNeeded fresh at hstatus
    simp [h0] at hstatus
  obtain ⟨status, src', hpread, hat', -, -, -⟩ := hC.pread d.ciphertextOffset d.headerSize (by omega) hat
  cases status with
  | error e =>
    unfold DecryptingRandomAccessStream.initializeIfNeeded fresh at hstatus
    simp [h0, hpread] at hstatus
  | ok =>
    cases hinit : d.init none (resize ((C.drop d.ciphertextOffset).take d.headerSize) d.headerSize) with
    | error e =>
      unfold DecryptingRandomAccessStream.initializeIfNeeded fresh at hstatus
      simp [h0, hpread, hinit] at hstatus
    | ok k =>
      obtain ⟨src'', hat'', he⟩ := initializeIfNeeded_of_pread hC (by omega) hpread hat' hinit
      by_cases hr : ReportsSize d C.length
      · rw [setSize_eq hr] at he
        unfold DecryptingRandomAccessStream.size at h
        rw [he] at h
        cases h
        exact ⟨k, src'', hat'', rfl, rfl, hr, rfl⟩
      · obtain ⟨e, herr⟩ := setSize_of_not (k := k) (by omega) hr src''
        rw [he, herr] at hstatus
        cases hstatus

end Initialize

/-! ## One segment -/

section Segment
variable {κ σ : Type} [RandomAccessStream σ] {At : σ → Prop} {d : SegmentDecrypter κ} {k : κ} {C : Bytes}

/-- What `ReadAndDecryptSegment` makes of a segment it has read. -/
def decrypted (d : SegmentDecrypter κ) (k : κ) (C : Bytes) (i : Nat) (ptSegment : Bytes)
    (s : DecryptingRandomAccessStream κ σ) : Except Status Unit × Bytes × DecryptingRandomAccessStream κ σ :=
  match d.decryptSegment k (d.segment C i) i (decide (i + 1 = d.segmentCount C.length)) with
  | .ok p => (if i + 1 = d.segmentCount C.length then .error ⟨.outOfRange, "EOF"⟩ else .ok (), p, s)
  | .error e => (.error e, ptSegment, s)

/-- The same, when the source has read it with this status. -/
def decryptedAfter (status : Except Status Unit) (d : SegmentDecrypter κ) (k : κ) (C : Bytes) (i : Nat)
    (ptSegment : Bytes) (s : DecryptingRandomAccessStream κ σ) :
    Except Status Unit × Bytes × DecryptingRandomAccessStream κ σ :=
  match status with
  | .ok () => decrypted d k C i ptSegment s
  | .error e =>
    if decide (i + 1 = d.segmentCount C.length) && 0 < (d.segment C i).length && e.code = .outOfRange then
      decrypted d k C i ptSegment s
    else (.error e, ptSegment, s)

/-- `ReadAndDecryptSegment` on a ready stream, by what its source gives. -/
theorem readAndDecryptSegment_of_read (hF : 0 < d.firstSegmentSize) {i L : Nat}
    (hfit : i * d.ciphertextSegmentSize < 2 ^ 63) {src src' : σ} {status : Except Status Unit} {c : Bytes}
    (hpread : RandomAccessStream.pread (d.ctPosition i) (d.segmentSize i) src = ((status, c), src'))
    (ptSegment : Bytes) :
    (ready d k L src).readAndDecryptSegment i ptSegment =
      let decrypt :=
        match d.decryptSegment k c i (decide (i + 1 = d.segmentCount L)) with
        | .ok p => (if i + 1 = d.segmentCount L then .error ⟨.outOfRange, "EOF"⟩ else .ok (), p, ready d k L src')
        | .error e => (.error e, ptSegment, ready d k L src')
      match status with
      | .ok () => decrypt
      | .error e =>
        if decide (i + 1 = d.segmentCount L) && 0 < c.length && e.code = .outOfRange then decrypt
        else (.error e, ptSegment, ready d k L src') := by
  have hsize : (if i = 0 then d.ciphertextSegmentSize - (if i = 0 then d.ciphertextOffset + d.headerSize else
      i * d.ciphertextSegmentSize) else d.ciphertextSegmentSize) = d.segmentSize i := by
    unfold SegmentDecrypter.segmentSize
    unfold SegmentDecrypter.firstSegmentSize at hF ⊢
    split
    · omega
    · rfl
  unfold DecryptingRandomAccessStream.readAndDecryptSegment ready
  simp only [hsize]
  rw [if_neg (by omega)]
  unfold SegmentDecrypter.ctPosition at hpread
  simp only [hpread, DecryptingRandomAccessStream.decryptSegment, decide_eq_true_eq]
  cases d.decryptSegment k c i (decide (i + 1 = d.segmentCount L)) with
  | ok p =>
    cases status with
    | ok => rfl
    | error e => rfl
  | error err =>
    cases status with
    | ok => rfl
    | error e => rfl

/-- The same, on a segment that is all there. -/
theorem readAndDecryptSegment_of_pread (hF : 0 < d.firstSegmentSize) {i : Nat}
    (hfit : i * d.ciphertextSegmentSize < 2 ^ 63) {src src' : σ} {status : Except Status Unit}
    (hpread : RandomAccessStream.pread (d.ctPosition i) (d.segmentSize i) src = ((status, d.segment C i), src'))
    (ptSegment : Bytes) :
    (ready d k C.length src).readAndDecryptSegment i ptSegment =
      decryptedAfter status d k C i ptSegment (ready d k C.length src') := by
  rw [readAndDecryptSegment_of_read hF hfit hpread]
  unfold decryptedAfter decrypted
  cases status with
  | ok => rfl
  | error e => rfl

theorem readAndDecryptSegment_overflow (s : DecryptingRandomAccessStream κ σ) {i : Nat}
    (h : ¬ i * s.ctSegmentSize < 2 ^ 63) (ptSegment : Bytes) :
    ∃ e, s.readAndDecryptSegment i ptSegment = (.error e, ptSegment, s) ∧ e.code = .outOfRange := by
  unfold DecryptingRandomAccessStream.readAndDecryptSegment
  simp only
  rw [if_pos (Nat.le_of_not_lt h)]
  exact ⟨_, rfl, rfl⟩

/-- **A segment of the source is decrypted**, the last one as the last. -/
theorem readAndDecryptSegment_eq (hC : Holds C At) (hF : 0 < d.firstSegmentSize) {i : Nat}
    (hi : i < d.segmentCount C.length) (hne : d.ctPosition i < C.length) (hfit : i * d.ciphertextSegmentSize < 2 ^ 63)
    {src : σ} (hat : At src) (ptSegment : Bytes) :
    ∃ src', At src' ∧ (ready d k C.length src).readAndDecryptSegment i ptSegment =
      decrypted d k C i ptSegment (ready d k C.length src') := by
  have hpos := segmentSize_pos hF i
  obtain ⟨status, src', hpread, hat', hok, -, hcode⟩ := hC.pread (d.ctPosition i) (d.segmentSize i) hpos hat
  refine ⟨src', hat', ?_⟩
  rw [readAndDecryptSegment_of_pread hF hfit hpread]
  cases status with
  | ok => rfl
  | error e =>
    -- only the last segment reaches the end
    have hlast : i + 1 = d.segmentCount C.length := by
      by_contra hcon
      have := hok (ctPosition_add_lt hF (by omega))
      cases this
    have hlen : 0 < (d.segment C i).length := by
      unfold SegmentDecrypter.segment
      rw [List.length_take, List.length_drop]
      omega
    simp [decryptedAfter, hlast, hlen, hcode e rfl]

/-- Behind the last segment nothing is read. -/
theorem readAndDecryptSegment_behind (hC : Holds C At) (hF : 0 < d.firstSegmentSize) {i : Nat} (hpos : 0 < i)
    (hi : d.segmentCount C.length ≤ i) {src : σ} (hat : At src) (ptSegment : Bytes) :
    ∃ e src', At src' ∧ (ready d k C.length src).readAndDecryptSegment i ptSegment =
      (.error e, ptSegment, ready d k C.length src') ∧ e.code = .outOfRange := by
  by_cases hfit : i * d.ciphertextSegmentSize < 2 ^ 63
  · obtain ⟨status, src', hpread, hat', -, hend, hcode⟩ :=
      hC.pread (d.ctPosition i) (d.segmentSize i) (segmentSize_pos hF i) hat
    cases status with
    | ok => exact absurd rfl (hend (le_ctPosition hF hpos hi))
    | error e =>
      refine ⟨e, src', hat', ?_, hcode e rfl⟩
      rw [readAndDecryptSegment_of_pread hF hfit hpread]
      have hlast : i + 1 ≠ d.segmentCount C.length := by omega
      simp [decryptedAfter, hlast]
  · obtain ⟨e, he, hcode⟩ := readAndDecryptSegment_overflow (ready d k C.length src) hfit ptSegment
    exact ⟨e, src, hat, he, hcode⟩

/-- A ready stream stays ready. -/
theorem readAndDecryptSegment_ready (hstay : ReadsStay At) (hF : 0 < d.firstSegmentSize) (i : Nat) {L : Nat} {src : σ}
    (hat : At src) (ptSegment : Bytes) :
    ∃ status ptSegment' src', At src' ∧ (ready d k L src).readAndDecryptSegment i ptSegment =
      (status, ptSegment', ready d k L src') := by
  by_cases hfit : i * d.ciphertextSegmentSize < 2 ^ 63
  · obtain ⟨status, c, src', hpread, hat'⟩ := hstay (d.ctPosition i) (d.segmentSize i) (segmentSize_pos hF i) hat
    rw [readAndDecryptSegment_of_read hF hfit hpread]
    cases d.decryptSegment k c i (decide (i + 1 = d.segmentCount L)) with
    | ok p =>
      cases status with
      | ok => exact ⟨_, _, src', hat', rfl⟩
      | error e =>
        simp only
        split
        · exact ⟨_, _, src', hat', rfl⟩
        · exact ⟨_, _, src', hat', rfl⟩
    | error err =>
      cases status with
      | ok => exact ⟨_, _, src', hat', rfl⟩
      | error e =>
        simp only
        split
        · exact ⟨_, _, src', hat', rfl⟩
        · exact ⟨_, _, src', hat', rfl⟩
  · obtain ⟨e, he, -⟩ := readAndDecryptSegment_overflow (ready d k L src) hfit ptSegment
    exact ⟨_, _, src, hat, he⟩

end Segment

end Tink
