import TinkCc.BufferedInputStream
import TinkCc.FileOutputStreams
import TinkCc.HkdfInputStream
/-!
# FileInputStreams — input streams over a file and over an istream, and reading from any stream

`file_input_stream.cc`, `istream_input_stream.cc`, and `input_stream_util.cc` on top of them.  The two classes have the
same members and differ in how the buffer is filled.

`ReadsExactly` is what `ReadBytesFromStream` gives over every stream that keeps to `input_stream.h`, and
`BufferedInput.readsFrom` that both classes keep to it whatever the sizes of the single reads.
-/
namespace Tink

/-! ## The sources -/

/-- Where the buffer of an input stream is filled from; `fetch` may give nothing only finitely often in a row. -/
class InputSource (ι : Type) where
  fetch   : (count : Nat) → ι → Except Status Bytes × ι
  rank    : ι → Nat
  rank_lt : ∀ {count i i'}, 0 < count → fetch count i = (.ok [], i') → rank i' < rank i

/-- What `read` did; `interrupted` is a failure with EINTR, and no bytes are the end of the file. -/
inductive ReadResult
  | got (bytes : Bytes)
  | interrupted
  | failed
  deriving DecidableEq, Repr

/-- A file open for reading. -/
class ReadableFile (φ : Type) where
  read    : (count : Nat) → φ → ReadResult × φ
  rank    : φ → Nat
  rank_lt : ∀ {count f f'}, read count f = (.interrupted, f') → rank f' < rank f

/-- `none` is the result -1 of `read`. -/
def readIgnoringEintr {φ : Type} [ReadableFile φ] (count : Nat) (file : φ) : Option Bytes × φ :=
  match _hread : ReadableFile.read count file with
  | (.interrupted, f) => readIgnoringEintr count f
  | (.got bytes, f) => (some bytes, f)
  | (.failed, f) => (none, f)
termination_by ReadableFile.rank file
decreasing_by exact ReadableFile.rank_lt _hread

instance {φ : Type} [ReadableFile φ] : InputSource (FileDescriptor φ) where
  fetch count i :=
    match readIgnoringEintr count i.file with
    | (none, f) => (.error ⟨.internal, s!"I/O error: {(-1 : Int)}"⟩, ⟨f⟩)
    | (some [], f) => (.error ⟨.outOfRange, "EOF"⟩, ⟨f⟩)
    | (some (b :: bytes), f) => (.ok (b :: bytes), ⟨f⟩)
  rank _ := 0
  rank_lt _ h := by
    split at h
    · cases h
    · cases h
    · cases h

/-- The sequence that a `std::streambuf` gets its characters from: the next ones, none at the end. -/
class CharSource (β : Type) where
  underflow : β → Bytes × β
  strerror  : β → String

/-- A `std::streambuf`: the characters it has, and where it gets the next ones. -/
structure InputStreambuf (β : Type) where
  getArea : Bytes
  source  : β

/-- `sgetn`: characters are taken until there are enough, or `underflow` has none. -/
def InputStreambuf.sgetn {β : Type} [CharSource β] (count : Nat) (sb : InputStreambuf β) : Bytes × InputStreambuf β :=
  if count ≤ sb.getArea.length then (sb.getArea.take count, { sb with getArea := sb.getArea.drop count })
  else
    match _hnext : CharSource.underflow sb.source with
    | ([], source) => (sb.getArea, ⟨[], source⟩)
    | (b :: bytes, source) =>
      let (rest, sb') := sgetn (count - sb.getArea.length) ⟨b :: bytes, source⟩
      (sb.getArea ++ rest, sb')
termination_by (count, if sb.getArea = [] then 1 else 0)
decreasing_by
  rw [Prod.lex_def]
  by_cases h0 : sb.getArea = []
  · right
    simp [h0]
  · left
    have := List.length_pos_iff.2 h0
    simp only
    omega

/-- A `std::istream`. -/
structure Istream (β : Type) where
  rdbuf   : InputStreambuf β
  eofbit  : Bool
  failbit : Bool
  badbit  : Bool
  gcount  : Nat

namespace Istream
variable {β : Type}

def good (i : Istream β) : Bool := !i.eofbit && !i.failbit && !i.badbit

variable [CharSource β]

/-- `std::istream::read`: a stream that is not good reads nothing, and one that gets too little has reached its end. -/
def read (count : Nat) (i : Istream β) : Bytes × Istream β :=
  if i.good then
    let (bytes, sb) := i.rdbuf.sgetn count
    (bytes, { i with rdbuf := sb, gcount := bytes.length, eofbit := decide (bytes.length < count),
                     failbit := decide (bytes.length < count) })
  else ([], { i with failbit := true, gcount := 0 })

/-- How `IstreamInputStream::Next` fills its buffer. -/
def fetch (count : Nat) (i : Istream β) : Except Status Bytes × Istream β :=
  let (bytes, i) := i.read count
  if i.gcount = 0 then
    if i.good then (.ok [], i)
    else if i.eofbit then (.error ⟨.outOfRange, "EOF"⟩, i)
    else (.error ⟨.internal, "I/O error: " ++ CharSource.strerror i.rdbuf.source⟩, i)
  else (.ok bytes, i)

theorem read_of_good {count : Nat} {i : Istream β} (h : i.good = true) {bytes : Bytes} {sb : InputStreambuf β}
    (hget : i.rdbuf.sgetn count = (bytes, sb)) :
    i.read count = (bytes, { i with rdbuf := sb, gcount := bytes.length, eofbit := decide (bytes.length < count),
                                    failbit := decide (bytes.length < count) }) := by
  simp only [read, h, hget, if_true]

/-- A good stream gives some of its bytes, or has reached its end. -/
theorem fetch_of_good {count : Nat} {i : Istream β} (hcount : 0 < count) (h : i.good = true) {bytes : Bytes}
    {sb : InputStreambuf β} (hget : i.rdbuf.sgetn count = (bytes, sb)) :
    i.fetch count = (if bytes = [] then .error ⟨.outOfRange, "EOF"⟩ else .ok bytes,
      { i with rdbuf := sb, gcount := bytes.length, eofbit := decide (bytes.length < count),
               failbit := decide (bytes.length < count) }) := by
  simp only [fetch, read_of_good h hget]
  by_cases hnil : bytes = []
  · simp [hnil, hcount, good]
  · simp [hnil]

/-- A stream that is not good gives an error. -/
theorem fetch_of_bad (count : Nat) {i : Istream β} (h : i.good = false) :
    i.fetch count =
      (if i.eofbit then .error ⟨.outOfRange, "EOF"⟩
        else .error ⟨.internal, "I/O error: " ++ CharSource.strerror i.rdbuf.source⟩,
        { i with failbit := true, gcount := 0 }) := by
  have hgood : ({ i with failbit := true, gcount := 0 } : Istream β).good = false := by simp [good]
  simp only [fetch, read, h, hgood, Bool.false_eq_true, if_false, if_true]
  split
  · rfl
  · rfl

instance : InputSource (Istream β) where
  fetch := fetch
  rank _ := 0
  rank_lt {count i i'} hcount h := by
    cases hgood : i.good with
    | true =>
      rw [fetch_of_good hcount hgood rfl] at h
      split at h
      · cases h
      · rename_i hne
        simp only [Prod.mk.injEq, Except.ok.injEq] at h
        exact absurd h.1 hne
    | false =>
      rw [fetch_of_bad count hgood] at h
      split at h
      · cases h
      · cases h

end Istream


/-! ## The stream -/

/-- The members of `FileInputStream` and of `IstreamInputStream`. -/
structure BufferedInput (ι : Type) where
  input          : ι
  status         : Except Status Unit
  buffer         : Bytes
  bufferSize     : Nat
  bufferSize_pos : 0 < bufferSize
  position       : Int
  countInBuffer  : Nat
  countBackedup  : Nat
  bufferOffset   : Nat

namespace BufferedInput
variable {ι : Type}

def sizeOf (bufferSize : Int) : Nat := if bufferSize > 0 then bufferSize.toNat else 128 * 1024

theorem sizeOf_pos (bufferSize : Int) : 0 < sizeOf bufferSize := by
  unfold sizeOf
  split
  · omega
  · omega

def new (input : ι) (bufferSize : Int) : BufferedInput ι :=
  { input := input, status := .ok (), buffer := List.replicate (sizeOf bufferSize) 0, bufferSize := sizeOf bufferSize,
    bufferSize_pos := sizeOf_pos bufferSize, position := 0, countInBuffer := 0, countBackedup := 0, bufferOffset := 0 }

def backUp (count : Int) (s : BufferedInput ι) : BufferedInput ι :=
  match s.status with
  | .error _ => s
  | .ok () =>
    if count < 1 ∨ s.countBackedup = s.countInBuffer then s
    else
      let actualCount := min count.toNat (s.countInBuffer - s.countBackedup)
      { s with countBackedup := s.countBackedup + actualCount, position := s.position - actualCount }

/-- The bytes that the caller sees at `*data`. -/
def data (s : BufferedInput ι) : Bytes := (s.buffer.drop s.bufferOffset).take s.countInBuffer

variable [InputSource ι]

def next (s : BufferedInput ι) : Except Status Bytes × BufferedInput ι :=
  match s.status with
  | .error e => (.error e, s)
  | .ok () =>
    if 0 < s.countBackedup then
      let s' := { s with bufferOffset := s.bufferOffset + (s.countInBuffer - s.countBackedup),
                         countInBuffer := s.countBackedup, countBackedup := 0,
                         position := s.position + s.countBackedup }
      (.ok s'.data, s')
    else
      match InputSource.fetch s.bufferSize s.input with
      | (.error e, i) => (.error e, { s with input := i, status := .error e })
      | (.ok [], i) => (.ok [], { s with input := i })
      | (.ok (b :: bytes), i) =>
        let countRead := (b :: bytes).length
        let s' := { s with input := i, buffer := b :: bytes ++ s.buffer.drop countRead, bufferOffset := 0,
                           countBackedup := 0, countInBuffer := countRead, position := s.position + countRead }
        (.ok s'.data, s')

instance : InputStream (BufferedInput ι) where
  next := next
  backUp := backUp
  -- backed-up bytes are returned before the source is asked
  rank s := InputSource.rank s.input + if 0 < s.countBackedup then 1 else 0
  rank_lt {s s'} h := by
    unfold next at h
    split at h
    · cases h
    · split at h
      · rename_i hback
        simp only [Prod.mk.injEq] at h
        obtain ⟨-, rfl⟩ := h
        simp [hback]
      · rename_i hback
        split at h
        · cases h
        · rename_i i hfetch
          cases h
          exact Nat.add_lt_add_right (InputSource.rank_lt s.bufferSize_pos hfetch) _
        · simp [data] at h

instance : PositionedStream (BufferedInput ι) where
  position s := s.position

end BufferedInput

/-- `FileInputStream`. -/
abbrev FileInputStream (φ : Type) := BufferedInput (FileDescriptor φ)

/-- `IstreamInputStream`. -/
abbrev IstreamInputStream (β : Type) := BufferedInput (Istream β)

/-! ## Sources over fixed bytes -/

/-- A source over the bytes `S`: each fetch gives some of what comes next, and it fails at the end only. -/
structure Feeds {ι : Type} [InputSource ι] (S : Bytes) (Src : ι → Nat → Prop) : Prop where
  fetch_ok    : ∀ {count i pos bytes i'}, 0 < count → Src i pos → InputSource.fetch count i = (.ok bytes, i') →
    bytes ≠ [] ∧ bytes <+: S.drop pos ∧ Src i' (pos + bytes.length)
  fetch_error : ∀ {count i pos e i'}, 0 < count → Src i pos → InputSource.fetch count i = (.error e, i') →
    e.code = .outOfRange ∧ S.length ≤ pos

/-- **A file with the bytes `S` that is read in pieces of any sizes**: only at the end are there no bytes. -/
structure ReadsShort {φ : Type} [ReadableFile φ] (S : Bytes) (Src : φ → Nat → Prop) : Prop where
  got         : ∀ {count f pos bytes f'}, Src f pos → ReadableFile.read count f = (.got bytes, f') →
    bytes <+: S.drop pos ∧ bytes.length ≤ count ∧ (0 < count → bytes = [] → S.length ≤ pos) ∧
      Src f' (pos + bytes.length)
  interrupted : ∀ {count f pos f'}, Src f pos → ReadableFile.read count f = (.interrupted, f') → Src f' pos
  succeeds    : ∀ {count f pos f'}, Src f pos → ReadableFile.read count f ≠ (.failed, f')

/-- The same of the characters of an istream. -/
structure FlowsShort {β : Type} [CharSource β] (S : Bytes) (Src : β → Nat → Prop) : Prop where
  underflow : ∀ {b pos bytes b'}, Src b pos → CharSource.underflow b = (bytes, b') →
    bytes <+: S.drop pos ∧ (bytes = [] → S.length ≤ pos) ∧ Src b' (pos + bytes.length)

section File
variable {φ : Type} [ReadableFile φ] {S : Bytes} {Src : φ → Nat → Prop}

theorem ReadsShort.readIgnoringEintr (hr : ReadsShort S Src) {count pos : Nat} (hcount : 0 < count) (file : φ)
    (hsrc : Src file pos) :
    ∃ bytes f', readIgnoringEintr count file = (some bytes, f') ∧ bytes <+: S.drop pos ∧
      (bytes = [] → S.length ≤ pos) ∧ Src f' (pos + bytes.length) := by
  rw [Tink.readIgnoringEintr]
  split
  · rename_i f hread
    exact ReadsShort.readIgnoringEintr hr hcount f (hr.interrupted hsrc hread)
  · rename_i bytes f hread
    obtain ⟨hbytes, -, hend, hsrc'⟩ := hr.got hsrc hread
    exact ⟨bytes, f, rfl, hbytes, hend hcount, hsrc'⟩
  · rename_i f hread
    exact absurd hread (hr.succeeds hsrc)
termination_by ReadableFile.rank file
decreasing_by
  rename_i hread
  exact ReadableFile.rank_lt hread

theorem ReadsShort.feeds (hr : ReadsShort S Src) : Feeds S (fun (i : FileDescriptor φ) pos => Src i.file pos) where
  fetch_ok {count i pos bytes i'} hcount hsrc h := by
    obtain ⟨bytes', f, hread, hbytes, -, hsrc'⟩ := hr.readIgnoringEintr hcount i.file hsrc
    simp only [InputSource.fetch, hread] at h
    cases bytes' with
    | nil => cases h
    | cons b bytes' =>
      cases h
      exact ⟨List.cons_ne_nil b bytes', hbytes, hsrc'⟩
  fetch_error {count i pos e i'} hcount hsrc h := by
    obtain ⟨bytes', f, hread, -, hend, -⟩ := hr.readIgnoringEintr hcount i.file hsrc
    simp only [InputSource.fetch, hread] at h
    cases bytes' with
    | nil =>
      cases h
      exact ⟨rfl, hend rfl⟩
    | cons b bytes' => cases h

end File


section Istream
variable {β : Type} [CharSource β] {S : Bytes} {Src : β → Nat → Prop}

/-- A stream buffer at a place in `S`: what it has comes next, and then what its source gives. -/
def InputStreambuf.At (S : Bytes) (Src : β → Nat → Prop) (sb : InputStreambuf β) (pos : Nat) : Prop :=
  sb.getArea <+: S.drop pos ∧ Src sb.source (pos + sb.getArea.length)

theorem FlowsShort.sgetn (hf : FlowsShort S Src) (count : Nat) (sb : InputStreambuf β) (pos : Nat)
    (hat : sb.At S Src pos) :
    (sb.sgetn count).1 = (S.drop pos).take count ∧ (sb.sgetn count).2.At S Src (pos + (sb.sgetn count).1.length) := by
  obtain ⟨⟨tail, htail⟩, hsrc⟩ := hat
  have hdrop : S.drop (pos + sb.getArea.length) = tail := by rw [← List.drop_drop, ← htail, List.drop_left]
  rw [InputStreambuf.sgetn]
  by_cases hle : count ≤ sb.getArea.length
  · rw [if_pos hle]
    refine ⟨by rw [← htail, List.take_append_of_le_length hle], ⟨tail, ?_⟩, ?_⟩
    · simp only [List.length_take, Nat.min_eq_left hle]
      rw [← List.drop_drop, ← htail, List.drop_append_of_le_length hle]
    · simp only [List.length_take, List.length_drop, Nat.min_eq_left hle]
      rw [show pos + count + (sb.getArea.length - count) = pos + sb.getArea.length by omega]
      exact hsrc
  · rw [if_neg hle]
    split
    · -- the end
      rename_i source hnext
      obtain ⟨-, hend, hsrc'⟩ := hf.underflow hsrc hnext
      have hnil : tail = [] := by rw [← hdrop, List.drop_eq_nil_of_le (hend rfl)]
      rw [hnil, List.append_nil] at htail
      refine ⟨by rw [← htail, List.take_of_length_le (by omega)], ⟨S.drop (pos + sb.getArea.length), ?_⟩, hsrc'⟩
      rfl
    · rename_i b bytes source hnext
      obtain ⟨hbytes, -, hsrc'⟩ := hf.underflow hsrc hnext
      obtain ⟨hrest, hat'⟩ := FlowsShort.sgetn hf (count - sb.getArea.length) ⟨b :: bytes, source⟩ _ ⟨hbytes, hsrc'⟩
      refine ⟨?_, ?_⟩
      · simp only [hrest, hdrop]
        rw [← htail, List.take_append, List.take_of_length_le (i := count) (by omega)]
      · simp only [List.length_append]
        rw [← Nat.add_assoc]
        exact hat'
termination_by (count, if sb.getArea = [] then 1 else 0)
decreasing_by
  rw [Prod.lex_def]
  by_cases h0 : sb.getArea = []
  · right
    simp [h0]
  · left
    have := List.length_pos_iff.2 h0
    simp only
    omega

/-- An istream at a place in `S`: it is good, or it has found the end. -/
def Istream.At (S : Bytes) (Src : β → Nat → Prop) (i : Istream β) (pos : Nat) : Prop :=
  i.good = true ∧ i.rdbuf.At S Src pos ∨ i.good = false ∧ i.eofbit = true ∧ S.length ≤ pos

theorem FlowsShort.feeds (hf : FlowsShort S Src) : Feeds S (Istream.At S Src) where
  fetch_ok {count i pos bytes i'} hcount hat h := by
    change i.fetch count = _ at h
    rcases hat with ⟨hgood, hat⟩ | ⟨hbad, heof, -⟩
    · obtain ⟨hget, hat'⟩ := hf.sgetn count i.rdbuf pos hat
      rw [Istream.fetch_of_good hcount hgood rfl] at h
      split at h
      · cases h
      · rename_i hne
        simp only [Prod.mk.injEq, Except.ok.injEq] at h
        obtain ⟨rfl, rfl⟩ := h
        refine ⟨hne, by rw [hget]; exact List.take_prefix _ _, ?_⟩
        by_cases hshort : (i.rdbuf.sgetn count).1.length < count
        · -- less than asked for is the end
          right
          refine ⟨by simp [Istream.good, hshort], by simp [hshort], ?_⟩
          rw [hget, List.length_take, List.length_drop] at hshort ⊢
          omega
        · left
          refine ⟨?_, hat'⟩
          simp [Istream.good] at hgood ⊢
          exact ⟨by omega, hgood.2⟩
    · rw [Istream.fetch_of_bad count hbad, if_pos heof] at h
      cases h
  fetch_error {count i pos e i'} hcount hat h := by
    change i.fetch count = _ at h
    rcases hat with ⟨hgood, hat⟩ | ⟨hbad, heof, hend⟩
    · obtain ⟨hget, -⟩ := hf.sgetn count i.rdbuf pos hat
      rw [Istream.fetch_of_good hcount hgood rfl] at h
      split at h
      · rename_i hnil
        cases h
        have hlen := congrArg List.length (hget.symm.trans hnil)
        rw [List.length_take, List.length_drop, List.length_nil] at hlen
        exact ⟨rfl, by omega⟩
      · cases h
    · rw [Istream.fetch_of_bad count hbad, if_pos heof] at h
      cases h
      exact ⟨rfl, hend⟩

end Istream

/-! ## The streams keep to the interface -/

namespace BufferedInput
variable {ι : Type} {S : Bytes} {Src : ι → Nat → Prop}

/-- A stream at a place in `S`: its source is further by what was backed up, and the bytes its caller got last are those
before the source's place. -/
structure At (S : Bytes) (Src : ι → Nat → Prop) (s : BufferedInput ι) (c : Cursor) : Prop where
  status_ok : s.status = .ok ()
  src       : Src s.input (c.pos + s.countBackedup)
  back_le   : s.countBackedup ≤ s.countInBuffer
  last_eq   : c.last = s.countInBuffer - s.countBackedup
  count_le  : s.countInBuffer ≤ c.pos + s.countBackedup
  pos_le    : c.pos + s.countBackedup ≤ S.length
  data_eq   : s.data = (S.drop (c.pos + s.countBackedup - s.countInBuffer)).take s.countInBuffer
  position  : s.position = c.pos

theorem at_new {input : ι} (bufferSize : Int) (hsrc : Src input 0) : At S Src (new input bufferSize) ⟨0, 0⟩ where
  status_ok := rfl
  src := hsrc
  back_le := Nat.le_refl _
  last_eq := rfl
  count_le := Nat.le_refl _
  pos_le := Nat.zero_le _
  data_eq := by simp [data, new]
  position := rfl

variable {s : BufferedInput ι} {c : Cursor}

theorem At.backUp (hat : At S Src s c) (count : Int) : At S Src (s.backUp count) (c.backUp count) := by
  have hback := hat.back_le
  have hlast := hat.last_eq
  have hcount := hat.count_le
  have hposition := hat.position
  simp only [BufferedInput.backUp, hat.status_ok]
  split
  · -- an ignored call gives nothing back
    have h0 : min count.toNat c.last = 0 := by omega
    simp only [Cursor.backUp, h0, Nat.sub_zero]
    exact hat
  · have hactual : min count.toNat (s.countInBuffer - s.countBackedup) = min count.toNat c.last := by omega
    have hmin := Nat.min_le_right count.toNat c.last
    have hplace : c.pos - min count.toNat c.last + (s.countBackedup + min count.toNat c.last) =
        c.pos + s.countBackedup := by omega
    rw [hactual]
    refine ⟨rfl, ?_, ?_, ?_, ?_, ?_, ?_, ?_⟩
    · simp only [Cursor.backUp, hplace]
      exact hat.src
    · simp only
      omega
    · simp only [Cursor.backUp]
      omega
    · simp only [Cursor.backUp, hplace]
      exact hcount
    · simp only [Cursor.backUp, hplace]
      exact hat.pos_le
    · simp only [Cursor.backUp, hplace]
      exact hat.data_eq
    · simp only [Cursor.backUp]
      omega

variable [InputSource ι]

/-- A successful `Next` gives the next bytes, those that were backed up before any new ones. -/
theorem At.next_ok (hf : Feeds S Src) (hat : At S Src s c) {bytes : Bytes} {s' : BufferedInput ι}
    (h : s.next = (.ok bytes, s')) : bytes <+: S.drop c.pos ∧ At S Src s' (c.next bytes.length) := by
  have hback := hat.back_le
  have hcount := hat.count_le
  have hpos := hat.pos_le
  have hposition := hat.position
  simp only [next, hat.status_ok] at h
  split at h
  · -- the bytes that were backed up
    rename_i hpositive
    cases h
    have htail : (s.buffer.drop (s.bufferOffset + (s.countInBuffer - s.countBackedup))).take s.countBackedup =
        (S.drop c.pos).take s.countBackedup := by
      have hdrop := congrArg (List.drop (s.countInBuffer - s.countBackedup)) hat.data_eq
      rw [data, List.drop_take, List.drop_drop, List.drop_take, List.drop_drop,
        show s.countInBuffer - (s.countInBuffer - s.countBackedup) = s.countBackedup by omega,
        show c.pos + s.countBackedup - s.countInBuffer + (s.countInBuffer - s.countBackedup) = c.pos by omega] at hdrop
      exact hdrop
    have hlen : ((S.drop c.pos).take s.countBackedup).length = s.countBackedup := by
      rw [List.length_take, List.length_drop]
      omega
    simp only [data, htail, hlen]
    refine ⟨List.take_prefix _ _, rfl, hat.src, Nat.zero_le _, rfl, ?_, hpos, ?_, ?_⟩
    · simp only [Cursor.next]
      omega
    · simp only [data, htail, Cursor.next, Nat.add_zero, Nat.add_sub_cancel]
    · simp only [Cursor.next]
      omega
  · -- the next bytes of the source
    have h0 : s.countBackedup = 0 := by omega
    have hsrc := hat.src
    rw [h0, Nat.add_zero] at hsrc
    split at h
    · cases h
    · rename_i i hfetch
      exact absurd rfl (hf.fetch_ok s.bufferSize_pos hsrc hfetch).1
    · rename_i b bytes' i hfetch
      obtain ⟨-, hbytes, hsrc'⟩ := hf.fetch_ok s.bufferSize_pos hsrc hfetch
      generalize b :: bytes' = new at hbytes hsrc' h
      cases h
      have hle := hbytes.length_le
      rw [List.length_drop] at hle
      simp only [data, List.drop_zero, List.take_left]
      refine ⟨hbytes, rfl, hsrc', Nat.zero_le _, rfl, ?_, ?_, ?_, ?_⟩
      · simp only [Cursor.next]
        omega
      · simp only [Cursor.next]
        omega
      · simp only [data, List.drop_zero, List.take_left, Cursor.next, Nat.add_zero, Nat.add_sub_cancel]
        exact (List.prefix_iff_eq_take.1 hbytes)
      · simp only [Cursor.next]
        omega

theorem At.next_error (hf : Feeds S Src) (hat : At S Src s c) {e : Status} {s' : BufferedInput ι}
    (h : s.next = (.error e, s')) : e.code = .outOfRange ∧ S.length ≤ c.pos := by
  simp only [next, hat.status_ok] at h
  split at h
  · cases h
  · have h0 : s.countBackedup = 0 := by omega
    have hsrc := hat.src
    rw [h0, Nat.add_zero] at hsrc
    split at h
    · rename_i e' i hfetch
      cases h
      exact hf.fetch_error s.bufferSize_pos hsrc hfetch
    · cases h
    · cases h

/-- **Both classes keep to the interface**, whatever the sizes of the single reads. -/
theorem readsFrom (hf : Feeds S Src) : ReadsFrom S (At S Src) where
  next_ok hat h := hat.next_ok hf h
  next_error hat h := hat.next_error hf h
  backUp count hat := hat.backUp count

end BufferedInput

/-! ## Reading -/

/-- **Reading is exact**: the next `n` bytes when that many are left, an error otherwise, the stream `n` bytes further, and
two reads give what one of the sum gives. -/
structure ReadsExactly {σ : Type} (S : Bytes) (At : σ → Cursor → Prop)
    (read : Int → σ → Except Status Bytes × σ) : Prop where
  ok    : ∀ {s c} (n : Nat), At s c → n ≤ (S.drop c.pos).length →
    ∃ s' last, read n s = (.ok ((S.drop c.pos).take n), s') ∧ At s' ⟨c.pos + n, last⟩
  error : ∀ {s c} (n : Nat), At s c → (S.drop c.pos).length < n → ∃ e s', read n s = (.error e, s')
  add   : ∀ {s c} (n m : Nat), At s c → ∀ bytes,
    (read (n + m : Nat) s).1 = .ok bytes ↔ ∃ a b s', read n s = (.ok a, s') ∧ (read m s').1 = .ok b ∧ bytes = a ++ b

section Read
variable {σ : Type} [InputStream σ] {S : Bytes} {At : σ → Cursor → Prop}

theorem ReadsFrom.yields (hr : ReadsFrom S At) : Yields S At (fun pos _ _ => S.length ≤ pos) where
  next_ok := hr.next_ok
  next_error hat h := (hr.next_error hat h).2
  backUp count hat _ := hr.backUp count hat

theorem ReadsFrom.readBytes_ok (hr : ReadsFrom S At) {s : σ} {c : Cursor} (n : Nat) (hat : At s c)
    (hn : n ≤ (S.drop c.pos).length) :
    ∃ s' last, readBytesFromStream n s = (.ok ((S.drop c.pos).take n), s') ∧ At s' ⟨c.pos + n, last⟩ := by
  rcases hr.yields.readBytesLoop [] n s c hat with ⟨s', last, he, hat', -⟩ | ⟨e, s', pos, -, hend, hle, hpos⟩
  · exact ⟨s', last, he, hat'⟩
  · rw [List.length_drop] at hn
    omega

theorem ReadsFrom.readBytes_error (hr : ReadsFrom S At) {s : σ} {c : Cursor} (n : Nat) (hat : At s c)
    (hn : (S.drop c.pos).length < n) : ∃ e s', readBytesFromStream n s = (.error e, s') := by
  rcases hr.yields.readBytesLoop [] n s c hat with ⟨s', last, -, -, hlen⟩ | ⟨e, s', pos, he, -⟩
  · omega
  · exact ⟨e, s', he⟩

theorem ReadsFrom.readsExactly (hr : ReadsFrom S At) : ReadsExactly S At readBytesFromStream where
  ok := hr.readBytes_ok
  error := hr.readBytes_error
  add {s c} n m hat bytes := by
    by_cases hn : n ≤ (S.drop c.pos).length
    · obtain ⟨s₁, last₁, hfirst, hat₁⟩ := hr.readBytes_ok n hat hn
      have hdrop : (S.drop (c.pos + n)).length = (S.drop c.pos).length - n := by
        rw [List.length_drop, List.length_drop]
        omega
      by_cases hm : n + m ≤ (S.drop c.pos).length
      · obtain ⟨s', last, hboth, -⟩ := hr.readBytes_ok (n + m) hat hm
        obtain ⟨s₂, last₂, hsecond, -⟩ := hr.readBytes_ok m hat₁ (by simp only [hdrop]; omega)
        have hsum : (S.drop c.pos).take (n + m) = (S.drop c.pos).take n ++ (S.drop (c.pos + n)).take m := by
          rw [List.take_add, List.drop_drop]
        rw [hboth, hsum]
        constructor
        · intro h
          cases h
          exact ⟨_, _, s₁, hfirst, by rw [hsecond], rfl⟩
        · rintro ⟨a, b, s₁', ha, hb, rfl⟩
          rw [hfirst] at ha
          cases ha
          rw [hsecond] at hb
          cases hb
          rfl
      · obtain ⟨e, s', hboth⟩ := hr.readBytes_error (n + m) hat (by omega)
        obtain ⟨e₂, s₂, hsecond⟩ := hr.readBytes_error m hat₁ (by simp only [hdrop]; omega)
        rw [hboth]
        constructor
        · intro h
          cases h
        · rintro ⟨a, b, s₁', ha, hb, -⟩
          rw [hfirst] at ha
          cases ha
          rw [hsecond] at hb
          cases hb
    · obtain ⟨e, s', hboth⟩ := hr.readBytes_error (n + m) hat (by omega)
      obtain ⟨e₁, s₁, hfirst⟩ := hr.readBytes_error n hat (by omega)
      rw [hboth]
      constructor
      · intro h
        cases h
      · rintro ⟨a, b, s₁', ha, -⟩
        rw [hfirst] at ha
        cases ha

end Read

/-- What both classes promise of a new stream over the bytes `S`, with any buffer size: it keeps to the interface, its
position is the number of bytes its caller took, and reading from it is exact. -/
structure StreamsOver {ι : Type} [InputSource ι] (S : Bytes) (Src : ι → Nat → Prop) : Prop where
  starts    : ∀ {input} bufferSize, Src input 0 → BufferedInput.At S Src (.new input bufferSize) ⟨0, 0⟩
  readsFrom : ReadsFrom S (BufferedInput.At S Src)
  position  : ∀ {s c}, BufferedInput.At S Src s c → s.position = c.pos
  ok        : ReadsExactly S (BufferedInput.At S Src) readBytesFromStream
  secret    : ReadsExactly S (BufferedInput.At S Src) readSecretBytesFromStream

theorem Feeds.streamsOver {ι : Type} [InputSource ι] {S : Bytes} {Src : ι → Nat → Prop} (hf : Feeds S Src) :
    StreamsOver S Src where
  starts bufferSize hsrc := BufferedInput.at_new bufferSize hsrc
  readsFrom := BufferedInput.readsFrom hf
  position hat := hat.position
  ok := (BufferedInput.readsFrom hf).readsExactly
  secret := (BufferedInput.readsFrom hf).readsExactly

/-- **Reading does not depend on the chunks**: over every stream that keeps to the interface, and so over files and
istreams whatever the sizes of the single reads. -/
theorem readBytesFromStream_exact :
    (∀ (σ : Type) [InputStream σ] (S : Bytes) (At : σ → Cursor → Prop), ReadsFrom S At →
      ReadsExactly S At readBytesFromStream ∧ ReadsExactly S At readSecretBytesFromStream) ∧
    (∀ (φ : Type) [ReadableFile φ] (S : Bytes) (Src : φ → Nat → Prop), ReadsShort S Src →
      StreamsOver S (fun (i : FileDescriptor φ) pos => Src i.file pos)) ∧
    (∀ (β : Type) [CharSource β] (S : Bytes) (Src : β → Nat → Prop), FlowsShort S Src →
      StreamsOver S (Istream.At S Src)) :=
  ⟨fun _ _ _ _ hr => ⟨hr.readsExactly, hr.readsExactly⟩, fun _ _ _ _ hr => hr.feeds.streamsOver,
    fun _ _ _ _ hf => hf.feeds.streamsOver⟩

/-- A file of which no more than two bytes are read at a time. -/
structure SlowReader where
  contents : Bytes
  offset   : Nat

instance : ReadableFile SlowReader where
  read count f := (.got ((f.contents.drop f.offset).take (min 2 count)),
    { f with offset := f.offset + ((f.contents.drop f.offset).take (min 2 count)).length })
  rank _ := 0
  rank_lt h := by cases h

/-- The same as the characters of an istream. -/
instance : CharSource SlowReader where
  underflow f := ((f.contents.drop f.offset).take 2,
    { f with offset := f.offset + ((f.contents.drop f.offset).take 2).length })
  strerror _ := "Success"

def SlowReader.At (S : Bytes) (f : SlowReader) (pos : Nat) : Prop := f.contents = S ∧ f.offset = pos

theorem SlowReader.readsShort (S : Bytes) : ReadsShort S (SlowReader.At S) where
  got := by
    rintro count f pos bytes f' ⟨rfl, rfl⟩ h
    cases h
    refine ⟨List.take_prefix _ _, by rw [List.length_take]; omega, fun hcount hnil => ?_, rfl, rfl⟩
    have := congrArg List.length hnil
    rw [List.length_take, List.length_drop, List.length_nil] at this
    omega
  interrupted _ h := by cases h
  succeeds _ h := by cases h

theorem SlowReader.flowsShort (S : Bytes) : FlowsShort S (SlowReader.At S) where
  underflow := by
    rintro f pos bytes f' ⟨rfl, rfl⟩ h
    cases h
    refine ⟨List.take_prefix _ _, fun hnil => ?_, rfl, rfl⟩
    have := congrArg List.length hnil
    rw [List.length_take, List.length_drop, List.length_nil] at this
    omega

theorem readBytesFromStream_exact_slow :
    (ReadsExactly [1, 2, 3] (ChunkedSource.At [1, 2, 3]) readBytesFromStream ∧
      ReadsExactly [1, 2, 3] (ChunkedSource.At [1, 2, 3]) readSecretBytesFromStream) ∧
    StreamsOver [1, 2, 3] (fun (i : FileDescriptor SlowReader) pos => SlowReader.At [1, 2, 3] i.file pos) ∧
    StreamsOver [1, 2, 3] (Istream.At [1, 2, 3] (SlowReader.At [1, 2, 3])) :=
  ⟨readBytesFromStream_exact.1 ChunkedSource [1, 2, 3] (ChunkedSource.At [1, 2, 3])
      (ChunkedSource.readsFrom [1, 2, 3]),
    readBytesFromStream_exact.2.1 SlowReader [1, 2, 3] (SlowReader.At [1, 2, 3]) (SlowReader.readsShort [1, 2, 3]),
    readBytesFromStream_exact.2.2 SlowReader [1, 2, 3] (SlowReader.At [1, 2, 3]) (SlowReader.flowsShort [1, 2, 3])⟩

end Tink
