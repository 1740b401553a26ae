import TinkCc.EncryptingStream
/-!
# FileOutputStreams — output streams with a buffer, over a file and over an ostream

`file_output_stream.cc` and `ostream_output_stream.cc`.  The two classes have the same members and the same calls; they
differ in how the buffer gets to its `Destination`.

A partial write leaves the rest of the buffer at its front, and a partial back-up makes the next `Next` return only what
was backed up.  `Open` says what the counts stand for between the calls: all that was received, and then the front of
the buffer, is what the caller kept.  Over a file that takes its bytes, such a stream is a destination that an encrypting
stream can write to (`encryptingStream_file`).
-/
namespace Tink

/-! ## The destinations -/

/-- Where the buffer of an output stream goes.  `flush` writes what it can of the buffer, `finish` writes all that is
left and closes; a `flush` may write nothing only finitely often in a row. -/
class Destination (δ : Type) where
  flush    : Bytes → δ → Except Status Nat × δ
  finish   : Bytes → δ → Except Status Unit × δ
  received : δ → Bytes
  rank     : δ → Nat
  rank_lt  : ∀ {data d d'}, data ≠ [] → flush data d = (.ok 0, d') → rank d' < rank d

/-- What `write` did with its bytes; `interrupted` is a failure with EINTR. -/
inductive WriteResult
  | wrote (count : Nat)
  | interrupted
  | failed (errno : Int)
  deriving DecidableEq, Repr

/-- A file open for writing.  `close` gives the `errno` of a failure. -/
class WritableFile (φ : Type) where
  write    : Bytes → φ → WriteResult × φ
  close    : φ → Option Int × φ
  received : φ → Bytes
  rank     : φ → Nat
  rank_lt  : ∀ {data f r f'}, write data f = (r, f') → (r = .interrupted ∨ data ≠ [] ∧ r = .wrote 0) → rank f' < rank f

section File
variable {φ : Type} [WritableFile φ]

def writeIgnoringEintr (data : Bytes) (file : φ) : Except Int Nat × φ :=
  match _hwrite : WritableFile.write data file with
  | (.interrupted, f) => writeIgnoringEintr data f
  | (.wrote count, f) => (.ok count, f)
  | (.failed errno, f) => (.error errno, f)
termination_by WritableFile.rank file
decreasing_by exact WritableFile.rank_lt _hwrite (.inl rfl)

def writeError (errno : Int) : Status := ⟨.internal, s!"I/O error upon write: {errno}"⟩

/-- The loop of `FileOutputStream::Close`, on the bytes that are not yet written. -/
def writeRemaining (data : Bytes) (file : φ) : Except Status Unit × φ :=
  if _hdata : data = [] then (.ok (), file)
  else
    match writeIgnoringEintr data file with
    | (.error errno, f) => (.error (writeError errno), f)
    | (.ok 0, f) => (.error ⟨.internal, s!"I/O error: failed to write {data.length} bytes before closing."⟩, f)
    | (.ok (count + 1), f) => writeRemaining (data.drop (count + 1)) f
termination_by data.length
decreasing_by
  have := List.length_pos_iff.2 _hdata
  rw [List.length_drop]
  omega

theorem writeIgnoringEintr_rank_lt {data : Bytes} (hdata : data ≠ []) (file : φ) {f' : φ}
    (h : writeIgnoringEintr data file = (.ok 0, f')) : WritableFile.rank f' < WritableFile.rank file := by
  rw [writeIgnoringEintr] at h
  split at h
  · rename_i f hwrite
    exact Nat.lt_trans (writeIgnoringEintr_rank_lt hdata f h) (WritableFile.rank_lt hwrite (.inl rfl))
  · rename_i count f hwrite
    cases h
    exact WritableFile.rank_lt hwrite (.inr ⟨hdata, rfl⟩)
  · cases h
termination_by WritableFile.rank file
decreasing_by
  rename_i hwrite
  exact WritableFile.rank_lt hwrite (.inl rfl)

end File

/-- The file of a `FileOutputStream`. -/
structure FileDescriptor (φ : Type) where
  file : φ

instance {φ : Type} [WritableFile φ] : Destination (FileDescriptor φ) where
  flush data d :=
    match writeIgnoringEintr data d.file with
    | (.error errno, f) => (.error (writeError errno), ⟨f⟩)
    | (.ok count, f) => (.ok count, ⟨f⟩)
  finish data d :=
    match writeRemaining data d.file with
    | (.error e, f) => (.error e, ⟨f⟩)
    | (.ok (), f) =>
      match WritableFile.close f with
      | (some errno, f) => (.error ⟨.internal, s!"I/O error upon close: {errno}"⟩, ⟨f⟩)
      | (none, f) => (.ok (), ⟨f⟩)
  received d := WritableFile.received d.file
  rank d := WritableFile.rank d.file
  rank_lt {data d d'} hdata h := by
    rcases hw : writeIgnoringEintr data d.file with ⟨errno | count, f⟩
    · rw [hw] at h
      cases h
    · rw [hw] at h
      cases h
      exact writeIgnoringEintr_rank_lt hdata d.file hw

/-- A `std::streambuf`: `sputn` gives the number of bytes it took, `pubsync` whether it worked. -/
class Streambuf (β : Type) where
  sputn    : Bytes → β → Nat × β
  pubsync  : β → Bool × β
  errno    : β → Int
  strerror : β → String
  received : β → Bytes
  rank     : β → Nat
  rank_lt  : ∀ {data b b'}, data ≠ [] → sputn data b = (0, b') → rank b' < rank b

/-- A `std::ostream`: its buffer and whether its state is `good`. -/
structure Ostream (β : Type) where
  rdbuf : β
  good  : Bool

section Ostream
variable {β : Type} [Streambuf β]

/-- `std::ostream::write`: a stream that is not good writes nothing, one whose buffer takes too little goes bad. -/
def Ostream.write (data : Bytes) (o : Ostream β) : Ostream β :=
  if o.good then
    let (count, b) := Streambuf.sputn data o.rdbuf
    ⟨b, decide (count = data.length)⟩
  else o

/-- `std::ostream::flush`. -/
def Ostream.flush (o : Ostream β) : Ostream β :=
  if o.good then
    let (synced, b) := Streambuf.pubsync o.rdbuf
    ⟨b, synced⟩
  else o

/-- `Next` goes to the buffer of the ostream directly, so a failed write does not make the ostream bad. -/
instance : Destination (Ostream β) where
  flush data o :=
    match Streambuf.sputn data o.rdbuf with
    | (0, b) =>
      if o.good then (.ok 0, ⟨b, o.good⟩)
      else (.error ⟨.internal, "I/O error upon write: " ++ Streambuf.strerror b⟩, ⟨b, o.good⟩)
    | (count + 1, b) => (.ok (count + 1), ⟨b, o.good⟩)
  finish data o :=
    let o := if data = [] then o else o.write data
    if data ≠ [] ∧ ¬ o.good then (.error (writeError (Streambuf.errno o.rdbuf)), o)
    else
      let o := o.flush
      if ¬ o.good then
        (.error ⟨.internal, s!"I/O error upon flushing: {Streambuf.errno o.rdbuf}"⟩, o)
      else (.ok (), o)
  received o := Streambuf.received o.rdbuf
  rank o := Streambuf.rank o.rdbuf
  rank_lt {data o o'} hdata h := by
    rcases hput : Streambuf.sputn data o.rdbuf with ⟨_ | count, b⟩
    · simp only [hput] at h
      split at h
      · cases h
        exact Streambuf.rank_lt hdata hput
      · cases h
    · simp only [hput] at h
      cases h

end Ostream

/-! ## The stream -/

/-- The members of `FileOutputStream` and of `OstreamOutputStream`. -/
structure BufferedOutput (δ : Type) where
  destination   : δ
  status        : Except Status Unit
  buffer        : Option Bytes
  bufferSize    : Nat
  position      : Int
  countInBuffer : Nat
  countBackedup : Nat
  bufferOffset  : Nat

/-- The caller writes over the bytes it has a pointer to. -/
def overwrite : (data old : Bytes) → Bytes
  | _, [] => []
  | [], old => old
  | b :: data, _ :: old => b :: overwrite data old

namespace BufferedOutput
variable {δ : Type}

def new (destination : δ) (bufferSize : Int) : BufferedOutput δ :=
  { destination := destination, status := .ok (), buffer := none,
    bufferSize := if bufferSize > 0 then bufferSize.toNat else 128 * 1024,
    position := 0, countInBuffer := 0, countBackedup := 0, bufferOffset := 0 }

/-- The bytes that the caller sees at `*data`. -/
def data (s : BufferedOutput δ) : Bytes := (s.buffer.getD []).drop s.bufferOffset

/-- The caller copies bytes to the front of the buffer it was given. -/
def store (data : Bytes) (s : BufferedOutput δ) : BufferedOutput δ :=
  { s with buffer := s.buffer.map (fun b => b.take s.bufferOffset ++ overwrite data (b.drop s.bufferOffset)) }

def backUp (count : Int) (s : BufferedOutput δ) : BufferedOutput δ :=
  match s.status with
  | .error _ => s
  | .ok () =>
    if count < 1 ∨ s.countInBuffer = 0 then s
    else
      let currBufferSize := s.bufferSize - s.bufferOffset
      let actualCount := min count.toNat (currBufferSize - s.countBackedup)
      { s with countBackedup := s.countBackedup + actualCount, countInBuffer := s.countInBuffer - actualCount,
               position := s.position - actualCount }

variable [Destination δ]

def next (s : BufferedOutput δ) : Except Status Nat × BufferedOutput δ :=
  match s.status with
  | .error e => (.error e, s)
  | .ok () =>
    match s.buffer with
    | none =>
      (.ok s.bufferSize,
        { s with buffer := some (List.replicate s.bufferSize 0), countInBuffer := s.bufferSize, position := s.bufferSize })
    | some buffer =>
      if 0 < s.countBackedup then
        (.ok s.countBackedup,
          { s with position := s.position + s.countBackedup, bufferOffset := s.countInBuffer,
                   countInBuffer := s.countInBuffer + s.countBackedup, countBackedup := 0 })
      else
        match Destination.flush buffer s.destination with
        | (.error e, d) => (.error e, { s with destination := d, status := .error e })
        | (.ok 0, d) => (.ok 0, { s with destination := d })
        | (.ok (count + 1), d) =>
          let writeResult := count + 1
          let offset := s.bufferSize - writeResult
          (.ok writeResult,
            { s with destination := d, position := s.position + writeResult, countInBuffer := s.bufferSize,
                     countBackedup := 0, bufferOffset := offset,
                     -- the rest of the buffer is shifted to its front
                     buffer := if writeResult < s.bufferSize
                       then some ((buffer.drop writeResult).take offset ++ buffer.drop offset) else some buffer })

def close (s : BufferedOutput δ) : Except Status Unit × BufferedOutput δ :=
  match s.status with
  | .error e => (.error e, s)
  | .ok () =>
    match Destination.finish ((s.buffer.getD []).take s.countInBuffer) s.destination with
    | (.error e, d) => (.error e, { s with destination := d, status := .error e })
    | (.ok (), d) =>
      (.ok (), { s with destination := d, status := .error ⟨.failedPrecondition, "Stream closed"⟩ })

end BufferedOutput

/-- `FileOutputStream`. -/
abbrev FileOutputStream (φ : Type) := BufferedOutput (FileDescriptor φ)

/-- `OstreamOutputStream`. -/
abbrev OstreamOutputStream (β : Type) := BufferedOutput (Ostream β)


/-! ## What the operating system promises -/

/-- Each flush takes between 1 byte and all of them, if it does not fail, and a successful `finish` all of them. -/
structure AcceptsBytes (δ : Type) [Destination δ] : Prop where
  flush  : ∀ {data : Bytes} {d : δ} {n d'}, data ≠ [] → Destination.flush data d = (.ok n, d') →
    1 ≤ n ∧ n ≤ data.length ∧ Destination.received d' = Destination.received d ++ data.take n
  finish : ∀ {data : Bytes} {d : δ} {d'}, Destination.finish data d = (.ok (), d') →
    Destination.received d' = Destination.received d ++ data

/-- **Any pattern of partial writes** to a file: a write that does not fail accepts between 1 byte and all of them. -/
structure WritesPartially (φ : Type) [WritableFile φ] : Prop where
  wrote       : ∀ {data : Bytes} {f : φ} {n f'}, data ≠ [] → WritableFile.write data f = (.wrote n, f') →
    1 ≤ n ∧ n ≤ data.length ∧ WritableFile.received f' = WritableFile.received f ++ data.take n
  interrupted : ∀ {data : Bytes} {f f' : φ}, WritableFile.write data f = (.interrupted, f') →
    WritableFile.received f' = WritableFile.received f
  close       : ∀ {f f' : φ} {r}, WritableFile.close f = (r, f') → WritableFile.received f' = WritableFile.received f

/-- The same of the buffer of an ostream. -/
structure PutsPartially (β : Type) [Streambuf β] : Prop where
  sputn   : ∀ {data : Bytes} {b : β} {n b'}, data ≠ [] → Streambuf.sputn data b = (n, b') →
    1 ≤ n ∧ n ≤ data.length ∧ Streambuf.received b' = Streambuf.received b ++ data.take n
  pubsync : ∀ {b b' : β} {r}, Streambuf.pubsync b = (r, b') → Streambuf.received b' = Streambuf.received b

section File
variable {φ : Type} [WritableFile φ]

theorem WritesPartially.writeIgnoringEintr (hw : WritesPartially φ) {data : Bytes} (hdata : data ≠ []) (file : φ) {n : Nat}
    {f' : φ} (h : writeIgnoringEintr data file = (.ok n, f')) :
    1 ≤ n ∧ n ≤ data.length ∧ WritableFile.received f' = WritableFile.received file ++ data.take n := by
  rw [Tink.writeIgnoringEintr] at h
  split at h
  · rename_i f hwrite
    rw [← hw.interrupted hwrite]
    exact WritesPartially.writeIgnoringEintr hw hdata f h
  · rename_i count f hwrite
    cases h
    exact hw.wrote hdata hwrite
  · cases h
termination_by WritableFile.rank file
decreasing_by
  rename_i hwrite
  exact WritableFile.rank_lt hwrite (.inl rfl)

theorem WritesPartially.writeRemaining (hw : WritesPartially φ) (data : Bytes) (file : φ) {f' : φ}
    (h : writeRemaining data file = (.ok (), f')) : WritableFile.received f' = WritableFile.received file ++ data := by
  rw [Tink.writeRemaining] at h
  split at h
  · rename_i hnil
    cases h
    rw [hnil, List.append_nil]
  · rename_i hdata
    split at h
    · cases h
    · cases h
    · rename_i count f hwrite
      obtain ⟨-, -, hreceived⟩ := hw.writeIgnoringEintr hdata file hwrite
      have := List.length_pos_iff.2 hdata
      rw [WritesPartially.writeRemaining hw (data.drop (count + 1)) f h, hreceived, List.append_assoc,
        List.take_append_drop]
termination_by data.length
decreasing_by
  rw [List.length_drop]
  omega

theorem WritesPartially.accepts (hw : WritesPartially φ) : AcceptsBytes (FileDescriptor φ) where
  flush {data d n d'} hdata h := by
    rcases hwrite : Tink.writeIgnoringEintr data d.file with ⟨errno | count, f⟩
    · simp only [Destination.flush, hwrite] at h
      cases h
    · simp only [Destination.flush, hwrite] at h
      cases h
      exact hw.writeIgnoringEintr hdata d.file hwrite
  finish {data d d'} h := by
    rcases hwrite : Tink.writeRemaining data d.file with ⟨e | ⟨⟩, f⟩
    · simp only [Destination.finish, hwrite] at h
      cases h
    · rcases hclose : WritableFile.close f with ⟨_ | errno, f'⟩
      · simp only [Destination.finish, hwrite, hclose] at h
        cases h
        simp only [Destination.received]
        rw [hw.close hclose, hw.writeRemaining data d.file hwrite]
      · simp only [Destination.finish, hwrite, hclose] at h
        cases h

end File

section Ostream
variable {β : Type} [Streambuf β]

theorem PutsPartially.write (hp : PutsPartially β) {data : Bytes} (hdata : data ≠ []) {o : Ostream β}
    (h : (o.write data).good) : Destination.received (o.write data) = Destination.received o ++ data := by
  unfold Ostream.write at h ⊢
  split at h
  · rcases hput : Streambuf.sputn data o.rdbuf with ⟨count, b⟩
    simp only [hput, decide_eq_true_eq] at h
    obtain ⟨-, -, hreceived⟩ := hp.sputn hdata hput
    simp_all [Destination.received]
  · contradiction

theorem PutsPartially.flush (hp : PutsPartially β) (o : Ostream β) :
    Destination.received o.flush = Destination.received o := by
  unfold Ostream.flush
  split
  · exact hp.pubsync rfl
  · rfl

theorem PutsPartially.accepts (hp : PutsPartially β) : AcceptsBytes (Ostream β) where
  flush {data o n o'} hdata h := by
    rcases hput : Streambuf.sputn data o.rdbuf with ⟨count, b⟩
    obtain ⟨hpos, hle, hreceived⟩ := hp.sputn hdata hput
    obtain ⟨count, rfl⟩ := Nat.exists_eq_add_of_lt hpos
    simp only [Destination.flush, hput, Nat.zero_add] at h
    cases h
    rw [Nat.zero_add] at hle hreceived
    exact ⟨by omega, hle, hreceived⟩
  finish {data o o'} h := by
    by_cases hdata : data = []
    · simp only [Destination.finish, hdata, ne_eq, not_true_eq_false, false_and, if_false, if_true] at h
      split at h
      · cases h
      · cases h
        rw [hdata, List.append_nil]
        exact hp.flush o
    · simp only [Destination.finish, hdata, ne_eq, not_false_eq_true, true_and, if_false] at h
      split at h
      · cases h
      · rename_i hgood
        split at h
        · cases h
        · cases h
          rw [hp.flush]
          exact hp.write hdata (by simpa using hgood)

end Ostream


/-! ## What the caller kept -/

@[simp] theorem length_overwrite : ∀ data old : Bytes, (overwrite data old).length = old.length
  | [], [] => rfl
  | [], _ :: _ => rfl
  | _ :: _, [] => rfl
  | _ :: data, _ :: old => congrArg (· + 1) (length_overwrite data old)

theorem take_overwrite : ∀ (data old : Bytes) (n : Nat), (overwrite data old).take n = overwrite data (old.take n)
  | [], [], n => by simp [overwrite]
  | _ :: _, [], n => by simp [overwrite]
  | _, _ :: _, 0 => by simp [overwrite]
  | [], _ :: _, n + 1 => by simp [overwrite]
  | _ :: data, _ :: old, n + 1 => by simp [overwrite, take_overwrite data old n]

/-- Bytes put into the part of the last buffer that is kept. -/
def Ledger.store (l : Ledger) (data : Bytes) : Ledger :=
  ⟨l.kept.take (l.kept.length - l.last) ++ overwrite data (l.kept.drop (l.kept.length - l.last)), l.last⟩

inductive OutputCall
  | next
  | store (data : Bytes)
  | backUp (count : Int)
  | close
  deriving DecidableEq, Repr

/-- What a caller knows: the bytes it kept, the sum of what `Next` returned less what it gave back, whether an operation
failed or the stream was closed, and whether a `Close` was successful. -/
structure WriterAccount where
  ledger  : Ledger
  counted : Int
  ended   : Bool
  closed  : Bool

def WriterAccount.start : WriterAccount := ⟨⟨[], 0⟩, 0, false, false⟩

/-- `Next` returned `count`, for the bytes `data`. -/
def WriterAccount.next (a : WriterAccount) (count : Nat) (data : Bytes) : WriterAccount :=
  { a with ledger := a.ledger.next data, counted := a.counted + count }

def WriterAccount.backUp (a : WriterAccount) (count : Int) : WriterAccount :=
  { a with ledger := a.ledger.backUp count, counted := a.counted - min count.toNat a.ledger.last }

/-- No bytes can be taken back after a failure, or once the stream is closed. -/
def WriterAccount.stop (a : WriterAccount) (closed : Bool) : WriterAccount :=
  ⟨{ a.ledger with last := 0 }, a.counted, true, a.closed || closed⟩

namespace BufferedOutput
variable {δ : Type} [Destination δ]

def call (x : BufferedOutput δ × WriterAccount) : OutputCall → BufferedOutput δ × WriterAccount
  | .next =>
    match x.1.next with
    | (.ok n, s) => (s, x.2.next n (s.data.take n))
    | (.error _, s) => (s, x.2.stop false)
  | .store data => (x.1.store data, { x.2 with ledger := x.2.ledger.store data })
  | .backUp count => (x.1.backUp count, x.2.backUp count)
  | .close =>
    match x.1.close with
    | (.ok (), s) => (s, x.2.stop true)
    | (.error _, s) => (s, x.2.stop false)

def run (calls : List OutputCall) (x : BufferedOutput δ × WriterAccount) : BufferedOutput δ × WriterAccount :=
  calls.foldl call x

theorem run_cons (c : OutputCall) (calls : List OutputCall) (x : BufferedOutput δ × WriterAccount) :
    run (c :: calls) x = run calls (call x c) := rfl

/-- **An open stream**, to whose destination `initial` went before: what it received, and then what is in the buffer, is
what the caller kept. -/
structure Open (initial : Bytes) (s : BufferedOutput δ) (l : Ledger) : Prop where
  status_ok : s.status = .ok ()
  size_pos  : 0 < s.bufferSize
  sized     : s.buffer = none ∧ s.countInBuffer = 0 ∧ s.countBackedup = 0 ∧ l.kept = [] ∨
    ∃ b, s.buffer = some b ∧ b.length = s.bufferSize ∧ s.countInBuffer + s.countBackedup = s.bufferSize
  offset_le : s.bufferOffset ≤ s.countInBuffer
  last_eq   : l.last = s.countInBuffer - s.bufferOffset
  kept_eq   : initial ++ l.kept = Destination.received s.destination ++ (s.buffer.getD []).take s.countInBuffer
  last_le   : l.last ≤ l.kept.length
  position  : s.position = l.kept.length

theorem open_new (d : δ) (bufferSize : Int) : Open (Destination.received d) (new d bufferSize) ⟨[], 0⟩ where
  status_ok := rfl
  size_pos := by
    simp only [new]
    split
    · omega
    · omega
  sized := .inl ⟨rfl, rfl, rfl, rfl⟩
  offset_le := Nat.le_refl _
  last_eq := rfl
  kept_eq := rfl
  last_le := Nat.le_refl _
  position := rfl

variable {initial : Bytes} {s : BufferedOutput δ} {l : Ledger}

namespace Open

theorem length_kept (ho : Open initial s l) :
    initial.length + l.kept.length = (Destination.received s.destination).length + s.countInBuffer := by
  have hlen := congrArg List.length ho.kept_eq
  have hb : ((s.buffer.getD []).take s.countInBuffer).length = s.countInBuffer := by
    rcases ho.sized with ⟨hnone, h0, -⟩ | ⟨b, hsome, hsize, hcount⟩
    · simp [h0]
    · simp only [hsome, Option.getD_some, List.length_take]
      omega
  rw [List.length_append, List.length_append, hb] at hlen
  exact hlen

/-- What is kept when the last `n` bytes are not. -/
theorem take_kept (ho : Open initial s l) {n : Nat} (hn : n ≤ l.last) :
    initial ++ l.kept.take (l.kept.length - n) =
      Destination.received s.destination ++ (s.buffer.getD []).take (s.countInBuffer - n) := by
  have hlen := ho.length_kept
  have hlast := ho.last_eq
  have hle := ho.last_le
  have hcut : initial.length + (l.kept.length - n) =
      (Destination.received s.destination).length + (s.countInBuffer - n) := by omega
  have h := congrArg (List.take (initial.length + (l.kept.length - n))) ho.kept_eq
  rw [List.take_length_add_append, hcut, List.take_length_add_append, List.take_take,
    Nat.min_eq_left (Nat.sub_le _ _)] at h
  exact h

/-- The kept bytes end with those of the last buffer. -/
theorem drop_kept (ho : Open initial s l) :
    l.kept.drop (l.kept.length - l.last) = ((s.buffer.getD []).drop s.bufferOffset).take l.last := by
  have hlen := ho.length_kept
  have hlast := ho.last_eq
  have hle := ho.last_le
  have hoff := ho.offset_le
  have hcut : initial.length + (l.kept.length - l.last) =
      (Destination.received s.destination).length + s.bufferOffset := by omega
  have h := congrArg (List.drop (initial.length + (l.kept.length - l.last))) ho.kept_eq
  rw [List.drop_length_add_append, hcut, List.drop_length_add_append, List.drop_take] at h
  rw [h, hlast]

theorem store (ho : Open initial s l) (data : Bytes) : Open initial (s.store data) (l.store data) := by
  have hlast := ho.last_eq
  have hle := ho.last_le
  have hfront := ho.take_kept (Nat.le_refl l.last)
  rw [show s.countInBuffer - l.last = s.bufferOffset by have := ho.offset_le; omega] at hfront
  refine ⟨ho.status_ok, ho.size_pos, ?_, ho.offset_le, hlast, ?_, ?_, ?_⟩
  · rcases ho.sized with ⟨hnone, h0, hback, hkept⟩ | ⟨b, hsome, hsize, hcount⟩
    · exact .inl ⟨by simp [BufferedOutput.store, hnone], h0, hback, by simp [Ledger.store, hkept, overwrite]⟩
    · refine .inr ⟨b.take s.bufferOffset ++ overwrite data (b.drop s.bufferOffset), by simp [BufferedOutput.store, hsome],
        ?_, hcount⟩
      have := ho.offset_le
      simp only [List.length_append, length_overwrite, List.length_take, List.length_drop, BufferedOutput.store]
      omega
  · simp only [Ledger.store]
    rw [← List.append_assoc, hfront, ho.drop_kept]
    rcases ho.sized with ⟨hnone, h0, -⟩ | ⟨b, hsome, hsize, hcount⟩
    · simp [BufferedOutput.store, hnone, h0, overwrite]
    · have := ho.offset_le
      have hoff : (b.take s.bufferOffset).length = s.bufferOffset := by
        rw [List.length_take]
        omega
      simp only [BufferedOutput.store, hsome, Option.map_some, Option.getD_some, List.append_assoc]
      rw [List.take_append, hoff, List.take_of_length_le (l := b.take s.bufferOffset) (by omega), take_overwrite, hlast]
  · simp only [Ledger.store, List.length_append, length_overwrite, List.length_take, List.length_drop]
    omega
  · have hlen : (l.store data).kept.length = l.kept.length := by
      simp only [Ledger.store, List.length_append, length_overwrite, List.length_take, List.length_drop]
      omega
    rw [hlen]
    exact ho.position

theorem backUp (ho : Open initial s l) (count : Int) : Open initial (s.backUp count) (l.backUp count) := by
  have hlast := ho.last_eq
  have hle := ho.last_le
  have hoff := ho.offset_le
  have hposition := ho.position
  simp only [BufferedOutput.backUp, ho.status_ok]
  split
  · -- an ignored call takes nothing back
    rename_i hignored
    have h0 : min count.toNat l.last = 0 := by omega
    simp only [Ledger.backUp, h0, Nat.sub_zero, List.take_length]
    exact ho
  · rcases ho.sized with ⟨hnone, h0, -⟩ | ⟨b, hsome, hsize, hcount⟩
    · omega
    · have hactual : min count.toNat (s.bufferSize - s.bufferOffset - s.countBackedup) = min count.toNat l.last := by omega
      have htake := ho.take_kept (Nat.min_le_right count.toNat l.last)
      have hmin := Nat.min_le_right count.toNat l.last
      rw [hactual]
      refine ⟨rfl, ho.size_pos, .inr ⟨b, hsome, hsize, ?_⟩, ?_, ?_, htake, ?_, ?_⟩
      · simp only
        omega
      · simp only
        omega
      · simp only [Ledger.backUp]
        omega
      · simp only [Ledger.backUp, List.length_take]
        omega
      · simp only [Ledger.backUp, List.length_take]
        omega

/-- After a successful `Next` all of the buffer is in use, and the caller has the part from the offset on. -/
theorem of_full {s' : BufferedOutput δ} {b : Bytes} {n : Nat} (hstatus : s'.status = .ok ()) (hpos : 0 < s'.bufferSize)
    (hbuffer : s'.buffer = some b) (hsize : b.length = s'.bufferSize) (hcount : s'.countInBuffer = s'.bufferSize)
    (hback : s'.countBackedup = 0) (hn : s'.bufferOffset + n = s'.bufferSize)
    (hkept : initial ++ l.kept = Destination.received s'.destination ++ b.take s'.bufferOffset)
    (hposition : s'.position = l.kept.length + n) :
    n = s'.data.length ∧ Open initial s' (l.next s'.data) := by
  have hdata : s'.data = b.drop s'.bufferOffset := by simp [data, hbuffer]
  have hlen : s'.data.length = n := by
    rw [hdata, List.length_drop]
    omega
  refine ⟨hlen.symm, hstatus, hpos, .inr ⟨b, hbuffer, hsize, by omega⟩, by omega, ?_, ?_, ?_, ?_⟩
  · simp only [Ledger.next]
    omega
  · simp only [Ledger.next, hbuffer, Option.getD_some, hdata]
    rw [← List.append_assoc, hkept, List.append_assoc, List.take_append_drop, hcount, ← hsize, List.take_length]
  · simp only [Ledger.next, List.length_append]
    omega
  · simp only [Ledger.next, List.length_append]
    omega

theorem next_ok (ha : AcceptsBytes δ) (ho : Open initial s l) {n : Nat} {s' : BufferedOutput δ} (h : s.next = (.ok n, s')) :
    n = s'.data.length ∧ Open initial s' (l.next s'.data) := by
  have hpos := ho.size_pos
  have hkept := ho.kept_eq
  have hposition := ho.position
  have hoff := ho.offset_le
  simp only [next, ho.status_ok] at h
  rcases ho.sized with ⟨hnone, h0, hback, hnil⟩ | ⟨b, hsome, hsize, hcount⟩
  · -- the first call
    simp only [hnone] at h
    cases h
    have hoff0 : s.bufferOffset = 0 := by omega
    simp only [hnone, Option.getD_none, List.take_nil] at hkept
    refine of_full rfl hpos rfl (by simp) rfl hback (by simp [hoff0]) ?_ (by simp [hnil])
    simp only [hoff0, List.take_zero]
    exact hkept
  · simp only [hsome] at h
    rw [hsome, Option.getD_some] at hkept
    split at h
    · -- the backed up tail of the buffer
      cases h
      refine of_full rfl hpos rfl hsize hcount rfl hcount hkept ?_
      simp only
      omega
    · have hfull : s.countInBuffer = b.length := by omega
      rw [hfull, List.take_length] at hkept
      split at h
      · cases h
      · rename_i d hflush
        obtain ⟨hone, -⟩ := ha.flush (by rw [← List.length_pos_iff]; omega) hflush
        omega
      · rename_i count d hflush
        obtain ⟨-, hle, hreceived⟩ := ha.flush (by rw [← List.length_pos_iff]; omega) hflush
        cases h
        have hshifted : (if count + 1 < s.bufferSize
            then some ((b.drop (count + 1)).take (s.bufferSize - (count + 1)) ++ b.drop (s.bufferSize - (count + 1)))
            else some b) = some (b.drop (count + 1) ++ b.drop (s.bufferSize - (count + 1))) := by
          split
          · rw [List.take_of_length_le (by rw [List.length_drop]; omega)]
          · rw [List.drop_eq_nil_of_le (by omega), show s.bufferSize - (count + 1) = 0 by omega, List.drop_zero,
              List.nil_append]
        refine of_full rfl hpos hshifted ?_ rfl rfl (by simp only; omega) ?_ (by simp only; omega)
        · simp only [List.length_append, List.length_drop]
          omega
        · simp only
          rw [List.take_append_of_le_length (by rw [List.length_drop]; omega),
            List.take_of_length_le (by rw [List.length_drop]; omega), hkept, hreceived, List.append_assoc,
            List.take_append_drop]

end Open

end BufferedOutput


/-! ## Runs -/

theorem Ledger.store_of_last {l : Ledger} (h : l.last = 0) (data : Bytes) : l.store data = l := by
  have hnil : overwrite data [] = [] := by cases data <;> rfl
  unfold Ledger.store
  rw [h, Nat.sub_zero, List.take_length, List.drop_length, hnil, List.append_nil, ← h]

theorem WriterAccount.backUp_of_last {a : WriterAccount} (h : a.ledger.last = 0) (count : Int) : a.backUp count = a := by
  unfold WriterAccount.backUp Ledger.backUp
  rw [h, Nat.min_zero, Nat.sub_zero, List.take_length, Nat.sub_zero, Int.natCast_zero, Int.sub_zero, ← h]

/-- The count goes down by as many bytes as are no longer kept. -/
theorem Ledger.length_backUp {l : Ledger} (h : l.last ≤ l.kept.length) (count : Int) :
    ((l.backUp count).kept.length : Int) = l.kept.length - min count.toNat l.last := by
  unfold Ledger.backUp
  rw [List.length_take]
  omega

theorem Ledger.length_store (l : Ledger) (data : Bytes) : (l.store data).kept.length = l.kept.length := by
  unfold Ledger.store
  rw [List.length_append, length_overwrite, List.length_take, List.length_drop]
  omega

namespace BufferedOutput
variable {δ : Type} [Destination δ] {initial : Bytes} {s : BufferedOutput δ} {a : WriterAccount}

/-- A stream on which an operation failed, or that was closed. -/
structure Ended (initial : Bytes) (s : BufferedOutput δ) (a : WriterAccount) : Prop where
  failed   : ∃ e, s.status = .error e
  ended    : a.ended = true
  last_eq  : a.ledger.last = 0
  position : s.position = a.ledger.kept.length
  counted  : a.counted = a.ledger.kept.length
  received : a.closed = true → Destination.received s.destination = initial ++ a.ledger.kept

theorem Ended.next (he : Ended initial s a) : ∃ e, s.next = (.error e, s) := by
  obtain ⟨e, hfailed⟩ := he.failed
  exact ⟨e, by simp only [BufferedOutput.next, hfailed]⟩

theorem Ended.close (he : Ended initial s a) : ∃ e, s.close = (.error e, s) := by
  obtain ⟨e, hfailed⟩ := he.failed
  exact ⟨e, by simp only [BufferedOutput.close, hfailed]⟩

theorem Ended.stop (he : Ended initial s a) : a.stop false = a := by
  have hlast := he.last_eq
  have hended := he.ended
  rcases a with ⟨⟨kept, last⟩, counted, ended, closed⟩
  simp only at hlast hended
  simp [WriterAccount.stop, hlast, hended]

theorem Ended.call (he : Ended initial s a) (c : OutputCall) :
    Ended initial (call (s, a) c).1 (call (s, a) c).2 ∧ (call (s, a) c).1.destination = s.destination := by
  cases c with
  | next =>
    obtain ⟨e, hnext⟩ := he.next
    simp only [BufferedOutput.call, hnext, he.stop]
    exact ⟨he, trivial⟩
  | store data =>
    simp only [BufferedOutput.call, Ledger.store_of_last he.last_eq]
    exact ⟨⟨he.failed, he.ended, he.last_eq, he.position, he.counted, he.received⟩, rfl⟩
  | backUp count =>
    obtain ⟨e, hfailed⟩ := he.failed
    simp only [BufferedOutput.call, WriterAccount.backUp_of_last he.last_eq, backUp, hfailed]
    exact ⟨he, trivial⟩
  | close =>
    obtain ⟨e, hclose⟩ := he.close
    simp only [BufferedOutput.call, hclose, he.stop]
    exact ⟨he, trivial⟩

theorem Ended.run (he : Ended initial s a) (calls : List OutputCall) :
    Ended initial (run calls (s, a)).1 (run calls (s, a)).2 ∧ (run calls (s, a)).1.destination = s.destination := by
  induction calls generalizing s a with
  | nil => exact ⟨he, rfl⟩
  | cons c calls ih =>
    rw [run_cons]
    obtain ⟨hstep, hdest⟩ := he.call c
    obtain ⟨hrun, hrest⟩ := ih hstep
    exact ⟨hrun, hrest.trans hdest⟩

theorem Open.next_error {l : Ledger} (ho : Open initial s l) {e : Status} {s' : BufferedOutput δ}
    (h : s.next = (.error e, s')) : s'.status = .error e ∧ s'.position = s.position := by
  simp only [BufferedOutput.next, ho.status_ok] at h
  split at h
  · cases h
  · split at h
    · cases h
    · split at h
      · cases h
        exact ⟨rfl, rfl⟩
      · cases h
      · cases h

theorem Open.close_ok {l : Ledger} (ha : AcceptsBytes δ) (ho : Open initial s l) {s' : BufferedOutput δ}
    (h : s.close = (.ok (), s')) :
    (∃ e, s'.status = .error e) ∧ s'.position = s.position ∧
      Destination.received s'.destination = initial ++ l.kept := by
  simp only [BufferedOutput.close, ho.status_ok] at h
  split at h
  · cases h
  · rename_i d hfinish
    cases h
    exact ⟨⟨_, rfl⟩, rfl, by rw [ho.kept_eq]; exact ha.finish hfinish⟩

theorem Open.close_error {l : Ledger} (ho : Open initial s l) {e : Status} {s' : BufferedOutput δ}
    (h : s.close = (.error e, s')) : s'.status = .error e ∧ s'.position = s.position := by
  simp only [BufferedOutput.close, ho.status_ok] at h
  split at h
  · cases h
    exact ⟨rfl, rfl⟩
  · cases h

/-- Between two calls a stream is open, and the account says so, or it has ended. -/
def Accounted (initial : Bytes) (s : BufferedOutput δ) (a : WriterAccount) : Prop :=
  (a.ended = false ∧ a.closed = false ∧ a.counted = a.ledger.kept.length ∧ Open initial s a.ledger) ∨ Ended initial s a

theorem Accounted.call (ha : AcceptsBytes δ) (hs : Accounted initial s a) (c : OutputCall) :
    Accounted initial (call (s, a) c).1 (call (s, a) c).2 := by
  rcases hs with ⟨hended, hclosed, hcounted, ho⟩ | he
  · have hposition := ho.position
    cases c with
    | next =>
      rcases hnext : s.next with ⟨e | n, s'⟩
      · obtain ⟨hstatus, hpos⟩ := ho.next_error hnext
        simp only [BufferedOutput.call, hnext]
        exact .inr ⟨⟨e, hstatus⟩, rfl, rfl, hpos.trans hposition, hcounted, by simp [WriterAccount.stop, hclosed]⟩
      · obtain ⟨hn, hopen⟩ := ho.next_ok ha hnext
        simp only [BufferedOutput.call, hnext, hn, List.take_length]
        refine .inl ⟨hended, hclosed, ?_, hopen⟩
        simp only [WriterAccount.next, Ledger.next, List.length_append, hcounted, Int.natCast_add]
    | store data =>
      refine .inl ⟨hended, hclosed, ?_, ho.store data⟩
      exact hcounted.trans (congrArg Int.ofNat (Ledger.length_store a.ledger data).symm)
    | backUp count =>
      refine .inl ⟨hended, hclosed, ?_, ho.backUp count⟩
      rw [show (BufferedOutput.call (s, a) (.backUp count)).2.ledger = a.ledger.backUp count from rfl,
        Ledger.length_backUp ho.last_le, ← hcounted]
      rfl
    | close =>
      rcases hclose : s.close with ⟨e | ⟨⟩, s'⟩
      · obtain ⟨hstatus, hpos⟩ := ho.close_error hclose
        simp only [BufferedOutput.call, hclose]
        exact .inr ⟨⟨e, hstatus⟩, rfl, rfl, hpos.trans hposition, hcounted, by simp [WriterAccount.stop, hclosed]⟩
      · obtain ⟨hstatus, hpos, hreceived⟩ := ho.close_ok ha hclose
        simp only [BufferedOutput.call, hclose]
        exact .inr ⟨hstatus, rfl, rfl, hpos.trans hposition, hcounted, fun _ => hreceived⟩
  · exact .inr (he.call c).1

theorem Accounted.run (ha : AcceptsBytes δ) (hs : Accounted initial s a) (calls : List OutputCall) :
    Accounted initial (run calls (s, a)).1 (run calls (s, a)).2 := by
  induction calls generalizing s a with
  | nil => exact hs
  | cons c calls ih =>
    rw [run_cons]
    exact ih (hs.call ha c)

/-- **What the caller of a stream can rely on**, after the calls that led to this state and this account: the position,
that `Next` returns the size of the buffer it gives, what the destination has once closed, and that nothing more happens
once the stream is over. -/
structure Sound (initial : Bytes) (s : BufferedOutput δ) (a : WriterAccount) : Prop where
  position : s.position = a.ledger.kept.length
  counted  : s.position = a.counted
  returned : ∀ n s', s.next = (.ok n, s') → s'.data.length = n
  received : a.closed = true → Destination.received s.destination = initial ++ a.ledger.kept
  ended    : a.ended = true → (∃ e, s.next = (.error e, s)) ∧ (∃ e, s.close = (.error e, s)) ∧
    ∀ more, (run more (s, a)).2.ended = true ∧ (run more (s, a)).1.destination = s.destination

theorem Accounted.sound (ha : AcceptsBytes δ) (hs : Accounted initial s a) : Sound initial s a := by
  rcases hs with ⟨hended, hclosed, hcounted, ho⟩ | he
  · exact ⟨ho.position, ho.position.trans hcounted.symm, fun n s' hnext => (ho.next_ok ha hnext).1.symm, by simp [hclosed],
      by simp [hended]⟩
  · obtain ⟨e, hfails⟩ := he.next
    refine ⟨he.position, he.position.trans he.counted.symm, fun n s' hnext => ?_, he.received, fun _ =>
      ⟨he.next, he.close, fun more => ⟨(he.run more).1.ended, (he.run more).2⟩⟩⟩
    rw [hfails] at hnext
    cases hnext

theorem sound_run (ha : AcceptsBytes δ) (d : δ) (bufferSize : Int) (calls : List OutputCall) :
    Sound (Destination.received d) (run calls (new d bufferSize, .start)).1 (run calls (new d bufferSize, .start)).2 :=
  (Accounted.run ha (.inl ⟨rfl, rfl, rfl, open_new d bufferSize⟩) calls).sound ha

end BufferedOutput

/-- **Output streams lose nothing**, for any calls and any pattern of partial writes. -/
theorem outputStreams_lose_nothing :
    (∀ (φ : Type) [WritableFile φ], WritesPartially φ → ∀ (file : φ) (bufferSize : Int) (calls : List OutputCall),
      BufferedOutput.Sound (WritableFile.received file)
        (BufferedOutput.run calls (BufferedOutput.new (FileDescriptor.mk file) bufferSize, .start)).1
        (BufferedOutput.run calls (BufferedOutput.new (FileDescriptor.mk file) bufferSize, .start)).2) ∧
    (∀ (β : Type) [Streambuf β], PutsPartially β → ∀ (output : Ostream β) (bufferSize : Int) (calls : List OutputCall),
      BufferedOutput.Sound (Streambuf.received output.rdbuf)
        (BufferedOutput.run calls (BufferedOutput.new output bufferSize, .start)).1
        (BufferedOutput.run calls (BufferedOutput.new output bufferSize, .start)).2) :=
  ⟨fun _ _ hw file bufferSize calls => BufferedOutput.sound_run hw.accepts ⟨file⟩ bufferSize calls,
    fun _ _ hp output bufferSize calls => BufferedOutput.sound_run hp.accepts output bufferSize calls⟩

/-- A file that takes no more than two bytes at a time. -/
structure SlowFile where
  received : Bytes

instance : WritableFile SlowFile where
  write data f := (.wrote (min 2 data.length), ⟨f.received ++ data.take 2⟩)
  close f := (none, f)
  received := SlowFile.received
  rank _ := 0
  rank_lt {data f r f'} h hr := by
    simp only [Prod.mk.injEq] at h
    obtain ⟨rfl, -⟩ := h
    rcases hr with hr | ⟨hdata, hr⟩
    · cases hr
    · have := List.length_pos_iff.2 hdata
      simp only [WriteResult.wrote.injEq] at hr
      omega

theorem SlowFile.writesPartially : WritesPartially SlowFile where
  wrote {data f n f'} hdata h := by
    have := List.length_pos_iff.2 hdata
    cases h
    refine ⟨by omega, by omega, ?_⟩
    simp [WritableFile.received, List.take_eq_take_iff]
  interrupted h := by cases h
  close h := by
    cases h
    rfl

/-- The same as a stream buffer. -/
instance : Streambuf SlowFile where
  sputn data f := (min 2 data.length, ⟨f.received ++ data.take 2⟩)
  pubsync f := (true, f)
  errno _ := 0
  strerror _ := "Success"
  received := SlowFile.received
  rank _ := 0
  rank_lt {data f f'} hdata h := by
    have := List.length_pos_iff.2 hdata
    simp only [Prod.mk.injEq] at h
    omega

theorem SlowFile.putsPartially : PutsPartially SlowFile where
  sputn {data b n b'} hdata h := by
    have := List.length_pos_iff.2 hdata
    cases h
    refine ⟨by omega, by omega, ?_⟩
    simp [Streambuf.received, List.take_eq_take_iff]
  pubsync h := by
    cases h
    rfl

theorem outputStreams_lose_nothing_slow :
    BufferedOutput.Sound []
      (BufferedOutput.run [.next, .store [1, 2, 3], .backUp 1, .next, .next, .backUp (-1), .close, .next]
        (BufferedOutput.new (FileDescriptor.mk (⟨[]⟩ : SlowFile)) 3, .start)).1
      (BufferedOutput.run [.next, .store [1, 2, 3], .backUp 1, .next, .next, .backUp (-1), .close, .next]
        (BufferedOutput.new (FileDescriptor.mk (⟨[]⟩ : SlowFile)) 3, .start)).2 ∧
    BufferedOutput.Sound []
      (BufferedOutput.run [.next, .store [1, 2, 3], .next, .backUp 5, .backUp 1, .close]
        (BufferedOutput.new (Ostream.mk (⟨[]⟩ : SlowFile) true) 3, .start)).1
      (BufferedOutput.run [.next, .store [1, 2, 3], .next, .backUp 5, .backUp 1, .close]
        (BufferedOutput.new (Ostream.mk (⟨[]⟩ : SlowFile) true) 3, .start)).2 :=
  ⟨outputStreams_lose_nothing.1 SlowFile SlowFile.writesPartially ⟨[]⟩ 3
      [.next, .store [1, 2, 3], .backUp 1, .next, .next, .backUp (-1), .close, .next],
    outputStreams_lose_nothing.2 SlowFile SlowFile.putsPartially ⟨⟨[]⟩, true⟩ 3
      [.next, .store [1, 2, 3], .next, .backUp 5, .backUp 1, .close]⟩

/-! ## As the destination of another stream -/

namespace BufferedOutput
variable {δ : Type}

/-- A stream that can be made and used: the buffer has its size. -/
def WellSized (s : BufferedOutput δ) : Prop := 0 < s.bufferSize ∧ ∀ b, s.buffer = some b → b.length = s.bufferSize

theorem WellSized.store {s : BufferedOutput δ} (hs : s.WellSized) (data : Bytes) : (s.store data).WellSized := by
  refine ⟨hs.1, fun b hb => ?_⟩
  simp only [BufferedOutput.store, Option.map_eq_some_iff] at hb
  obtain ⟨b', hb', rfl⟩ := hb
  have := hs.2 b' hb'
  simp only [BufferedOutput.store, List.length_append, List.length_take, length_overwrite, List.length_drop]
  omega

theorem WellSized.backUp {s : BufferedOutput δ} (hs : s.WellSized) (count : Int) : (s.backUp count).WellSized := by
  simp only [BufferedOutput.backUp]
  split
  · exact hs
  · split
    · exact hs
    · exact hs

variable [Destination δ]

theorem WellSized.next {s : BufferedOutput δ} (hs : s.WellSized) : s.next.2.WellSized := by
  simp only [BufferedOutput.next]
  split
  · exact hs
  · split
    · exact ⟨hs.1, by simp⟩
    · rename_i b hb
      have hsize := hs.2 b hb
      split
      · exact hs
      · split
        · exact hs
        · exact hs
        · refine ⟨hs.1, fun b' hb' => ?_⟩
          simp only at hb'
          split at hb'
          · cases hb'
            simp only [List.length_append, List.length_take, List.length_drop]
            omega
          · cases hb'
            exact hsize

theorem WellSized.close {s : BufferedOutput δ} (hs : s.WellSized) : s.close.2.WellSized := by
  simp only [BufferedOutput.close]
  split
  · exact hs
  · split
    · exact hs
    · exact hs

theorem next_rank_lt {s s' : BufferedOutput δ} (hs : s.WellSized) (h : s.next = (.ok 0, s')) :
    Destination.rank s'.destination < Destination.rank s.destination := by
  simp only [BufferedOutput.next] at h
  split at h
  · cases h
  · split at h
    · simp only [Prod.mk.injEq, Except.ok.injEq] at h
      have := hs.1
      omega
    · rename_i b hb
      have hne : b ≠ [] := by
        rw [← List.length_pos_iff, hs.2 b hb]
        exact hs.1
      split at h
      · simp only [Prod.mk.injEq, Except.ok.injEq] at h
        omega
      · split at h
        · cases h
        · rename_i d hflush
          cases h
          exact Destination.rank_lt hne hflush
        · simp at h

/-- The streams that can be made, as destinations of `WriteToStream`. -/
structure Sized (δ : Type) where
  stream    : BufferedOutput δ
  wellSized : stream.WellSized

instance : OutputStream (Sized δ) where
  next s := (s.stream.next.1, ⟨s.stream.next.2, s.wellSized.next⟩)
  store data s := ⟨s.stream.store data, s.wellSized.store data⟩
  backUp count s := ⟨s.stream.backUp count, s.wellSized.backUp count⟩
  close s := (s.stream.close.1, ⟨s.stream.close.2, s.wellSized.close⟩)
  rank s := Destination.rank s.stream.destination
  rank_lt {s s'} h := by
    simp only [Prod.mk.injEq] at h
    obtain ⟨hok, rfl⟩ := h
    have hnext : s.stream.next = (.ok 0, s.stream.next.2) := Prod.ext hok rfl
    have hlt := next_rank_lt s.wellSized hnext
    exact hlt

end BufferedOutput

/-- A destination on which no operation fails. -/
structure Reliable (δ : Type) [Destination δ] : Prop extends AcceptsBytes δ where
  flush_ok  : ∀ {data : Bytes} (d : δ), data ≠ [] → ∃ n d', Destination.flush data d = (.ok n, d')
  finish_ok : ∀ (data : Bytes) (d : δ), ∃ d', Destination.finish data d = (.ok (), d')

section File
variable {φ : Type} [WritableFile φ]

theorem writeIgnoringEintr_ok (hn : ∀ (data : Bytes) (f : φ) errno f', WritableFile.write data f ≠ (.failed errno, f'))
    (data : Bytes) (file : φ) : ∃ n f', writeIgnoringEintr data file = (.ok n, f') := by
  rw [writeIgnoringEintr]
  split
  · rename_i f hwrite
    exact writeIgnoringEintr_ok hn data f
  · exact ⟨_, _, rfl⟩
  · rename_i errno f hwrite
    exact absurd hwrite (hn data file errno f)
termination_by WritableFile.rank file
decreasing_by
  rename_i hwrite
  exact WritableFile.rank_lt hwrite (.inl rfl)

theorem writeRemaining_ok (hw : WritesPartially φ)
    (hn : ∀ (data : Bytes) (f : φ) errno f', WritableFile.write data f ≠ (.failed errno, f')) (data : Bytes) (file : φ) :
    ∃ f', writeRemaining data file = (.ok (), f') := by
  rw [writeRemaining]
  split
  · exact ⟨_, rfl⟩
  · rename_i hdata
    obtain ⟨n, f, hwrite⟩ := writeIgnoringEintr_ok hn data file
    obtain ⟨hpos, -⟩ := hw.writeIgnoringEintr hdata file hwrite
    have := List.length_pos_iff.2 hdata
    simp only [hwrite]
    cases n with
    | zero => omega
    | succ n => exact writeRemaining_ok hw hn (data.drop (n + 1)) f
termination_by data.length
decreasing_by
  rw [List.length_drop]
  omega

/-- A file whose writes do not fail and that closes, however slowly it takes its bytes. -/
theorem WritesPartially.reliable (hw : WritesPartially φ)
    (hn : ∀ (data : Bytes) (f : φ) errno f', WritableFile.write data f ≠ (.failed errno, f'))
    (hclose : ∀ f : φ, ∃ f', WritableFile.close f = (none, f')) : Reliable (FileDescriptor φ) where
  toAcceptsBytes := hw.accepts
  flush_ok {data} d _ := by
    obtain ⟨n, f, hwrite⟩ := writeIgnoringEintr_ok hn data d.file
    exact ⟨n, ⟨f⟩, by simp only [Destination.flush, hwrite]⟩
  finish_ok data d := by
    obtain ⟨f, hwrite⟩ := writeRemaining_ok hw hn data d.file
    obtain ⟨f', hc⟩ := hclose f
    exact ⟨⟨f'⟩, by simp only [Destination.finish, hwrite, hc]⟩

end File

theorem overwrite_of_le : ∀ {data old : Bytes}, data.length ≤ old.length → overwrite data old = data ++ old.drop data.length
  | [], [], _ => rfl
  | [], _ :: _, _ => rfl
  | _ :: _, [], h => by simp at h
  | b :: data, c :: old, h => by
    have hle : data.length ≤ old.length := by simpa using h
    simp [overwrite, overwrite_of_le hle]

theorem Ledger.store_next (l : Ledger) {old data : Bytes} (h : data.length ≤ old.length) :
    (l.next old).store data = l.next (data ++ old.drop data.length) := by
  have hlen : (l.kept ++ old).length - old.length = l.kept.length := by
    rw [List.length_append]
    omega
  simp only [Ledger.store, Ledger.next]
  rw [hlen, List.take_left, List.drop_left, overwrite_of_le h, List.length_append, List.length_drop,
    Nat.add_sub_cancel' h]

namespace BufferedOutput
variable {δ : Type} [Destination δ] {initial : Bytes} {s : BufferedOutput δ} {l : Ledger}

theorem Open.next_reliable (hr : Reliable δ) (ho : Open initial s l) : ∃ n s', s.next = (.ok n, s') := by
  simp only [BufferedOutput.next, ho.status_ok]
  rcases ho.sized with ⟨hnone, -⟩ | ⟨b, hsome, hsize, -⟩
  · simp only [hnone]
    exact ⟨_, _, rfl⟩
  · simp only [hsome]
    split
    · exact ⟨_, _, rfl⟩
    · have hpos := ho.size_pos
      have hne : b ≠ [] := by
        rw [← List.length_pos_iff]
        omega
      obtain ⟨n, d, hflush⟩ := hr.flush_ok s.destination hne
      simp only [hflush]
      cases n with
      | zero => exact ⟨_, _, rfl⟩
      | succ n => exact ⟨_, _, rfl⟩

theorem Open.close_reliable (hr : Reliable δ) (ho : Open initial s l) : ∃ s', s.close = (.ok (), s') := by
  simp only [BufferedOutput.close, ho.status_ok]
  obtain ⟨d, hfinish⟩ := hr.finish_ok ((s.buffer.getD []).take s.countInBuffer) s.destination
  simp only [hfinish]
  exact ⟨_, rfl⟩

def Sized.OpenAt (initial : Bytes) (s : Sized δ) (l : Ledger) : Prop := Open initial s.stream l

/-- **A stream over a destination that never fails is one itself**, so all that `WriteToStream` and the encrypting stream
write goes to the file. -/
theorem writesTo (hr : Reliable δ) (initial : Bytes) :
    WritesTo (Sized.OpenAt initial)
      (fun (s : Sized δ) bytes => Destination.received s.stream.destination = initial ++ bytes) where
  next {s l} ho := by
    obtain ⟨n, s', hnext⟩ := ho.next_reliable hr
    obtain ⟨hn, hopen⟩ := ho.next_ok hr.toAcceptsBytes hnext
    have hsized := s.wellSized.next
    rw [hnext] at hsized
    refine ⟨n, ⟨s', hsized⟩, by simp [OutputStream.next, hnext], fun data hdata => ?_⟩
    refine ⟨s'.data.drop data.length, by rw [List.length_drop]; omega, ?_⟩
    rw [← Ledger.store_next l (by omega)]
    exact hopen.store data
  backUp count ho := ho.backUp count
  close {s l} ho := by
    obtain ⟨s', hclose⟩ := ho.close_reliable hr
    have hsized := s.wellSized.close
    rw [hclose] at hsized
    obtain ⟨-, -, hreceived⟩ := ho.close_ok hr.toAcceptsBytes hclose
    exact ⟨⟨s', hsized⟩, by simp [OutputStream.close, hclose], hreceived⟩

theorem wellSized_new (d : δ) (bufferSize : Int) : (new d bufferSize).WellSized :=
  ⟨(open_new d bufferSize).size_pos, fun b hb => by cases hb⟩

end BufferedOutput

open BufferedOutput in
/-- **An encrypting stream over a file**, however slowly the file takes its bytes: whatever `Next` and `BackUp` calls were
made, closing puts the header and the segments of what was kept behind what the file had. -/
theorem encryptingStream_file {φ : Type} [WritableFile φ] (hw : WritesPartially φ)
    (hn : ∀ (data : Bytes) (f : φ) errno f', WritableFile.write data f ≠ (.failed errno, f'))
    (hclose : ∀ f : φ, ∃ f', WritableFile.close f = (none, f')) (file : φ) (bufferSize : Int) (e : SegmentEncrypter)
    (hF : 0 < e.firstSegmentSize) (ops : List WriteOp) :
    ∃ s₀ s l, EncryptingStream.new e (Sized.mk (new (FileDescriptor.mk file) bufferSize) (wellSized_new _ _)) = .ok s₀ ∧
      ops.foldl runWrite (s₀, ⟨[], 0⟩) = (s, l) ∧
      ∀ cts, e.Segments l.kept cts → ∃ s', s.close = (.ok (), s') ∧
        WritableFile.received s'.ctDestination.stream.destination.file =
          WritableFile.received file ++ (e.header ++ cts.flatten) := by
  have hto := writesTo (hw.reliable hn hclose) (WritableFile.received file)
  let dest : Sized (FileDescriptor φ) := ⟨new ⟨file⟩ bufferSize, wellSized_new _ _⟩
  have hdest : dest.OpenAt (WritableFile.received file) ⟨[], 0⟩ := open_new _ bufferSize
  obtain ⟨s₀, hnew, hinv₀⟩ := inv_new hF hdest
  refine ⟨s₀, _, _, hnew, rfl, fun cts hseg => ?_⟩
  obtain ⟨s', hclosed, hreceived, -⟩ := close_eq hto hF (inv_run hto hF ops hinv₀) hseg
  exact ⟨s', hclosed, hreceived⟩

end Tink
