import Mathlib.Data.List.Flatten
import TinkCc.Basic
import TinkCc.LibOutcome
/-!
# Cords — reading and writing `absl::Cord`

`aead/internal/cord_utils.cc`.  A cord is its chunks, none of them empty.  `CordReader` walks over the chunks, `CordWriter`
fills one buffer after the other and hands the full ones to its cord.  The buffers are an allocator's: of any size but
empty, with anything in them.
-/
namespace Tink

open Outcome

structure Cord where
  chunks : List Bytes
  ne_nil : ∀ chunk ∈ chunks, chunk ≠ []

/-- What `CordBuffer::CreateWithCustomLimit` allocates: the memory of one buffer after the other. -/
structure Allocator where
  memory : Nat → Bytes
  ne_nil : ∀ i, memory i ≠ []

namespace Cord

/-- Of some chunks, those that are not empty. -/
def ofChunks (chunks : List Bytes) : Cord where
  chunks := chunks.filter (· ≠ [])
  ne_nil := by
    intro chunk hchunk
    simpa using (List.mem_filter.1 hchunk).2

def flatten (c : Cord) : Bytes := c.chunks.flatten

def size (c : Cord) : Nat := c.flatten.length

def append (c : Cord) (bytes : Bytes) : Cord := ofChunks (c.chunks ++ [bytes])

def prepend (c : Cord) (bytes : Bytes) : Cord := ofChunks (bytes :: c.chunks)

def startsWith (c : Cord) (bytes : Bytes) : Bool := bytes.isPrefixOf c.flatten

/-- Chunks without their first `n` bytes. -/
def dropBytes : Nat → List Bytes → List Bytes
  | _, [] => []
  | n, chunk :: chunks => if n < chunk.length then chunk.drop n :: chunks else dropBytes (n - chunk.length) chunks

/-- The first `n` bytes of some chunks. -/
def takeBytes : Nat → List Bytes → List Bytes
  | _, [] => []
  | n, chunk :: chunks => if n ≤ chunk.length then [chunk.take n] else chunk :: takeBytes (n - chunk.length) chunks

/-- `RemovePrefix`, which checks that there are `n` bytes. -/
def removePrefix {ε : Type} (c : Cord) (n : Nat) : Outcome ε Cord := do
  check (n ≤ c.size)
  return ofChunks (dropBytes n c.chunks)

/-- `RemoveSuffix`, which checks that there are `n` bytes. -/
def removeSuffix {ε : Type} (c : Cord) (n : Nat) : Outcome ε Cord := do
  check (n ≤ c.size)
  return ofChunks (takeBytes (c.size - n) c.chunks)

def subcord (c : Cord) (pos n : Nat) : Cord := ofChunks (takeBytes n (dropBytes pos c.chunks))

end Cord

structure CordReader where
  cord         : Cord
  position     : Nat
  nextChunks   : List Bytes
  currentChunk : Bytes

namespace CordReader

variable {ε : Type}

def new (cord : Cord) : CordReader := ⟨cord, 0, cord.chunks, []⟩

def available (r : CordReader) : Nat := r.cord.size - r.position

/-- The reader after `Peek`, which returns its current chunk. -/
def peek (r : CordReader) : CordReader :=
  match r.currentChunk, r.nextChunks with
  | [], chunk :: chunks => { r with currentChunk := chunk, nextChunks := chunks }
  | _, _ => r

/-- A turn of the loop of `Skip`: the bytes that are left to skip, and the reader. -/
def skipStep : Nat × CordReader → Outcome ε (Nat × CordReader)
  | (size, r) =>
    let r := r.peek
    let toSkip := min size r.currentChunk.length
    returns (size - toSkip, { r with currentChunk := r.currentChunk.drop toSkip })

def skip (r : CordReader) (size : Nat) : Outcome ε CordReader := do
  let size := min size r.available
  let (_, r) ← loop Prod.fst (0 < ·.1) skipStep (size, { r with position := r.position + size })
  return r

/-- A turn of the loop of `ReadN`: the bytes that are left to read, the bytes read, and the reader. -/
def readNStep : Nat × Bytes × CordReader → Outcome ε (Nat × Bytes × CordReader)
  | (size, dest, r) => do
    let r := r.peek
    let chunk := r.currentChunk.take size
    let r ← r.skip chunk.length
    return (size - min size chunk.length, dest ++ chunk, r)

def readN (r : CordReader) (size : Nat) : Outcome ε Bytes := do
  check (size ≤ r.available)
  let (_, dest, _) ← loop Prod.fst (0 < ·.1) readNStep (size, [], r)
  return dest

end CordReader

/-- `CordWriter`; a buffer is the bytes it has so far and the memory behind them. -/
structure CordWriter where
  destination       : Cord
  currentBuffer     : Bytes
  currentBufferSpan : Bytes
  maxSize           : Nat
  writtenSoFar      : Nat
  allocated         : Nat

namespace CordWriter

variable {ε : Type}

def new (maxSize : Nat) : CordWriter := ⟨Cord.ofChunks [], [], [], maxSize, 0, 0⟩

/-- The writer after `NextWriteBuffer`, which returns its span. -/
def nextWriteBuffer (allocator : Allocator) (w : CordWriter) : CordWriter :=
  if w.currentBufferSpan ≠ [] ∨ w.maxSize = 0 then w
  else
    let toAllocate := w.maxSize - w.writtenSoFar
    if toAllocate = 0 then w
    else
      { w with
        currentBuffer := []
        currentBufferSpan := (allocator.memory w.allocated).take toAllocate
        allocated := w.allocated + 1 }

/-- `data` is put at the beginning of the span, where it must fit. -/
def fill (w : CordWriter) (data : Bytes) : Outcome ε CordWriter := do
  check (data.length ≤ w.currentBufferSpan.length)
  return { w with currentBufferSpan := data ++ w.currentBufferSpan.drop data.length }

/-- `Advance`; `size` is an `int` and required not to exceed the span. -/
def advance (w : CordWriter) (size : Nat) : Outcome ε CordWriter := do
  check (size < 2 ^ 31 ∧ size ≤ w.currentBufferSpan.length)
  check (w.writtenSoFar + size ≤ w.maxSize)
  let buffer := w.currentBuffer ++ w.currentBufferSpan.take size
  let span := w.currentBufferSpan.drop size
  if span = [] then
    return { w with
      destination := w.destination.append buffer
      currentBuffer := []
      currentBufferSpan := []
      writtenSoFar := w.writtenSoFar + size }
  else
    return { w with
      currentBuffer := buffer
      currentBufferSpan := span
      writtenSoFar := w.writtenSoFar + size }

/-- A turn of the loop of `Write`: the data that is left, and the writer. -/
def writeStep (allocator : Allocator) : Bytes × CordWriter → Outcome ε (Bytes × CordWriter)
  | (data, w) => do
    let w := w.nextWriteBuffer allocator
    let buffer := data.take w.currentBufferSpan.length
    let w ← w.fill buffer
    let w ← w.advance buffer.length
    return (data.drop buffer.length, w)

def write (allocator : Allocator) (w : CordWriter) (data : Bytes) : Outcome ε CordWriter := do
  check (data.length ≤ w.maxSize + w.currentBufferSpan.length)
  let (_, w) ← loop (·.1.length) (·.1 ≠ []) (writeStep allocator) (data, w)
  return w

def data (w : CordWriter) : Cord :=
  if w.currentBufferSpan ≠ [] then w.destination.append w.currentBuffer else w.destination

end CordWriter

/-! ## Cords -/

namespace Cord

@[simp] theorem flatten_ofChunks (chunks : List Bytes) : (ofChunks chunks).flatten = chunks.flatten := by
  unfold flatten ofChunks
  exact List.flatten_filter_ne_nil

@[simp] theorem flatten_append (c : Cord) (bytes : Bytes) : (c.append bytes).flatten = c.flatten ++ bytes := by
  rw [append, flatten_ofChunks]
  simp [flatten]

@[simp] theorem flatten_prepend (c : Cord) (bytes : Bytes) : (c.prepend bytes).flatten = bytes ++ c.flatten := by
  rw [prepend, flatten_ofChunks]
  rfl

theorem flatten_dropBytes : ∀ (n : Nat) (chunks : List Bytes), (dropBytes n chunks).flatten = chunks.flatten.drop n
  | n, [] => by simp [dropBytes]
  | n, chunk :: chunks => by
    unfold dropBytes
    split
    · next hlt => simp [List.drop_append, Nat.sub_eq_zero_of_le (Nat.le_of_lt hlt)]
    · next hle => simp [flatten_dropBytes, List.drop_append, List.drop_of_length_le (Nat.le_of_not_lt hle)]

theorem flatten_takeBytes : ∀ (n : Nat) (chunks : List Bytes), (takeBytes n chunks).flatten = chunks.flatten.take n
  | n, [] => by simp [takeBytes]
  | n, chunk :: chunks => by
    unfold takeBytes
    split
    · next hle => simp [List.take_append, Nat.sub_eq_zero_of_le hle]
    · next hlt =>
      have hle : chunk.length ≤ n := Nat.le_of_lt (Nat.lt_of_not_le hlt)
      simp [flatten_takeBytes, List.take_append, List.take_of_length_le hle]

theorem removePrefix_returns {ε : Type} {c : Cord} {n : Nat} (h : n ≤ c.size) :
    ∃ c', c.removePrefix n = (returns c' : Outcome ε Cord) ∧ c'.flatten = c.flatten.drop n := by
  refine ⟨ofChunks (dropBytes n c.chunks), ?_, ?_⟩
  · unfold removePrefix
    rw [check_pos h]
    rfl
  · rw [flatten_ofChunks, flatten_dropBytes, flatten]

theorem removeSuffix_returns {ε : Type} {c : Cord} {n : Nat} (h : n ≤ c.size) :
    ∃ c', c.removeSuffix n = (returns c' : Outcome ε Cord) ∧ c'.flatten = c.flatten.take (c.size - n) := by
  refine ⟨ofChunks (takeBytes (c.size - n) c.chunks), ?_, ?_⟩
  · unfold removeSuffix
    rw [check_pos h]
    rfl
  · rw [flatten_ofChunks, flatten_takeBytes, flatten]

theorem flatten_subcord (c : Cord) (pos n : Nat) : (c.subcord pos n).flatten = (c.flatten.drop pos).take n := by
  rw [subcord, flatten_ofChunks, flatten_takeBytes, flatten_dropBytes, flatten]

end Cord

/-! ## Reading -/

namespace CordReader

variable {ε : Type} {r : CordReader} {rest : Bytes}

/-- The chunks in front of the reader are these bytes. -/
structure Ahead (r : CordReader) (rest : Bytes) : Prop where
  bytes  : r.currentChunk ++ r.nextChunks.flatten = rest
  ne_nil : ∀ chunk ∈ r.nextChunks, chunk ≠ []

/-- **The reader has these bytes in front of it**, and its position says so. -/
structure At (r : CordReader) (rest : Bytes) : Prop extends Ahead r rest where
  position : r.position + rest.length = r.cord.size

theorem at_new (cord : Cord) : (new cord).At cord.flatten where
  bytes := rfl
  ne_nil := cord.ne_nil
  position := Nat.zero_add _

theorem At.available_eq (h : r.At rest) : r.available = rest.length := by
  have hposition := h.position
  unfold available
  omega

@[simp] theorem peek_cord (r : CordReader) : r.peek.cord = r.cord := by
  unfold peek
  split <;> rfl

@[simp] theorem peek_position (r : CordReader) : r.peek.position = r.position := by
  unfold peek
  split <;> rfl

theorem Ahead.peek (h : r.Ahead rest) : r.peek.Ahead rest := by
  unfold CordReader.peek
  split
  · next chunk chunks hcurrent hnext =>
    obtain ⟨hbytes, hne⟩ := h
    rw [hcurrent, hnext] at hbytes
    rw [hnext] at hne
    exact ⟨by simpa using hbytes, fun c hc => hne c (List.mem_cons_of_mem _ hc)⟩
  · exact h

theorem At.peek (h : r.At rest) : r.peek.At rest where
  toAhead := h.toAhead.peek
  position := by simpa using h.position

/-- As long as there are bytes, `Peek` returns some. -/
theorem Ahead.peek_ne_nil (h : r.Ahead rest) (hrest : rest ≠ []) : r.peek.currentChunk ≠ [] := by
  unfold CordReader.peek
  split
  · next chunk chunks _ hnext => exact h.ne_nil chunk (by simp [hnext])
  · next hneither =>
    intro hnil
    apply hrest
    rw [← h.bytes, hnil]
    cases hnext : r.nextChunks with
    | nil => rfl
    | cons chunk chunks => exact (hneither chunk chunks hnil hnext).elim

theorem Ahead.currentChunk_eq (h : r.Ahead rest) : r.currentChunk = rest.take r.currentChunk.length := by
  rw [← h.bytes, List.take_left]

theorem Ahead.length_le (h : r.Ahead rest) : r.currentChunk.length ≤ rest.length := by
  rw [← h.bytes, List.length_append]
  exact Nat.le_add_right _ _

/-- What is in front of the reader when some bytes of its chunk are gone. -/
theorem Ahead.drop (h : r.Ahead rest) {n : Nat} (hn : n ≤ r.currentChunk.length) :
    Ahead { r with currentChunk := r.currentChunk.drop n } (rest.drop n) where
  bytes := by
    rw [← h.bytes, List.drop_append, Nat.sub_eq_zero_of_le hn]
    rfl
  ne_nil := h.ne_nil

/-- **`Skip` ends** and takes the reader forward by `size` bytes, or to the end. -/
theorem At.skip (h : r.At rest) (size : Nat) :
    ∃ r', r.skip size = (returns r' : Outcome ε CordReader) ∧ r'.At (rest.drop size) := by
  let I : Nat × CordReader → Prop := fun s => s.2.cord = r.cord ∧ s.2.position = r.position + min size rest.length ∧
    ∃ left, s.2.Ahead left ∧ s.1 ≤ left.length ∧ left.drop s.1 = rest.drop size
  have hstep : ∀ s, I s → decide (0 < s.1) = true →
      ∃ s', skipStep s = (returns s' : Outcome ε (Nat × CordReader)) ∧ I s' ∧ s'.1 < s.1 := by
    rintro ⟨n, r₁⟩ ⟨hcord, hposition, left, hahead, hle, hdrop⟩ hmore
    have hpos : 0 < n := of_decide_eq_true hmore
    have hne : left ≠ [] := List.ne_nil_of_length_pos (lt_of_lt_of_le hpos hle)
    have hchunk : 0 < r₁.peek.currentChunk.length := List.length_pos_iff.2 (hahead.peek_ne_nil hne)
    have hskip : min n r₁.peek.currentChunk.length ≤ r₁.peek.currentChunk.length := Nat.min_le_right _ _
    refine ⟨_, rfl, ⟨by simpa using hcord, by simpa using hposition, _, hahead.peek.drop hskip, ?_, ?_⟩, ?_⟩
    · simp only [List.length_drop]
      omega
    · rw [List.drop_drop, ← hdrop]
      congr 1
      simp only
      omega
    · simp only
      omega
  have hinit : I (min size r.available, { r with position := r.position + min size r.available }) := by
    refine ⟨rfl, by simp only [h.available_eq], rest, ⟨h.bytes, h.ne_nil⟩, ?_, ?_⟩
    · simp only [h.available_eq]
      exact Nat.min_le_right _ _
    · simp only [h.available_eq]
      rw [← List.drop_eq_drop_min]
  obtain ⟨⟨n, r'⟩, hloop, ⟨hcord, hposition, left, hahead, hle, hdrop⟩, hdone⟩ := loop_returns hstep _ hinit
  have hzero : n = 0 := by simpa using hdone
  subst hzero
  rw [List.drop_zero] at hdrop
  subst hdrop
  refine ⟨r', ?_, hahead, ?_⟩
  · simp only [CordReader.skip]
    rw [hloop]
    rfl
  · have hsize := h.position
    simp only at hcord hposition
    rw [hcord, hposition, List.length_drop]
    omega

/-- **`ReadN` returns the next `size` bytes** where there are so many. -/
theorem At.readN (h : r.At rest) {size : Nat} (hsize : size ≤ rest.length) :
    r.readN size = (returns (rest.take size) : Outcome ε Bytes) := by
  let I : Nat × Bytes × CordReader → Prop := fun s => s.2.1.length + s.1 = size ∧ s.2.1 = rest.take s.2.1.length ∧
    s.2.2.At (rest.drop s.2.1.length)
  have hstep : ∀ s, I s → decide (0 < s.1) = true →
      ∃ s', readNStep s = (returns s' : Outcome ε (Nat × Bytes × CordReader)) ∧ I s' ∧ s'.1 < s.1 := by
    rintro ⟨n, dest, r₁⟩ ⟨hlength, hdest, hat⟩ hmore
    have hpos : 0 < n := of_decide_eq_true hmore
    simp only at hlength hdest hat
    have hne : rest.drop dest.length ≠ [] := by
      apply List.ne_nil_of_length_pos
      rw [List.length_drop]
      omega
    have hchunk : 0 < r₁.peek.currentChunk.length := List.length_pos_iff.2 (hat.peek_ne_nil hne)
    have hle := hat.peek.length_le
    rw [List.length_drop] at hle
    have htaken : r₁.peek.currentChunk.take n = (rest.drop dest.length).take (min n r₁.peek.currentChunk.length) := by
      rw [hat.peek.currentChunk_eq, List.take_take, List.length_take, List.length_drop, Nat.min_eq_left hle]
    obtain ⟨r₂, hskip, hat₂⟩ := hat.peek.skip (r₁.peek.currentChunk.take n).length
    refine ⟨(n - min n (r₁.peek.currentChunk.take n).length, dest ++ r₁.peek.currentChunk.take n, r₂), ?_, ⟨?_, ?_, ?_⟩, ?_⟩
    · simp only [readNStep]
      rw [hskip]
      rfl
    · simp only [List.length_append, List.length_take]
      omega
    · simp only [List.length_append, List.take_add]
      rw [← hdest, htaken]
      simp
    · simpa [List.drop_drop] using hat₂
    · simp only [List.length_take]
      omega
  have hinit : I (size, [], r) := ⟨Nat.zero_add _, rfl, h⟩
  obtain ⟨⟨n, dest, r'⟩, hloop, ⟨hlength, hdest, _⟩, hdone⟩ := loop_returns hstep _ hinit
  have hzero : n = 0 := by simpa using hdone
  have hdestLength : dest.length = size := by
    simp only at hlength
    omega
  unfold CordReader.readN
  rw [check_pos (h.available_eq ▸ hsize), returns_bind, hloop, ← hdestLength, ← hdest]
  rfl

end CordReader

/-! ## Writing -/

namespace CordWriter

variable {ε : Type} {w : CordWriter} {content : Bytes}

/-- **What was written so far**, in the cord and in the buffer; the span is no larger than what may still come. -/
structure Holds (w : CordWriter) (content : Bytes) : Prop where
  bytes   : w.destination.flatten ++ w.currentBuffer = content
  written : w.writtenSoFar = content.length
  room    : w.writtenSoFar + w.currentBufferSpan.length ≤ w.maxSize
  flushed : w.currentBufferSpan = [] → w.currentBuffer = []

theorem holds_new (maxSize : Nat) : (new maxSize).Holds [] where
  bytes := by simp [new]
  written := rfl
  room := by simp [new]
  flushed := fun _ => rfl

@[simp] theorem nextWriteBuffer_maxSize (allocator : Allocator) (w : CordWriter) :
    (w.nextWriteBuffer allocator).maxSize = w.maxSize := by
  unfold nextWriteBuffer
  split
  · rfl
  · dsimp only
    split <;> rfl

theorem Holds.nextWriteBuffer (h : w.Holds content) (allocator : Allocator) :
    (w.nextWriteBuffer allocator).Holds content := by
  unfold CordWriter.nextWriteBuffer
  split
  · exact h
  · next hempty =>
    dsimp only
    split
    · exact h
    · next hroom =>
      have hspan : w.currentBufferSpan = [] := by
        by_contra hne
        exact hempty (Or.inl hne)
      have hbytes := h.bytes
      rw [h.flushed hspan] at hbytes
      have hle := h.room
      refine ⟨hbytes, h.written, ?_, fun _ => rfl⟩
      simp only [List.length_take]
      omega

/-- As long as something may still be written, the span is not empty. -/
theorem Holds.span_ne_nil (h : w.Holds content) (allocator : Allocator) (hroom : content.length < w.maxSize) :
    (w.nextWriteBuffer allocator).currentBufferSpan ≠ [] := by
  have hwritten := h.written
  unfold CordWriter.nextWriteBuffer
  split
  · next hor => exact hor.resolve_right (by omega)
  · dsimp only
    rw [if_neg (by omega : ¬ w.maxSize - w.writtenSoFar = 0)]
    have hmemory := List.length_pos_iff.2 (allocator.ne_nil w.allocated)
    apply List.ne_nil_of_length_pos
    simp only [List.length_take]
    omega

/-- **Bytes that are put into the span are written** when the writer advances over them. -/
theorem Holds.put (h : w.Holds content) (data : Bytes) (hfits : data.length ≤ w.currentBufferSpan.length)
    (hint : data.length < 2 ^ 31) :
    ∃ w', (w.fill data >>= fun w => w.advance data.length) = (returns w' : Outcome ε CordWriter) ∧
      w'.Holds (content ++ data) ∧ w'.maxSize = w.maxSize := by
  have hroom := h.room
  have hwritten := h.written
  have hspan : data.length ≤ (data ++ w.currentBufferSpan.drop data.length).length := by
    rw [List.length_append]
    exact Nat.le_add_right _ _
  unfold fill advance
  simp only [check_pos hfits, returns_bind, pure_eq]
  rw [check_pos ⟨hint, hspan⟩, returns_bind, check_pos (by omega), returns_bind, List.take_left, List.drop_left]
  by_cases hend : w.currentBufferSpan.drop data.length = []
  · rw [if_pos hend]
    refine ⟨_, rfl, ⟨?_, ?_, ?_, fun _ => rfl⟩, rfl⟩
    · simp [← h.bytes]
    · simp [hwritten]
    · simp only [List.length_nil]
      omega
  · rw [if_neg hend]
    refine ⟨_, rfl, ⟨?_, ?_, ?_, fun hnil => (hend hnil).elim⟩, rfl⟩
    · simp [← h.bytes]
    · simp [hwritten]
    · simp only [List.length_drop]
      omega

/-- **`Write` ends and fails no check** where the data fits. -/
theorem Holds.write (h : w.Holds content) (allocator : Allocator) (data : Bytes) (hfits : content.length + data.length ≤ w.maxSize)
    (hint : data.length < 2 ^ 31) :
    ∃ w', w.write allocator data = (returns w' : Outcome ε CordWriter) ∧ w'.Holds (content ++ data) ∧
      w'.maxSize = w.maxSize := by
  let I : Bytes × CordWriter → Prop := fun s => s.1.length < 2 ^ 31 ∧ s.2.maxSize = w.maxSize ∧
    ∃ done, s.2.Holds (content ++ done) ∧ done ++ s.1 = data
  have hstep : ∀ s, I s → decide (s.1 ≠ []) = true →
      ∃ s', writeStep allocator s = (returns s' : Outcome ε (Bytes × CordWriter)) ∧ I s' ∧ s'.1.length < s.1.length := by
    rintro ⟨left, w₁⟩ ⟨hleft, hmax, done, hholds, hdone⟩ hmore
    have hne : left ≠ [] := of_decide_eq_true hmore
    have hpos := List.length_pos_iff.2 hne
    have hlength := congrArg List.length hdone
    rw [List.length_append] at hlength
    simp only at hlength hleft hmax hholds
    have hroom : (content ++ done).length < w₁.maxSize := by
      rw [List.length_append]
      omega
    have hspan := hholds.span_ne_nil allocator hroom
    have hspanPos := List.length_pos_iff.2 hspan
    let buffer := left.take (w₁.nextWriteBuffer allocator).currentBufferSpan.length
    have hbuffer : buffer.length = min (w₁.nextWriteBuffer allocator).currentBufferSpan.length left.length :=
      List.length_take
    obtain ⟨w₂, hput, hholds₂, hmax₂⟩ := (hholds.nextWriteBuffer allocator).put buffer (by omega) (by omega)
    refine ⟨(left.drop buffer.length, w₂), ?_, ⟨?_, ?_, done ++ buffer, ?_, ?_⟩, ?_⟩
    · simp only [writeStep]
      rw [← Outcome.bind_assoc, hput]
      rfl
    · simp only [List.length_drop]
      omega
    · rw [hmax₂, nextWriteBuffer_maxSize, hmax]
    · rw [← List.append_assoc]
      exact hholds₂
    · rw [List.append_assoc, hbuffer, ← List.drop_eq_drop_min, List.take_append_drop]
      exact hdone
    · simp only [List.length_drop]
      omega
  have hinit : I (data, w) := ⟨hint, rfl, [], by simpa using h, rfl⟩
  obtain ⟨⟨left, w'⟩, hloop, ⟨_, hmax, done, hholds, hdone⟩, hend⟩ := loop_returns hstep _ hinit
  have hnil : left = [] := by simpa using hend
  subst hnil
  rw [List.append_nil] at hdone
  subst hdone
  refine ⟨w', ?_, hholds, hmax⟩
  unfold CordWriter.write
  rw [check_pos (by omega), returns_bind, hloop]
  rfl

/-- **`data` hands out all that was written.** -/
theorem Holds.flatten_data (h : w.Holds content) : w.data.flatten = content := by
  unfold CordWriter.data
  split
  · rw [Cord.flatten_append]
    exact h.bytes
  · next hnot =>
    have hspan : w.currentBufferSpan = [] := by
      by_contra hne
      exact hnot hne
    rw [← h.bytes, h.flushed hspan, List.append_nil]

end CordWriter

end Tink
