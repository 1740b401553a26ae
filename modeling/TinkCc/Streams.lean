import Mathlib.Data.Nat.Find
import Mathlib.Data.Prod.Lex
import TinkCc.Basic
/-!
# Streams — input and output streams, and moving bytes through them

`input_stream.h`, `output_stream.h`, and `ReadFromStream` and `WriteToStream` of the streaming AEAD.  A stream is a
state with the operations of its interface.  A buffer may be empty only finitely often in a row, which both headers ask
for: `rank` bounds how often.

What a stream promises its caller is said with a count of what the caller got: a `Cursor` for a reader (how much it has
consumed, and how much of that it may give back) and a `Ledger` for a writer (what it has written and kept, and how
much of that it may take back).  `ReadsFrom` and `WritesTo` are the promises; `readFromStream_eq` and
`writeToStream_eq` use nothing else about a stream.
-/
namespace Tink

/-! ## Interfaces -/

/-- `InputStream`: `Next` gives the bytes of the buffer it returns. -/
class InputStream (σ : Type) where
  next    : σ → Except Status Bytes × σ
  backUp  : (count : Int) → σ → σ
  rank    : σ → Nat
  rank_lt : ∀ {s s'}, next s = (.ok [], s') → rank s' < rank s

/-- `OutputStream`: `Next` gives the size of the buffer it returns, `store` is the caller copying bytes to the front of
that buffer. -/
class OutputStream (σ : Type) where
  next    : σ → Except Status Nat × σ
  store   : Bytes → σ → σ
  backUp  : (count : Int) → σ → σ
  close   : σ → Except Status Unit × σ
  rank    : σ → Nat
  rank_lt : ∀ {s s'}, next s = (.ok 0, s') → rank (store [] s') < rank s

/-! ## What a caller got -/

/-- A reader's place in a stream: the bytes consumed, and how many of them `BackUp` can still return. -/
@[ext] structure Cursor where
  pos  : Nat
  last : Nat

def Cursor.next (c : Cursor) (size : Nat) : Cursor := ⟨c.pos + size, size⟩

/-- A count below 1 does nothing, one above the last buffer counts as the last buffer. -/
def Cursor.backUp (c : Cursor) (count : Int) : Cursor :=
  ⟨c.pos - min count.toNat c.last, c.last - min count.toNat c.last⟩

theorem Cursor.backUp_of_last_eq_zero {c : Cursor} (h : c.last = 0) (count : Int) : c.backUp count = c := by
  unfold Cursor.backUp
  ext1
  · simp [h]
  · simp [h]

theorem Cursor.backUp_of_lt_one {count : Int} (h : count < 1) (c : Cursor) : c.backUp count = c := by
  have h0 : count.toNat = 0 := by omega
  unfold Cursor.backUp
  ext1 <;> simp [h0]

/-- A writer's bytes: those it wrote and kept, and how many of them `BackUp` can still take back. -/
@[ext] structure Ledger where
  kept : Bytes
  last : Nat

def Ledger.next (l : Ledger) (data : Bytes) : Ledger := ⟨l.kept ++ data, data.length⟩

def Ledger.backUp (l : Ledger) (count : Int) : Ledger :=
  ⟨l.kept.take (l.kept.length - min count.toNat l.last), l.last - min count.toNat l.last⟩

/-- **A stream over the bytes `S`**: every buffer is what comes next in `S`, the only error is OUT_OF_RANGE at the end,
and bytes given back come again. -/
structure ReadsFrom {σ : Type} [InputStream σ] (S : Bytes) (At : σ → Cursor → Prop) : Prop where
  next_ok    : ∀ {s c bs s'}, At s c → InputStream.next s = (.ok bs, s') →
    bs <+: S.drop c.pos ∧ At s' (c.next bs.length)
  next_error : ∀ {s c e s'}, At s c → InputStream.next s = (.error e, s') → e.code = .outOfRange ∧ S.length ≤ c.pos
  backUp     : ∀ {s c} (count : Int), At s c → At (InputStream.backUp count s) (c.backUp count)

/-- What reading up to the byte `limit` asks of a stream over `S`: bytes are given back only to the buffer they came in,
and `Spent` is what is known of the stream once it has failed. -/
structure DeliversTo {σ : Type} [InputStream σ] (limit : Nat) (S : Bytes) (At : σ → Cursor → Prop) (Spent : σ → Prop) :
    Prop where
  next_ok    : ∀ {s c bs s'}, At s c → c.pos < limit → InputStream.next s = (.ok bs, s') →
    bs <+: S.drop c.pos ∧ At s' (c.next bs.length)
  next_error : ∀ {s c e s'}, At s c → c.pos < limit → InputStream.next s = (.error e, s') →
    e.code = .outOfRange ∧ S.length ≤ c.pos ∧ Spent s'
  backUp     : ∀ {s c} (count : Nat), At s c → count ≤ c.last → At (InputStream.backUp count s) (c.backUp count)

/-- Reading anywhere. -/
def Delivers {σ : Type} [InputStream σ] (S : Bytes) (At : σ → Cursor → Prop) (Spent : σ → Prop) : Prop :=
  ∀ limit, DeliversTo limit S At Spent

theorem ReadsFrom.delivers {σ : Type} [InputStream σ] {S : Bytes} {At : σ → Cursor → Prop} (hr : ReadsFrom S At) :
    Delivers S At (fun _ => True) := fun _ =>
  { next_ok := fun hat _ h => hr.next_ok hat h
    next_error := fun hat _ h => ⟨(hr.next_error hat h).1, (hr.next_error hat h).2, trivial⟩
    backUp := fun count hat _ => hr.backUp count hat }

/-- **A destination that never fails**: it has what its writer wrote and kept, whatever the sizes of its buffers, and
`Received` of that once closed. -/
structure WritesTo {σ : Type} [OutputStream σ] (At : σ → Ledger → Prop) (Received : σ → Bytes → Prop) : Prop where
  next   : ∀ {s l}, At s l → ∃ n s', OutputStream.next s = (.ok n, s') ∧
    ∀ bs : Bytes, bs.length ≤ n → ∃ pad : Bytes, bs.length + pad.length = n ∧
      At (OutputStream.store bs s') (l.next (bs ++ pad))
  backUp : ∀ {s l} (count : Int), At s l → At (OutputStream.backUp count s) (l.backUp count)
  close  : ∀ {s l}, At s l → ∃ s', OutputStream.close s = (.ok (), s') ∧ Received s' l.kept

/-! ## WriteToStream -/

section Write
variable {σ : Type} [OutputStream σ]

/-- The loop of `WriteToStream`, on contents that are not used up. -/
def writeLoop (contents : Bytes) (outputStream : σ) : Except Status Unit × σ :=
  match _hnext : OutputStream.next outputStream with
  | (.error e, s) => (.error e, s)
  | (.ok availableSpace, s) =>
    let availableBytes := min availableSpace contents.length
    let s := OutputStream.store (contents.take availableBytes) s
    if availableBytes < contents.length then writeLoop (contents.drop availableBytes) s
    else if availableSpace > availableBytes then (.ok (), OutputStream.backUp (availableSpace - availableBytes : Nat) s)
    else (.ok (), s)
termination_by (contents.length, OutputStream.rank outputStream)
decreasing_by
  rename_i hlt
  rw [Prod.lex_def]
  by_cases h0 : availableSpace = 0
  · subst h0
    right
    simp only [Nat.zero_min, List.drop_zero, List.take_zero, true_and]
    exact OutputStream.rank_lt _hnext
  · left
    simp only [List.length_drop]
    omega

def writeToStream (contents : Bytes) (outputStream : σ) : Except Status Unit × σ :=
  if contents = [] then (.ok (), outputStream) else writeLoop contents outputStream

theorem writeLoop_of_ok {contents : Bytes} {n : Nat} {s s' : σ} (h : OutputStream.next s = (.ok n, s')) :
    writeLoop contents s =
      if min n contents.length < contents.length then
        writeLoop (contents.drop (min n contents.length))
          (OutputStream.store (contents.take (min n contents.length)) s')
      else if n > min n contents.length then
        (.ok (), OutputStream.backUp (n - min n contents.length : Nat)
          (OutputStream.store (contents.take (min n contents.length)) s'))
      else (.ok (), OutputStream.store (contents.take (min n contents.length)) s') := by
  rw [writeLoop]
  split
  · rename_i heq
    rw [h] at heq
    cases heq
  · rename_i heq
    rw [h] at heq
    cases heq
    rfl

theorem writeLoop_eq {At : σ → Ledger → Prop} {Received : σ → Bytes → Prop} (hw : WritesTo At Received)
    (contents : Bytes) (s : σ) (l : Ledger) (hne : contents ≠ []) (hat : At s l) :
    ∃ s' last, writeLoop contents s = (.ok (), s') ∧ At s' ⟨l.kept ++ contents, last⟩ := by
  obtain ⟨n, s₁, hnext, hstore⟩ := hw.next hat
  have hpos := List.length_pos_iff.2 hne
  obtain ⟨pad, hpad, hat₁⟩ := hstore (contents.take (min n contents.length))
    (by rw [List.length_take]; omega)
  rw [List.length_take] at hpad
  rw [writeLoop_of_ok hnext]
  by_cases hlt : min n contents.length < contents.length
  · -- the buffer is full and contents are left
    have hpadnil : pad = [] := List.eq_nil_of_length_eq_zero (by omega)
    rw [hpadnil, List.append_nil] at hat₁
    rw [if_pos hlt]
    obtain ⟨s', last, he, hat'⟩ := writeLoop_eq hw (contents.drop (min n contents.length)) _ _
      (by rw [← List.length_pos_iff, List.length_drop]; omega) hat₁
    refine ⟨s', last, he, ?_⟩
    simp only [Ledger.next, List.append_assoc, List.take_append_drop] at hat'
    exact hat'
  · have hmin : min n contents.length = contents.length := by omega
    rw [if_neg hlt]
    rw [hmin, List.take_length] at hat₁
    rw [hmin] at hpad ⊢
    rw [Nat.min_self] at hpad
    by_cases hgt : n > contents.length
    · rw [if_pos hgt, List.take_length]
      have hb := hw.backUp ((n - contents.length : Nat) : Int) hat₁
      have hback : (l.next (contents ++ pad)).backUp ((n - contents.length : Nat) : Int) =
          ⟨l.kept ++ contents, contents.length⟩ := by
        have hpl : pad.length = n - contents.length := by omega
        unfold Ledger.next Ledger.backUp
        simp only [Int.toNat_natCast, List.length_append]
        have hm : min (n - contents.length) (contents.length + pad.length) = pad.length := by omega
        rw [hm]
        have hl1 : l.kept.length + (contents.length + pad.length) - pad.length = (l.kept ++ contents).length := by
          rw [List.length_append]; omega
        rw [hl1, ← List.append_assoc, List.take_left]
        congr 1
        omega
      rw [hback] at hb
      exact ⟨_, _, rfl, hb⟩
    · have hpadnil : pad = [] := List.eq_nil_of_length_eq_zero (by omega)
      rw [if_neg hgt, List.take_length]
      rw [hpadnil, List.append_nil] at hat₁
      exact ⟨_, _, rfl, hat₁⟩
termination_by (contents.length, OutputStream.rank s)
decreasing_by
  rw [Prod.lex_def]
  by_cases h0 : n = 0
  · subst h0
    right
    simp only [Nat.zero_min, List.drop_zero, List.take_zero, true_and]
    exact OutputStream.rank_lt hnext
  · left
    simp only [List.length_drop]
    omega

/-- **A destination that never fails gets exactly the contents.** -/
theorem writeToStream_eq {At : σ → Ledger → Prop} {Received : σ → Bytes → Prop} (hw : WritesTo At Received)
    (contents : Bytes) {s : σ} {l : Ledger} (hat : At s l) :
    ∃ s' last, writeToStream contents s = (.ok (), s') ∧ At s' ⟨l.kept ++ contents, last⟩ := by
  unfold writeToStream
  by_cases h : contents = []
  · rw [if_pos h, h, List.append_nil]
    exact ⟨s, l.last, rfl, hat⟩
  · rw [if_neg h]
    exact writeLoop_eq hw contents s l h hat

end Write

/-! ## ReadFromStream -/

section Read
variable {σ : Type} [InputStream σ]

/-- The loop of `ReadFromStream`: what was read, and the bytes still to be read.  On an error the caller looks at the
output only when the error is OUT_OF_RANGE, and it then holds what was read. -/
def readLoop (output : Bytes) (bytesToBeRead : Nat) (inputStream : σ) : Except Status Unit × Bytes × σ :=
  match _hnext : InputStream.next inputStream with
  | (.error e, s) => (.error e, output, s)
  | (.ok buffer, s) =>
    let neededBytes := min buffer.length bytesToBeRead
    let output := output ++ buffer.take neededBytes
    if 0 < bytesToBeRead - neededBytes then readLoop output (bytesToBeRead - neededBytes) s
    else if buffer.length > neededBytes then (.ok (), output, InputStream.backUp (buffer.length - neededBytes : Nat) s)
    else (.ok (), output, s)
termination_by (bytesToBeRead, InputStream.rank inputStream)
decreasing_by
  rename_i hlt
  rw [Prod.lex_def]
  by_cases h0 : buffer = []
  · subst h0
    right
    simp only [List.length_nil, Nat.zero_min, Nat.sub_zero, true_and]
    exact InputStream.rank_lt _hnext
  · left
    have := List.length_pos_iff.2 h0
    simp only
    omega

def readFromStream (inputStream : σ) (count : Nat) : Except Status Unit × Bytes × σ :=
  if count = 0 then (.error ⟨.internal, "Illegal read from a stream"⟩, [], inputStream)
  else readLoop [] count inputStream

theorem readLoop_of_error {output : Bytes} {n : Nat} {s s' : σ} {e : Status} (h : InputStream.next s = (.error e, s')) :
    readLoop output n s = (.error e, output, s') := by
  rw [readLoop]
  split
  · rename_i heq
    rw [h] at heq
    cases heq
    rfl
  · rename_i heq
    rw [h] at heq
    cases heq

theorem readLoop_of_ok {output buffer : Bytes} {n : Nat} {s s' : σ} (h : InputStream.next s = (.ok buffer, s')) :
    readLoop output n s =
      if 0 < n - min buffer.length n then
        readLoop (output ++ buffer.take (min buffer.length n)) (n - min buffer.length n) s'
      else if buffer.length > min buffer.length n then
        (.ok (), output ++ buffer.take (min buffer.length n),
          InputStream.backUp (buffer.length - min buffer.length n : Nat) s')
      else (.ok (), output ++ buffer.take (min buffer.length n), s') := by
  rw [readLoop]
  split
  · rename_i heq
    rw [h] at heq
    cases heq
  · rename_i heq
    rw [h] at heq
    cases heq
    rfl

theorem readLoop_eq {limit : Nat} {S : Bytes} {At : σ → Cursor → Prop} {Spent : σ → Prop}
    (hr : DeliversTo limit S At Spent) (output : Bytes) (count : Nat) (s : σ) (c : Cursor) (hpos : 0 < count)
    (hlimit : c.pos + count ≤ limit) (hat : At s c) :
    (c.pos + count ≤ S.length →
      ∃ s' last, readLoop output count s = (.ok (), output ++ (S.drop c.pos).take count, s') ∧
        At s' ⟨c.pos + count, last⟩) ∧
    (S.length < c.pos + count →
      ∃ e s', readLoop output count s = (.error e, output ++ S.drop c.pos, s') ∧ e.code = .outOfRange ∧ Spent s') := by
  rcases hnext : InputStream.next s with ⟨e | buffer, s₁⟩
  · obtain ⟨hcode, hend, hspent⟩ := hr.next_error hat (by omega) hnext
    refine ⟨fun h => by omega, fun _ => ⟨e, s₁, ?_, hcode, hspent⟩⟩
    rw [readLoop_of_error hnext, List.drop_eq_nil_of_le hend, List.append_nil]
  · rw [readLoop_of_ok hnext]
    obtain ⟨⟨tail, htail⟩, hat₁⟩ := hr.next_ok hat (by omega) hnext
    have hlen : buffer.length + tail.length = S.length - c.pos := by
      rw [← List.length_append, htail, List.length_drop]
    have hdrop : S.drop (c.next buffer.length).pos = tail := by
      rw [Cursor.next, ← List.drop_drop, ← htail, List.drop_left]
    by_cases hmore : 0 < count - min buffer.length count
    · have hmin : min buffer.length count = buffer.length := by omega
      rw [if_pos hmore, hmin, List.take_length]
      obtain ⟨hfull, hshort⟩ := readLoop_eq hr (output ++ buffer) (count - buffer.length) s₁ _ (by omega)
        (by simp only [Cursor.next]; omega) hat₁
      rw [hdrop, List.append_assoc] at hfull hshort
      simp only [Cursor.next] at hfull hshort
      rw [show c.pos + buffer.length + (count - buffer.length) = c.pos + count by omega] at hfull hshort
      constructor
      · intro h
        obtain ⟨s', last, he, hat'⟩ := hfull h
        refine ⟨s', last, ?_, hat'⟩
        rw [he, ← htail, List.take_append, List.take_of_length_le (i := count) (by omega)]
      · intro h
        obtain ⟨e, s', he, hcode⟩ := hshort h
        exact ⟨e, s', by rw [he, ← htail], hcode⟩
    · have hmin : min buffer.length count = count := by omega
      rw [if_neg hmore, hmin]
      refine ⟨fun _ => ?_, fun h => by omega⟩
      have hout : buffer.take count = (S.drop c.pos).take count := by
        rw [← htail, List.take_append_of_le_length (by omega)]
      rw [hout]
      by_cases hgt : buffer.length > count
      · rw [if_pos hgt]
        refine ⟨_, count, rfl, ?_⟩
        have hb := hr.backUp (buffer.length - count) hat₁ (Nat.sub_le _ _)
        have hback : (c.next buffer.length).backUp ((buffer.length - count : Nat) : Int) = ⟨c.pos + count, count⟩ := by
          unfold Cursor.next Cursor.backUp
          simp only [Int.toNat_natCast, Cursor.mk.injEq]
          omega
        rw [hback] at hb
        exact hb
      · rw [if_neg hgt]
        refine ⟨_, buffer.length, rfl, ?_⟩
        have : c.next buffer.length = ⟨c.pos + count, buffer.length⟩ := by
          unfold Cursor.next
          rw [Cursor.mk.injEq]
          omega
        rw [← this]
        exact hat₁
termination_by (count, InputStream.rank s)
decreasing_by
  rw [Prod.lex_def]
  by_cases h0 : buffer = []
  · subst h0
    right
    simp only [List.length_nil, Nat.sub_zero, true_and]
    exact InputStream.rank_lt hnext
  · left
    have := List.length_pos_iff.2 h0
    simp only
    omega

theorem readFromStream_eq_to {limit : Nat} {S : Bytes} {At : σ → Cursor → Prop} {Spent : σ → Prop}
    (hr : DeliversTo limit S At Spent) {count : Nat} {s : σ} {c : Cursor} (hpos : 0 < count)
    (hlimit : c.pos + count ≤ limit) (hat : At s c) :
    (c.pos + count ≤ S.length →
      ∃ s' last, readFromStream s count = (.ok (), (S.drop c.pos).take count, s') ∧ At s' ⟨c.pos + count, last⟩) ∧
    (S.length < c.pos + count →
      ∃ e s', readFromStream s count = (.error e, S.drop c.pos, s') ∧ e.code = .outOfRange ∧ Spent s') := by
  have h := readLoop_eq hr [] count s c hpos hlimit hat
  rw [List.nil_append, List.nil_append] at h
  unfold readFromStream
  rw [if_neg (by omega)]
  exact h

/-- **Reading does not depend on the buffers**: it gives the next `count` bytes, or what is left and OUT_OF_RANGE. -/
theorem readFromStream_eq {S : Bytes} {At : σ → Cursor → Prop} {Spent : σ → Prop} (hr : Delivers S At Spent) {count : Nat}
    {s : σ} {c : Cursor} (hpos : 0 < count) (hat : At s c) :
    (c.pos + count ≤ S.length →
      ∃ s' last, readFromStream s count = (.ok (), (S.drop c.pos).take count, s') ∧ At s' ⟨c.pos + count, last⟩) ∧
    (S.length < c.pos + count →
      ∃ e s', readFromStream s count = (.error e, S.drop c.pos, s') ∧ e.code = .outOfRange ∧ Spent s') :=
  readFromStream_eq_to (hr (c.pos + count)) hpos (Nat.le_refl _) hat

end Read

/-! ## A source and a destination with buffers of any sizes -/

/-- The sizes of the buffers of successive `Next` calls: any sizes, 0 only finitely often in a row. -/
structure Chunking where
  size     : Nat → Nat
  progress : ∀ k, ∃ j, k ≤ j ∧ 0 < size j

/-- The calls before the next buffer that is not empty. -/
def Chunking.wait (c : Chunking) (k : Nat) : Nat := Nat.find (c.progress k) - k

theorem Chunking.wait_lt (c : Chunking) {k : Nat} (h : c.size k = 0) : c.wait (k + 1) < c.wait k := by
  obtain ⟨hle, hpos⟩ := Nat.find_spec (c.progress k)
  have hne : Nat.find (c.progress k) ≠ k := fun heq => by
    rw [heq] at hpos
    omega
  have hmin : Nat.find (c.progress (k + 1)) ≤ Nat.find (c.progress k) := Nat.find_min' _ ⟨by omega, hpos⟩
  unfold Chunking.wait
  omega

/-- A source over fixed bytes.  At the end an empty buffer may come before OUT_OF_RANGE. -/
structure ChunkedSource where
  chunking : Chunking
  contents : Bytes
  pos      : Nat
  last     : Nat
  calls    : Nat

def ChunkedSource.next (s : ChunkedSource) : Except Status Bytes × ChunkedSource :=
  if s.chunking.size s.calls = 0 then (.ok [], { s with last := 0, calls := s.calls + 1 })
  else if s.contents.length ≤ s.pos then (.error ⟨.outOfRange, "EOF"⟩, { s with last := 0, calls := s.calls + 1 })
  else
    let buffer := (s.contents.drop s.pos).take (s.chunking.size s.calls)
    (.ok buffer, { s with pos := s.pos + buffer.length, last := buffer.length, calls := s.calls + 1 })

def ChunkedSource.backUp (count : Int) (s : ChunkedSource) : ChunkedSource :=
  { s with pos := s.pos - min count.toNat s.last, last := s.last - min count.toNat s.last }

instance : InputStream ChunkedSource where
  next := ChunkedSource.next
  backUp := ChunkedSource.backUp
  rank s := s.chunking.wait s.calls
  rank_lt {s s'} h := by
    unfold ChunkedSource.next at h
    split at h
    · rename_i h0
      cases h
      exact s.chunking.wait_lt h0
    · rename_i h0
      split at h
      · cases h
      · rename_i hlt
        simp only [Prod.mk.injEq, Except.ok.injEq] at h
        have := congrArg List.length h.1
        rw [List.length_take, List.length_drop, List.length_nil] at this
        omega

/-- The source before any call. -/
def ChunkedSource.start (chunking : Chunking) (contents : Bytes) : ChunkedSource := ⟨chunking, contents, 0, 0, 0⟩

def ChunkedSource.At (contents : Bytes) (s : ChunkedSource) (c : Cursor) : Prop :=
  s.contents = contents ∧ s.pos = c.pos ∧ s.last = c.last

/-- **A chunked source is a stream over its contents.** -/
theorem ChunkedSource.readsFrom (contents : Bytes) : ReadsFrom contents (ChunkedSource.At contents) where
  next_ok := by
    rintro s ⟨pos, last⟩ bs s' ⟨rfl, rfl, rfl⟩ h
    change s.next = _ at h
    unfold ChunkedSource.next at h
    split at h
    · cases h
      exact ⟨List.nil_prefix, rfl, rfl, rfl⟩
    · split at h
      · cases h
      · cases h
        exact ⟨List.take_prefix _ _, rfl, rfl, rfl⟩
  next_error := by
    rintro s ⟨pos, last⟩ e s' ⟨rfl, rfl, rfl⟩ h
    change s.next = _ at h
    unfold ChunkedSource.next at h
    split at h
    · cases h
    · split at h
      · rename_i hend
        cases h
        exact ⟨rfl, hend⟩
      · cases h
  backUp := by
    rintro s ⟨pos, last⟩ count ⟨rfl, rfl, rfl⟩
    exact ⟨rfl, rfl, rfl⟩

/-- A destination that keeps what it gets; a fresh buffer holds zeros until its caller writes. -/
structure ChunkedSink where
  chunking : Chunking
  received : Bytes
  last     : Nat
  calls    : Nat
  closed   : Bool

def ChunkedSink.next (s : ChunkedSink) : Except Status Nat × ChunkedSink :=
  (.ok (s.chunking.size s.calls),
    { s with received := s.received ++ List.replicate (s.chunking.size s.calls) 0, last := s.chunking.size s.calls,
             calls := s.calls + 1 })

def ChunkedSink.store (bs : Bytes) (s : ChunkedSink) : ChunkedSink :=
  { s with received := s.received.take (s.received.length - s.last) ++
      (bs ++ s.received.drop (s.received.length - s.last + bs.length)) }

def ChunkedSink.backUp (count : Int) (s : ChunkedSink) : ChunkedSink :=
  { s with received := s.received.take (s.received.length - min count.toNat s.last),
           last := s.last - min count.toNat s.last }

instance : OutputStream ChunkedSink where
  next := ChunkedSink.next
  store := ChunkedSink.store
  backUp := ChunkedSink.backUp
  close s := (.ok (), { s with closed := true })
  rank s := s.chunking.wait s.calls
  rank_lt {s s'} h := by
    unfold ChunkedSink.next at h
    simp only [Prod.mk.injEq, Except.ok.injEq] at h
    obtain ⟨h0, rfl⟩ := h
    exact s.chunking.wait_lt h0

def ChunkedSink.start (chunking : Chunking) : ChunkedSink := ⟨chunking, [], 0, 0, false⟩

def ChunkedSink.At (s : ChunkedSink) (l : Ledger) : Prop := s.received = l.kept ∧ s.last = l.last

/-- **A chunked sink never fails, and has what its writer kept.** -/
theorem ChunkedSink.writesTo : WritesTo ChunkedSink.At (fun s bs => s.received = bs) where
  next := by
    rintro s ⟨kept, last⟩ ⟨rfl, rfl⟩
    refine ⟨_, _, rfl, fun bs hbs => ?_⟩
    refine ⟨List.replicate (s.chunking.size s.calls - bs.length) 0, by rw [List.length_replicate]; omega, ?_, ?_⟩
    · have hlen : (s.received ++ List.replicate (s.chunking.size s.calls) (0 : UInt8)).length - s.chunking.size s.calls =
          s.received.length := by
        rw [List.length_append, List.length_replicate]
        omega
      show List.take _ _ ++ (bs ++ List.drop _ _) = s.received ++ (bs ++ _)
      rw [hlen, List.take_left, List.drop_append, List.drop_eq_nil_of_le (by omega), List.nil_append,
        List.drop_replicate, Nat.add_sub_cancel_left]
    · show s.chunking.size s.calls = (bs ++ List.replicate _ 0).length
      rw [List.length_append, List.length_replicate]
      omega
  backUp := by
    rintro s ⟨kept, last⟩ count ⟨rfl, rfl⟩
    exact ⟨rfl, rfl⟩
  close := by
    rintro s ⟨kept, last⟩ ⟨rfl, rfl⟩
    exact ⟨_, rfl, rfl⟩

end Tink
