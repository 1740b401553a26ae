import TinkCc.ChunkedMac
import TinkCc.Streams
/-!
# StreamingMac — MACs over what is written to a stream

`subtle/streaming_mac_impl.cc` and `output_stream_with_result.h`.  A buffer is given to the MAC when the next one is asked
for, or when the stream is closed, so what `Update` says of a buffer is known one call later.
-/
namespace Tink

open MacUpdate StatefulMac

def macStreamBufferSize : Nat := 4096

/-- The fields that `ComputeMacOutputStream` and `VerifyMacOutputStream` have in common. -/
structure MacOutputStream (σ : Type) where
  status         : Except Status Unit
  mac            : σ
  position       : Int
  bufferPosition : Int
  buffer         : Bytes

namespace MacOutputStream

variable {σ : Type} [StatefulMac σ]

def new (mac : σ) : MacOutputStream σ where
  status := .ok ()
  mac := mac
  position := 0
  bufferPosition := 0
  buffer := List.replicate macStreamBufferSize 0

/-- `WriteIntoMac`. -/
def writeIntoMac (self : MacOutputStream σ) : MacOutputStream σ :=
  let updated := update self.mac (self.buffer.take self.bufferPosition.toNat)
  { self with
    status := updated.1
    mac := updated.2
    buffer := List.replicate self.bufferPosition.toNat 0 ++ self.buffer.drop self.bufferPosition.toNat }

def nextBuffer (self : MacOutputStream σ) : Except Status Int × MacOutputStream σ :=
  match self.status with
  | .error e => (.error e, self)
  | .ok () =>
    let written := self.writeIntoMac
    (.ok macStreamBufferSize, { written with
      position := written.position + macStreamBufferSize
      bufferPosition := macStreamBufferSize })

/-- The caller copies bytes to the front of the buffer. -/
def store (self : MacOutputStream σ) (data : Bytes) : MacOutputStream σ :=
  { self with buffer := data ++ self.buffer.drop data.length }

def backUp (self : MacOutputStream σ) (count : Int) : MacOutputStream σ :=
  let count := min count self.bufferPosition
  { self with bufferPosition := self.bufferPosition - count, position := self.position - count }

/-- `CloseStreamAndComputeResult`; `finish` is what becomes of the MAC. -/
def closeStreamAndComputeResult {R : Type} (finish : Except Status Bytes → Except Status R) (self : MacOutputStream σ) :
    Except Status R × MacOutputStream σ :=
  match self.status with
  | .error e => (.error e, self)
  | .ok () =>
    let written := self.writeIntoMac
    -- whatever the status was
    let closed := { written with status := .error ⟨.failedPrecondition, "Stream Closed"⟩ }
    let result := finalizeAsSecretData closed.mac
    (finish result.1, { closed with mac := result.2 })

end MacOutputStream

def ComputeMacOutputStream.closeStreamAndComputeResult {σ : Type} [StatefulMac σ] (self : MacOutputStream σ) :
    Except Status Bytes × MacOutputStream σ :=
  self.closeStreamAndComputeResult id

/-- What `VerifyMacOutputStream` makes of a MAC. -/
def VerifyMacOutputStream.compare (expected : Bytes) : Except Status Bytes → Except Status Unit
  | .error e => .error e
  | .ok macActual =>
    let expectedSize := expected.length
    let actualSize := macActual.length
    if actualSize ≠ expectedSize then
      .error ⟨.invalidArgument, s!"Invalid MAC size; expected {expectedSize}, got {actualSize}"⟩
    else if macActual = expected then .ok ()
    else .error ⟨.invalidArgument, "Incorrect MAC"⟩

def VerifyMacOutputStream.closeStreamAndComputeResult {σ : Type} [StatefulMac σ] (expected : Bytes)
    (self : MacOutputStream σ) : Except Status Unit × MacOutputStream σ :=
  self.closeStreamAndComputeResult (VerifyMacOutputStream.compare expected)

/-- `OutputStreamWithResult`; `stream` has the members of the derived class. -/
structure OutputStreamWithResult (τ R : Type) where
  stream : τ
  closed : Bool
  result : Except Status R

namespace OutputStreamWithResult

variable {τ R : Type}

def getResult (self : OutputStreamWithResult τ R) : Except Status R :=
  if ¬ self.closed then .error ⟨.failedPrecondition, "Stream is not closed"⟩ else self.result

def close (closeStreamAndComputeResult : τ → Except Status R × τ) (self : OutputStreamWithResult τ R) :
    Except Status Unit × OutputStreamWithResult τ R :=
  if self.closed then (.error ⟨.failedPrecondition, "Stream closed"⟩, self)
  else
    let computed := closeStreamAndComputeResult self.stream
    (computed.1.map fun _ => (), ⟨computed.2, true, computed.1⟩)

def closeAndGetResult (closeStreamAndComputeResult : τ → Except Status R × τ) (self : OutputStreamWithResult τ R) :
    Except Status R × OutputStreamWithResult τ R :=
  match self.close closeStreamAndComputeResult with
  | (.error e, self) => (.error e, self)
  | (.ok (), self) => (self.getResult, self)

def next (nextBuffer : τ → Except Status Int × τ) (self : OutputStreamWithResult τ R) :
    Except Status Int × OutputStreamWithResult τ R :=
  if self.closed then (.error ⟨.failedPrecondition, "Write on closed Stream"⟩, self)
  else
    let given := nextBuffer self.stream
    (given.1, { self with stream := given.2 })

end OutputStreamWithResult

def ComputeMacOutputStream.new {σ : Type} (mac : σ) : OutputStreamWithResult (MacOutputStream σ) Bytes :=
  ⟨.new mac, false, .error ⟨.unknown, ""⟩⟩

/-- The expected value is an argument of the call that compares it. -/
def VerifyMacOutputStream.new {σ : Type} (mac : σ) : OutputStreamWithResult (MacOutputStream σ) Unit :=
  ⟨.new mac, false, .ok ()⟩

/-- `StreamingMacImpl`; `create` is what the factory returns. -/
def newComputeMacOutputStream {σ : Type} (create : Except Status σ) :
    Except Status (OutputStreamWithResult (MacOutputStream σ) Bytes) :=
  create.map ComputeMacOutputStream.new

def newVerifyMacOutputStream {σ : Type} (create : Except Status σ) :
    Except Status (OutputStreamWithResult (MacOutputStream σ) Unit) :=
  create.map VerifyMacOutputStream.new

theorem VerifyMacOutputStream.compare_ok {expected : Bytes} {computed : Except Status Bytes} {result : Unit}
    (h : compare expected computed = .ok result) : ∃ tag, computed = .ok tag ∧ expected = tag := by
  cases computed with
  | error e => cases h
  | ok tag =>
    dsimp only [compare] at h
    by_cases hsize : tag.length ≠ expected.length
    · rw [if_pos hsize] at h
      cases h
    · rw [if_neg hsize] at h
      by_cases hsame : tag = expected
      · exact ⟨tag, rfl, hsame.symm⟩
      · cases (if_neg hsame).symm.trans h

/-! ## Runs -/

/-- A stateful MAC, and what it was given. -/
structure RecordedMac (σ : Type) where
  mac     : σ
  updates : List Bytes

instance {σ : Type} [StatefulMac σ] : StatefulMac (RecordedMac σ) where
  update := fun self data => ((update self.mac data).1, ⟨(update self.mac data).2, self.updates ++ [data]⟩)
  finalizeAsSecretData := fun self =>
    ((finalizeAsSecretData self.mac).1, { self with mac := (finalizeAsSecretData self.mac).2 })

/-- A call before `Close`; what the caller copies into a buffer fits in it. -/
inductive MacStreamCall
  | next (data : Bytes) (fits : data.length ≤ macStreamBufferSize)
  | backUp (count : Nat)

section Runs
variable {σ R : Type} [StatefulMac σ]

/-- A call, and what the caller has kept after it: of a buffer, as many bytes as `Next` says. -/
def macStreamStep (state : OutputStreamWithResult (MacOutputStream (RecordedMac σ)) R × Ledger) :
    MacStreamCall → OutputStreamWithResult (MacOutputStream (RecordedMac σ)) R × Ledger
  | .next data _ =>
    match state.1.next MacOutputStream.nextBuffer with
    | (.error _, self) => (self, state.2)
    | (.ok count, self) =>
      let stored := self.stream.store data
      ({ self with stream := stored }, state.2.next (stored.buffer.take count.toNat))
  | .backUp count => ({ state.1 with stream := state.1.stream.backUp count }, state.2.backUp count)

def macStreamRun (start : OutputStreamWithResult (MacOutputStream (RecordedMac σ)) R) (calls : List MacStreamCall) :
    OutputStreamWithResult (MacOutputStream (RecordedMac σ)) R × Ledger :=
  calls.foldl macStreamStep (start, ⟨[], 0⟩)

/-- **What every call keeps**: what the MAC was given and what is in the buffer is what the caller kept. -/
structure Keeps (mac : σ) (state : OutputStreamWithResult (MacOutputStream (RecordedMac σ)) R × Ledger) : Prop where
  opened         : state.1.closed = false
  fed            : state.1.stream.mac.mac = feed mac state.1.stream.mac.updates
  received       : state.1.stream.status = .ok () → Received mac state.1.stream.mac.updates
  size           : state.1.stream.buffer.length = macStreamBufferSize
  last_le        : state.2.last ≤ macStreamBufferSize
  bufferPosition : state.1.stream.bufferPosition = state.2.last
  kept           : state.2.kept = state.1.stream.mac.updates.flatten ++ state.1.stream.buffer.take state.2.last
  position       : state.1.stream.position = state.2.kept.length

/-- What `WriteIntoMac` gives to the MAC. -/
theorem Keeps.writeIntoMac {mac : σ} {state : OutputStreamWithResult (MacOutputStream (RecordedMac σ)) R × Ledger}
    (h : Keeps mac state) (hok : state.1.stream.status = .ok ()) :
    let written := state.1.stream.writeIntoMac
    written.mac.mac = feed mac written.mac.updates ∧
      (written.status = .ok () ↔ Received mac written.mac.updates) ∧
      written.mac.updates.flatten = state.2.kept ∧ written.buffer.length = macStreamBufferSize ∧
      written.position = state.2.kept.length := by
  have hpos : state.1.stream.bufferPosition.toNat = state.2.last := by rw [h.bufferPosition, Int.toNat_natCast]
  dsimp only [MacOutputStream.writeIntoMac, update]
  rw [hpos]
  refine ⟨?_, ?_, ?_, ?_, h.position⟩
  · rw [feed_append, h.fed]
    rfl
  · rw [received_append, h.fed]
    simp [Received, h.received hok]
  · rw [List.flatten_append, h.kept]
    simp
  · rw [List.length_append, List.length_replicate, List.length_drop, h.size]
    have hle := h.last_le
    omega

theorem Keeps.step {mac : σ} {state : OutputStreamWithResult (MacOutputStream (RecordedMac σ)) R × Ledger}
    (h : Keeps mac state) (call : MacStreamCall) : Keeps mac (macStreamStep state call) := by
  have hlast := h.last_le
  cases call with
  | backUp count =>
    have hkept : state.2.last ≤ state.2.kept.length := by
      rw [h.kept, List.length_append, List.length_take, h.size]
      omega
    have hcount : min (count : Int) state.1.stream.bufferPosition = (min count state.2.last : Nat) := by
      rw [h.bufferPosition]
      omega
    refine ⟨h.opened, h.fed, h.received, h.size, ?_, ?_, ?_, ?_⟩
    · exact (Nat.sub_le _ _).trans hlast
    · dsimp only [macStreamStep, MacOutputStream.backUp, Ledger.backUp]
      rw [hcount, h.bufferPosition, Int.toNat_natCast]
      omega
    · dsimp only [macStreamStep, MacOutputStream.backUp, Ledger.backUp]
      have hlen : state.2.kept.length = state.1.stream.mac.updates.flatten.length + state.2.last := by
        rw [h.kept, List.length_append, List.length_take, h.size, Nat.min_eq_left hlast]
      rw [Int.toNat_natCast, hlen, Nat.add_sub_assoc (Nat.min_le_right _ _), h.kept, List.take_length_add_append,
        List.take_take, Nat.min_eq_left (Nat.sub_le _ _)]
    · dsimp only [macStreamStep, MacOutputStream.backUp, Ledger.backUp]
      rw [hcount, h.position, Int.toNat_natCast, List.length_take]
      omega
  | next data fits =>
    dsimp only [macStreamStep, OutputStreamWithResult.next]
    rw [if_neg (by rw [h.opened]; decide)]
    dsimp only [MacOutputStream.nextBuffer]
    cases hstatus : state.1.stream.status with
    | error e => exact h
    | ok u =>
      obtain ⟨hfed, hreceived, hflatten, hsize, hposition⟩ := h.writeIntoMac hstatus
      have hbuffer : (data ++ state.1.stream.writeIntoMac.buffer.drop data.length).length = macStreamBufferSize := by
        rw [List.length_append, List.length_drop, hsize]
        omega
      -- `Next` returns the size of the buffer
      have hwhole : (data ++ state.1.stream.writeIntoMac.buffer.drop data.length).take (macStreamBufferSize : Int).toNat =
          data ++ state.1.stream.writeIntoMac.buffer.drop data.length :=
        List.take_of_length_le (Nat.le_of_eq hbuffer)
      dsimp only [MacOutputStream.store, Ledger.next]
      rw [hwhole]
      refine ⟨h.opened, hfed, hreceived.1, hbuffer, Nat.le_of_eq hbuffer, ?_, ?_, ?_⟩
      · exact congrArg Int.ofNat hbuffer.symm
      · dsimp only
        rw [hflatten, List.take_length]
      · dsimp only
        rw [hposition, List.length_append, hbuffer]
        rfl

theorem Keeps.run {mac : σ} : ∀ (calls : List MacStreamCall)
    {state : OutputStreamWithResult (MacOutputStream (RecordedMac σ)) R × Ledger},
    Keeps mac state → Keeps mac (calls.foldl macStreamStep state)
  | [], _, h => h
  | call :: calls, _, h => Keeps.run calls (h.step call)

/-- The MAC that a stateful MAC computes, where it computes one. -/
def IsMacOf (mac : σ) (computeMac : Bytes → Bytes) : Prop :=
  ∀ chunks tag, Received mac chunks → (finalizeAsSecretData (feed mac chunks)).1 = .ok tag → tag = computeMac chunks.flatten

/-- **A stream that tells the truth**: its position is the number of bytes kept; where `Close` returns OK every `Update`
did, they were given the bytes kept, and the result is right for the MAC of these; and then every call fails.  `Right` is
what a result has to do with the MAC. -/
structure ClosesExactly (closeStream : MacOutputStream (RecordedMac σ) → Except Status R × MacOutputStream (RecordedMac σ))
    (Right : (tag : Bytes) → (result : R) → Prop) (start : OutputStreamWithResult (MacOutputStream (RecordedMac σ)) R)
    (mac : σ) (calls : List MacStreamCall) : Prop where
  position : (macStreamRun start calls).1.stream.position = (macStreamRun start calls).2.kept.length
  ok       : ((macStreamRun start calls).1.close closeStream).1 = .ok () →
    let closed := ((macStreamRun start calls).1.close closeStream).2
    let kept := (macStreamRun start calls).2.kept
    Received mac closed.stream.mac.updates ∧ closed.stream.mac.updates.flatten = kept ∧
      ∃ result, closed.getResult = .ok result ∧ ∀ computeMac, IsMacOf mac computeMac → Right (computeMac kept) result
  fails    : let closed := ((macStreamRun start calls).1.close closeStream).2
    (∃ e, closed.next MacOutputStream.nextBuffer = (.error e, closed)) ∧ ∃ e, closed.close closeStream = (.error e, closed)

/-- **The last `Update` is OK**, or what follows it fails too. -/
def LastUpdateCounts (finish : Except Status Bytes → Except Status R)
    (start : OutputStreamWithResult (MacOutputStream (RecordedMac σ)) R) (calls : List MacStreamCall) : Prop :=
  let stream := (macStreamRun start calls).1.stream
  let updated := update stream.mac (stream.buffer.take stream.bufferPosition.toNat)
  stream.status = .ok () → updated.1 = .ok () ∨ ∃ e, finish (finalizeAsSecretData updated.2).1 = .error e

/-- A stream that was just made. -/
theorem Keeps.new (mac : σ) (result : Except Status R) :
    Keeps mac ((⟨.new ⟨mac, []⟩, false, result⟩ : OutputStreamWithResult (MacOutputStream (RecordedMac σ)) R), ⟨[], 0⟩) :=
  ⟨rfl, rfl, fun _ => trivial, List.length_replicate, Nat.zero_le _, rfl, rfl, rfl⟩

omit [StatefulMac σ] in
/-- `Close` of a stream that is open. -/
theorem close_opened {self : OutputStreamWithResult (MacOutputStream (RecordedMac σ)) R} (h : self.closed = false)
    (closeStream : MacOutputStream (RecordedMac σ) → Except Status R × MacOutputStream (RecordedMac σ)) :
    self.close closeStream =
      ((closeStream self.stream).1.map fun _ => (), ⟨(closeStream self.stream).2, true, (closeStream self.stream).1⟩) := by
  unfold OutputStreamWithResult.close
  rw [if_neg (by rw [h]; decide)]

theorem closeStream_of_ok (finish : Except Status Bytes → Except Status R) {self : MacOutputStream σ}
    (h : self.status = .ok ()) :
    self.closeStreamAndComputeResult finish =
      (finish (finalizeAsSecretData self.writeIntoMac.mac).1,
        { self.writeIntoMac with
          status := .error ⟨.failedPrecondition, "Stream Closed"⟩
          mac := (finalizeAsSecretData self.writeIntoMac.mac).2 }) := by
  unfold MacOutputStream.closeStreamAndComputeResult
  rw [h]

theorem closeStream_of_error (finish : Except Status Bytes → Except Status R) {self : MacOutputStream σ} {e : Status}
    (h : self.status = .error e) : self.closeStreamAndComputeResult finish = (.error e, self) := by
  unfold MacOutputStream.closeStreamAndComputeResult
  rw [h]

/-- **A stream tells the truth exactly when the last `Update` counts.** -/
theorem closesExactly_iff (finish : Except Status Bytes → Except Status R) {Right : Bytes → R → Prop}
    (hfinish : ∀ computed result, finish computed = .ok result → ∃ tag, computed = .ok tag ∧ Right tag result) (mac : σ)
    (result : Except Status R) (calls : List MacStreamCall) :
    ClosesExactly (MacOutputStream.closeStreamAndComputeResult finish) Right ⟨.new ⟨mac, []⟩, false, result⟩ mac calls ↔
      LastUpdateCounts finish ⟨.new ⟨mac, []⟩, false, result⟩ calls := by
  have hkeeps : Keeps mac (macStreamRun ⟨.new ⟨mac, []⟩, false, result⟩ calls) := Keeps.run calls (Keeps.new mac result)
  unfold LastUpdateCounts
  dsimp only
  constructor
  · intro hexact hstatus
    have hok := hexact.ok
    rw [close_opened hkeeps.opened, closeStream_of_ok finish hstatus] at hok
    generalize macStreamRun ⟨.new ⟨mac, []⟩, false, result⟩ calls = state at hkeeps hstatus hok ⊢
    by_cases hupdate : state.1.stream.writeIntoMac.status = .ok ()
    · exact .inl hupdate
    · refine .inr ?_
      cases hresult : finish (finalizeAsSecretData state.1.stream.writeIntoMac.mac).1 with
      | error e => exact ⟨e, hresult⟩
      | ok r =>
        rw [hresult] at hok
        exact absurd ((hkeeps.writeIntoMac hstatus).2.1.2 (hok rfl).1) hupdate
  · intro hcounts
    generalize hrun : macStreamRun ⟨.new ⟨mac, []⟩, false, result⟩ calls = state at hkeeps hcounts
    constructor
    · rw [hrun]
      exact hkeeps.position
    · rw [hrun, close_opened hkeeps.opened]
      cases hstatus : state.1.stream.status with
      | error e =>
        rw [closeStream_of_error finish hstatus]
        exact fun hok => by cases hok
      | ok u =>
        rw [closeStream_of_ok finish hstatus]
        intro hok
        obtain ⟨hfed, hreceived, hflatten, -, -⟩ := hkeeps.writeIntoMac hstatus
        cases hresult : finish (finalizeAsSecretData state.1.stream.writeIntoMac.mac).1 with
        | error e =>
          rw [hresult] at hok
          cases hok
        | ok r =>
          have hupdate : state.1.stream.writeIntoMac.status = .ok () := by
            rcases hcounts hstatus with hupdate | ⟨e, herror⟩
            · exact hupdate
            · cases hresult.symm.trans herror
          obtain ⟨tag, htag, hright⟩ := hfinish _ _ hresult
          refine ⟨hreceived.1 hupdate, hflatten, r, rfl, fun computeMac hmac => ?_⟩
          have htag : (finalizeAsSecretData (feed mac state.1.stream.writeIntoMac.mac.updates)).1 = .ok tag := by
            rw [← hfed]
            exact htag
          rw [← hflatten, ← hmac _ tag (hreceived.1 hupdate) htag]
          exact hright
    · rw [hrun, close_opened hkeeps.opened]
      exact ⟨⟨_, rfl⟩, ⟨_, rfl⟩⟩

/-- **Both streams tell the truth exactly when the last `Update` counts.** -/
theorem macStreams_exact_iff (mac : σ) (calls : List MacStreamCall) :
    (ClosesExactly ComputeMacOutputStream.closeStreamAndComputeResult (fun tag result => result = tag)
        (ComputeMacOutputStream.new ⟨mac, []⟩) mac calls ↔
      LastUpdateCounts id (ComputeMacOutputStream.new ⟨mac, []⟩) calls) ∧
    ∀ expected : Bytes,
      (ClosesExactly (VerifyMacOutputStream.closeStreamAndComputeResult expected) (fun tag _ => expected = tag)
          (VerifyMacOutputStream.new ⟨mac, []⟩) mac calls ↔
        LastUpdateCounts (VerifyMacOutputStream.compare expected) (VerifyMacOutputStream.new ⟨mac, []⟩) calls) := by
  refine ⟨closesExactly_iff id ?_ mac _ calls, fun expected => closesExactly_iff _ ?_ mac _ calls⟩
  · exact fun _ result h => ⟨result, h, rfl⟩
  · exact fun _ _ h => VerifyMacOutputStream.compare_ok h

end Runs

/-- The MAC refuses the byte 2, which is the only one: the result is the MAC of no data. -/
theorem not_closesExactly :
    ¬ ClosesExactly ComputeMacOutputStream.closeStreamAndComputeResult (fun tag result => result = tag)
      (ComputeMacOutputStream.new ⟨(⟨7, []⟩ : RefusingMac), []⟩) ⟨7, []⟩ [.next [2] (by decide), .backUp 4095] := by
  intro h
  have hok := (h.ok rfl).1
  cases hok.2.1

end Tink
