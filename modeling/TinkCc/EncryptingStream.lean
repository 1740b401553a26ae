import TinkCc.LibCut
import TinkCc.Streams
/-!
# EncryptingStream — `StreamingAeadEncryptingStream`

The stream collects plaintext in `ptBuffer` and keeps the buffer before it in `ptToEncrypt`, since it cannot know which
segment is the last before `Close`.  The caller may write every buffer and back any part of it up, again and again.

`Collecting` is the state between calls: the full pieces already encrypted, the one held back, and the part of the
buffer the caller has kept.  `EncryptingStream.Inv` is that, the state before the first `Next`, or the state after
`EncryptSegment` failed on a piece that some later byte has made a not-last one.  `layout` reads the ciphertext off the
first two when the stream is closed.
-/
namespace Tink

open Cut

/-! ## The segment encrypter -/

/-- `StreamSegmentEncrypter`, with the segment number `EncryptSegment` uses as an argument.  The sizes are `int`s that
are not negative. -/
structure SegmentEncrypter where
  header                : Bytes
  plaintextSegmentSize  : Nat
  ciphertextSegmentSize : Nat
  ciphertextOffset      : Nat
  encryptSegment        : (segmentNumber : Nat) → (plaintext : Bytes) → (isLastSegment : Bool) → Except Status Bytes

namespace SegmentEncrypter
variable (e : SegmentEncrypter)

def firstSegmentSize : Int := e.plaintextSegmentSize - e.ciphertextOffset - e.header.length

/-- The plaintext, cut into segments. -/
def pieces (plaintext : Bytes) : List Bytes := cut e.firstSegmentSize.toNat e.plaintextSegmentSize plaintext

/-- **`cts` are the ciphertext segments of a plaintext**: segment `i` encrypts piece `i`, and only the last one is
encrypted as the last. -/
def Segments (plaintext : Bytes) (cts : List Bytes) : Prop :=
  cts.length = (e.pieces plaintext).length ∧
  ∀ i p c, (e.pieces plaintext)[i]? = some p → cts[i]? = some c →
    e.encryptSegment i p (decide (i + 1 = cts.length)) = .ok c

/-- What `EncryptSegment` puts into its buffer. -/
def segment (i : Nat) (p : Bytes) (isLast : Bool) : Bytes :=
  match e.encryptSegment i p isLast with
  | .ok c    => c
  | .error _ => []

/-- The segments of full pieces, none of them the last. -/
def fullSegments (ps : List Bytes) : List Bytes := ps.mapIdx (fun i p => e.segment i p false)

variable {e}

theorem segment_of_ok {i : Nat} {p c : Bytes} {isLast : Bool} (h : e.encryptSegment i p isLast = .ok c) :
    e.segment i p isLast = c := by
  unfold segment
  rw [h]

theorem fullSegments_concat (ps : List Bytes) (p : Bytes) :
    e.fullSegments (ps ++ [p]) = e.fullSegments ps ++ [e.segment ps.length p false] := List.mapIdx_concat

/-- The segments of a plaintext, the last one apart. -/
theorem Segments.split {plaintext : Bytes} {cts ps : List Bytes} {p : Bytes} (h : e.Segments plaintext cts)
    (hp : e.pieces plaintext = ps ++ [p]) :
    cts = e.fullSegments ps ++ [e.segment ps.length p true] ∧
    (∀ i q, ps[i]? = some q → e.encryptSegment i q false = .ok (e.segment i q false)) ∧
    e.encryptSegment ps.length p true = .ok (e.segment ps.length p true) := by
  obtain ⟨hlen, hct⟩ := h
  rw [hp, List.length_append, List.length_singleton] at hlen
  rw [hp] at hct
  have hc : ∀ i, i < cts.length → ∃ c, cts[i]? = some c := fun i hi => ⟨cts[i], List.getElem?_eq_getElem hi⟩
  have hfull : ∀ i q, ps[i]? = some q → e.encryptSegment i q false = .ok (e.segment i q false) ∧
      cts[i]? = some (e.segment i q false) := by
    intro i q hq
    have hi : i < ps.length := (List.getElem?_eq_some_iff.1 hq).1
    obtain ⟨c, hci⟩ := hc i (by omega)
    have henc := hct i q c (by rw [List.getElem?_append_left hi, hq]) hci
    rw [decide_eq_false (by omega)] at henc
    rw [segment_of_ok henc]
    exact ⟨henc, hci⟩
  obtain ⟨c, hclast⟩ := hc ps.length (by omega)
  have henc := hct ps.length p c (by simp) hclast
  rw [decide_eq_true (by omega)] at henc
  refine ⟨?_, fun i q hq => (hfull i q hq).1, by rw [segment_of_ok henc, henc]⟩
  apply List.ext_getElem?
  intro i
  by_cases hi : i < ps.length
  · obtain ⟨q, hq⟩ : ∃ q, ps[i]? = some q := ⟨ps[i], List.getElem?_eq_getElem hi⟩
    rw [(hfull i q hq).2, List.getElem?_append_left (by unfold fullSegments; rw [List.length_mapIdx]; exact hi)]
    unfold fullSegments
    rw [List.getElem?_mapIdx, hq, Option.map_some]
  · have hl : (e.fullSegments ps).length = ps.length := List.length_mapIdx
    rw [List.getElem?_append_right (by omega), hl]
    by_cases heq : i = ps.length
    · subst heq
      rw [hclast, segment_of_ok henc]
      simp
    · rw [List.getElem?_eq_none (by omega), List.getElem?_eq_none (by rw [List.length_singleton]; omega)]

end SegmentEncrypter

/-! ## The stream -/

/-- `std::vector::resize`. -/
def resize (bs : Bytes) (n : Nat) : Bytes := bs.take n ++ List.replicate (n - bs.length) 0

/-- The members of `StreamingAeadEncryptingStream`; `segmentNumber` is that of the segment encrypter. -/
structure EncryptingStream (σ : Type) where
  segmentEncrypter : SegmentEncrypter
  segmentNumber    : Nat
  ctDestination    : σ
  ptBuffer         : Bytes
  ptToEncrypt      : Bytes
  position         : Nat
  isFirstSegment   : Bool
  countBackedup    : Nat
  ptBufferOffset   : Nat
  status           : Except Status Unit

namespace EncryptingStream
variable {σ : Type} [OutputStream σ]

def new (segmentEncrypter : SegmentEncrypter) (ciphertextDestination : σ) : Except Status (EncryptingStream σ) :=
  if segmentEncrypter.firstSegmentSize ≤ 0 then
    .error ⟨.internal, "Size of the first segment must be greater than 0."⟩
  else
    .ok { segmentEncrypter := segmentEncrypter, segmentNumber := 0, ctDestination := ciphertextDestination,
          ptBuffer := List.replicate segmentEncrypter.firstSegmentSize.toNat 0, ptToEncrypt := [], position := 0,
          isFirstSegment := true, countBackedup := segmentEncrypter.firstSegmentSize.toNat, ptBufferOffset := 0,
          status := .ok () }

/-- `status_ = WriteToStream(contents, ct_destination_.get())`. -/
def write (s : EncryptingStream σ) (contents : Bytes) : EncryptingStream σ :=
  let (status, dest) := writeToStream contents s.ctDestination
  { s with ctDestination := dest, status := status }

/-- `EncryptSegment` and, if it succeeded, `WriteToStream` of its result.  The encrypter counts a segment up when it has
encrypted it. -/
def encryptAndWrite (s : EncryptingStream σ) (plaintext : Bytes) (isLastSegment : Bool) : EncryptingStream σ :=
  match s.segmentEncrypter.encryptSegment s.segmentNumber plaintext isLastSegment with
  | .error e => { s with status := .error e }
  | .ok ct => write { s with segmentNumber := s.segmentNumber + 1 } ct

/-- Encrypting the segment that was held back, if there is one. -/
def encryptHeld (s : EncryptingStream σ) : EncryptingStream σ :=
  if s.ptToEncrypt.isEmpty then s else s.encryptAndWrite s.ptToEncrypt false

/-- `Next`: the size of the buffer, which is the part of `ptBuffer` from `ptBufferOffset` on. -/
def next (s : EncryptingStream σ) : Except Status Nat × EncryptingStream σ :=
  match s.status with
  | .error e => (.error e, s)
  | .ok () =>
    if s.isFirstSegment then
      let s := write { s with isFirstSegment := false, countBackedup := 0 } s.segmentEncrypter.header
      match s.status with
      | .error e => (.error e, s)
      | .ok () => (.ok s.ptBuffer.length, { s with position := s.ptBuffer.length })
    else if 0 < s.countBackedup then
      (.ok s.countBackedup,
        { s with position := s.position + s.countBackedup, ptBufferOffset := s.ptBuffer.length - s.countBackedup,
                 countBackedup := 0 })
    else
      let s := s.encryptHeld
      match s.status with
      | .error e => (.error e, s)
      | .ok () =>
        let ptBuffer := resize s.ptToEncrypt s.segmentEncrypter.plaintextSegmentSize
        (.ok ptBuffer.length,
          { s with ptToEncrypt := s.ptBuffer, ptBuffer := ptBuffer, ptBufferOffset := 0,
                   position := s.position + ptBuffer.length })

/-- The caller writing bytes to the front of the buffer it got. -/
def store (data : Bytes) (s : EncryptingStream σ) : EncryptingStream σ :=
  { s with ptBuffer := s.ptBuffer.take s.ptBufferOffset ++ (data ++ s.ptBuffer.drop (s.ptBufferOffset + data.length)) }

def backUp (count : Int) (s : EncryptingStream σ) : EncryptingStream σ :=
  match s.status with
  | .error _ => s
  | .ok () =>
    if s.isFirstSegment || count < 1 then s
    else
      let currBufferSize := s.ptBuffer.length - s.ptBufferOffset
      let actualCount := min count.toNat (currBufferSize - s.countBackedup)
      { s with countBackedup := s.countBackedup + actualCount, position := s.position - actualCount }

/-- `ct_destination_->Close().IgnoreError()`. -/
def closeDestination (s : EncryptingStream σ) : EncryptingStream σ :=
  { s with ctDestination := (OutputStream.close s.ctDestination).2 }

/-- The end of `Close`, on the last segment. -/
def closeWith (s : EncryptingStream σ) (ptLastSegment : Bytes) : Except Status Unit × EncryptingStream σ :=
  let s := s.encryptAndWrite ptLastSegment true
  match s.status with
  | .error e => (.error e, s.closeDestination)
  | .ok () =>
    let (result, dest) := OutputStream.close s.ctDestination
    (result, { s with status := .error ⟨.failedPrecondition, "Stream closed"⟩, ctDestination := dest })

/-- `Close` once the header is written.  A pointer to the last segment's plaintext decides between the two buffers. -/
def closeSegments (s : EncryptingStream σ) : Except Status Unit × EncryptingStream σ :=
  if (!s.ptBuffer.isEmpty) && s.countBackedup < s.ptBuffer.length then
    let s := encryptHeld { s with ptBuffer := resize s.ptBuffer (s.ptBuffer.length - s.countBackedup) }
    match s.status with
    | .error e => (.error e, s.closeDestination)
    | .ok () => s.closeWith s.ptBuffer
  else s.closeWith s.ptToEncrypt

def close (s : EncryptingStream σ) : Except Status Unit × EncryptingStream σ :=
  match s.status with
  | .error e => (.error e, s)
  | .ok () =>
    if s.isFirstSegment then
      let s := s.write s.segmentEncrypter.header
      match s.status with
      | .error e => (.error e, s)
      | .ok () => s.closeSegments
    else s.closeSegments

end EncryptingStream

/-! ## Runs -/

/-- What a caller does between `New` and `Close`; it fills every buffer it gets. -/
inductive WriteOp
  | next (data : Nat → UInt8)
  | backUp (count : Int)

/-- A call, with the caller's account of what it has kept. -/
def runWrite {σ : Type} [OutputStream σ] : EncryptingStream σ × Ledger → WriteOp → EncryptingStream σ × Ledger
  | (s, l), .next data =>
    match s.next with
    | (.ok n, s') => (s'.store ((List.range n).map data), l.next ((List.range n).map data))
    | (.error _, s') => (s', { l with last := 0 })
  | (s, l), .backUp count => (s.backUp count, l.backUp count)

/-! ## The invariant -/

theorem Ledger.backUp_of_last_eq_zero {l : Ledger} (h : l.last = 0) (count : Int) : l.backUp count = l := by
  unfold Ledger.backUp
  ext1
  · simp [h]
  · simp [h]

section Inv
variable {σ : Type} {At : σ → Ledger → Prop} {e : SegmentEncrypter}

/-- The full pieces `ps` were collected: the last of them is held back, the others are encrypted and written.  Of the
buffer `B` the caller was given what lies behind `offset`, and has backed the last `backedup` bytes up. -/
structure Collecting (At : σ → Ledger → Prop) (e : SegmentEncrypter) (ps : List Bytes) (dest : σ) (B : Bytes)
    (backedup offset : Nat) (l : Ledger) : Prop where
  full        : Full e.firstSegmentSize.toNat e.plaintextSegmentSize ps
  destination : ∃ last, At dest ⟨e.header ++ (e.fullSegments ps.dropLast).flatten, last⟩
  buffer      : B.length = nextSize e.firstSegmentSize.toNat e.plaintextSegmentSize ps
  backedup_le : offset + backedup ≤ B.length
  kept        : l.kept = ps.flatten ++ B.take (B.length - backedup)
  last        : l.last = B.length - offset - backedup

/-- The stream in such a state. -/
def collecting (e : SegmentEncrypter) (ps : List Bytes) (dest : σ) (B : Bytes) (backedup offset position : Nat) :
    EncryptingStream σ :=
  ⟨e, ps.dropLast.length, dest, B, ps.getLastD [], position, false, backedup, offset, .ok ()⟩

/-- `New`, before the first `Next`. -/
def Fresh (At : σ → Ledger → Prop) (e : SegmentEncrypter) (s : EncryptingStream σ) (l : Ledger) : Prop :=
  ∃ dest last, s = ⟨e, 0, dest, List.replicate e.firstSegmentSize.toNat 0, [], 0, true, e.firstSegmentSize.toNat, 0,
    .ok ()⟩ ∧ At dest ⟨[], last⟩ ∧ l = ⟨[], 0⟩

/-- `EncryptSegment` refuses a piece that is not the last. -/
def Refuses (e : SegmentEncrypter) (plaintext : Bytes) : Prop :=
  ∃ ps p rest err, Full e.firstSegmentSize.toNat e.plaintextSegmentSize (ps ++ [p]) ∧ rest ≠ [] ∧
    plaintext = (ps ++ [p]).flatten ++ rest ∧ e.encryptSegment ps.length p false = .error err

/-- **The states a run reaches.**  In the last one `EncryptSegment` has failed. -/
inductive EncryptingStream.Inv (At : σ → Ledger → Prop) (e : SegmentEncrypter) : EncryptingStream σ → Ledger → Prop
  | fresh {s l} : Fresh At e s l → Inv At e s l
  | collecting {ps dest B backedup offset l} : Collecting At e ps dest B backedup offset l →
      Inv At e (collecting e ps dest B backedup offset l.kept.length) l
  | broken {s l err} : s.status = .error err → s.position = l.kept.length → l.last = 0 → Refuses e l.kept → Inv At e s l

theorem Refuses.not_segments (hF : 0 < e.firstSegmentSize) {plaintext : Bytes} (h : Refuses e plaintext)
    {cts : List Bytes} : ¬ e.Segments plaintext cts := by
  obtain ⟨ps, p, rest, err, hfull, hne, rfl, herr⟩ := h
  have hF' : 0 < e.firstSegmentSize.toNat := by omega
  have hS : 0 < e.plaintextSegmentSize := by unfold SegmentEncrypter.firstSegmentSize at hF; omega
  intro hseg
  have hcut : e.pieces ((ps ++ [p]).flatten ++ rest) = ps ++ [p] ++ cut _ _ rest := cut_full_append hF' hS hne hfull
  obtain ⟨qs, q, hq, -⟩ := cut_spec (nextSize_pos hF' hS (ps ++ [p])) hS rest
  rw [hq, ← List.append_assoc] at hcut
  have hok := (hseg.split hcut).2.1 ps.length p (by simp)
  rw [herr] at hok
  cases hok

/-- A buffer of `n` bytes that the caller has just got, and fills. -/
theorem Collecting.store (ps : List Bytes) (dest : σ) (B data : Bytes) (offset : Nat) (l : Ledger)
    (hfull : Full e.firstSegmentSize.toNat e.plaintextSegmentSize ps)
    (hdest : ∃ last, At dest ⟨e.header ++ (e.fullSegments ps.dropLast).flatten, last⟩)
    (hbuf : B.length = nextSize e.firstSegmentSize.toNat e.plaintextSegmentSize ps)
    (hoff : offset + data.length = B.length) (hkept : l.kept = ps.flatten ++ B.take offset) :
    EncryptingStream.Inv At e ((collecting e ps dest B 0 offset (l.kept.length + data.length)).store data)
      (l.next data) := by
  have hB : (B.take offset ++ data).length = B.length := by
    rw [List.length_append, List.length_take]
    omega
  have hstore : (collecting e ps dest B 0 offset (l.kept.length + data.length)).store data =
      collecting e ps dest (B.take offset ++ data) 0 offset (l.next data).kept.length := by
    unfold EncryptingStream.store collecting
    rw [hoff, List.drop_length, List.append_nil]
    simp only [Ledger.next, List.length_append]
  rw [hstore]
  refine .collecting ⟨hfull, hdest, hB.trans hbuf, by omega, ?_, ?_⟩
  · rw [Nat.sub_zero, List.take_length, ← List.append_assoc, ← hkept]
    rfl
  · rw [hB]
    show data.length = _
    omega

theorem inv_backUp {s : EncryptingStream σ} {l : Ledger} (h : EncryptingStream.Inv At e s l) (count : Int) :
    EncryptingStream.Inv At e (s.backUp count) (l.backUp count) := by
  cases h with
  | fresh hf =>
    obtain ⟨dest, last, rfl, hat, rfl⟩ := hf
    rw [Ledger.backUp_of_last_eq_zero rfl]
    exact .fresh ⟨dest, last, by unfold EncryptingStream.backUp; simp, hat, rfl⟩
  | @collecting ps dest B backedup offset l hc =>
    have hle := hc.backedup_le
    by_cases hcount : count < 1
    · have hl : l.backUp count = l := by
        unfold Ledger.backUp
        have h0 : count.toNat = 0 := by omega
        ext1 <;> simp [h0]
      have hs : (collecting e ps dest B backedup offset l.kept.length).backUp count =
          collecting e ps dest B backedup offset l.kept.length := by
        unfold EncryptingStream.backUp collecting
        simp [hcount]
      rw [hl, hs]
      exact .collecting hc
    · -- the caller takes the end of what it holds back
      have hlast := hc.last
      have hpos : (l.backUp count).kept.length =
          l.kept.length - min count.toNat (B.length - offset - backedup) := by
        unfold Ledger.backUp
        rw [List.length_take, hlast]
        omega
      have hs : (collecting e ps dest B backedup offset l.kept.length).backUp count =
          collecting e ps dest B (backedup + min count.toNat (B.length - offset - backedup)) offset
            (l.backUp count).kept.length := by
        rw [hpos]
        unfold EncryptingStream.backUp collecting
        simp [hcount]
      rw [hs]
      refine .collecting ⟨hc.full, hc.destination, hc.buffer, by omega, ?_, ?_⟩
      · show l.kept.take _ = _
        rw [hlast, hc.kept, List.length_append, List.length_take, List.take_append, List.take_take,
          List.take_of_length_le (by omega)]
        congr 2
        omega
      · show l.last - _ = _
        rw [hlast]
        omega
  | broken hst hp hl hr =>
    have hs : s.backUp count = s := by
      unfold EncryptingStream.backUp
      rw [hst]
    rw [hs, Ledger.backUp_of_last_eq_zero hl]
    exact .broken hst hp hl hr

theorem EncryptingStream.Inv.position {s : EncryptingStream σ} {l : Ledger} (h : EncryptingStream.Inv At e s l) :
    s.position = l.kept.length := by
  cases h with
  | fresh hf =>
    obtain ⟨dest, last, rfl, hat, rfl⟩ := hf
    rfl
  | collecting => rfl
  | broken _ hp => exact hp

theorem fresh_new (hF : 0 < e.firstSegmentSize) {dest : σ} {last : Nat} (hdest : At dest ⟨[], last⟩) :
    ∃ s, EncryptingStream.new e dest = .ok s ∧ Fresh At e s ⟨[], 0⟩ := by
  refine ⟨_, ?_, dest, last, rfl, hdest, rfl⟩
  unfold EncryptingStream.new
  rw [if_neg (by omega)]

theorem inv_new (hF : 0 < e.firstSegmentSize) {dest : σ} {last : Nat} (hdest : At dest ⟨[], last⟩) :
    ∃ s, EncryptingStream.new e dest = .ok s ∧ EncryptingStream.Inv At e s ⟨[], 0⟩ := by
  obtain ⟨s, hnew, hfresh⟩ := fresh_new hF hdest
  exact ⟨s, hnew, .fresh hfresh⟩

end Inv

/-! ## One call -/

section Step
variable {σ : Type} [OutputStream σ] {At : σ → Ledger → Prop} {Received : σ → Bytes → Prop} {e : SegmentEncrypter}

theorem write_eq (hw : WritesTo At Received) (s : EncryptingStream σ) {K : Bytes} {last : Nat}
    (hat : At s.ctDestination ⟨K, last⟩) (contents : Bytes) :
    ∃ dest last', s.write contents = { s with ctDestination := dest, status := .ok () } ∧
      At dest ⟨K ++ contents, last'⟩ := by
  obtain ⟨dest, last', he, hat'⟩ := writeToStream_eq hw contents hat
  refine ⟨dest, last', ?_, hat'⟩
  unfold EncryptingStream.write
  rw [he]

theorem encryptAndWrite_eq (hw : WritesTo At Received) (s : EncryptingStream σ) {K p c : Bytes} {last : Nat}
    {isLast : Bool} (hat : At s.ctDestination ⟨K, last⟩)
    (henc : s.segmentEncrypter.encryptSegment s.segmentNumber p isLast = .ok c) :
    ∃ dest last', s.encryptAndWrite p isLast =
        { s with segmentNumber := s.segmentNumber + 1, ctDestination := dest, status := .ok () } ∧
      At dest ⟨K ++ c, last'⟩ := by
  obtain ⟨dest, last', he, hat'⟩ := write_eq hw { s with segmentNumber := s.segmentNumber + 1 } hat c
  refine ⟨dest, last', ?_, hat'⟩
  unfold EncryptingStream.encryptAndWrite
  rw [henc]
  exact he

theorem runWrite_next_of_ok {s s' : EncryptingStream σ} {l : Ledger} {data : Nat → UInt8} {n : Nat}
    (h : s.next = (.ok n, s')) : runWrite (s, l) (.next data) =
      (s'.store ((List.range n).map data), l.next ((List.range n).map data)) := by
  show (match s.next with
    | (.ok n, s') => (s'.store ((List.range n).map data), l.next ((List.range n).map data))
    | (.error _, s') => (s', { l with last := 0 })) = _
  rw [h]

theorem runWrite_next_of_error {s s' : EncryptingStream σ} {l : Ledger} {data : Nat → UInt8} {err : Status}
    (h : s.next = (.error err, s')) : runWrite (s, l) (.next data) = (s', { l with last := 0 }) := by
  show (match s.next with
    | (.ok n, s') => (s'.store ((List.range n).map data), l.next ((List.range n).map data))
    | (.error _, s') => (s', { l with last := 0 })) = _
  rw [h]

/-- The first `Next` writes the header and gives the first buffer. -/
theorem next_fresh (hw : WritesTo At Received) {s : EncryptingStream σ} {l : Ledger} (h : Fresh At e s l) :
    ∃ dest last, s.next = (.ok e.firstSegmentSize.toNat,
        collecting e [] dest (List.replicate e.firstSegmentSize.toNat 0) 0 0 e.firstSegmentSize.toNat) ∧
      At dest ⟨e.header, last⟩ := by
  obtain ⟨dest, last, rfl, hat, rfl⟩ := h
  obtain ⟨dest', last', hwrite, hat'⟩ := writeToStream_eq hw e.header hat
  refine ⟨dest', last', ?_, hat'⟩
  unfold EncryptingStream.next EncryptingStream.write
  simp only [if_true, hwrite, List.length_replicate]
  rfl

theorem inv_next_of_fresh (hw : WritesTo At Received) {s : EncryptingStream σ} {l : Ledger} (h : Fresh At e s l)
    (data : Nat → UInt8) :
    EncryptingStream.Inv At e (runWrite (s, l) (.next data)).1 (runWrite (s, l) (.next data)).2 := by
  obtain ⟨dest', last', hnext, hat'⟩ := next_fresh hw h
  obtain ⟨-, -, -, -, rfl⟩ := h
  rw [runWrite_next_of_ok hnext]
  have hlen : ((List.range e.firstSegmentSize.toNat).map data).length = e.firstSegmentSize.toNat := by simp
  have hdest : ∃ last, At dest' ⟨e.header ++ (e.fullSegments ([] : List Bytes).dropLast).flatten, last⟩ :=
    ⟨last', by simpa [SegmentEncrypter.fullSegments] using hat'⟩
  have hinv := Collecting.store [] dest' (List.replicate e.firstSegmentSize.toNat 0)
    ((List.range e.firstSegmentSize.toNat).map data) 0 ⟨[], 0⟩ trivial hdest (by simp [nextSize]) (by simp) (by simp)
  rw [hlen, List.length_nil, Nat.zero_add] at hinv
  exact hinv

/-- `Next` gives backed up space again. -/
theorem inv_next_of_backedup {ps : List Bytes} {dest : σ} {B : Bytes} {backedup offset : Nat} {l : Ledger}
    (h : Collecting At e ps dest B backedup offset l) (hb : 0 < backedup) (data : Nat → UInt8) :
    EncryptingStream.Inv At e (runWrite (collecting e ps dest B backedup offset l.kept.length, l) (.next data)).1
      (runWrite (collecting e ps dest B backedup offset l.kept.length, l) (.next data)).2 := by
  have hnext : (collecting e ps dest B backedup offset l.kept.length).next =
      (.ok backedup, collecting e ps dest B 0 (B.length - backedup) (l.kept.length + backedup)) := by
    unfold EncryptingStream.next collecting
    simp only [hb, if_true]
    rfl
  have hle := h.backedup_le
  rw [runWrite_next_of_ok hnext]
  have hlen : ((List.range backedup).map data).length = backedup := by simp
  have hinv := Collecting.store ps dest B ((List.range backedup).map data) _ l h.full h.destination h.buffer
    (by rw [hlen]; omega) h.kept
  rw [hlen] at hinv
  exact hinv

theorem resize_self (bs : Bytes) : resize bs bs.length = bs := by
  unfold resize
  rw [Nat.sub_self, List.replicate_zero, List.append_nil, List.take_length]

theorem resize_length (bs : Bytes) (n : Nat) : (resize bs n).length = n := by
  unfold resize
  rw [List.length_append, List.length_take, List.length_replicate]
  omega

/-- `Next` on a full buffer when the pieces before it are dealt with. -/
theorem inv_next_of_turned {ps : List Bytes} {dest dest' : σ} {B : Bytes} {offset last : Nat} {l : Ledger}
    (h : Collecting At e ps dest B 0 offset l) (hat : At dest' ⟨e.header ++ (e.fullSegments ps).flatten, last⟩)
    (hnext : (collecting e ps dest B 0 offset l.kept.length).next =
      (.ok e.plaintextSegmentSize, ⟨e, ps.length, dest', resize (ps.getLastD []) e.plaintextSegmentSize, B,
        l.kept.length + e.plaintextSegmentSize, false, 0, 0, .ok ()⟩)) (data : Nat → UInt8) :
    EncryptingStream.Inv At e (runWrite (collecting e ps dest B 0 offset l.kept.length, l) (.next data)).1
      (runWrite (collecting e ps dest B 0 offset l.kept.length, l) (.next data)).2 := by
  have hstate : (⟨e, ps.length, dest', resize (ps.getLastD []) e.plaintextSegmentSize, B,
      l.kept.length + e.plaintextSegmentSize, false, 0, 0, .ok ()⟩ : EncryptingStream σ) =
      collecting e (ps ++ [B]) dest' (resize (ps.getLastD []) e.plaintextSegmentSize) 0 0
        (l.kept.length + e.plaintextSegmentSize) := by
    unfold collecting
    rw [List.dropLast_concat, List.getLastD_concat]
  rw [runWrite_next_of_ok hnext, hstate]
  have hlen : ((List.range e.plaintextSegmentSize).map data).length = e.plaintextSegmentSize := by simp
  have hsize : nextSize e.firstSegmentSize.toNat e.plaintextSegmentSize (ps ++ [B]) = e.plaintextSegmentSize := by
    cases ps <;> rfl
  have hdest : ∃ last, At dest' ⟨e.header ++ (e.fullSegments (ps ++ [B]).dropLast).flatten, last⟩ :=
    ⟨last, by rw [List.dropLast_concat]; exact hat⟩
  have hinv := Collecting.store (ps ++ [B]) dest' (resize (ps.getLastD []) e.plaintextSegmentSize)
    ((List.range e.plaintextSegmentSize).map data) 0 l (full_append h.full h.buffer) hdest (by rw [resize_length, hsize]) (by rw [resize_length, hlen]; omega)
    (by rw [h.kept, Nat.sub_zero, List.take_length]; simp)
  rw [hlen] at hinv
  exact hinv

/-- The held piece is written, or refused. -/
theorem encryptHeld_eq (hw : WritesTo At Received) (hF : 0 < e.firstSegmentSize) {ps : List Bytes} {dest : σ}
    {last : Nat} (hfull : Full e.firstSegmentSize.toNat e.plaintextSegmentSize ps)
    (hat : At dest ⟨e.header ++ (e.fullSegments ps.dropLast).flatten, last⟩) (B : Bytes)
    (backedup offset position : Nat) :
    (∃ dest' last', (collecting e ps dest B backedup offset position).encryptHeld =
        ⟨e, ps.length, dest', B, ps.getLastD [], position, false, backedup, offset, .ok ()⟩ ∧
      At dest' ⟨e.header ++ (e.fullSegments ps).flatten, last'⟩) ∨
    (∃ D T err, ps = D ++ [T] ∧ e.encryptSegment D.length T false = .error err ∧
      (collecting e ps dest B backedup offset position).encryptHeld =
        ⟨e, D.length, dest, B, T, position, false, backedup, offset, .error err⟩) := by
  rcases List.eq_nil_or_concat ps with rfl | ⟨D, T, rfl⟩
  · exact .inl ⟨dest, last, rfl, hat⟩
  · rw [List.concat_eq_append] at *
    rw [List.dropLast_concat] at hat
    have hT : T.isEmpty = false := by
      rw [List.isEmpty_eq_false_iff, ← List.length_pos_iff, full_get hfull]
      exact nextSize_pos (by omega) (by unfold SegmentEncrypter.firstSegmentSize at hF; omega) D
    have hheld : (collecting e (D ++ [T]) dest B backedup offset position).encryptHeld =
        EncryptingStream.encryptAndWrite ⟨e, D.length, dest, B, T, position, false, backedup, offset, .ok ()⟩ T false := by
      unfold EncryptingStream.encryptHeld collecting
      rw [List.dropLast_concat, List.getLastD_concat]
      simp only [hT]
      rfl
    cases henc : e.encryptSegment D.length T false with
    | error err =>
      refine .inr ⟨D, T, err, rfl, henc, ?_⟩
      rw [hheld]
      unfold EncryptingStream.encryptAndWrite
      simp only [henc]
    | ok c =>
      obtain ⟨dest', last', hwrite, hat'⟩ := encryptAndWrite_eq hw
        ⟨e, D.length, dest, B, T, position, false, backedup, offset, .ok ()⟩ hat henc
      refine .inl ⟨dest', last', ?_, ?_⟩
      · rw [hheld, hwrite, List.getLastD_concat, List.length_append]
        rfl
      · rw [SegmentEncrypter.fullSegments_concat, List.flatten_append, List.flatten_singleton, ← List.append_assoc,
          SegmentEncrypter.segment_of_ok henc]
        exact hat'

/-- `Next` on a full buffer. -/
theorem inv_next_of_full (hw : WritesTo At Received) (hF : 0 < e.firstSegmentSize) {ps : List Bytes} {dest : σ}
    {B : Bytes} {offset : Nat} {l : Ledger} (h : Collecting At e ps dest B 0 offset l) (data : Nat → UInt8) :
    EncryptingStream.Inv At e (runWrite (collecting e ps dest B 0 offset l.kept.length, l) (.next data)).1
      (runWrite (collecting e ps dest B 0 offset l.kept.length, l) (.next data)).2 := by
  obtain ⟨last, hat⟩ := h.destination
  have hnext : (collecting e ps dest B 0 offset l.kept.length).next =
      match (collecting e ps dest B 0 offset l.kept.length).encryptHeld.status with
      | .error err => (.error err, (collecting e ps dest B 0 offset l.kept.length).encryptHeld)
      | .ok () =>
        let s := (collecting e ps dest B 0 offset l.kept.length).encryptHeld
        let ptBuffer := resize s.ptToEncrypt s.segmentEncrypter.plaintextSegmentSize
        (.ok ptBuffer.length,
          { s with ptToEncrypt := s.ptBuffer, ptBuffer := ptBuffer, ptBufferOffset := 0,
                   position := s.position + ptBuffer.length }) := rfl
  rcases encryptHeld_eq hw hF h.full hat B 0 offset l.kept.length with ⟨dest', last', he, hat'⟩ | ⟨D, T, err, rfl, henc, he⟩
  · refine inv_next_of_turned h hat' ?_ data
    rw [hnext, he]
    simp only [resize_length]
  · rw [he] at hnext
    rw [runWrite_next_of_error hnext]
    have hB : B ≠ [] := by
      rw [← List.length_pos_iff, h.buffer]
      exact nextSize_pos (by omega) (by unfold SegmentEncrypter.firstSegmentSize at hF; omega) _
    refine .broken rfl rfl rfl ⟨D, T, B, err, h.full, hB, ?_, henc⟩
    rw [h.kept, Nat.sub_zero, List.take_length]

/-- **Every call keeps the invariant.** -/
theorem inv_runWrite (hw : WritesTo At Received) (hF : 0 < e.firstSegmentSize) {s : EncryptingStream σ} {l : Ledger}
    (h : EncryptingStream.Inv At e s l) (op : WriteOp) :
    EncryptingStream.Inv At e (runWrite (s, l) op).1 (runWrite (s, l) op).2 := by
  cases op with
  | backUp count => exact inv_backUp h count
  | next data =>
    cases h with
    | fresh hf => exact inv_next_of_fresh hw hf data
    | @collecting ps dest B backedup offset l hc =>
      by_cases hb : 0 < backedup
      · exact inv_next_of_backedup hc hb data
      · obtain rfl : backedup = 0 := by omega
        exact inv_next_of_full hw hF hc data
    | @broken s l err hst hp hl hr =>
      have hnext : s.next = (.error err, s) := by
        unfold EncryptingStream.next
        rw [hst]
      rw [runWrite_next_of_error hnext]
      exact .broken hst hp rfl hr

theorem inv_run (hw : WritesTo At Received) (hF : 0 < e.firstSegmentSize) :
    ∀ (ops : List WriteOp) {s : EncryptingStream σ} {l : Ledger}, EncryptingStream.Inv At e s l →
      EncryptingStream.Inv At e (ops.foldl runWrite (s, l)).1 (ops.foldl runWrite (s, l)).2
  | [], _, _, h => h
  | op :: ops, s, l, h => by
    rw [List.foldl_cons]
    exact inv_run hw hF ops (inv_runWrite hw hF h op)

/-! ## Close -/

theorem closeWith_eq (hw : WritesTo At Received) (s : EncryptingStream σ) {K p c : Bytes} {last : Nat}
    (hat : At s.ctDestination ⟨K, last⟩) (henc : s.segmentEncrypter.encryptSegment s.segmentNumber p true = .ok c) :
    ∃ s', s.closeWith p = (.ok (), s') ∧ Received s'.ctDestination (K ++ c) ∧ s'.position = s.position := by
  obtain ⟨dest, last', hwrite, hat'⟩ := encryptAndWrite_eq hw s hat henc
  obtain ⟨dest', hclose, hrec⟩ := hw.close hat'
  refine ⟨{ s with
    segmentNumber := s.segmentNumber + 1, ctDestination := dest',
    status := .error ⟨.failedPrecondition, "Stream closed"⟩ }, ?_, hrec, rfl⟩
  unfold EncryptingStream.closeWith
  rw [hwrite]
  simp only [hclose]

theorem close_of_fresh (hw : WritesTo At Received) {s : EncryptingStream σ} {l : Ledger} (h : Fresh At e s l)
    {cts : List Bytes} (hseg : e.Segments l.kept cts) :
    ∃ s', s.close = (.ok (), s') ∧ Received s'.ctDestination (e.header ++ cts.flatten) ∧
      s'.position = l.kept.length := by
  obtain ⟨dest, last, rfl, hat, rfl⟩ := h
  obtain ⟨dest', last', hwrite, hat'⟩ := writeToStream_eq hw e.header hat
  have hpieces : e.pieces [] = [] ++ [[]] := cut_of_length_le (Nat.zero_le _)
  obtain ⟨rfl, -, henc⟩ := hseg.split hpieces
  obtain ⟨s', hclose, hrec, hpos⟩ := closeWith_eq hw ⟨e, 0, dest', List.replicate e.firstSegmentSize.toNat 0, [], 0,
    true, e.firstSegmentSize.toNat, 0, .ok ()⟩ hat' henc
  refine ⟨s', ?_, ?_, hpos⟩
  · unfold EncryptingStream.close EncryptingStream.write
    simp only [if_true, hwrite]
    unfold EncryptingStream.closeSegments
    simp only [List.length_replicate, lt_irrefl, decide_false, Bool.and_false]
    exact hclose
  · simpa [SegmentEncrypter.fullSegments] using hrec

/-- The last segment is the buffer's. -/
theorem close_of_buffer (hw : WritesTo At Received) (hF : 0 < e.firstSegmentSize) {ps : List Bytes} {dest : σ}
    {B : Bytes} {backedup offset : Nat} {l : Ledger} (h : Collecting At e ps dest B backedup offset l)
    (hb : backedup < B.length) {cts : List Bytes} (hseg : e.Segments l.kept cts) :
    ∃ s', (collecting e ps dest B backedup offset l.kept.length).close = (.ok (), s') ∧
      Received s'.ctDestination (e.header ++ cts.flatten) ∧ s'.position = l.kept.length := by
  have hF' : 0 < e.firstSegmentSize.toNat := by omega
  have hS : 0 < e.plaintextSegmentSize := by unfold SegmentEncrypter.firstSegmentSize at hF; omega
  obtain ⟨last, hat⟩ := h.destination
  have hresize : resize B (B.length - backedup) = B.take (B.length - backedup) := by
    unfold resize
    rw [show B.length - backedup - B.length = 0 by omega, List.replicate_zero, List.append_nil]
  have hBne : B.isEmpty = false := by
    rw [List.isEmpty_eq_false_iff, ← List.length_pos_iff]
    omega
  have hpieces : e.pieces l.kept = ps ++ [B.take (B.length - backedup)] := by
    rw [h.kept]
    refine cut_append hF' hS h.full ⟨?_, fun _ => ?_⟩
    · rw [List.length_take, ← h.buffer]
      omega
    · rw [← List.length_pos_iff, List.length_take]
      omega
  obtain ⟨rfl, hfull, henc⟩ := hseg.split hpieces
  have hclose : (collecting e ps dest B backedup offset l.kept.length).close =
      match (collecting e ps dest (B.take (B.length - backedup)) backedup offset l.kept.length).encryptHeld.status with
      | .error err => (.error err, (collecting e ps dest (B.take (B.length - backedup)) backedup offset
          l.kept.length).encryptHeld.closeDestination)
      | .ok () => (collecting e ps dest (B.take (B.length - backedup)) backedup offset l.kept.length).encryptHeld.closeWith
          (collecting e ps dest (B.take (B.length - backedup)) backedup offset l.kept.length).encryptHeld.ptBuffer := by
    rw [← hresize]
    show EncryptingStream.closeSegments _ = _
    unfold EncryptingStream.closeSegments
    rw [if_pos (by simp [collecting, hBne, hb])]
    rfl
  rcases encryptHeld_eq hw hF h.full hat (B.take (B.length - backedup)) backedup offset l.kept.length with
    ⟨dest', last', he, hat'⟩ | ⟨D, T, err, rfl, hencT, -⟩
  · obtain ⟨s', hs', hrec, hpos⟩ := closeWith_eq hw
      ⟨e, ps.length, dest', B.take (B.length - backedup), ps.getLastD [], l.kept.length, false, backedup, offset, .ok ()⟩
      hat' henc
    refine ⟨s', ?_, by simpa using hrec, hpos⟩
    rw [hclose, he]
    exact hs'
  · rw [hfull D.length T (by simp)] at hencT
    cases hencT

/-- The last segment is the one that was held back. -/
theorem close_of_held (hw : WritesTo At Received) (hF : 0 < e.firstSegmentSize) {ps : List Bytes} {dest : σ}
    {B : Bytes} {offset : Nat} {l : Ledger} (h : Collecting At e ps dest B B.length offset l) {cts : List Bytes}
    (hseg : e.Segments l.kept cts) :
    ∃ s', (collecting e ps dest B B.length offset l.kept.length).close = (.ok (), s') ∧
      Received s'.ctDestination (e.header ++ cts.flatten) ∧ s'.position = l.kept.length := by
  have hF' : 0 < e.firstSegmentSize.toNat := by omega
  have hS : 0 < e.plaintextSegmentSize := by unfold SegmentEncrypter.firstSegmentSize at hF; omega
  obtain ⟨last, hat⟩ := h.destination
  have hkept : l.kept = ps.flatten := by rw [h.kept, Nat.sub_self, List.take_zero, List.append_nil]
  have hclose : (collecting e ps dest B B.length offset l.kept.length).close =
      (collecting e ps dest B B.length offset l.kept.length).closeWith (ps.getLastD []) := by
    show EncryptingStream.closeSegments _ = _
    unfold EncryptingStream.closeSegments
    rw [if_neg (by simp [collecting])]
    rfl
  have hpieces : e.pieces l.kept = ps.dropLast ++ [ps.getLastD []] := by
    rw [hkept]
    rcases List.eq_nil_or_concat ps with rfl | ⟨D, T, rfl⟩
    · exact cut_of_length_le (Nat.zero_le _)
    · rw [List.concat_eq_append] at *
      rw [List.dropLast_concat, List.getLastD_concat, List.flatten_append, List.flatten_singleton]
      have hlen := full_get h.full
      refine cut_append hF' hS (full_left h.full) ⟨hlen.le, fun _ => ?_⟩
      rw [← List.length_pos_iff, hlen]
      exact nextSize_pos hF' hS D
  obtain ⟨rfl, -, henc⟩ := hseg.split hpieces
  obtain ⟨s', hs', hrec, hpos⟩ := closeWith_eq hw (collecting e ps dest B B.length offset l.kept.length) hat henc
  exact ⟨s', by rw [hclose, hs'], by simpa using hrec, hpos⟩

/-- **Closing writes the segments of what was kept**, if `EncryptSegment` succeeds on them. -/
theorem close_eq (hw : WritesTo At Received) (hF : 0 < e.firstSegmentSize) {s : EncryptingStream σ} {l : Ledger}
    (h : EncryptingStream.Inv At e s l) {cts : List Bytes} (hseg : e.Segments l.kept cts) :
    ∃ s', s.close = (.ok (), s') ∧ Received s'.ctDestination (e.header ++ cts.flatten) ∧
      s'.position = l.kept.length := by
  cases h with
  | fresh hf => exact close_of_fresh hw hf hseg
  | @collecting ps dest B backedup offset l hc =>
    by_cases hb : backedup < B.length
    · exact close_of_buffer hw hF hc hb hseg
    · have := hc.backedup_le
      obtain rfl : backedup = B.length := by omega
      exact close_of_held hw hF hc hseg
  | broken _ _ _ hr => exact absurd hseg (hr.not_segments hF)

/-- **The layout of the ciphertext**: whatever `Next` and `BackUp` calls were made and whatever buffers the destination
gave, `Position` is the number of bytes kept, and closing makes the destination have the header and the segments of
what was kept.  The pieces are full but the last, which is empty only if nothing was kept. -/
theorem encryptingStream_layout (hw : WritesTo At Received) (e : SegmentEncrypter) (hF : 0 < e.firstSegmentSize)
    (dest : σ) (last : Nat) (hdest : At dest ⟨[], last⟩) (ops : List WriteOp) :
    ∃ s₀ s l, EncryptingStream.new e dest = .ok s₀ ∧ ops.foldl runWrite (s₀, ⟨[], 0⟩) = (s, l) ∧
      s.position = l.kept.length ∧
      (∃ ps p, e.pieces l.kept = ps ++ [p] ∧ ps.flatten ++ p = l.kept ∧
        Full e.firstSegmentSize.toNat e.plaintextSegmentSize ps ∧
        p.length ≤ nextSize e.firstSegmentSize.toNat e.plaintextSegmentSize ps ∧ (l.kept ≠ [] → p ≠ [])) ∧
      ∀ cts, e.Segments l.kept cts →
        ∃ s', s.close = (.ok (), s') ∧ Received s'.ctDestination (e.header ++ cts.flatten) ∧
          s'.position = l.kept.length := by
  have hF' : 0 < e.firstSegmentSize.toNat := by omega
  have hS : 0 < e.plaintextSegmentSize := by unfold SegmentEncrypter.firstSegmentSize at hF; omega
  obtain ⟨s₀, hnew, hinv₀⟩ := inv_new hF hdest
  have hinv := inv_run hw hF ops hinv₀
  refine ⟨s₀, _, _, hnew, rfl, hinv.position, ?_, fun cts hseg => close_eq hw hF hinv hseg⟩
  obtain ⟨ps, p, hcut, hflat, hfull, hlast⟩ := cut_spec hF' hS (ops.foldl runWrite (s₀, ⟨[], 0⟩)).2.kept
  refine ⟨ps, p, hcut, hflat, hfull, hlast.length_le, fun hne => ?_⟩
  by_cases hps : ps = []
  · rw [hps, List.flatten_nil, List.nil_append] at hflat
    rw [hflat]
    exact hne
  · exact hlast.ne_nil hps

end Step

/-! ## An encrypter to run -/

/-- Every segment gets its number and its last flag as a tag. -/
def taggingEncrypter (header : Bytes) (plaintextSegmentSize : Nat) : SegmentEncrypter where
  header := header
  plaintextSegmentSize := plaintextSegmentSize
  ciphertextSegmentSize := plaintextSegmentSize + 2
  ciphertextOffset := 0
  encryptSegment i p isLast := .ok (p ++ [UInt8.ofNat i, if isLast then 1 else 0])

/-- Buffers of sizes 0, 1, 2, 0, 1, 2, … -/
def unevenChunking : Chunking where
  size k := k % 3
  progress k := ⟨3 * k + 1, by omega, by omega⟩

theorem taggingEncrypter_segments (header : Bytes) (n : Nat) (plaintext : Bytes) :
    ∃ cts, (taggingEncrypter header n).Segments plaintext cts := by
  refine ⟨((taggingEncrypter header n).pieces plaintext).mapIdx (fun i p => p ++ [UInt8.ofNat i,
    if i + 1 = ((taggingEncrypter header n).pieces plaintext).length then 1 else 0]), List.length_mapIdx, ?_⟩
  intro i p c hp hc
  rw [List.getElem?_mapIdx, hp, Option.map_some, Option.some.injEq] at hc
  rw [← hc, List.length_mapIdx]
  show Except.ok (p ++ [UInt8.ofNat i, if decide _ = true then 1 else 0]) = _
  simp only [decide_eq_true_eq]

/-- A run that backs up part of the first buffer, and all of the second. -/
theorem taggingEncrypter_layout :
    ∃ s₀ s l s' cts, EncryptingStream.new (taggingEncrypter [7] 4) (ChunkedSink.start unevenChunking) = .ok s₀ ∧
      [WriteOp.next (fun i => UInt8.ofNat i), .backUp 1, .next (fun _ => 9), .next (fun _ => 5), .backUp 100].foldl runWrite
        (s₀, ⟨[], 0⟩) = (s, l) ∧ s.position = l.kept.length ∧ (taggingEncrypter [7] 4).Segments l.kept cts ∧
      s.close = (.ok (), s') ∧ s'.ctDestination.received = [7] ++ cts.flatten := by
  obtain ⟨s₀, s, l, hnew, hrun, hpos, -, hclose⟩ := encryptingStream_layout ChunkedSink.writesTo (taggingEncrypter [7] 4)
    (by decide) (ChunkedSink.start unevenChunking) 0 ⟨rfl, rfl⟩
    [.next (fun i => UInt8.ofNat i), .backUp 1, .next (fun _ => 9), .next (fun _ => 5), .backUp 100]
  obtain ⟨cts, hseg⟩ := taggingEncrypter_segments [7] 4 l.kept
  obtain ⟨s', hs', hrec, -⟩ := hclose cts hseg
  exact ⟨s₀, s, l, s', cts, hnew, hrun, hpos, hseg, hs', hrec⟩

end Tink
