import TinkCc.DecryptingInputStream
import TinkCc.RandomAccessRead
/-!
# RandomAccessMatching — finding the key of a ciphertext with random access

The streaming wrapper's random access stream reads one byte under each key, until one of them can.  The keys share a
source that answers every read in the same way each time (`Steady`), so a key that was tried differs from a new stream
of that key only in that its header was read: `Alike` streams are alike once both headers were.
-/
namespace Tink

def StreamingAead.newDecryptingRandomAccessStream {σ : Type} (aead : StreamingAead) (ciphertextSource : σ)
    (associatedData : Bytes) : Except Status (DecryptingRandomAccessStream aead.State σ) := do
  let segmentDecrypter ← aead.newSegmentDecrypter associatedData
  DecryptingRandomAccessStream.new segmentDecrypter ciphertextSource

/-! ## The wrapper's stream -/

namespace Streamingaead

/-- The members of the wrapper's `DecryptingRandomAccessStream`; `primitives` are what `get_all` gives, in its order.
The source is shared: once there is a matching stream, its `ctSource` is the source. -/
structure DecryptingRandomAccessStream (σ : Type) where
  primitives        : List StreamingAead
  ciphertextSource  : σ
  associatedData    : Bytes
  attemptedMatching : Bool
  matchingStream    : Option (Σ aead : StreamingAead, Tink.DecryptingRandomAccessStream aead.State σ)

namespace DecryptingRandomAccessStream
variable {σ : Type} [RandomAccessStream σ]

def new (primitives : List StreamingAead) (ciphertextSource : σ) (associatedData : Bytes) :
    DecryptingRandomAccessStream σ :=
  { primitives := primitives, ciphertextSource := ciphertextSource, associatedData := associatedData,
    attemptedMatching := false, matchingStream := none }

/-- The loop over the keys: `PRead(0, 1)` with each. -/
def findMatch (fuel : Nat) (associatedData : Bytes) : List StreamingAead → σ →
    Option (σ × Option (Σ aead : StreamingAead, Tink.DecryptingRandomAccessStream aead.State σ))
  | [], source => some (source, none)
  | aead :: rest, source =>
    match aead.newDecryptingRandomAccessStream source associatedData with
    | .error _ => findMatch fuel associatedData rest source
    | .ok s =>
      match s.pread fuel 0 1 1 with
      | none => none
      | some ((status, _), s) =>
        if Tink.DecryptingRandomAccessStream.okOrOutOfRange status then some (s.ctSource, some ⟨aead, s⟩)
        else findMatch fuel associatedData rest s.ctSource

def getMatchedStream (fuel : Nat) (w : DecryptingRandomAccessStream σ) :
    Option (Except Status (Σ aead : StreamingAead, Tink.DecryptingRandomAccessStream aead.State σ) ×
      DecryptingRandomAccessStream σ) :=
  if w.attemptedMatching then
    match w.matchingStream with
    | some s => some (.ok s, w)
    | none => some (.error ⟨.invalidArgument, "Did not find a decrypter matching the ciphertext stream."⟩, w)
  else
    match findMatch fuel w.associatedData w.primitives w.ciphertextSource with
    | none => none
    | some (source, none) =>
      some (.error ⟨.invalidArgument, "Could not find a decrypter matching the ciphertext stream."⟩,
        { w with attemptedMatching := true, ciphertextSource := source })
    | some (source, some s) =>
      some (.ok s, { w with attemptedMatching := true, ciphertextSource := source, matchingStream := some s })

/-- `PRead` with a buffer of `allocatedSize` bytes that holds `destBuffer`.  The arguments are checked before the buffer
is touched. -/
def pread (fuel : Nat) (w : DecryptingRandomAccessStream σ) (position count : Int) (allocatedSize : Nat)
    (destBuffer : Bytes) : Option ((Except Status Unit × Bytes) × DecryptingRandomAccessStream σ) :=
  if count < 0 then some ((.error ⟨.invalidArgument, "count cannot be negative"⟩, destBuffer), w)
  else if count > allocatedSize then some ((.error ⟨.invalidArgument, "buffer too small"⟩, destBuffer), w)
  else if position < 0 then some ((.error ⟨.invalidArgument, "position cannot be negative"⟩, destBuffer), w)
  else
    match w.getMatchedStream fuel with
    | none => none
    | some (.error e, w) => some ((.error e, destBuffer), w)
    | some (.ok ⟨aead, s⟩, w) =>
      match s.pread fuel position count allocatedSize with
      | none => none
      | some (result, s) => some (result, { w with matchingStream := some ⟨aead, s⟩ })

def size (fuel : Nat) (w : DecryptingRandomAccessStream σ) :
    Option (Except Status Int × DecryptingRandomAccessStream σ) :=
  match w.getMatchedStream fuel with
  | none => none
  | some (.error e, w) => some (.error e, w)
  | some (.ok ⟨aead, s⟩, w) => some (s.size.1, { w with matchingStream := some ⟨aead, s.size.2⟩ })

end DecryptingRandomAccessStream

end Streamingaead

/-! ## What a caller sees -/

inductive RandomAccessOp
  | pread (position count : Int) (allocatedSize : Nat) (destBuffer : Bytes)
  | size

/-- The buffer says something only after OK and OUT_OF_RANGE. -/
def seen (result : Except Status Unit × Bytes) : Except Status Unit × Bytes :=
  if DecryptingRandomAccessStream.okOrOutOfRange result.1 then result else (result.1, [])

inductive RandomAccessAnswer
  | pread (result : Except Status Unit × Bytes)
  | size (result : Except Status Int)

/-- A call and what is seen of its result; `none` is a call that takes more than `fuel` rounds. -/
def DecryptingRandomAccessStream.call {κ σ : Type} [RandomAccessStream σ] (fuel : Nat)
    (s : DecryptingRandomAccessStream κ σ) :
    RandomAccessOp → Option (RandomAccessAnswer × DecryptingRandomAccessStream κ σ)
  | .pread position count allocatedSize _ =>
    (s.pread fuel position count allocatedSize).map fun r => (.pread (seen r.1), r.2)
  | .size => some (.size s.size.1, s.size.2)

def Streamingaead.DecryptingRandomAccessStream.call {σ : Type} [RandomAccessStream σ] (fuel : Nat)
    (w : Streamingaead.DecryptingRandomAccessStream σ) :
    RandomAccessOp → Option (RandomAccessAnswer × Streamingaead.DecryptingRandomAccessStream σ)
  | .pread position count allocatedSize destBuffer =>
    (w.pread fuel position count allocatedSize destBuffer).map fun r => (.pread (seen r.1), r.2)
  | .size => (w.size fuel).map fun r => (.size r.1, r.2)

/-! ## Sources that answer alike -/

/-- A source whose answers depend on nothing but what it is asked. -/
structure Steady {σ : Type} [RandomAccessStream σ] (read : Nat → Nat → Except Status Unit × Bytes)
    (length : Except Status Nat) (At : σ → Prop) : Prop where
  pread : ∀ {s} (position count : Nat), At s → ∃ s', RandomAccessStream.pread position count s = (read position count, s') ∧
    At s'
  size  : ∀ {s}, At s → ∃ s', RandomAccessStream.size s = (length, s') ∧ At s'

/-- The stream with another source. -/
def DecryptingRandomAccessStream.withSource {κ σ τ : Type} (s : DecryptingRandomAccessStream κ σ) (source : τ) :
    DecryptingRandomAccessStream κ τ :=
  ⟨s.segmentDecrypter, source, s.initialized, s.status, s.headerSize, s.ctOffset, s.ctSegmentSize, s.ptSegmentSize,
    s.ctSegmentOverhead, s.segmentCount, s.ptSize⟩

theorem setSize_withSource {κ σ τ : Type} (s : DecryptingRandomAccessStream κ σ) (source : τ) (ctSize : Nat) :
    (s.withSource source).setSize ctSize = (s.setSize ctSize).withSource source := by
  unfold DecryptingRandomAccessStream.setSize DecryptingRandomAccessStream.withSource
  dsimp only
  generalize (if 0 < ctSize % s.ctSegmentSize then ctSize / s.ctSegmentSize + 1 else ctSize / s.ctSegmentSize) = n
  by_cases hmany : 2 ^ 32 - 1 < (n : Int) - 1
  · simp only [hmany, if_true]
  · simp only [hmany, if_false]
    by_cases hshort : s.ctSegmentOverhead * n + s.ctOffset + s.headerSize > ctSize
    · simp only [hshort, if_true]
    · simp only [hshort, if_false]

theorem setSize_ctSource {κ σ : Type} (s : DecryptingRandomAccessStream κ σ) (ctSize : Nat) :
    (s.setSize ctSize).ctSource = s.ctSource := by
  unfold DecryptingRandomAccessStream.setSize
  simp only
  generalize (if 0 < ctSize % s.ctSegmentSize then ctSize / s.ctSegmentSize + 1 else ctSize / s.ctSegmentSize) = n
  by_cases hmany : 2 ^ 32 - 1 < (n : Int) - 1
  · simp only [hmany, if_true]
  · simp only [hmany, if_false]
    by_cases hshort : s.ctSegmentOverhead * n + s.ctOffset + s.headerSize > ctSize
    · simp only [hshort, if_true]
    · simp only [hshort, if_false]

section Siblings
variable {κ σ τ : Type} {At₁ : σ → Prop} {At₂ : τ → Prop}

/-- **Streams that differ in their sources only.** -/
structure Siblings (At₁ : σ → Prop) (At₂ : τ → Prop) (s : DecryptingRandomAccessStream κ σ)
    (t : DecryptingRandomAccessStream κ τ) : Prop where
  same : t = s.withSource t.ctSource
  at₁  : At₁ s.ctSource
  at₂  : At₂ t.ctSource

theorem Siblings.trans {ρ : Type} {At₃ : ρ → Prop} {s : DecryptingRandomAccessStream κ σ}
    {t : DecryptingRandomAccessStream κ τ} {r : DecryptingRandomAccessStream κ ρ} (h : Siblings At₁ At₂ s t)
    (h' : Siblings At₂ At₃ t r) : Siblings At₁ At₃ s r := by
  refine ⟨?_, h.at₁, h'.at₂⟩
  rw [h'.same, h.same]
  rfl

theorem Siblings.symm {s : DecryptingRandomAccessStream κ σ} {t : DecryptingRandomAccessStream κ τ}
    (h : Siblings At₁ At₂ s t) : Siblings At₂ At₁ t s := by
  refine ⟨?_, h.at₂, h.at₁⟩
  rw [h.same]
  rfl

theorem Siblings.new (aead : StreamingAead) (associatedData : Bytes) {source : σ} {own : τ} (hat : At₁ source)
    (hown : At₂ own) :
    (∃ e, aead.newDecryptingRandomAccessStream source associatedData = .error e ∧
      aead.newDecryptingRandomAccessStream own associatedData = .error e) ∨
    (∃ s t, aead.newDecryptingRandomAccessStream source associatedData = .ok s ∧
      aead.newDecryptingRandomAccessStream own associatedData = .ok t ∧ Siblings At₁ At₂ s t) := by
  unfold StreamingAead.newDecryptingRandomAccessStream
  cases aead.newSegmentDecrypter associatedData with
  | error e => exact .inl ⟨e, rfl, rfl⟩
  | ok d =>
    show (∃ e, DecryptingRandomAccessStream.new d source = .error e ∧
        DecryptingRandomAccessStream.new d own = .error e) ∨
      (∃ s t, DecryptingRandomAccessStream.new d source = .ok s ∧
        DecryptingRandomAccessStream.new d own = .ok t ∧ Siblings At₁ At₂ s t)
    unfold DecryptingRandomAccessStream.new
    dsimp only
    split
    · exact .inl ⟨_, rfl, rfl⟩
    · exact .inr ⟨_, _, rfl, rfl, rfl, hat, hown⟩

theorem Siblings.setSize {s : DecryptingRandomAccessStream κ σ} {t : DecryptingRandomAccessStream κ τ}
    (h : Siblings At₁ At₂ s t) (ctSize : Nat) : Siblings At₁ At₂ (s.setSize ctSize) (t.setSize ctSize) := by
  refine ⟨?_, ?_, ?_⟩
  · rw [setSize_ctSource, ← setSize_withSource, ← h.same]
  · rw [setSize_ctSource]
    exact h.at₁
  · rw [setSize_ctSource]
    exact h.at₂

theorem Siblings.fields {s : DecryptingRandomAccessStream κ σ} {t : DecryptingRandomAccessStream κ τ}
    (h : Siblings At₁ At₂ s t) : t.status = s.status ∧ t.ptSize = s.ptSize ∧ t.ctSegmentSize = s.ctSegmentSize ∧
      (∀ position, t.getSegmentNr position = s.getSegmentNr position) ∧
      (∀ position, t.getPlaintextOffset position = s.getPlaintextOffset position) := by
  rw [h.same]
  exact ⟨rfl, rfl, rfl, fun _ => rfl, fun _ => rfl⟩

variable [RandomAccessStream σ] [RandomAccessStream τ] {read : Nat → Nat → Except Status Unit × Bytes}
  {length : Except Status Nat}

theorem Siblings.initializeIfNeeded (h₁ : Steady read length At₁) (h₂ : Steady read length At₂)
    {s : DecryptingRandomAccessStream κ σ} {t : DecryptingRandomAccessStream κ τ} (h : Siblings At₁ At₂ s t) :
    Siblings At₁ At₂ s.initializeIfNeeded t.initializeIfNeeded := by
  obtain ⟨hsame, hat₁, hat₂⟩ := h
  generalize t.ctSource = src at hsame hat₂
  subst hsame
  obtain ⟨d, src₁, initialized, status, headerSize, ctOffset, ctSegmentSize, ptSegmentSize, overhead, count, ptSize⟩ := s
  unfold DecryptingRandomAccessStream.initializeIfNeeded
  simp only [DecryptingRandomAccessStream.withSource]
  cases status with
  | ok u => exact ⟨rfl, hat₁, hat₂⟩
  | error e =>
    dsimp only
    by_cases hcode : e.code ≠ .unavailable
    · rw [if_pos hcode, if_pos hcode]
      exact ⟨rfl, hat₁, hat₂⟩
    · rw [if_neg hcode, if_neg hcode]
      by_cases h0 : d.headerSize = 0
      · simp only [h0, if_true]
        exact ⟨rfl, hat₁, hat₂⟩
      · simp only [h0, if_false]
        obtain ⟨src₁', hread₁, hat₁'⟩ := h₁.pread d.ciphertextOffset d.headerSize hat₁
        obtain ⟨src₂', hread₂, hat₂'⟩ := h₂.pread d.ciphertextOffset d.headerSize hat₂
        simp only [hread₁, hread₂]
        rcases read d.ciphertextOffset d.headerSize with ⟨e' | u, buf⟩
        · exact ⟨rfl, hat₁', hat₂'⟩
        · cases d.init initialized (resize buf d.headerSize) with
          | error e' => exact ⟨rfl, hat₁', hat₂'⟩
          | ok k =>
            obtain ⟨src₁'', hsize₁, hat₁''⟩ := h₁.size hat₁'
            obtain ⟨src₂'', hsize₂, hat₂''⟩ := h₂.size hat₂'
            simp only [hsize₁, hsize₂]
            cases length with
            | error e' => exact ⟨rfl, hat₁'', hat₂''⟩
            | ok ctSize =>
              refine Siblings.setSize ⟨rfl, hat₁'', hat₂''⟩ ctSize

theorem Siblings.readAndDecryptSegment (h₁ : Steady read length At₁) (h₂ : Steady read length At₂)
    {s : DecryptingRandomAccessStream κ σ} {t : DecryptingRandomAccessStream κ τ} (h : Siblings At₁ At₂ s t)
    (segmentNr : Nat) (ptSegment : Bytes) :
    ∃ status p s' t', s.readAndDecryptSegment segmentNr ptSegment = (status, p, s') ∧
      t.readAndDecryptSegment segmentNr ptSegment = (status, p, t') ∧ Siblings At₁ At₂ s' t' ∧
      Siblings At₁ At₁ s s' := by
  obtain ⟨hsame, hat₁, hat₂⟩ := h
  generalize t.ctSource = src at hsame hat₂
  subst hsame
  obtain ⟨d, src₁, initialized, status, headerSize, ctOffset, ctSegmentSize, ptSegmentSize, overhead, count, ptSize⟩ := s
  unfold DecryptingRandomAccessStream.readAndDecryptSegment DecryptingRandomAccessStream.withSource
  dsimp only
  by_cases hbig : 2 ^ 63 ≤ segmentNr * ctSegmentSize
  · rw [if_pos hbig, if_pos hbig]
    exact ⟨_, _, _, _, rfl, rfl, ⟨rfl, hat₁, hat₂⟩, ⟨rfl, hat₁, hat₁⟩⟩
  · rw [if_neg hbig, if_neg hbig]
    generalize (if segmentNr = 0 then ctOffset + headerSize else segmentNr * ctSegmentSize) = ctPosition
    generalize (if segmentNr = 0 then ctSegmentSize - ctPosition else ctSegmentSize) = segmentSize
    obtain ⟨src₁', hread₁, hat₁'⟩ := h₁.pread ctPosition segmentSize hat₁
    obtain ⟨src₂', hread₂, hat₂'⟩ := h₂.pread ctPosition segmentSize hat₂
    simp only [hread₁, hread₂]
    rcases read ctPosition segmentSize with ⟨preadStatus, buf⟩
    have hdecrypt : DecryptingRandomAccessStream.decryptSegment ⟨d, src₂', initialized, status, headerSize, ctOffset,
        ctSegmentSize, ptSegmentSize, overhead, count, ptSize⟩ buf segmentNr (decide (segmentNr + 1 = count)) =
        DecryptingRandomAccessStream.decryptSegment ⟨d, src₁', initialized, status, headerSize, ctOffset,
        ctSegmentSize, ptSegmentSize, overhead, count, ptSize⟩ buf segmentNr (decide (segmentNr + 1 = count)) := rfl
    simp only [hdecrypt]
    cases DecryptingRandomAccessStream.decryptSegment ⟨d, src₁', initialized, status, headerSize, ctOffset,
        ctSegmentSize, ptSegmentSize, overhead, count, ptSize⟩ buf segmentNr (decide (segmentNr + 1 = count)) with
    | ok p =>
      cases preadStatus with
      | ok u => exact ⟨_, _, _, _, rfl, rfl, ⟨rfl, hat₁', hat₂'⟩, ⟨rfl, hat₁, hat₁'⟩⟩
      | error e =>
        by_cases hlast : (decide (segmentNr + 1 = count) && decide (0 < buf.length) && decide (e.code = .outOfRange)) = true
        · simp only [hlast, if_true]
          exact ⟨_, _, _, _, rfl, rfl, ⟨rfl, hat₁', hat₂'⟩, ⟨rfl, hat₁, hat₁'⟩⟩
        · simp only [hlast]
          exact ⟨_, _, _, _, rfl, rfl, ⟨rfl, hat₁', hat₂'⟩, ⟨rfl, hat₁, hat₁'⟩⟩
    | error e' =>
      cases preadStatus with
      | ok u => exact ⟨_, _, _, _, rfl, rfl, ⟨rfl, hat₁', hat₂'⟩, ⟨rfl, hat₁, hat₁'⟩⟩
      | error e =>
        by_cases hlast : (decide (segmentNr + 1 = count) && decide (0 < buf.length) && decide (e.code = .outOfRange)) = true
        · simp only [hlast, if_true]
          exact ⟨_, _, _, _, rfl, rfl, ⟨rfl, hat₁', hat₂'⟩, ⟨rfl, hat₁, hat₁'⟩⟩
        · simp only [hlast]
          exact ⟨_, _, _, _, rfl, rfl, ⟨rfl, hat₁', hat₂'⟩, ⟨rfl, hat₁, hat₁'⟩⟩

/-- The loop changes nothing but the source, and answers the same on siblings. -/
theorem Siblings.preadLoop (h₁ : Steady read length At₁) (h₂ : Steady read length At₂) (position count allocatedSize : Nat) :
    ∀ (fuel : Nat) {s : DecryptingRandomAccessStream κ σ} {t : DecryptingRandomAccessStream κ τ},
      Siblings At₁ At₂ s t → ∀ (ptSegment : Bytes) (ptOffset : Nat) (dest : Bytes),
        Trace.Agree (fun s' t' => Siblings At₁ At₂ s' t' ∧ Siblings At₁ At₁ s s')
          (DecryptingRandomAccessStream.preadLoop position count allocatedSize fuel s ptSegment ptOffset dest)
          (DecryptingRandomAccessStream.preadLoop position count allocatedSize fuel t ptSegment ptOffset dest)
  | 0, _, _, _, _, _, _ => .none
  | fuel + 1, s, t, h, ptSegment, ptOffset, dest => by
    have hself : Siblings At₁ At₁ s s := ⟨rfl, h.at₁, h.at₁⟩
    obtain ⟨status, p, s', t', hs, ht, hst, hss⟩ := h.readAndDecryptSegment h₁ h₂ (s.getSegmentNr (position + dest.length))
      ptSegment
    unfold DecryptingRandomAccessStream.preadLoop
    simp only [h.fields.2.2.2.1, hs, ht]
    split
    · exact .some ⟨h, hself⟩
    · split
      · exact .some ⟨hst, hss⟩
      · split
        · exact .some ⟨hst, hss⟩
        · split
          · exact .some ⟨hst, hss⟩
          · exact (Siblings.preadLoop h₁ h₂ position count allocatedSize fuel hst _ _ _).mono
              (fun s'' t'' h => ⟨h.1, hss.trans h.2⟩)

theorem initializeIfNeeded_of_settled {s : DecryptingRandomAccessStream κ σ}
    (h : ∀ e, s.status = .error e → e.code ≠ .unavailable) : s.initializeIfNeeded = s := by
  unfold DecryptingRandomAccessStream.initializeIfNeeded
  cases hst : s.status with
  | ok u => rfl
  | error e => exact if_pos (h e hst)

theorem size_of_status_ok {s : DecryptingRandomAccessStream κ σ} (h : s.status = .ok ()) : s.size = (.ok s.ptSize, s) := by
  unfold DecryptingRandomAccessStream.size
  have hinit : s.initializeIfNeeded = s := initializeIfNeeded_of_settled (fun e he => by rw [h] at he; cases he)
  simp only [hinit, h]

theorem Siblings.preadAndDecrypt (h₁ : Steady read length At₁) (h₂ : Steady read length At₂)
    {s : DecryptingRandomAccessStream κ σ} {t : DecryptingRandomAccessStream κ τ} (h : Siblings At₁ At₂ s t)
    (hok : s.status = .ok ()) (fuel : Nat) (position count : Int) (allocatedSize : Nat) :
    Trace.Agree (fun s' t' => Siblings At₁ At₂ s' t' ∧ Siblings At₁ At₁ s s')
      (s.preadAndDecrypt fuel position count allocatedSize) (t.preadAndDecrypt fuel position count allocatedSize) := by
  have hself : Siblings At₁ At₁ s s := ⟨rfl, h.at₁, h.at₁⟩
  obtain ⟨hstatus, hptSize, hctSegmentSize, -, hoffset⟩ := h.fields
  unfold DecryptingRandomAccessStream.preadAndDecrypt
  simp only [size_of_status_ok hok, size_of_status_ok (hstatus.trans hok), hptSize, hctSegmentSize, hoffset]
  split
  · exact .some ⟨h, hself⟩
  · split
    · exact .some ⟨h, hself⟩
    · split
      · exact .some ⟨h, hself⟩
      · split
        · exact .some ⟨h, hself⟩
        · exact h.preadLoop h₁ h₂ _ _ _ _ _ _ _

/-- **Streams that are siblings once their headers were read.** -/
def Alike (At₁ : σ → Prop) (At₂ : τ → Prop) (s : DecryptingRandomAccessStream κ σ)
    (t : DecryptingRandomAccessStream κ τ) : Prop :=
  Siblings At₁ At₂ s.initializeIfNeeded t.initializeIfNeeded

theorem Alike.pread_of_valid (h₁ : Steady read length At₁) (h₂ : Steady read length At₂)
    {s : DecryptingRandomAccessStream κ σ} {t : DecryptingRandomAccessStream κ τ} (h : Alike At₁ At₂ s t) (fuel : Nat)
    {position count : Int} {allocatedSize : Nat} (hcount : ¬ count < 0) (hsize : ¬ count > allocatedSize)
    (hposition : ¬ position < 0) :
    Trace.Agree (fun s' t' => Siblings At₁ At₂ s' t' ∧ Siblings At₁ At₁ s.initializeIfNeeded s')
      (s.pread fuel position count allocatedSize) (t.pread fuel position count allocatedSize) := by
  have hsib : Siblings At₁ At₂ s.initializeIfNeeded t.initializeIfNeeded := h
  have hself : Siblings At₁ At₁ s.initializeIfNeeded s.initializeIfNeeded := ⟨rfl, hsib.at₁, hsib.at₁⟩
  obtain ⟨hstatus, hptSize, -⟩ := hsib.fields
  rw [Tink.pread_of_valid fuel s hcount hsize hposition, Tink.pread_of_valid fuel t hcount hsize hposition, hstatus,
    hptSize]
  cases hst : s.initializeIfNeeded.status with
  | error e => exact .some ⟨hsib, hself⟩
  | ok u =>
    dsimp only
    split
    · exact .some ⟨hsib, hself⟩
    · exact hsib.preadAndDecrypt h₁ h₂ hst fuel position count allocatedSize

theorem Siblings.alike (h₁ : Steady read length At₁) (h₂ : Steady read length At₂) {s : DecryptingRandomAccessStream κ σ}
    {t : DecryptingRandomAccessStream κ τ} (h : Siblings At₁ At₂ s t) : Alike At₁ At₂ s t :=
  h.initializeIfNeeded h₁ h₂

/-- **Alike streams answer a read the same, and stay alike.** -/
theorem Alike.pread (h₁ : Steady read length At₁) (h₂ : Steady read length At₂) {s : DecryptingRandomAccessStream κ σ}
    {t : DecryptingRandomAccessStream κ τ} (h : Alike At₁ At₂ s t) (fuel : Nat) (position count : Int)
    (allocatedSize : Nat) :
    Trace.Agree (Alike At₁ At₂) (s.pread fuel position count allocatedSize) (t.pread fuel position count allocatedSize) := by
  rcases pread_refused_or_valid position count allocatedSize with ⟨e, hrefused⟩ | ⟨hcount, hsize, hposition⟩
  · rw [hrefused, hrefused]
    exact .some h
  · exact (h.pread_of_valid h₁ h₂ fuel hcount hsize hposition).mono (fun s' t' hsib => hsib.1.alike h₁ h₂)

theorem Alike.size (h₁ : Steady read length At₁) (h₂ : Steady read length At₂) {s : DecryptingRandomAccessStream κ σ}
    {t : DecryptingRandomAccessStream κ τ} (h : Alike At₁ At₂ s t) :
    s.size.1 = t.size.1 ∧ Alike At₁ At₂ s.size.2 t.size.2 := by
  have hsib : Siblings At₁ At₂ s.initializeIfNeeded t.initializeIfNeeded := h
  obtain ⟨hstatus, hptSize, -⟩ := hsib.fields
  unfold DecryptingRandomAccessStream.size
  simp only [hstatus, hptSize]
  cases s.initializeIfNeeded.status with
  | error e => exact ⟨rfl, hsib.alike h₁ h₂⟩
  | ok u => exact ⟨rfl, hsib.alike h₁ h₂⟩

theorem Siblings.trial (h₁ : Steady read length At₁) (h₂ : Steady read length At₂) {s : DecryptingRandomAccessStream κ σ}
    {t : DecryptingRandomAccessStream κ τ} (h : Siblings At₁ At₂ s t) (fuel : Nat) :
    Trace.Agree (fun s' t' => Siblings At₁ At₂ s' t' ∧ Siblings At₁ At₁ s.initializeIfNeeded s')
      (s.pread fuel 0 1 1) (t.pread fuel 0 1 1) :=
  (h.alike h₁ h₂).pread_of_valid h₁ h₂ fuel (by decide) (by decide) (by decide)

/-- A stream that gave its first byte, or the end, is like a new one. -/
theorem Alike.of_trial (h₁ : Steady read length At₁) (h₂ : Steady read length At₂) {s s' : DecryptingRandomAccessStream κ σ}
    {t : DecryptingRandomAccessStream κ τ} (h : Siblings At₁ At₂ s t) {fuel : Nat} {r : Except Status Unit × Bytes}
    (htrial : s.pread fuel 0 1 1 = some (r, s')) (hr : DecryptingRandomAccessStream.okOrOutOfRange r.1 = true) :
    Alike At₁ At₂ s' t := by
  have hsib : Siblings At₁ At₂ s.initializeIfNeeded t.initializeIfNeeded := h.initializeIfNeeded h₁ h₂
  have hagree := h.trial h₁ h₂ fuel
  rw [htrial] at hagree
  obtain ⟨t', -, -, hself⟩ := hagree.exists_of_some
  have hsettled : ∀ e, s'.status = .error e → e.code ≠ .unavailable := by
    intro e he
    rw [hself.fields.1] at he
    rw [Tink.pread_of_valid fuel s (by decide) (by decide) (by decide), he] at htrial
    cases htrial
    have hcode : e.code = .outOfRange := by simpa [DecryptingRandomAccessStream.okOrOutOfRange] using hr
    rw [hcode]
    decide
  unfold Alike
  rw [initializeIfNeeded_of_settled hsettled]
  exact hself.symm.trans hsib

theorem preadAndDecrypt_mono {s : DecryptingRandomAccessStream κ σ} {fuel more : Nat} {position count : Int}
    {allocatedSize : Nat} {r : (Except Status Unit × Bytes) × DecryptingRandomAccessStream κ σ}
    (h : s.preadAndDecrypt fuel position count allocatedSize = some r) :
    s.preadAndDecrypt (fuel + more) position count allocatedSize = some r := by
  unfold DecryptingRandomAccessStream.preadAndDecrypt at h ⊢
  split at h
  · rename_i hinvalid
    rw [if_pos hinvalid]
    exact h
  · rename_i hinvalid
    rw [if_neg hinvalid]
    split at h
    · rename_i hend
      rw [if_pos hend]
      exact h
    · rename_i hend
      rw [if_neg hend]
      dsimp only at h ⊢
      split at h
      · rename_i hlarge
        rw [if_pos hlarge]
        exact h
      · rename_i hlarge
        rw [if_neg hlarge]
        split at h
        · rename_i hzero
          rw [if_pos hzero]
          exact h
        · rename_i hzero
          rw [if_neg hzero]
          exact preadLoop_mono h

/-- More rounds do not change a result. -/
theorem pread_mono {s : DecryptingRandomAccessStream κ σ} {fuel more : Nat} {position count : Int} {allocatedSize : Nat}
    {r : (Except Status Unit × Bytes) × DecryptingRandomAccessStream κ σ}
    (h : s.pread fuel position count allocatedSize = some r) :
    s.pread (fuel + more) position count allocatedSize = some r := by
  rcases pread_refused_or_valid position count allocatedSize with ⟨e, hrefused⟩ | ⟨hcount, hsize, hposition⟩
  · rw [hrefused] at h ⊢
    exact h
  rw [Tink.pread_of_valid _ s hcount hsize hposition] at h ⊢
  cases hst : s.initializeIfNeeded.status with
  | error e =>
    rw [hst] at h
    exact h
  | ok u =>
    rw [hst] at h
    dsimp only at h ⊢
    split at h
    · rename_i hlarge
      rw [if_pos hlarge]
      exact h
    · rename_i hlarge
      rw [if_neg hlarge]
      exact preadAndDecrypt_mono h

end Siblings

/-! ## The loop over the keys -/

section Matching
variable {σ τ : Type} [RandomAccessStream σ] [RandomAccessStream τ] {At : σ → Prop} {At' : τ → Prop}
  {read : Nat → Nat → Except Status Unit × Bytes} {length : Except Status Nat} {associatedData : Bytes} {own : τ}
  {fuel : Nat}

open Streamingaead

/-- The first read of the key's own stream fails, if there is such a stream. -/
def StreamingAead.FailsFirstRead {τ : Type} [RandomAccessStream τ] (aead : StreamingAead) (own : τ)
    (associatedData : Bytes) (fuel : Nat) : Prop :=
  ∀ t, aead.newDecryptingRandomAccessStream own associatedData = .ok t →
    ∃ r t', t.pread fuel 0 1 1 = some (r, t') ∧ Tink.DecryptingRandomAccessStream.okOrOutOfRange r.1 = false

/-- Keys that fail on their own are skipped. -/
theorem findMatchRead_append (h₁ : Steady read length At) (h₂ : Steady read length At') (hown : At' own) :
    ∀ (before rest : List StreamingAead), (∀ aead ∈ before, aead.FailsFirstRead own associatedData fuel) →
      ∀ {source : σ}, At source → ∃ source', At source' ∧
        Streamingaead.DecryptingRandomAccessStream.findMatch fuel associatedData (before ++ rest) source =
          Streamingaead.DecryptingRandomAccessStream.findMatch fuel associatedData rest source'
  | [], rest, _, source, hat => ⟨source, hat, rfl⟩
  | aead :: before, rest, hfail, source, hat => by
    have hrest : ∀ aead ∈ before, aead.FailsFirstRead own associatedData fuel :=
      fun aead h => hfail aead (List.mem_cons_of_mem _ h)
    rw [List.cons_append, Streamingaead.DecryptingRandomAccessStream.findMatch]
    rcases Siblings.new aead associatedData hat hown with ⟨e, he, -⟩ | ⟨s, t, hs, ht, hsib⟩
    · simp only [he]
      exact findMatchRead_append h₁ h₂ hown before rest hrest hat
    · obtain ⟨r, t', hread, hr⟩ := hfail aead (by simp) t ht
      have hagree := hsib.symm.trial h₂ h₁ fuel
      rw [hread] at hagree
      obtain ⟨s', hs', hsib', -⟩ := hagree.exists_of_some
      simp only [hs, hs', hr, Bool.false_eq_true, if_false]
      exact findMatchRead_append h₁ h₂ hown before rest hrest hsib'.at₂

/-- The key that matches is from then on like its own stream. -/
theorem findMatchRead_of_match (h₁ : Steady read length At) (h₂ : Steady read length At') (hown : At' own)
    {aead : StreamingAead} {t : Tink.DecryptingRandomAccessStream aead.State τ}
    (ht : aead.newDecryptingRandomAccessStream own associatedData = .ok t)
    (hmatch : ∃ r t', t.pread fuel 0 1 1 = some (r, t') ∧
      Tink.DecryptingRandomAccessStream.okOrOutOfRange r.1 = true) (rest : List StreamingAead) {source : σ}
    (hat : At source) :
    ∃ source' s, Streamingaead.DecryptingRandomAccessStream.findMatch fuel associatedData (aead :: rest) source =
      some (source', some ⟨aead, s⟩) ∧ Alike At At' s t := by
  obtain ⟨r, t₁, hread, hr⟩ := hmatch
  rcases Siblings.new aead associatedData hat hown with ⟨e, -, he⟩ | ⟨s, t', hs, ht', hsib⟩
  · rw [ht] at he
    cases he
  · obtain rfl : t = t' := by
      rw [ht] at ht'
      cases ht'
      rfl
    have hagree := hsib.symm.trial h₂ h₁ fuel
    rw [hread] at hagree
    obtain ⟨s', hs', -⟩ := hagree.exists_of_some
    rw [Streamingaead.DecryptingRandomAccessStream.findMatch]
    simp only [hs, hs', hr, if_true]
    exact ⟨_, _, rfl, .of_trial h₁ h₂ hsib hs' hr⟩

/-! ## The stream follows the key's own stream -/

/-- The wrapper's stream before its first valid call, or with a stream like the key's own. -/
inductive FollowsRead (At : σ → Prop) (At' : τ → Prop) (primitives : List StreamingAead) (associatedData : Bytes)
    (aead : StreamingAead) (t₀ : Tink.DecryptingRandomAccessStream aead.State τ) :
    Streamingaead.DecryptingRandomAccessStream σ → Tink.DecryptingRandomAccessStream aead.State τ → Prop
  | fresh {source} : At source →
      FollowsRead At At' primitives associatedData aead t₀ ⟨primitives, source, associatedData, false, none⟩ t₀
  | matched {primitives' source associatedData' s t} : Alike At At' s t →
      FollowsRead At At' primitives associatedData aead t₀
        ⟨primitives', source, associatedData', true, some ⟨aead, s⟩⟩ t

/-- A call that gets past the checks has a stream like the key's own. -/
theorem FollowsRead.getMatchedStream (h₁ : Steady read length At) (h₂ : Steady read length At') (hown : At' own)
    {before after : List StreamingAead} {aead : StreamingAead} {t₀ : Tink.DecryptingRandomAccessStream aead.State τ}
    (ht : aead.newDecryptingRandomAccessStream own associatedData = .ok t₀)
    (hmatch : ∃ r t', t₀.pread fuel 0 1 1 = some (r, t') ∧
      Tink.DecryptingRandomAccessStream.okOrOutOfRange r.1 = true)
    (hfail : ∀ aead ∈ before, aead.FailsFirstRead own associatedData fuel)
    {w : Streamingaead.DecryptingRandomAccessStream σ} {t : Tink.DecryptingRandomAccessStream aead.State τ}
    (h : FollowsRead At At' (before ++ aead :: after) associatedData aead t₀ w t) :
    ∃ s primitives' source associatedData', w.getMatchedStream fuel =
      some (.ok ⟨aead, s⟩, ⟨primitives', source, associatedData', true, some ⟨aead, s⟩⟩) ∧ Alike At At' s t := by
  cases h with
  | @fresh source hat =>
    obtain ⟨source₁, hat₁, hskip⟩ := findMatchRead_append h₁ h₂ hown before (aead :: after) hfail hat
    obtain ⟨source₂, s, hfind, halike⟩ := findMatchRead_of_match h₁ h₂ hown ht hmatch after hat₁
    rw [hfind] at hskip
    unfold Streamingaead.DecryptingRandomAccessStream.getMatchedStream
    simp only [Bool.false_eq_true, if_false, hskip]
    exact ⟨s, _, _, _, rfl, halike⟩
  | @matched primitives' source associatedData' s t halike => exact ⟨s, _, _, _, rfl, halike⟩

theorem FollowsRead.call (h₁ : Steady read length At) (h₂ : Steady read length At') (hown : At' own)
    {before after : List StreamingAead} {aead : StreamingAead} {t₀ : Tink.DecryptingRandomAccessStream aead.State τ}
    (ht : aead.newDecryptingRandomAccessStream own associatedData = .ok t₀)
    (hmatch : ∃ r t', t₀.pread fuel 0 1 1 = some (r, t') ∧
      Tink.DecryptingRandomAccessStream.okOrOutOfRange r.1 = true)
    (hfail : ∀ aead ∈ before, aead.FailsFirstRead own associatedData fuel)
    {w : Streamingaead.DecryptingRandomAccessStream σ} {t : Tink.DecryptingRandomAccessStream aead.State τ}
    (op : RandomAccessOp) (h : FollowsRead At At' (before ++ aead :: after) associatedData aead t₀ w t) :
    Trace.Agree (FollowsRead At At' (before ++ aead :: after) associatedData aead t₀) (w.call fuel op) (t.call fuel op) := by
  obtain ⟨s, primitives', source, associatedData', hget, halike⟩ := h.getMatchedStream h₁ h₂ hown ht hmatch hfail
  cases op with
  | size =>
    obtain ⟨hsize, halike'⟩ := halike.size h₁ h₂
    unfold Streamingaead.DecryptingRandomAccessStream.call Tink.DecryptingRandomAccessStream.call
      Streamingaead.DecryptingRandomAccessStream.size
    simp only [hget, Option.map_some, hsize]
    exact .some (.matched halike')
  | pread position count allocatedSize destBuffer =>
    unfold Streamingaead.DecryptingRandomAccessStream.call Tink.DecryptingRandomAccessStream.call
      Streamingaead.DecryptingRandomAccessStream.pread
    dsimp only
    by_cases hcount : count < 0
    · unfold Tink.DecryptingRandomAccessStream.pread
      rw [if_pos hcount, if_pos hcount]
      exact .some h
    · by_cases hsize : count > allocatedSize
      · unfold Tink.DecryptingRandomAccessStream.pread
        rw [if_neg hcount, if_neg hcount, if_pos hsize, if_pos hsize]
        exact .some h
      · by_cases hposition : position < 0
        · unfold Tink.DecryptingRandomAccessStream.pread
          rw [if_neg hcount, if_neg hcount, if_neg hsize, if_neg hsize, if_pos hposition, if_pos hposition]
          exact .some h
        · rw [if_neg hcount, if_neg hsize, if_neg hposition, hget]
          have hagree := halike.pread h₁ h₂ fuel position count allocatedSize
          dsimp only
          generalize s.pread fuel position count allocatedSize = a at hagree
          generalize t.pread fuel position count allocatedSize = b at hagree
          cases hagree with
          | none => exact .none
          | some halike' => exact .some (.matched halike')

/-- **The wrapper's stream answers as the stream of the key that matches.** -/
theorem decryptingRandomAccessStream_follows (h₁ : Steady read length At) (h₂ : Steady read length At') {source : σ}
    (hat : At source) (hown : At' own) {before after : List StreamingAead} {aead : StreamingAead}
    {t : Tink.DecryptingRandomAccessStream aead.State τ}
    (ht : aead.newDecryptingRandomAccessStream own associatedData = .ok t)
    (hmatch : ∃ r t', t.pread fuel 0 1 1 = some (r, t') ∧
      Tink.DecryptingRandomAccessStream.okOrOutOfRange r.1 = true)
    (hfail : ∀ aead ∈ before, aead.FailsFirstRead own associatedData fuel) (more : Nat) (calls : List RandomAccessOp) :
    Trace.answers (Streamingaead.DecryptingRandomAccessStream.call (fuel + more))
        (.new (before ++ aead :: after) source associatedData) calls =
      Trace.answers (Tink.DecryptingRandomAccessStream.call (fuel + more)) t calls := by
  have hmatch' : ∃ r t', t.pread (fuel + more) 0 1 1 = some (r, t') ∧
      Tink.DecryptingRandomAccessStream.okOrOutOfRange r.1 = true := by
    obtain ⟨r, t', hread, hr⟩ := hmatch
    exact ⟨r, t', pread_mono hread, hr⟩
  have hfail' : ∀ aead ∈ before, aead.FailsFirstRead own associatedData (fuel + more) := by
    intro aead haead t ht
    obtain ⟨r, t', hread, hr⟩ := hfail aead haead t ht
    exact ⟨r, t', pread_mono hread, hr⟩
  exact Trace.answers_eq (fun _ _ op h => FollowsRead.call h₁ h₂ hown ht hmatch' hfail' op h) calls (.fresh hat)

/-- The call failed. -/
def RandomAccessAnswer.IsError : RandomAccessAnswer → Prop
  | .pread result => ∃ e, result.1 = .error e
  | .size result => ∃ e, result = .error e

/-- **A ciphertext of no key**: every call fails. -/
theorem decryptingRandomAccessStream_noMatch (h₁ : Steady read length At) (h₂ : Steady read length At') {source : σ}
    (hat : At source) (hown : At' own) {primitives : List StreamingAead}
    (hfail : ∀ aead ∈ primitives, aead.FailsFirstRead own associatedData fuel) (calls : List RandomAccessOp) :
    let answers := Trace.answers (Streamingaead.DecryptingRandomAccessStream.call fuel)
      (.new primitives source associatedData) calls
    answers.length = calls.length ∧ ∀ o ∈ answers, o.IsError := by
  refine Trace.forall_answers
    (I := fun w => w.matchingStream = none ∧ (w.attemptedMatching = true ∨ w = .new primitives source associatedData))
    ?_ calls ⟨rfl, .inr rfl⟩
  rintro w op ⟨hnone, hw⟩
  have hget : ∃ e w', w.getMatchedStream fuel = some (.error e, w') ∧ w'.matchingStream = none ∧
      w'.attemptedMatching = true := by
    unfold Streamingaead.DecryptingRandomAccessStream.getMatchedStream
    rcases hw with hattempted | rfl
    · rw [if_pos hattempted, hnone]
      exact ⟨_, w, rfl, hnone, hattempted⟩
    · obtain ⟨source', -, hfind⟩ := findMatchRead_append h₁ h₂ hown primitives [] hfail hat
      rw [List.append_nil] at hfind
      simp only [Streamingaead.DecryptingRandomAccessStream.new, hfind, Bool.false_eq_true, if_false,
        Streamingaead.DecryptingRandomAccessStream.findMatch]
      exact ⟨_, _, rfl, rfl, rfl⟩
  obtain ⟨e, w', hget, hnone', hattempted'⟩ := hget
  cases op with
  | size =>
    unfold Streamingaead.DecryptingRandomAccessStream.call Streamingaead.DecryptingRandomAccessStream.size
    simp only [hget, Option.map_some]
    exact ⟨_, _, rfl, ⟨e, rfl⟩, hnone', .inl hattempted'⟩
  | pread position count allocatedSize destBuffer =>
    have hseen : ∀ (e : Status) (bs : Bytes), RandomAccessAnswer.IsError (.pread (seen (.error e, bs))) := by
      intro e bs
      unfold seen
      split
      · exact ⟨e, rfl⟩
      · exact ⟨e, rfl⟩
    unfold Streamingaead.DecryptingRandomAccessStream.call Streamingaead.DecryptingRandomAccessStream.pread
    dsimp only
    split
    · exact ⟨_, _, rfl, hseen _ _, hnone, hw⟩
    · split
      · exact ⟨_, _, rfl, hseen _ _, hnone, hw⟩
      · split
        · exact ⟨_, _, rfl, hseen _ _, hnone, hw⟩
        · rw [hget]
          exact ⟨_, _, rfl, hseen _ _, hnone', .inl hattempted'⟩

end Matching

/-! ## Both streams of the wrapper -/

/-- **Key matching.**  Where the own stream of the key `aead` gives a first buffer and those of the keys before it do not,
the wrapper's streams answer every sequence of calls as the own streams of `aead` do, whatever was read for the other
keys; where no key gives one, every call fails.  The sequential stream must be able to count the bytes it buffers for the
keys it tries. -/
theorem streamingAead_keyMatching {σ τ ρ υ : Type} [PositionedStream σ] [InputStream τ] [RandomAccessStream ρ]
    [RandomAccessStream υ] (before after : List StreamingAead) (aead : StreamingAead) (associatedData : Bytes) :
    (∀ (C : Bytes) (At : σ → Cursor → Prop) (At' : τ → Cursor → Prop) (source : σ) (own : τ) (l last : Nat),
      Supplies C At (fun _ => False) → ReadsFrom C At' → At source ⟨0, l⟩ → At' own ⟨0, last⟩ →
      (∀ t, aead.newDecryptingStream own associatedData = .ok t → IsMatch t.next.1 →
        (∀ other ∈ before, other.FailsFirst own associatedData) →
        (∀ tried ∈ before ++ [aead], FitsBuffer source (tried.firstReads associatedData C)) → ∀ calls,
          Trace.answers DecryptingInputStream.call (.new (before ++ aead :: after) source associatedData) calls =
            Trace.answers DecryptingStream.call t calls) ∧
      ((∀ other ∈ before ++ aead :: after, other.FailsFirst own associatedData) →
        (∀ tried ∈ before ++ aead :: after, FitsBuffer source (tried.firstReads associatedData C)) → ∀ calls,
        let answers := Trace.answers DecryptingInputStream.call (.new (before ++ aead :: after) source associatedData) calls
        answers.length = calls.length ∧
          ∀ o ∈ answers, ∀ result, o.1 = some result → result = .error DecryptingInputStream.noMatch)) ∧
    (∀ (read : Nat → Nat → Except Status Unit × Bytes) (length : Except Status Nat) (At : ρ → Prop) (At' : υ → Prop)
      (source : ρ) (own : υ) (fuel more : Nat),
      Steady read length At → Steady read length At' → At source → At' own →
      (∀ t, aead.newDecryptingRandomAccessStream own associatedData = .ok t →
        (∃ r t', t.pread fuel 0 1 1 = some (r, t') ∧ DecryptingRandomAccessStream.okOrOutOfRange r.1 = true) →
        (∀ other ∈ before, other.FailsFirstRead own associatedData fuel) → ∀ calls,
          Trace.answers (Streamingaead.DecryptingRandomAccessStream.call (fuel + more))
              (.new (before ++ aead :: after) source associatedData) calls =
            Trace.answers (DecryptingRandomAccessStream.call (fuel + more)) t calls) ∧
      ((∀ other ∈ before ++ aead :: after, other.FailsFirstRead own associatedData fuel) → ∀ calls,
        let answers := Trace.answers (Streamingaead.DecryptingRandomAccessStream.call fuel)
          (.new (before ++ aead :: after) source associatedData) calls
        answers.length = calls.length ∧ ∀ o ∈ answers, o.IsError)) := by
  constructor
  · intro C At At' source own l last hs hr hat hown
    constructor
    · intro t ht hmatch hfail hfits calls
      exact decryptingInputStream_follows hs hr hat hown ht hmatch hfail hfits calls
    · intro hfail hfits calls
      exact decryptingInputStream_noMatch hs hr hat hown hfail hfits calls
  · intro read length At At' source own fuel more h₁ h₂ hat hown
    constructor
    · intro t ht hmatch hfail calls
      exact decryptingRandomAccessStream_follows h₁ h₂ hat hown ht hmatch hfail more calls
    · intro hfail calls
      exact decryptingRandomAccessStream_noMatch h₁ h₂ hat hown hfail calls

/-! ## Two keys -/

/-- A key that decrypts what `taggingEncrypter` makes. -/
def taggingAead : StreamingAead := ⟨Unit, fun _ => .ok (taggingDecrypter 1 4)⟩

/-- A key with larger segments and a longer header, which it never accepts. -/
def refusingAead : StreamingAead :=
  ⟨Unit, fun _ => .ok { taggingDecrypter 3 9 with init := fun _ _ => .error ⟨.invalidArgument, "wrong key"⟩ }⟩

theorem FileSource.steady (C : Bytes) : Steady (fun position count => (RandomAccessStream.pread position count
    (FileSource.mk C)).1) (.ok C.length) (fun s : FileSource => s = ⟨C⟩) where
  pread := by
    rintro s position count rfl
    refine ⟨⟨C⟩, ?_, rfl⟩
    simp only [RandomAccessStream.pread]
    split
    · rfl
    · split
      · rfl
      · rfl
  size := by
    rintro s rfl
    exact ⟨⟨C⟩, rfl, rfl⟩

/-- The ciphertext of the one segment `[1, 2]`. -/
def shortCiphertext : Bytes := [7, 1, 2, 0, 1]

theorem shortCiphertext_start :
    ChunkedSource.At shortCiphertext (ChunkedSource.start chunksOfThree shortCiphertext) ⟨0, 0⟩ := ⟨rfl, rfl, rfl⟩

theorem refusingAead_failsFirst :
    refusingAead.FailsFirst (ChunkedSource.start chunksOfThree shortCiphertext) [] := by
  intro t ht
  cases ht
  obtain ⟨hfull, -⟩ := readFromStream_eq (ChunkedSource.readsFrom _).delivers (show 0 < 3 by decide) shortCiphertext_start
  obtain ⟨s, last, hread, -⟩ := hfull (by decide)
  refine ⟨⟨.invalidArgument, "wrong key"⟩, ?_, by decide⟩
  unfold DecryptingStream.next
  simp only [taggingDecrypter, hread]

theorem taggingAead_first : ∃ t, taggingAead.newDecryptingStream (ChunkedSource.start chunksOfThree shortCiphertext) [] =
    .ok t ∧ t.next.1 = .ok [1, 2] := by
  refine ⟨_, rfl, ?_⟩
  obtain ⟨hfull, -⟩ := readFromStream_eq (ChunkedSource.readsFrom _).delivers (show 0 < 1 by decide) shortCiphertext_start
  obtain ⟨s, last, hheader, hat⟩ := hfull (by decide)
  obtain ⟨-, hshort⟩ := readFromStream_eq (ChunkedSource.readsFrom _).delivers (show 0 < 5 by decide) hat
  obtain ⟨e, s', hsegment, hcode, -⟩ := hshort (show 5 < 1 + 5 by decide)
  have hdecrypt : DecryptingStream.readAndDecrypt ⟨taggingDecrypter 1 4, s, List.replicate 5 0, [], 0, 0, some (), false, 0,
      0, .ok ()⟩ () 5 = ⟨taggingDecrypter 1 4, s', [1, 2, 0, 1], [1, 2], 0, 0, some (), true, 0, 0, .ok ()⟩ := by
    unfold DecryptingStream.readAndDecrypt
    simp only [hsegment, hcode, if_true]
    rfl
  have hnext := DecryptingStream.next_of_header (taggingDecrypter 1 4) (ChunkedSource.start chunksOfThree shortCiphertext)
    (List.replicate 5 0) [] 0 0 5 0 false hheader (k := ()) rfl
  simp only [List.length_replicate, hdecrypt] at hnext
  exact congrArg Prod.fst hnext

/-- **The key that refuses is tried first, and reads on past the header of the other.** -/
theorem taggingAead_keyMatching :
    (∃ t, taggingAead.newDecryptingStream (ChunkedSource.start chunksOfThree shortCiphertext) [] = .ok t ∧ ∀ calls,
      Trace.answers DecryptingInputStream.call
          (.new [refusingAead, taggingAead] (ChunkedSource.start chunksOfThree shortCiphertext) []) calls =
        Trace.answers DecryptingStream.call t calls) ∧
    (∃ t, taggingAead.newDecryptingRandomAccessStream (FileSource.mk shortCiphertext) [] = .ok t ∧ ∀ reads,
      Trace.answers (Streamingaead.DecryptingRandomAccessStream.call 9)
          (.new [refusingAead, taggingAead] (FileSource.mk shortCiphertext) []) reads =
        Trace.answers (DecryptingRandomAccessStream.call 9) t reads) := by
  obtain ⟨hstream, hrandom⟩ := streamingAead_keyMatching (σ := ChunkedSource) (τ := ChunkedSource) (ρ := FileSource)
    (υ := FileSource) [refusingAead] [] taggingAead []
  obtain ⟨t, ht, hnext⟩ := taggingAead_first
  refine ⟨⟨t, ht, fun calls => ?_⟩, ⟨_, rfl, fun reads => ?_⟩⟩
  · refine (hstream _ _ _ _ _ 0 0 (ChunkedSource.supplies _) (ChunkedSource.readsFrom _) shortCiphertext_start
      shortCiphertext_start).1 t ht (fun e he => ?_) (fun other h => ?_)
      (fun tried _ => fitsBuffer_of_length_lt (ChunkedSource.supplies _) shortCiphertext_start (by decide) _) calls
    · rw [hnext] at he
      cases he
    · obtain rfl : other = refusingAead := by simpa using h
      exact refusingAead_failsFirst
  · refine (hrandom _ _ _ _ _ (FileSource.mk shortCiphertext) 4 5 (FileSource.steady shortCiphertext)
      (FileSource.steady shortCiphertext) rfl rfl).1 _ rfl ⟨_, _, rfl, rfl⟩ (fun other h => ?_) reads
    obtain rfl : other = refusingAead := by simpa using h
    intro t ht
    cases ht
    exact ⟨_, _, rfl, rfl⟩

/-! ## A first key of 2^31 - 1 bytes -/

/-- Buffers of 2^30 bytes. -/
def chunksOfGiB : Chunking where
  size := fun _ => 2 ^ 30
  progress := fun k => ⟨k, Nat.le_refl k, by decide⟩

/-- A key with segments of 2^31 - 1 bytes, none of which it decrypts. -/
def wideAead : StreamingAead :=
  ⟨Unit, fun _ => .ok
    ⟨1, 2 ^ 31 - 2, 2 ^ 31 - 1, 0, fun _ _ => .ok (), fun _ _ _ _ => .error ⟨.invalidArgument, "wrong key"⟩⟩⟩

/-- A key that takes every segment of 4 bytes as it is. -/
def plainAead : StreamingAead := ⟨Unit, fun _ => .ok ⟨1, 4, 4, 0, fun _ _ => .ok (), fun _ ct _ _ => .ok ct⟩⟩

/-- The first `Next` of the key with the wide segments, where both reads succeed. -/
theorem wideAead_next {σ : Type} [InputStream σ] {source source' source'' : σ} {header segment : Bytes}
    {t : DecryptingStream wideAead.State σ} (ht : wideAead.newDecryptingStream source [] = .ok t)
    (hheader : readFromStream source 1 = (.ok (), header, source'))
    (hsegment : readFromStream source' (2 ^ 31 - 2) = (.ok (), segment, source'')) :
    t.next.1 = .error ⟨.invalidArgument, "wrong key"⟩ ∧ t.next.2.ctSource = source'' := by
  obtain ⟨hd, hsrc, -, hct, hinitialized, hstatus, -⟩ := StreamingAead.newDecryptingStream_isNew ht
  have hd : t.segmentDecrypter = ⟨1, 2 ^ 31 - 2, 2 ^ 31 - 1, 0, fun _ _ => .ok (),
      fun _ _ _ _ => .error ⟨.invalidArgument, "wrong key"⟩⟩ := (Except.ok.inj hd).symm
  have hfirst : t.ctBuffer.length = 2 ^ 31 - 2 := by
    rw [hct, hd]
    decide
  rw [← hsrc, ← (show t.segmentDecrypter.headerSize = 1 by rw [hd])] at hheader
  rw [← hfirst] at hsegment
  exact DecryptingStream.next_of_refused hinitialized hstatus hheader (k := ()) (by rw [hd]) hsegment (by simp [hd])

section Wide
variable {C : Bytes}

theorem halves_of_GiB (hlen : C.length = 2 ^ 31) :
    (C.take (2 ^ 30)).length = 2 ^ 30 ∧ (C.drop (2 ^ 30)).length = 2 ^ 30 := by
  rw [List.length_take, List.length_drop]
  omega

theorem chunksOfGiB_next (hlen : C.length = 2 ^ 31) :
    InputStream.next (ChunkedSource.start chunksOfGiB C) = (.ok (C.take (2 ^ 30)), ⟨chunksOfGiB, C, 2 ^ 30, 2 ^ 30, 1⟩) ∧
    InputStream.next (ChunkedSource.mk chunksOfGiB C (2 ^ 30) (2 ^ 30) 1) =
      (.ok (C.drop (2 ^ 30)), ⟨chunksOfGiB, C, 2 ^ 31, 2 ^ 30, 2⟩) ∧
    InputStream.next (ChunkedSource.mk chunksOfGiB C (2 ^ 31) (2 ^ 30) 2) =
      (.error ⟨.outOfRange, "EOF"⟩, ⟨chunksOfGiB, C, 2 ^ 31, 0, 3⟩) := by
  obtain ⟨hfirst, hrest⟩ := halves_of_GiB hlen
  have hall : (C.drop (2 ^ 30)).take (2 ^ 30) = C.drop (2 ^ 30) := List.take_of_length_le (Nat.le_of_eq hrest)
  have hsize : ∀ k, chunksOfGiB.size k = 2 ^ 30 := fun _ => rfl
  refine ⟨?_, ?_, ?_⟩
  · change ChunkedSource.next (ChunkedSource.mk chunksOfGiB C 0 0 0) = _
    unfold ChunkedSource.next
    simp only [hsize]
    rw [if_neg (by omega), if_neg (by omega), List.drop_zero, hfirst, Nat.zero_add]
  · change ChunkedSource.next _ = _
    unfold ChunkedSource.next
    simp only [hsize]
    rw [if_neg (by omega), if_neg (by omega), hall, hrest]
    rfl
  · change ChunkedSource.next _ = _
    unfold ChunkedSource.next
    simp only [hsize]
    rw [if_neg (by omega), if_pos (by omega)]

theorem backUp_of_counters (src : ChunkedSource) (buffer : Bytes) (position offset actual returned : Int) {count : Int}
    (hcount : 1 ≤ count) (hreturned : Narrow.toInt (Narrow.toInt buffer.length - offset) = returned)
    (hne : returned ≠ 0) (hactual : min count (Narrow.toInt returned) = actual) (hkept : Narrow.toInt actual = actual) :
    InputStream.backUp count (BufferedInputStream.mk src false (.ok ()) buffer false true position 0 offset) =
      ⟨src, false, .ok (), buffer, false, true, position - actual, actual, offset⟩ := by
  change BufferedInputStream.backUp count _ = _
  unfold BufferedInputStream.backUp BufferedInputStream.countInBuffer
  simp only [Bool.false_eq_true, if_false, hreturned, Int.sub_zero, hactual, Int.zero_add, hkept]
  rw [if_neg (by omega)]

/-- The header is read, and all but one byte of the first buffer given back. -/
theorem wideAead_header (hlen : C.length = 2 ^ 31) :
    readFromStream (BufferedInputStream.new (ChunkedSource.start chunksOfGiB C)) 1 = (.ok (), C.take 1,
      ⟨⟨chunksOfGiB, C, 2 ^ 30, 2 ^ 30, 1⟩, false, .ok (), C.take (2 ^ 30), false, true, 1, 2 ^ 30 - 1, 0⟩) := by
  obtain ⟨hfirst, -, -⟩ := chunksOfGiB_next hlen
  obtain ⟨hbuffer, -⟩ := halves_of_GiB hlen
  have hnext : InputStream.next (BufferedInputStream.new (ChunkedSource.start chunksOfGiB C)) = (.ok (C.take (2 ^ 30)),
      ⟨⟨chunksOfGiB, C, 2 ^ 30, 2 ^ 30, 1⟩, false, .ok (), C.take (2 ^ 30), false, true, 2 ^ 30, 0, 0⟩) := by
    change BufferedInputStream.next (BufferedInputStream.mk _ _ _ _ _ _ _ _ _) = _
    rw [BufferedInputStream.next_asks _ _ _ _ _ (fun h => by cases h), hfirst]
    simp only [List.nil_append, hbuffer]
    rfl
  unfold readFromStream
  rw [if_neg (by decide), readLoop_of_ok hnext, hbuffer, if_neg (by decide), if_pos (by decide),
    backUp_of_counters _ _ _ _ (2 ^ 30 - 1) (2 ^ 30) (by decide) (by rw [hbuffer]; rfl) (by decide) (by decide) (by decide),
    List.take_take]
  rfl

/-- The segment is the rest of the first buffer and all but one byte of the second. -/
theorem wideAead_segment (hlen : C.length = 2 ^ 31) :
    ∃ segment, readFromStream (BufferedInputStream.mk (ChunkedSource.mk chunksOfGiB C (2 ^ 30) (2 ^ 30) 1) false
        (.ok ()) (C.take (2 ^ 30)) false true 1 (2 ^ 30 - 1) 0) (2 ^ 31 - 2) = (.ok (), segment,
      ⟨⟨chunksOfGiB, C, 2 ^ 31, 2 ^ 30, 2⟩, false, .ok (), C, false, true, 2 ^ 31 - 1, 1, 2 ^ 30⟩) := by
  obtain ⟨-, hsecond, -⟩ := chunksOfGiB_next hlen
  obtain ⟨hbuffer, hrest⟩ := halves_of_GiB hlen
  have hcount : Narrow.toInt (C.take (2 ^ 30)).length = 2 ^ 30 := by
    rw [hbuffer]
    rfl
  have hwrapped : Narrow.toInt C.length = -2 ^ 31 := by
    rw [hlen]
    rfl
  have hagain : InputStream.next (BufferedInputStream.mk (ChunkedSource.mk chunksOfGiB C (2 ^ 30) (2 ^ 30) 1) false (.ok ())
      (C.take (2 ^ 30)) false true 1 (2 ^ 30 - 1) 0) = (.ok ((C.take (2 ^ 30)).drop 1),
        ⟨⟨chunksOfGiB, C, 2 ^ 30, 2 ^ 30, 1⟩, false, .ok (), C.take (2 ^ 30), false, true, 2 ^ 30, 0, 1⟩) := by
    change BufferedInputStream.next _ = _
    unfold BufferedInputStream.next BufferedInputStream.countInBuffer
    simp only [Bool.false_eq_true, if_false, Bool.false_and, hcount]
    rw [if_pos (by decide), List.take_of_length_le (by rw [List.length_drop, hbuffer]; decide)]
    rfl
  have hnext : InputStream.next (BufferedInputStream.mk (ChunkedSource.mk chunksOfGiB C (2 ^ 30) (2 ^ 30) 1) false (.ok ())
      (C.take (2 ^ 30)) false true (2 ^ 30) 0 1) = (.ok (C.drop (2 ^ 30)),
        ⟨⟨chunksOfGiB, C, 2 ^ 31, 2 ^ 30, 2⟩, false, .ok (), C, false, true, 2 ^ 31, 0, 2 ^ 30⟩) := by
    change BufferedInputStream.next _ = _
    rw [BufferedInputStream.next_asks _ _ _ _ _ (fun h => by cases h), hsecond]
    simp only [hcount, List.take_append_drop, hrest]
    rfl
  unfold readFromStream
  -- the count that backUp takes off is the wrapped one: 2^31 bytes count as -2^31
  rw [if_neg (by decide), readLoop_of_ok hagain, List.length_drop, hbuffer, if_pos (by decide), readLoop_of_ok hnext,
    hrest, if_neg (by decide), if_pos (by decide),
    backUp_of_counters _ _ _ _ 1 (2 ^ 30) (by decide) (by rw [hwrapped]; rfl) (by decide) (by decide) (by decide)]
  exact ⟨_, rfl⟩

/-- The key with the wide segments reads both buffers, and gives back one byte of 2^31. -/
theorem wideAead_attempt (hlen : C.length = 2 ^ 31) :
    DecryptingInputStream.attempt wideAead (.new (ChunkedSource.start chunksOfGiB C)) [] =
      .error ⟨⟨chunksOfGiB, C, 2 ^ 31, 2 ^ 30, 2⟩, false, .ok (), C, false, true, 2 ^ 31 - 1, 1, 2 ^ 30⟩ := by
  obtain ⟨segment, hsegment⟩ := wideAead_segment hlen
  cases hnew : wideAead.newDecryptingStream (BufferedInputStream.new (ChunkedSource.start chunksOfGiB C)) [] with
  | error e => cases hnew
  | ok s =>
    obtain ⟨hresult, hsource⟩ := wideAead_next hnew (wideAead_header hlen) hsegment
    rw [attempt_of_error hnew hresult (by decide), hsource]

/-- A source at its end, with 2^31 bytes buffered and rewound: the other key does not get a header. -/
theorem plainAead_attempt (hlen : C.length = 2 ^ 31) :
    DecryptingInputStream.attempt plainAead (BufferedInputStream.mk (ChunkedSource.mk chunksOfGiB C (2 ^ 31) (2 ^ 30) 2) false
        (.ok ()) C true true 0 0 0) [] =
      .error ⟨⟨chunksOfGiB, C, 2 ^ 31, 0, 3⟩, false, .error ⟨.outOfRange, "EOF"⟩, C, false, true, 0, 0, 0⟩ := by
  obtain ⟨-, -, hend⟩ := chunksOfGiB_next hlen
  obtain ⟨-, hnext⟩ := BufferedInputStream.next_of_rewound_wrapped (ChunkedSource.mk chunksOfGiB C (2 ^ 31) (2 ^ 30) 2)
    C false 0 0 0 (by omega) (by omega) hend
  have hheader : readFromStream (BufferedInputStream.mk (ChunkedSource.mk chunksOfGiB C (2 ^ 31) (2 ^ 30) 2) false (.ok ()) C
      true true 0 0 0) 1 = (.error ⟨.outOfRange, "EOF"⟩, [],
        ⟨⟨chunksOfGiB, C, 2 ^ 31, 0, 3⟩, false, .error ⟨.outOfRange, "EOF"⟩, C, false, true, 0, 0, 0⟩) := by
    unfold readFromStream
    rw [if_neg (by decide)]
    exact readLoop_of_error hnext
  cases hnew : plainAead.newDecryptingStream
      (BufferedInputStream.mk (ChunkedSource.mk chunksOfGiB C (2 ^ 31) (2 ^ 30) 2) false (.ok ()) C true true 0 0 0) [] with
  | error e => cases hnew
  | ok s =>
    obtain ⟨hd, hsrc, -, -, hinitialized, hstatus, -⟩ := StreamingAead.newDecryptingStream_isNew hnew
    have hsize : s.segmentDecrypter.headerSize = 1 := congrArg SegmentDecrypter.headerSize (Except.ok.inj hd).symm
    rw [← hsrc, ← hsize] at hheader
    obtain ⟨hresult, hsource⟩ := DecryptingStream.next_of_noHeader hinitialized hstatus hheader rfl
    rw [attempt_of_error hnew hresult (by decide), hsource]

/-- **A source of 2^31 bytes is not rewound for the second key**, which decrypts it on its own. -/
theorem findMatch_of_wide (hlen : C.length = 2 ^ 31) :
    (∃ t p, plainAead.newDecryptingStream (ChunkedSource.start chunksOfGiB C) [] = .ok t ∧ t.next.1 = .ok p) ∧
    wideAead.FailsFirst (ChunkedSource.start chunksOfGiB C) [] ∧
    (DecryptingInputStream.next (.new [wideAead, plainAead] (ChunkedSource.start chunksOfGiB C) [])).1 =
      .error DecryptingInputStream.noMatch := by
  have hat : ChunkedSource.At C (ChunkedSource.start chunksOfGiB C) ⟨0, 0⟩ := ⟨rfl, rfl, rfl⟩
  have hdelivers := (ChunkedSource.readsFrom C).delivers
  refine ⟨?_, fun t ht => ?_, ?_⟩
  · obtain ⟨s, last, hheader, hat₁⟩ := (readFromStream_eq hdelivers (show 0 < 1 by decide) hat).1
      (by simp only; omega)
    obtain ⟨s', last', hsegment, -⟩ := (readFromStream_eq hdelivers (show 0 < 3 by decide) hat₁).1 (by simp only; omega)
    cases hnew : plainAead.newDecryptingStream (ChunkedSource.start chunksOfGiB C) [] with
    | error e => cases hnew
    | ok t =>
      obtain ⟨hd, hsrc, -, hct, hinitialized, hstatus, -⟩ := StreamingAead.newDecryptingStream_isNew hnew
      have hd : t.segmentDecrypter = ⟨1, 4, 4, 0, fun _ _ => .ok (), fun _ ct _ _ => .ok ct⟩ := (Except.ok.inj hd).symm
      have hfirst : t.ctBuffer.length = 3 := by
        rw [hct, hd]
        decide
      rw [← hsrc, ← (show t.segmentDecrypter.headerSize = 1 by rw [hd])] at hheader
      rw [← hfirst] at hsegment
      exact ⟨t, _, rfl, DecryptingStream.next_of_accepted hinitialized hstatus hheader (k := ()) (by rw [hd]) hsegment
        (by rw [hd])⟩
  · obtain ⟨s, last, hheader, hat₁⟩ := (readFromStream_eq hdelivers (show 0 < 1 by decide) hat).1
      (by simp only; omega)
    obtain ⟨s', last', hsegment, -⟩ := (readFromStream_eq hdelivers (show 0 < 2 ^ 31 - 2 by decide) hat₁).1
      (by simp only; omega)
    exact ⟨_, (wideAead_next ht hheader hsegment).1, by decide⟩
  · obtain ⟨-, -, hend⟩ := chunksOfGiB_next hlen
    obtain ⟨hrewind, -⟩ := BufferedInputStream.next_of_rewound_wrapped
      (ChunkedSource.mk chunksOfGiB C (2 ^ 31) (2 ^ 30) 2) C false (2 ^ 31 - 1) 1 (2 ^ 30) (by omega) (by omega) hend
    unfold DecryptingInputStream.next DecryptingInputStream.new
    simp only [Bool.false_eq_true, if_false, DecryptingInputStream.findMatch, wideAead_attempt hlen, hrewind,
      plainAead_attempt hlen]
    rfl

/-- The key with the wide segments is tried first, on a source of 2^31 zeros. -/
theorem wideAead_not_keyMatching :
    (∃ t p, plainAead.newDecryptingStream (ChunkedSource.start chunksOfGiB (List.replicate (2 ^ 31) 0)) [] = .ok t ∧
      t.next.1 = .ok p) ∧
    wideAead.FailsFirst (ChunkedSource.start chunksOfGiB (List.replicate (2 ^ 31) 0)) [] ∧
    (DecryptingInputStream.next
      (.new [wideAead, plainAead] (ChunkedSource.start chunksOfGiB (List.replicate (2 ^ 31) 0)) [])).1 =
        .error DecryptingInputStream.noMatch :=
  findMatch_of_wide List.length_replicate

end Wide

end Tink
