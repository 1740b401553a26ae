import TinkCc.BufferedInputStream
import TinkCc.DecryptingStream
import TinkCc.LibTrace
/-!
# DecryptingInputStream — finding the key of a ciphertext stream

The streaming wrapper's decrypting stream tries the keys of its set, one after the other, on one buffered source.  A key
that gives no first buffer is dropped and the source is rewound; the first key that gives one keeps the source, which is
then not buffered any more.

Two decrypting streams of one key over the same bytes are `Twins`, whatever their sources: they answer every call the
same.  A key that is tried on the buffered source is the twin of that key's own stream, as long as the source can count
the bytes it keeps: `firstReads` says how many bytes a key asks for before it is dropped or matches.
-/
namespace Tink

/-! ## The keys and the stream -/

/-- `NonceBasedStreamingAead`, as far as decryption goes; `State` is what a decrypter's `Init` makes. -/
structure StreamingAead where
  State               : Type
  newSegmentDecrypter : (associatedData : Bytes) → Except Status (SegmentDecrypter State)

def StreamingAead.newDecryptingStream {σ : Type} (aead : StreamingAead) (ciphertextSource : σ) (associatedData : Bytes) :
    Except Status (DecryptingStream aead.State σ) := do
  let segmentDecrypter ← aead.newSegmentDecrypter associatedData
  DecryptingStream.new segmentDecrypter ciphertextSource

/-- The members of `DecryptingInputStream`; `primitives` are what `get_all` gives, in its order.  The source is shared:
once there is a matching stream, its `ctSource` is the buffered source. -/
structure DecryptingInputStream (σ : Type) where
  primitives         : List StreamingAead
  bufferedCtSource   : BufferedInputStream σ
  associatedData     : Bytes
  attemptedMatching  : Bool
  matchingStream     : Option (Σ aead : StreamingAead, DecryptingStream aead.State (BufferedInputStream σ))

namespace DecryptingInputStream
variable {σ : Type}

def new (primitives : List StreamingAead) (ciphertextSource : σ) (associatedData : Bytes) : DecryptingInputStream σ :=
  { primitives := primitives, bufferedCtSource := .new ciphertextSource, associatedData := associatedData,
    attemptedMatching := false, matchingStream := none }

def noMatch : Status := ⟨.invalidArgument, "Could not find a decrypter matching the ciphertext stream."⟩

/-- A key on the source: its first `Next` and its stream, or what is left of the source when the key does not match. -/
def attempt [InputStream σ] (aead : StreamingAead) (source : BufferedInputStream σ) (associatedData : Bytes) :
    Except (BufferedInputStream σ) (Except Status Bytes × DecryptingStream aead.State (BufferedInputStream σ)) :=
  match aead.newDecryptingStream source associatedData with
  | .error _ => .error source
  | .ok decryptingStream =>
    match decryptingStream.next with
    | (.ok buffer, s) => .ok (.ok buffer, s)
    | (.error e, s) => if e.code = .outOfRange then .ok (.error e, s) else .error s.ctSource

/-- The loop over the keys. -/
def findMatch [InputStream σ] (associatedData : Bytes) :
    List StreamingAead → BufferedInputStream σ → Except Status Bytes × BufferedInputStream σ ×
      Option (Σ aead : StreamingAead, DecryptingStream aead.State (BufferedInputStream σ))
  | [], source => (.error noMatch, source, none)
  | aead :: rest, source =>
    match attempt aead source associatedData with
    | .ok (result, s) =>
      let source := s.ctSource.disableRewinding
      (result, source, some ⟨aead, { s with ctSource := source }⟩)
    | .error source =>
      match source.rewind with
      | (.error e, source) => (.error e, source, none)
      | (.ok (), source) => findMatch associatedData rest source

def next [InputStream σ] (s : DecryptingInputStream σ) : Except Status Bytes × DecryptingInputStream σ :=
  match s.matchingStream with
  | some ⟨aead, matching⟩ =>
    let (result, matching) := matching.next
    (result, { s with matchingStream := some ⟨aead, matching⟩ })
  | none =>
    if s.attemptedMatching then (.error noMatch, s)
    else
      let (result, source, matching) := findMatch s.associatedData s.primitives s.bufferedCtSource
      (result, { s with attemptedMatching := true, bufferedCtSource := source, matchingStream := matching })

def backUp (count : Int) (s : DecryptingInputStream σ) : DecryptingInputStream σ :=
  match s.matchingStream with
  | some ⟨aead, matching⟩ => { s with matchingStream := some ⟨aead, matching.backUp count⟩ }
  | none => s

def position (s : DecryptingInputStream σ) : Nat :=
  match s.matchingStream with
  | some ⟨_, matching⟩ => matching.position
  | none => 0

end DecryptingInputStream

/-! ## What a caller sees -/

/-- A call: what `Next` returned, if it was one, and the position after it. -/
def DecryptingStream.call {κ σ : Type} [InputStream σ] (s : DecryptingStream κ σ) :
    ReadOp → Option ((Option (Except Status Bytes) × Nat) × DecryptingStream κ σ)
  | .next => some ((some s.next.1, s.next.2.position), s.next.2)
  | .backUp count => some ((none, (s.backUp count).position), s.backUp count)

def DecryptingInputStream.call {σ : Type} [InputStream σ] (s : DecryptingInputStream σ) :
    ReadOp → Option ((Option (Except Status Bytes) × Nat) × DecryptingInputStream σ)
  | .next => some ((some s.next.1, s.next.2.position), s.next.2)
  | .backUp count => some ((none, (s.backUp count).position), s.backUp count)

/-- The bytes the first `Next` asks for on `C`: the header, and the first segment if the header is accepted. -/
def SegmentDecrypter.firstReads {κ : Type} (d : SegmentDecrypter κ) (C : Bytes) : Nat :=
  match d.init none (C.take d.headerSize) with
  | .ok _ => d.headerSize + d.firstSegmentSize.toNat
  | .error _ => d.headerSize

/-- The bytes a key asks for when it is tried on `C`; one whose stream cannot be made asks for none. -/
def StreamingAead.firstReads (aead : StreamingAead) (associatedData C : Bytes) : Nat :=
  match aead.newSegmentDecrypter associatedData with
  | .ok d => if d.firstSegmentSize ≤ 0 then 0 else d.firstReads C
  | .error _ => 0

/-- A first buffer, or the end. -/
def IsMatch {α : Type} (result : Except Status α) : Prop := ∀ e, result = .error e → e.code = .outOfRange

/-! ## Twins -/

/-- The stream with another source. -/
def DecryptingStream.withSource {κ σ τ : Type} (s : DecryptingStream κ σ) (source : τ) : DecryptingStream κ τ :=
  ⟨s.segmentDecrypter, source, s.ctBuffer, s.ptBuffer, s.position, s.segmentNumber, s.initialized, s.readLastSegment,
    s.countBackedup, s.ptBufferOffset, s.status⟩

section Twins
variable {κ σ τ : Type} {C : Bytes} {At₁ : σ → Cursor → Prop} {At₂ : τ → Cursor → Prop} {Spent₁ : σ → Prop}
  {Spent₂ : τ → Prop}

/-- **Streams that differ in their sources only**, which are at the same place as long as they are still read. -/
structure Twins (At₁ : σ → Cursor → Prop) (Spent₁ : σ → Prop) (At₂ : τ → Cursor → Prop) (s : DecryptingStream κ σ)
    (t : DecryptingStream κ τ) : Prop where
  same    : t = s.withSource t.ctSource
  fresh   : s.initialized = none → s.readLastSegment = false
  sources : s.status = .ok () → s.readLastSegment = false →
    ∃ pos l₁ l₂, At₁ s.ctSource ⟨pos, l₁⟩ ∧ At₂ t.ctSource ⟨pos, l₂⟩
  kept    : Spent₁ s.ctSource ∨ ∃ c, At₁ s.ctSource c

theorem Twins.buffer {s : DecryptingStream κ σ} {t : DecryptingStream κ τ} (h : Twins At₁ Spent₁ At₂ s t) :
    t.position = s.position ∧ t.ptBuffer = s.ptBuffer ∧ t.ptBufferOffset = s.ptBufferOffset := by
  rw [h.same]
  exact ⟨rfl, rfl, rfl⟩

/-- The end of `Next`: the error, or the buffer that was read. -/
def DecryptingStream.deliver {σ : Type} (s : DecryptingStream κ σ) (position offset : Nat) :
    Except Status Bytes × DecryptingStream κ σ :=
  match s.status with
  | .error e => (.error e, s)
  | .ok () => (.ok s.ptBuffer, { s with ptBufferOffset := offset, position := position })

/-- Both streams gave the same, and are twins then. -/
def TwinResults (At₁ : σ → Cursor → Prop) (Spent₁ : σ → Prop) (At₂ : τ → Cursor → Prop)
    (r : Except Status Bytes × DecryptingStream κ σ) (r' : Except Status Bytes × DecryptingStream κ τ) : Prop :=
  r.1 = r'.1 ∧ Twins At₁ Spent₁ At₂ r.2 r'.2

theorem Twins.deliver {s : DecryptingStream κ σ} {t : DecryptingStream κ τ} (h : Twins At₁ Spent₁ At₂ s t)
    (position offset : Nat) : TwinResults At₁ Spent₁ At₂ (s.deliver position offset) (t.deliver position offset) := by
  obtain ⟨hsame, hfresh, hsrc, hkept⟩ := h
  generalize t.ctSource = src at hsame hsrc
  subst hsame
  obtain ⟨d, src₁, ct, pt, pos, num, initialized, isLast, backedup, off, status⟩ := s
  cases status with
  | error e => exact ⟨rfl, rfl, hfresh, hsrc, hkept⟩
  | ok u => exact ⟨rfl, rfl, hfresh, hsrc, hkept⟩

theorem Twins.backUp {s : DecryptingStream κ σ} {t : DecryptingStream κ τ} (h : Twins At₁ Spent₁ At₂ s t) (count : Int) :
    Twins At₁ Spent₁ At₂ (s.backUp count) (t.backUp count) := by
  obtain ⟨hsame, hfresh, hsrc, hkept⟩ := h
  generalize t.ctSource = src at hsame hsrc
  subst hsame
  obtain ⟨d, src₁, ct, pt, pos, num, initialized, isLast, backedup, off, status⟩ := s
  unfold DecryptingStream.backUp
  simp only [DecryptingStream.withSource]
  cases status with
  | error e => exact ⟨rfl, hfresh, hsrc, hkept⟩
  | ok u =>
    by_cases hskip : (initialized.isNone || decide (count < 1)) = true
    · simp only [hskip, if_true]
      exact ⟨rfl, hfresh, hsrc, hkept⟩
    · simp only [hskip]
      exact ⟨rfl, hfresh, hsrc, hkept⟩

/-- Two new streams of one key, over sources that are both at their start. -/
theorem Twins.new (Spent₁ : σ → Prop) (aead : StreamingAead) (associatedData : Bytes) {src : σ} {src' : τ} {l₁ l₂ : Nat}
    (hat₁ : At₁ src ⟨0, l₁⟩) (hat₂ : At₂ src' ⟨0, l₂⟩) :
    (∃ e, aead.newDecryptingStream src associatedData = .error e ∧
      aead.newDecryptingStream src' associatedData = .error e) ∨
    (∃ s t, aead.newDecryptingStream src associatedData = .ok s ∧ aead.newDecryptingStream src' associatedData = .ok t ∧
      Twins At₁ Spent₁ At₂ s t) := by
  unfold StreamingAead.newDecryptingStream
  cases aead.newSegmentDecrypter associatedData with
  | error e => exact .inl ⟨e, rfl, rfl⟩
  | ok d =>
    show (∃ e, DecryptingStream.new d src = .error e ∧ DecryptingStream.new d src' = .error e) ∨
      (∃ s t, DecryptingStream.new d src = .ok s ∧ DecryptingStream.new d src' = .ok t ∧ Twins At₁ Spent₁ At₂ s t)
    unfold DecryptingStream.new
    split
    · exact .inl ⟨_, rfl, rfl⟩
    · exact .inr ⟨_, _, rfl, rfl, rfl, fun _ => rfl, fun _ _ => ⟨0, l₁, l₂, hat₁, hat₂⟩, .inr ⟨_, hat₁⟩⟩

variable [InputStream σ] [InputStream τ]

/-- Reading `count` bytes of two sources at the byte `pos`. -/
inductive ReadBoth (C : Bytes) (At₁ : σ → Cursor → Prop) (Spent₁ : σ → Prop) (At₂ : τ → Cursor → Prop) (pos count : Nat) :
    Except Status Unit × Bytes × σ → Except Status Unit × Bytes × τ → Prop
  | ok {src₁ src₂ l₁ l₂} : At₁ src₁ ⟨pos + count, l₁⟩ → At₂ src₂ ⟨pos + count, l₂⟩ →
      ReadBoth C At₁ Spent₁ At₂ pos count (.ok (), (C.drop pos).take count, src₁) (.ok (), (C.drop pos).take count, src₂)
  | short {bs src₁ src₂ e₁ e₂} : e₁.code = .outOfRange → e₂.code = .outOfRange → Spent₁ src₁ →
      ReadBoth C At₁ Spent₁ At₂ pos count (.error e₁, bs, src₁) (.error e₂, bs, src₂)
  | error {bs src₁ src₂ e c} : e.code ≠ .outOfRange → At₁ src₁ c →
      ReadBoth C At₁ Spent₁ At₂ pos count (.error e, bs, src₁) (.error e, bs, src₂)

theorem readFromStream_both {limit : Nat} (h₁ : DeliversTo limit C At₁ Spent₁) (h₂ : Delivers C At₂ Spent₂) {src₁ : σ}
    {src₂ : τ} {pos l₁ l₂ : Nat} (hat₁ : At₁ src₁ ⟨pos, l₁⟩) (hat₂ : At₂ src₂ ⟨pos, l₂⟩) (count : Nat)
    (hlimit : pos + count ≤ limit) :
    ReadBoth C At₁ Spent₁ At₂ pos count (readFromStream src₁ count) (readFromStream src₂ count) := by
  by_cases h0 : count = 0
  · unfold readFromStream
    rw [if_pos h0, if_pos h0]
    exact .error (by decide) hat₁
  · obtain ⟨hfull₁, hshort₁⟩ := readFromStream_eq_to h₁ (Nat.pos_of_ne_zero h0) hlimit hat₁
    obtain ⟨hfull₂, hshort₂⟩ := readFromStream_eq h₂ (Nat.pos_of_ne_zero h0) hat₂
    by_cases hlen : pos + count ≤ C.length
    · obtain ⟨src₁', l₁', he₁, hat₁'⟩ := hfull₁ hlen
      obtain ⟨src₂', l₂', he₂, hat₂'⟩ := hfull₂ hlen
      rw [he₁, he₂]
      exact .ok hat₁' hat₂'
    · obtain ⟨e₁, src₁', he₁, hcode₁, hspent⟩ := hshort₁ (Nat.lt_of_not_le hlen)
      obtain ⟨e₂, src₂', he₂, hcode₂, -⟩ := hshort₂ (Nat.lt_of_not_le hlen)
      rw [he₁, he₂]
      exact .short hcode₁ hcode₂ hspent

/-- A segment the source cut short is the last one, or not decrypted. -/
theorem decryptGuess_cutShort {d : SegmentDecrypter κ} {k : κ} {x p : Bytes} {i : Nat} {isLast : Bool}
    (h : decryptGuess d k x i true = .ok (p, isLast)) : isLast = true := by
  unfold decryptGuess at h
  split at h
  · cases h
    rfl
  · cases h

theorem readAndDecrypt_twins {limit : Nat} (h₁ : DeliversTo limit C At₁ Spent₁) (h₂ : Delivers C At₂ Spent₂)
    (s : DecryptingStream κ σ) (src : τ) {k : κ} (hk : s.initialized = some k) (count : Nat) {pos l₁ l₂ : Nat}
    (hlimit : pos + count ≤ limit) (hat₁ : At₁ s.ctSource ⟨pos, l₁⟩) (hat₂ : At₂ src ⟨pos, l₂⟩) :
    Twins At₁ Spent₁ At₂ (s.readAndDecrypt k count) ((s.withSource src).readAndDecrypt k count) := by
  have hboth := readFromStream_both h₁ h₂ hat₁ hat₂ count hlimit
  have hopen : s.initialized ≠ none := by simp [hk]
  unfold DecryptingStream.readAndDecrypt
  simp only [DecryptingStream.withSource]
  generalize readFromStream s.ctSource count = r₁ at hboth ⊢
  generalize readFromStream src count = r₂ at hboth ⊢
  cases hboth with
  | @ok src₁ src₂ l₁ l₂ hat₁' hat₂' =>
    simp only
    cases decryptGuess s.segmentDecrypter k ((C.drop pos).take count) s.segmentNumber false with
    | error e => exact ⟨rfl, (fun h => absurd h hopen), (fun h => by cases h), .inr ⟨_, hat₁'⟩⟩
    | ok r => exact ⟨rfl, (fun h => absurd h hopen), fun _ _ => ⟨_, l₁, l₂, hat₁', hat₂'⟩, .inr ⟨_, hat₁'⟩⟩
  | @short bs src₁ src₂ e₁ e₂ hcode₁ hcode₂ hspent =>
    simp only [hcode₁, hcode₂, if_true]
    cases hguess : decryptGuess s.segmentDecrypter k bs s.segmentNumber true with
    | error e => exact ⟨rfl, (fun h => absurd h hopen), (fun h => by cases h), .inl hspent⟩
    | ok r =>
      obtain ⟨p, isLast⟩ := r
      -- the stream does not read on
      refine ⟨rfl, (fun h => absurd h hopen), fun _ hlast => ?_, .inl hspent⟩
      exact absurd ((decryptGuess_cutShort hguess).symm.trans hlast) (by decide)
  | @error bs src₁ src₂ e c hcode hat₁' =>
    simp only [hcode, if_false]
    exact ⟨rfl, (fun h => absurd h hopen), (fun h => by cases h), .inr ⟨c, hat₁'⟩⟩

/-- The first `Next`, when the header was read and accepted. -/
theorem DecryptingStream.next_of_header {σ : Type} [InputStream σ] (d : SegmentDecrypter κ) (src : σ) (ct pt : Bytes)
    (pos num backedup off : Nat) (isLast : Bool) {header : Bytes} {src' : σ} {k : κ}
    (hread : readFromStream src d.headerSize = (.ok (), header, src')) (hinit : d.init none header = .ok k) :
    DecryptingStream.next ⟨d, src, ct, pt, pos, num, none, isLast, backedup, off, .ok ()⟩ =
      let s := DecryptingStream.readAndDecrypt ⟨d, src', ct, pt, pos, num, some k, isLast, 0, off, .ok ()⟩ k ct.length
      s.deliver s.ptBuffer.length s.ptBufferOffset := by
  unfold DecryptingStream.next
  simp only [hread, hinit]
  rfl

/-- A `Next` that reads the next segment. -/
theorem DecryptingStream.next_of_segment {σ : Type} [InputStream σ] (d : SegmentDecrypter κ) (src : σ) (ct pt : Bytes)
    (pos num off : Nat) (k : κ) :
    DecryptingStream.next ⟨d, src, ct, pt, pos, num, some k, false, 0, off, .ok ()⟩ =
      let s := DecryptingStream.readAndDecrypt ⟨d, src, ct, pt, pos, num + 1, some k, false, 0, off, .ok ()⟩ k
        d.ciphertextSegmentSize
      s.deliver (s.position + s.ptBuffer.length) 0 := by
  rfl

/-- **Twins that have not read the header answer `Next` the same**, if what they ask for can be read. -/
theorem Twins.firstNext {limit : Nat} (h₁ : DeliversTo limit C At₁ Spent₁) (h₂ : Delivers C At₂ Spent₂)
    {s : DecryptingStream κ σ} {t : DecryptingStream κ τ} (h : Twins At₁ Spent₁ At₂ s t) (hnew : s.initialized = none)
    (hstatus : s.status = .ok ()) {pos l₁ l₂ : Nat} (hat₁ : At₁ s.ctSource ⟨pos, l₁⟩) (hat₂ : At₂ t.ctSource ⟨pos, l₂⟩)
    (hheader : pos + s.segmentDecrypter.headerSize ≤ limit)
    (hsegment : ∀ k, s.segmentDecrypter.init none ((C.drop pos).take s.segmentDecrypter.headerSize) = .ok k →
      pos + s.segmentDecrypter.headerSize + s.ctBuffer.length ≤ limit) :
    TwinResults At₁ Spent₁ At₂ s.next t.next := by
  obtain ⟨hsame, hfresh, -, -⟩ := h
  generalize t.ctSource = src at hsame hat₂
  subst hsame
  obtain ⟨d, src₁, ct, pt, p, num, initialized, isLast, backedup, off, status⟩ := s
  obtain rfl : initialized = none := hnew
  obtain rfl : status = .ok () := hstatus
  have hboth := readFromStream_both h₁ h₂ hat₁ hat₂ d.headerSize hheader
  simp only [DecryptingStream.withSource] at hboth ⊢
  generalize hr₁ : readFromStream src₁ d.headerSize = r₁ at hboth
  generalize hr₂ : readFromStream src d.headerSize = r₂ at hboth
  cases hboth with
  | @ok src₁' src₂' l₁' l₂' hat₁' hat₂' =>
    cases hinit : d.init none ((C.drop pos).take d.headerSize) with
    | error e =>
      unfold DecryptingStream.next
      simp only [hr₁, hr₂, hinit]
      exact ⟨rfl, rfl, hfresh, (fun h => by cases h), .inr ⟨_, hat₁'⟩⟩
    | ok k =>
      have htwins := readAndDecrypt_twins h₁ h₂ ⟨d, src₁', ct, pt, p, num, some k, isLast, 0, off, .ok ()⟩
        src₂' rfl ct.length (hsegment k hinit) hat₁' hat₂'
      obtain ⟨-, hbuffer, hoffset⟩ := htwins.buffer
      simp only [DecryptingStream.withSource] at htwins hbuffer hoffset
      simp only [DecryptingStream.next_of_header _ _ _ _ _ _ _ _ _ hr₁ hinit,
        DecryptingStream.next_of_header _ _ _ _ _ _ _ _ _ hr₂ hinit, hbuffer, hoffset]
      exact htwins.deliver _ _
  | @short header src₁' src₂' e₁ e₂ hcode₁ hcode₂ hspent =>
    unfold DecryptingStream.next
    simp only [hr₁, hr₂, hcode₁, hcode₂, if_true]
    exact ⟨rfl, rfl, hfresh, (fun h => by cases h), .inl hspent⟩
  | @error header src₁' src₂' e c hcode hat₁' =>
    unfold DecryptingStream.next
    simp only [hr₁, hr₂, hcode, if_false]
    exact ⟨rfl, rfl, hfresh, (fun h => by cases h), .inr ⟨c, hat₁'⟩⟩

/-- **Twins answer `Next` the same, and stay twins.** -/
theorem Twins.next (h₁ : Delivers C At₁ Spent₁) (h₂ : Delivers C At₂ Spent₂) {s : DecryptingStream κ σ}
    {t : DecryptingStream κ τ} (h : Twins At₁ Spent₁ At₂ s t) : TwinResults At₁ Spent₁ At₂ s.next t.next := by
  cases hinitialized : s.initialized with
  | none =>
    cases hstatus : s.status with
    | ok u =>
      obtain ⟨p, l₁, l₂, hat₁, hat₂⟩ := h.sources hstatus (h.fresh hinitialized)
      exact h.firstNext (h₁ _) h₂ hinitialized hstatus hat₁ hat₂ (Nat.le_add_right _ s.ctBuffer.length)
        (fun _ _ => Nat.le_refl _)
    | error e =>
      obtain ⟨hsame, hfresh, hsrc, hkept⟩ := h
      generalize t.ctSource = src at hsame
      subst hsame
      obtain ⟨d, src₁, ct, pt, pos, num, initialized, isLast, backedup, off, status⟩ := s
      obtain rfl : status = .error e := hstatus
      exact ⟨rfl, rfl, hfresh, (fun h => by cases h), hkept⟩
  | some k =>
    obtain ⟨hsame, hfresh, hsrc, hkept⟩ := h
    generalize t.ctSource = src at hsame hsrc
    subst hsame
    obtain ⟨d, src₁, ct, pt, pos, num, initialized, isLast, backedup, off, status⟩ := s
    obtain rfl : initialized = some k := hinitialized
    cases status with
    | error e => exact ⟨rfl, rfl, hfresh, (fun h => by cases h), hkept⟩
    | ok u =>
      cases u
      by_cases hb : 0 < backedup
      · unfold DecryptingStream.next
        simp only [DecryptingStream.withSource, hb, if_true]
        exact ⟨rfl, rfl, hfresh, hsrc, hkept⟩
      · obtain rfl : backedup = 0 := by omega
        cases isLast with
        | true => exact ⟨rfl, rfl, hfresh, (fun h => by cases h), hkept⟩
        | false =>
          obtain ⟨p, l₁, l₂, hat₁, hat₂⟩ := hsrc rfl rfl
          have htwins := readAndDecrypt_twins (h₁ _) h₂ ⟨d, src₁, ct, pt, pos, num + 1, some k, false, 0, off, .ok ()⟩
            src rfl d.ciphertextSegmentSize (Nat.le_refl _) hat₁ hat₂
          obtain ⟨hposition, hbuffer, -⟩ := htwins.buffer
          simp only [DecryptingStream.withSource, DecryptingStream.next_of_segment] at htwins hposition hbuffer ⊢
          rw [hposition, hbuffer]
          exact htwins.deliver _ _

end Twins

/-! ## What becomes of a first segment -/

/-- A first `Next` whose segment is read in full and refused. -/
theorem DecryptingStream.next_of_refused {κ σ : Type} [InputStream σ] {t : DecryptingStream κ σ} (hnew : t.initialized = none)
    (hstatus : t.status = .ok ()) {header segment : Bytes} {src' src'' : σ} {k : κ} {e : Status}
    (hheader : readFromStream t.ctSource t.segmentDecrypter.headerSize = (.ok (), header, src'))
    (hinit : t.segmentDecrypter.init none header = .ok k)
    (hsegment : readFromStream src' t.ctBuffer.length = (.ok (), segment, src''))
    (hrefuses : ∀ i isLast, t.segmentDecrypter.decryptSegment k segment i isLast = .error e) :
    t.next.1 = .error e ∧ t.next.2.ctSource = src'' := by
  obtain ⟨d, src, ct, pt, pos, num, initialized, isLast, backedup, off, status⟩ := t
  obtain rfl : initialized = none := hnew
  obtain rfl : status = .ok () := hstatus
  have hguess : decryptGuess d k segment num false = .error e := by
    have hrefuse : ∀ isLast, d.decryptSegment k segment num isLast = .error e := hrefuses num
    unfold decryptGuess
    simp only [hrefuse, Bool.false_eq_true, if_false]
  rw [DecryptingStream.next_of_header _ _ _ _ _ _ _ _ _ hheader hinit]
  simp only [DecryptingStream.readAndDecrypt, hsegment, hguess]
  exact ⟨rfl, rfl⟩

/-- A first `Next` whose segment is read in full and decrypted. -/
theorem DecryptingStream.next_of_accepted {κ σ : Type} [InputStream σ] {t : DecryptingStream κ σ}
    (hnew : t.initialized = none) (hstatus : t.status = .ok ()) {header segment p : Bytes} {src' src'' : σ} {k : κ}
    (hheader : readFromStream t.ctSource t.segmentDecrypter.headerSize = (.ok (), header, src'))
    (hinit : t.segmentDecrypter.init none header = .ok k)
    (hsegment : readFromStream src' t.ctBuffer.length = (.ok (), segment, src''))
    (haccepts : t.segmentDecrypter.decryptSegment k segment t.segmentNumber false = .ok p) : t.next.1 = .ok p := by
  obtain ⟨d, src, ct, pt, pos, num, initialized, isLast, backedup, off, status⟩ := t
  obtain rfl : initialized = none := hnew
  obtain rfl : status = .ok () := hstatus
  have hguess : decryptGuess d k segment num false = .ok (p, false) := by
    have haccept : d.decryptSegment k segment num false = .ok p := haccepts
    unfold decryptGuess
    simp only [haccept]
  rw [DecryptingStream.next_of_header _ _ _ _ _ _ _ _ _ hheader hinit]
  simp only [DecryptingStream.readAndDecrypt, hsegment, hguess]
  rfl

theorem DecryptingStream.next_of_noHeader {κ σ : Type} [InputStream σ] {t : DecryptingStream κ σ}
    (hnew : t.initialized = none) (hstatus : t.status = .ok ()) {header : Bytes} {src' : σ} {e : Status}
    (hheader : readFromStream t.ctSource t.segmentDecrypter.headerSize = (.error e, header, src'))
    (hcode : e.code = .outOfRange) :
    t.next.1 = .error ⟨.invalidArgument, "Could not read stream header."⟩ ∧ t.next.2.ctSource = src' := by
  unfold DecryptingStream.next
  simp only [hnew, hstatus, hheader, hcode, if_true, and_self]

/-! ## The loop over the keys -/

/-- A new stream, over the segment decrypter of its key. -/
structure DecryptingStream.IsNew {τ : Type} {aead : StreamingAead} (own : τ) (associatedData : Bytes)
    (t : DecryptingStream aead.State τ) : Prop where
  segmentDecrypter : aead.newSegmentDecrypter associatedData = .ok t.segmentDecrypter
  ctSource         : t.ctSource = own
  firstSegmentSize : 0 < t.segmentDecrypter.firstSegmentSize
  ctBuffer         : t.ctBuffer.length = t.segmentDecrypter.firstSegmentSize.toNat
  initialized      : t.initialized = none
  status           : t.status = .ok ()
  position         : t.position = 0

theorem StreamingAead.newDecryptingStream_isNew {τ : Type} {aead : StreamingAead} {own : τ} {associatedData : Bytes}
    {t : DecryptingStream aead.State τ} (ht : aead.newDecryptingStream own associatedData = .ok t) :
    t.IsNew own associatedData := by
  unfold StreamingAead.newDecryptingStream at ht
  cases hd : aead.newSegmentDecrypter associatedData with
  | error e =>
    rw [hd] at ht
    cases ht
  | ok d =>
    rw [hd] at ht
    change DecryptingStream.new d own = .ok t at ht
    unfold DecryptingStream.new at ht
    split at ht
    · cases ht
    · rename_i hpositive
      cases ht
      exact ⟨hd, rfl, Int.not_le.1 hpositive, List.length_replicate, rfl, rfl, rfl⟩

theorem DecryptingStream.backUp_of_fresh {κ τ : Type} {t : DecryptingStream κ τ} (h : t.initialized = none) (count : Int) :
    t.backUp count = t := by
  unfold DecryptingStream.backUp
  cases t.status with
  | error e => rfl
  | ok u => simp [h]

section Matching
variable {σ τ : Type} [PositionedStream σ] [InputStream τ] {C : Bytes} {At : σ → Cursor → Prop}
  {At' : τ → Cursor → Prop} {associatedData : Bytes} {own : τ} {last : Nat}

/-- The first `Next` of the key's own stream fails, if there is such a stream. -/
def StreamingAead.FailsFirst {τ : Type} [InputStream τ] (aead : StreamingAead) (own : τ) (associatedData : Bytes) : Prop :=
  ∀ t, aead.newDecryptingStream own associatedData = .ok t → ∃ e, t.next.1 = .error e ∧ e.code ≠ .outOfRange

/-- **A key that is tried on the buffered source answers as on its own**, if the buffers with the bytes it asks for
fit. -/
theorem firstNext_twins (hs : Supplies C At (fun _ => False)) (hr : ReadsFrom C At') (hown : At' own ⟨0, last⟩)
    {aead : StreamingAead} {start : σ} (hfits : FitsBuffer start (aead.firstReads associatedData C))
    {source : BufferedInputStream σ} {l : Nat} (hat : BufferedInputStream.Buffering C At start source ⟨0, l⟩)
    {s : DecryptingStream aead.State (BufferedInputStream σ)} {t : DecryptingStream aead.State τ}
    (hs' : aead.newDecryptingStream source associatedData = .ok s) (ht : aead.newDecryptingStream own associatedData = .ok t)
    (htwins : Twins (BufferedInputStream.Buffering C At start)
      (fun s => ∃ c, BufferedInputStream.Buffering C At start s c) At' s t) :
    TwinResults (BufferedInputStream.Buffering C At start)
      (fun s => ∃ c, BufferedInputStream.Buffering C At start s c) At' s.next t.next := by
  have hnew := StreamingAead.newDecryptingStream_isNew hs'
  rw [← hnew.ctSource] at hat
  rw [← (StreamingAead.newDecryptingStream_isNew ht).ctSource] at hown
  unfold StreamingAead.firstReads SegmentDecrypter.firstReads at hfits
  simp only [hnew.segmentDecrypter, if_neg (Int.not_le.2 hnew.firstSegmentSize)] at hfits
  refine htwins.firstNext (BufferedInputStream.Buffering.deliversTo hs hfits) hr.delivers hnew.initialized hnew.status hat
    hown ?_ (fun k hk => ?_)
  · rw [Nat.zero_add]
    split
    · exact Nat.le_add_right _ _
    · exact Nat.le_refl _
  · rw [List.drop_zero] at hk
    rw [hk, hnew.ctBuffer, Nat.zero_add]

theorem attempt_of_error {aead : StreamingAead} {source : BufferedInputStream σ}
    {s : DecryptingStream aead.State (BufferedInputStream σ)} (hs : aead.newDecryptingStream source associatedData = .ok s)
    {e : Status} (hnext : s.next.1 = .error e) (hcode : e.code ≠ .outOfRange) :
    DecryptingInputStream.attempt aead source associatedData = .error s.next.2.ctSource := by
  unfold DecryptingInputStream.attempt
  rcases hsn : s.next with ⟨result, s'⟩
  rw [hsn] at hnext
  obtain rfl : result = .error e := hnext
  simp only [hs, hsn, hcode, if_false]

/-- A key that fails on its own fails on the buffered source, and the source can be rewound. -/
theorem attempt_of_failsFirst (hs : Supplies C At (fun _ => False)) (hr : ReadsFrom C At') (hown : At' own ⟨0, last⟩)
    {aead : StreamingAead} {start : σ} (hfits : FitsBuffer start (aead.firstReads associatedData C))
    (hfail : aead.FailsFirst own associatedData) {source : BufferedInputStream σ} {l : Nat}
    (hat : BufferedInputStream.Buffering C At start source ⟨0, l⟩) :
    ∃ source' c, DecryptingInputStream.attempt aead source associatedData = .error source' ∧
      BufferedInputStream.Buffering C At start source' c := by
  rcases Twins.new (fun s => ∃ c, BufferedInputStream.Buffering C At start s c) aead associatedData hat hown with
    ⟨e, he, -⟩ | ⟨s, t, hs', ht, htwins⟩
  · unfold DecryptingInputStream.attempt
    simp only [he]
    exact ⟨source, _, rfl, hat⟩
  · obtain ⟨e, hnext, hcode⟩ := hfail t ht
    obtain ⟨hresult, htwins'⟩ := firstNext_twins hs hr hown hfits hat hs' ht htwins
    rw [hnext] at hresult
    rw [attempt_of_error hs' hresult hcode]
    rcases htwins'.kept with ⟨c, hc⟩ | ⟨c, hc⟩
    · exact ⟨_, c, rfl, hc⟩
    · exact ⟨_, c, rfl, hc⟩

/-- Keys that fail on their own are skipped. -/
theorem findMatch_append (hs : Supplies C At (fun _ => False)) (hr : ReadsFrom C At') (hown : At' own ⟨0, last⟩)
    {start : σ} : ∀ (before rest : List StreamingAead),
      (∀ aead ∈ before, aead.FailsFirst own associatedData) →
      (∀ aead ∈ before, FitsBuffer start (aead.firstReads associatedData C)) →
      ∀ {source : BufferedInputStream σ}, BufferedInputStream.Buffering C At start source ⟨0, 0⟩ →
        ∃ source', BufferedInputStream.Buffering C At start source' ⟨0, 0⟩ ∧
          DecryptingInputStream.findMatch associatedData (before ++ rest) source =
            DecryptingInputStream.findMatch associatedData rest source'
  | [], rest, _, _, source, hat => ⟨source, hat, rfl⟩
  | aead :: before, rest, hfail, hfits, source, hat => by
    obtain ⟨source₁, c, hattempt, hat₁⟩ := attempt_of_failsFirst hs hr hown (hfits aead (by simp)) (hfail aead (by simp)) hat
    obtain ⟨source₂, hrewind, hat₂⟩ := hat₁.rewind
    obtain ⟨source', hat', hfind⟩ := findMatch_append hs hr hown before rest
      (fun aead h => hfail aead (List.mem_cons_of_mem _ h)) (fun aead h => hfits aead (List.mem_cons_of_mem _ h)) hat₂
    refine ⟨source', hat', ?_⟩
    rw [List.cons_append, DecryptingInputStream.findMatch, hattempt]
    simp only [hrewind]
    exact hfind

/-- The key that matches keeps the source, and is from then on the twin of its own stream. -/
theorem findMatch_of_match (hs : Supplies C At (fun _ => False)) (hr : ReadsFrom C At') (hown : At' own ⟨0, last⟩)
    {aead : StreamingAead} {start : σ} (hfits : FitsBuffer start (aead.firstReads associatedData C))
    {t : DecryptingStream aead.State τ} (ht : aead.newDecryptingStream own associatedData = .ok t)
    (hmatch : IsMatch t.next.1) (rest : List StreamingAead) {source : BufferedInputStream σ}
    (hat : BufferedInputStream.Buffering C At start source ⟨0, 0⟩) :
    ∃ source' s, DecryptingInputStream.findMatch associatedData (aead :: rest) source =
        (t.next.1, source', some ⟨aead, s⟩) ∧
      Twins (BufferedInputStream.StandsAt C At true) (fun s => ∃ c, BufferedInputStream.StandsAt C At true s c) At' s
        t.next.2 := by
  rcases Twins.new (fun s => ∃ c, BufferedInputStream.Buffering C At start s c) aead associatedData hat hown with
    ⟨e, -, he⟩ | ⟨s, t', hs', ht', htwins⟩
  · rw [ht] at he
    cases he
  · obtain rfl : t = t' := by
      rw [ht] at ht'
      cases ht'
      rfl
    obtain ⟨hresult, htwins'⟩ := firstNext_twins hs hr hown hfits hat hs' ht htwins
    have hattempt : DecryptingInputStream.attempt aead source associatedData = .ok (t.next.1, s.next.2) := by
      unfold DecryptingInputStream.attempt
      rcases hsn : s.next with ⟨result, s'⟩
      rw [hsn] at hresult
      simp only [hs', hsn]
      cases result with
      | ok buffer => rw [← hresult]
      | error e =>
        have hcode := hmatch e hresult.symm
        simp only [hcode, if_true, ← hresult]
    rw [DecryptingInputStream.findMatch, hattempt]
    refine ⟨_, _, rfl, ?_, htwins'.fresh, fun hst hlast => ?_, ?_⟩
    · conv_lhs => rw [htwins'.same]
      rfl
    · obtain ⟨pos, l₁, l₂, hat₁, hat₂⟩ := htwins'.sources hst hlast
      exact ⟨pos, l₁, l₂, BufferedInputStream.Inv.disableRewinding hat₁.standsAt, hat₂⟩
    · rcases htwins'.kept with ⟨c, hc⟩ | ⟨c, hc⟩
      · exact .inl ⟨c, BufferedInputStream.Inv.disableRewinding hc.standsAt⟩
      · exact .inl ⟨c, BufferedInputStream.Inv.disableRewinding hc.standsAt⟩

/-! ## The stream follows the key's own stream -/

/-- The wrapper's stream before its first `Next`, or with the twin of the key's own stream. -/
inductive Follows (C : Bytes) (At : σ → Cursor → Prop) (At' : τ → Cursor → Prop) (start : σ)
    (primitives : List StreamingAead) (associatedData : Bytes) (aead : StreamingAead)
    (t₀ : DecryptingStream aead.State τ) : DecryptingInputStream σ → DecryptingStream aead.State τ → Prop
  | fresh {source} : BufferedInputStream.Buffering C At start source ⟨0, 0⟩ →
      Follows C At At' start primitives associatedData aead t₀ ⟨primitives, source, associatedData, false, none⟩ t₀
  | matched {primitives' source associatedData' attempted s t} :
      Twins (BufferedInputStream.StandsAt C At true) (fun s => ∃ c, BufferedInputStream.StandsAt C At true s c) At' s t →
      Follows C At At' start primitives associatedData aead t₀
        ⟨primitives', source, associatedData', attempted, some ⟨aead, s⟩⟩ t

theorem Follows.call (hs : Supplies C At (fun _ => False)) (hr : ReadsFrom C At') (hown : At' own ⟨0, last⟩)
    {before after : List StreamingAead} {aead : StreamingAead} {t₀ : DecryptingStream aead.State τ}
    (ht : aead.newDecryptingStream own associatedData = .ok t₀) (hmatch : IsMatch t₀.next.1)
    (hfail : ∀ aead ∈ before, aead.FailsFirst own associatedData) {start : σ}
    (hfits : ∀ tried ∈ before ++ [aead], FitsBuffer start (tried.firstReads associatedData C))
    {w : DecryptingInputStream σ} {t : DecryptingStream aead.State τ} (op : ReadOp)
    (h : Follows C At At' start (before ++ aead :: after) associatedData aead t₀ w t) :
    Trace.Agree (Follows C At At' start (before ++ aead :: after) associatedData aead t₀) (w.call op) (t.call op) := by
  cases h with
  | @fresh source hat =>
    cases op with
    | next =>
      obtain ⟨source₁, hat₁, hskip⟩ := findMatch_append hs hr hown before (aead :: after) hfail
        (fun tried h => hfits tried (List.mem_append_left _ h)) hat
      obtain ⟨source₂, s, hfind, htwins⟩ := findMatch_of_match hs hr hown (hfits aead (by simp)) ht hmatch after hat₁
      rw [hfind] at hskip
      unfold DecryptingInputStream.call DecryptingStream.call DecryptingInputStream.next
      simp only [Bool.false_eq_true, if_false, hskip, DecryptingInputStream.position, htwins.buffer.1]
      exact .some (.matched htwins)
    | backUp count =>
      have hnew := StreamingAead.newDecryptingStream_isNew ht
      unfold DecryptingInputStream.call DecryptingStream.call
      simp only [DecryptingStream.backUp_of_fresh hnew.initialized, hnew.position]
      exact .some (.fresh hat)
  | @matched primitives' source associatedData' attempted s t htwins =>
    cases op with
    | next =>
      obtain ⟨hresult, htwins'⟩ := htwins.next (BufferedInputStream.delivers hs) hr.delivers
      unfold DecryptingInputStream.call DecryptingStream.call DecryptingInputStream.next
      simp only [DecryptingInputStream.position, htwins'.buffer.1, hresult]
      exact .some (.matched htwins')
    | backUp count =>
      have htwins' := htwins.backUp count
      unfold DecryptingInputStream.call DecryptingStream.call DecryptingInputStream.backUp
      simp only [DecryptingInputStream.position, htwins'.buffer.1]
      exact .some (.matched htwins')

/-- **The wrapper's stream answers as the stream of the key that matches**, whatever the keys before it read, if it fits
in the buffer. -/
theorem decryptingInputStream_follows (hs : Supplies C At (fun _ => False)) (hr : ReadsFrom C At') {source : σ} {l : Nat}
    (hat : At source ⟨0, l⟩) (hown : At' own ⟨0, last⟩) {before after : List StreamingAead} {aead : StreamingAead}
    {t : DecryptingStream aead.State τ} (ht : aead.newDecryptingStream own associatedData = .ok t)
    (hmatch : IsMatch t.next.1) (hfail : ∀ aead ∈ before, aead.FailsFirst own associatedData)
    (hfits : ∀ tried ∈ before ++ [aead], FitsBuffer source (tried.firstReads associatedData C)) (calls : List ReadOp) :
    Trace.answers DecryptingInputStream.call (.new (before ++ aead :: after) source associatedData) calls =
      Trace.answers DecryptingStream.call t calls :=
  Trace.answers_eq (fun _ _ op h => Follows.call hs hr hown ht hmatch hfail hfits op h) calls
    (.fresh ⟨BufferedInputStream.inv_new hat, .start⟩)

/-- **A ciphertext of no key**: every `Next` fails. -/
theorem decryptingInputStream_noMatch (hs : Supplies C At (fun _ => False)) (hr : ReadsFrom C At') {source : σ} {l : Nat}
    (hat : At source ⟨0, l⟩) (hown : At' own ⟨0, last⟩) {primitives : List StreamingAead}
    (hfail : ∀ aead ∈ primitives, aead.FailsFirst own associatedData)
    (hfits : ∀ aead ∈ primitives, FitsBuffer source (aead.firstReads associatedData C)) (calls : List ReadOp) :
    let answers := Trace.answers DecryptingInputStream.call (.new primitives source associatedData) calls
    answers.length = calls.length ∧
      ∀ o ∈ answers, ∀ result, o.1 = some result → result = .error DecryptingInputStream.noMatch := by
  refine Trace.forall_answers
    (I := fun w => w.matchingStream = none ∧ (w.attemptedMatching = true ∨ w = .new primitives source associatedData))
    ?_ calls ⟨rfl, .inr rfl⟩
  rintro w op ⟨hnone, hw⟩
  cases op with
  | backUp count =>
    have hsame : w.backUp count = w := by
      unfold DecryptingInputStream.backUp
      rw [hnone]
    unfold DecryptingInputStream.call
    simp only [hsame]
    exact ⟨_, _, rfl, (fun result h => by cases h), hnone, hw⟩
  | next =>
    have hnext : ∃ w₁, w.next = (.error DecryptingInputStream.noMatch, w₁) ∧ w₁.matchingStream = none ∧
        w₁.attemptedMatching = true := by
      unfold DecryptingInputStream.next
      rw [hnone]
      rcases hw with hattempted | rfl
      · simp only [hattempted, if_true]
        exact ⟨w, rfl, hnone, hattempted⟩
      · have hbuffering : BufferedInputStream.Buffering C At source (.new source) ⟨0, 0⟩ :=
          ⟨BufferedInputStream.inv_new hat, .start⟩
        obtain ⟨source', -, hfind⟩ := findMatch_append hs hr hown primitives [] hfail hfits hbuffering
        rw [List.append_nil] at hfind
        simp only [DecryptingInputStream.new, hfind]
        exact ⟨_, rfl, rfl, rfl⟩
    obtain ⟨w₁, hnext, hnone₁, hattempted₁⟩ := hnext
    unfold DecryptingInputStream.call
    simp only [hnext]
    exact ⟨_, _, rfl, (fun result h => (Option.some.inj h).symm), hnone₁, .inl hattempted₁⟩

end Matching

end Tink
