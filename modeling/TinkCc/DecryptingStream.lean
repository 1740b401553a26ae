import TinkCc.EncryptingStream
/-!
# DecryptingStream — `StreamingAeadDecryptingStream`

The stream reads a ciphertext segment at a time.  It does not know which segment is the last: a segment that the source
cut short is decrypted as the last one, a full one first as a not-last one and then, if that fails, as the last one
(`decryptGuess`).

`Decrypts` says what that does to a byte string, without streams: segment after segment, as long as the decrypter
accepts.  `next_spec` says that `Next` does just this over every source of the byte string, whatever its buffers, and
whatever the caller backs up.
-/
namespace Tink

open Cut

/-! ## The segment decrypter and the stream -/

/-- `StreamSegmentDecrypter`: `Init` makes of a header, and of what an earlier `Init` made, what `DecryptSegment` works
with. -/
structure SegmentDecrypter (κ : Type) where
  headerSize            : Nat
  plaintextSegmentSize  : Nat
  ciphertextSegmentSize : Nat
  ciphertextOffset      : Nat
  init                  : (state : Option κ) → (header : Bytes) → Except Status κ
  decryptSegment        : κ → (ciphertext : Bytes) → (segmentNumber : Nat) → (isLastSegment : Bool) → Except Status Bytes

def SegmentDecrypter.firstSegmentSize {κ : Type} (d : SegmentDecrypter κ) : Int :=
  d.ciphertextSegmentSize - d.ciphertextOffset - d.headerSize

/-- The members of `StreamingAeadDecryptingStream`; `initialized` is `is_initialized_` and what `Init` made. -/
structure DecryptingStream (κ σ : Type) where
  segmentDecrypter : SegmentDecrypter κ
  ctSource         : σ
  ctBuffer         : Bytes
  ptBuffer         : Bytes
  position         : Nat
  segmentNumber    : Nat
  initialized      : Option κ
  readLastSegment  : Bool
  countBackedup    : Nat
  ptBufferOffset   : Nat
  status           : Except Status Unit

/-- `DecryptSegment` on a segment the source cut short or not, and on a full one once more as the last segment: the
plaintext, and whether it was decrypted as the last. -/
def decryptGuess {κ : Type} (d : SegmentDecrypter κ) (k : κ) (ciphertext : Bytes) (segmentNumber : Nat)
    (cutShort : Bool) : Except Status (Bytes × Bool) :=
  match d.decryptSegment k ciphertext segmentNumber cutShort with
  | .ok p => .ok (p, cutShort)
  | .error e =>
    if cutShort then .error e
    else
      match d.decryptSegment k ciphertext segmentNumber true with
      | .ok p => .ok (p, true)
      | .error e => .error e

namespace DecryptingStream
variable {κ σ : Type}

def new (segmentDecrypter : SegmentDecrypter κ) (ciphertextSource : σ) : Except Status (DecryptingStream κ σ) :=
  if segmentDecrypter.firstSegmentSize ≤ 0 then
    .error ⟨.internal, "Size of the first segment must be greater than 0."⟩
  else
    .ok { segmentDecrypter := segmentDecrypter, ctSource := ciphertextSource,
          ctBuffer := List.replicate segmentDecrypter.firstSegmentSize.toNat 0, ptBuffer := [], position := 0,
          segmentNumber := 0, initialized := none, readLastSegment := false,
          countBackedup := segmentDecrypter.firstSegmentSize.toNat, ptBufferOffset := 0, status := .ok () }

/-- The part of `Next` that reads `count` bytes of ciphertext and decrypts them. -/
def readAndDecrypt [InputStream σ] (s : DecryptingStream κ σ) (k : κ) (count : Nat) : DecryptingStream κ σ :=
  let (status, ct, src) := readFromStream s.ctSource count
  let s := { s with ctSource := src, ctBuffer := ct, status := status }
  let decrypt := fun cutShort =>
    match decryptGuess s.segmentDecrypter k ct s.segmentNumber cutShort with
    | .ok (p, isLast) => { s with ptBuffer := p, readLastSegment := isLast, status := .ok () }
    | .error e => { s with readLastSegment := true, status := .error e }
  match status with
  | .ok () => decrypt false
  | .error e => if e.code = .outOfRange then decrypt true else s

/-- `Next`: the bytes of the buffer it returns, which is the part of `ptBuffer` from `ptBufferOffset` on. -/
def next [InputStream σ] (s : DecryptingStream κ σ) : Except Status Bytes × DecryptingStream κ σ :=
  match s.status with
  | .error e => (.error e, s)
  | .ok () =>
    match s.initialized with
    | none =>
      let (status, header, src) := readFromStream s.ctSource s.segmentDecrypter.headerSize
      let s := { s with ctSource := src }
      match status with
      | .error e =>
        let e := if e.code = .outOfRange then ⟨.invalidArgument, "Could not read stream header."⟩ else e
        (.error e, { s with status := .error e })
      | .ok () =>
        match s.segmentDecrypter.init none header with
        | .error e => (.error e, { s with status := .error e })
        | .ok k =>
          let s := readAndDecrypt { s with initialized := some k, countBackedup := 0 } k s.ctBuffer.length
          match s.status with
          | .error e => (.error e, s)
          | .ok () => (.ok s.ptBuffer, { s with position := s.ptBuffer.length })
    | some k =>
      if 0 < s.countBackedup then
        let offset := s.ptBuffer.length - s.countBackedup
        (.ok (s.ptBuffer.drop offset),
          { s with position := s.position + s.countBackedup, ptBufferOffset := offset, countBackedup := 0 })
      else if s.readLastSegment then
        (.error ⟨.outOfRange, "Reached end of stream."⟩,
          { s with status := .error ⟨.outOfRange, "Reached end of stream."⟩ })
      else
        let s := readAndDecrypt { s with segmentNumber := s.segmentNumber + 1 } k s.segmentDecrypter.ciphertextSegmentSize
        match s.status with
        | .error e => (.error e, s)
        | .ok () => (.ok s.ptBuffer, { s with ptBufferOffset := 0, position := s.position + s.ptBuffer.length })

def backUp (count : Int) (s : DecryptingStream κ σ) : DecryptingStream κ σ :=
  match s.status with
  | .error _ => s
  | .ok () =>
    if s.initialized.isNone || count < 1 then s
    else
      let currBufferSize := s.ptBuffer.length - s.ptBufferOffset
      let actualCount := min count.toNat (currBufferSize - s.countBackedup)
      { s with countBackedup := s.countBackedup + actualCount, position := s.position - actualCount }

end DecryptingStream

/-! ## Runs -/

inductive ReadOp
  | next
  | backUp (count : Int)

/-- A call, with the caller's account of what it has consumed. -/
def runRead {κ σ : Type} [InputStream σ] : DecryptingStream κ σ × Cursor → ReadOp → DecryptingStream κ σ × Cursor
  | (s, c), .next =>
    match s.next with
    | (.ok bs, s') => (s', c.next bs.length)
    | (.error _, s') => (s', { c with last := 0 })
  | (s, c), .backUp count => (s.backUp count, c.backUp count)

/-! ## Sequential decryption of a byte string -/

section Spec
variable {κ : Type} (d : SegmentDecrypter κ) (S : Bytes)

/-- The bytes the stream asks for, for segment `i`. -/
def SegmentDecrypter.segmentSize (i : Nat) : Nat :=
  if i = 0 then d.firstSegmentSize.toNat else d.ciphertextSegmentSize

/-- The header of `S` is there, and `Init` accepts it. -/
structure Opened (k : κ) : Prop where
  headerSize_pos : 0 < d.headerSize
  headerSize_le  : d.headerSize ≤ S.length
  init           : d.init none (S.take d.headerSize) = .ok k

/-- Where the segment behind the segments `xs` starts. -/
def segmentStart (xs : List Bytes) : Nat := d.headerSize + xs.flatten.length

/-- The ciphertext segment behind the segments `xs`, as far as there is one. -/
def segmentAt (xs : List Bytes) : Bytes := (S.drop (segmentStart d xs)).take (d.segmentSize xs.length)

/-- `S` ends inside that segment. -/
def cutShort (xs : List Bytes) : Bool := decide (S.length < segmentStart d xs + d.segmentSize xs.length)

/-- **Segment after segment, `S` decrypts**: the ciphertext segments read, their plaintexts, and whether the last of
them was accepted as the last of the stream. -/
inductive Decrypts (k : κ) : List Bytes → List Bytes → Bool → Prop
  | nil : Decrypts k [] [] false
  | snoc {xs ps p isLast} : Decrypts k xs ps false →
      decryptGuess d k (segmentAt d S xs) xs.length (cutShort d S xs) = .ok (p, isLast) →
      Decrypts k (xs ++ [segmentAt d S xs]) (ps ++ [p]) isLast

/-- The errors of the stream, OUT_OF_RANGE at its end apart. -/
inductive Rejected : Status → Prop
  | header {e} : d.headerSize = 0 ∨ S.length < d.headerSize → e.code ≠ .outOfRange → Rejected e
  | init {e} : d.init none (S.take d.headerSize) = .error e → Rejected e
  | segment {k xs ps e} : Opened d S k → Decrypts d S k xs ps false →
      decryptGuess d k (segmentAt d S xs) xs.length (cutShort d S xs) = .error e → Rejected e

/-- The stream was read to its end. -/
structure Finished (e : Status) (pos : Nat) : Prop where
  code : e.code = .outOfRange
  read : ∃ k xs ps, Opened d S k ∧ Decrypts d S k xs ps true ∧ pos = ps.flatten.length

variable {d S}

theorem Decrypts.length_eq {k : κ} {xs ps : List Bytes} {isLast : Bool} (h : Decrypts d S k xs ps isLast) :
    xs.length = ps.length := by
  induction h with
  | nil => rfl
  | snoc _ _ ih => rw [List.length_append, List.length_append, ih, List.length_singleton, List.length_singleton]

/-- A segment accepted as a not-last one was full. -/
theorem decryptGuess_not_last {k : κ} {x p : Bytes} {i : Nat} {short : Bool}
    (h : decryptGuess d k x i short = .ok (p, false)) : short = false ∧ d.decryptSegment k x i false = .ok p := by
  unfold decryptGuess at h
  split at h
  · rename_i p' hp
    cases h
    exact ⟨rfl, hp⟩
  · split at h
    · cases h
    · split at h
      · cases h
      · cases h

/-- A segment accepted as the last one was cut short, or refused as a not-last one. -/
theorem decryptGuess_last {k : κ} {x p : Bytes} {i : Nat} {short : Bool}
    (h : decryptGuess d k x i short = .ok (p, true)) :
    d.decryptSegment k x i true = .ok p ∧ (short = false → ∃ e, d.decryptSegment k x i false = .error e) := by
  unfold decryptGuess at h
  split at h
  · rename_i p' hp
    cases h
    exact ⟨hp, fun h => by cases h⟩
  · rename_i e he
    split at h
    · cases h
    · rename_i hs
      split at h
      · rename_i p' hp
        cases h
        obtain rfl : short = false := by simpa using hs
        exact ⟨hp, fun _ => ⟨e, he⟩⟩
      · cases h

theorem segmentAt_length (xs : List Bytes) (h : cutShort d S xs = false) :
    (segmentAt d S xs).length = d.segmentSize xs.length := by
  unfold cutShort at h
  rw [decide_eq_false_iff_not] at h
  unfold segmentAt
  rw [List.length_take, List.length_drop]
  omega

theorem segmentStart_snoc (xs : List Bytes) (x : Bytes) : segmentStart d (xs ++ [x]) = segmentStart d xs + x.length := by
  unfold segmentStart
  rw [List.flatten_append, List.length_append, List.flatten_singleton]
  omega

end Spec

/-! ## The stream decrypts its source segment after segment -/

section Inv
variable {κ σ : Type} {At : σ → Cursor → Prop} {d : SegmentDecrypter κ} {S : Bytes}

/-- **The states a run reaches.** -/
inductive DecryptingStream.Inv (At : σ → Cursor → Prop) (d : SegmentDecrypter κ) (S : Bytes) :
    DecryptingStream κ σ → Cursor → Prop
  | fresh {src last} : At src ⟨0, last⟩ →
      Inv At d S ⟨d, src, List.replicate d.firstSegmentSize.toNat 0, [], 0, 0, none, false, d.firstSegmentSize.toNat, 0,
        .ok ()⟩ ⟨0, 0⟩
  | reading {k src ct xs ps p isLast backedup offset c} : Opened d S k → Decrypts d S k xs (ps ++ [p]) isLast →
      (isLast = false → ∃ last, At src ⟨segmentStart d xs, last⟩) → offset + backedup ≤ p.length →
      c.pos + backedup = (ps ++ [p]).flatten.length → c.last = p.length - offset - backedup →
      Inv At d S ⟨d, src, ct, p, c.pos, ps.length, some k, isLast, backedup, offset, .ok ()⟩ c
  | ended {s e c} : s.status = .error e → s.position = c.pos → c.last = 0 → Finished d S e c.pos ∨ Rejected d S e →
      Inv At d S s c

/-- What `Next` gives, to a caller at `c`; an empty buffer is an empty segment. -/
inductive NextResult (At : σ → Cursor → Prop) (d : SegmentDecrypter κ) (S : Bytes) (c : Cursor) :
    Except Status Bytes × DecryptingStream κ σ → Prop
  | ok {k xs ps isLast bs s'} : Opened d S k → Decrypts d S k xs ps isLast → c.pos ≤ ps.flatten.length →
      bs = ps.flatten.drop c.pos → (bs = [] → bs ∈ ps) → DecryptingStream.Inv At d S s' (c.next bs.length) →
      NextResult At d S c (.ok bs, s')
  | error {e s'} : Finished d S e c.pos ∨ Rejected d S e → DecryptingStream.Inv At d S s' { c with last := 0 } →
      NextResult At d S c (.error e, s')

theorem NextResult.of_rejected {c : Cursor} {e : Status} {s : DecryptingStream κ σ} (hst : s.status = .error e)
    (hp : s.position = c.pos) (h : Rejected d S e) : NextResult At d S c (.error e, s) :=
  .error (.inr h) (.ended hst hp rfl (.inr h))

/-- A segment that was just decrypted, and is given as a whole. -/
theorem NextResult.of_segment {k : κ} {src : σ} (ct : Bytes) {x p : Bytes} {xs ps : List Bytes} {isLast : Bool} {c : Cursor}
    (ho : Opened d S k) (hd : Decrypts d S k (xs ++ [x]) (ps ++ [p]) isLast)
    (hat : isLast = false → ∃ last, At src ⟨segmentStart d (xs ++ [x]), last⟩) (hc : c.pos = ps.flatten.length) :
    NextResult At d S c
      (.ok p, ⟨d, src, ct, p, c.pos + p.length, ps.length, some k, isLast, 0, 0, .ok ()⟩) := by
  have hflat : (ps ++ [p]).flatten = ps.flatten ++ p := by rw [List.flatten_append, List.flatten_singleton]
  have hlen : (ps ++ [p]).flatten.length = c.pos + p.length := by rw [hflat, List.length_append, hc]
  refine .ok ho hd (by omega) (by rw [hflat, hc, List.drop_left]) (fun _ => by simp) ?_
  exact .reading (c := c.next p.length) ho hd hat (by omega) hlen.symm rfl

theorem DecryptingStream.Inv.position {s : DecryptingStream κ σ} {c : Cursor} (h : DecryptingStream.Inv At d S s c) :
    s.position = c.pos := by
  cases h with
  | fresh => rfl
  | reading => rfl
  | ended _ hp => exact hp

theorem DecryptingStream.inv_new (hF : 0 < d.firstSegmentSize) {src : σ} {last : Nat} (hat : At src ⟨0, last⟩) :
    ∃ s, DecryptingStream.new d src = .ok s ∧ DecryptingStream.Inv At d S s ⟨0, 0⟩ := by
  refine ⟨_, ?_, .fresh hat⟩
  unfold DecryptingStream.new
  rw [if_neg (by omega)]

theorem DecryptingStream.Inv.backUp {s : DecryptingStream κ σ} {c : Cursor} (h : DecryptingStream.Inv At d S s c)
    (count : Int) : DecryptingStream.Inv At d S (s.backUp count) (c.backUp count) := by
  cases h with
  | fresh hat =>
    rw [Cursor.backUp_of_last_eq_zero rfl]
    exact .fresh hat
  | @reading k src ct xs ps p isLast backedup offset c ho hd hat hoff hpos hlast =>
    have hc : c.pos + backedup = (ps ++ [p]).flatten.length := hpos
    rw [List.flatten_append, List.length_append, List.flatten_singleton] at hc
    by_cases hcount : count < 1
    · have hs : DecryptingStream.backUp count ⟨d, src, ct, p, c.pos, ps.length, some k, isLast, backedup, offset, .ok ()⟩ =
          ⟨d, src, ct, p, c.pos, ps.length, some k, isLast, backedup, offset, .ok ()⟩ := by
        unfold DecryptingStream.backUp
        simp [hcount]
      rw [Cursor.backUp_of_lt_one hcount, hs]
      exact .reading ho hd hat hoff hpos hlast
    · have hs : DecryptingStream.backUp count ⟨d, src, ct, p, c.pos, ps.length, some k, isLast, backedup, offset, .ok ()⟩ =
          ⟨d, src, ct, p, (c.backUp count).pos, ps.length, some k, isLast,
            backedup + min count.toNat (p.length - offset - backedup), offset, .ok ()⟩ := by
        unfold DecryptingStream.backUp Cursor.backUp
        simp [hcount, hlast]
      have hcpos : (c.backUp count).pos = c.pos - min count.toNat (p.length - offset - backedup) := by
        unfold Cursor.backUp
        rw [hlast]
      have hclast : (c.backUp count).last = c.last - min count.toNat (p.length - offset - backedup) := by
        unfold Cursor.backUp
        rw [hlast]
      rw [hs]
      exact .reading ho hd hat (by omega) (by omega) (by omega)
  | ended hst hp hl hend =>
    have hs : s.backUp count = s := by
      unfold DecryptingStream.backUp
      rw [hst]
    rw [hs, Cursor.backUp_of_last_eq_zero hl]
    exact .ended hst hp hl hend

end Inv

/-! ## One call -/

section Step
variable {κ σ : Type} [InputStream σ] {At : σ → Cursor → Prop} {d : SegmentDecrypter κ} {S : Bytes}

theorem readAndDecrypt_eq (hr : ReadsFrom S At) (s : DecryptingStream κ σ) (k : κ) {xs : List Bytes} {last : Nat}
    (hat : At s.ctSource ⟨segmentStart d xs, last⟩) (hpos : 0 < d.segmentSize xs.length) :
    ∃ src, (cutShort d S xs = false → ∃ last', At src ⟨segmentStart d (xs ++ [segmentAt d S xs]), last'⟩) ∧
      s.readAndDecrypt k (d.segmentSize xs.length) =
        match decryptGuess s.segmentDecrypter k (segmentAt d S xs) s.segmentNumber (cutShort d S xs) with
        | .ok (p, isLast) =>
          { s with ctSource := src, ctBuffer := segmentAt d S xs, ptBuffer := p, readLastSegment := isLast,
                   status := .ok () }
        | .error e =>
          { s with ctSource := src, ctBuffer := segmentAt d S xs, readLastSegment := true, status := .error e } := by
  obtain ⟨hfull, hshort⟩ := readFromStream_eq hr.delivers hpos hat
  by_cases hcut : S.length < segmentStart d xs + d.segmentSize xs.length
  · obtain ⟨e, src, he, hcode, -⟩ := hshort hcut
    have hx : segmentAt d S xs = S.drop (segmentStart d xs) :=
      List.take_of_length_le (by rw [List.length_drop]; omega)
    have hc : cutShort d S xs = true := decide_eq_true hcut
    refine ⟨src, fun h => absurd (hc.symm.trans h) (by decide), ?_⟩
    unfold DecryptingStream.readAndDecrypt
    simp only [he, hcode, if_true, hc, hx]
  · obtain ⟨src, last', he, hat'⟩ := hfull (by simp only; omega)
    have hc : cutShort d S xs = false := decide_eq_false hcut
    refine ⟨src, fun _ => ⟨last', ?_⟩, ?_⟩
    · rw [segmentStart_snoc, segmentAt_length xs hc]
      exact hat'
    · unfold DecryptingStream.readAndDecrypt
      simp only [he, hc]
      rfl

/-- The next segment is decrypted, or rejected. -/
theorem readAndDecrypt_cases (hr : ReadsFrom S At) {k : κ} {xs ps : List Bytes} {last : Nat} (ho : Opened d S k)
    (hd : Decrypts d S k xs ps false) (s : DecryptingStream κ σ) (hs : s.segmentDecrypter = d)
    (hnum : s.segmentNumber = xs.length) (hat : At s.ctSource ⟨segmentStart d xs, last⟩)
    (hpos : 0 < d.segmentSize xs.length) :
    (∃ src ct x p isLast, s.readAndDecrypt k (d.segmentSize xs.length) =
        { s with ctSource := src, ctBuffer := ct, ptBuffer := p, readLastSegment := isLast, status := .ok () } ∧
      Decrypts d S k (xs ++ [x]) (ps ++ [p]) isLast ∧
      (isLast = false → ∃ last', At src ⟨segmentStart d (xs ++ [x]), last'⟩)) ∨
    (∃ src ct e, s.readAndDecrypt k (d.segmentSize xs.length) =
        { s with ctSource := src, ctBuffer := ct, readLastSegment := true, status := .error e } ∧ Rejected d S e) := by
  obtain ⟨src, hsrc, he⟩ := readAndDecrypt_eq hr s k hat hpos
  have hguess : decryptGuess s.segmentDecrypter k (segmentAt d S xs) s.segmentNumber (cutShort d S xs) =
      decryptGuess d k (segmentAt d S xs) xs.length (cutShort d S xs) := by rw [hs, hnum]
  rw [hguess] at he
  cases hg : decryptGuess d k (segmentAt d S xs) xs.length (cutShort d S xs) with
  | error e =>
    rw [hg] at he
    exact .inr ⟨src, _, e, he, .segment ho hd hg⟩
  | ok r =>
    obtain ⟨p, isLast⟩ := r
    rw [hg] at he
    refine .inl ⟨src, _, segmentAt d S xs, p, isLast, he, .snoc hd hg, fun hl => ?_⟩
    rw [hl] at hg
    exact hsrc (decryptGuess_not_last hg).1

/-- The first `Next`. -/
theorem next_of_fresh (hr : ReadsFrom S At) (hF : 0 < d.firstSegmentSize) {src : σ} {last : Nat} (hat : At src ⟨0, last⟩) :
    NextResult At d S ⟨0, 0⟩ (DecryptingStream.next ⟨d, src, List.replicate d.firstSegmentSize.toNat 0, [], 0, 0, none,
      false, d.firstSegmentSize.toNat, 0, .ok ()⟩) := by
  unfold DecryptingStream.next
  by_cases h0 : d.headerSize = 0
  · have he : readFromStream src d.headerSize = (.error ⟨.internal, "Illegal read from a stream"⟩, [], src) := by
      unfold readFromStream
      rw [if_pos h0]
    simp only [he]
    exact .of_rejected rfl rfl (.header (.inl h0) (by decide))
  · have hpos : 0 < d.headerSize := by omega
    obtain ⟨hfull, hshort⟩ := readFromStream_eq hr.delivers hpos hat
    by_cases hlen : S.length < d.headerSize
    · obtain ⟨e, src', he, hcode, -⟩ := hshort (by simp only; omega)
      simp only [he, hcode, if_true]
      exact .of_rejected rfl rfl (.header (.inr hlen) (by decide))
    · obtain ⟨src', last', he, hat'⟩ := hfull (by simp only; omega)
      simp only [List.drop_zero, Nat.zero_add] at he hat'
      simp only [he]
      cases hinit : d.init none (S.take d.headerSize) with
      | error e =>
        simp only
        exact .of_rejected rfl rfl (.init hinit)
      | ok k =>
        have ho : Opened d S k := ⟨by omega, by omega, hinit⟩
        have hsize : (List.replicate d.firstSegmentSize.toNat (0 : UInt8)).length = d.segmentSize ([] : List Bytes).length := by
          rw [List.length_replicate]
          rfl
        simp only [hsize]
        rcases readAndDecrypt_cases hr ho .nil ⟨d, src', List.replicate d.firstSegmentSize.toNat 0, [], 0, 0, some k, false,
            0, 0, .ok ()⟩ rfl rfl hat' (by rw [← hsize, List.length_replicate]; omega) with
          ⟨src'', ct, x, p, isLast, hs, hd, hsrc⟩ | ⟨src'', ct, e, hs, hrej⟩
        · simp only [hs]
          have := NextResult.of_segment (c := ⟨0, 0⟩) ct ho hd hsrc rfl
          rw [Nat.zero_add] at this
          exact this
        · simp only [hs]
          exact .of_rejected rfl rfl hrej

/-- **Every `Next` gives the next bytes of the segments, the end, or an error that stays.** -/
theorem next_spec (hr : ReadsFrom S At) (hF : 0 < d.firstSegmentSize) {s : DecryptingStream κ σ} {c : Cursor}
    (h : DecryptingStream.Inv At d S s c) : NextResult At d S c s.next := by
  cases h with
  | fresh hat => exact next_of_fresh hr hF hat
  | @reading k src ct xs ps p isLast backedup offset c ho hd hat hoff hpos hlast =>
    have hflat : (ps ++ [p]).flatten = ps.flatten ++ p := by rw [List.flatten_append, List.flatten_singleton]
    unfold DecryptingStream.next
    simp only
    by_cases hb : 0 < backedup
    · simp only [hb, if_true]
      have hlen : (p.drop (p.length - backedup)).length = backedup := by
        rw [List.length_drop]
        omega
      refine .ok ho hd (by omega) ?_ (fun hnil => ?_) ?_
      · rw [hflat, List.length_append] at hpos
        rw [hflat, show c.pos = ps.flatten.length + (p.length - backedup) by omega, List.drop_length_add_append]
      · rw [hnil, List.length_nil] at hlen
        omega
      · rw [hlen]
        exact .reading (c := c.next backedup) ho hd hat (by omega) hpos (by show backedup = _; omega)
    · obtain rfl : backedup = 0 := by omega
      simp only [Nat.lt_irrefl, if_false]
      cases isLast with
      | true =>
        have hfin : Finished d S ⟨.outOfRange, "Reached end of stream."⟩ c.pos := ⟨rfl, k, xs, _, ho, hd, hpos⟩
        exact .error (.inl hfin) (.ended rfl rfl rfl (.inl hfin))
      | false =>
        obtain ⟨last, hat'⟩ := hat rfl
        have hnum : ps.length + 1 = xs.length := by rw [hd.length_eq, List.length_append, List.length_singleton]
        have hsize : d.ciphertextSegmentSize = d.segmentSize xs.length := by
          unfold SegmentDecrypter.segmentSize
          rw [if_neg (by omega)]
        simp only [Bool.false_eq_true, if_false, hsize]
        rcases readAndDecrypt_cases hr ho hd ⟨d, src, ct, p, c.pos, ps.length + 1, some k, false, 0, offset, .ok ()⟩ rfl
            hnum hat' (by rw [← hsize]; unfold SegmentDecrypter.firstSegmentSize at hF; omega) with
          ⟨src', ct', x, p', isLast, hs, hd', hsrc⟩ | ⟨src', ct', e, hs, hrej⟩
        · simp only [hs]
          have := NextResult.of_segment ct' ho hd' hsrc hpos
          rw [List.length_append, List.length_singleton] at this
          exact this
        · simp only [hs]
          exact .of_rejected rfl rfl hrej
  | @ended s e c hst hp hl hend =>
    have hnext : s.next = (.error e, s) := by
      unfold DecryptingStream.next
      rw [hst]
    rw [hnext]
    exact .error hend (.ended hst hp rfl hend)

theorem runRead_next_of_ok {s s' : DecryptingStream κ σ} {c : Cursor} {bs : Bytes} (h : s.next = (.ok bs, s')) :
    runRead (s, c) .next = (s', c.next bs.length) := by
  show (match s.next with
    | (.ok bs, s') => (s', c.next bs.length)
    | (.error _, s') => (s', { c with last := 0 })) = _
  rw [h]

theorem runRead_next_of_error {s s' : DecryptingStream κ σ} {c : Cursor} {e : Status} (h : s.next = (.error e, s')) :
    runRead (s, c) .next = (s', { c with last := 0 }) := by
  show (match s.next with
    | (.ok bs, s') => (s', c.next bs.length)
    | (.error _, s') => (s', { c with last := 0 })) = _
  rw [h]

/-- **Every call keeps the invariant.** -/
theorem DecryptingStream.Inv.runRead (hr : ReadsFrom S At) (hF : 0 < d.firstSegmentSize) {s : DecryptingStream κ σ}
    {c : Cursor} (h : DecryptingStream.Inv At d S s c) (op : ReadOp) :
    DecryptingStream.Inv At d S (runRead (s, c) op).1 (runRead (s, c) op).2 := by
  cases op with
  | backUp count => exact h.backUp count
  | next =>
    have hspec := next_spec hr hF h
    rcases hnext : s.next with ⟨e | bs, s'⟩
    · rw [hnext] at hspec
      rw [runRead_next_of_error hnext]
      cases hspec with
      | error _ hinv => exact hinv
    · rw [hnext] at hspec
      rw [runRead_next_of_ok hnext]
      cases hspec with
      | ok _ _ _ _ _ hinv => exact hinv

theorem DecryptingStream.Inv.run (hr : ReadsFrom S At) (hF : 0 < d.firstSegmentSize) :
    ∀ (ops : List ReadOp) {s : DecryptingStream κ σ} {c : Cursor}, DecryptingStream.Inv At d S s c →
      DecryptingStream.Inv At d S (ops.foldl Tink.runRead (s, c)).1 (ops.foldl Tink.runRead (s, c)).2
  | [], _, _, h => h
  | op :: ops, s, c, h => by
    rw [List.foldl_cons]
    exact run hr hF ops (h.runRead hr hF op)

end Step

end Tink
