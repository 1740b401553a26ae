import TinkCc.DecryptingStream
/-!
# StreamingAead — the encrypting and the decrypting stream together

Over a ciphertext of the encrypting stream every read gives what comes next in the plaintext
(`decryptingStream_roundTrip`), unless the header is empty: the first read then asks the source for no bytes, which
`ReadFromStream` takes as an error.

Over any other bytes, with a decrypter that accepts only the segments of one stream, reading to the end proves that the
ciphertext is that stream's, unless bytes were appended behind a full last segment (`decryptingStream_integrity`).  A full
last segment is accepted when it is tried again as the last one, and the source is not asked whether it ends there.
-/
namespace Tink

open Cut

/-! ## A decrypter for an encrypter -/

section Fits
variable {κ : Type}

/-- The sizes fit, and a ciphertext segment is `overhead` bytes longer than its plaintext. -/
structure Fits (e : SegmentEncrypter) (d : SegmentDecrypter κ) (overhead : Nat) : Prop where
  headerSize            : d.headerSize = e.header.length
  plaintextSegmentSize  : d.plaintextSegmentSize = e.plaintextSegmentSize
  ciphertextSegmentSize : d.ciphertextSegmentSize = e.plaintextSegmentSize + overhead
  ciphertextOffset      : d.ciphertextOffset = e.ciphertextOffset
  length_eq             : ∀ {i p isLast c}, e.encryptSegment i p isLast = .ok c → c.length = p.length + overhead

/-- Started with the header, the decrypter undoes `EncryptSegment`. -/
structure Inverts (e : SegmentEncrypter) (d : SegmentDecrypter κ) (k : κ) : Prop where
  init    : d.init none e.header = .ok k
  decrypt : ∀ {i p isLast c}, e.encryptSegment i p isLast = .ok c → d.decryptSegment k c i isLast = .ok p

/-- **The matching decrypter**: it undoes `EncryptSegment`, and refuses the wrong last flag. -/
structure Matches (e : SegmentEncrypter) (d : SegmentDecrypter κ) (k : κ) (overhead : Nat) : Prop
    extends Fits e d overhead, Inverts e d k where
  wrongFlag : ∀ {i p isLast c}, e.encryptSegment i p isLast = .ok c →
    ∃ err, d.decryptSegment k c i (!isLast) = .error err

/-- It undoes the segments of one stream. -/
structure Undoes (d : SegmentDecrypter κ) (k : κ) (pieces cts : List Bytes) : Prop where
  decrypt : ∀ {i p c}, pieces[i]? = some p → cts[i]? = some c →
    d.decryptSegment k c i (decide (i + 1 = cts.length)) = .ok p

/-- It refuses the wrong flag with them too. -/
structure Opens (d : SegmentDecrypter κ) (k : κ) (pieces cts : List Bytes) : Prop extends Undoes d k pieces cts where
  wrongFlag : ∀ {i p c}, pieces[i]? = some p → cts[i]? = some c →
    ∃ err, d.decryptSegment k c i (!decide (i + 1 = cts.length)) = .error err

variable {e : SegmentEncrypter} {d : SegmentDecrypter κ} {k : κ} {overhead : Nat} {P : Bytes} {cts : List Bytes}

theorem Inverts.undoes (hinv : Inverts e d k) (hseg : e.Segments P cts) : Undoes d k (e.pieces P) cts :=
  ⟨fun hp hc => hinv.decrypt (hseg.2 _ _ _ hp hc)⟩

theorem Matches.opens (hm : Matches e d k overhead) (hseg : e.Segments P cts) : Opens d k (e.pieces P) cts :=
  ⟨hm.undoes hseg, fun hp hc => hm.wrongFlag (hseg.2 _ _ _ hp hc)⟩

theorem Fits.firstSegmentSize (hf : Fits e d overhead) : d.firstSegmentSize = e.firstSegmentSize + overhead := by
  unfold SegmentDecrypter.firstSegmentSize SegmentEncrypter.firstSegmentSize
  rw [hf.headerSize, hf.ciphertextSegmentSize, hf.ciphertextOffset]
  omega

theorem Fits.firstSegmentSize_pos (hf : Fits e d overhead) (hF : 0 < e.firstSegmentSize) : 0 < d.firstSegmentSize := by
  rw [hf.firstSegmentSize]
  omega

theorem Fits.segmentSize (hf : Fits e d overhead) (hF : 0 < e.firstSegmentSize) (qs : List Bytes) :
    d.segmentSize qs.length = nextSize e.firstSegmentSize.toNat e.plaintextSegmentSize qs + overhead := by
  unfold SegmentDecrypter.segmentSize
  rw [hf.firstSegmentSize, hf.ciphertextSegmentSize]
  cases qs with
  | nil =>
    simp only [List.length_nil, if_true, nextSize]
    omega
  | cons q qs => simp only [List.length_cons, Nat.add_one_ne_zero, if_false, nextSize]

/-- A segment tried with its flag, or with the wrong one first. -/
theorem decryptGuess_eq {x p : Bytes} {i : Nat} {isLast short : Bool} (hok : d.decryptSegment k x i isLast = .ok p)
    (hwrong : ∃ err, d.decryptSegment k x i (!isLast) = .error err) (hshort : short = true → isLast = true) :
    decryptGuess d k x i short = .ok (p, isLast) := by
  obtain ⟨err, herr⟩ := hwrong
  unfold decryptGuess
  cases isLast with
  | true =>
    cases short with
    | true => rw [hok]
    | false =>
      simp only [Bool.not_true] at herr
      rw [herr, hok]
      rfl
  | false =>
    cases short with
    | true => exact absurd (hshort rfl) (by decide)
    | false => rw [hok]

end Fits

/-! ## The segments of a stream, with or without bytes behind them -/

section Genuine
variable {κ : Type} {e : SegmentEncrypter} {d : SegmentDecrypter κ} {k : κ} {overhead : Nat} {P extra : Bytes}
  {cts : List Bytes}

/-- The plaintext ends with a full segment. -/
def EndsFull (e : SegmentEncrypter) (plaintext : Bytes) : Prop :=
  ∃ j, plaintext.length = e.firstSegmentSize.toNat + j * e.plaintextSegmentSize

theorem pieces_ne_nil (e : SegmentEncrypter) (plaintext : Bytes) : e.pieces plaintext ≠ [] := by
  unfold SegmentEncrypter.pieces
  rw [cut]
  split <;> simp

theorem SegmentEncrypter.Segments.length_pos (hseg : e.Segments P cts) : 0 < cts.length := by
  rw [hseg.1]
  exact List.length_pos_iff.2 (pieces_ne_nil e P)

/-- A segment but the last is a full one. -/
theorem Fits.segment_length (hf : Fits e d overhead) (hF : 0 < e.firstSegmentSize) (hseg : e.Segments P cts) {i : Nat}
    {p c : Bytes} (hp : (e.pieces P)[i]? = some p) (hc : cts[i]? = some c) :
    c.length = p.length + overhead ∧ c.length ≤ d.segmentSize i ∧ (i + 1 ≠ cts.length → c.length = d.segmentSize i) := by
  have hF' : 0 < e.firstSegmentSize.toNat := by omega
  have hS : 0 < e.plaintextSegmentSize := by unfold SegmentEncrypter.firstSegmentSize at hF; omega
  have hlen : c.length = p.length + overhead := hf.length_eq (hseg.2 _ _ _ hp hc)
  obtain ⟨behind, -, -, hle, -, hfull⟩ := cut_get hF' hS hp
  have hsize : start e.firstSegmentSize.toNat e.plaintextSegmentSize (i + 1) + overhead =
      start e.firstSegmentSize.toNat e.plaintextSegmentSize i + d.segmentSize i := by
    rw [start_succ]
    unfold SegmentDecrypter.segmentSize
    rw [hf.firstSegmentSize, hf.ciphertextSegmentSize]
    split <;> omega
  refine ⟨hlen, by omega, fun hne => ?_⟩
  rw [hseg.1] at hne
  have := (hfull hne).2
  omega

/-- The next segment of the stream is read and decrypted. -/
theorem segmentAt_genuine (hf : Fits e d overhead) (hF : 0 < e.firstSegmentSize) (hseg : e.Segments P cts)
    (ho : Opens d k (e.pieces P) cts) (hextra : extra = [] ∨ EndsFull e P) {xs zs qs rs : List Bytes} {y r : Bytes}
    (hxs : cts = xs ++ y :: zs) (hqs : e.pieces P = qs ++ r :: rs) (hlen : xs.length = qs.length) :
    segmentAt d (e.header ++ cts.flatten ++ extra) xs = y ∧
    decryptGuess d k y xs.length (cutShort d (e.header ++ cts.flatten ++ extra) xs) = .ok (r, decide (zs = [])) := by
  have hF' : 0 < e.firstSegmentSize.toNat := by omega
  have hS : 0 < e.plaintextSegmentSize := by unfold SegmentEncrypter.firstSegmentSize at hF; omega
  have hr : (e.pieces P)[xs.length]? = some r := by rw [hqs, hlen]; simp
  have hy : cts[xs.length]? = some y := by rw [hxs]; simp
  have hrest : zs.length = rs.length := by
    have := hseg.1
    rw [hxs, hqs, List.length_append, List.length_append, List.length_cons, List.length_cons] at this
    omega
  have hflag : decide (xs.length + 1 = cts.length) = decide (zs = []) := by
    rw [hxs, List.length_append, List.length_cons, decide_eq_decide, ← List.length_eq_zero_iff]
    omega
  obtain ⟨hylen, hle, hfull⟩ := hf.segment_length hF hseg hr hy
  have hS' : e.header ++ cts.flatten ++ extra = (e.header ++ xs.flatten) ++ (y ++ (zs.flatten ++ extra)) := by
    rw [hxs]
    simp
  have hstart : segmentStart d xs = (e.header ++ xs.flatten).length := by
    unfold segmentStart
    rw [hf.headerSize, List.length_append]
  -- what follows a segment that is not full is nothing
  have hbehind : zs = [] ∧ extra = [] ∨ y.length = d.segmentSize xs.length := by
    by_cases hz : zs = []
    · subst hz
      obtain rfl : rs = [] := List.eq_nil_of_length_eq_zero hrest.symm
      rcases hextra with rfl | hend
      · exact .inl ⟨rfl, rfl⟩
      · have := (last_full_iff hF' hS hqs).2 hend
        rw [hylen, this, hlen, hf.segmentSize hF]
        exact .inr rfl
    · have := List.length_pos_iff.2 hz
      refine .inr (hfull ?_)
      rw [hxs, List.length_append, List.length_cons]
      omega
  constructor
  · unfold segmentAt
    rw [hS', hstart, List.drop_left]
    rcases hbehind with ⟨hz, hx⟩ | heq
    · rw [hz, hx, List.flatten_nil, List.append_nil, List.append_nil]
      exact List.take_of_length_le (by omega)
    · rw [← heq, List.take_left]
  · rw [← hflag]
    refine decryptGuess_eq (ho.decrypt hr hy) (ho.wrongFlag hr hy) (fun hshort => ?_)
    have hcut : (e.header ++ cts.flatten ++ extra).length < segmentStart d xs + d.segmentSize xs.length := by
      simpa [cutShort] using hshort
    rw [hS', List.length_append, ← hstart, List.length_append] at hcut
    rw [hflag, decide_eq_true_eq]
    rcases hbehind with ⟨hz, -⟩ | heq
    · exact hz
    · omega

theorem segmentAt_genuine_of_ne_nil (hf : Fits e d overhead) (hF : 0 < e.firstSegmentSize) (hseg : e.Segments P cts)
    (ho : Opens d k (e.pieces P) cts) (hextra : extra = [] ∨ EndsFull e P) {xs zs qs rs : List Bytes}
    (hxs : cts = xs ++ zs) (hqs : e.pieces P = qs ++ rs) (hlen : xs.length = qs.length) (hz : zs ≠ []) :
    ∃ y zs' r rs', zs = y :: zs' ∧ rs = r :: rs' ∧ segmentAt d (e.header ++ cts.flatten ++ extra) xs = y ∧
      decryptGuess d k y xs.length (cutShort d (e.header ++ cts.flatten ++ extra) xs) = .ok (r, decide (zs' = [])) := by
  have hrest : zs.length = rs.length := by
    have := hseg.1
    rw [hxs, hqs, List.length_append, List.length_append] at this
    omega
  obtain ⟨y, zs, rfl⟩ := List.exists_cons_of_ne_nil hz
  obtain ⟨r, rs, rfl⟩ := List.exists_cons_of_length_eq_add_one hrest.symm
  exact ⟨y, zs, r, rs, rfl, rfl, segmentAt_genuine hf hF hseg ho hextra hxs hqs hlen⟩

/-- **Decrypting the stream's bytes gives the stream's segments**, and the last of them is accepted as the last. -/
theorem Decrypts.genuine (hf : Fits e d overhead) (hF : 0 < e.firstSegmentSize) (hseg : e.Segments P cts)
    (ho : Opens d k (e.pieces P) cts) (hextra : extra = [] ∨ EndsFull e P) {xs qs : List Bytes} {isLast : Bool}
    (h : Decrypts d (e.header ++ cts.flatten ++ extra) k xs qs isLast) :
    ∃ zs rs, cts = xs ++ zs ∧ e.pieces P = qs ++ rs ∧ isLast = decide (zs = []) ∧ zs.length = rs.length := by
  induction h with
  | nil =>
    refine ⟨cts, e.pieces P, rfl, rfl, (decide_eq_false fun hnil => ?_).symm, hseg.1⟩
    have := hseg.1
    rw [hnil] at this
    exact pieces_ne_nil e P (List.eq_nil_of_length_eq_zero this.symm)
  | @snoc xs qs p isLast hd hg ih =>
    obtain ⟨zs, rs, hxs, hqs, hl, hrest⟩ := ih
    obtain ⟨y, zs, r, rs, rfl, rfl, hy, hguess⟩ := segmentAt_genuine_of_ne_nil hf hF hseg ho hextra hxs hqs hd.length_eq
      (of_decide_eq_false hl.symm)
    rw [hy, hguess] at hg
    cases hg
    exact ⟨zs, rs, by rw [hy, hxs]; simp, by rw [hqs]; simp, rfl, by simpa using hrest⟩

/-- No segment of the stream is rejected. -/
theorem not_rejected (hf : Fits e d overhead) (hF : 0 < e.firstSegmentSize) (hseg : e.Segments P cts)
    (ho : Opens d k (e.pieces P) cts) (hextra : extra = [] ∨ EndsFull e P) (hh : e.header ≠ [])
    (hinit : d.init none e.header = .ok k) {err : Status} : ¬ Rejected d (e.header ++ cts.flatten ++ extra) err := by
  have hpos := List.length_pos_iff.2 hh
  have htake : (e.header ++ cts.flatten ++ extra).take d.headerSize = e.header := by
    rw [hf.headerSize, List.append_assoc, List.take_left]
  intro h
  cases h with
  | header h0 _ =>
    rw [hf.headerSize, List.length_append, List.length_append] at h0
    omega
  | init h =>
    rw [htake, hinit] at h
    cases h
  | @segment k' xs qs _ hopen hd hg =>
    have hk := hopen.init
    rw [htake, hinit] at hk
    cases hk
    obtain ⟨zs, rs, hxs, hqs, hl, hrest⟩ := hd.genuine hf hF hseg ho hextra
    obtain ⟨y, zs', r, rs', -, -, hy, hguess⟩ := segmentAt_genuine_of_ne_nil hf hF hseg ho hextra hxs hqs hd.length_eq
      (of_decide_eq_false hl.symm)
    rw [hy, hguess] at hg
    cases hg

end Genuine

/-! ## The round trip -/

section RoundTrip
variable {κ : Type} {e : SegmentEncrypter} {d : SegmentDecrypter κ} {k : κ} {overhead : Nat} {P extra : Bytes}
  {cts : List Bytes} {σ : Type} [InputStream σ] {At : σ → Cursor → Prop}

/-- A `Next` over a stream's bytes. -/
theorem next_genuine (hf : Fits e d overhead) (hF : 0 < e.firstSegmentSize) (hseg : e.Segments P cts)
    (ho : Opens d k (e.pieces P) cts) (hextra : extra = [] ∨ EndsFull e P) (hh : e.header ≠ [])
    (hinit : d.init none e.header = .ok k) (hr : ReadsFrom (e.header ++ cts.flatten ++ extra) At)
    {s : DecryptingStream κ σ} {c : Cursor}
    (h : DecryptingStream.Inv At d (e.header ++ cts.flatten ++ extra) s c) :
    (∃ bs s', s.next = (.ok bs, s') ∧ c.pos + bs.length ≤ P.length ∧ bs <+: P.drop c.pos ∧ (bs = [] → P = [])) ∨
    (∃ err s', s.next = (.error err, s') ∧ err.code = .outOfRange ∧ c.pos = P.length) := by
  have hF' : 0 < e.firstSegmentSize.toNat := by omega
  have hS : 0 < e.plaintextSegmentSize := by unfold SegmentEncrypter.firstSegmentSize at hF; omega
  have hflat : (e.pieces P).flatten = P := cut_flatten hF' hS P
  have hk : ∀ {k'}, Opened d (e.header ++ cts.flatten ++ extra) k' → k' = k := fun hopen => by
    have hk' := hopen.init
    rw [hf.headerSize, List.append_assoc, List.take_left, hinit] at hk'
    cases hk'
    rfl
  have hdF := hf.firstSegmentSize_pos hF
  have hspec := next_spec hr hdF h
  rcases hnext : s.next with ⟨err | bs, s'⟩
  · right
    rw [hnext] at hspec
    cases hspec with
    | error hend _ =>
      rcases hend with ⟨hcode, k', xs, qs, hopen, hd, hpos⟩ | hrej
      · obtain rfl := hk hopen
        obtain ⟨zs, rs, hxs, hqs, hl, hrest⟩ := hd.genuine hf hF hseg ho hextra
        have hz : zs = [] := of_decide_eq_true hl.symm
        obtain rfl : rs = [] := List.eq_nil_of_length_eq_zero (by rw [← hrest, hz]; rfl)
        rw [List.append_nil] at hqs
        exact ⟨err, s', rfl, hcode, by rw [hpos, ← hqs, hflat]⟩
      · exact absurd hrej (not_rejected hf hF hseg ho hextra hh hinit)
  · left
    rw [hnext] at hspec
    cases hspec with
    | @ok k' xs qs isLast _ _ hopen hd hle hbs hnil _ =>
      obtain rfl := hk hopen
      obtain ⟨zs, rs, hxs, hqs, hl, hrest⟩ := hd.genuine hf hF hseg ho hextra
      have hP : P = qs.flatten ++ rs.flatten := by rw [← List.flatten_append, ← hqs, hflat]
      refine ⟨bs, s', rfl, ?_, ?_, fun h0 => ?_⟩
      · rw [hbs, List.length_drop]
        have := congrArg List.length hP
        rw [List.length_append] at this
        omega
      · rw [hbs, hP, List.drop_append_of_le_length hle]
        exact List.prefix_append _ _
      · obtain ⟨as, cs, hsplit⟩ := List.append_of_mem (hnil h0)
        rw [hsplit, List.append_assoc, List.cons_append] at hqs
        exact (cut_piece hF' hS hqs).2.2.1 h0

/-- **The round trip**: whatever calls wrote the ciphertext, whatever buffers its source gives and whatever calls read
it, every `Next` gives what comes next in the plaintext, or OUT_OF_RANGE when all of it is consumed, and `Position` is
the number of bytes consumed.  Only an empty plaintext is read as an empty buffer. -/
theorem decryptingStream_roundTrip {τ : Type} [OutputStream τ] {AtW : τ → Ledger → Prop} {received : τ → Bytes}
    (hw : WritesTo AtW (fun s bs => received s = bs)) (hm : Matches e d k overhead) (hF : 0 < e.firstSegmentSize)
    (hh : e.header ≠ []) {dest : τ} {last : Nat} (hdest : AtW dest ⟨[], last⟩) (wops : List WriteOp) :
    ∃ s₀ s l, EncryptingStream.new e dest = .ok s₀ ∧ wops.foldl runWrite (s₀, ⟨[], 0⟩) = (s, l) ∧
      ∀ cts, e.Segments l.kept cts → ∃ s', s.close = (.ok (), s') ∧
        ∀ (At : σ → Cursor → Prop), ReadsFrom (received s'.ctDestination) At → ∀ src last, At src ⟨0, last⟩ →
        ∀ rops : List ReadOp, ∃ t₀ t c,
          DecryptingStream.new d src = .ok t₀ ∧ rops.foldl runRead (t₀, ⟨0, 0⟩) = (t, c) ∧
          t.position = c.pos ∧ c.pos ≤ l.kept.length ∧
          ((∃ bs t', t.next = (.ok bs, t') ∧ bs <+: l.kept.drop c.pos ∧ (bs = [] → l.kept = [])) ∨
            (∃ err t', t.next = (.error err, t') ∧ err.code = .outOfRange ∧ c.pos = l.kept.length)) := by
  obtain ⟨s₀, hnew, hinv₀⟩ := inv_new hF hdest
  refine ⟨s₀, _, _, hnew, rfl, fun cts hseg => ?_⟩
  obtain ⟨s', hclose, hrec, -⟩ := close_eq hw hF (inv_run hw hF wops hinv₀) hseg
  refine ⟨s', hclose, fun At hr src last hat rops => ?_⟩
  rw [hrec, ← List.append_nil (e.header ++ cts.flatten)] at hr
  have hdF := hm.firstSegmentSize_pos hF
  obtain ⟨t₀, hnew', hinv'⟩ := DecryptingStream.inv_new (S := e.header ++ cts.flatten ++ []) hdF hat
  have hinv := hinv'.run hr hdF rops
  refine ⟨t₀, _, _, hnew', rfl, hinv.position, ?_⟩
  rcases next_genuine hm.toFits hF hseg (hm.opens hseg) (.inl rfl) hh hm.init hr hinv with
    ⟨bs, t', hnext, hle, hbs, hnil⟩ | ⟨err, t', hnext, hcode, hpos⟩
  · exact ⟨by omega, .inl ⟨bs, t', hnext, hbs, hnil⟩⟩
  · exact ⟨hpos.le, .inr ⟨err, t', hnext, hcode, hpos⟩⟩

end RoundTrip

/-- The decrypter for `taggingEncrypter`. -/
def taggingDecrypter (headerSize plaintextSegmentSize : Nat) : SegmentDecrypter Unit where
  headerSize := headerSize
  plaintextSegmentSize := plaintextSegmentSize
  ciphertextSegmentSize := plaintextSegmentSize + 2
  ciphertextOffset := 0
  init state _ :=
    match state with
    | none   => .ok ()
    | some _ => .error ⟨.failedPrecondition, "decrypter already initialized"⟩
  decryptSegment _ c i isLast :=
    if c.drop (c.length - 2) = [UInt8.ofNat i, if isLast then 1 else 0] then .ok (c.take (c.length - 2))
    else .error ⟨.invalidArgument, "wrong tag"⟩

theorem tagging_matches (header : Bytes) (n : Nat) :
    Matches (taggingEncrypter header n) (taggingDecrypter header.length n) () 2 where
  headerSize := rfl
  plaintextSegmentSize := rfl
  ciphertextSegmentSize := rfl
  ciphertextOffset := rfl
  length_eq h := by
    cases h
    simp
  init := rfl
  decrypt {i p isLast c} h := by
    cases h
    simp [taggingDecrypter]
  wrongFlag {i p isLast c} h := by
    cases h
    refine ⟨⟨.invalidArgument, "wrong tag"⟩, ?_⟩
    cases isLast <;> simp [taggingDecrypter]

/-- A run that reads, backs up and reads to the end. -/
theorem tagging_roundTrip :
    ∃ s₀ s l s' t₀ t c,
      EncryptingStream.new (taggingEncrypter [7] 4) (ChunkedSink.start unevenChunking) = .ok s₀ ∧
      [WriteOp.next (fun i => UInt8.ofNat i), .next (fun _ => 5), .backUp 1].foldl runWrite (s₀, ⟨[], 0⟩) = (s, l) ∧
      s.close = (.ok (), s') ∧
      DecryptingStream.new (taggingDecrypter 1 4) (ChunkedSource.start unevenChunking s'.ctDestination.received) =
        .ok t₀ ∧
      [ReadOp.next, .backUp 2, .next, .next, .backUp 100].foldl runRead (t₀, ⟨0, 0⟩) = (t, c) ∧
      t.position = c.pos ∧ c.pos ≤ l.kept.length := by
  obtain ⟨s₀, s, l, hnew, hrun, hclose⟩ := decryptingStream_roundTrip (σ := ChunkedSource) ChunkedSink.writesTo
    (tagging_matches [7] 4) (by decide) (by decide)
    (⟨rfl, rfl⟩ : ChunkedSink.At (ChunkedSink.start unevenChunking) ⟨[], 0⟩)
    [.next (fun i => UInt8.ofNat i), .next (fun _ => 5), .backUp 1]
  obtain ⟨cts, hseg⟩ := taggingEncrypter_segments [7] 4 l.kept
  obtain ⟨s', hs', hread⟩ := hclose cts hseg
  obtain ⟨t₀, t, c, hnew', hrun', hpos, hle, -⟩ := hread _ (ChunkedSource.readsFrom _)
    (ChunkedSource.start unevenChunking s'.ctDestination.received) 0 ⟨rfl, rfl, rfl⟩
    [.next, .backUp 2, .next, .next, .backUp 100]
  exact ⟨s₀, s, l, s', t₀, t, c, hnew, hrun, hs', hnew', hrun', hpos, hle⟩

/-- With an empty header nothing can be read. -/
theorem emptyHeader_next_fails :
    Matches (taggingEncrypter [] 4) (taggingDecrypter 0 4) () 2 ∧
    ∃ s₀ s' t₀ t',
      EncryptingStream.new (taggingEncrypter [] 4) (ChunkedSink.start unevenChunking) = .ok s₀ ∧
      s₀.close = (.ok (), s') ∧
      DecryptingStream.new (taggingDecrypter 0 4) (ChunkedSource.start unevenChunking s'.ctDestination.received) =
        .ok t₀ ∧
      t₀.next = (.error ⟨.internal, "Illegal read from a stream"⟩, t') := by
  refine ⟨tagging_matches [] 4, ?_⟩
  have hF : 0 < (taggingEncrypter [] 4).firstSegmentSize := by decide
  have hdest : ChunkedSink.At (ChunkedSink.start unevenChunking) ⟨[], 0⟩ := ⟨rfl, rfl⟩
  obtain ⟨s₀, hnew, hinv⟩ := inv_new hF hdest
  obtain ⟨cts, hseg⟩ := taggingEncrypter_segments [] 4 []
  obtain ⟨s', hclose, -⟩ := close_eq ChunkedSink.writesTo hF hinv hseg
  exact ⟨s₀, s', _, _, hnew, hclose, rfl, rfl⟩

/-! ## Integrity -/

/-- **An ideal decrypter for one stream**: it decrypts the stream's segments, with their numbers and flags, and nothing
else, and nothing at all when started with another header. -/
structure Ideal {κ : Type} (e : SegmentEncrypter) (d : SegmentDecrypter κ) (k : κ) (P : Bytes) (cts : List Bytes) :
    Prop where
  init         : d.init none e.header = .ok k
  header       : ∀ {h k' c i isLast p}, d.init none h = .ok k' → d.decryptSegment k' c i isLast = .ok p → h = e.header
  decrypt_iff  : ∀ {c i isLast p}, d.decryptSegment k c i isLast = .ok p ↔
    cts[i]? = some c ∧ (e.pieces P)[i]? = some p ∧ isLast = decide (i + 1 = cts.length)
  init_code    : ∀ {h err}, d.init none h = .error err → err.code ≠ .outOfRange
  decrypt_code : ∀ {k' c i isLast err}, d.decryptSegment k' c i isLast = .error err → err.code ≠ .outOfRange

/-- Some source of the bytes `C` and some calls read them to an OUT_OF_RANGE. -/
def ReadToEnd {κ : Type} (d : SegmentDecrypter κ) (C : Bytes) : Prop :=
  ∃ (σ : Type) (_ : InputStream σ) (At : σ → Cursor → Prop) (src : σ) (last : Nat) (ops : List ReadOp)
    (t₀ t' : DecryptingStream κ σ) (err : Status), ReadsFrom C At ∧ At src ⟨0, last⟩ ∧
    DecryptingStream.new d src = .ok t₀ ∧ (ops.foldl runRead (t₀, ⟨0, 0⟩)).1.next = (.error err, t') ∧
    err.code = .outOfRange

section Integrity
variable {κ : Type} {e : SegmentEncrypter} {d : SegmentDecrypter κ} {k : κ} {overhead : Nat} {P C : Bytes}
  {cts : List Bytes}

theorem Ideal.opens (hi : Ideal e d k P cts) : Opens d k (e.pieces P) cts where
  decrypt hp hc := hi.decrypt_iff.2 ⟨hc, hp, rfl⟩
  wrongFlag {i p c} hp hc := by
    cases h : d.decryptSegment k c i (!decide (i + 1 = cts.length)) with
    | error err => exact ⟨err, rfl⟩
    | ok q =>
      have hflag := (hi.decrypt_iff.1 h).2.2
      simp at hflag

theorem decryptGuess_of_ok {x p : Bytes} {i : Nat} {isLast short : Bool} (h : decryptGuess d k x i short = .ok (p, isLast)) :
    d.decryptSegment k x i isLast = .ok p := by
  cases isLast with
  | true => exact (decryptGuess_last h).1
  | false => exact (decryptGuess_not_last h).2

theorem decryptGuess_of_error {x : Bytes} {i : Nat} {short : Bool} {err : Status}
    (h : decryptGuess d k x i short = .error err) : d.decryptSegment k x i true = .error err := by
  unfold decryptGuess at h
  split at h
  · cases h
  · rename_i he
    split at h
    · rename_i hs
      cases h
      rwa [hs] at he
    · split at h
      · cases h
      · rename_i he'
        cases h
        exact he'

theorem Ideal.rejected_code (hi : Ideal e d k P cts) {err : Status} (h : Rejected d C err) : err.code ≠ .outOfRange := by
  cases h with
  | header _ hcode => exact hcode
  | init h => exact hi.init_code h
  | segment _ _ hg => exact hi.decrypt_code (decryptGuess_of_error hg)

/-- Bytes that are read to their end decrypt, up to a segment accepted as the last. -/
theorem ReadToEnd.decrypts (hi : Ideal e d k P cts) (h : ReadToEnd d C) :
    ∃ k' xs qs, Opened d C k' ∧ Decrypts d C k' xs qs true := by
  obtain ⟨σ, _, At, src, last, ops, t₀, t', err, hr, hat, hnew, hnext, hcode⟩ := h
  have hdF : 0 < d.firstSegmentSize := by
    unfold DecryptingStream.new at hnew
    split at hnew
    · cases hnew
    · omega
  obtain ⟨t, hnew', hinv⟩ := DecryptingStream.inv_new (S := C) hdF hat
  rw [hnew] at hnew'
  cases hnew'
  have hspec := next_spec hr hdF (hinv.run hr hdF ops)
  rw [hnext] at hspec
  cases hspec with
  | error hend _ =>
    rcases hend with ⟨-, k', xs, qs, hopen, hd, -⟩ | hrej
    · exact ⟨k', xs, qs, hopen, hd⟩
    · exact absurd hcode (hi.rejected_code hrej)

/-- What was read, and what is left. -/
theorem Decrypts.drop_eq {xs qs : List Bytes} {isLast : Bool} (h : Decrypts d C k xs qs isLast) :
    C.drop d.headerSize = xs.flatten ++ C.drop (segmentStart d xs) := by
  induction h with
  | nil => rfl
  | @snoc xs qs p isLast _ _ ih =>
    rw [ih, segmentStart_snoc, List.flatten_append, List.flatten_singleton, List.append_assoc, ← List.drop_drop]
    exact congrArg _ (List.prefix_iff_eq_append.1 (List.take_prefix _ _)).symm

/-- Ideal decryption reads the stream's own segments. -/
theorem Decrypts.eq_take (hi : Ideal e d k P cts) {xs qs : List Bytes} {isLast : Bool} (h : Decrypts d C k xs qs isLast) :
    xs = cts.take xs.length ∧ (isLast = true → xs = cts) := by
  induction h with
  | nil => exact ⟨rfl, fun h => by cases h⟩
  | @snoc xs qs p isLast _ hg ih =>
    obtain ⟨hc, -, hflag⟩ := hi.decrypt_iff.1 (decryptGuess_of_ok hg)
    have htake : xs ++ [segmentAt d C xs] = cts.take (xs.length + 1) := by
      rw [List.take_add_one, hc, ← ih.1]
      rfl
    refine ⟨by rw [List.length_append, List.length_singleton]; exact htake, fun hl => ?_⟩
    rw [hl] at hflag
    rw [htake, of_decide_eq_true hflag.symm, List.take_length]

/-- The last segment of a stream that does not end full leaves nothing behind it. -/
theorem Decrypts.complete (hf : Fits e d overhead) (hF : 0 < e.firstSegmentSize) (hseg : e.Segments P cts)
    (hi : Ideal e d k P cts) (hend : ¬ EndsFull e P) {xs qs : List Bytes} (h : Decrypts d C k xs qs true) :
    C.drop d.headerSize = cts.flatten := by
  have hF' : 0 < e.firstSegmentSize.toNat := by omega
  have hS : 0 < e.plaintextSegmentSize := by unfold SegmentEncrypter.firstSegmentSize at hF; omega
  have hxs := (h.eq_take hi).2 rfl
  rw [h.drop_eq, hxs]
  cases h with
  | @snoc xs qs p _ hd hg =>
    obtain ⟨hc, hp, hflag⟩ := hi.decrypt_iff.1 (decryptGuess_of_ok hg)
    have hlast : xs.length + 1 = cts.length := of_decide_eq_true hflag.symm
    -- `p` is the last piece, and is not full
    obtain ⟨ps, p', hpieces, -, -, -⟩ := cut_spec hF' hS P
    have hps : xs.length = ps.length := by
      have := hseg.1
      rw [SegmentEncrypter.pieces, hpieces, List.length_append, List.length_singleton] at this
      omega
    obtain rfl : p' = p := by
      rw [SegmentEncrypter.pieces, hpieces, hps] at hp
      simpa using hp
    have hle := (cut_piece hF' hS hpieces).1
    have hne := mt (last_full_iff hF' hS hpieces).1 hend
    have hlen := hf.length_eq (hseg.2 _ _ _ hp hc)
    have hsize := hf.segmentSize hF ps
    rw [← hps] at hsize
    have hcut : cutShort d C xs = true := by
      by_contra hcut
      have := segmentAt_length xs (by simpa using hcut)
      omega
    have hnil : C.drop (segmentStart d cts) = [] := by
      rw [← hxs, segmentStart_snoc]
      apply List.drop_eq_nil_of_le
      have : C.length < segmentStart d xs + d.segmentSize xs.length := of_decide_eq_true hcut
      unfold segmentAt
      rw [List.length_take, List.length_drop]
      omega
    rw [hnil, List.append_nil]

/-- **Bytes that are read to their end are the stream's**, with others behind them only if it ends full. -/
theorem ReadToEnd.eq_append (hf : Fits e d overhead) (hF : 0 < e.firstSegmentSize) (hseg : e.Segments P cts)
    (hi : Ideal e d k P cts) (h : ReadToEnd d C) :
    e.header ≠ [] ∧ ∃ extra, C = e.header ++ cts.flatten ++ extra ∧ (extra = [] ∨ EndsFull e P) := by
  obtain ⟨k', xs, qs, hopen, hd⟩ := h.decrypts hi
  have hheader : C.take d.headerSize = e.header := by
    cases hd with
    | snoc _ hg => exact hi.header hopen.init (decryptGuess_of_ok hg)
  have hk := hopen.init
  rw [hheader, hi.init] at hk
  cases hk
  have hne : e.header ≠ [] := by
    rw [← List.length_pos_iff, ← hf.headerSize]
    exact hopen.headerSize_pos
  by_cases hend : EndsFull e P
  · refine ⟨hne, C.drop (segmentStart d xs), ?_, .inr hend⟩
    rw [List.append_assoc, ← (hd.eq_take hi).2 rfl, ← hd.drop_eq, ← hheader, List.take_append_drop]
  · refine ⟨hne, [], ?_, .inl rfl⟩
    rw [List.append_nil, ← hd.complete hf hF hseg hi hend, ← hheader, List.take_append_drop]

/-- A stream's bytes, with bytes behind them only if it ends full, are read to their end. -/
theorem next_until_end {σ : Type} [InputStream σ] {At : σ → Cursor → Prop} {extra : Bytes} (hf : Fits e d overhead)
    (hF : 0 < e.firstSegmentSize) (hseg : e.Segments P cts) (hi : Ideal e d k P cts)
    (hextra : extra = [] ∨ EndsFull e P) (hh : e.header ≠ []) (hP : P ≠ [])
    (hr : ReadsFrom (e.header ++ cts.flatten ++ extra) At) (s : DecryptingStream κ σ) (c : Cursor)
    (h : DecryptingStream.Inv At d (e.header ++ cts.flatten ++ extra) s c) :
    ∃ (ops : List ReadOp) (err : Status) (s' : DecryptingStream κ σ), (ops.foldl runRead (s, c)).1.next = (.error err, s') ∧ err.code = .outOfRange := by
  have hdF := hf.firstSegmentSize_pos hF
  rcases next_genuine hf hF hseg hi.opens hextra hh hi.init hr h with
    ⟨bs, s', hnext, hle, -, hnil⟩ | ⟨err, s', hnext, hcode, -⟩
  · have hinv := h.runRead hr hdF .next
    rw [runRead_next_of_ok hnext] at hinv
    have hpos : 0 < bs.length := List.length_pos_iff.2 (mt hnil hP)
    obtain ⟨ops, err, s'', hend, hcode⟩ := next_until_end hf hF hseg hi hextra hh hP hr s' (c.next bs.length) hinv
    refine ⟨.next :: ops, err, s'', ?_, hcode⟩
    rw [List.foldl_cons, runRead_next_of_ok hnext]
    exact hend
  · exact ⟨[], err, s', hnext, hcode⟩
termination_by P.length - c.pos
decreasing_by
  simp only [Cursor.next]
  omega

/-- Bytes behind a full last segment are not noticed. -/
theorem readToEnd_append (hf : Fits e d overhead) (hF : 0 < e.firstSegmentSize) (hseg : e.Segments P cts)
    (hi : Ideal e d k P cts) (hend : EndsFull e P) (hh : e.header ≠ []) (chunking : Chunking) (extra : Bytes) :
    ReadToEnd d (e.header ++ cts.flatten ++ extra) := by
  have hdF := hf.firstSegmentSize_pos hF
  have hP : P ≠ [] := by
    rw [← List.length_pos_iff]
    obtain ⟨j, hj⟩ := hend
    omega
  have hat : ChunkedSource.At (e.header ++ cts.flatten ++ extra)
      (ChunkedSource.start chunking (e.header ++ cts.flatten ++ extra)) ⟨0, 0⟩ := ⟨rfl, rfl, rfl⟩
  obtain ⟨s, hnew, hinv⟩ := DecryptingStream.inv_new (S := e.header ++ cts.flatten ++ extra) hdF hat
  obtain ⟨ops, err, s', hnext, hcode⟩ := next_until_end hf hF hseg hi (.inr hend) hh hP (ChunkedSource.readsFrom _) s _ hinv
  exact ⟨ChunkedSource, inferInstance, _, _, 0, ops, s, s', err, ChunkedSource.readsFrom _, hat, hnew, hnext, hcode⟩

/-- `C` is the stream's ciphertext, whose last segment is full, with bytes behind it; there is a header to read. -/
structure Appended (e : SegmentEncrypter) (P : Bytes) (cts : List Bytes) (C : Bytes) : Prop where
  header   : e.header ≠ []
  endsFull : EndsFull e P
  extra    : ∃ extra, extra ≠ [] ∧ C = e.header ++ cts.flatten ++ extra

/-- **When reading a source to its end proves that it is the ciphertext**: exactly when it is not the ciphertext with
bytes behind a full last segment.  A source that is cut off, put together otherwise or of other bytes is never read to its
end. -/
theorem decryptingStream_integrity (hf : Fits e d overhead) (hF : 0 < e.firstSegmentSize) (hseg : e.Segments P cts)
    (hi : Ideal e d k P cts) (C : Bytes) :
    (ReadToEnd d C → C = e.header ++ cts.flatten) ↔ ¬ Appended e P cts C := by
  constructor
  · rintro h ⟨hh, hend, extra, hne, rfl⟩
    have heq := h (readToEnd_append hf hF hseg hi hend hh unevenChunking extra)
    exact hne (List.append_right_eq_self.1 heq)
  · intro hnot hC
    obtain ⟨hh, extra, rfl, hextra⟩ := hC.eq_append hf hF hseg hi
    by_cases hnil : extra = []
    · rw [hnil, List.append_nil]
    · exact absurd ⟨hh, hextra.resolve_left hnil, extra, hnil, rfl⟩ hnot

end Integrity

/-- The ideal decrypter for a stream; it keeps the header it was started with. -/
def idealDecrypter (e : SegmentEncrypter) (pieces cts : List Bytes) : SegmentDecrypter Bytes where
  headerSize := e.header.length
  plaintextSegmentSize := e.plaintextSegmentSize
  ciphertextSegmentSize := e.ciphertextSegmentSize
  ciphertextOffset := e.ciphertextOffset
  init state h :=
    match state with
    | none   => .ok h
    | some _ => .error ⟨.failedPrecondition, "decrypter already initialized"⟩
  decryptSegment k c i isLast :=
    match pieces[i]? with
    | some p =>
      if k = e.header ∧ cts[i]? = some c ∧ isLast = decide (i + 1 = cts.length) then .ok p
      else .error ⟨.invalidArgument, "wrong segment"⟩
    | none => .error ⟨.invalidArgument, "wrong segment"⟩

theorem idealDecrypter_ideal (e : SegmentEncrypter) (P : Bytes) (cts : List Bytes) :
    Ideal e (idealDecrypter e (e.pieces P) cts) e.header P cts where
  init := rfl
  header {h k' c i isLast p} hinit hok := by
    cases hinit
    unfold idealDecrypter at hok
    simp only at hok
    split at hok
    · split at hok
      · rename_i hcond
        exact hcond.1
      · cases hok
    · cases hok
  decrypt_iff {c i isLast p} := by
    unfold idealDecrypter
    simp only
    split
    · rename_i q hq
      split
      · rename_i hcond
        simp [hcond.2.1, hcond.2.2, hq]
      · rename_i hcond
        simp only [reduceCtorEq, false_iff]
        exact fun h => hcond ⟨trivial, h.1, h.2.2⟩
    · rename_i hq
      simp [hq]
  init_code h := by cases h
  decrypt_code {k' c i isLast err} h := by
    unfold idealDecrypter at h
    simp only at h
    split at h
    · split at h
      · cases h
      · cases h
        decide
    · cases h
      decide

theorem idealDecrypter_fits (header : Bytes) (n : Nat) (pieces cts : List Bytes) :
    Fits (taggingEncrypter header n) (idealDecrypter (taggingEncrypter header n) pieces cts) 2 where
  headerSize := rfl
  plaintextSegmentSize := rfl
  ciphertextSegmentSize := rfl
  ciphertextOffset := rfl
  length_eq h := by
    cases h
    simp

/-- A plaintext of one full segment. -/
theorem fullSegment_segments : (taggingEncrypter [7] 4).pieces [1, 2, 3] = [[1, 2, 3]] ∧
    (taggingEncrypter [7] 4).Segments [1, 2, 3] [[1, 2, 3, 0, 1]] := by
  have hpieces : (taggingEncrypter [7] 4).pieces [1, 2, 3] = [[1, 2, 3]] := cut_of_length_le (by decide)
  refine ⟨hpieces, by rw [hpieces]; rfl, fun i p c hp hc => ?_⟩
  rw [hpieces] at hp
  cases i with
  | zero =>
    cases hp
    cases hc
    rfl
  | succ i => cases hp

theorem fullSegment_ideal :
    Ideal (taggingEncrypter [7] 4) (idealDecrypter (taggingEncrypter [7] 4) [[1, 2, 3]] [[1, 2, 3, 0, 1]]) [7] [1, 2, 3]
      [[1, 2, 3, 0, 1]] := by
  have hideal := idealDecrypter_ideal (taggingEncrypter [7] 4) [1, 2, 3] [[1, 2, 3, 0, 1]]
  rwa [fullSegment_segments.1] at hideal

/-- The last byte of a full last segment is missing. -/
theorem idealDecrypter_integrity :
    ¬ ReadToEnd (idealDecrypter (taggingEncrypter [7] 4) [[1, 2, 3]] [[1, 2, 3, 0, 1]]) [7, 1, 2, 3, 0] := by
  intro h
  have heq := (decryptingStream_integrity (idealDecrypter_fits [7] 4 _ _) (by decide) fullSegment_segments.2
    fullSegment_ideal [7, 1, 2, 3, 0]).2 (fun happended => ?_) h
  · exact absurd heq (by decide)
  · obtain ⟨extra, -, hextra⟩ := happended.extra
    have := congrArg List.length hextra
    rw [List.length_append] at this
    have h5 : 5 = 6 + extra.length := this
    omega

/-- A byte behind a plaintext of one full segment is not noticed. -/
theorem appended_byte_accepted :
    (taggingEncrypter [7] 4).Segments [1, 2, 3] [[1, 2, 3, 0, 1]] ∧
    Ideal (taggingEncrypter [7] 4) (idealDecrypter (taggingEncrypter [7] 4) [[1, 2, 3]] [[1, 2, 3, 0, 1]]) [7] [1, 2, 3]
      [[1, 2, 3, 0, 1]] ∧
    ReadToEnd (idealDecrypter (taggingEncrypter [7] 4) [[1, 2, 3]] [[1, 2, 3, 0, 1]]) [7, 1, 2, 3, 0, 1, 0] ∧
    [7, 1, 2, 3, 0, 1, 0] ≠ [7] ++ [[1, 2, 3, 0, 1]].flatten := by
  obtain ⟨-, hseg⟩ := fullSegment_segments
  have hideal := fullSegment_ideal
  exact ⟨hseg, hideal, readToEnd_append (idealDecrypter_fits [7] 4 _ _) (by decide) hseg hideal ⟨0, rfl⟩ (by decide)
    unevenChunking [0], by decide⟩

end Tink
