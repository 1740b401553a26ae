import TinkCc.RandomAccessIntegrity
/-!
# RandomAccessTransient — random access over a source with transient conditions

`random_access_stream.h` allows a read that is OK with fewer bytes than asked for, and `InitializeIfNeeded` tries again
after UNAVAILABLE.  On a stream that is ready neither does harm: a read over such a source gives what one over a source
that delivers everything gives, or an error (`pread_ready_alike`).

While the stream is made ready two things go wrong.  The header is not asked whether it is all there, so a short read of
it starts the decrypter with zeros in the place of the missing bytes.  And when `size` is UNAVAILABLE the decrypter has
been started, and is started again with the next call, which it refuses.  Both are permanent (`transient_not_survived`).
In a run whose calls meet neither, every read is right (`transient_survived`).
-/
namespace Tink

open Cut

/-! ## The source -/

/-- What a read of the bytes `C` gives when it is delivered in full. -/
structure Full (C : Bytes) (position count : Nat) (status : Except Status Unit) (bytes : Bytes) : Prop where
  bytes_eq : bytes = (C.drop position).take count
  inside   : position + count < C.length → status = .ok ()
  behind   : C.length ≤ position → status ≠ .ok ()
  code     : ∀ e, status = .error e → e.code = .outOfRange

/-- **A source of the bytes `C` with transient conditions**, which `hits` counts: a call may fail with UNAVAILABLE, and a
read may be OK with only the first of the bytes asked for, or none. -/
structure Transient {σ : Type} [RandomAccessStream σ] (C : Bytes) (At : σ → Prop) (hits : σ → Nat) : Prop where
  size  : ∀ {s}, At s → ∃ result s', RandomAccessStream.size s = (result, s') ∧ At s' ∧
    (result = .ok C.length ∧ hits s' = hits s ∨
      (∃ e, result = .error e ∧ e.code = .unavailable) ∧ hits s < hits s')
  pread : ∀ {s} (position count : Nat), 0 < count → At s → ∃ status bytes s',
    RandomAccessStream.pread position count s = ((status, bytes), s') ∧ At s' ∧
    (Full C position count status bytes ∧ hits s' = hits s ∨
      (status = .ok () ∧ bytes <+: (C.drop position).take count ∨ ∃ e, status = .error e ∧ e.code = .unavailable) ∧
        hits s < hits s')

theorem Holds.full {σ : Type} [RandomAccessStream σ] {C : Bytes} {At : σ → Prop} (hC : Holds C At) {s : σ}
    (position : Nat) {count : Nat} (hpos : 0 < count) (hat : At s) : ∃ status bytes s',
    RandomAccessStream.pread position count s = ((status, bytes), s') ∧ At s' ∧ Full C position count status bytes := by
  obtain ⟨status, s', hpread, hat', hinside, hbehind, hcode⟩ := hC.pread position count hpos hat
  exact ⟨status, _, s', hpread, hat', rfl, hinside, hbehind, hcode⟩

/-! ## The same result -/

/-- The same code; the text of an error may be the source's. -/
def SameStatus : Except Status Unit → Except Status Unit → Prop
  | .ok (), .ok () => True
  | .error e, .error e' => e.code = e'.code
  | _, _ => False

def SameResult (r r' : Except Status Unit × Bytes) : Prop := SameStatus r.1 r'.1 ∧ r.2 = r'.2

/-- An error that says that the bytes were not read. -/
def Fails (status : Except Status Unit) : Prop := ∃ e, status = .error e ∧ e.code ≠ .outOfRange

theorem SameStatus.refl : ∀ status : Except Status Unit, SameStatus status status
  | .ok () => trivial
  | .error _ => rfl

theorem SameStatus.okOrOutOfRange_eq : ∀ {status status' : Except Status Unit}, SameStatus status status' →
    DecryptingRandomAccessStream.okOrOutOfRange status = DecryptingRandomAccessStream.okOrOutOfRange status'
  | .ok (), .ok (), _ => rfl
  | .error e, .error e', h => by
    have hcode : e.code = e'.code := h
    simp only [DecryptingRandomAccessStream.okOrOutOfRange, hcode]
  | .ok (), .error _, h => h.elim
  | .error _, .ok (), h => h.elim

theorem SameStatus.eq_ok_iff : ∀ {status status' : Except Status Unit}, SameStatus status status' →
    (status = .ok () ↔ status' = .ok ())
  | .ok (), .ok (), _ => by simp
  | .error _, .error _, _ => by simp
  | .ok (), .error _, h => h.elim
  | .error _, .ok (), h => h.elim

theorem Fails.okOrOutOfRange_eq {status : Except Status Unit} (h : Fails status) :
    DecryptingRandomAccessStream.okOrOutOfRange status = false := by
  obtain ⟨e, rfl, hcode⟩ := h
  simpa [DecryptingRandomAccessStream.okOrOutOfRange] using hcode

/-! ## One segment -/

section Segment
variable {κ σ σ₀ : Type} {At : σ → Prop} {At₀ : σ₀ → Prop} {hits : σ → Nat} {d : SegmentDecrypter κ} {k : κ} {C : Bytes}

/-- **The decrypter refuses a segment of the source that is not all there**, and nothing in the place of a segment. -/
structure RefusesShort (d : SegmentDecrypter κ) (k : κ) (C : Bytes) : Prop where
  refuses : ∀ {i c}, c <+: d.segment C i → (c = d.segment C i → C.length ≤ d.ctPosition i) →
    ∃ e, d.decryptSegment k c i (decide (i + 1 = d.segmentCount C.length)) = .error e
  code    : ∀ {c i isLast e}, d.decryptSegment k c i isLast = .error e → e.code ≠ .outOfRange

/-- A segment that is delivered in full is decrypted, whether its read was OK or OUT_OF_RANGE. -/
theorem Full.decryptedAfter (hF : 0 < d.firstSegmentSize) {i : Nat} {status : Except Status Unit} {bytes : Bytes}
    (h : Full C (d.ctPosition i) (d.segmentSize i) status bytes) (ptSegment : Bytes)
    (s : DecryptingRandomAccessStream κ σ) :
    (d.ctPosition i < C.length → decryptedAfter status d k C i ptSegment s = decrypted d k C i ptSegment s) ∧
      (C.length ≤ d.ctPosition i →
        ∃ e, decryptedAfter status d k C i ptSegment s = (.error e, ptSegment, s) ∧ e.code = .outOfRange) := by
  have hlen : (d.segment C i).length = min (d.segmentSize i) (C.length - d.ctPosition i) := by
    unfold SegmentDecrypter.segment
    rw [List.length_take, List.length_drop]
  have hpos := segmentSize_pos hF i
  constructor
  · intro hlt
    cases status with
    | ok => rfl
    | error e =>
      have hin : i < d.segmentCount C.length := by
        rw [lt_segmentCount_iff (ctSegmentSize_pos hF)]
        unfold SegmentDecrypter.ctPosition at hlt
        split at hlt
        · rename_i h0
          rw [h0, Nat.zero_mul]
          omega
        · exact hlt
      -- only the last segment reaches the end
      have hlast : i + 1 = d.segmentCount C.length := by
        by_contra hcon
        have hok := h.inside (ctPosition_add_lt hF (by omega))
        cases hok
      simp only [Tink.decryptedAfter, hlast, decide_true, h.code e rfl, Bool.true_and, Bool.and_true, decide_eq_true_eq]
      rw [if_pos (by omega)]
  · intro hle
    cases status with
    | ok => exact absurd rfl (h.behind hle)
    | error e =>
      have h0 : ¬ 0 < (d.segment C i).length := by omega
      refine ⟨e, ?_, h.code e rfl⟩
      simp [Tink.decryptedAfter, h0]

/-- What a segment decrypts to does not depend on the source. -/
theorem decrypted_eq (σ σ₀ : Type) (d : SegmentDecrypter κ) (k : κ) (C : Bytes) (i : Nat) (ptSegment : Bytes) : ∃ status p,
    (∀ s : DecryptingRandomAccessStream κ σ, decrypted d k C i ptSegment s = (status, p, s)) ∧
      ∀ s : DecryptingRandomAccessStream κ σ₀, decrypted d k C i ptSegment s = (status, p, s) := by
  unfold decrypted
  split
  · exact ⟨_, _, fun _ => rfl, fun _ => rfl⟩
  · exact ⟨_, _, fun _ => rfl, fun _ => rfl⟩

variable [RandomAccessStream σ] [RandomAccessStream σ₀]

/-- A read of a segment after a transient condition: its plaintext, or an error. -/
theorem readAndDecryptSegment_hit (hF : 0 < d.firstSegmentSize) (hr : RefusesShort d k C) {i : Nat}
    (hfit : i * d.ciphertextSegmentSize < 2 ^ 63) {src src' : σ} {status : Except Status Unit} {bytes : Bytes}
    (hpread : RandomAccessStream.pread (d.ctPosition i) (d.segmentSize i) src = ((status, bytes), src'))
    (hhit : status = .ok () ∧ bytes <+: (C.drop (d.ctPosition i)).take (d.segmentSize i) ∨
      ∃ e, status = .error e ∧ e.code = .unavailable) (ptSegment : Bytes) :
    d.ctPosition i < C.length ∧ (ready d k C.length src).readAndDecryptSegment i ptSegment =
        decrypted d k C i ptSegment (ready d k C.length src') ∨
      ∃ status', Fails status' ∧ (ready d k C.length src).readAndDecryptSegment i ptSegment =
        (status', ptSegment, ready d k C.length src') := by
  rw [readAndDecryptSegment_of_read hF hfit hpread]
  rcases hhit with ⟨rfl, hbytes⟩ | ⟨e, rfl, hcode⟩
  · by_cases hall : bytes = d.segment C i ∧ d.ctPosition i < C.length
    · obtain ⟨rfl, hlt⟩ := hall
      exact .inl ⟨hlt, rfl⟩
    · obtain ⟨e, hrefused⟩ := hr.refuses hbytes (fun heq => Nat.le_of_not_lt fun hlt => hall ⟨heq, hlt⟩)
      exact .inr ⟨.error e, ⟨e, rfl, hr.code hrefused⟩, by simp only [hrefused]⟩
  · exact .inr ⟨.error e, ⟨e, rfl, by simp [hcode]⟩, by simp [hcode]⟩

/-- **One segment over the two sources**: the same, or an error after a transient condition. -/
theorem readAndDecryptSegment_alike (hC : Transient C At hits) (hC₀ : Holds C At₀) (hF : 0 < d.firstSegmentSize)
    (hr : RefusesShort d k C) {src : σ} {src₀ : σ₀} (hat : At src) (hat₀ : At₀ src₀) (i : Nat) (ptSegment : Bytes) :
    ∃ status p src' status₀ p₀ src₀', At src' ∧ At₀ src₀' ∧
      (ready d k C.length src).readAndDecryptSegment i ptSegment = (status, p, ready d k C.length src') ∧
      (ready d k C.length src₀).readAndDecryptSegment i ptSegment = (status₀, p₀, ready d k C.length src₀') ∧
      (SameStatus status status₀ ∧ p = p₀ ∧ hits src ≤ hits src' ∨ Fails status ∧ hits src < hits src') := by
  by_cases hfit : i * d.ciphertextSegmentSize < 2 ^ 63
  · have hpos := segmentSize_pos hF i
    obtain ⟨status₀, bytes₀, src₀', hpread₀, hat₀', hfull₀⟩ := hC₀.full (d.ctPosition i) hpos hat₀
    obtain ⟨status, bytes, src', hpread, hat', hread⟩ := hC.pread (d.ctPosition i) (d.segmentSize i) hpos hat
    obtain ⟨statusD, pD, hdec, hdec₀⟩ := decrypted_eq σ σ₀ d k C i ptSegment
    have hbytes₀ := hfull₀.bytes_eq
    change bytes₀ = d.segment C i at hbytes₀
    subst hbytes₀
    obtain ⟨hin₀, hbehind₀⟩ := hfull₀.decryptedAfter (k := k) hF ptSegment (ready d k C.length src₀')
    rw [readAndDecryptSegment_of_pread hF hfit hpread₀]
    rcases hread with ⟨hfull, hhits⟩ | ⟨hhit, hhits⟩
    · have hbytes := hfull.bytes_eq
      change bytes = d.segment C i at hbytes
      subst hbytes
      obtain ⟨hin, hbehind⟩ := hfull.decryptedAfter (k := k) hF ptSegment (ready d k C.length src')
      rw [readAndDecryptSegment_of_pread hF hfit hpread]
      by_cases hlt : d.ctPosition i < C.length
      · rw [hin hlt, hin₀ hlt, hdec, hdec₀]
        exact ⟨statusD, pD, src', statusD, pD, src₀', hat', hat₀', rfl, rfl, .inl ⟨.refl _, rfl, hhits.ge⟩⟩
      · obtain ⟨e, he, hcode⟩ := hbehind (Nat.le_of_not_lt hlt)
        obtain ⟨e₀, he₀, hcode₀⟩ := hbehind₀ (Nat.le_of_not_lt hlt)
        rw [he, he₀]
        exact ⟨_, _, src', _, _, src₀', hat', hat₀', rfl, rfl, .inl ⟨hcode.trans hcode₀.symm, rfl, hhits.ge⟩⟩
    · rcases readAndDecryptSegment_hit hF hr hfit hpread hhit ptSegment with ⟨hlt, he⟩ | ⟨status', hfails, he⟩
      · rw [he, hin₀ hlt, hdec, hdec₀]
        exact ⟨statusD, pD, src', statusD, pD, src₀', hat', hat₀', rfl, rfl, .inl ⟨.refl _, rfl, hhits.le⟩⟩
      · rw [he]
        by_cases hlt : d.ctPosition i < C.length
        · rw [hin₀ hlt, hdec₀]
          exact ⟨status', ptSegment, src', statusD, pD, src₀', hat', hat₀', rfl, rfl, .inr ⟨hfails, hhits⟩⟩
        · obtain ⟨e₀, he₀, -⟩ := hbehind₀ (Nat.le_of_not_lt hlt)
          rw [he₀]
          exact ⟨status', ptSegment, src', _, _, src₀', hat', hat₀', rfl, rfl, .inr ⟨hfails, hhits⟩⟩
  · obtain ⟨e, he, hcode⟩ := readAndDecryptSegment_overflow (ready d k C.length src) hfit ptSegment
    obtain ⟨e₀, he₀, hcode₀⟩ := readAndDecryptSegment_overflow (ready d k C.length src₀) hfit ptSegment
    exact ⟨_, _, src, _, _, src₀, hat, hat₀, he, he₀, .inl ⟨hcode.trans hcode₀.symm, rfl, le_rfl⟩⟩

end Segment

/-! ## PRead on a stream that is ready -/

section Read
variable {κ σ σ₀ : Type} [RandomAccessStream σ] [RandomAccessStream σ₀] {At : σ → Prop} {At₀ : σ₀ → Prop}
  {hits : σ → Nat} {d : SegmentDecrypter κ} {k : κ} {C : Bytes}

/-- The result over a source with transient conditions, beside that over one that delivers everything. -/
def SameOrHit (hits : σ → Nat) (src src' : σ) (r r₀ : Except Status Unit × Bytes) : Prop :=
  SameResult r r₀ ∧ hits src ≤ hits src' ∨ Fails r.1 ∧ hits src < hits src'

omit [RandomAccessStream σ] in
theorem SameOrHit.trans_le {src src' src'' : σ} {r r₀ : Except Status Unit × Bytes} (hle : hits src ≤ hits src')
    (h : SameOrHit hits src' src'' r r₀) : SameOrHit hits src src'' r r₀ := by
  rcases h with ⟨hsame, h⟩ | ⟨hfails, h⟩
  · exact .inl ⟨hsame, hle.trans h⟩
  · exact .inr ⟨hfails, hle.trans_lt h⟩

/-- **The loop over the two sources.** -/
theorem preadLoop_alike (hC : Transient C At hits) (hC₀ : Holds C At₀) (hF : 0 < d.firstSegmentSize)
    (hr : RefusesShort d k C) {position count allocatedSize : Nat} {r₀ : Except Status Unit × Bytes}
    {s₀ : DecryptingRandomAccessStream κ σ₀} :
    ∀ {fuel : Nat} {src : σ} {src₀ : σ₀} {ptSegment : Bytes} {ptOffset : Nat} {dest : Bytes}, At src → At₀ src₀ →
    DecryptingRandomAccessStream.preadLoop position count allocatedSize fuel (ready d k C.length src₀) ptSegment ptOffset
      dest = some (r₀, s₀) →
    ∃ r src', At src' ∧ DecryptingRandomAccessStream.preadLoop position count allocatedSize fuel
      (ready d k C.length src) ptSegment ptOffset dest = some (r, ready d k C.length src') ∧ SameOrHit hits src src' r r₀
  | 0, _, _, _, _, _, _, _, h => by cases h
  | fuel + 1, src, src₀, ptSegment, ptOffset, dest, hat, hat₀, h => by
    obtain ⟨status, p, src', status₀, p₀, src₀', hat', hat₀', hread, hread₀, halike⟩ := readAndDecryptSegment_alike hC hC₀ hF
      hr hat hat₀ ((ready d k C.length src).getSegmentNr (position + dest.length)) ptSegment
    change (ready d k C.length src₀).readAndDecryptSegment
      ((ready d k C.length src₀).getSegmentNr (position + dest.length)) ptSegment = _ at hread₀
    unfold DecryptingRandomAccessStream.preadLoop at h ⊢
    simp only [hread, hread₀] at h ⊢
    by_cases hdone : count - dest.length = 0
    · rw [if_pos hdone] at h ⊢
      cases h
      exact ⟨_, src, hat, rfl, .inl ⟨⟨trivial, rfl⟩, le_rfl⟩⟩
    · rw [if_neg hdone] at h ⊢
      rcases halike with ⟨hsame, rfl, hle⟩ | ⟨hfails, hlt⟩
      · -- the rounds take the same branch
        rw [hsame.okOrOutOfRange_eq]
        simp only [ne_eq, hsame.eq_ok_iff]
        split at h
        · rename_i hnot
          cases h
          rw [if_pos hnot]
          exact ⟨_, src', hat', rfl, .inl ⟨⟨hsame, rfl⟩, hle⟩⟩
        · rename_i hok
          rw [if_neg hok]
          split at h
          · rename_i hsize
            cases h
            rw [if_pos hsize]
            exact ⟨_, src', hat', rfl, .inl ⟨⟨rfl, rfl⟩, hle⟩⟩
          · rename_i hsize
            rw [if_neg hsize]
            split at h
            · rename_i hend
              cases h
              rw [if_pos hend]
              exact ⟨_, src', hat', rfl, .inl ⟨⟨hsame, rfl⟩, hle⟩⟩
            · rename_i hend
              rw [if_neg hend]
              obtain ⟨r, src'', hat'', hloop, halike⟩ := preadLoop_alike hC hC₀ hF hr hat' hat₀' h
              exact ⟨r, src'', hat'', hloop, halike.trans_le hle⟩
      · rw [if_pos (by rw [hfails.okOrOutOfRange_eq]; simp)]
        exact ⟨_, src', hat', rfl, .inr ⟨hfails, hlt⟩⟩

/-- A call on a stream that is ready is refused whatever the source is, or it is the loop. -/
theorem ready_pread_cases (d : SegmentDecrypter κ) (k : κ) (L : Nat) (position count : Int) (allocatedSize : Nat) :
    (∃ r, ∀ {σ : Type} [RandomAccessStream σ] (fuel : Nat) (src : σ),
      (ready d k L src).pread fuel position count allocatedSize = some (r, ready d k L src)) ∨
    ∃ ptOffset, ∀ {σ : Type} [RandomAccessStream σ] (fuel : Nat) (src : σ),
      (ready d k L src).pread fuel position count allocatedSize = DecryptingRandomAccessStream.preadLoop position.toNat
        count.toNat allocatedSize fuel (ready d k L src) [] ptOffset [] := by
  rcases pread_refused_or_valid position count allocatedSize with ⟨e, hrefused⟩ | ⟨hcount, hsize, hposition⟩
  · exact .inl ⟨(.error e, []), fun fuel src => hrefused fuel _⟩
  -- what is left to check once the stream is initialized
  have hready : ∀ {σ : Type} [RandomAccessStream σ] (fuel : Nat) (src : σ),
      (ready d k L src).pread fuel position count allocatedSize =
        if position > d.ptSize L then some ((.error ⟨.invalidArgument, "position too large"⟩, []), ready d k L src)
        else (ready d k L src).preadAndDecrypt fuel position count allocatedSize :=
    fun fuel src => pread_of_valid fuel (ready d k L src) hcount hsize hposition
  by_cases hlarge : position > d.ptSize L
  · exact .inl ⟨_, fun fuel src => (hready fuel src).trans (if_pos hlarge)⟩
  simp only [if_neg hlarge] at hready
  by_cases hend : position > 2 ^ 63 - 1 - count
  · refine .inl ⟨(.error ⟨.outOfRange, s!"Invalid parameters to PReadAndDecrypt; position too large: {position}"⟩, []),
      fun fuel src => (hready fuel src).trans ?_⟩
    unfold DecryptingRandomAccessStream.preadAndDecrypt
    rw [if_neg (by omega)]
    exact if_pos hend
  have hsegment : ∀ {σ : Type} [RandomAccessStream σ] (fuel : Nat) (src : σ),
      (ready d k L src).preadAndDecrypt fuel position count allocatedSize =
        if d.ciphertextSegmentSize = 0 then
          some ((.error ⟨.invalidArgument, s!"Invalid ciphertext segment size {d.ciphertextSegmentSize}."⟩, []), ready d k L src)
        else DecryptingRandomAccessStream.preadLoop position.toNat count.toNat allocatedSize fuel (ready d k L src) []
          ((ready d k L ()).getPlaintextOffset position.toNat) [] := by
    intro σ _ fuel src
    have hsize : (ready d k L src).size = (.ok (d.ptSize L), ready d k L src) := rfl
    unfold DecryptingRandomAccessStream.preadAndDecrypt
    rw [if_neg (by omega), if_neg hend, hsize]
    exact if_neg (by simpa [Except.toOption] using hlarge)
  by_cases hzero : d.ciphertextSegmentSize = 0
  · exact .inl ⟨_, fun fuel src => (hready fuel src).trans ((hsegment fuel src).trans (if_pos hzero))⟩
  · exact .inr ⟨_, fun fuel src => (hready fuel src).trans ((hsegment fuel src).trans (if_neg hzero))⟩

/-- **A read on a ready stream over the two sources.** -/
theorem pread_ready_alike (hC : Transient C At hits) (hC₀ : Holds C At₀) (hF : 0 < d.firstSegmentSize)
    (hr : RefusesShort d k C) {fuel allocatedSize : Nat} {position count : Int} {src : σ} {src₀ : σ₀} (hat : At src)
    (hat₀ : At₀ src₀) {r₀ : Except Status Unit × Bytes} {s₀ : DecryptingRandomAccessStream κ σ₀}
    (h : (ready d k C.length src₀).pread fuel position count allocatedSize = some (r₀, s₀)) :
    ∃ r src', At src' ∧ (ready d k C.length src).pread fuel position count allocatedSize =
      some (r, ready d k C.length src') ∧ SameOrHit hits src src' r r₀ := by
  rcases ready_pread_cases d k C.length position count allocatedSize with ⟨r, hrefused⟩ | ⟨ptOffset, hloop⟩
  · rw [hrefused] at h
    cases h
    exact ⟨r₀, src, hat, hrefused fuel src, .inl ⟨⟨.refl _, rfl⟩, le_rfl⟩⟩
  · rw [hloop] at h ⊢
    exact preadLoop_alike hC hC₀ hF hr hat hat₀ h

end Read

/-! ## Making a stream ready -/

section Initialize
variable {κ σ : Type} {At : σ → Prop} {hits : σ → Nat} {d : SegmentDecrypter κ} {k : κ} {C header : Bytes}

/-- A stream that has not been made ready, and tries again with the next call. -/
structure Pending (d : SegmentDecrypter κ) (s : DecryptingRandomAccessStream κ σ) : Prop where
  segmentDecrypter : s.segmentDecrypter = d
  initialized      : s.initialized = none
  status           : ∃ e, s.status = .error e ∧ e.code = .unavailable
  sizes            : s.ctSegmentSize = 0 ∧ s.ptSegmentSize = 0 ∧ s.ctSegmentOverhead = 0 ∧ s.segmentCount = 0 ∧ s.ptSize = 0

theorem pending_fresh (d : SegmentDecrypter κ) (src : σ) : Pending d (fresh d src) :=
  ⟨rfl, rfl, ⟨_, rfl, rfl⟩, rfl, rfl, rfl, rfl, rfl⟩

variable [RandomAccessStream σ]

/-- **What a call must meet that tries to make the stream ready**: a read of the header that is OK gives all of it (or all
but zeros at its end), and the size is available right after it. -/
def StartsWell (header : Bytes) (s : DecryptingRandomAccessStream κ σ) : Prop :=
  (∃ e, s.status = .error e ∧ e.code = .unavailable) → ∀ buf src',
    RandomAccessStream.pread s.segmentDecrypter.ciphertextOffset s.segmentDecrypter.headerSize s.ctSource =
      ((.ok (), buf), src') →
    resize buf s.segmentDecrypter.headerSize = header ∧ ∃ n src'', RandomAccessStream.size src' = (.ok n, src'')

/-- **A call that meets this makes the stream ready, or leaves it as it was but for its source.** -/
theorem Pending.initializeIfNeeded (hC : Transient C At hits) (hr : ReportsSize d C.length)
    (hlen : d.ciphertextOffset + d.headerSize < C.length) (hinit : d.init none header = .ok k)
    {s : DecryptingRandomAccessStream κ σ} (hp : Pending d s) (hat : At s.ctSource) (hstarts : StartsWell header s) :
    (∃ src', At src' ∧ hits s.ctSource ≤ hits src' ∧ s.initializeIfNeeded = ready d k C.length src') ∨
      Pending d s.initializeIfNeeded ∧ At s.initializeIfNeeded.ctSource ∧
        hits s.ctSource < hits s.initializeIfNeeded.ctSource := by
  obtain ⟨decrypter, src, initialized, status, hs, off, cs, ps, ov, sc, pt⟩ := s
  obtain ⟨hdecrypter, rfl, ⟨e, rfl, hcode⟩, rfl, rfl, rfl, rfl, rfl⟩ := hp
  change decrypter = d at hdecrypter
  subst hdecrypter
  have h0 : decrypter.headerSize ≠ 0 := by
    have := hr.headerSize_pos
    omega
  obtain ⟨status, buf, src', hpread, hat', hread⟩ := hC.pread decrypter.ciphertextOffset decrypter.headerSize
    hr.headerSize_pos hat
  have hle : hits src ≤ hits src' := by
    rcases hread with ⟨-, h⟩ | ⟨-, h⟩
    · exact h.ge
    · exact h.le
  cases status with
  | ok =>
    obtain ⟨hheader, n, src'', hsize⟩ := hstarts ⟨e, rfl, hcode⟩ buf src' hpread
    obtain ⟨result, src₂, hsize', hat'', hres⟩ := hC.size hat'
    rw [hsize] at hsize'
    cases hsize'
    rcases hres with ⟨hok, hhits⟩ | ⟨⟨e', he', -⟩, -⟩
    · cases hok
      refine .inl ⟨src'', hat'', hle.trans hhits.ge, ?_⟩
      rw [← setSize_eq hr]
      simp only [DecryptingRandomAccessStream.initializeIfNeeded, hcode, ne_eq, not_true_eq_false, if_false, h0, hpread,
        hheader, hinit, hsize]
    · cases he'
  | error e' =>
    have hhit : e'.code = .unavailable ∧ hits src < hits src' := by
      rcases hread with ⟨hfull, -⟩ | ⟨⟨h, -⟩ | ⟨e'', h, hcode'⟩, hlt⟩
      · cases hfull.inside hlen
      · cases h
      · cases h
        exact ⟨hcode', hlt⟩
    refine .inr ?_
    simp only [DecryptingRandomAccessStream.initializeIfNeeded, hcode, ne_eq, not_true_eq_false, if_false, h0, hpread,
      hhit.1, reduceCtorEq]
    exact ⟨⟨rfl, rfl, ⟨e', rfl, hhit.1⟩, rfl, rfl, rfl, rfl, rfl⟩, hat', hhit.2⟩

end Initialize

/-! ## Runs -/

section Runs
variable {κ σ : Type} [RandomAccessStream σ] {At : σ → Prop} {hits : σ → Nat} {d : SegmentDecrypter κ} {k : κ}
  {C header : Bytes}

/-- The arguments of a `PRead` that gets as far as its stream. -/
def ValidRead (position count : Int) (allocatedSize : Nat) : Prop := 0 ≤ count ∧ count ≤ allocatedSize ∧ 0 ≤ position

/-- **The states that runs of `size` and `PRead` calls reach whose calls all start well.** -/
inductive StartedWell (header : Bytes) (s₀ : DecryptingRandomAccessStream κ σ) : DecryptingRandomAccessStream κ σ → Prop
  | nil : StartedWell header s₀ s₀
  | size {s s' r} : StartedWell header s₀ s → StartsWell header s → s.size = (r, s') → StartedWell header s₀ s'
  | pread {s s' r fuel position count allocatedSize} : StartedWell header s₀ s →
      (ValidRead position count allocatedSize → StartsWell header s) →
      s.pread fuel position count allocatedSize = some (r, s') → StartedWell header s₀ s'

/-- Between two calls of such a run. -/
def Between (At : σ → Prop) (d : SegmentDecrypter κ) (k : κ) (C : Bytes) (s : DecryptingRandomAccessStream κ σ) : Prop :=
  (∃ src, At src ∧ s = ready d k C.length src) ∨ Pending d s ∧ At s.ctSource

theorem Transient.readsStay (hC : Transient C At hits) : ReadsStay At := by
  intro s position count hpos hat
  obtain ⟨status, bytes, s', hpread, hat', -⟩ := hC.pread position count hpos hat
  exact ⟨status, bytes, s', hpread, hat'⟩

theorem Between.initializeIfNeeded (hC : Transient C At hits) (hr : ReportsSize d C.length)
    (hlen : d.ciphertextOffset + d.headerSize < C.length) (hinit : d.init none header = .ok k)
    {s : DecryptingRandomAccessStream κ σ} (hs : Between At d k C s) (hstarts : StartsWell header s) :
    (∃ src', At src' ∧ hits s.ctSource ≤ hits src' ∧ s.initializeIfNeeded = ready d k C.length src') ∨
      Pending d s.initializeIfNeeded ∧ At s.initializeIfNeeded.ctSource ∧
        hits s.ctSource < hits s.initializeIfNeeded.ctSource := by
  rcases hs with ⟨src, hat, rfl⟩ | ⟨hp, hat⟩
  · exact .inl ⟨src, hat, le_rfl, rfl⟩
  · exact hp.initializeIfNeeded hC hr hlen hinit hat hstarts

theorem size_snd (s : DecryptingRandomAccessStream κ σ) : s.size.2 = s.initializeIfNeeded := by
  unfold DecryptingRandomAccessStream.size
  simp only
  split
  · rfl
  · rfl

/-- A read whose arguments are refused. -/
theorem pread_invalid (κ : Type) {position count : Int} {allocatedSize : Nat} (h : ¬ ValidRead position count allocatedSize) :
    ∃ e : Status, e.code = .invalidArgument ∧ ∀ (τ : Type) [RandomAccessStream τ] (fuel : Nat)
      (s : DecryptingRandomAccessStream κ τ), s.pread fuel position count allocatedSize = some ((.error e, []), s) := by
  unfold DecryptingRandomAccessStream.pread
  by_cases h1 : count < 0
  · exact ⟨⟨.invalidArgument, "count cannot be negative"⟩, rfl, fun _ _ _ _ => if_pos h1⟩
  by_cases h2 : count > allocatedSize
  · refine ⟨⟨.invalidArgument, "buffer too small"⟩, rfl, fun _ _ _ _ => ?_⟩
    rw [if_neg h1, if_pos h2]
  by_cases h3 : position < 0
  · refine ⟨⟨.invalidArgument, "position cannot be negative"⟩, rfl, fun _ _ _ _ => ?_⟩
    rw [if_neg h1, if_neg h2, if_pos h3]
  · exact absurd ⟨by omega, by omega, by omega⟩ h

/-- A read on a stream that the call has made ready. -/
theorem pread_of_ready {position count : Int} {allocatedSize : Nat} (h : ValidRead position count allocatedSize)
    {s : DecryptingRandomAccessStream κ σ} {L : Nat} {src : σ} (hs : s.initializeIfNeeded = ready d k L src)
    (fuel : Nat) : s.pread fuel position count allocatedSize = (ready d k L src).pread fuel position count allocatedSize := by
  have hself : (ready d k L src).initializeIfNeeded = ready d k L src := rfl
  obtain ⟨h1, h2, h3⟩ := h
  unfold DecryptingRandomAccessStream.pread
  rw [if_neg (by omega), if_neg (by omega), if_neg (by omega), if_neg (by omega), if_neg (by omega), if_neg (by omega),
    hs, hself]

/-- A read behind the plaintext. -/
theorem pread_behind {position count : Int} {allocatedSize : Nat} (h : ValidRead position count allocatedSize) {L : Nat}
    {src : σ} (hlt : d.ptSize L < position) {fuel : Nat} :
    (ready d k L src).pread fuel position count allocatedSize =
      some ((.error ⟨.invalidArgument, "position too large"⟩, []), ready d k L src) := by
  have hself : (ready d k L src).initializeIfNeeded = ready d k L src := rfl
  obtain ⟨h1, h2, h3⟩ := h
  unfold DecryptingRandomAccessStream.pread
  rw [if_neg (by omega), if_neg (by omega), if_neg (by omega), hself]
  exact if_pos hlt

/-- A read on a stream that the call has not made ready. -/
theorem pread_of_pending {position count : Int} {allocatedSize : Nat} (h : ValidRead position count allocatedSize)
    {s : DecryptingRandomAccessStream κ σ} (hp : Pending d s.initializeIfNeeded) (fuel : Nat) :
    ∃ e, s.pread fuel position count allocatedSize = some ((.error e, []), s.initializeIfNeeded) ∧
      e.code = .unavailable := by
  obtain ⟨h1, h2, h3⟩ := h
  obtain ⟨e, hstatus, hcode⟩ := hp.status
  refine ⟨e, ?_, hcode⟩
  unfold DecryptingRandomAccessStream.pread
  rw [if_neg (by omega), if_neg (by omega), if_neg (by omega)]
  simp only [hstatus]

/-- **Every such call keeps the stream between the two.** -/
theorem StartedWell.between (hC : Transient C At hits) (hF : 0 < d.firstSegmentSize) (hr : ReportsSize d C.length)
    (hlen : d.ciphertextOffset + d.headerSize < C.length) (hinit : d.init none header = .ok k) {src : σ} (hat : At src)
    {s : DecryptingRandomAccessStream κ σ} (h : StartedWell header (fresh d src) s) : Between At d k C s := by
  induction h with
  | nil => exact .inr ⟨pending_fresh d src, hat⟩
  | @size s s' r _ hstarts hsize ih =>
    have hs' : s' = s.initializeIfNeeded := by rw [← size_snd, hsize]
    rw [hs']
    rcases ih.initializeIfNeeded hC hr hlen hinit hstarts with ⟨src', hat', -, he⟩ | ⟨hp, hat', -⟩
    · exact .inl ⟨src', hat', he⟩
    · exact .inr ⟨hp, hat'⟩
  | @pread s s' r fuel position count allocatedSize _ hstarts hpread ih =>
    by_cases hvalid : ValidRead position count allocatedSize
    · rcases ih.initializeIfNeeded hC hr hlen hinit (hstarts hvalid) with ⟨src', hat', -, he⟩ | ⟨hp, hat', -⟩
      · rcases pread_ready hC.readsStay hF he hat' hpread with rfl | ⟨src'', hat'', rfl⟩
        · exact ih
        · exact .inl ⟨src'', hat'', rfl⟩
      · obtain ⟨e, he, -⟩ := pread_of_pending hvalid hp fuel
        rw [hpread] at he
        cases he
        exact .inr ⟨hp, hat'⟩
    · obtain ⟨e, -, he⟩ := pread_invalid κ hvalid
      rw [he σ fuel s] at hpread
      cases hpread
      exact ih

/-- **A read in such a run**, beside the read on a fresh stream over a source that delivers everything. -/
theorem Between.pread {σ₀ : Type} [RandomAccessStream σ₀] {At₀ : σ₀ → Prop} (hC : Transient C At hits)
    (hC₀ : Holds C At₀) (hF : 0 < d.firstSegmentSize) (hr : ReportsSize d C.length)
    (hlen : d.ciphertextOffset + d.headerSize < C.length) (hheader : (C.drop d.ciphertextOffset).take d.headerSize = header)
    (hinit : d.init none header = .ok k) (hrefuses : RefusesShort d k C) {s : DecryptingRandomAccessStream κ σ}
    (hs : Between At d k C s) {fuel allocatedSize : Nat} {position count : Int}
    (hstarts : ValidRead position count allocatedSize → StartsWell header s) {src₀ : σ₀} (hat₀ : At₀ src₀)
    {r₀ : Except Status Unit × Bytes} {s₀ : DecryptingRandomAccessStream κ σ₀}
    (h : (fresh d src₀).pread fuel position count allocatedSize = some (r₀, s₀)) :
    ∃ r s', s.pread fuel position count allocatedSize = some (r, s') ∧ SameOrHit hits s.ctSource s'.ctSource r r₀ := by
  by_cases hvalid : ValidRead position count allocatedSize
  · obtain ⟨src₀', hat₀', he₀⟩ := initializeIfNeeded_fresh hC₀ hr hlen (by rw [hheader]; exact hinit) hat₀
    rw [pread_of_ready hvalid he₀] at h
    rcases hs.initializeIfNeeded hC hr hlen hinit (hstarts hvalid) with ⟨src', hat', hle, he⟩ | ⟨hp, hat', hlt⟩
    · obtain ⟨r, src'', hat'', hpread, hsame⟩ := pread_ready_alike hC hC₀ hF hrefuses hat' hat₀' h
      exact ⟨r, _, by rw [pread_of_ready hvalid he, hpread], hsame.trans_le hle⟩
    · obtain ⟨e, hpread, hcode⟩ := pread_of_pending hvalid hp fuel
      exact ⟨_, _, hpread, .inr ⟨⟨e, rfl, by simp [hcode]⟩, hlt⟩⟩
  · obtain ⟨e, -, he⟩ := pread_invalid κ hvalid
    rw [he σ₀ fuel] at h
    cases h
    exact ⟨_, s, he σ fuel s, .inl ⟨⟨.refl _, rfl⟩, le_rfl⟩⟩

end Runs

/-! ## Over a ciphertext -/

section Ciphertext
variable {κ σ : Type} [RandomAccessStream σ] {At : σ → Prop} {hits : σ → Nat} {e : SegmentEncrypter}
  {d : SegmentDecrypter κ} {k : κ} {overhead : Nat} {P other : Bytes} {cts : List Bytes}

/-- **The decrypter of a stream**: it undoes the segments of the stream, and refuses what is only the start of one, or
comes in the place of one behind the last. -/
structure RefusesTruncated (e : SegmentEncrypter) (d : SegmentDecrypter κ) (k : κ) (P : Bytes) (cts : List Bytes) : Prop
    extends Undoes d k (e.pieces P) cts where
  init      : d.init none e.header = .ok k
  truncated : ∀ {i c c'}, cts[i]? = some c' → c <+: c' → c ≠ c' →
    ∃ err, d.decryptSegment k c i (decide (i + 1 = cts.length)) = .error err
  behind    : ∀ {i}, cts.length ≤ i → ∃ err, d.decryptSegment k [] i (decide (i + 1 = cts.length)) = .error err
  code      : ∀ {c i isLast err}, d.decryptSegment k c i isLast = .error err → err.code ≠ .outOfRange

/-- An ideal decrypter is such a one. -/
theorem Ideal.refusesTruncated (hi : Ideal e d k P cts) : RefusesTruncated e d k P cts where
  decrypt hp hc := hi.decrypt_iff.2 ⟨hc, hp, rfl⟩
  init := hi.init
  truncated {i c c'} hc' _ hne := by
    cases hdec : d.decryptSegment k c i (decide (i + 1 = cts.length)) with
    | error err => exact ⟨err, rfl⟩
    | ok p =>
      have hc := (hi.decrypt_iff.1 hdec).1
      rw [hc'] at hc
      cases hc
      exact absurd rfl hne
  behind {i} hle := by
    cases hdec : d.decryptSegment k [] i (decide (i + 1 = cts.length)) with
    | error err => exact ⟨err, rfl⟩
    | ok p =>
      have hc := (hi.decrypt_iff.1 hdec).1
      rw [List.getElem?_eq_none hle] at hc
      cases hc
  code := hi.decrypt_code

theorem RefusesTruncated.refusesShort (hr : RefusesTruncated e d k P cts) (hb : Bounded e d overhead)
    (hF : 0 < e.firstSegmentSize) (hh : e.header ≠ []) (hseg : e.Segments P cts)
    (hother : other.length = d.ciphertextOffset) : RefusesShort d k (other ++ (e.header ++ cts.flatten)) where
  refuses {i c} hbegins hfull := by
    obtain ⟨hcount, -, -⟩ := hb.sizes hF hh hseg hother
    have hdF := hb.firstSegmentSize_pos hF
    rw [hcount]
    by_cases hi : i < cts.length
    · have hlt := (hb.readable hF hh hseg hother hr.toUndoes hi).ctPosition
      rw [hb.segment_ciphertext hF hseg hother hi] at hbegins hfull
      exact hr.truncated (List.getElem?_eq_getElem hi) hbegins (fun heq => by have := hfull heq; omega)
    · have hpos : 0 < i := by
        have := hseg.length_pos
        omega
      have hend := le_ctPosition hdF hpos (by omega : d.segmentCount (other ++ (e.header ++ cts.flatten)).length ≤ i)
      have hnil : d.segment (other ++ (e.header ++ cts.flatten)) i = [] := by
        unfold SegmentDecrypter.segment
        rw [List.drop_eq_nil_of_le hend, List.take_nil]
      rw [hnil, List.prefix_nil] at hbegins
      subst hbegins
      exact hr.behind (Nat.le_of_not_lt hi)
  code := hr.code

/-- A read on a fresh stream over a source that delivers everything returns, and what it gives with OK or OUT_OF_RANGE
is the plaintext. -/
theorem fresh_pread {σ₀ : Type} [RandomAccessStream σ₀] {At₀ : σ₀ → Prop} (hb : Bounded e d overhead)
    (hF : 0 < e.firstSegmentSize) (hh : e.header ≠ []) (hseg : e.Segments P cts) (hr : RefusesTruncated e d k P cts)
    (hother : other.length = d.ciphertextOffset) (hC₀ : Holds (other ++ (e.header ++ cts.flatten)) At₀) {src₀ : σ₀}
    (hat₀ : At₀ src₀) {fuel : Nat} (allocatedSize : Nat) (position : Int) {count : Int} (hcount : count < 2 ^ 31)
    (hfuel : count.toNat < fuel) :
    ∃ r₀ s₀, (fresh d src₀).pread fuel position count allocatedSize = some (r₀, s₀) ∧
      (DecryptingRandomAccessStream.okOrOutOfRange r₀.1 = true →
        0 ≤ position ∧ r₀.2 = (P.drop position.toNat).take count.toNat) := by
  by_cases hvalid : ValidRead position count allocatedSize
  · obtain ⟨hcount0, halloc, hposition⟩ := hvalid
    obtain ⟨position, rfl⟩ := Int.eq_ofNat_of_zero_le hposition
    obtain ⟨count, rfl⟩ := Int.eq_ofNat_of_zero_le hcount0
    simp only [Int.toNat_natCast] at hfuel ⊢
    have hdF := hb.firstSegmentSize_pos hF
    have hgeom := hb.ptSegmentSize_lt hF
    obtain ⟨-, hsize, hrep⟩ := hb.sizes hF hh hseg hother
    obtain ⟨hheader, hlt⟩ := hb.header_ciphertext hF hh hseg hother hr.toUndoes
    obtain ⟨src₀', hat₀', hs₀⟩ := initializeIfNeeded_fresh hC₀ hrep hlt (by rw [hheader]; exact hr.init) hat₀
    by_cases hle : position ≤ P.length
    · by_cases hpos : 0 < count
      · obtain ⟨status, s₀, he, -⟩ := pread_ciphertext hb hF hh hseg hother hr.toUndoes hC₀ hs₀ hat₀' hle hpos
          (by omega) (by omega : count ≤ allocatedSize) hfuel
        exact ⟨_, s₀, he, fun _ => ⟨by omega, rfl⟩⟩
      · obtain rfl : count = 0 := by omega
        obtain ⟨fuel, rfl⟩ : ∃ n, fuel = n + 1 := ⟨fuel - 1, by omega⟩
        have hpt : (position : Int) ≤ d.ptSize (other ++ (e.header ++ cts.flatten)).length := by omega
        rw [pread_eq hgeom (ctSegmentSize_pos hdF) hs₀ hpt (Nat.zero_le _)
          (hb.position_add_lt hF hrep hpt (by decide)), preadLoop_done (Nat.zero_le _)]
        exact ⟨_, _, rfl, fun _ => ⟨by omega, by simp⟩⟩
    · rw [pread_of_ready ⟨hcount0, halloc, hposition⟩ hs₀,
        pread_behind ⟨hcount0, halloc, hposition⟩ (by omega)]
      exact ⟨_, _, rfl, fun h => by simp [DecryptingRandomAccessStream.okOrOutOfRange] at h⟩
  · obtain ⟨err, hcode, he⟩ := pread_invalid κ hvalid
    exact ⟨_, _, he σ₀ fuel _, fun h => by simp [DecryptingRandomAccessStream.okOrOutOfRange, hcode] at h⟩

/-- **What every `PRead` should do**: return, and with OK or OUT_OF_RANGE give the bytes of the plaintext; and if there was
no transient condition during it, give the same result as on a fresh stream over a source that delivers everything. -/
def RightRead (hits : σ → Nat) (d : SegmentDecrypter κ) (P C : Bytes) (t : DecryptingRandomAccessStream κ σ)
    (fuel : Nat) (position count : Int) (allocatedSize : Nat) : Prop :=
  ∃ r t', t.pread fuel position count allocatedSize = some (r, t') ∧
    (DecryptingRandomAccessStream.okOrOutOfRange r.1 = true →
      0 ≤ position ∧ r.2 = (P.drop position.toNat).take count.toNat) ∧
    (hits t'.ctSource = hits t.ctSource → ∀ (σ₀ : Type) [RandomAccessStream σ₀] (At₀ : σ₀ → Prop) (src₀ : σ₀),
      Holds C At₀ → At₀ src₀ → ∃ r₀ s₀, (fresh d src₀).pread fuel position count allocatedSize = some (r₀, s₀) ∧
        SameResult r r₀)

/-- **Transient conditions are survived** in every run whose calls all start well, over every ciphertext. -/
theorem transient_survived (hb : Bounded e d overhead) (hF : 0 < e.firstSegmentSize) (hh : e.header ≠ [])
    (hseg : e.Segments P cts) (hr : RefusesTruncated e d k P cts) (hother : other.length = e.ciphertextOffset)
    (hC : Transient (other ++ (e.header ++ cts.flatten)) At hits) {src : σ} (hat : At src) :
    ∃ t₀, DecryptingRandomAccessStream.new d src = .ok t₀ ∧ ∀ t, StartedWell e.header t₀ t →
      ∀ (fuel allocatedSize : Nat) (position count : Int), count < 2 ^ 31 → count.toNat < fuel →
        (ValidRead position count allocatedSize → StartsWell e.header t) →
        RightRead hits d P (other ++ (e.header ++ cts.flatten)) t fuel position count allocatedSize := by
  rw [← hb.ciphertextOffset] at hother
  have hdF := hb.firstSegmentSize_pos hF
  have hgeom := hb.ptSegmentSize_lt hF
  obtain ⟨-, -, hrep⟩ := hb.sizes hF hh hseg hother
  obtain ⟨hheader, hlt⟩ := hb.header_ciphertext hF hh hseg hother hr.toUndoes
  have hrefuses := hr.refusesShort hb hF hh hseg hother
  refine ⟨fresh d src, new_eq (by omega), fun t ht fuel allocatedSize position count hcount hfuel hstarts => ?_⟩
  have hbetween := ht.between hC hdF hrep hlt hr.init hat
  obtain ⟨r₀, s₀, hfresh, hbytes⟩ := fresh_pread hb hF hh hseg hr hother (FileSource.holds _) rfl allocatedSize position
    hcount hfuel
  obtain ⟨r, t', hpread, hsame⟩ := hbetween.pread hC (FileSource.holds _) hdF hrep hlt hheader hr.init hrefuses hstarts rfl
    hfresh
  refine ⟨r, t', hpread, fun hok => ?_, fun hhits σ₀ _ At₀ src₀ hC₀ hat₀ => ?_⟩
  · rcases hsame with ⟨⟨hstatus, hdata⟩, -⟩ | ⟨hfails, -⟩
    · rw [hdata]
      rw [hstatus.okOrOutOfRange_eq] at hok
      exact hbytes hok
    · rw [hfails.okOrOutOfRange_eq] at hok
      cases hok
  · obtain ⟨r₁, s₁, hfresh₁, -⟩ := fresh_pread hb hF hh hseg hr hother hC₀ hat₀ allocatedSize position hcount hfuel
    obtain ⟨r', t'', hpread', hsame'⟩ := hbetween.pread hC hC₀ hdF hrep hlt hheader hr.init hrefuses hstarts hat₀ hfresh₁
    rw [hpread] at hpread'
    cases hpread'
    rcases hsame' with ⟨hsame', -⟩ | ⟨-, hlt'⟩
    · exact ⟨r₁, s₁, hfresh₁, hsame'⟩
    · omega

end Ciphertext


/-! ## A source to run -/

/-- What happens to a call: nothing, a read of at most so many bytes, or UNAVAILABLE. -/
inductive Fault
  | none
  | short (count : Nat)
  | unavailable

/-- A `FileSource` with a fault for each of its first calls. -/
structure ScriptedSource where
  contents : Bytes
  script   : List Fault
  hits     : Nat

/-- After the next call. -/
def ScriptedSource.next (s : ScriptedSource) : ScriptedSource :=
  match s.script with
  | []              => s
  | .none :: script => { s with script }
  | _ :: script     => { s with script, hits := s.hits + 1 }

instance : RandomAccessStream ScriptedSource where
  pread position count s :=
    match s.script with
    | .short n :: _     => ((.ok (), ((s.contents.drop position).take count).take n), s.next)
    | .unavailable :: _ => ((.error ⟨.unavailable, "try again"⟩, []), s.next)
    | _                 => ((RandomAccessStream.pread position count (FileSource.mk s.contents)).1, s.next)
  size s :=
    match s.script with
    | .unavailable :: _ => (.error ⟨.unavailable, "try again"⟩, s.next)
    | .short _ :: _     => (.error ⟨.unavailable, "try again"⟩, s.next)
    | _                 => (.ok s.contents.length, s.next)

theorem ScriptedSource.transient (C : Bytes) :
    Transient C (fun s : ScriptedSource => s.contents = C) ScriptedSource.hits where
  size := by
    rintro ⟨contents, script, hits⟩ rfl
    match script with
    | []                  => exact ⟨_, _, rfl, rfl, .inl ⟨rfl, rfl⟩⟩
    | .none :: _          => exact ⟨_, _, rfl, rfl, .inl ⟨rfl, rfl⟩⟩
    | .short _ :: _       => exact ⟨_, _, rfl, rfl, .inr ⟨⟨_, rfl, rfl⟩, Nat.lt_succ_self _⟩⟩
    | .unavailable :: _   => exact ⟨_, _, rfl, rfl, .inr ⟨⟨_, rfl, rfl⟩, Nat.lt_succ_self _⟩⟩
  pread := by
    rintro ⟨contents, script, hits⟩ position count hpos rfl
    obtain ⟨status, bytes, src, hpread, -, hfull⟩ := (FileSource.holds contents).full position hpos rfl
    match script with
    | [] =>
      refine ⟨status, bytes, ScriptedSource.next ⟨contents, [], hits⟩, ?_, rfl, .inl ⟨hfull, rfl⟩⟩
      change ((RandomAccessStream.pread position count (FileSource.mk contents)).1, _) = _
      rw [hpread]
    | .none :: script =>
      refine ⟨status, bytes, ScriptedSource.next ⟨contents, .none :: script, hits⟩, ?_, rfl, .inl ⟨hfull, rfl⟩⟩
      change ((RandomAccessStream.pread position count (FileSource.mk contents)).1, _) = _
      rw [hpread]
    | .short n :: _ =>
      exact ⟨_, _, _, rfl, rfl, .inr ⟨.inl ⟨rfl, List.take_prefix _ _⟩, Nat.lt_succ_self _⟩⟩
    | .unavailable :: _ =>
      exact ⟨_, _, _, rfl, rfl, .inr ⟨.inr ⟨_, rfl, rfl⟩, Nat.lt_succ_self _⟩⟩

/-- The decrypter of a stream of one segment, behind one byte of other data. -/
def threeDecrypter : SegmentDecrypter Bytes := idealDecrypter (limitedEncrypter [7, 9] 6) [[1, 2, 3]] [[1, 2, 3, 0, 1]]

theorem three_segments : (limitedEncrypter [7, 9] 6).Segments [1, 2, 3] [[1, 2, 3, 0, 1]] :=
  limitedEncrypter_segments [7, 9] [1, 2, 3] 6 (by decide)

theorem three_refusesTruncated :
    RefusesTruncated (limitedEncrypter [7, 9] 6) threeDecrypter [7, 9] [1, 2, 3] [[1, 2, 3, 0, 1]] := by
  have hpieces : (limitedEncrypter [7, 9] 6).pieces [1, 2, 3] = [[1, 2, 3]] := cut_of_length_le (by decide)
  have hideal := idealDecrypter_ideal (limitedEncrypter [7, 9] 6) [1, 2, 3] [[1, 2, 3, 0, 1]]
  rw [hpieces] at hideal
  exact hideal.refusesTruncated

/-- The read of the header is UNAVAILABLE, and the read of the segment short: `size` fails, then every read is right. -/
theorem transient_survived_scripted :
    ∃ t₀ t e, DecryptingRandomAccessStream.new threeDecrypter
        (ScriptedSource.mk [5, 7, 9, 1, 2, 3, 0, 1] [.unavailable, .none, .none, .short 2] 0) = .ok t₀ ∧
      t₀.size = (.error e, t) ∧
      RightRead ScriptedSource.hits threeDecrypter [1, 2, 3] [5, 7, 9, 1, 2, 3, 0, 1] t 4 0 3 3 := by
  have hcontents : (ScriptedSource.mk [5, 7, 9, 1, 2, 3, 0, 1] [.unavailable, .none, .none, .short 2] 0).contents =
      [5] ++ ((limitedEncrypter [7, 9] 6).header ++ [[1, 2, 3, 0, 1]].flatten) := rfl
  obtain ⟨t₀, hnew, hright⟩ := transient_survived (ideal_bounded [7, 9] (by decide) _ _) (by decide) (by decide)
    three_segments three_refusesTruncated rfl (ScriptedSource.transient _) hcontents
  cases hnew
  refine ⟨_, _, _, rfl, rfl, hright _ (.size .nil ?_ rfl) 4 3 0 3 (by decide) (by decide) ?_⟩
  · intro _ buf src' hpread
    cases hpread
  · intro _ _ buf src' hpread
    cases hpread
    exact ⟨rfl, _, _, rfl⟩

/-- **Neither of the two is survived**: after a short read of the header, and after a `size` that was UNAVAILABLE, a read
over a source that delivers everything fails. -/
theorem transient_not_survived :
    (limitedEncrypter [7, 9] 6).Segments [1, 2, 3] [[1, 2, 3, 0, 1]] ∧
    RefusesTruncated (limitedEncrypter [7, 9] 6) threeDecrypter [7, 9] [1, 2, 3] [[1, 2, 3, 0, 1]] ∧
    Transient [5, 7, 9, 1, 2, 3, 0, 1] (fun s : ScriptedSource => s.contents = [5, 7, 9, 1, 2, 3, 0, 1])
      ScriptedSource.hits ∧
    (∃ t₀ t, DecryptingRandomAccessStream.new threeDecrypter
        (ScriptedSource.mk [5, 7, 9, 1, 2, 3, 0, 1] [.short 1] 0) = .ok t₀ ∧ Calls t₀ t ∧
      ¬ RightRead ScriptedSource.hits threeDecrypter [1, 2, 3] [5, 7, 9, 1, 2, 3, 0, 1] t 4 0 3 3) ∧
    (∃ t₀ t, DecryptingRandomAccessStream.new threeDecrypter
        (ScriptedSource.mk [5, 7, 9, 1, 2, 3, 0, 1] [.none, .unavailable] 0) = .ok t₀ ∧ Calls t₀ t ∧
      ¬ RightRead ScriptedSource.hits threeDecrypter [1, 2, 3] [5, 7, 9, 1, 2, 3, 0, 1] t 4 0 3 3) := by
  have hfresh : (fresh threeDecrypter (FileSource.mk [5, 7, 9, 1, 2, 3, 0, 1])).pread 4 0 3 3 =
      some ((.error ⟨.outOfRange, "EOF"⟩, [1, 2, 3]), ready threeDecrypter [7, 9] 8 ⟨[5, 7, 9, 1, 2, 3, 0, 1]⟩) := rfl
  refine ⟨three_segments, three_refusesTruncated, ScriptedSource.transient _, ⟨_, _, rfl, .size .nil rfl, ?_⟩,
    ⟨_, _, rfl, .size .nil rfl, ?_⟩⟩
  · -- the decrypter was started with a zero for the second byte of the header
    rintro ⟨r, t', hpread, -, hsame⟩
    cases hpread
    obtain ⟨r₀, s₀, he, hstatus, -⟩ := hsame rfl FileSource _ _ (FileSource.holds _) rfl
    rw [hfresh] at he
    cases he
    cases hstatus
  · -- the decrypter is started again, and refuses
    rintro ⟨r, t', hpread, -, hsame⟩
    cases hpread
    obtain ⟨r₀, s₀, he, hstatus, -⟩ := hsame rfl FileSource _ _ (FileSource.holds _) rfl
    rw [hfresh] at he
    cases he
    cases hstatus

end Tink
