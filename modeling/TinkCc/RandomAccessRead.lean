import TinkCc.RandomAccess
/-!
# RandomAccessRead — reading a plaintext through its ciphertext

`preadLoop_of_readable` runs the loop of `PReadAndDecrypt` over segments that decrypt to their pieces of the plaintext;
it does not ask what the rest of the source holds.  Over a whole ciphertext that is every read
(`randomAccess_pread`).
-/
namespace Tink

open Cut

/-! ## One round of the loop -/

section Loop
variable {κ σ : Type} [RandomAccessStream σ] {position count allocatedSize fuel : Nat} {ptOffset : Nat}
  {s s' : DecryptingRandomAccessStream κ σ} {ptSegment ptSegment' dest : Bytes} {status : Except Status Unit}

theorem preadLoop_done (h : count ≤ dest.length) :
    DecryptingRandomAccessStream.preadLoop position count allocatedSize (fuel + 1) s ptSegment ptOffset dest =
      some ((.ok (), dest), s) := by
  unfold DecryptingRandomAccessStream.preadLoop
  rw [if_pos (by omega)]

/-- A round that has read a segment. -/
theorem preadLoop_step (hlt : dest.length < count) (halloc : count ≤ allocatedSize)
    (hread : s.readAndDecryptSegment (s.getSegmentNr (position + dest.length)) ptSegment = (status, ptSegment', s'))
    (hst : DecryptingRandomAccessStream.okOrOutOfRange status = true) (hoff : ptOffset ≤ ptSegment'.length) :
    DecryptingRandomAccessStream.preadLoop position count allocatedSize (fuel + 1) s ptSegment ptOffset dest =
      if status ≠ .ok () ∧ ptSegment'.length - ptOffset ≤ count - dest.length then
        some ((status, dest ++ ptSegment'.drop ptOffset), s')
      else
        DecryptingRandomAccessStream.preadLoop position count allocatedSize fuel s' ptSegment' 0
          (dest ++ (ptSegment'.drop ptOffset).take (count - dest.length)) := by
  have htake : (ptSegment'.drop ptOffset).take (min ((ptSegment'.length : Int) - ptOffset) (count - dest.length : Nat)).toNat =
      (ptSegment'.drop ptOffset).take (count - dest.length) := by
    rw [List.take_eq_take_iff, List.length_drop]
    omega
  conv_lhs => unfold DecryptingRandomAccessStream.preadLoop
  simp only [hread, hst]
  rw [if_neg (by omega), if_neg (by simp), if_neg (by omega), htake]
  by_cases hend : status ≠ .ok () ∧ ptSegment'.length - ptOffset ≤ count - dest.length
  · rw [if_pos hend, if_pos ⟨hend.1, by omega⟩, List.take_of_length_le (by rw [List.length_drop]; exact hend.2)]
  · rw [if_neg hend, if_neg]
    rintro ⟨h1, h2⟩
    exact hend ⟨h1, by omega⟩

/-- A round that has failed. -/
theorem preadLoop_failed (hlt : dest.length < count)
    (hread : s.readAndDecryptSegment (s.getSegmentNr (position + dest.length)) ptSegment = (status, ptSegment', s'))
    (hst : DecryptingRandomAccessStream.okOrOutOfRange status = false) :
    DecryptingRandomAccessStream.preadLoop position count allocatedSize (fuel + 1) s ptSegment ptOffset dest =
      some ((status, dest), s') := by
  unfold DecryptingRandomAccessStream.preadLoop
  simp only [hread, hst]
  rw [if_neg (by omega), if_pos (by simp)]

/-- More rounds do not change a result. -/
theorem preadLoop_mono {r : (Except Status Unit × Bytes) × DecryptingRandomAccessStream κ σ} {fuel' : Nat} :
    ∀ {fuel : Nat} {s : DecryptingRandomAccessStream κ σ} {ptSegment : Bytes} {ptOffset : Nat} {dest : Bytes},
    DecryptingRandomAccessStream.preadLoop position count allocatedSize fuel s ptSegment ptOffset dest = some r →
    DecryptingRandomAccessStream.preadLoop position count allocatedSize (fuel + fuel') s ptSegment ptOffset dest = some r
  | 0, _, _, _, _, h => by cases h
  | fuel + 1, s, ptSegment, ptOffset, dest, h => by
    rw [Nat.add_right_comm]
    unfold DecryptingRandomAccessStream.preadLoop at h ⊢
    simp only at h ⊢
    split at h
    · rename_i h0
      rw [if_pos h0]
      exact h
    · rename_i h0
      rw [if_neg h0]
      split at h
      · rename_i h1
        rw [if_pos h1]
        exact h
      · rename_i h1
        rw [if_neg h1]
        split at h
        · rename_i h2
          rw [if_pos h2]
          exact h
        · rename_i h2
          rw [if_neg h2]
          split at h
          · rename_i h3
            rw [if_pos h3]
            exact h
          · rename_i h3
            rw [if_neg h3]
            exact preadLoop_mono h

end Loop

section Ready
variable {κ σ : Type} [RandomAccessStream σ] {At : σ → Prop} {d : SegmentDecrypter κ} {k : κ}

/-- The loop leaves a ready stream ready. -/
theorem preadLoop_ready (hstay : ReadsStay At) (hF : 0 < d.firstSegmentSize) {L position count allocatedSize : Nat}
    {r : Except Status Unit × Bytes} {s' : DecryptingRandomAccessStream κ σ} :
    ∀ {fuel : Nat} {src : σ} {ptSegment : Bytes} {ptOffset : Nat} {dest : Bytes}, At src →
    DecryptingRandomAccessStream.preadLoop position count allocatedSize fuel (ready d k L src) ptSegment ptOffset
      dest = some (r, s') → ∃ src', At src' ∧ s' = ready d k L src'
  | 0, _, _, _, _, _, h => by cases h
  | fuel + 1, src, ptSegment, ptOffset, dest, hat, h => by
    obtain ⟨status, ptSegment', src', hat', hread⟩ := readAndDecryptSegment_ready (k := k) (L := L) hstay hF
      ((ready d k L src).getSegmentNr (position + dest.length)) hat ptSegment
    unfold DecryptingRandomAccessStream.preadLoop at h
    simp only [hread] at h
    split at h
    · cases h
      exact ⟨src, hat, rfl⟩
    · split at h
      · cases h
        exact ⟨src', hat', rfl⟩
      · split at h
        · cases h
          exact ⟨src', hat', rfl⟩
        · split at h
          · cases h
            exact ⟨src', hat', rfl⟩
          · exact preadLoop_ready hstay hF hat' h

end Ready

/-! ## Reading the pieces of a plaintext -/

section Readable
variable {κ : Type} {e : SegmentEncrypter} {d : SegmentDecrypter κ} {k : κ} {overhead : Nat} {P C : Bytes}

/-- Segment `i` of the source decrypts to piece `i` of the plaintext, and is the last one by the size of the source just
if the piece is. -/
structure Readable (e : SegmentEncrypter) (d : SegmentDecrypter κ) (k : κ) (P C : Bytes) (i : Nat) : Prop where
  lt         : i < d.segmentCount C.length
  ctPosition : d.ctPosition i < C.length
  fits       : i * d.ciphertextSegmentSize < 2 ^ 63
  piece      : ∃ p, (e.pieces P)[i]? = some p ∧
    d.decryptSegment k (d.segment C i) i (decide (i + 1 = d.segmentCount C.length)) = .ok p
  last_iff   : i + 1 = d.segmentCount C.length ↔ i + 1 = (e.pieces P).length

theorem Fits.ptSegmentSize_lt (hf : Fits e d overhead) (hF : 0 < e.firstSegmentSize) :
    d.ciphertextOffset + d.headerSize < d.plaintextSegmentSize := by
  unfold SegmentEncrypter.firstSegmentSize at hF
  rw [hf.ciphertextOffset, hf.headerSize, hf.plaintextSegmentSize]
  omega

theorem Fits.ptSize_eq (hf : Fits e d overhead) (L : Nat) :
    d.ptSize L = L - ((d.segmentCount L * overhead + d.ciphertextOffset + d.headerSize : Nat) : Int) := by
  have hover : (d.ciphertextSegmentSize - d.plaintextSegmentSize : Int) = overhead := by
    rw [hf.ciphertextSegmentSize, hf.plaintextSegmentSize]
    omega
  unfold SegmentDecrypter.ptSize
  rw [hover, Int.mul_comm]
  push_cast
  rfl

/-- Piece `i` lies at `ptStart i`. -/
theorem Fits.piece (hf : Fits e d overhead) (hF : 0 < e.firstSegmentSize) {i : Nat} {p : Bytes}
    (hp : (e.pieces P)[i]? = some p) :
    ∃ behind, P.drop (d.ptStart i) = p ++ behind ∧ d.ptStart i ≤ P.length ∧ d.ptStart i + p.length ≤ d.ptStart (i + 1) ∧
      (i + 1 = (e.pieces P).length → behind = []) ∧
      (i + 1 ≠ (e.pieces P).length → behind ≠ [] ∧ d.ptStart i + p.length = d.ptStart (i + 1)) := by
  have hS : 0 < e.plaintextSegmentSize := by unfold SegmentEncrypter.firstSegmentSize at hF; omega
  have hfirst : d.plaintextSegmentSize - d.ciphertextOffset - d.headerSize = e.firstSegmentSize.toNat := by
    unfold SegmentEncrypter.firstSegmentSize
    rw [hf.ciphertextOffset, hf.headerSize, hf.plaintextSegmentSize]
    omega
  unfold SegmentDecrypter.ptStart
  rw [hfirst, hf.plaintextSegmentSize]
  exact cut_get (by omega) hS hp

/-- What the plaintext is from a position on: the rest of the piece it lies in, and what is behind that. -/
theorem Fits.piece_at (hf : Fits e d overhead) (hF : 0 < e.firstSegmentSize) {x : Nat} {p : Bytes} (hx : x < P.length)
    (hp : (e.pieces P)[d.segmentNr x]? = some p) :
    ∃ behind, P.drop x = p.drop (x - d.ptStart (d.segmentNr x)) ++ behind ∧ d.ptStart (d.segmentNr x) ≤ x ∧
      x - d.ptStart (d.segmentNr x) < p.length ∧ P.length = d.ptStart (d.segmentNr x) + p.length + behind.length ∧
      (d.segmentNr x + 1 = (e.pieces P).length → behind = []) ∧
      (d.segmentNr x + 1 ≠ (e.pieces P).length →
        behind ≠ [] ∧ d.ptStart (d.segmentNr x) + p.length = d.ptStart (d.segmentNr x + 1)) := by
  obtain ⟨hstart, hend⟩ := segmentNr_spec (hf.ptSegmentSize_lt hF) x
  obtain ⟨behind, hdrop, hstartle, -, hlast, hnotlast⟩ := hf.piece hF hp
  have hlen : P.length = d.ptStart (d.segmentNr x) + p.length + behind.length := by
    have := congrArg List.length hdrop
    rw [List.length_drop, List.length_append] at this
    omega
  have hlt : x - d.ptStart (d.segmentNr x) < p.length := by
    by_cases hl : d.segmentNr x + 1 = (e.pieces P).length
    · have := congrArg List.length (hlast hl)
      rw [List.length_nil] at this
      omega
    · have := (hnotlast hl).2
      omega
  refine ⟨behind, ?_, hstart, hlt, hlen, hlast, hnotlast⟩
  rw [← List.drop_append_of_le_length hlt.le, ← hdrop, List.drop_drop, Nat.add_sub_cancel' hstart]

end Readable

section Read
variable {κ σ : Type} [RandomAccessStream σ] {At : σ → Prop} {e : SegmentEncrypter} {d : SegmentDecrypter κ} {k : κ}
  {overhead : Nat} {P C : Bytes}

/-- A readable segment is read. -/
theorem Readable.read {i : Nat} (h : Readable e d k P C i) (hC : Holds C At) (hF : 0 < d.firstSegmentSize) {src : σ}
    (hat : At src) (ptSegment : Bytes) :
    ∃ p src', (e.pieces P)[i]? = some p ∧ At src' ∧ (ready d k C.length src).readAndDecryptSegment i ptSegment =
      (if i + 1 = (e.pieces P).length then .error ⟨.outOfRange, "EOF"⟩ else .ok (), p, ready d k C.length src') := by
  obtain ⟨p, hp, hok⟩ := h.piece
  obtain ⟨src', hat', hread⟩ := readAndDecryptSegment_eq (k := k) hC hF h.lt h.ctPosition h.fits hat ptSegment
  refine ⟨p, src', hp, hat', ?_⟩
  rw [hread]
  unfold decrypted
  rw [hok]
  simp only [h.last_iff]

/-- **The loop reads the plaintext**, as far as its segments are readable. -/
theorem preadLoop_of_readable (hC : Holds C At) (hf : Fits e d overhead) (hF : 0 < e.firstSegmentSize)
    {position count allocatedSize : Nat} (halloc : count ≤ allocatedSize) :
    ∀ {fuel : Nat} {src : σ} {ptSegment : Bytes} {ptOffset : Nat} {dest : Bytes}, At src →
    dest = (P.drop position).take dest.length → dest.length ≤ count → position + dest.length < P.length →
    (dest.length < count → ptOffset = position + dest.length - d.ptStart (d.segmentNr (position + dest.length))) →
    count - dest.length < fuel →
    (∀ x, position + dest.length ≤ x → x < position + count → x < P.length → Readable e d k P C (d.segmentNr x)) →
    ∃ status src', At src' ∧ DecryptingRandomAccessStream.preadLoop position count allocatedSize fuel
        (ready d k C.length src) ptSegment ptOffset dest = some ((status, (P.drop position).take count), ready d k C.length src') ∧
      (status = .ok () ↔ position + count < P.length) ∧ (∀ err, status = .error err → err.code = .outOfRange)
  | 0, _, _, _, _, _, _, _, _, _, hfuel, _ => absurd hfuel (Nat.not_lt_zero _)
  | fuel + 1, src, ptSegment, ptOffset, dest, hat, hdest, hle, hlt, hoff, hfuel, hreadable => by
    have hgeom := hf.ptSegmentSize_lt hF
    have hdF := hf.firstSegmentSize_pos hF
    by_cases hdone : count ≤ dest.length
    · have heq : dest.length = count := by omega
      refine ⟨.ok (), src, hat, ?_, iff_of_true rfl (by omega), fun err h => by cases h⟩
      rw [preadLoop_done hdone, ← heq, ← hdest]
    · have hpos : dest.length < count := by omega
      have hr := hreadable _ le_rfl (by omega) hlt
      obtain ⟨p, src', hp, hat', hread⟩ := hr.read hC hdF hat ptSegment
      obtain ⟨behind, hdrop, hstart, hplt, hlen, hlast, hnotlast⟩ := hf.piece_at hF hlt hp
      rw [← hoff hpos] at hdrop hplt
      have hoff' := hoff hpos
      have hrest : P.drop position = dest ++ (p.drop ptOffset ++ behind) := by
        rw [← List.take_append_drop dest.length (P.drop position), ← hdest, List.drop_drop, hdrop]
      rw [preadLoop_step hpos halloc hread (by split <;> rfl) hplt.le]
      by_cases hend' : d.segmentNr (position + dest.length) + 1 = (e.pieces P).length ∧
          p.length - ptOffset ≤ count - dest.length
      · -- the read ends with the plaintext
        obtain rfl := hlast hend'.1
        rw [List.append_nil] at hrest
        rw [List.length_nil] at hlen
        rw [if_pos hend'.1, if_pos ⟨by simp, hend'.2⟩]
        refine ⟨.error ⟨.outOfRange, "EOF"⟩, src', hat', ?_, iff_of_false (by simp) (by omega), ?_⟩
        · rw [hrest, List.take_of_length_le]
          rw [List.length_append, List.length_drop]
          omega
        · rintro err h
          cases h
          rfl
      · have hlen' : (dest ++ (p.drop ptOffset).take (count - dest.length)).length =
            dest.length + min (count - dest.length) (p.length - ptOffset) := by
          rw [List.length_append, List.length_take, List.length_drop]
        have hlt' : position + (dest ++ (p.drop ptOffset).take (count - dest.length)).length < P.length := by
          rw [hlen']
          by_cases hl : d.segmentNr (position + dest.length) + 1 = (e.pieces P).length
          · have := fun h => hend' ⟨hl, h⟩
            omega
          · have := List.length_pos_iff.2 (hnotlast hl).1
            omega
        rw [if_neg]
        · refine preadLoop_of_readable hC hf hF halloc hat' ?_ (by omega) hlt' ?_ (by omega) ?_
          · rw [← List.prefix_iff_eq_take, hrest, List.prefix_append_right_inj]
            exact (List.take_prefix _ _).trans (List.prefix_append _ _)
          · -- the next round starts with the next piece
            intro hmore
            rw [hlen'] at hmore ⊢
            have hl : d.segmentNr (position + dest.length) + 1 ≠ (e.pieces P).length := fun hl => by
              have := fun h => hend' ⟨hl, h⟩
              omega
            have hnext := (hnotlast hl).2
            have hq : position + (dest.length + min (count - dest.length) (p.length - ptOffset)) =
                d.ptStart (d.segmentNr (position + dest.length) + 1) := by omega
            rw [hq, segmentNr_ptStart hgeom, Nat.sub_self]
          · intro x hx hxc hxP
            rw [hlen'] at hx
            exact hreadable x (by omega) hxc hxP
        · rintro ⟨hst, hle'⟩
          by_cases hl : d.segmentNr (position + dest.length) + 1 = (e.pieces P).length
          · exact hend' ⟨hl, hle'⟩
          · rw [if_neg hl] at hst
            exact hst rfl

end Read

/-! ## The ciphertext in the source -/

section Layout
variable {κ : Type} {e : SegmentEncrypter} {d : SegmentDecrypter κ} {k : κ} {overhead : Nat} {P other : Bytes}
  {cts : List Bytes}

/-- What the stream asks of the segment encrypter and decrypter besides: the sizes are `int`s, a segment has some
overhead, and there are at most 2^32 segments. -/
structure Bounded (e : SegmentEncrypter) (d : SegmentDecrypter κ) (overhead : Nat) : Prop extends Fits e d overhead where
  overhead_pos     : 0 < overhead
  segmentSize_lt   : d.ciphertextSegmentSize < 2 ^ 31
  segmentNumber_lt : ∀ {i p isLast c}, e.encryptSegment i p isLast = .ok c → i < 2 ^ 32

theorem Fits.ctPosition_eq (hf : Fits e d overhead) (hF : 0 < e.firstSegmentSize) (i : Nat) :
    d.ctPosition i = d.ptStart i + d.ciphertextOffset + d.headerSize + i * overhead := by
  cases i with
  | zero => simp [SegmentDecrypter.ctPosition, SegmentDecrypter.ptStart, start]
  | succ i =>
    rw [ptStart_succ (hf.ptSegmentSize_lt hF), hf.plaintextSegmentSize, ← Nat.mul_add, ← hf.ciphertextSegmentSize]
    rfl

/-- A segment lies behind the header and the segments before it. -/
theorem Fits.ctPosition_take (hf : Fits e d overhead) (hF : 0 < e.firstSegmentSize) (hseg : e.Segments P cts) {n : Nat}
    (hn : n < cts.length) :
    d.ctPosition n = d.ciphertextOffset + d.headerSize + (cts.take n).flatten.length := by
  induction n with
  | zero => rfl
  | succ n ih =>
    have hp := List.getElem?_eq_getElem (by rw [← hseg.1]; omega : n < (e.pieces P).length)
    have hc := List.getElem?_eq_getElem (by omega : n < cts.length)
    have hlen := (hf.segment_length hF hseg hp hc).2.2 (by omega)
    rw [ctPosition_succ (hf.firstSegmentSize_pos hF), ih (by omega), List.take_add_one, hc, List.flatten_append,
      List.length_append, Option.toList_some, List.flatten_singleton, hlen]
    omega

/-- Segment `n`, with what may stand behind it. -/
theorem Fits.segment_eq (hf : Fits e d overhead) (hF : 0 < e.firstSegmentSize) (hseg : e.Segments P cts)
    (hother : other.length = d.ciphertextOffset) {n : Nat} {c rest : Bytes} (hc : cts[n]? = some c)
    (hrest : n + 1 ≠ cts.length ∨ rest = []) :
    d.segment (other ++ (e.header ++ ((cts.take n).flatten ++ (c ++ rest)))) n = c := by
  have hn := (List.getElem?_eq_some_iff.1 hc).1
  have hp := List.getElem?_eq_getElem (by rw [← hseg.1]; omega : n < (e.pieces P).length)
  obtain ⟨-, hle, hfull⟩ := hf.segment_length hF hseg hp hc
  have hpos : d.ctPosition n = (other ++ (e.header ++ (cts.take n).flatten)).length := by
    rw [hf.ctPosition_take hF hseg hn, List.length_append, List.length_append, hother, hf.headerSize, Nat.add_assoc]
  have hsplit : other ++ (e.header ++ ((cts.take n).flatten ++ (c ++ rest))) =
      (other ++ (e.header ++ (cts.take n).flatten)) ++ (c ++ rest) := by simp only [List.append_assoc]
  unfold SegmentDecrypter.segment
  rw [hpos, hsplit, List.drop_left]
  rcases hrest with hne | rfl
  · rw [← hfull hne, List.take_left]
  · rw [List.append_nil, List.take_of_length_le hle]

/-- The segments of the source are those of the ciphertext. -/
theorem Fits.segment_ciphertext (hf : Fits e d overhead) (hF : 0 < e.firstSegmentSize) (hseg : e.Segments P cts)
    (hother : other.length = d.ciphertextOffset) {i : Nat} (hi : i < cts.length) :
    d.segment (other ++ (e.header ++ cts.flatten)) i = cts[i] := by
  have hflat : cts.flatten = (cts.take i).flatten ++ (cts[i] ++ (cts.drop (i + 1)).flatten) := by
    rw [← List.flatten_cons, List.getElem_cons_drop, ← List.flatten_append, List.take_append_drop]
  rw [hflat]
  refine hf.segment_eq hF hseg hother (List.getElem?_eq_getElem hi) ?_
  by_cases hl : i + 1 = cts.length
  · right
    rw [hl, List.drop_length, List.flatten_nil]
  · exact .inl hl

/-- The plaintext ends with its last piece. -/
theorem Fits.length_le_ptStart (hf : Fits e d overhead) (hF : 0 < e.firstSegmentSize) {i : Nat}
    (hi : (e.pieces P).length ≤ i) : P.length ≤ d.ptStart i := by
  have hne := List.length_pos_iff.2 (pieces_ne_nil e P)
  have hp := List.getElem?_eq_getElem (by omega : (e.pieces P).length - 1 < (e.pieces P).length)
  obtain ⟨behind, hdrop, hstart, hle, hlast, -⟩ := hf.piece hF hp
  have hlen := congrArg List.length hdrop
  rw [hlast (by omega), List.append_nil, List.length_drop] at hlen
  have := ptStart_mono (hf.ptSegmentSize_lt hF) (by omega : (e.pieces P).length - 1 + 1 ≤ i)
  omega

/-- The last segment and its piece. -/
theorem Fits.last (hf : Fits e d overhead) (hF : 0 < e.firstSegmentSize) (hseg : e.Segments P cts)
    (hother : other.length = d.ciphertextOffset) :
    ∃ n p, cts.length = n + 1 ∧ (e.pieces P)[n]? = some p ∧ P.length = d.ptStart n + p.length ∧
      (other ++ (e.header ++ cts.flatten)).length = d.ctPosition n + p.length + overhead ∧
      p.length + overhead ≤ d.segmentSize n := by
  have hne := List.length_pos_iff.2 (pieces_ne_nil e P)
  have hcount := hseg.1
  obtain ⟨n, hn⟩ : ∃ n, cts.length = n + 1 := ⟨cts.length - 1, by omega⟩
  have hp := List.getElem?_eq_getElem (by omega : n < (e.pieces P).length)
  have hc := List.getElem?_eq_getElem (by omega : n < cts.length)
  obtain ⟨hlen, hle, -⟩ := hf.segment_length hF hseg hp hc
  obtain ⟨behind, hdrop, hstart, -, hlast, -⟩ := hf.piece hF hp
  refine ⟨n, _, hn, hp, ?_, ?_, by omega⟩
  · have := congrArg List.length hdrop
    rw [hlast (by omega), List.append_nil, List.length_drop] at this
    omega
  · have hflat : cts.flatten = (cts.take n).flatten ++ cts[n] := by
      rw [← List.flatten_singleton (l := cts[n]), ← List.flatten_append, List.take_append_getElem,
        List.take_of_length_le (by omega)]
    rw [List.length_append, List.length_append, hflat, List.length_append, hf.ctPosition_take hF hseg (by omega), hother,
      hlen, hf.headerSize]
    omega

/-- The size of the source tells the segments. -/
theorem Fits.segmentCount (hf : Fits e d overhead) (hF : 0 < e.firstSegmentSize) (hpos : 0 < overhead)
    (hseg : e.Segments P cts) (hother : other.length = d.ciphertextOffset) :
    d.segmentCount (other ++ (e.header ++ cts.flatten)).length = cts.length := by
  have hdF := hf.firstSegmentSize_pos hF
  obtain ⟨n, p, hn, -, -, hC, hle⟩ := hf.last hF hseg hother
  have hsucc := ctPosition_succ hdF n
  have hct : n * d.ciphertextSegmentSize ≤ d.ctPosition n := by
    unfold SegmentDecrypter.ctPosition
    split
    · rename_i h0
      rw [h0, Nat.zero_mul]
      omega
    · exact le_rfl
  have hct' : d.ctPosition (n + 1) = (n + 1) * d.ciphertextSegmentSize := by
    unfold SegmentDecrypter.ctPosition
    rw [if_neg (by omega)]
  rw [hn, hC]
  exact segmentCount_eq (ctSegmentSize_pos hdF) (by omega) (by omega)

/-- **The size of the source tells the segments and the plaintext size.** -/
theorem Bounded.sizes (hb : Bounded e d overhead) (hF : 0 < e.firstSegmentSize) (hh : e.header ≠ [])
    (hseg : e.Segments P cts) (hother : other.length = d.ciphertextOffset) :
    d.segmentCount (other ++ (e.header ++ cts.flatten)).length = cts.length ∧
    d.ptSize (other ++ (e.header ++ cts.flatten)).length = P.length ∧
    ReportsSize d (other ++ (e.header ++ cts.flatten)).length := by
  have hcount := hb.segmentCount hF hb.overhead_pos hseg hother
  obtain ⟨n, p, hn, hp, hP, hC, -⟩ := hb.last hF hseg hother
  have hc := List.getElem?_eq_getElem (by omega : n < cts.length)
  have hnum := hb.segmentNumber_lt (hseg.2 _ _ _ hp hc)
  have hpt := hb.ctPosition_eq hF n
  have hsize : d.ptSize (other ++ (e.header ++ cts.flatten)).length = P.length := by
    rw [hb.ptSize_eq, hcount, hC, hn, hP, hpt, Nat.succ_mul]
    omega
  refine ⟨hcount, hsize, ?_, by omega, by omega⟩
  rw [hb.headerSize]
  exact List.length_pos_iff.2 hh

theorem ctPosition_lt (hF : 0 < d.firstSegmentSize) {i L : Nat} (hi : i < d.segmentCount L)
    (hL : d.ciphertextOffset + d.headerSize < L) : d.ctPosition i < L := by
  unfold SegmentDecrypter.ctPosition
  split
  · exact hL
  · exact (lt_segmentCount_iff (ctSegmentSize_pos hF)).1 hi

theorem segmentNr_mul_lt {i S : Nat} (hi : i < 2 ^ 32) (hS : S < 2 ^ 31) : i * S < 2 ^ 63 :=
  calc i * S ≤ 2 ^ 32 * S := Nat.mul_le_mul_right S hi.le
    _ < 2 ^ 32 * 2 ^ 31 := Nat.mul_lt_mul_of_pos_left hS (by decide)
    _ = 2 ^ 63 := by decide

/-- **Every segment of the ciphertext is readable.** -/
theorem Bounded.readable (hb : Bounded e d overhead) (hF : 0 < e.firstSegmentSize) (hh : e.header ≠ [])
    (hseg : e.Segments P cts) (hother : other.length = d.ciphertextOffset) (ho : Undoes d k (e.pieces P) cts) {i : Nat}
    (hi : i < cts.length) : Readable e d k P (other ++ (e.header ++ cts.flatten)) i := by
  have hdF := hb.firstSegmentSize_pos hF
  obtain ⟨hcount, hsize, hr⟩ := hb.sizes hF hh hseg hother
  have hpos := hb.overhead_pos
  have hp := List.getElem?_eq_getElem (by rw [← hseg.1]; exact hi : i < (e.pieces P).length)
  have hc := List.getElem?_eq_getElem hi
  have hnum := hb.segmentNumber_lt (hseg.2 _ _ _ hp hc)
  have hlt : d.ciphertextOffset + d.headerSize < (other ++ (e.header ++ cts.flatten)).length := by
    obtain ⟨n, p, -, -, -, hC, -⟩ := hb.last hF hseg hother
    have := hb.ctPosition_eq hF n
    omega
  have hsegment := hb.segment_ciphertext hF hseg hother hi
  refine ⟨by omega, ctPosition_lt hdF (by omega) hlt, segmentNr_mul_lt hnum hb.segmentSize_lt, ⟨_, hp, ?_⟩, ?_⟩
  · rw [hsegment, hcount]
    exact ho.decrypt hp hc
  · rw [hcount, hseg.1]

/-- The header is where the stream reads it, and not all there is. -/
theorem Bounded.header_ciphertext (hb : Bounded e d overhead) (hF : 0 < e.firstSegmentSize) (hh : e.header ≠ [])
    (hseg : e.Segments P cts) (hother : other.length = d.ciphertextOffset) (ho : Undoes d k (e.pieces P) cts) :
    ((other ++ (e.header ++ cts.flatten)).drop d.ciphertextOffset).take d.headerSize = e.header ∧
      d.ciphertextOffset + d.headerSize < (other ++ (e.header ++ cts.flatten)).length := by
  constructor
  · rw [← hother, List.drop_left, hb.headerSize, List.take_left]
  · exact (hb.readable hF hh hseg hother ho hseg.length_pos).ctPosition

end Layout

/-! ## PRead -/

section PRead
variable {κ σ : Type} [RandomAccessStream σ] {At : σ → Prop} {e : SegmentEncrypter} {d : SegmentDecrypter κ} {k : κ}
  {overhead : Nat} {P C : Bytes}

/-- A read inside the plaintext runs the loop. -/
theorem pread_eq (hgeom : d.ciphertextOffset + d.headerSize < d.plaintextSegmentSize)
    (hS : 0 < d.ciphertextSegmentSize) {s : DecryptingRandomAccessStream κ σ} {L : Nat} {src : σ}
    (hs : s.initializeIfNeeded = ready d k L src) {fuel position count allocatedSize : Nat}
    (hpos : (position : Int) ≤ d.ptSize L) (hcount : count ≤ allocatedSize) (hfit : position + count < 2 ^ 63) :
    s.pread fuel position count allocatedSize =
      DecryptingRandomAccessStream.preadLoop position count allocatedSize fuel (ready d k L src) []
        (position - d.ptStart (d.segmentNr position)) [] := by
  have hsize : (ready d k L src).size = (.ok (d.ptSize L), ready d k L src) := rfl
  have hoff : (ready d k L src).getPlaintextOffset position = position - d.ptStart (d.segmentNr position) :=
    plaintextOffset_eq hgeom position
  unfold DecryptingRandomAccessStream.pread
  rw [if_neg (by omega), if_neg (by omega), if_neg (by omega), hs]
  show (if (position : Int) > d.ptSize L then _ else _) = _
  rw [if_neg (by omega)]
  unfold DecryptingRandomAccessStream.preadAndDecrypt
  rw [if_neg (by omega), if_neg (by omega), hsize]
  simp only [Except.toOption, Option.any_some, Int.toNat_natCast, hoff]
  rw [if_neg (by simpa using hpos)]
  rw [if_neg (by show d.ciphertextSegmentSize ≠ 0; omega)]

/-- No call takes a stream out of these states. -/
theorem pread_ready (hstay : ReadsStay At) (hF : 0 < d.firstSegmentSize) {s s' : DecryptingRandomAccessStream κ σ} {L : Nat}
    {src : σ} (hs : s.initializeIfNeeded = ready d k L src) (hat : At src) {fuel allocatedSize : Nat} {position count : Int}
    {r : Except Status Unit × Bytes} (h : s.pread fuel position count allocatedSize = some (r, s')) :
    s' = s ∨ ∃ src', At src' ∧ s' = ready d k L src' := by
  have hsize : (ready d k L src).size = (.ok (d.ptSize L), ready d k L src) := rfl
  unfold DecryptingRandomAccessStream.pread at h
  rw [hs] at h
  split at h
  · cases h
    exact .inl rfl
  · split at h
    · cases h
      exact .inl rfl
    · split at h
      · cases h
        exact .inl rfl
      · right
        change (if position > d.ptSize L then _ else _) = _ at h
        split at h
        · cases h
          exact ⟨src, hat, rfl⟩
        · unfold DecryptingRandomAccessStream.preadAndDecrypt at h
          rw [hsize] at h
          simp only at h
          split at h
          · cases h
            exact ⟨src, hat, rfl⟩
          · split at h
            · cases h
              exact ⟨src, hat, rfl⟩
            · split at h
              · cases h
                exact ⟨src, hat, rfl⟩
              · split at h
                · cases h
                  exact ⟨src, hat, rfl⟩
                · exact preadLoop_ready hstay hF hat h

end PRead

/-! ## Calls on a stream over a ciphertext -/

section Ciphertext
variable {κ σ : Type} [RandomAccessStream σ] {At : σ → Prop} {e : SegmentEncrypter} {d : SegmentDecrypter κ} {k : κ}
  {overhead : Nat} {P other : Bytes} {cts : List Bytes}

theorem Bounded.position_add_lt (hb : Bounded e d overhead) (hF : 0 < e.firstSegmentSize) {C : Bytes} {position count : Nat}
    (hr : ReportsSize d C.length) (hpos : (position : Int) ≤ d.ptSize C.length) (hcount : count < 2 ^ 31) :
    position + count < 2 ^ 63 := by
  have hdF := hb.firstSegmentSize_pos hF
  have hL := le_segmentCount_mul (ctSegmentSize_pos hdF) C.length
  have hS := hb.segmentSize_lt
  have hmul : d.segmentCount C.length * d.ciphertextSegmentSize ≤ 2 ^ 32 * (2 ^ 31 - 1) :=
    Nat.mul_le_mul hr.segmentCount_le (by omega)
  rw [hb.ptSize_eq] at hpos
  omega

/-- A read at the end of the plaintext. -/
theorem preadLoop_at_end (hb : Bounded e d overhead) (hF : 0 < e.firstSegmentSize) (hh : e.header ≠ [])
    (hseg : e.Segments P cts) (hother : other.length = d.ciphertextOffset) (ho : Undoes d k (e.pieces P) cts)
    (hC : Holds (other ++ (e.header ++ cts.flatten)) At) {src : σ} (hat : At src) {count allocatedSize fuel : Nat}
    (hpos : 0 < count) (halloc : count ≤ allocatedSize) :
    ∃ err src', At src' ∧ DecryptingRandomAccessStream.preadLoop P.length count allocatedSize (fuel + 1)
        (ready d k (other ++ (e.header ++ cts.flatten)).length src) [] (P.length - d.ptStart (d.segmentNr P.length)) [] =
        some ((.error err, []), ready d k (other ++ (e.header ++ cts.flatten)).length src') ∧ err.code = .outOfRange := by
  have hgeom := hb.ptSegmentSize_lt hF
  have hdF := hb.firstSegmentSize_pos hF
  obtain ⟨hcount, -, -⟩ := hb.sizes hF hh hseg hother
  obtain ⟨hstart, hend⟩ := segmentNr_spec hgeom P.length
  have hlen := hseg.1
  by_cases hi : d.segmentNr P.length < cts.length
  · -- the last segment is not full
    obtain ⟨p, src', hp, hat', hread⟩ := (hb.readable hF hh hseg hother ho hi).read hC hdF hat []
    obtain ⟨behind, hdrop, -, -, hlast, hnotlast⟩ := hb.piece hF hp
    have hdlen := congrArg List.length hdrop
    rw [List.length_drop, List.length_append] at hdlen
    have hl : d.segmentNr P.length + 1 = (e.pieces P).length := by
      by_contra hl
      have := (hnotlast hl).2
      omega
    have hnil := congrArg List.length (hlast hl)
    rw [List.length_nil] at hnil
    rw [if_pos hl] at hread
    refine ⟨⟨.outOfRange, "EOF"⟩, src', hat', ?_, rfl⟩
    rw [preadLoop_step hpos halloc hread rfl (by omega), if_pos ⟨by simp, by omega⟩, List.nil_append,
      List.drop_eq_nil_of_le (by omega)]
  · have hle := hb.length_le_ptStart hF (by omega : (e.pieces P).length ≤ d.segmentNr P.length)
    have hpos' : 0 < d.segmentNr P.length := by
      have := List.length_pos_iff.2 (pieces_ne_nil e P)
      omega
    obtain ⟨err, src', hat', hread, hcode⟩ := readAndDecryptSegment_behind (k := k) hC hdF hpos' (by omega) hat []
    have hok : DecryptingRandomAccessStream.okOrOutOfRange (.error err) = true := by
      simpa [DecryptingRandomAccessStream.okOrOutOfRange] using hcode
    refine ⟨err, src', hat', ?_, hcode⟩
    rw [preadLoop_step hpos halloc hread hok (by rw [List.length_nil]; omega), if_pos ⟨by simp, by simp⟩]
    simp

/-- **A read over a ciphertext gives the plaintext**, with OUT_OF_RANGE if it reaches the end. -/
theorem pread_ciphertext (hb : Bounded e d overhead) (hF : 0 < e.firstSegmentSize) (hh : e.header ≠ [])
    (hseg : e.Segments P cts) (hother : other.length = d.ciphertextOffset) (ho : Undoes d k (e.pieces P) cts)
    (hC : Holds (other ++ (e.header ++ cts.flatten)) At) {s : DecryptingRandomAccessStream κ σ} {src : σ}
    (hs : s.initializeIfNeeded = ready d k (other ++ (e.header ++ cts.flatten)).length src) (hat : At src)
    {position count allocatedSize fuel : Nat} (hle : position ≤ P.length) (hpos : 0 < count) (hcount : count < 2 ^ 31)
    (halloc : count ≤ allocatedSize) (hfuel : count < fuel) :
    ∃ status s', s.pread fuel position count allocatedSize = some ((status, (P.drop position).take count), s') ∧
      (status = .ok () ↔ position + count < P.length) ∧ (∀ err, status = .error err → err.code = .outOfRange) := by
  have hgeom := hb.ptSegmentSize_lt hF
  have hdF := hb.firstSegmentSize_pos hF
  obtain ⟨hsegcount, hsize, hr⟩ := hb.sizes hF hh hseg hother
  have hpt : (position : Int) ≤ d.ptSize (other ++ (e.header ++ cts.flatten)).length := by omega
  rw [pread_eq hgeom (ctSegmentSize_pos hdF) hs hpt halloc (hb.position_add_lt hF hr hpt hcount)]
  by_cases hend : position = P.length
  · obtain ⟨fuel, rfl⟩ : ∃ n, fuel = n + 1 := ⟨fuel - 1, by omega⟩
    obtain ⟨err, src', -, he, hcode⟩ := preadLoop_at_end hb hF hh hseg hother ho hC hat hpos halloc
    rw [hend, List.drop_length, List.take_nil]
    refine ⟨_, _, he, iff_of_false (by simp) (by omega), fun err' h => ?_⟩
    cases h
    exact hcode
  · have hloop : ∃ status src', At src' ∧ DecryptingRandomAccessStream.preadLoop position count allocatedSize fuel
        (ready d k (other ++ (e.header ++ cts.flatten)).length src) [] (position - d.ptStart (d.segmentNr position)) [] =
          some ((status, (P.drop position).take count), ready d k (other ++ (e.header ++ cts.flatten)).length src') ∧
        (status = .ok () ↔ position + count < P.length) ∧ (∀ err, status = .error err → err.code = .outOfRange) := by
      refine preadLoop_of_readable hC hb.toFits hF halloc hat rfl (Nat.zero_le _) (by simp only [List.length_nil]; omega)
        (fun _ => rfl) (by simp only [List.length_nil]; omega) (fun x _ _ hx => ?_)
      refine hb.readable hF hh hseg hother ho ?_
      by_contra hge
      have := hb.length_le_ptStart hF (by rw [← hseg.1]; omega : (e.pieces P).length ≤ d.segmentNr x)
      have := (segmentNr_spec hgeom x).1
      omega
    obtain ⟨status, src', -, he, hst, hcode⟩ := hloop
    exact ⟨_, _, he, hst, hcode⟩

/-- The states that `size` and `PRead` calls reach. -/
inductive Calls (s₀ : DecryptingRandomAccessStream κ σ) : DecryptingRandomAccessStream κ σ → Prop
  | nil : Calls s₀ s₀
  | size {s s' r} : Calls s₀ s → s.size = (r, s') → Calls s₀ s'
  | pread {s s' r fuel position count allocatedSize} : Calls s₀ s →
      s.pread fuel position count allocatedSize = some (r, s') → Calls s₀ s'

/-- **After any calls the stream is ready, or will be with the next one.** -/
theorem Calls.initialized {C : Bytes} (hC : Holds C At) (hF : 0 < d.firstSegmentSize)
    (hinit : ∀ {src : σ}, At src → ∃ src', At src' ∧ (fresh d src).initializeIfNeeded = ready d k C.length src')
    {src : σ} (hat : At src) {s : DecryptingRandomAccessStream κ σ} (h : Calls (fresh d src) s) :
    ∃ src', At src' ∧ s.initializeIfNeeded = ready d k C.length src' := by
  induction h with
  | nil => exact hinit hat
  | @size s s' r _ hsize ih =>
    obtain ⟨src', hat', hs⟩ := ih
    unfold DecryptingRandomAccessStream.size at hsize
    rw [hs] at hsize
    cases hsize
    exact ⟨src', hat', rfl⟩
  | @pread s s' r fuel position count allocatedSize _ hpread ih =>
    obtain ⟨src', hat', hs⟩ := ih
    rcases pread_ready hC.readsStay hF hs hat' hpread with rfl | ⟨src'', hat'', rfl⟩
    · exact ⟨src', hat', hs⟩
    · exact ⟨src'', hat'', rfl⟩

/-- **Random access over a ciphertext**: whatever calls wrote it, over a source that holds it behind `ciphertextOffset`
other bytes, and after any calls, `size` is the size of the plaintext and `PRead` gives the bytes asked for, with
OUT_OF_RANGE just if it reaches the end. -/
theorem randomAccess_pread {τ : Type} [OutputStream τ] {AtW : τ → Ledger → Prop} {received : τ → Bytes}
    (hw : WritesTo AtW (fun s bs => received s = bs)) (hb : Bounded e d overhead) (hinv : Inverts e d k)
    (hF : 0 < e.firstSegmentSize) (hh : e.header ≠ []) {dest : τ} {last : Nat} (hdest : AtW dest ⟨[], last⟩)
    (wops : List WriteOp) :
    ∃ s₀ s l, EncryptingStream.new e dest = .ok s₀ ∧ wops.foldl runWrite (s₀, ⟨[], 0⟩) = (s, l) ∧
      ∀ cts, e.Segments l.kept cts → ∃ s', s.close = (.ok (), s') ∧
        ∀ (other : Bytes) (At : σ → Prop), other.length = e.ciphertextOffset →
          Holds (other ++ received s'.ctDestination) At → ∀ src, At src →
        ∃ t₀, DecryptingRandomAccessStream.new d src = .ok t₀ ∧ ∀ t, Calls t₀ t →
          (∃ t', t.size = (.ok l.kept.length, t')) ∧
          ∀ position count allocatedSize fuel : Nat, position ≤ l.kept.length → 0 < count → count < 2 ^ 31 →
            count ≤ allocatedSize → count < fuel →
            ∃ status t', t.pread fuel position count allocatedSize =
                some ((status, (l.kept.drop position).take count), t') ∧
              (status = .ok () ↔ position + count < l.kept.length) ∧
              (∀ err, status = .error err → err.code = .outOfRange) := by
  obtain ⟨s₀, hnew, hinv₀⟩ := inv_new hF hdest
  refine ⟨s₀, _, _, hnew, rfl, fun cts hseg => ?_⟩
  obtain ⟨s', hclose, hrec, -⟩ := close_eq hw hF (inv_run hw hF wops hinv₀) hseg
  refine ⟨s', hclose, fun other At hother hC src hat => ?_⟩
  rw [hrec] at hC
  rw [← hb.ciphertextOffset] at hother
  have hdF := hb.firstSegmentSize_pos hF
  have hgeom := hb.ptSegmentSize_lt hF
  obtain ⟨-, hsize, hr⟩ := hb.sizes hF hh hseg hother
  obtain ⟨hheader, hlt⟩ := hb.header_ciphertext hF hh hseg hother (hinv.undoes hseg)
  refine ⟨fresh d src, new_eq (by omega), fun t ht => ?_⟩
  obtain ⟨src', hat', hs⟩ := ht.initialized hC hdF
    (fun hat => initializeIfNeeded_fresh hC hr hlt (by rw [hheader]; exact hinv.init) hat) hat
  refine ⟨⟨ready d k (other ++ (e.header ++ cts.flatten)).length src', ?_⟩, ?_⟩
  · unfold DecryptingRandomAccessStream.size
    rw [hs, ← hsize]
    rfl
  · intro position count allocatedSize fuel hle hpos hcount halloc hfuel
    exact pread_ciphertext hb hF hh hseg hother (hinv.undoes hseg) hC hs hat' hle hpos hcount halloc hfuel

end Ciphertext

/-! ## An encrypter to run -/

/-- `taggingEncrypter`, with at most 2^32 segments and one byte of other data before its stream. -/
def limitedEncrypter (header : Bytes) (plaintextSegmentSize : Nat) : SegmentEncrypter where
  header := header
  plaintextSegmentSize := plaintextSegmentSize
  ciphertextSegmentSize := plaintextSegmentSize + 2
  ciphertextOffset := 1
  encryptSegment i p isLast :=
    if i < 2 ^ 32 then (taggingEncrypter header plaintextSegmentSize).encryptSegment i p isLast
    else .error ⟨.invalidArgument, "too many segments"⟩

def limitedDecrypter (headerSize plaintextSegmentSize : Nat) : SegmentDecrypter Unit :=
  { taggingDecrypter headerSize plaintextSegmentSize with ciphertextOffset := 1 }

theorem limitedEncrypter_of_ok {header : Bytes} {n i : Nat} {p c : Bytes} {isLast : Bool}
    (h : (limitedEncrypter header n).encryptSegment i p isLast = .ok c) :
    i < 2 ^ 32 ∧ (taggingEncrypter header n).encryptSegment i p isLast = .ok c := by
  unfold limitedEncrypter at h
  simp only at h
  split at h
  · rename_i hi
    exact ⟨hi, h⟩
  · cases h

theorem limited_bounded (header : Bytes) {n : Nat} (hn : n + 2 < 2 ^ 31) :
    Bounded (limitedEncrypter header n) (limitedDecrypter header.length n) 2 where
  headerSize := rfl
  plaintextSegmentSize := rfl
  ciphertextSegmentSize := rfl
  ciphertextOffset := rfl
  length_eq h := (tagging_matches header n).length_eq (limitedEncrypter_of_ok h).2
  overhead_pos := by decide
  segmentSize_lt := hn
  segmentNumber_lt h := (limitedEncrypter_of_ok h).1

theorem limited_inverts (header : Bytes) (n : Nat) :
    Inverts (limitedEncrypter header n) (limitedDecrypter header.length n) () where
  init := rfl
  decrypt h := (tagging_matches header n).decrypt (limitedEncrypter_of_ok h).2

/-- The stream of a plaintext of one segment. -/
theorem limitedEncrypter_segments (header P : Bytes) (n : Nat)
    (hP : P.length ≤ (limitedEncrypter header n).firstSegmentSize.toNat) :
    (limitedEncrypter header n).Segments P [P ++ [0, 1]] := by
  have hpieces : (limitedEncrypter header n).pieces P = [P] := cut_of_length_le hP
  refine ⟨by rw [hpieces]; rfl, fun i p c hp hc => ?_⟩
  rw [hpieces] at hp
  cases i with
  | zero =>
    cases hp
    cases hc
    rfl
  | succ i => cases hp

/-- Three bytes are written, and all but the first are read. -/
theorem limited_pread :
    ∃ s₀ s l s' t₀ t' t'' status,
      EncryptingStream.new (limitedEncrypter [7] 5) (ChunkedSink.start unevenChunking) = .ok s₀ ∧
      [WriteOp.next (fun i => UInt8.ofNat (i + 1))].foldl runWrite (s₀, ⟨[], 0⟩) = (s, l) ∧ l.kept = [1, 2, 3] ∧
      s.close = (.ok (), s') ∧
      DecryptingRandomAccessStream.new (limitedDecrypter 1 5) (FileSource.mk ([9] ++ s'.ctDestination.received)) = .ok t₀ ∧
      t₀.size = (.ok 3, t') ∧ t₀.pread 10 1 5 5 = some ((status, [2, 3]), t'') ∧ status ≠ .ok () := by
  have hF : 0 < (limitedEncrypter [7] 5).firstSegmentSize := by decide
  have hdest : ChunkedSink.At (ChunkedSink.start unevenChunking) ⟨[], 0⟩ := ⟨rfl, rfl⟩
  obtain ⟨s₀, s, l, hnew, hrun, hclose⟩ := randomAccess_pread (σ := FileSource) ChunkedSink.writesTo
    (limited_bounded [7] (by decide)) (limited_inverts [7] 5) hF (by decide) hdest [.next (fun i => UInt8.ofNat (i + 1))]
  -- what the caller kept
  have hkept : l.kept = [1, 2, 3] := by
    obtain ⟨s₁, hnew₁, hfresh⟩ := fresh_new hF hdest
    rw [hnew] at hnew₁
    cases hnew₁
    obtain ⟨dest, last, hnext, -⟩ := next_fresh ChunkedSink.writesTo hfresh
    rw [List.foldl_cons, List.foldl_nil, runWrite_next_of_ok hnext] at hrun
    cases hrun
    rfl
  rw [hkept] at hclose
  obtain ⟨s', hs', hread⟩ := hclose _ (limitedEncrypter_segments [7] [1, 2, 3] 5 (by decide))
  obtain ⟨t₀, hnew', hcalls⟩ := hread [9] _ rfl (FileSource.holds _) _ rfl
  obtain ⟨⟨t', hsize⟩, hpread⟩ := hcalls t₀ .nil
  obtain ⟨status, t'', hstatus, hok, -⟩ := hpread 1 5 5 10 (by decide) (by decide) (by decide) (by decide) (by decide)
  exact ⟨s₀, s, l, s', t₀, t', t'', status, hnew, hrun, hkept, hs', hnew', hsize, hstatus, fun h => absurd (hok.1 h) (by decide)⟩

/-- Segments without overhead. -/
def plainEncrypter (header : Bytes) (segmentSize : Nat) : SegmentEncrypter where
  header := header
  plaintextSegmentSize := segmentSize
  ciphertextSegmentSize := segmentSize
  ciphertextOffset := 0
  encryptSegment _ p _ := .ok p

def plainDecrypter (headerSize segmentSize : Nat) : SegmentDecrypter Unit where
  headerSize := headerSize
  plaintextSegmentSize := segmentSize
  ciphertextSegmentSize := segmentSize
  ciphertextOffset := 0
  init _ _ := .ok ()
  decryptSegment _ c _ _ := .ok c

/-- A ciphertext of more than 2^32 segments has no size. -/
theorem size_of_manySegments {κ : Type} {e : SegmentEncrypter} {d : SegmentDecrypter κ} {k : κ} {overhead : Nat} {P : Bytes}
    {cts : List Bytes} (hf : Fits e d overhead) (hF : 0 < e.firstSegmentSize) (hpos : 0 < overhead)
    (hh : e.header ≠ []) (hinit : d.init none e.header = .ok k) (hoffset : d.ciphertextOffset = 0) (hseg : e.Segments P cts)
    (hmany : d.ptStart (2 ^ 32) < P.length) :
    ∃ s, (fresh d (FileSource.mk (e.header ++ cts.flatten))).size =
      (.error ⟨.invalidArgument, s!"too many segments: {cts.length}"⟩, s) := by
  have hother : ([] : Bytes).length = d.ciphertextOffset := hoffset.symm
  have hcount := hf.segmentCount hF hpos hseg hother
  rw [List.nil_append] at hcount
  have hlt : 2 ^ 32 < cts.length := by
    by_contra hle
    have := hf.length_le_ptStart hF (by rw [← hseg.1]; omega : (e.pieces P).length ≤ 2 ^ 32)
    omega
  have hheader : 0 < d.headerSize := by
    rw [hf.headerSize]
    exact List.length_pos_iff.2 hh
  have hlen : d.ciphertextOffset + d.headerSize < (e.header ++ cts.flatten).length := by
    obtain ⟨n, p, -, -, -, hC, -⟩ := hf.last hF hseg hother
    have := hf.ctPosition_eq hF n
    rw [List.nil_append] at hC
    omega
  have htake : ((e.header ++ cts.flatten).drop d.ciphertextOffset).take d.headerSize = e.header := by
    rw [hoffset, List.drop_zero, hf.headerSize, List.take_left]
  obtain ⟨status, src', hpread, rfl, hok, -, -⟩ := (FileSource.holds (e.header ++ cts.flatten)).pread d.ciphertextOffset
    d.headerSize hheader rfl
  obtain rfl := hok hlen
  obtain ⟨src'', -, he⟩ := initializeIfNeeded_of_pread (FileSource.holds (e.header ++ cts.flatten)) hheader hpread rfl
    (by rw [resize_header hlen.le, htake]; exact hinit)
  unfold DecryptingRandomAccessStream.size
  rw [he]
  unfold SegmentDecrypter.segmentCount at hcount
  simp only [DecryptingRandomAccessStream.setSize, hcount]
  rw [if_pos (by omega)]
  exact ⟨_, rfl⟩

/-- Without a header, without overhead when the plaintext is empty and the source ends with the header, and with more
than 2^32 segments, there is no size. -/
theorem randomAccess_size_fails :
    (∃ s₀ s' t₀ t', EncryptingStream.new (limitedEncrypter [] 5) (ChunkedSink.start unevenChunking) = .ok s₀ ∧
      s₀.close = (.ok (), s') ∧
      DecryptingRandomAccessStream.new (limitedDecrypter 0 5) (FileSource.mk ([9] ++ s'.ctDestination.received)) = .ok t₀ ∧
      t₀.size = (.error ⟨.invalidArgument, "allocated_size must be positive"⟩, t')) ∧
    (∃ s₀ s' t₀ t', EncryptingStream.new (plainEncrypter [7] 5) (ChunkedSink.start unevenChunking) = .ok s₀ ∧
      s₀.close = (.ok (), s') ∧
      DecryptingRandomAccessStream.new (plainDecrypter 1 5) (TestSource.mk s'.ctDestination.received) = .ok t₀ ∧
      t₀.size = (.error ⟨.invalidArgument, "could not read header"⟩, t')) ∧
    (∃ P cts t₀ t', (taggingEncrypter [7] 5).Segments P cts ∧
      DecryptingRandomAccessStream.new (taggingDecrypter 1 5) (FileSource.mk ([7] ++ cts.flatten)) = .ok t₀ ∧
      t₀.size = (.error ⟨.invalidArgument, s!"too many segments: {cts.length}"⟩, t')) := by
  have hdest : ChunkedSink.At (ChunkedSink.start unevenChunking) ⟨[], 0⟩ := ⟨rfl, rfl⟩
  refine ⟨?_, ?_, ?_⟩
  · have hF : 0 < (limitedEncrypter [] 5).firstSegmentSize := by decide
    obtain ⟨s₀, hnew, hinv⟩ := inv_new hF hdest
    obtain ⟨s', hclose, -⟩ := close_eq ChunkedSink.writesTo hF hinv (limitedEncrypter_segments [] [] 5 (by decide))
    exact ⟨s₀, s', _, _, hnew, hclose, rfl, rfl⟩
  · have hF : 0 < (plainEncrypter [7] 5).firstSegmentSize := by decide
    have hseg : (plainEncrypter [7] 5).Segments [] [[]] := by
      have hpieces : (plainEncrypter [7] 5).pieces [] = [[]] := cut_of_length_le (Nat.zero_le _)
      refine ⟨by rw [hpieces], fun i p c hp hc => ?_⟩
      rw [hpieces] at hp
      cases i with
      | zero =>
        cases hp
        cases hc
        rfl
      | succ i => cases hp
    obtain ⟨s₀, hnew, hinv⟩ := inv_new hF hdest
    obtain ⟨s', hclose, hrec, -⟩ := close_eq ChunkedSink.writesTo hF hinv hseg
    refine ⟨s₀, s', fresh (plainDecrypter 1 5) ⟨[7]⟩, _, hnew, hclose, ?_, rfl⟩
    rw [hrec]
    rfl
  · obtain ⟨P, hP⟩ : ∃ P : Bytes, (taggingDecrypter 1 5).ptStart (2 ^ 32) < P.length :=
      ⟨List.replicate ((taggingDecrypter 1 5).ptStart (2 ^ 32) + 1) 0, by
        rw [List.length_replicate]
        exact Nat.lt_succ_self _⟩
    obtain ⟨cts, hseg⟩ := taggingEncrypter_segments [7] 5 P
    obtain ⟨t', hsize⟩ := size_of_manySegments (tagging_matches [7] 5).toFits (by decide) (by decide) (by decide) rfl rfl
      hseg hP
    exact ⟨P, cts, _, t', hseg, new_eq (by decide), hsize⟩

end Tink
