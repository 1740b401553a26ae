import TinkCc.RandomAccessRead
/-!
# RandomAccessIntegrity — what reading a whole source proves

With an ideal decrypter, reading everything up to the reported size proves that the source is the ciphertext, unless the
source is a `Forgery` (`randomAccess_integrity`).  The size is computed from the length of the source: when that leaves
no more bytes to the last segment than its overhead, the last segment holds no plaintext by the arithmetic.  It is never
decrypted, the segments before it are accepted as not-last ones, and a truncated ciphertext is read without an error.
-/
namespace Tink

open Cut

/-! ## Reading a range -/

/-- A `PRead` and the bytes it gave. -/
structure ReadCall where
  position : Nat
  count    : Nat
  bytes    : Bytes

/-- Calls that all ended OK or OUT_OF_RANGE. -/
inductive PReads {κ σ : Type} [RandomAccessStream σ] : DecryptingRandomAccessStream κ σ → List ReadCall → Prop
  | nil {s} : PReads s []
  | cons {s s' status bytes fuel position count allocatedSize calls} :
      s.pread fuel (position : Nat) (count : Nat) allocatedSize = some ((status, bytes), s') →
      DecryptingRandomAccessStream.okOrOutOfRange status = true → count < 2 ^ 31 → PReads s' calls →
      PReads s (⟨position, count, bytes⟩ :: calls)

/-- Every position below `n` was asked for. -/
def Covers (calls : List ReadCall) (n : Int) : Prop :=
  ∀ x : Nat, (x : Int) < n → ∃ c ∈ calls, c.position ≤ x ∧ x < c.position + c.count

/-- **Reading everything of the bytes `C` proves that they are the ciphertext**, and gives the plaintext. -/
def DetectsTampering {κ : Type} (e : SegmentEncrypter) (d : SegmentDecrypter κ) (P : Bytes) (cts : List Bytes)
    (C : Bytes) : Prop :=
  ∀ (σ : Type) [RandomAccessStream σ] (At : σ → Prop) (src : σ), Holds C At → At src →
    ∀ (s₀ s : DecryptingRandomAccessStream κ σ) (n : Int) (calls : List ReadCall),
      DecryptingRandomAccessStream.new d src = .ok s₀ → s₀.size = (.ok n, s) → PReads s calls → Covers calls n →
      C.drop e.ciphertextOffset = e.header ++ cts.flatten ∧ n = P.length ∧
        ∀ c ∈ calls, c.bytes = (P.drop c.position).take c.count

/-- The segments that start below the size which a source of `ctSize` bytes reports. -/
def SegmentDecrypter.touched {κ : Type} (d : SegmentDecrypter κ) (ctSize : Nat) : Nat :=
  if d.ptSize ctSize ≤ 0 then 0 else d.segmentNr ((d.ptSize ctSize).toNat - 1) + 1

/-- **A source that is read as a whole without being the ciphertext.**  Its last segment, by its length, has no more
bytes than the overhead, and the segments that hold plaintext by its length are the first ones of the stream. -/
structure Forgery {κ : Type} (e : SegmentEncrypter) (d : SegmentDecrypter κ) (overhead : Nat) (cts : List Bytes)
    (C : Bytes) : Prop where
  reportsSize   : ReportsSize d C.length
  last_le       : C.length ≤ d.ctPosition (d.segmentCount C.length - 1) + overhead
  touched_lt    : d.touched C.length < cts.length
  init          : ∃ k, d.init none ((C.drop d.ciphertextOffset).take d.headerSize) = .ok k
  genuine       : 0 < d.touched C.length → e.header ++ (cts.take (d.touched C.length)).flatten <+: C.drop e.ciphertextOffset
  ne_ciphertext : C.drop e.ciphertextOffset ≠ e.header ++ cts.flatten

/-! ## An accepted read -/

section Accepted
variable {κ σ : Type} [RandomAccessStream σ] {At : σ → Prop} {e : SegmentEncrypter} {d : SegmentDecrypter κ} {k k' : κ}
  {overhead : Nat} {P C header : Bytes} {cts : List Bytes}

/-- What an ideal decrypter decrypts. -/
theorem Ideal.sound (hi : Ideal e d k P cts) (hinit : d.init none header = .ok k') {c p : Bytes} {i : Nat} {isLast : Bool}
    (hok : d.decryptSegment k' c i isLast = .ok p) :
    header = e.header ∧ cts[i]? = some c ∧ (e.pieces P)[i]? = some p ∧ isLast = decide (i + 1 = cts.length) := by
  have hheader := hi.header hinit hok
  rw [hheader, hi.init] at hinit
  cases hinit
  exact ⟨hheader, hi.decrypt_iff.1 hok⟩

/-- A position below the reported size lies in a segment of the source. -/
theorem Fits.segmentNr_lt (hf : Fits e d overhead) (hF : 0 < e.firstSegmentSize) {x L : Nat} (hx : (x : Int) < d.ptSize L) :
    d.segmentNr x < d.segmentCount L ∧ d.ciphertextOffset + d.headerSize < L := by
  have hdF := hf.firstSegmentSize_pos hF
  have hgeom := hf.ptSegmentSize_lt hF
  have hL := le_segmentCount_mul (ctSegmentSize_pos hdF) L
  rw [hf.ciphertextSegmentSize, ← hf.plaintextSegmentSize, Nat.mul_add] at hL
  rw [hf.ptSize_eq] at hx
  constructor
  · unfold SegmentDecrypter.segmentNr
    rw [Nat.div_lt_iff_lt_mul (by omega)]
    omega
  · omega

/-- A segment that an ideal decrypter accepts is readable, and the stream's. -/
theorem Ideal.readable (hb : Bounded e d overhead) (hF : 0 < e.firstSegmentSize) (hseg : e.Segments P cts)
    (hi : Ideal e d k P cts) (hinit : d.init none header = .ok k') (hr : ReportsSize d C.length) {i : Nat} {p : Bytes}
    (hlt : i < d.segmentCount C.length) (hpos : d.ciphertextOffset + d.headerSize < C.length)
    (hok : d.decryptSegment k' (d.segment C i) i (decide (i + 1 = d.segmentCount C.length)) = .ok p) :
    Readable e d k' P C i := by
  have hdF := hb.firstSegmentSize_pos hF
  obtain ⟨-, -, hp, hflag⟩ := hi.sound hinit hok
  have hcount := hr.segmentCount_le
  refine ⟨hlt, ctPosition_lt hdF hlt hpos, segmentNr_mul_lt (by omega) hb.segmentSize_lt, ⟨p, hp, hok⟩, ?_⟩
  rw [decide_eq_decide] at hflag
  rw [hflag, hseg.1]

/-- **What an accepted run of the loop has read is readable.** -/
theorem preadLoop_accepted (hC : Holds C At) (hb : Bounded e d overhead) (hF : 0 < e.firstSegmentSize)
    (hseg : e.Segments P cts) (hi : Ideal e d k P cts) (hinit : d.init none header = .ok k')
    (hr : ReportsSize d C.length) {position count allocatedSize : Nat} (halloc : count ≤ allocatedSize)
    {status : Except Status Unit} {bytes : Bytes} {s' : DecryptingRandomAccessStream κ σ}
    (hst : DecryptingRandomAccessStream.okOrOutOfRange status = true) :
    ∀ {fuel : Nat} {src : σ} {ptSegment : Bytes} {ptOffset : Nat} {dest : Bytes}, At src →
    DecryptingRandomAccessStream.preadLoop position count allocatedSize fuel (ready d k' C.length src) ptSegment ptOffset
      dest = some ((status, bytes), s') →
    (dest.length < count → ptOffset = position + dest.length - d.ptStart (d.segmentNr (position + dest.length))) →
    ∀ x, position + dest.length ≤ x → x < position + count → (x : Int) < d.ptSize C.length →
      Readable e d k' P C (d.segmentNr x)
  | 0, _, _, _, _, _, h, _ => by cases h
  | fuel + 1, src, ptSegment, ptOffset, dest, hat, h, hoff => by
    intro x hx hxc hxn
    have hdF := hb.firstSegmentSize_pos hF
    have hgeom := hb.ptSegmentSize_lt hF
    have hpos : dest.length < count := by omega
    obtain ⟨hlt, hhead⟩ := hb.segmentNr_lt hF (by omega : ((position + dest.length : Nat) : Int) < d.ptSize C.length)
    have hcount := hr.segmentCount_le
    obtain ⟨src', hat', hread⟩ := readAndDecryptSegment_eq (k := k') hC hdF hlt (ctPosition_lt hdF hlt hhead)
      (segmentNr_mul_lt (by omega) hb.segmentSize_lt) hat ptSegment
    unfold decrypted at hread
    cases hdec : d.decryptSegment k' (d.segment C (d.segmentNr (position + dest.length)))
        (d.segmentNr (position + dest.length))
        (decide (d.segmentNr (position + dest.length) + 1 = d.segmentCount C.length)) with
    | error err =>
      -- the call would have failed with this error
      rw [hdec] at hread
      have hcode := hi.decrypt_code hdec
      rw [preadLoop_failed hpos hread (by simpa [DecryptingRandomAccessStream.okOrOutOfRange] using hcode)] at h
      cases h
      simp [DecryptingRandomAccessStream.okOrOutOfRange, hcode] at hst
    | ok p =>
      rw [hdec] at hread
      have hread' := hi.readable hb hF hseg hinit hr hlt hhead hdec
      obtain ⟨hstart, hend⟩ := segmentNr_spec hgeom (position + dest.length)
      by_cases hxi : d.segmentNr x = d.segmentNr (position + dest.length)
      · rw [hxi]
        exact hread'
      · -- the position lies in a later segment, so this one is not the last
        have hle := segmentNr_mono (d := d) hx
        have hxlt := (hb.segmentNr_lt hF hxn).1
        obtain ⟨p', hp', hok'⟩ := hread'.piece
        rw [hdec] at hok'
        cases hok'
        obtain ⟨behind, hdrop, -, -, -, hnotlast⟩ := hb.piece hF hp'
        have hnot : d.segmentNr (position + dest.length) + 1 ≠ d.segmentCount C.length := by omega
        have hnext := (hnotlast (mt hread'.last_iff.2 hnot)).2
        have hxge : d.ptStart (d.segmentNr (position + dest.length) + 1) ≤ x :=
          (ptStart_mono hgeom (by omega)).trans (segmentNr_spec hgeom x).1
        have hoff' := hoff hpos
        rw [if_neg hnot] at hread
        rw [preadLoop_step hpos halloc hread rfl (by omega), if_neg (by simp)] at h
        have hlen : (dest ++ (p.drop ptOffset).take (count - dest.length)).length = dest.length + (p.length - ptOffset) := by
          rw [List.length_append, List.length_take, List.length_drop]
          omega
        have hq : position + (dest.length + (p.length - ptOffset)) =
            d.ptStart (d.segmentNr (position + dest.length) + 1) := by omega
        refine preadLoop_accepted hC hb hF hseg hi hinit hr halloc hst hat' h (fun _ => ?_) x ?_ hxc hxn
        · rw [hlen, hq, segmentNr_ptStart hgeom, Nat.sub_self]
        · rw [hlen, hq]
          exact hxge

/-- **What an accepted `PRead` has read is readable**, and it asked for no more than the reported size. -/
theorem pread_accepted (hC : Holds C At) (hb : Bounded e d overhead) (hF : 0 < e.firstSegmentSize)
    (hseg : e.Segments P cts) (hi : Ideal e d k P cts) (hinit : d.init none header = .ok k')
    (hr : ReportsSize d C.length) {src : σ} (hat : At src) {fuel position count allocatedSize : Nat}
    {status : Except Status Unit} {bytes : Bytes} {s' : DecryptingRandomAccessStream κ σ}
    (h : (ready d k' C.length src).pread fuel position count allocatedSize = some ((status, bytes), s'))
    (hst : DecryptingRandomAccessStream.okOrOutOfRange status = true) (hcount : count < 2 ^ 31) :
    (position : Int) ≤ d.ptSize C.length ∧ count ≤ allocatedSize ∧
    ∀ x, position ≤ x → x < position + count → (x : Int) < d.ptSize C.length → Readable e d k' P C (d.segmentNr x) := by
  have hdF := hb.firstSegmentSize_pos hF
  have hgeom := hb.ptSegmentSize_lt hF
  have halloc : count ≤ allocatedSize := by
    by_contra hgt
    unfold DecryptingRandomAccessStream.pread at h
    rw [if_neg (by omega), if_pos (by omega)] at h
    cases h
    simp [DecryptingRandomAccessStream.okOrOutOfRange] at hst
  have hpos : (position : Int) ≤ d.ptSize C.length := by
    by_contra hgt
    unfold DecryptingRandomAccessStream.pread at h
    rw [if_neg (by omega), if_neg (by omega), if_neg (by omega)] at h
    change (if (position : Int) > d.ptSize C.length then _ else _) = _ at h
    rw [if_pos (by omega)] at h
    cases h
    simp [DecryptingRandomAccessStream.okOrOutOfRange] at hst
  refine ⟨hpos, halloc, ?_⟩
  rw [pread_eq hgeom (ctSegmentSize_pos hdF) rfl hpos halloc (hb.position_add_lt hF hr hpos hcount)] at h
  exact preadLoop_accepted hC hb hF hseg hi hinit hr halloc hst hat h (fun _ => rfl)

/-- The calls of an accepted read, each from a ready stream. -/
theorem PReads.mem (hC : Holds C At) (hF : 0 < d.firstSegmentSize) {calls : List ReadCall}
    {s : DecryptingRandomAccessStream κ σ} (h : PReads s calls) :
    ∀ {src : σ}, At src → s = ready d k C.length src → ∀ c ∈ calls, ∃ src' fuel allocatedSize status s', At src' ∧
      (ready d k C.length src').pread fuel c.position c.count allocatedSize = some ((status, c.bytes), s') ∧
      DecryptingRandomAccessStream.okOrOutOfRange status = true ∧ c.count < 2 ^ 31 := by
  induction h with
  | nil => exact fun _ _ c hc => by cases hc
  | @cons s s' status bytes fuel position count allocatedSize calls hpread hst hcount hrest ih =>
    rintro src hat rfl c hc
    rcases List.mem_cons.1 hc with rfl | hc
    · exact ⟨src, fuel, allocatedSize, status, s', hat, hpread, hst, hcount⟩
    · rcases pread_ready hC.readsStay hF rfl hat hpread with rfl | ⟨src', hat', rfl⟩
      · exact ih hat rfl c hc
      · exact ih hat' rfl c hc

end Accepted

/-! ## A source that was read as a whole -/

section Complete
variable {κ σ : Type} [RandomAccessStream σ] {At : σ → Prop} {e : SegmentEncrypter} {d : SegmentDecrypter κ} {k k' : κ}
  {overhead : Nat} {P C : Bytes} {cts : List Bytes}

theorem lt_touched_iff (h : d.ciphertextOffset + d.headerSize < d.plaintextSegmentSize) {i L : Nat} :
    i < d.touched L ↔ (d.ptStart i : Int) < d.ptSize L := by
  unfold SegmentDecrypter.touched
  split
  · omega
  · rename_i hpos
    constructor
    · intro hi
      have h1 := ptStart_mono h (Nat.le_of_lt_succ hi)
      have h2 := (segmentNr_spec h ((d.ptSize L).toNat - 1)).1
      omega
    · intro hi
      have := segmentNr_mono (d := d) (by omega : d.ptStart i ≤ (d.ptSize L).toNat - 1)
      rw [segmentNr_ptStart h] at this
      omega

theorem ReportsSize.segmentCount_pos {L : Nat} (hr : ReportsSize d L) (hb : Bounded e d overhead)
    (hF : 0 < e.firstSegmentSize) : 0 < d.segmentCount L := by
  by_contra h0
  have hL := le_segmentCount_mul (ctSegmentSize_pos (hb.firstSegmentSize_pos hF)) L
  have hsize := hr.ptSize_nonneg
  have hheader := hr.headerSize_pos
  rw [hb.ptSize_eq] at hsize
  rw [(by omega : d.segmentCount L = 0)] at hL
  omega

/-- A source that reports a size has more than the header. -/
theorem ReportsSize.headerSize_lt {L : Nat} (hr : ReportsSize d L) (hb : Bounded e d overhead)
    (hF : 0 < e.firstSegmentSize) : d.ciphertextOffset + d.headerSize < L := by
  have hsize := hr.ptSize_nonneg
  have hpos := Nat.mul_pos (hr.segmentCount_pos hb hF) hb.overhead_pos
  rw [hb.ptSize_eq] at hsize
  omega

/-- A source whose segments are all readable has as many as the stream, if the last one is among those read. -/
theorem segmentCount_of_readable (hb : Bounded e d overhead) (hF : 0 < e.firstSegmentSize) (hseg : e.Segments P cts) (hr : ReportsSize d C.length)
    (hread : ∀ i, i < d.touched C.length → Readable e d k' P C i)
    (h : d.segmentCount C.length ≤ d.touched C.length ∨ cts.length ≤ d.touched C.length) :
    d.segmentCount C.length = cts.length ∧ cts.length ≤ d.touched C.length := by
  have hN := hseg.length_pos
  have hlen := hseg.1
  rcases h with h | h
  · have hpos := hr.segmentCount_pos hb hF
    have := (hread (d.segmentCount C.length - 1) (by omega)).last_iff.1 (by omega)
    omega
  · have := (hread (cts.length - 1) (by omega)).last_iff.2 (by omega)
    omega

/-- The readable first segments of a source are the stream's, behind the stream's header. -/
theorem drop_of_readable (hb : Bounded e d overhead) (hF : 0 < e.firstSegmentSize) (hi : Ideal e d k P cts)
    (hinit : d.init none (resize ((C.drop d.ciphertextOffset).take d.headerSize) d.headerSize) = .ok k') {m : Nat}
    (h0 : 0 < m) (hm : m ≤ cts.length) (hread : ∀ i, i < m → Readable e d k' P C i) :
    C.drop d.ciphertextOffset = e.header ++ ((cts.take m).flatten ++ C.drop (d.ctPosition m)) := by
  have hdF := hb.firstSegmentSize_pos hF
  have hsound : ∀ i, i < m → resize ((C.drop d.ciphertextOffset).take d.headerSize) d.headerSize = e.header ∧
      cts[i]? = some (d.segment C i) := by
    intro i hi'
    obtain ⟨p, -, hok⟩ := (hread i hi').piece
    obtain ⟨hheader, hc, -, -⟩ := hi.sound hinit hok
    exact ⟨hheader, hc⟩
  have hheader := (hsound 0 h0).1
  rw [resize_header (hread 0 h0).ctPosition.le] at hheader
  have hsegments : (List.range m).map (d.segment C) = cts.take m := by
    apply List.ext_getElem?
    intro i
    by_cases hi' : i < m
    · rw [List.getElem?_map, List.getElem?_range hi', List.getElem?_take_of_lt hi', (hsound i hi').2]
      rfl
    · rw [List.getElem?_eq_none (by rw [List.length_map, List.length_range]; omega),
        List.getElem?_eq_none (by rw [List.length_take]; omega)]
  have hbody : C.drop (d.ciphertextOffset + d.headerSize) = (cts.take m).flatten ++ C.drop (d.ctPosition m) := by
    rw [← hsegments]
    exact drop_eq_segments hdF C m
  rw [← List.take_append_drop d.headerSize (C.drop d.ciphertextOffset), hheader, List.drop_drop, hbody]

/-- The bytes of an accepted call over a ciphertext. -/
theorem bytes_of_pread {other : Bytes} (hb : Bounded e d overhead) (hF : 0 < e.firstSegmentSize) (hh : e.header ≠ [])
    (hseg : e.Segments P cts) (hother : other.length = d.ciphertextOffset) (ho : Undoes d k (e.pieces P) cts)
    (hC : Holds (other ++ (e.header ++ cts.flatten)) At) {src : σ} (hat : At src)
    {fuel position count allocatedSize : Nat} {status : Except Status Unit} {bytes : Bytes}
    {s' : DecryptingRandomAccessStream κ σ} (hpos : position ≤ P.length) (halloc : count ≤ allocatedSize)
    (hcount : count < 2 ^ 31)
    (h : (ready d k (other ++ (e.header ++ cts.flatten)).length src).pread fuel position count allocatedSize =
      some ((status, bytes), s')) : bytes = (P.drop position).take count := by
  have hgeom := hb.ptSegmentSize_lt hF
  have hdF := hb.firstSegmentSize_pos hF
  obtain ⟨-, hsize, hr⟩ := hb.sizes hF hh hseg hother
  have hpt : (position : Int) ≤ d.ptSize (other ++ (e.header ++ cts.flatten)).length := by omega
  have hfit := hb.position_add_lt hF hr hpt hcount
  by_cases h0 : count = 0
  · subst h0
    rw [pread_eq hgeom (ctSegmentSize_pos hdF) rfl hpt halloc hfit] at h
    cases fuel with
    | zero => cases h
    | succ fuel =>
      rw [preadLoop_done (Nat.zero_le _)] at h
      cases h
      rfl
  · -- with enough rounds the call gives the plaintext, and more rounds do not change what it gave
    have hs : (ready d k (other ++ (e.header ++ cts.flatten)).length src).initializeIfNeeded = ready d k _ src := rfl
    have hfuel : count < fuel + (count + 1) := by omega
    obtain ⟨status', s'', hread, -, -⟩ := pread_ciphertext hb hF hh hseg hother ho hC hs hat hpos (by omega) hcount halloc
      hfuel
    rw [pread_eq hgeom (ctSegmentSize_pos hdF) rfl hpt halloc hfit] at h hread
    rw [preadLoop_mono h] at hread
    cases hread
    rfl

/-- What an accepted read of a ciphertext gives. -/
theorem reads_ciphertext (hb : Bounded e d overhead) (hF : 0 < e.firstSegmentSize) (hseg : e.Segments P cts)
    (hi : Ideal e d k P cts) (hC : Holds C At) (hr : ReportsSize d C.length) (hlen : d.ciphertextOffset ≤ C.length)
    (hinit : d.init none (resize ((C.drop d.ciphertextOffset).take d.headerSize) d.headerSize) = .ok k')
    (hdrop : C.drop d.ciphertextOffset = e.header ++ cts.flatten) {src : σ} (hat : At src) {calls : List ReadCall}
    (hreads : PReads (ready d k' C.length src) calls) :
    d.ptSize C.length = P.length ∧ ∀ c ∈ calls, c.bytes = (P.drop c.position).take c.count := by
  have hdF := hb.firstSegmentSize_pos hF
  have hh : e.header ≠ [] := by
    rw [← List.length_pos_iff, ← hb.headerSize]
    exact hr.headerSize_pos
  have hk : k = k' := by
    have hheader : (C.drop d.ciphertextOffset).take d.headerSize = e.header := by
      rw [hdrop, hb.headerSize, List.take_left]
    rw [hheader, hb.headerSize, resize_self, hi.init] at hinit
    cases hinit
    rfl
  subst hk
  obtain ⟨other, rfl, hother⟩ : ∃ other, C = other ++ (e.header ++ cts.flatten) ∧ other.length = d.ciphertextOffset :=
    ⟨C.take d.ciphertextOffset, by rw [← hdrop, List.take_append_drop], by rw [List.length_take]; omega⟩
  obtain ⟨-, hptSize, -⟩ := hb.sizes hF hh hseg hother
  refine ⟨hptSize, fun c hc => ?_⟩
  obtain ⟨src'', fuel, allocatedSize, status, s', hat'', hpread, hst, hcount'⟩ := hreads.mem hC hdF hat rfl c hc
  obtain ⟨hpos, halloc, -⟩ := pread_accepted hC hb hF hseg hi hinit hr hat'' hpread hst hcount'
  exact bytes_of_pread hb hF hh hseg hother hi.opens.toUndoes hC hat'' (by omega) halloc hcount' hpread

/-- The size that a source reports ends behind the start of its last segment, if that has more bytes than the
overhead. -/
theorem segmentCount_le_touched_iff (hb : Bounded e d overhead) (hF : 0 < e.firstSegmentSize) {L : Nat}
    (hr : ReportsSize d L) : d.segmentCount L ≤ d.touched L ↔ d.ctPosition (d.segmentCount L - 1) + overhead < L := by
  have hcount := hr.segmentCount_pos hb hF
  have hiff := lt_touched_iff (hb.ptSegmentSize_lt hF) (i := d.segmentCount L - 1) (L := L)
  have hsucc : d.segmentCount L * overhead = (d.segmentCount L - 1) * overhead + overhead := by
    rw [← Nat.succ_mul, Nat.succ_eq_add_one, Nat.sub_add_cancel hcount]
  rw [hb.ptSize_eq] at hiff
  rw [hb.ctPosition_eq hF]
  omega

/-- **A source that is not a forgery is read as a whole only if it is the ciphertext.** -/
theorem detectsTampering_of_not_forgery (hb : Bounded e d overhead) (hF : 0 < e.firstSegmentSize)
    (hseg : e.Segments P cts) (hi : Ideal e d k P cts) (h : ¬ Forgery e d overhead cts C) :
    DetectsTampering e d P cts C := by
  rintro σ _ At src hC hat s₀ s n calls hnew hsize hreads hcovers
  have hgeom := hb.ptSegmentSize_lt hF
  have hdF := hb.firstSegmentSize_pos hF
  rw [new_eq (by omega)] at hnew
  cases hnew
  obtain ⟨k', src', hat', rfl, rfl, hr, hinit⟩ := size_of_ok hC hat hsize
  -- everything that was asked for is readable
  have hread : ∀ i, i < d.touched C.length → Readable e d k' P C i := by
    intro i hi'
    have hlt := (lt_touched_iff hgeom).1 hi'
    obtain ⟨c, hc, hle, hlt'⟩ := hcovers (d.ptStart i) hlt
    obtain ⟨src'', fuel, allocatedSize, status, s', hat'', hpread, hst, hcount⟩ := hreads.mem hC hdF hat' rfl c hc
    have := (pread_accepted hC hb hF hseg hi hinit hr hat'' hpread hst hcount).2.2 _ hle hlt' hlt
    rw [segmentNr_ptStart hgeom] at this
    exact this
  have hlen := hr.headerSize_lt hb hF
  have hdrop : C.drop d.ciphertextOffset = e.header ++ cts.flatten := by
    by_cases hall : d.segmentCount C.length ≤ d.touched C.length ∨ cts.length ≤ d.touched C.length
    · -- the last segment was decrypted as the last one
      obtain ⟨hcount, htouched⟩ := segmentCount_of_readable hb hF hseg hr hread hall
      have hN := hseg.length_pos
      rw [drop_of_readable hb hF hi hinit hN le_rfl (fun i hi' => hread i (by omega)), List.take_length,
        List.drop_eq_nil_of_le (le_ctPosition hdF hN hcount.le), List.append_nil]
    · rw [not_or] at hall
      by_contra hne
      refine h ⟨hr, ?_, by omega, ⟨k', ?_⟩, fun h0 => ?_, by rw [← hb.ciphertextOffset]; exact hne⟩
      · exact Nat.le_of_not_lt (mt (segmentCount_le_touched_iff hb hF hr).2 hall.1)
      · rw [resize_header hlen.le] at hinit
        exact hinit
      · rw [← hb.ciphertextOffset, drop_of_readable hb hF hi hinit h0 (by omega) hread, ← List.append_assoc]
        exact List.prefix_append _ _
  obtain ⟨hptSize, hbytes⟩ := reads_ciphertext hb hF hseg hi hC hr (by omega) hinit hdrop hat' hreads
  exact ⟨by rw [← hb.ciphertextOffset]; exact hdrop, hptSize, hbytes⟩

end Complete

/-! ## A source that is read without being the ciphertext -/

section Forged
variable {κ σ : Type} [RandomAccessStream σ] {At : σ → Prop} {e : SegmentEncrypter} {d : SegmentDecrypter κ} {k : κ}
  {overhead : Nat} {P C : Bytes} {cts : List Bytes}

/-- The first segments of a stream are readable, if by the size of the source none of them is the last. -/
theorem readable_of_genuine (hb : Bounded e d overhead) (hF : 0 < e.firstSegmentSize) (hseg : e.Segments P cts)
    (hi : Ideal e d k P cts) {m : Nat} (hm : m < cts.length) (hcount : m < d.segmentCount C.length)
    (hlen : d.ciphertextOffset + d.headerSize < C.length)
    (hgen : e.header ++ (cts.take m).flatten <+: C.drop d.ciphertextOffset) {i : Nat} (him : i < m) :
    Readable e d k P C i := by
  have hdF := hb.firstSegmentSize_pos hF
  have hp := List.getElem?_eq_getElem (by rw [← hseg.1]; omega : i < (e.pieces P).length)
  have hc := List.getElem?_eq_getElem (by omega : i < cts.length)
  have hnum := hb.segmentNumber_lt (hseg.2 _ _ _ hp hc)
  have hsegment : d.segment C i = cts[i] := by
    have hflat : (cts.take m).flatten = (cts.take i).flatten ++ (cts[i] ++ ((cts.take m).drop (i + 1)).flatten) := by
      have hlt : i < (cts.take m).length := by
        rw [List.length_take]
        omega
      have hget : (cts.take m)[i] = cts[i] := List.getElem_take
      have htake : (cts.take m).take i = cts.take i := by rw [List.take_take, Nat.min_eq_left (by omega)]
      rw [← List.flatten_cons, ← hget, List.getElem_cons_drop, ← htake, ← List.flatten_append, List.take_append_drop]
    obtain ⟨rest, hrest⟩ := hgen
    rw [← List.take_append_drop d.ciphertextOffset C, ← hrest, hflat, List.append_assoc, List.append_assoc,
      List.append_assoc]
    refine hb.segment_eq hF hseg ?_ hc (.inl (by omega))
    rw [List.length_take]
    omega
  refine ⟨by omega, ctPosition_lt hdF (by omega) hlen, segmentNr_mul_lt hnum hb.segmentSize_lt, ⟨_, hp, ?_⟩, ?_⟩
  · rw [hsegment, decide_eq_false (by omega)]
    exact hi.decrypt_iff.2 ⟨hc, hp, (decide_eq_false (by omega)).symm⟩
  · rw [← hseg.1]
    omega

/-- Byte after byte, readable positions are read. -/
theorem reads_of_readable (hC : Holds C At) (hb : Bounded e d overhead) (hF : 0 < e.firstSegmentSize)
    (hr : ReportsSize d C.length) : ∀ (xs : List Nat) {src : σ}, At src →
    (∀ x ∈ xs, x < P.length ∧ (x : Int) ≤ d.ptSize C.length ∧ Readable e d k P C (d.segmentNr x)) →
    ∃ calls, PReads (ready d k C.length src) calls ∧ ∀ x ∈ xs, ∃ c ∈ calls, c.position = x ∧ c.count = 1
  | [], src, _, _ => ⟨[], .nil, fun x hx => by cases hx⟩
  | x :: xs, src, hat, h => by
    have hgeom := hb.ptSegmentSize_lt hF
    have hdF := hb.firstSegmentSize_pos hF
    obtain ⟨hxP, hxn, hread⟩ := h x List.mem_cons_self
    have hloop : ∃ status src', At src' ∧ DecryptingRandomAccessStream.preadLoop x 1 1 2 (ready d k C.length src) []
          (x - d.ptStart (d.segmentNr x)) [] = some ((status, (P.drop x).take 1), ready d k C.length src') ∧
        (status = .ok () ↔ x + 1 < P.length) ∧ (∀ err, status = .error err → err.code = .outOfRange) := by
      refine preadLoop_of_readable hC hb.toFits hF le_rfl hat rfl (Nat.zero_le _) (by simpa using hxP) (fun _ => rfl)
        (by decide) (fun y hy hy1 _ => ?_)
      obtain rfl : y = x := by
        rw [List.length_nil] at hy
        omega
      exact hread
    obtain ⟨status, src', hat', he, -, hcode⟩ := hloop
    have hst : DecryptingRandomAccessStream.okOrOutOfRange status = true := by
      cases status with
      | ok => rfl
      | error err => simpa [DecryptingRandomAccessStream.okOrOutOfRange] using hcode err rfl
    obtain ⟨calls, hreads, hmem⟩ := reads_of_readable hC hb hF hr xs hat' (fun y hy => h y (List.mem_cons_of_mem x hy))
    have hpread : (ready d k C.length src).pread 2 x (1 : Nat) 1 =
        some ((status, (P.drop x).take 1), ready d k C.length src') := by
      rw [pread_eq hgeom (ctSegmentSize_pos hdF) rfl hxn le_rfl (hb.position_add_lt hF hr hxn (by decide)), he]
    refine ⟨⟨x, 1, (P.drop x).take 1⟩ :: calls, .cons hpread hst (by decide) hreads, fun y hy => ?_⟩
    rcases List.mem_cons.1 hy with rfl | hy
    · exact ⟨_, List.mem_cons_self, rfl, rfl⟩
    · obtain ⟨c, hc, hc'⟩ := hmem y hy
      exact ⟨c, List.mem_cons_of_mem _ hc, hc'⟩

/-- Below the size that it reports, every position of a forgery lies in a readable segment. -/
theorem Forgery.readable (hb : Bounded e d overhead) (hF : 0 < e.firstSegmentSize) (hseg : e.Segments P cts)
    (hi : Ideal e d k P cts) (h : Forgery e d overhead cts C) {x : Nat} (hx : (x : Int) < d.ptSize C.length) :
    x < P.length ∧ Readable e d k P C (d.segmentNr x) := by
  have hgeom := hb.ptSegmentSize_lt hF
  have hnr : d.segmentNr x < d.touched C.length := by
    rw [lt_touched_iff hgeom]
    have := (segmentNr_spec hgeom x).1
    omega
  have hp := List.getElem?_eq_getElem (by rw [← hseg.1]; exact h.touched_lt : d.touched C.length < (e.pieces P).length)
  obtain ⟨-, -, hstart, -⟩ := hb.piece hF hp
  have h1 := (segmentNr_spec hgeom x).2
  have h2 := ptStart_mono hgeom (by omega : d.segmentNr x + 1 ≤ d.touched C.length)
  refine ⟨by omega, readable_of_genuine hb hF hseg hi h.touched_lt ?_ (h.reportsSize.headerSize_lt hb hF) ?_ hnr⟩
  · exact Nat.lt_of_not_le (mt (segmentCount_le_touched_iff hb hF h.reportsSize).1 (Nat.not_lt.2 h.last_le))
  · rw [hb.ciphertextOffset]
    exact h.genuine (by omega)

/-- Where a position lies below the size, the key of a forgery is the stream's. -/
theorem Forgery.key (hb : Bounded e d overhead) (hi : Ideal e d k P cts)
    (h : Forgery e d overhead cts C) {k' : κ} (hinit : d.init none ((C.drop d.ciphertextOffset).take d.headerSize) = .ok k')
    {x : Nat} (hx : (x : Int) < d.ptSize C.length) : k' = k := by
  have h0 : 0 < d.touched C.length := by
    unfold SegmentDecrypter.touched
    rw [if_neg (by omega)]
    omega
  obtain ⟨rest, hrest⟩ := h.genuine h0
  rw [hb.ciphertextOffset, ← hrest, hb.headerSize, List.append_assoc, List.take_left, hi.init] at hinit
  cases hinit
  rfl

/-- **A forgery is read as a whole.** -/
theorem Forgery.accepted (hb : Bounded e d overhead) (hF : 0 < e.firstSegmentSize) (hseg : e.Segments P cts)
    (hi : Ideal e d k P cts) (h : Forgery e d overhead cts C) :
    ∃ s calls, (fresh d (FileSource.mk C)).size = (.ok (d.ptSize C.length), s) ∧ PReads s calls ∧
      Covers calls (d.ptSize C.length) := by
  obtain ⟨k', hinit⟩ := h.init
  obtain ⟨src, rfl, hready⟩ := initializeIfNeeded_fresh (FileSource.holds C) h.reportsSize
    (h.reportsSize.headerSize_lt hb hF) hinit rfl
  have hall : ∀ x ∈ List.range (d.ptSize C.length).toNat, x < P.length ∧ (x : Int) ≤ d.ptSize C.length ∧
      Readable e d k' P C (d.segmentNr x) := by
    intro x hx
    have hxn : (x : Int) < d.ptSize C.length := by
      have := List.mem_range.1 hx
      omega
    obtain ⟨hxP, hread⟩ := h.readable hb hF hseg hi hxn
    rw [h.key hb hi hinit hxn]
    exact ⟨hxP, hxn.le, hread⟩
  obtain ⟨calls, hreads, hmem⟩ := reads_of_readable (FileSource.holds C) hb hF h.reportsSize _ rfl hall
  refine ⟨ready d k' C.length ⟨C⟩, calls, ?_, hreads, fun x hx => ?_⟩
  · unfold DecryptingRandomAccessStream.size
    rw [hready]
    rfl
  · obtain ⟨c, hc, rfl, hone⟩ := hmem x (List.mem_range.2 (by omega))
    exact ⟨c, hc, le_rfl, by omega⟩

/-- **When random access detects a source that is not the ciphertext**: exactly when the source is not a forgery, whose
last segment, by its length, has no more bytes than the overhead. -/
theorem randomAccess_integrity (hb : Bounded e d overhead) (hF : 0 < e.firstSegmentSize) (hseg : e.Segments P cts)
    (hi : Ideal e d k P cts) (C : Bytes) : DetectsTampering e d P cts C ↔ ¬ Forgery e d overhead cts C := by
  constructor
  · intro h hforged
    obtain ⟨s, calls, hsize, hreads, hcovers⟩ := hforged.accepted hb hF hseg hi
    have hgeom := hb.ptSegmentSize_lt hF
    obtain ⟨heq, -, -⟩ := h FileSource _ ⟨C⟩ (FileSource.holds C) rfl _ s _ calls (new_eq (by omega)) hsize hreads hcovers
    exact hforged.ne_ciphertext heq
  · exact detectsTampering_of_not_forgery hb hF hseg hi

end Forged

/-! ## A truncated ciphertext -/

theorem ideal_bounded (header : Bytes) {n : Nat} (hn : n + 2 < 2 ^ 31) (pieces cts : List Bytes) :
    Bounded (limitedEncrypter header n) (idealDecrypter (limitedEncrypter header n) pieces cts) 2 where
  headerSize := rfl
  plaintextSegmentSize := rfl
  ciphertextSegmentSize := rfl
  ciphertextOffset := rfl
  length_eq h := (limited_bounded header hn).length_eq h
  overhead_pos := by decide
  segmentSize_lt := hn
  segmentNumber_lt h := (limitedEncrypter_of_ok h).1

/-- Four bytes, in two segments. -/
theorem four_pieces : (limitedEncrypter [7] 5).pieces [1, 2, 3, 4] = [[1, 2, 3], [4]] := by
  have hcut : (limitedEncrypter [7] 5).pieces [1, 2, 3, 4] = [1, 2, 3] :: Cut.cut 5 5 [4] := by
    unfold SegmentEncrypter.pieces
    rw [Cut.cut]
    rfl
  rw [hcut, cut_of_length_le (by decide)]

theorem four_segments : (limitedEncrypter [7] 5).Segments [1, 2, 3, 4] [[1, 2, 3, 0, 0], [4, 1, 1]] := by
  refine ⟨by rw [four_pieces]; rfl, fun i p c hp hc => ?_⟩
  rw [four_pieces] at hp
  match i with
  | 0 =>
    cases hp
    cases hc
    rfl
  | 1 =>
    cases hp
    cases hc
    rfl
  | i + 2 => cases hp

/-- Their decrypter. -/
def fourDecrypter : SegmentDecrypter Bytes :=
  idealDecrypter (limitedEncrypter [7] 5) [[1, 2, 3], [4]] [[1, 2, 3, 0, 0], [4, 1, 1]]

theorem four_ideal : Ideal (limitedEncrypter [7] 5) fourDecrypter [7] [1, 2, 3, 4] [[1, 2, 3, 0, 0], [4, 1, 1]] := by
  have hideal := idealDecrypter_ideal (limitedEncrypter [7] 5) [1, 2, 3, 4] [[1, 2, 3, 0, 0], [4, 1, 1]]
  rw [four_pieces] at hideal
  exact hideal

/-- A source as long as the ciphertext is read as a whole only if it is the ciphertext. -/
theorem four_integrity : DetectsTampering (limitedEncrypter [7] 5) fourDecrypter [1, 2, 3, 4]
    [[1, 2, 3, 0, 0], [4, 1, 1]] [9, 7, 1, 2, 3, 0, 0, 4, 0, 0] :=
  (randomAccess_integrity (ideal_bounded [7] (by decide) _ _) (by decide) four_segments four_ideal _).2
    (fun h => absurd h.last_le (by decide))

/-- Without its last byte, the ciphertext is read as its first segment. -/
theorem truncated_accepted :
    (limitedEncrypter [7] 5).Segments [1, 2, 3, 4] [[1, 2, 3, 0, 0], [4, 1, 1]] ∧
    Ideal (limitedEncrypter [7] 5) fourDecrypter [7] [1, 2, 3, 4] [[1, 2, 3, 0, 0], [4, 1, 1]] ∧
    (∃ s₀ s s', DecryptingRandomAccessStream.new fourDecrypter (FileSource.mk [9, 7, 1, 2, 3, 0, 0, 4, 1]) = .ok s₀ ∧
      s₀.size = (.ok 3, s) ∧ s.pread 4 0 3 3 = some ((.ok (), [1, 2, 3]), s')) ∧
    [9, 7, 1, 2, 3, 0, 0, 4, 1] <+: [9] ++ ([7] ++ [[1, 2, 3, 0, 0], [4, 1, 1]].flatten) ∧
    ¬ DetectsTampering (limitedEncrypter [7] 5) fourDecrypter [1, 2, 3, 4] [[1, 2, 3, 0, 0], [4, 1, 1]]
      [9, 7, 1, 2, 3, 0, 0, 4, 1] := by
  refine ⟨four_segments, four_ideal, ⟨_, _, _, rfl, rfl, rfl⟩, by decide, fun h => ?_⟩
  have hread : (ready fourDecrypter [7] 9 (FileSource.mk [9, 7, 1, 2, 3, 0, 0, 4, 1])).pread 4 (0 : Nat) (3 : Nat) 3 =
      some ((.ok (), [1, 2, 3]), ready fourDecrypter [7] 9 ⟨[9, 7, 1, 2, 3, 0, 0, 4, 1]⟩) := rfl
  have hreads := PReads.cons hread rfl (by decide) .nil
  obtain ⟨heq, -, -⟩ := h FileSource _ _ (FileSource.holds _) rfl _ _ 3 _ rfl rfl hreads
    (fun x hx => ⟨_, List.mem_singleton_self _, Nat.zero_le x, by simp only; omega⟩)
  exact absurd heq (by decide)

end Tink
