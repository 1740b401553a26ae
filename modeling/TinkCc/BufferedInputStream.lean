import Mathlib.Data.List.Induction
import TinkCc.LibNarrow
import TinkCc.Streams
/-!
# BufferedInputStream — a source that can be rewound

The stream keeps all it has read of its source until rewinding is disabled.  From the first `Next` after that which
needs new bytes, every call goes to the source itself.

`Transparent` is what a caller sees of it at a point of its calls, and `Inv` the states the calls reach.  One call breaks
out of them: `BackUp` just after a `Rewind`, before any `Next`, of a stream with bytes in its buffer.  It is not ignored,
as `input_stream.h` asks for, but takes the position below 0, and bytes come twice (`bufferedInputStream_transparent`).

The counters of the buffer are `int`s.  A stream that has buffered 2^31 bytes counts them as -2^31, and a `Rewind` does
not bring them back (`next_of_rewound_wrapped`).
-/
namespace Tink

/-! ## The stream -/

/-- `InputStream` with its `Position`. -/
class PositionedStream (σ : Type) extends InputStream σ where
  position : σ → Int

/-- The members of `BufferedInputStream`; `buffer` is the part of `buffer_` that holds bytes. -/
structure BufferedInputStream (σ : Type) where
  inputStream      : σ
  directAccess     : Bool
  status           : Except Status Unit
  buffer           : Bytes
  afterRewind      : Bool
  rewindingEnabled : Bool
  position         : Int
  countBackedup    : Int
  bufferOffset     : Int

namespace BufferedInputStream
variable {σ : Type}

def new (inputStream : σ) : BufferedInputStream σ :=
  { inputStream := inputStream, directAccess := false, status := .ok (), buffer := [], afterRewind := false,
    rewindingEnabled := true, position := 0, countBackedup := 0, bufferOffset := 0 }

/-- `count_in_buffer_`: the bytes of the buffer, counted in an `int`. -/
def countInBuffer (s : BufferedInputStream σ) : Int := Narrow.toInt s.buffer.length

def next [InputStream σ] (s : BufferedInputStream σ) : Except Status Bytes × BufferedInputStream σ :=
  if s.directAccess then
    let (result, src) := InputStream.next s.inputStream
    (result, { s with inputStream := src })
  else
    match s.status with
    | .error e => (.error e, s)
    | .ok () =>
      if s.afterRewind && 0 < s.countInBuffer then
        (.ok (s.buffer.take s.countInBuffer.toNat), { s with afterRewind := false, position := s.countInBuffer })
      else if 0 < s.countBackedup then
        let offset := Narrow.toInt (s.countInBuffer - s.countBackedup)
        (.ok ((s.buffer.drop offset.toNat).take s.countBackedup.toNat),
          { s with bufferOffset := offset, countBackedup := 0, position := s.countInBuffer })
      else if !s.rewindingEnabled then
        let (result, src) := InputStream.next s.inputStream
        (result, { s with directAccess := true, buffer := [], inputStream := src })
      else
        match InputStream.next s.inputStream with
        | (.error e, src) => (.error e, { s with afterRewind := false, inputStream := src, status := .error e })
        | (.ok buf, src) =>
          -- copied to `buffer_.data() + count_in_buffer_`, which is the end of the bytes unless their number wrapped;
          -- a copy in front of the buffer is undefined behaviour, and nothing is proved of it
          (.ok ((s.buffer ++ buf).drop s.countInBuffer.toNat),
            { s with afterRewind := false, inputStream := src, buffer := s.buffer ++ buf,
                     bufferOffset := s.countInBuffer, countBackedup := 0, position := s.position + buf.length })

def backUp [InputStream σ] (count : Int) (s : BufferedInputStream σ) : BufferedInputStream σ :=
  if s.directAccess then { s with inputStream := InputStream.backUp count s.inputStream }
  else
    match s.status with
    | .error _ => s
    | .ok () =>
      let returned := Narrow.toInt (s.countInBuffer - s.bufferOffset)
      if count < 1 ∨ s.countBackedup = returned then s
      else
        let actualCount := min count (Narrow.toInt (returned - s.countBackedup))
        { s with countBackedup := Narrow.toInt (s.countBackedup + actualCount), position := s.position - actualCount }

def disableRewinding (s : BufferedInputStream σ) : BufferedInputStream σ := { s with rewindingEnabled := false }

def rewind (s : BufferedInputStream σ) : Except Status Unit × BufferedInputStream σ :=
  if !s.rewindingEnabled then (.error ⟨.invalidArgument, "rewinding is disabled"⟩, s)
  else
    let rewound := { s with status := .ok (), position := 0, countBackedup := 0, bufferOffset := 0, afterRewind := true }
    match s.status with
    | .ok () => (.ok (), rewound)
    | .error e => if e.code = .outOfRange then (.ok (), rewound) else (.error e, s)

theorem countInBuffer_le (s : BufferedInputStream σ) : s.countInBuffer ≤ s.buffer.length :=
  Narrow.toInt_le_of_nonneg (Int.natCast_nonneg _)

instance [InputStream σ] : InputStream (BufferedInputStream σ) where
  next := next
  backUp := backUp
  -- backed-up bytes are returned before the source is asked
  rank s := InputStream.rank s.inputStream + if 0 < s.countBackedup then 1 else 0
  rank_lt {s s'} h := by
    rcases hnext : InputStream.next s.inputStream with ⟨result, src⟩
    unfold next at h
    simp only [hnext] at h
    split at h
    · -- the source itself
      cases h
      exact Nat.add_lt_add_right (InputStream.rank_lt hnext) _
    · split at h
      · cases h
      · split at h
        · -- a buffer that is not empty
          rename_i hb
          simp only [Prod.mk.injEq, Except.ok.injEq] at h
          have hlen := congrArg List.length h.1
          have hle := s.countInBuffer_le
          rw [List.length_take, List.length_nil] at hlen
          simp only [Bool.and_eq_true, decide_eq_true_eq] at hb
          omega
        · split at h
          · rename_i hb
            simp only [Prod.mk.injEq] at h
            obtain ⟨-, rfl⟩ := h
            simp [hb]
          · split at h
            · cases h
              exact Nat.add_lt_add_right (InputStream.rank_lt hnext) _
            · rename_i hb _
              cases result with
              | error e => cases h
              | ok buf =>
                simp only [Prod.mk.injEq, Except.ok.injEq] at h
                obtain ⟨hnil, rfl⟩ := h
                have hlen := congrArg List.length hnil
                have hle := s.countInBuffer_le
                rw [List.length_drop, List.length_append, List.length_nil] at hlen
                obtain rfl : buf = [] := List.eq_nil_of_length_eq_zero (by omega)
                simpa [hb] using InputStream.rank_lt hnext

/-- `Position` is the source's once the calls go to it. -/
instance [PositionedStream σ] : PositionedStream (BufferedInputStream σ) where
  position s := if s.directAccess then PositionedStream.position s.inputStream else s.position

end BufferedInputStream

/-! ## Its source -/

/-- **A source over the bytes `S` that may fail**: OUT_OF_RANGE comes at the end only, and any other error stays. -/
structure Supplies {σ : Type} [PositionedStream σ] (S : Bytes) (At : σ → Cursor → Prop) (Failed : σ → Prop) : Prop where
  next_ok       : ∀ {s c bs s'}, At s c → InputStream.next s = (.ok bs, s') →
    bs <+: S.drop c.pos ∧ At s' (c.next bs.length)
  next_end      : ∀ {s c e s'}, At s c → InputStream.next s = (.error e, s') → e.code = .outOfRange →
    S.length ≤ c.pos ∧ At s' { c with last := 0 }
  next_error    : ∀ {s c e s'}, At s c → InputStream.next s = (.error e, s') → e.code ≠ .outOfRange → Failed s'
  next_failed   : ∀ {s}, Failed s → ∃ e s', InputStream.next s = (.error e, s') ∧ e.code ≠ .outOfRange ∧ Failed s'
  backUp        : ∀ {s c} (count : Int), At s c → At (InputStream.backUp count s) (c.backUp count)
  backUp_failed : ∀ {s} (count : Int), Failed s → Failed (InputStream.backUp count s)
  position      : ∀ {s c}, At s c → PositionedStream.position s = c.pos

/-! ## Calls -/

inductive BufferedOp
  | next
  | backUp (count : Int)
  | rewind
  | disableRewinding

/-- A caller's account of its calls: where it is, whether it disabled rewinding, and whether it was told that the source
failed. -/
@[ext] structure Account where
  cursor   : Cursor
  disabled : Bool
  failed   : Bool

/-- The call is not a `BackUp` between a `Rewind` to buffered bytes and the next `Next`. -/
def NotBackUpAfterRewind {σ : Type} (s : BufferedInputStream σ) : BufferedOp → Prop
  | .backUp count => s.afterRewind = true → s.buffer ≠ [] → count < 1
  | _ => True

/-! ## The states calls reach -/

section Inv
variable {σ : Type} {S : Bytes} {At : σ → Cursor → Prop} {Failed : σ → Prop}

/-- **The states that calls reach** as long as fewer than 2^31 bytes are buffered, with the account of their caller. -/
inductive BufferedInputStream.Inv (S : Bytes) (At : σ → Cursor → Prop) (Failed : σ → Prop) :
    BufferedInputStream σ → Account → Prop
  | rewound {src n last enabled} : At src ⟨n, last⟩ → n ≤ S.length → n < 2 ^ 31 →
      Inv S At Failed ⟨src, false, .ok (), S.take n, true, enabled, 0, 0, 0⟩ ⟨⟨0, 0⟩, !enabled, false⟩
  | reading {src n last enabled c} {backedup offset : Nat} : At src ⟨n, last⟩ → n ≤ S.length → n < 2 ^ 31 →
      offset + backedup ≤ n → c.pos + backedup = n → c.last = n - offset - backedup →
      Inv S At Failed ⟨src, false, .ok (), S.take n, false, enabled, c.pos, backedup, offset⟩ ⟨c, !enabled, false⟩
  | ended {src e last enabled backedup offset c} : At src ⟨S.length, last⟩ → S.length < 2 ^ 31 → e.code = .outOfRange →
      c.pos = S.length → c.last = 0 →
      Inv S At Failed ⟨src, false, .error e, S, false, enabled, c.pos, backedup, offset⟩ ⟨c, !enabled, false⟩
  | failed {src e buffer enabled backedup offset c} : Failed src → e.code ≠ .outOfRange → c.last = 0 →
      Inv S At Failed ⟨src, false, .error e, buffer, false, enabled, c.pos, backedup, offset⟩ ⟨c, !enabled, true⟩
  | direct {src afterRewind position backedup offset c} : At src c → c.pos ≤ S.length →
      Inv S At Failed ⟨src, true, .ok (), [], afterRewind, false, position, backedup, offset⟩ ⟨c, true, false⟩
  | directFailed {src afterRewind position backedup offset c} : Failed src →
      Inv S At Failed ⟨src, true, .ok (), [], afterRewind, false, position, backedup, offset⟩ ⟨c, true, true⟩

theorem BufferedInputStream.inv_new {src : σ} {last : Nat} (hat : At src ⟨0, last⟩) :
    BufferedInputStream.Inv S At Failed (.new src) ⟨⟨0, 0⟩, false, false⟩ := by
  have h : BufferedInputStream.Inv S At Failed
      ⟨src, false, .ok (), S.take 0, false, true, (⟨0, 0⟩ : Cursor).pos, (0 : Nat), (0 : Nat)⟩ ⟨⟨0, 0⟩, !true, false⟩ :=
    .reading hat (Nat.zero_le _) (by omega) (Nat.le_refl _) rfl rfl
  rwa [List.take_zero] at h

/-- A buffer that was just returned, from `offset` on. -/
theorem BufferedInputStream.Inv.of_buffer {src : σ} {n last offset : Nat} {enabled : Bool} {position : Int} {c : Cursor}
    (hat : At src ⟨n, last⟩) (hn : n ≤ S.length) (hsmall : n < 2 ^ 31) (hposition : position = n) (hpos : c.pos = n)
    (hlast : offset + c.last = n) : BufferedInputStream.Inv S At Failed
      ⟨src, false, .ok (), S.take n, false, enabled, position, 0, offset⟩ ⟨c, !enabled, false⟩ := by
  subst hpos hposition
  show BufferedInputStream.Inv S At Failed
    ⟨src, false, .ok (), S.take c.pos, false, enabled, c.pos, (0 : Nat), offset⟩ ⟨c, !enabled, false⟩
  exact .reading hat hn hsmall (by omega) rfl (by omega)

/-- The counters of a buffer of fewer than 2^31 bytes are their numbers. -/
theorem BufferedInputStream.toInt_length_take {n : Nat} (hn : n ≤ S.length) (hsmall : n < 2 ^ 31) :
    (S.take n).length = n ∧ Narrow.toInt (S.take n).length = n := by
  have hlen : (S.take n).length = n := List.length_take_of_le hn
  rw [hlen]
  exact ⟨rfl, Narrow.toInt_of_nonneg_of_lt (Int.natCast_nonneg n) (by omega)⟩

end Inv

/-! ## One call -/

section Step
variable {σ : Type} [PositionedStream σ] {S : Bytes} {At : σ → Cursor → Prop} {Failed : σ → Prop}

/-- What `Next` gives, to a caller with the account `a`; the buffer that counts 2^31 bytes is the last good one. -/
inductive BufferedNext (S : Bytes) (At : σ → Cursor → Prop) (Failed : σ → Prop) (a : Account) :
    Except Status Bytes × BufferedInputStream σ → Prop
  | ok {bs s'} : bs <+: S.drop a.cursor.pos →
      (s'.buffer.length < 2 ^ 31 →
        BufferedInputStream.Inv S At Failed s' { a with cursor := a.cursor.next bs.length }) →
      BufferedNext S At Failed a (.ok bs, s')
  | error {e s'} : (e.code = .outOfRange → a.cursor.pos = S.length) →
      BufferedInputStream.Inv S At Failed s' { a with cursor := { a.cursor with last := 0 },
                                                      failed := a.failed || decide (e.code ≠ .outOfRange) } →
      BufferedNext S At Failed a (.error e, s')

/-- A `Next` that has nothing to return of its own asks the source. -/
theorem BufferedInputStream.next_asks (src : σ) (buffer : Bytes) (afterRewind : Bool) (position offset : Int)
    (hnothing : afterRewind = true → Narrow.toInt buffer.length ≤ 0) :
    BufferedInputStream.next ⟨src, false, .ok (), buffer, afterRewind, true, position, 0, offset⟩ =
      match InputStream.next src with
      | (.error e, src') => (.error e, ⟨src', false, .error e, buffer, false, true, position, 0, offset⟩)
      | (.ok buf, src') => (.ok ((buffer ++ buf).drop (Narrow.toInt buffer.length).toNat),
          ⟨src', false, .ok (), buffer ++ buf, false, true, position + buf.length, 0, Narrow.toInt buffer.length⟩) := by
  have hguard : (afterRewind && decide (0 < Narrow.toInt buffer.length)) = false := by
    cases afterRewind with
    | false => rfl
    | true => simp [hnothing rfl]
  unfold BufferedInputStream.next BufferedInputStream.countInBuffer
  simp only [Bool.false_eq_true, if_false, hguard, Int.lt_irrefl, Bool.not_true]

theorem take_append_of_isPrefix {n : Nat} {bs : Bytes} (h : bs <+: S.drop n) : S.take n ++ bs = S.take (n + bs.length) := by
  rw [List.take_add, ← List.prefix_iff_eq_take.1 h]

theorem length_le_of_isPrefix {n : Nat} {bs : Bytes} (hn : n ≤ S.length) (h : bs <+: S.drop n) :
    n + bs.length ≤ S.length := by
  have := h.length_le
  rw [List.length_drop] at this
  omega

/-- The source is asked, for a stream whose calls go to it. -/
theorem BufferedNext.of_direct (hs : Supplies S At Failed) {src : σ} {afterRewind : Bool} {position : Int}
    {backedup offset : Int} {last : Nat} {c : Cursor} (hat : At src ⟨c.pos, last⟩) (hn : c.pos ≤ S.length) :
    BufferedNext S At Failed ⟨c, true, false⟩ ((InputStream.next src).1,
      ⟨(InputStream.next src).2, true, .ok (), [], afterRewind, false, position, backedup, offset⟩) := by
  rcases hnext : InputStream.next src with ⟨e | bs, src'⟩
  · by_cases hcode : e.code = .outOfRange
    · obtain ⟨hend, hat'⟩ := hs.next_end hat hnext hcode
      have hpos : c.pos = S.length := Nat.le_antisymm hn hend
      refine .error (fun _ => hpos) ?_
      rw [decide_eq_false (fun h => h hcode)]
      exact .direct hat' hn
    · refine .error (fun h => absurd h hcode) ?_
      rw [decide_eq_true hcode]
      exact .directFailed (hs.next_error hat hnext hcode)
  · obtain ⟨hbs, hat'⟩ := hs.next_ok hat hnext
    exact .ok hbs (fun _ => .direct hat' (length_le_of_isPrefix hn hbs))

/-- The source is asked, for a stream that has nothing to return of its own. -/
theorem BufferedNext.of_source (hs : Supplies S At Failed) {src : σ} {afterRewind enabled : Bool} {offset : Int}
    {last : Nat} {c : Cursor} (hat : At src ⟨c.pos, last⟩) (hn : c.pos ≤ S.length) (hsmall : c.pos < 2 ^ 31)
    (hrewind : afterRewind = true → c.pos = 0) :
    BufferedNext S At Failed ⟨c, !enabled, false⟩ (BufferedInputStream.next
      ⟨src, false, .ok (), S.take c.pos, afterRewind, enabled, c.pos, 0, offset⟩) := by
  obtain ⟨hlen, hcount⟩ := BufferedInputStream.toInt_length_take hn hsmall
  cases enabled with
  | false =>
    have hguard : (afterRewind && decide (0 < (c.pos : Int))) = false := by
      cases afterRewind with
      | false => rfl
      | true => simp [hrewind rfl]
    unfold BufferedInputStream.next BufferedInputStream.countInBuffer
    simp only [Bool.false_eq_true, if_false, hcount, hguard, Int.lt_irrefl, Bool.not_false, if_true]
    exact .of_direct hs hat hn
  | true =>
    have hnothing : afterRewind = true → Narrow.toInt (S.take c.pos).length ≤ 0 := by
      intro h
      rw [hcount, hrewind h]
      rfl
    rw [BufferedInputStream.next_asks src _ _ _ _ hnothing]
    rcases hnext : InputStream.next src with ⟨e | bs, src'⟩
    · by_cases hcode : e.code = .outOfRange
      · obtain ⟨hend, hat'⟩ := hs.next_end hat hnext hcode
        have hpos : c.pos = S.length := Nat.le_antisymm hn hend
        refine .error (fun _ => hpos) ?_
        rw [decide_eq_false (fun h => h hcode), List.take_of_length_le hend]
        rw [hpos] at hat' hsmall
        exact .ended (c := { c with last := 0 }) hat' hsmall hcode hpos rfl
      · refine .error (fun h => absurd h hcode) ?_
        rw [decide_eq_true hcode]
        exact .failed (c := { c with last := 0 }) (hs.next_error hat hnext hcode) hcode rfl
    · obtain ⟨hbs, hat'⟩ := hs.next_ok hat hnext
      have hdrop : (S.take c.pos ++ bs).drop c.pos = bs := List.drop_left' hlen
      have hle := length_le_of_isPrefix hn hbs
      simp only [hcount, Int.toNat_natCast, hdrop]
      rw [take_append_of_isPrefix hbs]
      refine .ok hbs (fun hfits => .of_buffer hat' hle ?_ (Int.natCast_add _ _).symm rfl rfl)
      rwa [List.length_take_of_le hle] at hfits

/-- **Every `Next` gives the next bytes of `S`, its end, or the source's error.** -/
theorem BufferedInputStream.Inv.next (hs : Supplies S At Failed) {s : BufferedInputStream σ} {a : Account}
    (h : BufferedInputStream.Inv S At Failed s a) : BufferedNext S At Failed a s.next := by
  cases h with
  | @rewound src n last enabled hat hn hsmall =>
    by_cases h0 : n = 0
    · subst h0
      exact .of_source (c := ⟨0, 0⟩) hs hat hn hsmall (fun _ => rfl)
    · obtain ⟨hlen, hcount⟩ := BufferedInputStream.toInt_length_take hn hsmall
      have hpos : (0 : Int) < n := Int.natCast_pos.2 (Nat.pos_of_ne_zero h0)
      unfold BufferedInputStream.next BufferedInputStream.countInBuffer
      simp only [Bool.false_eq_true, if_false, hcount, hpos, decide_true, Bool.and_self, if_true, Int.toNat_natCast,
        List.take_take, Nat.min_self]
      refine .ok (List.take_prefix _ _) (fun _ => ?_)
      rw [hlen]
      exact .of_buffer hat hn hsmall rfl (Nat.zero_add n) (Nat.zero_add n)
  | @reading src n last enabled c backedup offset hat hn hsmall hoff hpos hlast =>
    by_cases h0 : backedup = 0
    · subst h0
      obtain rfl : c.pos = n := hpos
      exact .of_source hs hat hn hsmall (fun h => by cases h)
    · obtain ⟨hlen, hcount⟩ := BufferedInputStream.toInt_length_take hn hsmall
      have hback : (0 : Int) < backedup := Int.natCast_pos.2 (Nat.pos_of_ne_zero h0)
      have hc : Narrow.toInt ((n : Int) - backedup) = c.pos := by
        rw [Narrow.toInt_of_nonneg_of_lt (by omega) (by omega)]
        omega
      have hsize : ((S.take n).drop c.pos).length = backedup := by
        rw [List.length_drop, hlen]
        omega
      have hall : ((S.take n).drop c.pos).take backedup = (S.take n).drop c.pos :=
        List.take_of_length_le (Nat.le_of_eq hsize)
      unfold BufferedInputStream.next BufferedInputStream.countInBuffer
      simp only [Bool.false_eq_true, if_false, hcount, hback, Bool.false_and, if_true, hc, Int.toNat_natCast, hall]
      refine .ok ?_ (fun _ => ?_)
      · rw [List.drop_take]
        exact List.take_prefix _ _
      · rw [hsize]
        exact .of_buffer hat hn hsmall rfl hpos hpos
  | @ended src e last enabled backedup offset c hat hsmall hcode hpos hlast =>
    refine .error (fun _ => hpos) ?_
    rw [decide_eq_false (fun h => h hcode)]
    exact .ended (c := { c with last := 0 }) hat hsmall hcode hpos rfl
  | @failed src e buffer enabled backedup offset c hf hcode hlast =>
    refine .error (fun h => absurd h hcode) ?_
    rw [Bool.true_or]
    exact .failed (c := { c with last := 0 }) hf hcode rfl
  | direct hat hn => exact .of_direct hs hat hn
  | @directFailed src afterRewind position backedup offset c hf =>
    obtain ⟨e, src', hnext, hcode, hf'⟩ := hs.next_failed hf
    unfold BufferedInputStream.next
    simp only [if_true, hnext]
    refine .error (fun h => absurd h hcode) ?_
    rw [Bool.true_or]
    exact .directFailed hf'

/-- The counters of `BackUp`, when they are small enough to be what they count. -/
theorem backUp_counters (offset backedup : Nat) {n : Nat} (hsmall : n < 2 ^ 31) (hoff : offset + backedup ≤ n) {count : Int}
    (hcount : 1 ≤ count) :
    min count (Narrow.toInt (((n - offset : Nat) : Int) - backedup)) = (min count.toNat (n - offset - backedup) : Nat) ∧
    Narrow.toInt ((backedup : Int) + (min count.toNat (n - offset - backedup) : Nat)) =
      (backedup + min count.toNat (n - offset - backedup) : Nat) := by
  constructor
  · rw [Narrow.toInt_of_nonneg_of_lt (by omega) (by omega)]
    omega
  · rw [Narrow.toInt_of_nonneg_of_lt (by omega) (by omega), Int.natCast_add]

theorem BufferedInputStream.Inv.backUp (hs : Supplies S At Failed) {s : BufferedInputStream σ} {a : Account}
    (h : BufferedInputStream.Inv S At Failed s a) (count : Int) (hmeets : NotBackUpAfterRewind s (.backUp count)) :
    BufferedInputStream.Inv S At Failed (s.backUp count) { a with cursor := a.cursor.backUp count } := by
  cases h with
  | @rewound src n last enabled hat hn hsmall =>
    have hsame : BufferedInputStream.backUp count ⟨src, false, .ok (), S.take n, true, enabled, 0, 0, 0⟩ =
        ⟨src, false, .ok (), S.take n, true, enabled, 0, 0, 0⟩ := by
      unfold BufferedInputStream.backUp BufferedInputStream.countInBuffer
      simp only [Bool.false_eq_true, if_false]
      by_cases hnil : S.take n = []
      · rw [hnil]
        exact if_pos (.inr rfl)
      · exact if_pos (.inl (hmeets rfl hnil))
    rw [hsame, Cursor.backUp_of_last_eq_zero rfl]
    exact .rewound hat hn hsmall
  | @reading src n last enabled c backedup offset hat hn hsmall hoff hpos hlast =>
    obtain ⟨-, hcount⟩ := BufferedInputStream.toInt_length_take hn hsmall
    have hreturned : Narrow.toInt ((n : Int) - offset) = (n - offset : Nat) := by
      rw [Narrow.toInt_of_nonneg_of_lt (by omega) (by omega)]
      omega
    unfold BufferedInputStream.backUp BufferedInputStream.countInBuffer
    simp only [Bool.false_eq_true, if_false, hcount, hreturned]
    split
    · rename_i hskip
      have hsame : c.backUp count = c := by
        rcases hskip with hskip | hskip
        · exact Cursor.backUp_of_lt_one hskip c
        · exact Cursor.backUp_of_last_eq_zero (by omega) count
      rw [hsame]
      exact .reading hat hn hsmall hoff hpos hlast
    · rename_i hgo
      obtain ⟨hactual, hsum⟩ := backUp_counters offset backedup hsmall hoff (show 1 ≤ count by omega)
      have hcpos : (c.backUp count).pos = c.pos - min count.toNat (n - offset - backedup) := by
        unfold Cursor.backUp
        rw [hlast]
      have hclast : (c.backUp count).last = c.last - min count.toNat (n - offset - backedup) := by
        unfold Cursor.backUp
        rw [hlast]
      have hcast : (c.pos : Int) - (min count.toNat (n - offset - backedup) : Nat) = (c.backUp count).pos := by
        rw [hcpos]
        omega
      rw [hactual, hsum, hcast]
      exact .reading hat hn hsmall (by omega) (by omega) (by omega)
  | @ended src e last enabled backedup offset c hat hsmall hcode hpos hlast =>
    rw [Cursor.backUp_of_last_eq_zero hlast]
    exact .ended hat hsmall hcode hpos hlast
  | @failed src e buffer enabled backedup offset c hf hcode hlast =>
    rw [Cursor.backUp_of_last_eq_zero hlast]
    exact .failed hf hcode hlast
  | @direct src afterRewind position backedup offset c hat hn =>
    refine .direct (hs.backUp count hat) ?_
    unfold Cursor.backUp
    simp only
    omega
  | directFailed hf => exact .directFailed (hs.backUp_failed count hf)

end Step

section Rewind
variable {σ : Type} {S : Bytes} {At : σ → Cursor → Prop} {Failed : σ → Prop}

theorem BufferedInputStream.Inv.disableRewinding {s : BufferedInputStream σ} {a : Account}
    (h : BufferedInputStream.Inv S At Failed s a) :
    BufferedInputStream.Inv S At Failed s.disableRewinding { a with disabled := true } := by
  cases h with
  | rewound hat hn hsmall => exact .rewound hat hn hsmall
  | reading hat hn hsmall hoff hpos hlast => exact .reading hat hn hsmall hoff hpos hlast
  | ended hat hsmall hcode hpos hlast => exact .ended hat hsmall hcode hpos hlast
  | failed hf hcode hlast => exact .failed hf hcode hlast
  | direct hat hn => exact .direct hat hn
  | directFailed hf => exact .directFailed hf

/-- `Rewind` fails only when it was disabled or the source failed, and then changes nothing. -/
theorem BufferedInputStream.Inv.rewind {s : BufferedInputStream σ} {a : Account}
    (h : BufferedInputStream.Inv S At Failed s a) :
    (a.disabled = false ∧ a.failed = false ∧
      ∃ s', s.rewind = (.ok (), s') ∧ BufferedInputStream.Inv S At Failed s' { a with cursor := ⟨0, 0⟩ }) ∨
    ((a.disabled = true ∨ a.failed = true) ∧ ∃ e, s.rewind = (.error e, s)) := by
  cases h with
  | @rewound src n last enabled hat hn hsmall =>
    cases enabled with
    | false => exact .inr ⟨.inl rfl, _, rfl⟩
    | true => exact .inl ⟨rfl, rfl, _, rfl, .rewound hat hn hsmall⟩
  | @reading src n last enabled c backedup offset hat hn hsmall hoff hpos hlast =>
    cases enabled with
    | false => exact .inr ⟨.inl rfl, _, rfl⟩
    | true => exact .inl ⟨rfl, rfl, _, rfl, .rewound hat hn hsmall⟩
  | @ended src e last enabled backedup offset c hat hsmall hcode hpos hlast =>
    cases enabled with
    | false => exact .inr ⟨.inl rfl, _, rfl⟩
    | true =>
      refine .inl ⟨rfl, rfl, _, if_pos hcode, ?_⟩
      have hall : BufferedInputStream.Inv S At Failed ⟨src, false, .ok (), S.take S.length, true, true, 0, 0, 0⟩
          ⟨⟨0, 0⟩, !true, false⟩ := .rewound hat (Nat.le_refl _) hsmall
      rwa [List.take_length] at hall
  | @failed src e buffer enabled backedup offset c _ hcode hlast =>
    cases enabled with
    | false => exact .inr ⟨.inl rfl, _, rfl⟩
    | true => exact .inr ⟨.inr rfl, _, if_neg hcode⟩
  | direct hat hn => exact .inr ⟨.inl rfl, _, rfl⟩
  | directFailed hf => exact .inr ⟨.inl rfl, _, rfl⟩

end Rewind

/-! ## Runs -/

section Run
variable {σ : Type} [PositionedStream σ] {S : Bytes} {At : σ → Cursor → Prop} {Failed : σ → Prop}

theorem BufferedInputStream.Inv.position (hs : Supplies S At Failed) {s : BufferedInputStream σ} {a : Account}
    (h : BufferedInputStream.Inv S At Failed s a) (hf : s.directAccess = true → a.failed = false) :
    PositionedStream.position s = a.cursor.pos := by
  cases h with
  | direct hat hn => exact hs.position hat
  | directFailed _ => cases hf rfl
  | _ => rfl

/-- **Rewinding a stream of 2^31 bytes** does not go back to them: the next `Next` asks the source for more. -/
theorem BufferedInputStream.next_of_rewound_wrapped (src : σ) (buffer : Bytes) (afterRewind : Bool)
    (position backedup offset : Int) (hwrapped : 2 ^ 31 ≤ buffer.length) (hbelow : buffer.length < 2 ^ 32) {e : Status}
    {src' : σ}
    (hnext : InputStream.next src = (.error e, src')) :
    BufferedInputStream.rewind ⟨src, false, .ok (), buffer, afterRewind, true, position, backedup, offset⟩ =
      (.ok (), ⟨src, false, .ok (), buffer, true, true, 0, 0, 0⟩) ∧
    BufferedInputStream.next ⟨src, false, .ok (), buffer, true, true, 0, 0, 0⟩ =
      (.error e, ⟨src', false, .error e, buffer, false, true, 0, 0, 0⟩) := by
  have hneg : Narrow.toInt buffer.length < 0 := (Narrow.toInt_neg_iff buffer.length).2 (by omega)
  refine ⟨rfl, ?_⟩
  rw [BufferedInputStream.next_asks src _ _ _ _ (fun _ => Int.le_of_lt hneg), hnext]

end Run

/-! ## Reading from it -/

/-- The source after calls of `Next` only, and how many bytes they gave. -/
inductive ReadTo {σ : Type} [InputStream σ] (source : σ) : σ → Nat → Prop
  | start : ReadTo source source 0
  | ok {src n bs src'} : ReadTo source src n → InputStream.next src = (.ok bs, src') → ReadTo source src' (n + bs.length)
  | error {src n e src'} : ReadTo source src n → InputStream.next src = (.error e, src') → ReadTo source src' n

/-- **The buffers with the first `count` bytes of the source end before byte 2^31.** -/
def FitsBuffer {σ : Type} [InputStream σ] (source : σ) (count : Nat) : Prop :=
  ∀ src n bs src', ReadTo source src n → n < count → InputStream.next src = (.ok bs, src') → n + bs.length < 2 ^ 31

section Deliver
variable {σ : Type} {S : Bytes} {At : σ → Cursor → Prop}

/-- The stream is at `c`, over a source that does not fail. -/
def BufferedInputStream.StandsAt (S : Bytes) (At : σ → Cursor → Prop) (disabled : Bool) (s : BufferedInputStream σ)
    (c : Cursor) : Prop :=
  BufferedInputStream.Inv S At (fun _ => False) s ⟨c, disabled, false⟩

theorem BufferedInputStream.Inv.not_failed {s : BufferedInputStream σ} {a : Account}
    (h : BufferedInputStream.Inv S At (fun _ => False) s a) : a.failed = false := by
  cases h with
  | failed hf => exact hf.elim
  | directFailed hf => exact hf.elim
  | _ => rfl

theorem BufferedInputStream.Inv.buffer_lt {s : BufferedInputStream σ} {a : Account}
    (h : BufferedInputStream.Inv S At (fun _ => False) s a) : s.buffer.length < 2 ^ 31 := by
  cases h with
  | rewound _ hn hsmall => rwa [List.length_take_of_le hn]
  | reading _ hn hsmall => rwa [List.length_take_of_le hn]
  | ended _ hsmall => exact hsmall
  | failed hf => exact hf.elim
  | direct => exact Nat.zero_lt_succ _
  | directFailed hf => exact hf.elim

theorem BufferedInputStream.StandsAt.rewindingEnabled {disabled : Bool} {s : BufferedInputStream σ} {c : Cursor}
    (hat : BufferedInputStream.StandsAt S At disabled s c) : s.rewindingEnabled = !disabled := by
  cases hat with
  | rewound => exact (Bool.not_not _).symm
  | reading => exact (Bool.not_not _).symm
  | ended => exact (Bool.not_not _).symm
  | direct => rfl

variable [PositionedStream σ]

theorem BufferedInputStream.StandsAt.next_error (hs : Supplies S At (fun _ => False)) {disabled : Bool}
    {s : BufferedInputStream σ} {c : Cursor} (hat : BufferedInputStream.StandsAt S At disabled s c) {e : Status}
    {s' : BufferedInputStream σ} (hnext : s.next = (.error e, s')) :
    e.code = .outOfRange ∧ S.length ≤ c.pos ∧ BufferedInputStream.StandsAt S At disabled s' { c with last := 0 } := by
  have hres := BufferedInputStream.Inv.next hs hat
  rw [hnext] at hres
  cases hres with
  | error hend hinv =>
    have hcode : e.code = .outOfRange := by simpa using hinv.not_failed
    refine ⟨hcode, Nat.le_of_eq (hend hcode).symm, ?_⟩
    rw [decide_eq_false (fun h => h hcode)] at hinv
    exact hinv

theorem BufferedInputStream.StandsAt.backUp (hs : Supplies S At (fun _ => False)) {disabled : Bool}
    {s : BufferedInputStream σ} {c : Cursor} (hat : BufferedInputStream.StandsAt S At disabled s c) {count : Nat}
    (hcount : count ≤ c.last) : BufferedInputStream.StandsAt S At disabled (s.backUp count) (c.backUp count) := by
  refine BufferedInputStream.Inv.backUp hs hat count (fun hrewind hne => ?_)
  cases hat with
  | rewound => exact Int.ofNat_lt.2 (Nat.lt_succ_of_le hcount)
  | direct => exact absurd rfl hne
  | reading => cases hrewind
  | ended => cases hrewind

/-- Where rewinding is disabled, the buffer does not grow. -/
theorem BufferedInputStream.next_buffer_le {s : BufferedInputStream σ} (hdisabled : s.rewindingEnabled = false) :
    s.next.2.buffer.length ≤ s.buffer.length := by
  unfold BufferedInputStream.next
  split
  · exact Nat.le_refl _
  · cases s.status with
    | error e => exact Nat.le_refl _
    | ok u =>
      simp only [hdisabled, Bool.not_false, if_true]
      split
      · exact Nat.le_refl _
      · split
        · exact Nat.le_refl _
        · exact Nat.zero_le _

/-- **A stream that is not rewound any more delivers the bytes of its source.** -/
theorem BufferedInputStream.delivers (hs : Supplies S At (fun _ => False)) :
    Delivers S (BufferedInputStream.StandsAt S At true) (fun s => ∃ c, BufferedInputStream.StandsAt S At true s c) :=
  fun _ =>
  { next_ok := by
      rintro s c bs s' hat - hnext
      have hres := BufferedInputStream.Inv.next hs hat
      have hle := BufferedInputStream.next_buffer_le hat.rewindingEnabled
      change s.next = _ at hnext
      rw [hnext] at hres hle
      cases hres with
      | ok hbs hinv => exact ⟨hbs, hinv (Nat.lt_of_le_of_lt hle hat.buffer_lt)⟩
    next_error := by
      rintro s c e s' hat - hnext
      obtain ⟨hcode, hend, hat'⟩ := hat.next_error hs hnext
      exact ⟨hcode, hend, _, hat'⟩
    backUp := fun _ hat hcount => hat.backUp hs hcount }

/-- The stream is at `c`, can be rewound, and has in its buffer all that `source` gave. -/
structure BufferedInputStream.Buffering (S : Bytes) (At : σ → Cursor → Prop) (source : σ) (s : BufferedInputStream σ)
    (c : Cursor) : Prop where
  standsAt : BufferedInputStream.StandsAt S At false s c
  readTo   : ReadTo source s.inputStream s.buffer.length

/-- What the source gave is a first part of its bytes. -/
theorem ReadTo.at (hs : Supplies S At (fun _ => False)) {source : σ} {l : Nat} (hat : At source ⟨0, l⟩) {src : σ} {n : Nat}
    (h : ReadTo source src n) : n ≤ S.length ∧ ∃ last, At src ⟨n, last⟩ := by
  induction h with
  | start => exact ⟨Nat.zero_le _, l, hat⟩
  | ok _ hnext ih =>
    obtain ⟨hn, last, hat'⟩ := ih
    obtain ⟨hbs, hat''⟩ := hs.next_ok hat' hnext
    exact ⟨length_le_of_isPrefix hn hbs, _, hat''⟩
  | @error src n e src' _ hnext ih =>
    obtain ⟨hn, last, hat'⟩ := ih
    by_cases hcode : e.code = .outOfRange
    · exact ⟨hn, _, (hs.next_end hat' hnext hcode).2⟩
    · exact (hs.next_error hat' hnext hcode).elim

/-- **A source of fewer than 2^31 bytes fits**, whatever its buffers. -/
theorem fitsBuffer_of_length_lt (hs : Supplies S At (fun _ => False)) {source : σ} {l : Nat} (hat : At source ⟨0, l⟩)
    (hlen : S.length < 2 ^ 31) (count : Nat) : FitsBuffer source count := by
  intro src n bs src' hread _ hnext
  obtain ⟨hn, last, hat'⟩ := hread.at hs hat
  have := length_le_of_isPrefix hn (hs.next_ok hat' hnext).1
  omega

/-- A `Next` at a byte below `count` keeps the buffer small, if the buffers with the first `count` bytes fit. -/
theorem BufferedInputStream.StandsAt.next_readTo {source : σ} {s : BufferedInputStream σ} {disabled : Bool} {c : Cursor}
    (hat : BufferedInputStream.StandsAt S At disabled s c) (hread : ReadTo source s.inputStream s.buffer.length)
    (henabled : s.rewindingEnabled = true) {count : Nat} (hfits : FitsBuffer source count) (hpos : c.pos < count) :
    s.next.2.buffer.length < 2 ^ 31 ∧ ReadTo source s.next.2.inputStream s.next.2.buffer.length := by
  have hsmall := hat.buffer_lt
  have hasks : ∀ (src : σ) (buffer : Bytes) (afterRewind : Bool) (position offset : Int),
      (afterRewind = true → Narrow.toInt buffer.length ≤ 0) → buffer.length < count → buffer.length < 2 ^ 31 →
      ReadTo source src buffer.length →
      let s' := (BufferedInputStream.next ⟨src, false, .ok (), buffer, afterRewind, true, position, 0, offset⟩).2
      s'.buffer.length < 2 ^ 31 ∧ ReadTo source s'.inputStream s'.buffer.length := by
    intro src buffer afterRewind position offset hnothing hlt hsmall hread
    simp only [BufferedInputStream.next_asks src buffer afterRewind position offset hnothing]
    rcases hnext : InputStream.next src with ⟨e | bs, src'⟩
    · exact ⟨hsmall, hread.error hnext⟩
    · simp only [List.length_append]
      exact ⟨hfits src _ bs src' hread hlt hnext, hread.ok hnext⟩
  cases hat with
  | @rewound src n last enabled hsrc hn hsmall' =>
    obtain rfl : enabled = true := henabled
    obtain ⟨hlen, hcount⟩ := BufferedInputStream.toInt_length_take hn hsmall'
    by_cases h0 : n = 0
    · subst h0
      exact hasks src (S.take 0) true 0 0 (fun _ => Int.le_refl 0) hpos hsmall hread
    · -- the buffer is returned
      have hpositive : (0 : Int) < n := Int.natCast_pos.2 (Nat.pos_of_ne_zero h0)
      unfold BufferedInputStream.next BufferedInputStream.countInBuffer
      simp only [Bool.false_eq_true, if_false, hcount, hpositive, decide_true, Bool.and_self, if_true]
      exact ⟨hsmall, hread⟩
  | @reading src n last enabled c backedup offset hsrc hn hsmall' hoff hpos' hlast =>
    obtain rfl : enabled = true := henabled
    obtain ⟨hlen, hcount⟩ := BufferedInputStream.toInt_length_take hn hsmall'
    by_cases h0 : backedup = 0
    · subst h0
      exact hasks src (S.take n) false c.pos offset (fun h => by cases h) (by omega) hsmall hread
    · -- the end of the buffer is returned once more
      have hback : (0 : Int) < backedup := Int.natCast_pos.2 (Nat.pos_of_ne_zero h0)
      unfold BufferedInputStream.next
      simp only [Bool.false_eq_true, if_false, Bool.false_and, hback, if_true]
      exact ⟨hsmall, hread⟩
  | ended => exact ⟨hsmall, hread⟩
  | direct => cases henabled

theorem BufferedInputStream.backUp_source {s : BufferedInputStream σ} (henabled : s.directAccess = false) (count : Int) :
    (s.backUp count).inputStream = s.inputStream ∧ (s.backUp count).buffer = s.buffer := by
  unfold BufferedInputStream.backUp
  simp only [henabled, Bool.false_eq_true, if_false]
  cases s.status with
  | error e => exact ⟨rfl, rfl⟩
  | ok u =>
    simp only
    split
    · exact ⟨rfl, rfl⟩
    · exact ⟨rfl, rfl⟩

omit [PositionedStream σ] in
theorem BufferedInputStream.rewind_source (s : BufferedInputStream σ) :
    s.rewind.2.inputStream = s.inputStream ∧ s.rewind.2.buffer = s.buffer := by
  unfold BufferedInputStream.rewind
  split
  · exact ⟨rfl, rfl⟩
  · cases s.status with
    | ok u => exact ⟨rfl, rfl⟩
    | error e =>
      simp only
      split
      · exact ⟨rfl, rfl⟩
      · exact ⟨rfl, rfl⟩

omit [PositionedStream σ] in
theorem BufferedInputStream.StandsAt.directAccess {disabled : Bool} {s : BufferedInputStream σ} {c : Cursor}
    (hat : BufferedInputStream.StandsAt S At disabled s c) (henabled : s.rewindingEnabled = true) :
    s.directAccess = false := by
  cases hat with
  | direct => cases henabled
  | _ => rfl

/-- **A buffering stream delivers the bytes of its source**, from wherever it was rewound to, as far as they fit. -/
theorem BufferedInputStream.Buffering.deliversTo (hs : Supplies S At (fun _ => False)) {source : σ} {count : Nat}
    (hfits : FitsBuffer source count) :
    DeliversTo count S (BufferedInputStream.Buffering S At source)
      (fun s => ∃ c, BufferedInputStream.Buffering S At source s c) where
  next_ok := by
    rintro s c bs s' ⟨hat, hread⟩ hpos hnext
    have hres := BufferedInputStream.Inv.next hs hat
    obtain ⟨hsmall, hread'⟩ := hat.next_readTo hread hat.rewindingEnabled hfits hpos
    change s.next = _ at hnext
    rw [hnext] at hres hsmall hread'
    cases hres with
    | ok hbs hinv => exact ⟨hbs, hinv hsmall, hread'⟩
  next_error := by
    rintro s c e s' ⟨hat, hread⟩ hpos hnext
    obtain ⟨hcode, hend, hat'⟩ := hat.next_error hs hnext
    obtain ⟨-, hread'⟩ := hat.next_readTo hread hat.rewindingEnabled hfits hpos
    change s.next = _ at hnext
    rw [hnext] at hread'
    exact ⟨hcode, hend, _, hat', hread'⟩
  backUp := by
    rintro s c count ⟨hat, hread⟩ hcount
    obtain ⟨hsrc, hbuffer⟩ := BufferedInputStream.backUp_source (hat.directAccess hat.rewindingEnabled) count
    refine ⟨hat.backUp hs hcount, ?_⟩
    change ReadTo source (s.backUp count).inputStream (s.backUp count).buffer.length
    rwa [hsrc, hbuffer]

/-- A buffering stream can be rewound. -/
theorem BufferedInputStream.Buffering.rewind {source : σ} {s : BufferedInputStream σ} {c : Cursor}
    (h : BufferedInputStream.Buffering S At source s c) :
    ∃ s', s.rewind = (.ok (), s') ∧ BufferedInputStream.Buffering S At source s' ⟨0, 0⟩ := by
  obtain ⟨hat, hread⟩ := h
  rcases BufferedInputStream.Inv.rewind hat with ⟨-, -, s', hrewind, hat'⟩ | ⟨hd | hf, -⟩
  · obtain ⟨hsrc, hbuffer⟩ := s.rewind_source
    rw [hrewind] at hsrc hbuffer
    refine ⟨s', hrewind, hat', ?_⟩
    rwa [hsrc, hbuffer]
  · cases hd
  · cases hf

end Deliver

/-! ## A chunked source -/

instance : PositionedStream ChunkedSource where
  position s := s.pos

/-- **A chunked source never fails.** -/
theorem ChunkedSource.supplies (contents : Bytes) : Supplies contents (ChunkedSource.At contents) (fun _ => False) where
  next_ok := (ChunkedSource.readsFrom contents).next_ok
  next_end := by
    rintro s ⟨pos, last⟩ e s' hat hnext _
    refine ⟨((ChunkedSource.readsFrom contents).next_error hat hnext).2, ?_⟩
    obtain ⟨rfl, rfl, rfl⟩ := hat
    change s.next = _ at hnext
    unfold ChunkedSource.next at hnext
    split at hnext
    · cases hnext
    · split at hnext
      · cases hnext
        exact ⟨rfl, rfl, rfl⟩
      · cases hnext
  next_error hat hnext hcode := hcode ((ChunkedSource.readsFrom contents).next_error hat hnext).1
  next_failed h := h.elim
  backUp := (ChunkedSource.readsFrom contents).backUp
  backUp_failed _ h := h
  position := by
    rintro s c ⟨-, hpos, -⟩
    exact congrArg Int.ofNat hpos

def chunksOfThree : Chunking where
  size := fun _ => 3
  progress := fun k => ⟨k, Nat.le_refl k, by decide⟩

end Tink
