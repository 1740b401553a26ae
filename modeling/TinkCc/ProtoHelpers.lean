import TinkCc.LibBase128
import TinkCc.ProtoState
/-!
# ProtoHelpers — `proto_parsing_helpers.cc`

The three varint readers, the tag reader, the varint and tag writers and the readers that skip a field.  The readers
differ on purpose: a tag is at most five bytes and is taken mod 2^32, a size is at most five bytes and must be below
2^32, any other varint is at most ten bytes and is taken mod 2^64.

Each reader has two lemmas: `_sound` (what it accepted, and that it consumed exactly that) and `_complete` (what it
must accept); each writer has one, `_writes`.
-/
namespace Tink

open Base128

/-! ## Wire types and lengths -/

def kMax64BitVarintLength : Nat := 10
def kMax32BitVarintLength : Nat := 5
def kSkipGroupLimit : Nat := 100

/-- `absl::bit_width` is `Nat.size`. -/
def varintLength (value : Nat) : Nat :=
  let bitWidth := value.size
  if bitWidth = 0 then 1 else (bitWidth + 6) / 7

/-- The bytes the `while` loop of `SerializeVarint` stores. -/
def serializeVarintBytes (value : Nat) : Bytes :=
  if value ≥ 0x80 then UInt8.ofNat ((value &&& 0x7f) ||| 0x80) :: serializeVarintBytes (value >>> 7)
  else [UInt8.ofNat value]
termination_by value
decreasing_by rw [Nat.shiftRight_eq_div_pow]; omega

/-- `WireType` is a `uint8_t` the tag reader casts three bits to, so it can hold the two unassigned values. -/
inductive WireType
  | kVarint
  | kFixed64
  | kLengthDelimited
  | kStartGroup
  | kEndGroup
  | kFixed32
  | unassigned6
  | unassigned7
  deriving DecidableEq, Repr

def WireType.toNat : WireType → Nat
  | .kVarint => 0
  | .kFixed64 => 1
  | .kLengthDelimited => 2
  | .kStartGroup => 3
  | .kEndGroup => 4
  | .kFixed32 => 5
  | .unassigned6 => 6
  | .unassigned7 => 7

/-- `static_cast<WireType>` of the low three bits of a tag. -/
def WireType.ofBits : Nat → WireType
  | 0 => .kVarint
  | 1 => .kFixed64
  | 2 => .kLengthDelimited
  | 3 => .kStartGroup
  | 4 => .kEndGroup
  | 5 => .kFixed32
  | 6 => .unassigned6
  | _ => .unassigned7

def wireTypeAndFieldNumberLength (_wireType : WireType) (fieldNumber : Nat) : Nat :=
  let bitWidth := fieldNumber.size + 3
  (bitWidth + 6) / 7

/-- The bytes of a tag. -/
def tagBytes (wt : WireType) (fn : Nat) : Bytes := encode (8 * fn + wt.toNat)

theorem and_payload (n : Nat) : n &&& 0x7F = n % 128 := Nat.and_two_pow_sub_one_eq_mod n 7

theorem and_continuation (b : UInt8) : b.toNat &&& 0x80 = 0 ↔ b.toNat < 128 := by
  have h : ∀ x : Fin 256, x.val &&& 0x80 = 0 ↔ x.val < 128 := by decide +kernel
  exact h ⟨b.toNat, b.toNat_lt⟩

/-- One more byte of a varint, in the accumulator. -/
theorem or_payload_step {r p t i width : Nat} (hp : p < 128) :
    (r ||| (p <<< (i * 7)) % 2 ^ width) ||| (t <<< ((i + 1) * 7)) % 2 ^ width =
      r ||| ((p + 128 * t) <<< (i * 7)) % 2 ^ width := by
  have h1 : p + 128 * t = p ||| t <<< 7 := by
    rw [Nat.shiftLeft_eq, Nat.or_comm, Nat.mul_comm t, ← Nat.two_pow_add_eq_or_of_lt hp]
    omega
  have h2 : t <<< ((i + 1) * 7) = (t <<< 7) <<< (i * 7) := by
    rw [← Nat.shiftLeft_add]
    congr 1
    omega
  rw [h1, h2, Nat.shiftLeft_or_distrib, Nat.or_mod_two_pow, Nat.or_assoc]

/-- The check on the fifth byte, as a bound on the number read so far. -/
theorem size_fits_cons {i p t : Nat} (hp : p < 128) (hi : i ≤ 3) :
    (p + 128 * t) <<< (i * 7) < 2 ^ 32 ↔ t <<< ((i + 1) * 7) < 2 ^ 32 := by
  have hcase : i = 0 ∨ i = 1 ∨ i = 2 ∨ i = 3 := by omega
  rcases hcase with rfl | rfl | rfl | rfl <;> simp only [Nat.shiftLeft_eq] <;> omega

theorem size_fits_single {i p : Nat} (hp : p < 128) (hi : i ≤ 4) :
    p <<< (i * 7) < 2 ^ 32 ↔ ¬ (i = kMax32BitVarintLength - 1 ∧ p > (2 ^ 32 - 1) >>> (i * 7)) := by
  have hcase : i = 0 ∨ i = 1 ∨ i = 2 ∨ i = 3 ∨ i = 4 := by omega
  rcases hcase with rfl | rfl | rfl | rfl | rfl <;>
    simp only [Nat.shiftLeft_eq, kMax32BitVarintLength, Nat.reduceMul, Nat.reduceShiftRight, Nat.reduceSub,
      Nat.reducePow, Nat.reduceEqDiff, true_and, false_and, gt_iff_lt, not_false_eq_true, iff_true] <;> omega

/-- **`SerializeVarint` stores the shortest writing.** -/
theorem serializeVarintBytes_eq (n : Nat) : serializeVarintBytes n = encode n := by
  induction n using Nat.strongRecOn with
  | ind n ih =>
    rw [serializeVarintBytes]
    by_cases h : n < 128
    · rw [if_neg (by omega), encode_of_lt h]
    · have hor : (n &&& 0x7f) ||| 0x80 = n % 128 + 128 := by
        have h128 : 128 + n % 128 = 128 ||| n % 128 :=
          Nat.two_pow_add_eq_or_of_lt (i := 7) (Nat.mod_lt _ (by decide)) 1
        rw [and_payload, Nat.or_comm, ← h128, Nat.add_comm]
      rw [if_pos (by omega), encode_of_ge h, hor, Nat.shiftRight_eq_div_pow, ih (n / 2 ^ 7) (by omega)]

theorem varintLength_eq (n : Nat) : varintLength n = (encode n).length := (encode_length n).symm

theorem WireType.toNat_lt (wt : WireType) : wt.toNat < 8 := by cases wt <;> decide

theorem WireType.ofBits_toNat (wt : WireType) : WireType.ofBits wt.toNat = wt := by cases wt <;> rfl

theorem tag_eq (fn : Nat) (wt : WireType) : (fn <<< 3) ||| wt.toNat = 8 * fn + wt.toNat := by
  rw [Nat.shiftLeft_eq, Nat.mul_comm, ← Nat.two_pow_add_eq_or_of_lt wt.toNat_lt]

/-- **The length announced for a tag is the length written**, for every field number but 0. -/
theorem wireTypeAndFieldNumberLength_eq {wt : WireType} {fn : Nat} (h : fn ≠ 0) :
    wireTypeAndFieldNumberLength wt fn = (tagBytes wt fn).length := by
  have hsize : (8 * fn + wt.toNat).size = fn.size + 3 := by
    have hw := wt.toNat_lt
    apply Nat.le_antisymm
    · rw [Nat.size_le, Nat.pow_add]
      have := Nat.lt_size_self fn
      omega
    · have hpos : 0 < fn.size := Nat.size_pos.2 (Nat.pos_of_ne_zero h)
      have hle : 2 ^ (fn.size - 1) ≤ fn := Nat.lt_size.1 (by omega)
      have : fn.size - 1 + 3 < (8 * fn + wt.toNat).size := by
        rw [Nat.lt_size, Nat.pow_add]
        omega
      omega
  rw [wireTypeAndFieldNumberLength, tagBytes, encode_length, hsize]
  simp

variable [AbslCrc]

/-! ## Reading and writing -/

/-- The loop of `ConsumeVarintForTag` and `ConsumeVarintIntoUint64`: `left` bytes may still be read, `i` were, and
`result` is a `width`-bit integer. -/
def consumeVarintBytes (width : Nat) : (left i result : Nat) → ParsingState → Option (Nat × ParsingState)
  | 0, _, _, _ => none
  | left + 1, i, result, st =>
    match st.remaining with
    | [] => none
    | byte :: _ =>
      let result := result ||| ((byte.toNat &&& 0x7F) <<< (i * 7)) % 2 ^ width
      if byte.toNat &&& 0x80 = 0 then some (result, st.advance 1)
      else consumeVarintBytes width left (i + 1) result (st.advance 1)

def consumeVarintForTag (st : ParsingState) : Option (Nat × ParsingState) :=
  consumeVarintBytes 32 kMax32BitVarintLength 0 0 st

def consumeVarintIntoUint64 (st : ParsingState) : Option (Nat × ParsingState) :=
  consumeVarintBytes 64 kMax64BitVarintLength 0 0 st

def consumeVarintIntoUint32 (st : ParsingState) : Option (Nat × ParsingState) :=
  match consumeVarintIntoUint64 st with
  | none => none
  | some (result64bit, st) => some (result64bit % 2 ^ 32, st)

/-- The loop of `ConsumeVarintForSize`: the last byte it may read must not carry bits above 2^32. -/
def consumeVarintForSizeBytes : (left i result : Nat) → ParsingState → Option (Nat × ParsingState)
  | 0, _, _, _ => none
  | left + 1, i, result, st =>
    match st.remaining with
    | [] => none
    | byte :: _ =>
      if i = kMax32BitVarintLength - 1 ∧ byte.toNat &&& 0x7F > (2 ^ 32 - 1) >>> (i * 7) then none
      else
        let result := result ||| ((byte.toNat &&& 0x7F) <<< (i * 7)) % 2 ^ 32
        if byte.toNat &&& 0x80 = 0 then some (result, st.advance 1)
        else consumeVarintForSizeBytes left (i + 1) result (st.advance 1)

def consumeVarintForSize (st : ParsingState) : Option (Nat × ParsingState) :=
  consumeVarintForSizeBytes kMax32BitVarintLength 0 0 st

def serializeVarint (value : Nat) (output : SerializationState) : Option SerializationState :=
  let size := varintLength value
  if output.buffer.length < size then none
  else some ((output.store (serializeVarintBytes value)).advance size)

def consumeIntoWireTypeAndFieldNumber (st : ParsingState) : Option (WireType × Nat × ParsingState) :=
  match consumeVarintForTag st with
  | none => none
  | some (result, st) =>
    let fieldNumber := result >>> 3
    let wireType := WireType.ofBits (result &&& 0x7)
    if fieldNumber = 0 then none else some (wireType, fieldNumber, st)

def serializeWireTypeAndFieldNumber (wireType : WireType) (fieldNumber : Nat) (output : SerializationState) :
    Option SerializationState :=
  if fieldNumber = 0 ∨ fieldNumber ≥ 2 ^ 29 then none
  else serializeVarint ((fieldNumber <<< 3) ||| wireType.toNat) output

def consumeBytesReturnStringView (st : ParsingState) : Option (Bytes × ParsingState) :=
  match consumeVarintForSize st with
  | none => none
  | some (result, st) =>
    if result > st.remaining.length then none
    else some (st.remaining.take result, st.advance result)

/-- `ConsumeFixed32` and `ConsumeFixed64`, of `size` bytes. -/
def consumeFixed (size : Nat) (st : ParsingState) : Option ParsingState :=
  if st.remaining.length < size then none else some (st.advance size)

def consumeFixed32 (st : ParsingState) : Option ParsingState := consumeFixed 4 st

def consumeFixed64 (st : ParsingState) : Option ParsingState := consumeFixed 8 st

def skipField (wireType : WireType) (st : ParsingState) : Option ParsingState :=
  match wireType with
  | .kVarint => (consumeVarintIntoUint64 st).map Prod.snd
  | .kLengthDelimited => (consumeBytesReturnStringView st).map Prod.snd
  | .kFixed32 => consumeFixed32 st
  | .kFixed64 => consumeFixed64 st
  | _ => none

/-- The loop of `SkipGroup`; the top of `field_number_stack` is the head of the list.  Every turn reads a tag, so the
bytes left bound the turns. -/
def skipGroupLoop : (fuel : Nat) → (fieldNumberStack : List Nat) → ParsingState → Option ParsingState
  | _, [], st => some st
  | 0, _ :: _, _ => none
  | fuel + 1, top :: stack, st =>
    match consumeIntoWireTypeAndFieldNumber st with
    | none => none
    | some (wireType, fieldNumber, st) =>
      match wireType with
      | .kStartGroup =>
        if (fieldNumber :: top :: stack).length > kSkipGroupLimit then none
        else skipGroupLoop fuel (fieldNumber :: top :: stack) st
      | .kEndGroup => if top ≠ fieldNumber then none else skipGroupLoop fuel stack st
      | wireType =>
        match skipField wireType st with
        | none => none
        | some st => skipGroupLoop fuel (top :: stack) st

def skipGroup (fieldNumber : Nat) (st : ParsingState) : Option ParsingState :=
  skipGroupLoop st.remaining.length [fieldNumber] st

/-! ## Reading varints -/

theorem consumeVarintBytes_sound (width : Nat) : ∀ (left i r : Nat) (st : ParsingState) (v : Nat) (st' : ParsingState),
    consumeVarintBytes width left i r st = some (v, st') →
      ∃ bs, IsVarint bs ∧ bs.length ≤ left ∧ st.Consumes bs st' ∧ v = r ||| (value bs <<< (i * 7)) % 2 ^ width
  | 0, _, _, _, _, _, h => by cases h
  | left + 1, i, r, st, v, st', h => by
    rw [consumeVarintBytes] at h
    split at h
    · cases h
    · rename_i byte rest hrem
      obtain ⟨hadv, -⟩ := ParsingState.consumes_advance_of_eq (a := [byte]) (b := rest) hrem
      simp only [and_payload, and_continuation, List.length_singleton] at h hadv
      have hp : byte.toNat % 128 < 128 := Nat.mod_lt _ (by decide)
      split at h
      · rename_i hlt
        simp only [Option.some.injEq, Prod.mk.injEq] at h
        obtain ⟨rfl, rfl⟩ := h
        exact ⟨[byte], (isVarint_cons_of_lt hlt).2 rfl, by simp, hadv, by simp [value]⟩
      · rename_i hge
        obtain ⟨bs, hv, hlen, hc, rfl⟩ := consumeVarintBytes_sound width left (i + 1) _ _ v st' h
        refine ⟨byte :: bs, (isVarint_cons_of_ge hge).2 hv, by simpa using hlen, hadv.trans hc, ?_⟩
        rw [or_payload_step hp]
        rfl

theorem consumeVarintBytes_complete (width : Nat) : ∀ (left i r : Nat) (st : ParsingState) (bs rest : Bytes),
    IsVarint bs → bs.length ≤ left → st.remaining = bs ++ rest →
      ∃ st', consumeVarintBytes width left i r st = some (r ||| (value bs <<< (i * 7)) % 2 ^ width, st') ∧
        st.Consumes bs st'
  | 0, _, _, _, bs, _, hv, hlen, _ => by
    have := isVarint_length_pos hv
    omega
  | left + 1, i, r, st, byte :: bs, rest, hv, hlen, hrem => by
    obtain ⟨hadv, hrem'⟩ := ParsingState.consumes_advance_of_eq (a := [byte]) (b := bs ++ rest) hrem
    rw [List.length_singleton] at hadv hrem'
    rw [consumeVarintBytes, hrem]
    simp only [List.cons_append, and_payload, and_continuation]
    by_cases hlt : byte.toNat < 128
    · obtain rfl := (isVarint_cons_of_lt hlt).1 hv
      exact ⟨st.advance 1, by simp [hlt, value], hadv⟩
    · obtain ⟨st', he, hc⟩ := consumeVarintBytes_complete width left (i + 1)
        (r ||| ((byte.toNat % 128) <<< (i * 7)) % 2 ^ width) (st.advance 1) bs rest
        ((isVarint_cons_of_ge hlt).1 hv) (by simpa using hlen) hrem'
      refine ⟨st', ?_, hadv.trans hc⟩
      rw [if_neg hlt, he, or_payload_step (Nat.mod_lt _ (by decide))]
      rfl

theorem consumeVarintIntoUint64_sound {st st' : ParsingState} {v : Nat}
    (h : consumeVarintIntoUint64 st = some (v, st')) :
    ∃ bs, IsVarint bs ∧ bs.length ≤ 10 ∧ st.Consumes bs st' ∧ v = value bs % 2 ^ 64 := by
  obtain ⟨bs, hv, hlen, hc, rfl⟩ := consumeVarintBytes_sound 64 _ 0 0 st v st' h
  exact ⟨bs, hv, hlen, hc, by simp⟩

theorem consumeVarintIntoUint64_complete {st : ParsingState} {bs rest : Bytes} (hv : IsVarint bs)
    (hlen : bs.length ≤ 10) (hrem : st.remaining = bs ++ rest) :
    ∃ st', consumeVarintIntoUint64 st = some (value bs % 2 ^ 64, st') ∧ st.Consumes bs st' := by
  obtain ⟨st', he, hc⟩ := consumeVarintBytes_complete 64 _ 0 0 st bs rest hv hlen hrem
  exact ⟨st', by simpa [consumeVarintIntoUint64, kMax64BitVarintLength] using he, hc⟩

/-! ## Reading sizes -/

theorem consumeVarintForSizeBytes_sound : ∀ (left i r : Nat) (st : ParsingState) (v : Nat) (st' : ParsingState),
    i + left = 5 → consumeVarintForSizeBytes left i r st = some (v, st') →
      ∃ bs, IsVarint bs ∧ bs.length ≤ left ∧ st.Consumes bs st' ∧ value bs <<< (i * 7) < 2 ^ 32 ∧
        v = r ||| (value bs <<< (i * 7)) % 2 ^ 32
  | 0, _, _, _, _, _, _, h => by cases h
  | left + 1, i, r, st, v, st', hi, h => by
    rw [consumeVarintForSizeBytes] at h
    split at h
    · cases h
    · rename_i byte rest hrem
      obtain ⟨hadv, -⟩ := ParsingState.consumes_advance_of_eq (a := [byte]) (b := rest) hrem
      simp only [and_payload, and_continuation, List.length_singleton] at h hadv
      have hp : byte.toNat % 128 < 128 := Nat.mod_lt _ (by decide)
      split at h
      · cases h
      · rename_i hfit
        split at h
        · rename_i hlt
          simp only [Option.some.injEq, Prod.mk.injEq] at h
          obtain ⟨rfl, rfl⟩ := h
          have hb := (size_fits_single hp (by omega)).2 hfit
          exact ⟨[byte], (isVarint_cons_of_lt hlt).2 rfl, by simp, hadv, by simpa [value] using hb, by simp [value]⟩
        · rename_i hge
          obtain ⟨bs, hv, hlen, hc, hb, rfl⟩ :=
            consumeVarintForSizeBytes_sound left (i + 1) _ _ v st' (by omega) h
          have hpos := isVarint_length_pos hv
          refine ⟨byte :: bs, (isVarint_cons_of_ge hge).2 hv, by simpa using hlen, hadv.trans hc, ?_, ?_⟩
          · exact (size_fits_cons hp (by omega)).2 hb
          · rw [or_payload_step hp]; rfl

theorem consumeVarintForSizeBytes_complete : ∀ (left i r : Nat) (st : ParsingState) (bs rest : Bytes),
    i + left = 5 → IsVarint bs → bs.length ≤ left → st.remaining = bs ++ rest → value bs <<< (i * 7) < 2 ^ 32 →
      ∃ st', consumeVarintForSizeBytes left i r st = some (r ||| (value bs <<< (i * 7)) % 2 ^ 32, st') ∧
        st.Consumes bs st'
  | 0, _, _, _, bs, _, _, hv, hlen, _, _ => by
    have := isVarint_length_pos hv
    omega
  | left + 1, i, r, st, byte :: bs, rest, hi, hv, hlen, hrem, hb => by
    obtain ⟨hadv, hrem'⟩ := ParsingState.consumes_advance_of_eq (a := [byte]) (b := bs ++ rest) hrem
    rw [List.length_singleton] at hadv hrem'
    rw [consumeVarintForSizeBytes, hrem]
    simp only [List.cons_append, and_payload, and_continuation]
    have hp : byte.toNat % 128 < 128 := Nat.mod_lt _ (by decide)
    by_cases hlt : byte.toNat < 128
    · obtain rfl := (isVarint_cons_of_lt hlt).1 hv
      have hfit := (size_fits_single (i := i) hp (by omega)).1 (by simpa [value] using hb)
      exact ⟨st.advance 1, by rw [if_neg hfit, if_pos hlt]; simp [value], hadv⟩
    · have hv' := (isVarint_cons_of_ge hlt).1 hv
      have hpos := isVarint_length_pos hv'
      have hi3 : i ≤ 3 := by simp only [List.length_cons] at hlen; omega
      have hfit : ¬ (i = kMax32BitVarintLength - 1 ∧ byte.toNat % 128 > (2 ^ 32 - 1) >>> (i * 7)) := by
        simp only [kMax32BitVarintLength]; omega
      obtain ⟨st', he, hc⟩ := consumeVarintForSizeBytes_complete left (i + 1)
        (r ||| ((byte.toNat % 128) <<< (i * 7)) % 2 ^ 32) (st.advance 1) bs rest (by omega) hv'
        (by simpa using hlen) hrem' ((size_fits_cons hp hi3).1 hb)
      refine ⟨st', ?_, hadv.trans hc⟩
      rw [if_neg hfit, if_neg hlt, he, or_payload_step hp]
      rfl

theorem consumeVarintForSize_sound {st st' : ParsingState} {v : Nat} (h : consumeVarintForSize st = some (v, st')) :
    ∃ bs, IsVarint bs ∧ bs.length ≤ 5 ∧ st.Consumes bs st' ∧ value bs < 2 ^ 32 ∧ v = value bs := by
  obtain ⟨bs, hv, hlen, hc, hb, rfl⟩ := consumeVarintForSizeBytes_sound _ 0 0 st v st' rfl h
  simp only [Nat.zero_mul, Nat.shiftLeft_zero] at hb
  exact ⟨bs, hv, hlen, hc, hb, by rw [Nat.zero_or, Nat.zero_mul, Nat.shiftLeft_zero, Nat.mod_eq_of_lt hb]⟩

theorem consumeVarintForSize_complete {st : ParsingState} {bs rest : Bytes} (hv : IsVarint bs) (hlen : bs.length ≤ 5)
    (hb : value bs < 2 ^ 32) (hrem : st.remaining = bs ++ rest) :
    ∃ st', consumeVarintForSize st = some (value bs, st') ∧ st.Consumes bs st' := by
  obtain ⟨st', he, hc⟩ := consumeVarintForSizeBytes_complete _ 0 0 st bs rest rfl hv hlen hrem (by simpa using hb)
  simp only [Nat.zero_mul, Nat.shiftLeft_zero, Nat.zero_or, Nat.mod_eq_of_lt hb] at he
  exact ⟨st', he, hc⟩

/-! ## Writing -/

theorem serializeVarint_writes {n : Nat} {out : SerializationState} (h : (encode n).length ≤ out.buffer.length) :
    ∃ out', serializeVarint n out = some out' ∧ out.Writes (encode n) out' ∧ out.TracksCrc (encode n) out' := by
  refine ⟨(out.store (encode n)).advanceWithCrc (encode n).length (AbslCrc.computeCrc32c (encode n)), ?_,
    out.writes_store_advanceWithCrc _ _, out.tracksCrc_store_advanceWithCrc _⟩
  rw [serializeVarint, varintLength_eq, serializeVarintBytes_eq, if_neg (by omega), SerializationState.store_advance]

theorem serializeWireTypeAndFieldNumber_writes {wt : WireType} {fn : Nat} {out : SerializationState} (h0 : fn ≠ 0)
    (hlt : fn < 2 ^ 29) (h : (tagBytes wt fn).length ≤ out.buffer.length) :
    ∃ out', serializeWireTypeAndFieldNumber wt fn out = some out' ∧ out.Writes (tagBytes wt fn) out' ∧
      out.TracksCrc (tagBytes wt fn) out' := by
  rw [serializeWireTypeAndFieldNumber, if_neg (by omega), tag_eq]
  exact serializeVarint_writes h

end Tink
