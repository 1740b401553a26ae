import Mathlib.Logic.Relation
import TinkCc.ProtoSerialize
import TinkCc.ProtoWire
/-!
# ProtoGrammar — the language `ParseFromString` accepts

`ValidRecords T` is the set of byte strings that are records of a message of type `T`, written as a grammar with no
parser in it.  The loop of `Parse` is first turned into the steps it takes (`Turns`), where no fuel is left; a turn
reads one record (`parseStep_cases`), and what a field consumes is its payload (`consumeIntoMember_sound`,
`consumeIntoMember_complete`), by induction on the field's type.

The same induction carries the CRCs: everything read is consumed exactly once, so the running CRC is that of the input,
and every secret data read carries its own.
-/
namespace Tink

open Base128

/-! ## The grammar -/

/-- The message type of the two message field classes. -/
def FieldType.submessage : FieldType → Option MessageType
  | .message _ _ nums field     => some ⟨nums, field⟩
  | .repeatedMessage nums field => some ⟨nums, field⟩
  | _                           => none

/-- Records with this tag go into a submessage of type `S`. -/
def MessageType.Hits (T : MessageType) (wt : WireType) (fn : Nat) (S : MessageType) : Prop :=
  wt = .kLengthDelimited ∧ ∃ i, T.nums.fieldNumber i = fn ∧ (T.field i).submessage = some S

/-- A sequence of well-formed records of a message of this type.  There is no production for wire types 6 and 7, nor
for an end tag without its start tag. -/
inductive ValidRecords : MessageType → Bytes → Prop
  | nil {T} : ValidRecords T []
  | field {T t p r wt fn} : IsTag t wt fn → IsPayload wt p → (∀ S, ¬ T.Hits wt fn S) → ValidRecords T r →
      ValidRecords T (t ++ (p ++ r))
  | submessage {T t p body r wt fn S} : IsTag t wt fn → T.Hits wt fn S → IsDelimited p body → ValidRecords S body →
      ValidRecords T r → ValidRecords T (t ++ (p ++ r))
  | group {T t g r fn} : IsTag t .kStartGroup fn → GroupTail fn 1 g → ValidRecords T r → ValidRecords T (t ++ (g ++ r))

/-- What a field reads after its tag. -/
def FieldType.Payload (t : FieldType) (p : Bytes) : Prop :=
  match t.submessage with
  | some S => ∃ body, IsDelimited p body ∧ ValidRecords S body
  | none   => IsPayload t.wireType p

/-- What is skipped after a tag no field takes. -/
def SkippedPayload (wt : WireType) (fn : Nat) (p : Bytes) : Prop :=
  (wt = .kStartGroup ∧ GroupTail fn 1 p) ∨ IsPayload wt p

theorem FieldType.wireType_of_submessage {t : FieldType} {S : MessageType} (h : t.submessage = some S) :
    t.wireType = .kLengthDelimited := by
  cases t with
  | message => rfl
  | repeatedMessage => rfl
  | _ => cases h

theorem FieldType.wireType_ne_group (t : FieldType) : t.wireType ≠ .kStartGroup := by
  cases t <;> simp [FieldType.wireType]

/-! ## FieldWithNumber -/

theorem FieldNumbers.searchLoop_sound (nums : FieldNumbers) {fn : Nat} {i : Fin nums.numFields} :
    ∀ (fuel : Nat) (low high : Int), nums.searchLoop fn fuel low high = some i → nums.fieldNumber i = fn
  | 0, _, _, h => by cases h
  | fuel + 1, low, high, h => by
    rw [searchLoop] at h
    split at h
    · simp only at h
      split at h
      · split at h
        · cases h
          assumption
        · split at h
          · exact searchLoop_sound nums fuel _ _ h
          · exact searchLoop_sound nums fuel _ _ h
      · cases h
    · cases h

/-- The range always holds the field that is looked for, and shrinks. -/
theorem FieldNumbers.searchLoop_complete (nums : FieldNumbers) (i : Fin nums.numFields) :
    ∀ (fuel : Nat) (low high : Int), 0 ≤ low → high < nums.numFields → low ≤ i.val → i.val ≤ high →
      high - low < fuel → nums.searchLoop (nums.fieldNumber i) fuel low high = some i
  | 0, _, _, _, _, _, _, _ => by omega
  | fuel + 1, low, high, h0, hn, hl, hh, hf => by
    rw [searchLoop, if_pos (by omega)]
    simp only
    have hmid : (low + (high - low) / 2).toNat < nums.numFields := by omega
    rw [dif_pos hmid]
    by_cases heq : nums.fieldNumber ⟨(low + (high - low) / 2).toNat, hmid⟩ = nums.fieldNumber i
    · rw [if_pos heq, nums.sorted.injective heq]
    · rw [if_neg heq]
      by_cases hlt : nums.fieldNumber ⟨(low + (high - low) / 2).toNat, hmid⟩ < nums.fieldNumber i
      · have hi := Fin.lt_def.1 (nums.sorted.lt_iff_lt.1 hlt)
        simp only at hi
        rw [if_pos hlt]
        exact searchLoop_complete nums i fuel _ _ (by omega) (by omega) (by omega) (by omega) (by omega)
      · have hgt : nums.fieldNumber i < nums.fieldNumber ⟨(low + (high - low) / 2).toNat, hmid⟩ := by omega
        have hi := Fin.lt_def.1 (nums.sorted.lt_iff_lt.1 hgt)
        simp only at hi
        rw [if_neg hlt]
        exact searchLoop_complete nums i fuel _ _ (by omega) (by omega) (by omega) (by omega) (by omega)

/-- **The binary search finds the field of this number.** -/
theorem FieldNumbers.fieldWithNumber_eq_some (nums : FieldNumbers) {fn : Nat} {i : Fin nums.numFields} :
    nums.fieldWithNumber fn = some i ↔ nums.fieldNumber i = fn := by
  constructor
  · intro h
    exact nums.searchLoop_sound _ _ _ h
  · rintro rfl
    have := i.isLt
    exact nums.searchLoop_complete i _ _ _ (by omega) (by omega) (by omega) (by omega) (by omega)

/-! ## Records -/

/-- Some field takes a record with this tag. -/
def Taken (nums : FieldNumbers) (wireType : Fin nums.numFields → WireType) (wt : WireType) (fn : Nat) : Prop :=
  ∃ i, nums.fieldNumber i = fn ∧ wireType i = wt

section Records
variable {T : MessageType} {t p r : Bytes} {wt : WireType} {fn : Nat}

theorem validRecords_of_payload {i : Fin T.nums.numFields} (ht : IsTag t wt fn) (hn : T.nums.fieldNumber i = fn)
    (hw : (T.field i).wireType = wt) (hp : (T.field i).Payload p) (hr : ValidRecords T r) :
    ValidRecords T (t ++ (p ++ r)) := by
  unfold FieldType.Payload at hp
  split at hp
  · rename_i S hS
    obtain ⟨body, hd, hb⟩ := hp
    exact .submessage ht ⟨hw.symm.trans (FieldType.wireType_of_submessage hS), i, hn, hS⟩ hd hb hr
  · rename_i hS
    refine .field ht (hw ▸ hp) ?_ hr
    rintro S ⟨-, j, hj, hSj⟩
    rw [T.nums.sorted.injective (hj.trans hn.symm), hS] at hSj
    cases hSj

theorem validRecords_of_skipped (ht : IsTag t wt fn) (hn : ¬ Taken T.nums (fun i => (T.field i).wireType) wt fn)
    (hp : SkippedPayload wt fn p) (hr : ValidRecords T r) : ValidRecords T (t ++ (p ++ r)) := by
  rcases hp with ⟨rfl, hg⟩ | hp
  · exact .group ht hg hr
  · refine .field ht hp ?_ hr
    rintro S ⟨rfl, j, hj, hSj⟩
    exact hn ⟨j, hj, FieldType.wireType_of_submessage hSj⟩

/-- A record that is not for a submessage is taken by a field as its payload, or skipped. -/
theorem payload_or_skipped (hp : IsPayload wt p) (hn : ∀ S, ¬ T.Hits wt fn S) :
    (∃ i, T.nums.fieldNumber i = fn ∧ (T.field i).wireType = wt ∧ (T.field i).Payload p) ∨
      (¬ Taken T.nums (fun i => (T.field i).wireType) wt fn ∧ SkippedPayload wt fn p) := by
  by_cases htaken : Taken T.nums (fun i => (T.field i).wireType) wt fn
  · obtain ⟨i, hi, hw⟩ := htaken
    simp only at hw
    refine .inl ⟨i, hi, hw, ?_⟩
    unfold FieldType.Payload
    split
    · rename_i S hS
      exact absurd ⟨hw.symm.trans (FieldType.wireType_of_submessage hS), i, hi, hS⟩ (hn S)
    · exact hw ▸ hp
  · exact .inr ⟨htaken, .inr hp⟩

end Records

theorem MessageType.holds_update {P : Leafwise} {T : MessageType} {m : T.Value} {i : Fin T.nums.numFields}
    {v : (T.field i).Value} (hm : T.Holds P m) (hv : (T.field i).Holds P v) : T.Holds P (Function.update m i v) := by
  intro j
  by_cases hj : j = i
  · subst hj
    rwa [Function.update_self]
  · rw [Function.update_of_ne hj]
    exact hm j

variable [AbslCrc]

/-! ## Turns of the loop -/

section Turns
variable {nums : FieldNumbers} {M : Fin nums.numFields → Type} {wireType : Fin nums.numFields → WireType}
  {consume : (i : Fin nums.numFields) → M i → ParsingState → Option (M i × ParsingState)}

/-- The loop of `Parse` gets from one message and state to another. -/
def Turns (wireType : Fin nums.numFields → WireType)
    (consume : (i : Fin nums.numFields) → M i → ParsingState → Option (M i × ParsingState)) :
    ((i : Fin nums.numFields) → M i) × ParsingState → ((i : Fin nums.numFields) → M i) × ParsingState → Prop :=
  Relation.ReflTransGen (fun a b => parseStep wireType consume a.1 a.2 = some b)

/-- **A turn reads a tag and then a field's payload, or skips.** -/
theorem parseStep_cases {m m' : (i : Fin nums.numFields) → M i} {st st' : ParsingState}
    (h : parseStep wireType consume m st = some (m', st')) :
    ∃ t wt fn st₁, IsTag t wt fn ∧ st.Consumes t st₁ ∧
      ((∃ i v, nums.fieldNumber i = fn ∧ wireType i = wt ∧ consume i (m i) st₁ = some (v, st') ∧
          m' = Function.update m i v) ∨
       (¬ Taken nums wireType wt fn ∧ m' = m ∧ skipRecord wt fn st₁ = some st')) := by
  unfold parseStep at h
  split at h
  · cases h
  · rename_i wt fn st₁ htag
    obtain ⟨t, ht, hc⟩ := consumeTag_sound htag
    refine ⟨t, wt, fn, st₁, ht, hc, ?_⟩
    split at h
    · rename_i hnone
      obtain ⟨st₂, hs, he⟩ := Option.map_eq_some_iff.1 h
      cases he
      refine .inr ⟨?_, rfl, hs⟩
      rintro ⟨i, hi, -⟩
      rw [nums.fieldWithNumber_eq_some.2 hi] at hnone
      cases hnone
    · rename_i i hi
      rw [nums.fieldWithNumber_eq_some] at hi
      split at h
      · rename_i hne
        obtain ⟨st₂, hs, he⟩ := Option.map_eq_some_iff.1 h
        cases he
        refine .inr ⟨?_, rfl, hs⟩
        rintro ⟨j, hj, hw⟩
        rw [nums.sorted.injective (hj.trans hi.symm)] at hw
        exact hne hw
      · rename_i heq
        split at h
        · cases h
        · rename_i v st₂ hcons
          cases h
          exact .inl ⟨i, v, hi, not_not.1 heq, hcons, rfl⟩

theorem parseStep_of_field {m : (i : Fin nums.numFields) → M i} {st st₁ st₂ : ParsingState} {i : Fin nums.numFields}
    {v : M i} (htag : consumeIntoWireTypeAndFieldNumber st = some (wireType i, nums.fieldNumber i, st₁))
    (hcons : consume i (m i) st₁ = some (v, st₂)) :
    parseStep wireType consume m st = some (Function.update m i v, st₂) := by
  rw [parseStep, htag]
  simp only [nums.fieldWithNumber_eq_some.2 rfl, ne_eq, not_true, if_false, hcons]

theorem parseStep_of_skip {m : (i : Fin nums.numFields) → M i} {st st₁ st₂ : ParsingState} {wt : WireType} {fn : Nat}
    (htag : consumeIntoWireTypeAndFieldNumber st = some (wt, fn, st₁)) (hn : ¬ Taken nums wireType wt fn)
    (hskip : skipRecord wt fn st₁ = some st₂) : parseStep wireType consume m st = some (m, st₂) := by
  rw [parseStep, htag]
  simp only
  cases hi : nums.fieldWithNumber fn with
  | none => simp [hskip]
  | some i =>
    rw [nums.fieldWithNumber_eq_some] at hi
    have hne : wireType i ≠ wt := fun hw => hn ⟨i, hi, hw⟩
    simp [hne, hskip]

theorem parseStep_nil {m : (i : Fin nums.numFields) → M i} {st : ParsingState} (h : st.parsingDone = true) :
    parseStep wireType consume m st = none := by
  have hrem : st.remaining = [] := List.isEmpty_iff.1 h
  cases hs : parseStep wireType consume m st with
  | none => rfl
  | some r =>
    obtain ⟨m', st'⟩ := r
    obtain ⟨t, wt, fn, st₁, ht, hc, -⟩ := parseStep_cases hs
    have := ht.length_pos
    have := hc.length_eq
    rw [hrem, List.length_nil] at this
    omega

theorem turns_of_parseLoop : ∀ (fuel : Nat) (m m' : (i : Fin nums.numFields) → M i) (st st' : ParsingState),
    parseLoop wireType consume fuel m st = some (m', st') →
      Turns wireType consume (m, st) (m', st') ∧ st'.parsingDone = true
  | 0, m, m', st, st', h => by
    rw [parseLoop] at h
    split at h
    · cases h
      exact ⟨.refl, by assumption⟩
    · cases h
  | fuel + 1, m, m', st, st', h => by
    rw [parseLoop] at h
    split at h
    · cases h
      exact ⟨.refl, by assumption⟩
    · split at h
      · cases h
      · rename_i m₁ st₁ hs
        obtain ⟨hr, hd⟩ := turns_of_parseLoop fuel m₁ m' st₁ st' h
        exact ⟨hr.head hs, hd⟩

/-- The loop does every turn there is, as soon as each turn shortens what is left. -/
theorem parseLoop_of_turns {m' : (i : Fin nums.numFields) → M i} {st' : ParsingState} (hd : st'.parsingDone = true)
    (hstep : ∀ m st m' st', parseStep wireType consume m st = some (m', st') →
      st'.remaining.length < st.remaining.length) :
    ∀ (fuel : Nat) (m : (i : Fin nums.numFields) → M i) (st : ParsingState),
      Turns wireType consume (m, st) (m', st') → st.remaining.length ≤ fuel →
        parseLoop wireType consume fuel m st = some (m', st')
  | fuel, m, st, hr, hf => by
    rcases Relation.ReflTransGen.cases_head hr with heq | ⟨⟨m₁, st₁⟩, hs, hr'⟩
    · cases heq
      cases fuel <;> simp [parseLoop, hd]
    · simp only at hs
      have hlt := hstep _ _ _ _ hs
      have hnd : ¬ st.parsingDone = true := fun hdone => by
        have hlen : st.remaining.length = 0 := by rw [List.isEmpty_iff.1 hdone]; rfl
        omega
      cases fuel with
      | zero => omega
      | succ fuel =>
        rw [parseLoop, if_neg hnd, hs]
        exact parseLoop_of_turns hd hstep fuel m₁ st₁ hr' (by omega)

end Turns

theorem skipRecord_sound {wt : WireType} {fn : Nat} {st st' : ParsingState} (h : skipRecord wt fn st = some st') :
    ∃ p, SkippedPayload wt fn p ∧ st.Consumes p st' := by
  unfold skipRecord at h
  split at h
  · rename_i hg
    obtain ⟨p, hp, hc⟩ := skipGroup_sound h
    exact ⟨p, .inl ⟨hg, hp⟩, hc⟩
  · obtain ⟨p, hp, hc⟩ := skipField_sound h
    exact ⟨p, .inr hp, hc⟩

theorem skipRecord_complete {wt : WireType} {fn : Nat} {st : ParsingState} {p rest : Bytes}
    (hp : SkippedPayload wt fn p) (hrem : st.remaining = p ++ rest) :
    ∃ st', skipRecord wt fn st = some st' ∧ st.Consumes p st' := by
  unfold skipRecord
  rcases hp with ⟨rfl, hg⟩ | hp
  · rw [if_pos rfl]
    exact skipGroup_complete hg hrem
  · have hne : wt ≠ .kStartGroup := fun h => not_isPayload_of_group (.inl h) p hp
    rw [if_neg hne]
    exact skipField_complete hp hrem

/-! ## Soundness -/

/-- What `ConsumeIntoMember` of a field may do: consume a payload, and keep the CRCs right. -/
def FieldType.Sound (t : FieldType) : Prop :=
  ∀ v st v' st', t.consumeIntoMember v st = some (v', st') →
    ∃ p, t.Payload p ∧ st.Consumes p st' ∧ (t.Holds .crcsOk v → t.Holds .crcsOk v')

/-- The turns of `Parse` on a message of this type. -/
def MessageType.Turns (T : MessageType) : T.Value × ParsingState → T.Value × ParsingState → Prop :=
  Tink.Turns (fun i => (T.field i).wireType) (fun i => (T.field i).consumeIntoMember)

theorem parseStep_sound {T : MessageType} (hT : ∀ i, (T.field i).Sound) {m m' : T.Value} {st st' : ParsingState}
    (h : parseStep (fun i => (T.field i).wireType) (fun i => (T.field i).consumeIntoMember) m st = some (m', st')) :
    ∃ t p, 0 < t.length ∧ (∀ r, ValidRecords T r → ValidRecords T (t ++ (p ++ r))) ∧ st.Consumes (t ++ p) st' ∧
      (T.Holds .crcsOk m → T.Holds .crcsOk m') := by
  obtain ⟨t, wt, fn, st₁, ht, hc, hcase⟩ := parseStep_cases h
  rcases hcase with ⟨i, v, hn, hw, hcons, rfl⟩ | ⟨hn, rfl, hs⟩
  · obtain ⟨p, hp, hc₂, hok⟩ := hT i _ _ _ _ hcons
    exact ⟨t, p, ht.length_pos, fun r hr => validRecords_of_payload ht hn hw hp hr, hc.trans hc₂,
      fun hm => MessageType.holds_update hm (hok (hm i))⟩
  · obtain ⟨p, hp, hc₂⟩ := skipRecord_sound hs
    exact ⟨t, p, ht.length_pos, fun r hr => validRecords_of_skipped ht hn hp hr, hc.trans hc₂, id⟩

/-- Turns read valid records. -/
theorem turns_sound {T : MessageType} (hT : ∀ i, (T.field i).Sound) {a b : T.Value × ParsingState} (h : T.Turns a b) :
    ∃ w, ValidRecords T w ∧ a.2.Consumes w b.2 ∧ (T.Holds .crcsOk a.1 → T.Holds .crcsOk b.1) := by
  induction h using Relation.ReflTransGen.head_induction_on with
  | refl => exact ⟨[], .nil, .refl _, id⟩
  | head hs _ ih =>
    obtain ⟨w, hw, hc, hok⟩ := ih
    obtain ⟨t, p, -, hval, hc₁, hok₁⟩ := parseStep_sound hT hs
    exact ⟨t ++ (p ++ w), hval w hw, by simpa using hc₁.trans hc, fun hm => hok (hok₁ hm)⟩

theorem consumeSubmessage_sound {T : MessageType} (hT : ∀ i, (T.field i).Sound) {msg msg' : T.Value}
    {st st' : ParsingState} (h : consumeSubmessage (fun i => (T.field i).wireType)
      (fun i => (T.field i).consumeIntoMember) msg st = some (msg', st')) :
    ∃ p, (∃ body, IsDelimited p body ∧ ValidRecords T body) ∧ st.Consumes p st' ∧
      (T.Holds .crcsOk msg → T.Holds .crcsOk msg') := by
  unfold consumeSubmessage at h
  split at h
  · cases h
  · rename_i n st₁ hs
    split at h
    · cases h
    · rename_i hn
      obtain ⟨len, hlen, hc, -⟩ := consumeVarintForSize_delimited hs hn
      simp only at h
      split at h
      · cases h
      · rename_i msg₁ sub hloop
        obtain ⟨hturns, hdone⟩ := turns_of_parseLoop _ _ _ _ _ hloop
        rw [if_pos hdone] at h
        cases h
        obtain ⟨w, hw, hcw, hok⟩ := turns_sound hT hturns
        -- the whole split-off state was read
        have hbody : st₁.remaining.take n = w := by
          have := hcw.remaining
          simp only [ParsingState.splitOffSubmessageState, List.isEmpty_iff.1 hdone, List.append_nil] at this
          exact this
        refine ⟨len ++ st₁.remaining.take n, ⟨_, ⟨len, rfl, hlen⟩, hbody ▸ hw⟩, hc.trans ?_, hok⟩
        exact ParsingState.Consumes.rejoin (hbody ▸ hcw)

theorem FieldType.holds_cleared (t : FieldType) : t.Holds .crcsOk t.cleared := by
  induction t with
  | uint32 => trivial
  | uint64 => trivial
  | bytes => exact fun _ _ => trivial
  | enum => exact fun _ _ => trivial
  | secretData o =>
    intro s hs
    cases o <;> cases hs
    · exact SecretData.crcOk_empty
    · exact SecretData.crcOk_empty
  | message o hc nums field ih =>
    intro msg hmsg
    refine ⟨trivial, ?_⟩
    cases o <;> cases hmsg
    · exact ih
    · exact ih
  | repeatedMessage =>
    intro msg hmsg
    cases hmsg
  | repeatedSecretData =>
    intro s hs
    cases hs

theorem consumeSecret_sound {st st' : ParsingState} {s : SecretData} (h : consumeSecret st = some (s, st')) :
    ∃ p, IsDelimited p s.bytes ∧ st.Consumes p st' ∧ s.CrcOk := by
  unfold consumeSecret at h
  split at h
  · cases h
  · rename_i n st₁ hs
    split at h
    · cases h
    · rename_i hn
      obtain ⟨len, hlen, hc, -⟩ := consumeVarintForSize_delimited hs hn
      simp only [ParsingState.advanceAndGetCrc_eq, Option.some.injEq, Prod.mk.injEq] at h
      obtain ⟨rfl, rfl⟩ := h
      exact ⟨len ++ st₁.remaining.take n, ⟨len, rfl, hlen⟩,
        hc.trans (ParsingState.consumes_advance (by omega)), SecretData.crcOk_ofCrc_compute _⟩

theorem consumeVarintIntoUint32_sound {st st' : ParsingState} {v : Nat}
    (h : consumeVarintIntoUint32 st = some (v, st')) : ∃ p, IsPayload .kVarint p ∧ st.Consumes p st' := by
  unfold consumeVarintIntoUint32 at h
  split at h
  · cases h
  · rename_i v₁ st₁ hv
    cases h
    obtain ⟨bs, hbs, hlen, hc, -⟩ := consumeVarintIntoUint64_sound hv
    exact ⟨bs, ⟨hbs, hlen⟩, hc⟩

/-- **Every field consumes a payload of its type.** -/
theorem consumeIntoMember_sound (t : FieldType) : t.Sound := by
  induction t with
  | uint32 o =>
    intro v st v' st' h
    unfold FieldType.consumeIntoMember at h
    split at h
    · cases h
    · rename_i x st₁ hx
      cases h
      obtain ⟨p, hp, hc⟩ := consumeVarintIntoUint32_sound hx
      exact ⟨p, hp, hc, id⟩
  | uint64 o =>
    intro v st v' st' h
    unfold FieldType.consumeIntoMember at h
    split at h
    · cases h
    · rename_i x st₁ hx
      cases h
      obtain ⟨bs, hbs, hlen, hc, -⟩ := consumeVarintIntoUint64_sound hx
      exact ⟨bs, ⟨hbs, hlen⟩, hc, id⟩
  | enum isValid d o hcheck =>
    intro v st v' st' h
    unfold FieldType.consumeIntoMember at h
    split at h
    · cases h
    · rename_i x st₁ hx
      obtain ⟨p, hp, hc⟩ := consumeVarintIntoUint32_sound hx
      split at h
      · cases h
        exact ⟨p, hp, hc, fun _ _ _ => trivial⟩
      · cases h
        exact ⟨p, hp, hc, id⟩
  | bytes o =>
    intro v st v' st' h
    unfold FieldType.consumeIntoMember at h
    split at h
    · cases h
    · rename_i body st₁ hb
      cases h
      obtain ⟨p, hp, hc⟩ := consumeBytesReturnStringView_sound hb
      exact ⟨p, ⟨body, hp⟩, hc, fun _ _ _ => trivial⟩
  | secretData o =>
    intro v st v' st' h
    unfold FieldType.consumeIntoMember at h
    split at h
    · cases h
    · rename_i s st₁ hs
      cases h
      obtain ⟨p, hp, hc, hok⟩ := consumeSecret_sound hs
      refine ⟨p, ⟨_, hp⟩, hc, fun _ => ?_⟩
      rintro s' hs'
      cases hs'
      exact hok
  | message o hcheck nums field ih =>
    intro v st v' st' h
    unfold FieldType.consumeIntoMember at h
    simp only at h
    split at h
    · cases h
    · rename_i msg st₁ hs
      cases h
      obtain ⟨p, hp, hc, hok⟩ := consumeSubmessage_sound (T := ⟨nums, field⟩) ih hs
      refine ⟨p, hp, hc, fun hv => ?_⟩
      rintro msg' hmsg'
      cases hmsg'
      refine ⟨trivial, hok ?_⟩
      -- the message to fill is the one held, or a cleared one
      unfold Slot.value
      cases hval : Slot.value? v with
      | none => exact fun i => (field i).holds_cleared
      | some msg₀ => exact (hv msg₀ hval).2
  | repeatedMessage nums field ih =>
    intro v st v' st' h
    unfold FieldType.consumeIntoMember at h
    split at h
    · cases h
    · rename_i msg st₁ hs
      cases h
      obtain ⟨p, hp, hc, hok⟩ := consumeSubmessage_sound (T := ⟨nums, field⟩) ih hs
      refine ⟨p, hp, hc, fun hv msg' hmsg' => ?_⟩
      rcases List.mem_append.1 hmsg' with hold | hnew
      · exact hv msg' hold
      · rw [List.mem_singleton.1 hnew]
        exact ⟨trivial, hok (fun i => (field i).holds_cleared)⟩
  | repeatedSecretData =>
    intro v st v' st' h
    unfold FieldType.consumeIntoMember at h
    split at h
    · cases h
    · rename_i s st₁ hs
      cases h
      obtain ⟨p, hp, hc, hok⟩ := consumeSecret_sound hs
      refine ⟨p, ⟨_, hp⟩, hc, fun hv s' hs' => ?_⟩
      rcases List.mem_append.1 hs' with hold | hnew
      · exact hv s' hold
      · rw [List.mem_singleton.1 hnew]
        exact hok

theorem parseStep_shortens (T : MessageType) {m m' : T.Value} {st st' : ParsingState}
    (h : parseStep (fun i => (T.field i).wireType) (fun i => (T.field i).consumeIntoMember) m st = some (m', st')) :
    st'.remaining.length < st.remaining.length := by
  obtain ⟨t, p, hpos, -, hc, -⟩ := parseStep_sound (fun i => consumeIntoMember_sound (T.field i)) h
  have := hc.length_eq
  rw [List.length_append] at this
  omega

/-- **`Parse` is its turns**, and always has enough of them. -/
theorem parse_eq_some_iff (T : MessageType) {m m' : T.Value} {st st' : ParsingState} :
    T.parse m st = some (m', st') ↔ T.Turns (m, st) (m', st') ∧ st'.parsingDone = true := by
  constructor
  · exact turns_of_parseLoop _ _ _ _ _
  · rintro ⟨hr, hd⟩
    exact parseLoop_of_turns hd (fun _ _ _ _ => parseStep_shortens T) _ _ _ hr (le_refl _)

/-! ## Completeness -/

/-- What `ConsumeIntoMember` of a field must accept. -/
def FieldType.Complete (t : FieldType) : Prop :=
  ∀ v st p rest, t.Payload p → st.remaining = p ++ rest →
    ∃ v' st', t.consumeIntoMember v st = some (v', st') ∧ st.Consumes p st'

theorem parseStep_complete {T : MessageType} (hT : ∀ i, (T.field i).Complete) {t p rest : Bytes} {wt : WireType}
    {fn : Nat} (m : T.Value) {st : ParsingState} (ht : IsTag t wt fn)
    (hp : (∃ i, T.nums.fieldNumber i = fn ∧ (T.field i).wireType = wt ∧ (T.field i).Payload p) ∨
      (¬ Taken T.nums (fun i => (T.field i).wireType) wt fn ∧ SkippedPayload wt fn p))
    (hrem : st.remaining = t ++ (p ++ rest)) :
    ∃ m' st', parseStep (fun i => (T.field i).wireType) (fun i => (T.field i).consumeIntoMember) m st =
      some (m', st') ∧ st.Consumes (t ++ p) st' := by
  obtain ⟨st₁, htag, hc₁⟩ := consumeTag_complete ht hrem
  have hrem₁ := hc₁.remaining_eq hrem
  rcases hp with ⟨i, rfl, rfl, hp⟩ | ⟨hn, hp⟩
  · obtain ⟨v, st₂, hcons, hc₂⟩ := hT i (m i) st₁ p rest hp hrem₁
    exact ⟨_, st₂, parseStep_of_field htag hcons, hc₁.trans hc₂⟩
  · obtain ⟨st₂, hskip, hc₂⟩ := skipRecord_complete hp hrem₁
    exact ⟨m, st₂, parseStep_of_skip htag hn hskip, hc₁.trans hc₂⟩

/-- Valid records are read by turns, whatever follows them. -/
theorem turns_complete {T : MessageType} {w : Bytes} (h : ValidRecords T w) :
    (∀ i, (T.field i).Complete) → ∀ (m : T.Value) (st : ParsingState) (rest : Bytes), st.remaining = w ++ rest →
      ∃ m' st', T.Turns (m, st) (m', st') ∧ st.Consumes w st' := by
  -- one record, and the turns on the records behind it
  have hcons : ∀ {T : MessageType} {t p r : Bytes} {wt : WireType} {fn : Nat}, (∀ i, (T.field i).Complete) →
      IsTag t wt fn →
      ((∃ i, T.nums.fieldNumber i = fn ∧ (T.field i).wireType = wt ∧ (T.field i).Payload p) ∨
        (¬ Taken T.nums (fun i => (T.field i).wireType) wt fn ∧ SkippedPayload wt fn p)) →
      (∀ (m : T.Value) (st : ParsingState) (rest : Bytes), st.remaining = r ++ rest →
        ∃ m' st', T.Turns (m, st) (m', st') ∧ st.Consumes r st') →
      ∀ (m : T.Value) (st : ParsingState) (rest : Bytes), st.remaining = t ++ (p ++ r) ++ rest →
        ∃ m' st', T.Turns (m, st) (m', st') ∧ st.Consumes (t ++ (p ++ r)) st' := by
    intro T t p r wt fn hT ht hp ih m st rest hrem
    have hrem₀ : st.remaining = t ++ (p ++ (r ++ rest)) := by rw [hrem]; simp
    obtain ⟨m₁, st₁, hs, hc⟩ := parseStep_complete hT m ht hp hrem₀
    obtain ⟨m', st', hr, hc'⟩ := ih m₁ st₁ rest (hc.remaining_eq (by rw [hrem₀]; simp))
    exact ⟨m', st', hr.head hs, by simpa using hc.trans hc'⟩
  induction h with
  | nil => exact fun _ m st _ _ => ⟨m, st, .refl, .refl st⟩
  | field ht hp hn _ ih => exact fun hT => hcons hT ht (payload_or_skipped hp hn) (ih hT)
  | submessage ht hhit hd hb _ _ ih =>
    intro hT
    obtain ⟨rfl, i, hi, hS⟩ := hhit
    refine hcons hT ht (.inl ⟨i, hi, FieldType.wireType_of_submessage hS, ?_⟩) (ih hT)
    unfold FieldType.Payload
    rw [hS]
    exact ⟨_, hd, hb⟩
  | group ht hg _ ih =>
    intro hT
    refine hcons hT ht (.inr ⟨?_, .inl ⟨rfl, hg⟩⟩) (ih hT)
    rintro ⟨i, -, hw⟩
    exact (FieldType.wireType_ne_group _) hw

/-- A submessage is read when the turns on its own bytes read all of them. -/
theorem consumeSubmessage_of_turns {T : MessageType} {Q : T.Value → Prop} (msg : T.Value) {st : ParsingState}
    {p body rest : Bytes} (hd : IsDelimited p body) (hrem : st.remaining = p ++ rest)
    (hturns : ∀ sub : ParsingState, sub.remaining = body ++ [] →
      ∃ msg' sub', T.Turns (msg, sub) (msg', sub') ∧ sub.Consumes body sub' ∧ Q msg') :
    ∃ msg' st', consumeSubmessage (fun i => (T.field i).wireType) (fun i => (T.field i).consumeIntoMember) msg st =
      some (msg', st') ∧ st.Consumes p st' ∧ Q msg' := by
  obtain ⟨len, rfl, hlen⟩ := hd
  obtain ⟨st₁, hs, hc, hrem₁⟩ := consumeVarintForSize_of_isLength hlen (hrem.trans (List.append_assoc ..))
  have htake : st₁.remaining.take body.length = body := by rw [hrem₁, List.take_left]
  have hle : ¬ body.length > st₁.remaining.length := by rw [hrem₁, List.length_append]; omega
  have hsub : (st₁.splitOffSubmessageState body.length).1.remaining = body ++ [] := by
    rw [List.append_nil]
    exact htake
  obtain ⟨msg', sub, hr, hcs, hQ⟩ := hturns _ hsub
  have hdone : sub.parsingDone = true := List.isEmpty_iff.2 (hcs.remaining_eq hsub)
  have hloop : parseLoop _ _ _ msg (st₁.splitOffSubmessageState body.length).1 = some (msg', sub) :=
    (parse_eq_some_iff T).2 ⟨hr, hdone⟩
  refine ⟨msg', (st₁.splitOffSubmessageState body.length).2.rejoin sub, ?_, ?_, hQ⟩
  · unfold consumeSubmessage
    rw [hs]
    simp only [if_neg hle]
    rw [hloop]
    exact if_pos hdone
  · have hjoin : st₁.Consumes (st₁.remaining.take body.length) _ :=
      ParsingState.Consumes.rejoin (by rw [htake]; exact hcs)
    rw [htake] at hjoin
    exact hc.trans hjoin

theorem consumeSubmessage_complete {T : MessageType} (hT : ∀ i, (T.field i).Complete) (msg : T.Value)
    {st : ParsingState} {p body rest : Bytes} (hd : IsDelimited p body) (hb : ValidRecords T body)
    (hrem : st.remaining = p ++ rest) :
    ∃ msg' st', consumeSubmessage (fun i => (T.field i).wireType) (fun i => (T.field i).consumeIntoMember) msg st =
      some (msg', st') ∧ st.Consumes p st' := by
  obtain ⟨msg', st', he, hc, -⟩ := consumeSubmessage_of_turns (Q := fun _ => True) msg hd hrem
    (fun sub hsub => by
      obtain ⟨msg', sub', hr, hc⟩ := turns_complete hb hT msg sub [] hsub
      exact ⟨msg', sub', hr, hc, trivial⟩)
  exact ⟨msg', st', he, hc⟩

theorem consumeSecret_complete {st : ParsingState} {p body rest : Bytes} (hd : IsDelimited p body)
    (hrem : st.remaining = p ++ rest) :
    ∃ st', consumeSecret st = some (SecretData.ofCrc body (AbslCrc.computeCrc32c body), st') ∧ st.Consumes p st' := by
  obtain ⟨len, rfl, hlen⟩ := hd
  obtain ⟨st₁, hs, hc, hrem₁⟩ := consumeVarintForSize_of_isLength hlen (hrem.trans (List.append_assoc ..))
  have hle : ¬ body.length > st₁.remaining.length := by rw [hrem₁, List.length_append]; omega
  refine ⟨st₁.advance body.length, ?_, hc.trans (ParsingState.consumes_advance_of_eq hrem₁).1⟩
  unfold consumeSecret
  rw [hs]
  simp only [if_neg hle, ParsingState.advanceAndGetCrc_eq]
  rw [hrem₁, List.take_left]

theorem consumeVarintIntoUint32_complete {st : ParsingState} {bs rest : Bytes} (hp : IsPayload .kVarint bs)
    (hrem : st.remaining = bs ++ rest) :
    ∃ st', consumeVarintIntoUint32 st = some (value bs % 2 ^ 64 % 2 ^ 32, st') ∧ st.Consumes bs st' := by
  obtain ⟨st', he, hc⟩ := consumeVarintIntoUint64_complete hp.1 hp.2 hrem
  exact ⟨st', by rw [consumeVarintIntoUint32, he], hc⟩

/-- **Every field takes every payload of its type.** -/
theorem consumeIntoMember_complete (t : FieldType) : t.Complete := by
  induction t with
  | uint32 o =>
    intro v st p rest hp hrem
    obtain ⟨st', he, hc⟩ := consumeVarintIntoUint32_complete hp hrem
    exact ⟨Slot.set (UInt32.ofNat (value p % 2 ^ 64 % 2 ^ 32)), st', by rw [FieldType.consumeIntoMember, he], hc⟩
  | uint64 o =>
    intro v st p rest hp hrem
    obtain ⟨st', he, hc⟩ := consumeVarintIntoUint64_complete hp.1 hp.2 hrem
    exact ⟨Slot.set (UInt64.ofNat (value p % 2 ^ 64)), st', by rw [FieldType.consumeIntoMember, he], hc⟩
  | enum isValid d o hcheck =>
    intro v st p rest hp hrem
    obtain ⟨st', he, hc⟩ := consumeVarintIntoUint32_complete hp hrem
    by_cases hvalid : isValid (UInt32.ofNat (value p % 2 ^ 64 % 2 ^ 32)) = true
    · exact ⟨Slot.set _, st', by rw [FieldType.consumeIntoMember, he]; exact if_pos hvalid, hc⟩
    · exact ⟨v, st', by rw [FieldType.consumeIntoMember, he]; exact if_neg hvalid, hc⟩
  | bytes o =>
    intro v st p rest hp hrem
    obtain ⟨body, hd⟩ := hp
    obtain ⟨st', he, hc⟩ := consumeBytesReturnStringView_complete hd hrem
    exact ⟨Slot.set body, st', by rw [FieldType.consumeIntoMember, he], hc⟩
  | secretData o =>
    intro v st p rest hp hrem
    obtain ⟨body, hd⟩ := hp
    obtain ⟨st', he, hc⟩ := consumeSecret_complete hd hrem
    exact ⟨Slot.set (.ofCrc body (AbslCrc.computeCrc32c body)), st', by rw [FieldType.consumeIntoMember, he], hc⟩
  | message o hcheck nums field ih =>
    intro v st p rest hp hrem
    obtain ⟨body, hd, hb⟩ := hp
    obtain ⟨msg', st', he, hc⟩ := consumeSubmessage_complete (T := ⟨nums, field⟩) ih
      (Slot.value v (fun i => (field i).cleared)) hd hb hrem
    exact ⟨Slot.set msg', st', by rw [FieldType.consumeIntoMember]; simp only [he], hc⟩
  | repeatedMessage nums field ih =>
    intro v st p rest hp hrem
    obtain ⟨body, hd, hb⟩ := hp
    obtain ⟨msg', st', he, hc⟩ := consumeSubmessage_complete (T := ⟨nums, field⟩) ih
      (fun i => (field i).cleared) hd hb hrem
    exact ⟨List.append v [msg'], st', by rw [FieldType.consumeIntoMember]; simp only [he], hc⟩
  | repeatedSecretData =>
    intro v st p rest hp hrem
    obtain ⟨body, hd⟩ := hp
    obtain ⟨st', he, hc⟩ := consumeSecret_complete hd hrem
    exact ⟨List.append v [.ofCrc body (AbslCrc.computeCrc32c body)], st', by rw [FieldType.consumeIntoMember, he], hc⟩

/-! ## The language of `ParseFromString` -/

theorem parseFromStringImpl_eq_some_iff (T : MessageType) {m m' : T.Value} {w : Bytes} {crc : Option UInt32}
    {st : ParsingState} : T.parseFromStringImpl m w crc = some (m', st) ↔
      T.Turns (T.clear m, ⟨w, crc⟩) (m', st) ∧ st.parsingDone = true := by
  rw [← parse_eq_some_iff, MessageType.parseFromStringImpl]
  constructor
  · intro h
    split at h
    · cases h
    · rename_i m₁ st₁ hp
      split at h
      · cases h
        exact hp
      · cases h
  · intro h
    rw [h]
    exact if_pos ((parse_eq_some_iff T).1 h).2

/-- A wire type no field has and nothing skips stops the turns. -/
theorem parseStep_rejects (T : MessageType) {m : T.Value} {st : ParsingState} {t r : Bytes} {wt : WireType} {fn : Nat}
    (ht : IsTag t wt fn) (hw : wt = .kEndGroup ∨ wt = .unassigned6 ∨ wt = .unassigned7)
    (hrem : st.remaining = t ++ r) :
    parseStep (fun i => (T.field i).wireType) (fun i => (T.field i).consumeIntoMember) m st = none := by
  obtain ⟨st₁, htag, -⟩ := consumeTag_complete ht hrem
  have hskip : skipRecord wt fn st₁ = none := by rcases hw with rfl | rfl | rfl <;> rfl
  unfold parseStep
  rw [htag]
  simp only
  cases T.nums.fieldWithNumber fn with
  | none => simp [hskip]
  | some i =>
    have hne : (T.field i).wireType ≠ wt := by
      rcases hw with rfl | rfl | rfl <;> cases T.field i <;> simp [FieldType.wireType]
    simp [hne, hskip]

/-- Turns that end where no turn is possible end in one place. -/
theorem turns_stuck_unique {T : MessageType} {a b c : T.Value × ParsingState} (hb : T.Turns a b) (hc : T.Turns a c)
    (hbs : parseStep (fun i => (T.field i).wireType) (fun i => (T.field i).consumeIntoMember) b.1 b.2 = none)
    (hcs : parseStep (fun i => (T.field i).wireType) (fun i => (T.field i).consumeIntoMember) c.1 c.2 = none) :
    b = c := by
  have hunique : Relator.RightUnique (fun a b : T.Value × ParsingState =>
      parseStep (fun i => (T.field i).wireType) (fun i => (T.field i).consumeIntoMember) a.1 a.2 = some b) :=
    fun a b c hb hc => Option.some.inj (hb.symm.trans hc)
  rcases Relation.ReflTransGen.total_of_right_unique hunique hb hc with hgo | hgo
  · rcases Relation.ReflTransGen.cases_head hgo with heq | ⟨d, hd, -⟩
    · exact heq
    · rw [hbs] at hd
      cases hd
  · rcases Relation.ReflTransGen.cases_head hgo with heq | ⟨d, hd, -⟩
    · exact heq.symm
    · rw [hcs] at hd
      cases hd

/-- Turns that end at the end of the input have read all of it. -/
theorem turns_read_all {T : MessageType} {m m' : T.Value} {w : Bytes} {crc : Option UInt32} {st : ParsingState}
    (h : T.Turns (m, ⟨w, crc⟩) (m', st)) (hd : st.parsingDone = true) :
    ValidRecords T w ∧ ParsingState.Consumes ⟨w, crc⟩ w st ∧ (T.Holds .crcsOk m → T.Holds .crcsOk m') := by
  obtain ⟨w', hw', hc, hok⟩ := turns_sound (fun i => consumeIntoMember_sound (T.field i)) h
  have hall : w = w' ++ st.remaining := hc.remaining
  rw [List.isEmpty_iff.1 hd, List.append_nil] at hall
  subst hall
  exact ⟨hw', hc, hok⟩

/-- **`ParseFromString` accepts exactly the valid record sequences**, whatever the message held; a record of wire type
6 or 7, or an end tag no start tag opened, rejects the input whatever follows it. -/
theorem parseFromString_accepts (T : MessageType) (m : T.Value) (w : Bytes) :
    ((T.parseFromString m w).isSome = true ↔ ValidRecords T w) ∧
    (∀ u t r wt fn, ValidRecords T u → IsTag t wt fn → wt = .kEndGroup ∨ wt = .unassigned6 ∨ wt = .unassigned7 →
      w = u ++ (t ++ r) → T.parseFromString m w = none) := by
  have hparse : ∀ m', T.parseFromString m w = some m' →
      ∃ st, T.Turns (T.clear m, ⟨w, none⟩) (m', st) ∧ st.parsingDone = true := by
    intro m' h
    obtain ⟨⟨m₁, st⟩, h', rfl⟩ := Option.map_eq_some_iff.1 h
    exact ⟨st, (parseFromStringImpl_eq_some_iff T).1 h'⟩
  refine ⟨⟨fun h => ?_, fun h => ?_⟩, fun u t r wt fn hu ht hw hwu => ?_⟩
  · obtain ⟨m', hm'⟩ := Option.isSome_iff_exists.1 h
    obtain ⟨st, hr, hd⟩ := hparse m' hm'
    exact (turns_read_all hr hd).1
  · obtain ⟨m', st, hr, hc⟩ := turns_complete h (fun i => consumeIntoMember_complete (T.field i)) (T.clear m)
      ⟨w, none⟩ [] (List.append_nil w).symm
    have hd : st.parsingDone = true := List.isEmpty_iff.2 (hc.remaining_eq (List.append_nil w).symm)
    rw [MessageType.parseFromString, (parseFromStringImpl_eq_some_iff T).2 ⟨hr, hd⟩]
    rfl
  · obtain ⟨m₁, st₁, hr₁, hc₁⟩ := turns_complete hu (fun i => consumeIntoMember_complete (T.field i)) (T.clear m)
      ⟨w, none⟩ (t ++ r) hwu
    have hrem₁ := hc₁.remaining_eq hwu
    cases hres : T.parseFromString m w with
    | none => rfl
    | some m' =>
      obtain ⟨st, hr, hd⟩ := hparse m' hres
      -- both runs are stuck, one at the end of the input and one before the bad tag
      cases turns_stuck_unique hr hr₁ (parseStep_nil hd) (parseStep_rejects T ht hw hrem₁)
      have hpos := ht.length_pos
      have hlen := congrArg List.length hrem₁
      rw [List.isEmpty_iff.1 hd, List.length_append, List.length_nil] at hlen
      omega

/-- **The CRC of a parse is the CRC of the input, and every secret data read carries its own**; a message whose secret
data carries right CRCs is serialized with the right CRC. -/
theorem crc32c_end_to_end (T : MessageType) :
    (∀ (m m' : T.Value) (w : Bytes) (c : UInt32), T.parseFromStringWithCrc m w = .ok (m', c) →
      c = AbslCrc.computeCrc32c w ∧ T.Holds .crcsOk m') ∧
    (∀ m : T.Value, T.Holds .crcsOk m → ∃ s, T.serializeAsSecretData m = some s ∧
      s.crc32c = AbslCrc.computeCrc32c s.bytes) := by
  constructor
  · intro m m' w c h
    unfold MessageType.parseFromStringWithCrc at h
    split at h
    · rename_i m₁ rest c₁ hp
      cases h
      obtain ⟨hr, hd⟩ := (parseFromStringImpl_eq_some_iff T).1 hp
      obtain ⟨-, hc, hok⟩ := turns_read_all hr hd
      have hcrc := hc.crc_some [] (by rw [AbslCrc.compute_nil])
      exact ⟨Option.some.inj hcrc, hok (fun i => (T.field i).holds_cleared)⟩
    · cases h
  · intro m hm
    obtain ⟨s, hs, -, hok⟩ := serializeAsSecretData_eq T m
    exact ⟨s, hs, hok hm⟩

end Tink
