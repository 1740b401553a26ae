import TinkCc.ProtoGrammar
/-!
# ProtoMerge — records act on a message one after the other

What `Message::Parse` makes of a message that already holds something, as at the start of a second record of a message
field.  A record is a tag and the payload of its wire type; whether the payload of a message field is itself well formed
is left open.

A record acts on the field that takes it and on nothing else (`parsed_record`), so the value of each field is made by its
own records, in their order (`parsed_records`).  How records of one field add up is then a question about
`ConsumeIntoMember` alone (`parse_merges`).
-/
namespace Tink

open Base128

/-! ## Records -/

/-- A record of the wire: wire types 6 and 7 and end tags have none. -/
structure Record where
  wireType    : WireType
  fieldNumber : Nat
  tag         : Bytes
  payload     : Bytes
  isTag       : IsTag tag wireType fieldNumber
  isPayload   : SkippedPayload wireType fieldNumber payload

def Record.bytes (r : Record) : Bytes := r.tag ++ r.payload

def recordBytes (rs : List Record) : Bytes := rs.flatMap Record.bytes

/-- The field that takes the record. -/
def Record.TakenBy (r : Record) (T : MessageType) (i : Fin T.nums.numFields) : Prop :=
  T.nums.fieldNumber i = r.fieldNumber ∧ (T.field i).wireType = r.wireType

instance (r : Record) (T : MessageType) (i : Fin T.nums.numFields) : Decidable (r.TakenBy T i) :=
  inferInstanceAs (Decidable (_ ∧ _))

/-- The payloads for a field, in their order. -/
def MessageType.payloads (T : MessageType) (i : Fin T.nums.numFields) (rs : List Record) : List Bytes :=
  (rs.filter (fun r => decide (r.TakenBy T i))).map Record.payload

theorem Record.append_ne_nil (r : Record) (w : Bytes) : r.bytes ++ w ≠ [] := by
  have hpos := r.isTag.length_pos
  intro h
  have hlen := congrArg List.length h
  simp only [Record.bytes, List.length_append, List.length_nil] at hlen
  omega

theorem Record.takenBy_unique {T : MessageType} {r : Record} {i j : Fin T.nums.numFields} (hi : r.TakenBy T i) (hj : r.TakenBy T j) :
    i = j := T.nums.sorted.injective (hi.1.trans hj.1.symm)

theorem Record.isPayload_of_takenBy {T : MessageType} {r : Record} {i : Fin T.nums.numFields} (hi : r.TakenBy T i) :
    IsPayload (T.field i).wireType r.payload := by
  rw [hi.2]
  rcases r.isPayload with ⟨hgroup, -⟩ | hp
  · exact absurd (hi.2.trans hgroup) (FieldType.wireType_ne_group _)
  · exact hp

section Payloads
variable {T : MessageType} {i : Fin T.nums.numFields}

theorem payloads_cons_of_taken {r : Record} (hi : r.TakenBy T i) (rs : List Record) :
    T.payloads i (r :: rs) = r.payload :: T.payloads i rs := by
  unfold MessageType.payloads
  rw [List.filter_cons_of_pos (by simpa using hi), List.map_cons]

theorem payloads_cons_of_not_taken {r : Record} (hi : ¬ r.TakenBy T i) (rs : List Record) :
    T.payloads i (r :: rs) = T.payloads i rs := by
  unfold MessageType.payloads
  rw [List.filter_cons_of_neg (by simpa using hi)]

theorem payloads_append (T : MessageType) (i : Fin T.nums.numFields) (rs ss : List Record) :
    T.payloads i (rs ++ ss) = T.payloads i rs ++ T.payloads i ss := by
  unfold MessageType.payloads
  rw [List.filter_append, List.map_append]

theorem payloads_eq_nil {rs : List Record} (h : ∀ r ∈ rs, ¬ r.TakenBy T i) : T.payloads i rs = [] := by
  unfold MessageType.payloads
  rw [List.filter_eq_nil_iff.2 (fun r hr => by simpa using h r hr), List.map_nil]

end Payloads

/-- Valid records are records. -/
theorem ValidRecords.records {T : MessageType} {w : Bytes} (h : ValidRecords T w) : ∃ rs, w = recordBytes rs := by
  induction h with
  | nil => exact ⟨[], rfl⟩
  | @field _ t p r wt fn ht hp _ _ ih =>
    obtain ⟨rs, rfl⟩ := ih
    exact ⟨⟨wt, fn, t, p, ht, .inr hp⟩ :: rs, (List.append_assoc ..).symm⟩
  | @submessage _ t p body r wt fn _ ht hhit hd _ _ _ ih =>
    obtain ⟨rs, rfl⟩ := ih
    obtain ⟨rfl, -⟩ := hhit
    exact ⟨⟨.kLengthDelimited, fn, t, p, ht, .inr ⟨body, hd⟩⟩ :: rs, (List.append_assoc ..).symm⟩
  | @group _ t g r fn ht hg _ ih =>
    obtain ⟨rs, rfl⟩ := ih
    exact ⟨⟨.kStartGroup, fn, t, g, ht, .inl ⟨rfl, hg⟩⟩ :: rs, (List.append_assoc ..).symm⟩

/-- The number that `ConsumeVarintIntoUint32` reads. -/
def varint32 (p : Bytes) : UInt32 := UInt32.ofNat (value p % 2 ^ 64 % 2 ^ 32)

theorem FieldType.isPayload {t : FieldType} {p : Bytes} (h : t.Payload p) : IsPayload t.wireType p := by
  unfold FieldType.Payload at h
  split at h
  · rename_i S hS
    obtain ⟨body, hd, -⟩ := h
    rw [FieldType.wireType_of_submessage hS]
    exact ⟨body, hd⟩
  · exact h

variable [AbslCrc]

/-- What `Parse` makes of the message `m`. -/
def MessageType.parsed (T : MessageType) (m : T.Value) (crc : Option UInt32) (w : Bytes) : Option T.Value :=
  (T.parse m ⟨w, crc⟩).map Prod.fst

/-- Secret data with the CRC of its bytes. -/
def secretOf (body : Bytes) : SecretData := .ofCrc body (AbslCrc.computeCrc32c body)

/-- What a field holds after a record with this payload. -/
def FieldType.Takes : (t : FieldType) → t.Value → Bytes → t.Value → Prop
  | .uint32 _, _, p, v' => v' = (Slot.set (varint32 p) : Slot _ _)
  | .uint64 _, _, p, v' => v' = (Slot.set (UInt64.ofNat (value p % 2 ^ 64)) : Slot _ _)
  | .bytes _, _, p, v' => ∃ body, IsDelimited p body ∧ v' = (Slot.set body : Slot _ _)
  | .secretData _, _, p, v' => ∃ body, IsDelimited p body ∧ v' = (Slot.set (secretOf body) : Slot _ _)
  | .enum isValid _ _ _, v, p, v' => v' = if isValid (varint32 p) then (Slot.set (varint32 p) : Slot _ _) else v
  | .message _ _ nums field, v, p, v' => ∃ body msg, IsDelimited p body ∧
      MessageType.parsed ⟨nums, field⟩ (Slot.value v (fun i => (field i).cleared)) none body = some msg ∧
      v' = (Slot.set msg : Slot _ _)
  | .repeatedMessage nums field, v, p, v' => ∃ body msg, IsDelimited p body ∧
      MessageType.parsed ⟨nums, field⟩ (fun i => (field i).cleared) none body = some msg ∧ v' = List.append v [msg]
  | .repeatedSecretData, v, p, v' => ∃ body, IsDelimited p body ∧ v' = List.append v [secretOf body]

/-- What it holds after records with these payloads. -/
def FieldType.TakesAll (t : FieldType) : t.Value → List Bytes → t.Value → Prop
  | v, [], v' => v' = v
  | v, p :: ps, v' => ∃ v₁, t.Takes v p v₁ ∧ t.TakesAll v₁ ps v'

/-! ## What `ConsumeIntoMember` reads -/

theorem isDelimited_unique {p body body' : Bytes} (h : IsDelimited p body) (h' : IsDelimited p body') : body = body' := by
  have hrem : ParsingState.remaining ⟨p, none⟩ = p ++ [] := (List.append_nil p).symm
  obtain ⟨st, he, -⟩ := consumeBytesReturnStringView_complete h hrem
  obtain ⟨st', he', -⟩ := consumeBytesReturnStringView_complete h' hrem
  rw [he] at he'
  cases he'
  rfl

/-- What follows a payload tells where it ends. -/
theorem isPayload_unique {wt : WireType} {p p' rest rest' : Bytes} (h : IsPayload wt p) (h' : IsPayload wt p')
    (heq : p ++ rest = p' ++ rest') : p = p' ∧ rest = rest' := by
  have hrem : ParsingState.remaining ⟨p ++ rest, none⟩ = p ++ rest := rfl
  obtain ⟨st, he, hc⟩ := skipField_complete h hrem
  obtain ⟨st', he', hc'⟩ := skipField_complete h' (hrem.trans heq)
  rw [he] at he'
  cases he'
  obtain rfl : rest = rest' := (hc.remaining_eq rfl).symm.trans (hc'.remaining_eq heq)
  exact ⟨List.append_cancel_right heq, rfl⟩

/-- A field makes of what it holds and a payload what `Takes` says, whatever follows and whatever CRC runs. -/
def FieldType.TakesRight (t : FieldType) : Prop :=
  ∀ {v v' : t.Value} {st : ParsingState} {p rest : Bytes}, IsPayload t.wireType p → st.remaining = p ++ rest →
    ((∃ st', t.consumeIntoMember v st = some (v', st') ∧ st'.remaining = rest) ↔ t.Takes v p v')

theorem FieldType.takes_iff {t : FieldType} {v v' v₀ : t.Value} {st : ParsingState} {p rest : Bytes}
    (hcons : ∃ st', t.consumeIntoMember v st = some (v₀, st') ∧ st.Consumes p st') (hrem : st.remaining = p ++ rest)
    (htakes : t.Takes v p v' ↔ v' = v₀) :
    (∃ st', t.consumeIntoMember v st = some (v', st') ∧ st'.remaining = rest) ↔ t.Takes v p v' := by
  obtain ⟨st₁, he, hc⟩ := hcons
  rw [htakes]
  constructor
  · rintro ⟨st', h, -⟩
    rw [he] at h
    cases h
    rfl
  · rintro rfl
    exact ⟨st₁, he, hc.remaining_eq hrem⟩

theorem parseStep_crc {T : MessageType} (hT : ∀ i, (T.field i).TakesRight) {m m' : T.Value} {st st' st₂ : ParsingState}
    (h : parseStep (fun i => (T.field i).wireType) (fun i => (T.field i).consumeIntoMember) m st = some (m', st'))
    (hrem : st₂.remaining = st.remaining) :
    ∃ st₂', parseStep (fun i => (T.field i).wireType) (fun i => (T.field i).consumeIntoMember) m st₂ = some (m', st₂') ∧
      st₂'.remaining = st'.remaining := by
  obtain ⟨t, wt, fn, st₁, ht, hc, hcase⟩ := parseStep_cases h
  obtain ⟨st₃, htag, hc₃⟩ := consumeTag_complete ht (hrem.trans hc.remaining)
  have hrem₃ : st₃.remaining = st₁.remaining := hc₃.remaining_eq (hrem.trans hc.remaining)
  rcases hcase with ⟨i, v, rfl, rfl, hcons, rfl⟩ | ⟨hn, rfl, hs⟩
  · obtain ⟨p, hp, hc₂, -⟩ := consumeIntoMember_sound (T.field i) _ _ _ _ hcons
    have htakes := (hT i (FieldType.isPayload hp) hc₂.remaining).1 ⟨st', hcons, rfl⟩
    obtain ⟨st₂', hcons', hrest⟩ := (hT i (FieldType.isPayload hp) (hrem₃.trans hc₂.remaining)).2 htakes
    exact ⟨st₂', parseStep_of_field htag hcons', hrest⟩
  · obtain ⟨p, hp, hc₂⟩ := skipRecord_sound hs
    obtain ⟨st₂', hs', hc'⟩ := skipRecord_complete hp (hrem₃.trans hc₂.remaining)
    exact ⟨st₂', parseStep_of_skip htag hn hs', hc'.remaining_eq (hrem₃.trans hc₂.remaining)⟩

theorem turns_crc {T : MessageType} (hT : ∀ i, (T.field i).TakesRight) {a b : T.Value × ParsingState} (h : T.Turns a b) :
    ∀ st₂ : ParsingState, st₂.remaining = a.2.remaining →
      ∃ st₂', T.Turns (a.1, st₂) (b.1, st₂') ∧ st₂'.remaining = b.2.remaining := by
  induction h using Relation.ReflTransGen.head_induction_on with
  | refl => exact fun st₂ hrem => ⟨st₂, .refl, hrem⟩
  | head hs _ ih =>
    intro st₂ hrem
    obtain ⟨st₃, hs', hrem'⟩ := parseStep_crc hT hs hrem
    obtain ⟨st₂', hturns, hrest⟩ := ih st₃ hrem'
    exact ⟨st₂', hturns.head hs', hrest⟩

theorem parsed_eq_some_iff (T : MessageType) {m m' : T.Value} {crc : Option UInt32} {w : Bytes} :
    T.parsed m crc w = some m' ↔ ∃ st', T.Turns (m, ⟨w, crc⟩) (m', st') ∧ st'.parsingDone = true := by
  unfold MessageType.parsed
  rw [Option.map_eq_some_iff]
  constructor
  · rintro ⟨⟨m₁, st'⟩, h, rfl⟩
    exact ⟨st', (parse_eq_some_iff T).1 h⟩
  · rintro ⟨st', h⟩
    exact ⟨(m', st'), (parse_eq_some_iff T).2 h, rfl⟩

/-- The CRC does not matter to the message. -/
theorem parsed_crc_of {T : MessageType} (hT : ∀ i, (T.field i).TakesRight) (m : T.Value) (crc : Option UInt32) (w : Bytes) :
    T.parsed m crc w = T.parsed m none w := by
  have himp : ∀ {m'} {c c' : Option UInt32}, T.parsed m c w = some m' → T.parsed m c' w = some m' := by
    intro m' c c' h
    obtain ⟨st', hturns, hdone⟩ := (parsed_eq_some_iff T).1 h
    obtain ⟨st₂', hturns', hrest⟩ := turns_crc hT hturns ⟨w, c'⟩ rfl
    refine (parsed_eq_some_iff T).2 ⟨st₂', hturns', ?_⟩
    unfold ParsingState.parsingDone at hdone ⊢
    rw [hrest]
    exact hdone
  exact Option.ext (fun m' => ⟨himp, himp⟩)

theorem consumeSubmessage_iff {T : MessageType} (hT : ∀ i, (T.field i).TakesRight) {msg msg' : T.Value}
    {st : ParsingState} {p body rest : Bytes} (hd : IsDelimited p body) (hrem : st.remaining = p ++ rest) :
    (∃ st', consumeSubmessage (fun i => (T.field i).wireType) (fun i => (T.field i).consumeIntoMember) msg st =
      some (msg', st') ∧ st'.remaining = rest) ↔ T.parsed msg none body = some msg' := by
  obtain ⟨len, rfl, hlen⟩ := hd
  obtain ⟨st₁, hs, -, hrem₁⟩ := consumeVarintForSize_of_isLength hlen (hrem.trans (List.append_assoc ..))
  have htake : st₁.remaining.take body.length = body := by rw [hrem₁, List.take_left]
  have hdrop : st₁.remaining.drop body.length = rest := by rw [hrem₁, List.drop_left]
  have hle : ¬ body.length > st₁.remaining.length := by rw [hrem₁, List.length_append]; omega
  have hparse : consumeSubmessage (fun i => (T.field i).wireType) (fun i => (T.field i).consumeIntoMember) msg st =
      (T.parse msg ⟨body, st₁.crc⟩).bind fun read =>
        if read.2.parsingDone then some (read.1, ParsingState.rejoin ⟨rest, st₁.crc⟩ read.2) else none := by
    unfold consumeSubmessage
    rw [hs]
    simp only [if_neg hle, ParsingState.splitOffSubmessageState, htake, hdrop]
    have hloop : parseLoop (fun i => (T.field i).wireType) (fun i => (T.field i).consumeIntoMember) body.length msg
        ⟨body, st₁.crc⟩ = T.parse msg ⟨body, st₁.crc⟩ := rfl
    rw [hloop]
    cases T.parse msg ⟨body, st₁.crc⟩ with
    | none => rfl
    | some x => rfl
  rw [← parsed_crc_of hT msg st₁.crc, hparse]
  unfold MessageType.parsed
  rw [Option.map_eq_some_iff]
  constructor
  · rintro ⟨st', h, -⟩
    obtain ⟨read, hread, h⟩ := Option.bind_eq_some_iff.1 h
    split at h
    · cases h
      exact ⟨_, hread, rfl⟩
    · cases h
  · rintro ⟨⟨msg₁, sub⟩, h, rfl⟩
    have hdone := ((parse_eq_some_iff T).1 h).2
    rw [h]
    exact ⟨_, if_pos hdone, rfl⟩

/-- As `takes_iff`, for a field that reads a submessage and puts it in its place with `put`. -/
theorem FieldType.takes_iff_submessage {t : FieldType} {T : MessageType} (hT : ∀ i, (T.field i).TakesRight)
    {msg : T.Value} {put : T.Value → t.Value} {v v' : t.Value} {st : ParsingState} {p rest : Bytes}
    (hcons : t.consumeIntoMember v st = (consumeSubmessage (fun i => (T.field i).wireType)
      (fun i => (T.field i).consumeIntoMember) msg st).map fun read => (put read.1, read.2))
    (hp : ∃ body, IsDelimited p body) (hrem : st.remaining = p ++ rest)
    (htakes : t.Takes v p v' ↔ ∃ body msg', IsDelimited p body ∧ T.parsed msg none body = some msg' ∧ v' = put msg') :
    (∃ st', t.consumeIntoMember v st = some (v', st') ∧ st'.remaining = rest) ↔ t.Takes v p v' := by
  obtain ⟨body, hd⟩ := hp
  rw [htakes, hcons]
  constructor
  · rintro ⟨st', h, hrest⟩
    obtain ⟨⟨msg', st₁⟩, hs, hput⟩ := Option.map_eq_some_iff.1 h
    cases hput
    exact ⟨body, msg', hd, (consumeSubmessage_iff hT hd hrem).1 ⟨_, hs, hrest⟩, rfl⟩
  · rintro ⟨body', msg', hd', hparsed, rfl⟩
    obtain rfl := isDelimited_unique hd hd'
    obtain ⟨st', hs, hrest⟩ := (consumeSubmessage_iff hT hd hrem).2 hparsed
    refine ⟨st', ?_, hrest⟩
    rw [hs]
    rfl

/-- **`ConsumeIntoMember`, class by class.** -/
theorem consumeIntoMember_takes (t : FieldType) : t.TakesRight := by
  induction t with
  | uint32 o =>
    intro v v' st p rest hp hrem
    obtain ⟨st', he, hc⟩ := consumeVarintIntoUint32_complete hp hrem
    exact FieldType.takes_iff ⟨st', by rw [FieldType.consumeIntoMember, he]; rfl, hc⟩ hrem Iff.rfl
  | uint64 o =>
    intro v v' st p rest hp hrem
    obtain ⟨st', he, hc⟩ := consumeVarintIntoUint64_complete hp.1 hp.2 hrem
    exact FieldType.takes_iff ⟨st', by rw [FieldType.consumeIntoMember, he], hc⟩ hrem Iff.rfl
  | enum isValid d o hcheck =>
    intro v v' st p rest hp hrem
    obtain ⟨st', he, hc⟩ := consumeVarintIntoUint32_complete hp hrem
    by_cases hvalid : isValid (varint32 p) = true
    · have hcons : (FieldType.enum isValid d o hcheck).consumeIntoMember v st = some ((Slot.set (varint32 p) : Slot _ _), st') := by
        rw [FieldType.consumeIntoMember, he]
        exact if_pos hvalid
      refine FieldType.takes_iff (t := .enum isValid d o hcheck) ⟨st', hcons, hc⟩ hrem ?_
      · exact Iff.of_eq (congrArg (v' = ·) (if_pos hvalid))
    · have hcons : (FieldType.enum isValid d o hcheck).consumeIntoMember v st = some (v, st') := by
        rw [FieldType.consumeIntoMember, he]
        exact if_neg hvalid
      refine FieldType.takes_iff (t := .enum isValid d o hcheck) ⟨st', hcons, hc⟩ hrem ?_
      · exact Iff.of_eq (congrArg (v' = ·) (if_neg hvalid))
  | bytes o =>
    intro v v' st p rest hp hrem
    obtain ⟨body, hd⟩ := hp
    obtain ⟨st', he, hc⟩ := consumeBytesReturnStringView_complete hd hrem
    have hcons : (FieldType.bytes o).consumeIntoMember v st = some ((Slot.set body : Slot _ _), st') := by
      rw [FieldType.consumeIntoMember, he]
      rfl
    refine FieldType.takes_iff (t := .bytes o) ⟨st', hcons, hc⟩ hrem ?_
    constructor
    · rintro ⟨body', hd', h⟩
      rw [isDelimited_unique hd hd']
      exact h
    · exact fun h => ⟨body, hd, h⟩
  | secretData o =>
    intro v v' st p rest hp hrem
    obtain ⟨body, hd⟩ := hp
    obtain ⟨st', he, hc⟩ := consumeSecret_complete hd hrem
    have hcons : (FieldType.secretData o).consumeIntoMember v st = some ((Slot.set (secretOf body) : Slot _ _), st') := by
      rw [FieldType.consumeIntoMember, he]
      rfl
    refine FieldType.takes_iff (t := .secretData o) ⟨st', hcons, hc⟩ hrem ?_
    constructor
    · rintro ⟨body', hd', h⟩
      rw [isDelimited_unique hd hd']
      exact h
    · exact fun h => ⟨body, hd, h⟩
  | message o hcheck nums field ih =>
    intro v v' st p rest hp hrem
    refine FieldType.takes_iff_submessage (t := .message o hcheck nums field) (T := ⟨nums, field⟩) ih ?_ hp hrem Iff.rfl
    unfold FieldType.consumeIntoMember
    dsimp only
    cases consumeSubmessage (fun i => (field i).wireType) (fun i => (field i).consumeIntoMember)
      (Slot.value v fun i => (field i).cleared) st <;> rfl
  | repeatedMessage nums field ih =>
    intro v v' st p rest hp hrem
    refine FieldType.takes_iff_submessage (t := .repeatedMessage nums field) (T := ⟨nums, field⟩) ih ?_ hp hrem Iff.rfl
    unfold FieldType.consumeIntoMember
    dsimp only
    cases consumeSubmessage (fun i => (field i).wireType) (fun i => (field i).consumeIntoMember)
      (fun i => (field i).cleared) st <;> rfl
  | repeatedSecretData =>
    intro v v' st p rest hp hrem
    obtain ⟨body, hd⟩ := hp
    obtain ⟨st', he, hc⟩ := consumeSecret_complete hd hrem
    have hcons : FieldType.repeatedSecretData.consumeIntoMember v st = some (List.append v [secretOf body], st') := by
      rw [FieldType.consumeIntoMember, he]
      rfl
    refine FieldType.takes_iff (t := .repeatedSecretData) ⟨st', hcons, hc⟩ hrem ?_
    constructor
    · rintro ⟨body', hd', h⟩
      rw [isDelimited_unique hd hd']
      exact h
    · exact fun h => ⟨body, hd, h⟩

theorem parsed_crc (T : MessageType) (m : T.Value) (crc : Option UInt32) (w : Bytes) :
    T.parsed m crc w = T.parsed m none w := parsed_crc_of (fun i => consumeIntoMember_takes (T.field i)) m crc w

/-! ## One record after the other -/

section Parsed
variable {T : MessageType} {m m' : T.Value} {w : Bytes}

theorem parsed_nil (T : MessageType) (m : T.Value) : T.parsed m none [] = some m :=
  (parsed_eq_some_iff T).2 ⟨⟨[], none⟩, .refl, rfl⟩

/-- The first turn, and the rest. -/
theorem parsed_turn (hw : w ≠ []) : T.parsed m none w = some m' ↔
    ∃ m₁ st₁, parseStep (fun i => (T.field i).wireType) (fun i => (T.field i).consumeIntoMember) m ⟨w, none⟩ =
      some (m₁, st₁) ∧ T.parsed m₁ none st₁.remaining = some m' := by
  rw [parsed_eq_some_iff]
  constructor
  · rintro ⟨st', hturns, hdone⟩
    rcases Relation.ReflTransGen.cases_head hturns with heq | ⟨⟨m₁, st₁⟩, hs, hturns'⟩
    · cases heq
      exact absurd (List.isEmpty_iff.1 hdone) hw
    · refine ⟨m₁, st₁, hs, ?_⟩
      rw [← parsed_crc T m₁ st₁.crc]
      exact (parsed_eq_some_iff T).2 ⟨st', hturns', hdone⟩
  · rintro ⟨m₁, st₁, hs, hparsed⟩
    rw [← parsed_crc T m₁ st₁.crc] at hparsed
    obtain ⟨st', hturns, hdone⟩ := (parsed_eq_some_iff T).1 hparsed
    exact ⟨st', hturns.head hs, hdone⟩

/-- **A record that no field takes changes nothing.** -/
theorem parsed_skipped {r : Record} (hn : ∀ i, ¬ r.TakenBy T i) : T.parsed m none (r.bytes ++ w) = T.parsed m none w := by
  have hrem : (⟨r.bytes ++ w, none⟩ : ParsingState).remaining = r.tag ++ (r.payload ++ w) := List.append_assoc ..
  obtain ⟨st₁, htag, hc₁⟩ := consumeTag_complete r.isTag hrem
  have hrem₁ := hc₁.remaining_eq hrem
  obtain ⟨st₂, hskip, hc₂⟩ := skipRecord_complete r.isPayload hrem₁
  have hstep : parseStep (fun i => (T.field i).wireType) (fun i => (T.field i).consumeIntoMember) m ⟨r.bytes ++ w, none⟩ =
      some (m, st₂) := parseStep_of_skip htag (fun ⟨i, hi⟩ => hn i hi) hskip
  refine Option.ext (fun m' => ?_)
  rw [parsed_turn (r.append_ne_nil w), hstep]
  constructor
  · rintro ⟨m₁, st, h, hparsed⟩
    cases h
    rw [hc₂.remaining_eq hrem₁] at hparsed
    exact hparsed
  · intro hparsed
    exact ⟨m, st₂, rfl, by rw [hc₂.remaining_eq hrem₁]; exact hparsed⟩

/-- **A record acts on the field that takes it.** -/
theorem parsed_record {r : Record} {i : Fin T.nums.numFields} (hi : r.TakenBy T i) :
    T.parsed m none (r.bytes ++ w) = some m' ↔
      ∃ v, (T.field i).Takes (m i) r.payload v ∧ T.parsed (Function.update m i v) none w = some m' := by
  have hp := Record.isPayload_of_takenBy hi
  have hrem : (⟨r.bytes ++ w, none⟩ : ParsingState).remaining = r.tag ++ (r.payload ++ w) := List.append_assoc ..
  obtain ⟨st₁, htag, hc₁⟩ := consumeTag_complete r.isTag hrem
  have hrem₁ := hc₁.remaining_eq hrem
  have htag' : consumeIntoWireTypeAndFieldNumber ⟨r.bytes ++ w, none⟩ =
      some ((T.field i).wireType, T.nums.fieldNumber i, st₁) := by rw [htag, hi.1, hi.2]
  rw [parsed_turn (r.append_ne_nil w)]
  constructor
  · rintro ⟨m₁, st, hs, hparsed⟩
    obtain ⟨t, wt, fn, st₃, ht, hc₃, hcase⟩ := parseStep_cases hs
    obtain ⟨st₄, htag₄, hc₄⟩ := consumeTag_complete ht hc₃.remaining
    rw [htag] at htag₄
    cases htag₄
    have hrem₃ : st₁.remaining = st₃.remaining := hc₄.remaining_eq hc₃.remaining
    rcases hcase with ⟨j, v, hj, hw, hcons, rfl⟩ | ⟨hn, -, -⟩
    · obtain rfl := Record.takenBy_unique hi ⟨hj, hw⟩
      obtain ⟨p, hp', hc, -⟩ := consumeIntoMember_sound (T.field i) _ _ _ _ hcons
      obtain ⟨rfl, hrest⟩ := isPayload_unique (FieldType.isPayload hp') hp
        (hc.remaining.symm.trans (hrem₃.symm.trans hrem₁))
      refine ⟨v, (consumeIntoMember_takes (T.field i) hp hc.remaining).1 ⟨st, hcons, rfl⟩, ?_⟩
      rw [← hrest]
      exact hparsed
    · exact absurd ⟨i, hi⟩ hn
  · rintro ⟨v, htakes, hparsed⟩
    obtain ⟨st₂, hcons, hrest⟩ := (consumeIntoMember_takes (T.field i) hp hrem₁).2 htakes
    exact ⟨_, st₂, parseStep_of_field htag' hcons, by rw [hrest]; exact hparsed⟩

end Parsed

/-! ## Each field by itself -/

section Records
variable {T : MessageType} {m m' : T.Value} {w : Bytes} {i : Fin T.nums.numFields}

/-- **Each field is made by its own records, in their order.** -/
theorem parsed_records (T : MessageType) (w : Bytes) (m' : T.Value) : ∀ (rs : List Record) (m : T.Value),
    T.parsed m none (recordBytes rs ++ w) = some m' ↔
      ∃ m₁ : T.Value, (∀ i, (T.field i).TakesAll (m i) (T.payloads i rs) (m₁ i)) ∧ T.parsed m₁ none w = some m'
  | [], m => by
    constructor
    · exact fun h => ⟨m, fun i => rfl, h⟩
    · rintro ⟨m₁, htakes, h⟩
      obtain rfl : m₁ = m := funext htakes
      exact h
  | r :: rs, m => by
    have hbytes : recordBytes (r :: rs) ++ w = r.bytes ++ (recordBytes rs ++ w) := by
      rw [recordBytes, List.flatMap_cons, List.append_assoc]
      rfl
    rw [hbytes]
    by_cases htaken : ∃ i, r.TakenBy T i
    · obtain ⟨i, hi⟩ := htaken
      have hother : ∀ j, j ≠ i → T.payloads j (r :: rs) = T.payloads j rs :=
        fun j hj => payloads_cons_of_not_taken (fun h => hj (Record.takenBy_unique h hi)) rs
      rw [parsed_record hi]
      constructor
      · rintro ⟨v, hv, h⟩
        obtain ⟨m₁, htakes, h⟩ := (parsed_records T w m' rs _).1 h
        refine ⟨m₁, fun j => ?_, h⟩
        have hj := htakes j
        by_cases hji : j = i
        · subst hji
          rw [Function.update_self] at hj
          rw [payloads_cons_of_taken hi]
          exact ⟨v, hv, hj⟩
        · rw [Function.update_of_ne hji] at hj
          rw [hother j hji]
          exact hj
      · rintro ⟨m₁, htakes, h⟩
        have hi' := htakes i
        rw [payloads_cons_of_taken hi] at hi'
        obtain ⟨v, hv, htakes'⟩ := hi'
        refine ⟨v, hv, (parsed_records T w m' rs _).2 ⟨m₁, fun j => ?_, h⟩⟩
        by_cases hji : j = i
        · subst hji
          rw [Function.update_self]
          exact htakes'
        · rw [Function.update_of_ne hji, ← hother j hji]
          exact htakes j
    · have hn : ∀ i, ¬ r.TakenBy T i := not_exists.1 htaken
      rw [parsed_skipped hn, parsed_records T w m' rs m]
      simp only [payloads_cons_of_not_taken (hn _)]

theorem parsed_recordBytes {rs : List Record} :
    T.parsed m none (recordBytes rs) = some m' ↔ ∀ i, (T.field i).TakesAll (m i) (T.payloads i rs) (m' i) := by
  rw [← List.append_nil (recordBytes rs), parsed_records]
  constructor
  · rintro ⟨m₁, htakes, h⟩
    rw [parsed_nil] at h
    cases h
    exact htakes
  · exact fun htakes => ⟨m', htakes, parsed_nil T m'⟩

theorem FieldType.takesAll_append {t : FieldType} : ∀ {ps qs : List Bytes} {v v' : t.Value},
    t.TakesAll v (ps ++ qs) v' ↔ ∃ v₁, t.TakesAll v ps v₁ ∧ t.TakesAll v₁ qs v'
  | [], qs, v, v' => by
    constructor
    · exact fun h => ⟨v, rfl, h⟩
    · rintro ⟨v₁, rfl, h⟩
      exact h
  | p :: ps, qs, v, v' => by
    constructor
    · rintro ⟨v₁, hp, h⟩
      obtain ⟨v₂, hps, hqs⟩ := takesAll_append.1 h
      exact ⟨v₂, ⟨v₁, hp, hps⟩, hqs⟩
    · rintro ⟨v₂, ⟨v₁, hp, hps⟩, hqs⟩
      exact ⟨v₁, hp, takesAll_append.2 ⟨v₂, hps, hqs⟩⟩

theorem validRecords_of_parsed {a : Bytes} (h : T.parsed m none a = some m') : ValidRecords T a := by
  obtain ⟨st', hturns, hdone⟩ := (parsed_eq_some_iff T).1 h
  exact (turns_read_all hturns hdone).1

/-- **`Parse` of valid records and what follows them is one after the other.** -/
theorem parsed_append {a b : Bytes} (ha : ValidRecords T a) :
    T.parsed m none (a ++ b) = some m' ↔ ∃ m₁, T.parsed m none a = some m₁ ∧ T.parsed m₁ none b = some m' := by
  obtain ⟨rs, rfl⟩ := ha.records
  simp only [parsed_records, parsed_recordBytes]

end Records

/-! ## The records of one field -/

/-- The last of the payloads is kept. -/
def LastOf {V : Type} (v : V) (ps : List Bytes) (v' : V) (keeps : Bytes → V → Prop) : Prop :=
  (ps = [] ∧ v' = v) ∨ ∃ p, ps.getLast? = some p ∧ keeps p v'

/-- What a field that held `v` holds after records with these payloads: the pieces of a message are parsed as if they
were one, repeated fields are appended to, other fields keep the last value. -/
def FieldType.Merged : (t : FieldType) → t.Value → List Bytes → t.Value → Prop
  | .uint32 _, v, ps, v' => LastOf v ps v' (fun p v' => v' = (Slot.set (varint32 p) : Slot _ _))
  | .uint64 _, v, ps, v' => LastOf v ps v' (fun p v' => v' = (Slot.set (UInt64.ofNat (value p % 2 ^ 64)) : Slot _ _))
  | .bytes _, v, ps, v' => LastOf v ps v' (fun p v' => ∃ body, IsDelimited p body ∧ v' = (Slot.set body : Slot _ _))
  | .secretData _, v, ps, v' =>
    LastOf v ps v' (fun p v' => ∃ body, IsDelimited p body ∧ v' = (Slot.set (secretOf body) : Slot _ _))
  | .enum isValid _ _ _, v, ps, v' =>
    LastOf v (ps.filter (fun p => isValid (varint32 p))) v' (fun p v' => v' = (Slot.set (varint32 p) : Slot _ _))
  | .message _ _ nums field, v, ps, v' => (ps = [] ∧ v' = v) ∨ ∃ bodies msg, List.Forall₂ IsDelimited ps bodies ∧
      (∀ body ∈ bodies, ValidRecords ⟨nums, field⟩ body) ∧
      MessageType.parsed ⟨nums, field⟩ (Slot.value v (fun i => (field i).cleared)) none bodies.flatten = some msg ∧
      v' = (Slot.set msg : Slot _ _)
  | .repeatedMessage nums field, v, ps, v' => ∃ bodies msgs, List.Forall₂ IsDelimited ps bodies ∧
      List.Forall₂ (fun body msg => MessageType.parsed ⟨nums, field⟩ (fun i => (field i).cleared) none body = some msg)
        bodies msgs ∧ v' = List.append v msgs
  | .repeatedSecretData, v, ps, v' => ∃ bodies, List.Forall₂ IsDelimited ps bodies ∧
      v' = List.append v (bodies.map secretOf)

section Fields
variable {t : FieldType} {v v' : t.Value}

theorem FieldType.takesAll_last {keeps : Bytes → t.Value → Prop} (hkeeps : ∀ {v p v'}, t.Takes v p v' → keeps p v') :
    ∀ {ps : List Bytes} {v : t.Value}, t.TakesAll v ps v' → LastOf v ps v' keeps
  | [], v, h => .inl ⟨rfl, h⟩
  | p :: ps, v, ⟨v₁, hp, h⟩ => by
    rcases takesAll_last hkeeps h with ⟨rfl, rfl⟩ | ⟨q, hq, hkept⟩
    · exact .inr ⟨p, rfl, hkeeps hp⟩
    · refine .inr ⟨q, ?_, hkept⟩
      rw [List.getLast?_cons, hq]
      rfl

/-- A rejected enum value leaves the field as it is. -/
theorem FieldType.takesAll_enum {isValid : UInt32 → Bool} {d : UInt32} {o : ProtoFieldOptions}
    {hcheck : d = 0 ∨ o ≠ .kImplicit} {v' : Slot o UInt32} : ∀ {ps : List Bytes} {v : Slot o UInt32},
    (FieldType.enum isValid d o hcheck).TakesAll v ps v' →
      LastOf v (ps.filter (fun p => isValid (varint32 p))) v' (fun p v' => v' = Slot.set (varint32 p))
  | [], v, h => .inl ⟨rfl, h⟩
  | p :: ps, v, ⟨v₁, hp, h⟩ => by
    have hrest := takesAll_enum h
    have hv₁ : v₁ = if isValid (varint32 p) then Slot.set (varint32 p) else v := hp
    by_cases hvalid : isValid (varint32 p) = true
    · rw [if_pos hvalid] at hv₁
      rw [List.filter_cons, if_pos hvalid]
      rcases hrest with ⟨hnil, rfl⟩ | ⟨q, hq, hkept⟩
      · rw [hnil]
        exact .inr ⟨p, rfl, hv₁⟩
      · refine .inr ⟨q, ?_, hkept⟩
        rw [List.getLast?_cons, hq]
        rfl
    · rw [if_neg hvalid] at hv₁
      rw [List.filter_cons, if_neg hvalid]
      rcases hrest with ⟨hnil, rfl⟩ | hlast
      · exact .inl ⟨hnil, hv₁⟩
      · exact .inr hlast

theorem FieldType.takesAll_message {o : ProtoFieldOptions} {hcheck : o ≠ .kImplicit} {nums : FieldNumbers}
    {field : Fin nums.numFields → FieldType} {v' : (FieldType.message o hcheck nums field).Value} :
    ∀ {ps : List Bytes} {v : (FieldType.message o hcheck nums field).Value},
      (FieldType.message o hcheck nums field).TakesAll v ps v' →
        (FieldType.message o hcheck nums field).Merged v ps v'
  | [], v, h => .inl ⟨rfl, h⟩
  | p :: ps, v, ⟨v₁, ⟨body, msg, hd, hparsed, hv₁⟩, h⟩ => by
    subst hv₁
    have hbody := validRecords_of_parsed hparsed
    rcases takesAll_message h with ⟨rfl, rfl⟩ | ⟨bodies, msg', hds, hvalid, hparsed', rfl⟩
    · exact .inr ⟨[body], msg, .cons hd .nil, by simpa using hbody, by simpa using hparsed, rfl⟩
    · refine .inr ⟨body :: bodies, msg', .cons hd hds, ?_, ?_, rfl⟩
      · rintro b (_ | ⟨_, hb⟩)
        · exact hbody
        · exact hvalid b hb
      · rw [List.flatten_cons, parsed_append hbody]
        exact ⟨msg, hparsed, hparsed'⟩

theorem FieldType.takesAll_repeatedMessage {nums : FieldNumbers} {field : Fin nums.numFields → FieldType}
    {v' : (FieldType.repeatedMessage nums field).Value} :
    ∀ {ps : List Bytes} {v : (FieldType.repeatedMessage nums field).Value},
      (FieldType.repeatedMessage nums field).TakesAll v ps v' → (FieldType.repeatedMessage nums field).Merged v ps v'
  | [], v, h => ⟨[], [], .nil, .nil, h.trans (List.append_nil v).symm⟩
  | p :: ps, v, ⟨v₁, ⟨body, msg, hd, hparsed, hv₁⟩, h⟩ => by
    subst hv₁
    obtain ⟨bodies, msgs, hds, hmsgs, rfl⟩ := takesAll_repeatedMessage h
    exact ⟨body :: bodies, msg :: msgs, .cons hd hds, .cons hparsed hmsgs, List.append_assoc ..⟩

theorem FieldType.takesAll_repeatedSecretData {v' : FieldType.repeatedSecretData.Value} :
    ∀ {ps : List Bytes} {v : FieldType.repeatedSecretData.Value},
      FieldType.repeatedSecretData.TakesAll v ps v' → FieldType.repeatedSecretData.Merged v ps v'
  | [], v, h => ⟨[], .nil, h.trans (List.append_nil v).symm⟩
  | p :: ps, v, ⟨v₁, ⟨body, hd, hv₁⟩, h⟩ => by
    subst hv₁
    obtain ⟨bodies, hds, rfl⟩ := takesAll_repeatedSecretData h
    exact ⟨body :: bodies, .cons hd hds, List.append_assoc ..⟩

/-- **How the records of one field add up.** -/
theorem FieldType.merged_of_takesAll {ps : List Bytes} (h : t.TakesAll v ps v') : t.Merged v ps v' := by
  cases t with
  | uint32 o => exact takesAll_last (fun h => h) h
  | uint64 o => exact takesAll_last (fun h => h) h
  | bytes o => exact takesAll_last (fun h => h) h
  | secretData o => exact takesAll_last (fun h => h) h
  | enum isValid d o hcheck => exact takesAll_enum h
  | message o hcheck nums field => exact takesAll_message h
  | repeatedMessage nums field => exact takesAll_repeatedMessage h
  | repeatedSecretData => exact takesAll_repeatedSecretData h

/-- **Two pieces of a message are one**, if the first is a message by itself. -/
theorem FieldType.takes_pieces {o : ProtoFieldOptions} {hcheck : o ≠ .kImplicit} {nums : FieldNumbers}
    {field : Fin nums.numFields → FieldType} (ht : t = .message o hcheck nums field) {pa pb pab a b : Bytes}
    (ha : IsDelimited pa a) (hb : IsDelimited pb b) (hab : IsDelimited pab (a ++ b)) :
    (∃ v₁, t.Takes v pa v₁ ∧ t.Takes v₁ pb v') ↔ ValidRecords ⟨nums, field⟩ a ∧ t.Takes v pab v' := by
  subst ht
  constructor
  · rintro ⟨_, ⟨a', msg, ha', hparsed, rfl⟩, ⟨b', msg', hb', hparsed', rfl⟩⟩
    obtain rfl := isDelimited_unique ha ha'
    obtain rfl := isDelimited_unique hb hb'
    have hvalid := validRecords_of_parsed hparsed
    exact ⟨hvalid, a ++ b, msg', hab, (parsed_append hvalid).2 ⟨msg, hparsed, hparsed'⟩, rfl⟩
  · rintro ⟨hvalid, ab, msg', hab', hparsed, rfl⟩
    obtain rfl := isDelimited_unique hab hab'
    obtain ⟨msg, hmsg, hparsed'⟩ := (parsed_append hvalid).1 hparsed
    exact ⟨_, ⟨a, msg, ha, hmsg, rfl⟩, ⟨b, msg', hb, hparsed', rfl⟩⟩

theorem FieldType.takesAll_pieces {o : ProtoFieldOptions} {hcheck : o ≠ .kImplicit} {nums : FieldNumbers}
    {field : Fin nums.numFields → FieldType} (ht : t = .message o hcheck nums field) {pa pb pab a b : Bytes}
    (ha : IsDelimited pa a) (hb : IsDelimited pb b) (hab : IsDelimited pab (a ++ b)) (ps : List Bytes) :
    t.TakesAll v (ps ++ [pa, pb]) v' ↔ ValidRecords ⟨nums, field⟩ a ∧ t.TakesAll v (ps ++ [pab]) v' := by
  rw [takesAll_append, takesAll_append]
  constructor
  · rintro ⟨v₁, hps, v₂, htakesA, v₃, htakesB, rfl⟩
    obtain ⟨hvalid, htakesAB⟩ := (takes_pieces ht ha hb hab).1 ⟨v₂, htakesA, htakesB⟩
    exact ⟨hvalid, v₁, hps, _, htakesAB, rfl⟩
  · rintro ⟨hvalid, v₁, hps, v₃, htakesAB, rfl⟩
    obtain ⟨v₂, htakesA, htakesB⟩ := (takes_pieces ht ha hb hab).2 ⟨hvalid, htakesAB⟩
    exact ⟨v₁, hps, v₂, htakesA, _, htakesB, rfl⟩

end Fields

/-! ## Merging -/

section Merging
variable {T : MessageType} {m m' : T.Value} {i : Fin T.nums.numFields}

/-- Records that are others for one field only. -/
theorem parsed_congr_field {rs rs' : List Record} {condition : Prop} {w : Bytes}
    (hother : ∀ j, j ≠ i → T.payloads j rs = T.payloads j rs')
    (hthis : ∀ v', (T.field i).TakesAll (m i) (T.payloads i rs) v' ↔
      condition ∧ (T.field i).TakesAll (m i) (T.payloads i rs') v') :
    T.parsed m none (recordBytes rs ++ w) = some m' ↔
      condition ∧ T.parsed m none (recordBytes rs' ++ w) = some m' := by
  rw [parsed_records, parsed_records]
  constructor
  · rintro ⟨m₁, hall, h⟩
    obtain ⟨hcondition, hthese⟩ := (hthis _).1 (hall i)
    refine ⟨hcondition, m₁, fun j => ?_, h⟩
    by_cases hj : j = i
    · subst hj
      exact hthese
    · rw [← hother j hj]
      exact hall j
  · rintro ⟨hcondition, m₁, hall, h⟩
    refine ⟨m₁, fun j => ?_, h⟩
    by_cases hj : j = i
    · subst hj
      exact (hthis _).2 ⟨hcondition, hall j⟩
    · rw [hother j hj]
      exact hall j

/-- Two pieces of a message field and the records between them. -/
theorem parsed_pieces {o : ProtoFieldOptions} {hcheck : o ≠ .kImplicit} {nums : FieldNumbers}
    {field : Fin nums.numFields → FieldType} (hi : T.field i = .message o hcheck nums field) {us ms : List Record}
    {ra rb rab : Record} {a b w : Bytes} (hra : ra.TakenBy T i) (hrb : rb.TakenBy T i) (hrab : rab.TakenBy T i)
    (ha : IsDelimited ra.payload a) (hb : IsDelimited rb.payload b) (hab : IsDelimited rab.payload (a ++ b))
    (hms : ∀ r ∈ ms, ¬ r.TakenBy T i) :
    T.parsed m none (recordBytes us ++ (ra.bytes ++ (recordBytes ms ++ (rb.bytes ++ w)))) = some m' ↔
      ValidRecords ⟨nums, field⟩ a ∧
        T.parsed m none (recordBytes us ++ (rab.bytes ++ (recordBytes ms ++ w))) = some m' := by
  have hsplit : recordBytes us ++ (ra.bytes ++ (recordBytes ms ++ (rb.bytes ++ w))) =
      recordBytes (us ++ ra :: (ms ++ [rb])) ++ w := by
    simp [recordBytes]
  have hmerged : recordBytes us ++ (rab.bytes ++ (recordBytes ms ++ w)) = recordBytes (us ++ rab :: ms) ++ w := by
    simp [recordBytes]
  rw [hsplit, hmerged]
  refine parsed_congr_field (i := i) (fun j hj => ?_) (fun v' => ?_)
  · -- the other fields have the same records
    have hn : ∀ {r : Record}, r.TakenBy T i → ¬ r.TakenBy T j := fun hr h => hj (Record.takenBy_unique h hr)
    rw [payloads_append, payloads_append, payloads_cons_of_not_taken (hn hra), payloads_cons_of_not_taken (hn hrab),
      payloads_append, payloads_cons_of_not_taken (hn hrb)]
    exact congrArg _ (List.append_nil _)
  · have hpieces : T.payloads i (us ++ ra :: (ms ++ [rb])) = T.payloads i us ++ [ra.payload, rb.payload] := by
      rw [payloads_append, payloads_cons_of_taken hra, payloads_append, payloads_eq_nil hms, payloads_cons_of_taken hrb]
      rfl
    have hwhole : T.payloads i (us ++ rab :: ms) = T.payloads i us ++ [rab.payload] := by
      rw [payloads_append, payloads_cons_of_taken hrab, payloads_eq_nil hms]
    rw [hpieces, hwhole]
    exact FieldType.takesAll_pieces hi ha hb hab _

theorem parsed_inserted {us : List Record} {r : Record} {w : Bytes} (hn : ∀ i, ¬ r.TakenBy T i) :
    T.parsed m none (recordBytes us ++ (r.bytes ++ w)) = T.parsed m none (recordBytes us ++ w) := by
  refine Option.ext (fun m' => ?_)
  rw [parsed_records, parsed_records]
  simp only [parsed_skipped hn]

end Merging

theorem parseFromString_eq_parsed (T : MessageType) (m : T.Value) (w : Bytes) :
    T.parseFromString m w = T.parsed (T.clear m) none w := by
  refine Option.ext (fun m' => ?_)
  rw [parsed_eq_some_iff]
  unfold MessageType.parseFromString
  rw [Option.map_eq_some_iff]
  constructor
  · rintro ⟨⟨m₁, st⟩, h, rfl⟩
    exact ⟨st, (parseFromStringImpl_eq_some_iff T).1 h⟩
  · rintro ⟨st, h⟩
    exact ⟨(m', st), (parseFromStringImpl_eq_some_iff T).2 h, rfl⟩

/-- **`Parse` merges**, into whatever the message holds: a message field given in two pieces, with records of other fields
between them, is parsed as if given in one, and is refused if the first piece is no message by itself; each field is what
its own records make of it in their order; a record that no field takes changes nothing, failures included.
`ParseFromString` is `Parse` of the cleared message. -/
theorem parse_merges (T : MessageType) (m : T.Value) (crc : Option UInt32) :
    (∀ i o hcheck nums field, T.field i = .message o hcheck nums field →
      ∀ (us ms : List Record) (ra rb rab : Record) (a b w : Bytes) (m' : T.Value),
        ra.TakenBy T i → rb.TakenBy T i → rab.TakenBy T i →
        IsDelimited ra.payload a → IsDelimited rb.payload b → IsDelimited rab.payload (a ++ b) →
        (∀ r ∈ ms, ¬ r.TakenBy T i) →
        (T.parsed m crc (recordBytes us ++ (ra.bytes ++ (recordBytes ms ++ (rb.bytes ++ w)))) = some m' ↔
          ValidRecords ⟨nums, field⟩ a ∧
            T.parsed m crc (recordBytes us ++ (rab.bytes ++ (recordBytes ms ++ w))) = some m')) ∧
    (∀ (rs : List Record) (m' : T.Value), T.parsed m crc (recordBytes rs) = some m' →
      ∀ i, (T.field i).Merged (m i) (T.payloads i rs) (m' i)) ∧
    (∀ (us : List Record) (r : Record) (w : Bytes), (∀ i, ¬ r.TakenBy T i) →
      T.parsed m crc (recordBytes us ++ (r.bytes ++ w)) = T.parsed m crc (recordBytes us ++ w)) ∧
    ∀ w, T.parseFromString m w = T.parsed (T.clear m) none w := by
  simp only [parsed_crc T m crc]
  refine ⟨?_, ?_, fun us r w hn => parsed_inserted hn, parseFromString_eq_parsed T m⟩
  · intro i o hcheck nums field hi us ms ra rb rab a b w m' hra hrb hrab ha hb hab hms
    exact parsed_pieces hi hra hrb hrab ha hb hab hms
  · intro rs m' h i
    exact FieldType.merged_of_takesAll (parsed_recordBytes.1 h i)

omit [AbslCrc]

/-! ## A key in two pieces -/

/-- A record of the parameters of an AES-CTR key, with a body of two or four bytes. -/
theorem paramsRecord_isTag : IsTag [0x12] .kLengthDelimited 2 :=
  ⟨by simp [IsVarint], by decide, by decide, by decide, by decide⟩

def paramsRecord (body : Bytes) (h : body.length = 2 ∨ body.length = 4) : Record where
  wireType := .kLengthDelimited
  fieldNumber := 2
  tag := [0x12]
  payload := encode body.length ++ body
  isTag := paramsRecord_isTag
  isPayload := .inr ⟨body, encode body.length, rfl, isLength_encode (by omega)⟩

def versionRecord : Record where
  wireType := .kVarint
  fieldNumber := 1
  tag := [8]
  payload := [0]
  isTag := ⟨by simp [IsVarint], by decide, by decide, by decide, by decide⟩
  isPayload := .inr ⟨by simp [IsVarint], by decide⟩

/-- The IV size is given twice, with the version between. -/
theorem parse_merges_aesCtrKey :
    @MessageType.parsed castagnoli aesCtrKeyTP (aesCtrKey .empty) none [0x12, 2, 8, 12, 8, 0, 0x12, 2, 8, 16] =
      @MessageType.parsed castagnoli aesCtrKeyTP (aesCtrKey .empty) none [0x12, 4, 8, 12, 8, 16, 8, 0] := by
  have hdelimited : ∀ (body : Bytes) (h : body.length = 2 ∨ body.length = 4),
      IsDelimited (paramsRecord body h).payload body := fun body h => ⟨_, rfl, isLength_encode (by omega)⟩
  have hvalid : ValidRecords aesCtrParamsTP ([8] ++ ([12] ++ [])) :=
    .field versionRecord.isTag ⟨by simp [IsVarint], by decide⟩ (fun S h => by cases h.1) .nil
  refine Option.ext (fun m' => ?_)
  have h := (@parse_merges castagnoli aesCtrKeyTP (aesCtrKey .empty) none).1 ⟨1, by decide⟩ .kExplicit (by decide) aesCtrParamsTP.nums
    aesCtrParamsTP.field rfl [] [versionRecord] (paramsRecord [8, 12] (.inl rfl)) (paramsRecord [8, 16] (.inl rfl))
    (paramsRecord [8, 12, 8, 16] (.inr rfl)) [8, 12] [8, 16] [] m' ⟨rfl, rfl⟩ ⟨rfl, rfl⟩ ⟨rfl, rfl⟩
    (hdelimited _ _) (hdelimited _ _) (hdelimited _ _) (by simpa [Record.TakenBy] using by decide)
  have htwo : encode 2 = [2] := encode_of_lt (by decide)
  have hfour : encode 4 = [4] := encode_of_lt (by decide)
  simp only [recordBytes, paramsRecord, versionRecord, Record.bytes, List.flatMap_nil, List.flatMap_cons, List.length_cons,
    List.length_nil, htwo, hfour, List.nil_append, List.append_nil, List.cons_append] at h
  exact h.trans (and_iff_right hvalid)

/-- The tag and the value of one field, each in a piece of its own: together they are a message, apart they are not. -/
theorem parse_pieces_refused :
    (@MessageType.parseFromString castagnoli aesCtrKeyTP (aesCtrKey .empty) [0x12, 1, 8, 0x12, 1, 12]).isSome = false ∧
    (@MessageType.parseFromString castagnoli aesCtrKeyTP (aesCtrKey .empty) [0x12, 2, 8, 12]).isSome = true := by
  decide +kernel

end Tink
