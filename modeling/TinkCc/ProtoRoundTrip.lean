import Mathlib.Data.List.Forall2
import Mathlib.Data.Option.Basic
import TinkCc.ProtoGrammar
/-!
# ProtoRoundTrip — parsing what was serialized gives the message back

The two halves meet at `FieldType.wire`: serializing writes it (`ProtoSerialize`), and a parse that starts from a
cleared field reads it back (`reads_wire`).  A field writes one record, none or, when it is repeated, one for each
element; `Reads` is a field taking such a run of records one by one.

A parse computes the CRC of each secret data from its bytes, so what comes back is the message with its CRCs computed
again (`FieldType.recrc`); that is the message itself when its CRCs were right.
-/
namespace Tink

open Base128

/-- Enum values their `is_valid` accepts, and payloads below 2^32 bytes. -/
def Leafwise.wellFormed : Leafwise :=
  { enum := fun isValid x => isValid x = true, bytes := fun b => b.length < 2 ^ 32,
    secret := fun s => s.bytes.length < 2 ^ 32, message := fun size => size < 2 ^ 32 }

/-- The same value: the same presence and order, and secret data with the same bytes. -/
def FieldType.Same : (t : FieldType) → t.Value → t.Value → Prop
  | .uint32 _, v, v' => v = v'
  | .uint64 _, v, v' => v = v'
  | .bytes _, v, v' => v = v'
  | .secretData _, v, v' => Option.Rel (fun s s' => secretDataEquals s s' = true) (Slot.value? v) (Slot.value? v')
  | .enum _ _ _ _, v, v' => v = v'
  | .message _ _ _ field, v, v' => Option.Rel (fun a b => ∀ i, (field i).Same (a i) (b i)) (Slot.value? v) (Slot.value? v')
  | .repeatedMessage _ field, v, v' => List.Forall₂ (fun a b => ∀ i, (field i).Same (a i) (b i)) v v'
  | .repeatedSecretData, v, v' => List.Forall₂ (fun s s' => secretDataEquals s s' = true) v v'

def MessageType.Same (T : MessageType) (m m' : T.Value) : Prop := ∀ i, (T.field i).Same (m i) (m' i)

/-! ## Slots -/

def Slot.map {o : ProtoFieldOptions} {α : Type} (f : α → α) (s : Slot o α) : Slot o α :=
  ⟨s.value?.map f, fun h => by rw [Option.isSome_map]; exact s.present h⟩

theorem Slot.eq_set {o : ProtoFieldOptions} {α : Type} {s : Slot o α} {x : α} (h : s.value? = some x) :
    s = Slot.set x := Slot.ext h

/-- A field that is not serialized is as `Clear` leaves it. -/
theorem Slot.eq_cleared {o : ProtoFieldOptions} {α : Type} {s : Slot o α} {d : α} {isDefault : α → Bool}
    (hd : ∀ x, isDefault x = true → x = d) (h : ¬ s.requiresSerialization d isDefault = true) :
    s = Slot.cleared o d := by
  cases o with
  | kExplicit => exact Slot.ext (Option.not_isSome_iff_eq_none.1 h)
  | kAlwaysPresent => exact absurd rfl h
  | kImplicit =>
    obtain ⟨x, hx⟩ := Option.isSome_iff_exists.1 (s.present (by decide))
    have hdef : isDefault (s.value d) = true := by simpa [Slot.requiresSerialization] using h
    rw [Slot.value, hx] at hdef
    refine Slot.ext ?_
    rw [hx, hd x hdef]
    rfl

theorem Slot.map_eq_self {o : ProtoFieldOptions} {α : Type} {f : α → α} {s : Slot o α}
    (h : ∀ x ∈ s.value?, f x = x) : s.map f = s := by
  refine Slot.ext ?_
  show s.value?.map f = s.value?
  cases hv : s.value? with
  | none => rfl
  | some x => rw [Option.map_some, h x hv]

theorem Slot.value_cleared {o : ProtoFieldOptions} {α : Type} (d : α) : (Slot.cleared o d).value d = d := by
  cases o <;> rfl

theorem Slot.rel_map {o : ProtoFieldOptions} {α : Type} {R : α → α → Prop} {f : α → α} (h : ∀ x, R x (f x))
    (s : Slot o α) : Option.Rel R s.value? (s.map f).value? := by
  show Option.Rel R s.value? (s.value?.map f)
  cases s.value? with
  | none => exact .none
  | some x => exact .some (h x)

theorem forall₂_map_self {α : Type} {R : α → α → Prop} {f : α → α} (h : ∀ x, R x (f x)) :
    ∀ xs : List α, List.Forall₂ R xs (xs.map f)
  | [] => .nil
  | x :: xs => .cons (h x) (forall₂_map_self h xs)

theorem map_eq_self {α : Type} {f : α → α} {xs : List α} (h : ∀ x ∈ xs, f x = x) : xs.map f = xs :=
  (List.map_congr_left (g := id) h).trans (List.map_id xs)

theorem SecretData.eq_empty {s : SecretData} (h : s.bytes = []) : s = SecretData.empty :=
  SecretData.ext h (s.crc32c_of_nil h)

theorem isPayload_encode {n : Nat} (h : n < 2 ^ 64) : IsPayload .kVarint (encode n) :=
  ⟨isVarint_encode n, encode_length_le (by decide) (by omega)⟩

theorem isDelimited_encode {body : Bytes} (h : body.length < 2 ^ 32) : IsDelimited (encode body.length ++ body) body :=
  ⟨encode body.length, rfl, isLength_encode h⟩

section RoundTrip
variable [AbslCrc]

/-! ## What a parse gives back -/

/-- The secret data a parse makes of these bytes. -/
def SecretData.recrc (s : SecretData) : SecretData := .ofCrc s.bytes (AbslCrc.computeCrc32c s.bytes)

def FieldType.recrc : (t : FieldType) → t.Value → t.Value
  | .uint32 _, v => v
  | .uint64 _, v => v
  | .bytes _, v => v
  | .secretData _, v => Slot.map SecretData.recrc v
  | .enum _ _ _ _, v => v
  | .message _ _ _ field, v => Slot.map (fun msg i => (field i).recrc (msg i)) v
  | .repeatedMessage _ field, v => List.map (fun msg i => (field i).recrc (msg i)) v
  | .repeatedSecretData, v => List.map SecretData.recrc v

theorem same_recrc (t : FieldType) : ∀ v : t.Value, t.Same v (t.recrc v) := by
  have hsecret : ∀ s : SecretData, secretDataEquals s s.recrc = true := fun s => (secretDataEquals_iff s _).2 rfl
  induction t with
  | uint32 | uint64 | bytes | enum => exact fun _ => rfl
  | secretData o => exact fun v => Slot.rel_map hsecret v
  | message o hc nums field ih => exact fun v => Slot.rel_map (fun msg i => ih i (msg i)) v
  | repeatedMessage nums field ih => exact fun v => forall₂_map_self (fun msg i => ih i (msg i)) v
  | repeatedSecretData => exact fun v => forall₂_map_self hsecret v

theorem recrc_eq_self (t : FieldType) : ∀ v : t.Value, t.Holds .crcsOk v → t.recrc v = v := by
  induction t with
  | uint32 | uint64 | bytes | enum => exact fun _ _ => rfl
  | secretData o => exact fun v h => Slot.map_eq_self (fun s hs => SecretData.ofCrc_compute_of_crcOk (h s hs))
  | message o hc nums field ih =>
    exact fun v h => Slot.map_eq_self (fun msg hmsg => funext (fun i => ih i (msg i) ((h msg hmsg).2 i)))
  | repeatedMessage nums field ih =>
    exact fun v h => map_eq_self (fun msg hmsg => funext (fun i => ih i (msg i) ((h msg hmsg).2 i)))
  | repeatedSecretData => exact fun v h => map_eq_self (fun s hs => SecretData.ofCrc_compute_of_crcOk (h s hs))

/-! ## Runs of records -/

section Runs
variable {V : Type} {wt : WireType} {consume : V → ParsingState → Option (V × ParsingState)} {n : Nat}

/-- `consume` takes these bytes, whatever follows them. -/
def Takes (consume : V → ParsingState → Option (V × ParsingState)) (v : V) (p : Bytes) (v' : V) : Prop :=
  ∀ st rest, st.remaining = p ++ rest → ∃ st', consume v st = some (v', st') ∧ st.Consumes p st'

/-- A field takes the records of `w`, one after the other, and gets from `v` to `v'`. -/
inductive Reads (wt : WireType) (consume : V → ParsingState → Option (V × ParsingState)) (n : Nat) :
    V → Bytes → V → Prop
  | done (v) : Reads wt consume n v [] v
  | record {v v' v'' p w} : Takes consume v p v' → Reads wt consume n v' w v'' →
      Reads wt consume n v (tagBytes wt n ++ (p ++ w)) v''

theorem Reads.single {v v' : V} {p : Bytes} (h : Takes consume v p v') :
    Reads wt consume n v (tagBytes wt n ++ p) v' := by
  have hr : Reads wt consume n v (tagBytes wt n ++ (p ++ [])) v' := .record h (.done v')
  rwa [List.append_nil] at hr

/-- The elements of a repeated field, appended one by one. -/
theorem Reads.elements {α : Type} {consume : List α → ParsingState → Option (List α × ParsingState)} {f : α → α}
    {p : α → Bytes} : ∀ (xs acc : List α), (∀ x ∈ xs, ∀ acc, Takes consume acc (p x) (acc ++ [f x])) →
      Reads wt consume n acc (xs.flatMap (fun x => tagBytes wt n ++ p x)) (acc ++ xs.map f)
  | [], acc, _ => by
    rw [List.map_nil, List.append_nil]
    exact .done acc
  | x :: xs, acc, h => by
    have hrest := Reads.elements xs (acc ++ [f x]) (fun y hy => h y (by simp [hy]))
    have hr := Reads.record (h x (by simp) acc) hrest
    rw [List.flatMap_cons, List.append_assoc, List.map_cons]
    rwa [List.append_assoc, List.singleton_append] at hr

end Runs

/-- A field and the records of its number, in a message or alone. -/
abbrev FieldType.Reads (t : FieldType) (n : Nat) : t.Value → Bytes → t.Value → Prop :=
  Tink.Reads t.wireType t.consumeIntoMember n

/-- A field's records are read by turns of the message it is in. -/
theorem turns_of_reads {T : MessageType} {i : Fin T.nums.numFields} {v v' : (T.field i).Value} {w : Bytes}
    (h : (T.field i).Reads (T.nums.fieldNumber i) v w v') :
    ∀ (a : T.Value) (st : ParsingState) (rest : Bytes), a i = v → st.remaining = w ++ rest →
      ∃ st', T.Turns (a, st) (Function.update a i v', st') ∧ st.Consumes w st' := by
  induction h with
  | done v =>
    intro a st rest ha _
    rw [← ha, Function.update_eq_self]
    exact ⟨st, .refl, .refl st⟩
  | @record v v₁ v₂ p w hcons _ ih =>
    intro a st rest ha hrem
    have hrem₀ : st.remaining = tagBytes (T.field i).wireType (T.nums.fieldNumber i) ++ (p ++ (w ++ rest)) := by
      rw [hrem]; simp
    obtain ⟨st₁, htag, hc₁⟩ := consumeTag_complete (isTag_tagBytes (T.nums.ne_zero i) (T.nums.lt i)) hrem₀
    obtain ⟨st₂, hv, hc₂⟩ := hcons st₁ (w ++ rest) (hc₁.remaining_eq hrem₀)
    rw [← ha] at hv
    obtain ⟨st', hr, hc₃⟩ := ih (Function.update a i v₁) st₂ rest (Function.update_self ..)
      (hc₂.remaining_eq (hc₁.remaining_eq hrem₀))
    rw [Function.update_idem] at hr
    exact ⟨st', hr.head (parseStep_of_field htag hv), hc₁.trans (hc₂.trans hc₃)⟩

/-- The fields of a list, read one after the other from a message where they are cleared. -/
theorem turns_of_fields {T : MessageType} {m : T.Value}
    (hm : ∀ i, (T.field i).Reads (T.nums.fieldNumber i) (T.field i).cleared
      ((T.field i).wire (T.nums.fieldNumber i) (m i)) ((T.field i).recrc (m i))) :
    ∀ (is : List (Fin T.nums.numFields)) (a : T.Value) (st : ParsingState) (rest : Bytes), is.Nodup →
      (∀ i ∈ is, a i = (T.field i).cleared) →
      st.remaining = is.flatMap (fun i => (T.field i).wire (T.nums.fieldNumber i) (m i)) ++ rest →
        ∃ st', T.Turns (a, st) (fun i => if i ∈ is then (T.field i).recrc (m i) else a i, st') ∧
          st.Consumes (is.flatMap (fun i => (T.field i).wire (T.nums.fieldNumber i) (m i))) st'
  | [], a, st, rest, _, _, _ => by
    simp only [List.not_mem_nil, if_false]
    exact ⟨st, .refl, .refl st⟩
  | i :: is, a, st, rest, hnd, ha, hrem => by
    rw [List.flatMap_cons, List.append_assoc] at hrem
    obtain ⟨hi, hnd'⟩ := List.nodup_cons.1 hnd
    obtain ⟨st₁, hr₁, hc₁⟩ := turns_of_reads (hm i) a st _ (ha i (by simp)) hrem
    have ha' : ∀ j ∈ is, Function.update a i ((T.field i).recrc (m i)) j = (T.field j).cleared := fun j hj => by
      have hji : j ≠ i := fun h => hi (h ▸ hj)
      rw [Function.update_of_ne hji]
      exact ha j (by simp [hj])
    obtain ⟨st', hr₂, hc₂⟩ := turns_of_fields hm is _ st₁ rest hnd' ha' (hc₁.remaining_eq hrem)
    refine ⟨st', ?_, by rw [List.flatMap_cons]; exact hc₁.trans hc₂⟩
    have hmsg : (fun j => if j ∈ is then (T.field j).recrc (m j) else Function.update a i ((T.field i).recrc (m i)) j) =
        (fun j => if j ∈ i :: is then (T.field j).recrc (m j) else a j) := by
      funext j
      by_cases hj : j ∈ is
      · simp [hj]
      · by_cases hji : j = i
        · subst hji
          simp [hj]
        · simp [hj, hji]
    rw [hmsg] at hr₂
    exact hr₁.trans hr₂

/-- **A message's wire image is read back**, from a cleared message and whatever follows. -/
theorem turns_wire {T : MessageType} {m : T.Value}
    (hm : ∀ i, (T.field i).Reads (T.nums.fieldNumber i) (T.field i).cleared
      ((T.field i).wire (T.nums.fieldNumber i) (m i)) ((T.field i).recrc (m i)))
    (st : ParsingState) (rest : Bytes) (hrem : st.remaining = T.wire m ++ rest) :
    ∃ st', T.Turns (fun i => (T.field i).cleared, st) (fun i => (T.field i).recrc (m i), st') ∧
      st.Consumes (T.wire m) st' := by
  obtain ⟨st', hr, hc⟩ := turns_of_fields hm (List.finRange T.nums.numFields) (fun i => (T.field i).cleared) st rest
    (List.nodup_finRange _) (fun _ _ => rfl) hrem
  simp only [List.mem_finRange, if_true] at hr
  exact ⟨st', hr, hc⟩

/-! ## Every field reads its wire image back -/

/-- A 32-bit value is read back as it was. -/
theorem consumeVarintIntoUint32_encode (x : UInt32) {st : ParsingState} {rest : Bytes}
    (hrem : st.remaining = encode x.toNat ++ rest) :
    ∃ st' r, consumeVarintIntoUint32 st = some (r, st') ∧ UInt32.ofNat r = x ∧ st.Consumes (encode x.toNat) st' := by
  have hx := x.toNat_lt
  obtain ⟨st', he, hc⟩ := consumeVarintIntoUint32_complete (isPayload_encode (by omega)) hrem
  refine ⟨st', _, he, ?_, hc⟩
  rw [value_encode, Nat.mod_eq_of_lt (by omega), Nat.mod_eq_of_lt (by omega), UInt32.ofNat_toNat]

/-- A submessage's wire image is read back into a cleared message. -/
theorem consumeSubmessage_wire {T : MessageType} {msg : T.Value} (hsize : T.byteSizeLong msg < 2 ^ 32)
    (hm : ∀ i, (T.field i).Reads (T.nums.fieldNumber i) (T.field i).cleared
      ((T.field i).wire (T.nums.fieldNumber i) (msg i)) ((T.field i).recrc (msg i)))
    {st : ParsingState} {rest : Bytes} (hrem : st.remaining = encode (T.wire msg).length ++ T.wire msg ++ rest) :
    ∃ st', consumeSubmessage (fun i => (T.field i).wireType) (fun i => (T.field i).consumeIntoMember)
        (fun i => (T.field i).cleared) st = some (fun i => (T.field i).recrc (msg i), st') ∧
      st.Consumes (encode (T.wire msg).length ++ T.wire msg) st' := by
  rw [byteSizeLong_eq] at hsize
  obtain ⟨msg', st', he, hc, rfl⟩ := consumeSubmessage_of_turns
    (Q := fun msg' => msg' = fun i => (T.field i).recrc (msg i)) (fun i => (T.field i).cleared)
    (isDelimited_encode hsize) hrem (fun sub hsub => by
      obtain ⟨sub', hr, hcs⟩ := turns_wire hm sub [] hsub
      exact ⟨_, sub', hr, hcs, rfl⟩)
  exact ⟨st', he, hc⟩

theorem consumeIntoMember_repeatedMessage {nums : FieldNumbers} {field : Fin nums.numFields → FieldType}
    (v : (FieldType.repeatedMessage nums field).Value) {msg : MessageType.Value ⟨nums, field⟩} {st st' : ParsingState}
    (h : consumeSubmessage (fun i => (field i).wireType) (fun i => (field i).consumeIntoMember)
      (fun i => (field i).cleared) st = some (msg, st')) :
    (FieldType.repeatedMessage nums field).consumeIntoMember v st = some (List.append v [msg], st') := by
  rw [FieldType.consumeIntoMember]
  simp only [h]
  rfl

theorem consumeIntoMember_repeatedSecretData (v : FieldType.repeatedSecretData.Value) {s : SecretData}
    {st st' : ParsingState} (h : consumeSecret st = some (s, st')) :
    FieldType.repeatedSecretData.consumeIntoMember v st = some (List.append v [s], st') := by
  rw [FieldType.consumeIntoMember, h]
  rfl

/-- **From a cleared field, a field's wire image is read back.** -/
theorem reads_wire (t : FieldType) : ∀ (n : Nat) (v : t.Value), t.Holds .wellFormed v →
    t.Reads n t.cleared (t.wire n v) (t.recrc v) := by
  induction t with
  | uint32 o =>
    intro n v _
    unfold FieldType.wire FieldType.recrc
    split
    · rename_i h
      refine .single (fun st rest hrem => ?_)
      obtain ⟨st', r, he, hr, hc⟩ := consumeVarintIntoUint32_encode _ hrem
      refine ⟨st', ?_, hc⟩
      rw [FieldType.consumeIntoMember, he]
      simp only [hr, ← Slot.eq_set (Slot.value?_of_requires h)]
    · rename_i h
      rw [Slot.eq_cleared (fun x hx => beq_iff_eq.1 hx) h]
      exact .done _
  | uint64 o =>
    intro n v _
    unfold FieldType.wire FieldType.recrc
    split
    · rename_i h
      refine .single (fun st rest hrem => ?_)
      have hx := (Slot.value v (0 : UInt64)).toNat_lt
      obtain ⟨st', he, hc⟩ := consumeVarintIntoUint64_complete (isPayload_encode hx).1 (isPayload_encode hx).2 hrem
      refine ⟨st', ?_, hc⟩
      rw [value_encode, Nat.mod_eq_of_lt hx] at he
      rw [FieldType.consumeIntoMember, he]
      simp only [UInt64.ofNat_toNat, ← Slot.eq_set (Slot.value?_of_requires h)]
    · rename_i h
      rw [Slot.eq_cleared (fun x hx => beq_iff_eq.1 hx) h]
      exact .done _
  | enum isValid d o hcheck =>
    intro n v hok
    unfold FieldType.wire FieldType.recrc
    split
    · rename_i h
      have hval := Slot.value?_of_requires h
      refine .single (fun st rest hrem => ?_)
      obtain ⟨st', r, he, hr, hc⟩ := consumeVarintIntoUint32_encode _ hrem
      refine ⟨st', ?_, hc⟩
      have hvalid : isValid (UInt32.ofNat r) = true := by
        rw [hr]
        exact hok _ hval
      rw [FieldType.consumeIntoMember, he]
      simp only [if_pos hvalid]
      rw [hr, ← Slot.eq_set hval]
    · rename_i h
      rw [Slot.eq_cleared (fun x hx => beq_iff_eq.1 hx) h]
      exact .done _
  | bytes o =>
    intro n v hok
    unfold FieldType.wire FieldType.recrc
    split
    · rename_i h
      have hval := Slot.value?_of_requires h
      refine .single (fun st rest hrem => ?_)
      obtain ⟨st', he, hc⟩ := consumeBytesReturnStringView_complete (isDelimited_encode (hok _ hval)) hrem
      exact ⟨st', by rw [FieldType.consumeIntoMember, he]; simp only [← Slot.eq_set hval], hc⟩
    · rename_i h
      rw [Slot.eq_cleared (fun x hx => beq_iff_eq.1 hx) h]
      exact .done _
  | secretData o =>
    intro n v hok
    unfold FieldType.wire FieldType.recrc
    split
    · rename_i h
      have hval := Slot.value?_of_requires h
      refine .single (fun st rest hrem => ?_)
      obtain ⟨st', he, hc⟩ := consumeSecret_complete (isDelimited_encode (hok _ hval)) hrem
      refine ⟨st', ?_, hc⟩
      have hmap : Slot.map SecretData.recrc v = Slot.set (Slot.value v .empty).recrc :=
        Slot.eq_set (congrArg (Option.map _) hval)
      rw [FieldType.consumeIntoMember, he, hmap]
      rfl
    · rename_i h
      have hclear := Slot.eq_cleared (fun s hs => SecretData.eq_empty ((secretDataEquals_iff s _).1 hs)) h
      rw [hclear]
      have hmap : Slot.map SecretData.recrc (Slot.cleared o SecretData.empty) = Slot.cleared o .empty :=
        Slot.map_eq_self (fun s hs => by
          have : s = .empty := by cases o <;> cases hs <;> rfl
          rw [this]
          rfl)
      rw [hmap]
      exact .done _
  | message o hcheck nums field ih =>
    intro n v hok
    unfold FieldType.wire FieldType.recrc
    cases hval : Slot.value? v with
    | none =>
      have hclear : v = Slot.cleared o (fun i => (field i).cleared) := by
        cases o with
        | kExplicit => exact Slot.ext hval
        | kImplicit => exact absurd rfl hcheck
        | kAlwaysPresent => exact absurd (Slot.present v (by decide)) (by rw [hval]; exact Bool.false_ne_true)
      have hmap : Slot.map (fun msg i => (field i).recrc (msg i)) v = v :=
        Slot.map_eq_self (fun msg hmsg => by rw [hval] at hmsg; cases hmsg)
      rw [hmap, hclear]
      exact .done _
    | some msg =>
      obtain ⟨hsize, hfields⟩ := hok msg hval
      refine .single (fun st rest hrem => ?_)
      obtain ⟨st', he, hc⟩ := consumeSubmessage_wire (T := ⟨nums, field⟩) hsize
        (fun i => ih i (nums.fieldNumber i) (msg i) (hfields i)) hrem
      refine ⟨st', ?_, hc⟩
      have hmap : Slot.map (fun msg i => (field i).recrc (msg i)) v = Slot.set (fun i => (field i).recrc (msg i)) :=
        Slot.eq_set (congrArg (Option.map _) hval)
      rw [FieldType.consumeIntoMember, hmap]
      have hcl : Slot.value (FieldType.cleared (.message o hcheck nums field)) (fun i => (field i).cleared) =
          fun i => (field i).cleared := Slot.value_cleared _
      simp only [hcl, he]
  | repeatedMessage nums field ih =>
    intro n v hok
    refine Reads.elements (f := fun msg i => (field i).recrc (msg i)) v [] (fun msg hmsg acc st rest hrem => ?_)
    obtain ⟨hsize, hfields⟩ := hok msg hmsg
    obtain ⟨st', he, hc⟩ := consumeSubmessage_wire (T := ⟨nums, field⟩) hsize
      (fun i => ih i (nums.fieldNumber i) (msg i) (hfields i)) hrem
    exact ⟨st', consumeIntoMember_repeatedMessage acc he, hc⟩
  | repeatedSecretData =>
    intro n v hok
    refine Reads.elements (f := SecretData.recrc) v [] (fun s hs acc st rest hrem => ?_)
    obtain ⟨st', he, hc⟩ := consumeSecret_complete (isDelimited_encode (hok s hs)) hrem
    exact ⟨st', consumeIntoMember_repeatedSecretData acc he, hc⟩

/-! ## The round trip -/

/-- **Parsing what was serialized gives the message back**, whatever the target message held: the same presence, the
same order, secret data with the same bytes, and the very same message when its CRCs were right. -/
theorem parseFromString_serialize (T : MessageType) (m : T.Value) (hm : T.Holds .wellFormed m) (before : T.Value) :
    ∃ w s m', T.serializeAsString m = some w ∧ T.serializeAsSecretData m = some s ∧ s.bytes = w ∧
      T.parseFromString before w = some m' ∧ T.Same m m' ∧ (T.Holds .crcsOk m → m' = m) := by
  obtain ⟨s, hs, hbytes, -⟩ := serializeAsSecretData_eq T m
  refine ⟨T.wire m, s, fun i => (T.field i).recrc (m i), serializeAsString_eq T m, hs, hbytes, ?_,
    fun i => same_recrc (T.field i) (m i), fun hok => funext (fun i => recrc_eq_self (T.field i) (m i) (hok i))⟩
  obtain ⟨st, hr, hc⟩ := turns_wire (fun i => reads_wire (T.field i) (T.nums.fieldNumber i) (m i) (hm i))
    ⟨T.wire m, none⟩ [] (List.append_nil _).symm
  have hd : st.parsingDone = true := List.isEmpty_iff.2 (hc.remaining_eq (List.append_nil _).symm)
  have himpl := (parseFromStringImpl_eq_some_iff T (m := before)).2 ⟨hr, hd⟩
  rw [MessageType.parseFromString, himpl, Option.map_some]

end RoundTrip

theorem aesCtrKey_wellFormed : aesCtrKeyTP.Holds .wellFormed (aesCtrKey (.ofCrc [1, 2, 3] 7))
  | ⟨0, _⟩ => trivial
  | ⟨1, _⟩ => by
    rintro msg ⟨⟩
    refine ⟨?_, fun | ⟨0, _⟩ => trivial⟩
    unfold Leafwise.wellFormed
    decide +kernel
  | ⟨2, _⟩ => by
    rintro s ⟨⟩
    unfold Leafwise.wellFormed
    decide

/-- The stored CRC of this key is wrong, and parsing gives it the right one. -/
theorem aesCtrKey_roundTrip : ∃ w m', @MessageType.serializeAsString castagnoli _ (aesCtrKey (.ofCrc [1, 2, 3] 7)) = some w ∧
    @MessageType.parseFromString castagnoli aesCtrKeyTP (aesCtrKey .empty) w = some m' ∧
    aesCtrKeyTP.Same (aesCtrKey (.ofCrc [1, 2, 3] 7)) m' := by
  obtain ⟨w, s, m', hw, -, -, hp, hsame, -⟩ :=
    @parseFromString_serialize castagnoli aesCtrKeyTP (aesCtrKey (.ofCrc [1, 2, 3] 7)) aesCtrKey_wellFormed (aesCtrKey .empty)
  exact ⟨w, m', hw, hp, hsame⟩

end Tink
