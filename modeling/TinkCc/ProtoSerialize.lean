import TinkCc.ProtoMessage
/-!
# ProtoSerialize — a message writes its wire image, and announces its length

`FieldType.wire` is the byte string a field stands for.  `getSerializedSizeIncludingTag_eq` says that the size a field
announces is the length of that string, `serializesTo_field` that the field writes exactly that string into any buffer
that can hold it, keeping a running CRC right when its secret data carries right CRCs.  The size code and the writing
loops are separate in every field class; both are compared with `wire`, never with each other.
-/
namespace Tink

open Base128

/-! ## Predicates on everything a value holds -/

/-- A condition on the enum values, byte strings and secret data a value holds, and on the size of the messages
below it. -/
structure Leafwise where
  enum    : (UInt32 → Bool) → UInt32 → Prop
  bytes   : Bytes → Prop
  secret  : SecretData → Prop
  message : Nat → Prop

def FieldType.Holds (P : Leafwise) : (t : FieldType) → t.Value → Prop
  | .uint32 _, _ => True
  | .uint64 _, _ => True
  | .bytes _, v => ∀ b ∈ Slot.value? v, P.bytes b
  | .secretData _, v => ∀ s ∈ Slot.value? v, P.secret s
  | .enum isValid _ _ _, v => ∀ x ∈ Slot.value? v, P.enum isValid x
  | .message _ _ nums field, v => ∀ msg ∈ Slot.value? v,
      P.message (MessageType.byteSizeLong ⟨nums, field⟩ msg) ∧ ∀ i, (field i).Holds P (msg i)
  | .repeatedMessage nums field, v => ∀ msg ∈ (show List _ from v),
      P.message (MessageType.byteSizeLong ⟨nums, field⟩ msg) ∧ ∀ i, (field i).Holds P (msg i)
  | .repeatedSecretData, v => ∀ s ∈ (show List SecretData from v), P.secret s

def MessageType.Holds (P : Leafwise) (T : MessageType) (m : T.Value) : Prop := ∀ i, (T.field i).Holds P (m i)

/-- Every secret data carries the CRC of its bytes. -/
def Leafwise.crcsOk [AbslCrc] : Leafwise :=
  { enum := fun _ _ => True, bytes := fun _ => True, secret := SecretData.CrcOk, message := fun _ => True }

/-! ## Wire images -/

def scalarWire (n value : Nat) : Bytes := tagBytes .kVarint n ++ encode value

def delimitedWire (n : Nat) (body : Bytes) : Bytes := tagBytes .kLengthDelimited n ++ (encode body.length ++ body)

/-- The bytes a field of number `n` stands for. -/
def FieldType.wire : (t : FieldType) → (n : Nat) → t.Value → Bytes
  | .uint32 _, n, v => if Slot.requiresSerialization v 0 (· == 0) then scalarWire n (Slot.value v 0).toNat else []
  | .uint64 _, n, v => if Slot.requiresSerialization v 0 (· == 0) then scalarWire n (Slot.value v 0).toNat else []
  | .bytes _, n, v =>
    if Slot.requiresSerialization v [] (· == []) then delimitedWire n (Slot.value v []) else []
  | .secretData _, n, v =>
    if Slot.requiresSerialization v .empty (secretDataEquals · .empty) then
      delimitedWire n (Slot.value v .empty).bytes
    else []
  | .enum _ d _ _, n, v => if Slot.requiresSerialization v d (· == d) then scalarWire n (Slot.value v d).toNat else []
  | .message _ _ nums field, n, v =>
    match Slot.value? v with
    | none => []
    | some msg =>
      delimitedWire n ((List.finRange nums.numFields).flatMap (fun i => (field i).wire (nums.fieldNumber i) (msg i)))
  | .repeatedMessage nums field, n, v =>
    List.flatMap (fun msg =>
      delimitedWire n ((List.finRange nums.numFields).flatMap (fun i => (field i).wire (nums.fieldNumber i) (msg i)))) v
  | .repeatedSecretData, n, v => List.flatMap (fun s : SecretData => delimitedWire n s.bytes) v

def MessageType.wire (T : MessageType) (m : T.Value) : Bytes :=
  (List.finRange T.nums.numFields).flatMap (fun i => (T.field i).wire (T.nums.fieldNumber i) (m i))

/-! ## Announced sizes -/

theorem foldl_add_size {α : Type} (size : α → Nat) : ∀ (xs : List α) (a : Nat),
    xs.foldl (fun total x => total + size x) a = a + xs.foldl (fun total x => total + size x) 0
  | [], a => by simp
  | x :: xs, a => by
    rw [List.foldl_cons, List.foldl_cons, foldl_add_size size xs (a + size x), foldl_add_size size xs (0 + size x)]
    omega

theorem sumSizes_eq {α : Type} {size : α → Nat} {w : α → Bytes} : ∀ (xs : List α),
    (∀ x ∈ xs, size x = (w x).length) → sumSizes size xs = (xs.flatMap w).length
  | [], _ => rfl
  | x :: xs, h => by
    have ih := sumSizes_eq xs (fun y hy => h y (by simp [hy]))
    unfold sumSizes at ih ⊢
    rw [List.foldl_cons, foldl_add_size, ih, List.flatMap_cons, List.length_append, h x (by simp)]
    omega

theorem scalarSize_eq {n : Nat} (h : n ≠ 0) (value : Nat) : scalarSize n value = (scalarWire n value).length := by
  rw [scalarSize, scalarWire, List.length_append, wireTypeAndFieldNumberLength_eq h, varintLength_eq]

theorem delimitedSize_eq {n : Nat} (h : n ≠ 0) (body : Bytes) :
    delimitedSize n body.length = (delimitedWire n body).length := by
  rw [delimitedSize, delimitedWire, List.length_append, List.length_append, wireTypeAndFieldNumberLength_eq h,
    varintLength_eq]
  omega

/-- **A field announces the length of its wire image.** -/
theorem getSerializedSizeIncludingTag_eq (t : FieldType) : ∀ (n : Nat), n ≠ 0 → ∀ v : t.Value,
    t.getSerializedSizeIncludingTag n v = (t.wire n v).length := by
  induction t with
  | uint32 | uint64 | enum =>
    intro n h v
    unfold FieldType.getSerializedSizeIncludingTag FieldType.wire
    split
    · exact scalarSize_eq h _
    · rfl
  | bytes | secretData =>
    intro n h v
    unfold FieldType.getSerializedSizeIncludingTag FieldType.wire
    split
    · exact delimitedSize_eq h _
    · rfl
  | message o hc nums field ih =>
    intro n h v
    unfold FieldType.getSerializedSizeIncludingTag FieldType.wire
    cases Slot.value? v with
    | none => rfl
    | some msg =>
      simp only
      rw [sumSizes_eq _ (fun i _ => ih i _ (nums.ne_zero i) _)]
      exact delimitedSize_eq h _
  | repeatedMessage nums field ih =>
    intro n h v
    unfold FieldType.getSerializedSizeIncludingTag FieldType.wire
    refine sumSizes_eq _ (fun msg _ => ?_)
    rw [sumSizes_eq _ (fun i _ => ih i _ (nums.ne_zero i) _)]
    exact delimitedSize_eq h _
  | repeatedSecretData =>
    intro n h v
    unfold FieldType.getSerializedSizeIncludingTag FieldType.wire
    exact sumSizes_eq _ (fun s _ => delimitedSize_eq h _)

theorem byteSizeLong_eq (T : MessageType) (m : T.Value) : T.byteSizeLong m = (T.wire m).length :=
  sumSizes_eq _ (fun i _ => getSerializedSizeIncludingTag_eq (T.field i) _ (T.nums.ne_zero i) (m i))

/-- A field that is serialized holds the value it serializes: `*value_` is never read empty. -/
theorem Slot.value?_of_requires {o : ProtoFieldOptions} {α : Type} {s : Slot o α} {d : α} {isDefault : α → Bool}
    (h : s.requiresSerialization d isDefault = true) : s.value? = some (s.value d) := by
  have hsome : s.value?.isSome = true := by
    cases o with
    | kExplicit => exact h
    | kAlwaysPresent => exact s.present (by decide)
    | kImplicit => exact s.present (by decide)
  obtain ⟨v, hv⟩ := Option.isSome_iff_exists.1 hsome
  rw [Slot.value, hv]
  rfl

/-! ## Writing -/

section Writing
variable [AbslCrc]

/-- `f` writes exactly `bs` into any buffer that can hold it, and keeps a running CRC right if `crcOk`. -/
def SerializesTo (f : SerializationState → Option SerializationState) (bs : Bytes) (crcOk : Prop) : Prop :=
  ∀ out, bs.length ≤ out.buffer.length →
    ∃ out', f out = some out' ∧ out.Writes bs out' ∧ (crcOk → out.TracksCrc bs out')

theorem serializesTo_nil (crcOk : Prop) : SerializesTo some [] crcOk :=
  fun out _ => ⟨out, rfl, .refl out, fun _ => .refl out⟩

/-- Two writers one after the other. -/
theorem serializesTo_append {f g h : SerializationState → Option SerializationState} {a b : Bytes} {c : Prop}
    (hf : SerializesTo f a c) (hg : SerializesTo g b c) (hfg : ∀ out out', f out = some out' → h out = g out') :
    SerializesTo h (a ++ b) c := by
  intro out hlen
  rw [List.length_append] at hlen
  obtain ⟨out₁, he₁, hw₁, ht₁⟩ := hf out (by omega)
  obtain ⟨out₂, he₂, hw₂, ht₂⟩ := hg out₁ (by rw [hw₁.length_buffer]; omega)
  exact ⟨out₂, by rw [hfg _ _ he₁, he₂], hw₁.trans hw₂, fun hc => (ht₁ hc).trans (ht₂ hc)⟩

theorem SerializesTo.mono {f : SerializationState → Option SerializationState} {bs : Bytes} {c c' : Prop}
    (h : SerializesTo f bs c) (hc : c' → c) : SerializesTo f bs c' := fun out hlen => by
  obtain ⟨out', he, hw, ht⟩ := h out hlen
  exact ⟨out', he, hw, fun h' => ht (hc h')⟩

theorem SerializesTo.congr {f g : SerializationState → Option SerializationState} {bs : Bytes} {c : Prop}
    (h : SerializesTo f bs c) (hfg : ∀ out, g out = f out) : SerializesTo g bs c := fun out hlen => by
  obtain ⟨out', he, hw, ht⟩ := h out hlen
  exact ⟨out', by rw [hfg, he], hw, ht⟩

theorem serializesTo_all {α : Type} {f : α → SerializationState → Option SerializationState} {w : α → Bytes}
    {c : Prop} : ∀ (xs : List α), (∀ x ∈ xs, SerializesTo (f x) (w x) c) →
      SerializesTo (serializeAll f xs) (xs.flatMap w) c
  | [], _ => serializesTo_nil c
  | x :: xs, h => by
    rw [List.flatMap_cons]
    refine serializesTo_append (h x (by simp)) (serializesTo_all xs (fun y hy => h y (by simp [hy]))) ?_
    intro out out' he
    rw [serializeAll, he]

theorem serializesTo_scalar {n : Nat} (h0 : n ≠ 0) (hlt : n < 2 ^ 29) (value : Nat) (c : Prop) :
    SerializesTo (serializeScalar n value) (scalarWire n value) c := by
  have htag : SerializesTo (serializeWireTypeAndFieldNumber .kVarint n) (tagBytes .kVarint n) c := fun out hlen => by
    obtain ⟨out', he, hw, ht⟩ := serializeWireTypeAndFieldNumber_writes h0 hlt hlen
    exact ⟨out', he, hw, fun _ => ht⟩
  have hval : SerializesTo (serializeVarint value) (encode value) c := fun out hlen => by
    obtain ⟨out', he, hw, ht⟩ := serializeVarint_writes hlen
    exact ⟨out', he, hw, fun _ => ht⟩
  refine serializesTo_append htag hval (fun out out' he => ?_)
  rw [serializeScalar, he]

theorem serializesTo_delimited {n : Nat} (h0 : n ≠ 0) (hlt : n < 2 ^ 29) {body : Bytes} {c : Prop}
    {f : SerializationState → Option SerializationState} (hf : SerializesTo f body c) :
    SerializesTo (serializeDelimited n body.length f) (delimitedWire n body) c := by
  intro out hlen
  simp only [delimitedWire, List.length_append] at hlen
  obtain ⟨out₁, he₁, hw₁, ht₁⟩ := serializeWireTypeAndFieldNumber_writes h0 hlt
    (show (tagBytes .kLengthDelimited n).length ≤ out.buffer.length by omega)
  have hl₁ := hw₁.length_buffer
  obtain ⟨out₂, he₂, hw₂, ht₂⟩ := serializeVarint_writes (n := body.length) (show _ ≤ out₁.buffer.length by omega)
  have hl₂ := hw₂.length_buffer
  obtain ⟨out₃, he₃, hw₃, ht₃⟩ := hf out₂ (by omega)
  refine ⟨out₃, ?_, hw₁.trans (hw₂.trans hw₃), fun hc => ht₁.trans (ht₂.trans (ht₃ hc))⟩
  simp only [serializeDelimited, he₁, he₂]
  rw [if_neg (by omega), he₃]

theorem serializesTo_copy (bs : Bytes) (c : Prop) :
    SerializesTo (fun out => some ((out.store bs).advance bs.length)) bs c := by
  intro out _
  simp only [SerializationState.store_advance]
  exact ⟨_, rfl, out.writes_store_advanceWithCrc _ _, fun _ => out.tracksCrc_store_advanceWithCrc bs⟩

theorem serializesTo_copySecret (s : SecretData) : SerializesTo (copySecret s) s.bytes s.CrcOk := by
  intro out _
  refine ⟨_, rfl, out.writes_store_advanceWithCrc _ _, fun hc => ?_⟩
  have hcrc : s.crc32c = AbslCrc.computeCrc32c s.bytes := hc
  rw [hcrc]
  exact out.tracksCrc_store_advanceWithCrc s.bytes

/-- **A field writes its wire image.** -/
theorem serializesTo_field (t : FieldType) : ∀ (n : Nat), n ≠ 0 → n < 2 ^ 29 → ∀ v : t.Value,
    SerializesTo (t.serializeWithTagInto n v) (t.wire n v) (t.Holds .crcsOk v) := by
  induction t with
  | uint32 | uint64 | enum =>
    intro n h0 hlt v
    unfold FieldType.wire
    split
    · rename_i h
      simp only [FieldType.serializeWithTagInto, h, if_true]
      exact serializesTo_scalar h0 hlt _ _
    · rename_i h
      simp only [FieldType.serializeWithTagInto, h]
      exact serializesTo_nil _
  | bytes o =>
    intro n h0 hlt v
    unfold FieldType.wire
    split
    · rename_i h
      simp only [FieldType.serializeWithTagInto, h, if_true]
      exact serializesTo_delimited h0 hlt (serializesTo_copy _ _)
    · rename_i h
      simp only [FieldType.serializeWithTagInto, h]
      exact serializesTo_nil _
  | secretData o =>
    intro n h0 hlt v
    unfold FieldType.wire
    split
    · rename_i h
      simp only [FieldType.serializeWithTagInto, h, if_true]
      refine serializesTo_delimited h0 hlt ((serializesTo_copySecret _).mono (fun hc => ?_))
      exact hc _ (Slot.value?_of_requires h)
    · rename_i h
      simp only [FieldType.serializeWithTagInto, h]
      exact serializesTo_nil _
  | message o hc nums field ih =>
    intro n h0 hlt v
    unfold FieldType.wire
    cases hv : Slot.value? v with
    | none =>
      refine (serializesTo_nil _).congr (fun out => ?_)
      rw [FieldType.serializeWithTagInto, hv]
    | some msg =>
      have hsize := sumSizes_eq (List.finRange nums.numFields)
        (fun i _ => getSerializedSizeIncludingTag_eq (field i) _ (nums.ne_zero i) (msg i))
      have hall : SerializesTo (serializeAll (fun i => (field i).serializeWithTagInto (nums.fieldNumber i) (msg i))
          (List.finRange nums.numFields)) _ (FieldType.Holds .crcsOk (.message o hc nums field) v) :=
        serializesTo_all _ (fun i _ =>
          (ih i _ (nums.ne_zero i) (nums.lt i) (msg i)).mono (fun hh => (hh msg hv).2 i))
      refine (serializesTo_delimited h0 hlt hall).congr (fun out => ?_)
      rw [FieldType.serializeWithTagInto, hv, ← hsize]
  | repeatedMessage nums field ih =>
    intro n h0 hlt v
    unfold FieldType.wire
    refine serializesTo_all _ (fun msg hmsg => ?_)
    rw [sumSizes_eq _ (fun i _ => getSerializedSizeIncludingTag_eq (field i) _ (nums.ne_zero i) (msg i))]
    refine serializesTo_delimited h0 hlt (serializesTo_all _ (fun i _ => ?_))
    exact (ih i _ (nums.ne_zero i) (nums.lt i) (msg i)).mono (fun hh => (hh msg hmsg).2 i)
  | repeatedSecretData =>
    intro n h0 hlt v
    unfold FieldType.wire
    refine serializesTo_all _ (fun s hs => serializesTo_delimited h0 hlt ?_)
    exact (serializesTo_copySecret s).mono (fun hh => hh s hs)

theorem serializesTo_message (T : MessageType) (m : T.Value) :
    SerializesTo (T.serialize m) (T.wire m) (T.Holds .crcsOk m) :=
  serializesTo_all _ (fun i _ =>
    (serializesTo_field (T.field i) _ (T.nums.ne_zero i) (T.nums.lt i) (m i)).mono (fun h => h i))

/-- **Both `ABSL_QCHECK`s hold on a buffer of the announced size**, whatever it held and whatever CRC cell it has. -/
theorem serializeChecked_eq (T : MessageType) (m : T.Value) (buffer : Bytes) (hb : buffer.length = T.byteSizeLong m)
    (crc : Option UInt32) :
    ∃ out, T.serialize m ⟨[], buffer, crc⟩ = some out ∧ T.serializeChecked m ⟨[], buffer, crc⟩ = some out ∧
      out.written = T.wire m ∧ out.buffer = [] ∧
      (T.Holds .crcsOk m → SerializationState.TracksCrc ⟨[], buffer, crc⟩ (T.wire m) out) := by
  rw [byteSizeLong_eq] at hb
  obtain ⟨out, he, hw, ht⟩ := serializesTo_message T m ⟨[], buffer, crc⟩ (by simp [hb])
  have hempty : out.buffer = [] := by rw [hw.buffer]; simp [hb]
  refine ⟨out, he, ?_, by rw [hw.written]; rfl, hempty, ht⟩
  rw [MessageType.serializeChecked, he]
  simp [hempty]

theorem serializeAsString_eq (T : MessageType) (m : T.Value) : T.serializeAsString m = some (T.wire m) := by
  obtain ⟨out, -, he, hw, -, -⟩ := serializeChecked_eq T m (List.replicate (T.byteSizeLong m) 0) (by simp) none
  rw [MessageType.serializeAsString, he, Option.map_some, hw]

theorem serializeAsSecretData_eq (T : MessageType) (m : T.Value) :
    ∃ s, T.serializeAsSecretData m = some s ∧ s.bytes = T.wire m ∧ (T.Holds .crcsOk m → s.CrcOk) := by
  obtain ⟨out, -, he, hw, -, ht⟩ :=
    serializeChecked_eq T m (List.replicate (T.byteSizeLong m) 0) (by simp) (some 0)
  refine ⟨SecretData.ofCrc out.written (out.crc.getD 0), by rw [MessageType.serializeAsSecretData, he], hw, ?_⟩
  intro hok
  have hc : out.crc = some (AbslCrc.computeCrc32c (T.wire m)) :=
    ht hok [] (by rw [AbslCrc.compute_nil])
  rw [hw, hc]
  exact SecretData.crcOk_ofCrc_compute _

/-- **A buffer of the announced size is used up exactly**, and every field writes as many bytes as it announces. -/
theorem serialize_fills_buffer (T : MessageType) (m : T.Value) (buffer : Bytes) (crc : Option UInt32)
    (hb : buffer.length = T.byteSizeLong m) :
    (∃ out, T.serialize m ⟨[], buffer, crc⟩ = some out ∧ out.buffer = [] ∧ out.written.length = T.byteSizeLong m) ∧
    (T.serializeAsString m).isSome = true ∧ (T.serializeAsSecretData m).isSome = true ∧
    (∀ (t : FieldType) (n : Nat) (v : t.Value) (out : SerializationState), n ≠ 0 → n < 2 ^ 29 →
      t.getSerializedSizeIncludingTag n v ≤ out.buffer.length →
        ∃ out' bs, t.serializeWithTagInto n v out = some out' ∧ bs.length = t.getSerializedSizeIncludingTag n v ∧
          out'.written = out.written ++ bs ∧ out'.buffer = out.buffer.drop bs.length) := by
  refine ⟨?_, by rw [serializeAsString_eq]; rfl, ?_, ?_⟩
  · obtain ⟨out, he, -, hw, hempty, -⟩ := serializeChecked_eq T m buffer hb crc
    exact ⟨out, he, hempty, by rw [hw, byteSizeLong_eq]⟩
  · obtain ⟨s, hs, -⟩ := serializeAsSecretData_eq T m
    rw [hs]
    rfl
  · intro t n v out h0 hlt hle
    rw [getSerializedSizeIncludingTag_eq t n h0] at hle ⊢
    obtain ⟨out', he, hw, -⟩ := serializesTo_field t n h0 hlt v out hle
    exact ⟨out', t.wire n v, he, rfl, hw.written, hw.buffer⟩

end Writing

theorem aesCtrKey_fills_buffer :
    aesCtrKeyTP.byteSizeLong (aesCtrKey (.ofCrc [1, 2, 3] 7)) = 9 ∧
    ∃ out, @MessageType.serialize castagnoli aesCtrKeyTP (aesCtrKey (.ofCrc [1, 2, 3] 7))
        ⟨[], List.replicate 9 0xFF, some 0⟩ = some out ∧
      out.buffer = [] ∧ out.written.length = aesCtrKeyTP.byteSizeLong (aesCtrKey (.ofCrc [1, 2, 3] 7)) :=
  ⟨by decide +kernel, (@serialize_fills_buffer castagnoli aesCtrKeyTP (aesCtrKey (.ofCrc [1, 2, 3] 7))
    (List.replicate 9 0xFF) (some 0) (by decide +kernel)).1⟩

end Tink
