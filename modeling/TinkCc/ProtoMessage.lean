import Mathlib.Data.Fin.Basic
import Mathlib.Data.Fin.VecNotation
import Mathlib.Data.List.FinRange
import Mathlib.Order.Fin.Basic
import Mathlib.Logic.Function.Basic
import TinkCc.ProtoHelpers
/-!
# ProtoMessage — fields and messages of the proto parser

`proto_parser_options.h`, the field classes (`proto_parser_scalar_fields.cc`, `proto_parser_enum_field.cc`,
`proto_parser_secret_data_field.cc`, `proto_parser_repeated_secret_data_field.cc`) and `proto_parser_message.{h,cc}`.

A C++ message class is its table of fields: `num_fields()`, `field(i)` and each field's class.  Here a `MessageType` is
that table, and `MessageType.Value` is the type of its values, so a value cannot disagree with its class.  The virtual
calls a `Message` makes on its fields become the function arguments of `parseStep`, `serializeFields` and `sumSizes`.

`BeforeFieldSet` does nothing in `Message` and no message class outside the tests overrides it, so it has no model.
A failed parse leaves a half-filled message behind that nobody may read: here it leaves nothing.  Sizes (`size_t`) are
natural numbers, since a message and its serialization are in memory.
-/
namespace Tink

inductive ProtoFieldOptions
  | kImplicit
  | kExplicit
  | kAlwaysPresent
  deriving DecidableEq, Repr

/-! ## Message types -/

/-- The field numbers of a message class, in the order of `field(i)`: strictly increasing, as `field` requires, and
in the range `SerializeWireTypeAndFieldNumber` can write. -/
structure FieldNumbers where
  numFields   : Nat
  fieldNumber : Fin numFields → Nat
  sorted      : StrictMono fieldNumber
  ne_zero     : ∀ i, fieldNumber i ≠ 0
  lt          : ∀ i, fieldNumber i < 2 ^ 29

/-- A field class with its constructor arguments, the field number apart.  `MessageField` refuses `kImplicit`, and
`EnumFieldBase` refuses a default other than 0 with it. -/
inductive FieldType
  | uint32 (options : ProtoFieldOptions)
  | uint64 (options : ProtoFieldOptions)
  | bytes (options : ProtoFieldOptions)
  | secretData (options : ProtoFieldOptions)
  | enum (isValid : UInt32 → Bool) (defaultValue : UInt32) (options : ProtoFieldOptions)
      (check : defaultValue = 0 ∨ options ≠ .kImplicit)
  | message (options : ProtoFieldOptions) (check : options ≠ .kImplicit) (nums : FieldNumbers)
      (field : Fin nums.numFields → FieldType)
  | repeatedMessage (nums : FieldNumbers) (field : Fin nums.numFields → FieldType)
  | repeatedSecretData

/-- `std::optional<T> value_` beside its presence option: only a `kExplicit` field can be empty. -/
@[ext] structure Slot (options : ProtoFieldOptions) (α : Type) where
  value?  : Option α
  present : options ≠ .kExplicit → value?.isSome

/-- The values of a field. -/
def FieldType.Value : FieldType → Type
  | .uint32 o                 => Slot o UInt32
  | .uint64 o                 => Slot o UInt64
  | .bytes o                  => Slot o Bytes
  | .secretData o             => Slot o SecretData
  | .enum _ _ o _             => Slot o UInt32
  | .message o _ nums field   => Slot o ((i : Fin nums.numFields) → (field i).Value)
  | .repeatedMessage nums field => List ((i : Fin nums.numFields) → (field i).Value)
  | .repeatedSecretData       => List SecretData

structure MessageType where
  nums  : FieldNumbers
  field : Fin nums.numFields → FieldType

abbrev MessageType.Value (T : MessageType) : Type := (i : Fin T.nums.numFields) → (T.field i).Value

/-- The wire type each field class passes to `Field`. -/
def FieldType.wireType : FieldType → WireType
  | .uint32 _ | .uint64 _ | .enum .. => .kVarint
  | .bytes _ | .secretData _ | .message .. | .repeatedMessage .. | .repeatedSecretData => .kLengthDelimited

/-! ## Presence -/

/-- `value_.emplace(v)`. -/
def Slot.set {o : ProtoFieldOptions} {α : Type} (v : α) : Slot o α := ⟨some v, fun _ => rfl⟩

/-- `Clear`: a `kExplicit` field is reset, the others take the default. -/
def Slot.cleared {α : Type} : (o : ProtoFieldOptions) → (defaultValue : α) → Slot o α
  | .kExplicit, _      => ⟨none, fun h => absurd rfl h⟩
  | .kImplicit, d      => ⟨some d, fun _ => rfl⟩
  | .kAlwaysPresent, d => ⟨some d, fun _ => rfl⟩

/-- `value()`. -/
def Slot.value {o : ProtoFieldOptions} {α : Type} (s : Slot o α) (defaultValue : α) : α :=
  s.value?.getD defaultValue

/-- `RequiresSerialization`, with the class's test for its default. -/
def Slot.requiresSerialization {o : ProtoFieldOptions} {α : Type} (s : Slot o α) (defaultValue : α)
    (isDefault : α → Bool) : Bool :=
  match o with
  | .kExplicit      => s.value?.isSome
  | .kAlwaysPresent => true
  | .kImplicit      => !isDefault (s.value defaultValue)

/-- `Clear` of each class; it reads nothing of what the field held. -/
def FieldType.cleared : (t : FieldType) → t.Value
  | .uint32 o              => Slot.cleared o (0 : UInt32)
  | .uint64 o              => Slot.cleared o (0 : UInt64)
  | .bytes o               => Slot.cleared o ([] : Bytes)
  | .secretData o          => Slot.cleared o SecretData.empty
  | .enum _ d o _          => Slot.cleared o d
  | .message o _ _ field   => Slot.cleared o (fun i => (field i).cleared)
  | .repeatedMessage _ _   => []
  | .repeatedSecretData    => []

/-- `Message::Clear`. -/
def MessageType.clear (T : MessageType) (_m : T.Value) : T.Value := fun i => (T.field i).cleared

/-! ## FieldWithNumber -/

/-- The binary search of `FieldWithNumber`, on the inclusive range `[low, high]`. -/
def FieldNumbers.searchLoop (nums : FieldNumbers) (fieldNumber : Nat) :
    (fuel : Nat) → (low high : Int) → Option (Fin nums.numFields)
  | 0, _, _ => none
  | fuel + 1, low, high =>
    if low ≤ high then
      let mid := low + (high - low) / 2
      if h : mid.toNat < nums.numFields then
        if nums.fieldNumber ⟨mid.toNat, h⟩ = fieldNumber then some ⟨mid.toNat, h⟩
        else if nums.fieldNumber ⟨mid.toNat, h⟩ < fieldNumber then nums.searchLoop fieldNumber fuel (mid + 1) high
        else nums.searchLoop fieldNumber fuel low (mid - 1)
      else none
    else none

def FieldNumbers.fieldWithNumber (nums : FieldNumbers) (fieldNumber : Nat) : Option (Fin nums.numFields) :=
  nums.searchLoop fieldNumber (nums.numFields + 1) 0 (nums.numFields - 1)

/-! ## The loops of `Message` over its fields -/

section Loops
variable [AbslCrc] {nums : FieldNumbers} {M : Fin nums.numFields → Type}

/-- What `Parse` does with a record no field takes. -/
def skipRecord (wireType : WireType) (fieldNumber : Nat) (st : ParsingState) : Option ParsingState :=
  if wireType = .kStartGroup then skipGroup fieldNumber st else skipField wireType st

/-- One turn of the loop of `Message::Parse`. -/
def parseStep (wireType : Fin nums.numFields → WireType)
    (consume : (i : Fin nums.numFields) → M i → ParsingState → Option (M i × ParsingState))
    (m : (i : Fin nums.numFields) → M i) (st : ParsingState) :
    Option (((i : Fin nums.numFields) → M i) × ParsingState) :=
  match consumeIntoWireTypeAndFieldNumber st with
  | none => none
  | some (wt, fieldNumber, st) =>
    match nums.fieldWithNumber fieldNumber with
    | none => (skipRecord wt fieldNumber st).map (fun st => (m, st))
    | some i =>
      if wireType i ≠ wt then (skipRecord wt fieldNumber st).map (fun st => (m, st))
      else
        match consume i (m i) st with
        | none => none
        | some (v, st) => some (Function.update m i v, st)

/-- The loop of `Message::Parse`.  Every turn reads a tag, so the bytes left bound the turns. -/
def parseLoop (wireType : Fin nums.numFields → WireType)
    (consume : (i : Fin nums.numFields) → M i → ParsingState → Option (M i × ParsingState)) :
    (fuel : Nat) → ((i : Fin nums.numFields) → M i) → ParsingState →
      Option (((i : Fin nums.numFields) → M i) × ParsingState)
  | 0, m, st => if st.parsingDone then some (m, st) else none
  | fuel + 1, m, st =>
    if st.parsingDone then some (m, st)
    else
      match parseStep wireType consume m st with
      | none => none
      | some (m, st) => parseLoop wireType consume fuel m st

/-- `MessageFieldBase::ConsumeIntoMember` and `RepeatedMessageFieldBase::ConsumeIntoMember`, on the message to fill. -/
def consumeSubmessage (wireType : Fin nums.numFields → WireType)
    (consume : (i : Fin nums.numFields) → M i → ParsingState → Option (M i × ParsingState))
    (msg : (i : Fin nums.numFields) → M i) (st : ParsingState) :
    Option (((i : Fin nums.numFields) → M i) × ParsingState) :=
  match consumeVarintForSize st with
  | none => none
  | some (length, st) =>
    if length > st.remaining.length then none
    else
      let (sub, st) := st.splitOffSubmessageState length
      match parseLoop wireType consume sub.remaining.length msg sub with
      | none => none
      | some (msg, sub) => if sub.parsingDone then some (msg, st.rejoin sub) else none

/-- `Message::Serialize`, and every loop over the elements of a repeated field. -/
def serializeAll {α : Type} (serialize : α → SerializationState → Option SerializationState) :
    List α → SerializationState → Option SerializationState
  | [], out => some out
  | x :: xs, out =>
    match serialize x out with
    | none => none
    | some out => serializeAll serialize xs out

/-- The loop of `Message::ByteSizeLong`, and of the repeated fields' sizes. -/
def sumSizes {α : Type} (size : α → Nat) (xs : List α) : Nat := xs.foldl (fun total x => total + size x) 0

/-- A tag, a size and that many bytes, the last step given: `BytesField`, `SecretDataField` and
`RepeatedSecretDataField` copy the bytes and advance, the message fields serialize the message. -/
def serializeDelimited (fieldNumber size : Nat) (body : SerializationState → Option SerializationState)
    (out : SerializationState) : Option SerializationState :=
  match serializeWireTypeAndFieldNumber .kLengthDelimited fieldNumber out with
  | none => none
  | some out =>
    match serializeVarint size out with
    | none => none
    | some out => if out.buffer.length < size then none else body out

/-- `SafeMemCopy` of secret data and `AdvanceWithCrc` with the CRC it carries. -/
def copySecret (s : SecretData) (out : SerializationState) : Option SerializationState :=
  some ((out.store s.bytes).advanceWithCrc s.bytes.length s.crc32c)

/-- A tag and a varint: `Uint32Field`, `Uint64Field` and `EnumFieldBase`. -/
def serializeScalar (fieldNumber value : Nat) (out : SerializationState) : Option SerializationState :=
  match serializeWireTypeAndFieldNumber .kVarint fieldNumber out with
  | none => none
  | some out => serializeVarint value out

def delimitedSize (fieldNumber size : Nat) : Nat :=
  wireTypeAndFieldNumberLength .kLengthDelimited fieldNumber + varintLength size + size

def scalarSize (fieldNumber value : Nat) : Nat :=
  wireTypeAndFieldNumberLength .kVarint fieldNumber + varintLength value

/-- `SecretDataField` and `RepeatedSecretDataField`: the element read from the wire, with the CRC of its bytes. -/
def consumeSecret (st : ParsingState) : Option (SecretData × ParsingState) :=
  match consumeVarintForSize st with
  | none => none
  | some (length, st) =>
    if length > st.remaining.length then none
    else
      let secretBytes := st.remaining.take length
      let (crc, st) := st.advanceAndGetCrc length
      some (SecretData.ofCrc secretBytes crc, st)

end Loops

/-! ## The virtual functions of `Field` -/

section Fields
variable [AbslCrc]

def FieldType.consumeIntoMember : (t : FieldType) → t.Value → ParsingState → Option (t.Value × ParsingState)
  | .uint32 _, _, st =>
    match consumeVarintIntoUint32 st with
    | none => none
    | some (result, st) => some (Slot.set (UInt32.ofNat result), st)
  | .uint64 _, _, st =>
    match consumeVarintIntoUint64 st with
    | none => none
    | some (result, st) => some (Slot.set (UInt64.ofNat result), st)
  | .bytes _, _, st =>
    match consumeBytesReturnStringView st with
    | none => none
    | some (result, st) => some (Slot.set result, st)
  | .secretData _, _, st =>
    match consumeSecret st with
    | none => none
    | some (s, st) => some (Slot.set s, st)
  | .enum isValid _ _ _, v, st =>
    match consumeVarintIntoUint32 st with
    | none => none
    | some (result, st) =>
      -- a value the enum does not know is read and dropped
      if isValid (UInt32.ofNat result) then some (Slot.set (UInt32.ofNat result), st) else some (v, st)
  | .message _ _ _ field, v, st =>
    let mutableMessage := Slot.value v (fun i => (field i).cleared)
    match consumeSubmessage (fun i => (field i).wireType) (fun i => (field i).consumeIntoMember) mutableMessage st with
    | none => none
    | some (msg, st) => some (Slot.set msg, st)
  | .repeatedMessage _ field, v, st =>
    match consumeSubmessage (fun i => (field i).wireType) (fun i => (field i).consumeIntoMember)
        (fun i => (field i).cleared) st with
    | none => none
    | some (msg, st) => some (List.append v [msg], st)
  | .repeatedSecretData, v, st =>
    match consumeSecret st with
    | none => none
    | some (s, st) => some (List.append v [s], st)

def FieldType.getSerializedSizeIncludingTag : (t : FieldType) → (fieldNumber : Nat) → t.Value → Nat
  | .uint32 _, n, v => if Slot.requiresSerialization v 0 (· == 0) then scalarSize n (Slot.value v 0).toNat else 0
  | .uint64 _, n, v => if Slot.requiresSerialization v 0 (· == 0) then scalarSize n (Slot.value v 0).toNat else 0
  | .bytes _, n, v =>
    if Slot.requiresSerialization v [] (· == []) then delimitedSize n (Slot.value v []).length else 0
  | .secretData _, n, v =>
    if Slot.requiresSerialization v .empty (secretDataEquals · .empty) then
      delimitedSize n (Slot.value v .empty).bytes.length
    else 0
  | .enum _ d _ _, n, v => if Slot.requiresSerialization v d (· == d) then scalarSize n (Slot.value v d).toNat else 0
  | .message _ _ nums field, n, v =>
    match Slot.value? v with
    | none => 0
    | some msg =>
      delimitedSize n (sumSizes (fun i => (field i).getSerializedSizeIncludingTag (nums.fieldNumber i) (msg i))
        (List.finRange nums.numFields))
  | .repeatedMessage nums field, n, v =>
    sumSizes (fun msg => delimitedSize n
      (sumSizes (fun i => (field i).getSerializedSizeIncludingTag (nums.fieldNumber i) (msg i))
        (List.finRange nums.numFields))) v
  | .repeatedSecretData, n, v => sumSizes (fun s : SecretData => delimitedSize n s.bytes.length) v

def FieldType.serializeWithTagInto :
    (t : FieldType) → (fieldNumber : Nat) → t.Value → SerializationState → Option SerializationState
  | .uint32 _, n, v, out =>
    if Slot.requiresSerialization v 0 (· == 0) then serializeScalar n (Slot.value v 0).toNat out else some out
  | .uint64 _, n, v, out =>
    if Slot.requiresSerialization v 0 (· == 0) then serializeScalar n (Slot.value v 0).toNat out else some out
  | .bytes _, n, v, out =>
    if Slot.requiresSerialization v [] (· == []) then
      let value := Slot.value v []
      serializeDelimited n value.length (fun out => some ((out.store value).advance value.length)) out
    else some out
  | .secretData _, n, v, out =>
    if Slot.requiresSerialization v .empty (secretDataEquals · .empty) then
      let value := Slot.value v .empty
      serializeDelimited n value.bytes.length (copySecret value) out
    else some out
  | .enum _ d _ _, n, v, out =>
    if Slot.requiresSerialization v d (· == d) then serializeScalar n (Slot.value v d).toNat out else some out
  | .message _ _ nums field, n, v, out =>
    match Slot.value? v with
    | none => some out
    | some msg =>
      let size := sumSizes (fun i => (field i).getSerializedSizeIncludingTag (nums.fieldNumber i) (msg i))
        (List.finRange nums.numFields)
      serializeDelimited n size
        (serializeAll (fun i => (field i).serializeWithTagInto (nums.fieldNumber i) (msg i))
          (List.finRange nums.numFields)) out
  | .repeatedMessage nums field, n, v, out =>
    serializeAll (fun msg =>
      let size := sumSizes (fun i => (field i).getSerializedSizeIncludingTag (nums.fieldNumber i) (msg i))
        (List.finRange nums.numFields)
      serializeDelimited n size
        (serializeAll (fun i => (field i).serializeWithTagInto (nums.fieldNumber i) (msg i))
          (List.finRange nums.numFields))) v out
  | .repeatedSecretData, n, v, out =>
    serializeAll (fun s : SecretData => serializeDelimited n s.bytes.length (copySecret s)) v out

/-! ## Message -/

def MessageType.parse (T : MessageType) (m : T.Value) (st : ParsingState) : Option (T.Value × ParsingState) :=
  parseLoop (fun i => (T.field i).wireType) (fun i => (T.field i).consumeIntoMember) st.remaining.length m st

/-- `ParseFromStringImpl`, with the CRC cell it was given; the two `ABSL_QCHECK`s are the last test. -/
def MessageType.parseFromStringImpl (T : MessageType) (m : T.Value) (input : Bytes) (crc : Option UInt32) :
    Option (T.Value × ParsingState) :=
  match T.parse (T.clear m) { remaining := input, crc := crc } with
  | none => none
  | some (m, st) => if st.parsingDone then some (m, st) else none

def MessageType.parseFromString (T : MessageType) (m : T.Value) (input : Bytes) : Option T.Value :=
  (T.parseFromStringImpl m input none).map Prod.fst

def MessageType.parseFromStringWithCrc (T : MessageType) (m : T.Value) (input : Bytes) :
    Except Status (T.Value × UInt32) :=
  match T.parseFromStringImpl m input (some 0) with
  | some (m, { crc := some c, .. }) => .ok (m, c)
  | _ => .error ⟨.invalidArgument, "Failed to parse message"⟩

def MessageType.byteSizeLong (T : MessageType) (m : T.Value) : Nat :=
  sumSizes (fun i => (T.field i).getSerializedSizeIncludingTag (T.nums.fieldNumber i) (m i))
    (List.finRange T.nums.numFields)

def MessageType.serialize (T : MessageType) (m : T.Value) (out : SerializationState) : Option SerializationState :=
  serializeAll (fun i => (T.field i).serializeWithTagInto (T.nums.fieldNumber i) (m i))
    (List.finRange T.nums.numFields) out

/-- The two `ABSL_QCHECK`s of `SerializeAsString` and `SerializeAsSecretData`: `Serialize` succeeded and the buffer is
used up; `none` is an abort. -/
def MessageType.serializeChecked (T : MessageType) (m : T.Value) (out : SerializationState) :
    Option SerializationState :=
  match T.serialize m out with
  | none => none
  | some out => if out.buffer.isEmpty then some out else none

def MessageType.serializeAsString (T : MessageType) (m : T.Value) : Option Bytes :=
  (T.serializeChecked m { written := [], buffer := List.replicate (T.byteSizeLong m) 0, crc := none }).map
    SerializationState.written

def MessageType.serializeAsSecretData (T : MessageType) (m : T.Value) : Option SecretData :=
  match T.serializeChecked m { written := [], buffer := List.replicate (T.byteSizeLong m) 0, crc := some 0 } with
  | none => none
  | some out => some (SecretData.ofCrc out.written (out.crc.getD 0))

end Fields

/-! ## A message of the code base -/

/-- `AesCtrParamsTP`. -/
def aesCtrParamsTP : MessageType where
  nums := ⟨1, ![1], by decide, by decide, by decide⟩
  field := ![.uint32 .kImplicit]

/-- `AesCtrKeyTP`: version, params and the secret key value. -/
def aesCtrKeyTP : MessageType where
  nums := ⟨3, ![1, 2, 3], by decide, by decide, by decide⟩
  field := ![.uint32 .kImplicit, .message .kExplicit (by decide) aesCtrParamsTP.nums aesCtrParamsTP.field,
    .secretData .kExplicit]

/-- A key of version 0 with a 12-byte IV. -/
def aesCtrKey (keyValue : SecretData) : aesCtrKeyTP.Value
  | ⟨0, _⟩ => (Slot.set 0 : Slot .kImplicit UInt32)
  | ⟨1, _⟩ => (Slot.set (fun | ⟨0, _⟩ => (Slot.set 12 : Slot .kImplicit UInt32)) : Slot .kExplicit aesCtrParamsTP.Value)
  | ⟨2, _⟩ => (Slot.set keyValue : Slot .kExplicit SecretData)

end Tink
