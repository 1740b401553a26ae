import Mathlib.Logic.Equiv.List
import Mathlib.Tactic.DeriveEncodable
import TinkCc.EcdsaAgreement
/-!
# StoredKeys — keys and the protos they are stored as

What the parsers and serializers of keys (`*_proto_serialization_impl.cc`) have in common: the type URL, the token, the
message, and integers that may be stored with any number of zeros before them.
-/
namespace Tink

/-! ## Messages -/

inductive SecretKeyAccessToken
  | insecure
  deriving DecidableEq, Repr

/-- `ParseFromString` and `SerializeAsSecretData` of a message class of Tink's own, with what is relied on: a message
whose enum fields hold numbers that have names is read back. -/
structure MessageCodec (M : Type) (named : M → Prop) where
  parseFromString       : Bytes → Option M
  serializeAsSecretData : M → Bytes
  parse_serialize       : ∀ {m}, named m → parseFromString (serializeAsSecretData m) = some m

section
variable {M : Type} {named : M → Prop} (codec : MessageCodec M named)

/-- The check of `TypeUrl()` in a parser. -/
def checkTypeUrl (typeUrl message : String) (serialization : ProtoKeySerialization) : Except Status Unit :=
  if serialization.typeUrl ≠ typeUrl then .error ⟨.invalidArgument, message⟩ else .ok ()

/-- The check of the token in a parser or a serializer of secret keys. -/
def checkToken (token : Option SecretKeyAccessToken) : Except Status Unit :=
  if token.isNone then .error ⟨.permissionDenied, "SecretKeyAccess is required"⟩ else .ok ()

/-- `ParseFromString` in a parser. -/
def parseMessage (message : String) (bytes : Bytes) : Except Status M :=
  match codec.parseFromString bytes with
  | none => .error ⟨.invalidArgument, message⟩
  | some m => .ok m

/-- The check of a `version`. -/
def checkVersion (version : UInt32) (message : String) : Except Status Unit :=
  if version ≠ 0 then .error ⟨.invalidArgument, message⟩ else .ok ()

@[simp] theorem checkToken_some (token : SecretKeyAccessToken) : checkToken (some token) = .ok () := rfl

@[simp] theorem checkVersion_zero (message : String) : checkVersion 0 message = .ok () := rfl

theorem checkTypeUrl_of_eq {typeUrl : String} (message : String) {serialization : ProtoKeySerialization}
    (h : serialization.typeUrl = typeUrl) : checkTypeUrl typeUrl message serialization = .ok () := by
  unfold checkTypeUrl
  rw [if_neg (not_not.2 h)]

theorem checkTypeUrl_ok {typeUrl message : String} {serialization : ProtoKeySerialization}
    (h : checkTypeUrl typeUrl message serialization = .ok ()) : serialization.typeUrl = typeUrl := by
  unfold checkTypeUrl at h
  split at h
  · cases h
  · rename_i hurl
    exact not_not.1 hurl

theorem parseMessage_of_some {message : String} {bytes : Bytes} {m : M} (h : codec.parseFromString bytes = some m) :
    parseMessage codec message bytes = .ok m := by
  unfold parseMessage
  rw [h]

theorem parseMessage_ok {message : String} {bytes : Bytes} {m : M} (h : parseMessage codec message bytes = .ok m) :
    codec.parseFromString bytes = some m := by
  unfold parseMessage at h
  split at h
  · cases h
  · rename_i hm
    cases h
    exact hm

end

/-- A key class, its message, and the functions that `*_proto_serialization_impl.cc` registers for it. -/
structure KeyFormat (Key M : Type) (named : M → Prop) where
  codec     : MessageCodec M named
  parse     : ProtoKeySerialization → Option SecretKeyAccessToken → Except Status Key
  serialize : Key → Option SecretKeyAccessToken → Except Status ProtoKeySerialization

/-- What is stored is this message. -/
structure ProtoKeySerialization.Stores {M : Type} {named : M → Prop} (stored : ProtoKeySerialization)
    (codec : MessageCodec M named) (typeUrl : String) (prefixType : OutputPrefixType) (idRequirement : Option UInt32)
    (m : M) : Prop where
  typeUrl          : stored.typeUrl = typeUrl
  outputPrefixType : stored.outputPrefixType = prefixType
  idRequirement    : stored.idRequirement = idRequirement
  message          : codec.parseFromString stored.serializedKey = some m

/-- Two stored keys are the same but for their messages, which are related. -/
structure ProtoKeySerialization.SameBut {M : Type} {named : M → Prop} (stored stored' : ProtoKeySerialization)
    (codec : MessageCodec M named) (Related : M → M → Prop) : Prop where
  typeUrl          : stored.typeUrl = stored'.typeUrl
  keyMaterialType  : stored.keyMaterialType = stored'.keyMaterialType
  outputPrefixType : stored.outputPrefixType = stored'.outputPrefixType
  idRequirement    : stored.idRequirement = stored'.idRequirement
  messages         : ∃ m m', codec.parseFromString stored.serializedKey = some m ∧
    codec.parseFromString stored'.serializedKey = some m' ∧ Related m m'

section
variable {Key M : Type} {named : M → Prop} (format : KeyFormat Key M named)

/-- The key is stored in a form that `Stored` holds of, and parsing that gives it back. -/
def KeyFormat.RoundTrips (key : Key) (Stored : M → Prop) : Prop :=
  ∀ token, ∃ stored m, format.serialize key (some token) = .ok stored ∧
    format.codec.parseFromString stored.serializedKey = some m ∧ Stored m ∧ format.parse stored (some token) = .ok key

/-- Whatever else the key is stored as, it is parsed from a related message exactly if `Kept` holds of that message. -/
def KeyFormat.ParsesIff (key : Key) (Related : M → M → Prop) (Kept : M → Prop) : Prop :=
  ∀ token stored stored' m', stored.SameBut stored' format.codec Related →
    format.codec.parseFromString stored'.serializedKey = some m' → format.parse stored (some token) = .ok key →
    (format.parse stored' (some token) = .ok key ↔ Kept m')

end

theorem ProtoKeySerialization.create_stores {M : Type} {named : M → Prop} (codec : MessageCodec M named)
    {typeUrl : String} (hurl : isPrintableAscii typeUrl = true) {m : M} (hm : named m)
    (keyMaterialType : KeyMaterialType) {prefixType : OutputPrefixType} {idRequirement : Option UInt32}
    (hid : prefixType = .raw ↔ idRequirement = none) :
    ∃ stored, ProtoKeySerialization.create typeUrl (codec.serializeAsSecretData m) keyMaterialType prefixType
      idRequirement = .ok stored ∧ stored.Stores codec typeUrl prefixType idRequirement m := by
  exact ⟨_, ProtoKeySerialization.create_of_valid hurl hid, rfl, rfl, rfl, codec.parse_serialize hm⟩

/-- How every parser of keys reads what is stored, once it has the token. -/
structure KeyFormat.Reads {Key M : Type} {named : M → Prop} (format : KeyFormat Key M named)
    (typeUrl wrongUrl failure : String) (toKey : M → OutputPrefixType → Option UInt32 → Except Status Key) : Prop where
  parse_eq : ∀ stored token, format.parse stored (some token) = (do
    checkTypeUrl typeUrl wrongUrl stored
    let m ← parseMessage format.codec failure stored.serializedKey
    toKey m stored.outputPrefixType stored.idRequirement)
  printable : isPrintableAscii typeUrl = true

namespace KeyFormat.Reads
variable {Key M : Type} {named : M → Prop} {format : KeyFormat Key M named} {typeUrl wrongUrl failure : String}
  {toKey : M → OutputPrefixType → Option UInt32 → Except Status Key} {key : Key}

theorem of_stores (h : format.Reads typeUrl wrongUrl failure toKey) {stored : ProtoKeySerialization}
    {prefixType : OutputPrefixType} {idRequirement : Option UInt32} {m : M}
    (hstored : stored.Stores format.codec typeUrl prefixType idRequirement m) (token : SecretKeyAccessToken) :
    format.parse stored (some token) = toKey m prefixType idRequirement := by
  rw [h.parse_eq, checkTypeUrl_of_eq _ hstored.typeUrl, parseMessage_of_some _ hstored.message,
    hstored.outputPrefixType, hstored.idRequirement]
  rfl

theorem of_parse (h : format.Reads typeUrl wrongUrl failure toKey) {stored : ProtoKeySerialization}
    {token : SecretKeyAccessToken} (hkey : format.parse stored (some token) = .ok key) :
    ∃ m, stored.Stores format.codec typeUrl stored.outputPrefixType stored.idRequirement m ∧
      toKey m stored.outputPrefixType stored.idRequirement = .ok key := by
  rw [h.parse_eq] at hkey
  obtain ⟨_, hurl, hkey⟩ := bind_eq_ok hkey
  obtain ⟨m, hm, hkey⟩ := bind_eq_ok hkey
  exact ⟨m, ⟨checkTypeUrl_ok hurl, rfl, rfl, parseMessage_ok _ hm⟩, hkey⟩

/-- A key that is serialized as a message, from which it is parsed. -/
theorem roundTrips (h : format.Reads typeUrl wrongUrl failure toKey) (keyMaterialType : KeyMaterialType)
    {Stored : M → Prop} {m : M} {prefixType : OutputPrefixType} {idRequirement : Option UInt32} (hm : named m)
    (hstored : Stored m) (hid : prefixType = .raw ↔ idRequirement = none)
    (hserialize : ∀ token, format.serialize key (some token) = ProtoKeySerialization.create typeUrl
      (format.codec.serializeAsSecretData m) keyMaterialType prefixType idRequirement)
    (hkey : toKey m prefixType idRequirement = .ok key) : format.RoundTrips key Stored := by
  intro token
  obtain ⟨stored, hcreate, hstores⟩ :=
    ProtoKeySerialization.create_stores format.codec h.printable hm keyMaterialType hid
  refine ⟨stored, m, ?_, hstores.message, hstored, ?_⟩
  · rw [hserialize token, hcreate]
  · rw [h.of_stores hstores, hkey]

/-- The messages of a stored key and of one that is the same but for its message. -/
theorem of_sameBut (h : format.Reads typeUrl wrongUrl failure toKey) {Related : M → M → Prop}
    {stored stored' : ProtoKeySerialization} (hsame : stored.SameBut stored' format.codec Related)
    {token : SecretKeyAccessToken} (hkey : format.parse stored (some token) = .ok key) {m' : M}
    (hm' : format.codec.parseFromString stored'.serializedKey = some m') :
    ∃ m, Related m m' ∧ toKey m stored.outputPrefixType stored.idRequirement = .ok key ∧
      format.parse stored' (some token) = toKey m' stored.outputPrefixType stored.idRequirement := by
  obtain ⟨m, hstores, hkey⟩ := h.of_parse hkey
  obtain ⟨m₁, m₁', hm₁, hm₁', hmm'⟩ := hsame.messages
  rw [hstores.message] at hm₁
  cases hm₁
  rw [hm'] at hm₁'
  cases hm₁'
  have hstores' : stored'.Stores format.codec typeUrl stored.outputPrefixType stored.idRequirement m' :=
    ⟨hsame.typeUrl.symm.trans hstores.typeUrl, hsame.outputPrefixType.symm, hsame.idRequirement.symm, hm'⟩
  exact ⟨m, hmm', hkey, h.of_stores hstores' token⟩

/-- A parser that reads the same key from related messages under a condition. -/
theorem parsesIff (h : format.Reads typeUrl wrongUrl failure toKey) {Related : M → M → Prop} {Kept : M → Prop}
    (hrelated : ∀ m m' prefixType idRequirement, Related m m' → toKey m prefixType idRequirement = .ok key →
      (toKey m' prefixType idRequirement = .ok key ↔ Kept m')) : format.ParsesIff key Related Kept := by
  intro token stored stored' m' hsame hm' hkey
  obtain ⟨m, hmm', hkey, hparse⟩ := h.of_sameBut hsame hkey hm'
  rw [hparse, hrelated m m' _ _ hmm' hkey]

/-- A parser that does not tell related messages apart. -/
theorem parsesAlike (h : format.Reads typeUrl wrongUrl failure toKey) {Related : M → M → Prop}
    (hrelated : ∀ m m', Related m m' → toKey m = toKey m') : format.ParsesIff key Related fun _ => True :=
  h.parsesIff fun m m' _ _ hmm' hkey => iff_of_true (hrelated m m' hmm' ▸ hkey) trivial

end KeyFormat.Reads

theorem checkVariantId_ok {variant : KeyVariant} {idRequirement : Option UInt32}
    (h : checkVariantId variant idRequirement = .ok ()) : variant.toOutputPrefixType = .raw ↔ idRequirement = none := by
  unfold checkVariantId KeyVariant.hasIdRequirement at h
  cases variant <;> cases idRequirement <;> simp [KeyVariant.toOutputPrefixType] at h ⊢

/-! ## Integers -/

/-- The same but for the number of zeros before it. -/
def EqualUpToZeros (bytes bytes' : Bytes) : Prop :=
  ∃ n n' digits, bytes = List.replicate n 0 ++ digits ∧ bytes' = List.replicate n' 0 ++ digits

theorem EqualUpToZeros.value_eq {bytes bytes' : Bytes} (h : EqualUpToZeros bytes bytes') :
    BigEndian.value bytes = BigEndian.value bytes' := by
  obtain ⟨n, n', digits, rfl, rfl⟩ := h
  rw [BigEndian.value_zeros_append, BigEndian.value_zeros_append]

/-- **What `ParseBigIntToFixedLength` gives depends on the number only**, while the `int` holds what is too long. -/
theorem parseBigIntToFixedLength_eq {val : Bytes} {length : Nat} (h : val.length < length + 2 ^ 31) :
    parseBigIntToFixedLength val length =
      if BigEndian.value val < 256 ^ length then pure (BigEndian.encode length (BigEndian.value val))
      else throw ⟨.invalidArgument, "Integer too large"⟩ := by
  rw [parseBigIntToFixedLength_of_lt h]
  split
  · rename_i hle
    rw [if_pos (Nat.lt_of_lt_of_le (BigEndian.value_lt val) (Nat.pow_le_pow_right (by omega) hle)),
      BigEndian.encode_value_of_le hle]
  · have hle : val.length - length ≤ val.length := Nat.sub_le _ _
    have hleft : val.length - (val.length - length) = length := by omega
    have hzeros := BigEndian.take_eq_zeros_iff hle
    have hdrop := BigEndian.drop_eq_encode hle
    rw [hleft] at hzeros hdrop
    by_cases hlt : BigEndian.value val < 256 ^ length
    · rw [if_pos (hzeros.2 hlt), if_pos hlt, hdrop hlt]
    · rw [if_neg (mt hzeros.1 hlt), if_neg hlt]

/-- **Other zeros before a number change nothing exactly while the `int` holds what is too long.** -/
theorem EqualUpToZeros.parseBigIntToFixedLength_iff {bytes bytes' parsed : Bytes} (h : EqualUpToZeros bytes bytes')
    {length : Nat} (hparse : parseBigIntToFixedLength bytes length = pure parsed) (hlength : parsed.length = length) :
    parseBigIntToFixedLength bytes' length = pure parsed ↔ bytes'.length < length + 2 ^ 31 := by
  refine ⟨fun h' => lt_of_parseBigIntToFixedLength h' hlength, fun hlt => ?_⟩
  rw [parseBigIntToFixedLength_eq hlt, ← h.value_eq,
    ← parseBigIntToFixedLength_eq (lt_of_parseBigIntToFixedLength hparse hlength), hparse]

/-- A private key whose value is parsed in the length that its public key asks for, from a value with other zeros. -/
theorem EqualUpToZeros.parsePrivateKey_iff {P K : Type} {bytes bytes' : Bytes} (h : EqualUpToZeros bytes bytes')
    (publicKey : Except Status P) (length : P → Nat) (create : P → Bytes → Except Status K) (publicOf : K → P)
    (hcreate : ∀ {p val key}, create p val = .ok key → publicOf key = p ∧ val.length = length p) {key : K}
    (hkey : (do
      let p ← publicKey
      let val ← answered (parseBigIntToFixedLength bytes (length p))
      create p val) = .ok key) :
    (do
      let p ← publicKey
      let val ← answered (parseBigIntToFixedLength bytes' (length p))
      create p val) = .ok key ↔ bytes'.length < length (publicOf key) + 2 ^ 31 := by
  obtain ⟨p, hp, hkey⟩ := bind_eq_ok hkey
  obtain ⟨val, hval, hkey⟩ := bind_eq_ok hkey
  obtain ⟨rfl, hlength⟩ := hcreate hkey
  have hiff := h.parseBigIntToFixedLength_iff (answered_ok.1 hval) hlength
  rw [hp]
  constructor
  · intro hkey'
    obtain ⟨_, hpublic, hkey'⟩ := bind_eq_ok hkey'
    cases hpublic
    obtain ⟨val', hval', hkey'⟩ := bind_eq_ok hkey'
    exact lt_of_parseBigIntToFixedLength (answered_ok.1 hval') (hcreate hkey').2
  · intro hlt
    change (answered (parseBigIntToFixedLength bytes' (length (publicOf key))) >>= _) = _
    rw [hiff.2 hlt]
    exact hkey

theorem sizeInBytes_le {n size : Nat} (h : n < 256 ^ size) : sizeInBytes n ≤ size :=
  (Nat.digits_length_le_iff (by omega) n).2 h

theorem getValueOfFixedLength_of_lt {n length : Nat} (h : n < 256 ^ length) :
    getValueOfFixedLength n length = .ok (BigEndian.encode length n) := by
  unfold getValueOfFixedLength
  rw [if_pos (sizeInBytes_le h)]

theorem EcGroups.getEcPoint_ok {groups : EcGroups} {curve : EllipticCurveType} {x y : Nat} {point : Nat × Nat}
    (h : groups.getEcPoint curve x y = .ok point) :
    x < 256 ^ ecFieldSizeInBytes curve ∧ y < 256 ^ ecFieldSizeInBytes curve := by
  unfold EcGroups.getEcPoint at h
  split at h
  · rename_i hcurve
    exact groups.range curve x y hcurve
  · cases h

/-! ## Codecs with the bytes of some messages -/

instance encodableUInt8 : Encodable UInt8 := .ofLeftInjection UInt8.toNat (fun n => some (UInt8.ofNat n)) fun x => by simp
instance encodableUInt32 : Encodable UInt32 := .ofLeftInjection UInt32.toNat (fun n => some (UInt32.ofNat n)) fun x => by simp
instance encodableChar : Encodable Char := .ofLeftInjection Char.toNat (fun n => some (Char.ofNat n)) fun c => by simp
instance encodableString : Encodable String := .ofLeftInjection String.toList (fun chars => some (String.ofList chars)) fun s => by simp

deriving instance Encodable for HashTypeProto, JwtAlgorithm, JwtAlgorithmProto

/-- Every message as so many zeros. -/
def MessageCodec.numbered {M : Type} [Encodable M] (named : M → Prop) : MessageCodec M named where
  parseFromString := fun stored => Encodable.decode stored.length
  serializeAsSecretData := fun m => List.replicate (Encodable.encode m) 0
  parse_serialize := by
    intro m _
    rw [List.length_replicate, Encodable.encodek]

/-- The bytes of some messages, and so many zeros for every other message. -/
def MessageCodec.withTable {M : Type} [Encodable M] [DecidableEq M] (named : M → Prop) (table : List (M × Bytes))
    (htable : ∀ row ∈ table, row.2.head? ≠ some 0 ∧ table.find? (fun row' => decide (row'.2 = row.2)) = some row) :
    MessageCodec M named where
  parseFromString := fun stored =>
    match table.find? fun row => decide (row.2 = stored) with
    | some row => some row.1
    | none => Encodable.decode (stored.length - 1)
  serializeAsSecretData := fun m =>
    match table.find? fun row => decide (row.1 = m) with
    | some row => row.2
    | none => 0 :: List.replicate (Encodable.encode m) 0
  parse_serialize := by
    intro m _
    cases hfind : table.find? fun row => decide (row.1 = m) with
    | some row =>
      dsimp only
      rw [(htable row (List.mem_of_find?_eq_some hfind)).2]
      have hrow := List.find?_some hfind
      exact congrArg some (of_decide_eq_true hrow)
    | none =>
      have hnone : table.find? (fun row => decide (row.2 = 0 :: List.replicate (Encodable.encode m) 0)) = none := by
        rw [List.find?_eq_none]
        intro row hrow heq
        apply (htable row hrow).1
        rw [of_decide_eq_true heq]
        rfl
      dsimp only
      rw [hnone]
      dsimp only
      rw [List.length_cons, List.length_replicate, Nat.add_sub_cancel, Encodable.encodek]

/-- A length-delimited field of fewer than 128 bytes. -/
def lengthDelimited (tag : UInt8) (payload : Bytes) : Bytes := tag :: UInt8.ofNat payload.length :: payload

end Tink
