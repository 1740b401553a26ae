import TinkCc.StoredKeys
/-!
# EcdsaFormat — ECDSA keys and JWT ECDSA keys as they are stored

`ecdsa_proto_serialization_impl.cc` and `jwt_ecdsa_proto_serialization_impl.cc`, from the type URL to the key and back,
and `jwt_ecdsa_private_key.cc`.
-/
namespace Tink

/-! ## ECDSA -/

namespace EcdsaProtoSerialization

def publicTypeUrl : String := "type.googleapis.com/google.crypto.tink.EcdsaPublicKey"
def privateTypeUrl : String := "type.googleapis.com/google.crypto.tink.EcdsaPrivateKey"

variable (lib : EcKeyLibrary) (publicCodec : MessageCodec EcdsaPublicKeyProto (·.params.IsNamed))
  (privateCodec : MessageCodec EcdsaPrivateKeyProto (·.publicKey.params.IsNamed))

/-- `ParsePublicKey`. -/
def parsePublicKey (serialization : ProtoKeySerialization) (_token : Option SecretKeyAccessToken) :
    Except Status EcdsaPublicKey := do
  checkTypeUrl publicTypeUrl "Wrong type URL when parsing EcdsaPublicKey." serialization
  let protoKey ← parseMessage publicCodec "Failed to parse EcdsaPublicKey proto" serialization.serializedKey
  parseEcdsaPublicKeyProto lib protoKey serialization.outputPrefixType serialization.idRequirement

/-- `ParsePrivateKey`. -/
def parsePrivateKey (serialization : ProtoKeySerialization) (token : Option SecretKeyAccessToken) :
    Except Status EcdsaPrivateKey := do
  checkTypeUrl privateTypeUrl "Wrong type URL when parsing EcdsaPrivateKey." serialization
  checkToken token
  let protoKey ← parseMessage privateCodec "Failed to parse EcdsaPrivateKey proto" serialization.serializedKey
  parseEcdsaPrivateKey lib protoKey serialization.outputPrefixType serialization.idRequirement

/-- `SerializePublicKey`. -/
def serializePublicKey (key : EcdsaPublicKey) (_token : Option SecretKeyAccessToken) :
    Except Status ProtoKeySerialization := do
  let protoKey ← serializeEcdsaPublicKey key
  ProtoKeySerialization.create publicTypeUrl (publicCodec.serializeAsSecretData protoKey) .asymmetricPublic
    key.parameters.variant.toOutputPrefixType key.idRequirement

/-- `SerializePrivateKey`. -/
def serializePrivateKey (key : EcdsaPrivateKey) (token : Option SecretKeyAccessToken) :
    Except Status ProtoKeySerialization := do
  checkToken token
  let protoKey ← serializeEcdsaPrivateKey key
  ProtoKeySerialization.create privateTypeUrl (privateCodec.serializeAsSecretData protoKey) .asymmetricPrivate
    key.publicKey.parameters.variant.toOutputPrefixType key.publicKey.idRequirement

def publicKeys : KeyFormat EcdsaPublicKey EcdsaPublicKeyProto (·.params.IsNamed) :=
  ⟨publicCodec, parsePublicKey lib publicCodec, serializePublicKey publicCodec⟩

def privateKeys : KeyFormat EcdsaPrivateKey EcdsaPrivateKeyProto (·.publicKey.params.IsNamed) :=
  ⟨privateCodec, parsePrivateKey lib privateCodec, serializePrivateKey privateCodec⟩

end EcdsaProtoSerialization

/-- What `EcdsaParameters::Builder` and `EcdsaPublicKey::Create` gave. -/
structure EcdsaPublicKey.Created (lib : EcKeyLibrary) (key : EcdsaPublicKey) : Prop where
  build  : EcdsaParameters.build key.parameters.curveType key.parameters.hashType key.parameters.signatureEncoding
    key.parameters.variant = .ok key.parameters
  create : EcdsaPublicKey.create lib key.parameters key.publicPoint key.idRequirement = .ok key

structure EcdsaPrivateKey.Created (lib : EcKeyLibrary) (key : EcdsaPrivateKey) : Prop where
  publicKey : key.publicKey.Created lib
  create    : EcdsaPrivateKey.create lib key.publicKey key.privateKeyValue = .ok key

/-- The coordinates are stored with one byte more than the field has. -/
def EcdsaPublicKeyProto.HasLength (length : Nat) (key : EcdsaPublicKeyProto) : Prop :=
  key.x.length = length ∧ key.y.length = length

def EcdsaPrivateKeyProto.HasLength (length : Nat) (key : EcdsaPrivateKeyProto) : Prop :=
  key.publicKey.HasLength length ∧ key.keyValue.length = length

/-- The same but for zeros before the coordinates. -/
structure EcdsaPublicKeyProto.SameNumbers (key key' : EcdsaPublicKeyProto) : Prop where
  version : key.version = key'.version
  params  : key.params = key'.params
  x       : EqualUpToZeros key.x key'.x
  y       : EqualUpToZeros key.y key'.y

structure EcdsaPrivateKeyProto.SameNumbers (key key' : EcdsaPrivateKeyProto) : Prop where
  version   : key.version = key'.version
  publicKey : key.publicKey.SameNumbers key'.publicKey
  keyValue  : EqualUpToZeros key.keyValue key'.keyValue

section
variable {lib : EcKeyLibrary}

theorem pow_ecFieldSize_le (curve : EllipticCurveType) : 256 ^ ecFieldSizeInBytes curve ≤ 256 ^ getEncodingLength curve :=
  Nat.pow_le_pow_right (by omega) (by cases curve <;> decide)

theorem privateKeyLength_le (parameters : EcdsaParameters) :
    parameters.privateKeyLength ≤ getEncodingLength parameters.curveType := by
  unfold EcdsaParameters.privateKeyLength
  cases parameters.curveType <;> decide

theorem toEcdsaVariant_toOutputPrefixType (variant : KeyVariant) :
    toEcdsaVariant variant.toOutputPrefixType = .ok variant := by
  cases variant <;> rfl

theorem toEcdsaParameters_toProto {parameters : EcdsaParameters}
    (h : EcdsaParameters.build parameters.curveType parameters.hashType parameters.signatureEncoding
      parameters.variant = .ok parameters) :
    toEcdsaParameters parameters.variant.toOutputPrefixType parameters.toProto = .ok parameters := by
  unfold toEcdsaParameters EcdsaParameters.toProto
  have hhash : toEcdsaHashType parameters.hashType.toProto = .ok parameters.hashType := by
    unfold EcdsaParameters.build at h
    split at h
    · cases h
    · rename_i hhash
      obtain ⟨curveType, hashType, encoding, variant⟩ := parameters
      cases hashType <;> first | rfl | exact absurd (by simp) hhash
  have hcurve : toCurveType parameters.curveType.toProto = .ok parameters.curveType := by
    cases parameters.curveType <;> rfl
  have hencoding : toSignatureEncoding parameters.signatureEncoding.toProto = .ok parameters.signatureEncoding := by
    cases parameters.signatureEncoding <;> rfl
  rw [toEcdsaVariant_toOutputPrefixType, hhash, hcurve, hencoding]
  exact h

/-- The coordinates that are stored. -/
theorem EcdsaPublicKey.Created.serialize {key : EcdsaPublicKey} (h : key.Created lib) :
    ∃ x y, getValueOfFixedLength key.publicPoint.1 (getEncodingLength key.parameters.curveType) = .ok x ∧
      getValueOfFixedLength key.publicPoint.2 (getEncodingLength key.parameters.curveType) = .ok y ∧
      BigEndian.value x = key.publicPoint.1 ∧ BigEndian.value y = key.publicPoint.2 ∧
      x.length = getEncodingLength key.parameters.curveType ∧ y.length = getEncodingLength key.parameters.curveType := by
  obtain ⟨_, -, hcreate⟩ := bind_eq_ok h.create
  obtain ⟨point, hpoint, -⟩ := bind_eq_ok hcreate
  obtain ⟨hx, hy⟩ := EcGroups.getEcPoint_ok hpoint
  have hx := getValueOfFixedLength_of_lt (Nat.lt_of_lt_of_le hx (pow_ecFieldSize_le _))
  have hy := getValueOfFixedLength_of_lt (Nat.lt_of_lt_of_le hy (pow_ecFieldSize_le _))
  obtain ⟨hxlen, hxvalue⟩ := getValueOfFixedLength_ok hx
  obtain ⟨hylen, hyvalue⟩ := getValueOfFixedLength_ok hy
  exact ⟨_, _, hx, hy, hxvalue, hyvalue, hxlen, hylen⟩

theorem EcdsaPublicKey.Created.id_iff {key : EcdsaPublicKey} (h : key.Created lib) :
    key.parameters.variant.toOutputPrefixType = .raw ↔ key.idRequirement = none := by
  obtain ⟨_, hid, -⟩ := bind_eq_ok h.create
  exact checkVariantId_ok hid

theorem parseEcdsaPublicKeyProto_of_values {key : EcdsaPublicKey} (h : key.Created lib) {x y : Bytes}
    (hx : BigEndian.value x = key.publicPoint.1) (hy : BigEndian.value y = key.publicPoint.2) :
    parseEcdsaPublicKeyProto lib ⟨0, key.parameters.toProto, x, y⟩ key.parameters.variant.toOutputPrefixType
      key.idRequirement = .ok key := by
  unfold parseEcdsaPublicKeyProto
  rw [if_neg (not_not.2 rfl), toEcdsaParameters_toProto h.build, hx, hy]
  exact h.create

theorem parseEcdsaPublicKeyProto_congr {key key' : EcdsaPublicKeyProto} (h : key.SameNumbers key') :
    parseEcdsaPublicKeyProto lib key = parseEcdsaPublicKeyProto lib key' := by
  funext prefixType idRequirement
  unfold parseEcdsaPublicKeyProto
  rw [h.version, h.params, h.x.value_eq, h.y.value_eq]

theorem parseEcdsaPrivateKey_sameNumbers {proto proto' : EcdsaPrivateKeyProto} {prefixType : OutputPrefixType}
    {idRequirement : Option UInt32} {key : EcdsaPrivateKey} (h : proto.SameNumbers proto')
    (hkey : parseEcdsaPrivateKey lib proto prefixType idRequirement = .ok key) :
    parseEcdsaPrivateKey lib proto' prefixType idRequirement = .ok key ↔
      proto'.keyValue.length < key.publicKey.parameters.privateKeyLength + 2 ^ 31 := by
  unfold parseEcdsaPrivateKey at hkey ⊢
  rw [← h.version, ← h.publicKey.version, ← h.publicKey.params, ← h.publicKey.x.value_eq, ← h.publicKey.y.value_eq]
  split at hkey
  · cases hkey
  split at hkey
  · cases hkey
  rw [if_neg ‹_›, if_neg ‹_›]
  rw [← bind_assoc] at hkey ⊢
  refine h.keyValue.parsePrivateKey_iff _ _ _ EcdsaPrivateKey.publicKey (fun hcreate => ?_) hkey
  obtain ⟨rfl, hlength⟩ := EcdsaPrivateKey.create_ok hcreate
  exact ⟨rfl, hlength⟩

end

namespace EcdsaProtoSerialization

theorem publicKeys_reads (lib : EcKeyLibrary) (codec : MessageCodec EcdsaPublicKeyProto (·.params.IsNamed)) :
    (publicKeys lib codec).Reads publicTypeUrl "Wrong type URL when parsing EcdsaPublicKey."
      "Failed to parse EcdsaPublicKey proto" (parseEcdsaPublicKeyProto lib) :=
  ⟨fun _ _ => rfl, by simp [isPrintableAscii, publicTypeUrl]⟩

theorem privateKeys_reads (lib : EcKeyLibrary) (codec : MessageCodec EcdsaPrivateKeyProto (·.publicKey.params.IsNamed)) :
    (privateKeys lib codec).Reads privateTypeUrl "Wrong type URL when parsing EcdsaPrivateKey."
      "Failed to parse EcdsaPrivateKey proto" (parseEcdsaPrivateKey lib) :=
  ⟨fun _ _ => rfl, by simp [isPrintableAscii, privateTypeUrl]⟩

end EcdsaProtoSerialization

/-- **Public ECDSA keys.** -/
theorem EcdsaPublicKey.Created.survives {lib : EcKeyLibrary} {key : EcdsaPublicKey} (h : key.Created lib)
    (codec : MessageCodec EcdsaPublicKeyProto (·.params.IsNamed)) :
    (EcdsaProtoSerialization.publicKeys lib codec).RoundTrips key
        (EcdsaPublicKeyProto.HasLength (getEncodingLength key.parameters.curveType)) ∧
      (EcdsaProtoSerialization.publicKeys lib codec).ParsesIff key EcdsaPublicKeyProto.SameNumbers fun _ => True := by
  have hreads := EcdsaProtoSerialization.publicKeys_reads lib codec
  constructor
  · obtain ⟨x, y, hx, hy, hxvalue, hyvalue, hxlen, hylen⟩ := h.serialize
    refine hreads.roundTrips .asymmetricPublic (m := ⟨0, key.parameters.toProto, x, y⟩) (EcdsaParameters.toProto_isNamed _)
      ⟨hxlen, hylen⟩ h.id_iff (fun token => ?_) (parseEcdsaPublicKeyProto_of_values h hxvalue hyvalue)
    change (serializeEcdsaPublicKey key >>= _) = _
    unfold serializeEcdsaPublicKey
    rw [hx, hy]
    rfl
  · exact hreads.parsesAlike fun _ _ => parseEcdsaPublicKeyProto_congr

/-- **Private ECDSA keys.** -/
theorem EcdsaPrivateKey.Created.survives {lib : EcKeyLibrary} {key : EcdsaPrivateKey} (h : key.Created lib)
    (codec : MessageCodec EcdsaPrivateKeyProto (·.publicKey.params.IsNamed)) :
    (EcdsaProtoSerialization.privateKeys lib codec).RoundTrips key
        (EcdsaPrivateKeyProto.HasLength (getEncodingLength key.publicKey.parameters.curveType)) ∧
      (EcdsaProtoSerialization.privateKeys lib codec).ParsesIff key EcdsaPrivateKeyProto.SameNumbers
        fun proto => proto.keyValue.length < key.publicKey.parameters.privateKeyLength + 2 ^ 31 := by
  have hreads := EcdsaProtoSerialization.privateKeys_reads lib codec
  constructor
  · obtain ⟨x, y, hx, hy, hxvalue, hyvalue, hxlen, hylen⟩ := h.publicKey.serialize
    obtain ⟨-, hlength⟩ := EcdsaPrivateKey.create_ok h.create
    obtain ⟨keyValue, hvalue⟩ : ∃ keyValue, getSecretValueOfFixedLength key.privateKeyValue
        (getEncodingLength key.publicKey.parameters.curveType) = .ok keyValue := by
      unfold getSecretValueOfFixedLength
      rw [if_pos (hlength ▸ privateKeyLength_le _)]
      exact ⟨_, rfl⟩
    refine hreads.roundTrips .asymmetricPrivate (m := ⟨0, ⟨0, key.publicKey.parameters.toProto, x, y⟩, keyValue⟩)
      (EcdsaParameters.toProto_isNamed _) ⟨⟨hxlen, hylen⟩, (getSecretValueOfFixedLength_ok hvalue).1⟩
      h.publicKey.id_iff (fun token => ?_) ?_
    · change (serializeEcdsaPrivateKey key >>= _) = _
      unfold serializeEcdsaPrivateKey
      dsimp only
      rw [hx, hy, hvalue]
      rfl
    · unfold parseEcdsaPrivateKey
      dsimp only
      rw [if_neg (not_not.2 rfl), if_neg (not_not.2 rfl), toEcdsaParameters_toProto h.publicKey.build, hxvalue, hyvalue]
      change (EcdsaPublicKey.create lib key.publicKey.parameters key.publicKey.publicPoint key.publicKey.idRequirement
        >>= _) = _
      rw [h.publicKey.create]
      change (answered (parseBigIntToFixedLength keyValue key.publicKey.parameters.privateKeyLength) >>= _) = _
      rw [← hlength, parseBigIntToFixedLength_padded (getEncodingLength_lt _) hvalue]
      exact h.create
  · exact hreads.parsesIff fun _ _ _ _ => parseEcdsaPrivateKey_sameNumbers

/-! ## JWT keys -/

/-- `ToOutputPrefixType` of JWT keys. -/
def KidStrategy.toOutputPrefixType : KidStrategy → OutputPrefixType
  | .custom => .raw
  | .ignored => .raw
  | .base64EncodedKeyId => .tink

def JwtAlgorithmProto.IsNamed (algorithm : JwtAlgorithmProto) : Prop := ∀ value, algorithm ≠ .unnamed value

/-- The custom kid that is stored. -/
def JwtKeyBase.storedCustomKid (base : JwtKeyBase) : Option Bytes :=
  if base.kidStrategy = .custom then base.kid else none

section
variable {libraries : JwtLibraries} {base : JwtKeyBase} {customKid : Option Bytes}

theorem checkIdRequirement_ok {kidStrategy : KidStrategy} {idRequirement : Option UInt32}
    (h : checkIdRequirement kidStrategy idRequirement = .ok ()) :
    kidStrategy.toOutputPrefixType = .raw ↔ idRequirement = none := by
  unfold checkIdRequirement at h
  cases kidStrategy <;> cases idRequirement <;> simp [KidStrategy.toOutputPrefixType] at h ⊢

/-- The custom kid a key was built with is the one that is stored. -/
theorem storedCustomKid_eq
    (h : computeKid libraries base.kidStrategy customKid base.idRequirement = .ok base.kid) :
    base.storedCustomKid = customKid := by
  obtain ⟨kidStrategy, algorithm, idRequirement, kid⟩ := base
  unfold JwtKeyBase.storedCustomKid
  cases kidStrategy <;> cases customKid <;> simp [computeKid] at h ⊢
  exact h.symm

theorem toKidStrategy_stored (name : String)
    (h : computeKid libraries base.kidStrategy customKid base.idRequirement = .ok base.kid) :
    toKidStrategy name base.kidStrategy.toOutputPrefixType customKid.isSome = .ok base.kidStrategy := by
  obtain ⟨kidStrategy, algorithm, idRequirement, kid⟩ := base
  cases kidStrategy <;> cases customKid <;> simp [computeKid] at h <;> rfl

theorem toPublicKey_stored (name : String) {validate : JwtAlgorithm → Except Status Unit}
    (hvalid : validate base.algorithm = .ok ()) (hid : checkIdRequirement base.kidStrategy base.idRequirement = .ok ())
    (hkid : computeKid libraries base.kidStrategy customKid base.idRequirement = .ok base.kid) :
    toPublicKey libraries name base.kidStrategy.toOutputPrefixType base.idRequirement (.known base.algorithm)
      base.storedCustomKid validate = .ok base := by
  unfold toPublicKey
  rw [storedCustomKid_eq hkid, toKidStrategy_stored name hkid]
  change (validate base.algorithm >>= _) = _
  rw [hvalid]
  change (checkIdRequirement base.kidStrategy base.idRequirement >>= _) = _
  rw [hid]
  change (computeKid libraries base.kidStrategy customKid base.idRequirement >>= _) = _
  rw [hkid]
  rfl

end

/-! ## JWT ECDSA -/

structure JwtEcdsaPrivateKeyProto where
  version   : UInt32
  publicKey : JwtEcdsaPublicKeyProto
  keyValue  : Bytes
  deriving DecidableEq, Repr

/-- `GetPrivateKeyLength`. -/
def JwtAlgorithm.privateKeyLength : JwtAlgorithm → Nat
  | .bits256 => 32
  | .bits384 => 48
  | .bits512 => 66

/-- `JwtEcdsaPublicKey::Builder::Build`, with the parameters and the point set. -/
def JwtEcdsaPublicKey.build (libraries : JwtLibraries) (groups : EcGroups) (kidStrategy : KidStrategy)
    (algorithm : JwtAlgorithm) (publicPoint : Nat × Nat) (idRequirement : Option UInt32) (customKid : Option Bytes) :
    Except Status JwtEcdsaPublicKey := do
  validatePublicPoint groups publicPoint.1 publicPoint.2 algorithm
  checkIdRequirement kidStrategy idRequirement
  let kid ← computeKid libraries kidStrategy customKid idRequirement
  return ⟨⟨kidStrategy, algorithm, idRequirement, kid⟩, publicPoint⟩

structure JwtEcdsaPrivateKey where
  publicKey       : JwtEcdsaPublicKey
  privateKeyValue : Bytes
  deriving DecidableEq, Repr

/-- `JwtEcdsaPrivateKey::Create`. -/
def JwtEcdsaPrivateKey.create (lib : EcKeyLibrary) (publicKey : JwtEcdsaPublicKey) (privateKeyValue : Bytes) :
    Except Status JwtEcdsaPrivateKey :=
  let keyLength := publicKey.algorithm.privateKeyLength
  let size := privateKeyValue.length
  if size ≠ keyLength then
    .error ⟨.invalidArgument, s!"Private key length {size} is different from expected length {keyLength}"⟩
  else do
    -- ValidateKeyPair
    let point ← lib.groups.getEcPoint publicKey.algorithm.curve publicKey.publicPoint.1 publicKey.publicPoint.2
    lib.checkKey publicKey.algorithm.curve point (BigEndian.value privateKeyValue)
    return ⟨publicKey, privateKeyValue⟩

namespace JwtEcdsaProtoSerialization

def privateTypeUrl : String := "type.googleapis.com/google.crypto.tink.JwtEcdsaPrivateKey"

/-- `GetEncodingLength`. -/
def getEncodingLength : JwtAlgorithm → Nat
  | .bits256 => 33
  | .bits384 => 49
  | .bits512 => 67

variable (libraries : JwtLibraries) (lib : EcKeyLibrary)
  (publicCodec : MessageCodec JwtEcdsaPublicKeyProto (·.algorithm.IsNamed))
  (privateCodec : MessageCodec JwtEcdsaPrivateKeyProto (·.publicKey.algorithm.IsNamed))

/-- `ToParameters` and `ToPublicKey`. -/
def toPublicKey (key : JwtEcdsaPublicKeyProto) (outputPrefixType : OutputPrefixType) (idRequirement : Option UInt32) :
    Except Status JwtEcdsaPublicKey :=
  let x := BigEndian.value key.x
  let y := BigEndian.value key.y
  (Tink.toPublicKey libraries "JwtEcdsa" outputPrefixType idRequirement key.algorithm key.customKid
    (validatePublicPoint lib.groups x y)).map fun base => ⟨base, (x, y)⟩

/-- `ToProtoPublicKey`. -/
def toProtoPublicKey (key : JwtEcdsaPublicKey) : Except Status JwtEcdsaPublicKeyProto := do
  let x ← getValueOfFixedLength key.publicPoint.1 (getEncodingLength key.algorithm)
  let y ← getValueOfFixedLength key.publicPoint.2 (getEncodingLength key.algorithm)
  return ⟨0, .known key.algorithm, x, y, key.storedCustomKid⟩

/-- What `ParsePublicKey` does with the message. -/
def parsePublicKeyProto (key : JwtEcdsaPublicKeyProto) (outputPrefixType : OutputPrefixType)
    (idRequirement : Option UInt32) : Except Status JwtEcdsaPublicKey := do
  checkVersion key.version "Parsing JwtEcdsaPublicKey failed: only version 0 is accepted."
  toPublicKey libraries lib key outputPrefixType idRequirement

/-- What `ParsePrivateKey` does with the message. -/
def parsePrivateKeyProto (key : JwtEcdsaPrivateKeyProto) (outputPrefixType : OutputPrefixType)
    (idRequirement : Option UInt32) : Except Status JwtEcdsaPrivateKey := do
  checkVersion key.version "Parsing JwtEcdsaPrivateKey failed: only version 0 is accepted."
  let publicKey ← toPublicKey libraries lib key.publicKey outputPrefixType idRequirement
  let privateKeyValue ← answered (parseBigIntToFixedLength key.keyValue publicKey.algorithm.privateKeyLength)
  JwtEcdsaPrivateKey.create lib publicKey privateKeyValue

/-- `ParsePublicKey`. -/
def parsePublicKey (serialization : ProtoKeySerialization) (_token : Option SecretKeyAccessToken) :
    Except Status JwtEcdsaPublicKey := do
  checkTypeUrl jwtEcdsaPublicKeyUrl "Wrong type URL when parsing JwtEcdsaPublicKey." serialization
  let protoKey ← parseMessage publicCodec "Failed to parse JwtEcdsaPublicKey proto" serialization.serializedKey
  parsePublicKeyProto libraries lib protoKey serialization.outputPrefixType serialization.idRequirement

/-- `ParsePrivateKey`. -/
def parsePrivateKey (serialization : ProtoKeySerialization) (token : Option SecretKeyAccessToken) :
    Except Status JwtEcdsaPrivateKey := do
  checkToken token
  checkTypeUrl privateTypeUrl "Wrong type URL when parsing JwtEcdsaPrivateKey." serialization
  let protoKey ← parseMessage privateCodec "Failed to parse JwtEcdsaPrivateKey proto" serialization.serializedKey
  parsePrivateKeyProto libraries lib protoKey serialization.outputPrefixType serialization.idRequirement

/-- `SerializePublicKey`. -/
def serializePublicKey (key : JwtEcdsaPublicKey) (_token : Option SecretKeyAccessToken) :
    Except Status ProtoKeySerialization := do
  let protoKey ← toProtoPublicKey key
  ProtoKeySerialization.create jwtEcdsaPublicKeyUrl (publicCodec.serializeAsSecretData protoKey) .asymmetricPublic
    key.kidStrategy.toOutputPrefixType key.idRequirement

/-- `SerializePrivateKey`. -/
def serializePrivateKey (key : JwtEcdsaPrivateKey) (token : Option SecretKeyAccessToken) :
    Except Status ProtoKeySerialization := do
  checkToken token
  let protoPublicKey ← toProtoPublicKey key.publicKey
  let keyValue ← getSecretValueOfFixedLength key.privateKeyValue (getEncodingLength key.publicKey.algorithm)
  ProtoKeySerialization.create privateTypeUrl (privateCodec.serializeAsSecretData ⟨0, protoPublicKey, keyValue⟩)
    .asymmetricPrivate key.publicKey.kidStrategy.toOutputPrefixType key.publicKey.idRequirement

def publicKeys : KeyFormat JwtEcdsaPublicKey JwtEcdsaPublicKeyProto (·.algorithm.IsNamed) :=
  ⟨publicCodec, parsePublicKey libraries lib publicCodec, serializePublicKey publicCodec⟩

def privateKeys : KeyFormat JwtEcdsaPrivateKey JwtEcdsaPrivateKeyProto (·.publicKey.algorithm.IsNamed) :=
  ⟨privateCodec, parsePrivateKey libraries lib privateCodec, serializePrivateKey privateCodec⟩

theorem publicKeys_reads : (publicKeys libraries lib publicCodec).Reads jwtEcdsaPublicKeyUrl
    "Wrong type URL when parsing JwtEcdsaPublicKey." "Failed to parse JwtEcdsaPublicKey proto"
    (parsePublicKeyProto libraries lib) :=
  ⟨fun _ _ => rfl, by simp [isPrintableAscii, jwtEcdsaPublicKeyUrl]⟩

theorem privateKeys_reads : (privateKeys libraries lib privateCodec).Reads privateTypeUrl
    "Wrong type URL when parsing JwtEcdsaPrivateKey." "Failed to parse JwtEcdsaPrivateKey proto"
    (parsePrivateKeyProto libraries lib) :=
  ⟨fun _ _ => rfl, by simp [isPrintableAscii, privateTypeUrl]⟩

end JwtEcdsaProtoSerialization

/-- What `JwtEcdsaPublicKey::Builder` gave. -/
def JwtEcdsaPublicKey.Created (libraries : JwtLibraries) (lib : EcKeyLibrary) (key : JwtEcdsaPublicKey) : Prop :=
  ∃ customKid, JwtEcdsaPublicKey.build libraries lib.groups key.kidStrategy key.algorithm key.publicPoint
    key.idRequirement customKid = .ok key

structure JwtEcdsaPrivateKey.Created (libraries : JwtLibraries) (lib : EcKeyLibrary) (key : JwtEcdsaPrivateKey) :
    Prop where
  publicKey : key.publicKey.Created libraries lib
  create    : JwtEcdsaPrivateKey.create lib key.publicKey key.privateKeyValue = .ok key

def JwtEcdsaPublicKeyProto.HasLength (length : Nat) (key : JwtEcdsaPublicKeyProto) : Prop :=
  key.x.length = length ∧ key.y.length = length

def JwtEcdsaPrivateKeyProto.HasLength (length : Nat) (key : JwtEcdsaPrivateKeyProto) : Prop :=
  key.publicKey.HasLength length ∧ key.keyValue.length = length

structure JwtEcdsaPublicKeyProto.SameNumbers (key key' : JwtEcdsaPublicKeyProto) : Prop where
  version   : key.version = key'.version
  algorithm : key.algorithm = key'.algorithm
  customKid : key.customKid = key'.customKid
  x         : EqualUpToZeros key.x key'.x
  y         : EqualUpToZeros key.y key'.y

structure JwtEcdsaPrivateKeyProto.SameNumbers (key key' : JwtEcdsaPrivateKeyProto) : Prop where
  version   : key.version = key'.version
  publicKey : key.publicKey.SameNumbers key'.publicKey
  keyValue  : EqualUpToZeros key.keyValue key'.keyValue

section
variable {libraries : JwtLibraries} {lib : EcKeyLibrary}
open JwtEcdsaProtoSerialization

theorem JwtEcdsaPublicKey.Created.id_iff {key : JwtEcdsaPublicKey} (h : key.Created libraries lib) :
    key.kidStrategy.toOutputPrefixType = .raw ↔ key.idRequirement = none := by
  obtain ⟨customKid, h⟩ := h
  obtain ⟨_, -, h⟩ := bind_eq_ok h
  obtain ⟨_, hid, -⟩ := bind_eq_ok h
  exact checkIdRequirement_ok hid

theorem pow_ecFieldSize_jwt_le (algorithm : JwtAlgorithm) :
    256 ^ ecFieldSizeInBytes algorithm.curve ≤ 256 ^ JwtEcdsaProtoSerialization.getEncodingLength algorithm :=
  Nat.pow_le_pow_right (by omega) (by cases algorithm <;> decide)

/-- The public key that is stored is of the right length, and is read back. -/
theorem JwtEcdsaPublicKey.Created.toProto {key : JwtEcdsaPublicKey} (h : key.Created libraries lib) :
    ∃ proto, toProtoPublicKey key = .ok proto ∧ proto.version = 0 ∧ proto.algorithm.IsNamed ∧
      proto.HasLength (JwtEcdsaProtoSerialization.getEncodingLength key.algorithm) ∧
      JwtEcdsaProtoSerialization.toPublicKey libraries lib proto key.kidStrategy.toOutputPrefixType key.idRequirement =
        .ok key := by
  obtain ⟨customKid, h⟩ := h
  obtain ⟨_, hvalid, h⟩ := bind_eq_ok h
  obtain ⟨_, hid, h⟩ := bind_eq_ok h
  obtain ⟨kid, hkid, h⟩ := bind_eq_ok h
  have hkey := Except.ok.inj h
  have hkid' : kid = key.kid := congrArg (fun key => key.toJwtKeyBase.kid) hkey
  rw [hkid'] at hkid
  obtain ⟨point, hpoint, -⟩ := map_eq_ok hvalid
  obtain ⟨hx, hy⟩ := EcGroups.getEcPoint_ok hpoint
  have hx := getValueOfFixedLength_of_lt (Nat.lt_of_lt_of_le hx (pow_ecFieldSize_jwt_le _))
  have hy := getValueOfFixedLength_of_lt (Nat.lt_of_lt_of_le hy (pow_ecFieldSize_jwt_le _))
  obtain ⟨hxlen, hxvalue⟩ := getValueOfFixedLength_ok hx
  obtain ⟨hylen, hyvalue⟩ := getValueOfFixedLength_ok hy
  refine ⟨⟨0, .known key.algorithm, _, _, key.storedCustomKid⟩, ?_, rfl, ?_, ⟨hxlen, hylen⟩, ?_⟩
  · unfold toProtoPublicKey
    rw [hx, hy]
    rfl
  · exact fun value h => by cases h
  · unfold JwtEcdsaProtoSerialization.toPublicKey
    dsimp only
    rw [hxvalue, hyvalue, toPublicKey_stored "JwtEcdsa" hvalid hid hkid]
    rfl

theorem parsePublicKeyProto_congr {key key' : JwtEcdsaPublicKeyProto} (h : key.SameNumbers key') :
    parsePublicKeyProto libraries lib key = parsePublicKeyProto libraries lib key' := by
  funext prefixType idRequirement
  unfold parsePublicKeyProto JwtEcdsaProtoSerialization.toPublicKey
  rw [h.version, h.algorithm, h.customKid, h.x.value_eq, h.y.value_eq]

theorem JwtEcdsaPrivateKey.create_ok {publicKey : JwtEcdsaPublicKey} {keyValue : Bytes} {key : JwtEcdsaPrivateKey}
    (h : JwtEcdsaPrivateKey.create lib publicKey keyValue = .ok key) :
    key.publicKey = publicKey ∧ keyValue.length = publicKey.algorithm.privateKeyLength := by
  unfold JwtEcdsaPrivateKey.create at h
  dsimp only at h
  split at h
  · cases h
  · rename_i hlen
    obtain ⟨_, -, h⟩ := bind_eq_ok h
    obtain ⟨_, -, h⟩ := bind_eq_ok h
    cases h
    exact ⟨rfl, not_not.1 hlen⟩

theorem parsePrivateKeyProto_sameNumbers {proto proto' : JwtEcdsaPrivateKeyProto} {prefixType : OutputPrefixType}
    {idRequirement : Option UInt32} {key : JwtEcdsaPrivateKey} (h : proto.SameNumbers proto')
    (hkey : parsePrivateKeyProto libraries lib proto prefixType idRequirement = .ok key) :
    parsePrivateKeyProto libraries lib proto' prefixType idRequirement = .ok key ↔
      proto'.keyValue.length < key.publicKey.algorithm.privateKeyLength + 2 ^ 31 := by
  unfold parsePrivateKeyProto JwtEcdsaProtoSerialization.toPublicKey at hkey ⊢
  rw [← h.version, ← h.publicKey.algorithm, ← h.publicKey.customKid, ← h.publicKey.x.value_eq, ← h.publicKey.y.value_eq]
  rw [← bind_assoc] at hkey ⊢
  exact h.keyValue.parsePrivateKey_iff _ _ _ JwtEcdsaPrivateKey.publicKey JwtEcdsaPrivateKey.create_ok hkey

/-- **Public JWT ECDSA keys.** -/
theorem JwtEcdsaPublicKey.Created.survives {key : JwtEcdsaPublicKey} (h : key.Created libraries lib)
    (codec : MessageCodec JwtEcdsaPublicKeyProto (·.algorithm.IsNamed)) :
    (publicKeys libraries lib codec).RoundTrips key
        (JwtEcdsaPublicKeyProto.HasLength (JwtEcdsaProtoSerialization.getEncodingLength key.algorithm)) ∧
      (publicKeys libraries lib codec).ParsesIff key JwtEcdsaPublicKeyProto.SameNumbers fun _ => True := by
  have hreads := publicKeys_reads libraries lib codec
  constructor
  · obtain ⟨proto, hproto, hversion, hnamed, hlength, hparse⟩ := h.toProto
    refine hreads.roundTrips .asymmetricPublic hnamed hlength h.id_iff (fun token => ?_) ?_
    · change (toProtoPublicKey key >>= _) = _
      rw [hproto]
      rfl
    · unfold parsePublicKeyProto
      rw [hversion, checkVersion_zero]
      exact hparse
  · exact hreads.parsesAlike fun _ _ => parsePublicKeyProto_congr

/-- **Private JWT ECDSA keys.** -/
theorem JwtEcdsaPrivateKey.Created.survives {key : JwtEcdsaPrivateKey} (h : key.Created libraries lib)
    (codec : MessageCodec JwtEcdsaPrivateKeyProto (·.publicKey.algorithm.IsNamed)) :
    (privateKeys libraries lib codec).RoundTrips key
        (JwtEcdsaPrivateKeyProto.HasLength (JwtEcdsaProtoSerialization.getEncodingLength key.publicKey.algorithm)) ∧
      (privateKeys libraries lib codec).ParsesIff key JwtEcdsaPrivateKeyProto.SameNumbers
        fun proto => proto.keyValue.length < key.publicKey.algorithm.privateKeyLength + 2 ^ 31 := by
  have hreads := privateKeys_reads libraries lib codec
  constructor
  · obtain ⟨proto, hproto, hversion, hnamed, hlength, hparse⟩ := h.publicKey.toProto
    obtain ⟨-, hsize⟩ := JwtEcdsaPrivateKey.create_ok h.create
    obtain ⟨keyValue, hvalue⟩ : ∃ keyValue, getSecretValueOfFixedLength key.privateKeyValue
        (JwtEcdsaProtoSerialization.getEncodingLength key.publicKey.algorithm) = .ok keyValue := by
      unfold getSecretValueOfFixedLength
      rw [if_pos (by rw [hsize]; cases key.publicKey.algorithm <;> decide)]
      exact ⟨_, rfl⟩
    refine hreads.roundTrips .asymmetricPrivate (m := ⟨0, proto, keyValue⟩) hnamed
      ⟨hlength, (getSecretValueOfFixedLength_ok hvalue).1⟩ h.publicKey.id_iff (fun token => ?_) ?_
    · change (toProtoPublicKey key.publicKey >>= _) = _
      rw [hproto]
      change (getSecretValueOfFixedLength key.privateKeyValue _ >>= _) = _
      rw [hvalue]
      rfl
    · unfold parsePrivateKeyProto
      change (JwtEcdsaProtoSerialization.toPublicKey libraries lib proto _ _ >>= _) = _
      rw [hparse]
      change (answered (parseBigIntToFixedLength keyValue key.publicKey.algorithm.privateKeyLength) >>= _) = _
      rw [← hsize, parseBigIntToFixedLength_padded (by cases key.publicKey.algorithm <;> decide) hvalue]
      exact h.create
  · exact hreads.parsesIff fun _ _ _ _ => parsePrivateKeyProto_sameNumbers

end

end Tink
