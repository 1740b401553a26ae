import TinkCc.EciesKeys
/-!
# EciesFormat — ECIES keys as they are stored

The rest of `ecies_proto_serialization_impl.cc`.  A public key made by `CreateForCurveX25519` from parameters of a NIST
curve is stored with 32 bytes for `x` and none for `y`, and what is parsed from that is never the key.
-/
namespace Tink

namespace EciesProtoSerialization

def publicTypeUrl : String := "type.googleapis.com/google.crypto.tink.EciesAeadHkdfPublicKey"
def privateTypeUrl : String := "type.googleapis.com/google.crypto.tink.EciesAeadHkdfPrivateKey"

/-- `GetEncodingLength`. -/
def getEncodingLength : EciesCurveType → Except Status Nat
  | .nistP256 => .ok 33
  | .nistP384 => .ok 49
  | .nistP521 => .ok 67
  | .x25519 => .error ⟨.invalidArgument, "Cannot determine encoding length for curve."⟩

variable (lib : HybridLibrary) (codecs : EciesCodecs)

/-- `ToPublicKey`. -/
def toPublicKey (parameters : EciesParameters) (key : EciesAeadHkdfPublicKeyProto) (idRequirement : Option UInt32) :
    Except Status EciesPublicKey :=
  if parameters.curveType.isNistCurve then
    EciesPublicKey.createForNistCurve lib parameters (BigEndian.value key.x, BigEndian.value key.y) idRequirement
  else EciesPublicKey.createForCurveX25519 parameters key.x idRequirement

/-- `FromPublicKey`. -/
def fromPublicKey (params : EciesAeadHkdfParamsProto) (publicKey : EciesPublicKey) :
    Except Status EciesAeadHkdfPublicKeyProto :=
  match publicKey.point with
  | some point => do
    let encodingLength ← getEncodingLength publicKey.parameters.curveType
    let x ← getValueOfFixedLength point.1 encodingLength
    let y ← getValueOfFixedLength point.2 encodingLength
    return ⟨0, params, x, y⟩
  | none =>
    match publicKey.publicKeyBytes with
    | none => .error ⟨.invalidArgument, "X25519 public key missing point bytes."⟩
    | some publicKeyBytes => .ok ⟨0, params, publicKeyBytes, []⟩

/-- What `ParsePublicKey` does with the message. -/
def parsePublicKeyProto (key : EciesAeadHkdfPublicKeyProto) (outputPrefixType : OutputPrefixType)
    (idRequirement : Option UInt32) : Except Status EciesPublicKey := do
  checkVersion key.version "Only version 0 keys are accepted for EciesAeadHkdfPublicKey proto."
  let parameters ← toEciesParameters codecs outputPrefixType key.params
  toPublicKey lib parameters key idRequirement

/-- What `ParsePrivateKey` does with the message. -/
def parsePrivateKeyProto (key : EciesAeadHkdfPrivateKeyProto) (outputPrefixType : OutputPrefixType)
    (idRequirement : Option UInt32) : Except Status EciesPrivateKey := do
  checkVersion key.version "Only version 0 keys are accepted for EciesAeadHkdfPrivateKey proto."
  checkVersion key.publicKey.version
    "Only version 0 public keys are accepted for EciesAeadHkdfPrivateKey proto."
  let parameters ← toEciesParameters codecs outputPrefixType key.publicKey.params
  let publicKey ← toPublicKey lib parameters key.publicKey idRequirement
  let privateKeyExactBytes ← answered (parseBigIntToFixedLength key.keyValue parameters.privateKeyLength)
  if parameters.curveType.isNistCurve then EciesPrivateKey.createForNistCurve lib publicKey privateKeyExactBytes
  else EciesPrivateKey.createForCurveX25519 lib publicKey privateKeyExactBytes

/-- `ParsePublicKey`. -/
def parsePublicKey (serialization : ProtoKeySerialization) (_token : Option SecretKeyAccessToken) :
    Except Status EciesPublicKey := do
  checkTypeUrl publicTypeUrl "Wrong type URL when parsing EciesAeadHkdfPublicKey." serialization
  let key ← parseMessage codecs.publicKey "Failed to parse EciesAeadHkdfPublicKey proto" serialization.serializedKey
  parsePublicKeyProto lib codecs key serialization.outputPrefixType serialization.idRequirement

/-- `ParsePrivateKey`. -/
def parsePrivateKey (serialization : ProtoKeySerialization) (token : Option SecretKeyAccessToken) :
    Except Status EciesPrivateKey := do
  checkToken token
  checkTypeUrl privateTypeUrl "Wrong type URL when parsing EciesAeadHkdfPrivateKey." serialization
  let key ← parseMessage codecs.privateKey "Failed to parse EciesAeadHkdfPrivateKey proto" serialization.serializedKey
  parsePrivateKeyProto lib codecs key serialization.outputPrefixType serialization.idRequirement

/-- `SerializePublicKey`. -/
def serializePublicKey (key : EciesPublicKey) (_token : Option SecretKeyAccessToken) :
    Except Status ProtoKeySerialization := do
  let protoKey ← fromPublicKey (key.parameters.toProto codecs) key
  ProtoKeySerialization.create publicTypeUrl (codecs.publicKey.serializeAsSecretData protoKey) .asymmetricPublic
    key.parameters.variant.toOutputPrefixType key.idRequirement

/-- The `key_value` of `SerializePrivateKey`: `GetNistPrivateKeyBytes` and `GetX25519PrivateKeyBytes` go by the curve of
the parameters. -/
def storedKeyValue (key : EciesPrivateKey) : Except Status Bytes :=
  if key.publicKey.parameters.curveType.isNistCurve then do
    let encodingLength ← getEncodingLength key.publicKey.parameters.curveType
    getSecretValueOfFixedLength key.privateKeyBytes encodingLength
  else .ok key.privateKeyBytes

/-- `SerializePrivateKey`. -/
def serializePrivateKey (key : EciesPrivateKey) (token : Option SecretKeyAccessToken) :
    Except Status ProtoKeySerialization := do
  checkToken token
  let protoPublicKey ← fromPublicKey (key.publicKey.parameters.toProto codecs) key.publicKey
  let keyValue ← storedKeyValue key
  ProtoKeySerialization.create privateTypeUrl (codecs.privateKey.serializeAsSecretData ⟨0, protoPublicKey, keyValue⟩)
    .asymmetricPrivate key.publicKey.parameters.variant.toOutputPrefixType key.publicKey.idRequirement

def publicKeys : KeyFormat EciesPublicKey EciesAeadHkdfPublicKeyProto (·.params.IsNamed) :=
  ⟨codecs.publicKey, parsePublicKey lib codecs, serializePublicKey codecs⟩

def privateKeys : KeyFormat EciesPrivateKey EciesAeadHkdfPrivateKeyProto (·.publicKey.params.IsNamed) :=
  ⟨codecs.privateKey, parsePrivateKey lib codecs, serializePrivateKey codecs⟩

theorem publicKeys_reads : (publicKeys lib codecs).Reads publicTypeUrl
    "Wrong type URL when parsing EciesAeadHkdfPublicKey." "Failed to parse EciesAeadHkdfPublicKey proto"
    (parsePublicKeyProto lib codecs) :=
  ⟨fun _ _ => rfl, by simp [isPrintableAscii, publicTypeUrl]⟩

theorem privateKeys_reads : (privateKeys lib codecs).Reads privateTypeUrl
    "Wrong type URL when parsing EciesAeadHkdfPrivateKey." "Failed to parse EciesAeadHkdfPrivateKey proto"
    (parsePrivateKeyProto lib codecs) :=
  ⟨fun _ _ => rfl, by simp [isPrintableAscii, privateTypeUrl]⟩

end EciesProtoSerialization

/-! ## Parameters -/

theorem EciesParameters.build_ok {curveType : EciesCurveType} {hashType : ParametersHash}
    {pointFormat : Option EciesPointFormat} {demId : EciesDemId} {salt : Bytes} {variant : KeyVariant}
    {parameters : EciesParameters}
    (h : EciesParameters.build curveType hashType pointFormat demId salt variant = .ok parameters) :
    parameters = ⟨curveType, hashType, pointFormat, demId, EciesParameters.setSalt none salt, variant⟩ ∧
      (variant ≠ .legacy ∧ variant ≠ .noPrefixWithPrehashId) ∧ (curveType.isNistCurve = pointFormat.isSome) := by
  unfold EciesParameters.build at h
  split at h
  · cases h
  · rename_i hvariant
    split at h
    · cases h
    · rename_i hx25519
      split at h
      · cases h
      · rename_i hnist
        refine ⟨(Except.ok.inj h).symm, not_or.1 hvariant, ?_⟩
        cases curveType <;> cases pointFormat <;> simp [EciesCurveType.isNistCurve, EciesCurveType.nistCurve] at hx25519 hnist ⊢

/-- What `EciesParameters::Builder` gave. -/
def EciesParameters.Built (parameters : EciesParameters) : Prop :=
  ∃ salt, EciesParameters.build parameters.curveType parameters.hashType parameters.pointFormat parameters.demId salt
    parameters.variant = .ok parameters

section
variable {codecs : EciesCodecs}

theorem fromProtoDemParams_toProtoDemParams (demId : EciesDemId) :
    fromProtoDemParams codecs (toProtoDemParams codecs demId) = .ok demId := by
  have hgcm : ∀ m, parseMessage codecs.aesGcm "Failed to parse AesGcmKey proto"
      (codecs.aesGcm.serializeAsSecretData m) = .ok m :=
    fun m => parseMessage_of_some codecs.aesGcm (codecs.aesGcm.parse_serialize trivial)
  have hsiv : ∀ m, parseMessage codecs.aesSiv "Failed to parse AesSivKeyFormat proto"
      (codecs.aesSiv.serializeAsSecretData m) = .ok m :=
    fun m => parseMessage_of_some codecs.aesSiv (codecs.aesSiv.parse_serialize trivial)
  have hxChaCha : ∀ m, parseMessage codecs.xChaCha "Failed to parse XChaCha20Poly1305Key proto"
      (codecs.xChaCha.serializeAsSecretData m) = .ok m :=
    fun m => parseMessage_of_some codecs.xChaCha (codecs.xChaCha.parse_serialize trivial)
  have hctr : ∀ keySize, parseMessage codecs.aesCtrHmac "Could not parse AES-CTR-HMAC key format"
      (codecs.aesCtrHmac.serializeAsSecretData (aesCtrHmacDemFormat keySize)) = .ok (aesCtrHmacDemFormat keySize) :=
    fun keySize => parseMessage_of_some codecs.aesCtrHmac (codecs.aesCtrHmac.parse_serialize (fun _ h => by cases h))
  unfold fromProtoDemParams toProtoDemParams createEciesAeadDemParamsStruct
  cases demId <;> dsimp only
  · rw [if_pos rfl, hgcm]
    rfl
  · rw [if_pos rfl, hgcm]
    rfl
  · rw [if_neg (by decide), if_pos rfl, hsiv]
    rfl
  · rw [if_neg (by decide), if_neg (by decide), if_pos (Or.inl rfl), hxChaCha]
    rfl
  · rw [if_neg (by decide), if_neg (by decide), if_neg (by decide), if_pos rfl, hctr]
    rfl
  · rw [if_neg (by decide), if_neg (by decide), if_neg (by decide), if_pos rfl, hctr]
    rfl

theorem setSalt_getD (salt : Bytes) :
    EciesParameters.setSalt none ((EciesParameters.setSalt none salt).getD []) = EciesParameters.setSalt none salt := by
  unfold EciesParameters.setSalt
  by_cases h : salt = []
  · simp [h]
  · simp [h]

theorem EciesParameters.Built.toProto {parameters : EciesParameters} (h : parameters.Built) :
    toEciesParameters codecs parameters.variant.toOutputPrefixType (parameters.toProto codecs) = .ok parameters := by
  obtain ⟨salt, h⟩ := h
  obtain ⟨heq, hvariant, hformat⟩ := EciesParameters.build_ok h
  have hsalt := congrArg EciesParameters.salt heq
  obtain ⟨curveType, hashType, pointFormat, demId, storedSalt, variant⟩ := parameters
  dsimp only at h hvariant hformat hsalt ⊢
  subst hsalt
  have hvariant : toEciesVariant variant.toOutputPrefixType = .ok variant := by
    cases variant <;> first | rfl | simp at hvariant
  have hcurve : fromProtoCurveType curveType.toProto = .ok curveType := by
    cases curveType <;> rfl
  have hhash : toHashType "Could not determine EciesParameters::HashType." hashType.toProto = .ok hashType := by
    cases hashType <;> rfl
  have hbuild : EciesParameters.build curveType hashType pointFormat demId
      ((EciesParameters.setSalt none salt).getD []) variant =
        .ok ⟨curveType, hashType, pointFormat, demId, EciesParameters.setSalt none salt, variant⟩ := by
    rw [← h]
    unfold EciesParameters.build
    rw [setSalt_getD]
  unfold toEciesParameters EciesParameters.toProto
  dsimp only
  rw [hvariant, hcurve, hhash, fromProtoDemParams_toProtoDemParams]
  change (if curveType.isNistCurve = true then _ else _) = _
  rw [hformat]
  cases pointFormat with
  | none => exact hbuild
  | some format => cases format <;> exact hbuild

theorem EciesParameters.toProto_isNamed (parameters : EciesParameters) : (parameters.toProto codecs).IsNamed where
  curveType value h := by
    unfold EciesParameters.toProto at h
    cases hcurve : parameters.curveType <;> rw [hcurve] at h <;> cases h
  hkdfHashType := ParametersHash.toProto_isNamed _
  outputPrefixType value h := by
    unfold EciesParameters.toProto at h
    cases hdem : parameters.demId <;> rw [hdem] at h <;> cases h
  ecPointFormat value h := by
    unfold EciesParameters.toProto at h
    cases hformat : parameters.pointFormat with
    | none =>
      rw [hformat] at h
      cases h
    | some format =>
      rw [hformat] at h
      cases format <;> cases h

theorem toEciesParameters_curve {prefixType : OutputPrefixType} {params : EciesAeadHkdfParamsProto}
    {parameters : EciesParameters} (h : toEciesParameters codecs prefixType params = .ok parameters) :
    fromProtoCurveType params.kemParams.curveType = .ok parameters.curveType := by
  obtain ⟨variant, -, h⟩ := bind_eq_ok h
  obtain ⟨curveType, hcurve, h⟩ := bind_eq_ok h
  obtain ⟨hashType, -, h⟩ := bind_eq_ok h
  obtain ⟨demId, -, h⟩ := bind_eq_ok h
  dsimp only at h
  split at h
  all_goals
    obtain ⟨pointFormat, -, h⟩ := bind_eq_ok h
    rw [(EciesParameters.build_ok h).1, hcurve]

end

/-! ## Keys that are stored -/

/-- What `EciesParameters::Builder` and one of the two functions of `EciesPublicKey` gave. -/
structure EciesPublicKey.Created (lib : HybridLibrary) (key : EciesPublicKey) : Prop where
  built  : key.parameters.Built
  create :
    (∃ point, EciesPublicKey.createForNistCurve lib key.parameters point key.idRequirement = .ok key) ∨
      ∃ bytes, EciesPublicKey.createForCurveX25519 key.parameters bytes key.idRequirement = .ok key

structure EciesPrivateKey.Created (lib : HybridLibrary) (key : EciesPrivateKey) : Prop where
  publicKey : key.publicKey.Created lib
  create    : EciesPrivateKey.createForNistCurve lib key.publicKey key.privateKeyBytes = .ok key ∨
    EciesPrivateKey.createForCurveX25519 lib key.publicKey key.privateKeyBytes = .ok key

/-- An X25519 key with the parameters of a NIST curve. -/
def EciesPublicKey.IsMismatched (key : EciesPublicKey) : Prop :=
  key.parameters.curveType.isNistCurve = true ∧ key.publicKeyBytes.isSome = true

/-- The coordinates of a point are stored with one byte more than the field has. -/
def EciesAeadHkdfPublicKeyProto.HasLength (curve : EciesCurveType) (key : EciesAeadHkdfPublicKeyProto) : Prop :=
  ∀ length, EciesProtoSerialization.getEncodingLength curve = .ok length → key.x.length = length ∧ key.y.length = length

def EciesAeadHkdfPrivateKeyProto.HasLength (curve : EciesCurveType) (key : EciesAeadHkdfPrivateKeyProto) : Prop :=
  key.publicKey.HasLength curve ∧
    ∀ length, EciesProtoSerialization.getEncodingLength curve = .ok length → key.keyValue.length = length

/-- The same but for zeros before the coordinates; an X25519 key is no coordinate. -/
structure EciesAeadHkdfPublicKeyProto.SameNumbers (key key' : EciesAeadHkdfPublicKeyProto) : Prop where
  version : key.version = key'.version
  params  : key.params = key'.params
  x       : EqualUpToZeros key.x key'.x
  x25519  : key.params.kemParams.curveType = .curve25519 → key.x = key'.x
  y       : EqualUpToZeros key.y key'.y

structure EciesAeadHkdfPrivateKeyProto.SameNumbers (key key' : EciesAeadHkdfPrivateKeyProto) : Prop where
  version   : key.version = key'.version
  publicKey : key.publicKey.SameNumbers key'.publicKey
  keyValue  : EqualUpToZeros key.keyValue key'.keyValue

section
open EciesProtoSerialization
variable {lib : HybridLibrary} {codecs : EciesCodecs}

theorem EciesPublicKey.createForNistCurve_ok {parameters : EciesParameters} {point : Nat × Nat}
    {idRequirement : Option UInt32} {key : EciesPublicKey}
    (h : EciesPublicKey.createForNistCurve lib parameters point idRequirement = .ok key) :
    key = ⟨parameters, some point, none, idRequirement⟩ ∧ checkVariantId parameters.variant idRequirement = .ok () ∧
      ∃ curve, parameters.curveType.nistCurve = some curve ∧ point.1 < 256 ^ ecFieldSizeInBytes curve ∧
        point.2 < 256 ^ ecFieldSizeInBytes curve := by
  obtain ⟨_, hid, h⟩ := bind_eq_ok h
  obtain ⟨point', hpoint, h⟩ := bind_eq_ok h
  refine ⟨(Except.ok.inj h).symm, hid, ?_⟩
  unfold getEciesPoint at hpoint
  split at hpoint
  · cases hpoint
  · rename_i curve hcurve
    exact ⟨curve, hcurve, EcGroups.getEcPoint_ok hpoint⟩

theorem EciesPublicKey.createForCurveX25519_ok {parameters : EciesParameters} {bytes : Bytes}
    {idRequirement : Option UInt32} {key : EciesPublicKey}
    (h : EciesPublicKey.createForCurveX25519 parameters bytes idRequirement = .ok key) :
    key = ⟨parameters, none, some bytes, idRequirement⟩ ∧ checkVariantId parameters.variant idRequirement = .ok () := by
  obtain ⟨_, hid, h⟩ := bind_eq_ok h
  dsimp only at h
  split at h
  · cases h
  · exact ⟨(Except.ok.inj h).symm, hid⟩

theorem EciesPublicKey.Created.id_iff {key : EciesPublicKey} (h : key.Created lib) :
    key.parameters.variant.toOutputPrefixType = .raw ↔ key.idRequirement = none := by
  obtain ⟨point, h⟩ | ⟨bytes, h⟩ := h.create
  · exact checkVariantId_ok (EciesPublicKey.createForNistCurve_ok h).2.1
  · exact checkVariantId_ok (EciesPublicKey.createForCurveX25519_ok h).2

theorem getEncodingLength_nist {curveType : EciesCurveType} {curve : EllipticCurveType}
    (h : curveType.nistCurve = some curve) :
    EciesProtoSerialization.getEncodingLength curveType = .ok (Tink.getEncodingLength curve) := by
  cases curveType <;> cases h <;> rfl

/-- A parser never gives a mismatched key. -/
theorem toPublicKey_not_mismatched {parameters : EciesParameters} {proto : EciesAeadHkdfPublicKeyProto}
    {idRequirement : Option UInt32} {key : EciesPublicKey}
    (h : EciesProtoSerialization.toPublicKey lib parameters proto idRequirement = .ok key) : ¬ key.IsMismatched := by
  rintro ⟨hnist, hbytes⟩
  unfold EciesProtoSerialization.toPublicKey at h
  split at h
  · rw [(EciesPublicKey.createForNistCurve_ok h).1] at hbytes
    cases hbytes
  · rename_i hx25519
    rw [(EciesPublicKey.createForCurveX25519_ok h).1] at hnist
    exact hx25519 hnist

theorem EciesPrivateKey.createForNistCurve_ok {publicKey : EciesPublicKey} {bytes : Bytes} {key : EciesPrivateKey}
    (h : EciesPrivateKey.createForNistCurve lib publicKey bytes = .ok key) :
    key.publicKey = publicKey ∧ bytes.length = publicKey.parameters.privateKeyLength := by
  unfold EciesPrivateKey.createForNistCurve at h
  dsimp only at h
  split at h
  · cases h
  · rename_i hlen
    obtain ⟨_, -, h⟩ := bind_eq_ok h
    cases h
    exact ⟨rfl, not_not.1 hlen⟩

theorem EciesPrivateKey.createForCurveX25519_ok {publicKey : EciesPublicKey} {bytes : Bytes} {key : EciesPrivateKey}
    (h : EciesPrivateKey.createForCurveX25519 lib publicKey bytes = .ok key) :
    key.publicKey = publicKey ∧ bytes.length = 32 := by
  unfold EciesPrivateKey.createForCurveX25519 at h
  dsimp only at h
  split at h
  · cases h
  · rename_i hlen
    obtain ⟨_, -, h⟩ := bind_eq_ok h
    cases h
    exact ⟨rfl, not_not.1 hlen⟩

/-- The private key that `ParsePrivateKey` makes in the end. -/
theorem createPrivateKey_ok {parameters : EciesParameters} {publicKey : EciesPublicKey} {bytes : Bytes}
    {key : EciesPrivateKey} (hparameters : publicKey.parameters = parameters)
    (h : (if parameters.curveType.isNistCurve then EciesPrivateKey.createForNistCurve lib publicKey bytes
      else EciesPrivateKey.createForCurveX25519 lib publicKey bytes) = .ok key) :
    key.publicKey = publicKey ∧ bytes.length = parameters.privateKeyLength := by
  split at h
  · rw [← hparameters]
    exact EciesPrivateKey.createForNistCurve_ok h
  · rename_i hx25519
    obtain ⟨hkey, hlength⟩ := EciesPrivateKey.createForCurveX25519_ok h
    refine ⟨hkey, hlength.trans ?_⟩
    unfold EciesParameters.privateKeyLength
    cases hcurve : parameters.curveType with
    | x25519 => rfl
    | nistP256 | nistP384 | nistP521 => exact absurd (hcurve ▸ rfl) hx25519

theorem toPublicKey_parameters {parameters : EciesParameters} {proto : EciesAeadHkdfPublicKeyProto}
    {idRequirement : Option UInt32} {key : EciesPublicKey}
    (h : EciesProtoSerialization.toPublicKey lib parameters proto idRequirement = .ok key) : key.parameters = parameters := by
  unfold EciesProtoSerialization.toPublicKey at h
  split at h
  · rw [(EciesPublicKey.createForNistCurve_ok h).1]
  · rw [(EciesPublicKey.createForCurveX25519_ok h).1]

theorem parsePrivateKeyProto_not_mismatched {proto : EciesAeadHkdfPrivateKeyProto} {prefixType : OutputPrefixType}
    {idRequirement : Option UInt32} {key : EciesPrivateKey}
    (h : EciesProtoSerialization.parsePrivateKeyProto lib codecs proto prefixType idRequirement = .ok key) :
    ¬ key.publicKey.IsMismatched := by
  obtain ⟨_, -, h⟩ := bind_eq_ok h
  obtain ⟨_, -, h⟩ := bind_eq_ok h
  obtain ⟨parameters, -, h⟩ := bind_eq_ok h
  obtain ⟨publicKey, hpublic, h⟩ := bind_eq_ok h
  obtain ⟨bytes, -, h⟩ := bind_eq_ok h
  obtain ⟨hkey, -⟩ := createPrivateKey_ok (toPublicKey_parameters hpublic) h
  rw [hkey]
  exact toPublicKey_not_mismatched hpublic

/-- The public key that is stored is of the right length, and is read back. -/
theorem EciesPublicKey.Created.toProto {key : EciesPublicKey} (h : key.Created lib) (codecs : EciesCodecs)
    (hmatch : ¬ key.IsMismatched) :
    ∃ proto, fromPublicKey (key.parameters.toProto codecs) key = .ok proto ∧ proto.version = 0 ∧
      proto.params = key.parameters.toProto codecs ∧ proto.HasLength key.parameters.curveType ∧
      EciesProtoSerialization.toPublicKey lib key.parameters proto key.idRequirement = .ok key := by
  obtain ⟨point, hcreate⟩ | ⟨bytes, hcreate⟩ := h.create
  · obtain ⟨hkey, -, curve, hcurve, hx, hy⟩ := EciesPublicKey.createForNistCurve_ok hcreate
    obtain ⟨x, hx⟩ : ∃ x, getValueOfFixedLength point.1 (Tink.getEncodingLength curve) = .ok x :=
      ⟨_, getValueOfFixedLength_of_lt (Nat.lt_of_lt_of_le hx (pow_ecFieldSize_le _))⟩
    obtain ⟨y, hy⟩ : ∃ y, getValueOfFixedLength point.2 (Tink.getEncodingLength curve) = .ok y :=
      ⟨_, getValueOfFixedLength_of_lt (Nat.lt_of_lt_of_le hy (pow_ecFieldSize_le _))⟩
    obtain ⟨hxlen, hxvalue⟩ := getValueOfFixedLength_ok hx
    obtain ⟨hylen, hyvalue⟩ := getValueOfFixedLength_ok hy
    have hpoint : key.point = some point := congrArg EciesPublicKey.point hkey
    refine ⟨⟨0, key.parameters.toProto codecs, x, y⟩, ?_, rfl, rfl, ?_, ?_⟩
    · unfold fromPublicKey
      rw [hpoint, getEncodingLength_nist hcurve]
      dsimp only
      change (getValueOfFixedLength point.1 _ >>= _) = _
      rw [hx]
      change (getValueOfFixedLength point.2 _ >>= _) = _
      rw [hy]
      rfl
    · intro length hlength
      rw [getEncodingLength_nist hcurve] at hlength
      cases hlength
      exact ⟨hxlen, hylen⟩
    · unfold EciesProtoSerialization.toPublicKey
      dsimp only
      rw [if_pos (show key.parameters.curveType.isNistCurve = true from congrArg Option.isSome hcurve), hxvalue, hyvalue]
      exact hcreate
  · obtain ⟨hkey, -⟩ := EciesPublicKey.createForCurveX25519_ok hcreate
    have hpoint : key.point = none := congrArg EciesPublicKey.point hkey
    have hbytes : key.publicKeyBytes = some bytes := congrArg EciesPublicKey.publicKeyBytes hkey
    have hx25519 : ¬ key.parameters.curveType.isNistCurve = true := fun hnist =>
      hmatch ⟨hnist, congrArg Option.isSome hbytes⟩
    refine ⟨⟨0, key.parameters.toProto codecs, bytes, []⟩, ?_, rfl, rfl, ?_, ?_⟩
    · unfold fromPublicKey
      rw [hpoint, hbytes]
    · intro length hlength
      cases hcurve : key.parameters.curveType <;> rw [hcurve] at hx25519 hlength
      case x25519 => cases hlength
      all_goals exact absurd rfl hx25519
    · unfold EciesProtoSerialization.toPublicKey
      rw [if_neg hx25519]
      exact hcreate

theorem toPublicKey_sameNumbers {key key' : EciesAeadHkdfPublicKeyProto} (h : key.SameNumbers key')
    {parameters : EciesParameters}
    (hcurve : fromProtoCurveType key.params.kemParams.curveType = .ok parameters.curveType)
    (idRequirement : Option UInt32) :
    EciesProtoSerialization.toPublicKey lib parameters key idRequirement =
      EciesProtoSerialization.toPublicKey lib parameters key' idRequirement := by
  unfold EciesProtoSerialization.toPublicKey
  split
  · rw [h.x.value_eq, h.y.value_eq]
  · rename_i hx25519
    refine congrArg (EciesPublicKey.createForCurveX25519 parameters · idRequirement) (h.x25519 ?_)
    cases hproto : key.params.kemParams.curveType <;> rw [hproto] at hcurve
    case isFalse.unknownCurve => cases hcurve
    case isFalse.unnamed => cases hcurve
    all_goals
      rw [← Except.ok.inj hcurve] at hx25519
      exact absurd rfl hx25519

theorem parseEciesPublicKey_sameNumbers {key key' : EciesAeadHkdfPublicKeyProto} (h : key.SameNumbers key') :
    EciesProtoSerialization.parsePublicKeyProto lib codecs key =
      EciesProtoSerialization.parsePublicKeyProto lib codecs key' := by
  funext prefixType idRequirement
  unfold EciesProtoSerialization.parsePublicKeyProto
  rw [← h.version, ← h.params]
  refine congrArg _ (funext fun _ => bind_congr_ok fun parameters hparameters => ?_)
  exact toPublicKey_sameNumbers h (toEciesParameters_curve hparameters) idRequirement

theorem parseEciesPrivateKey_sameNumbers {proto proto' : EciesAeadHkdfPrivateKeyProto} {prefixType : OutputPrefixType}
    {idRequirement : Option UInt32} {key : EciesPrivateKey} (h : proto.SameNumbers proto')
    (hkey : EciesProtoSerialization.parsePrivateKeyProto lib codecs proto prefixType idRequirement = .ok key) :
    EciesProtoSerialization.parsePrivateKeyProto lib codecs proto' prefixType idRequirement = .ok key ↔
      proto'.keyValue.length < key.publicKey.parameters.privateKeyLength + 2 ^ 31 := by
  unfold EciesProtoSerialization.parsePrivateKeyProto at hkey ⊢
  rw [← h.version, ← h.publicKey.version, ← h.publicKey.params]
  obtain ⟨_, hversion, hkey⟩ := bind_eq_ok hkey
  obtain ⟨_, hpublicVersion, hkey⟩ := bind_eq_ok hkey
  obtain ⟨parameters, hparameters, hkey⟩ := bind_eq_ok hkey
  obtain ⟨publicKey, hpublic, hkey⟩ := bind_eq_ok hkey
  have hsame := toPublicKey_parameters hpublic
  rw [toPublicKey_sameNumbers h.publicKey (toEciesParameters_curve hparameters)] at hpublic
  have hiff := h.keyValue.parsePrivateKey_iff (pure ()) (fun _ => parameters.privateKeyLength)
    (fun _ bytes =>
      if parameters.curveType.isNistCurve then EciesPrivateKey.createForNistCurve lib publicKey bytes
      else EciesPrivateKey.createForCurveX25519 lib publicKey bytes) (fun _ => ())
    (fun hcreate => ⟨rfl, (createPrivateKey_ok hsame hcreate).2⟩) hkey
  obtain ⟨bytes, -, hkey⟩ := bind_eq_ok hkey
  rw [(createPrivateKey_ok hsame hkey).1, hsame, ← hiff, hversion, hpublicVersion, hparameters]
  change (EciesProtoSerialization.toPublicKey lib parameters proto'.publicKey idRequirement >>= _) = _ ↔ _
  rw [hpublic]
  exact Iff.rfl

/-- The functions that make a private key go by the curve of its public key, unless that is mismatched. -/
theorem EciesPrivateKey.Created.cases {key : EciesPrivateKey} (h : key.Created lib)
    (hmatch : ¬ key.publicKey.IsMismatched) :
    key.privateKeyBytes.length = key.publicKey.parameters.privateKeyLength ∧
      (if key.publicKey.parameters.curveType.isNistCurve then
        EciesPrivateKey.createForNistCurve lib key.publicKey key.privateKeyBytes
      else EciesPrivateKey.createForCurveX25519 lib key.publicKey key.privateKeyBytes) = .ok key := by
  obtain hcreate | hcreate := h.create
  · have hok := hcreate
    unfold EciesPrivateKey.createForNistCurve at hok
    dsimp only at hok
    split at hok
    · cases hok
    · rename_i hlen
      obtain ⟨_, hvalid, -⟩ := bind_eq_ok hok
      unfold validateNistKeyPair at hvalid
      split at hvalid
      · cases hvalid
      · rename_i curve hcurve
        rw [if_pos (show EciesCurveType.isNistCurve _ = true from congrArg Option.isSome hcurve)]
        exact ⟨not_not.1 hlen, hcreate⟩
  · have hok := hcreate
    unfold EciesPrivateKey.createForCurveX25519 at hok
    dsimp only at hok
    split at hok
    · cases hok
    · rename_i hlen
      obtain ⟨_, hvalid, -⟩ := bind_eq_ok hok
      obtain ⟨publicValue, -, hvalid⟩ := bind_eq_ok hvalid
      split at hvalid
      · cases hvalid
      · rename_i bytes hbytes
        have hx25519 : ¬ key.publicKey.parameters.curveType.isNistCurve = true := fun hnist =>
          hmatch ⟨hnist, congrArg Option.isSome hbytes⟩
        rw [if_neg hx25519]
        refine ⟨?_, hcreate⟩
        unfold EciesParameters.privateKeyLength
        cases hcurve : key.publicKey.parameters.curveType <;> rw [hcurve] at hx25519
        case x25519 => exact not_not.1 hlen
        all_goals exact absurd rfl hx25519

/-- The private value that is stored. -/
theorem EciesPrivateKey.storedKeyValue_ok {key : EciesPrivateKey}
    (hlength : key.privateKeyBytes.length = key.publicKey.parameters.privateKeyLength) :
    ∃ keyValue, storedKeyValue key = .ok keyValue ∧
      (∀ length, EciesProtoSerialization.getEncodingLength key.publicKey.parameters.curveType = .ok length →
        keyValue.length = length) ∧
      parseBigIntToFixedLength keyValue key.publicKey.parameters.privateKeyLength = pure key.privateKeyBytes := by
  cases hcurve : key.publicKey.parameters.curveType.nistCurve with
  | none =>
    refine ⟨key.privateKeyBytes, ?_, ?_, ?_⟩
    · unfold storedKeyValue EciesCurveType.isNistCurve
      rw [hcurve]
      rfl
    · intro length hlen
      cases hx25519 : key.publicKey.parameters.curveType <;> rw [hx25519] at hcurve hlen
      case x25519 => cases hlen
      all_goals cases hcurve
    · rw [← hlength, parseBigIntToFixedLength_self]
  | some curve =>
    obtain ⟨keyValue, hvalue⟩ : ∃ keyValue, getSecretValueOfFixedLength key.privateKeyBytes
        (Tink.getEncodingLength curve) = .ok keyValue := by
      unfold getSecretValueOfFixedLength
      rw [if_pos]
      · exact ⟨_, rfl⟩
      · rw [hlength]
        unfold EciesParameters.privateKeyLength
        cases hnist : key.publicKey.parameters.curveType <;> rw [hnist] at hcurve <;> cases hcurve <;> decide
    refine ⟨keyValue, ?_, ?_, ?_⟩
    · unfold storedKeyValue EciesCurveType.isNistCurve
      rw [hcurve, getEncodingLength_nist hcurve]
      exact hvalue
    · intro length hlen
      rw [getEncodingLength_nist hcurve] at hlen
      cases hlen
      exact (getSecretValueOfFixedLength_ok hvalue).1
    · rw [← hlength, parseBigIntToFixedLength_padded (getEncodingLength_lt _) hvalue]

/-- **Public ECIES keys survive, unless they are mismatched.** -/
theorem EciesPublicKey.Created.survives_iff {key : EciesPublicKey} (h : key.Created lib) :
    ((publicKeys lib codecs).RoundTrips key (EciesAeadHkdfPublicKeyProto.HasLength key.parameters.curveType) ↔
      ¬ key.IsMismatched) ∧
      (publicKeys lib codecs).ParsesIff key EciesAeadHkdfPublicKeyProto.SameNumbers fun _ => True := by
  have hreads := EciesProtoSerialization.publicKeys_reads lib codecs
  refine ⟨⟨fun hround => ?_, fun hmatch => ?_⟩, hreads.parsesAlike fun _ _ => parseEciesPublicKey_sameNumbers⟩
  · obtain ⟨stored, -, -, -, -, hparse⟩ := hround .insecure
    obtain ⟨m, -, hkey⟩ := hreads.of_parse hparse
    obtain ⟨_, -, hkey⟩ := bind_eq_ok hkey
    obtain ⟨parameters, -, hkey⟩ := bind_eq_ok hkey
    exact toPublicKey_not_mismatched hkey
  · obtain ⟨proto, hproto, hversion, hparams, hlength, hparse⟩ := h.toProto codecs hmatch
    refine hreads.roundTrips .asymmetricPublic (m := proto) ?_ hlength h.id_iff (fun token => ?_) ?_
    · rw [hparams]
      exact EciesParameters.toProto_isNamed _
    · change (fromPublicKey (key.parameters.toProto codecs) key >>= _) = _
      rw [hproto]
      rfl
    · unfold EciesProtoSerialization.parsePublicKeyProto
      rw [hversion, hparams, h.built.toProto]
      exact hparse

/-- **Private ECIES keys survive, unless they are mismatched.** -/
theorem EciesPrivateKey.Created.survives_iff {key : EciesPrivateKey} (h : key.Created lib) :
    ((privateKeys lib codecs).RoundTrips key
        (EciesAeadHkdfPrivateKeyProto.HasLength key.publicKey.parameters.curveType) ↔ ¬ key.publicKey.IsMismatched) ∧
      (privateKeys lib codecs).ParsesIff key EciesAeadHkdfPrivateKeyProto.SameNumbers
        fun proto => proto.keyValue.length < key.publicKey.parameters.privateKeyLength + 2 ^ 31 := by
  have hreads := EciesProtoSerialization.privateKeys_reads lib codecs
  refine ⟨⟨fun hround => ?_, fun hmatch => ?_⟩, hreads.parsesIff fun _ _ _ _ => parseEciesPrivateKey_sameNumbers⟩
  · obtain ⟨stored, -, -, -, -, hparse⟩ := hround .insecure
    obtain ⟨m, -, hkey⟩ := hreads.of_parse hparse
    exact parsePrivateKeyProto_not_mismatched hkey
  · obtain ⟨proto, hproto, hversion, hparams, hlength, hparse⟩ := h.publicKey.toProto codecs hmatch
    obtain ⟨hsize, hcreate⟩ := h.cases hmatch
    obtain ⟨keyValue, hvalue, hvalueLength, hvalueParse⟩ := EciesPrivateKey.storedKeyValue_ok hsize
    refine hreads.roundTrips .asymmetricPrivate (m := ⟨0, proto, keyValue⟩) ?_ ⟨hlength, hvalueLength⟩
      h.publicKey.id_iff (fun token => ?_) ?_
    · rw [hparams]
      exact EciesParameters.toProto_isNamed _
    · change (fromPublicKey (key.publicKey.parameters.toProto codecs) key.publicKey >>= _) = _
      rw [hproto]
      change (storedKeyValue key >>= _) = _
      rw [hvalue]
      rfl
    · unfold EciesProtoSerialization.parsePrivateKeyProto
      dsimp only
      rw [hversion, hparams, h.publicKey.built.toProto]
      change (EciesProtoSerialization.toPublicKey lib key.publicKey.parameters proto _ >>= _) = _
      rw [hparse]
      change (answered (parseBigIntToFixedLength keyValue key.publicKey.parameters.privateKeyLength) >>= _) = _
      rw [hvalueParse]
      exact hcreate

end

end Tink
