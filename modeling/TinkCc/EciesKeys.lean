import TinkCc.EcdsaFormat
/-!
# EciesKeys — ECIES keys and their protos

`ecies_parameters.cc`, `ecies_public_key.cc`, `ecies_private_key.cc` and the parsers and serializers of
`ecies_proto_serialization_impl.cc`.  The output prefix of a key follows from its variant and id and is left out.
-/
namespace Tink

/-! ## Parameters -/

inductive EciesCurveType
  | nistP256
  | nistP384
  | nistP521
  | x25519
  deriving DecidableEq, Repr

inductive EciesPointFormat
  | compressed
  | uncompressed
  | legacyUncompressed
  deriving DecidableEq, Repr

inductive EciesDemId
  | aes128GcmRaw
  | aes256GcmRaw
  | aes256SivRaw
  | xChaCha20Poly1305Raw
  | aes128CtrHmacSha256Raw
  | aes256CtrHmacSha256Raw
  deriving DecidableEq, Repr

/-- The curve that OpenSSL has a group for; X25519 has none. -/
def EciesCurveType.nistCurve : EciesCurveType → Option EllipticCurveType
  | .nistP256 => some .nistP256
  | .nistP384 => some .nistP384
  | .nistP521 => some .nistP521
  | .x25519 => none

/-- `IsNistCurve`. -/
def EciesCurveType.isNistCurve (curve : EciesCurveType) : Bool := curve.nistCurve.isSome

structure EciesParameters where
  curveType   : EciesCurveType
  hashType    : ParametersHash
  pointFormat : Option EciesPointFormat
  demId       : EciesDemId
  salt        : Option Bytes
  variant     : KeyVariant
  deriving DecidableEq, Repr

/-- `EciesParameters::Builder::SetSalt`, on what the builder holds. -/
def EciesParameters.setSalt (held : Option Bytes) (salt : Bytes) : Option Bytes := if salt ≠ [] then some salt else held

/-- `EciesParameters::Builder::Build`; `salt` is what `SetSalt` was called with. -/
def EciesParameters.build (curveType : EciesCurveType) (hashType : ParametersHash)
    (pointFormat : Option EciesPointFormat) (demId : EciesDemId) (salt : Bytes) (variant : KeyVariant) :
    Except Status EciesParameters :=
  if variant = .legacy ∨ variant = .noPrefixWithPrehashId then
    .error ⟨.invalidArgument, "Cannot create ECIES parameters with unknown variant."⟩
  else if curveType = .x25519 ∧ pointFormat.isSome then
    .error ⟨.invalidArgument, "Point format must not be specified for the X25519 curve."⟩
  else if curveType.isNistCurve ∧ pointFormat.isNone then
    .error ⟨.invalidArgument, "Point format must be specified for a NIST curve."⟩
  else .ok ⟨curveType, hashType, pointFormat, demId, EciesParameters.setSalt none salt, variant⟩

/-- `GetPrivateKeyLength`. -/
def EciesParameters.privateKeyLength (parameters : EciesParameters) : Nat :=
  match parameters.curveType with
  | .nistP256 => 32
  | .nistP384 => 48
  | .nistP521 => 66
  | .x25519 => 32

/-! ## Keys -/

/-- The library with X25519: the public value of a private key. -/
structure HybridLibrary extends EcKeyLibrary where
  x25519PublicValue : (privateKey : Bytes) → Except Status Bytes

section
variable (lib : HybridLibrary)

/-- `GetEcPoint`, on any curve. -/
def getEciesPoint (curveType : EciesCurveType) (point : Nat × Nat) : Except Status (Nat × Nat) :=
  match curveType.nistCurve with
  | none => .error ⟨.unimplemented, "Unsupported elliptic curve"⟩
  | some curve => lib.groups.getEcPoint curve point.1 point.2

/-- `X25519KeyFromPrivateKey`, its public value. -/
def x25519KeyFromPrivateKey (privateKey : Bytes) : Except Status Bytes :=
  if privateKey.length ≠ 32 then .error ⟨.invalidArgument, "Invalid length for private key"⟩
  else lib.x25519PublicValue privateKey

structure EciesPublicKey where
  parameters     : EciesParameters
  point          : Option (Nat × Nat)
  publicKeyBytes : Option Bytes
  idRequirement  : Option UInt32
  deriving DecidableEq, Repr

/-- `EciesPublicKey::CreateForNistCurve`. -/
def EciesPublicKey.createForNistCurve (parameters : EciesParameters) (point : Nat × Nat)
    (idRequirement : Option UInt32) : Except Status EciesPublicKey := do
  checkVariantId parameters.variant idRequirement
  -- ValidateNistCurvePublicKey
  let _ ← getEciesPoint lib parameters.curveType point
  return ⟨parameters, some point, none, idRequirement⟩

/-- `EciesPublicKey::CreateForCurveX25519`; it does not look at the curve of the parameters. -/
def EciesPublicKey.createForCurveX25519 (parameters : EciesParameters) (publicKeyBytes : Bytes)
    (idRequirement : Option UInt32) : Except Status EciesPublicKey := do
  checkVariantId parameters.variant idRequirement
  let size := publicKeyBytes.length
  if size ≠ 32 then
    .error ⟨.invalidArgument, s!"Invalid X25519 public key length (expected 32, got {size})"⟩
  else .ok ⟨parameters, none, some publicKeyBytes, idRequirement⟩

structure EciesPrivateKey where
  publicKey       : EciesPublicKey
  privateKeyBytes : Bytes
  deriving DecidableEq, Repr

/-- `ValidateNistKeyPair`. -/
def validateNistKeyPair (publicKey : EciesPublicKey) (privateKeyValue : Bytes) : Except Status Unit :=
  match publicKey.parameters.curveType.nistCurve with
  | none => .error ⟨.unimplemented, "Unsupported elliptic curve"⟩
  | some curve =>
    match publicKey.point with
    | none => .error ⟨.invalidArgument, "Missing public point for NIST curve public key."⟩
    | some ecPoint => do
      let publicPoint ← lib.groups.getEcPoint curve ecPoint.1 ecPoint.2
      lib.checkKey curve publicPoint (BigEndian.value privateKeyValue)

/-- `ValidateX25519KeyPair`. -/
def validateX25519KeyPair (publicKey : EciesPublicKey) (privateKeyBytes : Bytes) : Except Status Unit := do
  let publicValue ← x25519KeyFromPrivateKey lib privateKeyBytes
  match publicKey.publicKeyBytes with
  | none => .error ⟨.invalidArgument, "Missing public key bytes for X25519 public key."⟩
  | some publicKeyBytes =>
    if publicKeyBytes ≠ publicValue then
      .error ⟨.invalidArgument, "X25519 private key does not match the specified X25519 public key."⟩
    else .ok ()

/-- `EciesPrivateKey::CreateForNistCurve`. -/
def EciesPrivateKey.createForNistCurve (publicKey : EciesPublicKey) (privateKeyValue : Bytes) :
    Except Status EciesPrivateKey :=
  let keyLength := publicKey.parameters.privateKeyLength
  let size := privateKeyValue.length
  if size ≠ keyLength then
    .error ⟨.invalidArgument, s!"Private key length {size} is different from expected length {keyLength}"⟩
  else do
    validateNistKeyPair lib publicKey privateKeyValue
    return ⟨publicKey, privateKeyValue⟩

/-- `EciesPrivateKey::CreateForCurveX25519`. -/
def EciesPrivateKey.createForCurveX25519 (publicKey : EciesPublicKey) (privateKeyBytes : Bytes) :
    Except Status EciesPrivateKey :=
  let privateKeyLength := privateKeyBytes.length
  if privateKeyLength ≠ 32 then
    .error ⟨.invalidArgument, s!"Invalid X25519 private key length (expected 32, got {privateKeyLength})"⟩
  else do
    validateX25519KeyPair lib publicKey privateKeyBytes
    return ⟨publicKey, privateKeyBytes⟩

end

/-! ## Protos -/

/-- `EcPointFormat` of `common.proto`. -/
inductive EcPointFormatProto
  | unknownFormat
  | uncompressed
  | compressed
  | doNotUseCrunchyUncompressed
  | unnamed (value : Int)
  deriving DecidableEq, Repr

structure EciesHkdfKemParamsProto where
  curveType    : EllipticCurveTypeProto
  hkdfHashType : HashTypeProto
  hkdfSalt     : Bytes
  deriving DecidableEq, Repr

structure EciesAeadDemParamsProto where
  aeadDem : KeyTemplate
  deriving DecidableEq, Repr

structure EciesAeadHkdfParamsProto where
  kemParams     : EciesHkdfKemParamsProto
  demParams     : EciesAeadDemParamsProto
  ecPointFormat : EcPointFormatProto
  deriving DecidableEq, Repr

structure EciesAeadHkdfPublicKeyProto where
  version : UInt32
  params  : EciesAeadHkdfParamsProto
  x       : Bytes
  y       : Bytes
  deriving DecidableEq, Repr

structure EciesAeadHkdfPrivateKeyProto where
  version   : UInt32
  publicKey : EciesAeadHkdfPublicKeyProto
  keyValue  : Bytes
  deriving DecidableEq, Repr

structure AesGcmKeyFormat where
  keySize : UInt32
  version : UInt32
  deriving DecidableEq, Repr

structure AesSivKeyFormat where
  keySize : UInt32
  version : UInt32
  deriving DecidableEq, Repr

structure XChaCha20Poly1305KeyFormat where
  version : UInt32
  deriving DecidableEq, Repr

structure EciesAeadHkdfParamsProto.IsNamed (params : EciesAeadHkdfParamsProto) : Prop where
  curveType        : ∀ value, params.kemParams.curveType ≠ .unnamed value
  hkdfHashType     : params.kemParams.hkdfHashType.IsNamed
  outputPrefixType : ∀ value, params.demParams.aeadDem.outputPrefixType ≠ .unnamed value
  ecPointFormat    : ∀ value, params.ecPointFormat ≠ .unnamed value

/-- The messages of `ecies_proto_serialization_impl.cc`. -/
structure EciesCodecs where
  publicKey  : MessageCodec EciesAeadHkdfPublicKeyProto (·.params.IsNamed)
  privateKey : MessageCodec EciesAeadHkdfPrivateKeyProto (·.publicKey.params.IsNamed)
  aesGcm     : MessageCodec AesGcmKeyFormat (fun _ => True)
  aesSiv     : MessageCodec AesSivKeyFormat (fun _ => True)
  xChaCha    : MessageCodec XChaCha20Poly1305KeyFormat (fun _ => True)
  aesCtrHmac : MessageCodec AesCtrHmacAeadKeyFormat (·.hmacKeyFormat.params.hash.IsNamed)

/-! ## Parameters and their protos -/

/-- `ToVariant` of ECIES: LEGACY is read as CRUNCHY. -/
def toEciesVariant : OutputPrefixType → Except Status KeyVariant
  | .legacy => .ok .crunchy
  | .crunchy => .ok .crunchy
  | .raw => .ok .noPrefix
  | .tink => .ok .tink
  | _ => .error ⟨.invalidArgument, "Could not determine EciesParameters::Variant"⟩

/-- `FromProtoCurveType`. -/
def fromProtoCurveType : EllipticCurveTypeProto → Except Status EciesCurveType
  | .nistP256 => .ok .nistP256
  | .nistP384 => .ok .nistP384
  | .nistP521 => .ok .nistP521
  | .curve25519 => .ok .x25519
  | _ => .error ⟨.invalidArgument, "Could not determine EciesParameters::CurveType."⟩

/-- `ToProtoCurveType`. -/
def EciesCurveType.toProto : EciesCurveType → EllipticCurveTypeProto
  | .nistP256 => .nistP256
  | .nistP384 => .nistP384
  | .nistP521 => .nistP521
  | .x25519 => .curve25519

/-- `FromProtoPointFormat`. -/
def fromProtoPointFormat : EcPointFormatProto → Except Status EciesPointFormat
  | .compressed => .ok .compressed
  | .uncompressed => .ok .uncompressed
  | .doNotUseCrunchyUncompressed => .ok .legacyUncompressed
  | _ => .error ⟨.invalidArgument, "Could not determine EciesParameters::PointFormat."⟩

/-- `ToProtoPointFormat`. -/
def EciesPointFormat.toProto : EciesPointFormat → EcPointFormatProto
  | .compressed => .compressed
  | .uncompressed => .uncompressed
  | .legacyUncompressed => .doNotUseCrunchyUncompressed

def aesGcmKeyUrl : String := "type.googleapis.com/google.crypto.tink.AesGcmKey"
def aesSivKeyUrl : String := "type.googleapis.com/google.crypto.tink.AesSivKey"
def xChaChaKeyUrl : String := "type.googleapis.com/google.crypto.tink.XChaCha20Poly1305Key"
def xChaChaKeyFormatUrl : String := "type.googleapis.com/google.crypto.tink.XChaCha20Poly1305KeyFormat"
def aesCtrHmacKeyUrl : String := "type.googleapis.com/google.crypto.tink.AesCtrHmacAeadKey"

/-- `ValidateAesCtrHmacAeadKeyFormat`. -/
def validateAesCtrHmacAeadKeyFormat (format : AesCtrHmacAeadKeyFormat) : Except Status Unit :=
  if format.aesCtrKeyFormat.params.ivSize ≠ 16 then .error ⟨.invalidArgument, "IV size must be 16 bytes."⟩
  else if format.hmacKeyFormat.version ≠ 0 then .error ⟨.invalidArgument, "HMAC key format version must be 0."⟩
  else if format.hmacKeyFormat.keySize ≠ 32 then .error ⟨.invalidArgument, "HMAC key size must be 32 bytes."⟩
  else if format.hmacKeyFormat.params.hash ≠ .sha256 then .error ⟨.invalidArgument, "Hash type must be SHA256."⟩
  else if format.aesCtrKeyFormat.keySize ≠ format.hmacKeyFormat.params.tagSize then
    .error ⟨.invalidArgument, "Allowed AES-CTR-HMAC DEMs must have matching key and tag sizes."⟩
  else .ok ()

section
variable (codecs : EciesCodecs)

/-- `FromProtoDemParams`. -/
def fromProtoDemParams (demParams : EciesAeadDemParamsProto) : Except Status EciesDemId :=
  let aeadDem := demParams.aeadDem
  if aeadDem.typeUrl = aesGcmKeyUrl then do
    let format ← parseMessage codecs.aesGcm "Failed to parse AesGcmKey proto" aeadDem.value
    let keySize := format.keySize
    if keySize = 16 then .ok .aes128GcmRaw
    else if keySize = 32 then .ok .aes256GcmRaw
    else
      .error ⟨.invalidArgument, s!"Invalid AES-GCM key length for DEM: {keySize}, want 16 or 32 bytes."⟩
  else if aeadDem.typeUrl = aesSivKeyUrl then do
    let format ← parseMessage codecs.aesSiv "Failed to parse AesSivKeyFormat proto" aeadDem.value
    if format.keySize = 64 then .ok .aes256SivRaw
    else .error ⟨.invalidArgument, "Invalid AES-SIV key length for DEM."⟩
  else if aeadDem.typeUrl = xChaChaKeyUrl ∨ aeadDem.typeUrl = xChaChaKeyFormatUrl then do
    let _ ← parseMessage codecs.xChaCha "Failed to parse XChaCha20Poly1305Key proto" aeadDem.value
    return .xChaCha20Poly1305Raw
  else if aeadDem.typeUrl = aesCtrHmacKeyUrl then do
    let format ← parseMessage codecs.aesCtrHmac "Could not parse AES-CTR-HMAC key format" aeadDem.value
    validateAesCtrHmacAeadKeyFormat format
    if format.aesCtrKeyFormat.keySize = 16 then .ok .aes128CtrHmacSha256Raw
    else if format.aesCtrKeyFormat.keySize = 32 then .ok .aes256CtrHmacSha256Raw
    else .error ⟨.invalidArgument, "Invalid AES-CTR-HMAC key length for DEM."⟩
  else .error ⟨.invalidArgument, "Unable to convert proto DEM params to DEM id."⟩

/-- `CreateEciesAeadDemParamsStruct`. -/
def createEciesAeadDemParamsStruct (typeUrl : String) (serializedKeyFormat : Bytes) : EciesAeadDemParamsProto :=
  ⟨⟨typeUrl, serializedKeyFormat, .tink⟩⟩

/-- The key format of AES-CTR-HMAC in `ToProtoDemParams`. -/
def aesCtrHmacDemFormat (keySize : UInt32) : AesCtrHmacAeadKeyFormat :=
  ⟨⟨⟨16⟩, keySize⟩, ⟨⟨.sha256, keySize⟩, 32, 0⟩⟩

/-- `ToProtoDemParams`. -/
def toProtoDemParams : EciesDemId → EciesAeadDemParamsProto
  | .aes128GcmRaw => createEciesAeadDemParamsStruct aesGcmKeyUrl (codecs.aesGcm.serializeAsSecretData ⟨16, 0⟩)
  | .aes256GcmRaw => createEciesAeadDemParamsStruct aesGcmKeyUrl (codecs.aesGcm.serializeAsSecretData ⟨32, 0⟩)
  | .aes256SivRaw => createEciesAeadDemParamsStruct aesSivKeyUrl (codecs.aesSiv.serializeAsSecretData ⟨64, 0⟩)
  | .xChaCha20Poly1305Raw =>
    createEciesAeadDemParamsStruct xChaChaKeyUrl (codecs.xChaCha.serializeAsSecretData ⟨0⟩)
  | .aes128CtrHmacSha256Raw => createEciesAeadDemParamsStruct aesCtrHmacKeyUrl
    (codecs.aesCtrHmac.serializeAsSecretData (aesCtrHmacDemFormat 16))
  | .aes256CtrHmacSha256Raw => createEciesAeadDemParamsStruct aesCtrHmacKeyUrl
    (codecs.aesCtrHmac.serializeAsSecretData (aesCtrHmacDemFormat 32))

/-- `ToParameters`. -/
def toEciesParameters (outputPrefixType : OutputPrefixType) (params : EciesAeadHkdfParamsProto) :
    Except Status EciesParameters := do
  let variant ← toEciesVariant outputPrefixType
  let curveType ← fromProtoCurveType params.kemParams.curveType
  let hashType ← toHashType "Could not determine EciesParameters::HashType." params.kemParams.hkdfHashType
  let demId ← fromProtoDemParams codecs params.demParams
  let pointFormat ←
    if curveType.isNistCurve then (fromProtoPointFormat params.ecPointFormat).map some else .ok none
  EciesParameters.build curveType hashType pointFormat demId params.kemParams.hkdfSalt variant

/-- `FromParameters`. -/
def EciesParameters.toProto (parameters : EciesParameters) : EciesAeadHkdfParamsProto where
  kemParams := ⟨parameters.curveType.toProto, parameters.hashType.toProto, parameters.salt.getD []⟩
  demParams := toProtoDemParams codecs parameters.demId
  -- without a point format the curve is X25519
  ecPointFormat := (parameters.pointFormat.map EciesPointFormat.toProto).getD .compressed

end

end Tink
