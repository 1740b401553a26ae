import TinkCc.JwtPublicKeys
import TinkCc.LibBigEndian
/-!
# DerivableKeyTypes — protos, parameters and keys of the types whose keys are derived

HMAC, AES-CTR-HMAC, ECDSA, Ed25519 and AES-GCM-HKDF streaming keys: their protos, the classes `*Parameters` and `*Key`,
and the way between them (`*_proto_serialization_impl.cc`).  A `uint32` that the code takes as an `int` is read with its
sign.  The output prefix of a key follows from its variant and id and is left out.
-/
namespace Tink

/-! ## The protos -/

/-- `HashType` of `common.proto`. -/
inductive HashTypeProto
  | unknownHash
  | sha1
  | sha384
  | sha256
  | sha512
  | sha224
  | unnamed (value : Int)
  deriving DecidableEq, Repr

inductive EllipticCurveTypeProto
  | unknownCurve
  | nistP256
  | nistP384
  | nistP521
  | curve25519
  | unnamed (value : Int)
  deriving DecidableEq, Repr

inductive EcdsaSignatureEncodingProto
  | unknownEncoding
  | ieeeP1363
  | der
  | unnamed (value : Int)
  deriving DecidableEq, Repr

structure HmacParamsProto where
  hash    : HashTypeProto
  tagSize : UInt32
  deriving DecidableEq, Repr

structure HmacKeyFormat where
  params  : HmacParamsProto
  keySize : UInt32
  version : UInt32
  deriving DecidableEq, Repr

structure HmacKeyProto where
  version  : UInt32
  params   : HmacParamsProto
  keyValue : Bytes
  deriving DecidableEq, Repr

structure AesCtrParamsProto where
  ivSize : UInt32
  deriving DecidableEq, Repr

structure AesCtrKeyFormat where
  params  : AesCtrParamsProto
  keySize : UInt32
  deriving DecidableEq, Repr

structure AesCtrKeyProto where
  version  : UInt32
  params   : AesCtrParamsProto
  keyValue : Bytes
  deriving DecidableEq, Repr

structure AesCtrHmacAeadKeyFormat where
  aesCtrKeyFormat : AesCtrKeyFormat
  hmacKeyFormat   : HmacKeyFormat
  deriving DecidableEq, Repr

structure AesCtrHmacAeadKeyProto where
  version   : UInt32
  aesCtrKey : AesCtrKeyProto
  hmacKey   : HmacKeyProto
  deriving DecidableEq, Repr

structure EcdsaParamsProto where
  hashType : HashTypeProto
  curve    : EllipticCurveTypeProto
  encoding : EcdsaSignatureEncodingProto
  deriving DecidableEq, Repr

/-- `EcdsaKeyFormat`; its key manager asks whether `params` is set. -/
structure EcdsaKeyFormat where
  params  : Option EcdsaParamsProto
  version : UInt32
  deriving DecidableEq, Repr

structure EcdsaPublicKeyProto where
  version : UInt32
  params  : EcdsaParamsProto
  x       : Bytes
  y       : Bytes
  deriving DecidableEq, Repr

structure EcdsaPrivateKeyProto where
  version   : UInt32
  publicKey : EcdsaPublicKeyProto
  keyValue  : Bytes
  deriving DecidableEq, Repr

structure Ed25519KeyFormat where
  version : UInt32
  deriving DecidableEq, Repr

structure Ed25519PublicKeyProto where
  version  : UInt32
  keyValue : Bytes
  deriving DecidableEq, Repr

structure Ed25519PrivateKeyProto where
  version   : UInt32
  keyValue  : Bytes
  publicKey : Ed25519PublicKeyProto
  deriving DecidableEq, Repr

structure AesGcmHkdfStreamingParamsProto where
  ciphertextSegmentSize : UInt32
  derivedKeySize        : UInt32
  hkdfHashType          : HashTypeProto
  deriving DecidableEq, Repr

structure AesGcmHkdfStreamingKeyFormat where
  params  : AesGcmHkdfStreamingParamsProto
  keySize : UInt32
  version : UInt32
  deriving DecidableEq, Repr

structure AesGcmHkdfStreamingKeyProto where
  version  : UInt32
  params   : AesGcmHkdfStreamingParamsProto
  keyValue : Bytes
  deriving DecidableEq, Repr

/-- `params()` of a format that has none is the default. -/
def EcdsaKeyFormat.getParams (format : EcdsaKeyFormat) : EcdsaParamsProto :=
  format.params.getD ⟨.unknownHash, .unknownCurve, .unknownEncoding⟩

def HashTypeProto.number : HashTypeProto → Int
  | .unknownHash => 0
  | .sha1 => 1
  | .sha384 => 2
  | .sha256 => 3
  | .sha512 => 4
  | .sha224 => 5
  | .unnamed value => value

def EcdsaSignatureEncodingProto.number : EcdsaSignatureEncodingProto → Int
  | .unknownEncoding => 0
  | .ieeeP1363 => 1
  | .der => 2
  | .unnamed value => value

/-- Whether a field holds a number that has a name; the parser of Tink's own drops other numbers. -/
def HashTypeProto.IsNamed (hash : HashTypeProto) : Prop := ∀ value, hash ≠ .unnamed value

def EcdsaParamsProto.IsNamed (params : EcdsaParamsProto) : Prop :=
  params.hashType.IsNamed ∧ (∀ value, params.curve ≠ .unnamed value) ∧ ∀ value, params.encoding ≠ .unnamed value

/-- The generated code for a key format and a key, and the parser and serializer of Tink's own, with what is relied on:
where all numbers have names a key is read back, and bytes that both parsers read are the same format to them.  The
fields that the generated code does not know are kept aside, and go into the key with the parameters. -/
structure DeriverCodec (Format KeyProto : Type) (formatNamed : Format → Prop) (keyNamed : KeyProto → Prop) where
  parseFormat              : Bytes → Option (Format × Bytes)
  serializeKey             : KeyProto → (unknownFields : Bytes) → Bytes
  parseFormatTP            : Bytes → Option Format
  parseKeyTP               : Bytes → Option KeyProto
  serializeKeyTP           : KeyProto → Bytes
  parseFormatTP_agrees     : ∀ {bytes format unknownFields format'}, parseFormat bytes = some (format, unknownFields) →
    formatNamed format → parseFormatTP bytes = some format' → format' = format
  parseKeyTP_serializeKey  : ∀ {key}, keyNamed key → ∀ unknownFields,
    parseKeyTP (serializeKey key unknownFields) = some key
  parseKeyTP_serializeKeyTP : ∀ {key}, keyNamed key → parseKeyTP (serializeKeyTP key) = some key

abbrev HmacCodec :=
  DeriverCodec HmacKeyFormat HmacKeyProto (·.params.hash.IsNamed) (·.params.hash.IsNamed)
abbrev AesCtrHmacAeadCodec :=
  DeriverCodec AesCtrHmacAeadKeyFormat AesCtrHmacAeadKeyProto (·.hmacKeyFormat.params.hash.IsNamed)
    (·.hmacKey.params.hash.IsNamed)
abbrev EcdsaCodec :=
  DeriverCodec EcdsaKeyFormat EcdsaPrivateKeyProto (·.getParams.IsNamed) (·.publicKey.params.IsNamed)
abbrev Ed25519Codec := DeriverCodec Ed25519KeyFormat Ed25519PrivateKeyProto (fun _ => True) (fun _ => True)
abbrev AesGcmHkdfStreamingCodec :=
  DeriverCodec AesGcmHkdfStreamingKeyFormat AesGcmHkdfStreamingKeyProto (·.params.hkdfHashType.IsNamed)
    (·.params.hkdfHashType.IsNamed)

/-! ## Integers -/

/-- A `uint32_t` given where an `int` is asked for. -/
def asInt (n : UInt32) : Int := n.toInt32.toInt

/-- An `int` given where a `uint32_t` is asked for. -/
def asUInt32 (n : Int) : UInt32 := (Int32.ofInt n).toUInt32

@[simp] theorem asUInt32_asInt (n : UInt32) : asUInt32 (asInt n) = n := by
  simp [asUInt32, asInt]

theorem asInt_eq_or_neg (n : UInt32) : asInt n = n.toNat ∨ asInt n < 0 := by
  have h : asInt n = if 2 * n.toNat < 2 ^ 32 then (n.toNat : Int) else (n.toNat : Int) - ((2 ^ 32 : Nat) : Int) :=
    BitVec.toInt_eq_toNat_cond n.toBitVec
  have := n.toNat_lt
  by_cases hlt : 2 * n.toNat < 2 ^ 32
  · rw [if_pos hlt] at h
    exact .inl h
  · rw [if_neg hlt] at h
    exact .inr (by omega)

/-! ## Hashes, variants and ids -/

/-- `HashType` of the parameters. -/
inductive ParametersHash
  | sha1
  | sha224
  | sha256
  | sha384
  | sha512
  deriving DecidableEq, Repr

/-- `Variant` of the parameters; only ECDSA keys have the last one. -/
inductive KeyVariant
  | tink
  | crunchy
  | legacy
  | noPrefix
  | noPrefixWithPrehashId
  deriving DecidableEq, Repr

/-- `ToProtoHashType`. -/
def ParametersHash.toProto : ParametersHash → HashTypeProto
  | .sha1 => .sha1
  | .sha224 => .sha224
  | .sha256 => .sha256
  | .sha384 => .sha384
  | .sha512 => .sha512

theorem ParametersHash.toProto_isNamed (hash : ParametersHash) : hash.toProto.IsNamed := by
  cases hash <;> exact fun _ h => by cases h

def ParametersHash.maxTagSize : ParametersHash → Int
  | .sha1 => 20
  | .sha224 => 28
  | .sha256 => 32
  | .sha384 => 48
  | .sha512 => 64

/-- `ToHashType` of HMAC and AES-CTR-HMAC. -/
def toHashType (message : String) : HashTypeProto → Except Status ParametersHash
  | .sha1 => .ok .sha1
  | .sha224 => .ok .sha224
  | .sha256 => .ok .sha256
  | .sha384 => .ok .sha384
  | .sha512 => .ok .sha512
  | _ => .error ⟨.invalidArgument, message⟩

theorem toHashType_ok {message : String} {proto : HashTypeProto} {hash : ParametersHash}
    (h : toHashType message proto = .ok hash) : hash.toProto = proto := by
  cases proto <;> cases h <;> rfl

/-- `ToVariant` of HMAC and Ed25519. -/
def toVariant (name : String) : OutputPrefixType → Except Status KeyVariant
  | .crunchy => .ok .crunchy
  | .legacy => .ok .legacy
  | .raw => .ok .noPrefix
  | .tink => .ok .tink
  | _ => .error ⟨.invalidArgument, s!"Could not determine {name}::Variant"⟩

/-- `ToOutputPrefixType`. -/
def KeyVariant.toOutputPrefixType : KeyVariant → OutputPrefixType
  | .tink => .tink
  | .crunchy => .crunchy
  | .legacy => .legacy
  | .noPrefix => .raw
  | .noPrefixWithPrehashId => .withIdRequirement

def KeyVariant.hasIdRequirement (variant : KeyVariant) : Bool := decide (variant ≠ .noPrefix)

/-- What every key asks of the id requirement. -/
def checkVariantId (variant : KeyVariant) (idRequirement : Option UInt32) : Except Status Unit :=
  if variant.hasIdRequirement = true ∧ idRequirement = none then
    .error ⟨.invalidArgument, "Cannot create key without ID requirement with parameters with ID requirement"⟩
  else if variant.hasIdRequirement = false ∧ idRequirement ≠ none then
    .error ⟨.invalidArgument, "Cannot create key with ID requirement with parameters without ID requirement"⟩
  else .ok ()

/-! ## HMAC -/

structure HmacParameters where
  keySizeInBytes              : Int
  cryptographicTagSizeInBytes : Int
  hashType                    : ParametersHash
  variant                     : KeyVariant
  keySize_ge                  : 16 ≤ keySizeInBytes

/-- `HmacParameters::Create`. -/
def HmacParameters.create (keySizeInBytes tagSizeInBytes : Int) (hashType : ParametersHash) (variant : KeyVariant) :
    Except Status HmacParameters :=
  if h : 16 ≤ keySizeInBytes then
    if tagSizeInBytes < 10 then
      .error ⟨.invalidArgument, s!"Tag size should be at least 10 bytes, got {tagSizeInBytes} bytes."⟩
    else if tagSizeInBytes > hashType.maxTagSize then
      .error ⟨.invalidArgument, s!"Tag size is too big for given hash type, got {tagSizeInBytes} bytes."⟩
    else if variant = .noPrefixWithPrehashId then
      .error ⟨.invalidArgument, "Cannot create HMAC parameters with unknown variant."⟩
    else .ok ⟨keySizeInBytes, tagSizeInBytes, hashType, variant, h⟩
  else .error ⟨.invalidArgument, s!"Key size must be at least 16 bytes, got {keySizeInBytes} bytes."⟩

structure HmacKey where
  parameters    : HmacParameters
  keyBytes      : Bytes
  idRequirement : Option UInt32
  size_eq       : parameters.keySizeInBytes = keyBytes.length

/-- `HmacKey::Create`. -/
def HmacKey.create (parameters : HmacParameters) (keyBytes : Bytes) (idRequirement : Option UInt32) :
    Except Status HmacKey :=
  if h : parameters.keySizeInBytes = keyBytes.length then
    (checkVariantId parameters.variant idRequirement).map fun _ => ⟨parameters, keyBytes, idRequirement, h⟩
  else .error ⟨.invalidArgument, "Key size does not match HMAC parameters"⟩

/-- `ParseParameters`, of a format that was parsed. -/
def parseHmacParameters (format : HmacKeyFormat) (outputPrefixType : OutputPrefixType) : Except Status HmacParameters :=
  if format.version ≠ 0 then
    .error ⟨.invalidArgument, "Parsing HmacParameters failed: only version 0 is accepted"⟩
  else do
    let variant ← toVariant "HmacParameters" outputPrefixType
    let hashType ← toHashType "Could not determine HashType" format.params.hash
    HmacParameters.create (asInt format.keySize) (asInt format.params.tagSize) hashType variant

/-- `ParseKey`, of a key that was parsed. -/
def parseHmacKey (key : HmacKeyProto) (outputPrefixType : OutputPrefixType) (idRequirement : Option UInt32) :
    Except Status HmacKey :=
  if key.version ≠ 0 then .error ⟨.invalidArgument, "Only version 0 keys are accepted."⟩
  else do
    let variant ← toVariant "HmacParameters" outputPrefixType
    let hashType ← toHashType "Could not determine HashType" key.params.hash
    let parameters ← HmacParameters.create key.keyValue.length (asInt key.params.tagSize) hashType variant
    HmacKey.create parameters key.keyValue idRequirement

/-- The proto of `SerializeKey`. -/
def serializeHmacKey (key : HmacKey) : HmacKeyProto :=
  ⟨0, ⟨key.parameters.hashType.toProto, asUInt32 key.parameters.cryptographicTagSizeInBytes⟩, key.keyBytes⟩

/-! ## AES-CTR-HMAC -/

structure AesCtrHmacAeadParameters where
  aesKeySizeInBytes  : Int
  hmacKeySizeInBytes : Int
  ivSizeInBytes      : Int
  tagSizeInBytes     : Int
  hashType           : ParametersHash
  variant            : KeyVariant
  aesKeySize         : aesKeySizeInBytes = 16 ∨ aesKeySizeInBytes = 24 ∨ aesKeySizeInBytes = 32
  hmacKeySize_ge     : 16 ≤ hmacKeySizeInBytes

/-- `AesCtrHmacAeadParameters::Builder::Build`, with everything set. -/
def AesCtrHmacAeadParameters.build (aesKeySizeInBytes hmacKeySizeInBytes ivSizeInBytes tagSizeInBytes : Int)
    (hashType : ParametersHash) (variant : KeyVariant) : Except Status AesCtrHmacAeadParameters :=
  if haes : aesKeySizeInBytes = 16 ∨ aesKeySizeInBytes = 24 ∨ aesKeySizeInBytes = 32 then
    if hhmac : 16 ≤ hmacKeySizeInBytes then
      if ivSizeInBytes < 12 ∨ ivSizeInBytes > 16 then
        .error ⟨.invalidArgument, s!"IV size should be betwwen 12 and 16 bytes, got {ivSizeInBytes} bytes."⟩
      else if tagSizeInBytes < 10 then
        .error ⟨.invalidArgument, s!"Tag size should have at least 10 bytes, got {tagSizeInBytes} bytes."⟩
      else if tagSizeInBytes > hashType.maxTagSize then
        .error ⟨.invalidArgument, s!"Tag size {tagSizeInBytes} is too big for given hash type."⟩
      else if variant = .legacy ∨ variant = .noPrefixWithPrehashId then
        .error ⟨.invalidArgument, "Cannot create AesCtrHmacAeadParameters with unknown Variant."⟩
      else
        .ok ⟨aesKeySizeInBytes, hmacKeySizeInBytes, ivSizeInBytes, tagSizeInBytes, hashType, variant, haes, hhmac⟩
    else
      .error ⟨.invalidArgument, s!"HMAC key size should have at least 16 bytes, got {hmacKeySizeInBytes} bytes."⟩
  else .error ⟨.invalidArgument, s!"AES key size should be 16, 24, or 32 bytes, got {aesKeySizeInBytes} bytes."⟩

structure AesCtrHmacAeadKey where
  parameters    : AesCtrHmacAeadParameters
  aesKeyBytes   : Bytes
  hmacKeyBytes  : Bytes
  idRequirement : Option UInt32
  aesSize_eq    : parameters.aesKeySizeInBytes = aesKeyBytes.length
  hmacSize_eq   : parameters.hmacKeySizeInBytes = hmacKeyBytes.length

/-- `AesCtrHmacAeadKey::Builder::Build`, with everything set. -/
def AesCtrHmacAeadKey.build (parameters : AesCtrHmacAeadParameters) (aesKeyBytes hmacKeyBytes : Bytes)
    (idRequirement : Option UInt32) : Except Status AesCtrHmacAeadKey :=
  if haes : parameters.aesKeySizeInBytes = aesKeyBytes.length then
    if hhmac : parameters.hmacKeySizeInBytes = hmacKeyBytes.length then
      (checkVariantId parameters.variant idRequirement).map fun _ =>
        ⟨parameters, aesKeyBytes, hmacKeyBytes, idRequirement, haes, hhmac⟩
    else
      .error ⟨.invalidArgument,
        "HMAC key size does not match AesCtrHmacAeadParameters::GetHmacKeySizeInBytes"⟩
  else .error ⟨.invalidArgument, "AES key size does not match AesCtrHmacAeadParameters::GetAesKeySizeInBytes"⟩

/-- `ToVariant` of AES-CTR-HMAC: LEGACY is read as CRUNCHY. -/
def toAesCtrHmacVariant : OutputPrefixType → Except Status KeyVariant
  | .legacy => .ok .crunchy
  | .crunchy => .ok .crunchy
  | .raw => .ok .noPrefix
  | .tink => .ok .tink
  | _ => .error ⟨.invalidArgument, "Could not determine AesCtrHmacAeadParameters::Variant"⟩

/-- `ParseParameters`, of a format that was parsed. -/
def parseAesCtrHmacAeadParameters (format : AesCtrHmacAeadKeyFormat) (outputPrefixType : OutputPrefixType) :
    Except Status AesCtrHmacAeadParameters :=
  let version := format.hmacKeyFormat.version
  if version ≠ 0 then
    .error ⟨.invalidArgument, s!"Failed to parse hmac key format: only version 0 is accepted, got {version}"⟩
  else do
    let variant ← toAesCtrHmacVariant outputPrefixType
    let hashType ← toHashType "Could not determine AesCtrHmacAeadParameters::HashType" format.hmacKeyFormat.params.hash
    AesCtrHmacAeadParameters.build (asInt format.aesCtrKeyFormat.keySize) (asInt format.hmacKeyFormat.keySize)
      (asInt format.aesCtrKeyFormat.params.ivSize) (asInt format.hmacKeyFormat.params.tagSize) hashType variant

/-- `ParseKey`, of a key that was parsed. -/
def parseAesCtrHmacAeadKey (key : AesCtrHmacAeadKeyProto) (outputPrefixType : OutputPrefixType)
    (idRequirement : Option UInt32) : Except Status AesCtrHmacAeadKey :=
  if key.version ≠ 0 then .error ⟨.invalidArgument, "Only version 0 keys are accepted."⟩
  else if key.aesCtrKey.version ≠ 0 then
    .error ⟨.invalidArgument, "Only version 0 keys inner AES CTR keys are accepted."⟩
  else if key.hmacKey.version ≠ 0 then
    .error ⟨.invalidArgument, "Only version 0 keys inner HMAC keys are accepted."⟩
  else do
    let variant ← toAesCtrHmacVariant outputPrefixType
    let hashType ← toHashType "Could not determine AesCtrHmacAeadParameters::HashType" key.hmacKey.params.hash
    let parameters ← AesCtrHmacAeadParameters.build key.aesCtrKey.keyValue.length key.hmacKey.keyValue.length
      (asInt key.aesCtrKey.params.ivSize) (asInt key.hmacKey.params.tagSize) hashType variant
    AesCtrHmacAeadKey.build parameters key.aesCtrKey.keyValue key.hmacKey.keyValue idRequirement

/-- The proto of `SerializeKey`. -/
def serializeAesCtrHmacAeadKey (key : AesCtrHmacAeadKey) : AesCtrHmacAeadKeyProto :=
  { version := 0,
    aesCtrKey := ⟨0, ⟨asUInt32 key.parameters.ivSizeInBytes⟩, key.aesKeyBytes⟩,
    hmacKey := ⟨0, ⟨key.parameters.hashType.toProto, asUInt32 key.parameters.tagSizeInBytes⟩, key.hmacKeyBytes⟩ }

/-! ## AES-GCM-HKDF streaming -/

structure AesGcmHkdfStreamingParameters where
  keySizeInBytes               : Int
  derivedKeySizeInBytes        : Int
  hashType                     : ParametersHash
  ciphertextSegmentSizeInBytes : Int
  keySize_ge                   : 16 ≤ keySizeInBytes

/-- `AesGcmHkdfStreamingParameters::Builder::Build`, with everything set; an `int` is at most `INT32_MAX`. -/
def AesGcmHkdfStreamingParameters.build (keySizeInBytes derivedKeySizeInBytes : Int) (hashType : ParametersHash)
    (segmentSizeInBytes : Int) : Except Status AesGcmHkdfStreamingParameters :=
  if hderived : derivedKeySizeInBytes = 16 ∨ derivedKeySizeInBytes = 32 then
    if hkey : derivedKeySizeInBytes ≤ keySizeInBytes then
      let minSegmentSize := derivedKeySizeInBytes + 24
      if segmentSizeInBytes < minSegmentSize then
        .error ⟨.invalidArgument, s!"Ciphertext segment size must be at least {minSegmentSize} bytes"⟩
      else if hashType = .sha224 ∨ hashType = .sha384 then .error ⟨.invalidArgument, "Hash type not supported."⟩
      else .ok ⟨keySizeInBytes, derivedKeySizeInBytes, hashType, segmentSizeInBytes, by omega⟩
    else .error ⟨.invalidArgument, "Key size must be at least the derived key size."⟩
  else .error ⟨.invalidArgument, "Derived key size must be either 16 or 32 bytes"⟩

structure AesGcmHkdfStreamingKey where
  parameters         : AesGcmHkdfStreamingParameters
  initialKeyMaterial : Bytes
  size_eq            : parameters.keySizeInBytes = initialKeyMaterial.length

/-- `AesGcmHkdfStreamingKey::Create`. -/
def AesGcmHkdfStreamingKey.create (parameters : AesGcmHkdfStreamingParameters) (initialKeyMaterial : Bytes) :
    Except Status AesGcmHkdfStreamingKey :=
  if h : parameters.keySizeInBytes = initialKeyMaterial.length then .ok ⟨parameters, initialKeyMaterial, h⟩
  else .error ⟨.invalidArgument, "Key size does not match AES-GCM-HKDF Streaming parameters"⟩

/-- `FromProtoHashType`. -/
def fromStreamingHashType (proto : HashTypeProto) : Except Status ParametersHash :=
  match proto with
  | .sha1 => .ok .sha1
  | .sha256 => .ok .sha256
  | .sha512 => .ok .sha512
  | _ =>
    let number := proto.number
    .error ⟨.invalidArgument, s!"Unsupported proto hash type: {number}"⟩

theorem fromStreamingHashType_ok {proto : HashTypeProto} {hash : ParametersHash}
    (h : fromStreamingHashType proto = .ok hash) : hash.toProto = proto := by
  cases proto <;> cases h <;> rfl

/-- `ToParameters`. -/
def toAesGcmHkdfStreamingParameters (params : AesGcmHkdfStreamingParamsProto) (keySize : Int) :
    Except Status AesGcmHkdfStreamingParameters := do
  let hashType ← fromStreamingHashType params.hkdfHashType
  AesGcmHkdfStreamingParameters.build keySize (asInt params.derivedKeySize) hashType
    (asInt params.ciphertextSegmentSize)

/-- `ParseParameters`, of a format that was parsed; the prefix type is not looked at. -/
def parseAesGcmHkdfStreamingParameters (format : AesGcmHkdfStreamingKeyFormat) (_ : OutputPrefixType) :
    Except Status AesGcmHkdfStreamingParameters :=
  if format.version ≠ 0 then
    .error ⟨.invalidArgument, "Parsing AesGcmHkdfStreamingKeyFormat failed: only version 0 is accepted."⟩
  else toAesGcmHkdfStreamingParameters format.params (asInt format.keySize)

/-- `ParseKey`, of a key that was parsed; neither the prefix type nor the id is looked at. -/
def parseAesGcmHkdfStreamingKey (key : AesGcmHkdfStreamingKeyProto) (_ : OutputPrefixType) (_ : Option UInt32) :
    Except Status AesGcmHkdfStreamingKey :=
  if key.version ≠ 0 then
    .error ⟨.invalidArgument, "Parsing AesGcmHkdfStreamingKey failed: only version 0 is accepted."⟩
  else do
    let parameters ← toAesGcmHkdfStreamingParameters key.params key.keyValue.length
    AesGcmHkdfStreamingKey.create parameters key.keyValue

/-- The proto of `SerializeKey`. -/
def serializeAesGcmHkdfStreamingKey (key : AesGcmHkdfStreamingKey) : AesGcmHkdfStreamingKeyProto :=
  { version := 0,
    params := ⟨asUInt32 key.parameters.ciphertextSegmentSizeInBytes, asUInt32 key.parameters.derivedKeySizeInBytes,
      key.parameters.hashType.toProto⟩,
    keyValue := key.initialKeyMaterial }

end Tink
