import TinkCc.EcdsaKeys
import TinkCc.HkdfInputStream
import TinkCc.KeysetWrapper
/-!
# KeyManagers — how the key managers of the global registry derive keys

`ValidateKeyFormat`, `DeriveKey` and `ValidateKey` of the five key managers, and `CreateDeriverFunctionFor` of
`key_manager_impl.h`, which the registry calls.  Every version of a key manager is 0.
-/
namespace Tink

variable {σ : Type} [InputStream σ]

/-- `ReadSecretBytesFromStream`, and what most managers make of its errors. -/
def readPseudorandomness (numBytes : Int) (inputStream : σ) : Except Status Bytes × σ :=
  match readSecretBytesFromStream numBytes inputStream with
  | (.error e, s) =>
    if e.code = .outOfRange then
      (.error ⟨.invalidArgument, "Could not get enough pseudorandomness from input stream"⟩, s)
    else (.error e, s)
  | (.ok bytes, s) => (.ok bytes, s)

/-! ## HMAC -/

/-- `Enums::HashName`. -/
def HashTypeProto.name : HashTypeProto → String
  | .sha1 => "SHA1"
  | .sha224 => "SHA224"
  | .sha256 => "SHA256"
  | .sha384 => "SHA384"
  | .sha512 => "SHA512"
  | _ => "UNKNOWN_HASH"

def HashTypeProto.maxTagSize : HashTypeProto → Option UInt32
  | .sha1 => some 20
  | .sha224 => some 28
  | .sha256 => some 32
  | .sha384 => some 48
  | .sha512 => some 64
  | _ => none

namespace HmacKeyManager

def validateParams (params : HmacParamsProto) : Except Status Unit :=
  let tagSize := params.tagSize
  let hashName := params.hash.name
  if tagSize < 10 then .error ⟨.invalidArgument, s!"Invalid HmacParams: tag_size {tagSize} is too small."⟩
  else
    match params.hash.maxTagSize with
    | none => .error ⟨.invalidArgument, s!"Invalid HmacParams: HashType '{hashName}' not supported."⟩
    | some maxTagSize =>
      if tagSize > maxTagSize then
        .error ⟨.invalidArgument, s!"Invalid HmacParams: tag_size {tagSize} is too big for HashType '{hashName}'."⟩
      else .ok ()

def validateKeyFormat (keyFormat : HmacKeyFormat) : Except Status Unit :=
  if keyFormat.keySize < 16 then .error ⟨.invalidArgument, "Invalid HmacKeyFormat: key_size is too small."⟩
  else validateParams keyFormat.params

def deriveKey (keyFormat : HmacKeyFormat) (inputStream : σ) : Except Status HmacKeyProto × σ :=
  match validateVersion keyFormat.version 0 with
  | .error e => (.error e, inputStream)
  | .ok () =>
    match readPseudorandomness (asInt keyFormat.keySize) inputStream with
    | (.error e, s) => (.error e, s)
    | (.ok randomness, s) => (.ok ⟨0, keyFormat.params, randomness⟩, s)

def validateKey (key : HmacKeyProto) : Except Status Unit := do
  validateVersion key.version 0
  if key.keyValue.length < 16 then .error ⟨.invalidArgument, "Invalid HmacKey: key_value is too short."⟩
  else validateParams key.params

end HmacKeyManager

/-! ## AES-CTR-HMAC -/

/-- `ValidateAesKeySize`. -/
def validateAesKeySize (keySize : Nat) : Except Status Unit :=
  if keySize ≠ 16 ∧ keySize ≠ 32 then
    .error ⟨.invalidArgument, s!"AES key has {keySize} bytes; supported sizes: 16 or 32 bytes."⟩
  else .ok ()

namespace AesCtrHmacAeadKeyManager

/-- The parameters of the HMAC are checked here, and once more by the manager of HMAC keys. -/
def validateKeyFormat (keyFormat : AesCtrHmacAeadKeyFormat) : Except Status Unit := do
  validateAesKeySize keyFormat.aesCtrKeyFormat.keySize.toNat
  if keyFormat.aesCtrKeyFormat.params.ivSize < 12 ∨ keyFormat.aesCtrKeyFormat.params.ivSize > 16 then
    .error ⟨.invalidArgument, "Invalid AesCtrHmacAeadKeyFormat: IV size out of range."⟩
  else if keyFormat.hmacKeyFormat.keySize < 16 then
    .error ⟨.invalidArgument, "Invalid AesCtrHmacAeadKeyFormat: HMAC key_size is too small."⟩
  else do
    HmacKeyManager.validateParams keyFormat.hmacKeyFormat.params
    HmacKeyManager.validateKeyFormat keyFormat.hmacKeyFormat

def validateKey (key : AesCtrHmacAeadKeyProto) : Except Status Unit := do
  validateVersion key.version 0
  validateVersion key.aesCtrKey.version 0
  validateAesKeySize key.aesCtrKey.keyValue.length
  if key.aesCtrKey.params.ivSize < 12 ∨ key.aesCtrKey.params.ivSize > 16 then
    .error ⟨.invalidArgument, "Invalid AesCtrHmacAeadKey: IV size out of range."⟩
  else HmacKeyManager.validateKey key.hmacKey

/-- The AES key is read first, then the HMAC key: the key commits to its parts. -/
def deriveKey (keyFormat : AesCtrHmacAeadKeyFormat) (inputStream : σ) : Except Status AesCtrHmacAeadKeyProto × σ :=
  match validateKeyFormat keyFormat with
  | .error e => (.error e, inputStream)
  | .ok () =>
    match readPseudorandomness (asInt keyFormat.aesCtrKeyFormat.keySize) inputStream with
    | (.error e, s) => (.error e, s)
    | (.ok aesCtrRandomness, s) =>
      match HmacKeyManager.deriveKey keyFormat.hmacKeyFormat s with
      | (.error e, s) => (.error e, s)
      | (.ok hmacKey, s) =>
        let key : AesCtrHmacAeadKeyProto :=
          { version := 0, aesCtrKey := ⟨0, keyFormat.aesCtrKeyFormat.params, aesCtrRandomness⟩, hmacKey := hmacKey }
        match validateKey key with
        | .error e => (.error e, s)
        | .ok () => (.ok key, s)

end AesCtrHmacAeadKeyManager

/-! ## ECDSA -/

namespace EcdsaVerifyKeyManager

def validateParams (params : EcdsaParamsProto) : Except Status Unit :=
  if params.encoding ≠ .der ∧ params.encoding ≠ .ieeeP1363 then
    let encoding := params.encoding.number
    .error ⟨.invalidArgument, s!"Unsupported signature encoding: {encoding}"⟩
  else
    match params.curve with
    | .nistP256 =>
      if params.hashType ≠ .sha256 then .error ⟨.invalidArgument, "Only SHA256 is supported for NIST P256."⟩
      else .ok ()
    | .nistP384 =>
      if params.hashType ≠ .sha384 ∧ params.hashType ≠ .sha512 then
        .error ⟨.invalidArgument, "Only SHA384 and SHA512 are supported for this curve."⟩
      else .ok ()
    | .nistP521 =>
      if params.hashType ≠ .sha512 then .error ⟨.invalidArgument, "Only SHA512 is supported for this curve."⟩
      else .ok ()
    | _ => .error ⟨.invalidArgument, "Unsupported elliptic curve"⟩

def validateKey (key : EcdsaPublicKeyProto) : Except Status Unit := do
  validateVersion key.version 0
  validateParams key.params

end EcdsaVerifyKeyManager

namespace EcdsaSignKeyManager

def validateKeyFormat (keyFormat : EcdsaKeyFormat) : Except Status Unit :=
  match keyFormat.params with
  | none => .error ⟨.invalidArgument, "Missing params."⟩
  | some params => EcdsaVerifyKeyManager.validateParams params

/-- The curve, and the bytes that match the security level of it. -/
def randomBytesUsed : EllipticCurveTypeProto → Option (EllipticCurveType × Int)
  | .nistP256 => some (.nistP256, 16)
  | .nistP384 => some (.nistP384, 24)
  | .nistP521 => some (.nistP521, 32)
  | _ => none

def deriveKey (lib : EcKeyLibrary) (keyFormat : EcdsaKeyFormat) (inputStream : σ) :
    Except Status EcdsaPrivateKeyProto × σ :=
  if lib.fipsMode then (.error ⟨.internal, "Deriving EC keys is not allowed in FIPS mode."⟩, inputStream)
  else
    match validateVersion keyFormat.version 0 with
    | .error e => (.error e, inputStream)
    | .ok () =>
      match randomBytesUsed keyFormat.getParams.curve with
      | none => (.error ⟨.invalidArgument, "Curve does not support key derivation."⟩, inputStream)
      | some (curve, randomBytesUsed) =>
        match readPseudorandomness randomBytesUsed inputStream with
        | (.error e, s) => (.error e, s)
        | (.ok randomness, s) =>
          match newEcKey lib curve randomness with
          | .error e => (.error e, s)
          | .ok ecKey => (.ok ⟨0, ⟨0, keyFormat.getParams, ecKey.pubX, ecKey.pubY⟩, ecKey.priv⟩, s)

def validateKey (key : EcdsaPrivateKeyProto) : Except Status Unit := do
  validateVersion key.version 0
  EcdsaVerifyKeyManager.validateKey key.publicKey

end EcdsaSignKeyManager

/-! ## Ed25519 -/

namespace Ed25519SignKeyManager

def validateKeyFormat (_ : Ed25519KeyFormat) : Except Status Unit := .ok ()

/-- The key pair is used without a check; 32 bytes have one. -/
def deriveKey (lib : EcKeyLibrary) (keyFormat : Ed25519KeyFormat) (inputStream : σ) :
    Except Status Ed25519PrivateKeyProto × σ :=
  match validateVersion keyFormat.version 0 with
  | .error e => (.error e, inputStream)
  | .ok () =>
    match readPseudorandomness 32 inputStream with
    | (.error e, s) => (.error e, s)
    | (.ok randomness, s) =>
      match newEd25519Key lib randomness with
      | .error e => (.error e, s)
      | .ok (publicKey, privateKey) => (.ok ⟨0, privateKey, ⟨0, publicKey⟩⟩, s)

def validateKey (key : Ed25519PrivateKeyProto) : Except Status Unit := do
  validateVersion key.version 0
  if key.keyValue.length ≠ 32 then .error ⟨.invalidArgument, "The ED25519 private key must be 32-bytes long."⟩
  else do
    -- Ed25519VerifyKeyManager
    validateVersion key.publicKey.version 0
    if key.publicKey.keyValue.length ≠ 32 then
      .error ⟨.invalidArgument, "The ED25519 public key must be 32-bytes long."⟩
    else .ok ()

end Ed25519SignKeyManager

/-! ## AES-GCM-HKDF streaming -/

namespace AesGcmHkdfStreamingKeyManager

/-- The size of the header is an `int`, and wraps; compared with the segment size it is a `uint64_t`. -/
def validateParams (params : AesGcmHkdfStreamingParamsProto) : Except Status Unit :=
  if ¬ (params.hkdfHashType = .sha1 ∨ params.hkdfHashType = .sha256 ∨ params.hkdfHashType = .sha512) then
    .error ⟨.invalidArgument, "unsupported hkdf_hash_type"⟩
  else
    let headerSize := asInt (1 + params.derivedKeySize + 7)
    if (params.ciphertextSegmentSize.toNat : Int) ≤ (headerSize + 16) % 2 ^ 64 then
      .error ⟨.invalidArgument, "ciphertext_segment_size too small"⟩
    else validateAesKeySize params.derivedKeySize.toNat

def validateKeyFormat (keyFormat : AesGcmHkdfStreamingKeyFormat) : Except Status Unit :=
  if keyFormat.keySize < keyFormat.params.derivedKeySize then
    .error ⟨.invalidArgument, "key_size must not be smaller than derived_key_size"⟩
  else validateParams keyFormat.params

def deriveKey (keyFormat : AesGcmHkdfStreamingKeyFormat) (inputStream : σ) :
    Except Status AesGcmHkdfStreamingKeyProto × σ :=
  match validateVersion keyFormat.version 0 with
  | .error e => (.error e, inputStream)
  | .ok () =>
    match readSecretBytesFromStream (asInt keyFormat.keySize) inputStream with
    | (.error e, s) => (.error e, s)
    | (.ok randomness, s) => (.ok ⟨0, keyFormat.params, randomness⟩, s)

def validateKey (key : AesGcmHkdfStreamingKeyProto) : Except Status Unit := do
  validateVersion key.version 0
  if key.keyValue.length < key.params.derivedKeySize.toNat then
    .error ⟨.invalidArgument, "key_value (i.e. ikm) too short"⟩
  else validateParams key.params

end AesGcmHkdfStreamingKeyManager

/-! ## CreateDeriverFunctionFor -/

/-- A `KeyTypeManager`, as far as deriving keys goes. -/
structure KeyTypeManager (σ Format KeyProto : Type) where
  keyType           : String
  formatName        : String
  keyMaterialType   : KeyMaterialType
  validateKeyFormat : Format → Except Status Unit
  deriveKey         : Format → σ → Except Status KeyProto × σ
  validateKey       : KeyProto → Except Status Unit

/-- The function of `CreateDeriverFunctionFor`. -/
def createDeriverFunctionFor {Format KeyProto : Type} {formatNamed : Format → Prop} {keyNamed : KeyProto → Prop}
    (manager : KeyTypeManager σ Format KeyProto) (codec : DeriverCodec Format KeyProto formatNamed keyNamed)
    (serializedKeyFormat : Bytes) (randomness : σ) : Except Status KeyData × σ :=
  match codec.parseFormat serializedKeyFormat with
  | none =>
    let formatName := manager.formatName
    (.error ⟨.invalidArgument, s!"Could not parse the passed string as proto '{formatName}'."⟩, randomness)
  | some (keyFormat, unknownFields) =>
    match manager.validateKeyFormat keyFormat with
    | .error e => (.error e, randomness)
    | .ok () =>
      match manager.deriveKey keyFormat randomness with
      | (.error e, s) => (.error e, s)
      | (.ok keyProto, s) =>
        match manager.validateKey keyProto with
        | .error e => (.error e, s)
        | .ok () => (.ok ⟨manager.keyType, codec.serializeKey keyProto unknownFields, manager.keyMaterialType⟩, s)

end Tink
