import TinkCc.KeyManagers
import TinkCc.KeysetHandleBuilder
/-!
# KeyDerivers — deriving a keyset from a PRF stream

`key_derivers.cc` derives keys from parameters, `prf_based_deriver.cc` tries the global registry first and the parameters
if that fails, on the same stream.
-/
namespace Tink

variable {σ : Type} [InputStream σ]

/-! ## The map from parameters to derivers -/

/-- `DeriveHmacKey`. -/
def deriveHmacKey (params : HmacParameters) (randStream : σ) : Except Status HmacKey × σ :=
  match readSecretBytesFromStream params.keySizeInBytes randStream with
  | (.error e, s) => (.error e, s)
  | (.ok rand, s) => (HmacKey.create params rand none, s)

/-- `DeriveAesCtrHmacAeadKey`: the AES key is read first. -/
def deriveAesCtrHmacAeadKey (params : AesCtrHmacAeadParameters) (randStream : σ) : Except Status AesCtrHmacAeadKey × σ :=
  match readSecretBytesFromStream params.aesKeySizeInBytes randStream with
  | (.error e, s) => (.error e, s)
  | (.ok aesKeyBytes, s) =>
    match readSecretBytesFromStream params.hmacKeySizeInBytes s with
    | (.error e, s) => (.error e, s)
    | (.ok hmacKeyBytes, s) => (AesCtrHmacAeadKey.build params aesKeyBytes hmacKeyBytes none, s)

/-- The bytes that `DeriveEcdsaPrivateKey` reads. -/
def numRandBytes : EllipticCurveType → Int
  | .nistP256 => 16
  | .nistP384 => 24
  | .nistP521 => 32

/-- `DeriveEcdsaPrivateKey`. -/
def deriveEcdsaPrivateKey (lib : EcKeyLibrary) (params : EcdsaParameters) (randStream : σ) :
    Except Status EcdsaPrivateKey × σ :=
  match readSecretBytesFromStream (numRandBytes params.curveType) randStream with
  | (.error e, s) => (.error e, s)
  | (.ok secretSeed, s) =>
    (do
      let ecKey ← newEcKey lib params.curveType secretSeed
      let publicKey ← EcdsaPublicKey.create lib params (BigEndian.value ecKey.pubX, BigEndian.value ecKey.pubY) none
      EcdsaPrivateKey.create lib publicKey ecKey.priv, s)

/-- `DeriveEd25519PrivateKey`. -/
def deriveEd25519PrivateKey (lib : EcKeyLibrary) (params : KeyVariant) (randStream : σ) :
    Except Status Ed25519PrivateKey × σ :=
  match readSecretBytesFromStream 32 randStream with
  | (.error e, s) => (.error e, s)
  | (.ok secretSeed, s) =>
    (do
      let keyPair ← newEd25519Key lib secretSeed
      let publicKey ← Ed25519PublicKey.create params keyPair.1 none
      Ed25519PrivateKey.create lib publicKey keyPair.2, s)

/-- `DeriveAesGcmHkdfStreamingKey`. -/
def deriveAesGcmHkdfStreamingKey (params : AesGcmHkdfStreamingParameters) (randStream : σ) :
    Except Status AesGcmHkdfStreamingKey × σ :=
  match readSecretBytesFromStream params.keySizeInBytes randStream with
  | (.error e, s) => (.error e, s)
  | (.ok rand, s) => (AesGcmHkdfStreamingKey.create params rand, s)

/-! ## A key type -/

/-- What Tink has for one key type: its key manager, its codec, the parser of its parameters, their deriver, and the parser
and serializer of its keys. -/
structure DerivableType (σ Format KeyProto Params Key : Type) (formatNamed : Format → Prop) (keyNamed : KeyProto → Prop) where
  manager          : KeyTypeManager σ Format KeyProto
  codec            : DeriverCodec Format KeyProto formatNamed keyNamed
  typeUrl          : String
  keyMaterialType  : KeyMaterialType
  formatMessage    : String
  keyMessage       : String
  parseParameters  : Format → OutputPrefixType → Except Status Params
  deriveKey        : Params → σ → Except Status Key × σ
  serializeKey     : Key → Except Status KeyProto
  parseKey         : KeyProto → OutputPrefixType → Option UInt32 → Except Status Key
  outputPrefixType : Key → OutputPrefixType
  idRequirement    : Key → Option UInt32

/-- What the global registries hold for a type: a key manager, with or without a function that derives keys, and a parser of
parameters. -/
inductive RegisteredManager
  | absent
  | withoutDeriver
  | withDeriver
  deriving DecidableEq, Repr

structure TypeRegistration where
  keyManager       : RegisteredManager
  parametersParser : Bool
  deriving DecidableEq, Repr

section Derive
variable {Format KeyProto Params Key : Type} {formatNamed : Format → Prop} {keyNamed : KeyProto → Prop}
  (type : DerivableType σ Format KeyProto Params Key formatNamed keyNamed) (registration : TypeRegistration)

namespace DerivableType

/-- `ParseKey` of the serialization registry. -/
def readKey (serialization : ProtoKeySerialization) : Except Status Key :=
  match type.codec.parseKeyTP serialization.serializedKey with
  | none => .error ⟨.invalidArgument, type.keyMessage⟩
  | some key => type.parseKey key serialization.outputPrefixType serialization.idRequirement

/-- `SerializeKey` of the serialization registry. -/
def writeKey (key : Key) : Except Status ProtoKeySerialization := do
  let proto ← type.serializeKey key
  ProtoKeySerialization.create type.typeUrl (type.codec.serializeKeyTP proto) type.keyMaterialType
    (type.outputPrefixType key) (type.idRequirement key)

/-- What a builder asks of the keys; it is given no parameters. -/
def keyClasses : KeyClasses Key Empty where
  idRequirement := type.idRequirement
  hasIdRequirement p := nomatch p
  serializeKey := type.writeKey
  serializeParameters p := nomatch p
  parseKey := type.readKey

end DerivableType

/-- A builder that is given no parameters makes no keys. -/
def noKeyCreation : KeyGenConfiguration Key Empty where
  globalRegistryMode := true
  createKey _ p := nomatch p
  newKeyData _ _ := .error ⟨.unimplemented, ""⟩

/-- `RegistryImpl::DeriveKey`. -/
def registryDeriveKey (serializedKeyFormat : Bytes) (randomness : σ) : Except Status KeyData × σ :=
  let typeUrl := type.typeUrl
  match registration.keyManager with
  | .absent => (.error ⟨.notFound, s!"No manager for type '{typeUrl}' has been registered."⟩, randomness)
  | .withoutDeriver => (.error ⟨.invalidArgument, s!"Manager for type '{typeUrl}' cannot derive keys."⟩, randomness)
  | .withDeriver => createDeriverFunctionFor type.manager type.codec serializedKeyFormat randomness

/-- `DeriveWithGlobalRegistry`: the keyset of the handle, whose key has placeholders. -/
def deriveWithGlobalRegistry (serializedKeyFormat : Bytes) (randomness : σ) : Except Status Keyset × σ :=
  match registryDeriveKey type registration serializedKeyFormat randomness with
  | (.error e, s) => (.error e, s)
  | (.ok keyData, s) => (.ok ⟨0, [⟨some keyData, .unknownStatus, 0, .unknownPrefix⟩]⟩, s)

/-- `ParseParameters` of the serialization registry, with the placeholder RAW for the prefix type. -/
def parseTemplate (serializedKeyFormat : Bytes) : Except Status Params :=
  if ¬ isPrintableAscii type.typeUrl then .error ⟨.invalidArgument, "Non-printable ASCII character in type URL."⟩
  else if ¬ registration.parametersParser then
    .error ⟨.notFound, "No parameters parser found for parameters type ProtoParametersSerialization"⟩
  else
    match type.codec.parseFormatTP serializedKeyFormat with
    | none => .error ⟨.invalidArgument, type.formatMessage⟩
    | some format => type.parseParameters format .raw

/-- The keyset that a builder with one key builds; `none` is one that has not drawn an id yet. -/
def buildKeyset (draws : List UInt32) (key : Key) : Option (Except Status Keyset) := do
  let builder ← ({} : KeysetHandleBuilder Key Empty).addEntry (.createFromKey type.keyClasses key .enabled true)
  let built ← builder.build type.keyClasses noKeyCreation draws
  return built.1.map (·.keyset)

/-- `DeriveWithParametersMap`. -/
def deriveWithParametersMap (draws : List UInt32) (serializedKeyFormat : Bytes) (randomness : σ) :
    Option (Except Status Keyset) × σ :=
  match parseTemplate type registration serializedKeyFormat with
  | .error e => (some (.error e), randomness)
  | .ok params =>
    match type.deriveKey params randomness with
    | (.error e, s) => (some (.error e), s)
    | (.ok key, s) => (buildKeyset type draws key, s)

end Derive

/-! ## The five types -/

inductive DerivableKeyType
  | hmac
  | aesCtrHmacAead
  | ecdsa
  | ed25519
  | aesGcmHkdfStreaming
  deriving DecidableEq, Repr

def DerivableKeyType.typeUrl : DerivableKeyType → String
  | .hmac => "type.googleapis.com/google.crypto.tink.HmacKey"
  | .aesCtrHmacAead => "type.googleapis.com/google.crypto.tink.AesCtrHmacAeadKey"
  | .ecdsa => "type.googleapis.com/google.crypto.tink.EcdsaPrivateKey"
  | .ed25519 => "type.googleapis.com/google.crypto.tink.Ed25519PrivateKey"
  | .aesGcmHkdfStreaming => "type.googleapis.com/google.crypto.tink.AesGcmHkdfStreamingKey"

/-- The generated code for the five types, and BoringSSL. -/
structure DeriverLibraries where
  hmac                : HmacCodec
  aesCtrHmacAead      : AesCtrHmacAeadCodec
  ecdsa               : EcdsaCodec
  ed25519             : Ed25519Codec
  aesGcmHkdfStreaming : AesGcmHkdfStreamingCodec
  ec                  : EcKeyLibrary

namespace DeriverLibraries
variable (libs : DeriverLibraries)

def hmacType : DerivableType σ HmacKeyFormat HmacKeyProto HmacParameters HmacKey (·.params.hash.IsNamed)
    (·.params.hash.IsNamed) where
  manager :=
    { keyType := "type.googleapis.com/google.crypto.tink.HmacKey", formatName := "google.crypto.tink.HmacKeyFormat",
      keyMaterialType := .symmetric, validateKeyFormat := HmacKeyManager.validateKeyFormat,
      deriveKey := HmacKeyManager.deriveKey, validateKey := HmacKeyManager.validateKey }
  codec := libs.hmac
  typeUrl := "type.googleapis.com/google.crypto.tink.HmacKey"
  keyMaterialType := .symmetric
  formatMessage := "Failed to parse HmacKeyFormat proto."
  keyMessage := "Failed to parse HmacKey proto."
  parseParameters := parseHmacParameters
  deriveKey := deriveHmacKey
  serializeKey key := .ok (serializeHmacKey key)
  parseKey := parseHmacKey
  outputPrefixType key := key.parameters.variant.toOutputPrefixType
  idRequirement := HmacKey.idRequirement

def aesCtrHmacAeadType : DerivableType σ AesCtrHmacAeadKeyFormat AesCtrHmacAeadKeyProto AesCtrHmacAeadParameters
    AesCtrHmacAeadKey (·.hmacKeyFormat.params.hash.IsNamed) (·.hmacKey.params.hash.IsNamed) where
  manager :=
    { keyType := "type.googleapis.com/google.crypto.tink.AesCtrHmacAeadKey",
      formatName := "google.crypto.tink.AesCtrHmacAeadKeyFormat", keyMaterialType := .symmetric,
      validateKeyFormat := AesCtrHmacAeadKeyManager.validateKeyFormat,
      deriveKey := AesCtrHmacAeadKeyManager.deriveKey, validateKey := AesCtrHmacAeadKeyManager.validateKey }
  codec := libs.aesCtrHmacAead
  typeUrl := "type.googleapis.com/google.crypto.tink.AesCtrHmacAeadKey"
  keyMaterialType := .symmetric
  formatMessage := "Failed to parse AesCtrHmacAeadKeyFormat proto"
  keyMessage := "Failed to parse AesCtrHmacAeadKey proto"
  parseParameters := parseAesCtrHmacAeadParameters
  deriveKey := deriveAesCtrHmacAeadKey
  serializeKey key := .ok (serializeAesCtrHmacAeadKey key)
  parseKey := parseAesCtrHmacAeadKey
  outputPrefixType key := key.parameters.variant.toOutputPrefixType
  idRequirement := AesCtrHmacAeadKey.idRequirement

def ecdsaType : DerivableType σ EcdsaKeyFormat EcdsaPrivateKeyProto EcdsaParameters EcdsaPrivateKey (·.getParams.IsNamed)
    (·.publicKey.params.IsNamed) where
  manager :=
    { keyType := "type.googleapis.com/google.crypto.tink.EcdsaPrivateKey",
      formatName := "google.crypto.tink.EcdsaKeyFormat", keyMaterialType := .asymmetricPrivate,
      validateKeyFormat := EcdsaSignKeyManager.validateKeyFormat, deriveKey := EcdsaSignKeyManager.deriveKey libs.ec,
      validateKey := EcdsaSignKeyManager.validateKey }
  codec := libs.ecdsa
  typeUrl := "type.googleapis.com/google.crypto.tink.EcdsaPrivateKey"
  keyMaterialType := .asymmetricPrivate
  formatMessage := "Failed to parse EcdsaKeyFormat proto"
  keyMessage := "Failed to parse EcdsaPrivateKey proto"
  parseParameters := parseEcdsaParameters
  deriveKey := deriveEcdsaPrivateKey libs.ec
  serializeKey := serializeEcdsaPrivateKey
  parseKey := parseEcdsaPrivateKey libs.ec
  outputPrefixType key := key.publicKey.parameters.variant.toOutputPrefixType
  idRequirement key := key.publicKey.idRequirement

def ed25519Type : DerivableType σ Ed25519KeyFormat Ed25519PrivateKeyProto KeyVariant Ed25519PrivateKey (fun _ => True)
    (fun _ => True) where
  manager :=
    { keyType := "type.googleapis.com/google.crypto.tink.Ed25519PrivateKey",
      formatName := "google.crypto.tink.Ed25519KeyFormat", keyMaterialType := .asymmetricPrivate,
      validateKeyFormat := Ed25519SignKeyManager.validateKeyFormat,
      deriveKey := Ed25519SignKeyManager.deriveKey libs.ec, validateKey := Ed25519SignKeyManager.validateKey }
  codec := libs.ed25519
  typeUrl := "type.googleapis.com/google.crypto.tink.Ed25519PrivateKey"
  keyMaterialType := .asymmetricPrivate
  formatMessage := "Failed to parse Ed25519KeyFormatTP proto"
  keyMessage := "Failed to parse Ed25519PrivateKeyTP proto"
  parseParameters := parseEd25519Parameters
  deriveKey := deriveEd25519PrivateKey libs.ec
  serializeKey key := .ok (serializeEd25519PrivateKey key)
  parseKey := parseEd25519PrivateKey libs.ec
  outputPrefixType key := key.publicKey.variant.toOutputPrefixType
  idRequirement key := key.publicKey.idRequirement

def aesGcmHkdfStreamingType : DerivableType σ AesGcmHkdfStreamingKeyFormat AesGcmHkdfStreamingKeyProto
    AesGcmHkdfStreamingParameters AesGcmHkdfStreamingKey (·.params.hkdfHashType.IsNamed)
    (·.params.hkdfHashType.IsNamed) where
  manager :=
    { keyType := "type.googleapis.com/google.crypto.tink.AesGcmHkdfStreamingKey",
      formatName := "google.crypto.tink.AesGcmHkdfStreamingKeyFormat", keyMaterialType := .symmetric,
      validateKeyFormat := AesGcmHkdfStreamingKeyManager.validateKeyFormat,
      deriveKey := AesGcmHkdfStreamingKeyManager.deriveKey, validateKey := AesGcmHkdfStreamingKeyManager.validateKey }
  codec := libs.aesGcmHkdfStreaming
  typeUrl := "type.googleapis.com/google.crypto.tink.AesGcmHkdfStreamingKey"
  keyMaterialType := .symmetric
  formatMessage := "Failed to parse AesGcmHkdfStreamingKeyFormat."
  keyMessage := "Failed to parse AesGcmHkdfStreamingKey."
  parseParameters := parseAesGcmHkdfStreamingParameters
  deriveKey := deriveAesGcmHkdfStreamingKey
  serializeKey key := .ok (serializeAesGcmHkdfStreamingKey key)
  parseKey := parseAesGcmHkdfStreamingKey
  outputPrefixType _ := .raw
  idRequirement _ := none

end DeriverLibraries

/-! ## PrfBasedDeriver -/

/-- `PrfBasedDeriver`: a streaming PRF, which is HKDF, and a template of one of the five types. -/
structure PrfBasedDeriver where
  digest      : Hmac
  secret      : Bytes
  prfSalt     : Bytes
  keyTemplate : KeyTemplate
  type        : DerivableKeyType
  typeUrl_eq  : keyTemplate.typeUrl = type.typeUrl

/-- The global registries, as far as the five types go. -/
abbrev GlobalRegistries := DerivableKeyType → TypeRegistration

/-- A key of one of the five types. -/
inductive DerivedKey
  | hmac (key : HmacKey)
  | aesCtrHmacAead (key : AesCtrHmacAeadKey)
  | ecdsa (key : EcdsaPrivateKey)
  | ed25519 (key : Ed25519PrivateKey)
  | aesGcmHkdfStreaming (key : AesGcmHkdfStreamingKey)

/-- `ParseKey` of the serialization registry, on the five types. -/
def DeriverLibraries.parseKey (libs : DeriverLibraries) (type : DerivableKeyType) (serialization : ProtoKeySerialization) :
    Except Status DerivedKey :=
  match type with
  | .hmac => (libs.hmacType (σ := HkdfInputStream).readKey serialization).map .hmac
  | .aesCtrHmacAead => (libs.aesCtrHmacAeadType (σ := HkdfInputStream).readKey serialization).map .aesCtrHmacAead
  | .ecdsa => (libs.ecdsaType (σ := HkdfInputStream).readKey serialization).map .ecdsa
  | .ed25519 => (libs.ed25519Type (σ := HkdfInputStream).readKey serialization).map .ed25519
  | .aesGcmHkdfStreaming =>
    (libs.aesGcmHkdfStreamingType (σ := HkdfInputStream).readKey serialization).map .aesGcmHkdfStreaming

namespace PrfBasedDeriver
variable (libs : DeriverLibraries) (registries : GlobalRegistries) (draws : List UInt32) (deriver : PrfBasedDeriver)

/-- `ComputePrf`. -/
def computePrf (salt : Bytes) : HkdfInputStream := .new deriver.digest deriver.secret deriver.prfSalt salt

/-- `DeriveWithGlobalRegistry`. -/
def deriveWithGlobalRegistry (randomness : HkdfInputStream) : Except Status Keyset × HkdfInputStream :=
  let value := deriver.keyTemplate.value
  match deriver.type with
  | .hmac => Tink.deriveWithGlobalRegistry libs.hmacType (registries .hmac) value randomness
  | .aesCtrHmacAead => Tink.deriveWithGlobalRegistry libs.aesCtrHmacAeadType (registries .aesCtrHmacAead) value randomness
  | .ecdsa => Tink.deriveWithGlobalRegistry libs.ecdsaType (registries .ecdsa) value randomness
  | .ed25519 => Tink.deriveWithGlobalRegistry libs.ed25519Type (registries .ed25519) value randomness
  | .aesGcmHkdfStreaming =>
    Tink.deriveWithGlobalRegistry libs.aesGcmHkdfStreamingType (registries .aesGcmHkdfStreaming) value randomness

/-- `DeriveWithParametersMap`. -/
def deriveWithParametersMap (randomness : HkdfInputStream) : Option (Except Status Keyset) × HkdfInputStream :=
  let value := deriver.keyTemplate.value
  match deriver.type with
  | .hmac => Tink.deriveWithParametersMap libs.hmacType (registries .hmac) draws value randomness
  | .aesCtrHmacAead =>
    Tink.deriveWithParametersMap libs.aesCtrHmacAeadType (registries .aesCtrHmacAead) draws value randomness
  | .ecdsa => Tink.deriveWithParametersMap libs.ecdsaType (registries .ecdsa) draws value randomness
  | .ed25519 => Tink.deriveWithParametersMap libs.ed25519Type (registries .ed25519) draws value randomness
  | .aesGcmHkdfStreaming =>
    Tink.deriveWithParametersMap libs.aesGcmHkdfStreamingType (registries .aesGcmHkdfStreaming) draws value randomness

/-- `DeriveKeysetHandle`: after an error the stream is used again as it is. -/
def deriveKeysetHandle (randomness : HkdfInputStream) : Option (Except Status Keyset) :=
  match deriver.deriveWithGlobalRegistry libs registries randomness with
  | (.error _, s) => (deriver.deriveWithParametersMap libs registries draws s).1
  | (.ok keyset, _) => some (.ok keyset)

/-- `DeriveKeyset`. -/
def deriveKeyset (salt : Bytes) : Option (Except Status Keyset) :=
  deriver.deriveKeysetHandle libs registries draws (deriver.computePrf salt)

end PrfBasedDeriver

end Tink
