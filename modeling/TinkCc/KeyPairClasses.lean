import TinkCc.EciesFormat
import TinkCc.PrimitiveSet
import TinkCc.RsaKeyFormats
/-!
# KeyPairClasses — private keys, their public keys, and the prefixes of both

`private_key.h`, the abstract classes of private keys (`signature_private_key.h`, `hybrid_private_key.h`,
`jwt_signature_private_key.h`, `kem_private_key.h`), and what the serialization registry holds for a class of private keys and its class of
public keys.  A class is a structure that carries what extracting public keys relies on; each of the classes here is
shown to be one.
-/
namespace Tink

/-! ## Prefixes -/

/-- `ComputeOutputPrefix` of the public keys. -/
def computeOutputPrefix (variant : KeyVariant) (idRequirement : Option UInt32) : Except Status Bytes :=
  match variant, idRequirement with
  | .noPrefix, _ | .noPrefixWithPrehashId, _ => .ok []
  | .legacy, none | .crunchy, none =>
    .error ⟨.invalidArgument, "ID requirement must have value with kCrunchy or kLegacy"⟩
  | .legacy, some id | .crunchy, some id => .ok (CryptoFormat.legacyStartByte :: bigEndian32 id)
  | .tink, none => .error ⟨.invalidArgument, "ID requirement must have value with kTink"⟩
  | .tink, some id => .ok (CryptoFormat.tinkStartByte :: bigEndian32 id)

/-- The prefix that a key set has for a key of this type and id. -/
def prefixOf (prefixType : OutputPrefixType) (idRequirement : Option UInt32) : Option Bytes :=
  (identifierOf ⟨"", .enabled, idRequirement.getD 0, prefixType⟩).toOption

/-- The abstract classes of private keys. -/
inductive KeyKind
  | signature
  | hybrid
  | jwtSignature
  | kem
  deriving DecidableEq, Repr

/-- The types a key of a kind may have instead of that it was stored with: LEGACY is CRUNCHY to a hybrid key. -/
def KeyKind.Reads (kind : KeyKind) (stored read : OutputPrefixType) : Prop :=
  read = stored ∨ kind = .hybrid ∧ stored = .legacy ∧ read = .crunchy

/-- What a public key says that was read for a prefix type and an id requirement.  JWT keys have no output prefix. -/
structure KeyKind.Keeps (kind : KeyKind) (stored : OutputPrefixType) (storedId : Option UInt32)
    (prefixType : OutputPrefixType) (idRequirement : Option UInt32) (outputPrefix : Option Bytes) : Prop where
  prefixType    : kind.Reads stored prefixType
  idRequirement : idRequirement = storedId
  outputPrefix  : outputPrefix = if kind = .jwtSignature then none else prefixOf stored storedId

/-! ## Classes -/

/-- **A class of private keys and its class of public keys**, with what is registered for them.  A private key has a
public key, which says all that the private key says about prefixes. -/
structure KeyPairClass where
  Private            : Type
  Public             : Type
  kind               : KeyKind
  privateTypeUrl     : String
  publicTypeUrl      : String
  getPublicKey       : Private → Public
  getIdRequirement   : Public → Option UInt32
  getOutputPrefix    : Public → Option Bytes
  outputPrefixType   : Public → OutputPrefixType
  parsePrivateKey    : ProtoKeySerialization → Option SecretKeyAccessToken → Except Status Private
  parsePublicKey     : ProtoKeySerialization → Option SecretKeyAccessToken → Except Status Public
  serializePublicKey : Public → Option SecretKeyAccessToken → Except Status ProtoKeySerialization
  parsePrivateKey_ok : ∀ {s token key}, parsePrivateKey s (some token) = .ok key →
    kind.Keeps s.outputPrefixType s.idRequirement (outputPrefixType (getPublicKey key))
      (getIdRequirement (getPublicKey key)) (getOutputPrefix (getPublicKey key))
  parsePublicKey_ok  : ∀ {s token key}, parsePublicKey s (some token) = .ok key →
    kind.Keeps s.outputPrefixType s.idRequirement (outputPrefixType key) (getIdRequirement key) (getOutputPrefix key)
  serialize_ok       : ∀ {key token s}, serializePublicKey key token = .ok s →
    s.keyMaterialType = .asymmetricPublic ∧ s.outputPrefixType = outputPrefixType key ∧
      s.idRequirement = getIdRequirement key

/-! ## Variants -/

/-- `ToVariant` gives the variant of the prefix type. -/
def KeyKind.ReadsVariants (kind : KeyKind) (toVariant : OutputPrefixType → Except Status KeyVariant) : Prop :=
  ∀ {stored variant}, toVariant stored = .ok variant → kind.Reads stored variant.toOutputPrefixType

theorem computeOutputPrefix_eq {variant : KeyVariant} {idRequirement : Option UInt32}
    (h : checkVariantId variant idRequirement = .ok ()) :
    (computeOutputPrefix variant idRequirement).toOption = prefixOf variant.toOutputPrefixType idRequirement := by
  cases variant <;> cases idRequirement <;> first | rfl | cases h

theorem KeyKind.Reads.prefixOf_eq {kind : KeyKind} {stored read : OutputPrefixType} (h : kind.Reads stored read)
    (idRequirement : Option UInt32) : prefixOf read idRequirement = prefixOf stored idRequirement := by
  rcases h with rfl | ⟨-, rfl, rfl⟩
  · rfl
  · rfl

/-- A key with a variant. -/
theorem KeyKind.ReadsVariants.keeps {kind : KeyKind} {toVariant : OutputPrefixType → Except Status KeyVariant}
    (h : kind.ReadsVariants toVariant) (hkind : kind ≠ .jwtSignature) {stored : OutputPrefixType} {variant : KeyVariant}
    {idRequirement : Option UInt32} (hvariant : toVariant stored = .ok variant)
    (hid : checkVariantId variant idRequirement = .ok ()) :
    kind.Keeps stored idRequirement variant.toOutputPrefixType idRequirement
      (computeOutputPrefix variant idRequirement).toOption where
  prefixType := h hvariant
  idRequirement := rfl
  outputPrefix := by
    rw [if_neg hkind, computeOutputPrefix_eq hid, (h hvariant).prefixOf_eq]

/-- A JWT key with a kid strategy. -/
theorem keeps_of_kidStrategy {name : String} {stored : OutputPrefixType} {hasCustomKid : Bool} {kidStrategy : KidStrategy}
    (h : toKidStrategy name stored hasCustomKid = .ok kidStrategy) (idRequirement : Option UInt32) :
    KeyKind.jwtSignature.Keeps stored idRequirement kidStrategy.toOutputPrefixType idRequirement none where
  prefixType := by
    unfold toKidStrategy at h
    split at h
    · cases hasCustomKid <;> cases h <;> exact .inl rfl
    · cases h
      exact .inl rfl
    · cases h
  idRequirement := rfl
  outputPrefix := rfl

theorem serialized_public {typeUrl : String} {bytes : Bytes} {prefixType : OutputPrefixType}
    {idRequirement : Option UInt32} {s : ProtoKeySerialization}
    (h : ProtoKeySerialization.create typeUrl bytes .asymmetricPublic prefixType idRequirement = .ok s) :
    s.keyMaterialType = .asymmetricPublic ∧ s.outputPrefixType = prefixType ∧ s.idRequirement = idRequirement := by
  obtain ⟨-, -, hmaterial, hprefixType, hid⟩ := ProtoKeySerialization.create_ok h
  exact ⟨hmaterial, hprefixType, hid⟩


/-! ## ECDSA -/

section
variable {lib : EcKeyLibrary}

theorem toEcdsaVariant_reads : KeyKind.signature.ReadsVariants toEcdsaVariant := by
  intro stored variant h
  cases stored <;> cases h <;> exact .inl rfl

/-- `GetOutputPrefix`. -/
def EcdsaPublicKey.getOutputPrefix (key : EcdsaPublicKey) : Option Bytes :=
  (computeOutputPrefix key.parameters.variant key.idRequirement).toOption

theorem EcdsaPublicKey.create_keeps {stored : OutputPrefixType} {params : EcdsaParamsProto} {parameters : EcdsaParameters}
    (hparameters : toEcdsaParameters stored params = .ok parameters) {point : Nat × Nat} {idRequirement : Option UInt32}
    {key : EcdsaPublicKey} (h : EcdsaPublicKey.create lib parameters point idRequirement = .ok key) :
    KeyKind.signature.Keeps stored idRequirement key.parameters.variant.toOutputPrefixType key.idRequirement
      key.getOutputPrefix := by
  obtain ⟨variant, hvariant, hparameters⟩ := bind_eq_ok hparameters
  obtain ⟨hashType, -, hparameters⟩ := bind_eq_ok hparameters
  obtain ⟨curveType, -, hparameters⟩ := bind_eq_ok hparameters
  obtain ⟨encoding, -, hparameters⟩ := bind_eq_ok hparameters
  obtain ⟨_, hid, -⟩ := bind_eq_ok h
  rw [EcdsaPublicKey.create_ok h]
  rw [EcdsaParameters.build_ok hparameters] at hid ⊢
  exact toEcdsaVariant_reads.keeps (by decide) hvariant hid

theorem parseEcdsaPublicKeyProto_keeps {m : EcdsaPublicKeyProto} {stored : OutputPrefixType} {idRequirement : Option UInt32}
    {key : EcdsaPublicKey} (h : parseEcdsaPublicKeyProto lib m stored idRequirement = .ok key) :
    KeyKind.signature.Keeps stored idRequirement key.parameters.variant.toOutputPrefixType key.idRequirement
      key.getOutputPrefix := by
  unfold parseEcdsaPublicKeyProto at h
  split at h
  · cases h
  · obtain ⟨parameters, hparameters, hcreate⟩ := bind_eq_ok h
    exact EcdsaPublicKey.create_keeps hparameters hcreate

theorem EcdsaPrivateKey.create_publicKey {publicKey : EcdsaPublicKey} {bytes : Bytes} {key : EcdsaPrivateKey}
    (h : EcdsaPrivateKey.create lib publicKey bytes = .ok key) : key.publicKey = publicKey := by
  unfold EcdsaPrivateKey.create at h
  dsimp only at h
  split at h
  · cases h
  · obtain ⟨_, -, h⟩ := bind_eq_ok h
    obtain ⟨_, -, h⟩ := bind_eq_ok h
    cases h
    rfl

theorem parseEcdsaPrivateKey_keeps {m : EcdsaPrivateKeyProto} {stored : OutputPrefixType} {idRequirement : Option UInt32}
    {key : EcdsaPrivateKey} (h : parseEcdsaPrivateKey lib m stored idRequirement = .ok key) :
    KeyKind.signature.Keeps stored idRequirement key.publicKey.parameters.variant.toOutputPrefixType
      key.publicKey.idRequirement key.publicKey.getOutputPrefix := by
  unfold parseEcdsaPrivateKey at h
  split at h
  · cases h
  · split at h
    · cases h
    · obtain ⟨parameters, hparameters, h⟩ := bind_eq_ok h
      obtain ⟨publicKey, hcreate, h⟩ := bind_eq_ok h
      obtain ⟨keyValue, -, h⟩ := bind_eq_ok h
      rw [EcdsaPrivateKey.create_publicKey h]
      exact EcdsaPublicKey.create_keeps hparameters hcreate

end

def ecdsaKeys (lib : EcKeyLibrary) (publicCodec : MessageCodec EcdsaPublicKeyProto (·.params.IsNamed))
    (privateCodec : MessageCodec EcdsaPrivateKeyProto (·.publicKey.params.IsNamed)) : KeyPairClass where
  Private := EcdsaPrivateKey
  Public := EcdsaPublicKey
  kind := .signature
  privateTypeUrl := EcdsaProtoSerialization.privateTypeUrl
  publicTypeUrl := EcdsaProtoSerialization.publicTypeUrl
  getPublicKey := (·.publicKey)
  getIdRequirement := (·.idRequirement)
  getOutputPrefix := (·.getOutputPrefix)
  outputPrefixType := (·.parameters.variant.toOutputPrefixType)
  parsePrivateKey := EcdsaProtoSerialization.parsePrivateKey lib privateCodec
  parsePublicKey := EcdsaProtoSerialization.parsePublicKey lib publicCodec
  serializePublicKey := EcdsaProtoSerialization.serializePublicKey publicCodec
  parsePrivateKey_ok h := by
    obtain ⟨m, -, hkey⟩ := (EcdsaProtoSerialization.privateKeys_reads lib privateCodec).of_parse h
    exact parseEcdsaPrivateKey_keeps hkey
  parsePublicKey_ok h := by
    obtain ⟨_, -, h⟩ := bind_eq_ok h
    obtain ⟨m, -, h⟩ := bind_eq_ok h
    exact parseEcdsaPublicKeyProto_keeps h
  serialize_ok h := by
    obtain ⟨_, -, h⟩ := bind_eq_ok h
    exact serialized_public h

/-! ## Ed25519 -/

namespace Ed25519ProtoSerialization

def publicTypeUrl : String := "type.googleapis.com/google.crypto.tink.Ed25519PublicKey"
def privateTypeUrl : String := "type.googleapis.com/google.crypto.tink.Ed25519PrivateKey"

variable (lib : EcKeyLibrary) (publicCodec : MessageCodec Ed25519PublicKeyProto fun _ => True)
  (privateCodec : MessageCodec Ed25519PrivateKeyProto fun _ => True)

/-- `ParsePublicKey`. -/
def parsePublicKey (serialization : ProtoKeySerialization) (_token : Option SecretKeyAccessToken) :
    Except Status Ed25519PublicKey := do
  checkTypeUrl publicTypeUrl "Wrong type URL when parsing Ed25519PublicKey." serialization
  let protoKey ← parseMessage publicCodec "Failed to parse Ed25519PublicKeyTP proto" serialization.serializedKey
  checkVersion protoKey.version "Only version 0 keys are accepted."
  let variant ← toVariant "Ed25519Parameters" serialization.outputPrefixType
  let parameters ← createEd25519Parameters variant
  Ed25519PublicKey.create parameters protoKey.keyValue serialization.idRequirement

/-- `ParsePrivateKey`. -/
def parsePrivateKey (serialization : ProtoKeySerialization) (token : Option SecretKeyAccessToken) :
    Except Status Ed25519PrivateKey := do
  checkTypeUrl privateTypeUrl "Wrong type URL when parsing Ed25519PrivateKey." serialization
  checkToken token
  let protoKey ← parseMessage privateCodec "Failed to parse Ed25519PrivateKeyTP proto" serialization.serializedKey
  parseEd25519PrivateKey lib protoKey serialization.outputPrefixType serialization.idRequirement

/-- `SerializePublicKey`. -/
def serializePublicKey (key : Ed25519PublicKey) (_token : Option SecretKeyAccessToken) :
    Except Status ProtoKeySerialization :=
  ProtoKeySerialization.create publicTypeUrl (publicCodec.serializeAsSecretData ⟨0, key.publicKeyBytes⟩) .asymmetricPublic
    key.variant.toOutputPrefixType key.idRequirement

end Ed25519ProtoSerialization

theorem toVariant_reads (name : String) : KeyKind.signature.ReadsVariants (toVariant name) := by
  intro stored variant h
  cases stored <;> cases h <;> exact .inl rfl

/-- `GetOutputPrefix`. -/
def Ed25519PublicKey.getOutputPrefix (key : Ed25519PublicKey) : Option Bytes :=
  (computeOutputPrefix key.variant key.idRequirement).toOption

theorem Ed25519PublicKey.create_keeps {stored : OutputPrefixType} {variant parameters : KeyVariant}
    (hvariant : toVariant "Ed25519Parameters" stored = .ok variant)
    (hparameters : createEd25519Parameters variant = .ok parameters) {bytes : Bytes} {idRequirement : Option UInt32}
    {key : Ed25519PublicKey} (h : Ed25519PublicKey.create parameters bytes idRequirement = .ok key) :
    KeyKind.signature.Keeps stored idRequirement key.variant.toOutputPrefixType key.idRequirement
      key.getOutputPrefix := by
  unfold createEd25519Parameters at hparameters
  split at hparameters
  · cases hparameters
  · cases hparameters
    obtain ⟨_, hid, h⟩ := bind_eq_ok h
    split at h
    · cases h
    · cases h
      exact KeyKind.ReadsVariants.keeps (toVariant_reads _) (by decide) hvariant hid

theorem Ed25519PrivateKey.create_publicKey {lib : EcKeyLibrary} {publicKey : Ed25519PublicKey} {bytes : Bytes}
    {key : Ed25519PrivateKey} (h : Ed25519PrivateKey.create lib publicKey bytes = .ok key) :
    key.publicKey = publicKey := by
  unfold Ed25519PrivateKey.create at h
  split at h
  · cases h
  · obtain ⟨keyPair, -, h⟩ := bind_eq_ok h
    split at h
    · cases h
    · cases h
      rfl

theorem parseEd25519PrivateKey_keeps {lib : EcKeyLibrary} {m : Ed25519PrivateKeyProto} {stored : OutputPrefixType}
    {idRequirement : Option UInt32} {key : Ed25519PrivateKey}
    (h : parseEd25519PrivateKey lib m stored idRequirement = .ok key) :
    KeyKind.signature.Keeps stored idRequirement key.publicKey.variant.toOutputPrefixType key.publicKey.idRequirement
      key.publicKey.getOutputPrefix := by
  unfold parseEd25519PrivateKey at h
  split at h
  · cases h
  · split at h
    · cases h
    · obtain ⟨variant, hvariant, h⟩ := bind_eq_ok h
      obtain ⟨parameters, hparameters, h⟩ := bind_eq_ok h
      obtain ⟨publicKey, hcreate, h⟩ := bind_eq_ok h
      rw [Ed25519PrivateKey.create_publicKey h]
      exact Ed25519PublicKey.create_keeps hvariant hparameters hcreate

def ed25519Keys (lib : EcKeyLibrary) (publicCodec : MessageCodec Ed25519PublicKeyProto fun _ => True)
    (privateCodec : MessageCodec Ed25519PrivateKeyProto fun _ => True) : KeyPairClass where
  Private := Ed25519PrivateKey
  Public := Ed25519PublicKey
  kind := .signature
  privateTypeUrl := Ed25519ProtoSerialization.privateTypeUrl
  publicTypeUrl := Ed25519ProtoSerialization.publicTypeUrl
  getPublicKey := (·.publicKey)
  getIdRequirement := (·.idRequirement)
  getOutputPrefix := (·.getOutputPrefix)
  outputPrefixType := (·.variant.toOutputPrefixType)
  parsePrivateKey := Ed25519ProtoSerialization.parsePrivateKey lib privateCodec
  parsePublicKey := Ed25519ProtoSerialization.parsePublicKey publicCodec
  serializePublicKey := Ed25519ProtoSerialization.serializePublicKey publicCodec
  parsePrivateKey_ok h := by
    obtain ⟨_, -, h⟩ := bind_eq_ok h
    obtain ⟨_, -, h⟩ := bind_eq_ok h
    obtain ⟨m, -, h⟩ := bind_eq_ok h
    exact parseEd25519PrivateKey_keeps h
  parsePublicKey_ok h := by
    obtain ⟨_, -, h⟩ := bind_eq_ok h
    obtain ⟨m, -, h⟩ := bind_eq_ok h
    obtain ⟨_, -, h⟩ := bind_eq_ok h
    obtain ⟨variant, hvariant, h⟩ := bind_eq_ok h
    obtain ⟨parameters, hparameters, h⟩ := bind_eq_ok h
    exact Ed25519PublicKey.create_keeps hvariant hparameters h
  serialize_ok h := serialized_public h

/-! ## RSA -/

section
variable {P M : Type} {named : M → Prop} (family : RsaKeyFormat P M) (lib : RsaLibrary)

/-- The keys of a family of RSA keys. -/
def rsaKeys (named : M → Prop) (publicCodec : MessageCodec M named)
    (privateCodec : MessageCodec (RsaPrivateKeyProto M) fun key => named key.publicKey) (kind : KeyKind)
    (getOutputPrefix : P → Option Bytes)
    (hkeeps : ∀ {m stored idRequirement key}, family.toPublicKey m stored idRequirement = .ok key →
      kind.Keeps stored idRequirement (family.outputPrefixType key) (family.idRequirement key) (getOutputPrefix key)) :
    KeyPairClass where
  Private := RsaPrivateKey P
  Public := P
  kind := kind
  privateTypeUrl := family.privateTypeUrl
  publicTypeUrl := family.publicTypeUrl
  getPublicKey := (·.publicKey)
  getIdRequirement := family.idRequirement
  getOutputPrefix := getOutputPrefix
  outputPrefixType := family.outputPrefixType
  parsePrivateKey := family.parsePrivateKey lib privateCodec
  parsePublicKey := family.parsePublicKey publicCodec
  serializePublicKey := family.serializePublicKey publicCodec
  parsePrivateKey_ok h := by
    obtain ⟨_, -, h⟩ := bind_eq_ok h
    obtain ⟨m, -, h⟩ := bind_eq_ok h
    obtain ⟨_, -, h⟩ := bind_eq_ok h
    obtain ⟨_, -, h⟩ := bind_eq_ok h
    obtain ⟨publicKey, hpublic, h⟩ := bind_eq_ok h
    obtain ⟨numbers, -, h⟩ := bind_eq_ok h
    rw [(RsaKeyFormat.buildPrivateKey_ok h).1]
    exact hkeeps hpublic
  parsePublicKey_ok h := by
    obtain ⟨_, -, h⟩ := bind_eq_ok h
    obtain ⟨m, -, h⟩ := bind_eq_ok h
    obtain ⟨_, -, h⟩ := bind_eq_ok h
    exact hkeeps h
  serialize_ok h := serialized_public h

end

theorem toRsaVariant_reads (name : String) : KeyKind.signature.ReadsVariants (toRsaVariant name) := by
  intro stored variant h
  cases stored <;> cases h <;> exact .inl rfl

theorem RsaSsaPkcs1Parameters.build_variant {modulusSizeInBits : Int32} {publicExponent : Nat} {hashType : ParametersHash}
    {variant : KeyVariant} {parameters : RsaSsaPkcs1Parameters}
    (h : build modulusSizeInBits publicExponent hashType variant = .ok parameters) : parameters.variant = variant := by
  obtain ⟨_, -, h⟩ := bind_eq_ok h
  obtain ⟨_, -, h⟩ := bind_eq_ok h
  obtain ⟨_, -, h⟩ := bind_eq_ok h
  obtain ⟨_, -, h⟩ := bind_eq_ok h
  cases h
  rfl

/-- `GetOutputPrefix`. -/
def RsaSsaPssPublicKey.getOutputPrefix (key : RsaSsaPssPublicKey) : Option Bytes :=
  (computeOutputPrefix key.parameters.variant key.idRequirement).toOption

/-- `GetOutputPrefix`. -/
def RsaSsaPkcs1PublicKey.getOutputPrefix (key : RsaSsaPkcs1PublicKey) : Option Bytes :=
  (computeOutputPrefix key.parameters.variant key.idRequirement).toOption

theorem RsaSsaPssProtoSerialization.toPublicKey_keeps {m : RsaSsaPssPublicKeyProto} {stored : OutputPrefixType}
    {idRequirement : Option UInt32} {key : RsaSsaPssPublicKey} (h : toPublicKey m stored idRequirement = .ok key) :
    KeyKind.signature.Keeps stored idRequirement (family.outputPrefixType key) (family.idRequirement key)
      key.getOutputPrefix := by
  obtain ⟨parameters, hparameters, h⟩ := bind_eq_ok h
  obtain ⟨variant, hvariant, hparameters⟩ := bind_eq_ok hparameters
  obtain ⟨_, -, hparameters⟩ := bind_eq_ok hparameters
  obtain ⟨_, -, hparameters⟩ := bind_eq_ok hparameters
  obtain ⟨_, hid, h⟩ := bind_eq_ok h
  obtain ⟨_, -, h⟩ := bind_eq_ok h
  cases h
  rw [(RsaSsaPssParameters.build_ok hparameters).1] at hid ⊢
  exact KeyKind.ReadsVariants.keeps (toRsaVariant_reads _) (by decide) hvariant hid

theorem RsaSsaPkcs1ProtoSerialization.toPublicKey_keeps {m : RsaSsaPkcs1PublicKeyProto} {stored : OutputPrefixType}
    {idRequirement : Option UInt32} {key : RsaSsaPkcs1PublicKey} (h : toPublicKey m stored idRequirement = .ok key) :
    KeyKind.signature.Keeps stored idRequirement (family.outputPrefixType key) (family.idRequirement key)
      key.getOutputPrefix := by
  obtain ⟨parameters, hparameters, h⟩ := bind_eq_ok h
  obtain ⟨variant, hvariant, hparameters⟩ := bind_eq_ok hparameters
  obtain ⟨_, -, hparameters⟩ := bind_eq_ok hparameters
  obtain ⟨_, hid, h⟩ := bind_eq_ok h
  obtain ⟨_, -, h⟩ := bind_eq_ok h
  cases h
  obtain rfl := RsaSsaPkcs1Parameters.build_variant hparameters
  exact KeyKind.ReadsVariants.keeps (toRsaVariant_reads _) (by decide) hvariant hid

theorem JwtRsaProtoSerialization.toPublicKey_keeps {libraries : JwtLibraries} {name : String} {m : JwtRsaPublicKeyProto}
    {stored : OutputPrefixType} {idRequirement : Option UInt32} {key : JwtRsaPublicKey}
    (h : toPublicKey libraries name m stored idRequirement = .ok key) :
    KeyKind.jwtSignature.Keeps stored idRequirement ((family libraries name).outputPrefixType key)
      ((family libraries name).idRequirement key) none := by
  obtain ⟨parameters, hparameters, h⟩ := bind_eq_ok h
  obtain ⟨kidStrategy, hstrategy, hparameters⟩ := bind_eq_ok hparameters
  obtain ⟨_, -, hparameters⟩ := bind_eq_ok hparameters
  obtain ⟨_, -, hparameters⟩ := bind_eq_ok hparameters
  obtain ⟨_, -, hparameters⟩ := bind_eq_ok hparameters
  cases hparameters
  obtain ⟨_, -, h⟩ := bind_eq_ok h
  obtain ⟨_, -, h⟩ := bind_eq_ok h
  obtain ⟨_, -, h⟩ := bind_eq_ok h
  cases h
  exact keeps_of_kidStrategy hstrategy idRequirement

def rsaSsaPssKeys (types : RsaKeyTypes) : KeyPairClass :=
  rsaKeys RsaSsaPssProtoSerialization.family types.lib RsaSsaPssPublicKeyProto.IsNamed (types.codec .rsaSsaPssPublic)
    (types.codec .rsaSsaPssPrivate) .signature (·.getOutputPrefix) RsaSsaPssProtoSerialization.toPublicKey_keeps

def rsaSsaPkcs1Keys (types : RsaKeyTypes) : KeyPairClass :=
  rsaKeys RsaSsaPkcs1ProtoSerialization.family types.lib RsaSsaPkcs1PublicKeyProto.IsNamed
    (types.codec .rsaSsaPkcs1Public) (types.codec .rsaSsaPkcs1Private) .signature (·.getOutputPrefix)
    RsaSsaPkcs1ProtoSerialization.toPublicKey_keeps

def jwtRsaSsaPssKeys (types : RsaKeyTypes) : KeyPairClass :=
  rsaKeys types.jwtRsaSsaPss types.lib JwtRsaPublicKeyProto.IsNamed (types.codec .jwtRsaSsaPssPublic)
    (types.codec .jwtRsaSsaPssPrivate) .jwtSignature (fun _ => none) JwtRsaProtoSerialization.toPublicKey_keeps

def jwtRsaSsaPkcs1Keys (types : RsaKeyTypes) : KeyPairClass :=
  rsaKeys types.jwtRsaSsaPkcs1 types.lib JwtRsaPublicKeyProto.IsNamed (types.codec .jwtRsaSsaPkcs1Public)
    (types.codec .jwtRsaSsaPkcs1Private) .jwtSignature (fun _ => none) JwtRsaProtoSerialization.toPublicKey_keeps


/-! ## ECIES -/

section
variable {lib : HybridLibrary} {codecs : EciesCodecs}

theorem toEciesVariant_reads : KeyKind.hybrid.ReadsVariants toEciesVariant := by
  intro stored variant h
  cases stored <;> cases h <;> first | exact .inl rfl | exact .inr ⟨rfl, rfl, rfl⟩

/-- `GetOutputPrefix`. -/
def EciesPublicKey.getOutputPrefix (key : EciesPublicKey) : Option Bytes :=
  (computeOutputPrefix key.parameters.variant key.idRequirement).toOption

theorem toEciesParameters_variant {stored : OutputPrefixType} {params : EciesAeadHkdfParamsProto}
    {parameters : EciesParameters} (h : toEciesParameters codecs stored params = .ok parameters) :
    toEciesVariant stored = .ok parameters.variant := by
  obtain ⟨variant, hvariant, h⟩ := bind_eq_ok h
  obtain ⟨curveType, -, h⟩ := bind_eq_ok h
  obtain ⟨hashType, -, h⟩ := bind_eq_ok h
  obtain ⟨demId, -, h⟩ := bind_eq_ok h
  dsimp only at h
  split at h
  all_goals
    obtain ⟨pointFormat, -, h⟩ := bind_eq_ok h
    rw [hvariant, (EciesParameters.build_ok h).1]

theorem EciesProtoSerialization.toPublicKey_keeps {stored : OutputPrefixType} {params : EciesAeadHkdfParamsProto}
    {parameters : EciesParameters} (hparameters : toEciesParameters codecs stored params = .ok parameters)
    {m : EciesAeadHkdfPublicKeyProto} {idRequirement : Option UInt32} {key : EciesPublicKey}
    (h : toPublicKey lib parameters m idRequirement = .ok key) :
    KeyKind.hybrid.Keeps stored idRequirement key.parameters.variant.toOutputPrefixType key.idRequirement
      key.getOutputPrefix := by
  have hvariant := toEciesParameters_variant hparameters
  unfold toPublicKey at h
  split at h
  · obtain ⟨rfl, hid, -⟩ := EciesPublicKey.createForNistCurve_ok h
    exact toEciesVariant_reads.keeps (by decide) hvariant hid
  · obtain ⟨rfl, hid⟩ := EciesPublicKey.createForCurveX25519_ok h
    exact toEciesVariant_reads.keeps (by decide) hvariant hid

end

def eciesKeys (lib : HybridLibrary) (codecs : EciesCodecs) : KeyPairClass where
  Private := EciesPrivateKey
  Public := EciesPublicKey
  kind := .hybrid
  privateTypeUrl := EciesProtoSerialization.privateTypeUrl
  publicTypeUrl := EciesProtoSerialization.publicTypeUrl
  getPublicKey := (·.publicKey)
  getIdRequirement := (·.idRequirement)
  getOutputPrefix := (·.getOutputPrefix)
  outputPrefixType := (·.parameters.variant.toOutputPrefixType)
  parsePrivateKey := EciesProtoSerialization.parsePrivateKey lib codecs
  parsePublicKey := EciesProtoSerialization.parsePublicKey lib codecs
  serializePublicKey := EciesProtoSerialization.serializePublicKey codecs
  parsePrivateKey_ok h := by
    obtain ⟨_, -, h⟩ := bind_eq_ok h
    obtain ⟨_, -, h⟩ := bind_eq_ok h
    obtain ⟨m, -, h⟩ := bind_eq_ok h
    obtain ⟨_, -, h⟩ := bind_eq_ok h
    obtain ⟨_, -, h⟩ := bind_eq_ok h
    obtain ⟨parameters, hparameters, h⟩ := bind_eq_ok h
    obtain ⟨publicKey, hpublic, h⟩ := bind_eq_ok h
    obtain ⟨bytes, -, h⟩ := bind_eq_ok h
    split at h
    · rw [(EciesPrivateKey.createForNistCurve_ok h).1]
      exact EciesProtoSerialization.toPublicKey_keeps hparameters hpublic
    · rw [(EciesPrivateKey.createForCurveX25519_ok h).1]
      exact EciesProtoSerialization.toPublicKey_keeps hparameters hpublic
  parsePublicKey_ok h := by
    obtain ⟨_, -, h⟩ := bind_eq_ok h
    obtain ⟨m, -, h⟩ := bind_eq_ok h
    obtain ⟨_, -, h⟩ := bind_eq_ok h
    obtain ⟨parameters, hparameters, h⟩ := bind_eq_ok h
    exact EciesProtoSerialization.toPublicKey_keeps hparameters h
  serialize_ok h := by
    obtain ⟨_, -, h⟩ := bind_eq_ok h
    exact serialized_public h

/-! ## JWT ECDSA -/

section
variable {libraries : JwtLibraries} {lib : EcKeyLibrary}

theorem toPublicKey_kidStrategy {name : String} {stored : OutputPrefixType} {idRequirement : Option UInt32}
    {algorithm : JwtAlgorithmProto} {customKid : Option Bytes} {validate : JwtAlgorithm → Except Status Unit}
    {base : JwtKeyBase}
    (h : toPublicKey libraries name stored idRequirement algorithm customKid validate = .ok base) :
    toKidStrategy name stored customKid.isSome = .ok base.kidStrategy ∧ base.idRequirement = idRequirement := by
  obtain ⟨kidStrategy, hstrategy, h⟩ := bind_eq_ok h
  obtain ⟨_, -, h⟩ := bind_eq_ok h
  obtain ⟨_, -, h⟩ := bind_eq_ok h
  obtain ⟨_, -, h⟩ := bind_eq_ok h
  obtain ⟨kid, -, h⟩ := bind_eq_ok h
  cases h
  exact ⟨hstrategy, rfl⟩

theorem JwtEcdsaProtoSerialization.toPublicKey_keeps {m : JwtEcdsaPublicKeyProto} {stored : OutputPrefixType}
    {idRequirement : Option UInt32} {key : JwtEcdsaPublicKey}
    (h : toPublicKey libraries lib m stored idRequirement = .ok key) :
    KeyKind.jwtSignature.Keeps stored idRequirement key.kidStrategy.toOutputPrefixType key.idRequirement none := by
  obtain ⟨base, hbase, rfl⟩ := map_eq_ok h
  obtain ⟨hstrategy, hid⟩ := toPublicKey_kidStrategy hbase
  dsimp only
  rw [hid]
  exact keeps_of_kidStrategy hstrategy idRequirement

theorem JwtEcdsaPrivateKey.create_publicKey {publicKey : JwtEcdsaPublicKey} {bytes : Bytes} {key : JwtEcdsaPrivateKey}
    (h : create lib publicKey bytes = .ok key) : key.publicKey = publicKey := by
  unfold create at h
  dsimp only at h
  split at h
  · cases h
  · obtain ⟨_, -, h⟩ := bind_eq_ok h
    obtain ⟨_, -, h⟩ := bind_eq_ok h
    cases h
    rfl

end

def jwtEcdsaKeys (libraries : JwtLibraries) (lib : EcKeyLibrary)
    (publicCodec : MessageCodec JwtEcdsaPublicKeyProto (·.algorithm.IsNamed))
    (privateCodec : MessageCodec JwtEcdsaPrivateKeyProto (·.publicKey.algorithm.IsNamed)) : KeyPairClass where
  Private := JwtEcdsaPrivateKey
  Public := JwtEcdsaPublicKey
  kind := .jwtSignature
  privateTypeUrl := JwtEcdsaProtoSerialization.privateTypeUrl
  publicTypeUrl := jwtEcdsaPublicKeyUrl
  getPublicKey := (·.publicKey)
  getIdRequirement := (·.idRequirement)
  getOutputPrefix := fun _ => none
  outputPrefixType := (·.kidStrategy.toOutputPrefixType)
  parsePrivateKey := JwtEcdsaProtoSerialization.parsePrivateKey libraries lib privateCodec
  parsePublicKey := JwtEcdsaProtoSerialization.parsePublicKey libraries lib publicCodec
  serializePublicKey := JwtEcdsaProtoSerialization.serializePublicKey publicCodec
  parsePrivateKey_ok h := by
    obtain ⟨_, -, h⟩ := bind_eq_ok h
    obtain ⟨_, -, h⟩ := bind_eq_ok h
    obtain ⟨m, -, h⟩ := bind_eq_ok h
    obtain ⟨_, -, h⟩ := bind_eq_ok h
    obtain ⟨publicKey, hpublic, h⟩ := bind_eq_ok h
    obtain ⟨bytes, -, h⟩ := bind_eq_ok h
    rw [JwtEcdsaPrivateKey.create_publicKey h]
    exact JwtEcdsaProtoSerialization.toPublicKey_keeps hpublic
  parsePublicKey_ok h := by
    obtain ⟨_, -, h⟩ := bind_eq_ok h
    obtain ⟨m, -, h⟩ := bind_eq_ok h
    obtain ⟨_, -, h⟩ := bind_eq_ok h
    exact JwtEcdsaProtoSerialization.toPublicKey_keeps h
  serialize_ok h := by
    obtain ⟨_, -, h⟩ := bind_eq_ok h
    exact serialized_public h

end Tink
