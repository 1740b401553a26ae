import TinkCc.JwtFormat
import TinkCc.KeysetHandle
/-!
# JwtPublicKeys — public keys for JWT signatures

The protos `JwtEcdsaPublicKey`, `JwtRsaSsaPkcs1PublicKey` and `JwtRsaSsaPssPublicKey`, and their parsers
(`jwt_*_proto_serialization_impl.cc`, `jwt_*_public_key.cc`, `jwt_*_parameters.cc`).  The two RSA types differ in names
only.  A `BigInteger` is the number that its bytes stand for.
-/
namespace Tink

/-! ## The protos -/

/-- ES256, ES384 and ES512, and likewise for RS and PS. -/
inductive JwtAlgorithm
  | bits256
  | bits384
  | bits512
  deriving DecidableEq, Repr

/-- `JwtEcdsaAlgorithm`, `JwtRsaSsaPkcs1Algorithm` and `JwtRsaSsaPssAlgorithm`. -/
inductive JwtAlgorithmProto
  | unknown
  | known (algorithm : JwtAlgorithm)
  | unnamed (value : Int)
  deriving DecidableEq, Repr

structure JwtEcdsaPublicKeyProto where
  version   : UInt32
  algorithm : JwtAlgorithmProto
  x         : Bytes
  y         : Bytes
  customKid : Option Bytes
  deriving DecidableEq, Repr

structure JwtRsaPublicKeyProto where
  version   : UInt32
  algorithm : JwtAlgorithmProto
  n         : Bytes
  e         : Bytes
  customKid : Option Bytes
  deriving DecidableEq, Repr

/-- The bytes of a text, which is what a proto field of type `string` holds. -/
def IsText (bytes : Bytes) : Prop := ∃ chars : List Char, bytes = chars.flatMap String.utf8EncodeChar

/-- The generated code for a proto and the parser of Tink's own, with what is relied on: bytes are read back, also by the
other parser, and bytes that both read are the same message to them. -/
structure JwtKeyCodec (M : Type) (algorithm : M → JwtAlgorithmProto) (customKid : M → Option Bytes) where
  serializeAsString : M → Bytes
  parseFromString   : Bytes → Option M
  parseTP           : Bytes → Option M
  parse_serialize   : ∀ m a, algorithm m = .known a → (∀ kid, customKid m = some kid → IsText kid) →
    parseFromString (serializeAsString m) = some m
  text_of_parse     : ∀ bytes m, parseFromString bytes = some m → ∀ kid, customKid m = some kid → IsText kid
  parseTP_serialize : ∀ m a, algorithm m = .known a → parseTP (serializeAsString m) = some m
  parseTP_agrees    : ∀ bytes m m' a, parseFromString bytes = some m → algorithm m = .known a → parseTP bytes = some m' →
    m' = m

abbrev JwtEcdsaCodec := JwtKeyCodec JwtEcdsaPublicKeyProto (·.algorithm) (·.customKid)
abbrev JwtRsaCodec := JwtKeyCodec JwtRsaPublicKeyProto (·.algorithm) (·.customKid)

/-! ## Curves -/

/-- `subtle::EllipticCurveType`, the curves of JWT keys. -/
inductive EllipticCurveType
  | nistP256
  | nistP384
  | nistP521
  deriving DecidableEq, Repr

/-- `internal::EcFieldSizeInBytes`. -/
def ecFieldSizeInBytes : EllipticCurveType → Nat
  | .nistP256 => 32
  | .nistP384 => 48
  | .nistP521 => 66

/-- The curve of ES256, ES384 or ES512. -/
def JwtAlgorithm.curve : JwtAlgorithm → EllipticCurveType
  | .bits256 => .nistP256
  | .bits384 => .nistP384
  | .bits512 => .nistP521

/-- The groups of OpenSSL: which coordinates are of a point, all of them less than the prime of the field. -/
structure EcGroups where
  isOnCurve : EllipticCurveType → Nat → Nat → Bool
  range     : ∀ curve x y, isOnCurve curve x y = true →
    x < 256 ^ ecFieldSizeInBytes curve ∧ y < 256 ^ ecFieldSizeInBytes curve

/-- `internal::GetEcPoint`. -/
def EcGroups.getEcPoint (groups : EcGroups) (curve : EllipticCurveType) (x y : Nat) : Except Status (Nat × Nat) :=
  if groups.isOnCurve curve x y then .ok (x, y)
  else .error ⟨.internal, "EC_POINT_set_affine_coordinates_GFp failed"⟩

/-! ## Keys -/

inductive KidStrategy
  | base64EncodedKeyId
  | ignored
  | custom
  deriving DecidableEq, Repr

/-- What the keys have in common. -/
structure JwtKeyBase where
  kidStrategy   : KidStrategy
  algorithm     : JwtAlgorithm
  idRequirement : Option UInt32
  kid           : Option Bytes
  deriving DecidableEq, Repr

structure JwtEcdsaPublicKey extends JwtKeyBase where
  publicPoint : Nat × Nat
  deriving DecidableEq, Repr

structure JwtRsaPublicKey extends JwtKeyBase where
  publicExponent : Nat
  modulus        : Nat
  deriving DecidableEq, Repr

/-- `BigInteger::SizeInBytes`. -/
def sizeInBytes (n : Nat) : Nat := (Nat.digits 256 n).length

/-! ## Parsing -/

/-- `ToKidStrategy`; `name` is the one of the type in the messages. -/
def toKidStrategy (name : String) (outputPrefixType : OutputPrefixType) (hasCustomKid : Bool) : Except Status KidStrategy :=
  match outputPrefixType with
  | .raw => .ok (if hasCustomKid then .custom else .ignored)
  | .tink => .ok .base64EncodedKeyId
  | _ => .error ⟨.invalidArgument, s!"Invalid OutputPrefixType for {name}KeyFormat."⟩

/-- `FromProtoAlgorithm`. -/
def fromProtoAlgorithm (name : String) : JwtAlgorithmProto → Except Status JwtAlgorithm
  | .known algorithm => .ok algorithm
  | _ => .error ⟨.invalidArgument, s!"Could not determine {name}Algorithm."⟩

/-- What a `Builder` asks of the id requirement. -/
def checkIdRequirement (kidStrategy : KidStrategy) (idRequirement : Option UInt32) : Except Status Unit :=
  if kidStrategy = .base64EncodedKeyId ∧ idRequirement = none then
    .error ⟨.invalidArgument, "Cannot create key without ID requirement with parameters with ID requirement"⟩
  else if kidStrategy ≠ .base64EncodedKeyId ∧ idRequirement ≠ none then
    .error ⟨.invalidArgument, "Cannot create key with ID requirement with parameters without ID requirement"⟩
  else .ok ()

section
variable (libraries : JwtLibraries)

/-- `ComputeKid`. -/
def computeKid (kidStrategy : KidStrategy) (customKid : Option Bytes) (idRequirement : Option UInt32) :
    Except Status (Option Bytes) :=
  match kidStrategy with
  | .base64EncodedKeyId =>
    if customKid.isSome then
      .error ⟨.invalidArgument, "Custom kid must not be set for KidStrategy::kBase64EncodedKeyId."⟩
    else .ok (idRequirement.map fun id => libraries.escape (bigEndian32 id))
  | .custom =>
    if customKid.isNone then .error ⟨.invalidArgument, "Custom kid must be set for KidStrategy::kCustom."⟩
    else .ok customKid
  | .ignored =>
    if customKid.isSome then .error ⟨.invalidArgument, "Custom kid must not be set for KidStrategy::kIgnored."⟩
    else .ok none

/-- The part of `ToPublicKey` that the types have in common: the checks of the point or the modulus are `validate`. -/
def toPublicKey (name : String) (outputPrefixType : OutputPrefixType) (idRequirement : Option UInt32)
    (algorithm : JwtAlgorithmProto) (customKid : Option Bytes) (validate : JwtAlgorithm → Except Status Unit) :
    Except Status JwtKeyBase := do
  let kidStrategy ← toKidStrategy name outputPrefixType customKid.isSome
  let algorithm ← fromProtoAlgorithm name algorithm
  validate algorithm
  checkIdRequirement kidStrategy idRequirement
  let kid ← computeKid libraries kidStrategy customKid idRequirement
  return ⟨kidStrategy, algorithm, idRequirement, kid⟩

/-- `ValidatePublicPoint`. -/
def validatePublicPoint (groups : EcGroups) (x y : Nat) (algorithm : JwtAlgorithm) : Except Status Unit :=
  (groups.getEcPoint algorithm.curve x y).map fun _ => ()

/-- `ParsePublicKey` of ECDSA keys. -/
def parseEcdsaPublicKey (groups : EcGroups) (codec : JwtEcdsaCodec) (serialization : ProtoKeySerialization) :
    Except Status JwtEcdsaPublicKey :=
  match codec.parseTP serialization.serializedKey with
  | none => .error ⟨.invalidArgument, "Failed to parse JwtEcdsaPublicKey proto"⟩
  | some key =>
    if key.version ≠ 0 then
      .error ⟨.invalidArgument, "Parsing JwtEcdsaPublicKey failed: only version 0 is accepted."⟩
    else
      let x := BigEndian.value key.x
      let y := BigEndian.value key.y
      (toPublicKey libraries "JwtEcdsa" serialization.outputPrefixType serialization.idRequirement key.algorithm
        key.customKid (validatePublicPoint groups x y)).map fun base => ⟨base, (x, y)⟩

/-- `ValidateRsaPublicExponent`. -/
def validateRsaPublicExponent (exponent : Nat) : Except Status Unit :=
  if exponent % 2 = 0 then .error ⟨.invalidArgument, "Public exponent must be odd."⟩
  else if exponent ≤ 65536 then .error ⟨.invalidArgument, "Public exponent must be greater than 65536."⟩
  else if 2 ^ 32 ≤ exponent then .error ⟨.invalidArgument, "Exponent size must be smaller than 32 bits"⟩
  else .ok ()

/-- What the `Builder` of RSA parameters asks of modulus and exponent. -/
def validateRsaParameters (modulus exponent : Nat) (_ : JwtAlgorithm) : Except Status Unit :=
  let modulusSizeInBits := sizeInBytes modulus * 8
  if modulusSizeInBits < 2048 then
    .error ⟨.invalidArgument, s!"Invalid key size: must be at least 2048 bits, got {modulusSizeInBits} bits."⟩
  else validateRsaPublicExponent exponent

/-- `ParsePublicKey` of RSA keys. -/
def parseRsaPublicKey (name : String) (codec : JwtRsaCodec) (serialization : ProtoKeySerialization) :
    Except Status JwtRsaPublicKey :=
  match codec.parseTP serialization.serializedKey with
  | none => .error ⟨.invalidArgument, s!"Failed to parse {name}PublicKey."⟩
  | some key =>
    if key.version ≠ 0 then
      .error ⟨.invalidArgument, s!"Parsing {name}PublicKey failed: only version 0 is accepted."⟩
    else
      let modulus := BigEndian.value key.n
      let exponent := BigEndian.value key.e
      (toPublicKey libraries name serialization.outputPrefixType serialization.idRequirement key.algorithm key.customKid
        (validateRsaParameters modulus exponent)).map fun base => ⟨base, exponent, modulus⟩

end

/-! ## The registry -/

def jwtEcdsaPublicKeyUrl : String := "type.googleapis.com/google.crypto.tink.JwtEcdsaPublicKey"
def jwtRsaSsaPkcs1PublicKeyUrl : String := "type.googleapis.com/google.crypto.tink.JwtRsaSsaPkcs1PublicKey"
def jwtRsaSsaPssPublicKeyUrl : String := "type.googleapis.com/google.crypto.tink.JwtRsaSsaPssPublicKey"

/-- A key of a handle; `other` is one of a type that is not for JWT signatures. -/
inductive HandleKey (K : Type)
  | jwtEcdsa (key : JwtEcdsaPublicKey)
  | jwtRsaSsaPkcs1 (key : JwtRsaPublicKey)
  | jwtRsaSsaPss (key : JwtRsaPublicKey)
  | legacy (serialization : ProtoKeySerialization)
  | other (key : K)

/-- What the keys are read with; `registered` says that `JwtSignatureRegister` was called. -/
structure JwtKeyTypes (K : Type) where
  libraries  : JwtLibraries
  groups     : EcGroups
  ecdsa      : JwtEcdsaCodec
  rsaPkcs1   : JwtRsaCodec
  rsaPss     : JwtRsaCodec
  registered : Bool
  parseOther : ProtoKeySerialization → Except Status K

section
variable {K : Type} (types : JwtKeyTypes K)

/-- `ParseKeyWithLegacyFallback`. -/
def JwtKeyTypes.parseKeyWithLegacyFallback (serialization : ProtoKeySerialization) : Except Status (HandleKey K) :=
  if serialization.typeUrl = jwtEcdsaPublicKeyUrl then
    if types.registered then
      (parseEcdsaPublicKey types.libraries types.groups types.ecdsa serialization).map .jwtEcdsa
    else .ok (.legacy serialization)
  else if serialization.typeUrl = jwtRsaSsaPkcs1PublicKeyUrl then
    if types.registered then
      (parseRsaPublicKey types.libraries "JwtRsaSsaPkcs1" types.rsaPkcs1 serialization).map .jwtRsaSsaPkcs1
    else .ok (.legacy serialization)
  else if serialization.typeUrl = jwtRsaSsaPssPublicKeyUrl then
    if types.registered then
      (parseRsaPublicKey types.libraries "JwtRsaSsaPss" types.rsaPss serialization).map .jwtRsaSsaPss
    else .ok (.legacy serialization)
  else (types.parseOther serialization).map .other

end

end Tink
