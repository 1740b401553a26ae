import TinkCc.EcPoints
import TinkCc.KeysetWrapper
import TinkCc.LibNarrow
/-!
# HpkeKeys — HPKE keys and where they come from

`hybrid/hpke_{parameters,public_key,private_key}.cc`, `hybrid/internal/hpke_key_creator.cc` and
`hybrid/internal/hpke_private_key_manager.cc` with `hpke_key_manager_util.cc`.  A private key is accepted with one public
key only, and the two generators make one pair of one draw (`hpkeKeys`).
-/
namespace Tink

open BigEndian (value)

/-! ## Parameters -/

namespace HpkeParameters

inductive Variant
  | tink
  | crunchy
  | noPrefix
  deriving DecidableEq, Repr

inductive KemId
  | dhkemP256HkdfSha256
  | dhkemP384HkdfSha384
  | dhkemP521HkdfSha512
  | dhkemX25519HkdfSha256
  | xWing
  | mlKem768
  | mlKem1024
  deriving DecidableEq, Repr

inductive KdfId
  | hkdfSha256
  | hkdfSha384
  | hkdfSha512
  deriving DecidableEq, Repr

inductive AeadId
  | aesGcm128
  | aesGcm256
  | chaCha20Poly1305
  deriving DecidableEq, Repr

/-- The number of the identifier, which messages print. -/
def KemId.number : KemId → Nat
  | .dhkemP256HkdfSha256 => 1
  | .dhkemP384HkdfSha384 => 2
  | .dhkemP521HkdfSha512 => 3
  | .dhkemX25519HkdfSha256 => 4
  | .xWing => 5
  | .mlKem768 => 6
  | .mlKem1024 => 7

end HpkeParameters

structure HpkeParameters where
  kemId   : HpkeParameters.KemId
  kdfId   : HpkeParameters.KdfId
  aeadId  : HpkeParameters.AeadId
  variant : HpkeParameters.Variant
  deriving DecidableEq, Repr

def HpkeParameters.hasIdRequirement (parameters : HpkeParameters) : Bool := parameters.variant ≠ .noPrefix

/-! ## The protocol buffers -/

inductive HpkeKemProto
  | kemUnknown
  | dhkemX25519HkdfSha256
  | dhkemP256HkdfSha256
  | dhkemP384HkdfSha384
  | dhkemP521HkdfSha512
  | xWing
  | mlKem768
  | mlKem1024
  | unnamed (value : Int)
  deriving DecidableEq, Repr

inductive HpkeKdfProto
  | kdfUnknown
  | hkdfSha256
  | hkdfSha384
  | hkdfSha512
  | unnamed (value : Int)
  deriving DecidableEq, Repr

inductive HpkeAeadProto
  | aeadUnknown
  | aes128Gcm
  | aes256Gcm
  | chacha20Poly1305
  | unnamed (value : Int)
  deriving DecidableEq, Repr

def HpkeKemProto.number : HpkeKemProto → Int
  | .kemUnknown => 0
  | .dhkemX25519HkdfSha256 => 1
  | .dhkemP256HkdfSha256 => 2
  | .dhkemP384HkdfSha384 => 3
  | .dhkemP521HkdfSha512 => 4
  | .xWing => 5
  | .mlKem768 => 6
  | .mlKem1024 => 7
  | .unnamed value => value

def HpkeKdfProto.number : HpkeKdfProto → Int
  | .kdfUnknown => 0
  | .hkdfSha256 => 1
  | .hkdfSha384 => 2
  | .hkdfSha512 => 3
  | .unnamed value => value

def HpkeAeadProto.number : HpkeAeadProto → Int
  | .aeadUnknown => 0
  | .aes128Gcm => 1
  | .aes256Gcm => 2
  | .chacha20Poly1305 => 3
  | .unnamed value => value

structure HpkeParamsProto where
  kem  : HpkeKemProto
  kdf  : HpkeKdfProto
  aead : HpkeAeadProto
  deriving DecidableEq, Repr

structure HpkePublicKeyProto where
  version   : UInt32
  params    : Option HpkeParamsProto
  publicKey : Bytes
  deriving DecidableEq, Repr

structure HpkePrivateKeyProto where
  version    : UInt32
  publicKey  : Option HpkePublicKeyProto
  privateKey : Bytes
  deriving DecidableEq, Repr

structure HpkeKeyFormatProto where
  params : Option HpkeParamsProto

/-- The parameters of a message without any. -/
def HpkeParamsProto.unset : HpkeParamsProto := ⟨.kemUnknown, .kdfUnknown, .aeadUnknown⟩

def HpkePublicKeyProto.getParams (key : HpkePublicKeyProto) : HpkeParamsProto := key.params.getD .unset

def HpkePrivateKeyProto.getPublicKey (key : HpkePrivateKeyProto) : HpkePublicKeyProto := key.publicKey.getD ⟨0, none, []⟩

def HpkeKeyFormatProto.getParams (keyFormat : HpkeKeyFormatProto) : HpkeParamsProto := keyFormat.params.getD .unset

def fromKemId : HpkeParameters.KemId → HpkeKemProto
  | .dhkemP256HkdfSha256 => .dhkemP256HkdfSha256
  | .dhkemP384HkdfSha384 => .dhkemP384HkdfSha384
  | .dhkemP521HkdfSha512 => .dhkemP521HkdfSha512
  | .dhkemX25519HkdfSha256 => .dhkemX25519HkdfSha256
  | .xWing => .xWing
  | .mlKem768 => .mlKem768
  | .mlKem1024 => .mlKem1024

def fromKdfId : HpkeParameters.KdfId → HpkeKdfProto
  | .hkdfSha256 => .hkdfSha256
  | .hkdfSha384 => .hkdfSha384
  | .hkdfSha512 => .hkdfSha512

def fromAeadId : HpkeParameters.AeadId → HpkeAeadProto
  | .aesGcm128 => .aes128Gcm
  | .aesGcm256 => .aes256Gcm
  | .chaCha20Poly1305 => .chacha20Poly1305

/-- `FromParameters` of `hpke_encrypt.cc` and of `hpke_decrypt.cc`. -/
def HpkeParameters.toProto (parameters : HpkeParameters) : HpkeParamsProto where
  kem := fromKemId parameters.kemId
  kdf := fromKdfId parameters.kdfId
  aead := fromAeadId parameters.aeadId

/-! ## The library -/

/-- Bytes of a size. -/
abbrev SizedBytes (size : Nat) := {bytes : Bytes // bytes.length = size}

/-- What HPKE keys take from BoringSSL: the groups, the numbers below the order that `EC_KEY_set_private_key` takes, and
the public keys of private ones. -/
structure HpkeKeyLibrary where
  groups             : SslEcGroups
  setPrivateKey      : EllipticCurveType → Nat → Bool
  setPrivateKey_ok   : ∀ {curve n}, setPrivateKey curve n = true →
    n < 256 ^ ecFieldSizeInBytes curve ∧ ((groups curve).coordinates (n • (groups curve).generator)).isSome
  x25519PublicValue  : SizedBytes 32 → SizedBytes 32
  xWingPublicKey     : SizedBytes 32 → SizedBytes 1216
  mlKem768PublicKey  : SizedBytes 64 → SizedBytes 1184
  mlKem1024PublicKey : SizedBytes 64 → SizedBytes 1568

/-- What the generators draw. -/
structure HpkeKeyDraw (lib : HpkeKeyLibrary) where
  number : (curve : EllipticCurveType) → {n : Nat // lib.setPrivateKey curve n = true}
  seed32 : SizedBytes 32
  seed64 : SizedBytes 64

/-! ## Keys -/

/-- `CurveTypeFromKemId`, for the KEMs on a NIST curve. -/
def HpkeParameters.KemId.nistCurve : HpkeParameters.KemId → Option EllipticCurveType
  | .dhkemP256HkdfSha256 => some .nistP256
  | .dhkemP384HkdfSha384 => some .nistP384
  | .dhkemP521HkdfSha512 => some .nistP521
  | _ => none

structure HpkePublicKey where
  parameters     : HpkeParameters
  publicKeyBytes : Bytes
  idRequirement  : Option UInt32
  outputPrefix   : Bytes
  deriving DecidableEq, Repr

structure HpkePrivateKey where
  publicKey       : HpkePublicKey
  privateKeyBytes : Bytes
  deriving DecidableEq, Repr

/-- The length of public keys. -/
def HpkeParameters.KemId.publicKeyLength : HpkeParameters.KemId → Nat
  | .dhkemP256HkdfSha256 => 65
  | .dhkemP384HkdfSha384 => 97
  | .dhkemP521HkdfSha512 => 133
  | .dhkemX25519HkdfSha256 => 32
  | .xWing => 1216
  | .mlKem768 => 1184
  | .mlKem1024 => 1568

/-- The length of private keys. -/
def HpkeParameters.KemId.privateKeyLength : HpkeParameters.KemId → Nat
  | .dhkemP256HkdfSha256 => 32
  | .dhkemP384HkdfSha384 => 48
  | .dhkemP521HkdfSha512 => 66
  | .dhkemX25519HkdfSha256 => 32
  | .xWing => 32
  | .mlKem768 => 64
  | .mlKem1024 => 64

namespace HpkePublicKey

/-- `ComputeOutputPrefix`. -/
def computeOutputPrefix (parameters : HpkeParameters) (idRequirement : Option UInt32) : Except Status Bytes :=
  match parameters.variant, idRequirement with
  | .noPrefix, _ => .ok []
  | .crunchy, none => .error ⟨.invalidArgument, "ID requirement must have value with kCrunchy"⟩
  | .crunchy, some id => .ok (CryptoFormat.legacyStartByte :: bigEndian32 id)
  | .tink, none => .error ⟨.invalidArgument, "ID requirement must have value with kTink"⟩
  | .tink, some id => .ok (CryptoFormat.tinkStartByte :: bigEndian32 id)

variable (lib : HpkeKeyLibrary)

/-- `ValidatePublicKey`. -/
def validatePublicKey (kemId : HpkeParameters.KemId) (publicKeyBytes : Bytes) : Except Status Unit :=
  let expected := kemId.publicKeyLength
  let got := publicKeyBytes.length
  if expected ≠ got then
    .error ⟨.invalidArgument, s!"Invalid public key length for KEM {kemId.number} (expected {expected}, got {got})"⟩
  else
    match kemId.nistCurve with
    | none => .ok ()
    | some curve => (ecPointDecode lib.groups curve .uncompressed publicKeyBytes).map fun _ => ()

def create (parameters : HpkeParameters) (publicKeyBytes : Bytes) (idRequirement : Option UInt32) :
    Except Status HpkePublicKey :=
  if parameters.hasIdRequirement = true ∧ idRequirement = none then
    .error ⟨.invalidArgument, "Cannot create key without ID requirement with parameters with ID requirement"⟩
  else if parameters.hasIdRequirement = false ∧ idRequirement ≠ none then
    .error ⟨.invalidArgument, "Cannot create key with ID requirement with parameters without ID requirement"⟩
  else do
    validatePublicKey lib parameters.kemId publicKeyBytes
    let outputPrefix ← computeOutputPrefix parameters idRequirement
    return ⟨parameters, publicKeyBytes, idRequirement, outputPrefix⟩

end HpkePublicKey

namespace HpkePrivateKey

/-- `ValidatePrivateKeyLength`, of a length in an `int`. -/
def validatePrivateKeyLength (kemId : HpkeParameters.KemId) (length : Int) : Except Status Unit :=
  let expectedLength := kemId.privateKeyLength
  if (expectedLength : Int) ≠ length then
    .error ⟨.invalidArgument,
      s!"Invalid private key length for KEM {kemId.number} (expected {expectedLength}, got {length})"⟩
  else .ok ()

variable (lib : HpkeKeyLibrary)

/-- `ValidateNistEcKeyPair`; the last check is that of `EC_KEY_check_key`. -/
def validateNistEcKeyPair (curve : EllipticCurveType) (publicKeyBytes privateKeyBytes : Bytes) : Except Status Unit :=
  match ecPointDecode lib.groups curve .uncompressed publicKeyBytes with
  | .error e => .error e
  | .ok P =>
    match (lib.groups curve).stringToBignum privateKeyBytes with
    | .error e => .error e
    | .ok privKey =>
      if lib.setPrivateKey curve privKey = false then .error ⟨.invalidArgument, "Invalid private key: "⟩
      else if (lib.groups curve).coordinates (privKey • (lib.groups curve).generator) ≠
          (lib.groups curve).coordinates P then
        .error ⟨.invalidArgument, "Invalid EC key pair: "⟩
      else .ok ()

/-- The pair check of the KEMs whose public key is computed from the bytes of the private one. -/
def validateRawKeyPair (name : String) {privateSize publicSize : Nat}
    (publicOf : SizedBytes privateSize → SizedBytes publicSize) (publicKeyBytes privateKeyBytes : Bytes) :
    Except Status Unit :=
  if h : privateKeyBytes.length = privateSize then
    if publicKeyBytes ≠ (publicOf ⟨privateKeyBytes, h⟩).1 then
      .error ⟨.invalidArgument, s!"{name} private key does not match the specified {name} public key."⟩
    else .ok ()
  else .error ⟨.invalidArgument, "Invalid length for private key"⟩

def validateX25519KeyPair : (publicKeyBytes privateKeyBytes : Bytes) → Except Status Unit :=
  validateRawKeyPair "X25519" lib.x25519PublicValue

def validateXWingKeyPair : (publicKeyBytes privateKeyBytes : Bytes) → Except Status Unit :=
  validateRawKeyPair "XWing" lib.xWingPublicKey

/-- `ValidateMlKemKeyPair`, with either key size. -/
def validateMlKemKeyPair {publicSize : Nat} (publicOf : SizedBytes 64 → SizedBytes publicSize) :
    (publicKeyBytes privateKeyBytes : Bytes) → Except Status Unit :=
  validateRawKeyPair "ML-KEM" publicOf

def validateKeyPair (kemId : HpkeParameters.KemId) (publicKeyBytes privateKeyBytes : Bytes) : Except Status Unit :=
  match kemId with
  | .dhkemP256HkdfSha256 => validateNistEcKeyPair lib .nistP256 publicKeyBytes privateKeyBytes
  | .dhkemP384HkdfSha384 => validateNistEcKeyPair lib .nistP384 publicKeyBytes privateKeyBytes
  | .dhkemP521HkdfSha512 => validateNistEcKeyPair lib .nistP521 publicKeyBytes privateKeyBytes
  | .dhkemX25519HkdfSha256 => validateX25519KeyPair lib publicKeyBytes privateKeyBytes
  | .xWing => validateXWingKeyPair lib publicKeyBytes privateKeyBytes
  | .mlKem768 => validateMlKemKeyPair lib.mlKem768PublicKey publicKeyBytes privateKeyBytes
  | .mlKem1024 => validateMlKemKeyPair lib.mlKem1024PublicKey publicKeyBytes privateKeyBytes

def create (publicKey : HpkePublicKey) (privateKeyBytes : Bytes) : Except Status HpkePrivateKey := do
  validatePrivateKeyLength publicKey.parameters.kemId (Narrow.toInt privateKeyBytes.length)
  validateKeyPair lib publicKey.parameters.kemId publicKey.publicKeyBytes privateKeyBytes
  return ⟨publicKey, privateKeyBytes⟩

end HpkePrivateKey

/-! ## Generators -/

section
variable (lib : HpkeKeyLibrary) (draw : HpkeKeyDraw lib)

/-- `GenerateEcKey`: the encoded public point and the private number. -/
def generateEcKey (curve : EllipticCurveType) : Except Status (Bytes × Bytes) := do
  let ecKey ← newSslEcKey lib.groups curve (draw.number curve).1
  let pubPoint ← (lib.groups curve).fromCoordinates ecKey.pubX ecKey.pubY
  let encodedPubPoint ← ecPointEncode lib.groups curve .uncompressed pubPoint
  return (encodedPubPoint, ecKey.priv)

/-- `GenerateX25519Key`, `GenerateEcKey`, `GenerateXWingKey` or `GenerateMlKemKey`: the public key and the private one that
the manager puts into a message. -/
def generateKeyMaterial : HpkeParameters.KemId → Except Status (Bytes × Bytes)
  | .dhkemX25519HkdfSha256 => .ok ((lib.x25519PublicValue draw.seed32).1, draw.seed32.1)
  | .dhkemP256HkdfSha256 => generateEcKey lib draw .nistP256
  | .dhkemP384HkdfSha384 => generateEcKey lib draw .nistP384
  | .dhkemP521HkdfSha512 => generateEcKey lib draw .nistP521
  | .xWing => .ok ((lib.xWingPublicKey draw.seed32).1, draw.seed32.1)
  | .mlKem768 => .ok ((lib.mlKem768PublicKey draw.seed64).1, draw.seed64.1)
  | .mlKem1024 => .ok ((lib.mlKem1024PublicKey draw.seed64).1, draw.seed64.1)

/-- The case of `CreatePrivateHpkeKey` for the NIST curves. -/
def createPrivateNistHpkeKey (parameters : HpkeParameters) (curveType : EllipticCurveType) (idRequirement : Option UInt32) :
    Except Status HpkePrivateKey := do
  let ecKey ← newSslEcKey lib.groups curveType (draw.number curveType).1
  let pubPoint ← (lib.groups curveType).fromCoordinates ecKey.pubX ecKey.pubY
  let encodedPubPoint ← ecPointEncode lib.groups curveType .uncompressed pubPoint
  let publicKey ← HpkePublicKey.create lib parameters encodedPubPoint idRequirement
  HpkePrivateKey.create lib publicKey ecKey.priv

/-- `CreatePrivateHpkeKey`. -/
def createPrivateHpkeKey (parameters : HpkeParameters) (idRequirement : Option UInt32) : Except Status HpkePrivateKey :=
  match parameters.kemId with
  | .dhkemX25519HkdfSha256 => do
    let publicKey ← HpkePublicKey.create lib parameters (lib.x25519PublicValue draw.seed32).1 idRequirement
    HpkePrivateKey.create lib publicKey draw.seed32.1
  | .dhkemP256HkdfSha256 => createPrivateNistHpkeKey lib draw parameters .nistP256 idRequirement
  | .dhkemP384HkdfSha384 => createPrivateNistHpkeKey lib draw parameters .nistP384 idRequirement
  | .dhkemP521HkdfSha512 => createPrivateNistHpkeKey lib draw parameters .nistP521 idRequirement
  | .xWing => do
    let publicKey ← HpkePublicKey.create lib parameters (lib.xWingPublicKey draw.seed32).1 idRequirement
    HpkePrivateKey.create lib publicKey draw.seed32.1
  | .mlKem768 => do
    let publicKey ← HpkePublicKey.create lib parameters (lib.mlKem768PublicKey draw.seed64).1 idRequirement
    HpkePrivateKey.create lib publicKey draw.seed64.1
  | .mlKem1024 => do
    let publicKey ← HpkePublicKey.create lib parameters (lib.mlKem1024PublicKey draw.seed64).1 idRequirement
    HpkePrivateKey.create lib publicKey draw.seed64.1

end

/-! ## The key manager -/

/-- `ValidateParams`. -/
def validateHpkeParams (params : HpkeParamsProto) : Except Status Unit :=
  if params.kem = .kemUnknown then .error ⟨.invalidArgument, "Invalid KEM param."⟩
  else if params.kdf = .kdfUnknown then .error ⟨.invalidArgument, "Invalid KDF param."⟩
  else if params.aead = .aeadUnknown then .error ⟨.invalidArgument, "Invalid AEAD param."⟩
  else .ok ()

/-- `ValidateKeyAndVersion`. -/
def validateKeyAndVersion (key : HpkePublicKeyProto) (maxKeyVersion : UInt32) : Except Status Unit := do
  validateVersion key.version maxKeyVersion
  match key.params with
  | none => .error ⟨.invalidArgument, "Missing HPKE key params."⟩
  | some params => validateHpkeParams params

/-- The KEM of a named value. -/
def HpkeKemProto.toKemId : HpkeKemProto → Option HpkeParameters.KemId
  | .dhkemX25519HkdfSha256 => some .dhkemX25519HkdfSha256
  | .dhkemP256HkdfSha256 => some .dhkemP256HkdfSha256
  | .dhkemP384HkdfSha384 => some .dhkemP384HkdfSha384
  | .dhkemP521HkdfSha512 => some .dhkemP521HkdfSha512
  | .xWing => some .xWing
  | .mlKem768 => some .mlKem768
  | .mlKem1024 => some .mlKem1024
  | .kemUnknown | .unnamed _ => none

namespace HpkePrivateKeyManager

def validateKeyFormat (keyFormat : HpkeKeyFormatProto) : Except Status Unit :=
  match keyFormat.params with
  | none => .error ⟨.invalidArgument, "Missing params."⟩
  | some params => validateHpkeParams params

def createKey (lib : HpkeKeyLibrary) (draw : HpkeKeyDraw lib) (keyFormat : HpkeKeyFormatProto) :
    Except Status HpkePrivateKeyProto :=
  match keyFormat.getParams.kem.toKemId with
  | none => .error ⟨.invalidArgument, s!"Unsupported KEM type: {keyFormat.getParams.kem.number}"⟩
  | some kemId => do
    let (publicKey, privateKey) ← generateKeyMaterial lib draw kemId
    return ⟨0, some ⟨0, some keyFormat.getParams, publicKey⟩, privateKey⟩

def getPublicKey (privateKey : HpkePrivateKeyProto) : Except Status HpkePublicKeyProto := .ok privateKey.getPublicKey

def validateKey (key : HpkePrivateKeyProto) : Except Status Unit := do
  validateVersion key.version 0
  match key.publicKey with
  | none => .error ⟨.invalidArgument, "Missing HPKE public key."⟩
  | some publicKey => validateKeyAndVersion publicKey 0

end HpkePrivateKeyManager

/-! ## Pairs -/

/-- The public key of a private number on a NIST curve. -/
def HpkeKeyLibrary.nistPublicKey (lib : HpkeKeyLibrary) (curve : EllipticCurveType) (privateKeyBytes : Bytes) :
    Option Bytes :=
  if lib.setPrivateKey curve (value privateKeyBytes) = true then
    (lib.groups curve).point2oct false (value privateKeyBytes • (lib.groups curve).generator)
  else none

/-- The public key of a private key that is a seed. -/
def rawPublicKey {privateSize publicSize : Nat} (publicOf : SizedBytes privateSize → SizedBytes publicSize)
    (privateKeyBytes : Bytes) : Option Bytes :=
  if h : privateKeyBytes.length = privateSize then some (publicOf ⟨privateKeyBytes, h⟩).1 else none

/-- The public key that belongs to the bytes of a private key, of whatever length. -/
def HpkeKeyLibrary.publicKeyOf (lib : HpkeKeyLibrary) (kemId : HpkeParameters.KemId) (privateKeyBytes : Bytes) :
    Option Bytes :=
  match kemId with
  | .dhkemP256HkdfSha256 => lib.nistPublicKey .nistP256 privateKeyBytes
  | .dhkemP384HkdfSha384 => lib.nistPublicKey .nistP384 privateKeyBytes
  | .dhkemP521HkdfSha512 => lib.nistPublicKey .nistP521 privateKeyBytes
  | .dhkemX25519HkdfSha256 => rawPublicKey lib.x25519PublicValue privateKeyBytes
  | .xWing => rawPublicKey lib.xWingPublicKey privateKeyBytes
  | .mlKem768 => rawPublicKey lib.mlKem768PublicKey privateKeyBytes
  | .mlKem1024 => rawPublicKey lib.mlKem1024PublicKey privateKeyBytes

section
variable {lib : HpkeKeyLibrary}

/-- The public point of a number that `EC_KEY_set_private_key` takes is not infinity. -/
theorem HpkeKeyLibrary.publicPoint_ne_zero {curve : EllipticCurveType} {n : Nat} (h : lib.setPrivateKey curve n = true) :
    n • (lib.groups curve).generator ≠ 0 := by
  obtain ⟨⟨x, y⟩, hcoordinates⟩ := Option.isSome_iff_exists.1 (lib.setPrivateKey_ok h).2
  exact EcGroup.ne_zero hcoordinates

theorem HpkeKeyLibrary.nistPublicKey_eq_some {curve : EllipticCurveType} {privateKeyBytes publicKeyBytes : Bytes} :
    lib.nistPublicKey curve privateKeyBytes = some publicKeyBytes ↔
      lib.setPrivateKey curve (value privateKeyBytes) = true ∧
        ecPointDecode lib.groups curve .uncompressed publicKeyBytes =
          .ok (value privateKeyBytes • (lib.groups curve).generator) := by
  unfold HpkeKeyLibrary.nistPublicKey
  constructor
  · intro h
    split at h
    · rename_i hnumber
      have hencode : ecPointEncode lib.groups curve .uncompressed
          (value privateKeyBytes • (lib.groups curve).generator) = .ok publicKeyBytes := sslResult_eq_ok.2 h
      exact ⟨hnumber, (ecPointDecode_encode (lib.publicPoint_ne_zero hnumber) hencode).2⟩
    · cases h
  · rintro ⟨hnumber, hdecode⟩
    rw [if_pos hnumber]
    exact sslResult_eq_ok.1 ((ecPointDecode_x962 false).1 hdecode).2

/-- The pair check of a NIST curve finds the public key of the number, and no other one. -/
theorem validateNistEcKeyPair_ok_iff {curve : EllipticCurveType} {publicKeyBytes privateKeyBytes : Bytes}
    (hread : (lib.groups curve).bin2bn privateKeyBytes = some (value privateKeyBytes)) :
    HpkePrivateKey.validateNistEcKeyPair lib curve publicKeyBytes privateKeyBytes = .ok () ↔
      lib.nistPublicKey curve privateKeyBytes = some publicKeyBytes := by
  rw [HpkeKeyLibrary.nistPublicKey_eq_some]
  unfold HpkePrivateKey.validateNistEcKeyPair
  rw [SslBignums.stringToBignum, hread]
  constructor
  · intro h
    split at h
    · cases h
    rename_i P hdecode
    dsimp only [sslResult] at h
    split at h
    · cases h
    rename_i hnumber
    have hnumber := Bool.eq_true_of_not_eq_false hnumber
    split at h
    · cases h
    rename_i hcoordinates
    have hcoordinates := Decidable.not_not.1 hcoordinates
    obtain ⟨⟨x, y⟩, hxy⟩ := Option.isSome_iff_exists.1 (lib.setPrivateKey_ok hnumber).2
    have hP := (lib.groups curve).point_coordinates (hcoordinates.symm.trans hxy)
    rw [(lib.groups curve).point_coordinates hxy] at hP
    exact ⟨hnumber, hdecode.trans (congrArg Except.ok (Option.some.inj hP).symm)⟩
  · rintro ⟨hnumber, hdecode⟩
    rw [hdecode]
    dsimp only [sslResult]
    rw [if_neg (by rw [hnumber]; exact nofun), if_neg (not_not_intro rfl)]

theorem validateRawKeyPair_ok_iff {name : String} {privateSize publicSize : Nat}
    {publicOf : SizedBytes privateSize → SizedBytes publicSize} {publicKeyBytes privateKeyBytes : Bytes} :
    HpkePrivateKey.validateRawKeyPair name publicOf publicKeyBytes privateKeyBytes = .ok () ↔
      rawPublicKey publicOf privateKeyBytes = some publicKeyBytes := by
  unfold HpkePrivateKey.validateRawKeyPair rawPublicKey
  split
  · split
    · rename_i hne
      exact ⟨(nomatch ·), fun h => absurd (Option.some.inj h).symm hne⟩
    · rename_i heq
      exact ⟨fun _ => congrArg some (Decidable.not_not.1 heq).symm, fun _ => rfl⟩
  · exact ⟨(nomatch ·), (nomatch ·)⟩

theorem rawPublicKey_eq_some {privateSize publicSize : Nat} {publicOf : SizedBytes privateSize → SizedBytes publicSize}
    {privateKeyBytes publicKeyBytes : Bytes} (h : rawPublicKey publicOf privateKeyBytes = some publicKeyBytes) :
    privateKeyBytes.length = privateSize ∧ publicKeyBytes.length = publicSize := by
  unfold rawPublicKey at h
  split at h
  · rename_i hlen
    cases h
    exact ⟨hlen, (publicOf _).2⟩
  · cases h

/-- **A private key goes with one public key.** -/
theorem validateKeyPair_ok_iff {kemId : HpkeParameters.KemId} {publicKeyBytes privateKeyBytes : Bytes}
    (hread : ∀ curve, kemId.nistCurve = some curve →
      (lib.groups curve).bin2bn privateKeyBytes = some (value privateKeyBytes)) :
    HpkePrivateKey.validateKeyPair lib kemId publicKeyBytes privateKeyBytes = .ok () ↔
      lib.publicKeyOf kemId privateKeyBytes = some publicKeyBytes := by
  cases kemId with
  | dhkemP256HkdfSha256 => exact validateNistEcKeyPair_ok_iff (hread _ rfl)
  | dhkemP384HkdfSha384 => exact validateNistEcKeyPair_ok_iff (hread _ rfl)
  | dhkemP521HkdfSha512 => exact validateNistEcKeyPair_ok_iff (hread _ rfl)
  | dhkemX25519HkdfSha256 => exact validateRawKeyPair_ok_iff
  | xWing => exact validateRawKeyPair_ok_iff
  | mlKem768 => exact validateRawKeyPair_ok_iff
  | mlKem1024 => exact validateRawKeyPair_ok_iff

theorem HpkeParameters.KemId.privateKeyLength_le (kemId : HpkeParameters.KemId) : kemId.privateKeyLength ≤ 66 := by
  cases kemId <;> decide

/-- A private key has a pair only if it has its length, or is read by `BN_bin2bn`. -/
theorem validateKeyPair_length {kemId : HpkeParameters.KemId} {publicKeyBytes privateKeyBytes : Bytes}
    (h : HpkePrivateKey.validateKeyPair lib kemId publicKeyBytes privateKeyBytes = .ok ()) :
    privateKeyBytes.length = kemId.privateKeyLength ∨
      ∃ curve, kemId.nistCurve = some curve ∧ (lib.groups curve).bin2bn privateKeyBytes ≠ none := by
  have hnist : ∀ {curve}, kemId.nistCurve = some curve →
      HpkePrivateKey.validateNistEcKeyPair lib curve publicKeyBytes privateKeyBytes = .ok () →
      ∃ curve, kemId.nistCurve = some curve ∧ (lib.groups curve).bin2bn privateKeyBytes ≠ none := by
    intro curve hcurve hpair
    refine ⟨curve, hcurve, fun hnone => ?_⟩
    unfold HpkePrivateKey.validateNistEcKeyPair at hpair
    rw [SslBignums.stringToBignum, hnone] at hpair
    split at hpair
    · cases hpair
    · cases hpair
  cases kemId with
  | dhkemP256HkdfSha256 => exact .inr (hnist rfl h)
  | dhkemP384HkdfSha384 => exact .inr (hnist rfl h)
  | dhkemP521HkdfSha512 => exact .inr (hnist rfl h)
  | dhkemX25519HkdfSha256 => exact .inl (rawPublicKey_eq_some (validateRawKeyPair_ok_iff.1 h)).1
  | xWing => exact .inl (rawPublicKey_eq_some (validateRawKeyPair_ok_iff.1 h)).1
  | mlKem768 => exact .inl (rawPublicKey_eq_some (validateRawKeyPair_ok_iff.1 h)).1
  | mlKem1024 => exact .inl (rawPublicKey_eq_some (validateRawKeyPair_ok_iff.1 h)).1

/-- A key is made of a private key of the right length that belongs to the public one.  The length is checked as an `int`,
so a number that is 2^32 bytes longer has to be refused by `BN_bin2bn`. -/
theorem HpkePrivateKey.create_ok_iff {publicKey : HpkePublicKey} {privateKeyBytes : Bytes} {key : HpkePrivateKey}
    (hlong : ∀ curve, publicKey.parameters.kemId.nistCurve = some curve → 2 ^ 31 ≤ privateKeyBytes.length →
      (lib.groups curve).bin2bn privateKeyBytes = none) :
    HpkePrivateKey.create lib publicKey privateKeyBytes = .ok key ↔
      privateKeyBytes.length = publicKey.parameters.kemId.privateKeyLength ∧
        lib.publicKeyOf publicKey.parameters.kemId privateKeyBytes = some publicKey.publicKeyBytes ∧
        key = ⟨publicKey, privateKeyBytes⟩ := by
  have hle := publicKey.parameters.kemId.privateKeyLength_le
  have hread : privateKeyBytes.length = publicKey.parameters.kemId.privateKeyLength → ∀ curve,
      publicKey.parameters.kemId.nistCurve = some curve →
      (lib.groups curve).bin2bn privateKeyBytes = some (value privateKeyBytes) := fun hlen curve _ =>
    (lib.groups curve).bin2bn_of_length (by omega)
  have hnarrow : privateKeyBytes.length < 2 ^ 31 → Narrow.toInt privateKeyBytes.length = privateKeyBytes.length :=
    fun hlt => Narrow.toInt_of_nonneg_of_lt (Int.natCast_nonneg _) (by omega)
  constructor
  · intro h
    obtain ⟨_, hvalid, h⟩ := bind_eq_ok h
    obtain ⟨_, hpair, h⟩ := bind_eq_ok h
    cases h
    unfold HpkePrivateKey.validatePrivateKeyLength at hvalid
    dsimp only at hvalid
    split at hvalid
    · cases hvalid
    rename_i hexpected
    have hexpected := Decidable.not_not.1 hexpected
    have hlen : privateKeyBytes.length = publicKey.parameters.kemId.privateKeyLength := by
      rcases validateKeyPair_length hpair with hlen | ⟨curve, hcurve, hbn⟩
      · exact hlen
      · have hlt : privateKeyBytes.length < 2 ^ 31 := Nat.lt_of_not_le fun hge => hbn (hlong curve hcurve hge)
        rw [hnarrow hlt] at hexpected
        exact (Int.ofNat.inj hexpected).symm
    exact ⟨hlen, (validateKeyPair_ok_iff (hread hlen)).1 hpair, rfl⟩
  · rintro ⟨hlen, hpair, rfl⟩
    have hvalid : HpkePrivateKey.validatePrivateKeyLength publicKey.parameters.kemId (Narrow.toInt privateKeyBytes.length) =
        .ok () := if_neg (not_not_intro ((hnarrow (by omega)).trans (congrArg Int.ofNat hlen)).symm)
    unfold HpkePrivateKey.create
    rw [hvalid]
    dsimp only [bind, Except.bind]
    rw [(validateKeyPair_ok_iff (hread hlen)).2 hpair]
    rfl

theorem nistPublicKey_valid {curve : EllipticCurveType} {privateKeyBytes publicKeyBytes : Bytes}
    (h : lib.nistPublicKey curve privateKeyBytes = some publicKeyBytes) :
    publicKeyBytes.length = 2 * ecFieldSizeInBytes curve + 1 ∧
      ∃ P, ecPointDecode lib.groups curve .uncompressed publicKeyBytes = .ok P := by
  obtain ⟨-, hdecode⟩ := HpkeKeyLibrary.nistPublicKey_eq_some.1 h
  obtain ⟨-, hsize⟩ := ecPointDecode_size hdecode
  rw [ecPointEncodingSizeInBytes_toSubtle] at hsize
  exact ⟨(Except.ok.inj hsize).symm, _, hdecode⟩

/-- The public key of a private key passes the checks of public keys. -/
theorem validatePublicKey_publicKeyOf {kemId : HpkeParameters.KemId} {privateKeyBytes publicKeyBytes : Bytes}
    (h : lib.publicKeyOf kemId privateKeyBytes = some publicKeyBytes) :
    HpkePublicKey.validatePublicKey lib kemId publicKeyBytes = .ok () := by
  have hnist : ∀ {curve}, kemId.nistCurve = some curve → kemId.publicKeyLength = 2 * ecFieldSizeInBytes curve + 1 →
      lib.nistPublicKey curve privateKeyBytes = some publicKeyBytes →
      HpkePublicKey.validatePublicKey lib kemId publicKeyBytes = .ok () := by
    intro curve hcurve hlen h
    obtain ⟨hsize, P, hdecode⟩ := nistPublicKey_valid h
    unfold HpkePublicKey.validatePublicKey
    dsimp only
    rw [if_neg (not_not_intro (hlen.trans hsize.symm)), hcurve]
    dsimp only
    rw [hdecode]
    rfl
  have hraw : ∀ {privateSize publicSize : Nat} {publicOf : SizedBytes privateSize → SizedBytes publicSize},
      kemId.nistCurve = none → kemId.publicKeyLength = publicSize →
      rawPublicKey publicOf privateKeyBytes = some publicKeyBytes →
      HpkePublicKey.validatePublicKey lib kemId publicKeyBytes = .ok () := by
    intro privateSize publicSize publicOf hcurve hlen h
    unfold HpkePublicKey.validatePublicKey
    dsimp only
    rw [if_neg (not_not_intro (hlen.trans (rawPublicKey_eq_some h).2.symm)), hcurve]
  cases kemId with
  | dhkemP256HkdfSha256 => exact hnist rfl rfl h
  | dhkemP384HkdfSha384 => exact hnist rfl rfl h
  | dhkemP521HkdfSha512 => exact hnist rfl rfl h
  | dhkemX25519HkdfSha256 => exact hraw rfl rfl h
  | xWing => exact hraw rfl rfl h
  | mlKem768 => exact hraw rfl rfl h
  | mlKem1024 => exact hraw rfl rfl h

/-- The checks of an id. -/
theorem HpkePublicKey.create_ok {parameters : HpkeParameters} {publicKeyBytes : Bytes} {idRequirement : Option UInt32}
    {key : HpkePublicKey} (h : HpkePublicKey.create lib parameters publicKeyBytes idRequirement = .ok key) :
    parameters.hasIdRequirement = idRequirement.isSome ∧
      HpkePublicKey.validatePublicKey lib parameters.kemId publicKeyBytes = .ok () ∧
      ∃ outputPrefix, HpkePublicKey.computeOutputPrefix parameters idRequirement = .ok outputPrefix ∧
        key = ⟨parameters, publicKeyBytes, idRequirement, outputPrefix⟩ := by
  unfold HpkePublicKey.create at h
  split at h
  · cases h
  rename_i hmissing
  split at h
  · cases h
  rename_i hextra
  obtain ⟨_, hvalid, h⟩ := bind_eq_ok h
  obtain ⟨outputPrefix, hcompute, h⟩ := bind_eq_ok h
  refine ⟨?_, hvalid, outputPrefix, hcompute, (Except.ok.inj h).symm⟩
  cases idRequirement with
  | none => exact Bool.eq_false_of_not_eq_true fun h => hmissing ⟨h, rfl⟩
  | some id => exact Bool.eq_true_of_not_eq_false fun h => hextra ⟨h, nofun⟩

theorem HpkePublicKey.create_of {parameters : HpkeParameters} {publicKeyBytes : Bytes} {idRequirement : Option UInt32}
    (hid : parameters.hasIdRequirement = idRequirement.isSome)
    (hvalid : HpkePublicKey.validatePublicKey lib parameters.kemId publicKeyBytes = .ok ()) :
    ∃ outputPrefix, HpkePublicKey.create lib parameters publicKeyBytes idRequirement =
      .ok ⟨parameters, publicKeyBytes, idRequirement, outputPrefix⟩ := by
  obtain ⟨outputPrefix, hcompute⟩ : ∃ outputPrefix,
      HpkePublicKey.computeOutputPrefix parameters idRequirement = .ok outputPrefix := by
    obtain ⟨kemId, kdfId, aeadId, variant⟩ := parameters
    cases idRequirement with
    | none =>
      cases variant with
      | noPrefix => exact ⟨_, rfl⟩
      | tink => cases hid
      | crunchy => cases hid
    | some id => cases variant <;> exact ⟨_, rfl⟩
  refine ⟨outputPrefix, ?_⟩
  unfold HpkePublicKey.create
  rw [if_neg (by rw [hid]; cases idRequirement <;> simp), if_neg (by rw [hid]; cases idRequirement <;> simp), hvalid]
  dsimp only [bind, Except.bind]
  rw [hcompute]
  rfl

/-! ## New keys -/

variable (draw : HpkeKeyDraw lib)

theorem newSslEcKey_of {curve : EllipticCurveType} {n : Nat} (h : lib.setPrivateKey curve n = true) :
    ∃ ecKey, newSslEcKey lib.groups curve n = .ok ecKey := by
  obtain ⟨hlt, hsome⟩ := lib.setPrivateKey_ok h
  obtain ⟨⟨x, y⟩, hcoordinates⟩ := Option.isSome_iff_exists.1 hsome
  obtain ⟨hx, hy⟩ := (lib.groups curve).coordinates_lt hcoordinates
  unfold newSslEcKey EcGroup.getCoordinates
  rw [hcoordinates]
  dsimp only [sslResult, bind, Except.bind]
  rw [bignumToBinaryPadded_of_lt (Nat.lt_of_lt_of_le hx (lib.groups curve).modulus_le),
    bignumToBinaryPadded_of_lt (Nat.lt_of_lt_of_le hy (lib.groups curve).modulus_le), bignumToBinaryPadded_of_lt hlt]
  exact ⟨_, rfl⟩

theorem generateEcKey_ok (curve : EllipticCurveType) :
    ∃ publicKey privateKey, generateEcKey lib draw curve = .ok (publicKey, privateKey) ∧
      privateKey.length = ecFieldSizeInBytes curve ∧ lib.nistPublicKey curve privateKey = some publicKey := by
  have hnumber := (draw.number curve).2
  obtain ⟨ecKey, hkey⟩ := newSslEcKey_of hnumber
  obtain ⟨hpoint, hvalue, -, -, hlen⟩ := newSslEcKey_ok hkey
  obtain ⟨⟨x, y⟩, hcoordinates⟩ := Option.isSome_iff_exists.1 (lib.setPrivateKey_ok hnumber).2
  have hpublic := (lib.groups curve).point2oct_coordinates hcoordinates false
  refine ⟨x962Octets (ecFieldSizeInBytes curve) false x y, ecKey.priv, ?_, hlen, ?_⟩
  · unfold generateEcKey
    rw [hkey]
    dsimp only [bind, Except.bind]
    rw [hpoint]
    dsimp only [ecPointEncode, EcGroup.sslEcPointEncode]
    rw [hpublic]
    rfl
  · unfold HpkeKeyLibrary.nistPublicKey
    rw [hvalue, if_pos hnumber]
    exact hpublic

/-- **The generators make pairs.** -/
theorem generateKeyMaterial_ok (kemId : HpkeParameters.KemId) :
    ∃ publicKey privateKey, generateKeyMaterial lib draw kemId = .ok (publicKey, privateKey) ∧
      privateKey.length = kemId.privateKeyLength ∧ lib.publicKeyOf kemId privateKey = some publicKey := by
  cases kemId with
  | dhkemP256HkdfSha256 => exact generateEcKey_ok draw .nistP256
  | dhkemP384HkdfSha384 => exact generateEcKey_ok draw .nistP384
  | dhkemP521HkdfSha512 => exact generateEcKey_ok draw .nistP521
  | dhkemX25519HkdfSha256 => exact ⟨_, _, rfl, draw.seed32.2, dif_pos draw.seed32.2⟩
  | xWing => exact ⟨_, _, rfl, draw.seed32.2, dif_pos draw.seed32.2⟩
  | mlKem768 => exact ⟨_, _, rfl, draw.seed64.2, dif_pos draw.seed64.2⟩
  | mlKem1024 => exact ⟨_, _, rfl, draw.seed64.2, dif_pos draw.seed64.2⟩

/-- What the manager writes into a message, `CreatePrivateHpkeKey` puts into a key. -/
theorem createPrivateHpkeKey_eq (parameters : HpkeParameters) (idRequirement : Option UInt32) :
    createPrivateHpkeKey lib draw parameters idRequirement =
      (generateKeyMaterial lib draw parameters.kemId).bind fun (publicKeyBytes, privateKeyBytes) =>
        (HpkePublicKey.create lib parameters publicKeyBytes idRequirement).bind fun publicKey =>
          HpkePrivateKey.create lib publicKey privateKeyBytes := by
  have hnist : ∀ curve, createPrivateNistHpkeKey lib draw parameters curve idRequirement =
      (generateEcKey lib draw curve).bind fun (publicKeyBytes, privateKeyBytes) =>
        (HpkePublicKey.create lib parameters publicKeyBytes idRequirement).bind fun publicKey =>
          HpkePrivateKey.create lib publicKey privateKeyBytes := by
    intro curve
    unfold createPrivateNistHpkeKey generateEcKey
    cases newSslEcKey lib.groups curve (draw.number curve).1 with
    | error e => rfl
    | ok ecKey =>
      dsimp only [bind, Except.bind]
      cases (lib.groups curve).fromCoordinates ecKey.pubX ecKey.pubY with
      | error e => rfl
      | ok pubPoint =>
        dsimp only
        cases ecPointEncode lib.groups curve .uncompressed pubPoint with
        | error e => rfl
        | ok encodedPubPoint => rfl
  unfold createPrivateHpkeKey
  cases parameters.kemId with
  | dhkemP256HkdfSha256 => exact hnist .nistP256
  | dhkemP384HkdfSha384 => exact hnist .nistP384
  | dhkemP521HkdfSha512 => exact hnist .nistP521
  | dhkemX25519HkdfSha256 => rfl
  | xWing => rfl
  | mlKem768 => rfl
  | mlKem1024 => rfl

/-- The key that `CreatePrivateHpkeKey` makes of a pair. -/
theorem createPrivateHpkeKey_of {parameters : HpkeParameters} {idRequirement : Option UInt32}
    (hid : parameters.hasIdRequirement = idRequirement.isSome) :
    ∃ publicKey privateKey outputPrefix, generateKeyMaterial lib draw parameters.kemId = .ok (publicKey, privateKey) ∧
      createPrivateHpkeKey lib draw parameters idRequirement =
        .ok ⟨⟨parameters, publicKey, idRequirement, outputPrefix⟩, privateKey⟩ := by
  obtain ⟨publicKey, privateKey, hgenerate, hlen, hpair⟩ := generateKeyMaterial_ok draw parameters.kemId
  obtain ⟨outputPrefix, hcreate⟩ := HpkePublicKey.create_of hid (validatePublicKey_publicKeyOf hpair)
  refine ⟨publicKey, privateKey, outputPrefix, hgenerate, ?_⟩
  rw [createPrivateHpkeKey_eq, hgenerate]
  dsimp only [Except.bind]
  rw [hcreate]
  have hle := parameters.kemId.privateKeyLength_le
  exact (HpkePrivateKey.create_ok_iff fun _ _ hlong => absurd hlong (by omega)).2 ⟨hlen, hpair, rfl⟩

theorem createPrivateHpkeKey_id {parameters : HpkeParameters} {idRequirement : Option UInt32} {key : HpkePrivateKey}
    (h : createPrivateHpkeKey lib draw parameters idRequirement = .ok key) :
    parameters.hasIdRequirement = idRequirement.isSome := by
  rw [createPrivateHpkeKey_eq] at h
  obtain ⟨⟨publicKeyBytes, privateKeyBytes⟩, -, h⟩ := bind_eq_ok h
  obtain ⟨publicKey, hcreate, -⟩ := bind_eq_ok h
  exact (HpkePublicKey.create_ok hcreate).1

end

/-- The message of a private key, with the version that managers give it. -/
def HpkePrivateKey.toProto (key : HpkePrivateKey) : HpkePrivateKeyProto where
  version := 0
  publicKey := some ⟨0, some key.publicKey.parameters.toProto, key.publicKey.publicKeyBytes⟩
  privateKey := key.privateKeyBytes

theorem toKemId_fromKemId (kemId : HpkeParameters.KemId) : (fromKemId kemId).toKemId = some kemId := by
  cases kemId <;> rfl

theorem validateHpkeParams_toProto (parameters : HpkeParameters) : validateHpkeParams parameters.toProto = .ok () := by
  obtain ⟨kemId, kdfId, aeadId, variant⟩ := parameters
  cases kemId <;> cases kdfId <;> cases aeadId <;> rfl

/-- **HPKE keys.**  Key pairs can be made if the id requirement is that of the parameters, and only then; the key manager
makes the same pair of the same draw, and takes it for valid.  A private key is accepted with the public key that belongs to
it, and with no other, and only with the length of its KEM.  This length is checked as an `int`; so a number of a NIST curve
of 2^31 bytes or more has to be refused by `BN_bin2bn`. -/
theorem hpkeKeys (lib : HpkeKeyLibrary) (parameters : HpkeParameters) (idRequirement : Option UInt32) :
    (∀ draw, (∃ key, createPrivateHpkeKey lib draw parameters idRequirement = .ok key) ↔
      parameters.hasIdRequirement = idRequirement.isSome) ∧
    (∀ draw key, createPrivateHpkeKey lib draw parameters idRequirement = .ok key →
      key.publicKey.parameters = parameters ∧ key.publicKey.idRequirement = idRequirement ∧
      HpkePrivateKeyManager.createKey lib draw ⟨some parameters.toProto⟩ = .ok key.toProto ∧
      HpkePrivateKeyManager.validateKey key.toProto = .ok ()) ∧
    ∀ publicKeyBytes publicKey, HpkePublicKey.create lib parameters publicKeyBytes idRequirement = .ok publicKey →
      ∀ privateKeyBytes : Bytes,
        (∀ curve, parameters.kemId.nistCurve = some curve → 2 ^ 31 ≤ privateKeyBytes.length →
          (lib.groups curve).bin2bn privateKeyBytes = none) →
        ((∃ key, HpkePrivateKey.create lib publicKey privateKeyBytes = .ok key) ↔
          privateKeyBytes.length = parameters.kemId.privateKeyLength ∧
            lib.publicKeyOf parameters.kemId privateKeyBytes = some publicKeyBytes) := by
  refine ⟨fun draw => ⟨fun ⟨key, h⟩ => createPrivateHpkeKey_id draw h, fun hid => ?_⟩, fun draw key h => ?_,
    fun publicKeyBytes publicKey hpublic privateKeyBytes hlong => ?_⟩
  · obtain ⟨_, _, _, -, hcreate⟩ := createPrivateHpkeKey_of draw hid
    exact ⟨_, hcreate⟩
  · obtain ⟨publicKey, privateKey, outputPrefix, hgenerate, hcreate⟩ :=
      createPrivateHpkeKey_of draw (createPrivateHpkeKey_id draw h)
    obtain rfl := Except.ok.inj (hcreate.symm.trans h)
    refine ⟨rfl, rfl, ?_, ?_⟩
    · have hkem : (HpkeKeyFormatProto.mk (some parameters.toProto)).getParams.kem.toKemId = some parameters.kemId :=
        toKemId_fromKemId parameters.kemId
      unfold HpkePrivateKeyManager.createKey
      rw [hkem]
      dsimp only
      rw [hgenerate]
      rfl
    · exact validateHpkeParams_toProto parameters
  · obtain ⟨-, -, outputPrefix, -, rfl⟩ := HpkePublicKey.create_ok hpublic
    constructor
    · rintro ⟨key, h⟩
      obtain ⟨hlen, hpair, -⟩ := (HpkePrivateKey.create_ok_iff hlong).1 h
      exact ⟨hlen, hpair⟩
    · rintro ⟨hlen, hpair⟩
      exact ⟨_, (HpkePrivateKey.create_ok_iff hlong).2 ⟨hlen, hpair, rfl⟩⟩

section Example

/-- Public X25519 keys are the private ones, and the number of a generator is one. -/
def seedKeys : HpkeKeyLibrary where
  groups := generatorGroups
  setPrivateKey _ n := n = 1
  setPrivateKey_ok := by
    intro curve n h
    obtain rfl : n = 1 := of_decide_eq_true h
    cases curve <;> exact ⟨by decide, rfl⟩
  x25519PublicValue key := key
  xWingPublicKey _ := ⟨List.replicate 1216 0, List.length_replicate⟩
  mlKem768PublicKey _ := ⟨List.replicate 1184 0, List.length_replicate⟩
  mlKem1024PublicKey _ := ⟨List.replicate 1568 0, List.length_replicate⟩

def seedKeysDraw : HpkeKeyDraw seedKeys :=
  ⟨fun _ => ⟨1, rfl⟩, ⟨List.replicate 32 9, List.length_replicate⟩, ⟨List.replicate 64 9, List.length_replicate⟩⟩

/-- A key of P-256 with the id 7.  Its number is one, and BoringSSL refuses a number that is 2^32 bytes longer. -/
theorem hpkeKeys_p256 : ∃ key,
    createPrivateHpkeKey seedKeys seedKeysDraw ⟨.dhkemP256HkdfSha256, .hkdfSha256, .aesGcm128, .tink⟩ (some 7) = .ok key ∧
      HpkePrivateKeyManager.validateKey key.toProto = .ok () ∧
      ∀ zeros : Bytes, zeros.length = 2 ^ 32 → ∀ key',
        HpkePrivateKey.create seedKeys key.publicKey (zeros ++ key.privateKeyBytes) ≠ .ok key' := by
  obtain ⟨hmade, hmanager, hpairs⟩ := hpkeKeys seedKeys ⟨.dhkemP256HkdfSha256, .hkdfSha256, .aesGcm128, .tink⟩ (some 7)
  obtain ⟨key, hkey⟩ := (hmade seedKeysDraw).2 rfl
  obtain ⟨hparameters, hid, -, hvalid⟩ := hmanager seedKeysDraw key hkey
  refine ⟨key, hkey, hvalid, fun zeros hzeros key' h => ?_⟩
  have hlong : 2 ^ 32 ≤ (zeros ++ key.privateKeyBytes).length := by
    rw [List.length_append]
    omega
  have hpublic : HpkePublicKey.create seedKeys ⟨.dhkemP256HkdfSha256, .hkdfSha256, .aesGcm128, .tink⟩
      key.publicKey.publicKeyBytes (some 7) = .ok key.publicKey := by
    cases hkey
    rfl
  have hrefused : ∀ curve, (seedKeys.groups curve).bin2bn (zeros ++ key.privateKeyBytes) = none := fun curve =>
    if_neg (by omega)
  obtain ⟨hlen, -⟩ := (hpairs _ _ hpublic _ fun curve _ _ => hrefused curve).1 ⟨key', h⟩
  have hlen : (zeros ++ key.privateKeyBytes).length = 32 := hlen
  omega

end Example

end Tink
