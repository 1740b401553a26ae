import TinkCc.EcPoints
import TinkCc.EciesDemHelper
import TinkCc.KeyTypeInfoStore
import TinkCc.LibKemDem
import TinkCc.StreamingParameters
/-!
# EciesHybrid — ECIES, from key formats to ciphertexts

`hybrid/ecies_aead_hkdf_{private,public}_key_manager.cc`, `hybrid/ecies_aead_hkdf_hybrid_{encrypt,decrypt}.cc`,
`subtle/ecies_hkdf_{sender,recipient}_kem_boringssl.cc` and `Hkdf` of `subtle/hkdf.cc`.  Every key that the manager makes
gives two primitives that fit (`eciesHybrid`): together they are a KEM and a DEM.
-/
namespace Tink

open BigEndian (value)

/-- `AeadOrDaead::Encrypt`. -/
def AeadOrDaead.encrypt : AeadOrDaead → (random plaintext associatedData : Bytes) → Except Status Bytes
  | .aead primitive, random, plaintext, associatedData => primitive.encrypt random plaintext associatedData
  | .daead primitive, _, plaintext, associatedData => primitive.encryptDeterministically plaintext associatedData

/-- `AeadOrDaead::Decrypt`. -/
def AeadOrDaead.decrypt : AeadOrDaead → (ciphertext associatedData : Bytes) → Except Status Bytes
  | .aead primitive, ciphertext, associatedData => primitive.decrypt ciphertext associatedData
  | .daead primitive, ciphertext, associatedData => primitive.decryptDeterministically ciphertext associatedData

/-- The primitives decrypt what they encrypt. -/
structure DemLibrary.Correct (library : DemLibrary) : Prop where
  aesGcm             : ∀ key aead, library.newAesGcm key = .ok aead → AeadCorrect aead aead
  xChacha20Poly1305  : ∀ key aead, library.newXChacha20Poly1305 key = .ok aead → AeadCorrect aead aead
  aesSiv             : ∀ key daead, library.newAesSiv key = .ok daead → DeterministicAeadCorrect daead daead
  aesCtrHmac         : ∀ key aead, library.aesCtrHmacPrimitive key = .ok aead → AeadCorrect aead aead

/-- `Enums::ProtoToSubtle`. -/
def EcPointFormatProto.protoToSubtle : EcPointFormatProto → Subtle.EcPointFormat
  | .uncompressed => .uncompressed
  | .compressed => .compressed
  | .doNotUseCrunchyUncompressed => .doNotUseCrunchyUncompressed
  | _ => .unknownFormat

/-! ## The library -/

/-- An X25519 key, private or public. -/
abbrev X25519Key := {bytes : Bytes // bytes.length = 32}

/-- What ECIES takes from OpenSSL: the groups, X25519 (`none` for a secret of zeros), and HKDF. -/
structure EciesLibrary where
  groups            : SslEcGroups
  x25519PublicValue : X25519Key → X25519Key
  x25519Derive      : (privateKey peerPublicKey : X25519Key) → Option Bytes
  x25519Derive_comm : ∀ a b, x25519Derive a (x25519PublicValue b) = x25519Derive b (x25519PublicValue a)
  hkdf              : HashType → (ikm salt info : Bytes) → (outLen : Nat) → Option Bytes
  fipsMode          : FipsMode
  dem               : DemLibrary

/-- What the generators of key pairs draw: a number on a NIST curve, bytes on the other. -/
structure EcDraw where
  number : Nat
  bytes  : X25519Key

section
variable (lib : EciesLibrary)

/-- `Hkdf::ComputeHkdf`. -/
def EciesLibrary.computeHkdf (hash : HashType) (ikm salt info : Bytes) (outLen : Nat) : Except Status Bytes :=
  if hash = .unknownHash then .error ⟨.unimplemented, "Unsupported hash UNKNOWN_HASH"⟩
  else sslResult "HKDF failed" (lib.hkdf hash ikm salt info outLen)

/-- `Hkdf::ComputeEciesHkdfSymmetricKey`. -/
def EciesLibrary.computeEciesHkdfSymmetricKey (hash : HashType) (kemBytes sharedSecret salt info : Bytes) (outLen : Nat) :
    Except Status Bytes :=
  lib.computeHkdf hash (kemBytes ++ sharedSecret) salt info outLen

/-! ## The KEM -/

/-- `EciesHkdfSenderKemBoringSsl`, of either class of curves. -/
inductive EciesHkdfSenderKem
  | nistPCurve (curve : EllipticCurveType) (peerPubKey : (lib.groups curve).Point)
  | x25519 (peerPublicKey : X25519Key)

/-- `EciesHkdfNistPCurveSendKemBoringSsl::New`. -/
def EciesHkdfSenderKem.newNistPCurve (curveType : Subtle.EllipticCurveType) (pubx puby : Bytes) :
    Except Status (EciesHkdfSenderKem lib) := do
  checksFipsCompatibility lib.fipsMode .notFips
  let curve ← ecGroupFromCurveType curveType
  let P ← (lib.groups curve).fromCoordinates pubx puby
  return .nistPCurve curve P

/-- `EciesHkdfX25519SendKemBoringSsl::New`, on CURVE25519. -/
def EciesHkdfSenderKem.newX25519 (pubx puby : Bytes) : Except Status (EciesHkdfSenderKem lib) := do
  checksFipsCompatibility lib.fipsMode .notFips
  if h : pubx.length = 32 then
    if puby ≠ [] then .error ⟨.invalidArgument, "puby is not empty"⟩ else .ok (.x25519 ⟨pubx, h⟩)
  else .error ⟨.invalidArgument, "pubx has unexpected length"⟩

/-- `EciesHkdfSenderKemBoringSsl::New`. -/
def EciesHkdfSenderKem.new (curveType : Subtle.EllipticCurveType) (pubx puby : Bytes) :
    Except Status (EciesHkdfSenderKem lib) :=
  match curveType with
  | .nistP256 | .nistP384 | .nistP521 => EciesHkdfSenderKem.newNistPCurve lib curveType pubx puby
  | .curve25519 => EciesHkdfSenderKem.newX25519 lib pubx puby
  | .unknownCurve => .error ⟨.unimplemented, "Unsupported elliptic curve"⟩

/-- `GenerateKey` of the sender: the bytes of the KEM and the symmetric key. -/
def EciesHkdfSenderKem.generateKey {lib : EciesLibrary} (kem : EciesHkdfSenderKem lib) (ephemeral : EcDraw) (hash : HashType)
    (hkdfSalt hkdfInfo : Bytes) (keySizeInBytes : Nat) (pointFormat : Subtle.EcPointFormat) :
    Except Status (Bytes × Bytes) :=
  match kem with
  | .nistPCurve curve peerPubKey => do
    let ephemeralPub := ephemeral.number • (lib.groups curve).generator
    let kemBytes ← ecPointEncode lib.groups curve pointFormat ephemeralPub
    let sharedSecret ← computeEcdhSharedSecret lib.groups curve (some ephemeral.number) peerPubKey
    let symmetricKey ← lib.computeEciesHkdfSymmetricKey hash kemBytes sharedSecret hkdfSalt hkdfInfo keySizeInBytes
    return (kemBytes, symmetricKey)
  | .x25519 peerPublicKey =>
    if pointFormat ≠ .compressed then
      .error ⟨.invalidArgument, "X25519 only supports compressed elliptic curve points"⟩
    else do
      let sharedSecret ← sslResult "Secret generation failed" (lib.x25519Derive ephemeral.bytes peerPublicKey)
      let publicKey := (lib.x25519PublicValue ephemeral.bytes).1
      let symmetricKey ← lib.computeEciesHkdfSymmetricKey hash publicKey sharedSecret hkdfSalt hkdfInfo keySizeInBytes
      return (publicKey, symmetricKey)

/-- `EciesHkdfRecipientKemBoringSsl`, of either class of curves. -/
inductive EciesHkdfRecipientKem
  | nistPCurve (curve : EllipticCurveType) (privKeyValue : Bytes)
  | x25519 (privateKey : X25519Key)

/-- `EciesHkdfNistPCurveRecipientKemBoringSsl::New`. -/
def EciesHkdfRecipientKem.newNistPCurve (curveType : Subtle.EllipticCurveType) (privKey : Bytes) :
    Except Status EciesHkdfRecipientKem := do
  checksFipsCompatibility lib.fipsMode .notFips
  if privKey = [] then .error ⟨.invalidArgument, "empty priv_key"⟩
  else do
    let curve ← ecGroupFromCurveType curveType
    return .nistPCurve curve privKey

/-- `EciesHkdfX25519RecipientKemBoringSsl::New`, on CURVE25519. -/
def EciesHkdfRecipientKem.newX25519 (privKey : Bytes) : Except Status EciesHkdfRecipientKem := do
  checksFipsCompatibility lib.fipsMode .notFips
  if h : privKey.length = 32 then .ok (.x25519 ⟨privKey, h⟩)
  else .error ⟨.invalidArgument, "pubx has unexpected length"⟩

/-- `EciesHkdfRecipientKemBoringSsl::New`. -/
def EciesHkdfRecipientKem.new (curveType : Subtle.EllipticCurveType) (privKey : Bytes) :
    Except Status EciesHkdfRecipientKem :=
  match curveType with
  | .nistP256 | .nistP384 | .nistP521 => EciesHkdfRecipientKem.newNistPCurve lib curveType privKey
  | .curve25519 => EciesHkdfRecipientKem.newX25519 lib privKey
  | .unknownCurve => .error ⟨.unimplemented, "Unsupported elliptic curve"⟩

/-- `GenerateKey` of the recipient. -/
def EciesHkdfRecipientKem.generateKey (kem : EciesHkdfRecipientKem) (kemBytes : Bytes) (hash : HashType)
    (hkdfSalt hkdfInfo : Bytes) (keySizeInBytes : Nat) (pointFormat : Subtle.EcPointFormat) : Except Status Bytes :=
  match kem with
  | .nistPCurve curve privKeyValue => do
    let pubKey ← (ecPointDecode lib.groups curve pointFormat kemBytes).mapError fun e =>
      ⟨.invalidArgument, "Invalid KEM bytes: " ++ e.message⟩
    -- nothing checks that `BN_bin2bn` found a number
    let sharedSecret ← computeEcdhSharedSecret lib.groups curve ((lib.groups curve).bin2bn privKeyValue) pubKey
    lib.computeEciesHkdfSymmetricKey hash kemBytes sharedSecret hkdfSalt hkdfInfo keySizeInBytes
  | .x25519 privateKey =>
    if pointFormat ≠ .compressed then
      .error ⟨.invalidArgument, "X25519 only supports compressed elliptic curve points"⟩
    else if h : kemBytes.length = 32 then do
      let sharedSecret ← sslResult "Secret generation failed" (lib.x25519Derive privateKey ⟨kemBytes, h⟩)
      lib.computeEciesHkdfSymmetricKey hash kemBytes sharedSecret hkdfSalt hkdfInfo keySizeInBytes
    else .error ⟨.invalidArgument, "kem_bytes has unexpected size"⟩

end

/-! ## Keys -/

namespace EciesAeadHkdf

structure DemParams where
  aeadDem : Option KeyTemplate

structure Params where
  kemParams     : Option EciesHkdfKemParamsProto
  demParams     : Option DemParams
  ecPointFormat : EcPointFormatProto

/-- `EciesAeadHkdfPublicKey`. -/
structure PublicKey where
  version : UInt32
  params  : Option Params
  x       : Bytes
  y       : Bytes

/-- `EciesAeadHkdfPrivateKey`. -/
structure PrivateKey where
  version   : UInt32
  publicKey : Option PublicKey
  keyValue  : Bytes

/-- `EciesAeadHkdfKeyFormat`. -/
structure KeyFormat where
  params : Option Params

def DemParams.getAeadDem (params : DemParams) : KeyTemplate := params.aeadDem.getD ⟨"", [], .unknownPrefix⟩

def Params.getKemParams (params : Params) : EciesHkdfKemParamsProto :=
  params.kemParams.getD ⟨.unknownCurve, .unknownHash, []⟩

def Params.getDemParams (params : Params) : DemParams := params.demParams.getD ⟨none⟩

/-- The curve, as `subtle` has it. -/
def Params.curve (params : Params) : Subtle.EllipticCurveType := params.getKemParams.curveType.protoToSubtle

def PublicKey.getParams (key : PublicKey) : Params := key.params.getD ⟨none, none, .unknownFormat⟩

def PrivateKey.getPublicKey (key : PrivateKey) : PublicKey := key.publicKey.getD ⟨0, none, [], []⟩

def KeyFormat.getParams (keyFormat : KeyFormat) : Params := keyFormat.params.getD ⟨none, none, .unknownFormat⟩

/-- The checks of the coordinates that both `Validate` make. -/
def validateCoordinates (key : PublicKey) : Except Status Unit :=
  if key.getParams.kemParams.isSome ∧ key.getParams.getKemParams.curveType = .curve25519 then
    if key.y ≠ [] then .error ⟨.invalidArgument, "Invalid EciesAeadHkdfPublicKey: has unexpected field."⟩ else .ok ()
  else if key.y = [] then
    .error ⟨.invalidArgument, "Invalid EciesAeadHkdfPublicKey: missing required fields."⟩
  else .ok ()

/-- `Validate` of `ecies_aead_hkdf_hybrid_encrypt.cc`. -/
def PublicKey.validate (key : PublicKey) : Except Status Unit :=
  if key.x = [] ∨ key.params = none then
    .error ⟨.invalidArgument, "Invalid EciesAeadHkdfPublicKey: missing required fields."⟩
  else validateCoordinates key

/-- `Validate` of `ecies_aead_hkdf_hybrid_decrypt.cc`. -/
def PrivateKey.validate (key : PrivateKey) : Except Status Unit :=
  if key.publicKey = none ∨ key.getPublicKey.params = none ∨ key.getPublicKey.x = [] ∨ key.keyValue = [] then
    .error ⟨.invalidArgument, "Invalid EciesAeadHkdfPublicKey: missing required fields."⟩
  else validateCoordinates key.getPublicKey

end EciesAeadHkdf

open EciesAeadHkdf (PublicKey PrivateKey Params)
open EciesAeadHkdfDemHelper (DemKeyParams getKeyParams getAeadOrDaead)

/-! ## Encryption -/

section
variable (lib : EciesLibrary)

/-- What is left to do with a symmetric key; `none` where the DEM helper cuts out of range. -/
def withAeadOrDaead (demHelper : DemKeyParams) (symmetricKey : Bytes) (use : AeadOrDaead → Except Status Bytes) :
    Option (Except Status Bytes) :=
  (getAeadOrDaead lib.dem demHelper symmetricKey).map fun aeadOrDaead => aeadOrDaead.bind use

structure EciesAeadHkdfHybridEncrypt where
  recipientKey : PublicKey
  senderKem    : EciesHkdfSenderKem lib
  demHelper    : DemKeyParams

def EciesAeadHkdfHybridEncrypt.new (recipientKey : PublicKey) : Except Status (EciesAeadHkdfHybridEncrypt lib) := do
  recipientKey.validate
  let senderKem ← EciesHkdfSenderKem.new lib recipientKey.getParams.curve recipientKey.x recipientKey.y
  let demHelper ← getKeyParams lib.dem recipientKey.getParams.getDemParams.getAeadDem
  return ⟨recipientKey, senderKem, demHelper⟩

variable {lib} in
/-- `EciesAeadHkdfHybridEncrypt::Encrypt`. -/
def EciesAeadHkdfHybridEncrypt.encrypt (primitive : EciesAeadHkdfHybridEncrypt lib) (ephemeral : EcDraw)
    (random plaintext contextInfo : Bytes) : Option (Except Status Bytes) :=
  let params := primitive.recipientKey.getParams
  match primitive.senderKem.generateKey ephemeral params.getKemParams.hkdfHashType.protoToSubtle
      params.getKemParams.hkdfSalt contextInfo primitive.demHelper.keySizeInBytes.toNat
      params.ecPointFormat.protoToSubtle with
  | .error e => some (.error e)
  | .ok (kemBytes, symmetricKey) =>
    withAeadOrDaead lib primitive.demHelper symmetricKey fun aeadOrDaead =>
      (aeadOrDaead.encrypt random plaintext []).map (kemBytes ++ ·)

structure EciesAeadHkdfHybridDecrypt where
  recipientKeyParams : Params
  recipientKem       : EciesHkdfRecipientKem
  demHelper          : DemKeyParams

def EciesAeadHkdfHybridDecrypt.new (recipientKey : PrivateKey) : Except Status EciesAeadHkdfHybridDecrypt := do
  recipientKey.validate
  let params := recipientKey.getPublicKey.getParams
  let recipientKem ← EciesHkdfRecipientKem.new lib params.curve recipientKey.keyValue
  let demHelper ← getKeyParams lib.dem params.getDemParams.getAeadDem
  return ⟨params, recipientKem, demHelper⟩

/-- `EciesAeadHkdfHybridDecrypt::Decrypt`. -/
def EciesAeadHkdfHybridDecrypt.decrypt (primitive : EciesAeadHkdfHybridDecrypt) (ciphertext contextInfo : Bytes) :
    Option (Except Status Bytes) :=
  let params := primitive.recipientKeyParams
  match ecPointEncodingSizeInBytes params.curve params.ecPointFormat.protoToSubtle with
  | .error e => some (.error e)
  | .ok headerSize =>
    if ciphertext.length < headerSize then some (.error ⟨.invalidArgument, "ciphertext too short"⟩)
    else
      match primitive.recipientKem.generateKey lib (ciphertext.take headerSize)
          params.getKemParams.hkdfHashType.protoToSubtle params.getKemParams.hkdfSalt contextInfo
          primitive.demHelper.keySizeInBytes.toNat params.ecPointFormat.protoToSubtle with
      | .error e => some (.error e)
      | .ok symmetricKey =>
        withAeadOrDaead lib primitive.demHelper symmetricKey fun aeadOrDaead =>
          aeadOrDaead.decrypt (ciphertext.drop headerSize) []

/-! ## Key managers -/

namespace EciesAeadHkdfPublicKeyManager

def validateParams (params : Params) : Except Status Unit :=
  if params.kemParams = none then .error ⟨.invalidArgument, "Missing kem_params."⟩
  else if params.getKemParams.curveType = .unknownCurve ∨ params.getKemParams.hkdfHashType = .unknownHash then
    .error ⟨.invalidArgument, "Invalid kem_params."⟩
  else if params.demParams.isNone then .error ⟨.invalidArgument, "Missing dem_params."⟩
  else if params.getDemParams.aeadDem.isNone then .error ⟨.invalidArgument, "Invalid dem_params."⟩
  else do
    let _ ← getKeyParams lib.dem params.getDemParams.getAeadDem
    if params.ecPointFormat = .unknownFormat then .error ⟨.invalidArgument, "Unknown EC point format."⟩ else .ok ()

def validateKey (key : PublicKey) : Except Status Unit := do
  validateVersion key.version 0
  match key.params with
  | none => .error ⟨.invalidArgument, "Missing params."⟩
  | some params => validateParams lib params

end EciesAeadHkdfPublicKeyManager

namespace EciesAeadHkdfPrivateKeyManager

/-- `ValidatePrivateKeyLength`. -/
def validatePrivateKeyLength (key : PrivateKey) : Except Status Unit :=
  let expectedLength : Except Status Nat :=
    match key.getPublicKey.getParams.getKemParams.curveType with
    | .nistP256 => .ok 32
    | .nistP384 => .ok 48
    | .nistP521 => .ok 66
    | .curve25519 => .ok 32
    | _ => .error ⟨.invalidArgument, "Unsupported elliptic curve"⟩
  expectedLength.bind fun length => (answered (parseBigIntToFixedLength key.keyValue length)).map fun _ => ()

def validateKeyFormat (keyFormat : EciesAeadHkdf.KeyFormat) : Except Status Unit :=
  match keyFormat.params with
  | none => .error ⟨.invalidArgument, "Missing params."⟩
  | some params => EciesAeadHkdfPublicKeyManager.validateParams lib params

/-- `internal::NewEcKey`, on any curve. -/
def newEcKey (curveType : Subtle.EllipticCurveType) (draw : EcDraw) : Except Status EcKey :=
  if curveType = .curve25519 then .ok ⟨(lib.x25519PublicValue draw.bytes).1, [], draw.bytes.1⟩
  else do
    let curve ← ecGroupFromCurveType curveType
    newSslEcKey lib.groups curve draw.number

def createKey (draw : EcDraw) (keyFormat : EciesAeadHkdf.KeyFormat) : Except Status PrivateKey := do
  let ecKey ← newEcKey lib keyFormat.getParams.curve draw
  return ⟨0, some ⟨0, some keyFormat.getParams, ecKey.pubX, ecKey.pubY⟩, ecKey.priv⟩

def getPublicKey (key : PrivateKey) : Except Status PublicKey := .ok key.getPublicKey

def validateKey (key : PrivateKey) : Except Status Unit := do
  validateVersion key.version 0
  match key.publicKey with
  | none => .error ⟨.invalidArgument, "Missing public_key."⟩
  | some publicKey =>
    EciesAeadHkdfPublicKeyManager.validateKey lib publicKey
    validatePrivateKeyLength key

end EciesAeadHkdfPrivateKeyManager

end

/-! ## A KEM and a DEM -/

/-- What a call returned, if it came to that and was OK. -/
def returned {α : Type} (result : Option (Except Status α)) : Option α := result.bind Except.toOption

theorem returned_eq_some {α : Type} {result : Option (Except Status α)} {value : α} :
    returned result = some value ↔ result = some (.ok value) := by
  rcases result with _ | _ | value'
  · exact ⟨(nomatch ·), (nomatch ·)⟩
  · exact ⟨(nomatch ·), (nomatch ·)⟩
  · exact ⟨fun h => congrArg (some ∘ Except.ok) (Option.some.inj h), fun h => by cases h; rfl⟩

theorem toOption_eq_some {α : Type} {result : Except Status α} {value : α} :
    result.toOption = some value ↔ result = .ok value := by
  cases result with
  | error e => exact ⟨(nomatch ·), (nomatch ·)⟩
  | ok value' => exact ⟨fun h => congrArg Except.ok (Option.some.inj h), fun h => by cases h; rfl⟩

section
variable (lib : EciesLibrary)

/-- The sender for the public key of a recipient. -/
def EciesHkdfRecipientKem.sender : EciesHkdfRecipientKem → EciesHkdfSenderKem lib
  | .nistPCurve curve privKeyValue => .nistPCurve curve (value privKeyValue • (lib.groups curve).generator)
  | .x25519 privateKey => .x25519 (lib.x25519PublicValue privateKey)

def EciesHkdfRecipientKem.curve : EciesHkdfRecipientKem → Subtle.EllipticCurveType
  | .nistPCurve curve _ => curve.toSubtle
  | .x25519 _ => .curve25519

/-- The private number of a recipient is read as it is. -/
def EciesHkdfRecipientKem.Read : EciesHkdfRecipientKem → Prop
  | .nistPCurve curve privKeyValue => (lib.groups curve).bin2bn privKeyValue = some (value privKeyValue)
  | .x25519 _ => True

/-- What ECIES takes besides the keys and the context. -/
structure EciesSettings where
  hash           : HashType
  salt           : Bytes
  keySizeInBytes : Nat
  pointFormat    : Subtle.EcPointFormat

def EciesSettings.of (params : Params) (demHelper : DemKeyParams) : EciesSettings where
  hash := params.getKemParams.hkdfHashType.protoToSubtle
  salt := params.getKemParams.hkdfSalt
  keySizeInBytes := demHelper.keySizeInBytes.toNat
  pointFormat := params.ecPointFormat.protoToSubtle

/-- The KEM of a recipient. -/
def eciesKem (recipient : EciesHkdfRecipientKem) (settings : EciesSettings) (contextInfo : Bytes) :
    KemDem.Kem UInt8 EcDraw Bytes where
  size := (ecPointEncodingSizeInBytes recipient.curve settings.pointFormat).toOption.getD 0
  encapsulate ephemeral := ((recipient.sender lib).generateKey ephemeral settings.hash settings.salt contextInfo
    settings.keySizeInBytes settings.pointFormat).toOption
  decapsulate header := (recipient.generateKey lib header settings.hash settings.salt contextInfo
    settings.keySizeInBytes settings.pointFormat).toOption

/-- The DEM of a template. -/
def eciesDem (demHelper : DemKeyParams) : KemDem.Dem UInt8 Bytes Bytes where
  sealed key random message :=
    returned (withAeadOrDaead lib demHelper key fun aeadOrDaead => aeadOrDaead.encrypt random message [])
  opened key body := returned (withAeadOrDaead lib demHelper key fun aeadOrDaead => aeadOrDaead.decrypt body [])

end

section
variable {lib : EciesLibrary}

/-- **The recipient finds the sender's key**, and the header has the size of the format. -/
theorem generateKey_recipient {recipient : EciesHkdfRecipientKem} (hread : recipient.Read lib) {ephemeral : EcDraw}
    {hash : HashType} {salt info kemBytes symmetricKey : Bytes} {keySizeInBytes : Nat} {format : Subtle.EcPointFormat}
    (h : (recipient.sender lib).generateKey ephemeral hash salt info keySizeInBytes format = .ok (kemBytes, symmetricKey)) :
    ecPointEncodingSizeInBytes recipient.curve format = .ok kemBytes.length ∧
      recipient.generateKey lib kemBytes hash salt info keySizeInBytes format = .ok symmetricKey := by
  cases recipient with
  | nistPCurve curve privKeyValue =>
    obtain ⟨kemBytes', hencode, h⟩ := bind_eq_ok h
    obtain ⟨sharedSecret, hsecret, h⟩ := bind_eq_ok h
    obtain ⟨key, hkey, h⟩ := bind_eq_ok h
    cases h
    rw [computeEcdhSharedSecret_comm] at hsecret
    have hpoint : ephemeral.number • (lib.groups curve).generator ≠ 0 := by
      intro hzero
      rw [hzero] at hsecret
      exact computeEcdhSharedSecret_zero hsecret (nsmul_zero _)
    obtain ⟨hsize, hdecode⟩ := ecPointDecode_encode hpoint hencode
    refine ⟨hsize, ?_⟩
    unfold EciesHkdfRecipientKem.generateKey
    dsimp only
    rw [hdecode, hread]
    dsimp only [Except.mapError, bind, Except.bind]
    rw [hsecret]
    exact hkey
  | x25519 privateKey =>
    unfold EciesHkdfSenderKem.generateKey EciesHkdfRecipientKem.sender at h
    dsimp only at h
    split at h
    · cases h
    rename_i hformat
    obtain ⟨sharedSecret, hsecret, h⟩ := bind_eq_ok h
    obtain ⟨key, hkey, h⟩ := bind_eq_ok h
    cases h
    have hlen := (lib.x25519PublicValue ephemeral.bytes).2
    refine ⟨congrArg Except.ok hlen.symm, ?_⟩
    rw [lib.x25519Derive_comm] at hsecret
    unfold EciesHkdfRecipientKem.generateKey
    dsimp only
    rw [if_neg hformat, dif_pos hlen, hsecret]
    exact hkey

theorem eciesKem_correct {recipient : EciesHkdfRecipientKem} (hread : recipient.Read lib) (settings : EciesSettings)
    (contextInfo : Bytes) : (eciesKem lib recipient settings contextInfo).Correct := by
  intro ephemeral header key h
  obtain ⟨hsize, hkey⟩ := generateKey_recipient hread (toOption_eq_some.1 h)
  refine ⟨?_, toOption_eq_some.2 hkey⟩
  unfold eciesKem
  dsimp only
  rw [hsize]
  rfl

/-- The primitives that a DEM helper makes decrypt what they encrypt. -/
theorem getAeadOrDaead_correct (hdem : lib.dem.Correct) {demHelper : DemKeyParams} {key : Bytes} {aeadOrDaead : AeadOrDaead}
    (h : getAeadOrDaead lib.dem demHelper key = some (.ok aeadOrDaead)) {random message body : Bytes}
    (hencrypt : aeadOrDaead.encrypt random message [] = .ok body) : aeadOrDaead.decrypt body [] = .ok message := by
  have haead : ∀ {made : Except Status Aead}, wrapAead made = .ok aeadOrDaead →
      (∀ aead, made = .ok aead → AeadCorrect aead aead) → aeadOrDaead.decrypt body [] = .ok message := by
    intro made hwrap hcorrect
    cases made with
    | error e => cases hwrap
    | ok aead =>
      cases hwrap
      exact (hcorrect aead rfl random message [] body hencrypt).2
  unfold getAeadOrDaead at h
  split at h
  · cases h
  split at h
  · exact haead (Option.some.inj h) fun aead => hdem.aesGcm _ aead
  · obtain ⟨aesCtrKeyValue, -, h⟩ := Option.bind_eq_some_iff.1 h
    obtain ⟨hmacKeyValue, -, h⟩ := Option.bind_eq_some_iff.1 h
    exact haead (Option.some.inj h) fun aead => hdem.aesCtrHmac _ aead
  · exact haead (Option.some.inj h) fun aead => hdem.xChacha20Poly1305 _ aead
  · have h := Option.some.inj h
    cases hmade : lib.dem.newAesSiv key with
    | error e =>
      rw [hmade] at h
      cases h
    | ok daead =>
      rw [hmade] at h
      cases h
      exact (hdem.aesSiv _ daead hmade message [] body hencrypt).2

theorem withAeadOrDaead_eq_ok {demHelper : DemKeyParams} {key : Bytes} {use : AeadOrDaead → Except Status Bytes}
    {result : Bytes} :
    withAeadOrDaead lib demHelper key use = some (.ok result) ↔
      ∃ aeadOrDaead, getAeadOrDaead lib.dem demHelper key = some (.ok aeadOrDaead) ∧ use aeadOrDaead = .ok result := by
  unfold withAeadOrDaead
  rcases getAeadOrDaead lib.dem demHelper key with _ | e | aeadOrDaead
  · exact ⟨(nomatch ·), fun ⟨_, h, _⟩ => nomatch h⟩
  · exact ⟨(nomatch ·), fun ⟨_, h, _⟩ => nomatch h⟩
  · exact ⟨fun h => ⟨aeadOrDaead, rfl, Option.some.inj h⟩, fun ⟨_, h, huse⟩ => by cases h; exact congrArg some huse⟩

theorem eciesDem_correct (hdem : lib.dem.Correct) (demHelper : DemKeyParams) : (eciesDem lib demHelper).Correct := by
  intro key random message body h
  obtain ⟨aeadOrDaead, hmade, hencrypt⟩ := withAeadOrDaead_eq_ok.1 (returned_eq_some.1 h)
  exact returned_eq_some.2 (withAeadOrDaead_eq_ok.2 ⟨aeadOrDaead, hmade, getAeadOrDaead_correct hdem hmade hencrypt⟩)

/-- The two primitives of a pair of keys. -/
structure EciesAeadHkdfHybridEncrypt.Fits (enc : EciesAeadHkdfHybridEncrypt lib) (dec : EciesAeadHkdfHybridDecrypt) :
    Prop where
  params    : enc.recipientKey.getParams = dec.recipientKeyParams
  demHelper : enc.demHelper = dec.demHelper
  senderKem : enc.senderKem = dec.recipientKem.sender lib
  curve     : dec.recipientKem.curve = dec.recipientKeyParams.curve
  read      : dec.recipientKem.Read lib

/-- A recipient with a key has a size of headers. -/
theorem generateKey_sizeOk {recipient : EciesHkdfRecipientKem} {kemBytes salt info symmetricKey : Bytes} {hash : HashType}
    {keySizeInBytes : Nat} {format : Subtle.EcPointFormat}
    (h : recipient.generateKey lib kemBytes hash salt info keySizeInBytes format = .ok symmetricKey) :
    ∃ size, ecPointEncodingSizeInBytes recipient.curve format = .ok size := by
  cases recipient with
  | nistPCurve curve privKeyValue =>
    obtain ⟨pubKey, hdecode, -⟩ := bind_eq_ok h
    cases hpoint : ecPointDecode lib.groups curve format kemBytes with
    | error e =>
      rw [hpoint] at hdecode
      cases hdecode
    | ok P => exact ⟨_, (ecPointDecode_size hpoint).2⟩
  | x25519 privateKey => exact ⟨32, rfl⟩

/-- Encryption is that of the KEM and the DEM. -/
theorem EciesAeadHkdfHybridEncrypt.Fits.encrypt {enc : EciesAeadHkdfHybridEncrypt lib} {dec : EciesAeadHkdfHybridDecrypt}
    (h : enc.Fits dec) (ephemeral : EcDraw) (random plaintext contextInfo : Bytes) :
    returned (enc.encrypt ephemeral random plaintext contextInfo) =
      KemDem.encrypt (eciesKem lib dec.recipientKem (.of dec.recipientKeyParams dec.demHelper) contextInfo)
        (eciesDem lib dec.demHelper) ephemeral random plaintext := by
  unfold EciesAeadHkdfHybridEncrypt.encrypt KemDem.encrypt eciesKem eciesDem EciesSettings.of
  dsimp only
  rw [h.params, h.demHelper, h.senderKem]
  cases (dec.recipientKem.sender lib).generateKey ephemeral _ _ contextInfo _ _ with
  | error e => rfl
  | ok generated =>
    obtain ⟨kemBytes, symmetricKey⟩ := generated
    dsimp only [Except.toOption, Option.bind_some, withAeadOrDaead]
    rcases getAeadOrDaead lib.dem dec.demHelper symmetricKey with _ | e | aeadOrDaead
    · rfl
    · rfl
    · dsimp only [Option.map_some, Except.bind]
      cases aeadOrDaead.encrypt random plaintext [] with
      | error e => rfl
      | ok body => rfl

variable (lib) in
/-- So is decryption. -/
theorem EciesAeadHkdfHybridDecrypt.returned_decrypt {dec : EciesAeadHkdfHybridDecrypt}
    (hcurve : dec.recipientKem.curve = dec.recipientKeyParams.curve) (ciphertext contextInfo : Bytes) :
    returned (dec.decrypt lib ciphertext contextInfo) =
      KemDem.decrypt (eciesKem lib dec.recipientKem (.of dec.recipientKeyParams dec.demHelper) contextInfo)
        (eciesDem lib dec.demHelper) ciphertext := by
  have hsizes : ∀ size, ecPointEncodingSizeInBytes dec.recipientKeyParams.curve
      dec.recipientKeyParams.ecPointFormat.protoToSubtle = .ok size →
      (eciesKem lib dec.recipientKem (.of dec.recipientKeyParams dec.demHelper) contextInfo).size = size := by
    intro size hsize
    rw [← hcurve] at hsize
    exact congrArg (fun found : Except Status Nat => found.toOption.getD 0) hsize
  refine Option.ext fun plaintext => ?_
  rw [returned_eq_some, KemDem.decrypt_eq_some]
  unfold EciesAeadHkdfHybridDecrypt.decrypt
  dsimp only
  constructor
  · intro h
    split at h
    · cases h
    rename_i headerSize hsize
    split at h
    · cases h
    rename_i hlong
    split at h
    · cases h
    rename_i symmetricKey hkey
    refine ⟨ciphertext.take headerSize, symmetricKey, ciphertext.drop headerSize, ?_, toOption_eq_some.2 hkey,
      returned_eq_some.2 h, List.take_append_drop _ _⟩
    rw [hsizes _ hsize, List.length_take]
    omega
  · rintro ⟨header, symmetricKey, body, hlen, hkey, hopened, rfl⟩
    have hkey := toOption_eq_some.1 hkey
    obtain ⟨headerSize, hsize⟩ := generateKey_sizeOk hkey
    rw [hcurve] at hsize
    rw [hsizes _ hsize] at hlen
    have hsize' : ecPointEncodingSizeInBytes dec.recipientKeyParams.curve
        dec.recipientKeyParams.ecPointFormat.protoToSubtle = .ok headerSize := hsize
    have hkey' : dec.recipientKem.generateKey lib header dec.recipientKeyParams.getKemParams.hkdfHashType.protoToSubtle
        dec.recipientKeyParams.getKemParams.hkdfSalt contextInfo dec.demHelper.keySizeInBytes.toNat
        dec.recipientKeyParams.ecPointFormat.protoToSubtle = .ok symmetricKey := hkey
    rw [hsize']
    dsimp only
    rw [if_neg (by rw [List.length_append]; omega), List.take_left' hlen, List.drop_left' hlen, hkey']
    exact returned_eq_some.1 hopened

/-! ## Keys that are made -/

theorem EllipticCurveTypeProto.protoToSubtle_eq_curve25519 {curveType : EllipticCurveTypeProto} :
    curveType.protoToSubtle = .curve25519 ↔ curveType = .curve25519 := by
  cases curveType <;> simp [EllipticCurveTypeProto.protoToSubtle]

/-- What `ValidateParams` has checked. -/
theorem validateParams_ok {params : Params} (h : EciesAeadHkdfPublicKeyManager.validateParams lib params = .ok ()) :
    params.kemParams.isSome ∧ ∃ demHelper, getKeyParams lib.dem params.getDemParams.getAeadDem = .ok demHelper := by
  unfold EciesAeadHkdfPublicKeyManager.validateParams at h
  split at h
  · cases h
  rename_i hkem
  split at h
  · cases h
  split at h
  · cases h
  split at h
  · cases h
  obtain ⟨demHelper, hdem, -⟩ := bind_eq_ok h
  exact ⟨Option.isSome_iff_ne_none.2 hkem, demHelper, hdem⟩

/-- A new pair of keys, by the kind of its curve. -/
theorem newEcKey_ok {curveType : Subtle.EllipticCurveType} {draw : EcDraw} {ecKey : EcKey}
    (h : EciesAeadHkdfPrivateKeyManager.newEcKey lib curveType draw = .ok ecKey) :
    (curveType = .curve25519 ∧ ecKey = ⟨(lib.x25519PublicValue draw.bytes).1, [], draw.bytes.1⟩) ∨
    ∃ curve : EllipticCurveType, curveType = curve.toSubtle ∧ newSslEcKey lib.groups curve draw.number = .ok ecKey := by
  unfold EciesAeadHkdfPrivateKeyManager.newEcKey at h
  split at h
  · rename_i hcurve
    cases h
    exact .inl ⟨hcurve, rfl⟩
  · obtain ⟨curve, hgroup, hkey⟩ := bind_eq_ok h
    exact .inr ⟨curve, ecGroupFromCurveType_ok hgroup, hkey⟩

theorem checksFipsCompatibility_notFips {mode : FipsMode} (h : mode.isFipsModeEnabled = false) :
    checksFipsCompatibility mode .notFips = .ok () := by
  unfold checksFipsCompatibility
  simp [h]

/-- The KEMs of a new pair of keys, outside of FIPS mode. -/
theorem newEcKey_kems (hfips : lib.fipsMode.isFipsModeEnabled = false) {curveType : Subtle.EllipticCurveType} {draw : EcDraw}
    {ecKey : EcKey} (h : EciesAeadHkdfPrivateKeyManager.newEcKey lib curveType draw = .ok ecKey) :
    ∃ recipient, EciesHkdfRecipientKem.new lib curveType ecKey.priv = .ok recipient ∧
      EciesHkdfSenderKem.new lib curveType ecKey.pubX ecKey.pubY = .ok (recipient.sender lib) ∧
      recipient.curve = curveType ∧ recipient.Read lib := by
  have hallowed := checksFipsCompatibility_notFips hfips
  rcases newEcKey_ok h with ⟨rfl, rfl⟩ | ⟨curve, rfl, hkey⟩
  · refine ⟨.x25519 draw.bytes, ?_, ?_, rfl, trivial⟩
    · unfold EciesHkdfRecipientKem.new EciesHkdfRecipientKem.newX25519
      rw [hallowed, dif_pos draw.bytes.2]
      rfl
    · unfold EciesHkdfSenderKem.new EciesHkdfSenderKem.newX25519
      rw [hallowed, dif_pos (lib.x25519PublicValue draw.bytes).2]
      rfl
  · obtain ⟨hpoint, hvalue, -, -, hlen⟩ := newSslEcKey_ok hkey
    rw [← hvalue] at hpoint
    have hne : ecKey.priv ≠ [] := by
      rintro heq
      rw [heq] at hlen
      exact ecFieldSizeInBytes_ne_zero curve hlen.symm
    have hrecipient : EciesHkdfRecipientKem.newNistPCurve lib curve.toSubtle ecKey.priv =
        .ok (.nistPCurve curve ecKey.priv) := by
      unfold EciesHkdfRecipientKem.newNistPCurve
      rw [hallowed, if_neg hne, ecGroupFromCurveType_toSubtle]
      rfl
    have hsender : EciesHkdfSenderKem.newNistPCurve lib curve.toSubtle ecKey.pubX ecKey.pubY =
        .ok (.nistPCurve curve (value ecKey.priv • (lib.groups curve).generator)) := by
      unfold EciesHkdfSenderKem.newNistPCurve
      rw [hallowed, ecGroupFromCurveType_toSubtle]
      dsimp only [bind, Except.bind]
      rw [hpoint]
      rfl
    have hread : (lib.groups curve).bin2bn ecKey.priv = some (value ecKey.priv) :=
      (lib.groups curve).bin2bn_of_length (hlen.trans_le (ecFieldSizeInBytes_le curve))
    refine ⟨.nistPCurve curve ecKey.priv, ?_, ?_, rfl, hread⟩
    · cases curve <;> exact hrecipient
    · cases curve <;> exact hsender

/-- In FIPS mode there are no KEMs. -/
theorem kem_new_fips (hfips : lib.fipsMode.isFipsModeEnabled = true) {curveType : Subtle.EllipticCurveType} {draw : EcDraw}
    {ecKey : EcKey} (h : EciesAeadHkdfPrivateKeyManager.newEcKey lib curveType draw = .ok ecKey) (pubx puby privKey : Bytes) :
    EciesHkdfRecipientKem.new lib curveType privKey =
        .error ⟨.internal, "Primitive not available in FIPS only mode."⟩ ∧
      EciesHkdfSenderKem.new lib curveType pubx puby =
        .error ⟨.internal, "Primitive not available in FIPS only mode."⟩ := by
  have hrefused : checksFipsCompatibility lib.fipsMode .notFips =
      .error ⟨.internal, "Primitive not available in FIPS only mode."⟩ := by
    unfold checksFipsCompatibility
    simp [hfips]
  have hrecipient : ∀ curveType, EciesHkdfRecipientKem.newNistPCurve lib curveType privKey =
      .error ⟨.internal, "Primitive not available in FIPS only mode."⟩ := by
    intro curveType
    unfold EciesHkdfRecipientKem.newNistPCurve
    rw [hrefused]
    rfl
  have hsender : ∀ curveType, EciesHkdfSenderKem.newNistPCurve lib curveType pubx puby =
      .error ⟨.internal, "Primitive not available in FIPS only mode."⟩ := by
    intro curveType
    unfold EciesHkdfSenderKem.newNistPCurve
    rw [hrefused]
    rfl
  rcases newEcKey_ok h with ⟨rfl, rfl⟩ | ⟨curve, rfl, -⟩
  · unfold EciesHkdfRecipientKem.new EciesHkdfRecipientKem.newX25519 EciesHkdfSenderKem.new EciesHkdfSenderKem.newX25519
    rw [hrefused]
    exact ⟨rfl, rfl⟩
  · cases curve <;> exact ⟨hrecipient _, hsender _⟩

theorem X25519Key.ne_nil (key : X25519Key) : key.1 ≠ [] := by
  intro h
  have hlen := key.2
  rw [h] at hlen
  cases hlen

/-- The fields of a new pair of keys are there, and a y exactly where the curve has one. -/
theorem newEcKey_fields {curveType : EllipticCurveTypeProto} {draw : EcDraw} {ecKey : EcKey}
    (h : EciesAeadHkdfPrivateKeyManager.newEcKey lib curveType.protoToSubtle draw = .ok ecKey) :
    ecKey.pubX ≠ [] ∧ ecKey.priv ≠ [] ∧ (ecKey.pubY = [] ↔ curveType = .curve25519) := by
  rcases newEcKey_ok h with ⟨hcurve, rfl⟩ | ⟨curve, hcurve, hkey⟩
  · refine ⟨?_, ?_, fun _ => EllipticCurveTypeProto.protoToSubtle_eq_curve25519.1 hcurve, fun _ => rfl⟩
    · exact X25519Key.ne_nil _
    · exact X25519Key.ne_nil _
  · obtain ⟨-, -, hlenX, hlenY, hlen⟩ := newSslEcKey_ok hkey
    have hpos := Nat.pos_of_ne_zero (ecFieldSizeInBytes_ne_zero curve)
    have hne : ecKey.pubY ≠ [] := List.ne_nil_of_length_pos (hlenY ▸ hpos)
    refine ⟨List.ne_nil_of_length_pos (hlenX ▸ hpos), List.ne_nil_of_length_pos (hlen ▸ hpos), fun h => absurd h hne, ?_⟩
    rintro rfl
    cases curve <;> cases hcurve

theorem validateCoordinates_of {key : PublicKey} (hkem : key.getParams.kemParams.isSome)
    (hy : key.y = [] ↔ key.getParams.getKemParams.curveType = .curve25519) :
    EciesAeadHkdf.validateCoordinates key = .ok () := by
  unfold EciesAeadHkdf.validateCoordinates
  by_cases hcurve : key.getParams.getKemParams.curveType = .curve25519
  · rw [if_pos ⟨hkem, hcurve⟩, if_neg (not_not_intro (hy.2 hcurve))]
  · rw [if_neg fun hboth => hcurve hboth.2, if_neg fun hempty => hcurve (hy.1 hempty)]

/-- A private key has the length that is asked for. -/
theorem newEcKey_length {curveType : EllipticCurveTypeProto} {draw : EcDraw} {ecKey : EcKey}
    (h : EciesAeadHkdfPrivateKeyManager.newEcKey lib curveType.protoToSubtle draw = .ok ecKey) {key : PrivateKey}
    (hcurve : key.getPublicKey.getParams.getKemParams.curveType = curveType) (hvalue : key.keyValue = ecKey.priv) :
    EciesAeadHkdfPrivateKeyManager.validatePrivateKeyLength key = .ok () := by
  have hself : ∀ {length}, ecKey.priv.length = length →
      (answered (parseBigIntToFixedLength ecKey.priv (length : Nat))).map (fun _ => ()) = .ok () := by
    rintro _ rfl
    rw [parseBigIntToFixedLength_self]
    rfl
  unfold EciesAeadHkdfPrivateKeyManager.validatePrivateKeyLength
  rw [hcurve, hvalue]
  rcases newEcKey_ok h with ⟨hnamed, rfl⟩ | ⟨curve, hnamed, hkey⟩
  · rw [EllipticCurveTypeProto.protoToSubtle_eq_curve25519.1 hnamed]
    exact hself draw.bytes.2
  · obtain ⟨-, -, -, -, hlen⟩ := newSslEcKey_ok hkey
    cases curveType <;> cases curve <;> cases hnamed <;> exact hself hlen

/-- The same format with another format of points. -/
def EciesAeadHkdf.KeyFormat.withPointFormat (keyFormat : EciesAeadHkdf.KeyFormat) (format : EcPointFormatProto) :
    EciesAeadHkdf.KeyFormat :=
  ⟨some { keyFormat.getParams with ecPointFormat := format }⟩

/-- The format of points is valid if it is known, on every curve. -/
theorem validateParams_pointFormat {params : Params} (h : EciesAeadHkdfPublicKeyManager.validateParams lib params = .ok ())
    {format : EcPointFormatProto} (hformat : format ≠ .unknownFormat) :
    EciesAeadHkdfPublicKeyManager.validateParams lib { params with ecPointFormat := format } = .ok () := by
  unfold EciesAeadHkdfPublicKeyManager.validateParams at h
  split at h
  · cases h
  rename_i hkem
  split at h
  · cases h
  rename_i hcurve
  split at h
  · cases h
  rename_i hparams
  split at h
  · cases h
  rename_i hdem
  obtain ⟨demHelper, hhelper, -⟩ := bind_eq_ok h
  refine (if_neg hkem).trans ((if_neg hcurve).trans ((if_neg hparams).trans ((if_neg hdem).trans ?_)))
  have hhelper : getKeyParams lib.dem { params with ecPointFormat := format }.getDemParams.getAeadDem = .ok demHelper :=
    hhelper
  rw [hhelper]
  exact if_neg hformat

/-- What `CreateKey` has made. -/
theorem createKey_ok {draw : EcDraw} {keyFormat : EciesAeadHkdf.KeyFormat} {key : PrivateKey}
    (h : EciesAeadHkdfPrivateKeyManager.createKey lib draw keyFormat = .ok key) :
    ∃ ecKey, EciesAeadHkdfPrivateKeyManager.newEcKey lib keyFormat.getParams.curve draw = .ok ecKey ∧
      key = ⟨0, some ⟨0, some keyFormat.getParams, ecKey.pubX, ecKey.pubY⟩, ecKey.priv⟩ := by
  obtain ⟨ecKey, hkey, h⟩ := bind_eq_ok h
  exact ⟨ecKey, hkey, (Except.ok.inj h).symm⟩

theorem validateKeyFormat_ok {keyFormat : EciesAeadHkdf.KeyFormat}
    (h : EciesAeadHkdfPrivateKeyManager.validateKeyFormat lib keyFormat = .ok ()) :
    EciesAeadHkdfPublicKeyManager.validateParams lib keyFormat.getParams = .ok () := by
  obtain ⟨params⟩ := keyFormat
  cases params with
  | none => cases h
  | some params => exact h

/-- A new pair does not depend on the format of points. -/
theorem createKey_withPointFormat {draw : EcDraw} {keyFormat : EciesAeadHkdf.KeyFormat} {key : PrivateKey}
    (h : EciesAeadHkdfPrivateKeyManager.createKey lib draw keyFormat = .ok key) (format : EcPointFormatProto) :
    ∃ key', EciesAeadHkdfPrivateKeyManager.createKey lib draw (keyFormat.withPointFormat format) = .ok key' := by
  obtain ⟨ecKey, hkey, -⟩ := createKey_ok h
  have hkey' : EciesAeadHkdfPrivateKeyManager.newEcKey lib (keyFormat.withPointFormat format).getParams.curve draw =
      .ok ecKey := hkey
  unfold EciesAeadHkdfPrivateKeyManager.createKey
  rw [hkey']
  exact ⟨_, rfl⟩

/-- **New keys are valid**, both of them. -/
theorem createKey_valid {draw : EcDraw} {keyFormat : EciesAeadHkdf.KeyFormat} {key : PrivateKey}
    (hformat : EciesAeadHkdfPrivateKeyManager.validateKeyFormat lib keyFormat = .ok ())
    (h : EciesAeadHkdfPrivateKeyManager.createKey lib draw keyFormat = .ok key) :
    EciesAeadHkdfPublicKeyManager.validateKey lib key.getPublicKey = .ok () ∧
      EciesAeadHkdfPrivateKeyManager.validateKey lib key = .ok () := by
  have hparams := validateKeyFormat_ok hformat
  obtain ⟨ecKey, hkey, rfl⟩ := createKey_ok h
  have hpublic : EciesAeadHkdfPublicKeyManager.validateKey lib ⟨0, some keyFormat.getParams, ecKey.pubX, ecKey.pubY⟩ =
      .ok () :=
    hparams
  refine ⟨hpublic, ?_⟩
  unfold EciesAeadHkdfPrivateKeyManager.validateKey
  dsimp only
  rw [hpublic]
  exact newEcKey_length hkey rfl rfl

/-- The checks of `New` pass for a new pair, and what they leave is the KEM and the DEM. -/
theorem createKey_validate {draw : EcDraw} {keyFormat : EciesAeadHkdf.KeyFormat} {key : PrivateKey}
    (hformat : EciesAeadHkdfPrivateKeyManager.validateKeyFormat lib keyFormat = .ok ())
    (h : EciesAeadHkdfPrivateKeyManager.createKey lib draw keyFormat = .ok key) :
    key.validate = .ok () ∧ key.getPublicKey.validate = .ok () := by
  obtain ⟨hkem, -⟩ := validateParams_ok (validateKeyFormat_ok hformat)
  obtain ⟨ecKey, hkey, rfl⟩ := createKey_ok h
  obtain ⟨hx, hpriv, hy⟩ := newEcKey_fields hkey
  have hcoordinates : EciesAeadHkdf.validateCoordinates ⟨0, some keyFormat.getParams, ecKey.pubX, ecKey.pubY⟩ = .ok () :=
    validateCoordinates_of hkem hy
  constructor
  · refine Eq.trans (if_neg ?_) hcoordinates
    rintro (hnone | hnone | hnone | hnone)
    · cases hnone
    · cases hnone
    · exact hx hnone
    · exact hpriv hnone
  · refine Eq.trans (if_neg ?_) hcoordinates
    rintro (hnone | hnone)
    · exact hx hnone
    · cases hnone

/-- **A new pair of keys gives two primitives that fit.** -/
theorem createKey_fits (hfips : lib.fipsMode.isFipsModeEnabled = false) {draw : EcDraw}
    {keyFormat : EciesAeadHkdf.KeyFormat} {key : PrivateKey}
    (hformat : EciesAeadHkdfPrivateKeyManager.validateKeyFormat lib keyFormat = .ok ())
    (h : EciesAeadHkdfPrivateKeyManager.createKey lib draw keyFormat = .ok key) :
    ∃ enc dec, EciesAeadHkdfHybridEncrypt.new lib key.getPublicKey = .ok enc ∧
      EciesAeadHkdfHybridDecrypt.new lib key = .ok dec ∧ enc.Fits dec ∧ dec.recipientKeyParams = keyFormat.getParams := by
  obtain ⟨hprivate, hpublic⟩ := createKey_validate hformat h
  obtain ⟨-, demHelper, hdem⟩ := validateParams_ok (validateKeyFormat_ok hformat)
  obtain ⟨ecKey, hkey, rfl⟩ := createKey_ok h
  obtain ⟨recipient, hrecipient, hsender, hcurve, hread⟩ := newEcKey_kems hfips hkey
  refine ⟨⟨⟨0, some keyFormat.getParams, ecKey.pubX, ecKey.pubY⟩, recipient.sender lib, demHelper⟩,
    ⟨keyFormat.getParams, recipient, demHelper⟩, ?_, ?_, ⟨rfl, rfl, rfl, hcurve, hread⟩, rfl⟩
  · unfold EciesAeadHkdfHybridEncrypt.new
    rw [hpublic]
    dsimp only [bind, Except.bind]
    erw [hsender]
    dsimp only
    erw [hdem]
    rfl
  · unfold EciesAeadHkdfHybridDecrypt.new
    rw [hprivate]
    dsimp only [bind, Except.bind]
    erw [hrecipient]
    dsimp only
    erw [hdem]
    rfl

/-- In FIPS mode no primitive can be made of a key that is made. -/
theorem createKey_fips (hfips : lib.fipsMode.isFipsModeEnabled = true) {draw : EcDraw}
    {keyFormat : EciesAeadHkdf.KeyFormat} {key : PrivateKey}
    (hformat : EciesAeadHkdfPrivateKeyManager.validateKeyFormat lib keyFormat = .ok ())
    (hcreate : EciesAeadHkdfPrivateKeyManager.createKey lib draw keyFormat = .ok key) :
    EciesAeadHkdfHybridEncrypt.new lib key.getPublicKey =
        .error ⟨.internal, "Primitive not available in FIPS only mode."⟩ ∧
      EciesAeadHkdfHybridDecrypt.new lib key = .error ⟨.internal, "Primitive not available in FIPS only mode."⟩ := by
  obtain ⟨hprivate, hpublic⟩ := createKey_validate hformat hcreate
  obtain ⟨ecKey, hkey, rfl⟩ := createKey_ok hcreate
  obtain ⟨hrecipient, hsender⟩ := kem_new_fips hfips hkey ecKey.pubX ecKey.pubY ecKey.priv
  constructor
  · unfold EciesAeadHkdfHybridEncrypt.new
    rw [hpublic]
    dsimp only [bind, Except.bind]
    erw [hsender]
  · unfold EciesAeadHkdfHybridDecrypt.new
    rw [hprivate]
    dsimp only [bind, Except.bind]
    erw [hrecipient]

variable (lib) in
/-- On CURVE25519 there are keys for one format only. -/
theorem x25519_formats {recipient : EciesHkdfRecipientKem} (hcurve : recipient.curve = .curve25519)
    {format : Subtle.EcPointFormat} (hformat : format ≠ .compressed) (hash : HashType) (salt info : Bytes) (size : Nat) :
    (∀ ephemeral generated, (recipient.sender lib).generateKey ephemeral hash salt info size format ≠ .ok generated) ∧
      ∀ kemBytes key, recipient.generateKey lib kemBytes hash salt info size format ≠ .ok key := by
  cases recipient with
  | nistPCurve curve privKeyValue => cases curve <;> cases hcurve
  | x25519 privateKey =>
    constructor
    · intro ephemeral generated h
      exact absurd ((if_pos hformat).symm.trans h) (nomatch ·)
    · intro kemBytes key h
      exact absurd ((if_pos hformat).symm.trans h) (nomatch ·)

end

/-- **ECIES from the key format on.**  Every key that is made for a valid format is valid.  In FIPS mode it has no
primitives.  Otherwise both primitives can be made, and the private key decrypts what the public key encrypts; what it
decrypts is an encoded point and a body that opens under the key for this point.  The format of points is checked on no
curve, only that it is known: on CURVE25519 a format other than COMPRESSED is valid as well and has keys, and then nothing
is encrypted or decrypted. -/
theorem eciesHybrid (lib : EciesLibrary) (hdem : lib.dem.Correct) (keyFormat : EciesAeadHkdf.KeyFormat) (draw : EcDraw)
    (key : PrivateKey) (hformat : EciesAeadHkdfPrivateKeyManager.validateKeyFormat lib keyFormat = .ok ())
    (hcreate : EciesAeadHkdfPrivateKeyManager.createKey lib draw keyFormat = .ok key) :
    EciesAeadHkdfPrivateKeyManager.validateKey lib key = .ok () ∧
    (∀ format, format ≠ .unknownFormat →
      EciesAeadHkdfPrivateKeyManager.validateKeyFormat lib (keyFormat.withPointFormat format) = .ok () ∧
      ∃ key', EciesAeadHkdfPrivateKeyManager.createKey lib draw (keyFormat.withPointFormat format) = .ok key') ∧
    (lib.fipsMode.isFipsModeEnabled = true →
      EciesAeadHkdfHybridEncrypt.new lib key.getPublicKey =
        .error ⟨.internal, "Primitive not available in FIPS only mode."⟩ ∧
      EciesAeadHkdfHybridDecrypt.new lib key = .error ⟨.internal, "Primitive not available in FIPS only mode."⟩) ∧
    (lib.fipsMode.isFipsModeEnabled = false → ∃ publicKey enc dec,
      EciesAeadHkdfPrivateKeyManager.getPublicKey key = .ok publicKey ∧
      EciesAeadHkdfPublicKeyManager.validateKey lib publicKey = .ok () ∧
      EciesAeadHkdfHybridEncrypt.new lib publicKey = .ok enc ∧ EciesAeadHkdfHybridDecrypt.new lib key = .ok dec ∧
      ∀ contextInfo,
        (∀ ephemeral random plaintext ciphertext, enc.encrypt ephemeral random plaintext contextInfo = some (.ok ciphertext) →
          dec.decrypt lib ciphertext contextInfo = some (.ok plaintext)) ∧
        (∀ ciphertext plaintext, dec.decrypt lib ciphertext contextInfo = some (.ok plaintext) →
          ∃ header symmetricKey body aeadOrDaead, ciphertext = header ++ body ∧
            ecPointEncodingSizeInBytes keyFormat.getParams.curve keyFormat.getParams.ecPointFormat.protoToSubtle =
              .ok header.length ∧
            dec.recipientKem.generateKey lib header keyFormat.getParams.getKemParams.hkdfHashType.protoToSubtle
              keyFormat.getParams.getKemParams.hkdfSalt contextInfo dec.demHelper.keySizeInBytes.toNat
              keyFormat.getParams.ecPointFormat.protoToSubtle = .ok symmetricKey ∧
            getAeadOrDaead lib.dem dec.demHelper symmetricKey = some (.ok aeadOrDaead) ∧
            aeadOrDaead.decrypt body [] = .ok plaintext) ∧
        (keyFormat.getParams.curve = .curve25519 → keyFormat.getParams.ecPointFormat.protoToSubtle ≠ .compressed →
          (∀ ephemeral random plaintext ciphertext,
            enc.encrypt ephemeral random plaintext contextInfo ≠ some (.ok ciphertext)) ∧
          ∀ ciphertext plaintext, dec.decrypt lib ciphertext contextInfo ≠ some (.ok plaintext))) := by
  obtain ⟨hpublic, hprivate⟩ := createKey_valid hformat hcreate
  refine ⟨hprivate, fun format hknown => ⟨?_, createKey_withPointFormat hcreate format⟩,
    fun hfips => createKey_fips hfips hformat hcreate, fun hfips => ?_⟩
  · exact validateParams_pointFormat (validateKeyFormat_ok hformat) hknown
  · obtain ⟨enc, dec, henc, hdec, hfits, hparams⟩ := createKey_fits hfips hformat hcreate
    refine ⟨key.getPublicKey, enc, dec, rfl, hpublic, henc, hdec, fun contextInfo => ?_⟩
    have hencrypt := fun ephemeral random plaintext => hfits.encrypt ephemeral random plaintext contextInfo
    have hdecrypt := fun ciphertext =>
      EciesAeadHkdfHybridDecrypt.returned_decrypt lib hfits.curve ciphertext contextInfo
    have hkem := eciesKem_correct hfits.read (.of dec.recipientKeyParams dec.demHelper) contextInfo
    have hcurve := hfits.curve
    rw [hparams] at hcurve hencrypt hdecrypt hkem
    refine ⟨fun ephemeral random plaintext ciphertext h => ?_, fun ciphertext plaintext h => ?_, fun h25519 hother => ?_⟩
    · rw [← returned_eq_some, hencrypt] at h
      rw [← returned_eq_some, hdecrypt]
      exact KemDem.decrypt_encrypt hkem (eciesDem_correct hdem dec.demHelper) h
    · rw [← returned_eq_some, hdecrypt] at h
      obtain ⟨header, symmetricKey, body, hlen, hkey, hopened, rfl⟩ := KemDem.decrypt_eq_some.1 h
      have hkey := toOption_eq_some.1 hkey
      obtain ⟨aeadOrDaead, hmade, hbody⟩ := withAeadOrDaead_eq_ok.1 (returned_eq_some.1 hopened)
      obtain ⟨size, hsize⟩ := generateKey_sizeOk hkey
      refine ⟨header, symmetricKey, body, aeadOrDaead, rfl, ?_, hkey, hmade, hbody⟩
      have hlen : header.length = size := hlen.trans (congrArg (fun found : Except Status Nat => found.toOption.getD 0) hsize)
      rw [hlen, ← hcurve]
      exact hsize
    · obtain ⟨hsend, hreceive⟩ := x25519_formats lib (hcurve.trans h25519) hother
        keyFormat.getParams.getKemParams.hkdfHashType.protoToSubtle keyFormat.getParams.getKemParams.hkdfSalt contextInfo
        dec.demHelper.keySizeInBytes.toNat
      refine ⟨fun ephemeral random plaintext ciphertext h => ?_, fun ciphertext plaintext h => ?_⟩
      · rw [← returned_eq_some, hencrypt] at h
        obtain ⟨header, symmetricKey, body, hkey, -, -⟩ := KemDem.encrypt_eq_some.1 h
        exact hsend ephemeral _ (toOption_eq_some.1 hkey)
      · rw [← returned_eq_some, hdecrypt] at h
        obtain ⟨header, symmetricKey, body, -, hkey, -, -⟩ := KemDem.decrypt_eq_some.1 h
        exact hreceive header symmetricKey (toOption_eq_some.1 hkey)

section Example

/-- An AEAD that puts the key's first byte in front. -/
def frontAead (key : Bytes) : Aead where
  encrypt _ plaintext _ := .ok (key.headD 0 :: plaintext)
  decrypt ciphertext _ :=
    match ciphertext with
    | [] => .error ⟨.invalidArgument, ""⟩
    | byte :: plaintext => if byte = key.headD 0 then .ok plaintext else .error ⟨.invalidArgument, ""⟩

/-- AES-GCM keys of 16 bytes. -/
def frontDems : DemLibrary where
  parseAesGcmKeyFormat value := if value = [0x10, 16] then some ⟨16, 0⟩ else none
  parseAesCtrHmacAeadKeyFormat _ := none
  parseXChaCha20Poly1305KeyFormat _ := none
  parseAesSivKeyFormat _ := none
  newAesGcm key := .ok (frontAead key)
  newXChacha20Poly1305 _ := .error ⟨.unimplemented, ""⟩
  newAesSiv _ := .error ⟨.unimplemented, ""⟩
  aesCtrHmacPrimitive _ := .error ⟨.unimplemented, ""⟩

/-- The generator is multiplied by one only; the key is cut from the point.  X25519 adds the keys. -/
def generatorEcies : EciesLibrary where
  groups := generatorGroups
  x25519PublicValue key := key
  x25519Derive privateKey peerPublicKey := some (List.zipWith (· + ·) privateKey.1 peerPublicKey.1)
  x25519Derive_comm _ _ := congrArg some (List.zipWith_comm_of_comm UInt8.add_comm)
  hkdf _ ikm _ _ outLen := if outLen ≤ ikm.length then some (ikm.take outLen) else none
  fipsMode := ⟨false, false⟩
  dem := frontDems

theorem frontDems_correct : frontDems.Correct where
  aesGcm := by
    intro key aead h
    cases h
    intro random plaintext associatedData ciphertext h
    cases h
    exact ⟨List.cons_ne_nil _ _, if_pos rfl⟩
  xChacha20Poly1305 := fun _ _ h => nomatch h
  aesSiv := fun _ _ h => nomatch h
  aesCtrHmac := fun _ _ h => nomatch h

/-- A curve and compressed points. -/
def compressedFormat (curveType : EllipticCurveTypeProto) : EciesAeadHkdf.KeyFormat where
  params := some {
    kemParams := some ⟨curveType, .sha256, [1]⟩
    demParams := some ⟨some ⟨aesGcmKeyUrl, [0x10, 16], .raw⟩⟩
    ecPointFormat := .compressed }

def oneDraw : EcDraw := ⟨1, List.replicate 32 9, rfl⟩

/-- On P-256, with one for both private numbers, a message comes back; on CURVE25519, with uncompressed points, there is no
message. -/
theorem eciesHybrid_p256 :
    (∃ key enc dec ciphertext,
      EciesAeadHkdfPrivateKeyManager.createKey generatorEcies oneDraw (compressedFormat .nistP256) = .ok key ∧
        EciesAeadHkdfHybridEncrypt.new generatorEcies key.getPublicKey = .ok enc ∧
        EciesAeadHkdfHybridDecrypt.new generatorEcies key = .ok dec ∧
        enc.encrypt oneDraw [] [1, 2] [3] = some (.ok ciphertext) ∧ ciphertext.length = 33 + 3 ∧
        dec.decrypt generatorEcies ciphertext [3] = some (.ok [1, 2])) ∧
    ∃ key enc dec,
      EciesAeadHkdfPrivateKeyManager.createKey generatorEcies oneDraw
          ((compressedFormat .curve25519).withPointFormat .uncompressed) = .ok key ∧
        EciesAeadHkdfHybridEncrypt.new generatorEcies key.getPublicKey = .ok enc ∧
        EciesAeadHkdfHybridDecrypt.new generatorEcies key = .ok dec ∧
        ∀ ephemeral random plaintext ciphertext, enc.encrypt ephemeral random plaintext [3] ≠ some (.ok ciphertext) := by
  constructor
  · obtain ⟨key, enc, ciphertext, hkey, henc, hciphertext, hlen⟩ : ∃ key enc ciphertext,
        EciesAeadHkdfPrivateKeyManager.createKey generatorEcies oneDraw (compressedFormat .nistP256) = .ok key ∧
          EciesAeadHkdfHybridEncrypt.new generatorEcies key.getPublicKey = .ok enc ∧
          enc.encrypt oneDraw [] [1, 2] [3] = some (.ok ciphertext) ∧ ciphertext.length = 33 + 3 := by
      refine ⟨_, _, _, rfl, rfl, rfl, ?_⟩
      decide
    obtain ⟨-, -, -, h⟩ := eciesHybrid generatorEcies frontDems_correct (compressedFormat .nistP256) oneDraw key rfl hkey
    obtain ⟨publicKey, enc', dec, hpublic, -, henc', hdec, h⟩ := h rfl
    obtain rfl := Except.ok.inj hpublic
    obtain rfl := Except.ok.inj (henc.symm.trans henc')
    exact ⟨key, enc, dec, ciphertext, hkey, henc, hdec, hciphertext, hlen,
      (h [3]).1 oneDraw [] [1, 2] ciphertext hciphertext⟩
  · obtain ⟨key, hkey⟩ : ∃ key, EciesAeadHkdfPrivateKeyManager.createKey generatorEcies oneDraw
        ((compressedFormat .curve25519).withPointFormat .uncompressed) = .ok key := ⟨_, rfl⟩
    obtain ⟨-, -, -, h⟩ := eciesHybrid generatorEcies frontDems_correct _ oneDraw key rfl hkey
    obtain ⟨publicKey, enc, dec, hpublic, -, henc, hdec, h⟩ := h rfl
    obtain rfl := Except.ok.inj hpublic
    exact ⟨key, enc, dec, hkey, henc, hdec, ((h [3]).2.2 rfl nofun).1⟩

end Example

end Tink
