import TinkCc.EciesHybrid
import TinkCc.HpkeKeys
/-!
# HpkeHybrid — encryption with HPKE

`hybrid/internal/hpke_{encrypt,decrypt,context,context_boringssl,util,util_boringssl}.cc`.  The two primitives of a key pair
exist together, and are a KEM and a DEM behind the key's prefix (`hpkeHybrid`).
-/
namespace Tink

/-! ## Algorithms -/

/-- `internal::HpkeKem`, without the unknown one, which no conversion gives. -/
inductive HpkeKem
  | p256HkdfSha256
  | x25519HkdfSha256
  | xWing
  | mlKem768
  | mlKem1024
  deriving DecidableEq, Repr

inductive HpkeKdf
  | hkdfSha256
  deriving DecidableEq, Repr

inductive HpkeAead
  | aes128Gcm
  | aes256Gcm
  | chaCha20Poly1305
  deriving DecidableEq, Repr

structure HpkeParams where
  kem  : HpkeKem
  kdf  : HpkeKdf
  aead : HpkeAead
  deriving DecidableEq, Repr

def hpkeKemProtoToEnum : HpkeKemProto → Except Status HpkeKem
  | .dhkemX25519HkdfSha256 => .ok .x25519HkdfSha256
  | .dhkemP256HkdfSha256 => .ok .p256HkdfSha256
  | .xWing => .ok .xWing
  | .mlKem768 => .ok .mlKem768
  | .mlKem1024 => .ok .mlKem1024
  | kem => .error ⟨.invalidArgument, s!"Unable to convert unsupported HPKE KEM: {kem.number}"⟩

def hpkeKdfProtoToEnum : HpkeKdfProto → Except Status HpkeKdf
  | .hkdfSha256 => .ok .hkdfSha256
  | kdf => .error ⟨.invalidArgument, s!"Unable to convert unsupported HPKE KDF: {kdf.number}"⟩

def hpkeAeadProtoToEnum : HpkeAeadProto → Except Status HpkeAead
  | .aes128Gcm => .ok .aes128Gcm
  | .aes256Gcm => .ok .aes256Gcm
  | .chacha20Poly1305 => .ok .chaCha20Poly1305
  | aead => .error ⟨.invalidArgument, s!"Unable to convert unsupported HPKE AEAD: {aead.number}"⟩

def hpkeParamsProtoToStruct (params : HpkeParamsProto) : Except Status HpkeParams := do
  let kem ← hpkeKemProtoToEnum params.kem
  let kdf ← hpkeKdfProtoToEnum params.kdf
  let aead ← hpkeAeadProtoToEnum params.aead
  return ⟨kem, kdf, aead⟩

/-! ## Lengths -/

/-- `HpkeEncapsulatedKeyLength` of a KEM of the protocol buffers. -/
def hpkeEncapsulatedKeyLength : HpkeKemProto → Except Status Nat
  | .dhkemX25519HkdfSha256 => ecPointEncodingSizeInBytes .curve25519 .uncompressed
  | .dhkemP256HkdfSha256 => ecPointEncodingSizeInBytes .nistP256 .uncompressed
  | .xWing => .ok 1120
  | .mlKem768 => .ok 1088
  | .mlKem1024 => .ok 1568
  | kem => .error ⟨.invalidArgument, s!"Unable to determine KEM-encoding length for {kem.number}"⟩

/-- `HpkeEncapsulatedKeyLength` of a KEM of the parameters. -/
def HpkeParameters.KemId.hpkeEncapsulatedKeyLength : HpkeParameters.KemId → Except Status Nat
  | .dhkemX25519HkdfSha256 => ecPointEncodingSizeInBytes .curve25519 .uncompressed
  | .dhkemP256HkdfSha256 => ecPointEncodingSizeInBytes .nistP256 .uncompressed
  | .xWing => .ok 1120
  | .mlKem768 => .ok 1088
  | .mlKem1024 => .ok 1568
  | kemId => .error ⟨.invalidArgument, s!"Unable to determine KEM-encoding length for {kemId.number}"⟩

def aeadTagLength : HpkeParameters.AeadId → Except Status Nat
  | .aesGcm128 | .aesGcm256 | .chaCha20Poly1305 => .ok 16

def outputPrefixLength : HpkeParameters.Variant → Except Status Nat
  | .noPrefix => .ok 0
  | .tink | .crunchy => .ok 5

def hpkeEncryptionOverhead (params : HpkeParameters) : Except Status Nat := do
  let kemLength ← params.kemId.hpkeEncapsulatedKeyLength
  let aeadOverhead ← aeadTagLength params.aeadId
  let outputPrefixSize ← outputPrefixLength params.variant
  return kemLength + aeadOverhead + outputPrefixSize

/-! ## Payloads -/

/-- The lengths of encodings that `hpke_context.cc` has. -/
def HpkeKem.encodingLengthInBytes : HpkeKem → Nat
  | .p256HkdfSha256 => 65
  | .x25519HkdfSha256 => 32
  | .xWing => 1120
  | .mlKem768 => 1088
  | .mlKem1024 => 1568

def concatenatePayload (encapsulatedKey ciphertext : Bytes) : Bytes := encapsulatedKey ++ ciphertext

/-- `SplitPayload`; `substr` throws beyond the end. -/
def splitPayload (kem : HpkeKem) (payload : Bytes) : Option (Bytes × Bytes) :=
  if payload.length < kem.encodingLengthInBytes then none
  else some (payload.take kem.encodingLengthInBytes, payload.drop kem.encodingLengthInBytes)

/-! ## Contexts -/

/-- What HPKE takes from BoringSSL.  A context is used once by each side, and used again it is another one. -/
structure HpkeLibrary where
  keys           : HpkeKeyLibrary
  Context        : Type
  Key            : Type
  Draw           : Type
  setupSender    : HpkeParams → Draw → (recipientPublicKey info : Bytes) → Option (Bytes × Context)
  keyInit        : HpkeKem → (privateKey : Bytes) → Option Key
  setupRecipient : Key → HpkeKdf → HpkeAead → (encapsulatedKey info : Bytes) → Option Context
  sealed         : Context → (plaintext associatedData : Bytes) → Option (Bytes × Context)
  opened         : Context → (ciphertext associatedData : Bytes) → Option (Bytes × Context)

structure HpkeContext (lib : HpkeLibrary) where
  encapsulatedKey : Bytes
  context         : lib.Context

namespace HpkeContext
variable (lib : HpkeLibrary)

/-- `HpkeContext::SetupSender`, with that of `HpkeContextBoringSsl`. -/
def setupSender (draw : lib.Draw) (params : HpkeParams) (recipientPublicKey info : Bytes) :
    Except Status (HpkeContext lib) :=
  if recipientPublicKey = [] then .error ⟨.invalidArgument, "Recipient public key is empty."⟩
  else
    match lib.setupSender params draw recipientPublicKey info with
    | none => .error ⟨.unknown, "Unable to set up HPKE sender context."⟩
    | some (encapsulatedKey, context) => .ok ⟨encapsulatedKey, context⟩

/-- `HpkeContext::SetupRecipient`, with that of `HpkeContextBoringSsl`. -/
def setupRecipient (params : HpkeParams) (recipientPrivateKey encapsulatedKey info : Bytes) :
    Except Status (HpkeContext lib) :=
  if recipientPrivateKey = [] then .error ⟨.invalidArgument, "Recipient private key is empty."⟩
  else if encapsulatedKey = [] then .error ⟨.invalidArgument, "Encapsulated key is empty."⟩
  else
    match lib.keyInit params.kem recipientPrivateKey with
    | none => .error ⟨.invalidArgument, "Unable to initialize BoringSSL HPKE recipient private key."⟩
    | some key =>
      match lib.setupRecipient key params.kdf params.aead encapsulatedKey info with
      | none => .error ⟨.unknown, "Unable to set up BoringSSL HPKE recipient context."⟩
      | some context => .ok ⟨encapsulatedKey, context⟩

variable {lib}

/-- `Seal`: the ciphertext, and the context after it. -/
def sealed (self : HpkeContext lib) (plaintext associatedData : Bytes) : Except Status (Bytes × HpkeContext lib) :=
  match lib.sealed self.context plaintext associatedData with
  | none => .error ⟨.unknown, "BoringSSL HPKE encryption failed."⟩
  | some (ciphertext, next) => .ok (ciphertext, ⟨self.encapsulatedKey, next⟩)

/-- `Open`. -/
def opened (self : HpkeContext lib) (ciphertext associatedData : Bytes) : Except Status (Bytes × HpkeContext lib) :=
  match lib.opened self.context ciphertext associatedData with
  | none => .error ⟨.unknown, "BoringSSL HPKE decryption failed."⟩
  | some (plaintext, next) => .ok (plaintext, ⟨self.encapsulatedKey, next⟩)

end HpkeContext

/-! ## Primitives -/

/-- The checks of the parameters that both `New` make, of a key called `name`. -/
def checkHpkeParams (name : String) (params : HpkeParamsProto) : Except Status Unit :=
  if params.kem ≠ .dhkemP256HkdfSha256 ∧ params.kem ≠ .dhkemX25519HkdfSha256 ∧ params.kem ≠ .xWing ∧
      params.kem ≠ .mlKem768 ∧ params.kem ≠ .mlKem1024 then
    .error ⟨.invalidArgument, s!"{name} has an unsupported KEM"⟩
  else if params.kdf ≠ .hkdfSha256 then .error ⟨.invalidArgument, s!"{name} has an unsupported KDF"⟩
  else if params.aead = .aeadUnknown then .error ⟨.invalidArgument, s!"{name} is missing AEAD"⟩
  else .ok ()

structure HpkeEncrypt where
  recipientPublicKey : HpkePublicKeyProto
  outputPrefix       : Bytes

namespace HpkeEncrypt

/-- The private `New`. -/
def newWithPrefix (recipientPublicKey : HpkePublicKeyProto) (outputPrefix : Bytes) : Except Status HpkeEncrypt :=
  if recipientPublicKey.publicKey = [] then .error ⟨.invalidArgument, "Recipient public key is empty."⟩
  else if recipientPublicKey.params = none then
    .error ⟨.invalidArgument, "Recipient public key is missing HPKE parameters."⟩
  else (checkHpkeParams "Recipient public key" recipientPublicKey.getParams).map fun _ =>
    ⟨recipientPublicKey, outputPrefix⟩

/-- `New` of a message. -/
def newOfProto (recipientPublicKey : HpkePublicKeyProto) : Except Status HpkeEncrypt := newWithPrefix recipientPublicKey []

/-- `New` of a key. -/
def new (recipientPublicKey : HpkePublicKey) : Except Status HpkeEncrypt :=
  newWithPrefix ⟨0, some recipientPublicKey.parameters.toProto, recipientPublicKey.publicKeyBytes⟩
    recipientPublicKey.outputPrefix

variable (lib : HpkeLibrary) (primitive : HpkeEncrypt) (draw : lib.Draw) (plaintext contextInfo : Bytes)

def encryptNoPrefix : Except Status Bytes := do
  let params ← hpkeParamsProtoToStruct primitive.recipientPublicKey.getParams
  let senderContext ← HpkeContext.setupSender lib draw params primitive.recipientPublicKey.publicKey contextInfo
  let (ciphertext, _) ← senderContext.sealed plaintext []
  return concatenatePayload senderContext.encapsulatedKey ciphertext

def encrypt : Except Status Bytes := do
  let ciphertextNoPrefix ← primitive.encryptNoPrefix lib draw plaintext contextInfo
  return primitive.outputPrefix ++ ciphertextNoPrefix

end HpkeEncrypt

structure HpkeDecrypt where
  hpkeParams          : HpkeParamsProto
  recipientPrivateKey : Bytes
  outputPrefix        : Bytes

namespace HpkeDecrypt

/-- The private `New`. -/
def newWithPrefix (hpkeParams : HpkeParamsProto) (recipientPrivateKey outputPrefix : Bytes) : Except Status HpkeDecrypt :=
  (checkHpkeParams "Recipient private key" hpkeParams).map fun _ => ⟨hpkeParams, recipientPrivateKey, outputPrefix⟩

/-- `New` of a message. -/
def newOfProto (recipientPrivateKey : HpkePrivateKeyProto) : Except Status HpkeDecrypt :=
  if recipientPrivateKey.privateKey = [] then .error ⟨.invalidArgument, "Recipient private key is empty."⟩
  else if recipientPrivateKey.publicKey = none then
    .error ⟨.invalidArgument, "Recipient private key is missing public key."⟩
  else if recipientPrivateKey.getPublicKey.params = none then
    .error ⟨.invalidArgument, "Recipient private key is missing HPKE parameters."⟩
  else newWithPrefix recipientPrivateKey.getPublicKey.getParams recipientPrivateKey.privateKey []

/-- `New` of a key. -/
def new (recipientPrivateKey : HpkePrivateKey) : Except Status HpkeDecrypt :=
  newWithPrefix recipientPrivateKey.publicKey.parameters.toProto recipientPrivateKey.privateKeyBytes
    recipientPrivateKey.publicKey.outputPrefix

variable (lib : HpkeLibrary) (primitive : HpkeDecrypt) (ciphertext contextInfo : Bytes)

def decryptNoPrefix : Except Status Bytes := do
  let encodingSize ← hpkeEncapsulatedKeyLength primitive.hpkeParams.kem
  if ciphertext.length < encodingSize then .error ⟨.invalidArgument, "Ciphertext is too short."⟩
  else
    let params ← hpkeParamsProtoToStruct primitive.hpkeParams
    let recipientContext ← HpkeContext.setupRecipient lib params primitive.recipientPrivateKey
      (ciphertext.take encodingSize) contextInfo
    let (plaintext, _) ← recipientContext.opened (ciphertext.drop encodingSize) []
    return plaintext

def decrypt : Except Status Bytes :=
  if primitive.outputPrefix.isPrefixOf ciphertext = false then
    .error ⟨.invalidArgument, "OutputPrefix does not match"⟩
  else primitive.decryptNoPrefix lib (ciphertext.drop primitive.outputPrefix.length) contextInfo

end HpkeDecrypt

/-! ## A KEM and a DEM -/

def HpkeKem.toKemId : HpkeKem → HpkeParameters.KemId
  | .p256HkdfSha256 => .dhkemP256HkdfSha256
  | .x25519HkdfSha256 => .dhkemX25519HkdfSha256
  | .xWing => .xWing
  | .mlKem768 => .mlKem768
  | .mlKem1024 => .mlKem1024

/-- What HPKE is: the recipient finds the context of a sender for his public key, what is sealed is opened, and what is
opened has a tag of 16 bytes. -/
structure HpkeLibrary.Correct (lib : HpkeLibrary) : Prop where
  setup  : ∀ {params draw privateKey publicKey info encapsulatedKey context},
    privateKey.length = params.kem.toKemId.privateKeyLength →
    lib.keys.publicKeyOf params.kem.toKemId privateKey = some publicKey →
    lib.setupSender params draw publicKey info = some (encapsulatedKey, context) →
    encapsulatedKey.length = params.kem.encodingLengthInBytes ∧
      ∃ key, lib.keyInit params.kem privateKey = some key ∧
        lib.setupRecipient key params.kdf params.aead encapsulatedKey info = some context
  opened : ∀ {context plaintext associatedData ciphertext next},
    lib.sealed context plaintext associatedData = some (ciphertext, next) →
    lib.opened context ciphertext associatedData = some (plaintext, next)
  tag    : ∀ {context ciphertext associatedData plaintext next},
    lib.opened context ciphertext associatedData = some (plaintext, next) → ciphertext.length = plaintext.length + 16

/-- The KEM of a pair of keys. -/
def hpkeKem (lib : HpkeLibrary) (params : HpkeParams) (publicKey privateKey info : Bytes) :
    KemDem.Kem UInt8 lib.Draw lib.Context where
  size := params.kem.encodingLengthInBytes
  encapsulate draw := (HpkeContext.setupSender lib draw params publicKey info).toOption.map fun sender =>
    (sender.encapsulatedKey, sender.context)
  decapsulate header := (HpkeContext.setupRecipient lib params privateKey header info).toOption.map (·.context)

/-- The first message of a context. -/
def hpkeDem (lib : HpkeLibrary) : KemDem.Dem UInt8 Unit lib.Context where
  sealed context _ message := (lib.sealed context message []).map Prod.fst
  opened context body := (lib.opened context body []).map Prod.fst

section
variable {lib : HpkeLibrary}

theorem hpkeDem_correct (hlib : lib.Correct) : (hpkeDem lib).Correct := by
  intro context _ message body h
  obtain ⟨⟨ciphertext, next⟩, hsealed, rfl⟩ := Option.map_eq_some_iff.1 h
  exact Option.map_eq_some_iff.2 ⟨_, hlib.opened hsealed, rfl⟩

theorem HpkeContext.setupSender_ok {draw : lib.Draw} {params : HpkeParams} {publicKey info : Bytes}
    {sender : HpkeContext lib} (h : HpkeContext.setupSender lib draw params publicKey info = .ok sender) :
    lib.setupSender params draw publicKey info = some (sender.encapsulatedKey, sender.context) := by
  unfold HpkeContext.setupSender at h
  split at h
  · cases h
  split at h
  · cases h
  rename_i hsetup
  cases h
  exact hsetup

theorem hpkeKem_correct (hlib : lib.Correct) {params : HpkeParams} {publicKey privateKey : Bytes} (info : Bytes)
    (hlen : privateKey.length = params.kem.toKemId.privateKeyLength)
    (hpair : lib.keys.publicKeyOf params.kem.toKemId privateKey = some publicKey) :
    (hpkeKem lib params publicKey privateKey info).Correct := by
  intro draw header context h
  obtain ⟨sender, hsetup, heq⟩ := Option.map_eq_some_iff.1 h
  cases heq
  obtain ⟨hsize, key, hkey, hrecipient⟩ := hlib.setup hlen hpair (HpkeContext.setupSender_ok (toOption_eq_some.1 hsetup))
  refine ⟨hsize, Option.map_eq_some_iff.2 ⟨⟨sender.encapsulatedKey, sender.context⟩, toOption_eq_some.2 ?_, rfl⟩⟩
  have hprivate : privateKey ≠ [] := by
    rintro rfl
    cases hkem : params.kem <;> rw [hkem] at hlen <;> cases hlen
  have hheader : sender.encapsulatedKey ≠ [] := by
    intro hnil
    rw [hnil] at hsize
    cases hkem : params.kem <;> rw [hkem] at hsize <;> cases hsize
  unfold HpkeContext.setupRecipient
  rw [if_neg hprivate, if_neg hheader, hkey]
  dsimp only
  rw [hrecipient]

/-- Encryption is that of the KEM and the DEM. -/
theorem HpkeEncrypt.toOption_encryptNoPrefix {primitive : HpkeEncrypt} {params : HpkeParams}
    (hparams : hpkeParamsProtoToStruct primitive.recipientPublicKey.getParams = .ok params) (draw : lib.Draw)
    (plaintext contextInfo privateKey : Bytes) :
    (primitive.encryptNoPrefix lib draw plaintext contextInfo).toOption =
      KemDem.encrypt (hpkeKem lib params primitive.recipientPublicKey.publicKey privateKey contextInfo) (hpkeDem lib) draw ()
        plaintext := by
  unfold HpkeEncrypt.encryptNoPrefix KemDem.encrypt hpkeKem hpkeDem
  rw [hparams]
  dsimp only [bind, Except.bind]
  cases HpkeContext.setupSender lib draw params primitive.recipientPublicKey.publicKey contextInfo with
  | error e => rfl
  | ok sender =>
    dsimp only [Except.toOption, Option.map_some, Option.bind_some, HpkeContext.sealed]
    cases lib.sealed sender.context plaintext [] with
    | none => rfl
    | some result => rfl

theorem hpkeKemProtoToEnum_ok {proto : HpkeKemProto} {kem : HpkeKem} (h : hpkeKemProtoToEnum proto = .ok kem) :
    proto.toKemId = some kem.toKemId ∧ hpkeEncapsulatedKeyLength proto = .ok kem.encodingLengthInBytes := by
  cases proto <;> cases h <;> exact ⟨rfl, rfl⟩

theorem hpkeParamsProtoToStruct_ok {proto : HpkeParamsProto} {params : HpkeParams}
    (h : hpkeParamsProtoToStruct proto = .ok params) :
    hpkeKemProtoToEnum proto.kem = .ok params.kem ∧ hpkeKdfProtoToEnum proto.kdf = .ok params.kdf ∧
      hpkeAeadProtoToEnum proto.aead = .ok params.aead := by
  obtain ⟨kem, hkem, h⟩ := bind_eq_ok h
  obtain ⟨kdf, hkdf, h⟩ := bind_eq_ok h
  obtain ⟨aead, haead, h⟩ := bind_eq_ok h
  cases h
  exact ⟨hkem, hkdf, haead⟩

/-- So is decryption. -/
theorem HpkeDecrypt.toOption_decryptNoPrefix {primitive : HpkeDecrypt} {params : HpkeParams}
    (hparams : hpkeParamsProtoToStruct primitive.hpkeParams = .ok params) (ciphertext contextInfo publicKey : Bytes) :
    (primitive.decryptNoPrefix lib ciphertext contextInfo).toOption =
      KemDem.decrypt (hpkeKem lib params publicKey primitive.recipientPrivateKey contextInfo) (hpkeDem lib) ciphertext := by
  have hsize := (hpkeKemProtoToEnum_ok (hpkeParamsProtoToStruct_ok hparams).1).2
  unfold HpkeDecrypt.decryptNoPrefix KemDem.decrypt hpkeKem hpkeDem
  rw [hsize]
  dsimp only [bind, Except.bind]
  split
  · rfl
  rw [hparams]
  dsimp only
  cases HpkeContext.setupRecipient lib params primitive.recipientPrivateKey
      (ciphertext.take params.kem.encodingLengthInBytes) contextInfo with
  | error e => rfl
  | ok recipient =>
    dsimp only [Except.toOption, Option.map_some, Option.bind_some, HpkeContext.opened]
    cases lib.opened recipient.context (ciphertext.drop params.kem.encodingLengthInBytes) [] with
    | none => rfl
    | some result => rfl

/-- The two primitives of a pair of keys. -/
structure HpkeEncrypt.Fits (lib : HpkeLibrary) (enc : HpkeEncrypt) (dec : HpkeDecrypt) : Prop where
  params       : enc.recipientPublicKey.getParams = dec.hpkeParams
  outputPrefix : enc.outputPrefix = dec.outputPrefix
  pair         : ∀ {kemId}, dec.hpkeParams.kem.toKemId = some kemId →
    dec.recipientPrivateKey.length = kemId.privateKeyLength ∧
      lib.keys.publicKeyOf kemId dec.recipientPrivateKey = some enc.recipientPublicKey.publicKey

theorem HpkeDecrypt.decrypt_ok_iff {dec : HpkeDecrypt} {ciphertext contextInfo plaintext : Bytes} :
    dec.decrypt lib ciphertext contextInfo = .ok plaintext ↔
      ∃ payload, ciphertext = dec.outputPrefix ++ payload ∧ dec.decryptNoPrefix lib payload contextInfo = .ok plaintext := by
  unfold HpkeDecrypt.decrypt
  constructor
  · intro h
    split at h
    · cases h
    rename_i hbegins
    obtain ⟨payload, rfl⟩ := List.isPrefixOf_iff_prefix.1 (Bool.eq_true_of_not_eq_false hbegins)
    rw [List.drop_left] at h
    exact ⟨payload, rfl, h⟩
  · rintro ⟨payload, rfl, h⟩
    rw [if_neg (by simp), List.drop_left]
    exact h

/-- **The private key decrypts what the public key encrypts.** -/
theorem HpkeEncrypt.Fits.decrypt_encrypt (hlib : lib.Correct) {enc : HpkeEncrypt} {dec : HpkeDecrypt}
    (hfits : enc.Fits lib dec) {draw : lib.Draw} {plaintext contextInfo ciphertext : Bytes}
    (h : enc.encrypt lib draw plaintext contextInfo = .ok ciphertext) :
    dec.decrypt lib ciphertext contextInfo = .ok plaintext := by
  obtain ⟨payload, hpayload, h⟩ := bind_eq_ok h
  cases h
  obtain ⟨params, hparams, -⟩ := bind_eq_ok hpayload
  refine HpkeDecrypt.decrypt_ok_iff.2 ⟨payload, congrArg (· ++ payload) hfits.outputPrefix, ?_⟩
  obtain ⟨hlen, hpair⟩ := hfits.pair (hfits.params ▸ (hpkeKemProtoToEnum_ok (hpkeParamsProtoToStruct_ok hparams).1).1)
  have hencrypt := HpkeEncrypt.toOption_encryptNoPrefix hparams draw plaintext contextInfo dec.recipientPrivateKey
  rw [toOption_eq_some.2 hpayload] at hencrypt
  rw [hfits.params] at hparams
  rw [← toOption_eq_some, HpkeDecrypt.toOption_decryptNoPrefix hparams payload contextInfo enc.recipientPublicKey.publicKey]
  exact KemDem.decrypt_encrypt (hpkeKem_correct hlib contextInfo hlen hpair) (hpkeDem_correct hlib) hencrypt.symm

/-- **What is decrypted** has the key's prefix, an encapsulated key, and a body that opens in the context found for it. -/
theorem HpkeDecrypt.decrypt_ok (hlib : lib.Correct) {dec : HpkeDecrypt} {ciphertext contextInfo plaintext : Bytes}
    (h : dec.decrypt lib ciphertext contextInfo = .ok plaintext) :
    ∃ params payload header body recipient next, hpkeParamsProtoToStruct dec.hpkeParams = .ok params ∧
      ciphertext = dec.outputPrefix ++ payload ∧ splitPayload params.kem payload = some (header, body) ∧
      HpkeContext.setupRecipient lib params dec.recipientPrivateKey header contextInfo = .ok recipient ∧
      recipient.opened body [] = .ok (plaintext, next) ∧
      ciphertext.length = dec.outputPrefix.length + params.kem.encodingLengthInBytes + plaintext.length + 16 := by
  obtain ⟨payload, rfl, hpayload⟩ := HpkeDecrypt.decrypt_ok_iff.1 h
  obtain ⟨size, hsize, hrest⟩ := bind_eq_ok hpayload
  split at hrest
  · cases hrest
  obtain ⟨params, hparams, -⟩ := bind_eq_ok hrest
  have hdecrypt : (dec.decryptNoPrefix lib payload contextInfo).toOption = _ :=
    HpkeDecrypt.toOption_decryptNoPrefix hparams payload contextInfo []
  rw [toOption_eq_some.2 hpayload] at hdecrypt
  obtain ⟨header, context, body, hheader, hfound, hopened, rfl⟩ := KemDem.decrypt_eq_some.1 hdecrypt.symm
  have hheader : header.length = params.kem.encodingLengthInBytes := hheader
  obtain ⟨recipient, hrecipient, rfl⟩ := Option.map_eq_some_iff.1 hfound
  obtain ⟨⟨result, next⟩, hcall, heq⟩ := Option.map_eq_some_iff.1 hopened
  have heq : result = plaintext := heq
  subst heq
  have htag := hlib.tag hcall
  refine ⟨params, header ++ body, header, body, recipient, ⟨recipient.encapsulatedKey, next⟩, hparams, rfl, ?_,
    toOption_eq_some.1 hrecipient, ?_, ?_⟩
  · unfold splitPayload
    rw [if_neg (by rw [List.length_append]; omega), List.take_left' hheader, List.drop_left' hheader]
  · unfold HpkeContext.opened
    rw [hcall]
  · rw [List.length_append, List.length_append, hheader, htag]
    omega

end

/-! ## The primitives of a key -/

/-- The parameters that there are primitives for. -/
def HpkeParameters.isSupported (parameters : HpkeParameters) : Bool :=
  parameters.kemId ≠ .dhkemP384HkdfSha384 ∧ parameters.kemId ≠ .dhkemP521HkdfSha512 ∧ parameters.kdfId = .hkdfSha256

theorem checkHpkeParams_ok_iff {name : String} {params : HpkeParamsProto} :
    checkHpkeParams name params = .ok () ↔
      (∃ kem, hpkeKemProtoToEnum params.kem = .ok kem) ∧ params.kdf = .hkdfSha256 ∧ params.aead ≠ .aeadUnknown := by
  unfold checkHpkeParams
  constructor
  · intro h
    split at h
    · cases h
    rename_i hkem
    split at h
    · cases h
    rename_i hkdf
    split at h
    · cases h
    rename_i haead
    refine ⟨?_, Decidable.not_not.1 hkdf, haead⟩
    cases hproto : params.kem with
    | dhkemP256HkdfSha256 | dhkemX25519HkdfSha256 | xWing | mlKem768 | mlKem1024 => exact ⟨_, rfl⟩
    | kemUnknown | dhkemP384HkdfSha384 | dhkemP521HkdfSha512 | unnamed =>
      rw [hproto] at hkem
      exact absurd ⟨nofun, nofun, nofun, nofun, nofun⟩ hkem
  · rintro ⟨⟨kem, hkem⟩, hkdf, haead⟩
    rw [if_neg ?_, if_neg (not_not_intro hkdf), if_neg haead]
    rintro ⟨h₁, h₂, h₃, h₄, h₅⟩
    cases hproto : params.kem with
    | dhkemP256HkdfSha256 => exact h₁ hproto
    | dhkemX25519HkdfSha256 => exact h₂ hproto
    | xWing => exact h₃ hproto
    | mlKem768 => exact h₄ hproto
    | mlKem1024 => exact h₅ hproto
    | kemUnknown | dhkemP384HkdfSha384 | dhkemP521HkdfSha512 | unnamed =>
      rw [hproto] at hkem
      cases hkem

theorem checkHpkeParams_toProto {name : String} {parameters : HpkeParameters} :
    checkHpkeParams name parameters.toProto = .ok () ↔ parameters.isSupported = true := by
  obtain ⟨kemId, kdfId, aeadId, variant⟩ := parameters
  cases kemId <;> cases kdfId <;> cases aeadId <;>
    first
    | exact ⟨fun _ => rfl, fun _ => rfl⟩
    | exact ⟨(nomatch ·), (nomatch ·)⟩

theorem map_const_ok_iff {α β : Type} {checked : Except Status α} {b : β} :
    (∃ result, checked.map (fun _ => b) = .ok result) ↔ ∃ a, checked = .ok a := by
  cases checked with
  | error e => exact ⟨fun ⟨_, h⟩ => (nomatch h), fun ⟨_, h⟩ => (nomatch h)⟩
  | ok a => exact ⟨fun _ => ⟨a, rfl⟩, fun _ => ⟨b, rfl⟩⟩

theorem exists_unit_ok_iff {checked : Except Status Unit} : (∃ a, checked = .ok a) ↔ checked = .ok () :=
  ⟨fun ⟨_, h⟩ => h, fun h => ⟨(), h⟩⟩

theorem HpkeEncrypt.newWithPrefix_ok_iff {recipientPublicKey : HpkePublicKeyProto} {outputPrefix : Bytes}
    (hkey : recipientPublicKey.publicKey ≠ []) (hparams : recipientPublicKey.params ≠ none) :
    (∃ enc, HpkeEncrypt.newWithPrefix recipientPublicKey outputPrefix = .ok enc) ↔
      checkHpkeParams "Recipient public key" recipientPublicKey.getParams = .ok () := by
  unfold HpkeEncrypt.newWithPrefix
  rw [if_neg hkey, if_neg hparams, map_const_ok_iff, exists_unit_ok_iff]

theorem HpkeEncrypt.newWithPrefix_eq {recipientPublicKey : HpkePublicKeyProto} {outputPrefix : Bytes} {enc : HpkeEncrypt}
    (h : HpkeEncrypt.newWithPrefix recipientPublicKey outputPrefix = .ok enc) : enc = ⟨recipientPublicKey, outputPrefix⟩ := by
  unfold HpkeEncrypt.newWithPrefix at h
  split at h
  · cases h
  split at h
  · cases h
  obtain ⟨_, -, h⟩ := map_eq_ok h
  exact h.symm

theorem HpkeDecrypt.newWithPrefix_ok_iff {hpkeParams : HpkeParamsProto} {recipientPrivateKey outputPrefix : Bytes} :
    (∃ dec, HpkeDecrypt.newWithPrefix hpkeParams recipientPrivateKey outputPrefix = .ok dec) ↔
      checkHpkeParams "Recipient private key" hpkeParams = .ok () := by
  unfold HpkeDecrypt.newWithPrefix
  rw [map_const_ok_iff, exists_unit_ok_iff]

theorem HpkeDecrypt.newWithPrefix_eq {hpkeParams : HpkeParamsProto} {recipientPrivateKey outputPrefix : Bytes}
    {dec : HpkeDecrypt} (h : HpkeDecrypt.newWithPrefix hpkeParams recipientPrivateKey outputPrefix = .ok dec) :
    dec = ⟨hpkeParams, recipientPrivateKey, outputPrefix⟩ := by
  obtain ⟨_, -, h⟩ := map_eq_ok h
  exact h.symm

/-- A prefix has the length that the overhead counts. -/
theorem outputPrefixLength_ok {parameters : HpkeParameters} {idRequirement : Option UInt32} {outputPrefix : Bytes}
    (h : HpkePublicKey.computeOutputPrefix parameters idRequirement = .ok outputPrefix) :
    outputPrefixLength parameters.variant = .ok outputPrefix.length := by
  obtain ⟨kemId, kdfId, aeadId, variant⟩ := parameters
  cases variant <;> cases idRequirement <;> cases h <;> rfl

/-- The overhead of the parameters of a key. -/
theorem hpkeEncryptionOverhead_of {parameters : HpkeParameters} {params : HpkeParams} {idRequirement : Option UInt32}
    {outputPrefix : Bytes} (hparams : hpkeParamsProtoToStruct parameters.toProto = .ok params)
    (hprefixed : HpkePublicKey.computeOutputPrefix parameters idRequirement = .ok outputPrefix) :
    hpkeEncryptionOverhead parameters = .ok (params.kem.encodingLengthInBytes + 16 + outputPrefix.length) := by
  have hkem : parameters.kemId.hpkeEncapsulatedKeyLength = .ok params.kem.encodingLengthInBytes := by
    obtain ⟨hkem, -, -⟩ := hpkeParamsProtoToStruct_ok hparams
    obtain ⟨kemId, kdfId, aeadId, variant⟩ := parameters
    cases kemId <;> first | exact (hpkeKemProtoToEnum_ok hkem).2 | cases hkem
  have haead : aeadTagLength parameters.aeadId = .ok 16 := by
    cases parameters.aeadId <;> rfl
  unfold hpkeEncryptionOverhead
  rw [hkem, haead, outputPrefixLength_ok hprefixed]
  rfl

/-- **HPKE keys encrypt and decrypt.**  The two primitives of a key pair exist for the KEMs of P-256, of X25519 and of the
post-quantum ones with HKDF-SHA256, and not for the other parameters.  The private key decrypts what the public key
encrypts.  What it decrypts is the prefix of the key and a payload, whose parts are an encapsulated key and a body that
opens in the context found for it; so a ciphertext is longer than its plaintext by the overhead of the parameters. -/
theorem hpkeHybrid (lib : HpkeLibrary) (hlib : lib.Correct) (parameters : HpkeParameters) (idRequirement : Option UInt32)
    (publicKeyBytes privateKeyBytes : Bytes) (publicKey : HpkePublicKey) (privateKey : HpkePrivateKey)
    (hlen : privateKeyBytes.length < 2 ^ 31)
    (hpublic : HpkePublicKey.create lib.keys parameters publicKeyBytes idRequirement = .ok publicKey)
    (hprivate : HpkePrivateKey.create lib.keys publicKey privateKeyBytes = .ok privateKey) :
    ((∃ enc, HpkeEncrypt.new publicKey = .ok enc) ↔ parameters.isSupported = true) ∧
    ((∃ dec, HpkeDecrypt.new privateKey = .ok dec) ↔ parameters.isSupported = true) ∧
    ∀ enc dec, HpkeEncrypt.new publicKey = .ok enc → HpkeDecrypt.new privateKey = .ok dec → ∀ contextInfo,
      (∀ draw plaintext ciphertext, enc.encrypt lib draw plaintext contextInfo = .ok ciphertext →
        dec.decrypt lib ciphertext contextInfo = .ok plaintext) ∧
      ∀ ciphertext plaintext, dec.decrypt lib ciphertext contextInfo = .ok plaintext →
        (∃ params payload header body recipient next, hpkeParamsProtoToStruct parameters.toProto = .ok params ∧
          ciphertext = publicKey.outputPrefix ++ payload ∧ splitPayload params.kem payload = some (header, body) ∧
          HpkeContext.setupRecipient lib params privateKeyBytes header contextInfo = .ok recipient ∧
          recipient.opened body [] = .ok (plaintext, next)) ∧
        ∃ overhead, hpkeEncryptionOverhead parameters = .ok overhead ∧ ciphertext.length = plaintext.length + overhead := by
  obtain ⟨-, -, outputPrefix, hprefixed, rfl⟩ := HpkePublicKey.create_ok hpublic
  obtain ⟨hexpected, hpair, rfl⟩ := (HpkePrivateKey.create_ok_iff fun _ _ hlong => absurd hlong (by omega)).1 hprivate
  have hne : publicKeyBytes ≠ [] := by
    rintro rfl
    obtain ⟨-, hvalid, -⟩ := HpkePublicKey.create_ok hpublic
    unfold HpkePublicKey.validatePublicKey at hvalid
    cases hkem : parameters.kemId <;> rw [hkem] at hvalid <;> cases hvalid
  refine ⟨(HpkeEncrypt.newWithPrefix_ok_iff hne (Option.some_ne_none _)).trans checkHpkeParams_toProto,
    HpkeDecrypt.newWithPrefix_ok_iff.trans checkHpkeParams_toProto, fun enc dec henc hdec contextInfo => ?_⟩
  obtain rfl := HpkeEncrypt.newWithPrefix_eq henc
  obtain rfl := HpkeDecrypt.newWithPrefix_eq hdec
  refine ⟨fun draw plaintext ciphertext h => HpkeEncrypt.Fits.decrypt_encrypt hlib ⟨rfl, rfl, fun hkem => ?_⟩ h,
    fun ciphertext plaintext h => ?_⟩
  · cases Option.some.inj ((toKemId_fromKemId parameters.kemId).symm.trans hkem)
    exact ⟨hexpected, hpair⟩
  · obtain ⟨params, payload, header, body, recipient, next, hparams, rfl, hsplit, hrecipient, hopened, hlength⟩ :=
      HpkeDecrypt.decrypt_ok hlib h
    refine ⟨⟨params, payload, header, body, recipient, next, hparams, rfl, hsplit, hrecipient, hopened⟩, _,
      hpkeEncryptionOverhead_of hparams hprefixed, ?_⟩
    rw [hlength]
    dsimp only
    omega

/-! ## The primitives of the key manager -/

theorem validateKeyFormat_params {keyFormat : HpkeKeyFormatProto}
    (h : HpkePrivateKeyManager.validateKeyFormat keyFormat = .ok ()) :
    validateHpkeParams keyFormat.getParams = .ok () ∧ keyFormat.getParams.aead ≠ .aeadUnknown := by
  have hparams : validateHpkeParams keyFormat.getParams = .ok () := by
    obtain ⟨params⟩ := keyFormat
    cases params with
    | none => cases h
    | some params => exact h
  refine ⟨hparams, fun haead => ?_⟩
  unfold validateHpkeParams at hparams
  rw [if_pos haead] at hparams
  split at hparams
  · cases hparams
  · split at hparams <;> cases hparams

/-- A new key of the manager. -/
theorem createKey_pair {lib : HpkeKeyLibrary} {draw : HpkeKeyDraw lib} {keyFormat : HpkeKeyFormatProto}
    {key : HpkePrivateKeyProto} (h : HpkePrivateKeyManager.createKey lib draw keyFormat = .ok key) :
    ∃ kemId publicKey privateKey, keyFormat.getParams.kem.toKemId = some kemId ∧
      key = ⟨0, some ⟨0, some keyFormat.getParams, publicKey⟩, privateKey⟩ ∧
      privateKey.length = kemId.privateKeyLength ∧ lib.publicKeyOf kemId privateKey = some publicKey := by
  unfold HpkePrivateKeyManager.createKey at h
  split at h
  · cases h
  rename_i kemId hkem
  obtain ⟨publicKey, privateKey, hgenerate, hlen, hpair⟩ := generateKeyMaterial_ok draw kemId
  rw [hgenerate] at h
  cases h
  exact ⟨kemId, publicKey, privateKey, hkem, rfl, hlen, hpair⟩

theorem hpkeParamsProtoToStruct_error {params : HpkeParamsProto} {kem : HpkeKem} {e : Status}
    (hkem : hpkeKemProtoToEnum params.kem = .ok kem) (hkdf : params.kdf = .hkdfSha256)
    (haead : hpkeAeadProtoToEnum params.aead = .error e) : hpkeParamsProtoToStruct params = .error e := by
  unfold hpkeParamsProtoToStruct
  rw [hkem, hkdf, haead]
  rfl

theorem checkHpkeParams_of {params : HpkeParamsProto} (haead : params.aead ≠ .aeadUnknown) {name : String} :
    checkHpkeParams name params = .ok () ↔
      (∃ kem, hpkeKemProtoToEnum params.kem = .ok kem) ∧ params.kdf = .hkdfSha256 :=
  checkHpkeParams_ok_iff.trans ⟨fun h => ⟨h.1, h.2.1⟩, fun h => ⟨h.1, h.2, haead⟩⟩

/-- A key of a valid format can be made if its KEM has a name. -/
theorem createKey_ok_iff {lib : HpkeKeyLibrary} (draw : HpkeKeyDraw lib) (keyFormat : HpkeKeyFormatProto)
    (hvalid : validateHpkeParams keyFormat.getParams = .ok ()) :
    (∃ key, HpkePrivateKeyManager.createKey lib draw keyFormat = .ok key) ↔
      ∀ value, keyFormat.getParams.kem ≠ .unnamed value := by
  constructor
  · rintro ⟨key, h⟩ value hvalue
    obtain ⟨kemId, _, _, hkem, -⟩ := createKey_pair h
    rw [hvalue] at hkem
    cases hkem
  · intro hnamed
    unfold HpkePrivateKeyManager.createKey
    cases hkem : keyFormat.getParams.kem.toKemId with
    | none =>
      cases hproto : keyFormat.getParams.kem with
      | unnamed value => exact absurd hproto (hnamed value)
      | kemUnknown =>
        unfold validateHpkeParams at hvalid
        rw [if_pos hproto] at hvalid
        cases hvalid
      | _ =>
        rw [hproto] at hkem
        cases hkem
    | some kemId =>
      obtain ⟨publicKey, privateKey, hgenerate, -⟩ := generateKeyMaterial_ok draw kemId
      dsimp only
      rw [hgenerate]
      exact ⟨_, rfl⟩

/-- The pair of a new key, and what the two `New` make of it. -/
theorem createKey_primitives {lib : HpkeKeyLibrary} {draw : HpkeKeyDraw lib} {keyFormat : HpkeKeyFormatProto}
    {key : HpkePrivateKeyProto} (h : HpkePrivateKeyManager.createKey lib draw keyFormat = .ok key) :
    ∃ kemId publicKey privateKey, keyFormat.getParams.kem.toKemId = some kemId ∧
      key = ⟨0, some ⟨0, some keyFormat.getParams, publicKey⟩, privateKey⟩ ∧
      privateKey.length = kemId.privateKeyLength ∧ lib.publicKeyOf kemId privateKey = some publicKey ∧ publicKey ≠ [] ∧
      HpkeDecrypt.newOfProto key = HpkeDecrypt.newWithPrefix keyFormat.getParams privateKey [] := by
  obtain ⟨kemId, publicKey, privateKey, hkem, rfl, hlen, hpair⟩ := createKey_pair h
  have hprivate : privateKey ≠ [] := by
    rintro rfl
    cases kemId <;> cases hlen
  have hpublic : publicKey ≠ [] := by
    rintro rfl
    have hvalid := validatePublicKey_publicKeyOf hpair
    unfold HpkePublicKey.validatePublicKey at hvalid
    cases kemId <;> cases hvalid
  exact ⟨kemId, publicKey, privateKey, hkem, rfl, hlen, hpair, hpublic,
    (if_neg hprivate).trans ((if_neg (Option.some_ne_none _)).trans (if_neg (Option.some_ne_none _)))⟩

/-- A key with an AEAD without a name, on a KEM and a KDF that have primitives. -/
theorem unnamedAead_primitives {lib : HpkeKeyLibrary} (draw : HpkeKeyDraw lib) {params : HpkeParamsProto} {value : Int}
    (haead : params.aead = .unnamed value) {kem : HpkeKem} (hkem : hpkeKemProtoToEnum params.kem = .ok kem)
    (hkdf : params.kdf = .hkdfSha256) :
    ∃ key publicKey enc dec, HpkePrivateKeyManager.createKey lib draw ⟨some params⟩ = .ok key ∧
      HpkePrivateKeyManager.getPublicKey key = .ok publicKey ∧ HpkeEncrypt.newOfProto publicKey = .ok enc ∧
      HpkeDecrypt.newOfProto key = .ok dec := by
  obtain ⟨kemProto, kdf, aead⟩ := params
  cases hkdf
  cases haead
  have hnamed : ∀ value, kemProto ≠ .unnamed value := by
    rintro value rfl
    cases hkem
  have hvalid : validateHpkeParams ⟨kemProto, .hkdfSha256, .unnamed value⟩ = .ok () := by
    cases kemProto with
    | kemUnknown => cases hkem
    | _ => rfl
  obtain ⟨key, hkey⟩ : ∃ key, HpkePrivateKeyManager.createKey lib draw ⟨some ⟨kemProto, .hkdfSha256, .unnamed value⟩⟩ =
      .ok key := (createKey_ok_iff draw ⟨some _⟩ hvalid).2 hnamed
  obtain ⟨_, publicKey, privateKey, -, rfl, -, -, hpublic, hdecrypter⟩ := createKey_primitives hkey
  have hcheck : ∀ {name}, checkHpkeParams name ⟨kemProto, .hkdfSha256, .unnamed value⟩ = .ok () :=
    checkHpkeParams_ok_iff.2 ⟨⟨kem, hkem⟩, rfl, nofun⟩
  obtain ⟨enc, henc⟩ : ∃ enc, HpkeEncrypt.newOfProto ⟨0, some ⟨kemProto, .hkdfSha256, .unnamed value⟩, publicKey⟩ = .ok enc :=
    (HpkeEncrypt.newWithPrefix_ok_iff hpublic (Option.some_ne_none _)).2 hcheck
  obtain ⟨dec, hdec⟩ : ∃ dec, HpkeDecrypt.newWithPrefix ⟨kemProto, .hkdfSha256, .unnamed value⟩ privateKey [] = .ok dec :=
    HpkeDecrypt.newWithPrefix_ok_iff.2 hcheck
  exact ⟨_, _, enc, dec, hkey, rfl, henc, hdecrypter.trans hdec⟩

/-- **HPKE keys of the manager.**  A valid key format gives keys if its KEM has a name, and they are valid.  They have
primitives for the same algorithms as other keys, and the private key decrypts what the public key encrypts.  An AEAD
without a name is valid too, with every KEM and KDF that are known, and keys with it have primitives where others have
them; but these encrypt and decrypt nothing. -/
theorem hpkeManager (lib : HpkeLibrary) (hlib : lib.Correct) (keyFormat : HpkeKeyFormatProto) (draw : HpkeKeyDraw lib.keys)
    (hformat : HpkePrivateKeyManager.validateKeyFormat keyFormat = .ok ()) :
    ((∃ key, HpkePrivateKeyManager.createKey lib.keys draw keyFormat = .ok key) ↔
      ∀ value, keyFormat.getParams.kem ≠ .unnamed value) ∧
    (∀ (params : HpkeParamsProto) value, params.kem ≠ .kemUnknown → params.kdf ≠ .kdfUnknown →
      params.aead = .unnamed value →
      HpkePrivateKeyManager.validateKeyFormat ⟨some params⟩ = .ok () ∧
      ∀ kem, hpkeKemProtoToEnum params.kem = .ok kem → params.kdf = .hkdfSha256 →
        ∃ key publicKey enc dec, HpkePrivateKeyManager.createKey lib.keys draw ⟨some params⟩ = .ok key ∧
          HpkePrivateKeyManager.getPublicKey key = .ok publicKey ∧ HpkeEncrypt.newOfProto publicKey = .ok enc ∧
          HpkeDecrypt.newOfProto key = .ok dec) ∧
    ∀ key, HpkePrivateKeyManager.createKey lib.keys draw keyFormat = .ok key →
      HpkePrivateKeyManager.validateKey key = .ok () ∧
      ∃ publicKey, HpkePrivateKeyManager.getPublicKey key = .ok publicKey ∧
        ((∃ enc, HpkeEncrypt.newOfProto publicKey = .ok enc) ↔
          (∃ kem, hpkeKemProtoToEnum keyFormat.getParams.kem = .ok kem) ∧ keyFormat.getParams.kdf = .hkdfSha256) ∧
        ((∃ dec, HpkeDecrypt.newOfProto key = .ok dec) ↔
          (∃ kem, hpkeKemProtoToEnum keyFormat.getParams.kem = .ok kem) ∧ keyFormat.getParams.kdf = .hkdfSha256) ∧
        ∀ enc dec, HpkeEncrypt.newOfProto publicKey = .ok enc → HpkeDecrypt.newOfProto key = .ok dec → ∀ contextInfo,
          (∀ drawn plaintext ciphertext, enc.encrypt lib drawn plaintext contextInfo = .ok ciphertext →
            dec.decrypt lib ciphertext contextInfo = .ok plaintext) ∧
          ∀ value, keyFormat.getParams.aead = .unnamed value →
            (∀ drawn plaintext, enc.encrypt lib drawn plaintext contextInfo =
              .error ⟨.invalidArgument, s!"Unable to convert unsupported HPKE AEAD: {value}"⟩) ∧
            ∀ ciphertext plaintext, dec.decrypt lib ciphertext contextInfo ≠ .ok plaintext := by
  obtain ⟨hvalid, haead⟩ := validateKeyFormat_params hformat
  refine ⟨createKey_ok_iff draw keyFormat hvalid, fun params value hkem hkdf hunnamed => ⟨?_, fun kem => ?_⟩,
    fun key hcreate => ?_⟩
  · refine (if_neg hkem).trans ((if_neg hkdf).trans (if_neg ?_))
    rw [hunnamed]
    exact nofun
  · exact unnamedAead_primitives draw hunnamed
  · obtain ⟨kemId, publicKey, privateKey, hkem, rfl, hlen, hpair, hpublic, hdecrypter⟩ := createKey_primitives hcreate
    refine ⟨hvalid, ⟨0, some keyFormat.getParams, publicKey⟩, rfl,
      (HpkeEncrypt.newWithPrefix_ok_iff hpublic (Option.some_ne_none _)).trans (checkHpkeParams_of haead),
      (hdecrypter ▸ HpkeDecrypt.newWithPrefix_ok_iff).trans (checkHpkeParams_of haead),
      fun enc dec henc hdec contextInfo => ?_⟩
    have hcheck := (HpkeEncrypt.newWithPrefix_ok_iff hpublic (Option.some_ne_none _)).1 ⟨enc, henc⟩
    obtain ⟨⟨kem, hproto⟩, hkdf⟩ := (checkHpkeParams_of haead).1 hcheck
    obtain rfl := HpkeEncrypt.newWithPrefix_eq henc
    obtain rfl := HpkeDecrypt.newWithPrefix_eq (hdecrypter ▸ hdec)
    refine ⟨fun drawn plaintext ciphertext h => HpkeEncrypt.Fits.decrypt_encrypt hlib ⟨rfl, rfl, fun hkem' => ?_⟩ h,
      fun value hvalue => ?_⟩
    · cases Option.some.inj (hkem.symm.trans hkem')
      exact ⟨hlen, hpair⟩
    · have hstruct : hpkeParamsProtoToStruct keyFormat.getParams =
          .error ⟨.invalidArgument, s!"Unable to convert unsupported HPKE AEAD: {value}"⟩ := by
        refine hpkeParamsProtoToStruct_error hproto hkdf ?_
        rw [hvalue]
        rfl
      refine ⟨fun drawn plaintext => ?_, fun ciphertext plaintext h => ?_⟩
      · unfold HpkeEncrypt.encrypt HpkeEncrypt.encryptNoPrefix
        dsimp only [HpkePublicKeyProto.getParams, Option.getD]
        rw [hstruct]
        rfl
      · obtain ⟨params, _, _, _, _, _, hparams, -⟩ := HpkeDecrypt.decrypt_ok hlib h
        cases hparams.symm.trans hstruct

section Example

/-- A context is a public key and the info, and its first 16 bytes are the tag. -/
def seedHpke : HpkeLibrary where
  keys := seedKeys
  Context := Bytes
  Key := Bytes
  Draw := Unit
  setupSender params _ publicKey info := some (List.replicate params.kem.encodingLengthInBytes 0, publicKey ++ info)
  keyInit kem privateKey := seedKeys.publicKeyOf kem.toKemId privateKey
  setupRecipient publicKey _ _ _ info := some (publicKey ++ info)
  sealed context plaintext _ := some ((context ++ List.replicate 16 0).take 16 ++ plaintext, context)
  opened context ciphertext _ :=
    if ciphertext.take 16 = (context ++ List.replicate 16 0).take 16 then some (ciphertext.drop 16, context) else none

theorem seedTag_length (context : Bytes) : ((context ++ List.replicate 16 0).take 16).length = 16 := by
  rw [List.length_take, List.length_append, List.length_replicate]
  omega

theorem seedHpke_correct : seedHpke.Correct where
  setup := by
    intro params draw privateKey publicKey info encapsulatedKey context hlen hpair h
    cases h
    exact ⟨List.length_replicate, publicKey, hpair, rfl⟩
  opened := by
    intro context plaintext associatedData ciphertext next h
    cases h
    have hlen := seedTag_length context
    unfold seedHpke
    dsimp only
    rw [List.take_left' hlen, List.drop_left' hlen, if_pos rfl]
  tag := by
    intro context ciphertext associatedData plaintext next h
    unfold seedHpke at h
    dsimp only at h
    split at h
    · rename_i htag
      cases h
      have hlen := (congrArg List.length htag).trans (seedTag_length context)
      rw [List.length_take] at hlen
      rw [List.length_drop]
      omega
    · cases h

def x25519Parameters : HpkeParameters := ⟨.dhkemX25519HkdfSha256, .hkdfSha256, .aesGcm128, .tink⟩

/-- A pair of keys with the id 7, and a message of two bytes. -/
theorem hpkeHybrid_x25519 : ∃ publicKey privateKey enc dec ciphertext,
    HpkePublicKey.create seedHpke.keys x25519Parameters (List.replicate 32 9) (some 7) = .ok publicKey ∧
      HpkePrivateKey.create seedHpke.keys publicKey (List.replicate 32 9) = .ok privateKey ∧
      HpkeEncrypt.new publicKey = .ok enc ∧ HpkeDecrypt.new privateKey = .ok dec ∧
      enc.encrypt seedHpke () [1, 2] [3] = .ok ciphertext ∧ dec.decrypt seedHpke ciphertext [3] = .ok [1, 2] ∧
      ciphertext.length = 2 + (32 + 16 + 5) := by
  obtain ⟨publicKey, privateKey, enc, ciphertext, hpublic, hprivate, henc, hciphertext⟩ :
      ∃ publicKey privateKey enc ciphertext,
        HpkePublicKey.create seedHpke.keys x25519Parameters (List.replicate 32 9) (some 7) = .ok publicKey ∧
          HpkePrivateKey.create seedHpke.keys publicKey (List.replicate 32 9) = .ok privateKey ∧
          HpkeEncrypt.new publicKey = .ok enc ∧ enc.encrypt seedHpke () [1, 2] [3] = .ok ciphertext :=
    ⟨_, _, _, _, rfl, rfl, rfl, rfl⟩
  obtain ⟨-, hdec, h⟩ := hpkeHybrid seedHpke seedHpke_correct x25519Parameters (some 7) (List.replicate 32 9)
    (List.replicate 32 9) publicKey privateKey (by decide) hpublic hprivate
  obtain ⟨dec, hdec⟩ := hdec.2 rfl
  obtain ⟨hround, hsplit⟩ := h enc dec henc hdec [3]
  have hplaintext := hround () [1, 2] ciphertext hciphertext
  obtain ⟨-, overhead, hoverhead, hlength⟩ := hsplit ciphertext [1, 2] hplaintext
  cases hoverhead
  exact ⟨publicKey, privateKey, enc, dec, ciphertext, hpublic, hprivate, henc, hdec, hciphertext, hplaintext, hlength⟩

/-- A format whose AEAD has no name, with what the generators draw. -/
def unnamedFormat : HpkeKeyFormatProto := ⟨some ⟨.xWing, .hkdfSha256, .unnamed 9⟩⟩

theorem hpkeManager_unnamed : ∃ key publicKey enc,
    HpkePrivateKeyManager.createKey seedHpke.keys seedKeysDraw unnamedFormat = .ok key ∧
      HpkePrivateKeyManager.validateKey key = .ok () ∧
      HpkePrivateKeyManager.getPublicKey key = .ok publicKey ∧ HpkeEncrypt.newOfProto publicKey = .ok enc ∧
      enc.encrypt seedHpke () [1, 2] [3] = .error ⟨.invalidArgument, "Unable to convert unsupported HPKE AEAD: 9"⟩ := by
  obtain ⟨hexists, -, h⟩ := hpkeManager seedHpke seedHpke_correct unnamedFormat seedKeysDraw rfl
  obtain ⟨key, hkey⟩ := hexists.2 nofun
  obtain ⟨hvalid, publicKey, hpublic, henc, hdec, h⟩ := h key hkey
  have hsupported : (∃ kem, hpkeKemProtoToEnum unnamedFormat.getParams.kem = .ok kem) ∧
      unnamedFormat.getParams.kdf = .hkdfSha256 := ⟨⟨.xWing, rfl⟩, rfl⟩
  obtain ⟨enc, henc⟩ := henc.2 hsupported
  obtain ⟨dec, hdec⟩ := hdec.2 hsupported
  exact ⟨key, publicKey, enc, hkey, hvalid, hpublic, henc, ((h enc dec henc hdec [3]).2 9 rfl).1 () [1, 2]⟩

end Example

end Tink
