import TinkCc.KeyManagerImpl
import TinkCc.KeysetLifecycle
import TinkCc.PrehashSigning
/-!
# KmsEnvelopeAead — envelope encryption, with the registry and the KMS clients

`core/kms_clients.cc`, `aead/kms_aead_key_manager.h`, `aead/kms_envelope_aead_key_manager.h`,
`aead/kms_envelope_aead_key_manager.cc` and `aead/kms_envelope_aead.cc`.  Each plaintext gets a key of its own (a DEK), which
a remote AEAD encrypts.  Both ways the registry of that moment is asked, so a ciphertext has to outlive what the program
registers later.
-/
namespace Tink

open KeyTypeInfoStore (TypeIndex)
open KeyManagerImpl (Manager managerObjects)

/-! ## KMS clients -/

/-- `KmsClient`; an AEAD that is null is `none`. -/
structure KmsClient where
  doesSupport : String → Bool
  getAead     : String → Except Status (Option Aead)

/-- `KmsClients`, in the order in which they were added. -/
abbrev KmsClients := List KmsClient

namespace KmsClients

def localAdd (clients : KmsClients) (kmsClient : Option KmsClient) : Except Status Unit × KmsClients :=
  match kmsClient with
  | none => (.error ⟨.invalidArgument, "kms_client must be non-null."⟩, clients)
  | some kmsClient => (.ok (), clients ++ [kmsClient])

def localGet (clients : KmsClients) (keyUri : String) : Except Status KmsClient :=
  if keyUri.isEmpty then .error ⟨.invalidArgument, "key_uri must be non-empty."⟩
  else
    match clients.find? fun client => client.doesSupport keyUri with
    | some client => .ok client
    | none => .error ⟨.notFound, s!"no KmsClient found for key '{keyUri}'."⟩

/-- The AEAD of the first client that supports the URI. -/
def getAead (clients : KmsClients) (keyUri : String) : Except Status (Option Aead) :=
  match clients.localGet keyUri with
  | .error e => .error e
  | .ok client => client.getAead keyUri

end KmsClients

/-! ## Keys in a KMS -/

structure KmsAeadKeyFormat where
  keyUri : String

structure KmsAeadKeyProto where
  version : UInt32
  params  : KmsAeadKeyFormat

namespace KmsAeadKeyManager

def validateKeyFormat (keyFormat : KmsAeadKeyFormat) : Except Status Unit :=
  if keyFormat.keyUri.isEmpty then .error ⟨.invalidArgument, "Missing key_uri."⟩ else .ok ()

def validateKey (key : KmsAeadKeyProto) : Except Status Unit := do
  validateVersion key.version 0
  validateKeyFormat key.params

def createKey (keyFormat : KmsAeadKeyFormat) : KmsAeadKeyProto := ⟨0, keyFormat⟩

/-- `AeadFactory::Create`. -/
def create (clients : KmsClients) (key : KmsAeadKeyProto) : Except Status (Option Aead) := clients.getAead key.params.keyUri

end KmsAeadKeyManager

/-! ## Envelopes -/

/-- `IsSupportedKmsEnvelopeAeadDekKeyType`. -/
def isSupportedKmsEnvelopeAeadDekKeyType (keyType : String) : Bool :=
  keyType ∈ ["type.googleapis.com/google.crypto.tink.AesGcmKey",
    "type.googleapis.com/google.crypto.tink.XChaCha20Poly1305Key",
    "type.googleapis.com/google.crypto.tink.AesCtrHmacAeadKey",
    "type.googleapis.com/google.crypto.tink.AesEaxKey",
    "type.googleapis.com/google.crypto.tink.AesGcmSivKey"]

structure KmsEnvelopeAead where
  dekTemplate : KeyTemplate
  remoteAead  : Aead

namespace KmsEnvelopeAead

def kEncryptedDekPrefixSize : Nat := 4

def kMaxEncryptedDekSize : Nat := 4096

/-- The size of the encrypted DEK is stored as a `uint32_t`. -/
def getEnvelopeCiphertext (encryptedDek encryptedPlaintext : Bytes) : Bytes :=
  bigEndian32 (UInt32.ofNat encryptedDek.length) ++ encryptedDek ++ encryptedPlaintext

section
variable {ρ : Type} (objects : ManagerObjects SymmetricPrimitive ρ) (registry : Registry SymmetricPrimitive)

def new (dekTemplate : KeyTemplate) (remoteAead : Option Aead) : Except Status KmsEnvelopeAead :=
  if !isSupportedKmsEnvelopeAeadDekKeyType dekTemplate.typeUrl then .error ⟨.invalidArgument, "unsupported key type"⟩
  else
    match remoteAead with
    | none => .error ⟨.invalidArgument, "remote_aead must be non-null"⟩
    | some remoteAead =>
      match registry.getKeyManager objects ⟨"Aead"⟩ dekTemplate.typeUrl with
      | .error e => .error e
      | .ok _ => .ok ⟨dekTemplate, remoteAead⟩

/-- What `Encrypt` draws: the DEK, and for the two AEADs. -/
structure Draws where
  dek    : Bytes
  remote : Bytes
  aead   : Bytes

/-- `Encrypt`; `none` when the registry's primitive is null, and used. -/
def encrypt (envelope : KmsEnvelopeAead) (draws : Draws) (plaintext associatedData : Bytes) : Option (Except Status Bytes) :=
  match registry.newKeyData objects draws.dek envelope.dekTemplate with
  | .error e => some (.error e)
  | .ok dek =>
    match envelope.remoteAead.encrypt draws.remote dek.value [] with
    | .error e => some (.error e)
    | .ok encryptedDek =>
      if encryptedDek.length > kMaxEncryptedDekSize then
        some (.error ⟨.invalidArgument, "length of encrypted DEK too large"⟩)
      else
        match registry.getPrimitive objects ⟨"Aead"⟩ dek with
        | .error e => some (.error e)
        | .ok none => none
        | .ok (some (aead : Aead)) =>
          match aead.encrypt draws.aead plaintext associatedData with
          | .error e => some (.error e)
          | .ok encryptedPlaintext => some (.ok (getEnvelopeCiphertext encryptedDek encryptedPlaintext))

/-- The DEK that a ciphertext is decrypted with. -/
def dekOf (envelope : KmsEnvelopeAead) (value : Bytes) : KeyData := ⟨envelope.dekTemplate.typeUrl, value, .symmetric⟩

/-- `Decrypt`; `none` when the registry's primitive is null, and used. -/
def decrypt (envelope : KmsEnvelopeAead) (ciphertext associatedData : Bytes) : Option (Except Status Bytes) :=
  if ciphertext.length < kEncryptedDekPrefixSize then some (.error ⟨.invalidArgument, "ciphertext too short"⟩)
  else
    let encDekSize := (loadBigEndian32 ciphertext).toNat
    if encDekSize > kMaxEncryptedDekSize ∨ encDekSize > ciphertext.length - kEncryptedDekPrefixSize then
      some (.error ⟨.invalidArgument, "length of encrypted DEK too large"⟩)
    else
      match envelope.remoteAead.decrypt ((ciphertext.drop kEncryptedDekPrefixSize).take encDekSize) [] with
      | .error e =>
        let message := e.message
        some (.error ⟨.invalidArgument, s!"invalid ciphertext: {message}"⟩)
      | .ok value =>
        match registry.getPrimitive objects ⟨"Aead"⟩ (envelope.dekOf value) with
        | .error e => some (.error e)
        | .ok none => none
        | .ok (some (aead : Aead)) =>
          some (aead.decrypt (ciphertext.drop (kEncryptedDekPrefixSize + encDekSize)) associatedData)

end

end KmsEnvelopeAead

structure KmsEnvelopeAeadKeyFormat where
  kekUri      : String
  dekTemplate : KeyTemplate

structure KmsEnvelopeAeadKeyProto where
  version : UInt32
  params  : KmsEnvelopeAeadKeyFormat

namespace KmsEnvelopeAeadKeyManager

def validateKeyFormat (format : KmsEnvelopeAeadKeyFormat) : Except Status Unit :=
  if format.kekUri.isEmpty then .error ⟨.invalidArgument, "Missing kek_uri."⟩
  else if !isSupportedKmsEnvelopeAeadDekKeyType format.dekTemplate.typeUrl then
    .error ⟨.invalidArgument, "unsupported dek key type"⟩
  else .ok ()

def validateKey (key : KmsEnvelopeAeadKeyProto) : Except Status Unit := do
  validateVersion key.version 0
  validateKeyFormat key.params

def createKey (keyFormat : KmsEnvelopeAeadKeyFormat) : KmsEnvelopeAeadKeyProto := ⟨0, keyFormat⟩

/-- `AeadFactory::Create`. -/
def create {ρ : Type} (objects : ManagerObjects SymmetricPrimitive ρ) (registry : Registry SymmetricPrimitive)
    (clients : KmsClients) (key : KmsEnvelopeAeadKeyProto) : Except Status KmsEnvelopeAead :=
  match clients.getAead key.params.kekUri with
  | .error e => .error e
  | .ok remoteAead => KmsEnvelopeAead.new objects registry key.params.dekTemplate remoteAead

end KmsEnvelopeAeadKeyManager

/-! ## The format -/

namespace KmsEnvelopeAead

theorem loadBigEndian32_envelope {encryptedDek : Bytes} (hsize : encryptedDek.length ≤ kMaxEncryptedDekSize)
    (payload : Bytes) : (loadBigEndian32 (getEnvelopeCiphertext encryptedDek payload)).toNat = encryptedDek.length := by
  unfold getEnvelopeCiphertext
  rw [List.append_assoc, loadBigEndian32_append]
  exact UInt32.toNat_ofNat_of_lt' (Nat.lt_of_le_of_lt hsize (by decide))

theorem drop_envelope (encryptedDek payload : Bytes) :
    (getEnvelopeCiphertext encryptedDek payload).drop kEncryptedDekPrefixSize = encryptedDek ++ payload := by
  unfold getEnvelopeCiphertext
  rw [List.append_assoc]
  exact List.drop_left' rfl

/-- Four bytes, and as many as they say, are an envelope. -/
theorem eq_envelope {ciphertext : Bytes} (hword : kEncryptedDekPrefixSize ≤ ciphertext.length)
    (hsize : (loadBigEndian32 ciphertext).toNat ≤ ciphertext.length - kEncryptedDekPrefixSize) :
    let encDekSize := (loadBigEndian32 ciphertext).toNat
    ((ciphertext.drop kEncryptedDekPrefixSize).take encDekSize).length = encDekSize ∧
      ciphertext = getEnvelopeCiphertext ((ciphertext.drop kEncryptedDekPrefixSize).take encDekSize)
        (ciphertext.drop (kEncryptedDekPrefixSize + encDekSize)) := by
  intro encDekSize
  have hlen : ((ciphertext.drop kEncryptedDekPrefixSize).take encDekSize).length = encDekSize := by
    rw [List.length_take, List.length_drop]
    exact Nat.min_eq_left hsize
  refine ⟨hlen, ?_⟩
  have hhead : bigEndian32 (loadBigEndian32 ciphertext) = ciphertext.take kEncryptedDekPrefixSize := by
    match ciphertext, hword with
    | b₀ :: b₁ :: b₂ :: b₃ :: rest, _ => exact bigEndian32_load b₀ b₁ b₂ b₃ rest
  unfold getEnvelopeCiphertext
  rw [hlen, UInt32.ofNat_toNat, hhead, List.append_assoc, ← List.drop_drop, List.take_append_drop, List.take_append_drop]

/-- An envelope is read in one way. -/
theorem getEnvelopeCiphertext_inj {encryptedDek encryptedDek' payload payload' : Bytes}
    (hsize : encryptedDek.length ≤ kMaxEncryptedDekSize) (hsize' : encryptedDek'.length ≤ kMaxEncryptedDekSize)
    (h : getEnvelopeCiphertext encryptedDek payload = getEnvelopeCiphertext encryptedDek' payload') :
    encryptedDek = encryptedDek' ∧ payload = payload' := by
  have hlen : encryptedDek.length = encryptedDek'.length := by
    rw [← loadBigEndian32_envelope hsize payload, h, loadBigEndian32_envelope hsize' payload']
  have hrest := congrArg (List.drop kEncryptedDekPrefixSize) h
  rw [drop_envelope, drop_envelope] at hrest
  exact List.append_inj hrest hlen

section Decrypt
variable {ρ : Type} {objects : ManagerObjects SymmetricPrimitive ρ} {registry : Registry SymmetricPrimitive}
  {envelope : KmsEnvelopeAead}

/-- What `Decrypt` does with an envelope. -/
theorem decrypt_envelope {encryptedDek : Bytes} (hsize : encryptedDek.length ≤ kMaxEncryptedDekSize)
    (payload associatedData : Bytes) :
    envelope.decrypt objects registry (getEnvelopeCiphertext encryptedDek payload) associatedData =
      match envelope.remoteAead.decrypt encryptedDek [] with
      | .error e =>
        let message := e.message
        some (.error ⟨.invalidArgument, s!"invalid ciphertext: {message}"⟩)
      | .ok value =>
        match registry.getPrimitive objects ⟨"Aead"⟩ (envelope.dekOf value) with
        | .error e => some (.error e)
        | .ok none => none
        | .ok (some (aead : Aead)) => some (aead.decrypt payload associatedData) := by
  have hlength : (getEnvelopeCiphertext encryptedDek payload).length =
      kEncryptedDekPrefixSize + (encryptedDek.length + payload.length) := by
    unfold getEnvelopeCiphertext
    rw [List.length_append, List.length_append, Nat.add_assoc]
    rfl
  unfold decrypt
  rw [if_neg (by rw [hlength]; omega), loadBigEndian32_envelope hsize]
  dsimp only
  rw [if_neg (by rw [hlength]; omega), ← List.drop_drop, drop_envelope, List.take_left' rfl, List.drop_left' rfl]

/-- **What is decrypted is an envelope** whose DEK the remote AEAD decrypts, and whose payload the AEAD of that DEK. -/
theorem decrypt_ok {ciphertext associatedData plaintext : Bytes} :
    envelope.decrypt objects registry ciphertext associatedData = some (.ok plaintext) ↔
      ∃ encryptedDek payload value aead, ciphertext = getEnvelopeCiphertext encryptedDek payload ∧
        encryptedDek.length ≤ kMaxEncryptedDekSize ∧ envelope.remoteAead.decrypt encryptedDek [] = .ok value ∧
        registry.getPrimitive objects ⟨"Aead"⟩ (envelope.dekOf value) = .ok (some aead) ∧
        Aead.decrypt aead payload associatedData = .ok plaintext := by
  constructor
  · intro h
    by_cases hword : ciphertext.length < kEncryptedDekPrefixSize
    · unfold decrypt at h
      rw [if_pos hword] at h
      cases h
    · by_cases hbad : (loadBigEndian32 ciphertext).toNat > kMaxEncryptedDekSize ∨
          (loadBigEndian32 ciphertext).toNat > ciphertext.length - kEncryptedDekPrefixSize
      · unfold decrypt at h
        rw [if_neg hword] at h
        dsimp only at h
        rw [if_pos hbad] at h
        cases h
      · rw [not_or] at hbad
        obtain ⟨hlen, heq⟩ := eq_envelope (Nat.le_of_not_lt hword) (Nat.le_of_not_lt hbad.2)
        have hsize := Nat.le_of_not_lt hbad.1
        rw [← hlen] at hsize
        rw [heq, decrypt_envelope hsize] at h
        split at h
        · cases h
        · rename_i value hvalue
          split at h
          · cases h
          · cases h
          · rename_i aead haead
            exact ⟨_, _, value, aead, heq, hsize, hvalue, haead, Option.some.inj h⟩
  · rintro ⟨encryptedDek, payload, value, aead, rfl, hsize, hvalue, haead, hok⟩
    rw [decrypt_envelope hsize, hvalue]
    dsimp only
    rw [haead]
    exact congrArg some hok

end Decrypt

end KmsEnvelopeAead

/-! ## Programs that go on -/

/-- The registry and the KMS clients of a program. -/
structure KmsWorld where
  registry : Registry SymmetricPrimitive
  clients  : KmsClients

inductive KmsEvent
  | register (call : Registry.Call SymmetricPrimitive)
  | addClient (kmsClient : Option KmsClient)

namespace KmsWorld

def step (build : FipsBuild) (w : KmsWorld) : KmsEvent → KmsWorld
  | .register call => { w with registry := (w.registry.step build call).2 }
  | .addClient kmsClient => { w with clients := (w.clients.localAdd kmsClient).2 }

def run (build : FipsBuild) (w : KmsWorld) (events : List KmsEvent) : KmsWorld := events.foldl (step build) w

/-- Nothing that the first world has is replaced in the second. -/
structure Extends (w w' : KmsWorld) : Prop where
  registry : w.registry.Extends w'.registry
  clients  : ∃ added, w'.clients = w.clients ++ added

theorem step_extends {build : FipsBuild} {w : KmsWorld} {event : KmsEvent} (h : event ≠ .register .reset) :
    Extends w (w.step build event) := by
  cases event with
  | register call => exact ⟨Registry.step_extends fun hcall => h (by rw [hcall]), [], (List.append_nil _).symm⟩
  | addClient kmsClient =>
    cases kmsClient with
    | none => exact ⟨.refl _, [], (List.append_nil _).symm⟩
    | some kmsClient => exact ⟨.refl _, [kmsClient], rfl⟩

theorem run_extends {build : FipsBuild} : ∀ {events : List KmsEvent} {w : KmsWorld},
    (∀ event ∈ events, event ≠ .register .reset) → Extends w (w.run build events)
  | [], _, _ => ⟨.refl _, [], (List.append_nil _).symm⟩
  | event :: events, w, h => by
    have hstep : Extends w (w.step build event) := step_extends (h event (List.mem_cons_self ..))
    have hrest : Extends (w.step build event) ((w.step build event).run build events) :=
      run_extends fun e he => h e (List.mem_cons_of_mem _ he)
    obtain ⟨added, hadded⟩ := hstep.clients
    obtain ⟨added', hadded'⟩ := hrest.clients
    exact ⟨hstep.registry.trans hrest.registry, added ++ added', by rw [← List.append_assoc, ← hadded]; exact hadded'⟩

end KmsWorld

/-- The client of a URI stays the first that supports it. -/
theorem KmsClients.getAead_append {clients : KmsClients} (added : KmsClients) {keyUri : String} {aead : Option Aead}
    (h : clients.getAead keyUri = .ok aead) : KmsClients.getAead (clients ++ added) keyUri = .ok aead := by
  unfold getAead localGet at h ⊢
  by_cases hempty : keyUri.isEmpty = true
  · rw [if_pos hempty] at h
    cases h
  · rw [if_neg hempty] at h ⊢
    rw [List.find?_append]
    cases hfind : clients.find? fun client => client.doesSupport keyUri with
    | none =>
      rw [hfind] at h
      cases h
    | some client =>
      rw [hfind] at h
      exact h

theorem KmsClients.getAead_ok {clients : KmsClients} {keyUri : String} {aead : Option Aead}
    (h : clients.getAead keyUri = .ok aead) : ∃ client ∈ clients, client.getAead keyUri = .ok aead := by
  unfold getAead localGet at h
  split at h
  · cases h
  · rename_i client hget
    split at hget
    · cases hget
    · split at hget
      · rename_i found hfind
        cases hget
        exact ⟨client, List.mem_of_find?_eq_some hfind, h⟩
      · cases hget

namespace KmsEnvelopeAead

/-- What `New` has checked. -/
theorem new_ok {ρ : Type} {objects : ManagerObjects SymmetricPrimitive ρ} {registry : Registry SymmetricPrimitive}
    {dekTemplate : KeyTemplate} {remoteAead : Option Aead} {envelope : KmsEnvelopeAead}
    (h : KmsEnvelopeAead.new objects registry dekTemplate remoteAead = .ok envelope) :
    isSupportedKmsEnvelopeAeadDekKeyType dekTemplate.typeUrl = true ∧ envelope.dekTemplate = dekTemplate ∧
      remoteAead = some envelope.remoteAead ∧
      ∃ manager, registry.getKeyManager objects ⟨"Aead"⟩ dekTemplate.typeUrl = .ok manager := by
  unfold KmsEnvelopeAead.new at h
  split at h
  · cases h
  · rename_i hsupported
    cases remoteAead with
    | none => cases h
    | some remoteAead =>
      dsimp only at h
      split at h
      · cases h
      · rename_i manager hmanager
        cases h
        exact ⟨by simpa using hsupported, rfl, rfl, manager, hmanager⟩

theorem new_extends {ρ : Type} {objects : ManagerObjects SymmetricPrimitive ρ}
    {registry registry' : Registry SymmetricPrimitive} (hext : registry.Extends registry') {dekTemplate : KeyTemplate}
    {remoteAead : Option Aead} {envelope : KmsEnvelopeAead}
    (h : KmsEnvelopeAead.new objects registry dekTemplate remoteAead = .ok envelope) :
    KmsEnvelopeAead.new objects registry' dekTemplate remoteAead = .ok envelope := by
  obtain ⟨-, -, -, manager, hmanager⟩ := new_ok h
  have hmanager' : registry'.getKeyManager objects ⟨"Aead"⟩ dekTemplate.typeUrl = .ok manager := by
    unfold Registry.getKeyManager at hmanager ⊢
    split at hmanager
    · cases hmanager
    · rename_i info hget
      obtain ⟨newKeyAllowed, hget', -⟩ := hext.getKeyTypeInfo hget
      rw [hget']
      exact hmanager
  unfold KmsEnvelopeAead.new at h ⊢
  rw [hmanager] at h
  rw [hmanager']
  exact h

section RoundTrip
variable {ρ : Type} {managers : Nat → Manager SymmetricPrimitive ρ} {publicTypes : TypeIndex → String × KeyMaterialType}
  {registry registry' : Registry SymmetricPrimitive} {envelope : KmsEnvelopeAead}

/-- The primitive of a key does not depend on its material type. -/
theorem getPrimitive_dekOf (p : TypeIndex) {dek : KeyData} (hurl : dek.typeUrl = envelope.dekTemplate.typeUrl) :
    registry.getPrimitive (managerObjects managers publicTypes) p (envelope.dekOf dek.value) =
      registry.getPrimitive (managerObjects managers publicTypes) p dek := by
  unfold Registry.getPrimitive dekOf
  dsimp only
  rw [hurl]
  cases registry.getKeyTypeInfo envelope.dekTemplate.typeUrl with
  | error e => rfl
  | ok info =>
    unfold KeyTypeInfoStore.Info.getPrimitive
    dsimp only
    rw [hurl]
    cases info.getKeyManager (managerObjects managers publicTypes) p envelope.dekTemplate.typeUrl with
    | error e => rfl
    | ok manager =>
      unfold managerObjects KeyManagerImpl.KeyTypeManager.getPrimitive
      dsimp only
      rw [hurl]

/-- A null primitive is never used. -/
theorem encrypt_ne_none (hbuilt : KeyManagerImpl.Built managers publicTypes registry) (draws : Draws)
    (plaintext associatedData : Bytes) :
    envelope.encrypt (managerObjects managers publicTypes) registry draws plaintext associatedData ≠ none := by
  intro h
  unfold encrypt at h
  split at h
  · cases h
  · split at h
    · cases h
    · split at h
      · cases h
      · split at h
        · cases h
        · rename_i hprimitive
          obtain ⟨_, _, made, -, -, -, -, -, -, hmade⟩ := hbuilt.getPrimitive hprimitive
          cases hmade
        · split at h
          · cases h
          · cases h

theorem decrypt_ne_none (hbuilt : KeyManagerImpl.Built managers publicTypes registry) (ciphertext associatedData : Bytes) :
    envelope.decrypt (managerObjects managers publicTypes) registry ciphertext associatedData ≠ none := by
  intro h
  unfold decrypt at h
  dsimp only at h
  split at h
  · cases h
  · split at h
    · cases h
    · split at h
      · cases h
      · split at h
        · cases h
        · rename_i hprimitive
          obtain ⟨_, _, made, -, -, -, -, -, -, hmade⟩ := hbuilt.getPrimitive hprimitive
          cases hmade
        · cases h

/-- Later registrations do not change what `Decrypt` does. -/
theorem decrypt_extends {objects : ManagerObjects SymmetricPrimitive ρ} (hext : registry.Extends registry')
    {info : KeyTypeInfoStore.Info} (hget : registry.getKeyTypeInfo envelope.dekTemplate.typeUrl = .ok info)
    (ciphertext associatedData : Bytes) :
    envelope.decrypt objects registry' ciphertext associatedData =
      envelope.decrypt objects registry ciphertext associatedData := by
  have hsame : ∀ value, registry'.getPrimitive objects ⟨"Aead"⟩ (envelope.dekOf value) =
      registry.getPrimitive objects ⟨"Aead"⟩ (envelope.dekOf value) := fun value => hext.getPrimitive_eq hget
  unfold decrypt
  simp only [hsame]

/-- Nor what `Encrypt` does, unless new DEKs can no longer be made. -/
theorem encrypt_extends (hbuilt : KeyManagerImpl.Built managers publicTypes registry) (hext : registry.Extends registry')
    {info : KeyTypeInfoStore.Info} (hget : registry.getKeyTypeInfo envelope.dekTemplate.typeUrl = .ok info)
    (draws : Draws) (plaintext associatedData : Bytes) :
    envelope.encrypt (managerObjects managers publicTypes) registry' draws plaintext associatedData =
        envelope.encrypt (managerObjects managers publicTypes) registry draws plaintext associatedData ∨
      ∃ e, envelope.encrypt (managerObjects managers publicTypes) registry' draws plaintext associatedData =
        some (.error e) := by
  unfold encrypt
  cases hnew : registry'.newKeyData (managerObjects managers publicTypes) draws.dek envelope.dekTemplate with
  | error e => exact .inr ⟨e, rfl⟩
  | ok dek =>
    have hold := hext.newKeyData_of_later hget hnew
    obtain ⟨hurl, -⟩ := hbuilt.newKeyData hold
    rw [hold]
    dsimp only
    rw [hext.getPrimitive_eq (show registry.getKeyTypeInfo dek.typeUrl = .ok info by rw [hurl]; exact hget)]
    exact .inl rfl

/-- The AEADs of all DEKs decrypt what they encrypt. -/
def DeksCorrect (managers : Nat → Manager SymmetricPrimitive ρ) : Prop :=
  ∀ n, isSupportedKmsEnvelopeAeadDekKeyType (managers n).base.keyType = true → ∀ key aead,
    (managers n).base.validateKey key = .ok () → (managers n).base.primitiveFactory ⟨"Aead"⟩ key = .ok aead →
      AeadCorrect aead aead

theorem roundTrip (hbuilt : KeyManagerImpl.Built managers publicTypes registry) (hext : registry.Extends registry')
    (hdeks : DeksCorrect managers) (hremote : AeadCorrect envelope.remoteAead envelope.remoteAead)
    (hsupported : isSupportedKmsEnvelopeAeadDekKeyType envelope.dekTemplate.typeUrl = true) {draws : Draws}
    {plaintext associatedData ciphertext : Bytes}
    (h : envelope.encrypt (managerObjects managers publicTypes) registry draws plaintext associatedData =
      some (.ok ciphertext)) :
    envelope.decrypt (managerObjects managers publicTypes) registry' ciphertext associatedData = some (.ok plaintext) := by
  unfold encrypt at h
  split at h
  · cases h
  · rename_i dek hdek
    obtain ⟨hurl, -⟩ := hbuilt.newKeyData hdek
    split at h
    · cases h
    · rename_i encryptedDek hencrypted
      split at h
      · cases h
      · rename_i hsize
        split at h
        · cases h
        · cases h
        · rename_i aead haead
          split at h
          · cases h
          · rename_i payload hpayload
            cases h
            obtain ⟨info, key, made, hget, htype, -, -, hvalid, hmade, hsame⟩ := hbuilt.getPrimitive haead
            cases hsame
            rw [hurl] at htype
            have hcorrect : AeadCorrect aead aead :=
              hdeks info.manager (by rw [htype]; exact hsupported) key aead hvalid hmade
            have haead' : registry'.getPrimitive (managerObjects managers publicTypes) ⟨"Aead"⟩ (envelope.dekOf dek.value) =
                .ok (some aead) := by
              rw [getPrimitive_dekOf ⟨"Aead"⟩ hurl]
              exact hext.getPrimitive haead
            exact decrypt_ok.2 ⟨encryptedDek, payload, dek.value, aead, rfl, Nat.le_of_not_lt hsize,
              (hremote _ _ _ _ hencrypted).2, haead', (hcorrect _ _ _ _ hpayload).2⟩

end RoundTrip

/-- **Envelopes outlive what the program adds.**  In a program whose registry was filled with key type managers, an envelope
AEAD of a key is the same after any later registrations and KMS clients; what it encrypts then it decrypts at any later time,
also when new DEKs can no longer be made; and a plaintext comes out of envelopes only, whose two parts are determined, out of
a DEK that the KMS has decrypted. -/
theorem kmsEnvelope {ρ : Type} (build : FipsBuild) (managers : Nat → Manager SymmetricPrimitive ρ)
    (publicTypes : TypeIndex → String × KeyMaterialType) (calls : List (Registry.Call SymmetricPrimitive))
    (hcalls : ∀ call ∈ calls, KeyManagerImpl.Suited managers publicTypes call) (clients : KmsClients)
    (events more : List KmsEvent) (hevents : ∀ event ∈ events, event ≠ .register .reset)
    (hmore : ∀ event ∈ more, event ≠ .register .reset) (hdeks : DeksCorrect managers)
    (hkms : ∀ client ∈ clients, ∀ keyUri aead, client.getAead keyUri = .ok (some aead) → AeadCorrect aead aead)
    (key : KmsEnvelopeAeadKeyProto) (envelope : KmsEnvelopeAead) :
    let objects := managerObjects managers publicTypes
    let w : KmsWorld := ⟨Registry.run build {} calls, clients⟩
    let w' := w.run build events
    let w'' := w'.run build more
    KmsEnvelopeAeadKeyManager.create objects w.registry w.clients key = .ok envelope →
    KmsEnvelopeAeadKeyManager.create objects w'.registry w'.clients key = .ok envelope ∧
    (∀ draws plaintext associatedData, envelope.encrypt objects w'.registry draws plaintext associatedData ≠ none ∧
      ∀ ciphertext, envelope.encrypt objects w'.registry draws plaintext associatedData = some (.ok ciphertext) →
        envelope.decrypt objects w''.registry ciphertext associatedData = some (.ok plaintext)) ∧
    ∀ ciphertext associatedData, envelope.decrypt objects w'.registry ciphertext associatedData ≠ none ∧
      ∀ plaintext, envelope.decrypt objects w'.registry ciphertext associatedData = some (.ok plaintext) →
        ∃ encryptedDek payload value aead,
          ciphertext = getEnvelopeCiphertext encryptedDek payload ∧ encryptedDek.length ≤ kMaxEncryptedDekSize ∧
          (∀ encryptedDek' payload', encryptedDek'.length ≤ kMaxEncryptedDekSize →
            ciphertext = getEnvelopeCiphertext encryptedDek' payload' → encryptedDek' = encryptedDek ∧ payload' = payload) ∧
          envelope.remoteAead.decrypt encryptedDek [] = .ok value ∧
          w'.registry.getPrimitive objects ⟨"Aead"⟩ (envelope.dekOf value) = .ok (some aead) ∧
          Aead.decrypt aead payload associatedData = .ok plaintext := by
  intro objects w w' w'' hcreate
  have hbuilt : KeyManagerImpl.Built managers publicTypes w.registry := KeyManagerImpl.built_empty.run hcalls
  have hext : KmsWorld.Extends w w' := KmsWorld.run_extends hevents
  have hlater : KmsWorld.Extends w' w'' := KmsWorld.run_extends hmore
  unfold KmsEnvelopeAeadKeyManager.create at hcreate
  split at hcreate
  · cases hcreate
  · rename_i remoteAead hremote
    obtain ⟨hsupported, htemplate, rfl, manager, hmanager⟩ := new_ok hcreate
    obtain ⟨client, hmem, hclient⟩ := KmsClients.getAead_ok hremote
    have hcorrect : AeadCorrect envelope.remoteAead envelope.remoteAead := hkms client hmem _ _ hclient
    -- the manager of the DEKs is there from the beginning
    obtain ⟨info, hget⟩ : ∃ info, w.registry.getKeyTypeInfo envelope.dekTemplate.typeUrl = .ok info := by
      unfold Registry.getKeyManager at hmanager
      rw [htemplate]
      split at hmanager
      · cases hmanager
      · rename_i info hget
        exact ⟨info, hget⟩
    refine ⟨?_, fun draws plaintext associatedData => ?_, fun ciphertext associatedData => ⟨?_, fun plaintext hok => ?_⟩⟩
    · obtain ⟨added, hadded⟩ := hext.clients
      unfold KmsEnvelopeAeadKeyManager.create
      rw [hadded, KmsClients.getAead_append added hremote]
      exact new_extends hext.registry hcreate
    · rcases encrypt_extends hbuilt hext.registry hget draws plaintext associatedData with hsame | ⟨e, herror⟩
      · rw [hsame]
        refine ⟨encrypt_ne_none hbuilt draws plaintext associatedData, fun ciphertext hok => ?_⟩
        exact roundTrip hbuilt (hext.registry.trans hlater.registry) hdeks hcorrect (by rw [htemplate]; exact hsupported) hok
      · rw [herror]
        exact ⟨by simp, fun ciphertext hok => by cases hok⟩
    · rw [decrypt_extends hext.registry hget]
      exact decrypt_ne_none hbuilt ciphertext associatedData
    · obtain ⟨encryptedDek, payload, value, aead, rfl, hsize, hvalue, haead, hplain⟩ := decrypt_ok.1 hok
      refine ⟨encryptedDek, payload, value, aead, rfl, hsize, fun encryptedDek' payload' hsize' h => ?_, hvalue, haead,
        hplain⟩
      obtain ⟨rfl, rfl⟩ := getEnvelopeCiphertext_inj hsize hsize' h
      exact ⟨rfl, rfl⟩

/-- The bytes, if there are 16 of them. -/
def sixteenBytes (bytes : Bytes) : Except Status Bytes :=
  if bytes.length = 16 then .ok bytes else .error ⟨.invalidArgument, "wrong size"⟩

/-- Keys of 16 bytes, whose AEADs put the first byte in front. -/
def dekManager : KeyManagerImpl.KeyTypeManager SymmetricPrimitive Unit where
  Key := Bytes
  KeyFormat := Unit
  keyType := "type.googleapis.com/google.crypto.tink.AesGcmKey"
  keyName := "google.crypto.tink.AesGcmKey"
  keyMaterialType := .symmetric
  keyFactory := some {
    keyFormatName := "google.crypto.tink.AesGcmKeyFormat"
    parseKeyFormat := fun _ => some ()
    validateKeyFormat := fun _ => .ok ()
    createKey := fun random _ => sixteenBytes random
    deriveKey := fun _ => (.error ⟨.unimplemented, "Deriving key not implemented for this key type."⟩, ·) }
  parseKey := some
  serializeKey := id
  validateKey key := (sixteenBytes key).map fun _ => ()
  primitives := [⟨"Aead"⟩]
  primitiveFactory p key :=
    if h : p = ⟨"Aead"⟩ then .ok (h ▸ (taggedAead (key.headD 0) : SymmetricPrimitive ⟨"Aead"⟩))
    else .error ⟨.invalidArgument, ""⟩

def registerDeks (newKeyAllowed : Bool) : Registry.Call SymmetricPrimitive :=
  .registerKeyTypeManager (some ⟨0, ⟨"AesGcmKeyManager"⟩, dekManager.keyType, .requiresBoringCrypto⟩) newKeyAllowed

theorem registerDeks_suited :
    KeyManagerImpl.Suited (fun _ => .keyTypeManager dekManager) (fun _ => ("", .asymmetricPublic)) (registerDeks true) where
  noKeyManager := by
    intro manager newKeyAllowed h
    cases h
  registered := by
    rintro m h
    cases h
    refine ⟨rfl, rfl, fun key _ => rfl, fun factory hfactory random keyFormat key _ hkey => ?_⟩
    cases hfactory
    change sixteenBytes random = .ok key at hkey
    change (sixteenBytes key).map (fun _ => ()) = .ok ()
    unfold sixteenBytes at hkey
    split at hkey
    · rename_i hsize
      cases hkey
      unfold sixteenBytes
      rw [if_pos hsize]
      rfl
    · cases hkey
  pairs := by
    intro privateManager publicManager newKeyAllowed h
    cases h

/-- A KMS with one key. -/
def oneKeyClient : KmsClient := ⟨fun keyUri => keyUri == "kms://kek", fun _ => .ok (some (taggedAead 9))⟩

def kekKey : KmsEnvelopeAeadKeyProto := ⟨0, "kms://kek", dekManager.keyType, [], .tink⟩

/-- The type is closed for new keys, and another client is added. -/
theorem kmsEnvelope_closed :
    KmsEnvelopeAead.decrypt (managerObjects (fun _ => .keyTypeManager dekManager) fun _ => ("", .asymmetricPublic))
      (KmsWorld.run ⟨false, false⟩ ⟨Registry.run ⟨false, false⟩ {} [registerDeks true], [oneKeyClient]⟩
        [.addClient (some oneKeyClient), .register (registerDeks false)]).registry
      ⟨kekKey.params.dekTemplate, taggedAead 9⟩ ([0, 0, 0, 17, 9] ++ List.replicate 16 7 ++ [7, 1, 2]) [] =
        some (.ok [1, 2]) := by
  have hdeks : DeksCorrect fun _ => Manager.keyTypeManager dekManager := by
    intro n _ key aead _ hmade
    cases hmade
    exact taggedAead_correct _
  have hkms : ∀ client ∈ [oneKeyClient], ∀ keyUri aead, client.getAead keyUri = .ok (some aead) → AeadCorrect aead aead := by
    intro client hclient keyUri aead haead
    obtain rfl := List.mem_singleton.1 hclient
    cases haead
    exact taggedAead_correct 9
  exact ((kmsEnvelope ⟨false, false⟩ (fun _ => .keyTypeManager dekManager) (fun _ => ("", .asymmetricPublic))
    [registerDeks true] (fun call hcall => by rw [List.mem_singleton.1 hcall]; exact registerDeks_suited) [oneKeyClient]
    [] [.addClient (some oneKeyClient), .register (registerDeks false)] (by simp) (by simp [registerDeks]) hdeks hkms kekKey
    ⟨kekKey.params.dekTemplate, taggedAead 9⟩ rfl).2.1 ⟨List.replicate 16 7, [], []⟩ [1, 2] []).2 _ rfl

end KmsEnvelopeAead

end Tink
