import TinkCc.EciesKeys
import TinkCc.KeyManagers
import TinkCc.SetWrapper
/-!
# EciesDemHelper — the DEM of an ECIES key

`hybrid/internal/ecies_aead_hkdf_dem_helper.cc`.  A key template says how long the DEM key is; for AES-CTR-HMAC that is the
sum of two sizes, in 32 bits, and the key is cut at the first of them.
-/
namespace Tink

/-- `AeadOrDaead`. -/
inductive AeadOrDaead
  | aead (primitive : Aead)
  | daead (primitive : DeterministicAead)

def wrapAead : Except Status Aead → Except Status AeadOrDaead
  | .error e => .error e
  | .ok primitive => .ok (.aead primitive)

def wrapDaead : Except Status DeterministicAead → Except Status AeadOrDaead
  | .error e => .error e
  | .ok primitive => .ok (.daead primitive)

/-- The generated parsers of the key formats and the primitives. -/
structure DemLibrary where
  parseAesGcmKeyFormat            : Bytes → Option AesGcmKeyFormat
  parseAesCtrHmacAeadKeyFormat    : Bytes → Option AesCtrHmacAeadKeyFormat
  parseXChaCha20Poly1305KeyFormat : Bytes → Option XChaCha20Poly1305KeyFormat
  parseAesSivKeyFormat            : Bytes → Option AesSivKeyFormat
  newAesGcm                       : Bytes → Except Status Aead
  newXChacha20Poly1305            : Bytes → Except Status Aead
  newAesSiv                       : Bytes → Except Status DeterministicAead
  /-- `AesCtrHmacAeadKeyManager().GetPrimitive<Aead>`. -/
  aesCtrHmacPrimitive             : AesCtrHmacAeadKeyProto → Except Status Aead

/-- `absl::string_view::substr`; `none` where it is out of range. -/
def substr (view : Bytes) (pos : Nat) : Option Bytes := if pos ≤ view.length then some (view.drop pos) else none

theorem substr_of_le {view : Bytes} {pos : Nat} (h : pos ≤ view.length) : substr view pos = some (view.drop pos) :=
  if_pos h

theorem substr_of_lt {view : Bytes} {pos : Nat} (h : view.length < pos) : substr view pos = none :=
  if_neg (Nat.not_le.2 h)

namespace EciesAeadHkdfDemHelper

inductive DemKeyType
  | aesGcmKey
  | aesCtrHmacAeadKey
  | xchacha20Poly1305Key
  | aesSivKey
  deriving DecidableEq, Repr

structure DemKeyParams where
  keyType                : DemKeyType
  keySizeInBytes         : UInt32
  aesCtrKeySizeInBytes   : UInt32 := 0
  aesCtrKeyIvSizeInBytes : UInt32 := 0
  hmacKeyHash            : HashTypeProto := .unknownHash
  hmacKeyTagSizeInBytes  : UInt32 := 0
  deriving DecidableEq, Repr

variable (library : DemLibrary)

/-- The branch of AES-CTR-HMAC. -/
def aesCtrHmacKeyParams (keyFormat : AesCtrHmacAeadKeyFormat) : Except Status DemKeyParams := do
  validateAesKeySize keyFormat.aesCtrKeyFormat.keySize.toNat
  if keyFormat.hmacKeyFormat.keySize < 16 then .error ⟨.invalidArgument, "HMAC key size is too small."⟩
  else
    -- a sum in 32 bits
    let demKeySize := keyFormat.aesCtrKeyFormat.keySize + keyFormat.hmacKeyFormat.keySize
    .ok { keyType := .aesCtrHmacAeadKey
          keySizeInBytes := demKeySize
          aesCtrKeySizeInBytes := keyFormat.aesCtrKeyFormat.keySize
          aesCtrKeyIvSizeInBytes := keyFormat.aesCtrKeyFormat.params.ivSize
          hmacKeyHash := keyFormat.hmacKeyFormat.params.hash
          hmacKeyTagSizeInBytes := keyFormat.hmacKeyFormat.params.tagSize }

def getKeyParams (keyTemplate : KeyTemplate) : Except Status DemKeyParams :=
  if keyTemplate.typeUrl = aesGcmKeyUrl then
    match library.parseAesGcmKeyFormat keyTemplate.value with
    | none => .error ⟨.invalidArgument, "Invalid AesGcmKeyFormat in DEM key template"⟩
    | some keyFormat => do
      validateAesKeySize keyFormat.keySize.toNat
      .ok { keyType := .aesGcmKey, keySizeInBytes := keyFormat.keySize }
  else if keyTemplate.typeUrl = aesCtrHmacKeyUrl then
    match library.parseAesCtrHmacAeadKeyFormat keyTemplate.value with
    | none => .error ⟨.invalidArgument, "Invalid AesCtrHmacKeyFormat in DEM key template"⟩
    | some keyFormat => aesCtrHmacKeyParams keyFormat
  else if keyTemplate.typeUrl = xChaChaKeyUrl then
    match library.parseXChaCha20Poly1305KeyFormat keyTemplate.value with
    | none => .error ⟨.invalidArgument, "Invalid XChaCha20KeyFormat in DEM key template"⟩
    | some _ => .ok { keyType := .xchacha20Poly1305Key, keySizeInBytes := 32 }
  else if keyTemplate.typeUrl = aesSivKeyUrl then
    match library.parseAesSivKeyFormat keyTemplate.value with
    | none => .error ⟨.invalidArgument, "Invalid AesSiveKeyFormat in DEM key template"⟩
    | some keyFormat =>
      if keyFormat.keySize ≠ 64 then .error ⟨.invalidArgument, "AES-SIV key has invalid size."⟩
      else .ok { keyType := .aesSivKey, keySizeInBytes := keyFormat.keySize }
  else
    let typeUrl := keyTemplate.typeUrl
    .error ⟨.invalidArgument, s!"Unsupported DEM key type '{typeUrl}'."⟩

/-- The key that an AES key and an HMAC key make. -/
def aesCtrHmacKey (keyParams : DemKeyParams) (aesCtrKeyValue hmacKeyValue : Bytes) : AesCtrHmacAeadKeyProto where
  version := 0
  aesCtrKey := { version := 0, params := ⟨keyParams.aesCtrKeyIvSizeInBytes⟩, keyValue := aesCtrKeyValue }
  hmacKey :=
    { version := 0, params := ⟨keyParams.hmacKeyHash, keyParams.hmacKeyTagSizeInBytes⟩, keyValue := hmacKeyValue }

/-- `GetAeadOrDaead`; `none` where a substring is out of range. -/
def getAeadOrDaead (keyParams : DemKeyParams) (symmetricKeyValue : Bytes) : Option (Except Status AeadOrDaead) :=
  if symmetricKeyValue.length ≠ keyParams.keySizeInBytes.toNat then
    some (.error ⟨.internal, "Wrong length of symmetric key."⟩)
  else
    match keyParams.keyType with
    | .aesGcmKey => some (wrapAead (library.newAesGcm symmetricKeyValue))
    | .aesCtrHmacAeadKey => do
      let aesCtrKeyValue := (← substr symmetricKeyValue 0).take keyParams.aesCtrKeySizeInBytes.toNat
      let hmacKeyValue ← substr symmetricKeyValue keyParams.aesCtrKeySizeInBytes.toNat
      return wrapAead (library.aesCtrHmacPrimitive (aesCtrHmacKey keyParams aesCtrKeyValue hmacKeyValue))
    | .xchacha20Poly1305Key => some (wrapAead (library.newXChacha20Poly1305 symmetricKeyValue))
    | .aesSivKey => some (wrapDaead (library.newAesSiv symmetricKeyValue))

variable {library}

/-! ## The cut -/

/-- **A key of the size asked for is cut inside it**, and for AES-CTR-HMAC into keys of the template's sizes. -/
def SplitsSafely (library : DemLibrary) (keyTemplate : KeyTemplate) (keyParams : DemKeyParams) : Prop :=
  ∀ key : Bytes, key.length = keyParams.keySizeInBytes.toNat →
    getAeadOrDaead library keyParams key ≠ none ∧
    ∀ keyFormat, keyTemplate.typeUrl = aesCtrHmacKeyUrl →
      library.parseAesCtrHmacAeadKeyFormat keyTemplate.value = some keyFormat →
      ∃ aesCtrKeyValue hmacKeyValue, key = aesCtrKeyValue ++ hmacKeyValue ∧
        aesCtrKeyValue.length = keyFormat.aesCtrKeyFormat.keySize.toNat ∧
        hmacKeyValue.length = keyFormat.hmacKeyFormat.keySize.toNat ∧
        getAeadOrDaead library keyParams key =
          some (wrapAead (library.aesCtrHmacPrimitive (aesCtrHmacKey keyParams aesCtrKeyValue hmacKeyValue)))

/-- The two sizes of an AES-CTR-HMAC template can be added in 32 bits. -/
def SizesFit (library : DemLibrary) (keyTemplate : KeyTemplate) : Prop :=
  ∀ keyFormat, keyTemplate.typeUrl = aesCtrHmacKeyUrl →
    library.parseAesCtrHmacAeadKeyFormat keyTemplate.value = some keyFormat →
    keyFormat.aesCtrKeyFormat.keySize.toNat + keyFormat.hmacKeyFormat.keySize.toNat < 2 ^ 32

theorem aesCtrHmacKeyParams_ok {keyFormat : AesCtrHmacAeadKeyFormat} {keyParams : DemKeyParams}
    (h : aesCtrHmacKeyParams keyFormat = .ok keyParams) :
    keyParams.keyType = .aesCtrHmacAeadKey ∧
    keyParams.keySizeInBytes = keyFormat.aesCtrKeyFormat.keySize + keyFormat.hmacKeyFormat.keySize ∧
    keyParams.aesCtrKeySizeInBytes = keyFormat.aesCtrKeyFormat.keySize := by
  obtain ⟨-, -, h⟩ := bind_eq_ok h
  by_cases hsmall : keyFormat.hmacKeyFormat.keySize < 16
  · cases (if_pos hsmall).symm.trans h
  · obtain rfl := Except.ok.inj ((if_neg hsmall).symm.trans h)
    exact ⟨rfl, rfl, rfl⟩

/-- Only the branch of AES-CTR-HMAC makes keys of that type. -/
theorem getKeyParams_ok {keyTemplate : KeyTemplate} {keyParams : DemKeyParams}
    (h : getKeyParams library keyTemplate = .ok keyParams) :
    (keyTemplate.typeUrl ≠ aesCtrHmacKeyUrl ∧ keyParams.keyType ≠ .aesCtrHmacAeadKey) ∨
    (keyTemplate.typeUrl = aesCtrHmacKeyUrl ∧ ∃ keyFormat,
      library.parseAesCtrHmacAeadKeyFormat keyTemplate.value = some keyFormat ∧
      aesCtrHmacKeyParams keyFormat = .ok keyParams) := by
  unfold getKeyParams at h
  by_cases hgcm : keyTemplate.typeUrl = aesGcmKeyUrl
  · rw [if_pos hgcm] at h
    refine .inl ⟨by rw [hgcm]; decide, ?_⟩
    cases hp : library.parseAesGcmKeyFormat keyTemplate.value with
    | none =>
      rw [hp] at h
      cases h
    | some keyFormat =>
      rw [hp] at h
      obtain ⟨-, -, hok⟩ := bind_eq_ok h
      obtain rfl := Except.ok.inj hok
      simp
  rw [if_neg hgcm] at h
  by_cases hctr : keyTemplate.typeUrl = aesCtrHmacKeyUrl
  · rw [if_pos hctr] at h
    cases hp : library.parseAesCtrHmacAeadKeyFormat keyTemplate.value with
    | none =>
      rw [hp] at h
      cases h
    | some keyFormat =>
      rw [hp] at h
      exact .inr ⟨hctr, keyFormat, rfl, h⟩
  rw [if_neg hctr] at h
  refine .inl ⟨hctr, ?_⟩
  by_cases hxchacha : keyTemplate.typeUrl = xChaChaKeyUrl
  · rw [if_pos hxchacha] at h
    cases hp : library.parseXChaCha20Poly1305KeyFormat keyTemplate.value with
    | none =>
      rw [hp] at h
      cases h
    | some keyFormat =>
      rw [hp] at h
      obtain rfl := Except.ok.inj h
      simp
  rw [if_neg hxchacha] at h
  by_cases hsiv : keyTemplate.typeUrl = aesSivKeyUrl
  · rw [if_pos hsiv] at h
    cases hp : library.parseAesSivKeyFormat keyTemplate.value with
    | none =>
      rw [hp] at h
      cases h
    | some keyFormat =>
      rw [hp] at h
      by_cases hsize : keyFormat.keySize ≠ 64
      · cases (if_pos hsize).symm.trans h
      · obtain rfl := Except.ok.inj ((if_neg hsize).symm.trans h)
        simp
  · cases (if_neg hsiv).symm.trans h

/-- `GetAeadOrDaead` of AES-CTR-HMAC cuts at the size of the AES key. -/
theorem getAeadOrDaead_aesCtrHmac (library : DemLibrary) {keyParams : DemKeyParams} (htype : keyParams.keyType = .aesCtrHmacAeadKey)
    {key : Bytes} (hlen : key.length = keyParams.keySizeInBytes.toNat) :
    getAeadOrDaead library keyParams key =
      (substr key keyParams.aesCtrKeySizeInBytes.toNat).map fun hmacKeyValue =>
        wrapAead (library.aesCtrHmacPrimitive
          (aesCtrHmacKey keyParams (key.take keyParams.aesCtrKeySizeInBytes.toNat) hmacKeyValue)) := by
  unfold getAeadOrDaead
  rw [if_neg (not_not_intro hlen), htype]
  rw [substr_of_le (Nat.zero_le _)]
  cases substr key keyParams.aesCtrKeySizeInBytes.toNat with
  | none => rfl
  | some hmacKeyValue => rfl

/-- The other types cut nothing. -/
theorem getAeadOrDaead_other {keyParams : DemKeyParams} (htype : keyParams.keyType ≠ .aesCtrHmacAeadKey) (key : Bytes) :
    getAeadOrDaead library keyParams key ≠ none := by
  unfold getAeadOrDaead
  by_cases hlen : key.length ≠ keyParams.keySizeInBytes.toNat
  · rw [if_pos hlen]
    exact Option.some_ne_none _
  · rw [if_neg hlen]
    cases ht : keyParams.keyType with
    | aesCtrHmacAeadKey => exact absurd ht htype
    | aesGcmKey => exact Option.some_ne_none _
    | xchacha20Poly1305Key => exact Option.some_ne_none _
    | aesSivKey => exact Option.some_ne_none _

/-- **The cut is inside the key exactly when the sizes can be added in 32 bits.** -/
theorem splitsSafely_iff (library : DemLibrary) (keyTemplate : KeyTemplate) (keyParams : DemKeyParams)
    (h : getKeyParams library keyTemplate = .ok keyParams) :
    SplitsSafely library keyTemplate keyParams ↔ SizesFit library keyTemplate := by
  rcases getKeyParams_ok h with ⟨hurl, htype⟩ | ⟨hurl, keyFormat, hparse, hparams⟩
  · exact ⟨fun _ _ hurl' => absurd hurl' hurl,
      fun _ key _ => ⟨getAeadOrDaead_other htype key, fun _ hurl' => absurd hurl' hurl⟩⟩
  obtain ⟨htype, hsize, haes⟩ := aesCtrHmacKeyParams_ok hparams
  have hsum : keyParams.keySizeInBytes.toNat =
      (keyFormat.aesCtrKeyFormat.keySize.toNat + keyFormat.hmacKeyFormat.keySize.toNat) % 2 ^ 32 := by
    rw [hsize, UInt32.toNat_add]
  have haes : keyParams.aesCtrKeySizeInBytes.toNat = keyFormat.aesCtrKeyFormat.keySize.toNat := congrArg _ haes
  constructor
  · -- a sum that wraps around is smaller than the AES key
    intro hsafe keyFormat' _ hparse'
    obtain rfl := Option.some.inj (hparse.symm.trans hparse')
    obtain ⟨hcut, -⟩ := hsafe (List.replicate keyParams.keySizeInBytes.toNat 0) List.length_replicate
    rw [getAeadOrDaead_aesCtrHmac library htype List.length_replicate] at hcut
    by_contra hwrap
    refine hcut ?_
    rw [substr_of_lt, Option.map_none]
    have hlt := keyFormat.hmacKeyFormat.keySize.toNat_lt
    rw [List.length_replicate, hsum, haes]
    omega
  · intro hfit key hlen
    have hfit := hfit keyFormat hurl hparse
    rw [Nat.mod_eq_of_lt hfit] at hsum
    have hle : keyParams.aesCtrKeySizeInBytes.toNat ≤ key.length := by omega
    have heq := getAeadOrDaead_aesCtrHmac library htype hlen
    rw [substr_of_le hle, Option.map_some] at heq
    refine ⟨by rw [heq]; exact Option.some_ne_none _, fun keyFormat' _ hparse' => ?_⟩
    obtain rfl := Option.some.inj (hparse.symm.trans hparse')
    refine ⟨_, _, (List.take_append_drop _ key).symm, ?_, ?_, heq⟩
    · rw [List.length_take, haes]
      omega
    · rw [List.length_drop, haes]
      omega

/-- AES-128-CTR with HMAC-SHA256, and the size of the HMAC key. -/
def aes128CtrHmacSha256KeyFormat (hmacKeySize : UInt32) : AesCtrHmacAeadKeyFormat where
  aesCtrKeyFormat := { params := ⟨16⟩, keySize := 16 }
  hmacKeyFormat := { params := ⟨.sha256, 16⟩, keySize := hmacKeySize, version := 0 }

/-- The format with an HMAC key of 32 bytes, and one with an HMAC key of 2^32 - 1 bytes, as they are serialized. -/
def demTemplate : KeyTemplate where
  typeUrl := aesCtrHmacKeyUrl
  value := [0x0a, 6, 0x0a, 2, 8, 16, 0x10, 16, 0x12, 8, 0x0a, 4, 8, 3, 0x10, 16, 0x10, 32]
  outputPrefixType := .raw

def wrappingDemTemplate : KeyTemplate where
  typeUrl := aesCtrHmacKeyUrl
  value := [0x0a, 6, 0x0a, 2, 8, 16, 0x10, 16, 0x12, 12, 0x0a, 4, 8, 3, 0x10, 16, 0x10, 0xff, 0xff, 0xff, 0xff, 0x0f]
  outputPrefixType := .raw

/-- Parsers that know the two, and primitives that do nothing. -/
def demLibrary : DemLibrary where
  parseAesGcmKeyFormat _ := none
  parseAesCtrHmacAeadKeyFormat value :=
    if value = demTemplate.value then some (aes128CtrHmacSha256KeyFormat 32)
    else if value = wrappingDemTemplate.value then some (aes128CtrHmacSha256KeyFormat 0xffffffff)
    else none
  parseXChaCha20Poly1305KeyFormat _ := none
  parseAesSivKeyFormat _ := none
  newAesGcm _ := .error ⟨.unimplemented, "AES-GCM"⟩
  newXChacha20Poly1305 _ := .error ⟨.unimplemented, "XChaCha20-Poly1305"⟩
  newAesSiv _ := .error ⟨.unimplemented, "AES-SIV"⟩
  aesCtrHmacPrimitive _ := .ok ⟨fun _ plaintext _ => .ok plaintext, fun ciphertext _ => .ok ciphertext⟩

theorem splitsSafely_iff_template : ∃ keyParams, getKeyParams demLibrary demTemplate = .ok keyParams ∧
    keyParams.keySizeInBytes = 48 ∧ SplitsSafely demLibrary demTemplate keyParams := by
  refine ⟨_, rfl, rfl, (splitsSafely_iff demLibrary demTemplate _ rfl).2 fun keyFormat _ hparse => ?_⟩
  have hformat : demLibrary.parseAesCtrHmacAeadKeyFormat demTemplate.value = some (aes128CtrHmacSha256KeyFormat 32) := rfl
  obtain rfl := Option.some.inj (hformat.symm.trans hparse)
  decide

/-- A DEM key of 15 bytes is asked for, and cut at 16. -/
theorem not_splitsSafely : ∃ keyParams, getKeyParams demLibrary wrappingDemTemplate = .ok keyParams ∧
    keyParams.keySizeInBytes = 15 ∧ ¬ SplitsSafely demLibrary wrappingDemTemplate keyParams :=
  ⟨_, rfl, rfl, fun h => (h (List.replicate 15 0) (by decide)).1 (by decide)⟩

end EciesAeadHkdfDemHelper

end Tink
