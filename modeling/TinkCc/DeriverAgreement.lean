import TinkCc.PrfBasedDeriver
/-!
# DeriverAgreement — key managers and parameters agree, type by type

For each of the five types: what the key manager accepts and makes, what the deriver of the parameters makes, and
`Agrees`.  The keys are equal protos, but for ECDSA, where the integers are padded in one of them.
-/
namespace Tink

variable {σ : Type} [InputStream σ] {S : Bytes} {At : σ → Cursor → Prop} {Failed : σ → Prop} {s s' : σ}

/-! ## HMAC -/

theorem HashTypeProto.isNamed_of_maxTagSize {hash : HashTypeProto} {maxTagSize : UInt32}
    (h : hash.maxTagSize = some maxTagSize) : hash.IsNamed := by
  rintro value rfl
  cases h

namespace HmacKeyManager

theorem validateParams_named {params : HmacParamsProto} (h : validateParams params = .ok ()) : params.hash.IsNamed := by
  unfold validateParams at h
  dsimp only at h
  split at h
  · cases h
  · split at h
    · cases h
    · rename_i hmax
      exact HashTypeProto.isNamed_of_maxTagSize hmax

theorem validateKeyFormat_ok {format : HmacKeyFormat} (h : validateKeyFormat format = .ok ()) :
    validateParams format.params = .ok () := by
  unfold validateKeyFormat at h
  split at h
  · cases h
  · exact h

theorem validateKey_iff {key : HmacKeyProto} (hversion : key.version = 0) :
    validateKey key = .ok () ↔ 16 ≤ key.keyValue.length ∧ validateParams key.params = .ok () := by
  unfold validateKey
  rw [hversion]
  show (if key.keyValue.length < 16 then _ else _) = _ ↔ _
  by_cases h : key.keyValue.length < 16
  · rw [if_pos h]
    exact iff_of_false (fun h' => by cases h') (fun h' => by omega)
  · rw [if_neg h]
    exact ⟨fun h' => ⟨by omega, h'⟩, fun h' => h'.2⟩

theorem deriveKey_ok {format : HmacKeyFormat} {key : HmacKeyProto} (h : deriveKey format s = (.ok key, s')) :
    format.version = 0 ∧ ∃ bytes, readSecretBytesFromStream (asInt format.keySize) s = (.ok bytes, s') ∧
      key = ⟨0, format.params, bytes⟩ := by
  unfold deriveKey at h
  split at h
  · cases h
  · rename_i hversion
    refine ⟨validateVersion_zero hversion, ?_⟩
    split at h
    · cases h
    · rename_i bytes s₁ hread
      cases h
      exact ⟨bytes, readPseudorandomness_ok hread, rfl⟩

theorem deriveKey_error {format : HmacKeyFormat} {e : Status} (h : deriveKey format s = (.error e, s')) :
    s' = s ∧ format.version ≠ 0 ∨ ∃ e', readSecretBytesFromStream (asInt format.keySize) s = (.error e', s') := by
  unfold deriveKey at h
  split at h
  · rename_i e' hversion
    cases h
    refine .inl ⟨rfl, fun h0 => ?_⟩
    rw [h0] at hversion
    cases hversion
  · split at h
    · rename_i e' s₁ hread
      cases h
      exact .inr (readPseudorandomness_error hread)
    · cases h

end HmacKeyManager

theorem HmacParameters.create_ok {keySize tagSize : Int} {hashType : ParametersHash} {variant : KeyVariant}
    {parameters : HmacParameters} (h : HmacParameters.create keySize tagSize hashType variant = .ok parameters) :
    parameters.keySizeInBytes = keySize ∧ parameters.cryptographicTagSizeInBytes = tagSize ∧
      parameters.hashType = hashType ∧ parameters.variant = variant := by
  unfold HmacParameters.create at h
  split at h
  · split at h
    · cases h
    · split at h
      · cases h
      · split at h
        · cases h
        · cases h
          exact ⟨rfl, rfl, rfl, rfl⟩
  · cases h

theorem parseHmacParameters_ok {format : HmacKeyFormat} {prefixType : OutputPrefixType} {parameters : HmacParameters}
    (h : parseHmacParameters format prefixType = .ok parameters) :
    format.version = 0 ∧ parameters.keySizeInBytes = asInt format.keySize ∧
      parameters.cryptographicTagSizeInBytes = asInt format.params.tagSize ∧
      parameters.hashType.toProto = format.params.hash := by
  unfold parseHmacParameters at h
  split at h
  · cases h
  · rename_i hversion
    obtain ⟨variant, -, h⟩ := bind_eq_ok h
    obtain ⟨hashType, hhash, h⟩ := bind_eq_ok h
    obtain ⟨hkey, htag, heq, -⟩ := HmacParameters.create_ok h
    exact ⟨not_not.1 hversion, hkey, htag, by rw [heq]; exact toHashType_ok hhash⟩

theorem deriveHmacKey_ok {params : HmacParameters} {key : HmacKey} (h : deriveHmacKey params s = (.ok key, s')) :
    ∃ bytes, readSecretBytesFromStream params.keySizeInBytes s = (.ok bytes, s') ∧ key.parameters = params ∧
      key.keyBytes = bytes := by
  unfold deriveHmacKey at h
  split at h
  · cases h
  · rename_i bytes s₁ hread
    obtain ⟨hcreate, rfl⟩ := Prod.mk.inj h
    refine ⟨bytes, hread, ?_⟩
    unfold HmacKey.create at hcreate
    split at hcreate
    · obtain ⟨-, -, rfl⟩ := map_eq_ok hcreate
      exact ⟨rfl, rfl⟩
    · cases hcreate

/-- **HMAC keys.** -/
theorem DeriverLibraries.hmac_agrees (libs : DeriverLibraries) (hr : PrfStream S At Failed) :
    Agrees libs.hmacType S (fun key material => key.keyValue = material) (fun s => ∃ last, At s ⟨0, last⟩) where
  typeUrl := rfl
  keyMaterialType := rfl
  named h := HmacKeyManager.validateParams_named (HmacKeyManager.validateKeyFormat_ok h)
  manager := by
    rintro s format key ⟨last, hat⟩ ⟨hformat, ⟨s', hderive⟩, hkey⟩
    obtain ⟨-, bytes, hread, rfl⟩ := HmacKeyManager.deriveKey_ok hderive
    obtain ⟨hlen, -⟩ := (HmacKeyManager.validateKey_iff rfl).1 hkey
    obtain ⟨hbytes, hle, -⟩ := readSecretBytesFromStream_start hr hat hread
    exact ⟨HmacKeyManager.validateParams_named (HmacKeyManager.validateKeyFormat_ok hformat), _, hlen, hle, hbytes⟩
  map := by
    rintro s format proto ⟨last, hat⟩ ⟨params, key, s', -, hderive, hproto⟩
    obtain ⟨bytes, hread, hparams, rfl⟩ := deriveHmacKey_ok hderive
    cases hproto
    obtain ⟨hbytes, hle, hlen⟩ := readSecretBytesFromStream_start hr hat hread
    refine ⟨ParametersHash.toProto_isNamed _, _, ?_, hle, hbytes⟩
    have := params.keySize_ge
    omega
  same := by
    rintro s format key proto - ⟨-, ⟨s₁, h₁⟩, -⟩ ⟨params, key', s₂, hparse, h₂, hproto⟩
    obtain ⟨-, bytes, hread, rfl⟩ := HmacKeyManager.deriveKey_ok h₁
    obtain ⟨bytes', hread', rfl, rfl⟩ := deriveHmacKey_ok h₂
    obtain ⟨-, hsize, htag, hhash⟩ := parseHmacParameters_ok hparse
    rw [hsize, hread] at hread'
    cases hread'
    cases hproto
    show _ = parseHmacKey (serializeHmacKey key')
    rw [serializeHmacKey, htag, hhash, asUInt32_asInt]
    rfl
  retry := by
    rintro s s' format proto ⟨last, hat⟩ hformat hfails ⟨params, key, s₂, hparse, hderive, -⟩
    obtain ⟨bytes, hread, -⟩ := deriveHmacKey_ok hderive
    obtain ⟨hversion, hsize, -⟩ := parseHmacParameters_ok hparse
    have hge := params.keySize_ge
    have hvalid : ∀ key, HmacKeyManager.deriveKey format s = (.ok key, s') → HmacKeyManager.validateKey key = .ok () := by
      -- the key has the size that the parameters ask for
      intro key hkey
      obtain ⟨-, bytes', hread', rfl⟩ := HmacKeyManager.deriveKey_ok hkey
      obtain ⟨-, -, hlen⟩ := readSecretBytesFromStream_start hr hat hread'
      exact (HmacKeyManager.validateKey_iff rfl).2 ⟨by simp only; omega, HmacKeyManager.validateKeyFormat_ok hformat⟩
    obtain ⟨e, he⟩ := hfails.deriveKey_error hvalid
    rcases HmacKeyManager.deriveKey_error he with ⟨hsame, -⟩ | ⟨e', he'⟩
    · exact hsame
    · exact absurd (readSecretBytesFromStream_error hr hat he') (not_failed_of_read hr (by omega) hread)

/-! ## AES-GCM-HKDF streaming -/

theorem validateAesKeySize_ok {keySize : Nat} (h : validateAesKeySize keySize = .ok ()) : keySize = 16 ∨ keySize = 32 := by
  unfold validateAesKeySize at h
  split at h
  · cases h
  · omega

namespace AesGcmHkdfStreamingKeyManager

theorem validateParams_ok {params : AesGcmHkdfStreamingParamsProto} (h : validateParams params = .ok ()) :
    params.hkdfHashType.IsNamed ∧ (params.derivedKeySize.toNat = 16 ∨ params.derivedKeySize.toNat = 32) := by
  unfold validateParams at h
  split at h
  · cases h
  · rename_i hhash
    dsimp only at h
    split at h
    · cases h
    · refine ⟨?_, validateAesKeySize_ok h⟩
      rintro value hvalue
      rw [hvalue] at hhash
      simp at hhash

theorem validateKeyFormat_ok {format : AesGcmHkdfStreamingKeyFormat} (h : validateKeyFormat format = .ok ()) :
    validateParams format.params = .ok () := by
  unfold validateKeyFormat at h
  split at h
  · cases h
  · exact h

theorem validateKey_iff {key : AesGcmHkdfStreamingKeyProto} (hversion : key.version = 0) :
    validateKey key = .ok () ↔
      key.params.derivedKeySize.toNat ≤ key.keyValue.length ∧ validateParams key.params = .ok () := by
  unfold validateKey
  rw [hversion]
  show (if key.keyValue.length < key.params.derivedKeySize.toNat then _ else _) = _ ↔ _
  by_cases h : key.keyValue.length < key.params.derivedKeySize.toNat
  · rw [if_pos h]
    exact iff_of_false (fun h' => by cases h') (fun h' => by omega)
  · rw [if_neg h]
    exact ⟨fun h' => ⟨by omega, h'⟩, fun h' => h'.2⟩

theorem deriveKey_ok {format : AesGcmHkdfStreamingKeyFormat} {key : AesGcmHkdfStreamingKeyProto}
    (h : deriveKey format s = (.ok key, s')) :
    ∃ bytes, readSecretBytesFromStream (asInt format.keySize) s = (.ok bytes, s') ∧ key = ⟨0, format.params, bytes⟩ := by
  unfold deriveKey at h
  split at h
  · cases h
  · split at h
    · cases h
    · rename_i bytes s₁ hread
      cases h
      exact ⟨bytes, hread, rfl⟩

theorem deriveKey_error {format : AesGcmHkdfStreamingKeyFormat} {e : Status} (h : deriveKey format s = (.error e, s')) :
    s' = s ∨ ∃ e', readSecretBytesFromStream (asInt format.keySize) s = (.error e', s') := by
  unfold deriveKey at h
  split at h
  · cases h
    exact .inl rfl
  · split at h
    · rename_i e' s₁ hread
      cases h
      exact .inr ⟨e, hread⟩
    · cases h

end AesGcmHkdfStreamingKeyManager

theorem AesGcmHkdfStreamingParameters.build_ok {keySize derivedKeySize segmentSize : Int} {hashType : ParametersHash}
    {parameters : AesGcmHkdfStreamingParameters}
    (h : AesGcmHkdfStreamingParameters.build keySize derivedKeySize hashType segmentSize = .ok parameters) :
    parameters.keySizeInBytes = keySize ∧ parameters.derivedKeySizeInBytes = derivedKeySize ∧
      parameters.hashType = hashType ∧ parameters.ciphertextSegmentSizeInBytes = segmentSize ∧
      derivedKeySize ≤ keySize ∧ 0 < derivedKeySize := by
  unfold AesGcmHkdfStreamingParameters.build at h
  split at h
  · split at h
    · dsimp only at h
      split at h
      · cases h
      · split at h
        · cases h
        · cases h
          exact ⟨rfl, rfl, rfl, rfl, by omega, by omega⟩
    · cases h
  · cases h

theorem parseAesGcmHkdfStreamingParameters_ok {format : AesGcmHkdfStreamingKeyFormat}
    {parameters : AesGcmHkdfStreamingParameters}
    (h : parseAesGcmHkdfStreamingParameters format .raw = .ok parameters) :
    parameters.keySizeInBytes = asInt format.keySize ∧
      parameters.derivedKeySizeInBytes = asInt format.params.derivedKeySize ∧
      parameters.hashType.toProto = format.params.hkdfHashType ∧
      parameters.ciphertextSegmentSizeInBytes = asInt format.params.ciphertextSegmentSize ∧
      asInt format.params.derivedKeySize ≤ asInt format.keySize ∧ 0 < asInt format.params.derivedKeySize := by
  unfold parseAesGcmHkdfStreamingParameters toAesGcmHkdfStreamingParameters at h
  split at h
  · cases h
  · obtain ⟨hashType, hhash, h⟩ := bind_eq_ok h
    obtain ⟨hkey, hderived, heq, hsegment, hle, hpos⟩ := AesGcmHkdfStreamingParameters.build_ok h
    exact ⟨hkey, hderived, by rw [heq]; exact fromStreamingHashType_ok hhash, hsegment, hle, hpos⟩

theorem deriveAesGcmHkdfStreamingKey_ok {params : AesGcmHkdfStreamingParameters} {key : AesGcmHkdfStreamingKey}
    (h : deriveAesGcmHkdfStreamingKey params s = (.ok key, s')) :
    ∃ bytes, readSecretBytesFromStream params.keySizeInBytes s = (.ok bytes, s') ∧ key.parameters = params ∧
      key.initialKeyMaterial = bytes := by
  unfold deriveAesGcmHkdfStreamingKey at h
  split at h
  · cases h
  · rename_i bytes s₁ hread
    obtain ⟨hcreate, rfl⟩ := Prod.mk.inj h
    refine ⟨bytes, hread, ?_⟩
    unfold AesGcmHkdfStreamingKey.create at hcreate
    split at hcreate
    · cases hcreate
      exact ⟨rfl, rfl⟩
    · cases hcreate

/-- **AES-GCM-HKDF streaming keys.** -/
theorem DeriverLibraries.aesGcmHkdfStreaming_agrees (libs : DeriverLibraries) (hr : PrfStream S At Failed) :
    Agrees libs.aesGcmHkdfStreamingType S (fun key material => key.keyValue = material)
      (fun s => ∃ last, At s ⟨0, last⟩) where
  typeUrl := rfl
  keyMaterialType := rfl
  named h := (AesGcmHkdfStreamingKeyManager.validateParams_ok (AesGcmHkdfStreamingKeyManager.validateKeyFormat_ok h)).1
  manager := by
    rintro s format key ⟨last, hat⟩ ⟨hformat, ⟨s', hderive⟩, hkey⟩
    obtain ⟨bytes, hread, rfl⟩ := AesGcmHkdfStreamingKeyManager.deriveKey_ok hderive
    obtain ⟨hlen, hparams⟩ := (AesGcmHkdfStreamingKeyManager.validateKey_iff rfl).1 hkey
    obtain ⟨hnamed, hsize⟩ := AesGcmHkdfStreamingKeyManager.validateParams_ok hparams
    obtain ⟨hbytes, hle, -⟩ := readSecretBytesFromStream_start hr hat hread
    refine ⟨hnamed, bytes.length, ?_, hle, hbytes⟩
    dsimp only at hlen hsize
    omega
  map := by
    rintro s format proto ⟨last, hat⟩ ⟨params, key, s', -, hderive, hproto⟩
    obtain ⟨bytes, hread, hparams, rfl⟩ := deriveAesGcmHkdfStreamingKey_ok hderive
    cases hproto
    obtain ⟨hbytes, hle, hlen⟩ := readSecretBytesFromStream_start hr hat hread
    refine ⟨ParametersHash.toProto_isNamed _, _, ?_, hle, hbytes⟩
    have := params.keySize_ge
    omega
  same := by
    rintro s format key proto - ⟨-, ⟨s₁, h₁⟩, -⟩ ⟨params, key', s₂, hparse, h₂, hproto⟩
    obtain ⟨bytes, hread, rfl⟩ := AesGcmHkdfStreamingKeyManager.deriveKey_ok h₁
    obtain ⟨bytes', hread', rfl, rfl⟩ := deriveAesGcmHkdfStreamingKey_ok h₂
    obtain ⟨hsize, hderived, hhash, hsegment, -⟩ := parseAesGcmHkdfStreamingParameters_ok hparse
    rw [hsize, hread] at hread'
    cases hread'
    cases hproto
    show _ = parseAesGcmHkdfStreamingKey (serializeAesGcmHkdfStreamingKey key')
    rw [serializeAesGcmHkdfStreamingKey, hderived, hhash, hsegment, asUInt32_asInt, asUInt32_asInt]
    rfl
  retry := by
    rintro s s' format proto ⟨last, hat⟩ hformat hfails ⟨params, key, s₂, hparse, hderive, -⟩
    obtain ⟨bytes, hread, -⟩ := deriveAesGcmHkdfStreamingKey_ok hderive
    obtain ⟨hsize, -, -, -, hle, hpos⟩ := parseAesGcmHkdfStreamingParameters_ok hparse
    have hvalidParams := AesGcmHkdfStreamingKeyManager.validateKeyFormat_ok hformat
    have hvalid : ∀ key, AesGcmHkdfStreamingKeyManager.deriveKey format s = (.ok key, s') →
        AesGcmHkdfStreamingKeyManager.validateKey key = .ok () := by
      -- the key has the size that the parameters ask for
      intro key hkey
      obtain ⟨bytes', hread', rfl⟩ := AesGcmHkdfStreamingKeyManager.deriveKey_ok hkey
      obtain ⟨-, -, hlen⟩ := readSecretBytesFromStream_start hr hat hread'
      have hderived := asInt_eq_or_neg format.params.derivedKeySize
      exact (AesGcmHkdfStreamingKeyManager.validateKey_iff rfl).2 ⟨by simp only; omega, hvalidParams⟩
    obtain ⟨e, he⟩ := hfails.deriveKey_error hvalid
    rcases AesGcmHkdfStreamingKeyManager.deriveKey_error he with hsame | ⟨e', he'⟩
    · exact hsame
    · exact absurd (readSecretBytesFromStream_error hr hat he') (not_failed_of_read hr (by omega) hread)

/-! ## Ed25519 -/

theorem newEd25519Key_eq (lib : EcKeyLibrary) {seed : Bytes} (h : seed.length = 32) :
    newEd25519Key lib seed = .ok (lib.ed25519PublicKey seed, seed) := by
  unfold newEd25519Key
  rw [if_neg (not_not.2 h)]

theorem newEd25519Key_ok {lib : EcKeyLibrary} {seed : Bytes} {keyPair : Bytes × Bytes}
    (h : newEd25519Key lib seed = .ok keyPair) : keyPair = (lib.ed25519PublicKey seed, seed) := by
  unfold newEd25519Key at h
  split at h
  · cases h
  · exact (Except.ok.inj h).symm

namespace Ed25519SignKeyManager

theorem validateKey_eq {version : UInt32} {keyValue publicKey : Bytes} (hkey : keyValue.length = 32)
    (hpublic : publicKey.length = 32) (h : version = 0) :
    validateKey ⟨version, keyValue, ⟨0, publicKey⟩⟩ = .ok () := by
  subst h
  unfold validateKey
  show (if keyValue.length ≠ 32 then _ else if publicKey.length ≠ 32 then _ else _) = _
  rw [if_neg (not_not.2 hkey), if_neg (not_not.2 hpublic)]

variable {lib : EcKeyLibrary}

theorem deriveKey_ok {format : Ed25519KeyFormat} {key : Ed25519PrivateKeyProto}
    (h : deriveKey lib format s = (.ok key, s')) :
    ∃ bytes, readSecretBytesFromStream 32 s = (.ok bytes, s') ∧ key = ⟨0, bytes, ⟨0, lib.ed25519PublicKey bytes⟩⟩ := by
  unfold deriveKey at h
  split at h
  · cases h
  · split at h
    · cases h
    · rename_i bytes s₁ hread
      split at h
      · cases h
      · rename_i publicKey privateKey hpair
        cases h
        cases newEd25519Key_ok hpair
        exact ⟨_, readPseudorandomness_ok hread, rfl⟩

theorem deriveKey_error {format : Ed25519KeyFormat} {e : Status} (h : deriveKey lib format s = (.error e, s')) :
    s' = s ∨ (∃ e', readSecretBytesFromStream 32 s = (.error e', s')) ∨
      ∃ bytes, readSecretBytesFromStream 32 s = (.ok bytes, s') ∧ bytes.length ≠ 32 := by
  unfold deriveKey at h
  split at h
  · cases h
    exact .inl rfl
  · split at h
    · rename_i e' s₁ hread
      cases h
      exact .inr (.inl (readPseudorandomness_error hread))
    · rename_i bytes s₁ hread
      split at h
      · rename_i e' hpair
        cases h
        refine .inr (.inr ⟨bytes, readPseudorandomness_ok hread, fun hlen => ?_⟩)
        rw [newEd25519Key_eq lib hlen] at hpair
        cases hpair
      · cases h

end Ed25519SignKeyManager

theorem deriveEd25519PrivateKey_ok {lib : EcKeyLibrary} {params : KeyVariant} {key : Ed25519PrivateKey}
    (h : deriveEd25519PrivateKey lib params s = (.ok key, s')) :
    ∃ bytes, readSecretBytesFromStream 32 s = (.ok bytes, s') ∧ key.privateKeyBytes = bytes ∧
      key.publicKey.publicKeyBytes = lib.ed25519PublicKey bytes := by
  unfold deriveEd25519PrivateKey at h
  split at h
  · cases h
  · rename_i bytes s₁ hread
    obtain ⟨hcreate, rfl⟩ := Prod.mk.inj h
    obtain ⟨keyPair, hpair, hcreate⟩ := bind_eq_ok hcreate
    obtain ⟨publicKey, hpublic, hcreate⟩ := bind_eq_ok hcreate
    cases newEd25519Key_ok hpair
    obtain ⟨-, -, hpublic⟩ := bind_eq_ok hpublic
    split at hpublic
    · cases hpublic
    · cases hpublic
      unfold Ed25519PrivateKey.create at hcreate
      split at hcreate
      · cases hcreate
      · obtain ⟨keyPair, -, hvalid⟩ := bind_eq_ok hcreate
        split at hvalid
        · cases hvalid
        · cases hvalid
          exact ⟨bytes, hread, rfl, rfl⟩

/-- **Ed25519 keys.** -/
theorem DeriverLibraries.ed25519_agrees (libs : DeriverLibraries) (hr : PrfStream S At Failed) :
    Agrees libs.ed25519Type S
      (fun key material => key.keyValue = material ∧ key.publicKey.keyValue = libs.ec.ed25519PublicKey material)
      (fun s => ∃ last, At s ⟨0, last⟩) where
  typeUrl := rfl
  keyMaterialType := rfl
  named _ := trivial
  manager := by
    rintro s format key ⟨last, hat⟩ ⟨-, ⟨s', hderive⟩, -⟩
    obtain ⟨bytes, hread, rfl⟩ := Ed25519SignKeyManager.deriveKey_ok hderive
    obtain ⟨hbytes, hle, hlen⟩ := readSecretBytesFromStream_start hr hat hread
    exact ⟨trivial, bytes.length, by omega, hle, hbytes, by rw [← hbytes]⟩
  map := by
    rintro s format proto ⟨last, hat⟩ ⟨params, key, s', -, hderive, hproto⟩
    obtain ⟨bytes, hread, hprivate, hpublic⟩ := deriveEd25519PrivateKey_ok hderive
    cases hproto
    obtain ⟨hbytes, hle, hlen⟩ := readSecretBytesFromStream_start hr hat hread
    refine ⟨trivial, bytes.length, by omega, hle, ?_, ?_⟩
    · rw [← hbytes]
      exact hprivate
    · rw [← hbytes]
      exact hpublic
  same := by
    rintro s format key proto - ⟨-, ⟨s₁, h₁⟩, -⟩ ⟨params, key', s₂, -, h₂, hproto⟩
    obtain ⟨bytes, hread, rfl⟩ := Ed25519SignKeyManager.deriveKey_ok h₁
    obtain ⟨bytes', hread', hprivate, hpublic⟩ := deriveEd25519PrivateKey_ok h₂
    rw [hread] at hread'
    cases hread'
    cases hproto
    show _ = parseEd25519PrivateKey libs.ec (serializeEd25519PrivateKey key')
    rw [serializeEd25519PrivateKey, hprivate, hpublic]
    rfl
  retry := by
    rintro s s' format proto ⟨last, hat⟩ - hfails ⟨params, key, s₂, -, hderive, -⟩
    obtain ⟨bytes, hread, -⟩ := deriveEd25519PrivateKey_ok hderive
    have hvalid : ∀ key, Ed25519SignKeyManager.deriveKey libs.ec format s = (.ok key, s') →
        Ed25519SignKeyManager.validateKey key = .ok () := by
      intro key hkey
      obtain ⟨bytes', hread', rfl⟩ := Ed25519SignKeyManager.deriveKey_ok hkey
      obtain ⟨-, -, hlen⟩ := readSecretBytesFromStream_start hr hat hread'
      exact Ed25519SignKeyManager.validateKey_eq hlen (libs.ec.ed25519PublicKey_length bytes') rfl
    obtain ⟨e, he⟩ := hfails.deriveKey_error hvalid
    rcases Ed25519SignKeyManager.deriveKey_error he with hsame | ⟨e', he'⟩ | ⟨bytes', hread', hlen⟩
    · exact hsame
    · exact absurd (readSecretBytesFromStream_error hr hat he') (not_failed_of_read hr (by omega) hread)
    · exact absurd (readSecretBytesFromStream_start hr hat hread').2.2 hlen

/-! ## AES-CTR-HMAC -/

/-- Two reads from the start of a stream give its leading bytes, one after the other. -/
theorem readSecretBytesFromStream_twice (hr : PrfStream S At Failed) {n m : Int} {last : Nat} {a b : Bytes} {s₁ : σ}
    (hs : At s ⟨0, last⟩) (h₁ : readSecretBytesFromStream n s = (.ok a, s₁))
    (h₂ : readSecretBytesFromStream m s₁ = (.ok b, s')) :
    a ++ b = S.take (a.length + b.length) ∧ a.length + b.length ≤ S.length ∧ a.length = n.toNat ∧ b.length = m.toNat := by
  obtain ⟨ha, hle, hn⟩ := readSecretBytesFromStream_start hr hs h₁
  obtain ⟨-, -, last₁, hat₁⟩ := readSecretBytesFromStream_ok hr hs h₁
  obtain ⟨hb, hlen, -⟩ := readSecretBytesFromStream_ok hr hat₁ h₂
  have hpos : (Cursor.mk (0 + n.toNat) last₁).pos = a.length := by
    show 0 + n.toNat = a.length
    omega
  rw [hpos] at hb hlen
  have hm : b.length = m.toNat := by
    rw [hb, List.length_take]
    omega
  rw [List.length_drop] at hlen
  refine ⟨?_, by omega, hn, hm⟩
  rw [List.take_add, ← ha, hm, ← hb]

namespace AesCtrHmacAeadKeyManager

theorem validateKeyFormat_ok {format : AesCtrHmacAeadKeyFormat} (h : validateKeyFormat format = .ok ()) :
    (format.aesCtrKeyFormat.keySize.toNat = 16 ∨ format.aesCtrKeyFormat.keySize.toNat = 32) ∧
      ¬ (format.aesCtrKeyFormat.params.ivSize < 12 ∨ format.aesCtrKeyFormat.params.ivSize > 16) ∧
      HmacKeyManager.validateParams format.hmacKeyFormat.params = .ok () := by
  unfold validateKeyFormat at h
  obtain ⟨_, haes, h⟩ := bind_eq_ok h
  split at h
  · cases h
  · rename_i hiv
    split at h
    · cases h
    · obtain ⟨_, hparams, -⟩ := bind_eq_ok h
      exact ⟨validateAesKeySize_ok haes, hiv, hparams⟩

/-- A key whose parts have version 0 and the sizes of a format that was accepted is valid. -/
theorem validateKey_eq {format : AesCtrHmacAeadKeyFormat} {aesKey hmacKey : Bytes}
    (h : validateKeyFormat format = .ok ()) (haes : aesKey.length = 16 ∨ aesKey.length = 32)
    (hhmac : 16 ≤ hmacKey.length) :
    validateKey ⟨0, ⟨0, format.aesCtrKeyFormat.params, aesKey⟩, ⟨0, format.hmacKeyFormat.params, hmacKey⟩⟩ = .ok () := by
  obtain ⟨-, hiv, hparams⟩ := validateKeyFormat_ok h
  have hsize : validateAesKeySize aesKey.length = .ok () := by
    unfold validateAesKeySize
    rw [if_neg (by omega)]
  have hkey : HmacKeyManager.validateKey ⟨0, format.hmacKeyFormat.params, hmacKey⟩ = .ok () :=
    (HmacKeyManager.validateKey_iff rfl).2 ⟨hhmac, hparams⟩
  unfold validateKey
  dsimp only
  rw [hsize, if_neg hiv, hkey]
  rfl

theorem validateKey_hmac {key : AesCtrHmacAeadKeyProto} (h : validateKey key = .ok ()) :
    (key.aesCtrKey.keyValue.length = 16 ∨ key.aesCtrKey.keyValue.length = 32) ∧
      HmacKeyManager.validateKey key.hmacKey = .ok () := by
  unfold validateKey at h
  obtain ⟨_, -, h⟩ := bind_eq_ok h
  obtain ⟨_, -, h⟩ := bind_eq_ok h
  obtain ⟨_, haes, h⟩ := bind_eq_ok h
  split at h
  · cases h
  · exact ⟨validateAesKeySize_ok haes, h⟩

theorem deriveKey_ok {format : AesCtrHmacAeadKeyFormat} {key : AesCtrHmacAeadKeyProto}
    (h : deriveKey format s = (.ok key, s')) :
    validateKeyFormat format = .ok () ∧ validateKey key = .ok () ∧ ∃ aesKey hmacKey s₁,
      readSecretBytesFromStream (asInt format.aesCtrKeyFormat.keySize) s = (.ok aesKey, s₁) ∧
      readSecretBytesFromStream (asInt format.hmacKeyFormat.keySize) s₁ = (.ok hmacKey, s') ∧
      key = ⟨0, ⟨0, format.aesCtrKeyFormat.params, aesKey⟩, ⟨0, format.hmacKeyFormat.params, hmacKey⟩⟩ := by
  unfold deriveKey at h
  split at h
  · cases h
  · rename_i hformat
    split at h
    · cases h
    · rename_i aesKey s₁ haes
      split at h
      · cases h
      · rename_i hmacProto s₂ hhmac
        dsimp only at h
        split at h
        · cases h
        · rename_i hvalid
          cases h
          obtain ⟨-, hmacKey, hread, rfl⟩ := HmacKeyManager.deriveKey_ok hhmac
          exact ⟨hformat, hvalid, aesKey, hmacKey, s₁, readPseudorandomness_ok haes, hread, rfl⟩

/-- Where deriving fails: on the format, on either read, on the version of the HMAC key, or on the key that was made. -/
theorem deriveKey_error {format : AesCtrHmacAeadKeyFormat} {e : Status} (h : deriveKey format s = (.error e, s')) :
    s' = s ∨ (∃ e', readSecretBytesFromStream (asInt format.aesCtrKeyFormat.keySize) s = (.error e', s')) ∨
      ∃ aesKey s₁, readSecretBytesFromStream (asInt format.aesCtrKeyFormat.keySize) s = (.ok aesKey, s₁) ∧
        (format.hmacKeyFormat.version ≠ 0 ∨
          (∃ e', readSecretBytesFromStream (asInt format.hmacKeyFormat.keySize) s₁ = (.error e', s')) ∨
          ∃ hmacKey e', readSecretBytesFromStream (asInt format.hmacKeyFormat.keySize) s₁ = (.ok hmacKey, s') ∧
            validateKeyFormat format = .ok () ∧ validateKey
              ⟨0, ⟨0, format.aesCtrKeyFormat.params, aesKey⟩, ⟨0, format.hmacKeyFormat.params, hmacKey⟩⟩ = .error e') := by
  unfold deriveKey at h
  split at h
  · cases h
    exact .inl rfl
  · rename_i hformat
    split at h
    · rename_i e' s₁ haes
      cases h
      exact .inr (.inl (readPseudorandomness_error haes))
    · rename_i aesKey s₁ haes
      refine .inr (.inr ⟨aesKey, s₁, readPseudorandomness_ok haes, ?_⟩)
      split at h
      · rename_i e' s₂ hhmac
        cases h
        rcases HmacKeyManager.deriveKey_error hhmac with ⟨-, hversion⟩ | hread
        · exact .inl hversion
        · exact .inr (.inl hread)
      · rename_i hmacProto s₂ hhmac
        dsimp only at h
        split at h
        · rename_i e' hinvalid
          cases h
          obtain ⟨-, hmacKey, hread, rfl⟩ := HmacKeyManager.deriveKey_ok hhmac
          exact .inr (.inr ⟨hmacKey, e, hread, hformat, hinvalid⟩)
        · cases h

end AesCtrHmacAeadKeyManager

theorem AesCtrHmacAeadParameters.build_ok {aesKeySize hmacKeySize ivSize tagSize : Int} {hashType : ParametersHash}
    {variant : KeyVariant} {parameters : AesCtrHmacAeadParameters}
    (h : AesCtrHmacAeadParameters.build aesKeySize hmacKeySize ivSize tagSize hashType variant = .ok parameters) :
    parameters.aesKeySizeInBytes = aesKeySize ∧ parameters.hmacKeySizeInBytes = hmacKeySize ∧
      parameters.ivSizeInBytes = ivSize ∧ parameters.tagSizeInBytes = tagSize ∧ parameters.hashType = hashType := by
  unfold AesCtrHmacAeadParameters.build at h
  split at h
  · split at h
    · split at h
      · cases h
      · split at h
        · cases h
        · split at h
          · cases h
          · split at h
            · cases h
            · cases h
              exact ⟨rfl, rfl, rfl, rfl, rfl⟩
    · cases h
  · cases h

theorem parseAesCtrHmacAeadParameters_ok {format : AesCtrHmacAeadKeyFormat} {prefixType : OutputPrefixType}
    {parameters : AesCtrHmacAeadParameters} (h : parseAesCtrHmacAeadParameters format prefixType = .ok parameters) :
    format.hmacKeyFormat.version = 0 ∧ parameters.aesKeySizeInBytes = asInt format.aesCtrKeyFormat.keySize ∧
      parameters.hmacKeySizeInBytes = asInt format.hmacKeyFormat.keySize ∧
      parameters.ivSizeInBytes = asInt format.aesCtrKeyFormat.params.ivSize ∧
      parameters.tagSizeInBytes = asInt format.hmacKeyFormat.params.tagSize ∧
      parameters.hashType.toProto = format.hmacKeyFormat.params.hash := by
  unfold parseAesCtrHmacAeadParameters at h
  dsimp only at h
  split at h
  · cases h
  · rename_i hversion
    obtain ⟨variant, -, h⟩ := bind_eq_ok h
    obtain ⟨hashType, hhash, h⟩ := bind_eq_ok h
    obtain ⟨haes, hhmac, hiv, htag, heq⟩ := AesCtrHmacAeadParameters.build_ok h
    exact ⟨not_not.1 hversion, haes, hhmac, hiv, htag, by rw [heq]; exact toHashType_ok hhash⟩

theorem deriveAesCtrHmacAeadKey_ok {params : AesCtrHmacAeadParameters} {key : AesCtrHmacAeadKey}
    (h : deriveAesCtrHmacAeadKey params s = (.ok key, s')) :
    ∃ aesKey hmacKey s₁, readSecretBytesFromStream params.aesKeySizeInBytes s = (.ok aesKey, s₁) ∧
      readSecretBytesFromStream params.hmacKeySizeInBytes s₁ = (.ok hmacKey, s') ∧ key.parameters = params ∧
      key.aesKeyBytes = aesKey ∧ key.hmacKeyBytes = hmacKey := by
  unfold deriveAesCtrHmacAeadKey at h
  split at h
  · cases h
  · rename_i aesKey s₁ haes
    split at h
    · cases h
    · rename_i hmacKey s₂ hhmac
      obtain ⟨hbuild, rfl⟩ := Prod.mk.inj h
      refine ⟨aesKey, hmacKey, s₁, haes, hhmac, ?_⟩
      unfold AesCtrHmacAeadKey.build at hbuild
      split at hbuild
      · split at hbuild
        · obtain ⟨-, -, rfl⟩ := map_eq_ok hbuild
          exact ⟨rfl, rfl, rfl⟩
        · cases hbuild
      · cases hbuild

/-- **AES-CTR-HMAC keys.** -/
theorem DeriverLibraries.aesCtrHmacAead_agrees (libs : DeriverLibraries) (hr : PrfStream S At Failed) :
    Agrees libs.aesCtrHmacAeadType S
      (fun key material => key.aesCtrKey.keyValue ++ key.hmacKey.keyValue = material)
      (fun s => ∃ last, At s ⟨0, last⟩) where
  typeUrl := rfl
  keyMaterialType := rfl
  named h := HmacKeyManager.validateParams_named (AesCtrHmacAeadKeyManager.validateKeyFormat_ok h).2.2
  manager := by
    rintro s format key ⟨last, hat⟩ ⟨hformat, ⟨s', hderive⟩, hkey⟩
    obtain ⟨-, -, aesKey, hmacKey, s₁, haes, hhmac, rfl⟩ := AesCtrHmacAeadKeyManager.deriveKey_ok hderive
    obtain ⟨haesLen, -⟩ := AesCtrHmacAeadKeyManager.validateKey_hmac hkey
    obtain ⟨hbytes, hle, -⟩ := readSecretBytesFromStream_twice hr hat haes hhmac
    refine ⟨HmacKeyManager.validateParams_named (AesCtrHmacAeadKeyManager.validateKeyFormat_ok hformat).2.2,
      aesKey.length + hmacKey.length, ?_, hle, hbytes⟩
    dsimp only at haesLen
    omega
  map := by
    rintro s format proto ⟨last, hat⟩ ⟨params, key, s', -, hderive, hproto⟩
    obtain ⟨aesKey, hmacKey, s₁, haes, hhmac, -, rfl, rfl⟩ := deriveAesCtrHmacAeadKey_ok hderive
    cases hproto
    obtain ⟨hbytes, hle, haesLen, -⟩ := readSecretBytesFromStream_twice hr hat haes hhmac
    refine ⟨ParametersHash.toProto_isNamed _, _, ?_, hle, hbytes⟩
    have := params.aesKeySize
    omega
  same := by
    rintro s format key proto - ⟨-, ⟨s₁, h₁⟩, -⟩ ⟨params, key', s₂, hparse, h₂, hproto⟩
    obtain ⟨-, -, aesKey, hmacKey, t, haes, hhmac, rfl⟩ := AesCtrHmacAeadKeyManager.deriveKey_ok h₁
    obtain ⟨aesKey', hmacKey', t', haes', hhmac', rfl, rfl, rfl⟩ := deriveAesCtrHmacAeadKey_ok h₂
    obtain ⟨-, haesSize, hhmacSize, hiv, htag, hhash⟩ := parseAesCtrHmacAeadParameters_ok hparse
    rw [haesSize, haes] at haes'
    cases haes'
    rw [hhmacSize, hhmac] at hhmac'
    cases hhmac'
    cases hproto
    show _ = parseAesCtrHmacAeadKey (serializeAesCtrHmacAeadKey key')
    rw [serializeAesCtrHmacAeadKey, hiv, htag, hhash, asUInt32_asInt, asUInt32_asInt]
    rfl
  retry := by
    rintro s s' format proto ⟨last, hat⟩ hformat hfails ⟨params, key, s₂, hparse, hderive, -⟩
    obtain ⟨aesKey, hmacKey, t, haes, -⟩ := deriveAesCtrHmacAeadKey_ok hderive
    obtain ⟨hversion, haesSize, hhmacSize, -⟩ := parseAesCtrHmacAeadParameters_ok hparse
    have haesKeySize := params.aesKeySize
    have hhmacKeySize := params.hmacKeySize_ge
    have hformatSize := (AesCtrHmacAeadKeyManager.validateKeyFormat_ok hformat).1
    have hsize := asInt_eq_or_neg format.aesCtrKeyFormat.keySize
    have hfailed : ¬ Failed s' := not_failed_of_read hr (by omega) haes
    have hvalid : ∀ key, AesCtrHmacAeadKeyManager.deriveKey format s = (.ok key, s') →
        AesCtrHmacAeadKeyManager.validateKey key = .ok () :=
      fun _ hkey => (AesCtrHmacAeadKeyManager.deriveKey_ok hkey).2.1
    obtain ⟨e, he⟩ := hfails.deriveKey_error hvalid
    rcases AesCtrHmacAeadKeyManager.deriveKey_error he with hsame | ⟨e', he'⟩ | ⟨aesKey', s₁, haes', hrest⟩
    · exact hsame
    · exact absurd (readSecretBytesFromStream_error hr hat he') hfailed
    · obtain ⟨-, -, last₁, hat₁⟩ := readSecretBytesFromStream_ok hr hat haes'
      rcases hrest with hversion' | ⟨e', he'⟩ | ⟨hmacKey', e', hhmac', -, hinvalid⟩
      · exact absurd hversion hversion'
      · exact absurd (readSecretBytesFromStream_error hr hat₁ he') hfailed
      · -- the key has the sizes that the parameters ask for, and is valid
        obtain ⟨-, -, haesLen, hhmacLen⟩ := readSecretBytesFromStream_twice hr hat haes' hhmac'
        rw [AesCtrHmacAeadKeyManager.validateKey_eq hformat (by omega) (by omega)] at hinvalid
        cases hinvalid

end Tink
