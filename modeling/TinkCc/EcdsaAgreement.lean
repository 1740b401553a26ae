import TinkCc.DeriverAgreement
/-!
# EcdsaAgreement — the two ways to an ECDSA key agree

The key manager serializes what BoringSSL gives it, the serializer of ECDSA keys pads it: the protos differ, and are
parsed to the same key.
-/
namespace Tink

variable {σ : Type} [InputStream σ] {S : Bytes} {At : σ → Cursor → Prop} {Failed : σ → Prop} {s s' : σ}

theorem readSecretBytesFromStream_length (hr : PrfStream S At Failed) {numBytes : Int} {c : Cursor} {bytes : Bytes}
    (hs : At s c) (h : readSecretBytesFromStream numBytes s = (.ok bytes, s')) : bytes.length = numBytes.toNat := by
  obtain ⟨hbytes, hlen, -⟩ := readSecretBytesFromStream_ok hr hs h
  rw [hbytes, List.length_take]
  omega

theorem numRandBytes_ge (curve : EllipticCurveType) : 16 ≤ numRandBytes curve := by
  cases curve <;> decide

/-- What follows a call need only agree on what the call gives. -/
theorem bind_congr_ok {ε α β : Type} {x : Except ε α} {f g : α → Except ε β} (h : ∀ a, x = .ok a → f a = g a) :
    (x >>= f) = (x >>= g) := by
  cases x with
  | error e => rfl
  | ok a => exact h a rfl

/-! ## The parameters -/

theorem toEcdsaHashType_ok {proto : HashTypeProto} {hash : ParametersHash} (h : toEcdsaHashType proto = .ok hash) :
    hash.toProto = proto := by
  cases proto <;> cases h <;> rfl

theorem toCurveType_ok {proto : EllipticCurveTypeProto} {curve : EllipticCurveType} (h : toCurveType proto = .ok curve) :
    curve.toProto = proto := by
  cases proto <;> cases h <;> rfl

theorem toSignatureEncoding_ok {proto : EcdsaSignatureEncodingProto} {encoding : EcdsaSignatureEncoding}
    (h : toSignatureEncoding proto = .ok encoding) : encoding.toProto = proto := by
  cases proto <;> cases h <;> rfl

theorem toEcdsaParameters_ok {prefixType : OutputPrefixType} {proto : EcdsaParamsProto} {parameters : EcdsaParameters}
    (h : toEcdsaParameters prefixType proto = .ok parameters) : parameters.toProto = proto := by
  obtain ⟨variant, -, h⟩ := bind_eq_ok h
  obtain ⟨hashType, hhash, h⟩ := bind_eq_ok h
  obtain ⟨curveType, hcurve, h⟩ := bind_eq_ok h
  obtain ⟨encoding, hencoding, h⟩ := bind_eq_ok h
  rw [EcdsaParameters.build_ok h]
  unfold EcdsaParameters.toProto
  rw [toEcdsaHashType_ok hhash, toCurveType_ok hcurve, toSignatureEncoding_ok hencoding]

theorem EcdsaParameters.toProto_isNamed (parameters : EcdsaParameters) : parameters.toProto.IsNamed := by
  refine ⟨ParametersHash.toProto_isNamed _, fun value h => ?_, fun value h => ?_⟩
  · change parameters.curveType.toProto = _ at h
    cases hcurve : parameters.curveType <;> rw [hcurve] at h <;> cases h
  · change parameters.signatureEncoding.toProto = _ at h
    cases hencoding : parameters.signatureEncoding <;> rw [hencoding] at h <;> cases h

theorem EllipticCurveType.toProto_injective {curve curve' : EllipticCurveType} (h : curve.toProto = curve'.toProto) :
    curve = curve' := by
  cases curve <;> cases curve' <;> first | rfl | cases h

theorem EcdsaParameters.privateKeyLength_eq {parameters parameters' : EcdsaParameters}
    (h : parameters.toProto = parameters'.toProto) : parameters.privateKeyLength = parameters'.privateKeyLength := by
  have hcurve : parameters.curveType = parameters'.curveType :=
    EllipticCurveType.toProto_injective (congrArg EcdsaParamsProto.curve h)
  unfold EcdsaParameters.privateKeyLength
  rw [hcurve]

/-! ## The key manager -/

theorem EcdsaVerifyKeyManager.validateParams_named {params : EcdsaParamsProto} (h : validateParams params = .ok ()) :
    params.IsNamed := by
  unfold validateParams at h
  split at h
  · cases h
  · rename_i hencoding
    have hnamed : ∀ value, params.encoding ≠ .unnamed value := by
      rintro value hvalue
      rw [hvalue] at hencoding
      simp at hencoding
    split at h
    all_goals rename_i hcurve
    · split at h
      · cases h
      · rename_i hhash
        refine ⟨?_, fun value h' => ?_, hnamed⟩
        · rw [not_not.1 hhash]
          exact fun value h' => by cases h'
        · rw [hcurve] at h'
          cases h'
    · split at h
      · cases h
      · rename_i hhash
        refine ⟨fun value h' => ?_, fun value h' => ?_, hnamed⟩
        · rw [h'] at hhash
          simp at hhash
        · rw [hcurve] at h'
          cases h'
    · split at h
      · cases h
      · rename_i hhash
        refine ⟨?_, fun value h' => ?_, hnamed⟩
        · rw [not_not.1 hhash]
          exact fun value h' => by cases h'
        · rw [hcurve] at h'
          cases h'
    · cases h

namespace EcdsaSignKeyManager

theorem validateKeyFormat_ok {format : EcdsaKeyFormat} (h : validateKeyFormat format = .ok ()) :
    EcdsaVerifyKeyManager.validateParams format.getParams = .ok () := by
  unfold validateKeyFormat at h
  split at h
  · cases h
  · rename_i params hparams
    rw [EcdsaKeyFormat.getParams, hparams]
    exact h

theorem randomBytesUsed_ok {proto : EllipticCurveTypeProto} {curve : EllipticCurveType} {numBytes : Int}
    (h : randomBytesUsed proto = some (curve, numBytes)) : curve.toProto = proto ∧ numBytes = numRandBytes curve := by
  cases proto <;> cases h <;> exact ⟨rfl, rfl⟩

variable {lib : EcKeyLibrary}

theorem deriveKey_ok {format : EcdsaKeyFormat} {key : EcdsaPrivateKeyProto} (h : deriveKey lib format s = (.ok key, s')) :
    ∃ curve seed ecKey, curve.toProto = format.getParams.curve ∧
      readSecretBytesFromStream (numRandBytes curve) s = (.ok seed, s') ∧ newEcKey lib curve seed = .ok ecKey ∧
      key = ⟨0, ⟨0, format.getParams, ecKey.pubX, ecKey.pubY⟩, ecKey.priv⟩ := by
  unfold deriveKey at h
  split at h
  · cases h
  · split at h
    · cases h
    · split at h
      · cases h
      · rename_i curve numBytes hcurve
        split at h
        · cases h
        · rename_i seed s₁ hread
          split at h
          · cases h
          · rename_i ecKey hnew
            cases h
            obtain ⟨hproto, rfl⟩ := randomBytesUsed_ok hcurve
            exact ⟨curve, seed, ecKey, hproto, readPseudorandomness_ok hread, hnew, rfl⟩

theorem deriveKey_error {format : EcdsaKeyFormat} {e : Status} (h : deriveKey lib format s = (.error e, s')) :
    s' = s ∨ ∃ curve, curve.toProto = format.getParams.curve ∧
      ((∃ e', readSecretBytesFromStream (numRandBytes curve) s = (.error e', s')) ∨
        ∃ seed e', readSecretBytesFromStream (numRandBytes curve) s = (.ok seed, s') ∧
          newEcKey lib curve seed = .error e') := by
  unfold deriveKey at h
  split at h
  · cases h
    exact .inl rfl
  · split at h
    · cases h
      exact .inl rfl
    · split at h
      · cases h
        exact .inl rfl
      · rename_i curve numBytes hcurve
        obtain ⟨hproto, rfl⟩ := randomBytesUsed_ok hcurve
        refine .inr ⟨curve, hproto, ?_⟩
        split at h
        · rename_i e' s₁ hread
          cases h
          exact .inl (readPseudorandomness_error hread)
        · rename_i seed s₁ hread
          split at h
          · rename_i e' hnew
            cases h
            exact .inr ⟨seed, e, readPseudorandomness_ok hread, hnew⟩
          · cases h

theorem validateKey_eq {params : EcdsaParamsProto} {x y keyValue : Bytes}
    (h : EcdsaVerifyKeyManager.validateParams params = .ok ()) : validateKey ⟨0, ⟨0, params, x, y⟩, keyValue⟩ = .ok () := by
  unfold validateKey EcdsaVerifyKeyManager.validateKey
  dsimp only
  rw [h]
  rfl

end EcdsaSignKeyManager

/-! ## The deriver of the parameters -/

theorem EcdsaPublicKey.create_ok {lib : EcKeyLibrary} {parameters : EcdsaParameters} {point : Nat × Nat}
    {idRequirement : Option UInt32} {key : EcdsaPublicKey}
    (h : EcdsaPublicKey.create lib parameters point idRequirement = .ok key) : key = ⟨parameters, point, idRequirement⟩ := by
  obtain ⟨_, -, h⟩ := bind_eq_ok h
  obtain ⟨_, -, h⟩ := bind_eq_ok h
  exact (Except.ok.inj h).symm

theorem EcdsaPrivateKey.create_ok {lib : EcKeyLibrary} {publicKey : EcdsaPublicKey} {keyValue : Bytes}
    {key : EcdsaPrivateKey} (h : EcdsaPrivateKey.create lib publicKey keyValue = .ok key) :
    key = ⟨publicKey, keyValue⟩ ∧ keyValue.length = publicKey.parameters.privateKeyLength := by
  unfold EcdsaPrivateKey.create at h
  dsimp only at h
  split at h
  · cases h
  · rename_i hlen
    obtain ⟨_, -, h⟩ := bind_eq_ok h
    obtain ⟨_, -, h⟩ := bind_eq_ok h
    exact ⟨(Except.ok.inj h).symm, not_not.1 hlen⟩

theorem deriveEcdsaPrivateKey_ok {lib : EcKeyLibrary} {params : EcdsaParameters} {key : EcdsaPrivateKey}
    (h : deriveEcdsaPrivateKey lib params s = (.ok key, s')) :
    ∃ seed ecKey, readSecretBytesFromStream (numRandBytes params.curveType) s = (.ok seed, s') ∧
      newEcKey lib params.curveType seed = .ok ecKey ∧ ecKey.priv.length = params.privateKeyLength ∧
      key = ⟨⟨params, (BigEndian.value ecKey.pubX, BigEndian.value ecKey.pubY), none⟩, ecKey.priv⟩ := by
  unfold deriveEcdsaPrivateKey at h
  split at h
  · cases h
  · rename_i seed s₁ hread
    obtain ⟨hcreate, rfl⟩ := Prod.mk.inj h
    obtain ⟨ecKey, hnew, hcreate⟩ := bind_eq_ok hcreate
    obtain ⟨publicKey, hpublic, hcreate⟩ := bind_eq_ok hcreate
    have hpublic := EcdsaPublicKey.create_ok hpublic
    obtain ⟨hkey, hlen⟩ := EcdsaPrivateKey.create_ok hcreate
    subst hpublic
    exact ⟨seed, ecKey, hread, hnew, hlen, hkey⟩

theorem serializeEcdsaPrivateKey_ok {key : EcdsaPrivateKey} {proto : EcdsaPrivateKeyProto}
    (h : serializeEcdsaPrivateKey key = .ok proto) :
    ∃ x y keyValue, BigEndian.value x = key.publicKey.publicPoint.1 ∧ BigEndian.value y = key.publicKey.publicPoint.2 ∧
      getSecretValueOfFixedLength key.privateKeyValue (getEncodingLength key.publicKey.parameters.curveType) =
        .ok keyValue ∧
      proto = ⟨0, ⟨0, key.publicKey.parameters.toProto, x, y⟩, keyValue⟩ := by
  obtain ⟨x, hx, h⟩ := bind_eq_ok h
  obtain ⟨y, hy, h⟩ := bind_eq_ok h
  obtain ⟨keyValue, hvalue, h⟩ := bind_eq_ok h
  exact ⟨x, y, keyValue, (getValueOfFixedLength_ok hx).2, (getValueOfFixedLength_ok hy).2, hvalue,
    (Except.ok.inj h).symm⟩

/-- Protos with the same numbers are parsed to the same key, where both private values are of the length that
the curve asks for once the zeros are gone. -/
theorem parseEcdsaPrivateKey_congr (lib : EcKeyLibrary) {params : EcdsaParamsProto} {x y x' y' keyValue keyValue' : Bytes}
    {length : Nat} {bytes : Bytes} (hx : BigEndian.value x = BigEndian.value x')
    (hy : BigEndian.value y = BigEndian.value y') (h : parseBigIntToFixedLength keyValue length = pure bytes)
    (h' : parseBigIntToFixedLength keyValue' length = pure bytes)
    (hlength : ∀ {parameters : EcdsaParameters}, parameters.toProto = params → parameters.privateKeyLength = length) :
    parseEcdsaPrivateKey lib ⟨0, ⟨0, params, x, y⟩, keyValue⟩ =
      parseEcdsaPrivateKey lib ⟨0, ⟨0, params, x', y'⟩, keyValue'⟩ := by
  funext prefixType idRequirement
  unfold parseEcdsaPrivateKey
  simp only [ne_eq, not_true_eq_false, if_false]
  rw [hx, hy]
  refine bind_congr_ok fun parameters hparams => bind_congr_ok fun publicKey hpublic => ?_
  have hlen : publicKey.parameters.privateKeyLength = length := by
    rw [EcdsaPublicKey.create_ok hpublic]
    exact hlength (toEcdsaParameters_ok hparams)
  rw [hlen, h, h']

/-- **ECDSA keys.** -/
theorem DeriverLibraries.ecdsa_agrees (libs : DeriverLibraries) (hr : PrfStream S At Failed) :
    Agrees libs.ecdsaType S
      (fun key material => ∃ curve ecKey, curve.toProto = key.publicKey.params.curve ∧
        newEcKey libs.ec curve material = .ok ecKey ∧
        BigEndian.value key.publicKey.x = BigEndian.value ecKey.pubX ∧
        BigEndian.value key.publicKey.y = BigEndian.value ecKey.pubY ∧
        BigEndian.value key.keyValue = BigEndian.value ecKey.priv)
      (fun s => ∃ last, At s ⟨0, last⟩) where
  typeUrl := rfl
  keyMaterialType := rfl
  named h := EcdsaVerifyKeyManager.validateParams_named (EcdsaSignKeyManager.validateKeyFormat_ok h)
  manager := by
    rintro s format key ⟨last, hat⟩ ⟨hformat, ⟨s', hderive⟩, -⟩
    obtain ⟨curve, seed, ecKey, hcurve, hread, hnew, rfl⟩ := EcdsaSignKeyManager.deriveKey_ok hderive
    obtain ⟨hseed, hle, hlen⟩ := readSecretBytesFromStream_start hr hat hread
    have := numRandBytes_ge curve
    rw [hseed] at hnew
    exact ⟨EcdsaVerifyKeyManager.validateParams_named (EcdsaSignKeyManager.validateKeyFormat_ok hformat), seed.length,
      by omega, hle, curve, ecKey, hcurve, hnew, rfl, rfl, rfl⟩
  map := by
    rintro s format proto ⟨last, hat⟩ ⟨params, key, s', -, hderive, hproto⟩
    obtain ⟨seed, ecKey, hread, hnew, -, rfl⟩ := deriveEcdsaPrivateKey_ok hderive
    obtain ⟨x, y, keyValue, hx, hy, hvalue, rfl⟩ := serializeEcdsaPrivateKey_ok hproto
    obtain ⟨hseed, hle, hlen⟩ := readSecretBytesFromStream_start hr hat hread
    have := numRandBytes_ge params.curveType
    rw [hseed] at hnew
    exact ⟨params.toProto_isNamed, seed.length, by omega, hle, params.curveType, ecKey, rfl, hnew, hx, hy,
      (getSecretValueOfFixedLength_ok hvalue).2⟩
  same := by
    rintro s format key proto - ⟨-, ⟨s₁, h₁⟩, -⟩ ⟨params, key', s₂, hparse, h₂, hproto⟩
    obtain ⟨curve, seed, ecKey, hcurve, hread, hnew, rfl⟩ := EcdsaSignKeyManager.deriveKey_ok h₁
    obtain ⟨seed', ecKey', hread', hnew', hlen, rfl⟩ := deriveEcdsaPrivateKey_ok h₂
    obtain ⟨x, y, keyValue, hx, hy, hvalue, rfl⟩ := serializeEcdsaPrivateKey_ok hproto
    change (if format.version ≠ 0 then _ else toEcdsaParameters _ format.getParams) = _ at hparse
    split at hparse
    · cases hparse
    · have hparams := toEcdsaParameters_ok hparse
      have hcurve' : params.curveType = curve :=
        EllipticCurveType.toProto_injective (by rw [hcurve, ← hparams]; rfl)
      rw [hcurve', hread] at hread'
      cases hread'
      rw [hcurve', hnew] at hnew'
      cases hnew'
      rw [← hparams]
      refine parseEcdsaPrivateKey_congr libs.ec hx.symm hy.symm (parseBigIntToFixedLength_self ecKey.priv)
        (parseBigIntToFixedLength_padded (getEncodingLength_lt _) hvalue) fun hparameters => ?_
      rw [hlen]
      exact EcdsaParameters.privateKeyLength_eq hparameters
  retry := by
    rintro s s' format proto ⟨last, hat⟩ hformat hfails ⟨params, key, s₂, hparse, hderive, -⟩
    obtain ⟨seed, ecKey, hread, hnew, -, -⟩ := deriveEcdsaPrivateKey_ok hderive
    change (if format.version ≠ 0 then _ else toEcdsaParameters _ format.getParams) = _ at hparse
    split at hparse
    · cases hparse
    · have hparams := toEcdsaParameters_ok hparse
      have hvalid : ∀ key, EcdsaSignKeyManager.deriveKey libs.ec format s = (.ok key, s') →
          EcdsaSignKeyManager.validateKey key = .ok () := by
        intro key hkey
        obtain ⟨curve, seed', ecKey', -, -, -, rfl⟩ := EcdsaSignKeyManager.deriveKey_ok hkey
        exact EcdsaSignKeyManager.validateKey_eq (EcdsaSignKeyManager.validateKeyFormat_ok hformat)
      obtain ⟨e, he⟩ := hfails.deriveKey_error hvalid
      rcases EcdsaSignKeyManager.deriveKey_error he with hsame | ⟨curve, hcurve, hfail⟩
      · exact hsame
      · have hcurve' : params.curveType = curve :=
          EllipticCurveType.toProto_injective (by rw [hcurve, ← hparams]; rfl)
        rw [hcurve'] at hread hnew
        rcases hfail with ⟨e', he'⟩ | ⟨seed', e', hread', hnew'⟩
        · have hge := numRandBytes_ge curve
          exact absurd (readSecretBytesFromStream_error hr hat he') (not_failed_of_read hr (by omega) hread)
        · -- whether a key can be derived does not depend on the seed
          obtain ⟨-, -, last', hat'⟩ := readSecretBytesFromStream_ok hr hat hread'
          have hlen : seed'.length = seed.length := by
            rw [readSecretBytesFromStream_length hr hat hread', readSecretBytesFromStream_length hr hat' hread]
          obtain ⟨e'', he''⟩ := newEcKey_error libs.ec hnew' hlen
          rw [he''] at hnew
          cases hnew

end Tink
