import TinkCc.KeyManagers
import TinkCc.SegmentNonces
/-!
# StreamingParameters — what accepted streaming parameters are good for

`AesGcmHkdfStreamingParameters` and `AesCtrHmacStreamingParameters`, the key formats they are serialized to, and what the
key managers, `AesGcmHkdfStreaming::New` and `AesCtrHmacStreaming::New` and the streams over their segments make of them,
outside FIPS mode.

The bound on the segment size is written in each layer.  They agree for AES-CTR-HMAC; for AES-GCM-HKDF the parameters
accept one size that the key manager and the segments refuse (`streamingParameters_usable_iff`).
-/
namespace Tink

/-! ## The key formats -/

/-- `Enums::ProtoToSubtle`. -/
def HashTypeProto.protoToSubtle : HashTypeProto → HashType
  | .sha1 => .sha1
  | .sha224 => .sha224
  | .sha256 => .sha256
  | .sha384 => .sha384
  | .sha512 => .sha512
  | _ => .unknownHash

/-- The format of `SerializeParameters`. -/
def serializeAesGcmHkdfStreamingParameters (parameters : AesGcmHkdfStreamingParameters) : AesGcmHkdfStreamingKeyFormat :=
  { version := 0,
    keySize := asUInt32 parameters.keySizeInBytes,
    params := ⟨asUInt32 parameters.ciphertextSegmentSizeInBytes, asUInt32 parameters.derivedKeySizeInBytes,
      parameters.hashType.toProto⟩ }

/-- `AesGcmHkdfStreamingKeyManagerFactory::Create`. -/
def AesGcmHkdfStreamingKeyManager.create (key : AesGcmHkdfStreamingKeyProto) : Except Status AesGcmHkdfStreaming :=
  AesGcmHkdfStreaming.new ⟨key.keyValue, key.params.hkdfHashType.protoToSubtle, asInt key.params.derivedKeySize,
    asInt key.params.ciphertextSegmentSize, 0⟩

/-! ## AES-CTR-HMAC streaming -/

structure AesCtrHmacStreamingParamsProto where
  ciphertextSegmentSize : UInt32
  derivedKeySize        : UInt32
  hkdfHashType          : HashTypeProto
  hmacParams            : HmacParamsProto
  deriving DecidableEq, Repr

structure AesCtrHmacStreamingKeyFormat where
  params  : AesCtrHmacStreamingParamsProto
  keySize : UInt32
  version : UInt32
  deriving DecidableEq, Repr

structure AesCtrHmacStreamingKeyProto where
  version  : UInt32
  params   : AesCtrHmacStreamingParamsProto
  keyValue : Bytes
  deriving DecidableEq, Repr

/-- `AesCtrHmacStreamingParameters::HashType`; the last is the value that no switch names. -/
inductive StreamingHash
  | sha1
  | sha256
  | sha512
  | unsupported
  deriving DecidableEq, Repr

def StreamingHash.number : StreamingHash → Nat
  | .sha1 => 1
  | .sha256 => 2
  | .sha512 => 3
  | .unsupported => 20

/-- `max_tag_size`, a map from the supported hashes. -/
def StreamingHash.maxTagSize : StreamingHash → Option Int
  | .sha1 => some 20
  | .sha256 => some 32
  | .sha512 => some 64
  | .unsupported => none

/-- `ToProtoHashType`. -/
def StreamingHash.toProto (hash : StreamingHash) : Except Status HashTypeProto :=
  match hash with
  | .sha1 => .ok .sha1
  | .sha256 => .ok .sha256
  | .sha512 => .ok .sha512
  | .unsupported =>
    let number := hash.number
    .error ⟨.invalidArgument, s!"Unsupported hash type: {number}"⟩

structure AesCtrHmacStreamingParameters where
  keySizeInBytes               : Int
  derivedKeySizeInBytes        : Int
  hkdfHashType                 : StreamingHash
  hmacHashType                 : StreamingHash
  tagSizeInBytes               : Int
  ciphertextSegmentSizeInBytes : Int

/-- `AesCtrHmacStreamingParameters::Builder::Build`, with everything set.  A tag size with which `min_segment_size`
overflows is refused for itself. -/
def AesCtrHmacStreamingParameters.build (keySizeInBytes derivedKeySizeInBytes : Int)
    (hkdfHashType hmacHashType : StreamingHash) (tagSizeInBytes segmentSizeInBytes : Int) :
    Except Status AesCtrHmacStreamingParameters :=
  if derivedKeySizeInBytes ≠ 16 ∧ derivedKeySizeInBytes ≠ 32 then
    .error ⟨.invalidArgument, "Derived key size must be either 16 or 32 bytes"⟩
  else if keySizeInBytes < derivedKeySizeInBytes then
    .error ⟨.invalidArgument, "Key size must be at least the derived key size."⟩
  else
    let minSegmentSize := derivedKeySizeInBytes + tagSizeInBytes + 9
    if segmentSizeInBytes < minSegmentSize then
      .error ⟨.invalidArgument, s!"Ciphertext segment size must be at least {minSegmentSize} bytes"⟩
    else if tagSizeInBytes < 10 then .error ⟨.invalidArgument, "Tag size is too small."⟩
    else if hkdfHashType.maxTagSize = none then .error ⟨.invalidArgument, "HKDF hash type not supported."⟩
    else
      match hmacHashType.maxTagSize with
      | none => .error ⟨.invalidArgument, "HMAC hash type not supported."⟩
      | some maxTagSize =>
        if tagSizeInBytes > maxTagSize then
          let hash := hmacHashType.number
          .error ⟨.invalidArgument, s!"Tag size is too big for given {hash} , got {tagSizeInBytes} bytes."⟩
        else
          .ok ⟨keySizeInBytes, derivedKeySizeInBytes, hkdfHashType, hmacHashType, tagSizeInBytes, segmentSizeInBytes⟩

structure AesCtrHmacStreamingKey where
  parameters         : AesCtrHmacStreamingParameters
  initialKeyMaterial : Bytes
  size_eq            : parameters.keySizeInBytes = initialKeyMaterial.length

/-- `FromParameters`. -/
def fromAesCtrHmacStreamingParameters (parameters : AesCtrHmacStreamingParameters) :
    Except Status AesCtrHmacStreamingParamsProto := do
  let hkdfHashType ← parameters.hkdfHashType.toProto
  let hmacHashType ← parameters.hmacHashType.toProto
  return ⟨asUInt32 parameters.ciphertextSegmentSizeInBytes, asUInt32 parameters.derivedKeySizeInBytes, hkdfHashType,
    ⟨hmacHashType, asUInt32 parameters.tagSizeInBytes⟩⟩

/-- The format of `SerializeParameters`. -/
def serializeAesCtrHmacStreamingParameters (parameters : AesCtrHmacStreamingParameters) :
    Except Status AesCtrHmacStreamingKeyFormat := do
  let params ← fromAesCtrHmacStreamingParameters parameters
  return ⟨params, asUInt32 parameters.keySizeInBytes, 0⟩

/-- The proto of `SerializeKey`. -/
def serializeAesCtrHmacStreamingKey (key : AesCtrHmacStreamingKey) : Except Status AesCtrHmacStreamingKeyProto := do
  let params ← fromAesCtrHmacStreamingParameters key.parameters
  return ⟨0, params, key.initialKeyMaterial⟩

/-- `AesCtrHmacStreaming::New`, outside FIPS mode; the parameters are its only member. -/
def AesCtrHmacStreaming.new (params : AesCtrHmacStreaming.Params) : Except Status AesCtrHmacStreaming.Params := do
  AesCtrHmacStreaming.validate params
  return params

namespace AesCtrHmacStreamingKeyManager

open AesCtrHmacStreaming (kNoncePrefixSizeInBytes)

/-- The size of the header is an `int`, and wraps; the sum with the tag size is a `uint32_t`. -/
def validateParams (params : AesCtrHmacStreamingParamsProto) : Except Status Unit :=
  let tagSize := params.hmacParams.tagSize
  if ¬ (params.hkdfHashType = .sha1 ∨ params.hkdfHashType = .sha256 ∨ params.hkdfHashType = .sha512) then
    .error ⟨.invalidArgument, "unsupported hkdf_hash_type"⟩
  else if ¬ (params.hmacParams.hash = .sha1 ∨ params.hmacParams.hash = .sha256 ∨ params.hmacParams.hash = .sha512) then
    .error ⟨.invalidArgument, "unsupported hmac_params.hash"⟩
  else if tagSize < 10 then .error ⟨.invalidArgument, "hmac_params.tag_size too small"⟩
  else if (params.hmacParams.hash = .sha1 ∧ tagSize > 20) ∨ (params.hmacParams.hash = .sha256 ∧ tagSize > 32) ∨
      (params.hmacParams.hash = .sha512 ∧ tagSize > 64) then
    .error ⟨.invalidArgument, "hmac_params.tag_size too big"⟩
  else
    let headerSize := asInt (1 + params.derivedKeySize + 7)
    if params.ciphertextSegmentSize ≤ asUInt32 headerSize + tagSize then
      .error ⟨.invalidArgument, "ciphertext_segment_size too small"⟩
    else if params.ciphertextSegmentSize > 0x7fffffff then
      .error ⟨.invalidArgument, "ciphertext_segment_size too big"⟩
    else validateAesKeySize params.derivedKeySize.toNat

def validateKeyFormat (keyFormat : AesCtrHmacStreamingKeyFormat) : Except Status Unit :=
  if keyFormat.keySize < keyFormat.params.derivedKeySize then
    .error ⟨.invalidArgument, "key_size must not be smaller than derived_key_size"⟩
  else validateParams keyFormat.params

/-- `StreamingAeadFactory::Create`. -/
def create (key : AesCtrHmacStreamingKeyProto) : Except Status AesCtrHmacStreaming.Params :=
  AesCtrHmacStreaming.new ⟨key.keyValue, key.params.hkdfHashType.protoToSubtle, asInt key.params.derivedKeySize,
    asInt key.params.ciphertextSegmentSize, 0, key.params.hmacParams.hash.protoToSubtle,
    asInt key.params.hmacParams.tagSize⟩

end AesCtrHmacStreamingKeyManager

/-! ## Usable parameters -/

/-- The streams over the segments can be made: their first segment has room for plaintext. -/
def StreamsOpen {κ : Type} (e : SegmentEncrypter) (d : SegmentDecrypter κ) : Prop :=
  ∀ (σ : Type) (stream : σ), (∃ s, EncryptingStream.new e stream = .ok s) ∧ (∃ s, DecryptingStream.new d stream = .ok s) ∧
    ∃ s, DecryptingRandomAccessStream.new d stream = .ok s

/-- **The key manager accepts the key format**, and every key of these parameters encrypts and decrypts. -/
structure AesGcmHkdfStreamingParameters.Usable (lib : CryptoLibrary) (parameters : AesGcmHkdfStreamingParameters) :
    Prop where
  keyFormat : AesGcmHkdfStreamingKeyManager.validateKeyFormat (serializeAesGcmHkdfStreamingParameters parameters) = .ok ()
  streams   : ∀ key : AesGcmHkdfStreamingKey, key.parameters = parameters →
    ∃ streaming, AesGcmHkdfStreamingKeyManager.create (serializeAesGcmHkdfStreamingKey key) = .ok streaming ∧
      streaming.ciphertextOffset = 0 ∧ ∀ associatedData salt noncePrefix,
        ∃ e d, streaming.newSegmentEncrypter lib associatedData salt noncePrefix = .ok e ∧
          streaming.newSegmentDecrypter associatedData = .ok d ∧ StreamsOpen e.toSegmentEncrypter (d.toSegmentDecrypter lib)

/-- The same of AES-CTR-HMAC. -/
structure AesCtrHmacStreamingParameters.Usable (lib : CryptoLibrary) (parameters : AesCtrHmacStreamingParameters) :
    Prop where
  keyFormat : ∃ format, serializeAesCtrHmacStreamingParameters parameters = .ok format ∧
    AesCtrHmacStreamingKeyManager.validateKeyFormat format = .ok ()
  streams   : ∀ key : AesCtrHmacStreamingKey, key.parameters = parameters →
    ∃ proto streaming, serializeAesCtrHmacStreamingKey key = .ok proto ∧
      AesCtrHmacStreamingKeyManager.create proto = .ok streaming ∧ streaming.ciphertextOffset = 0 ∧
      ∀ associatedData salt noncePrefix,
        ∃ e d, AesCtrHmacStreamSegmentEncrypter.new lib streaming associatedData salt noncePrefix = .ok e ∧
          AesCtrHmacStreamSegmentDecrypter.new streaming associatedData = .ok d ∧
          StreamsOpen (e.toSegmentEncrypter lib) (d.toSegmentDecrypter lib)

/-- HKDF, AES-GCM and HMAC can be set up with the sizes that the segments ask for. -/
structure CryptoLibrary.SetsUp (lib : CryptoLibrary) : Prop where
  hkdf   : ∀ {hash ikm salt info outLen}, hash = .sha1 ∨ hash = .sha256 ∨ hash = .sha512 → 0 ≤ outLen → outLen ≤ 64 →
    ∃ key, lib.computeHkdf hash ikm salt info outLen = .ok key ∧ (key.length : Int) = outLen
  aesGcm : ∀ {key : Bytes}, key.length = 16 ∨ key.length = 32 → ∃ aead, lib.createAesGcmOneShotCrypter key = .ok aead
  hmac   : ∀ {hash tagSize key}, (hash = .sha1 ∧ tagSize ≤ 20) ∨ (hash = .sha256 ∧ tagSize ≤ 32) ∨
    (hash = .sha512 ∧ tagSize ≤ 64) → 0 ≤ tagSize → 16 ≤ key.length → ∃ mac, lib.newHmac hash tagSize key = .ok mac

/-! ## The layers, one by one -/

theorem asInt_asUInt32 {n : Int} (h0 : 0 ≤ n) (hn : n < 2 ^ 31) : asInt (asUInt32 n) = n := by
  unfold asInt asUInt32
  rw [Int32.toInt32_toUInt32]
  exact Int32.toInt_ofInt_of_le (by omega) hn

theorem asUInt32_toNat {n : Int} (h0 : 0 ≤ n) (hn : n < 2 ^ 31) : ((asUInt32 n).toNat : Int) = n := by
  have h := asInt_eq_or_neg (asUInt32 n)
  rw [asInt_asUInt32 h0 hn] at h
  omega

theorem ParametersHash.toProto_protoToSubtle {hash : ParametersHash} (h : hash = .sha1 ∨ hash = .sha256 ∨ hash = .sha512) :
    hash.toProto.protoToSubtle = .sha1 ∨ hash.toProto.protoToSubtle = .sha256 ∨ hash.toProto.protoToSubtle = .sha512 := by
  rcases h with rfl | rfl | rfl
  · exact .inl rfl
  · exact .inr (.inl rfl)
  · exact .inr (.inr rfl)

/-- Sizes that leave plaintext to the first segment open the streams. -/
theorem Fits.streamsOpen {κ : Type} {e : SegmentEncrypter} {d : SegmentDecrypter κ} {overhead : Nat} (hf : Fits e d overhead)
    (hF : 0 < e.firstSegmentSize) : StreamsOpen e d := by
  intro σ stream
  have hd := hf.firstSegmentSize_pos hF
  refine ⟨?_, ?_, ?_⟩
  · unfold EncryptingStream.new
    rw [if_neg (by omega)]
    exact ⟨_, rfl⟩
  · unfold DecryptingStream.new
    rw [if_neg (by omega)]
    exact ⟨_, rfl⟩
  · unfold DecryptingRandomAccessStream.new
    simp only
    rw [hf.plaintextSegmentSize, hf.ciphertextOffset, hf.headerSize]
    unfold SegmentEncrypter.firstSegmentSize at hF
    rw [if_neg (by omega)]
    exact ⟨_, rfl⟩

/-- What the builder accepts. -/
structure AesGcmHkdfStreamingParameters.Accepted (parameters : AesGcmHkdfStreamingParameters) : Prop where
  derived : parameters.derivedKeySizeInBytes = 16 ∨ parameters.derivedKeySizeInBytes = 32
  key     : parameters.derivedKeySizeInBytes ≤ parameters.keySizeInBytes
  segment : parameters.derivedKeySizeInBytes + 24 ≤ parameters.ciphertextSegmentSizeInBytes
  hash    : parameters.hashType = .sha1 ∨ parameters.hashType = .sha256 ∨ parameters.hashType = .sha512

theorem AesGcmHkdfStreamingParameters.build_iff {keySize derivedKeySize segmentSize : Int} {hash : ParametersHash}
    {parameters : AesGcmHkdfStreamingParameters} :
    AesGcmHkdfStreamingParameters.build keySize derivedKeySize hash segmentSize = .ok parameters ↔
      parameters.Accepted ∧ parameters.keySizeInBytes = keySize ∧ parameters.derivedKeySizeInBytes = derivedKeySize ∧
        parameters.hashType = hash ∧ parameters.ciphertextSegmentSizeInBytes = segmentSize := by
  unfold AesGcmHkdfStreamingParameters.build
  constructor
  · intro h
    split at h
    · rename_i hderived
      split at h
      · rename_i hkey
        simp only at h
        split at h
        · cases h
        · rename_i hsegment
          split at h
          · cases h
          · rename_i hhash
            cases h
            exact ⟨⟨hderived, hkey, by dsimp only; omega, by cases hash <;> simp_all⟩, rfl, rfl, rfl, rfl⟩
      · cases h
    · cases h
  · rintro ⟨⟨hderived, hkey, hsegment, hhash⟩, rfl, rfl, rfl, rfl⟩
    rw [dif_pos hderived, dif_pos hkey]
    simp only
    rw [if_neg (by omega), if_neg (by rcases hhash with h | h | h <;> rw [h] <;> decide)]

namespace AesGcmHkdfStreamingParameters

variable {lib : CryptoLibrary} {parameters : AesGcmHkdfStreamingParameters}

/-- **The key manager's bound is one larger.** -/
theorem validateKeyFormat_iff (h : parameters.Accepted) (hkey : parameters.keySizeInBytes < 2 ^ 31)
    (hsegment : parameters.ciphertextSegmentSizeInBytes < 2 ^ 31) :
    AesGcmHkdfStreamingKeyManager.validateKeyFormat (serializeAesGcmHkdfStreamingParameters parameters) = .ok () ↔
      parameters.derivedKeySizeInBytes + 24 < parameters.ciphertextSegmentSizeInBytes := by
  obtain ⟨hderived, hle, hmin, hhash⟩ := h
  have hkeyNat := asUInt32_toNat (by omega) hkey
  have hsegmentNat := asUInt32_toNat (by omega) hsegment
  have hderivedNat : ((asUInt32 parameters.derivedKeySizeInBytes).toNat : Int) = parameters.derivedKeySizeInBytes :=
    asUInt32_toNat (by omega) (by omega)
  have hheader : (asInt (1 + asUInt32 parameters.derivedKeySizeInBytes + 7) + 16) % 2 ^ 64 =
      parameters.derivedKeySizeInBytes + 24 := by
    rcases hderived with h | h <;> rw [h] <;> rfl
  have hnot : ¬ asUInt32 parameters.keySizeInBytes < asUInt32 parameters.derivedKeySizeInBytes := by
    rw [UInt32.lt_iff_toNat_lt]
    omega
  have hproto : parameters.hashType.toProto = .sha1 ∨ parameters.hashType.toProto = .sha256 ∨
      parameters.hashType.toProto = .sha512 := by
    rcases hhash with h | h | h <;> rw [h] <;> decide
  unfold AesGcmHkdfStreamingKeyManager.validateKeyFormat AesGcmHkdfStreamingKeyManager.validateParams
    serializeAesGcmHkdfStreamingParameters validateAesKeySize
  simp only
  rw [if_neg hnot, if_neg (not_not.2 hproto), hsegmentNat, hheader]
  by_cases hlt : parameters.derivedKeySizeInBytes + 24 < parameters.ciphertextSegmentSizeInBytes
  · rw [if_neg (by omega), if_neg (by omega)]
    exact iff_of_true rfl hlt
  · rw [if_pos (by omega)]
    exact iff_of_false (fun h => by cases h) hlt

/-- `AesGcmHkdfStreaming::New` accepts the key. -/
theorem create_ok (h : parameters.Accepted) (hsegment : parameters.ciphertextSegmentSizeInBytes < 2 ^ 31)
    {key : AesGcmHkdfStreamingKey} (hkey : key.parameters = parameters) :
    AesGcmHkdfStreamingKeyManager.create (serializeAesGcmHkdfStreamingKey key) =
      .ok ⟨key.initialKeyMaterial, parameters.hashType.toProto.protoToSubtle, parameters.derivedKeySizeInBytes,
        parameters.ciphertextSegmentSizeInBytes, 0⟩ := by
  subst hkey
  obtain ⟨hderived, hle, hmin, hhash⟩ := h
  have hsize := key.size_eq
  have htag : AesGcmHkdfStreamSegmentEncrypter.kTagSizeInBytes = 16 := rfl
  unfold AesGcmHkdfStreamingKeyManager.create AesGcmHkdfStreaming.new AesGcmHkdfStreaming.validate
    serializeAesGcmHkdfStreamingKey
  simp only
  rw [asInt_asUInt32 (by omega) (by omega), asInt_asUInt32 (by omega) hsegment,
    if_neg (not_not.2 (ParametersHash.toProto_protoToSubtle hhash)), if_neg (by omega), if_neg (by omega), if_neg (by omega),
    if_neg (by omega)]
  rfl

end AesGcmHkdfStreamingParameters

/-- What `AesGcmHkdfStreaming::New` and the segments ask for. -/
structure AesGcmHkdfStreaming.Opens (s : AesGcmHkdfStreaming) : Prop where
  hash    : s.hkdfHash = .sha1 ∨ s.hkdfHash = .sha256 ∨ s.hkdfHash = .sha512
  derived : s.derivedKeySize = 16 ∨ s.derivedKeySize = 32
  ikm     : s.derivedKeySize ≤ s.ikm.length
  offset  : s.ciphertextOffset = 0
  segment : s.derivedKeySize + 24 < s.ciphertextSegmentSize

namespace AesGcmHkdfStreaming

variable {lib : CryptoLibrary} {s : AesGcmHkdfStreaming}

theorem newSegmentEncrypter_ok (hlib : lib.SetsUp) (hs : s.Opens) (associatedData : Bytes)
    (salt : RandomBytes s.derivedKeySize.toNat)
    (noncePrefix : RandomBytes AesGcmHkdfStreamSegmentEncrypter.kNoncePrefixSizeInBytes) :
    ∃ key e, AesGcmHkdfStreamSegmentEncrypter.new lib ⟨key, salt.1, s.ciphertextOffset, s.ciphertextSegmentSize⟩
        noncePrefix = .ok e ∧ s.newSegmentEncrypter lib associatedData salt noncePrefix = .ok e := by
  obtain ⟨hhash, hderived, -, hoffset, hsegment⟩ := hs
  obtain ⟨key, hkdf, hlen⟩ := hlib.hkdf hhash (by omega : 0 ≤ s.derivedKeySize) (by omega)
  have hsalt := salt.2
  obtain ⟨aead, haead⟩ := hlib.aesGcm (by omega : key.length = 16 ∨ key.length = 32)
  have htag : AesGcmHkdfStreamSegmentEncrypter.kTagSizeInBytes = 16 := rfl
  have hpre : AesGcmHkdfStreamSegmentEncrypter.kNoncePrefixSizeInBytes = 7 := rfl
  have hnew : AesGcmHkdfStreamSegmentEncrypter.new lib ⟨key, salt.1, s.ciphertextOffset, s.ciphertextSegmentSize⟩
      noncePrefix = .ok ⟨aead, noncePrefix, AesGcmHkdfStreamSegmentEncrypter.createHeader salt.1 noncePrefix.1,
        s.ciphertextSegmentSize, s.ciphertextOffset⟩ := by
    unfold AesGcmHkdfStreamSegmentEncrypter.new AesGcmHkdfStreamSegmentEncrypter.validate
    simp only
    rw [if_neg (by omega), if_neg (by omega), if_neg (by omega), if_neg (by omega), haead]
    rfl
  refine ⟨key, _, hnew, ?_⟩
  unfold newSegmentEncrypter
  rw [hkdf]
  exact hnew

theorem newSegmentDecrypter_ok (hs : s.Opens) (associatedData : Bytes) :
    s.newSegmentDecrypter associatedData =
      .ok ⟨s.ikm, s.hkdfHash, s.derivedKeySize, s.ciphertextOffset, s.ciphertextSegmentSize, associatedData⟩ := by
  obtain ⟨hhash, hderived, hikm, hoffset, hsegment⟩ := hs
  have htag : AesGcmHkdfStreamSegmentEncrypter.kTagSizeInBytes = 16 := rfl
  have hpre : AesGcmHkdfStreamSegmentEncrypter.kNoncePrefixSizeInBytes = 7 := rfl
  unfold newSegmentDecrypter AesGcmHkdfStreamSegmentDecrypter.new AesGcmHkdfStreamSegmentDecrypter.validate
  simp only
  rw [if_neg (not_not.2 hhash), if_neg (by omega), if_neg (by omega), if_neg (by omega), if_neg (by omega)]
  rfl

/-- **The streams over the segments open.** -/
theorem streamsOpen (hlib : lib.SetsUp) (hs : s.Opens) (hint : s.ciphertextSegmentSize < 2 ^ 31) (associatedData : Bytes)
    (salt : RandomBytes s.derivedKeySize.toNat)
    (noncePrefix : RandomBytes AesGcmHkdfStreamSegmentEncrypter.kNoncePrefixSizeInBytes) :
    ∃ e d, s.newSegmentEncrypter lib associatedData salt noncePrefix = .ok e ∧
      s.newSegmentDecrypter associatedData = .ok d ∧ StreamsOpen e.toSegmentEncrypter (d.toSegmentDecrypter lib) := by
  obtain ⟨key, e, hnew, he⟩ := newSegmentEncrypter_ok hlib hs associatedData salt noncePrefix
  refine ⟨e, _, he, newSegmentDecrypter_ok hs associatedData, ?_⟩
  have hsalt : s.derivedKeySize = (salt.1.length : Int) := by
    have := salt.2
    have := hs.derived
    omega
  have hbounded := AesGcmHkdfStreamSegmentEncrypter.bounded
    (d := ⟨s.ikm, s.hkdfHash, s.derivedKeySize, s.ciphertextOffset, s.ciphertextSegmentSize, associatedData⟩) hnew
    ⟨hsalt, rfl, rfl⟩ hint
  exact hbounded.toFits.streamsOpen (AesGcmHkdfStreamSegmentEncrypter.firstSegmentSize_pos hnew)

end AesGcmHkdfStreaming

/-- **AES-GCM-HKDF parameters are usable above the bound.** -/
theorem AesGcmHkdfStreamingParameters.usable_iff {lib : CryptoLibrary} (hlib : lib.SetsUp)
    {parameters : AesGcmHkdfStreamingParameters} (h : parameters.Accepted) (hkey : parameters.keySizeInBytes < 2 ^ 31)
    (hsegment : parameters.ciphertextSegmentSizeInBytes < 2 ^ 31) :
    parameters.Usable lib ↔ parameters.derivedKeySizeInBytes + 24 < parameters.ciphertextSegmentSizeInBytes := by
  constructor
  · intro hu
    exact (validateKeyFormat_iff h hkey hsegment).1 hu.keyFormat
  · intro hlt
    refine ⟨(validateKeyFormat_iff h hkey hsegment).2 hlt, fun key hparams => ⟨_, create_ok h hsegment hparams, rfl, ?_⟩⟩
    have hikm : parameters.derivedKeySizeInBytes ≤ key.initialKeyMaterial.length := by
      rw [← key.size_eq, hparams]
      exact h.key
    exact AesGcmHkdfStreaming.streamsOpen hlib
      ⟨ParametersHash.toProto_protoToSubtle h.hash, h.derived, hikm, rfl, hlt⟩ hsegment

/-! ## AES-CTR-HMAC, layer by layer -/

theorem StreamingHash.toProto_ok {hash : StreamingHash} {maxTagSize : Int} (h : hash.maxTagSize = some maxTagSize) :
    ∃ proto, hash.toProto = .ok proto ∧ (proto = .sha1 ∧ maxTagSize = 20 ∨ proto = .sha256 ∧ maxTagSize = 32 ∨
      proto = .sha512 ∧ maxTagSize = 64) := by
  cases hash with
  | sha1 =>
    cases h
    exact ⟨_, rfl, .inl ⟨rfl, rfl⟩⟩
  | sha256 =>
    cases h
    exact ⟨_, rfl, .inr (.inl ⟨rfl, rfl⟩)⟩
  | sha512 =>
    cases h
    exact ⟨_, rfl, .inr (.inr ⟨rfl, rfl⟩)⟩
  | unsupported => cases h

namespace AesCtrHmacStreamingParameters

/-- What the builder accepts, with the protos of its hashes. -/
structure Accepted (parameters : AesCtrHmacStreamingParameters) (hkdfHash hmacHash : HashTypeProto) : Prop where
  derived : parameters.derivedKeySizeInBytes = 16 ∨ parameters.derivedKeySizeInBytes = 32
  key     : parameters.derivedKeySizeInBytes ≤ parameters.keySizeInBytes
  segment : parameters.derivedKeySizeInBytes + parameters.tagSizeInBytes + 9 ≤ parameters.ciphertextSegmentSizeInBytes
  tag     : 10 ≤ parameters.tagSizeInBytes
  hkdf    : parameters.hkdfHashType.toProto = .ok hkdfHash
  hkdfIn  : hkdfHash = .sha1 ∨ hkdfHash = .sha256 ∨ hkdfHash = .sha512
  hmac    : parameters.hmacHashType.toProto = .ok hmacHash
  hmacIn  : (hmacHash = .sha1 ∧ parameters.tagSizeInBytes ≤ 20) ∨ (hmacHash = .sha256 ∧ parameters.tagSizeInBytes ≤ 32) ∨
    (hmacHash = .sha512 ∧ parameters.tagSizeInBytes ≤ 64)

theorem build_ok {keySize derivedKeySize tagSize segmentSize : Int} {hkdfHashType hmacHashType : StreamingHash}
    {parameters : AesCtrHmacStreamingParameters}
    (h : build keySize derivedKeySize hkdfHashType hmacHashType tagSize segmentSize = .ok parameters) :
    (∃ hkdfHash hmacHash, parameters.Accepted hkdfHash hmacHash) ∧ parameters.keySizeInBytes = keySize ∧
      parameters.ciphertextSegmentSizeInBytes = segmentSize := by
  unfold build at h
  split at h
  · cases h
  · rename_i hderived
    split at h
    · cases h
    · rename_i hkey
      simp only at h
      split at h
      · cases h
      · rename_i hsegment
        split at h
        · cases h
        · rename_i htag
          split at h
          · cases h
          · rename_i hhkdf
            split at h
            · cases h
            · rename_i maxTagSize hmax
              split at h
              · cases h
              · rename_i hbig
                cases h
                obtain ⟨hkdfMax, hhkdf⟩ := Option.ne_none_iff_exists'.1 hhkdf
                obtain ⟨hkdfHash, hkdf, hkdfIn⟩ := StreamingHash.toProto_ok hhkdf
                obtain ⟨hmacHash, hmac, hmacIn⟩ := StreamingHash.toProto_ok hmax
                refine ⟨⟨hkdfHash, hmacHash, ?_⟩, rfl, rfl⟩
                exact {
                  derived := by dsimp only; omega
                  key := by dsimp only; omega
                  segment := by dsimp only; omega
                  tag := by dsimp only; omega
                  hkdf := hkdf
                  hkdfIn := hkdfIn.imp And.left (Or.imp And.left And.left)
                  hmac := hmac
                  hmacIn := hmacIn.imp (fun h => ⟨h.1, by dsimp only; omega⟩)
                    (Or.imp (fun h => ⟨h.1, by dsimp only; omega⟩) (fun h => ⟨h.1, by dsimp only; omega⟩)) }

variable {lib : CryptoLibrary} {parameters : AesCtrHmacStreamingParameters} {hkdfHash hmacHash : HashTypeProto}

theorem from_ok (h : parameters.Accepted hkdfHash hmacHash) :
    fromAesCtrHmacStreamingParameters parameters = .ok ⟨asUInt32 parameters.ciphertextSegmentSizeInBytes,
      asUInt32 parameters.derivedKeySizeInBytes, hkdfHash, ⟨hmacHash, asUInt32 parameters.tagSizeInBytes⟩⟩ := by
  unfold fromAesCtrHmacStreamingParameters
  rw [h.hkdf, h.hmac]
  rfl

/-- The key manager's bound is the same. -/
theorem validateKeyFormat_ok (h : parameters.Accepted hkdfHash hmacHash) (hkey : parameters.keySizeInBytes < 2 ^ 31)
    (hsegment : parameters.ciphertextSegmentSizeInBytes < 2 ^ 31) :
    ∃ format, serializeAesCtrHmacStreamingParameters parameters = .ok format ∧
      AesCtrHmacStreamingKeyManager.validateKeyFormat format = .ok () := by
  have hfrom := from_ok h
  obtain ⟨hderived, hle, hmin, htag, -, hkdfIn, -, hmacIn⟩ := h
  refine ⟨⟨_, asUInt32 parameters.keySizeInBytes, 0⟩, by unfold serializeAesCtrHmacStreamingParameters; rw [hfrom]; rfl, ?_⟩
  have hkeyNat := asUInt32_toNat (by omega) hkey
  have hsegmentNat := asUInt32_toNat (by omega) hsegment
  have htagLe : parameters.tagSizeInBytes ≤ 64 := by omega
  have htagNat := asUInt32_toNat (n := parameters.tagSizeInBytes) (by omega) (by omega)
  have hderivedNat : ((asUInt32 parameters.derivedKeySizeInBytes).toNat : Int) = parameters.derivedKeySizeInBytes :=
    asUInt32_toNat (by omega) (by omega)
  have hheader : ((asUInt32 (asInt (1 + asUInt32 parameters.derivedKeySizeInBytes + 7))).toNat : Int) =
      parameters.derivedKeySizeInBytes + 8 := by
    rcases hderived with h | h <;> rw [h] <;> rfl
  have hsum : ((asUInt32 (asInt (1 + asUInt32 parameters.derivedKeySizeInBytes + 7)) +
      asUInt32 parameters.tagSizeInBytes).toNat : Int) = parameters.derivedKeySizeInBytes + 8 + parameters.tagSizeInBytes := by
    rw [UInt32.toNat_add, Nat.mod_eq_of_lt (by omega)]
    omega
  unfold AesCtrHmacStreamingKeyManager.validateKeyFormat AesCtrHmacStreamingKeyManager.validateParams validateAesKeySize
  simp only
  rw [if_neg, if_neg (not_not.2 hkdfIn), if_neg, if_neg, if_neg, if_neg, if_neg, if_neg (by omega)]
  · rw [gt_iff_lt, UInt32.lt_iff_toNat_lt]
    change ¬ 0x7fffffff < _
    omega
  · rw [UInt32.le_iff_toNat_le]
    omega
  · simp only [UInt32.lt_iff_toNat_lt, gt_iff_lt]
    change ¬ (_ ∧ 20 < _ ∨ _ ∧ 32 < _ ∨ _ ∧ 64 < _)
    rcases hmacIn with ⟨rfl, h⟩ | ⟨rfl, h⟩ | ⟨rfl, h⟩ <;> simp <;> omega
  · rw [UInt32.lt_iff_toNat_lt]
    change ¬ _ < 10
    omega
  · rcases hmacIn with ⟨rfl, -⟩ | ⟨rfl, -⟩ | ⟨rfl, -⟩ <;> decide
  · rw [UInt32.lt_iff_toNat_lt]
    omega

/-- `AesCtrHmacStreaming::New` accepts the key. -/
theorem create_ok (h : parameters.Accepted hkdfHash hmacHash)
    (hsegment : parameters.ciphertextSegmentSizeInBytes < 2 ^ 31) {key : AesCtrHmacStreamingKey}
    (hkey : key.parameters = parameters) :
    ∃ proto params, serializeAesCtrHmacStreamingKey key = .ok proto ∧
      AesCtrHmacStreamingKeyManager.create proto = .ok params ∧ params.ciphertextOffset = 0 ∧
      params.ciphertextSegmentSize < 2 ^ 31 ∧ AesCtrHmacStreaming.validate params = .ok () := by
  subst hkey
  have hfrom := from_ok h
  obtain ⟨hderived, hle, hmin, htag, -, hkdfIn, -, hmacIn⟩ := h
  have hsize := key.size_eq
  have hpre : AesCtrHmacStreaming.kNoncePrefixSizeInBytes = 7 := rfl
  have hvalid : AesCtrHmacStreaming.validate ⟨key.initialKeyMaterial, hkdfHash.protoToSubtle,
      key.parameters.derivedKeySizeInBytes, key.parameters.ciphertextSegmentSizeInBytes, 0, hmacHash.protoToSubtle,
      key.parameters.tagSizeInBytes⟩ = .ok () := by
    unfold AesCtrHmacStreaming.validate
    simp only
    rw [if_neg (by omega), if_neg (by omega), if_neg, if_neg (by omega), if_neg (by omega), if_neg (by omega), if_neg, if_neg]
    · rcases hmacIn with ⟨rfl, h⟩ | ⟨rfl, h⟩ | ⟨rfl, h⟩ <;> simp [HashTypeProto.protoToSubtle] <;> omega
    · rcases hmacIn with ⟨rfl, -⟩ | ⟨rfl, -⟩ | ⟨rfl, -⟩ <;> decide
    · rcases hkdfIn with rfl | rfl | rfl <;> decide
  refine ⟨⟨0, _, key.initialKeyMaterial⟩, _, by unfold serializeAesCtrHmacStreamingKey; rw [hfrom]; rfl, ?_, ?_, ?_, hvalid⟩
  · unfold AesCtrHmacStreamingKeyManager.create AesCtrHmacStreaming.new
    simp only
    rw [asInt_asUInt32 (by omega) (by omega), asInt_asUInt32 (by omega) hsegment, asInt_asUInt32 (by omega) (by omega), hvalid]
    rfl
  · rfl
  · exact hsegment

end AesCtrHmacStreamingParameters

/-- The hashes of parameters that `Validate` accepts, and their sizes. -/
theorem AesCtrHmacStreaming.validate_hashes {params : AesCtrHmacStreaming.Params}
    (h : AesCtrHmacStreaming.validate params = .ok ()) :
    (params.hkdfAlgo = .sha1 ∨ params.hkdfAlgo = .sha256 ∨ params.hkdfAlgo = .sha512) ∧
      ((params.tagAlgo = .sha1 ∧ params.tagSize ≤ 20) ∨ (params.tagAlgo = .sha256 ∧ params.tagSize ≤ 32) ∨
        (params.tagAlgo = .sha512 ∧ params.tagSize ≤ 64)) := by
  unfold AesCtrHmacStreaming.validate at h
  split at h
  · cases h
  · split at h
    · cases h
    · split at h
      · cases h
      · rename_i hkdf
        simp only at h
        split at h
        · cases h
        · split at h
          · cases h
          · split at h
            · cases h
            · split at h
              · cases h
              · rename_i htag
                split at h
                · cases h
                · rename_i hbig
                  refine ⟨not_not.1 hkdf, ?_⟩
                  rcases not_not.1 htag with h | h | h <;> simp only [h, true_and] at hbig ⊢ <;> simp at hbig ⊢ <;> omega

/-- **The streams over the segments open.** -/
theorem AesCtrHmacStreaming.streamsOpen {lib : CryptoLibrary} (hlib : lib.SetsUp) {params : AesCtrHmacStreaming.Params}
    (hvalid : AesCtrHmacStreaming.validate params = .ok ()) (hint : params.ciphertextSegmentSize < 2 ^ 31)
    (associatedData : Bytes) (salt : RandomBytes params.keySize.toNat)
    (noncePrefix : RandomBytes AesCtrHmacStreaming.kNoncePrefixSizeInBytes) :
    ∃ e d, AesCtrHmacStreamSegmentEncrypter.new lib params associatedData salt noncePrefix = .ok e ∧
      AesCtrHmacStreamSegmentDecrypter.new params associatedData = .ok d ∧
      StreamsOpen (e.toSegmentEncrypter lib) (d.toSegmentDecrypter lib) := by
  obtain ⟨hkdfIn, hmacIn⟩ := AesCtrHmacStreaming.validate_hashes hvalid
  obtain ⟨hkey, -, htag, -⟩ := AesCtrHmacStreaming.validate_ok hvalid
  have hmacKeySize : AesCtrHmacStreaming.kHmacKeySizeInBytes = 32 := rfl
  obtain ⟨keyValue, hmacKeyValue, hkeys, hlen⟩ : ∃ keyValue hmacKeyValue, AesCtrHmacStreaming.deriveKeys lib params.ikm
      params.hkdfAlgo salt.1 associatedData params.keySize = .ok (keyValue, hmacKeyValue) ∧ hmacKeyValue.length = 32 := by
    unfold AesCtrHmacStreaming.deriveKeys
    simp only
    obtain ⟨material, hkdf, hlen⟩ : ∃ material, lib.computeHkdf params.hkdfAlgo params.ikm salt.1 associatedData
        (params.keySize + AesCtrHmacStreaming.kHmacKeySizeInBytes) = .ok material ∧
        (material.length : Int) = params.keySize + AesCtrHmacStreaming.kHmacKeySizeInBytes :=
      hlib.hkdf hkdfIn (by omega) (by omega)
    rw [hkdf]
    exact ⟨_, _, rfl, by rw [List.length_drop]; omega⟩
  obtain ⟨mac, hmac⟩ : ∃ mac, lib.newHmac params.tagAlgo params.tagSize hmacKeyValue = .ok mac :=
    hlib.hmac hmacIn (by omega) (by omega)
  obtain ⟨e, he⟩ : ∃ e, AesCtrHmacStreamSegmentEncrypter.new lib params associatedData salt noncePrefix = .ok e := by
    unfold AesCtrHmacStreamSegmentEncrypter.new
    rw [hvalid, hkeys]
    change ∃ e, (lib.newHmac params.tagAlgo params.tagSize hmacKeyValue >>= _) = .ok e
    rw [hmac]
    exact ⟨_, rfl⟩
  obtain ⟨d, hd⟩ : ∃ d, AesCtrHmacStreamSegmentDecrypter.new params associatedData = .ok d := by
    unfold AesCtrHmacStreamSegmentDecrypter.new
    rw [hvalid]
    exact ⟨_, rfl⟩
  exact ⟨e, d, he, hd, (AesCtrHmacStreamSegmentEncrypter.bounded he hd hint).toFits.streamsOpen
    (AesCtrHmacStreamSegmentEncrypter.firstSegmentSize_pos he)⟩

/-- **AES-CTR-HMAC parameters are usable.** -/
theorem AesCtrHmacStreamingParameters.usable {lib : CryptoLibrary} (hlib : lib.SetsUp)
    {parameters : AesCtrHmacStreamingParameters} {hkdfHash hmacHash : HashTypeProto}
    (h : parameters.Accepted hkdfHash hmacHash) (hkey : parameters.keySizeInBytes < 2 ^ 31)
    (hsegment : parameters.ciphertextSegmentSizeInBytes < 2 ^ 31) : parameters.Usable lib := by
  refine ⟨validateKeyFormat_ok h hkey hsegment, fun key hparams => ?_⟩
  obtain ⟨proto, params, hproto, hcreate, hoffset, hint, hvalid⟩ := create_ok h hsegment hparams
  exact ⟨proto, params, hproto, hcreate, hoffset, AesCtrHmacStreaming.streamsOpen hlib hvalid hint⟩

/-! ## Accepted parameters -/

/-- **Accepted streaming parameters are usable**, but for AES-GCM-HKDF parameters whose segments are 24 bytes longer than
the derived key: a segment must leave room for plaintext, and those are accepted without. -/
theorem streamingParameters_usable_iff (lib : CryptoLibrary) (hlib : lib.SetsUp)
    (keySize derivedKeySize segmentSize : Int32) :
    (∀ hash, (∀ parameters,
        AesGcmHkdfStreamingParameters.build keySize.toInt derivedKeySize.toInt hash segmentSize.toInt = .ok parameters →
          parameters.Usable lib) ↔
      ¬ ((derivedKeySize.toInt = 16 ∨ derivedKeySize.toInt = 32) ∧ derivedKeySize.toInt ≤ keySize.toInt ∧
        (hash = .sha1 ∨ hash = .sha256 ∨ hash = .sha512) ∧ segmentSize.toInt = derivedKeySize.toInt + 24)) ∧
    ∀ hkdfHash hmacHash (tagSize : Int32) parameters,
      AesCtrHmacStreamingParameters.build keySize.toInt derivedKeySize.toInt hkdfHash hmacHash tagSize.toInt
        segmentSize.toInt = .ok parameters → parameters.Usable lib := by
  have hkeyLt := keySize.toInt_lt
  have hsegmentLt := segmentSize.toInt_lt
  constructor
  · intro hash
    constructor
    · rintro hall ⟨hderived, hle, hhash, hsegment⟩
      have hbuild : AesGcmHkdfStreamingParameters.build keySize.toInt derivedKeySize.toInt hash segmentSize.toInt =
          .ok ⟨keySize.toInt, derivedKeySize.toInt, hash, segmentSize.toInt, by omega⟩ :=
        AesGcmHkdfStreamingParameters.build_iff.2 ⟨⟨hderived, hle, by dsimp only; omega, hhash⟩, rfl, rfl, rfl, rfl⟩
      have haccepted := (AesGcmHkdfStreamingParameters.build_iff.1 hbuild).1
      have hlt := (AesGcmHkdfStreamingParameters.usable_iff hlib haccepted hkeyLt hsegmentLt).1 (hall _ hbuild)
      dsimp only at hlt
      omega
    · intro hnot parameters hbuild
      obtain ⟨haccepted, hkey, hderived, hhash, hsegment⟩ := AesGcmHkdfStreamingParameters.build_iff.1 hbuild
      refine (AesGcmHkdfStreamingParameters.usable_iff hlib haccepted (by omega) (by omega)).2 ?_
      by_contra hle
      have hmin := haccepted.segment
      exact hnot ⟨hderived ▸ haccepted.derived, by rw [← hderived, ← hkey]; exact haccepted.key,
        hhash ▸ haccepted.hash, by omega⟩
  · intro hkdfHash hmacHash tagSize parameters hbuild
    obtain ⟨⟨hkdfProto, hmacProto, haccepted⟩, hkey, hsegment⟩ := AesCtrHmacStreamingParameters.build_ok hbuild
    exact AesCtrHmacStreamingParameters.usable hlib haccepted (by omega) (by omega)

theorem zeroLibrary_setsUp : zeroLibrary.SetsUp where
  hkdf := fun _ h0 _ => ⟨_, rfl, by rw [List.length_replicate]; omega⟩
  aesGcm := fun _ => ⟨_, rfl⟩
  hmac := fun _ _ _ => ⟨_, rfl⟩

/-- One byte above the bound. -/
theorem streamingParameters_usable_above :
    (∃ parameters, AesGcmHkdfStreamingParameters.build 19 16 .sha256 41 = .ok parameters ∧ parameters.Usable zeroLibrary) ∧
    ∃ parameters, AesCtrHmacStreamingParameters.build 19 16 .sha256 .sha256 12 41 = .ok parameters ∧
      parameters.Usable zeroLibrary := by
  obtain ⟨hgcm, hctr⟩ := streamingParameters_usable_iff zeroLibrary zeroLibrary_setsUp 19 16 41
  exact ⟨⟨_, rfl, (hgcm .sha256).2 (by decide) ⟨19, 16, .sha256, 41, by decide⟩ rfl⟩,
    ⟨_, rfl, hctr .sha256 .sha256 12 ⟨19, 16, .sha256, .sha256, 12, 41⟩ rfl⟩⟩

/-- At the bound the builder accepts, and the key manager and the segment encrypter refuse. -/
theorem streamingParameters_at_bound :
    ¬ (∀ parameters, AesGcmHkdfStreamingParameters.build 19 16 .sha256 40 = .ok parameters →
      parameters.Usable zeroLibrary) ∧
    ∃ parameters streaming, AesGcmHkdfStreamingParameters.build 19 16 .sha256 40 = .ok parameters ∧
      AesGcmHkdfStreamingKeyManager.validateKeyFormat (serializeAesGcmHkdfStreamingParameters parameters) =
        .error ⟨.invalidArgument, "ciphertext_segment_size too small"⟩ ∧
      AesGcmHkdfStreaming.new ⟨List.replicate 19 1, .sha256, 16, 40, 0⟩ = .ok streaming ∧
      (match streaming.newSegmentEncrypter zeroLibrary [] ⟨List.replicate streaming.derivedKeySize.toNat 5, by simp⟩
          ⟨List.replicate 7 9, rfl⟩ with
        | .ok _ => False
        | .error e => e = ⟨.invalidArgument, "ciphertext_segment_size too small"⟩) := by
  constructor
  · intro h
    have hformat := (h ⟨19, 16, .sha256, 40, by decide⟩ rfl).keyFormat
    exact absurd hformat (by decide)
  · exact ⟨⟨19, 16, .sha256, 40, by decide⟩, _, rfl, rfl, rfl, rfl⟩

end Tink
