import TinkCc.DerivableKeyTypes
import TinkCc.LibNarrow
/-!
# EcdsaKeys — ECDSA and Ed25519 keys

`ecdsa_parameters.cc`, `ecdsa_public_key.cc`, `ecdsa_private_key.cc`, `bn_encoding_util.cc`, the parsers and serializers of
`ecdsa_proto_serialization_impl.cc`, and the private keys of Ed25519.  BoringSSL checks points and key pairs as numbers.
-/
namespace Tink

/-! ## Integers of a fixed length -/

/-- `GetValueOfFixedLength`, of a `BigInteger`. -/
def getValueOfFixedLength (bigInteger length : Nat) : Except Status Bytes :=
  if sizeInBytes bigInteger ≤ length then .ok (BigEndian.encode length bigInteger)
  else
    let size := sizeInBytes bigInteger
    .error ⟨.invalidArgument, s!"Value too large for the given length. Expected {length}, got {size}"⟩

/-- `GetSecretValueOfFixedLength`. -/
def getSecretValueOfFixedLength (bigInteger : Bytes) (length : Nat) : Except Status Bytes :=
  if bigInteger.length ≤ length then .ok (List.replicate (length - bigInteger.length) 0 ++ bigInteger)
  else
    let size := bigInteger.length
    .error ⟨.invalidArgument, s!"Value too large for the given length. Expected {length}, got {size}"⟩

/-- `ParseBigIntToFixedLength`; `none` where a buffer cannot be allocated, which ends the process. -/
def parseBigIntToFixedLength (val : Bytes) (length : Int) : ExceptT Status Option Bytes :=
  if length < 0 then throw ⟨.invalidArgument, "Length must be non-negative"⟩
  else if val.length ≤ length.toNat then pure (List.replicate (length.toNat - val.length) 0 ++ val)
  else
    let toTruncate := Narrow.toInt (val.length - length)
    -- as a `size_t`, a negative number is more than 2^63
    if toTruncate < 0 then ExceptT.mk none
    else if val.take toTruncate.toNat = List.replicate toTruncate.toNat 0 then pure (val.drop toTruncate.toNat)
    else throw ⟨.invalidArgument, "Integer too large"⟩

/-- The answer of a call where the process goes on.  It does not without a buffer (an `ABSL_CHECK` of `SecretBuffer`), so
the status that stands for that case is one that no caller ever sees. -/
def answered {α : Type} (call : ExceptT Status Option α) : Except Status α :=
  call.run.getD (.error ⟨.unavailable, "Check failed: new_data != nullptr"⟩)

theorem lt_pow_sizeInBytes (n : Nat) : n < 256 ^ sizeInBytes n := Nat.lt_base_pow_length_digits (by omega)

theorem getValueOfFixedLength_ok {n length : Nat} {bytes : Bytes} (h : getValueOfFixedLength n length = .ok bytes) :
    bytes.length = length ∧ BigEndian.value bytes = n := by
  unfold getValueOfFixedLength at h
  split at h
  · rename_i hle
    cases h
    exact ⟨BigEndian.encode_length _ _, BigEndian.value_encode
      (Nat.lt_of_lt_of_le (lt_pow_sizeInBytes n) (Nat.pow_le_pow_right (by omega) hle))⟩
  · cases h

theorem getSecretValueOfFixedLength_ok {val bytes : Bytes} {length : Nat}
    (h : getSecretValueOfFixedLength val length = .ok bytes) :
    bytes.length = length ∧ BigEndian.value bytes = BigEndian.value val := by
  unfold getSecretValueOfFixedLength at h
  split at h
  · cases h
    refine ⟨?_, BigEndian.value_zeros_append _ _⟩
    rw [List.length_append, List.length_replicate]
    omega
  · cases h

/-- Where the `int` holds the number of bytes that are too many. -/
theorem parseBigIntToFixedLength_of_lt {val : Bytes} {length : Nat} (h : val.length < length + 2 ^ 31) :
    parseBigIntToFixedLength val length =
      if val.length ≤ length then pure (List.replicate (length - val.length) 0 ++ val)
      else if val.take (val.length - length) = List.replicate (val.length - length) 0 then
        pure (val.drop (val.length - length))
      else throw ⟨.invalidArgument, "Integer too large"⟩ := by
  unfold parseBigIntToFixedLength
  rw [if_neg (by omega), Int.toNat_natCast]
  split
  · rfl
  · rw [Narrow.toInt_of_nonneg_of_lt (by omega) (by omega)]
    dsimp only
    rw [if_neg (by omega), show ((val.length : Int) - length).toNat = val.length - length by omega]

theorem parseBigIntToFixedLength_self (val : Bytes) : parseBigIntToFixedLength val val.length = pure val := by
  rw [parseBigIntToFixedLength_of_lt (by omega), if_pos (Nat.le_refl _), Nat.sub_self]
  rfl

/-- What was padded is read back. -/
theorem parseBigIntToFixedLength_padded {val padded : Bytes} {length : Nat} (hsmall : length < 2 ^ 31)
    (h : getSecretValueOfFixedLength val length = .ok padded) :
    parseBigIntToFixedLength padded val.length = pure val := by
  have hlength := (getSecretValueOfFixedLength_ok h).1
  unfold getSecretValueOfFixedLength at h
  split at h
  · rename_i hle
    cases h
    rw [parseBigIntToFixedLength_of_lt (by omega)]
    by_cases heq : length = val.length
    · subst heq
      simp
    · rw [if_neg (by omega)]
      have hlen : (List.replicate (length - val.length) (0 : UInt8) ++ val).length - val.length =
          (List.replicate (length - val.length) (0 : UInt8)).length := by
        rw [List.length_append, List.length_replicate]
        omega
      rw [hlen, List.take_left, List.drop_left, if_pos (by rw [List.length_replicate])]
  · cases h

/-- A result of the length asked for comes from a number that is not too long for the `int`. -/
theorem lt_of_parseBigIntToFixedLength {val bytes : Bytes} {length : Nat}
    (h : parseBigIntToFixedLength val length = pure bytes) (hlength : bytes.length = length) :
    val.length < length + 2 ^ 31 := by
  unfold parseBigIntToFixedLength at h
  rw [if_neg (by omega), Int.toNat_natCast] at h
  split at h
  · omega
  · dsimp only at h
    split at h
    · cases h
    · split at h
      · cases h
        rw [List.length_drop] at hlength
        have := Narrow.toInt_lt (val.length - length)
        omega
      · cases h

theorem answered_ok {α : Type} {call : ExceptT Status Option α} {a : α} : answered call = .ok a ↔ call = pure a := by
  constructor
  · intro h
    cases call with
    | none => cases h
    | some result =>
      cases h
      rfl
  · rintro rfl
    rfl

/-! ## The library -/

/-- An EC key: the coordinates of the public point, and the private number. -/
structure EcKey where
  pubX : Bytes
  pubY : Bytes
  priv : Bytes

/-- What Tink is built with. -/
inductive SslBuild
  | boringSsl
  | openSsl
  | onlyFips
  deriving DecidableEq, Repr

/-- BoringSSL or OpenSSL, as far as keys for signatures go.  Whether a key can be derived does not depend on the seed;
a pair of keys is checked as numbers. -/
structure EcKeyLibrary where
  groups                  : EcGroups
  build                   : SslBuild
  fipsMode                : Bool
  deriveFromSecret        : EllipticCurveType → (seed : Bytes) → Option EcKey
  deriveFromSecret_isSome : ∀ curve seed seed', seed.length = seed'.length →
    (deriveFromSecret curve seed).isSome = (deriveFromSecret curve seed').isSome
  checkKey                : EllipticCurveType → (point : Nat × Nat) → (priv : Nat) → Except Status Unit
  ed25519PublicKey        : (seed : Bytes) → Bytes
  ed25519PublicKey_length : ∀ seed, (ed25519PublicKey seed).length = 32

variable (lib : EcKeyLibrary)

/-- `NewEcKey` from a seed, on a NIST curve. -/
def newEcKey (curve : EllipticCurveType) (secretSeed : Bytes) : Except Status EcKey :=
  match lib.build with
  | .onlyFips => .error ⟨.unimplemented, "Deriving EC keys from a secret seed is not allowed in FIPS mode"⟩
  | .openSsl => .error ⟨.unimplemented, "Deriving EC keys from a secret seed is not supported with OpenSSL"⟩
  | .boringSsl =>
    if lib.fipsMode then .error ⟨.internal, "Deriving EC keys from a secret seed is not allowed in FIPS mode"⟩
    else
      match lib.deriveFromSecret curve secretSeed with
      | none => .error ⟨.internal, "EC_KEY_derive_from_secret failed"⟩
      | some key => .ok key

theorem newEcKey_error {curve : EllipticCurveType} {seed seed' : Bytes} {e : Status}
    (h : newEcKey lib curve seed = .error e) (hlen : seed.length = seed'.length) :
    ∃ e', newEcKey lib curve seed' = .error e' := by
  unfold newEcKey at h ⊢
  cases hbuild : lib.build with
  | onlyFips => exact ⟨_, rfl⟩
  | openSsl => exact ⟨_, rfl⟩
  | boringSsl =>
    rw [hbuild] at h
    dsimp only at h ⊢
    cases hfips : lib.fipsMode with
    | true => exact ⟨_, rfl⟩
    | false =>
      rw [hfips] at h
      have hsome := lib.deriveFromSecret_isSome curve seed seed' hlen
      rcases hd : lib.deriveFromSecret curve seed with _ | key
      · rw [hd] at hsome
        rcases hd' : lib.deriveFromSecret curve seed' with _ | key
        · exact ⟨_, rfl⟩
        · rw [hd'] at hsome
          cases hsome
      · rw [hd] at h
        cases h

/-- `NewEd25519Key` from a seed: the public and the private key. -/
def newEd25519Key (secretSeed : Bytes) : Except Status (Bytes × Bytes) :=
  if secretSeed.length ≠ 32 then
    let size := secretSeed.length
    .error ⟨.invalidArgument, s!"Invalid seed of length {size}; expected 32"⟩
  else .ok (lib.ed25519PublicKey secretSeed, secretSeed)

/-! ## ECDSA -/

inductive EcdsaSignatureEncoding
  | der
  | ieeeP1363
  deriving DecidableEq, Repr

structure EcdsaParameters where
  curveType         : EllipticCurveType
  hashType          : ParametersHash
  signatureEncoding : EcdsaSignatureEncoding
  variant           : KeyVariant
  deriving DecidableEq, Repr

/-- `EcdsaParameters::Builder::Build`, with everything set. -/
def EcdsaParameters.build (curveType : EllipticCurveType) (hashType : ParametersHash)
    (signatureEncoding : EcdsaSignatureEncoding) (variant : KeyVariant) : Except Status EcdsaParameters :=
  if hashType = .sha1 ∨ hashType = .sha224 then
    .error ⟨.invalidArgument, "Cannot create Ecdsa parameters with unknown HashType."⟩
  else
    match curveType with
    | .nistP256 =>
      if hashType ≠ .sha256 then .error ⟨.invalidArgument, "NIST_P256 curve requires SHA256."⟩
      else .ok ⟨curveType, hashType, signatureEncoding, variant⟩
    | .nistP384 =>
      if hashType ≠ .sha384 ∧ hashType ≠ .sha512 then
        .error ⟨.invalidArgument, "NIST_P384 curve requires SHA384 or SHA512."⟩
      else .ok ⟨curveType, hashType, signatureEncoding, variant⟩
    | .nistP521 =>
      if hashType ≠ .sha512 then .error ⟨.invalidArgument, "NIST_P521 curve requires SHA512."⟩
      else .ok ⟨curveType, hashType, signatureEncoding, variant⟩

theorem EcdsaParameters.build_ok {curveType : EllipticCurveType} {hashType : ParametersHash}
    {signatureEncoding : EcdsaSignatureEncoding} {variant : KeyVariant} {parameters : EcdsaParameters}
    (h : EcdsaParameters.build curveType hashType signatureEncoding variant = .ok parameters) :
    parameters = ⟨curveType, hashType, signatureEncoding, variant⟩ := by
  unfold EcdsaParameters.build at h
  split at h
  · cases h
  · cases curveType <;>
    · dsimp only at h
      split at h
      · cases h
      · exact (Except.ok.inj h).symm

/-- `GetPrivateKeyLength`. -/
def EcdsaParameters.privateKeyLength (parameters : EcdsaParameters) : Nat :=
  match parameters.curveType with
  | .nistP256 => 32
  | .nistP384 => 48
  | .nistP521 => 66

structure EcdsaPublicKey where
  parameters    : EcdsaParameters
  publicPoint   : Nat × Nat
  idRequirement : Option UInt32
  deriving DecidableEq, Repr

/-- `EcdsaPublicKey::Create`. -/
def EcdsaPublicKey.create (parameters : EcdsaParameters) (publicPoint : Nat × Nat) (idRequirement : Option UInt32) :
    Except Status EcdsaPublicKey := do
  checkVariantId parameters.variant idRequirement
  let _ ← lib.groups.getEcPoint parameters.curveType publicPoint.1 publicPoint.2
  return ⟨parameters, publicPoint, idRequirement⟩

structure EcdsaPrivateKey where
  publicKey       : EcdsaPublicKey
  privateKeyValue : Bytes
  deriving DecidableEq, Repr

/-- `EcdsaPrivateKey::Create`. -/
def EcdsaPrivateKey.create (publicKey : EcdsaPublicKey) (privateKeyValue : Bytes) : Except Status EcdsaPrivateKey :=
  let keyLength := publicKey.parameters.privateKeyLength
  let size := privateKeyValue.length
  if size ≠ keyLength then
    .error ⟨.invalidArgument, s!"Private key length {size} is different from expected length {keyLength}"⟩
  else do
    -- ValidateKeyPair
    let point ← lib.groups.getEcPoint publicKey.parameters.curveType publicKey.publicPoint.1 publicKey.publicPoint.2
    lib.checkKey publicKey.parameters.curveType point (BigEndian.value privateKeyValue)
    return ⟨publicKey, privateKeyValue⟩

/-! ## ECDSA keys and their protos -/

/-- `ToVariant` of ECDSA. -/
def toEcdsaVariant : OutputPrefixType → Except Status KeyVariant
  | .legacy => .ok .legacy
  | .crunchy => .ok .crunchy
  | .raw => .ok .noPrefix
  | .tink => .ok .tink
  | .withIdRequirement => .ok .noPrefixWithPrehashId
  | _ => .error ⟨.invalidArgument, "Could not determine output prefix type"⟩

/-- `ToHashType` of ECDSA. -/
def toEcdsaHashType : HashTypeProto → Except Status ParametersHash
  | .sha256 => .ok .sha256
  | .sha384 => .ok .sha384
  | .sha512 => .ok .sha512
  | _ => .error ⟨.invalidArgument, "Could not determine HashType"⟩

/-- `ToCurveType`. -/
def toCurveType : EllipticCurveTypeProto → Except Status EllipticCurveType
  | .nistP256 => .ok .nistP256
  | .nistP384 => .ok .nistP384
  | .nistP521 => .ok .nistP521
  | _ => .error ⟨.invalidArgument, "Could not determine EllipticCurveType"⟩

/-- `ToProtoCurveType`. -/
def EllipticCurveType.toProto : EllipticCurveType → EllipticCurveTypeProto
  | .nistP256 => .nistP256
  | .nistP384 => .nistP384
  | .nistP521 => .nistP521

/-- `ToSignatureEncoding`. -/
def toSignatureEncoding : EcdsaSignatureEncodingProto → Except Status EcdsaSignatureEncoding
  | .der => .ok .der
  | .ieeeP1363 => .ok .ieeeP1363
  | _ => .error ⟨.invalidArgument, "Could not determine EcdsaSignatureEncoding"⟩

/-- `ToProtoSignatureEncoding`. -/
def EcdsaSignatureEncoding.toProto : EcdsaSignatureEncoding → EcdsaSignatureEncodingProto
  | .der => .der
  | .ieeeP1363 => .ieeeP1363

/-- `ToParameters`. -/
def toEcdsaParameters (outputPrefixType : OutputPrefixType) (params : EcdsaParamsProto) : Except Status EcdsaParameters := do
  let variant ← toEcdsaVariant outputPrefixType
  let hashType ← toEcdsaHashType params.hashType
  let curveType ← toCurveType params.curve
  let encoding ← toSignatureEncoding params.encoding
  EcdsaParameters.build curveType hashType encoding variant

/-- `FromParameters`. -/
def EcdsaParameters.toProto (parameters : EcdsaParameters) : EcdsaParamsProto :=
  ⟨parameters.hashType.toProto, parameters.curveType.toProto, parameters.signatureEncoding.toProto⟩

/-- `getEncodingLength`: one byte more than the coordinates have. -/
def getEncodingLength : EllipticCurveType → Nat
  | .nistP256 => 33
  | .nistP384 => 49
  | .nistP521 => 67

theorem getEncodingLength_lt (curve : EllipticCurveType) : getEncodingLength curve < 2 ^ 31 := by
  cases curve <;> decide

/-- `ParseParameters`, of a format that was parsed. -/
def parseEcdsaParameters (format : EcdsaKeyFormat) (outputPrefixType : OutputPrefixType) : Except Status EcdsaParameters :=
  if format.version ≠ 0 then .error ⟨.invalidArgument, "Only version 0 keys are accepted."⟩
  else toEcdsaParameters outputPrefixType format.getParams

/-- `ParsePublicKey`, of a key that was parsed. -/
def parseEcdsaPublicKeyProto (key : EcdsaPublicKeyProto) (outputPrefixType : OutputPrefixType)
    (idRequirement : Option UInt32) : Except Status EcdsaPublicKey :=
  if key.version ≠ 0 then .error ⟨.invalidArgument, "Only version 0 keys are accepted."⟩
  else do
    let parameters ← toEcdsaParameters outputPrefixType key.params
    EcdsaPublicKey.create lib parameters (BigEndian.value key.x, BigEndian.value key.y) idRequirement

/-- `ParsePrivateKey`, of a key that was parsed. -/
def parseEcdsaPrivateKey (key : EcdsaPrivateKeyProto) (outputPrefixType : OutputPrefixType)
    (idRequirement : Option UInt32) : Except Status EcdsaPrivateKey :=
  if key.version ≠ 0 then .error ⟨.invalidArgument, "Only version 0 keys are accepted."⟩
  else if key.publicKey.version ≠ 0 then .error ⟨.invalidArgument, "Only version 0 public keys are accepted."⟩
  else do
    let parameters ← toEcdsaParameters outputPrefixType key.publicKey.params
    let publicKey ← EcdsaPublicKey.create lib parameters
      (BigEndian.value key.publicKey.x, BigEndian.value key.publicKey.y) idRequirement
    let keyValue ← answered (parseBigIntToFixedLength key.keyValue publicKey.parameters.privateKeyLength)
    EcdsaPrivateKey.create lib publicKey keyValue

/-- The proto of `SerializePublicKey`. -/
def serializeEcdsaPublicKey (key : EcdsaPublicKey) : Except Status EcdsaPublicKeyProto := do
  let x ← getValueOfFixedLength key.publicPoint.1 (getEncodingLength key.parameters.curveType)
  let y ← getValueOfFixedLength key.publicPoint.2 (getEncodingLength key.parameters.curveType)
  return ⟨0, key.parameters.toProto, x, y⟩

/-- The proto of `SerializePrivateKey`. -/
def serializeEcdsaPrivateKey (key : EcdsaPrivateKey) : Except Status EcdsaPrivateKeyProto := do
  let encLength := getEncodingLength key.publicKey.parameters.curveType
  let x ← getValueOfFixedLength key.publicKey.publicPoint.1 encLength
  let y ← getValueOfFixedLength key.publicKey.publicPoint.2 encLength
  let keyValue ← getSecretValueOfFixedLength key.privateKeyValue encLength
  return ⟨0, ⟨0, key.publicKey.parameters.toProto, x, y⟩, keyValue⟩

/-! ## Ed25519 -/

structure Ed25519PublicKey where
  variant        : KeyVariant
  publicKeyBytes : Bytes
  idRequirement  : Option UInt32
  deriving DecidableEq, Repr

/-- `Ed25519Parameters::Create`; the parameters are the variant. -/
def createEd25519Parameters (variant : KeyVariant) : Except Status KeyVariant :=
  if variant = .noPrefixWithPrehashId then
    .error ⟨.invalidArgument, "Cannot create Ed25519 parameters with unknown variant."⟩
  else .ok variant

/-- `Ed25519PublicKey::Create`. -/
def Ed25519PublicKey.create (variant : KeyVariant) (publicKeyBytes : Bytes) (idRequirement : Option UInt32) :
    Except Status Ed25519PublicKey := do
  checkVariantId variant idRequirement
  if publicKeyBytes.length ≠ 32 then .error ⟨.invalidArgument, "Ed25519 public key length must be 32 bytes."⟩
  else .ok ⟨variant, publicKeyBytes, idRequirement⟩

structure Ed25519PrivateKey where
  publicKey       : Ed25519PublicKey
  privateKeyBytes : Bytes
  deriving DecidableEq, Repr

/-- `Ed25519PrivateKey::Create`, from a public key. -/
def Ed25519PrivateKey.create (publicKey : Ed25519PublicKey) (privateKeyBytes : Bytes) : Except Status Ed25519PrivateKey :=
  if privateKeyBytes.length ≠ 32 then .error ⟨.invalidArgument, "Ed25519 private key length must be 32 bytes."⟩
  else do
    let keyPair ← newEd25519Key lib privateKeyBytes
    if publicKey.publicKeyBytes ≠ keyPair.1 then
      .error ⟨.invalidArgument, "Invalid public key for private key bytes."⟩
    else .ok ⟨publicKey, privateKeyBytes⟩

/-- `ParseParameters`, of a format that was parsed. -/
def parseEd25519Parameters (format : Ed25519KeyFormat) (outputPrefixType : OutputPrefixType) : Except Status KeyVariant :=
  if format.version ≠ 0 then .error ⟨.invalidArgument, "Only version 0 keys are accepted."⟩
  else do
    let variant ← toVariant "Ed25519Parameters" outputPrefixType
    createEd25519Parameters variant

/-- `ParsePrivateKey`, of a key that was parsed. -/
def parseEd25519PrivateKey (key : Ed25519PrivateKeyProto) (outputPrefixType : OutputPrefixType)
    (idRequirement : Option UInt32) : Except Status Ed25519PrivateKey :=
  if key.version ≠ 0 then .error ⟨.invalidArgument, "Only version 0 keys are accepted."⟩
  else if key.publicKey.version ≠ 0 then .error ⟨.invalidArgument, "Only version 0 public keys are accepted."⟩
  else do
    let variant ← toVariant "Ed25519Parameters" outputPrefixType
    let parameters ← createEd25519Parameters variant
    let publicKey ← Ed25519PublicKey.create parameters key.publicKey.keyValue idRequirement
    Ed25519PrivateKey.create lib publicKey key.keyValue

/-- The proto of `SerializePrivateKey`. -/
def serializeEd25519PrivateKey (key : Ed25519PrivateKey) : Ed25519PrivateKeyProto :=
  ⟨0, key.privateKeyBytes, ⟨0, key.publicKey.publicKeyBytes⟩⟩

end Tink
