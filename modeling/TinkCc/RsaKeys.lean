import TinkCc.JwkSetRoundTrip
import TinkCc.StoredKeys
/-!
# RsaKeys — RSA keys and their protos

The parameters, keys and messages of RsaSsaPss, RsaSsaPkcs1, JwtRsaSsaPss and JwtRsaSsaPkcs1.  The four classes of
private keys, and of their messages, differ in the public key only.
-/
namespace Tink

/-- A check of a builder. -/
def refuseIf (bad : Prop) [Decidable bad] (message : String) : Except Status Unit :=
  if bad then .error ⟨.invalidArgument, message⟩ else .ok ()

theorem refuseIf_ok {bad : Prop} [Decidable bad] {message : String} : refuseIf bad message = .ok () ↔ ¬ bad := by
  unfold refuseIf
  by_cases h : bad
  · simp [h]
  · simp [h]

/-! ## The library -/

/-- BoringSSL, as far as RSA keys go.  It looks at a private key as numbers, and the modulus is the product of the
primes. -/
structure RsaLibrary where
  fipsMode         : Bool
  checkKey         : (n e d p q dp dq crt : Nat) → Except Status Unit
  checkKey_modulus : ∀ {n e d p q dp dq crt}, checkKey n e d p q dp dq crt = .ok () → n = p * q

/-- The secret numbers of a private key, and of its message. -/
structure RsaPrivateNumbers where
  d   : Bytes
  p   : Bytes
  q   : Bytes
  dp  : Bytes
  dq  : Bytes
  crt : Bytes
  deriving DecidableEq, Repr

/-- `RsaPrivateKeyToRsaFixedSizeInputs`. -/
def rsaPrivateKeyToRsaFixedSizeInputs (lib : RsaLibrary) (n e : Nat) (key : RsaPrivateNumbers) : Except Status Unit := do
  let sizeP := key.p.length
  let sizeQ := key.q.length
  let sizeN := sizeInBytes n
  let sizeDp := key.dp.length
  let sizeDq := key.dq.length
  let sizeCrt := key.crt.length
  let sizeD := key.d.length
  validateRsaModulusSize lib.fipsMode n.size
  validateRsaPublicExponent e
  refuseIf (1 < sizeP ∧ key.p.head? = some 0) "Prime factor p has leading zeros"
  refuseIf (1 < sizeQ ∧ key.q.head? = some 0) "Prime factor q has leading zeros"
  refuseIf (sizeDp ≠ sizeP) s!"Prime exponent dp has incorrect length: expected {sizeP} got {sizeDp}"
  refuseIf (sizeDq ≠ sizeQ) s!"Prime exponent dq has incorrect length: expected {sizeQ} got {sizeDq}"
  refuseIf (sizeCrt ≠ sizeP) s!"CRT coefficient has incorrect length: expected {sizeP} got {sizeCrt}"
  refuseIf (sizeD ≠ sizeN) s!"Private exponent d has incorrect length: expected {sizeN} got {sizeD}"
  lib.checkKey n e (BigEndian.value key.d) (BigEndian.value key.p) (BigEndian.value key.q) (BigEndian.value key.dp)
    (BigEndian.value key.dq) (BigEndian.value key.crt)

/-- `BigInteger::GetValue`. -/
def bigIntegerValue (n : Nat) : Bytes := BigEndian.encode (sizeInBytes n) n

/-- `WithoutLeadingZeros`. -/
def withoutLeadingZeros (val : Bytes) : Bytes := BigEndian.trim val

/-! ## Parameters -/

/-- What the builders ask of a modulus size. -/
def checkModulusSize (modulusSizeInBits : Int32) : Except Status Unit :=
  let bits := modulusSizeInBits.toInt
  refuseIf (bits < 2048) s!"Invalid key size: must be at least 2048 bits, got {bits} bits."

/-- SHA256, SHA384 or SHA512. -/
def ParametersHash.isRsaHash : ParametersHash → Bool
  | .sha256 | .sha384 | .sha512 => true
  | .sha1 | .sha224 => false

structure RsaSsaPssParameters where
  modulusSizeInBits : Int32
  publicExponent    : Nat
  sigHashType       : ParametersHash
  mgf1HashType      : ParametersHash
  saltLengthInBytes : Int32
  variant           : KeyVariant
  deriving DecidableEq, Repr

/-- `RsaSsaPssParameters::Builder::Build`. -/
def RsaSsaPssParameters.build (modulusSizeInBits : Int32) (publicExponent : Nat)
    (sigHashType mgf1HashType : ParametersHash) (saltLengthInBytes : Int32) (variant : KeyVariant) :
    Except Status RsaSsaPssParameters := do
  let saltLength := saltLengthInBytes.toInt
  refuseIf (saltLength < 0) s!"Invalid salt length in bytes: {saltLength}. Salt length must be positive."
  refuseIf (sigHashType.isRsaHash = false) "Cannot create RsaSsaPss parameters with unknown SigHashType."
  refuseIf (mgf1HashType.isRsaHash = false) "Cannot create RsaSsaPss parameters with unknown Mgf1HashType."
  refuseIf (sigHashType ≠ mgf1HashType) "Signature hash type and MGF1 hash type should match."
  checkModulusSize modulusSizeInBits
  validateRsaPublicExponent publicExponent
  refuseIf (variant = .noPrefixWithPrehashId) "Cannot create RsaSsaPss parameters with unknown variant."
  return ⟨modulusSizeInBits, publicExponent, sigHashType, mgf1HashType, saltLengthInBytes, variant⟩

structure RsaSsaPkcs1Parameters where
  modulusSizeInBits : Int32
  publicExponent    : Nat
  hashType          : ParametersHash
  variant           : KeyVariant
  deriving DecidableEq, Repr

/-- `RsaSsaPkcs1Parameters::Builder::Build`. -/
def RsaSsaPkcs1Parameters.build (modulusSizeInBits : Int32) (publicExponent : Nat) (hashType : ParametersHash)
    (variant : KeyVariant) : Except Status RsaSsaPkcs1Parameters := do
  checkModulusSize modulusSizeInBits
  validateRsaPublicExponent publicExponent
  refuseIf (hashType.isRsaHash = false) "Cannot create RsaSsaPkcs1 parameters with unknown HashType."
  refuseIf (variant = .noPrefixWithPrehashId) "Cannot create RsaSsaPkcs1 parameters with unknown variant."
  return ⟨modulusSizeInBits, publicExponent, hashType, variant⟩

/-- `JwtRsaSsaPssParameters` and `JwtRsaSsaPkcs1Parameters`. -/
structure JwtRsaParameters where
  kidStrategy       : KidStrategy
  algorithm         : JwtAlgorithm
  modulusSizeInBits : Int32
  publicExponent    : Nat
  deriving DecidableEq, Repr

/-- `Builder::Build` of these; every algorithm and kid strategy is supported. -/
def JwtRsaParameters.build (kidStrategy : KidStrategy) (algorithm : JwtAlgorithm) (modulusSizeInBits : Int32)
    (publicExponent : Nat) : Except Status JwtRsaParameters := do
  checkModulusSize modulusSizeInBits
  validateRsaPublicExponent publicExponent
  return ⟨kidStrategy, algorithm, modulusSizeInBits, publicExponent⟩

/-! ## Keys -/

/-- What every key asks of its modulus. -/
def checkModulusLength (modulus : Nat) (modulusSizeInBits : Int32) : Except Status Unit :=
  let expected := modulusSizeInBits.toInt
  let got := sizeInBytes modulus * 8
  refuseIf ((got : Int) ≠ expected) s!"Invalid modulus length (expected {expected}, got {got})"

structure RsaSsaPssPublicKey where
  parameters    : RsaSsaPssParameters
  modulus       : Nat
  idRequirement : Option UInt32
  deriving DecidableEq, Repr

/-- `RsaSsaPssPublicKey::Create`. -/
def RsaSsaPssPublicKey.create (parameters : RsaSsaPssParameters) (modulus : Nat) (idRequirement : Option UInt32) :
    Except Status RsaSsaPssPublicKey := do
  checkVariantId parameters.variant idRequirement
  checkModulusLength modulus parameters.modulusSizeInBits
  return ⟨parameters, modulus, idRequirement⟩

structure RsaSsaPkcs1PublicKey where
  parameters    : RsaSsaPkcs1Parameters
  modulus       : Nat
  idRequirement : Option UInt32
  deriving DecidableEq, Repr

/-- `RsaSsaPkcs1PublicKey::Create`. -/
def RsaSsaPkcs1PublicKey.create (parameters : RsaSsaPkcs1Parameters) (modulus : Nat) (idRequirement : Option UInt32) :
    Except Status RsaSsaPkcs1PublicKey := do
  checkVariantId parameters.variant idRequirement
  checkModulusLength modulus parameters.modulusSizeInBits
  return ⟨parameters, modulus, idRequirement⟩

/-- `GetModulusSizeInBits` of a JWT key, which `Build` has compared with the modulus. -/
def JwtRsaPublicKey.modulusSizeInBits (key : JwtRsaPublicKey) : Int32 := Int32.ofNat (sizeInBytes key.modulus * 8)

/-- `JwtRsaSsaPssPublicKey::Builder::Build` and `JwtRsaSsaPkcs1PublicKey::Builder::Build`. -/
def JwtRsaPublicKey.build (libraries : JwtLibraries) (parameters : JwtRsaParameters) (modulus : Nat)
    (idRequirement : Option UInt32) (customKid : Option Bytes) : Except Status JwtRsaPublicKey := do
  checkIdRequirement parameters.kidStrategy idRequirement
  checkModulusLength modulus parameters.modulusSizeInBits
  let kid ← computeKid libraries parameters.kidStrategy customKid idRequirement
  return ⟨⟨parameters.kidStrategy, parameters.algorithm, idRequirement, kid⟩, parameters.publicExponent, modulus⟩

/-- The private keys over a class of public keys. -/
structure RsaPrivateKey (P : Type) where
  publicKey : P
  numbers   : RsaPrivateNumbers
  deriving DecidableEq, Repr

/-! ## Protos -/

structure RsaSsaPssParamsProto where
  sigHash    : HashTypeProto
  mgf1Hash   : HashTypeProto
  saltLength : UInt32
  deriving DecidableEq, Repr

structure RsaSsaPssPublicKeyProto where
  version : UInt32
  params  : RsaSsaPssParamsProto
  n       : Bytes
  e       : Bytes
  deriving DecidableEq, Repr

structure RsaSsaPkcs1ParamsProto where
  hashType : HashTypeProto
  deriving DecidableEq, Repr

structure RsaSsaPkcs1PublicKeyProto where
  version : UInt32
  params  : RsaSsaPkcs1ParamsProto
  n       : Bytes
  e       : Bytes
  deriving DecidableEq, Repr

/-- The messages of private keys. -/
structure RsaPrivateKeyProto (M : Type) where
  version   : UInt32
  publicKey : M
  numbers   : RsaPrivateNumbers
  deriving DecidableEq, Repr

def RsaSsaPssPublicKeyProto.IsNamed (key : RsaSsaPssPublicKeyProto) : Prop :=
  key.params.sigHash.IsNamed ∧ key.params.mgf1Hash.IsNamed

def RsaSsaPkcs1PublicKeyProto.IsNamed (key : RsaSsaPkcs1PublicKeyProto) : Prop := key.params.hashType.IsNamed

/-! ## The functions that parse and serialize -/

/-- `ToVariant`. -/
def toRsaVariant (name : String) : OutputPrefixType → Except Status KeyVariant
  | .legacy => .ok .legacy
  | .crunchy => .ok .crunchy
  | .raw => .ok .noPrefix
  | .tink => .ok .tink
  | _ => .error ⟨.invalidArgument, s!"Could not determine {name}Parameters::Variant"⟩

/-- `ToEnumHashType`, which is `ToHashType` of ECDSA. -/
def toEnumHashType (hashType : HashTypeProto) : Except Status ParametersHash := toEcdsaHashType hashType

/-- A number of `ParsePrivateKey`, of the length of another: a `size_t` (an `int` for `d`), given where an `int` is asked
for. -/
def parseRsaNumber (name : String) (val : Bytes) (length : Int) : ExceptT Status Option Bytes :=
  match (parseBigIntToFixedLength val (Narrow.toInt length)).run with
  | none => ExceptT.mk none
  | some (.ok bytes) => pure bytes
  | some (.error _) =>
    let got := val.length
    throw ⟨.invalidArgument, s!"Failed to parse {name}: expected length {length}, got {got}"⟩

/-- What every `ParsePrivateKey` does with the secret numbers. -/
def parseRsaPrivateNumbers (numbers : RsaPrivateNumbers) (modulusSizeInBits : Int32) :
    ExceptT Status Option RsaPrivateNumbers := do
  let p := withoutLeadingZeros numbers.p
  let q := withoutLeadingZeros numbers.q
  let dp ← parseRsaNumber "dp" numbers.dp p.length
  let dq ← parseRsaNumber "dq" numbers.dq q.length
  let crt ← parseRsaNumber "crt" numbers.crt p.length
  let d ← parseRsaNumber "d" numbers.d ((modulusSizeInBits.toInt + 7) / 8)
  return ⟨d, p, q, dp, dq, crt⟩

end Tink
