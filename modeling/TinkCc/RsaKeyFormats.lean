import TinkCc.EcdsaFormat
import TinkCc.RsaFormat
/-!
# RsaKeyFormats — RSA keys survive the proto format

The four families of RSA keys, each as what it differs in from the others.
-/
namespace Tink

/-! ## RsaSsaPss -/

abbrev RsaSsaPssPrivateKey := RsaPrivateKey RsaSsaPssPublicKey
abbrev RsaSsaPssPrivateKeyProto := RsaPrivateKeyProto RsaSsaPssPublicKeyProto

namespace RsaSsaPssProtoSerialization

/-- `ToParameters`. -/
def toParameters (outputPrefixType : OutputPrefixType) (params : RsaSsaPssParamsProto) (modulusSizeInBits : Int32)
    (publicExponent : Nat) : Except Status RsaSsaPssParameters := do
  let variant ← toRsaVariant "RsaSsaPss" outputPrefixType
  let sigHashType ← toEnumHashType params.sigHash
  let mgf1HashType ← toEnumHashType params.mgf1Hash
  RsaSsaPssParameters.build modulusSizeInBits publicExponent sigHashType mgf1HashType params.saltLength.toInt32 variant

/-- The public key in `ParsePublicKey` and `ParsePrivateKey`.  The size of the modulus is that of the stored bytes. -/
def toPublicKey (key : RsaSsaPssPublicKeyProto) (outputPrefixType : OutputPrefixType) (idRequirement : Option UInt32) :
    Except Status RsaSsaPssPublicKey := do
  let modulusSizeInBits := Int32.ofNat (key.n.length * 8)
  let parameters ← toParameters outputPrefixType key.params modulusSizeInBits (BigEndian.value key.e)
  RsaSsaPssPublicKey.create parameters (BigEndian.value key.n) idRequirement

/-- The public key in `SerializePublicKey` and `SerializePrivateKey`. -/
def toPublicKeyProto (key : RsaSsaPssPublicKey) : RsaSsaPssPublicKeyProto where
  version := 0
  params := ⟨key.parameters.sigHashType.toProto, key.parameters.mgf1HashType.toProto,
    key.parameters.saltLengthInBytes.toUInt32⟩
  n := bigIntegerValue key.modulus
  e := bigIntegerValue key.parameters.publicExponent

def family : RsaKeyFormat RsaSsaPssPublicKey RsaSsaPssPublicKeyProto where
  publicTypeUrl := "type.googleapis.com/google.crypto.tink.RsaSsaPssPublicKey"
  privateTypeUrl := "type.googleapis.com/google.crypto.tink.RsaSsaPssPrivateKey"
  wrongPublicUrl := "Wrong type URL when parsing RsaSsaPssPublicKey."
  wrongPrivateUrl := "Wrong type URL when parsing RsaSsaPssPrivateKey."
  publicFailure := "Failed to parse RsaSsaPssPublicKeyTP proto"
  privateFailure := "Failed to parse RsaSsaPssPrivateKeyTP proto"
  publicVersion := "Only version 0 keys are accepted."
  privateVersion := "Only version 0 keys are accepted."
  privatePublicVersion := "Only version 0 public keys are accepted."
  checksTokenFirst := false
  version := (·.version)
  toPublicKey := toPublicKey
  toPublicKeyProto := toPublicKeyProto
  modulus := (·.modulus)
  publicExponent := (·.parameters.publicExponent)
  modulusSizeInBits := (·.parameters.modulusSizeInBits)
  outputPrefixType := (·.parameters.variant.toOutputPrefixType)
  idRequirement := (·.idRequirement)

end RsaSsaPssProtoSerialization

/-- What `RsaSsaPssParameters::Builder` and `RsaSsaPssPublicKey::Create` gave. -/
structure RsaSsaPssPublicKey.Created (key : RsaSsaPssPublicKey) : Prop where
  build  : RsaSsaPssParameters.build key.parameters.modulusSizeInBits key.parameters.publicExponent
    key.parameters.sigHashType key.parameters.mgf1HashType key.parameters.saltLengthInBytes key.parameters.variant =
      .ok key.parameters
  create : RsaSsaPssPublicKey.create key.parameters key.modulus key.idRequirement = .ok key

def RsaSsaPssPublicKeyProto.pad (padding : RsaPadding) (key : RsaSsaPssPublicKeyProto) : RsaSsaPssPublicKeyProto :=
  { key with n := padded padding.n key.n, e := padded padding.e key.e }

theorem checkModulusLength_ok {modulus : Nat} {modulusSizeInBits : Int32}
    (h : checkModulusLength modulus modulusSizeInBits = .ok ()) : modulusSizeInBits.toInt = sizeInBytes modulus * 8 := by
  have h := not_not.1 (refuseIf_ok.1 h)
  omega

theorem int32_ofNat_of_toInt {modulusSizeInBits : Int32} {n : Nat} (h : modulusSizeInBits.toInt = n * 8) :
    Int32.ofNat (n * 8) = modulusSizeInBits := by
  rw [← Int32.ofInt_eq_ofNat, show ((n * 8 : Nat) : Int) = modulusSizeInBits.toInt by rw [h]; omega, Int32.ofInt_toInt]

/-- The size in bits is an `int`, which does not see a multiple of 2^29 bytes. -/
theorem int32_ofNat_padded {zeros length : Nat} :
    Int32.ofNat ((zeros + length) * 8) = Int32.ofNat (length * 8) ↔ 2 ^ 29 ∣ zeros := by
  have hbits : ∀ n, (Int32.ofNat n).toBitVec.toNat = n % 2 ^ 32 := fun n => BitVec.toNat_ofNat n 32
  rw [← Int32.toBitVec_inj, ← BitVec.toNat_inj, hbits, hbits]
  omega

theorem toRsaVariant_toOutputPrefixType (name : String) {variant : KeyVariant} (h : variant ≠ .noPrefixWithPrehashId) :
    toRsaVariant name variant.toOutputPrefixType = .ok variant := by
  cases variant <;> first | rfl | exact absurd rfl h

theorem toEnumHashType_toProto {hash : ParametersHash} (h : hash.isRsaHash = true) :
    toEnumHashType hash.toProto = .ok hash := by
  cases hash <;> first | rfl | cases h

theorem RsaSsaPssParameters.build_ok {modulusSizeInBits : Int32} {publicExponent : Nat}
    {sigHashType mgf1HashType : ParametersHash} {saltLengthInBytes : Int32} {variant : KeyVariant}
    {parameters : RsaSsaPssParameters}
    (h : RsaSsaPssParameters.build modulusSizeInBits publicExponent sigHashType mgf1HashType saltLengthInBytes variant =
      .ok parameters) :
    parameters = ⟨modulusSizeInBits, publicExponent, sigHashType, mgf1HashType, saltLengthInBytes, variant⟩ ∧
      sigHashType.isRsaHash = true ∧ mgf1HashType.isRsaHash = true ∧ variant ≠ .noPrefixWithPrehashId := by
  obtain ⟨_, -, h⟩ := bind_eq_ok h
  obtain ⟨_, hsig, h⟩ := bind_eq_ok h
  obtain ⟨_, hmgf1, h⟩ := bind_eq_ok h
  obtain ⟨_, -, h⟩ := bind_eq_ok h
  obtain ⟨_, -, h⟩ := bind_eq_ok h
  obtain ⟨_, -, h⟩ := bind_eq_ok h
  obtain ⟨_, hvariant, h⟩ := bind_eq_ok h
  exact ⟨(Except.ok.inj h).symm, Bool.of_not_eq_false (refuseIf_ok.1 hsig), Bool.of_not_eq_false (refuseIf_ok.1 hmgf1),
    refuseIf_ok.1 hvariant⟩

theorem RsaSsaPssPublicKey.create_ok {parameters : RsaSsaPssParameters} {modulus : Nat} {idRequirement : Option UInt32}
    {key : RsaSsaPssPublicKey} (h : RsaSsaPssPublicKey.create parameters modulus idRequirement = .ok key) :
    key = ⟨parameters, modulus, idRequirement⟩ ∧ checkVariantId parameters.variant idRequirement = .ok () ∧
      parameters.modulusSizeInBits.toInt = sizeInBytes modulus * 8 := by
  obtain ⟨_, hid, h⟩ := bind_eq_ok h
  obtain ⟨_, hlength, h⟩ := bind_eq_ok h
  exact ⟨(Except.ok.inj h).symm, hid, checkModulusLength_ok hlength⟩

namespace RsaSsaPssProtoSerialization

theorem toParameters_size {prefixType : OutputPrefixType} {params : RsaSsaPssParamsProto} {modulusSizeInBits : Int32}
    {publicExponent : Nat} {parameters : RsaSsaPssParameters}
    (h : toParameters prefixType params modulusSizeInBits publicExponent = .ok parameters) :
    parameters.modulusSizeInBits = modulusSizeInBits := by
  obtain ⟨_, -, h⟩ := bind_eq_ok h
  obtain ⟨_, -, h⟩ := bind_eq_ok h
  obtain ⟨_, -, h⟩ := bind_eq_ok h
  rw [(RsaSsaPssParameters.build_ok h).1]

theorem toPublicKey_size {m : RsaSsaPssPublicKeyProto} {prefixType : OutputPrefixType} {idRequirement : Option UInt32}
    {key : RsaSsaPssPublicKey} (h : toPublicKey m prefixType idRequirement = .ok key) :
    key.parameters.modulusSizeInBits = Int32.ofNat (m.n.length * 8) := by
  obtain ⟨parameters, hparameters, h⟩ := bind_eq_ok h
  rw [(RsaSsaPssPublicKey.create_ok h).1, toParameters_size hparameters]

/-- **Zeros before `n` are read as a larger modulus**, unless there are 2^29 of them, or twice as many, and so on. -/
theorem toPublicKey_pad (padding : RsaPadding) (m : RsaSsaPssPublicKeyProto) (prefixType : OutputPrefixType)
    (idRequirement : Option UInt32) (key : RsaSsaPssPublicKey) (h : toPublicKey m prefixType idRequirement = .ok key) :
    toPublicKey (m.pad padding) prefixType idRequirement = .ok key ↔ 2 ^ 29 ∣ padding.n := by
  have hlength : (m.pad padding).n.length = padding.n + m.n.length := by
    unfold RsaSsaPssPublicKeyProto.pad padded
    rw [List.length_append, List.length_replicate]
  have hpadded : Int32.ofNat ((padding.n + m.n.length) * 8) = Int32.ofNat (m.n.length * 8) ↔ 2 ^ 29 ∣ padding.n :=
    int32_ofNat_padded
  rw [← hpadded, ← hlength]
  constructor
  · intro h'
    rw [← toPublicKey_size h', ← toPublicKey_size h]
  · intro hsize
    rw [← h]
    unfold toPublicKey
    dsimp only
    rw [hsize]
    unfold RsaSsaPssPublicKeyProto.pad
    dsimp only
    rw [value_padded, value_padded]

theorem family_lawful : family.Lawful RsaSsaPssPublicKeyProto.IsNamed RsaSsaPssPublicKey.Created
    RsaSsaPssPublicKeyProto.pad fun padding => 2 ^ 29 ∣ padding.n where
  publicPrintable := by simp [isPrintableAscii, family]
  privatePrintable := by simp [isPrintableAscii, family]
  named _ := ⟨ParametersHash.toProto_isNamed _, ParametersHash.toProto_isNamed _⟩
  version _ := rfl
  roundTrip := by
    intro key h
    obtain ⟨-, -, hsize⟩ := RsaSsaPssPublicKey.create_ok h.create
    obtain ⟨-, hsig, hmgf1, hvariant⟩ := RsaSsaPssParameters.build_ok h.build
    change toPublicKey (toPublicKeyProto key) key.parameters.variant.toOutputPrefixType key.idRequirement = _
    unfold toPublicKey toParameters toPublicKeyProto
    dsimp only
    rw [toRsaVariant_toOutputPrefixType _ hvariant, toEnumHashType_toProto hsig, toEnumHashType_toProto hmgf1,
      value_bigIntegerValue, value_bigIntegerValue, bigIntegerValue_length, int32_ofNat_of_toInt hsize,
      Int32.toInt32_toUInt32]
    change (RsaSsaPssParameters.build _ _ _ _ _ _ >>= _) = _
    rw [h.build]
    exact h.create
  id_iff h := checkVariantId_ok (RsaSsaPssPublicKey.create_ok h.create).2.1
  size := by
    intro m prefixType idRequirement key h
    obtain ⟨parameters, -, h⟩ := bind_eq_ok h
    obtain ⟨rfl, -, hsize⟩ := RsaSsaPssPublicKey.create_ok h
    exact hsize
  version_pad _ _ := rfl
  toPublicKey_pad := toPublicKey_pad

end RsaSsaPssProtoSerialization

/-! ## RsaSsaPkcs1 -/

abbrev RsaSsaPkcs1PrivateKey := RsaPrivateKey RsaSsaPkcs1PublicKey
abbrev RsaSsaPkcs1PrivateKeyProto := RsaPrivateKeyProto RsaSsaPkcs1PublicKeyProto

namespace RsaSsaPkcs1ProtoSerialization

/-- `ToParameters`. -/
def toParameters (outputPrefixType : OutputPrefixType) (params : RsaSsaPkcs1ParamsProto) (modulusSizeInBits : Int32)
    (publicExponent : Nat) : Except Status RsaSsaPkcs1Parameters := do
  let variant ← toRsaVariant "RsaSsaPkcs1" outputPrefixType
  let hashType ← toEnumHashType params.hashType
  RsaSsaPkcs1Parameters.build modulusSizeInBits publicExponent hashType variant

/-- The public key in `ParsePublicKey` and `ParsePrivateKey`. -/
def toPublicKey (key : RsaSsaPkcs1PublicKeyProto) (outputPrefixType : OutputPrefixType) (idRequirement : Option UInt32) :
    Except Status RsaSsaPkcs1PublicKey := do
  let modulus := BigEndian.value key.n
  let modulusSizeInBits := Int32.ofNat (sizeInBytes modulus * 8)
  let parameters ← toParameters outputPrefixType key.params modulusSizeInBits (BigEndian.value key.e)
  RsaSsaPkcs1PublicKey.create parameters modulus idRequirement

/-- The public key in `SerializePublicKey` and `SerializePrivateKey`. -/
def toPublicKeyProto (key : RsaSsaPkcs1PublicKey) : RsaSsaPkcs1PublicKeyProto where
  version := 0
  params := ⟨key.parameters.hashType.toProto⟩
  n := bigIntegerValue key.modulus
  e := bigIntegerValue key.parameters.publicExponent

def family : RsaKeyFormat RsaSsaPkcs1PublicKey RsaSsaPkcs1PublicKeyProto where
  publicTypeUrl := "type.googleapis.com/google.crypto.tink.RsaSsaPkcs1PublicKey"
  privateTypeUrl := "type.googleapis.com/google.crypto.tink.RsaSsaPkcs1PrivateKey"
  wrongPublicUrl := "Wrong type URL when parsing RsaSsaPkcs1PublicKey."
  wrongPrivateUrl := "Wrong type URL when parsing RsaSsaPkcs1PrivateKey."
  publicFailure := "Failed to parse RsaSsaPkcs1PublicKey proto"
  privateFailure := "Failed to parse RsaSsaPkcs1PrivateKey proto"
  publicVersion := "Only version 0 keys are accepted."
  privateVersion := "Only version 0 keys are accepted."
  privatePublicVersion := "Only version 0 keys are accepted."
  checksTokenFirst := false
  version := (·.version)
  toPublicKey := toPublicKey
  toPublicKeyProto := toPublicKeyProto
  modulus := (·.modulus)
  publicExponent := (·.parameters.publicExponent)
  modulusSizeInBits := (·.parameters.modulusSizeInBits)
  outputPrefixType := (·.parameters.variant.toOutputPrefixType)
  idRequirement := (·.idRequirement)

end RsaSsaPkcs1ProtoSerialization

/-- What `RsaSsaPkcs1Parameters::Builder` and `RsaSsaPkcs1PublicKey::Create` gave. -/
structure RsaSsaPkcs1PublicKey.Created (key : RsaSsaPkcs1PublicKey) : Prop where
  build  : RsaSsaPkcs1Parameters.build key.parameters.modulusSizeInBits key.parameters.publicExponent
    key.parameters.hashType key.parameters.variant = .ok key.parameters
  create : RsaSsaPkcs1PublicKey.create key.parameters key.modulus key.idRequirement = .ok key

def RsaSsaPkcs1PublicKeyProto.pad (padding : RsaPadding) (key : RsaSsaPkcs1PublicKeyProto) : RsaSsaPkcs1PublicKeyProto :=
  { key with n := padded padding.n key.n, e := padded padding.e key.e }

theorem RsaSsaPkcs1Parameters.build_ok {modulusSizeInBits : Int32} {publicExponent : Nat} {hashType : ParametersHash}
    {variant : KeyVariant} {parameters : RsaSsaPkcs1Parameters}
    (h : RsaSsaPkcs1Parameters.build modulusSizeInBits publicExponent hashType variant = .ok parameters) :
    hashType.isRsaHash = true ∧ variant ≠ .noPrefixWithPrehashId := by
  obtain ⟨_, -, h⟩ := bind_eq_ok h
  obtain ⟨_, -, h⟩ := bind_eq_ok h
  obtain ⟨_, hhash, h⟩ := bind_eq_ok h
  obtain ⟨_, hvariant, h⟩ := bind_eq_ok h
  exact ⟨Bool.of_not_eq_false (refuseIf_ok.1 hhash), refuseIf_ok.1 hvariant⟩

theorem RsaSsaPkcs1PublicKey.create_ok {parameters : RsaSsaPkcs1Parameters} {modulus : Nat}
    {idRequirement : Option UInt32} {key : RsaSsaPkcs1PublicKey}
    (h : RsaSsaPkcs1PublicKey.create parameters modulus idRequirement = .ok key) :
    key = ⟨parameters, modulus, idRequirement⟩ ∧ checkVariantId parameters.variant idRequirement = .ok () ∧
      parameters.modulusSizeInBits.toInt = sizeInBytes modulus * 8 := by
  obtain ⟨_, hid, h⟩ := bind_eq_ok h
  obtain ⟨_, hlength, h⟩ := bind_eq_ok h
  exact ⟨(Except.ok.inj h).symm, hid, checkModulusLength_ok hlength⟩

namespace RsaSsaPkcs1ProtoSerialization

theorem toPublicKey_pad (padding : RsaPadding) (m : RsaSsaPkcs1PublicKeyProto) :
    toPublicKey (m.pad padding) = toPublicKey m := by
  funext prefixType idRequirement
  unfold toPublicKey RsaSsaPkcs1PublicKeyProto.pad
  dsimp only
  rw [value_padded, value_padded]

theorem family_lawful : family.Lawful RsaSsaPkcs1PublicKeyProto.IsNamed RsaSsaPkcs1PublicKey.Created
    RsaSsaPkcs1PublicKeyProto.pad fun _ => True where
  publicPrintable := by simp [isPrintableAscii, family]
  privatePrintable := by simp [isPrintableAscii, family]
  named _ := ParametersHash.toProto_isNamed _
  version _ := rfl
  roundTrip := by
    intro key h
    obtain ⟨-, -, hsize⟩ := RsaSsaPkcs1PublicKey.create_ok h.create
    obtain ⟨hhash, hvariant⟩ := RsaSsaPkcs1Parameters.build_ok h.build
    change toPublicKey (toPublicKeyProto key) key.parameters.variant.toOutputPrefixType key.idRequirement = _
    unfold toPublicKey toParameters toPublicKeyProto
    dsimp only
    rw [toRsaVariant_toOutputPrefixType _ hvariant, toEnumHashType_toProto hhash, value_bigIntegerValue,
      value_bigIntegerValue, int32_ofNat_of_toInt hsize]
    change (RsaSsaPkcs1Parameters.build _ _ _ _ >>= _) = _
    rw [h.build]
    exact h.create
  id_iff h := checkVariantId_ok (RsaSsaPkcs1PublicKey.create_ok h.create).2.1
  size := by
    intro m prefixType idRequirement key h
    obtain ⟨parameters, -, h⟩ := bind_eq_ok h
    obtain ⟨rfl, -, hsize⟩ := RsaSsaPkcs1PublicKey.create_ok h
    exact hsize
  version_pad _ _ := rfl
  toPublicKey_pad padding m prefixType idRequirement key h := by
    refine iff_of_true ?_ trivial
    change toPublicKey (m.pad padding) prefixType idRequirement = _
    rw [toPublicKey_pad]
    exact h

end RsaSsaPkcs1ProtoSerialization

/-! ## JwtRsaSsaPss and JwtRsaSsaPkcs1 -/

abbrev JwtRsaPrivateKey := RsaPrivateKey JwtRsaPublicKey
abbrev JwtRsaPrivateKeyProto := RsaPrivateKeyProto JwtRsaPublicKeyProto

namespace JwtRsaProtoSerialization
variable (libraries : JwtLibraries) (name : String)

/-- `ToParameters`. -/
def toParameters (outputPrefixType : OutputPrefixType) (protoAlgorithm : JwtAlgorithmProto) (modulusSizeInBits : Int32)
    (publicExponent : Nat) (hasCustomKid : Bool) : Except Status JwtRsaParameters := do
  let kidStrategy ← toKidStrategy name outputPrefixType hasCustomKid
  let algorithm ← fromProtoAlgorithm name protoAlgorithm
  JwtRsaParameters.build kidStrategy algorithm modulusSizeInBits publicExponent

/-- `ToPublicKey`. -/
def toPublicKey (key : JwtRsaPublicKeyProto) (outputPrefixType : OutputPrefixType) (idRequirement : Option UInt32) :
    Except Status JwtRsaPublicKey := do
  let modulus := BigEndian.value key.n
  let modulusSizeInBits := Int32.ofNat (sizeInBytes modulus * 8)
  let parameters ← toParameters name outputPrefixType key.algorithm modulusSizeInBits (BigEndian.value key.e)
    key.customKid.isSome
  JwtRsaPublicKey.build libraries parameters modulus idRequirement key.customKid

/-- `ToPublicKeyTP`. -/
def toPublicKeyProto (key : JwtRsaPublicKey) : JwtRsaPublicKeyProto where
  version := 0
  algorithm := .known key.algorithm
  n := bigIntegerValue key.modulus
  e := bigIntegerValue key.publicExponent
  customKid := key.storedCustomKid

def family : RsaKeyFormat JwtRsaPublicKey JwtRsaPublicKeyProto where
  publicTypeUrl := s!"type.googleapis.com/google.crypto.tink.{name}PublicKey"
  privateTypeUrl := s!"type.googleapis.com/google.crypto.tink.{name}PrivateKey"
  wrongPublicUrl := s!"Wrong type URL when parsing {name}PublicKey."
  wrongPrivateUrl := s!"Wrong type URL when parsing {name}PrivateKey."
  publicFailure := s!"Failed to parse {name}PublicKey."
  privateFailure := s!"Failed to parse {name}PrivateKey."
  publicVersion := s!"Parsing {name}PublicKey failed: only version 0 is accepted."
  privateVersion := "Only version 0 keys are accepted."
  privatePublicVersion := "Only version 0 public keys are accepted."
  checksTokenFirst := true
  version := (·.version)
  toPublicKey := toPublicKey libraries name
  toPublicKeyProto := toPublicKeyProto
  modulus := (·.modulus)
  publicExponent := (·.publicExponent)
  modulusSizeInBits := JwtRsaPublicKey.modulusSizeInBits
  outputPrefixType := (·.kidStrategy.toOutputPrefixType)
  idRequirement := (·.idRequirement)

end JwtRsaProtoSerialization

/-- What the builders of parameters and of a public key gave. -/
def JwtRsaPublicKey.Created (libraries : JwtLibraries) (key : JwtRsaPublicKey) : Prop :=
  ∃ parameters customKid, JwtRsaParameters.build parameters.kidStrategy parameters.algorithm
      parameters.modulusSizeInBits parameters.publicExponent = .ok parameters ∧
    JwtRsaPublicKey.build libraries parameters key.modulus key.idRequirement customKid = .ok key

def JwtRsaPublicKeyProto.IsNamed (key : JwtRsaPublicKeyProto) : Prop := key.algorithm.IsNamed

def JwtRsaPublicKeyProto.pad (padding : RsaPadding) (key : JwtRsaPublicKeyProto) : JwtRsaPublicKeyProto :=
  { key with n := padded padding.n key.n, e := padded padding.e key.e }

theorem JwtRsaPublicKey.build_ok {libraries : JwtLibraries} {parameters : JwtRsaParameters} {modulus : Nat}
    {idRequirement : Option UInt32} {customKid : Option Bytes} {key : JwtRsaPublicKey}
    (h : JwtRsaPublicKey.build libraries parameters modulus idRequirement customKid = .ok key) :
    checkIdRequirement parameters.kidStrategy idRequirement = .ok () ∧
      parameters.modulusSizeInBits.toInt = sizeInBytes modulus * 8 ∧
      ∃ kid, computeKid libraries parameters.kidStrategy customKid idRequirement = .ok kid ∧
        key = ⟨⟨parameters.kidStrategy, parameters.algorithm, idRequirement, kid⟩, parameters.publicExponent, modulus⟩ := by
  obtain ⟨_, hid, h⟩ := bind_eq_ok h
  obtain ⟨_, hlength, h⟩ := bind_eq_ok h
  obtain ⟨kid, hkid, h⟩ := bind_eq_ok h
  exact ⟨hid, checkModulusLength_ok hlength, kid, hkid, (Except.ok.inj h).symm⟩

namespace JwtRsaProtoSerialization
variable {libraries : JwtLibraries} {name : String}

theorem toPublicKey_pad (padding : RsaPadding) (m : JwtRsaPublicKeyProto) :
    toPublicKey libraries name (m.pad padding) = toPublicKey libraries name m := by
  funext prefixType idRequirement
  unfold toPublicKey JwtRsaPublicKeyProto.pad
  dsimp only
  rw [value_padded, value_padded]

theorem toPublicKey_toProto {key : JwtRsaPublicKey} (h : key.Created libraries) :
    toPublicKey libraries name (toPublicKeyProto key) key.kidStrategy.toOutputPrefixType key.idRequirement = .ok key := by
  obtain ⟨parameters, customKid, hparameters, hbuild⟩ := h
  obtain ⟨hid, hsize, kid, hkid, heq⟩ := JwtRsaPublicKey.build_ok hbuild
  obtain ⟨⟨kidStrategy, algorithm, idRequirement, kid'⟩, publicExponent, modulus⟩ := key
  cases heq
  let base : JwtKeyBase := ⟨parameters.kidStrategy, parameters.algorithm, idRequirement, kid⟩
  have hstored : base.storedCustomKid = customKid := storedCustomKid_eq hkid
  have hstrategy : toKidStrategy name base.kidStrategy.toOutputPrefixType customKid.isSome = .ok base.kidStrategy :=
    toKidStrategy_stored name hkid
  unfold toPublicKey toParameters toPublicKeyProto
  dsimp only
  rw [hstored, hstrategy, value_bigIntegerValue, value_bigIntegerValue, int32_ofNat_of_toInt hsize]
  change (JwtRsaParameters.build _ _ _ _ >>= _) = _
  rw [hparameters]
  exact hbuild

theorem family_lawful (hname : isPrintableAscii name = true) :
    (family libraries name).Lawful JwtRsaPublicKeyProto.IsNamed (JwtRsaPublicKey.Created libraries)
      JwtRsaPublicKeyProto.pad fun _ => True where
  publicPrintable := by
    change isPrintableAscii ("type.googleapis.com/google.crypto.tink." ++ name ++ "PublicKey") = true
    rw [isPrintableAscii_append, isPrintableAscii_append, hname]
    simp [isPrintableAscii]
  privatePrintable := by
    change isPrintableAscii ("type.googleapis.com/google.crypto.tink." ++ name ++ "PrivateKey") = true
    rw [isPrintableAscii_append, isPrintableAscii_append, hname]
    simp [isPrintableAscii]
  named _ := fun value h => by cases h
  version _ := rfl
  roundTrip h := toPublicKey_toProto h
  id_iff := by
    rintro key ⟨parameters, customKid, -, hbuild⟩
    obtain ⟨hid, -, kid, -, heq⟩ := JwtRsaPublicKey.build_ok hbuild
    have h := checkIdRequirement_ok hid
    rw [heq]
    exact h
  size := by
    intro m prefixType idRequirement key h
    obtain ⟨parameters, -, h⟩ := bind_eq_ok h
    obtain ⟨-, hsize, kid, -, rfl⟩ := JwtRsaPublicKey.build_ok h
    change (Int32.ofNat (sizeInBytes (BigEndian.value m.n) * 8)).toInt = _
    rw [int32_ofNat_of_toInt hsize, hsize]
    rfl
  version_pad _ _ := rfl
  toPublicKey_pad padding m prefixType idRequirement key h := by
    refine iff_of_true ?_ trivial
    change toPublicKey libraries name (m.pad padding) prefixType idRequirement = _
    rw [toPublicKey_pad]
    exact h

end JwtRsaProtoSerialization

/-! ## All of them -/

/-- The classes of RSA keys. -/
inductive RsaKeyClass
  | rsaSsaPssPublic
  | rsaSsaPssPrivate
  | rsaSsaPkcs1Public
  | rsaSsaPkcs1Private
  | jwtRsaSsaPssPublic
  | jwtRsaSsaPssPrivate
  | jwtRsaSsaPkcs1Public
  | jwtRsaSsaPkcs1Private
  deriving DecidableEq, Repr

namespace RsaKeyClass

abbrev Key : RsaKeyClass → Type
  | .rsaSsaPssPublic => RsaSsaPssPublicKey
  | .rsaSsaPssPrivate => RsaSsaPssPrivateKey
  | .rsaSsaPkcs1Public => RsaSsaPkcs1PublicKey
  | .rsaSsaPkcs1Private => RsaSsaPkcs1PrivateKey
  | .jwtRsaSsaPssPublic | .jwtRsaSsaPkcs1Public => JwtRsaPublicKey
  | .jwtRsaSsaPssPrivate | .jwtRsaSsaPkcs1Private => JwtRsaPrivateKey

abbrev Message : RsaKeyClass → Type
  | .rsaSsaPssPublic => RsaSsaPssPublicKeyProto
  | .rsaSsaPssPrivate => RsaSsaPssPrivateKeyProto
  | .rsaSsaPkcs1Public => RsaSsaPkcs1PublicKeyProto
  | .rsaSsaPkcs1Private => RsaSsaPkcs1PrivateKeyProto
  | .jwtRsaSsaPssPublic | .jwtRsaSsaPkcs1Public => JwtRsaPublicKeyProto
  | .jwtRsaSsaPssPrivate | .jwtRsaSsaPkcs1Private => JwtRsaPrivateKeyProto

abbrev IsNamed : (c : RsaKeyClass) → c.Message → Prop
  | .rsaSsaPssPublic => RsaSsaPssPublicKeyProto.IsNamed
  | .rsaSsaPssPrivate => fun key => key.publicKey.IsNamed
  | .rsaSsaPkcs1Public => RsaSsaPkcs1PublicKeyProto.IsNamed
  | .rsaSsaPkcs1Private => fun key => key.publicKey.IsNamed
  | .jwtRsaSsaPssPublic | .jwtRsaSsaPkcs1Public => JwtRsaPublicKeyProto.IsNamed
  | .jwtRsaSsaPssPrivate | .jwtRsaSsaPkcs1Private => fun key => key.publicKey.IsNamed

/-- Zeros before the numbers of a message. -/
def pad (padding : RsaPadding) : (c : RsaKeyClass) → c.Message → c.Message
  | .rsaSsaPssPublic => RsaSsaPssPublicKeyProto.pad padding
  | .rsaSsaPssPrivate => RsaPrivateKeyProto.pad RsaSsaPssPublicKeyProto.pad padding
  | .rsaSsaPkcs1Public => RsaSsaPkcs1PublicKeyProto.pad padding
  | .rsaSsaPkcs1Private => RsaPrivateKeyProto.pad RsaSsaPkcs1PublicKeyProto.pad padding
  | .jwtRsaSsaPssPublic | .jwtRsaSsaPkcs1Public => JwtRsaPublicKeyProto.pad padding
  | .jwtRsaSsaPssPrivate | .jwtRsaSsaPkcs1Private => RsaPrivateKeyProto.pad JwtRsaPublicKeyProto.pad padding

/-- An `int` counts the zeros before the secret numbers of a private key that are parsed in a fixed length. -/
def Counted : (c : RsaKeyClass) → c.Key → c.Message → Prop
  | .rsaSsaPssPrivate => fun key m => m.numbers.Counted (sizeInBytes key.publicKey.modulus)
  | .rsaSsaPkcs1Private => fun key m => m.numbers.Counted (sizeInBytes key.publicKey.modulus)
  | .jwtRsaSsaPssPrivate => fun key m => m.numbers.Counted (sizeInBytes key.publicKey.modulus)
  | .jwtRsaSsaPkcs1Private => fun key m => m.numbers.Counted (sizeInBytes key.publicKey.modulus)
  | .rsaSsaPssPublic | .rsaSsaPkcs1Public | .jwtRsaSsaPssPublic | .jwtRsaSsaPkcs1Public => fun _ _ => True

/-- The classes whose parsers take the size of the modulus from the stored bytes. -/
def IsRsaSsaPss : RsaKeyClass → Prop
  | .rsaSsaPssPublic | .rsaSsaPssPrivate => True
  | _ => False

end RsaKeyClass

/-- BoringSSL, the JSON library and the codecs of the messages. -/
structure RsaKeyTypes where
  libraries : JwtLibraries
  lib       : RsaLibrary
  codec     : (c : RsaKeyClass) → MessageCodec c.Message c.IsNamed

namespace RsaKeyTypes
variable (types : RsaKeyTypes)

def jwtRsaSsaPss : RsaKeyFormat JwtRsaPublicKey JwtRsaPublicKeyProto :=
  JwtRsaProtoSerialization.family types.libraries "JwtRsaSsaPss"

def jwtRsaSsaPkcs1 : RsaKeyFormat JwtRsaPublicKey JwtRsaPublicKeyProto :=
  JwtRsaProtoSerialization.family types.libraries "JwtRsaSsaPkcs1"

/-- The parser and the serializer of a class. -/
def format (c : RsaKeyClass) : KeyFormat c.Key c.Message c.IsNamed :=
  match c with
  | .rsaSsaPssPublic => RsaSsaPssProtoSerialization.family.publicKeys (types.codec .rsaSsaPssPublic)
  | .rsaSsaPssPrivate => RsaSsaPssProtoSerialization.family.privateKeys types.lib RsaSsaPssPublicKeyProto.IsNamed
    (types.codec .rsaSsaPssPrivate)
  | .rsaSsaPkcs1Public => RsaSsaPkcs1ProtoSerialization.family.publicKeys (types.codec .rsaSsaPkcs1Public)
  | .rsaSsaPkcs1Private => RsaSsaPkcs1ProtoSerialization.family.privateKeys types.lib RsaSsaPkcs1PublicKeyProto.IsNamed
    (types.codec .rsaSsaPkcs1Private)
  | .jwtRsaSsaPssPublic => types.jwtRsaSsaPss.publicKeys (types.codec .jwtRsaSsaPssPublic)
  | .jwtRsaSsaPssPrivate => types.jwtRsaSsaPss.privateKeys types.lib JwtRsaPublicKeyProto.IsNamed (types.codec .jwtRsaSsaPssPrivate)
  | .jwtRsaSsaPkcs1Public => types.jwtRsaSsaPkcs1.publicKeys (types.codec .jwtRsaSsaPkcs1Public)
  | .jwtRsaSsaPkcs1Private => types.jwtRsaSsaPkcs1.privateKeys types.lib JwtRsaPublicKeyProto.IsNamed (types.codec .jwtRsaSsaPkcs1Private)

/-- The key was made by the builders of its class. -/
def Created : (c : RsaKeyClass) → c.Key → Prop
  | .rsaSsaPssPublic => RsaSsaPssPublicKey.Created
  | .rsaSsaPssPrivate =>
    RsaPrivateKey.Created RsaSsaPssProtoSerialization.family types.lib RsaSsaPssPublicKey.Created
  | .rsaSsaPkcs1Public => RsaSsaPkcs1PublicKey.Created
  | .rsaSsaPkcs1Private =>
    RsaPrivateKey.Created RsaSsaPkcs1ProtoSerialization.family types.lib RsaSsaPkcs1PublicKey.Created
  | .jwtRsaSsaPssPublic | .jwtRsaSsaPkcs1Public => JwtRsaPublicKey.Created types.libraries
  | .jwtRsaSsaPssPrivate =>
    RsaPrivateKey.Created types.jwtRsaSsaPss types.lib (JwtRsaPublicKey.Created types.libraries)
  | .jwtRsaSsaPkcs1Private =>
    RsaPrivateKey.Created types.jwtRsaSsaPkcs1 types.lib (JwtRsaPublicKey.Created types.libraries)

theorem jwtRsaSsaPss_lawful : types.jwtRsaSsaPss.Lawful JwtRsaPublicKeyProto.IsNamed
    (JwtRsaPublicKey.Created types.libraries) JwtRsaPublicKeyProto.pad fun _ => True :=
  JwtRsaProtoSerialization.family_lawful (by simp [isPrintableAscii])

theorem jwtRsaSsaPkcs1_lawful : types.jwtRsaSsaPkcs1.Lawful JwtRsaPublicKeyProto.IsNamed
    (JwtRsaPublicKey.Created types.libraries) JwtRsaPublicKeyProto.pad fun _ => True :=
  JwtRsaProtoSerialization.family_lawful (by simp [isPrintableAscii])

end RsaKeyTypes

/-- What a family survives, with its condition written in another way. -/
theorem KeyFormat.survive_of_iff {Key M : Type} {named : M → Prop} {format : KeyFormat Key M named} {RoundTrip : Prop}
    {Related : RsaPadding → M → M → Prop} {Kept Kept' : Key → RsaPadding → M → Prop}
    (h : RoundTrip ∧ ∀ key padding, format.ParsesIff key (Related padding) (Kept key padding))
    (hiff : ∀ key padding m, Kept key padding m ↔ Kept' key padding m) :
    RoundTrip ∧ ∀ key padding, format.ParsesIff key (Related padding) (Kept' key padding) := by
  obtain ⟨hround, hpad⟩ := h
  exact ⟨hround, fun key padding token stored stored' m' hsame hm' hkey =>
    (hpad key padding token stored stored' m' hsame hm' hkey).trans (hiff key padding m')⟩

/-- **RSA keys survive the proto format**: what is serialized is parsed back, and from every stored key the same key is
parsed with zeros before the numbers, but not for RsaSsaPss with zeros before `n`, nor with more zeros before a secret
number than an `int` counts. -/
theorem rsaKeys_survive (types : RsaKeyTypes) (c : RsaKeyClass) :
    (∀ key, types.Created c key → (types.format c).RoundTrips key fun _ => True) ∧
      ∀ key padding, (types.format c).ParsesIff key (fun m m' => m' = c.pad padding m)
        fun m' => (c.IsRsaSsaPss → 2 ^ 29 ∣ padding.n) ∧ c.Counted key m' := by
  have hpss : ∀ {padding : RsaPadding} {P : Prop}, 2 ^ 29 ∣ padding.n ∧ P ↔ (True → 2 ^ 29 ∣ padding.n) ∧ P := by simp
  have hother : ∀ {padding : RsaPadding} {P : Prop}, True ∧ P ↔ (False → 2 ^ 29 ∣ padding.n) ∧ P := by simp
  cases c with
  | rsaSsaPssPublic =>
    exact KeyFormat.survive_of_iff
      (RsaSsaPssProtoSerialization.family_lawful.publicKeys_survive (types.codec .rsaSsaPssPublic))
      fun _ _ _ => (Iff.of_eq (and_true _)).symm.trans hpss
  | rsaSsaPssPrivate =>
    exact KeyFormat.survive_of_iff
      (RsaSsaPssProtoSerialization.family_lawful.privateKeys_survive types.lib (types.codec .rsaSsaPssPrivate))
      fun _ _ _ => hpss
  | rsaSsaPkcs1Public =>
    exact KeyFormat.survive_of_iff
      (RsaSsaPkcs1ProtoSerialization.family_lawful.publicKeys_survive (types.codec .rsaSsaPkcs1Public))
      fun _ _ _ => (Iff.of_eq (and_true _)).symm.trans hother
  | rsaSsaPkcs1Private =>
    exact KeyFormat.survive_of_iff
      (RsaSsaPkcs1ProtoSerialization.family_lawful.privateKeys_survive types.lib (types.codec .rsaSsaPkcs1Private))
      fun _ _ _ => hother
  | jwtRsaSsaPssPublic =>
    exact KeyFormat.survive_of_iff
      (types.jwtRsaSsaPss_lawful.publicKeys_survive (types.codec .jwtRsaSsaPssPublic))
      fun _ _ _ => (Iff.of_eq (and_true _)).symm.trans hother
  | jwtRsaSsaPssPrivate =>
    exact KeyFormat.survive_of_iff
      (types.jwtRsaSsaPss_lawful.privateKeys_survive types.lib (types.codec .jwtRsaSsaPssPrivate))
      fun _ _ _ => hother
  | jwtRsaSsaPkcs1Public =>
    exact KeyFormat.survive_of_iff
      (types.jwtRsaSsaPkcs1_lawful.publicKeys_survive (types.codec .jwtRsaSsaPkcs1Public))
      fun _ _ _ => (Iff.of_eq (and_true _)).symm.trans hother
  | jwtRsaSsaPkcs1Private =>
    exact KeyFormat.survive_of_iff
      (types.jwtRsaSsaPkcs1_lawful.privateKeys_survive types.lib (types.codec .jwtRsaSsaPkcs1Private))
      fun _ _ _ => hother

/-! ## A key of 2048 bits -/

deriving instance Encodable for RsaPrivateNumbers, RsaSsaPssParamsProto, RsaSsaPssPublicKeyProto, RsaSsaPkcs1ParamsProto,
  RsaSsaPkcs1PublicKeyProto, JwtRsaPublicKeyProto, RsaPrivateKeyProto

/-- 2^2047 + 1. -/
def modulusBytes : Bytes := 128 :: (List.replicate 254 0 ++ [1])

def pssKey : RsaSsaPssPublicKey :=
  ⟨⟨2048, 65537, .sha256, .sha256, 32, .noPrefix⟩, BigEndian.value modulusBytes, none⟩

def pssProto : RsaSsaPssPublicKeyProto := ⟨0, ⟨.sha256, .sha256, 32⟩, modulusBytes, [1, 0, 1]⟩

/-- One zero before `n`, and none before the others. -/
def oneZero : RsaPadding := ⟨1, 0, 0, 0, 0, 0, 0, 0⟩

/-- The bytes of the two messages. -/
def pssTable : List (RsaSsaPssPublicKeyProto × Bytes) :=
  [(pssProto, lengthDelimited 18 [8, 3, 16, 3, 24, 32] ++ [26, 128, 2] ++ modulusBytes ++ lengthDelimited 34 [1, 0, 1]),
    (pssProto.pad oneZero, lengthDelimited 18 [8, 3, 16, 3, 24, 32] ++ [26, 129, 2] ++ padded 1 modulusBytes ++
      lengthDelimited 34 [1, 0, 1])]

def pssTypes : RsaKeyTypes where
  libraries := key42Libraries
  lib := ⟨false, fun _ _ _ _ _ _ _ _ => .error ⟨.invalidArgument, "Could not load RSA key"⟩, fun h => by cases h⟩
  codec
    | .rsaSsaPssPublic => .withTable _ pssTable (by decide +kernel)
    | .rsaSsaPssPrivate => .numbered _
    | .rsaSsaPkcs1Public => .numbered _
    | .rsaSsaPkcs1Private => .numbered _
    | .jwtRsaSsaPssPublic => .numbered _
    | .jwtRsaSsaPssPrivate => .numbered _
    | .jwtRsaSsaPkcs1Public => .numbered _
    | .jwtRsaSsaPkcs1Private => .numbered _

theorem modulusBytes_length : modulusBytes.length = 256 := by
  unfold modulusBytes
  rw [List.length_cons, List.length_append, List.length_replicate, List.length_singleton]

theorem modulusBytes_size : sizeInBytes (BigEndian.value modulusBytes) = 256 := by
  refine (BigEndian.digits_length_value ?_).trans modulusBytes_length
  unfold modulusBytes
  rw [List.head?_cons]
  decide

theorem pssParameters_created {modulus : Nat} (h : sizeInBytes modulus = 256) :
    RsaSsaPssPublicKey.Created ⟨⟨2048, 65537, .sha256, .sha256, 32, .noPrefix⟩, modulus, none⟩ where
  build := by
    have hexponent : validateRsaPublicExponent 65537 = .ok () := by
      unfold validateRsaPublicExponent
      rw [if_neg (by decide), if_neg (by decide), if_neg (by decide)]
    have hsize : checkModulusSize 2048 = .ok () := refuseIf_ok.2 (by decide)
    unfold RsaSsaPssParameters.build
    dsimp only
    rw [refuseIf_ok.2 (by decide), refuseIf_ok.2 (by decide), refuseIf_ok.2 (by decide), refuseIf_ok.2 (by decide), hsize,
      hexponent]
    rfl
  create := by
    have hlength : checkModulusLength modulus 2048 = .ok () := by
      unfold checkModulusLength
      rw [refuseIf_ok, h]
      decide
    unfold RsaSsaPssPublicKey.create
    rw [hlength]
    rfl

theorem pssKey_created : pssTypes.Created .rsaSsaPssPublic pssKey := pssParameters_created modulusBytes_size

theorem pssKey_survives : (pssTypes.format .rsaSsaPssPublic).RoundTrips pssKey fun _ => True :=
  (rsaKeys_survive pssTypes .rsaSsaPssPublic).1 pssKey pssKey_created

theorem pssProto_toPublicKey {n : Bytes} (hlength : n.length = 256) (hsize : sizeInBytes (BigEndian.value n) = 256) :
    RsaSsaPssProtoSerialization.toPublicKey ⟨0, ⟨.sha256, .sha256, 32⟩, n, [1, 0, 1]⟩ .raw none =
      .ok ⟨⟨2048, 65537, .sha256, .sha256, 32, .noPrefix⟩, BigEndian.value n, none⟩ := by
  have hcreated := pssParameters_created hsize
  have hparameters : RsaSsaPssProtoSerialization.toParameters .raw ⟨.sha256, .sha256, 32⟩ 2048 65537 =
      .ok ⟨2048, 65537, .sha256, .sha256, 32, .noPrefix⟩ := by
    change RsaSsaPssParameters.build 2048 65537 .sha256 .sha256 (32 : UInt32).toInt32 .noPrefix = _
    rw [show (32 : UInt32).toInt32 = 32 by decide]
    exact hcreated.build
  unfold RsaSsaPssProtoSerialization.toPublicKey
  dsimp only
  rw [hlength, show BigEndian.value [1, 0, 1] = 65537 by decide, show Int32.ofNat (256 * 8) = 2048 by decide, hparameters]
  exact hcreated.create

/-- A message as it is stored. -/
theorem raw_iff_none : OutputPrefixType.raw = .raw ↔ (none : Option UInt32) = none := iff_of_true rfl rfl

def RsaKeyTypes.storedPss (types : RsaKeyTypes) (m : RsaSsaPssPublicKeyProto) : ProtoKeySerialization where
  typeUrl := RsaSsaPssProtoSerialization.family.publicTypeUrl
  serializedKey := (types.codec .rsaSsaPssPublic).serializeAsSecretData m
  keyMaterialType := .asymmetricPublic
  outputPrefixType := .raw
  idRequirement := none
  printable := RsaSsaPssProtoSerialization.family_lawful.publicPrintable
  raw_iff := raw_iff_none

theorem RsaKeyTypes.parse_storedPss (types : RsaKeyTypes) {m : RsaSsaPssPublicKeyProto} (hnamed : m.IsNamed)
    (hversion : m.version = 0) : (types.format .rsaSsaPssPublic).parse (types.storedPss m) (some .insecure) =
      RsaSsaPssProtoSerialization.toPublicKey m .raw none := by
  have hreads := RsaSsaPssProtoSerialization.family_lawful.publicKeys_reads (types.codec .rsaSsaPssPublic)
  have hstores : (types.storedPss m).Stores (types.codec .rsaSsaPssPublic)
      RsaSsaPssProtoSerialization.family.publicTypeUrl .raw none m :=
    ⟨rfl, rfl, rfl, (types.codec .rsaSsaPssPublic).parse_serialize hnamed⟩
  refine (hreads.of_stores hstores .insecure).trans ?_
  change (checkVersion m.version _ >>= _) = _
  rw [hversion]
  rfl

theorem RsaKeyTypes.storedPss_sameBut (types : RsaKeyTypes) {m : RsaSsaPssPublicKeyProto} (hnamed : m.IsNamed)
    (padding : RsaPadding) : (types.storedPss m).SameBut (types.storedPss (m.pad padding))
      (types.format .rsaSsaPssPublic).codec fun m m' => m' = RsaKeyClass.pad padding .rsaSsaPssPublic m where
  typeUrl := rfl
  keyMaterialType := rfl
  outputPrefixType := rfl
  idRequirement := rfl
  messages := ⟨m, m.pad padding, (types.codec .rsaSsaPssPublic).parse_serialize hnamed,
    (types.codec .rsaSsaPssPublic).parse_serialize (m := m.pad padding) hnamed, rfl⟩

/-- The key is parsed from its message, and not with one zero before `n`. -/
theorem pssKey_lost :
    (pssTypes.storedPss pssProto).SameBut (pssTypes.storedPss (pssProto.pad oneZero))
        (pssTypes.format .rsaSsaPssPublic).codec (fun m m' => m' = RsaKeyClass.pad oneZero .rsaSsaPssPublic m) ∧
      (pssTypes.format .rsaSsaPssPublic).parse (pssTypes.storedPss pssProto) (some .insecure) = .ok pssKey ∧
      (pssTypes.format .rsaSsaPssPublic).parse (pssTypes.storedPss (pssProto.pad oneZero)) (some .insecure) ≠
        .ok pssKey := by
  have hnamed : pssProto.IsNamed := ⟨(fun _ h => by cases h), (fun _ h => by cases h)⟩
  have hkey : RsaSsaPssProtoSerialization.toPublicKey pssProto .raw none = .ok pssKey :=
    pssProto_toPublicKey modulusBytes_length modulusBytes_size
  refine ⟨pssTypes.storedPss_sameBut hnamed oneZero, ?_, ?_⟩
  · rw [pssTypes.parse_storedPss hnamed rfl, hkey]
  · rw [pssTypes.parse_storedPss (m := pssProto.pad oneZero) hnamed rfl]
    intro h
    rw [RsaSsaPssProtoSerialization.toPublicKey_pad oneZero pssProto .raw none pssKey hkey] at h
    exact absurd h (by decide)

end Tink
