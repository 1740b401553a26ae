import TinkCc.EciesFormat
import TinkCc.JwkSetRoundTrip
/-!
# EcKeyFormats — elliptic-curve keys survive the proto format

The keys of `ecdsa_proto_serialization_impl.cc`, `jwt_ecdsa_proto_serialization_impl.cc` and
`ecies_proto_serialization_impl.cc` together.
-/
namespace Tink

/-- BoringSSL, the JSON library and the codecs of the messages. -/
structure EcKeyTypes where
  libraries       : JwtLibraries
  lib             : HybridLibrary
  ecdsaPublic     : MessageCodec EcdsaPublicKeyProto (·.params.IsNamed)
  ecdsaPrivate    : MessageCodec EcdsaPrivateKeyProto (·.publicKey.params.IsNamed)
  jwtEcdsaPublic  : MessageCodec JwtEcdsaPublicKeyProto (·.algorithm.IsNamed)
  jwtEcdsaPrivate : MessageCodec JwtEcdsaPrivateKeyProto (·.publicKey.algorithm.IsNamed)
  ecies           : EciesCodecs

inductive AnyEcKey
  | ecdsaPublic (key : EcdsaPublicKey)
  | ecdsaPrivate (key : EcdsaPrivateKey)
  | jwtEcdsaPublic (key : JwtEcdsaPublicKey)
  | jwtEcdsaPrivate (key : JwtEcdsaPrivateKey)
  | eciesPublic (key : EciesPublicKey)
  | eciesPrivate (key : EciesPrivateKey)
  deriving DecidableEq, Repr

variable (types : EcKeyTypes)

/-- The key was made by the functions of its class. -/
def AnyEcKey.Created : AnyEcKey → Prop
  | .ecdsaPublic key => key.Created types.lib.toEcKeyLibrary
  | .ecdsaPrivate key => key.Created types.lib.toEcKeyLibrary
  | .jwtEcdsaPublic key => key.Created types.libraries types.lib.toEcKeyLibrary
  | .jwtEcdsaPrivate key => key.Created types.libraries types.lib.toEcKeyLibrary
  | .eciesPublic key => key.Created types.lib
  | .eciesPrivate key => key.Created types.lib

/-- The key is serialized with numbers of the length of its curve, and is parsed back from that. -/
def AnyEcKey.RoundTrips : AnyEcKey → Prop
  | .ecdsaPublic key =>
    (EcdsaProtoSerialization.publicKeys types.lib.toEcKeyLibrary types.ecdsaPublic).RoundTrips key
      (EcdsaPublicKeyProto.HasLength (getEncodingLength key.parameters.curveType))
  | .ecdsaPrivate key =>
    (EcdsaProtoSerialization.privateKeys types.lib.toEcKeyLibrary types.ecdsaPrivate).RoundTrips key
      (EcdsaPrivateKeyProto.HasLength (getEncodingLength key.publicKey.parameters.curveType))
  | .jwtEcdsaPublic key =>
    (JwtEcdsaProtoSerialization.publicKeys types.libraries types.lib.toEcKeyLibrary types.jwtEcdsaPublic).RoundTrips key
      (JwtEcdsaPublicKeyProto.HasLength (JwtEcdsaProtoSerialization.getEncodingLength key.algorithm))
  | .jwtEcdsaPrivate key =>
    (JwtEcdsaProtoSerialization.privateKeys types.libraries types.lib.toEcKeyLibrary types.jwtEcdsaPrivate).RoundTrips key
      (JwtEcdsaPrivateKeyProto.HasLength (JwtEcdsaProtoSerialization.getEncodingLength key.publicKey.algorithm))
  | .eciesPublic key =>
    (EciesProtoSerialization.publicKeys types.lib types.ecies).RoundTrips key
      (EciesAeadHkdfPublicKeyProto.HasLength key.parameters.curveType)
  | .eciesPrivate key =>
    (EciesProtoSerialization.privateKeys types.lib types.ecies).RoundTrips key
      (EciesAeadHkdfPrivateKeyProto.HasLength key.publicKey.parameters.curveType)

/-- From any stored key that it is parsed from, the key is parsed with other zeros before the numbers; before a private
value, as long as an `int` holds how many bytes it is longer than the value. -/
def AnyEcKey.ParsesPadded : AnyEcKey → Prop
  | .ecdsaPublic key =>
    (EcdsaProtoSerialization.publicKeys types.lib.toEcKeyLibrary types.ecdsaPublic).ParsesIff key
      EcdsaPublicKeyProto.SameNumbers fun _ => True
  | .ecdsaPrivate key =>
    (EcdsaProtoSerialization.privateKeys types.lib.toEcKeyLibrary types.ecdsaPrivate).ParsesIff key
      EcdsaPrivateKeyProto.SameNumbers fun proto => proto.keyValue.length < key.publicKey.parameters.privateKeyLength + 2 ^ 31
  | .jwtEcdsaPublic key =>
    (JwtEcdsaProtoSerialization.publicKeys types.libraries types.lib.toEcKeyLibrary types.jwtEcdsaPublic).ParsesIff key
      JwtEcdsaPublicKeyProto.SameNumbers fun _ => True
  | .jwtEcdsaPrivate key =>
    (JwtEcdsaProtoSerialization.privateKeys types.libraries types.lib.toEcKeyLibrary types.jwtEcdsaPrivate).ParsesIff key
      JwtEcdsaPrivateKeyProto.SameNumbers fun proto => proto.keyValue.length < key.publicKey.algorithm.privateKeyLength + 2 ^ 31
  | .eciesPublic key =>
    (EciesProtoSerialization.publicKeys types.lib types.ecies).ParsesIff key
      EciesAeadHkdfPublicKeyProto.SameNumbers fun _ => True
  | .eciesPrivate key =>
    (EciesProtoSerialization.privateKeys types.lib types.ecies).ParsesIff key
      EciesAeadHkdfPrivateKeyProto.SameNumbers fun proto =>
        proto.keyValue.length < key.publicKey.parameters.privateKeyLength + 2 ^ 31

/-- An ECIES key that `CreateForCurveX25519` made with the parameters of a NIST curve. -/
def AnyEcKey.IsMismatched : AnyEcKey → Prop
  | .eciesPublic key => key.IsMismatched
  | .eciesPrivate key => key.publicKey.IsMismatched
  | _ => False

section
variable {types}

theorem AnyEcKey.Created.roundTrips_iff {key : AnyEcKey} (h : key.Created types) :
    key.RoundTrips types ↔ ¬ key.IsMismatched := by
  cases key with
  | ecdsaPublic key => exact iff_of_true (EcdsaPublicKey.Created.survives h _).1 not_false
  | ecdsaPrivate key => exact iff_of_true (EcdsaPrivateKey.Created.survives h _).1 not_false
  | jwtEcdsaPublic key => exact iff_of_true (JwtEcdsaPublicKey.Created.survives h _).1 not_false
  | jwtEcdsaPrivate key => exact iff_of_true (JwtEcdsaPrivateKey.Created.survives h _).1 not_false
  | eciesPublic key => exact (EciesPublicKey.Created.survives_iff h).1
  | eciesPrivate key => exact (EciesPrivateKey.Created.survives_iff h).1

theorem AnyEcKey.Created.parsesPadded {key : AnyEcKey} (h : key.Created types) : key.ParsesPadded types := by
  cases key with
  | ecdsaPublic key => exact (EcdsaPublicKey.Created.survives h _).2
  | ecdsaPrivate key => exact (EcdsaPrivateKey.Created.survives h _).2
  | jwtEcdsaPublic key => exact (JwtEcdsaPublicKey.Created.survives h _).2
  | jwtEcdsaPrivate key => exact (JwtEcdsaPrivateKey.Created.survives h _).2
  | eciesPublic key => exact (EciesPublicKey.Created.survives_iff h).2
  | eciesPrivate key => exact (EciesPrivateKey.Created.survives_iff h).2

end

/-- **Elliptic-curve keys survive the proto format**: exactly the mismatched ECIES keys are lost, and zeros before the
numbers of a stored key change nothing while an `int` counts them. -/
theorem ecKeys_survive (key : AnyEcKey) (h : key.Created types) :
    (key.RoundTrips types ↔ ¬ key.IsMismatched) ∧ key.ParsesPadded types :=
  ⟨h.roundTrips_iff, h.parsesPadded⟩

/-! ## The key of number 1 -/

deriving instance Encodable for EllipticCurveTypeProto, EcdsaSignatureEncodingProto, EcdsaParamsProto, EcdsaPublicKeyProto,
  EcdsaPrivateKeyProto, JwtEcdsaPublicKeyProto, JwtEcdsaPrivateKeyProto, OutputPrefixType, KeyTemplate, EcPointFormatProto,
  EciesHkdfKemParamsProto, EciesAeadDemParamsProto, EciesAeadHkdfParamsProto, EciesAeadHkdfPublicKeyProto,
  EciesAeadHkdfPrivateKeyProto, AesGcmKeyFormat, AesSivKeyFormat, XChaCha20Poly1305KeyFormat, HmacParamsProto,
  HmacKeyFormat, AesCtrParamsProto, AesCtrKeyFormat, AesCtrHmacAeadKeyFormat

/-- The private key 1 of P-256, whose public point is the generator. -/
def generatorKey : EcdsaPrivateKey :=
  ⟨⟨⟨.nistP256, .sha256, .der, .noPrefix⟩, (generatorX, generatorY), none⟩, BigEndian.encode 32 1⟩

def generatorLibrary : HybridLibrary where
  groups := nistGroups
  build := .openSsl
  fipsMode := false
  deriveFromSecret := fun _ _ => none
  deriveFromSecret_isSome := fun _ _ _ _ => rfl
  checkKey := fun _ point priv =>
    if priv = 1 ∧ point = (generatorX, generatorY) then .ok () else .error ⟨.invalidArgument, "Invalid EC key pair"⟩
  ed25519PublicKey := fun _ => List.replicate 32 0
  ed25519PublicKey_length := fun _ => rfl
  x25519PublicValue := fun _ => .error ⟨.internal, "X25519_public_from_private"⟩

def generatorPublicProto : EcdsaPublicKeyProto :=
  ⟨0, ⟨.sha256, .nistP256, .der⟩, 0 :: BigEndian.encode 32 generatorX, 0 :: BigEndian.encode 32 generatorY⟩

def generatorPublicBytes : Bytes :=
  lengthDelimited 18 [8, 3, 16, 2, 24, 2] ++ lengthDelimited 26 generatorPublicProto.x ++
    lengthDelimited 34 generatorPublicProto.y

/-- An X25519 key with the parameters of P-256: the base point. -/
def mismatchedKey : EciesPublicKey :=
  ⟨⟨.nistP256, .sha256, some .compressed, .aes128GcmRaw, none, .noPrefix⟩, none, some (9 :: List.replicate 31 0), none⟩

def mismatchedProto : EciesAeadHkdfPublicKeyProto :=
  ⟨0, ⟨⟨.nistP256, .sha256, []⟩, ⟨⟨aesGcmKeyUrl, [16, 16], .tink⟩⟩, .compressed⟩, 9 :: List.replicate 31 0, []⟩

/-- The bytes of the params of that key. -/
def mismatchedParamsBytes : Bytes :=
  lengthDelimited 10 [8, 2, 16, 3] ++
    lengthDelimited 18 (lengthDelimited 18 (lengthDelimited 10 (ascii aesGcmKeyUrl) ++ lengthDelimited 18 [16, 16] ++
      [24, 1])) ++ [24, 2]

def generatorTypes : EcKeyTypes where
  libraries := key42Libraries
  lib := generatorLibrary
  ecdsaPublic := .numbered _
  ecdsaPrivate := .withTable _ [(⟨0, generatorPublicProto, 0 :: BigEndian.encode 32 1⟩,
    lengthDelimited 18 generatorPublicBytes ++ lengthDelimited 26 (0 :: BigEndian.encode 32 1))] (by decide)
  jwtEcdsaPublic := .numbered _
  jwtEcdsaPrivate := .numbered _
  ecies :=
    { publicKey := .withTable _ [(mismatchedProto, lengthDelimited 18 mismatchedParamsBytes ++
        lengthDelimited 26 mismatchedProto.x ++ lengthDelimited 34 mismatchedProto.y)] (by decide)
      privateKey := .numbered _
      aesGcm := .withTable _ [(⟨16, 0⟩, [16, 16])] (by decide)
      aesSiv := .numbered _
      xChaCha := .numbered _
      aesCtrHmac := .numbered _ }

theorem generator_isPoint : nistGroups.getEcPoint .nistP256 generatorX generatorY = .ok (generatorX, generatorY) := by
  unfold EcGroups.getEcPoint
  rw [if_pos (by decide)]

theorem generatorKey_created : (AnyEcKey.ecdsaPrivate generatorKey).Created generatorTypes where
  publicKey :=
    { build := rfl
      create := by
        unfold EcdsaPublicKey.create generatorTypes generatorLibrary generatorKey
        dsimp only
        rw [generator_isPoint]
        rfl }
  create := by
    unfold EcdsaPrivateKey.create generatorTypes generatorLibrary generatorKey
    dsimp only
    rw [generator_isPoint, BigEndian.value_encode (by decide), if_neg (by decide)]
    rfl

theorem generatorKey_survives : (AnyEcKey.ecdsaPrivate generatorKey).RoundTrips generatorTypes ∧
    (AnyEcKey.ecdsaPrivate generatorKey).ParsesPadded generatorTypes := by
  obtain ⟨hround, hpadded⟩ := ecKeys_survive generatorTypes _ generatorKey_created
  exact ⟨hround.2 not_false, hpadded⟩

theorem mismatchedKey_lost : (AnyEcKey.eciesPublic mismatchedKey).Created generatorTypes ∧
    ¬ (AnyEcKey.eciesPublic mismatchedKey).RoundTrips generatorTypes := by
  have h : mismatchedKey.Created generatorLibrary := ⟨⟨[], rfl⟩, Or.inr ⟨9 :: List.replicate 31 0, rfl⟩⟩
  exact ⟨h, fun hround => (EciesPublicKey.Created.survives_iff h).1.1 hround ⟨rfl, rfl⟩⟩

end Tink
