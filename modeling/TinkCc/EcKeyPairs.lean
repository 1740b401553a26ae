import TinkCc.EcKeyFormats
import TinkCc.PublicKeysetHandle
/-!
# EcKeyPairs — a registry of the elliptic-curve keys

The parsers and serializers that `ecdsa_proto_serialization_impl.cc`, `jwt_ecdsa_proto_serialization_impl.cc` and
`ecies_proto_serialization_impl.cc` register, in one registry.  A public key that survives the proto format is parsed
back by it (`registry_roundTrips`).
-/
namespace Tink

/-- The pairs of classes of elliptic-curve keys. -/
inductive EcKeyPair
  | ecdsa
  | jwtEcdsa
  | ecies
  deriving DecidableEq, Repr

namespace EcKeyPair

def classes (types : EcKeyTypes) : EcKeyPair → KeyPairClass
  | .ecdsa => ecdsaKeys types.lib.toEcKeyLibrary types.ecdsaPublic types.ecdsaPrivate
  | .jwtEcdsa => jwtEcdsaKeys types.libraries types.lib.toEcKeyLibrary types.jwtEcdsaPublic types.jwtEcdsaPrivate
  | .ecies => eciesKeys types.lib types.ecies

variable (types : EcKeyTypes)

def toAnyEcKey : {c : EcKeyPair} → (classes types c).Public → AnyEcKey
  | .ecdsa, key => .ecdsaPublic key
  | .jwtEcdsa, key => .jwtEcdsaPublic key
  | .ecies, key => .eciesPublic key

variable {types}

/-- A registry with all of them. -/
def registry : SerializationRegistry EcKeyPair where
  privateKeyParsers := [.ecdsa, .jwtEcdsa, .ecies]
  publicKeyParsers := [.ecdsa, .jwtEcdsa, .ecies]
  publicKeySerializers := [.ecdsa, .jwtEcdsa, .ecies]
  serializationTypeName := "N6crypto4tink8internal21ProtoKeySerializationE"
  publicKeyTypeName
    | .ecdsa => "N6crypto4tink14EcdsaPublicKeyE"
    | .jwtEcdsa => "N6crypto4tink17JwtEcdsaPublicKeyE"
    | .ecies => "N6crypto4tink14EciesPublicKeyE"

def privateTypeUrl : EcKeyPair → String
  | .ecdsa => EcdsaProtoSerialization.privateTypeUrl
  | .jwtEcdsa => JwtEcdsaProtoSerialization.privateTypeUrl
  | .ecies => EciesProtoSerialization.privateTypeUrl

def publicTypeUrl : EcKeyPair → String
  | .ecdsa => EcdsaProtoSerialization.publicTypeUrl
  | .jwtEcdsa => jwtEcdsaPublicKeyUrl
  | .ecies => EciesProtoSerialization.publicTypeUrl

@[simp] theorem classes_privateTypeUrl (c : EcKeyPair) : (classes types c).privateTypeUrl = c.privateTypeUrl := by
  cases c <;> rfl

@[simp] theorem classes_publicTypeUrl (c : EcKeyPair) : (classes types c).publicTypeUrl = c.publicTypeUrl := by
  cases c <;> rfl

theorem privateTypeUrl_ne (c c' : EcKeyPair) : c.privateTypeUrl ≠ c'.publicTypeUrl := by
  cases c <;> cases c' <;> decide

theorem find_publicTypeUrl (c : EcKeyPair) :
    registry.publicKeyParsers.find? (fun c' => c'.publicTypeUrl = c.publicTypeUrl) = some c := by
  cases c <;> decide

theorem find_privateTypeUrl (c : EcKeyPair) :
    registry.privateKeyParsers.find? (fun c' => c'.privateTypeUrl = c.privateTypeUrl) = some c := by
  cases c <;> decide

theorem parseKey_public {c : EcKeyPair} {s : ProtoKeySerialization} (h : s.typeUrl = c.publicTypeUrl) :
    registry.parseKey (classes types) s = ((classes types c).parsePublicKey s (some .insecure)).map (.publicKey c) := by
  have hprivate : registry.privateKeyParsers.find? (fun c' => c'.privateTypeUrl = c.publicTypeUrl) = none :=
    List.find?_eq_none.2 fun c' _ hurl => privateTypeUrl_ne c' c (of_decide_eq_true hurl)
  unfold SerializationRegistry.parseKey
  simp only [classes_privateTypeUrl, classes_publicTypeUrl, h, hprivate, find_publicTypeUrl]

theorem parseKey_private {c : EcKeyPair} {s : ProtoKeySerialization} (h : s.typeUrl = c.privateTypeUrl) :
    registry.parseKey (classes types) s = ((classes types c).parsePrivateKey s (some .insecure)).map (.privateKey c) := by
  unfold SerializationRegistry.parseKey
  simp only [classes_privateTypeUrl, h, find_privateTypeUrl]

/-- A key of none of the types. -/
theorem parseKeyWithLegacyFallback_other {s : ProtoKeySerialization}
    (h : ∀ c : EcKeyPair, c.privateTypeUrl ≠ s.typeUrl ∧ c.publicTypeUrl ≠ s.typeUrl) :
    registry.parseKeyWithLegacyFallback (classes types) s = .ok (.legacyProtoKey s) := by
  have hprivate : registry.privateKeyParsers.find? (fun c => c.privateTypeUrl = s.typeUrl) = none :=
    List.find?_eq_none.2 fun c _ hurl => (h c).1 (of_decide_eq_true hurl)
  have hpublic : registry.publicKeyParsers.find? (fun c => c.publicTypeUrl = s.typeUrl) = none :=
    List.find?_eq_none.2 fun c _ hurl => (h c).2 (of_decide_eq_true hurl)
  unfold SerializationRegistry.parseKeyWithLegacyFallback SerializationRegistry.parseKey
  simp only [classes_privateTypeUrl, classes_publicTypeUrl, hprivate, hpublic]
  rfl

theorem parsePublicKey_typeUrl {c : EcKeyPair} {s : ProtoKeySerialization} {token : SecretKeyAccessToken}
    {key : (classes types c).Public} (h : (classes types c).parsePublicKey s (some token) = .ok key) :
    s.typeUrl = c.publicTypeUrl := by
  cases c with
  | ecdsa =>
    obtain ⟨_, hurl, -⟩ := bind_eq_ok h
    exact checkTypeUrl_ok hurl
  | jwtEcdsa =>
    obtain ⟨_, hurl, -⟩ := bind_eq_ok h
    exact checkTypeUrl_ok hurl
  | ecies =>
    obtain ⟨_, hurl, -⟩ := bind_eq_ok h
    exact checkTypeUrl_ok hurl

/-- A key that survives the proto format is serialized and parsed back. -/
theorem serialize_parse {c : EcKeyPair} {key : (classes types c).Public} (h : (toAnyEcKey types key).RoundTrips types) :
    ∃ s, (classes types c).serializePublicKey key (some .insecure) = .ok s ∧
      (classes types c).parsePublicKey s (some .insecure) = .ok key := by
  cases c with
  | ecdsa =>
    obtain ⟨s, m, hserialize, -, -, hparse⟩ := h .insecure
    exact ⟨s, hserialize, hparse⟩
  | jwtEcdsa =>
    obtain ⟨s, m, hserialize, -, -, hparse⟩ := h .insecure
    exact ⟨s, hserialize, hparse⟩
  | ecies =>
    obtain ⟨s, m, hserialize, -, -, hparse⟩ := h .insecure
    exact ⟨s, hserialize, hparse⟩

theorem serializeKey_eq (c : EcKeyPair) (key : (classes types c).Public) :
    registry.serializeKey ⟨c, key⟩ = (classes types c).serializePublicKey key (some .insecure) := by
  unfold SerializationRegistry.serializeKey
  have hmem : c ∈ registry.publicKeySerializers := by cases c <;> decide
  exact if_pos hmem

/-- **Keys that survive the proto format are parsed back** by the registry. -/
theorem registry_roundTrips {c : EcKeyPair} {key : (classes types c).Public} (h : (toAnyEcKey types key).RoundTrips types) :
    registry.RoundTrips ⟨c, key⟩ := by
  intro s hs
  obtain ⟨s', hserialize, hparse⟩ := serialize_parse h
  rw [serializeKey_eq, hserialize] at hs
  cases hs
  unfold SerializationRegistry.parseKeyWithLegacyFallback
  rw [parseKey_public (parsePublicKey_typeUrl hparse), hparse]
  rfl

end EcKeyPair

end Tink
