import TinkCc.EcKeyPairs
import TinkCc.MutableSerializationRegistry
/-!
# ProtoSerializations — the key types of the global registry

`Register<KeyType>ProtoSerializationWithMutableRegistry` of the `*_proto_serialization_impl.cc` of key pairs.  Each registers
six objects.  After these functions were called for some classes, in whatever order and however often, the registry parses
and serializes keys as the registry of these classes that handles of key pairs are proved about (`registeredClasses`).
-/
namespace Tink

namespace Internal

open MutableSerializationRegistry

/-! ## Classes of key pairs -/

/-- The classes of key objects, as `typeid` tells them apart, and of their parameters. -/
inductive KeyObjectType (ι : Type)
  | privateKey (c : ι)
  | publicKey (c : ι)
  | parameters (c : ι)
  | legacyProtoKey
  deriving DecidableEq

/-- The static objects of a key type. -/
structure ProtoSerializationPointers where
  parametersParser     : Nat
  parametersSerializer : Nat
  publicKeyParser      : Nat
  publicKeySerializer  : Nat
  privateKeyParser     : Nat
  privateKeySerializer : Nat

/-- The calls of `Register<KeyType>ProtoSerializationWithMutableRegistry`, which returns at the first that fails. -/
def protoSerializationCalls (pointers : ProtoSerializationPointers) : List Call :=
  [.registerParametersParser pointers.parametersParser, .registerParametersSerializer pointers.parametersSerializer,
    .registerKeyParser pointers.publicKeyParser, .registerKeySerializer pointers.publicKeySerializer,
    .registerKeyParser pointers.privateKeyParser, .registerKeySerializer pointers.privateKeySerializer]

section
variable {ι Parameters : Type} (classes : ι → KeyPairClass)

def KeyObject.type : KeyObject classes → KeyObjectType ι
  | .privateKey c _ => .privateKey c
  | .publicKey c _ => .publicKey c
  | .legacyProtoKey _ => .legacyProtoKey

variable [DecidableEq ι]

/-- The cast to the public keys of a class. -/
def castPublicKey (c : ι) : KeyObject classes → Option (classes c).Public
  | .publicKey c' key => if h : c' = c then some (h ▸ key) else none
  | _ => none

/-- What the pointers of the classes point to, as far as keys are parsed and public keys are serialized. -/
structure ProtoSerializations (objects : SerializationObjects Parameters (KeyObject classes) (KeyObjectType ι))
    (pointers : ι → ProtoSerializationPointers) : Prop where
  parametersParser     : ∀ c, (objects.parametersParser (pointers c).parametersParser).index =
    ⟨.protoParametersSerialization, (classes c).privateTypeUrl⟩
  parametersSerializer : ∀ c, (objects.parametersSerializer (pointers c).parametersSerializer).index =
    ⟨.parameters c, .protoParametersSerialization⟩
  publicKeyParser      : ∀ c, objects.keyParser (pointers c).publicKeyParser =
    keyParserImpl protoKeyClass (classes c).publicTypeUrl fun s token =>
      ((classes c).parsePublicKey s token).map (.publicKey c)
  publicKeySerializer  : ∀ c, objects.keySerializer (pointers c).publicKeySerializer =
    keySerializerImpl protoKeyClass (.publicKey c) (castPublicKey classes c) (classes c).serializePublicKey
  privateKeyParser     : ∀ c, objects.keyParser (pointers c).privateKeyParser =
    keyParserImpl protoKeyClass (classes c).privateTypeUrl fun s token =>
      ((classes c).parsePrivateKey s token).map (.privateKey c)
  privateKeySerializer : ∀ c, (objects.keySerializer (pointers c).privateKeySerializer).index =
    ⟨.privateKey c, .protoKeySerialization⟩
  typeOfKey            : objects.typeOfKey = KeyObject.type classes
  legacyProtoKey       : objects.legacyProtoKey = .legacyProtoKey

/-- No two key types have one type URL. -/
structure DistinctTypeUrls : Prop where
  privateTypeUrl : ∀ {c c'}, (classes c).privateTypeUrl = (classes c').privateTypeUrl → c = c'
  publicTypeUrl  : ∀ {c c'}, (classes c).publicTypeUrl = (classes c').publicTypeUrl → c = c'
  disjoint       : ∀ c c', (classes c).privateTypeUrl ≠ (classes c').publicTypeUrl

/-- The registry of some classes, as handles know it. -/
def registryOf (objects : SerializationObjects Parameters (KeyObject classes) (KeyObjectType ι)) (registered : List ι) :
    Tink.SerializationRegistry ι where
  privateKeyParsers := registered
  publicKeyParsers := registered
  publicKeySerializers := registered
  serializationTypeName := objects.serializationTypeName .protoKeySerialization
  publicKeyTypeName c := objects.typeName (.publicKey c)

end

/-! ## What is registered -/

section
variable {ι Parameters : Type} {classes : ι → KeyPairClass} [DecidableEq ι]
  {objects : SerializationObjects Parameters (KeyObject classes) (KeyObjectType ι)}
  {pointers : ι → ProtoSerializationPointers}

/-- An entry of a class. -/
inductive EntryOf (classes : ι → KeyPairClass) (pointers : ι → ProtoSerializationPointers) (c : ι) :
    Index (KeyObjectType ι) → Nat → Prop
  | parametersParser : EntryOf classes pointers c
    (.parametersParser ⟨.protoParametersSerialization, (classes c).privateTypeUrl⟩) (pointers c).parametersParser
  | parametersSerializer : EntryOf classes pointers c
    (.parametersSerializer ⟨.parameters c, .protoParametersSerialization⟩) (pointers c).parametersSerializer
  | publicKeyParser : EntryOf classes pointers c
    (.keyParser ⟨.protoKeySerialization, (classes c).publicTypeUrl⟩) (pointers c).publicKeyParser
  | publicKeySerializer : EntryOf classes pointers c
    (.keySerializer ⟨.publicKey c, .protoKeySerialization⟩) (pointers c).publicKeySerializer
  | privateKeyParser : EntryOf classes pointers c
    (.keyParser ⟨.protoKeySerialization, (classes c).privateTypeUrl⟩) (pointers c).privateKeyParser
  | privateKeySerializer : EntryOf classes pointers c
    (.keySerializer ⟨.privateKey c, .protoKeySerialization⟩) (pointers c).privateKeySerializer

/-- The calls of some classes: all of them, and no other ones. -/
def CallsOf (pointers : ι → ProtoSerializationPointers) (registered : List ι) (calls : List Call) : Prop :=
  ∀ call, call ∈ calls ↔ ∃ c ∈ registered, call ∈ protoSerializationCalls (pointers c)

omit [DecidableEq ι] in
theorem CallsOf.reset_notMem {registered : List ι} {calls : List Call} (h : CallsOf pointers registered calls) :
    .reset ∉ calls := by
  intro hmem
  obtain ⟨c, -, hmem⟩ := (h _).1 hmem
  simp [protoSerializationCalls] at hmem

theorem mem_entries_iff (hobjects : ProtoSerializations classes objects pointers) {registered : List ι} {calls : List Call}
    (h : CallsOf pointers registered calls) {index : Index (KeyObjectType ι)} {pointer : Nat} :
    (index, pointer) ∈ entries objects calls ↔ ∃ c ∈ registered, EntryOf classes pointers c index pointer := by
  unfold entries
  rw [List.mem_filterMap]
  constructor
  · rintro ⟨call, hcall, hentry⟩
    obtain ⟨c, hc, hcall⟩ := (h call).1 hcall
    refine ⟨c, hc, ?_⟩
    simp only [protoSerializationCalls, List.mem_cons, List.not_mem_nil, or_false] at hcall
    rcases hcall with rfl | rfl | rfl | rfl | rfl | rfl <;>
      simp only [Call.entry, Option.some.injEq, Prod.mk.injEq] at hentry <;> obtain ⟨rfl, rfl⟩ := hentry
    · rw [hobjects.parametersParser]
      exact .parametersParser
    · rw [hobjects.parametersSerializer]
      exact .parametersSerializer
    · rw [hobjects.publicKeyParser]
      exact .publicKeyParser
    · rw [hobjects.publicKeySerializer]
      exact .publicKeySerializer
    · rw [hobjects.privateKeyParser]
      exact .privateKeyParser
    · rw [hobjects.privateKeySerializer]
      exact .privateKeySerializer
  · rintro ⟨c, hc, hentry⟩
    have hcalls : ∀ call, call ∈ protoSerializationCalls (pointers c) → call ∈ calls := fun call hcall =>
      (h call).2 ⟨c, hc, hcall⟩
    cases hentry with
    | parametersParser =>
      refine ⟨.registerParametersParser (pointers c).parametersParser, hcalls _ (by simp [protoSerializationCalls]), ?_⟩
      simp [Call.entry, hobjects.parametersParser]
    | parametersSerializer =>
      refine ⟨.registerParametersSerializer (pointers c).parametersSerializer,
        hcalls _ (by simp [protoSerializationCalls]), ?_⟩
      simp [Call.entry, hobjects.parametersSerializer]
    | publicKeyParser =>
      refine ⟨.registerKeyParser (pointers c).publicKeyParser, hcalls _ (by simp [protoSerializationCalls]), ?_⟩
      simp [Call.entry, hobjects.publicKeyParser, keyParserImpl, protoKeyClass]
    | publicKeySerializer =>
      refine ⟨.registerKeySerializer (pointers c).publicKeySerializer, hcalls _ (by simp [protoSerializationCalls]), ?_⟩
      simp [Call.entry, hobjects.publicKeySerializer, keySerializerImpl, protoKeyClass]
    | privateKeyParser =>
      refine ⟨.registerKeyParser (pointers c).privateKeyParser, hcalls _ (by simp [protoSerializationCalls]), ?_⟩
      simp [Call.entry, hobjects.privateKeyParser, keyParserImpl, protoKeyClass]
    | privateKeySerializer =>
      refine ⟨.registerKeySerializer (pointers c).privateKeySerializer, hcalls _ (by simp [protoSerializationCalls]), ?_⟩
      simp [Call.entry, hobjects.privateKeySerializer]

omit [DecidableEq ι] in
/-- An index has entries of one class only, and one pointer. -/
theorem EntryOf.unique (hurls : DistinctTypeUrls classes) {c c' : ι} {index : Index (KeyObjectType ι)}
    {pointer pointer' : Nat} (h : EntryOf classes pointers c index pointer)
    (h' : EntryOf classes pointers c' index pointer') : pointer = pointer' := by
  generalize hindex : index = index' at h'
  cases h with
  | parametersParser =>
    cases h' with
    | parametersParser =>
      rw [hurls.privateTypeUrl (congrArg ParserIndex.objectIdentifier (Index.parametersParser.inj hindex))]
    | _ => cases hindex
  | parametersSerializer =>
    cases h' with
    | parametersSerializer =>
      rw [KeyObjectType.parameters.inj (congrArg SerializerIndex.kpIndex (Index.parametersSerializer.inj hindex))]
    | _ => cases hindex
  | publicKeyParser =>
    cases h' with
    | publicKeyParser =>
      rw [hurls.publicTypeUrl (congrArg ParserIndex.objectIdentifier (Index.keyParser.inj hindex))]
    | privateKeyParser =>
      exact absurd (congrArg ParserIndex.objectIdentifier (Index.keyParser.inj hindex)).symm (hurls.disjoint _ _)
    | _ => cases hindex
  | publicKeySerializer =>
    cases h' with
    | publicKeySerializer =>
      rw [KeyObjectType.publicKey.inj (congrArg SerializerIndex.kpIndex (Index.keySerializer.inj hindex))]
    | _ => cases hindex
  | privateKeyParser =>
    cases h' with
    | publicKeyParser =>
      exact absurd (congrArg ParserIndex.objectIdentifier (Index.keyParser.inj hindex)) (hurls.disjoint _ _)
    | privateKeyParser =>
      rw [hurls.privateTypeUrl (congrArg ParserIndex.objectIdentifier (Index.keyParser.inj hindex))]
    | _ => cases hindex
  | privateKeySerializer =>
    cases h' with
    | privateKeySerializer =>
      rw [KeyObjectType.privateKey.inj (congrArg SerializerIndex.kpIndex (Index.keySerializer.inj hindex))]
    | _ => cases hindex

theorem entries_consistent (hobjects : ProtoSerializations classes objects pointers) (hurls : DistinctTypeUrls classes)
    {registered : List ι} {calls : List Call} (h : CallsOf pointers registered calls) :
    FirstWins.Consistent (entries objects calls) := by
  intro index pointer pointer' hmem hmem'
  obtain ⟨c, -, hentry⟩ := (mem_entries_iff hobjects h).1 hmem
  obtain ⟨c', -, hentry'⟩ := (mem_entries_iff hobjects h).1 hmem'
  exact hentry.unique hurls hentry'

/-- The entries of the registry are those of the classes. -/
theorem run_table_eq_some_iff (hobjects : ProtoSerializations classes objects pointers) (hurls : DistinctTypeUrls classes)
    {registered : List ι} {calls : List Call} (h : CallsOf pointers registered calls) {index : Index (KeyObjectType ι)}
    {pointer : Nat} :
    (run objects {} calls).table index = some pointer ↔ ∃ c ∈ registered, EntryOf classes pointers c index pointer := by
  rw [run_table objects _ h.reset_notMem, SerializationRegistry.table_empty,
    FirstWins.run_none_eq_some_iff (entries_consistent hobjects hurls h), mem_entries_iff hobjects h]

/-! ## Keys -/

theorem castForParser_protoKey (s : ProtoKeySerialization) :
    castForParser protoKeyClass "key" s.typeUrl (.protoKey s) = .ok s :=
  if_neg (not_not_intro rfl)

variable {registered : List ι} {calls : List Call}

/-- Keys are parsed by the first class that their type URL is one of. -/
theorem parseKey_eq (hobjects : ProtoSerializations classes objects pointers) (hurls : DistinctTypeUrls classes)
    (h : CallsOf pointers registered calls) (s : ProtoKeySerialization) :
    (run objects {} calls).parseKey objects (.protoKey s) (some .insecure) =
      (registryOf classes objects registered).parseKey classes s := by
  have hentries : ∀ pointer, (run objects {} calls).table (.keyParser (.create (.protoKey s))) = some pointer ↔ _ :=
    fun pointer => run_table_eq_some_iff hobjects hurls h
  have hfound : ∀ {c pointer}, c ∈ registered → EntryOf classes pointers c (.keyParser (.create (.protoKey s))) pointer →
      (run objects {} calls).keyParsers (.create (.protoKey s)) = some pointer := fun hc hentry =>
    (hentries _).2 ⟨_, hc, hentry⟩
  unfold SerializationRegistry.parseKey Tink.SerializationRegistry.parseKey registryOf
  dsimp only
  cases hprivate : registered.find? fun c => (classes c).privateTypeUrl = s.typeUrl with
  | some c =>
    have hurl : (classes c).privateTypeUrl = s.typeUrl := by simpa using List.find?_some hprivate
    have hentry : EntryOf classes pointers c (.keyParser (.create (.protoKey s))) (pointers c).privateKeyParser := by
      have hentry : EntryOf classes pointers c _ (pointers c).privateKeyParser := .privateKeyParser
      rwa [hurl] at hentry
    rw [hfound (List.mem_of_find?_eq_some hprivate) hentry]
    dsimp only
    rw [hobjects.privateKeyParser, hurl]
    unfold keyParserImpl
    dsimp only
    rw [castForParser_protoKey]
    rfl
  | none =>
    cases hpublic : registered.find? fun c => (classes c).publicTypeUrl = s.typeUrl with
    | some c =>
      have hurl : (classes c).publicTypeUrl = s.typeUrl := by simpa using List.find?_some hpublic
      have hentry : EntryOf classes pointers c (.keyParser (.create (.protoKey s))) (pointers c).publicKeyParser := by
        have hentry : EntryOf classes pointers c _ (pointers c).publicKeyParser := .publicKeyParser
        rwa [hurl] at hentry
      rw [hfound (List.mem_of_find?_eq_some hpublic) hentry]
      dsimp only
      rw [hobjects.publicKeyParser, hurl]
      unfold keyParserImpl
      dsimp only
      rw [castForParser_protoKey]
      rfl
    | none =>
      have hnone : (run objects {} calls).keyParsers (.create (.protoKey s)) = none := by
        cases hparser : (run objects {} calls).keyParsers (.create (.protoKey s)) with
        | none => rfl
        | some pointer =>
          obtain ⟨c, hc, hentry⟩ := (hentries pointer).1 hparser
          generalize hindex : Index.keyParser (ParserIndex.create (.protoKey s)) = index at hentry
          cases hentry with
          | publicKeyParser =>
            have hne : (classes c).publicTypeUrl ≠ s.typeUrl := by simpa using List.find?_eq_none.1 hpublic c hc
            exact absurd (congrArg ParserIndex.objectIdentifier (Index.keyParser.inj hindex)).symm hne
          | privateKeyParser =>
            have hne : (classes c).privateTypeUrl ≠ s.typeUrl := by simpa using List.find?_eq_none.1 hprivate c hc
            exact absurd (congrArg ParserIndex.objectIdentifier (Index.keyParser.inj hindex)).symm hne
          | _ => cases hindex
      rw [hnone]
      rfl

theorem parseKeyWithLegacyFallback_eq (hobjects : ProtoSerializations classes objects pointers)
    (hurls : DistinctTypeUrls classes) (h : CallsOf pointers registered calls) (s : ProtoKeySerialization) :
    (run objects {} calls).parseKeyWithLegacyFallback objects (.protoKey s) .insecure =
      (registryOf classes objects registered).parseKeyWithLegacyFallback classes s := by
  unfold SerializationRegistry.parseKeyWithLegacyFallback Tink.SerializationRegistry.parseKeyWithLegacyFallback
  rw [parseKey_eq hobjects hurls h]
  cases (registryOf classes objects registered).parseKey classes s with
  | ok key => rfl
  | error e =>
    dsimp only [SerializationRegistry.createLegacyProtoKey]
    rw [hobjects.legacyProtoKey]
    simp

/-- A public key is serialized by its class. -/
theorem serializeKey_eq (hobjects : ProtoSerializations classes objects pointers) (hurls : DistinctTypeUrls classes)
    (h : CallsOf pointers registered calls) (key : (c : ι) × (classes c).Public) :
    (run objects {} calls).serializeKey objects .protoKeySerialization (.publicKey key.1 key.2) (some .insecure) =
      ((registryOf classes objects registered).serializeKey key).map .protoKey := by
  obtain ⟨c, key⟩ := key
  have hentries : ∀ pointer,
      (run objects {} calls).table (.keySerializer ⟨.publicKey c, .protoKeySerialization⟩) = some pointer ↔ _ :=
    fun pointer => run_table_eq_some_iff hobjects hurls h
  unfold SerializationRegistry.serializeKey Tink.SerializationRegistry.serializeKey registryOf
  rw [hobjects.typeOfKey]
  dsimp only [KeyObject.type]
  by_cases hc : c ∈ registered
  · have hserializer : (run objects {} calls).keySerializers ⟨.publicKey c, .protoKeySerialization⟩ =
        some (pointers c).publicKeySerializer := (hentries _).2 ⟨c, hc, .publicKeySerializer⟩
    rw [hserializer, if_pos hc]
    dsimp only
    rw [hobjects.publicKeySerializer]
    simp [keySerializerImpl, castPublicKey, protoKeyClass]
  · have hserializer : (run objects {} calls).keySerializers ⟨.publicKey c, .protoKeySerialization⟩ = none := by
      cases hfound : (run objects {} calls).keySerializers ⟨.publicKey c, .protoKeySerialization⟩ with
      | none => rfl
      | some pointer =>
        obtain ⟨c', hc', hentry⟩ := (hentries pointer).1 hfound
        cases hentry
        exact absurd hc' hc
    rw [hserializer, if_neg hc]
    rfl

end

/-- **The registry of some classes of key pairs.**  After their functions were called, in any order and any number of
times, every call has succeeded, and keys are parsed and public keys serialized as handles know it.  A public key that
parsing gives back is given back also after any further registrations. -/
theorem registeredClasses {ι Parameters : Type} [DecidableEq ι] (classes : ι → KeyPairClass)
    (objects : SerializationObjects Parameters (KeyObject classes) (KeyObjectType ι))
    (pointers : ι → ProtoSerializationPointers) (hobjects : ProtoSerializations classes objects pointers)
    (hurls : DistinctTypeUrls classes) (registered : List ι) (calls : List Call) (h : CallsOf pointers registered calls) :
    (∀ answer ∈ answers objects {} calls, answer = .ok ()) ∧
    (∀ s, (run objects {} calls).parseKeyWithLegacyFallback objects (.protoKey s) .insecure =
      (registryOf classes objects registered).parseKeyWithLegacyFallback classes s) ∧
    (∀ key : (c : ι) × (classes c).Public,
      (run objects {} calls).serializeKey objects .protoKeySerialization (.publicKey key.1 key.2) (some .insecure) =
        ((registryOf classes objects registered).serializeKey key).map .protoKey) ∧
    ∀ (key : (c : ι) × (classes c).Public), (registryOf classes objects registered).RoundTrips key →
      ∀ s, (run objects {} calls).serializeKey objects .protoKeySerialization (.publicKey key.1 key.2) (some .insecure) =
        .ok s →
      ∀ later, .reset ∉ later →
        (run objects {} (calls ++ later)).parseKeyWithLegacyFallback objects s .insecure = .ok (.publicKey key.1 key.2) := by
  refine ⟨?_, parseKeyWithLegacyFallback_eq hobjects hurls h, serializeKey_eq hobjects hurls h,
    fun key hround s hs later hlater => ?_⟩
  · rw [answers_ok_iff objects _ h.reset_notMem, SerializationRegistry.table_empty, FirstWins.acceptsAll_iff]
    exact ⟨fun _ _ _ => .inl rfl, entries_consistent hobjects hurls h⟩
  · rw [serializeKey_eq hobjects hurls h] at hs
    obtain ⟨p, hp, rfl⟩ := map_eq_ok hs
    have hparse := hround p hp
    rw [← parseKeyWithLegacyFallback_eq hobjects hurls h] at hparse
    rw [run_append]
    rcases parseKeyWithLegacyFallback_extends (run_extends objects _ hlater) hparse with hlaterParse | ⟨-, -, p', -, hlegacy⟩
    · exact hlaterParse
    · rw [hobjects.legacyProtoKey] at hlegacy
      cases hlegacy

section Example
open EcKeyPair (privateTypeUrl publicTypeUrl)

/-- The pointers of a pair: those of the public key are even. -/
def ecPointers : EcKeyPair → ProtoSerializationPointers
  | .ecdsa => ⟨0, 0, 0, 0, 1, 1⟩
  | .jwtEcdsa => ⟨1, 1, 2, 2, 3, 3⟩
  | .ecies => ⟨2, 2, 4, 4, 5, 5⟩

def pairAt : Nat → EcKeyPair
  | 0 => .ecdsa
  | 1 => .jwtEcdsa
  | _ => .ecies

/-- Parameters are not read. -/
def ecObjects (types : EcKeyTypes) :
    SerializationObjects Unit (KeyObject (EcKeyPair.classes types)) (KeyObjectType EcKeyPair) where
  parametersParser pointer := ⟨⟨.protoParametersSerialization, (pairAt pointer).privateTypeUrl⟩, fun _ => .ok ()⟩
  parametersSerializer pointer := ⟨⟨.parameters (pairAt pointer), .protoParametersSerialization⟩, fun _ =>
    .error ⟨.unimplemented, ""⟩⟩
  keyParser pointer :=
    let c := pairAt (pointer / 2)
    if pointer % 2 = 0 then
      keyParserImpl protoKeyClass (EcKeyPair.classes types c).publicTypeUrl fun s token =>
        ((EcKeyPair.classes types c).parsePublicKey s token).map (.publicKey c)
    else
      keyParserImpl protoKeyClass (EcKeyPair.classes types c).privateTypeUrl fun s token =>
        ((EcKeyPair.classes types c).parsePrivateKey s token).map (.privateKey c)
  keySerializer pointer :=
    let c := pairAt (pointer / 2)
    if pointer % 2 = 0 then
      keySerializerImpl protoKeyClass (.publicKey c) (castPublicKey _ c) (EcKeyPair.classes types c).serializePublicKey
    else ⟨⟨.privateKey c, .protoKeySerialization⟩, fun _ _ => .error ⟨.unimplemented, ""⟩⟩
  typeOfParameters _ := .parameters .ecdsa
  typeOfKey := KeyObject.type _
  serializationTypeName _ := EcKeyPair.registry.serializationTypeName
  typeName
    | .publicKey c => EcKeyPair.registry.publicKeyTypeName c
    | _ => ""
  legacyProtoParameters _ := ()
  legacyProtoKey := .legacyProtoKey

theorem ecObjects_protoSerializations (types : EcKeyTypes) :
    ProtoSerializations (EcKeyPair.classes types) (ecObjects types) ecPointers where
  parametersParser c := by cases c <;> rfl
  parametersSerializer c := by cases c <;> rfl
  publicKeyParser c := by cases c <;> rfl
  publicKeySerializer c := by cases c <;> rfl
  privateKeyParser c := by cases c <;> rfl
  privateKeySerializer c := by cases c <;> rfl
  typeOfKey := rfl
  legacyProtoKey := rfl

theorem ecTypeUrls_distinct (types : EcKeyTypes) : DistinctTypeUrls (EcKeyPair.classes types) where
  privateTypeUrl := by
    intro c c' h
    rw [EcKeyPair.classes_privateTypeUrl, EcKeyPair.classes_privateTypeUrl] at h
    revert h
    cases c <;> cases c' <;> decide
  publicTypeUrl := by
    intro c c' h
    rw [EcKeyPair.classes_publicTypeUrl, EcKeyPair.classes_publicTypeUrl] at h
    revert h
    cases c <;> cases c' <;> decide
  disjoint c c' := by
    rw [EcKeyPair.classes_privateTypeUrl, EcKeyPair.classes_publicTypeUrl]
    exact EcKeyPair.privateTypeUrl_ne c c'

/-- ECIES first, and ECDSA twice. -/
def ecCalls : List Call :=
  [EcKeyPair.ecies, .ecdsa, .jwtEcdsa, .ecdsa].flatMap fun c => protoSerializationCalls (ecPointers c)

theorem ecCalls_registered : CallsOf ecPointers [EcKeyPair.ecdsa, .jwtEcdsa, .ecies] ecCalls := by
  intro call
  simp only [ecCalls, List.mem_flatMap]
  exact exists_congr fun c => and_congr_left fun _ => by cases c <;> decide

/-- The registry of the elliptic-curve keys. -/
theorem registeredClasses_ec : (∀ answer ∈ answers (ecObjects generatorTypes) {} ecCalls, answer = .ok ()) ∧
    ∀ s, (run (ecObjects generatorTypes) {} ecCalls).parseKeyWithLegacyFallback (ecObjects generatorTypes) (.protoKey s)
      .insecure = EcKeyPair.registry.parseKeyWithLegacyFallback (EcKeyPair.classes generatorTypes) s := by
  obtain ⟨hok, hparse, -⟩ := registeredClasses (EcKeyPair.classes generatorTypes) (ecObjects generatorTypes) ecPointers
    (ecObjects_protoSerializations generatorTypes) (ecTypeUrls_distinct generatorTypes) [.ecdsa, .jwtEcdsa, .ecies] ecCalls
    ecCalls_registered
  exact ⟨hok, hparse⟩

end Example

end Internal

end Tink
