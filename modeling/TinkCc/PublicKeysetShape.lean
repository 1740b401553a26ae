import TinkCc.EcKeyPairs
/-!
# PublicKeysetShape — extracting public keys keeps the shape of the keyset

What the loop of `GetPublicKeysetHandle` makes of every key, and so what the handle is that it returns
(`getPublicKeysetHandle_keepsShape`).
-/
namespace Tink

/-! ## Handles -/

section Handles
variable {ι : Type} {classes : ι → KeyPairClass}

/-- Every entry of the handle was read from its key, with what was registered then. -/
def KeysetHandle.IsRead (handle : KeysetHandle (KeyObject classes)) : Prop :=
  ∀ (index : Nat) (key : KeysetKey) (entry : HandleEntry (KeyObject classes)),
    handle.keyset.key[index]? = some key → handle.entries[index]? = some entry →
      ∃ registry : SerializationRegistry ι,
        createEntry (registry.parseKeyWithLegacyFallback classes) key handle.keyset.primaryKeyId = .ok entry

variable {registry : SerializationRegistry ι}

theorem entriesLoop_getElem? {primaryKeyId : UInt32} :
    ∀ {keys : List KeysetKey} {entries : List (HandleEntry (KeyObject classes))},
      entriesLoop (registry.parseKeyWithLegacyFallback classes) primaryKeyId keys = .ok entries →
      ∀ {index : Nat} {key : KeysetKey} {entry : HandleEntry (KeyObject classes)},
        keys[index]? = some key → entries[index]? = some entry →
          createEntry (registry.parseKeyWithLegacyFallback classes) key primaryKeyId = .ok entry
  | [], _, _, _, _, _, hkey, _ => by cases hkey
  | first :: keys, entries, h, index, key, entry, hkey, hentry => by
    unfold entriesLoop at h
    split at h
    · cases h
    · rename_i firstEntry hfirst
      obtain ⟨rest, hrest, rfl⟩ := map_eq_ok h
      cases index with
      | zero =>
        cases hkey
        cases hentry
        exact hfirst
      | succ index => exact entriesLoop_getElem? hrest hkey hentry

/-- A handle of what was read of a keyset. -/
theorem isRead_of_entries {handle : KeysetHandle (KeyObject classes)}
    (h : getEntriesFromKeyset (registry.parseKeyWithLegacyFallback classes) handle.keyset = .ok handle.entries) :
    handle.IsRead :=
  fun _ _ _ hkey hentry => ⟨registry, entriesLoop_getElem? h hkey hentry⟩

/-- A handle of a keyset alone. -/
theorem isRead_of_no_entries {handle : KeysetHandle (KeyObject classes)} (h : handle.entries = []) : handle.IsRead := by
  intro index key entry _ hentry
  rw [h] at hentry
  cases hentry

/-- A handle that `KeysetHandleBuilder` builds. -/
theorem build_isRead {Params : Type} {keyClasses : KeyClasses (KeyObject classes) Params}
    (hparse : keyClasses.parseKey = registry.parseKeyWithLegacyFallback classes)
    {config : KeyGenConfiguration (KeyObject classes) Params} {draws : List UInt32}
    {entries : List (BuilderEntry (KeyObject classes) Params)} {handle : KeysetHandle (KeyObject classes)}
    (h : buildEntries keyClasses config draws entries = some (.ok handle)) : handle.IsRead := by
  have hentries := (buildEntries_cases h).2
  rw [hparse] at hentries
  exact isRead_of_entries hentries

theorem entriesLoop_of_pairs {Key : Type} {parseKey : ProtoKeySerialization → Except Status Key} {primaryKeyId : UInt32} :
    ∀ {pairs : List (KeysetKey × HandleEntry Key)},
      (∀ pair ∈ pairs, createEntry parseKey pair.1 primaryKeyId = .ok pair.2) →
      entriesLoop parseKey primaryKeyId (pairs.map (·.1)) = .ok (pairs.map (·.2))
  | [], _ => rfl
  | pair :: pairs, h => by
    rw [List.map_cons, entriesLoop, h pair (List.mem_cons_self ..)]
    dsimp only
    rw [entriesLoop_of_pairs fun p hp => h p (List.mem_cons_of_mem _ hp)]
    rfl

theorem entryAt_read {handle : KeysetHandle (KeyObject classes)} (hread : handle.IsRead) {index : Nat} {key : KeysetKey}
    {entry : HandleEntry (KeyObject classes)} (hkey : handle.keyset.key[index]? = some key)
    (hentry : handle.entryAt (registry.parseKeyWithLegacyFallback classes) index = some entry) :
    ∃ registry₀ : SerializationRegistry ι,
      createEntry (registry₀.parseKeyWithLegacyFallback classes) key handle.keyset.primaryKeyId = .ok entry := by
  unfold KeysetHandle.entryAt at hentry
  rw [hkey] at hentry
  dsimp only at hentry
  split at hentry
  · rename_i stored hstored
    cases hentry
    exact hread _ _ _ hkey hstored
  · split at hentry
    · rename_i created _ hcreate
      cases hentry
      exact ⟨registry, hcreate⟩
    · cases hentry

variable [DecidableEq ι] {config : PublicKeyConfiguration}

/-- **What one step of the loop keeps.** -/
theorem publicKeyAndEntry_sameShape {registry₀ : SerializationRegistry ι} {key publicKey : KeysetKey}
    {entry publicEntry : HandleEntry (KeyObject classes)} {primaryKeyId : UInt32}
    (hentry : createEntry (registry₀.parseKeyWithLegacyFallback classes) key primaryKeyId = .ok entry)
    (hconfig : config.ReturnsPublicKeys) (hround : ∀ {k}, entry.key.getPublicKey = some k → registry.RoundTrips k)
    (h : publicKeyAndEntry registry config primaryKeyId key entry = .ok (publicKey, publicEntry)) :
    SameShape (registry.parseKeyWithLegacyFallback classes) primaryKeyId key entry publicKey publicEntry := by
  unfold publicKeyAndEntry at h
  cases hk : entry.key.getPublicKey with
  | some k =>
    obtain ⟨c, privateKey, hprivate, rfl⟩ : ∃ c privateKey, entry.key = .privateKey c privateKey ∧
        k = ⟨c, (classes c).getPublicKey privateKey⟩ := by
      unfold KeyObject.getPublicKey at hk
      split at hk
      · rename_i c privateKey hprivate
        exact ⟨c, privateKey, hprivate, (Option.some.inj hk).symm⟩
      · cases hk
    rw [hk] at h
    dsimp only at h
    split at h
    · cases h
    · rename_i keyStatus hstatus
      split at h
      · cases h
      · rename_i publicKeysetKey hkey
        cases h
        exact sameShape_privateKey hprivate hentry (hround hk) hstatus hkey
  | none =>
    rw [hk] at h
    dsimp only at h
    split at h
    · cases h
    · rename_i extracted hextract
      split at h
      · cases h
      · rename_i extractedEntry hpublic
        cases h
        exact sameShape_extracted hentry hconfig hextract hpublic

/-- **What the loop makes** of the keys from an index on. -/
theorem publicKeysLoop_ok {handle : KeysetHandle (KeyObject classes)} :
    ∀ {remaining index : Nat} {pairs : List (KeysetKey × HandleEntry (KeyObject classes))},
      publicKeysLoop registry config handle remaining index = some (.ok pairs) → pairs.length = remaining ∧
        ∀ {i : Nat} {pair : KeysetKey × HandleEntry (KeyObject classes)}, pairs[i]? = some pair →
          ∃ key entry, handle.keyset.key[index + i]? = some key ∧
            handle.entryAt (registry.parseKeyWithLegacyFallback classes) (index + i) = some entry ∧
            publicKeyAndEntry registry config handle.keyset.primaryKeyId key entry = .ok pair
  | 0, index, pairs, h => by
    cases h
    exact ⟨rfl, fun hpair => by cases hpair⟩
  | remaining + 1, index, pairs, h => by
    unfold publicKeysLoop at h
    obtain ⟨key, hkey, h⟩ := Option.bind_eq_some_iff.1 h
    obtain ⟨entry, hentry, h⟩ := Option.bind_eq_some_iff.1 h
    split at h
    · cases h
    · rename_i pair hpair
      obtain ⟨result, hresult, hmap⟩ := Option.map_eq_some_iff.1 h
      obtain ⟨rest, rfl, rfl⟩ := map_eq_ok hmap
      obtain ⟨hlen, hrest⟩ := publicKeysLoop_ok hresult
      refine ⟨by rw [List.length_cons, hlen], fun {i p} hp => ?_⟩
      cases i with
      | zero =>
        cases hp
        exact ⟨key, entry, hkey, hentry, hpair⟩
      | succ i =>
        obtain ⟨k, e, hk, he, hstep⟩ := hrest hp
        rw [Nat.add_assoc, Nat.add_comm 1] at hk he
        exact ⟨k, e, hk, he, hstep⟩

theorem publicKeysLoop_cons {handle : KeysetHandle (KeyObject classes)} {remaining index : Nat} {key : KeysetKey}
    {entry : HandleEntry (KeyObject classes)} {pair : KeysetKey × HandleEntry (KeyObject classes)}
    {rest : List (KeysetKey × HandleEntry (KeyObject classes))} (hkey : handle.keyset.key[index]? = some key)
    (hentry : handle.entryAt (registry.parseKeyWithLegacyFallback classes) index = some entry)
    (hpair : publicKeyAndEntry registry config handle.keyset.primaryKeyId key entry = .ok pair)
    (hrest : publicKeysLoop registry config handle remaining (index + 1) = some (.ok rest)) :
    publicKeysLoop registry config handle (remaining + 1) index = some (.ok (pair :: rest)) := by
  rw [publicKeysLoop, hkey, Option.bind_eq_bind, Option.bind_some, hentry, Option.bind_eq_bind, Option.bind_some, hpair]
  dsimp only
  rw [hrest]
  rfl

end Handles

/-! ## The shape of the handle -/

section Main
variable {ι : Type} {classes : ι → KeyPairClass} {registry : SerializationRegistry ι} {config : PublicKeyConfiguration}

/-- A handle of public keys has the shape of the handle of private keys that it was made of. -/
structure KeepsShape (parseKey : ProtoKeySerialization → Except Status (KeyObject classes))
    (handle result : KeysetHandle (KeyObject classes)) : Prop where
  primaryKeyId   : result.keyset.primaryKeyId = handle.keyset.primaryKeyId
  length         : result.keyset.key.length = handle.keyset.key.length
  entries_length : result.entries.length = handle.keyset.key.length
  sameShape      : ∀ index < handle.keyset.key.length, ∃ key entry publicKey publicEntry,
    handle.keyset.key[index]? = some key ∧ handle.entryAt parseKey index = some entry ∧
      result.keyset.key[index]? = some publicKey ∧ result.entryAt parseKey index = some publicEntry ∧
      SameShape parseKey handle.keyset.primaryKeyId key entry publicKey publicEntry
  parsed         : getEntriesFromKeyset parseKey result.keyset = .ok result.entries
  noSecret       : validateNoSecret result.keyset = .ok ()

/-- The handle of public keys is itself one of what was read. -/
theorem KeepsShape.isRead {handle result : KeysetHandle (KeyObject classes)}
    (h : KeepsShape (registry.parseKeyWithLegacyFallback classes) handle result) : result.IsRead :=
  isRead_of_entries h.parsed

variable [DecidableEq ι]

/-- **What the loop makes of the key at an index.** -/
theorem publicKeysLoop_sameShape {handle : KeysetHandle (KeyObject classes)} (hread : handle.IsRead)
    (hround : ∀ {index : Nat} {entry : HandleEntry (KeyObject classes)} {key : (c : ι) × (classes c).Public},
      handle.entryAt (registry.parseKeyWithLegacyFallback classes) index = some entry →
        entry.key.getPublicKey = some key → registry.RoundTrips key)
    (hconfig : config.ReturnsPublicKeys) {remaining index : Nat}
    {pairs : List (KeysetKey × HandleEntry (KeyObject classes))}
    (hloop : publicKeysLoop registry config handle remaining 0 = some (.ok pairs))
    {pair : KeysetKey × HandleEntry (KeyObject classes)} (hpair : pairs[index]? = some pair) :
    ∃ key entry, handle.keyset.key[index]? = some key ∧
      handle.entryAt (registry.parseKeyWithLegacyFallback classes) index = some entry ∧
      SameShape (registry.parseKeyWithLegacyFallback classes) handle.keyset.primaryKeyId key entry pair.1 pair.2 := by
  obtain ⟨key, entry, hkey, hentry, hstep⟩ := (publicKeysLoop_ok hloop).2 hpair
  rw [Nat.zero_add] at hkey hentry
  obtain ⟨registry₀, hcreate⟩ := entryAt_read hread hkey hentry
  exact ⟨key, entry, hkey, hentry, publicKeyAndEntry_sameShape hcreate hconfig (hround hentry) hstep⟩

/-- **Extracting the public keys keeps the shape of the key set**: in order, the ids, the statuses, the primary key, the
prefixes and the suffixes; the entries are what the keys are parsed to, and none of the keys is secret. -/
theorem getPublicKeysetHandle_keepsShape {handle result : KeysetHandle (KeyObject classes)} (hread : handle.IsRead)
    (hround : ∀ {index : Nat} {entry : HandleEntry (KeyObject classes)} {key : (c : ι) × (classes c).Public},
      handle.entryAt (registry.parseKeyWithLegacyFallback classes) index = some entry →
        entry.key.getPublicKey = some key → registry.RoundTrips key)
    (hconfig : config.ReturnsPublicKeys) (h : handle.getPublicKeysetHandle registry config = some (.ok result)) :
    KeepsShape (registry.parseKeyWithLegacyFallback classes) handle result := by
  obtain ⟨looped, hloop, h⟩ := Option.map_eq_some_iff.1 h
  cases looped with
  | error e => cases h
  | ok pairs =>
    dsimp only at h
    split at h
    · cases h
    · cases h
      have hlen := (publicKeysLoop_ok hloop).1
      have hmem : ∀ pair ∈ pairs, ∃ key entry,
          SameShape (registry.parseKeyWithLegacyFallback classes) handle.keyset.primaryKeyId key entry pair.1 pair.2 := by
        intro pair hpair
        obtain ⟨index, hindex⟩ := List.mem_iff_getElem?.1 hpair
        obtain ⟨key, entry, -, -, hshape⟩ := publicKeysLoop_sameShape hread hround hconfig hloop hindex
        exact ⟨key, entry, hshape⟩
      refine ⟨rfl, (List.length_map ..).trans hlen, (List.length_map ..).trans hlen, fun index hindex => ?_, ?_, ?_⟩
      · obtain ⟨pair, hpair⟩ : ∃ pair, pairs[index]? = some pair := ⟨_, List.getElem?_eq_getElem (hlen ▸ hindex)⟩
        obtain ⟨key, entry, hkey, hentry, hshape⟩ := publicKeysLoop_sameShape hread hround hconfig hloop hpair
        have hpublicKey : (pairs.map (·.1))[index]? = some pair.1 := by rw [List.getElem?_map, hpair, Option.map_some]
        have hpublicEntry : (pairs.map (·.2))[index]? = some pair.2 := by rw [List.getElem?_map, hpair, Option.map_some]
        exact ⟨key, entry, pair.1, pair.2, hkey, hentry, hpublicKey, entryAt_stored _ hpublicKey hpublicEntry, hshape⟩
      · exact entriesLoop_of_pairs fun pair hpair => by
          obtain ⟨key, entry, hshape⟩ := hmem pair hpair
          exact hshape.parsed
      · refine validateNoSecret_of_public fun key hkey => ?_
        obtain ⟨pair, hpair, rfl⟩ := List.mem_map.1 hkey
        obtain ⟨key, entry, hshape⟩ := hmem pair hpair
        exact hshape.material

end Main

/-! ## A key of the generator and a key of another type -/

section Generator
open EcKeyPair

/-- `generatorKey`, of the LEGACY prefix type, with the greatest id. -/
def legacyGeneratorKey : EcdsaPrivateKey :=
  ⟨⟨⟨.nistP256, .sha256, .der, .legacy⟩, (generatorX, generatorY), some 0xFFFFFFFF⟩, BigEndian.encode 32 1⟩

theorem legacyGeneratorKey_created : (AnyEcKey.ecdsaPrivate legacyGeneratorKey).Created generatorTypes where
  publicKey :=
    { build := rfl
      create := by
        unfold EcdsaPublicKey.create generatorTypes generatorLibrary legacyGeneratorKey
        dsimp only
        rw [generator_isPoint]
        rfl }
  create := by
    unfold EcdsaPrivateKey.create generatorTypes generatorLibrary legacyGeneratorKey
    dsimp only
    rw [generator_isPoint, BigEndian.value_encode (by decide), if_neg (by decide)]
    rfl

/-- Of a type that only managers know. -/
def otherSerialization : ProtoKeySerialization :=
  ⟨"type.googleapis.com/example.SignKey", [1, 2, 3], .asymmetricPrivate, .tink, some 7, by decide, by decide⟩

/-- The manager of that type. -/
def otherConfiguration : PublicKeyConfiguration where
  globalRegistryMode := false
  globalStore := {}
  store := ⟨[("type.googleapis.com/example.SignKey", ⟨0, 0, ⟨"SignManager"⟩, none, true⟩)]⟩
  privateKeyFactory _ := some fun bytes => .ok ⟨"type.googleapis.com/example.VerifyKey", bytes.drop 1, .asymmetricPublic⟩

/-- The two keys, of which the first is serialized as `stored`. -/
def generatorHandle (stored : ProtoKeySerialization) : KeysetHandle (KeyObject (classes generatorTypes)) where
  keyset := ⟨7, [toKeysetKey 0xFFFFFFFF .disabled stored, toKeysetKey 7 .enabled otherSerialization]⟩
  entries := [⟨.privateKey .ecdsa legacyGeneratorKey, .disabled, 0xFFFFFFFF, false⟩,
    ⟨.legacyProtoKey otherSerialization, .enabled, 7, true⟩]

/-- The public key that the manager returns for it. -/
def otherPublicSerialization : ProtoKeySerialization :=
  ⟨"type.googleapis.com/example.VerifyKey", [2, 3], .asymmetricPublic, .tink, some 7, by decide, by decide⟩

/-- The handle of the public keys, of which the first is serialized as `stored`. -/
def generatorPublicHandle (stored : ProtoKeySerialization) : KeysetHandle (KeyObject (classes generatorTypes)) where
  keyset := ⟨7, [toKeysetKey 0xFFFFFFFF .disabled stored, toKeysetKey 7 .enabled otherPublicSerialization]⟩
  entries := [⟨.publicKey .ecdsa legacyGeneratorKey.publicKey, .disabled, 0xFFFFFFFF, false⟩,
    ⟨.legacyProtoKey otherPublicSerialization, .enabled, 7, true⟩]

theorem generatorHandle_read {stored : ProtoKeySerialization} {token : Option SecretKeyAccessToken}
    (hserialize : EcdsaProtoSerialization.serializePrivateKey generatorTypes.ecdsaPrivate legacyGeneratorKey token =
      .ok stored)
    (hparse : EcdsaProtoSerialization.parsePrivateKey generatorTypes.lib.toEcKeyLibrary generatorTypes.ecdsaPrivate stored
      (some .insecure) = .ok legacyGeneratorKey) :
    getEntriesFromKeyset (registry.parseKeyWithLegacyFallback (classes generatorTypes)) (generatorHandle stored).keyset =
      .ok (generatorHandle stored).entries := by
  obtain ⟨_, -, hserialize⟩ := bind_eq_ok hserialize
  obtain ⟨_, -, hserialize⟩ := bind_eq_ok hserialize
  obtain ⟨hurl, -, -, -, hid⟩ := ProtoKeySerialization.create_ok hserialize
  have hfirst : registry.parseKeyWithLegacyFallback (classes generatorTypes) stored =
      .ok (.privateKey .ecdsa legacyGeneratorKey) := by
    unfold SerializationRegistry.parseKeyWithLegacyFallback
    rw [parseKey_private (c := .ecdsa) hurl]
    dsimp only [classes, ecdsaKeys]
    rw [hparse]
    rfl
  have hentry : createEntry (registry.parseKeyWithLegacyFallback (classes generatorTypes))
      (toKeysetKey 0xFFFFFFFF .disabled stored) 7 =
        .ok ⟨.privateKey .ecdsa legacyGeneratorKey, .disabled, 0xFFFFFFFF, false⟩ :=
    createEntry_toKeysetKey (.inr hid) hfirst rfl
  have hother : createEntry (registry.parseKeyWithLegacyFallback (classes generatorTypes))
      (toKeysetKey 7 .enabled otherSerialization) 7 = .ok ⟨.legacyProtoKey otherSerialization, .enabled, 7, true⟩ :=
    createEntry_toKeysetKey (.inr rfl) (parseKeyWithLegacyFallback_other fun c => by cases c <;> decide) rfl
  show entriesLoop _ 7 [_, _] = _
  rw [entriesLoop, hentry]
  dsimp only
  rw [entriesLoop, hother]
  rfl

/-- Its public key survives the proto format. -/
theorem legacyGeneratorKey_survives :
    (toAnyEcKey generatorTypes (c := .ecdsa) legacyGeneratorKey.publicKey).RoundTrips generatorTypes :=
  (EcdsaPublicKey.Created.survives legacyGeneratorKey_created.publicKey generatorTypes.ecdsaPublic).1

theorem generatorHandle_publicKeys (stored : ProtoKeySerialization) :
    ∃ s, (generatorHandle stored).getPublicKeysetHandle registry otherConfiguration =
      some (.ok (generatorPublicHandle s)) := by
  obtain ⟨s, hserialize, -⟩ := serialize_parse legacyGeneratorKey_survives
  have hid : s.idRequirement = some 0xFFFFFFFF := ((classes generatorTypes .ecdsa).serialize_ok hserialize).2.2
  have hkey : registry.createKeysetKey ⟨.ecdsa, (classes generatorTypes .ecdsa).getPublicKey legacyGeneratorKey⟩
      (asInt 0xFFFFFFFF) .disabled = .ok (toKeysetKey 0xFFFFFFFF .disabled s) :=
    createKeysetKey_of_serialized ((serializeKey_eq _ _).trans hserialize) (.inr hid) .disabled
  have hextract : extractPublicKey otherConfiguration (toKeysetKey 7 .enabled otherSerialization) =
      .ok (toKeysetKey 7 .enabled otherPublicSerialization) := rfl
  have hcreate : createEntry (registry.parseKeyWithLegacyFallback (classes generatorTypes))
      (toKeysetKey 7 .enabled otherPublicSerialization) 7 =
        .ok ⟨.legacyProtoKey otherPublicSerialization, .enabled, 7, true⟩ :=
    createEntry_toKeysetKey (.inr rfl) (parseKeyWithLegacyFallback_other fun c => by cases c <;> decide) rfl
  refine ⟨s, ?_⟩
  have hfirst : publicKeyAndEntry registry otherConfiguration 7 (toKeysetKey 0xFFFFFFFF .disabled stored)
      ⟨KeyObject.privateKey .ecdsa legacyGeneratorKey, .disabled, 0xFFFFFFFF, false⟩ =
        .ok (toKeysetKey 0xFFFFFFFF .disabled s, ⟨(.publicKey .ecdsa legacyGeneratorKey.publicKey :
          KeyObject (classes generatorTypes)), .disabled, 0xFFFFFFFF, false⟩) := by
    unfold publicKeyAndEntry
    dsimp only [KeyObject.getPublicKey, toKeyStatusType]
    rw [hkey]
    rfl
  have hsecond : publicKeyAndEntry registry otherConfiguration 7 (toKeysetKey 7 .enabled otherSerialization)
      (⟨.legacyProtoKey otherSerialization, .enabled, 7, true⟩ : HandleEntry (KeyObject (classes generatorTypes))) =
        .ok (toKeysetKey 7 .enabled otherPublicSerialization,
          ⟨.legacyProtoKey otherPublicSerialization, .enabled, 7, true⟩) := by
    unfold publicKeyAndEntry
    dsimp only [KeyObject.getPublicKey]
    rw [hextract]
    dsimp only
    rw [hcreate]
  have hloop : publicKeysLoop registry otherConfiguration (generatorHandle stored) 2 0 =
      some (.ok ((generatorPublicHandle s).keyset.key.zip (generatorPublicHandle s).entries)) :=
    publicKeysLoop_cons rfl rfl hfirst (publicKeysLoop_cons rfl rfl hsecond rfl)
  unfold KeysetHandle.getPublicKeysetHandle
  show (publicKeysLoop registry otherConfiguration (generatorHandle stored) 2 0).map _ = _
  rw [hloop]
  rfl

theorem generatorHandle_roundTrips {stored : ProtoKeySerialization} {index : Nat}
    {entry : HandleEntry (KeyObject (classes generatorTypes))} {key : (c : EcKeyPair) × (classes generatorTypes c).Public}
    (hentry : (generatorHandle stored).entryAt (registry.parseKeyWithLegacyFallback (classes generatorTypes)) index =
      some entry)
    (hkey : entry.key.getPublicKey = some key) : registry.RoundTrips key := by
  rcases index with _ | _ | index
  · cases hentry
    cases hkey
    exact registry_roundTrips legacyGeneratorKey_survives
  · cases hentry
    cases hkey
  · cases hentry

/-- A disabled LEGACY key with an object and the primary key, which goes through its manager. -/
theorem getPublicKeysetHandle_generator : ∃ stored s,
    (generatorHandle stored).getPublicKeysetHandle registry otherConfiguration = some (.ok (generatorPublicHandle s)) ∧
      KeepsShape (registry.parseKeyWithLegacyFallback (classes generatorTypes)) (generatorHandle stored)
        (generatorPublicHandle s) := by
  have hround := legacyGeneratorKey_created.roundTrips_iff.2 not_false
  obtain ⟨stored, _, hserialize, -, -, hparse⟩ := hround .insecure
  obtain ⟨s, hresult⟩ := generatorHandle_publicKeys stored
  refine ⟨stored, s, hresult, getPublicKeysetHandle_keepsShape (isRead_of_entries (generatorHandle_read hserialize hparse))
    generatorHandle_roundTrips (fun hfactory hdata => ?_) hresult⟩
  cases hfactory
  cases hdata
  rfl

end Generator

end Tink
