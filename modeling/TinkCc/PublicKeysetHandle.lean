import TinkCc.KeyPairClasses
import TinkCc.KeysetHandleCopy
import TinkCc.KeyTypeInfoStore
/-!
# PublicKeysetHandle — the public keys of a handle of private keys

`GetPublicKeysetHandle` and `ExtractPublicKey` of `keyset_handle.cc`, over the key objects that the serialization registry
makes.  A key goes one of two ways: the public key of a private key object is serialized anew, and the key data of every
other key goes through its manager.  Both keep the shape of a key (`sameShape_privateKey`, `sameShape_extracted`).
-/
namespace Tink

/-! ## Key objects -/

section Objects
variable {ι : Type} (classes : ι → KeyPairClass)

/-- A `Key`, as far as handles of private and of public keys hold one. -/
inductive KeyObject
  | privateKey (c : ι) (key : (classes c).Private)
  | publicKey (c : ι) (key : (classes c).Public)
  | legacyProtoKey (serialization : ProtoKeySerialization)

namespace KeyObject
variable {classes}

/-- `GetPublicKey`, if the key is a `PrivateKey`. -/
def getPublicKey : KeyObject classes → Option ((c : ι) × (classes c).Public)
  | .privateKey c key => some ⟨c, (classes c).getPublicKey key⟩
  | _ => none

/-- `GetOutputPrefix`, which a private key asks its public key for; a key without a class has the prefix of its type. -/
def getOutputPrefix : KeyObject classes → Option Bytes
  | .privateKey c key => (classes c).getOutputPrefix ((classes c).getPublicKey key)
  | .publicKey c key => (classes c).getOutputPrefix key
  | .legacyProtoKey s => prefixOf s.outputPrefixType s.idRequirement

/-- Whether the key may be one for signatures. -/
def IsSignatureKey : KeyObject classes → Prop
  | .privateKey c _ => (classes c).kind = .signature
  | .publicKey c _ => (classes c).kind = .signature
  | .legacyProtoKey _ => True

/-- Whether data gets the suffix of a LEGACY key. -/
def hasLegacySuffix : KeyObject classes → Bool
  | .privateKey c key => (classes c).outputPrefixType ((classes c).getPublicKey key) = .legacy
  | .publicKey c key => (classes c).outputPrefixType key = .legacy
  | .legacyProtoKey s => s.outputPrefixType = .legacy

end KeyObject

/-! ## The serialization registry -/

/-- The classes of which the private keys are parsed, the public keys are parsed, and the public keys are serialized; and
what `typeid` calls a `ProtoKeySerialization` and the public keys. -/
structure SerializationRegistry (ι : Type) where
  privateKeyParsers     : List ι
  publicKeyParsers      : List ι
  publicKeySerializers  : List ι
  serializationTypeName : String
  publicKeyTypeName     : ι → String

namespace SerializationRegistry
variable {classes} [DecidableEq ι] (registry : SerializationRegistry ι)

variable (classes) in
/-- `ParseKey`. -/
def parseKey (s : ProtoKeySerialization) : Except Status (KeyObject classes) :=
  match registry.privateKeyParsers.find? fun c => (classes c).privateTypeUrl = s.typeUrl with
  | some c => ((classes c).parsePrivateKey s (some .insecure)).map (.privateKey c)
  | none =>
    match registry.publicKeyParsers.find? fun c => (classes c).publicTypeUrl = s.typeUrl with
    | some c => ((classes c).parsePublicKey s (some .insecure)).map (.publicKey c)
    | none =>
      let name := registry.serializationTypeName
      .error ⟨.notFound, s!"No key parser found for serialization type {name}"⟩

variable (classes) in
/-- `ParseKeyWithLegacyFallback`. -/
def parseKeyWithLegacyFallback (s : ProtoKeySerialization) : Except Status (KeyObject classes) :=
  match registry.parseKey classes s with
  | .ok key => .ok key
  | .error e => if e.code = .notFound then .ok (.legacyProtoKey s) else .error e

/-- `SerializeKey`, of a public key. -/
def serializeKey (key : (c : ι) × (classes c).Public) : Except Status ProtoKeySerialization :=
  if key.1 ∈ registry.publicKeySerializers then (classes key.1).serializePublicKey key.2 (some .insecure)
  else
    let name := registry.publicKeyTypeName key.1
    .error ⟨.notFound, s!"No key serializer found for key type {name}"⟩

/-- `GetProtoKeySerialization`, of a public key, which is no `LegacyProtoKey`. -/
def getProtoKeySerialization (key : (c : ι) × (classes c).Public) : Except Status ProtoKeySerialization :=
  match registry.serializeKey key with
  | .ok s => .ok s
  | .error e => .error (if e.code = .notFound then ⟨.invalidArgument, "Failed to serialize legacy proto key."⟩ else e)

/-- `CreateKeysetKey`; ids of entries are ints. -/
def createKeysetKey (key : (c : ι) × (classes c).Public) (id : Int) (status : KeyStatusType) : Except Status KeysetKey :=
  match registry.getProtoKeySerialization key with
  | .error e => .error e
  | .ok serialization =>
    match serialization.idRequirement with
    | some idRequirement =>
      if asInt idRequirement ≠ id then .error ⟨.invalidArgument, "Wrong ID set for key with ID requirement."⟩
      else .ok (toKeysetKey (asUInt32 id) status serialization)
    | none => .ok (toKeysetKey (asUInt32 id) status serialization)

end SerializationRegistry

/-! ## Extraction -/

/-- What `ExtractPublicKey` asks of a `KeyGenConfiguration` and of the global registry: a store of managers each, and the
`PrivateKeyFactory` of a manager that has one. -/
structure PublicKeyConfiguration where
  globalRegistryMode : Bool
  globalStore        : KeyTypeInfoStore
  store              : KeyTypeInfoStore
  privateKeyFactory  : KeyTypeInfoStore.Info → Option (Bytes → Except Status KeyData)

/-- **Key managers return public key data.** -/
def PublicKeyConfiguration.ReturnsPublicKeys (config : PublicKeyConfiguration) : Prop :=
  ∀ {info factory bytes keyData}, config.privateKeyFactory info = some factory → factory bytes = .ok keyData →
    keyData.keyMaterialType = .asymmetricPublic

/-- `GetPublicKeyData`, with the managers of a store. -/
def PublicKeyConfiguration.getPublicKeyData (config : PublicKeyConfiguration) (store : KeyTypeInfoStore) (typeUrl : String)
    (serializedPrivateKey : Bytes) : Except Status KeyData :=
  match store.get typeUrl with
  | .error e => .error e
  | .ok info =>
    match config.privateKeyFactory info with
    | none => .error ⟨.invalidArgument, s!"KeyManager for type '{typeUrl}' does not have a PrivateKeyFactory."⟩
    | some factory => factory serializedPrivateKey

/-- `ExtractPublicKey`. -/
def extractPublicKey (config : PublicKeyConfiguration) (key : KeysetKey) : Except Status KeysetKey :=
  if key.getKeyData.keyMaterialType ≠ .asymmetricPrivate then
    .error ⟨.invalidArgument, "Key material is not of type KeyData::ASYMMETRIC_PRIVATE"⟩
  else
    let store := if config.globalRegistryMode then config.globalStore else config.store
    match config.getPublicKeyData store key.getKeyData.typeUrl key.getKeyData.value with
    | .error e => .error e
    | .ok keyData => .ok ⟨some keyData, key.status, key.keyId, key.outputPrefixType⟩

section
variable {classes} [DecidableEq ι] (registry : SerializationRegistry ι) (config : PublicKeyConfiguration)

/-- The body of the loop of `GetPublicKeysetHandle`: the public key and its entry. -/
def publicKeyAndEntry (primaryKeyId : UInt32) (key : KeysetKey) (entry : HandleEntry (KeyObject classes)) :
    Except Status (KeysetKey × HandleEntry (KeyObject classes)) :=
  match entry.key.getPublicKey with
  | some publicKey =>
    match toKeyStatusType entry.status with
    | .error e => .error e
    | .ok keyStatus =>
      match registry.createKeysetKey publicKey (asInt entry.id) keyStatus with
      | .error e => .error e
      | .ok publicKeysetKey =>
        .ok (publicKeysetKey, ⟨.publicKey publicKey.1 publicKey.2, entry.status, entry.id, entry.isPrimary⟩)
  | none =>
    -- falls back to legacy behavior
    match extractPublicKey config key with
    | .error e => .error e
    | .ok publicKey =>
      match createEntry (registry.parseKeyWithLegacyFallback classes) publicKey primaryKeyId with
      | .error e => .error e
      | .ok publicEntry => .ok (publicKey, publicEntry)

/-- The loop of `GetPublicKeysetHandle`, from an index on. -/
def publicKeysLoop (handle : KeysetHandle (KeyObject classes)) :
    (remaining index : Nat) → Option (Except Status (List (KeysetKey × HandleEntry (KeyObject classes))))
  | 0, _ => some (.ok [])
  | remaining + 1, index => do
    let key ← handle.keyset.key[index]?
    let entry ← handle.entryAt (registry.parseKeyWithLegacyFallback classes) index
    match publicKeyAndEntry registry config handle.keyset.primaryKeyId key entry with
    | .error e => some (.error e)
    | .ok pair => (publicKeysLoop handle remaining (index + 1)).map (·.map (pair :: ·))

/-- `GetPublicKeysetHandle`. -/
def KeysetHandle.getPublicKeysetHandle (handle : KeysetHandle (KeyObject classes)) :
    Option (Except Status (KeysetHandle (KeyObject classes))) :=
  (publicKeysLoop registry config handle handle.keyset.key.length 0).map fun
    | .error e => .error e
    | .ok pairs =>
      if (pairs.map (·.2)).length ≠ (pairs.map (·.1)).length then
        .error ⟨.internal, "Error converting keyset proto into key entries."⟩
      else .ok ⟨⟨handle.keyset.primaryKeyId, pairs.map (·.1)⟩, pairs.map (·.2)⟩

end

end Objects


/-! ## What is read of a serialization -/

section Reads
variable {ι : Type} {classes : ι → KeyPairClass}

/-- A key says of prefixes what the serialization says that it was read of. -/
def KeyObject.ReadOf (s : ProtoKeySerialization) : KeyObject classes → Prop
  | .privateKey c key => (classes c).kind.Keeps s.outputPrefixType s.idRequirement
    ((classes c).outputPrefixType ((classes c).getPublicKey key))
    ((classes c).getIdRequirement ((classes c).getPublicKey key))
    ((classes c).getOutputPrefix ((classes c).getPublicKey key))
  | .publicKey c key => (classes c).kind.Keeps s.outputPrefixType s.idRequirement ((classes c).outputPrefixType key)
    ((classes c).getIdRequirement key) ((classes c).getOutputPrefix key)
  | .legacyProtoKey s' => s' = s

variable (registry : SerializationRegistry ι)

theorem parseKey_readOf {s : ProtoKeySerialization} {key : KeyObject classes} (h : registry.parseKey classes s = .ok key) :
    key.ReadOf s := by
  unfold SerializationRegistry.parseKey at h
  split at h
  · obtain ⟨privateKey, hparse, rfl⟩ := map_eq_ok h
    exact (classes _).parsePrivateKey_ok hparse
  · split at h
    · obtain ⟨publicKey, hparse, rfl⟩ := map_eq_ok h
      exact (classes _).parsePublicKey_ok hparse
    · cases h

theorem parseKeyWithLegacyFallback_readOf {s : ProtoKeySerialization} {key : KeyObject classes}
    (h : registry.parseKeyWithLegacyFallback classes s = .ok key) : key.ReadOf s := by
  unfold SerializationRegistry.parseKeyWithLegacyFallback at h
  split at h
  · rename_i key' hparse
    cases h
    exact parseKey_readOf registry hparse
  · split at h
    · cases h
      rfl
    · cases h

end Reads


/-! ## The shape of one key -/

section Shape
variable {ι : Type} {classes : ι → KeyPairClass}

/-- Whether the key is of a class whose tokens have a key id instead of a prefix. -/
def KeyObject.IsJwtKey : KeyObject classes → Prop
  | .privateKey c _ => (classes c).kind = .jwtSignature
  | .publicKey c _ => (classes c).kind = .jwtSignature
  | .legacyProtoKey _ => False

instance : ∀ key : KeyObject classes, Decidable key.IsJwtKey
  | .privateKey c _ => inferInstanceAs (Decidable ((classes c).kind = .jwtSignature))
  | .publicKey c _ => inferInstanceAs (Decidable ((classes c).kind = .jwtSignature))
  | .legacyProtoKey _ => inferInstanceAs (Decidable False)

theorem KeyObject.ReadOf.getOutputPrefix_eq {s : ProtoKeySerialization} :
    ∀ {key : KeyObject classes}, key.ReadOf s →
      key.getOutputPrefix = if key.IsJwtKey then none else prefixOf s.outputPrefixType s.idRequirement
  | .privateKey _ _, h => h.outputPrefix
  | .publicKey _ _, h => h.outputPrefix
  | .legacyProtoKey _, h => by
    cases h
    rfl

theorem KeyKind.Keeps.legacy_iff {kind : KeyKind} {stored prefixType : OutputPrefixType}
    {storedId idRequirement : Option UInt32} {outputPrefix : Option Bytes}
    (h : kind.Keeps stored storedId prefixType idRequirement outputPrefix) (hkind : kind = .signature) :
    prefixType = .legacy ↔ stored = .legacy := by
  rcases h.prefixType with rfl | ⟨hhybrid, -⟩
  · rfl
  · rw [hkind] at hhybrid
    cases hhybrid

theorem KeyObject.ReadOf.hasLegacySuffix_eq {s : ProtoKeySerialization} :
    ∀ {key : KeyObject classes}, key.ReadOf s → key.IsSignatureKey →
      key.hasLegacySuffix = decide (s.outputPrefixType = .legacy)
  | .privateKey _ _, h, hkind => decide_eq_decide.2 (h.legacy_iff hkind)
  | .publicKey _ _, h, hkind => decide_eq_decide.2 (h.legacy_iff hkind)
  | .legacyProtoKey _, h, _ => by
    cases h
    rfl

/-- **A public key and its entry have the shape of the private ones**: the id, the status, whether it is primary, the
prefix, and for signatures the suffix; and the entry is what is made of the key. -/
structure SameShape (parseKey : ProtoKeySerialization → Except Status (KeyObject classes)) (primaryKeyId : UInt32)
    (key : KeysetKey) (entry : HandleEntry (KeyObject classes)) (publicKey : KeysetKey)
    (publicEntry : HandleEntry (KeyObject classes)) : Prop where
  id           : publicEntry.id = entry.id
  status       : publicEntry.status = entry.status
  isPrimary    : publicEntry.isPrimary = entry.isPrimary
  keyId        : publicKey.keyId = key.keyId
  keyStatus    : publicKey.status = key.status
  parsed       : createEntry parseKey publicKey primaryKeyId = .ok publicEntry
  identifier   : identifierOf (keyInfoFromKey publicKey) = identifierOf (keyInfoFromKey key)
  legacy_iff   : entry.key.IsSignatureKey → (publicKey.outputPrefixType = .legacy ↔ key.outputPrefixType = .legacy)
  outputPrefix : (publicEntry.key.IsJwtKey ↔ entry.key.IsJwtKey) →
    publicEntry.key.getOutputPrefix = entry.key.getOutputPrefix
  legacySuffix : entry.key.IsSignatureKey → publicEntry.key.IsSignatureKey →
    publicEntry.key.hasLegacySuffix = entry.key.hasLegacySuffix
  material     : publicKey.getKeyData.keyMaterialType = .asymmetricPublic

theorem createEntry_readOf {registry : SerializationRegistry ι} {key : KeysetKey} {primaryKeyId : UInt32}
    {entry : HandleEntry (KeyObject classes)}
    (h : createEntry (registry.parseKeyWithLegacyFallback classes) key primaryKeyId = .ok entry) :
    ∃ s, toProtoKeySerialization key = .ok s ∧ entry.key.ReadOf s := by
  obtain ⟨s, k, status, hs, hk, -, rfl⟩ := createEntry_cases _ h
  exact ⟨s, hs, parseKeyWithLegacyFallback_readOf registry hk⟩

variable [DecidableEq ι] {registry : SerializationRegistry ι} {config : PublicKeyConfiguration}

theorem createKeysetKey_serialized {key : (c : ι) × (classes c).Public} {id : UInt32} {status : KeyStatusType}
    {k : KeysetKey} (h : registry.createKeysetKey key (asInt id) status = .ok k) :
    ∃ s, registry.serializeKey key = .ok s ∧ (s.idRequirement = none ∨ s.idRequirement = some id) ∧
      k = toKeysetKey id status s := by
  unfold SerializationRegistry.createKeysetKey SerializationRegistry.getProtoKeySerialization at h
  cases hs : registry.serializeKey key with
  | error e =>
    rw [hs] at h
    cases h
  | ok s =>
    rw [hs] at h
    dsimp only at h
    rw [asUInt32_asInt] at h
    cases hid : s.idRequirement with
    | none =>
      rw [hid] at h
      exact ⟨s, rfl, .inl hid, (Except.ok.inj h).symm⟩
    | some r =>
      rw [hid] at h
      dsimp only at h
      split at h
      · cases h
      · rename_i heq
        have hr : r = id := by
          rw [← asUInt32_asInt r, ← asUInt32_asInt id, not_not.1 heq]
        exact ⟨s, rfl, .inr (hid.trans (congrArg some hr)), (Except.ok.inj h).symm⟩

theorem createKeysetKey_of_serialized {key : (c : ι) × (classes c).Public} {id : UInt32} {s : ProtoKeySerialization}
    (hs : registry.serializeKey key = .ok s) (hid : s.idRequirement = none ∨ s.idRequirement = some id)
    (status : KeyStatusType) : registry.createKeysetKey key (asInt id) status = .ok (toKeysetKey id status s) := by
  unfold SerializationRegistry.createKeysetKey SerializationRegistry.getProtoKeySerialization
  rw [hs]
  dsimp only
  rw [asUInt32_asInt]
  rcases hid with hid | hid
  · rw [hid]
  · rw [hid]
    exact if_neg (not_not.2 rfl)

theorem extractPublicKey_ok (hconfig : config.ReturnsPublicKeys) {key publicKey : KeysetKey}
    (h : extractPublicKey config key = .ok publicKey) :
    publicKey.getKeyData.keyMaterialType = .asymmetricPublic ∧ publicKey.status = key.status ∧
      publicKey.keyId = key.keyId ∧ publicKey.outputPrefixType = key.outputPrefixType := by
  unfold extractPublicKey PublicKeyConfiguration.getPublicKeyData at h
  split at h
  · cases h
  · dsimp only at h
    split at h
    · cases h
    · rename_i keyData hdata
      cases h
      split at hdata
      · cases hdata
      · split at hdata
        · cases hdata
        · rename_i factory hfactory
          exact ⟨hconfig hfactory hdata, rfl, rfl, rfl⟩

end Shape

/-! ## One step of the loop -/

section Step
variable {ι : Type} {classes : ι → KeyPairClass}

theorem KeyKind.Reads.identifierOf_eq {kind : KeyKind} {key publicKey : KeysetKey}
    (h : kind.Reads key.outputPrefixType publicKey.outputPrefixType) (hid : publicKey.keyId = key.keyId) :
    identifierOf (keyInfoFromKey publicKey) = identifierOf (keyInfoFromKey key) := by
  unfold identifierOf keyInfoFromKey CryptoFormat.getOutputPrefix
  rcases h with h | ⟨-, hlegacy, hcrunchy⟩
  · rw [h, hid]
  · rw [hlegacy, hcrunchy, hid]
    rfl

variable {registry registry₀ : SerializationRegistry ι} {config : PublicKeyConfiguration}

/-- The key data of a manager. -/
theorem sameShape_extracted {key publicKey : KeysetKey} {entry publicEntry : HandleEntry (KeyObject classes)}
    {primaryKeyId : UInt32}
    (hentry : createEntry (registry₀.parseKeyWithLegacyFallback classes) key primaryKeyId = .ok entry)
    (hconfig : config.ReturnsPublicKeys) (hextract : extractPublicKey config key = .ok publicKey)
    (hpublic : createEntry (registry.parseKeyWithLegacyFallback classes) publicKey primaryKeyId = .ok publicEntry) :
    SameShape (registry.parseKeyWithLegacyFallback classes) primaryKeyId key entry publicKey publicEntry := by
  obtain ⟨hmaterial, hstatus, hid, htype⟩ := extractPublicKey_ok hconfig hextract
  obtain ⟨⟨hentryId, hentryStatus, hentryPrimary⟩, -⟩ := createEntry_ok _ hentry
  obtain ⟨⟨hpublicId, hpublicStatus, hpublicPrimary⟩, -⟩ := createEntry_ok _ hpublic
  obtain ⟨s₀, hs₀, hread₀⟩ := createEntry_readOf hentry
  obtain ⟨s, hs, hread⟩ := createEntry_readOf hpublic
  obtain ⟨-, -, hprefixType₀, hrequirement₀⟩ := toProtoKeySerialization_ok hs₀
  obtain ⟨-, -, hprefixType, hrequirement⟩ := toProtoKeySerialization_ok hs
  rw [htype, ← hprefixType₀] at hprefixType
  rw [htype, hid, ← hrequirement₀] at hrequirement
  have hreads : KeyKind.signature.Reads key.outputPrefixType publicKey.outputPrefixType := .inl htype
  refine ⟨?_, ?_, ?_, hid, hstatus, hpublic, hreads.identifierOf_eq hid, fun _ => by rw [htype], ?_, ?_, hmaterial⟩
  · rw [hpublicId, hid, hentryId]
  · rw [hstatus] at hpublicStatus
    exact Except.ok.inj ((fromKeyStatusType_of_to hpublicStatus).symm.trans (fromKeyStatusType_of_to hentryStatus))
  · rw [hpublicPrimary, hid, hentryPrimary]
  · intro hjwt
    rw [hread.getOutputPrefix_eq, hread₀.getOutputPrefix_eq, hprefixType, hrequirement]
    exact if_congr hjwt rfl rfl
  · intro hsignature₀ hsignature
    rw [hread.hasLegacySuffix_eq hsignature, hread₀.hasLegacySuffix_eq hsignature₀, hprefixType]

variable [DecidableEq ι]

/-- **Parsing undoes the serialization** of a public key. -/
def SerializationRegistry.RoundTrips (registry : SerializationRegistry ι) (key : (c : ι) × (classes c).Public) : Prop :=
  ∀ s, registry.serializeKey key = .ok s → registry.parseKeyWithLegacyFallback classes s = .ok (.publicKey key.1 key.2)

theorem serializeKey_ok {key : (c : ι) × (classes c).Public} {s : ProtoKeySerialization}
    (h : registry.serializeKey key = .ok s) :
    s.keyMaterialType = .asymmetricPublic ∧ s.outputPrefixType = (classes key.1).outputPrefixType key.2 ∧
      s.idRequirement = (classes key.1).getIdRequirement key.2 := by
  unfold SerializationRegistry.serializeKey at h
  split at h
  · exact (classes key.1).serialize_ok h
  · cases h

/-- The public key of a private key object. -/
theorem sameShape_privateKey {key : KeysetKey} {entry : HandleEntry (KeyObject classes)} {primaryKeyId : UInt32}
    {c : ι} {privateKey : (classes c).Private} (hprivate : entry.key = .privateKey c privateKey)
    (hentry : createEntry (registry₀.parseKeyWithLegacyFallback classes) key primaryKeyId = .ok entry)
    (hround : registry.RoundTrips ⟨c, (classes c).getPublicKey privateKey⟩) {keyStatus : KeyStatusType}
    (hstatus : toKeyStatusType entry.status = .ok keyStatus) {publicKey : KeysetKey}
    (hkey : registry.createKeysetKey ⟨c, (classes c).getPublicKey privateKey⟩ (asInt entry.id) keyStatus = .ok publicKey) :
    SameShape (registry.parseKeyWithLegacyFallback classes) primaryKeyId key entry publicKey
      ⟨.publicKey c ((classes c).getPublicKey privateKey), entry.status, entry.id, entry.isPrimary⟩ := by
  obtain ⟨⟨hid, hagrees, hprimary⟩, -⟩ := createEntry_ok _ hentry
  obtain ⟨s₀, hs₀, hread⟩ := createEntry_readOf hentry
  obtain ⟨-, -, hprefixType₀, -⟩ := toProtoKeySerialization_ok hs₀
  rw [hprivate] at hread
  have hkeeps : (classes c).kind.Keeps s₀.outputPrefixType s₀.idRequirement _ _ _ := hread
  obtain ⟨s, hs, hsid, rfl⟩ := createKeysetKey_serialized hkey
  obtain ⟨hmaterial, hprefixType, -⟩ := serializeKey_ok hs
  have hreads : (classes c).kind.Reads key.outputPrefixType s.outputPrefixType := by
    rw [hprefixType, ← hprefixType₀]
    exact hkeeps.prefixType
  refine ⟨rfl, rfl, rfl, hid, ?_, ?_, hreads.identifierOf_eq hid, ?_, ?_, ?_, hmaterial⟩
  · exact Except.ok.inj (hstatus.symm.trans hagrees)
  · rw [createEntry_toKeysetKey hsid (hround s hs) hstatus, hprimary, hid]
  · intro hsignature
    rw [hprivate] at hsignature
    have hiff := hkeeps.legacy_iff hsignature
    rw [← hprefixType, hprefixType₀] at hiff
    exact hiff
  · intro _
    rw [hprivate]
    rfl
  · intro _ _
    rw [hprivate]
    rfl

end Step

end Tink
