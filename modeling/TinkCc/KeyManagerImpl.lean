import TinkCc.KeysetDeriver
import TinkCc.RegistryFips
/-!
# KeyManagerImpl — key managers made from key type managers

`core/key_type_manager.h`, `core/private_key_type_manager.h`, `core/key_manager_impl.h` and
`core/private_key_manager_impl.h`.  A key type manager knows the keys of one type; the objects made from it parse, check and
serialize.  What a registry of such objects hands out, new keys, derived keys and public keys, it takes again.
-/
namespace Tink

open KeyTypeInfoStore (TypeIndex)

/-- `kTypeGoogleapisCom`. -/
def kTypeGoogleapisCom : String := "type.googleapis.com/"

/-! ## Managers of the repository -/

/-- `subtle::Random::GetRandomBytes`, of what is drawn. -/
def getRandomBytes (random : Bytes) (size : Nat) : Bytes := (random ++ List.replicate size 0).take size

theorem length_getRandomBytes (random : Bytes) (size : Nat) : (getRandomBytes random size).length = size := by
  unfold getRandomBytes
  rw [List.length_take, List.length_append, List.length_replicate]
  omega

def HmacKeyManager.createKey (random : Bytes) (keyFormat : HmacKeyFormat) : Except Status HmacKeyProto :=
  .ok ⟨0, keyFormat.params, getRandomBytes random keyFormat.keySize.toNat⟩

def Ed25519SignKeyManager.createKey (lib : EcKeyLibrary) (random : Bytes) (_ : Ed25519KeyFormat) :
    Except Status Ed25519PrivateKeyProto :=
  match newEd25519Key lib (getRandomBytes random 32) with
  | .error e => .error e
  | .ok (publicKey, privateKey) => .ok ⟨0, privateKey, ⟨0, publicKey⟩⟩

def Ed25519VerifyKeyManager.validateKey (key : Ed25519PublicKeyProto) : Except Status Unit := do
  validateVersion key.version 0
  if key.keyValue.length ≠ 32 then .error ⟨.invalidArgument, "The ED25519 public key must be 32-bytes long."⟩ else .ok ()

namespace KeyManagerImpl

/-! ## Key type managers -/

/-- `InternalKeyFactory`; what `CreateKey` draws at random is its first argument.  Randomness is read from a stream with
states `ρ`. -/
structure InternalKeyFactory (ρ Key KeyFormat : Type) where
  keyFormatName     : String
  parseKeyFormat    : Bytes → Option KeyFormat
  validateKeyFormat : KeyFormat → Except Status Unit
  createKey         : Bytes → KeyFormat → Except Status Key
  deriveKey         : KeyFormat → ρ → Except Status Key × ρ

/-- `KeyTypeManager`; a manager whose key format is `void` has no key factory. -/
structure KeyTypeManager (T : TypeIndex → Type) (ρ : Type) where
  Key              : Type
  KeyFormat        : Type
  keyType          : String
  keyName          : String
  keyMaterialType  : KeyMaterialType
  keyFactory       : Option (InternalKeyFactory ρ Key KeyFormat)
  parseKey         : Bytes → Option Key
  serializeKey     : Key → Bytes
  validateKey      : Key → Except Status Unit
  primitives       : List TypeIndex
  primitiveFactory : (p : TypeIndex) → Key → Except Status (T p)

structure PrivateKeyTypeManager (T : TypeIndex → Type) (ρ : Type) extends KeyTypeManager T ρ where
  PublicKey          : Type
  serializePublicKey : PublicKey → Bytes
  getPublicKey       : Key → Except Status PublicKey

variable {T : TypeIndex → Type} {ρ : Type}

/-- `KeyTypeManager::GetPrimitive`. -/
def KeyTypeManager.create (manager : KeyTypeManager T ρ) (p : TypeIndex) (key : manager.Key) : Except Status (T p) :=
  if p ∈ manager.primitives then manager.primitiveFactory p key
  else
    let name := p.name
    .error ⟨.invalidArgument, s!"No PrimitiveFactory was registered for type {name}"⟩

/-! ## The objects made from them -/

namespace KeyTypeManager
variable (manager : KeyTypeManager T ρ)

/-- `KeyManagerImpl::GetPrimitive`. -/
def getPrimitive (p : TypeIndex) (keyData : KeyData) : Except Status (Option (T p)) :=
  let typeUrl := keyData.typeUrl
  if typeUrl ≠ manager.keyType then .error ⟨.invalidArgument, s!"Key type '{typeUrl}' is not supported by this manager."⟩
  else
    match manager.parseKey keyData.value with
    | none => .error ⟨.invalidArgument, s!"Could not parse key_data.value as key type '{typeUrl}'."⟩
    | some key =>
      match manager.validateKey key with
      | .error e => .error e
      | .ok () => (manager.create p key).map some

/-- `KeyFactoryImpl::NewKey`, of a serialized format.  The format is validated, and then again as a message. -/
def newKey (random serializedKeyFormat : Bytes) : Except Status manager.Key :=
  match manager.keyFactory with
  | none => .error ⟨.unimplemented, "Creating new keys is not supported for this key manager."⟩
  | some factory =>
    match factory.parseKeyFormat serializedKeyFormat with
    | none =>
      let keyFormatName := factory.keyFormatName
      .error ⟨.invalidArgument, s!"Could not parse the passed string as proto '{keyFormatName}'."⟩
    | some keyFormat =>
      match factory.validateKeyFormat keyFormat with
      | .error e => .error e
      | .ok () =>
        match factory.validateKeyFormat keyFormat with
        | .error e => .error e
        | .ok () => factory.createKey random keyFormat

/-- `KeyFactoryImpl::NewKeyData`; the type URL is made from the name of the message. -/
def newKeyData (random serializedKeyFormat : Bytes) : Except Status KeyData :=
  match manager.newKey random serializedKeyFormat with
  | .error e => .error e
  | .ok newKey => .ok ⟨kTypeGoogleapisCom ++ manager.keyName, manager.serializeKey newKey, manager.keyMaterialType⟩

/-- The function of `CreateDeriverFunctionFor`. -/
def deriver (serializedKeyFormat : Bytes) (randomness : ρ) : Except Status KeyData × ρ :=
  match manager.keyFactory with
  | none =>
    let keyType := manager.keyType
    (.error ⟨.unimplemented, s!"Registered KeyManager for type '{keyType}' does not support key generation."⟩, randomness)
  | some factory =>
    match factory.parseKeyFormat serializedKeyFormat with
    | none =>
      let keyFormatName := factory.keyFormatName
      (.error ⟨.invalidArgument, s!"Could not parse the passed string as proto '{keyFormatName}'."⟩, randomness)
    | some keyFormat =>
      match factory.validateKeyFormat keyFormat with
      | .error e => (.error e, randomness)
      | .ok () =>
        match factory.deriveKey keyFormat randomness with
        | (.error e, rest) => (.error e, rest)
        | (.ok key, rest) =>
          match manager.validateKey key with
          | .error e => (.error e, rest)
          | .ok () => (.ok ⟨manager.keyType, manager.serializeKey key, manager.keyMaterialType⟩, rest)

end KeyTypeManager

/-- `PrivateKeyFactoryImpl::GetPublicKeyData`, with the key type and the material type of the public manager. -/
def PrivateKeyTypeManager.getPublicKeyData (manager : PrivateKeyTypeManager T ρ) (publicKeyType : String)
    (publicKeyMaterialType : KeyMaterialType) (serializedPrivateKey : Bytes) : Except Status KeyData :=
  match manager.parseKey serializedPrivateKey with
  | none =>
    let keyName := manager.keyName
    .error ⟨.invalidArgument, s!"Could not parse the passed string as proto '{keyName}'."⟩
  | some privateKey =>
    match manager.validateKey privateKey with
    | .error e => .error e
    | .ok () =>
      match manager.getPublicKey privateKey with
      | .error e => .error e
      | .ok publicKey => .ok ⟨publicKeyType, manager.serializePublicKey publicKey, publicKeyMaterialType⟩

/-- An object that is registered with `RegisterKeyTypeManager` or `RegisterAsymmetricKeyManagers`. -/
inductive Manager (T : TypeIndex → Type) (ρ : Type)
  | keyTypeManager (manager : KeyTypeManager T ρ)
  | privateKeyTypeManager (manager : PrivateKeyTypeManager T ρ)

/-- The object as a `KeyTypeManager`. -/
def Manager.base : Manager T ρ → KeyTypeManager T ρ
  | .keyTypeManager manager => manager
  | .privateKeyTypeManager manager => manager.toKeyTypeManager

/-- The key factory of a private manager that was registered with a public one is a `PrivateKeyFactory`. -/
def Manager.privateKeyFactory (publicTypes : TypeIndex → String × KeyMaterialType) :
    Manager T ρ → Option TypeIndex → Option (Bytes → Except Status KeyData)
  | .privateKeyTypeManager manager, some index =>
    some (manager.getPublicKeyData (publicTypes index).1 (publicTypes index).2)
  | _, _ => none

/-- What the objects give a registry; a class of public managers has one key type and one material type. -/
def managerObjects (managers : Nat → Manager T ρ) (publicTypes : TypeIndex → String × KeyMaterialType) :
    ManagerObjects T ρ where
  primitives n := (managers n).base.primitives
  getPrimitive n := (managers n).base.getPrimitive
  newKeyData n := (managers n).base.newKeyData
  privateKeyFactory n := (managers n).privateKeyFactory publicTypes
  keyDeriver n := some (managers n).base.deriver

/-! ## Managers that take what they make -/

/-- Valid keys can be parsed again, and created keys are valid. -/
structure KeyTypeManager.Sound (manager : KeyTypeManager T ρ) : Prop where
  named   : manager.keyType = kTypeGoogleapisCom ++ manager.keyName
  parses  : ∀ key, manager.validateKey key = .ok () → manager.parseKey (manager.serializeKey key) = some key
  created : ∀ factory, manager.keyFactory = some factory → ∀ random keyFormat key,
    factory.validateKeyFormat keyFormat = .ok () → factory.createKey random keyFormat = .ok key →
      manager.validateKey key = .ok ()

/-- The public keys of the first manager are keys of the second. -/
def PublicKeysOf (privateManager : PrivateKeyTypeManager T ρ) (publicManager : KeyTypeManager T ρ) : Prop :=
  ∀ key publicKey, privateManager.validateKey key = .ok () → privateManager.getPublicKey key = .ok publicKey →
    ∃ k, publicManager.parseKey (privateManager.serializePublicKey publicKey) = some k ∧
      publicManager.validateKey k = .ok ()

section Managers
variable {manager : KeyTypeManager T ρ}

/-- The manager takes the key: its primitives are those of a valid key. -/
def KeyTypeManager.Takes (manager : KeyTypeManager T ρ) (keyData : KeyData) : Prop :=
  ∃ key, manager.parseKey keyData.value = some key ∧ manager.validateKey key = .ok () ∧
    ∀ p ∈ manager.primitives, manager.getPrimitive p keyData = (manager.primitiveFactory p key).map some

theorem takes_of_parseKey {keyData : KeyData} {key : manager.Key} (htype : keyData.typeUrl = manager.keyType)
    (hparse : manager.parseKey keyData.value = some key) (hvalid : manager.validateKey key = .ok ()) :
    manager.Takes keyData := by
  refine ⟨key, hparse, hvalid, fun p hp => ?_⟩
  unfold KeyTypeManager.getPrimitive KeyTypeManager.create
  rw [if_neg (not_not.2 htype), hparse]
  dsimp only
  rw [hvalid, if_pos hp]

theorem newKeyData_takes (hsound : manager.Sound) {random serializedKeyFormat : Bytes} {keyData : KeyData}
    (h : manager.newKeyData random serializedKeyFormat = .ok keyData) :
    keyData.typeUrl = manager.keyType ∧ manager.Takes keyData := by
  unfold KeyTypeManager.newKeyData KeyTypeManager.newKey at h
  cases hfactory : manager.keyFactory with
  | none =>
    rw [hfactory] at h
    cases h
  | some factory =>
    rw [hfactory] at h
    dsimp only at h
    cases hformat : factory.parseKeyFormat serializedKeyFormat with
    | none =>
      rw [hformat] at h
      cases h
    | some keyFormat =>
      rw [hformat] at h
      dsimp only at h
      cases hvalidFormat : factory.validateKeyFormat keyFormat with
      | error e =>
        rw [hvalidFormat] at h
        cases h
      | ok _ =>
        rw [hvalidFormat] at h
        dsimp only at h
        cases hkey : factory.createKey random keyFormat with
        | error e =>
          rw [hkey] at h
          cases h
        | ok key =>
          rw [hkey] at h
          cases h
          have hvalid := hsound.created factory hfactory random keyFormat key hvalidFormat hkey
          exact ⟨hsound.named.symm, takes_of_parseKey hsound.named.symm (hsound.parses key hvalid) hvalid⟩

theorem deriver_takes (hsound : manager.Sound) {serializedKeyFormat : Bytes} {randomness rest : ρ} {keyData : KeyData}
    (h : manager.deriver serializedKeyFormat randomness = (.ok keyData, rest)) :
    keyData.typeUrl = manager.keyType ∧ manager.Takes keyData := by
  unfold KeyTypeManager.deriver at h
  split at h
  · cases h
  · split at h
    · cases h
    · split at h
      · cases h
      · split at h
        · cases h
        · rename_i key _ _
          split at h
          · cases h
          · rename_i hvalid
            cases h
            exact ⟨rfl, takes_of_parseKey rfl (hsound.parses key hvalid) hvalid⟩

theorem getPublicKeyData_takes {privateManager : PrivateKeyTypeManager T ρ} (hpublic : PublicKeysOf privateManager manager)
    {publicKeyMaterialType : KeyMaterialType} {serializedPrivateKey : Bytes} {keyData : KeyData}
    (h : privateManager.getPublicKeyData manager.keyType publicKeyMaterialType serializedPrivateKey = .ok keyData) :
    keyData.typeUrl = manager.keyType ∧ manager.Takes keyData := by
  unfold PrivateKeyTypeManager.getPublicKeyData at h
  split at h
  · cases h
  · rename_i privateKey _
    split at h
    · cases h
    · rename_i hvalidPrivate
      split at h
      · cases h
      · rename_i publicKey hpublicKey
        cases h
        obtain ⟨key, hparse, hvalid⟩ := hpublic privateKey publicKey hvalidPrivate hpublicKey
        exact ⟨rfl, takes_of_parseKey rfl hparse hvalid⟩

/-- **A primitive is one of a valid key**, under the manager's own type URL. -/
theorem getPrimitive_ok {p : TypeIndex} {keyData : KeyData} {primitive : Option (T p)}
    (h : manager.getPrimitive p keyData = .ok primitive) :
    keyData.typeUrl = manager.keyType ∧ p ∈ manager.primitives ∧
      ∃ key made, manager.parseKey keyData.value = some key ∧ manager.validateKey key = .ok () ∧
        manager.primitiveFactory p key = .ok made ∧ primitive = some made := by
  unfold KeyTypeManager.getPrimitive at h
  dsimp only at h
  split at h
  · cases h
  · rename_i htype
    split at h
    · cases h
    · rename_i key hparse
      split at h
      · cases h
      · rename_i hvalid
        unfold KeyTypeManager.create at h
        split at h
        · rename_i hp
          cases hmade : manager.primitiveFactory p key with
          | error e =>
            rw [hmade] at h
            cases h
          | ok made =>
            rw [hmade] at h
            cases h
            exact ⟨not_not.1 htype, hp, key, made, hparse, hvalid, hmade, rfl⟩
        · cases h

end Managers

/-! ## HMAC and Ed25519 keys -/

section Repository
variable {σ : Type} [InputStream σ]

/-- What the generated code does with the messages of a class, unknown fields aside. -/
abbrev GeneratedMessage (M : Type) := MessageCodec M fun _ => True

/-- `HmacKeyManager`, with its factories of primitives. -/
def hmacKeyManager (formats : GeneratedMessage HmacKeyFormat) (keys : GeneratedMessage HmacKeyProto)
    (factory : (p : TypeIndex) → HmacKeyProto → Except Status (T p)) : KeyTypeManager T σ where
  Key := HmacKeyProto
  KeyFormat := HmacKeyFormat
  keyType := "type.googleapis.com/google.crypto.tink.HmacKey"
  keyName := "google.crypto.tink.HmacKey"
  keyMaterialType := .symmetric
  keyFactory := some {
    keyFormatName := "google.crypto.tink.HmacKeyFormat"
    parseKeyFormat := formats.parseFromString
    validateKeyFormat := HmacKeyManager.validateKeyFormat
    createKey := HmacKeyManager.createKey
    deriveKey := HmacKeyManager.deriveKey }
  parseKey := keys.parseFromString
  serializeKey := keys.serializeAsSecretData
  validateKey := HmacKeyManager.validateKey
  primitives := [⟨"Mac"⟩, ⟨"ChunkedMac"⟩]
  primitiveFactory := factory

/-- A key of a valid format is as long as the format asks. -/
theorem hmacKeyManager_sound (formats : GeneratedMessage HmacKeyFormat) (keys : GeneratedMessage HmacKeyProto)
    (factory : (p : TypeIndex) → HmacKeyProto → Except Status (T p)) :
    (hmacKeyManager (σ := σ) formats keys factory).Sound where
  named := rfl
  parses _ _ := keys.parse_serialize trivial
  created := by
    intro keyFactory hfactory random keyFormat key hformat hkey
    cases hfactory
    cases hkey
    unfold HmacKeyManager.validateKeyFormat at hformat
    dsimp only at hformat
    split at hformat
    · cases hformat
    · rename_i hsize
      have hlength : ¬ (getRandomBytes random keyFormat.keySize.toNat).length < 16 := by
        rw [length_getRandomBytes]
        exact fun hlt => hsize (UInt32.lt_iff_toNat_lt.2 hlt)
      change HmacKeyManager.validateKey _ = _
      unfold HmacKeyManager.validateKey
      dsimp only
      rw [if_neg hlength]
      exact hformat

end Repository

/-! ## Registries of them -/

/-- The call registers key type managers that take what they make; the managers of a pair belong together. -/
structure Suited (managers : Nat → Manager T ρ) (publicTypes : TypeIndex → String × KeyMaterialType)
    (call : Registry.Call T) : Prop where
  noKeyManager : ∀ manager newKeyAllowed, call ≠ .registerKeyManager (some manager) newKeyAllowed
  registered   : call.EachManager fun url n => (managers n).base.keyType = url ∧ (managers n).base.Sound
  pairs        : ∀ privateManager publicManager newKeyAllowed,
    call = .registerAsymmetricKeyManagers (some privateManager) (some publicManager) newKeyAllowed →
      (publicTypes publicManager.typeIndex).1 = publicManager.keyType ∧
      ∀ manager, managers privateManager.object = .privateKeyTypeManager manager →
        PublicKeysOf manager (managers publicManager.object).base

end KeyManagerImpl

namespace KeyTypeInfoStore

/-- An `Info` with a public manager was there, or the call has added it and the public manager beside it. -/
theorem step_pair {store : KeyTypeInfoStore} {call : Call} {url : String} {info : Info} {index : TypeIndex}
    (h : (store.step call).2.find url = some info) (hindex : info.publicKeyTypeManagerTypeIndex = some index) :
    store.Has url info ∨ ∃ mode privateManager publicManager newKeyAllowed publicInfo,
      call = .addAsymmetricKeyTypeManagers mode privateManager publicManager newKeyAllowed ∧
      info.manager = privateManager.object ∧ index = publicManager.typeIndex ∧
      (store.step call).2.find publicManager.keyType = some publicInfo ∧ publicInfo.manager = publicManager.object := by
  cases call with
  | addKeyTypeManager mode manager newKeyAllowed =>
    unfold step addKeyTypeManager at h
    dsimp only at h
    split at h
    · exact .inl (has_of_find h)
    · split at h
      · exact .inl (has_of_find h)
      · rcases has_of_find_add h with hhas | ⟨-, rfl⟩
        · exact .inl hhas
        · cases hindex
  | addKeyManager manager newKeyAllowed =>
    unfold step addKeyManager at h
    dsimp only at h
    split at h
    · exact .inl (has_of_find h)
    · split at h
      · exact .inl (has_of_find h)
      · rcases has_of_find_add h with hhas | ⟨-, rfl⟩
        · exact .inl hhas
        · cases hindex
  | addAsymmetricKeyTypeManagers mode privateManager publicManager newKeyAllowed =>
    have hcases : (store.step (.addAsymmetricKeyTypeManagers mode privateManager publicManager newKeyAllowed)).2 = store ∨
        privateManager.keyType ≠ publicManager.keyType ∧
          (store.step (.addAsymmetricKeyTypeManagers mode privateManager publicManager newKeyAllowed)).2 =
            (store.addPair privateManager publicManager newKeyAllowed).2 := by
      unfold step addAsymmetricKeyTypeManagers
      dsimp only
      split
      · exact .inl rfl
      · rename_i hne
        split
        · exact .inl rfl
        · split
          · exact .inl rfl
          · split
            · exact .inl rfl
            · split
              · exact .inl rfl
              · exact .inr ⟨hne, rfl⟩
    rcases hcases with hsame | ⟨hne, hpair⟩
    · rw [hsame] at h
      exact .inl (has_of_find h)
    · rw [hpair] at h ⊢
      unfold addPair at h ⊢
      dsimp only at h ⊢
      split at h
      · exact .inl (has_of_find h)
      · exact .inl (has_of_find h)
      · split at h
        · exact .inl (has_of_find h)
        · split at h
          · exact .inl (has_of_find h)
          · exact .inl (has_of_find_setNewKeyAllowed h)
      · rename_i hpublic
        rcases has_of_find_add h with ⟨allowed, hfind⟩ | ⟨-, rfl⟩
        · rcases has_of_find_add hfind with hhas | ⟨-, hinfo⟩
          · exact .inl hhas
          · -- the private manager is new, and so is the public one
            have hmanager : info.manager = privateManager.object := congrArg Info.manager hinfo
            have hpublicIndex : info.publicKeyTypeManagerTypeIndex = some publicManager.typeIndex :=
              congrArg Info.publicKeyTypeManagerTypeIndex hinfo
            rw [hindex] at hpublicIndex
            have habsent : store.find publicManager.keyType = none := by
              unfold get at hpublic
              split at hpublic
              · assumption
              · cases hpublic
            refine .inr ⟨mode, privateManager, publicManager, newKeyAllowed, ?_, rfl, hmanager,
              Option.some.inj hpublicIndex, ?_, ?_⟩
            · exact ⟨(store.add privateManager.keyType ⟨store.nextAddress, privateManager.object, privateManager.typeIndex,
                some publicManager.typeIndex, newKeyAllowed⟩ newKeyAllowed).nextAddress, publicManager.object,
                publicManager.typeIndex, none, newKeyAllowed⟩
            · dsimp only
              rw [find_add, if_pos rfl, find_add, if_neg hne.symm, habsent]
              rfl
            · rfl
        · cases hindex

end KeyTypeInfoStore

namespace KeyManagerImpl
variable {T : TypeIndex → Type} {ρ : Type} {managers : Nat → Manager T ρ}
  {publicTypes : TypeIndex → String × KeyMaterialType} {build : FipsBuild}

/-- **What holds of the registry**: each manager is found under its own key type and takes what it makes, and a private
manager with a public one stands beside it. -/
structure Built (managers : Nat → Manager T ρ) (publicTypes : TypeIndex → String × KeyMaterialType)
    (registry : Registry T) : Prop where
  each   : registry.EachManager fun url n => (managers n).base.keyType = url ∧ (managers n).base.Sound
  paired : ∀ url info index manager, registry.keyTypeInfoStore.find url = some info →
    info.publicKeyTypeManagerTypeIndex = some index → managers info.manager = .privateKeyTypeManager manager →
    ∃ publicInfo, registry.keyTypeInfoStore.find (publicTypes index).1 = some publicInfo ∧
      PublicKeysOf manager (managers publicInfo.manager).base

theorem built_empty : Built managers publicTypes ({} : Registry T) where
  each := fun _ _ hfind => by cases hfind
  paired := fun _ _ _ _ hfind => by cases hfind

theorem Built.step {registry : Registry T} (h : Built managers publicTypes registry) {call : Registry.Call T}
    (hcall : Suited managers publicTypes call) : Built managers publicTypes (registry.step build call).2 := by
  refine ⟨h.each.step hcall.registered, fun url info index manager hfind hindex hmanager => ?_⟩
  by_cases hreset : call = .reset
  · subst hreset
    cases hfind
  · have hext : registry.Extends (registry.step build call).2 := Registry.step_extends hreset
    -- what stands beside an older private manager still does
    have hold : registry.keyTypeInfoStore.Has url info →
        ∃ publicInfo, (registry.step build call).2.keyTypeInfoStore.find (publicTypes index).1 = some publicInfo ∧
          PublicKeysOf manager (managers publicInfo.manager).base := by
      rintro ⟨allowed, hhas⟩
      obtain ⟨publicInfo, hpublic, hkeys⟩ := h.paired url (info.setNewKeyAllowed allowed) index manager hhas hindex hmanager
      obtain ⟨allowed', hpublic', -⟩ := hext.keyTypeInfoStore _ publicInfo hpublic
      exact ⟨publicInfo.setNewKeyAllowed allowed', hpublic', hkeys⟩
    have hstore := Registry.step_keyTypeInfoStore build registry hreset
    cases hinsertion : call.insertion (registry.fipsMode build) with
    | none =>
      rw [hinsertion] at hstore
      rw [hstore] at hfind
      exact hold (KeyTypeInfoStore.has_of_find hfind)
    | some insertion =>
      rw [hinsertion] at hstore
      rw [hstore] at hfind
      rcases KeyTypeInfoStore.step_pair hfind hindex with
        hhas | ⟨mode, privateManager, publicManager, newKeyAllowed, publicInfo, rfl, hprivate, hsame, hpublic, hobject⟩
      · exact hold hhas
      · have hpair : call = .registerAsymmetricKeyManagers (some privateManager) (some publicManager) newKeyAllowed := by
          unfold Registry.Call.insertion at hinsertion
          split at hinsertion
          · cases hinsertion
          · cases hinsertion
          · cases hinsertion
            rfl
          · cases hinsertion
        obtain ⟨htype, hkeys⟩ := hcall.pairs _ _ _ hpair
        refine ⟨publicInfo, ?_, ?_⟩
        · rw [hstore, hsame, htype]
          exact hpublic
        · rw [hobject]
          exact hkeys manager (by rw [← hprivate, hmanager])

theorem Built.run : ∀ {calls : List (Registry.Call T)} {registry : Registry T}, Built managers publicTypes registry →
    (∀ call ∈ calls, Suited managers publicTypes call) → Built managers publicTypes (registry.run build calls)
  | [], _, h, _ => h
  | call :: _, _, h, hcalls =>
    (h.step (hcalls call (List.mem_cons_self ..))).run fun c hc => hcalls c (List.mem_cons_of_mem _ hc)

/-- The registry takes the key: it has a manager for the type URL, and gives the primitives of a valid key for every kind
of primitive of that manager. -/
def TakenBy (managers : Nat → Manager T ρ) (publicTypes : TypeIndex → String × KeyMaterialType) (registry : Registry T)
    (keyData : KeyData) : Prop :=
  ∃ info key, registry.getKeyTypeInfo keyData.typeUrl = .ok info ∧
    (managers info.manager).base.parseKey keyData.value = some key ∧
    (managers info.manager).base.validateKey key = .ok () ∧
    ∀ p ∈ (managers info.manager).base.primitives, registry.getPrimitive (managerObjects managers publicTypes) p keyData =
      ((managers info.manager).base.primitiveFactory p key).map some

theorem takenBy_of_takes {registry : Registry T} {keyData : KeyData} {info : KeyTypeInfoStore.Info}
    (hget : registry.getKeyTypeInfo keyData.typeUrl = .ok info) (h : (managers info.manager).base.Takes keyData) :
    TakenBy managers publicTypes registry keyData := by
  obtain ⟨key, hparse, hvalid, hprimitives⟩ := h
  refine ⟨info, key, hget, hparse, hvalid, fun p hp => ?_⟩
  unfold Registry.getPrimitive KeyTypeInfoStore.Info.getPrimitive KeyTypeInfoStore.Info.getKeyManager
  rw [hget]
  have hsupported : p ∈ (managerObjects managers publicTypes).primitives info.manager := hp
  dsimp only
  rw [if_pos hsupported]
  exact hprimitives p hp

theorem TakenBy.extends {registry registry' : Registry T} {keyData : KeyData}
    (h : TakenBy managers publicTypes registry keyData) (hext : registry.Extends registry') :
    TakenBy managers publicTypes registry' keyData := by
  obtain ⟨info, key, hget, hparse, hvalid, hprimitives⟩ := h
  obtain ⟨newKeyAllowed, hget', -⟩ := hext.getKeyTypeInfo hget
  refine ⟨info.setNewKeyAllowed newKeyAllowed, key, hget', hparse, hvalid, fun p hp => ?_⟩
  rw [hext.getPrimitive_eq hget]
  exact hprimitives p hp

section Run
variable {registry : Registry T}

theorem find_of_getKeyTypeInfo {typeUrl : String} {info : KeyTypeInfoStore.Info}
    (h : registry.getKeyTypeInfo typeUrl = .ok info) : registry.keyTypeInfoStore.find typeUrl = some info := by
  unfold Registry.getKeyTypeInfo KeyTypeInfoStore.get at h
  split at h
  · cases h
  · rename_i hfind
    cases h
    exact hfind

theorem getKeyTypeInfo_of_find {typeUrl : String} {info : KeyTypeInfoStore.Info}
    (h : registry.keyTypeInfoStore.find typeUrl = some info) : registry.getKeyTypeInfo typeUrl = .ok info := by
  unfold Registry.getKeyTypeInfo KeyTypeInfoStore.get
  rw [h]

theorem Built.newKeyData (h : Built managers publicTypes registry) {random : Bytes} {keyTemplate : KeyTemplate}
    {keyData : KeyData} (hnew : registry.newKeyData (managerObjects managers publicTypes) random keyTemplate = .ok keyData) :
    keyData.typeUrl = keyTemplate.typeUrl ∧ TakenBy managers publicTypes registry keyData := by
  unfold Registry.newKeyData at hnew
  split at hnew
  · cases hnew
  · rename_i info hget
    obtain ⟨htype, hsound⟩ := h.each _ _ (find_of_getKeyTypeInfo hget)
    split at hnew
    · cases hnew
    · obtain ⟨hurl, htakes⟩ := newKeyData_takes hsound hnew
      have hurl : keyData.typeUrl = keyTemplate.typeUrl := hurl.trans htype
      exact ⟨hurl, takenBy_of_takes (by rw [hurl, hget]) htakes⟩

theorem Built.deriveKey (h : Built managers publicTypes registry) {keyTemplate : KeyTemplate} {randomness rest : ρ}
    {keyData : KeyData}
    (hderive : registry.deriveKey (managerObjects managers publicTypes) keyTemplate randomness = (.ok keyData, rest)) :
    keyData.typeUrl = keyTemplate.typeUrl ∧ TakenBy managers publicTypes registry keyData := by
  unfold Registry.deriveKey at hderive
  split at hderive
  · cases hderive
  · rename_i info hget
    obtain ⟨htype, hsound⟩ := h.each _ _ (find_of_getKeyTypeInfo hget)
    obtain ⟨hurl, htakes⟩ := deriver_takes hsound hderive
    have hurl : keyData.typeUrl = keyTemplate.typeUrl := hurl.trans htype
    exact ⟨hurl, takenBy_of_takes (by rw [hurl, hget]) htakes⟩

theorem Built.getPublicKeyData (h : Built managers publicTypes registry) {typeUrl : String} {serializedPrivateKey : Bytes}
    {keyData : KeyData}
    (hpublic : registry.getPublicKeyData (managerObjects managers publicTypes) typeUrl serializedPrivateKey = .ok keyData) :
    TakenBy managers publicTypes registry keyData := by
  unfold Registry.getPublicKeyData at hpublic
  split at hpublic
  · cases hpublic
  · rename_i info hget
    split at hpublic
    · cases hpublic
    · rename_i factory hfactory
      have hfactory : (managers info.manager).privateKeyFactory publicTypes info.publicKeyTypeManagerTypeIndex =
        some factory := hfactory
      unfold Manager.privateKeyFactory at hfactory
      split at hfactory
      · rename_i manager index hmanager hindex
        cases hfactory
        obtain ⟨publicInfo, hfind, hkeys⟩ :=
          h.paired _ info index manager (find_of_getKeyTypeInfo hget) hindex hmanager
        obtain ⟨htype, -⟩ := h.each _ publicInfo hfind
        rw [← htype] at hpublic
        obtain ⟨hurl, htakes⟩ := getPublicKeyData_takes hkeys hpublic
        exact takenBy_of_takes (getKeyTypeInfo_of_find (by rw [hurl, htype, hfind])) htakes
      · cases hfactory

theorem Built.getPrimitive (h : Built managers publicTypes registry) {p : TypeIndex} {keyData : KeyData}
    {primitive : Option (T p)}
    (hok : registry.getPrimitive (managerObjects managers publicTypes) p keyData = .ok primitive) :
    ∃ info key made, registry.getKeyTypeInfo keyData.typeUrl = .ok info ∧
      (managers info.manager).base.keyType = keyData.typeUrl ∧ p ∈ (managers info.manager).base.primitives ∧
      (managers info.manager).base.parseKey keyData.value = some key ∧
      (managers info.manager).base.validateKey key = .ok () ∧
      (managers info.manager).base.primitiveFactory p key = .ok made ∧ primitive = some made := by
  unfold Registry.getPrimitive KeyTypeInfoStore.Info.getPrimitive KeyTypeInfoStore.Info.getKeyManager at hok
  split at hok
  · cases hok
  · rename_i info hget
    obtain ⟨htype, -⟩ := h.each _ _ (find_of_getKeyTypeInfo hget)
    split at hok
    · cases hok
    · rename_i found hfound
      split at hfound
      · cases hfound
        obtain ⟨-, hp, key, made, hparse, hvalid, hmade, hprimitive⟩ := getPrimitive_ok hok
        exact ⟨info, key, made, hget, htype, hp, hparse, hvalid, hmade, hprimitive⟩
      · cases hfound

end Run

section Example

end Example

end KeyManagerImpl

end Tink
