import TinkCc.Configuration
/-!
# KeyGenConfiguration — new keys without the global registry

`key_gen_configuration.h`, `internal/key_gen_configuration_impl.h`, and the key data that `KeysetHandle::AddToKeyset` and
`ExtractPublicKey` take from a configuration.  `M` is what the parameters of a class are.  `AddToKeyset` does not ask a
configuration of its own whether a key type allows new keys: all of its key types do.
-/
namespace Tink

open KeyTypeInfoStore (TypeIndex)

section Configurations
variable {T K M : TypeIndex → Type} {ρ : Type}

/-- `KeyCreatorFn<P>`, for a class of parameters; its second argument is the id requirement. -/
abbrev KeyCreatorFn (M K : TypeIndex → Type) (m : TypeIndex) := M m → Option Int → Except Status (AnyKey K)

/-- A `KeyGenConfiguration`, as `KeyGenConfigurationImpl` fills and reads it. -/
structure KeyGenConfigurationImpl (M K : TypeIndex → Type) where
  globalRegistryMode : Bool := false
  keyTypeInfoStore   : KeyTypeInfoStore := {}
  keyCreatorFnMap    : List ((m : TypeIndex) × KeyCreatorFn M K m) := []

namespace KeyGenConfigurationImpl

/-! ## Calls -/

/-- A call of `KeyGenConfigurationImpl`. -/
inductive Call (M K : TypeIndex → Type)
  | addKeyTypeManager (keyManager : KeyTypeInfoStore.KeyTypeManager)
  | addAsymmetricKeyManagers (privateKeyManager publicKeyManager : KeyTypeInfoStore.KeyTypeManager)
  | addLegacyKeyManager (keyManager : KeyTypeInfoStore.KeyManager)
  | addKeyCreator (m : TypeIndex) (keyCreatorFn : KeyCreatorFn M K m)
  | setGlobalRegistryMode

/-- A call that inserts into the store of key types. -/
def insert (config : KeyGenConfigurationImpl M K) (call : KeyTypeInfoStore.Call) :
    Except Status Unit × KeyGenConfigurationImpl M K :=
  if config.globalRegistryMode then (.error configurationImplErr, config)
  else
    ((config.keyTypeInfoStore.step call).1, { config with keyTypeInfoStore := (config.keyTypeInfoStore.step call).2 })

def addKeyTypeManager (mode : FipsMode) (config : KeyGenConfigurationImpl M K)
    (keyManager : KeyTypeInfoStore.KeyTypeManager) : Except Status Unit × KeyGenConfigurationImpl M K :=
  config.insert (.addKeyTypeManager mode keyManager true)

def addAsymmetricKeyManagers (mode : FipsMode) (config : KeyGenConfigurationImpl M K)
    (privateKeyManager publicKeyManager : KeyTypeInfoStore.KeyTypeManager) :
    Except Status Unit × KeyGenConfigurationImpl M K :=
  config.insert (.addAsymmetricKeyTypeManagers mode privateKeyManager publicKeyManager true)

def addLegacyKeyManager (config : KeyGenConfigurationImpl M K) (keyManager : KeyTypeInfoStore.KeyManager) :
    Except Status Unit × KeyGenConfigurationImpl M K := config.insert (.addKeyManager keyManager true)

def addKeyCreator (config : KeyGenConfigurationImpl M K) (m : TypeIndex) (keyCreatorFn : KeyCreatorFn M K m) :
    Except Status Unit × KeyGenConfigurationImpl M K :=
  if config.globalRegistryMode then (.error configurationImplErr, config)
  else
    match config.keyCreatorFnMap.dlookup m with
    | some _ =>
      let name := m.name
      (.error ⟨.unimplemented, s!"Key creator for {name} already exists."⟩, config)
    | none => (.ok (), { config with keyCreatorFnMap := config.keyCreatorFnMap ++ [⟨m, keyCreatorFn⟩] })

/-- `SetGlobalRegistryMode`; key creators are not looked at. -/
def setGlobalRegistryMode (config : KeyGenConfigurationImpl M K) : Except Status Unit × KeyGenConfigurationImpl M K :=
  if !config.keyTypeInfoStore.isEmpty then
    (.error ⟨.failedPrecondition, "Using the global registry is only allowed when KeyGenConfiguration is empty."⟩, config)
  else (.ok (), { config with globalRegistryMode := true })

def step (mode : FipsMode) (config : KeyGenConfigurationImpl M K) :
    Call M K → Except Status Unit × KeyGenConfigurationImpl M K
  | .addKeyTypeManager keyManager => config.addKeyTypeManager mode keyManager
  | .addAsymmetricKeyManagers privateKeyManager publicKeyManager =>
    config.addAsymmetricKeyManagers mode privateKeyManager publicKeyManager
  | .addLegacyKeyManager keyManager => config.addLegacyKeyManager keyManager
  | .addKeyCreator m keyCreatorFn => config.addKeyCreator m keyCreatorFn
  | .setGlobalRegistryMode => config.setGlobalRegistryMode

def run (mode : FipsMode) (config : KeyGenConfigurationImpl M K) (calls : List (Call M K)) : KeyGenConfigurationImpl M K :=
  calls.foldl (fun config call => (config.step mode call).2) config

/-! ## Keys -/

/-- `CreateKey`. -/
def createKey (config : KeyGenConfigurationImpl M K) (parameters : (m : TypeIndex) × M m) (idRequirement : Option Int) :
    Except Status (AnyKey K) :=
  match config.keyCreatorFnMap.dlookup parameters.1 with
  | none =>
    let name := parameters.1.name
    .error ⟨.unimplemented, s!"Key creator not found for {name}"⟩
  | some keyCreatorFn => keyCreatorFn parameters.2 idRequirement

section KeyData
variable (objects : ManagerObjects T ρ) (config : KeyGenConfigurationImpl M K) (registry : Registry T)

/-- The key data of `AddToKeyset`, with the global registry. -/
def newKeyData (random : Bytes) (keyTemplate : KeyTemplate) : Except Status KeyData :=
  if config.globalRegistryMode then registry.newKeyData objects random keyTemplate
  else
    match config.keyTypeInfoStore.get keyTemplate.typeUrl with
    | .error e => .error e
    | .ok info => objects.newKeyData info.manager random keyTemplate.value

/-- The key data of `ExtractPublicKey`, with the global registry. -/
def getPublicKeyData (typeUrl : String) (serializedPrivateKey : Bytes) : Except Status KeyData :=
  if config.globalRegistryMode then registry.getPublicKeyData objects typeUrl serializedPrivateKey
  else
    match config.keyTypeInfoStore.get typeUrl with
    | .error e => .error e
    | .ok info =>
      match objects.privateKeyFactory info.manager info.publicKeyTypeManagerTypeIndex with
      | none => .error ⟨.invalidArgument, s!"KeyManager for type '{typeUrl}' does not have a PrivateKeyFactory."⟩
      | some getPublicKeyData => getPublicKeyData serializedPrivateKey

end KeyData

/-! ## What a call keeps -/

/-- The call of a registry that does the same; key creators have none. -/
def Call.toRegistry : Call M K → Option (Registry.Call T)
  | .addKeyTypeManager keyManager => some (.registerKeyTypeManager (some keyManager) true)
  | .addAsymmetricKeyManagers privateKeyManager publicKeyManager =>
    some (.registerAsymmetricKeyManagers (some privateKeyManager) (some publicKeyManager) true)
  | .addLegacyKeyManager keyManager => some (.registerKeyManager (some keyManager) true)
  | .addKeyCreator _ _ => none
  | .setGlobalRegistryMode => none

/-- Every key type of the store allows new keys. -/
def AllAllowed (store : KeyTypeInfoStore) : Prop :=
  ∀ url info, store.find url = some info → info.newKeyAllowed = true

theorem AllAllowed.setNewKeyAllowed {store : KeyTypeInfoStore} (h : AllAllowed store) (typeUrl : String) :
    AllAllowed (store.setNewKeyAllowed typeUrl true) := by
  intro url info hfind
  rw [KeyTypeInfoStore.find_setNewKeyAllowed] at hfind
  split at hfind
  · obtain ⟨old, -, rfl⟩ := Option.map_eq_some_iff.1 hfind
    rfl
  · exact h url info hfind

theorem AllAllowed.add {store : KeyTypeInfoStore} (h : AllAllowed store) (typeUrl : String) {added : KeyTypeInfoStore.Info}
    (hadded : added.newKeyAllowed = true) : AllAllowed (store.add typeUrl added true) := by
  intro url info hfind
  rw [KeyTypeInfoStore.find_add] at hfind
  split at hfind
  · cases hold : store.find typeUrl with
    | none =>
      rw [hold] at hfind
      cases hfind
      exact hadded
    | some old =>
      rw [hold] at hfind
      cases hfind
      rfl
  · exact h url info hfind

theorem AllAllowed.addPair {store : KeyTypeInfoStore} (h : AllAllowed store)
    (privateManager publicManager : KeyTypeInfoStore.KeyTypeManager) :
    AllAllowed (store.addPair privateManager publicManager true).2 := by
  unfold KeyTypeInfoStore.addPair
  dsimp only
  split
  · exact h
  · exact h
  · split
    · exact h
    · split
      · exact h
      · exact h.setNewKeyAllowed _
  · exact (h.add _ rfl).add _ rfl

theorem AllAllowed.insertTypeManager {store : KeyTypeInfoStore} (h : AllAllowed store) (mode : FipsMode)
    (manager : KeyTypeInfoStore.KeyTypeManager) : AllAllowed (store.addKeyTypeManager mode manager true).2 := by
  unfold KeyTypeInfoStore.addKeyTypeManager
  dsimp only
  split
  · exact h
  · split
    · exact h
    · exact h.add _ rfl

theorem AllAllowed.insertAsymmetric {store : KeyTypeInfoStore} (h : AllAllowed store) (mode : FipsMode)
    (privateManager publicManager : KeyTypeInfoStore.KeyTypeManager) :
    AllAllowed (store.addAsymmetricKeyTypeManagers mode privateManager publicManager true).2 := by
  unfold KeyTypeInfoStore.addAsymmetricKeyTypeManagers
  split
  · exact h
  · split
    · exact h
    · split
      · exact h
      · split
        · exact h
        · split
          · exact h
          · exact h.addPair _ _

theorem AllAllowed.insertKeyManager {store : KeyTypeInfoStore} (h : AllAllowed store)
    (manager : KeyTypeInfoStore.KeyManager) : AllAllowed (store.addKeyManager manager true).2 := by
  unfold KeyTypeInfoStore.addKeyManager
  dsimp only
  split
  · exact h
  · split
    · exact h
    · exact h.add _ rfl

/-- A registry in the mode that has the key types of a configuration, unless that is in global registry mode; and all of
them allow new keys. -/
structure Mirrors (mode : FipsMode) (build : FipsBuild) (config : KeyGenConfigurationImpl M K) (registry : Registry T) :
    Prop where
  fips             : registry.fipsMode build = mode
  keyTypeInfoStore : config.globalRegistryMode = false → registry.keyTypeInfoStore = config.keyTypeInfoStore
  allAllowed       : AllAllowed config.keyTypeInfoStore
  global           : config.globalRegistryMode = true → config.keyTypeInfoStore = {}

/-- An insertion that the registry makes as well. -/
theorem Mirrors.insert {mode : FipsMode} {build : FipsBuild} {config : KeyGenConfigurationImpl M K} {registry : Registry T}
    (h : Mirrors mode build config registry) (call : KeyTypeInfoStore.Call)
    (hallowed : AllAllowed (config.keyTypeInfoStore.step call).2) :
    Mirrors mode build (config.insert call).2 (registry.insert call).2 := by
  unfold KeyGenConfigurationImpl.insert
  cases hglobal : config.globalRegistryMode with
  | true =>
    refine ⟨h.fips, fun hfalse => ?_, h.allAllowed, h.global⟩
    cases hglobal.symm.trans hfalse
  | false =>
    refine ⟨h.fips, fun _ => ?_, hallowed, fun htrue => ?_⟩
    · exact congrArg (fun store => (KeyTypeInfoStore.step store call).2) (h.keyTypeInfoStore hglobal)
    · exact absurd htrue Bool.false_ne_true

theorem Mirrors.step {mode : FipsMode} {build : FipsBuild} {config : KeyGenConfigurationImpl M K} {registry : Registry T}
    (h : Mirrors mode build config registry) (call : Call M K) :
    Mirrors mode build (config.step mode call).2
      (match call.toRegistry with
        | none => registry
        | some call => (registry.step build call).2) := by
  cases call with
  | addKeyTypeManager keyManager =>
    have hstep := h.insert (.addKeyTypeManager mode keyManager true) (h.allAllowed.insertTypeManager mode keyManager)
    rw [← h.fips] at hstep ⊢
    exact hstep
  | addAsymmetricKeyManagers privateKeyManager publicKeyManager =>
    have hstep := h.insert (.addAsymmetricKeyTypeManagers mode privateKeyManager publicKeyManager true)
      (h.allAllowed.insertAsymmetric mode privateKeyManager publicKeyManager)
    rw [← h.fips] at hstep ⊢
    exact hstep
  | addLegacyKeyManager keyManager =>
    exact h.insert (.addKeyManager keyManager true) (h.allAllowed.insertKeyManager keyManager)
  | addKeyCreator m keyCreatorFn =>
    unfold KeyGenConfigurationImpl.step addKeyCreator
    dsimp only [Call.toRegistry]
    split
    · exact h
    · split
      · exact h
      · exact ⟨h.fips, h.keyTypeInfoStore, h.allAllowed, h.global⟩
  | setGlobalRegistryMode =>
    unfold KeyGenConfigurationImpl.step setGlobalRegistryMode
    dsimp only [Call.toRegistry]
    split
    · exact h
    · rename_i hempty
      rw [Bool.not_eq_true, Bool.not_eq_false'] at hempty
      refine ⟨h.fips, fun hfalse => ?_, h.allAllowed, fun _ => ?_⟩
      · cases hfalse
      · exact congrArg KeyTypeInfoStore.mk (List.isEmpty_iff.1 hempty)

theorem Mirrors.run {mode : FipsMode} {build : FipsBuild} :
    ∀ (calls : List (Call M K)) {config : KeyGenConfigurationImpl M K} {registry : Registry T},
      Mirrors mode build config registry →
      Mirrors mode build (config.run mode calls) (registry.run build (calls.filterMap Call.toRegistry))
  | [], _, _, h => h
  | call :: calls, config, registry, h => by
    have hrun := Mirrors.run calls (h.step call)
    cases hcall : (call.toRegistry : Option (Registry.Call T)) with
    | none =>
      rw [hcall] at hrun
      rw [List.filterMap_cons_none hcall]
      exact hrun
    | some registryCall =>
      rw [hcall] at hrun
      rw [List.filterMap_cons_some hcall]
      exact hrun

/-- A registry whose key types all allow new keys does not refuse one. -/
theorem newKeyData_eq {objects : ManagerObjects T ρ} {config : KeyGenConfigurationImpl M K} {own : Registry T}
    (hglobal : config.globalRegistryMode = false) (hstore : own.keyTypeInfoStore = config.keyTypeInfoStore)
    (hallowed : AllAllowed config.keyTypeInfoStore) (registry : Registry T) (random : Bytes) (keyTemplate : KeyTemplate) :
    config.newKeyData objects registry random keyTemplate = own.newKeyData objects random keyTemplate := by
  unfold KeyGenConfigurationImpl.newKeyData Registry.newKeyData Registry.getKeyTypeInfo KeyTypeInfoStore.get
  rw [hstore, hglobal]
  cases hfind : config.keyTypeInfoStore.find keyTemplate.typeUrl with
  | none => rfl
  | some info => simp [hallowed _ _ hfind]

theorem getPublicKeyData_eq {objects : ManagerObjects T ρ} {config : KeyGenConfigurationImpl M K} {own : Registry T}
    (hglobal : config.globalRegistryMode = false) (hstore : own.keyTypeInfoStore = config.keyTypeInfoStore)
    (registry : Registry T) (typeUrl : String) (serializedPrivateKey : Bytes) :
    config.getPublicKeyData objects registry typeUrl serializedPrivateKey =
      own.getPublicKeyData objects typeUrl serializedPrivateKey := by
  unfold KeyGenConfigurationImpl.getPublicKeyData Registry.getPublicKeyData Registry.getKeyTypeInfo
  rw [hstore, hglobal]
  rfl

end KeyGenConfigurationImpl

/-- **The keys of a configuration are those of a registry**, after any calls.  In global registry mode the configuration has
no managers and new keys come from the global registry; otherwise they are those of a registry of its own that was called
in the same way, although the configuration does not check that new keys are allowed. -/
theorem keyGenConfiguration_keys (build : FipsBuild) (isFipsRestricted : Bool) (objects : ManagerObjects T ρ)
    (calls : List (KeyGenConfigurationImpl.Call M K)) :
    let mode := Registry.fipsMode (T := T) build { isFipsRestricted }
    let config := KeyGenConfigurationImpl.run mode ({} : KeyGenConfigurationImpl M K) calls
    (config.globalRegistryMode = true → config.keyTypeInfoStore = {} ∧ ∀ registry,
      config.newKeyData objects registry = registry.newKeyData objects ∧
      config.getPublicKeyData objects registry = registry.getPublicKeyData objects) ∧
    (config.globalRegistryMode = false → ∀ registry,
      config.newKeyData objects registry = (Registry.run build { isFipsRestricted }
        (calls.filterMap KeyGenConfigurationImpl.Call.toRegistry)).newKeyData objects ∧
      config.getPublicKeyData objects registry = (Registry.run build { isFipsRestricted }
        (calls.filterMap KeyGenConfigurationImpl.Call.toRegistry)).getPublicKeyData objects) := by
  intro mode config
  have hmirrors : KeyGenConfigurationImpl.Mirrors mode build config
      (Registry.run build { isFipsRestricted } (calls.filterMap KeyGenConfigurationImpl.Call.toRegistry) : Registry T) := by
    refine KeyGenConfigurationImpl.Mirrors.run calls ⟨rfl, fun _ => rfl, fun _ _ hfind => ?_, fun h => ?_⟩
    · cases hfind
    · cases h
  refine ⟨fun hglobal => ⟨hmirrors.global hglobal, fun registry => ⟨?_, ?_⟩⟩, fun hglobal registry => ⟨?_, ?_⟩⟩
  · funext random keyTemplate
    exact if_pos hglobal
  · funext typeUrl serializedPrivateKey
    exact if_pos hglobal
  · funext random keyTemplate
    exact KeyGenConfigurationImpl.newKeyData_eq hglobal (hmirrors.keyTypeInfoStore hglobal) hmirrors.allAllowed registry
      random keyTemplate
  · funext typeUrl serializedPrivateKey
    exact KeyGenConfigurationImpl.getPublicKeyData_eq hglobal (hmirrors.keyTypeInfoStore hglobal) registry typeUrl
      serializedPrivateKey

end Configurations

end Tink
