import TinkCc.Registry
/-!
# Configuration — primitives and keys without the global registry

`configuration.h`, `internal/configuration_impl.h`, `key_gen_configuration.h`, `internal/key_gen_configuration_impl.h`, and
what `KeysetHandle` does with them: `GetPrimitive`, and the key data of `AddToKeyset` and `ExtractPublicKey`.  `K` is what
the keys of a class are.  A configuration in global registry mode stands for the global registry.
-/
namespace Tink

open KeyTypeInfoStore (TypeIndex)

section Configurations
variable {T K : TypeIndex → Type} {ρ : Type}

/-- A `Key` object, with its class. -/
abbrev AnyKey (K : TypeIndex → Type) := (k : TypeIndex) × K k

/-- `PrimitiveGetterFn<P, K>`, for a primitive type and a class of keys. -/
abbrev PrimitiveGetterFn (T K : TypeIndex → Type) (pk : TypeIndex × TypeIndex) :=
  K pk.2 → Except Status (Option (T pk.1))

/-- `Configuration`. -/
structure Configuration (T K : TypeIndex → Type) where
  globalRegistryMode   : Bool := false
  keyTypeInfoStore     : KeyTypeInfoStore := {}
  keysetWrapperStore   : KeysetWrapperStore T := {}
  primitiveGetterFnMap : List ((pk : TypeIndex × TypeIndex) × PrimitiveGetterFn T K pk) := []

def configurationImplErr : Status :=
  ⟨.failedPrecondition, "Use crypto::tink::Registry instead when in global registry mode."⟩

namespace Configuration

/-! ## Calls -/

/-- A call of `ConfigurationImpl`. -/
inductive Call (T K : TypeIndex → Type)
  | addPrimitiveWrapper (wrapper : Option (KeysetWrapperStore.AnyWrapper T))
  | addPrimitiveGetter (p k : TypeIndex) (primitiveGetterFn : K k → Except Status (Option (T p)))
  | addKeyTypeManager (keyManager : KeyTypeInfoStore.KeyTypeManager)
  | addAsymmetricKeyManagers (privateKeyManager publicKeyManager : KeyTypeInfoStore.KeyTypeManager)
  | addLegacyKeyManager (keyManager : KeyTypeInfoStore.KeyManager)
  | setGlobalRegistryMode

/-- A call that inserts into the store of key types. -/
def insert (config : Configuration T K) (call : KeyTypeInfoStore.Call) : Except Status Unit × Configuration T K :=
  ((config.keyTypeInfoStore.step call).1, { config with keyTypeInfoStore := (config.keyTypeInfoStore.step call).2 })

def addPrimitiveWrapper (config : Configuration T K) (wrapper : Option (KeysetWrapperStore.AnyWrapper T)) :
    Except Status Unit × Configuration T K :=
  if config.globalRegistryMode then (.error configurationImplErr, config)
  else
    ((config.keysetWrapperStore.add wrapper).1,
      { config with keysetWrapperStore := (config.keysetWrapperStore.add wrapper).2 })

def addPrimitiveGetter (config : Configuration T K) (p k : TypeIndex)
    (primitiveGetterFn : K k → Except Status (Option (T p))) : Except Status Unit × Configuration T K :=
  if config.globalRegistryMode then (.error configurationImplErr, config)
  else
    match config.primitiveGetterFnMap.dlookup (p, k) with
    | some _ =>
      let name := p.name
      (.error ⟨.alreadyExists, s!"Primitive getter for {name} already exists."⟩, config)
    | none =>
      (.ok (), { config with primitiveGetterFnMap := config.primitiveGetterFnMap ++ [⟨(p, k), primitiveGetterFn⟩] })

def addKeyTypeManager (mode : FipsMode) (config : Configuration T K) (keyManager : KeyTypeInfoStore.KeyTypeManager) :
    Except Status Unit × Configuration T K :=
  if config.globalRegistryMode then (.error configurationImplErr, config)
  else config.insert (.addKeyTypeManager mode keyManager true)

def addAsymmetricKeyManagers (mode : FipsMode) (config : Configuration T K)
    (privateKeyManager publicKeyManager : KeyTypeInfoStore.KeyTypeManager) : Except Status Unit × Configuration T K :=
  if config.globalRegistryMode then (.error configurationImplErr, config)
  else config.insert (.addAsymmetricKeyTypeManagers mode privateKeyManager publicKeyManager true)

def addLegacyKeyManager (config : Configuration T K) (keyManager : KeyTypeInfoStore.KeyManager) :
    Except Status Unit × Configuration T K :=
  if config.globalRegistryMode then (.error configurationImplErr, config)
  else config.insert (.addKeyManager keyManager true)

/-- `SetGlobalRegistryMode`; primitive getters are not looked at. -/
def setGlobalRegistryMode (config : Configuration T K) : Except Status Unit × Configuration T K :=
  if !config.keyTypeInfoStore.isEmpty || !config.keysetWrapperStore.isEmpty then
    (.error ⟨.failedPrecondition, "Using the global registry is only allowed when Configuration is empty."⟩, config)
  else (.ok (), { config with globalRegistryMode := true })

/-- A call, in some FIPS mode. -/
def step (mode : FipsMode) (config : Configuration T K) : Call T K → Except Status Unit × Configuration T K
  | .addPrimitiveWrapper wrapper => config.addPrimitiveWrapper wrapper
  | .addPrimitiveGetter p k primitiveGetterFn => config.addPrimitiveGetter p k primitiveGetterFn
  | .addKeyTypeManager keyManager => config.addKeyTypeManager mode keyManager
  | .addAsymmetricKeyManagers privateKeyManager publicKeyManager =>
    config.addAsymmetricKeyManagers mode privateKeyManager publicKeyManager
  | .addLegacyKeyManager keyManager => config.addLegacyKeyManager keyManager
  | .setGlobalRegistryMode => config.setGlobalRegistryMode

/-- The configuration after some calls, whatever they have returned. -/
def run (mode : FipsMode) (config : Configuration T K) (calls : List (Call T K)) : Configuration T K :=
  calls.foldl (fun config call => (config.step mode call).2) config

/-! ## Primitives -/

section Reads
variable (objects : ManagerObjects T ρ)

def getKeysetWrapperStore (config : Configuration T K) : Except Status (KeysetWrapperStore T) :=
  if config.globalRegistryMode then .error configurationImplErr else .ok config.keysetWrapperStore

/-- `primitive_getter`. -/
def primitiveGetter (config : Configuration T K) (p : TypeIndex) (keyData : KeyData) : Except Status (Option (T p)) :=
  match config.keyTypeInfoStore.get keyData.typeUrl with
  | .error e => .error e
  | .ok info => info.getPrimitive objects p keyData

/-- `primitive_getter_from_key`. -/
def primitiveGetterFromKey (config : Configuration T K) (p : TypeIndex) (key : AnyKey K) : Except Status (Option (T p)) :=
  match config.primitiveGetterFnMap.dlookup (p, key.1) with
  | some fn => fn key.2
  | none =>
    let name := p.name
    let keyName := key.1.name
    .error ⟨.notFound, s!"Primitive getter for ({name},{keyName}) not found."⟩

/-- What the wrappers of a configuration ask for primitives. -/
def getters (config : Configuration T K) (parseKey : ProtoKeySerialization → Except Status (AnyKey K)) (p : TypeIndex) :
    PrimitiveGetters (AnyKey K) (T p) where
  parseKey := parseKey
  primitiveGetter := config.primitiveGetter objects p
  primitiveGetterFromKey := config.primitiveGetterFromKey p

/-- `KeysetHandle::GetPrimitiveVoid`, with the global registry; wrappers read its monitoring factory in either mode. -/
def getPrimitive (config : Configuration T K) (registry : Registry T)
    (parseKey : ProtoKeySerialization → Except Status (AnyKey K)) (q : TypeIndex) (keyset : Keyset)
    (annotations : List (String × String)) : Except Status (T q) :=
  if config.globalRegistryMode then
    registry.wrapKeyset objects parseKey registry.monitoringFactory q keyset annotations
  else
    match config.getKeysetWrapperStore with
    | .error e => .error e
    | .ok wrapperStore =>
      match wrapperStore.get q with
      | .error e => .error e
      | .ok wrapper => wrapper.wrap (config.getters objects parseKey) registry.monitoringFactory keyset annotations

end Reads

/-! ## Global registry mode -/

/-- A configuration in global registry mode has nothing of its own but primitive getters. -/
def ModeExclusive (config : Configuration T K) : Prop :=
  config.globalRegistryMode = true → config.keyTypeInfoStore = {} ∧ config.keysetWrapperStore = {}

/-- **In global registry mode every call but `SetGlobalRegistryMode` is refused.** -/
theorem step_global {mode : FipsMode} {config : Configuration T K} (h : config.globalRegistryMode = true) {call : Call T K}
    (hcall : call ≠ .setGlobalRegistryMode) : config.step mode call = (.error configurationImplErr, config) := by
  cases call with
  | addPrimitiveWrapper wrapper => exact if_pos h
  | addPrimitiveGetter p k primitiveGetterFn => exact if_pos h
  | addKeyTypeManager keyManager => exact if_pos h
  | addAsymmetricKeyManagers privateKeyManager publicKeyManager => exact if_pos h
  | addLegacyKeyManager keyManager => exact if_pos h
  | setGlobalRegistryMode => exact absurd rfl hcall

/-- Other calls do not change the mode. -/
theorem step_mode {mode : FipsMode} (config : Configuration T K) {call : Call T K} (hcall : call ≠ .setGlobalRegistryMode) :
    (config.step mode call).2.globalRegistryMode = config.globalRegistryMode := by
  cases h : config.globalRegistryMode with
  | true => rw [step_global h hcall, h]
  | false =>
    cases call with
    | addPrimitiveWrapper wrapper => simp [step, addPrimitiveWrapper, h]
    | addPrimitiveGetter p k primitiveGetterFn =>
      unfold step addPrimitiveGetter
      dsimp only
      split
      · exact h
      · split
        · exact h
        · exact h
    | addKeyTypeManager keyManager => simp [step, addKeyTypeManager, insert, h]
    | addAsymmetricKeyManagers privateKeyManager publicKeyManager => simp [step, addAsymmetricKeyManagers, insert, h]
    | addLegacyKeyManager keyManager => simp [step, addLegacyKeyManager, insert, h]
    | setGlobalRegistryMode => exact absurd rfl hcall

theorem step_modeExclusive {mode : FipsMode} {config : Configuration T K} (h : config.ModeExclusive) (call : Call T K) :
    (config.step mode call).2.ModeExclusive := by
  by_cases hcall : call = .setGlobalRegistryMode
  · subst hcall
    unfold step setGlobalRegistryMode
    dsimp only
    split
    · exact h
    · rename_i hempty
      rw [Bool.or_eq_true, not_or, Bool.not_eq_true, Bool.not_eq_true, Bool.not_eq_false', Bool.not_eq_false'] at hempty
      obtain ⟨htypes, hwrappers⟩ := hempty
      refine fun _ => ⟨?_, ?_⟩
      · exact congrArg KeyTypeInfoStore.mk (List.isEmpty_iff.1 htypes)
      · exact congrArg KeysetWrapperStore.mk (List.isEmpty_iff.1 hwrappers)
  · intro hmode
    rw [step_mode config hcall] at hmode
    rw [step_global hmode hcall]
    exact h hmode

theorem run_modeExclusive {mode : FipsMode} : ∀ (calls : List (Call T K)) {config : Configuration T K},
    config.ModeExclusive → (config.run mode calls).ModeExclusive
  | [], _, h => h
  | call :: calls, _, h => run_modeExclusive calls (step_modeExclusive h call)

/-- Global registry mode is not left. -/
theorem run_global {mode : FipsMode} : ∀ (calls : List (Call T K)) {config : Configuration T K},
    config.globalRegistryMode = true → (config.run mode calls).globalRegistryMode = true
  | [], _, h => h
  | call :: calls, config, h => by
    have hstep : (config.step mode call).2.globalRegistryMode = true := by
      by_cases hcall : call = .setGlobalRegistryMode
      · subst hcall
        unfold step setGlobalRegistryMode
        dsimp only
        split
        · exact h
        · rfl
      · rw [step_mode config hcall, h]
    exact run_global calls hstep

/-! ## A registry of its own -/

/-- The call of a registry that does the same; primitive getters have none. -/
def Call.toRegistry : Call T K → Option (Registry.Call T)
  | .addPrimitiveWrapper wrapper => some (.registerPrimitiveWrapper wrapper)
  | .addPrimitiveGetter _ _ _ => none
  | .addKeyTypeManager keyManager => some (.registerKeyTypeManager (some keyManager) true)
  | .addAsymmetricKeyManagers privateKeyManager publicKeyManager =>
    some (.registerAsymmetricKeyManagers (some privateKeyManager) (some publicKeyManager) true)
  | .addLegacyKeyManager keyManager => some (.registerKeyManager (some keyManager) true)
  | .setGlobalRegistryMode => none

/-- A registry in the mode that has the stores of a configuration, unless that is in global registry mode. -/
structure Mirrors (mode : FipsMode) (build : FipsBuild) (config : Configuration T K) (registry : Registry T) : Prop where
  fips               : registry.fipsMode build = mode
  keyTypeInfoStore   : config.globalRegistryMode = false → registry.keyTypeInfoStore = config.keyTypeInfoStore
  keysetWrapperStore : config.globalRegistryMode = false → registry.keysetWrapperStore = config.keysetWrapperStore

/-- The registry after the calls that do the same. -/
def mirrorStep (build : FipsBuild) (registry : Registry T) (call : Call T K) : Registry T :=
  match call.toRegistry with
  | none => registry
  | some call => (registry.step build call).2

theorem Mirrors.global {mode : FipsMode} {build : FipsBuild} {config config' : Configuration T K}
    {registry registry' : Registry T} (h : Mirrors mode build config registry)
    (hfips : registry'.isFipsRestricted = registry.isFipsRestricted) (hmode : config'.globalRegistryMode = true) :
    Mirrors mode build config' registry' := by
  refine ⟨?_, fun hfalse => ?_, fun hfalse => ?_⟩
  · rw [← h.fips]
    unfold Registry.fipsMode Registry.isFipsModeEnabled
    rw [hfips]
  · rw [hmode] at hfalse
    cases hfalse
  · rw [hmode] at hfalse
    cases hfalse

theorem mirrorStep_isFipsRestricted (build : FipsBuild) (registry : Registry T) (call : Call T K) :
    (mirrorStep build registry call).isFipsRestricted = registry.isFipsRestricted := by
  cases call with
  | addPrimitiveWrapper wrapper => rfl
  | addPrimitiveGetter p k primitiveGetterFn => rfl
  | addKeyTypeManager keyManager => rfl
  | addAsymmetricKeyManagers privateKeyManager publicKeyManager => rfl
  | addLegacyKeyManager keyManager => rfl
  | setGlobalRegistryMode => rfl

/-- **One call keeps the stores the same**, or leads to global registry mode. -/
theorem Mirrors.step {mode : FipsMode} {build : FipsBuild} {config : Configuration T K} {registry : Registry T}
    (h : Mirrors mode build config registry) (call : Call T K) :
    Mirrors mode build (config.step mode call).2 (mirrorStep build registry call) := by
  have hfips := mirrorStep_isFipsRestricted build registry call
  cases hglobal : config.globalRegistryMode with
  | true =>
    refine h.global hfips ?_
    exact run_global [call] hglobal
  | false =>
    have htypes := h.keyTypeInfoStore hglobal
    have hwrappers := h.keysetWrapperStore hglobal
    cases call with
    | addPrimitiveWrapper wrapper =>
      unfold Configuration.step addPrimitiveWrapper mirrorStep
      rw [hglobal]
      refine ⟨h.fips, fun _ => htypes, fun _ => ?_⟩
      exact congrArg (fun store => (KeysetWrapperStore.add store wrapper).2) hwrappers
    | addPrimitiveGetter p k primitiveGetterFn =>
      unfold Configuration.step addPrimitiveGetter mirrorStep
      rw [hglobal]
      dsimp only [Call.toRegistry]
      split
      · exact h
      · split
        · exact h
        · exact ⟨h.fips, fun _ => htypes, fun _ => hwrappers⟩
    | addKeyTypeManager keyManager =>
      unfold Configuration.step addKeyTypeManager mirrorStep
      rw [hglobal, ← h.fips]
      refine ⟨rfl, fun _ => ?_, fun _ => hwrappers⟩
      exact congrArg (fun store => (KeyTypeInfoStore.step store _).2) htypes
    | addAsymmetricKeyManagers privateKeyManager publicKeyManager =>
      unfold Configuration.step addAsymmetricKeyManagers mirrorStep
      rw [hglobal, ← h.fips]
      refine ⟨rfl, fun _ => ?_, fun _ => hwrappers⟩
      exact congrArg (fun store => (KeyTypeInfoStore.step store _).2) htypes
    | addLegacyKeyManager keyManager =>
      unfold Configuration.step addLegacyKeyManager mirrorStep
      rw [hglobal]
      refine ⟨h.fips, fun _ => ?_, fun _ => hwrappers⟩
      exact congrArg (fun store => (KeyTypeInfoStore.step store _).2) htypes
    | setGlobalRegistryMode =>
      unfold Configuration.step setGlobalRegistryMode mirrorStep
      dsimp only [Call.toRegistry]
      split
      · exact h
      · exact h.global rfl rfl

theorem Mirrors.run {mode : FipsMode} {build : FipsBuild} :
    ∀ (calls : List (Call T K)) {config : Configuration T K} {registry : Registry T}, Mirrors mode build config registry →
      Mirrors mode build (config.run mode calls) (registry.run build (calls.filterMap Call.toRegistry))
  | [], _, _, h => h
  | call :: calls, config, registry, h => by
    have hrun := Mirrors.run calls (h.step call)
    unfold mirrorStep at hrun
    cases hcall : call.toRegistry with
    | none =>
      rw [hcall] at hrun
      rw [List.filterMap_cons_none hcall]
      exact hrun
    | some registryCall =>
      rw [hcall] at hrun
      rw [List.filterMap_cons_some hcall]
      exact hrun

/-! ## The same primitives -/

theorem wrapLoop_congr {Key Key' P : Type} {getters : PrimitiveGetters Key P} {getters' : PrimitiveGetters Key' P}
    (h : ∀ key, primitiveForKey getters key = primitiveForKey getters' key) (primaryKeyId : UInt32) :
    ∀ (keys : List KeysetKey) (builder : PrimitiveSetBuilder P),
      wrapLoop getters primaryKeyId keys builder = wrapLoop getters' primaryKeyId keys builder
  | [], _ => rfl
  | key :: keys, builder => by
    unfold wrapLoop
    rw [h key]
    simp only [wrapLoop_congr h primaryKeyId keys]

theorem keysetWrap_congr {Key Key' P Q : Type} {getters : PrimitiveGetters Key P} {getters' : PrimitiveGetters Key' P}
    (h : ∀ key, primitiveForKey getters key = primitiveForKey getters' key) (wrap : PrimitiveSet P → Except Status Q)
    (keyset : Keyset) : keysetWrap getters wrap keyset = keysetWrap getters' wrap keyset := by
  unfold keysetWrap primitiveSetOf
  simp only [wrapLoop_congr h]

/-- Every primitive getter, for a key that was parsed, gives what the key manager gives for its key data, or declines. -/
def GettersAgree (objects : ManagerObjects T ρ) (parseKey : ProtoKeySerialization → Except Status (AnyKey K))
    (config : Configuration T K) : Prop :=
  ∀ p (keyData : KeyData) serialization key fn,
    ProtoKeySerialization.create keyData.typeUrl keyData.value keyData.keyMaterialType .raw none = .ok serialization →
    parseKey serialization = .ok key → config.primitiveGetterFnMap.dlookup (p, key.1) = some fn →
    fn key.2 = config.primitiveGetter objects p keyData ∨ ∃ e, fn key.2 = .error e ∧ e.code = .notFound

theorem primitiveForKey_eq {objects : ManagerObjects T ρ} {parseKey : ProtoKeySerialization → Except Status (AnyKey K)}
    {config : Configuration T K} (hagree : config.GettersAgree objects parseKey) {registry : Registry T}
    (htypes : registry.keyTypeInfoStore = config.keyTypeInfoStore) (p : TypeIndex) (protoKey : KeysetKey) :
    primitiveForKey (config.getters objects parseKey p) protoKey =
      primitiveForKey (registry.getters objects parseKey p) protoKey := by
  rw [Registry.primitiveForKey_getters]
  have hgetter : registry.getPrimitive objects p protoKey.getKeyData =
      config.primitiveGetter objects p protoKey.getKeyData :=
    congrArg (fun store : KeyTypeInfoStore => Registry.getPrimitive objects { keyTypeInfoStore := store } p protoKey.getKeyData)
      htypes
  unfold primitiveForKey
  cases hcreate : ProtoKeySerialization.create protoKey.getKeyData.typeUrl protoKey.getKeyData.value
      protoKey.getKeyData.keyMaterialType .raw none with
  | error e => rfl
  | ok serialization =>
    dsimp only [getters]
    rw [hgetter]
    cases hparse : parseKey serialization with
    | error e => rfl
    | ok key =>
      dsimp only
      unfold primitiveGetterFromKey
      cases hlookup : config.primitiveGetterFnMap.dlookup (p, key.1) with
      | none => exact if_pos rfl
      | some fn =>
        dsimp only
        rcases hagree p _ serialization key fn hcreate hparse hlookup with hsame | ⟨e, herror, hcode⟩
        · rw [hsame]
          cases config.primitiveGetter objects p protoKey.getKeyData with
          | error e => simp
          | ok primitive => rfl
        · rw [herror]
          exact if_pos hcode

theorem getPrimitive_eq {objects : ManagerObjects T ρ} {parseKey : ProtoKeySerialization → Except Status (AnyKey K)}
    {config : Configuration T K} (hglobal : config.globalRegistryMode = false) (hagree : config.GettersAgree objects parseKey)
    {own : Registry T} (htypes : own.keyTypeInfoStore = config.keyTypeInfoStore)
    (hwrappers : own.keysetWrapperStore = config.keysetWrapperStore) (registry : Registry T) (q : TypeIndex)
    (keyset : Keyset) (annotations : List (String × String)) :
    config.getPrimitive objects registry parseKey q keyset annotations =
      own.wrapKeyset objects parseKey registry.monitoringFactory q keyset annotations := by
  unfold getPrimitive getKeysetWrapperStore Registry.wrapKeyset
  simp only [hglobal, hwrappers, Bool.false_eq_true, if_false]
  cases config.keysetWrapperStore.get q with
  | error e => rfl
  | ok wrapper => exact keysetWrap_congr (primitiveForKey_eq hagree htypes _) _ _

end Configuration

/-- **The primitives of a configuration are those of a registry**, after any calls.  In global registry mode the
configuration has no managers and no wrappers, never leaves the mode, and gives what the global registry gives; otherwise it
gives what a registry of its own would give that was called in the same way, if its primitive getters make of a key what the
key managers make of the key data. -/
theorem configuration_primitives (build : FipsBuild) (isFipsRestricted : Bool) (objects : ManagerObjects T ρ)
    (parseKey : ProtoKeySerialization → Except Status (AnyKey K)) (calls : List (Configuration.Call T K)) :
    let mode := Registry.fipsMode (T := T) build { isFipsRestricted }
    let config := Configuration.run mode ({} : Configuration T K) calls
    (config.globalRegistryMode = true →
      (config.keyTypeInfoStore = {} ∧ config.keysetWrapperStore = {}) ∧
      ∀ later registry q keyset annotations,
        (config.run mode later).getPrimitive objects registry parseKey q keyset annotations =
          registry.wrapKeyset objects parseKey registry.monitoringFactory q keyset annotations) ∧
    (config.globalRegistryMode = false → config.GettersAgree objects parseKey → ∀ registry q keyset annotations,
      config.getPrimitive objects registry parseKey q keyset annotations =
        (Registry.run build { isFipsRestricted } (calls.filterMap Configuration.Call.toRegistry)).wrapKeyset objects parseKey
          registry.monitoringFactory q keyset annotations) := by
  intro mode config
  refine ⟨fun hglobal => ⟨?_, fun later registry q keyset annotations => ?_⟩,
    fun hglobal hagree registry q keyset annotations => ?_⟩
  · exact Configuration.run_modeExclusive calls (fun h => by cases h) hglobal
  · unfold Configuration.getPrimitive
    rw [if_pos (Configuration.run_global later hglobal)]
  · have hmirrors : Configuration.Mirrors mode build config
        (Registry.run build { isFipsRestricted } (calls.filterMap Configuration.Call.toRegistry)) :=
      Configuration.Mirrors.run calls ⟨rfl, fun _ => rfl, fun _ => rfl⟩
    exact Configuration.getPrimitive_eq hglobal hagree (hmirrors.keyTypeInfoStore hglobal)
      (hmirrors.keysetWrapperStore hglobal) registry q keyset annotations

end Configurations

/-- A wrapper, and a key manager and a primitive getter for the same keys. -/
def aesGcmCalls : List (Configuration.Call (fun _ => Nat) fun _ => Bytes) :=
  [.addPrimitiveWrapper (some ⟨_, _, Registry.primaryWrapper⟩), .addKeyTypeManager Registry.aesGcmKeyManager,
    .addPrimitiveGetter ⟨"Aead"⟩ ⟨"AesGcmKey"⟩ fun key => .ok (some key.length)]

/-- Only AES-GCM keys are parsed. -/
def parseAesGcmKey (serialization : ProtoKeySerialization) : Except Status (AnyKey fun _ => Bytes) :=
  if serialization.typeUrl = "AesGcmKey" then .ok ⟨⟨"AesGcmKey"⟩, serialization.serializedKey⟩
  else .error ⟨.notFound, ""⟩

/-- The configuration after the calls. -/
def aesGcmConfiguration : Configuration (fun _ => Nat) fun _ => Bytes :=
  Configuration.run (Registry.fipsMode (T := fun _ => Nat) ⟨false, false⟩ { isFipsRestricted := false }) {} aesGcmCalls

theorem aesGcmConfiguration_agrees : aesGcmConfiguration.GettersAgree Registry.lengthObjects parseAesGcmKey := by
  intro p keyData serialization key fn hcreate hparse hlookup
  obtain ⟨hurl, hvalue, -⟩ := ProtoKeySerialization.create_ok hcreate
  have hmap : aesGcmConfiguration.primitiveGetterFnMap =
      [⟨(⟨"Aead"⟩, ⟨"AesGcmKey"⟩), fun key => .ok (some key.length)⟩] := rfl
  unfold parseAesGcmKey at hparse
  split at hparse
  · rename_i haes
    cases hparse
    by_cases hp : p = ⟨"Aead"⟩
    · subst hp
      rw [hmap, List.dlookup_cons_eq] at hlookup
      cases hlookup
      obtain ⟨typeUrl, value, m⟩ := keyData
      cases hurl.symm.trans haes
      rw [hvalue]
      exact .inl rfl
    · rw [hmap, List.dlookup_cons_ne _ _ fun h => hp (congrArg Prod.fst h)] at hlookup
      cases hlookup
  · cases hparse

/-- A keyset is wrapped through the getter as a registry wraps it through the manager. -/
theorem configuration_primitives_aesGcm :
    aesGcmConfiguration.getPrimitive Registry.lengthObjects {} parseAesGcmKey ⟨"Aead"⟩ Registry.aesGcmKeyset [] =
      (Registry.run ⟨false, false⟩ { isFipsRestricted := false }
        (aesGcmCalls.filterMap Configuration.Call.toRegistry)).wrapKeyset Registry.lengthObjects parseAesGcmKey none
        ⟨"Aead"⟩ Registry.aesGcmKeyset [] :=
  (configuration_primitives ⟨false, false⟩ false Registry.lengthObjects parseAesGcmKey aesGcmCalls).2 rfl
    aesGcmConfiguration_agrees {} ⟨"Aead"⟩ Registry.aesGcmKeyset []

end Tink
