import TinkCc.KeysetWrapperStore
/-!
# Registry — key managers, wrappers, monitoring and FIPS mode

`internal/registry_impl.h`, `internal/registry_impl.cc` and the FIPS flag of `internal/fips_utils.cc`.  What a manager
object gives, its primitives, its key factory and its deriver, is a parameter; the registry decides which object is asked.
A call that holds the lock is one step.
-/
namespace Tink

open KeyTypeInfoStore (TypeIndex)

/-! ## Managers -/

/-- What the manager objects give.  A key deriver reads from a stream with states `ρ`; what a key factory draws at random
is its second argument. -/
structure ManagerObjects (T : TypeIndex → Type) (ρ : Type) where
  /-- The keys of `primitive_to_manager_`, in the order in which they are walked. -/
  primitives        : Nat → List TypeIndex
  getPrimitive      : Nat → (p : TypeIndex) → KeyData → Except Status (Option (T p))
  newKeyData        : Nat → Bytes → Bytes → Except Status KeyData
  /-- `PrivateKeyFactory::GetPublicKeyData`, of a manager and the class of its public manager. -/
  privateKeyFactory : Nat → Option TypeIndex → Option (Bytes → Except Status KeyData)
  keyDeriver        : Nat → Option (Bytes → ρ → Except Status KeyData × ρ)

section Objects
variable {T : TypeIndex → Type} {ρ : Type} (objects : ManagerObjects T ρ)

namespace KeyTypeInfoStore.Info

/-- `get_key_manager`: the object whose `KeyManager<P>` it is. -/
def getKeyManager (info : Info) (p : TypeIndex) (requestedTypeUrl : String) : Except Status Nat :=
  if p ∈ objects.primitives info.manager then .ok info.manager
  else
    let name := p.name
    let supported := ", ".intercalate ((objects.primitives info.manager).map TypeIndex.name)
    .error ⟨.invalidArgument,
      s!"Primitive type {name} not among supported primitives {supported} for type URL {requestedTypeUrl}"⟩

def getPrimitive (info : Info) (p : TypeIndex) (keyData : KeyData) : Except Status (Option (T p)) :=
  match info.getKeyManager objects p keyData.typeUrl with
  | .error e => .error e
  | .ok manager => objects.getPrimitive manager p keyData

end KeyTypeInfoStore.Info
end Objects

/-! ## The registry -/

/-- What does not change while the program runs: `kUseOnlyFips` and `IsFipsEnabledInSsl`. -/
structure FipsBuild where
  useOnlyFips        : Bool
  isFipsEnabledInSsl : Bool

structure Registry (T : TypeIndex → Type) where
  keyTypeInfoStore   : KeyTypeInfoStore := {}
  keysetWrapperStore : KeysetWrapperStore T := {}
  monitoringFactory  : Option Monitoring.ClientFactory := none
  isFipsRestricted   : Bool := false

namespace Registry
variable {T : TypeIndex → Type} {ρ : Type}

/-- `IsFipsModeEnabled`. -/
def isFipsModeEnabled (build : FipsBuild) (registry : Registry T) : Bool := build.useOnlyFips || registry.isFipsRestricted

def fipsMode (build : FipsBuild) (registry : Registry T) : FipsMode :=
  ⟨registry.isFipsModeEnabled build, build.isFipsEnabledInSsl⟩

/-! ## Calls that change it -/

/-- A call; a parameter that is null is `none`. -/
inductive Call (T : TypeIndex → Type)
  | registerKeyManager (manager : Option KeyTypeInfoStore.KeyManager) (newKeyAllowed : Bool)
  | registerKeyTypeManager (manager : Option KeyTypeInfoStore.KeyTypeManager) (newKeyAllowed : Bool)
  | registerAsymmetricKeyManagers (privateManager publicManager : Option KeyTypeInfoStore.KeyTypeManager)
    (newKeyAllowed : Bool)
  | registerPrimitiveWrapper (wrapper : Option (KeysetWrapperStore.AnyWrapper T))
  | registerMonitoringClientFactory (factory : Option Monitoring.ClientFactory)
  | restrictToFipsIfEmpty
  | reset

/-- A call that inserts into the store of key types. -/
def insert (registry : Registry T) (call : KeyTypeInfoStore.Call) : Except Status Unit × Registry T :=
  ((registry.keyTypeInfoStore.step call).1, { registry with keyTypeInfoStore := (registry.keyTypeInfoStore.step call).2 })

def registerKeyManager (registry : Registry T) (manager : Option KeyTypeInfoStore.KeyManager) (newKeyAllowed : Bool) :
    Except Status Unit × Registry T :=
  match manager with
  | none => (.error ⟨.invalidArgument, "Parameter 'manager' must be non-null."⟩, registry)
  | some manager => registry.insert (.addKeyManager manager newKeyAllowed)

def registerKeyTypeManager (build : FipsBuild) (registry : Registry T) (manager : Option KeyTypeInfoStore.KeyTypeManager)
    (newKeyAllowed : Bool) : Except Status Unit × Registry T :=
  match manager with
  | none => (.error ⟨.invalidArgument, "Parameter 'manager' must be non-null."⟩, registry)
  | some manager => registry.insert (.addKeyTypeManager (registry.fipsMode build) manager newKeyAllowed)

def registerAsymmetricKeyManagers (build : FipsBuild) (registry : Registry T)
    (privateManager publicManager : Option KeyTypeInfoStore.KeyTypeManager) (newKeyAllowed : Bool) :
    Except Status Unit × Registry T :=
  match privateManager with
  | none => (.error ⟨.invalidArgument, "Parameter 'private_manager' must be non-null."⟩, registry)
  | some privateManager =>
    match publicManager with
    | none => (.error ⟨.invalidArgument, "Parameter 'public_manager' must be non-null."⟩, registry)
    | some publicManager =>
      registry.insert (.addAsymmetricKeyTypeManagers (registry.fipsMode build) privateManager publicManager newKeyAllowed)

def registerPrimitiveWrapper (registry : Registry T) (wrapper : Option (KeysetWrapperStore.AnyWrapper T)) :
    Except Status Unit × Registry T :=
  ((registry.keysetWrapperStore.add wrapper).1,
    { registry with keysetWrapperStore := (registry.keysetWrapperStore.add wrapper).2 })

def registerMonitoringClientFactory (registry : Registry T) (factory : Option Monitoring.ClientFactory) :
    Except Status Unit × Registry T :=
  match factory with
  | none => (.error ⟨.invalidArgument, "Monitoring factory must not be null"⟩, registry)
  | some factory =>
    if registry.monitoringFactory.isSome then
      (.error ⟨.alreadyExists, "A monitoring factory is already registered"⟩, registry)
    else (.ok (), { registry with monitoringFactory := some factory })

def restrictToFipsIfEmpty (build : FipsBuild) (registry : Registry T) : Except Status Unit × Registry T :=
  if registry.isFipsModeEnabled build then (.ok (), registry)
  else if registry.keyTypeInfoStore.isEmpty then (.ok (), { registry with isFipsRestricted := true })
  else (.error ⟨.internal, "Could not set FIPS only mode. Registry is not empty."⟩, registry)

/-- `Reset`; the FIPS flag stays. -/
def reset (registry : Registry T) : Registry T :=
  { registry with keyTypeInfoStore := {}, keysetWrapperStore := {}, monitoringFactory := none }

def step (build : FipsBuild) (registry : Registry T) : Call T → Except Status Unit × Registry T
  | .registerKeyManager manager newKeyAllowed => registry.registerKeyManager manager newKeyAllowed
  | .registerKeyTypeManager manager newKeyAllowed => registry.registerKeyTypeManager build manager newKeyAllowed
  | .registerAsymmetricKeyManagers privateManager publicManager newKeyAllowed =>
    registry.registerAsymmetricKeyManagers build privateManager publicManager newKeyAllowed
  | .registerPrimitiveWrapper wrapper => registry.registerPrimitiveWrapper wrapper
  | .registerMonitoringClientFactory factory => registry.registerMonitoringClientFactory factory
  | .restrictToFipsIfEmpty => registry.restrictToFipsIfEmpty build
  | .reset => (.ok (), registry.reset)

/-- The registry after some calls, whatever they have returned. -/
def run (build : FipsBuild) (registry : Registry T) (calls : List (Call T)) : Registry T :=
  calls.foldl (fun registry call => (registry.step build call).2) registry

/-! ## Calls that read it -/

section Reads
variable (objects : ManagerObjects T ρ) (registry : Registry T)

def getKeyTypeInfo (typeUrl : String) : Except Status KeyTypeInfoStore.Info := registry.keyTypeInfoStore.get typeUrl

def getKeyManager (p : TypeIndex) (typeUrl : String) : Except Status Nat :=
  match registry.getKeyTypeInfo typeUrl with
  | .error e => .error e
  | .ok info => info.getKeyManager objects p typeUrl

def getPrimitive (p : TypeIndex) (keyData : KeyData) : Except Status (Option (T p)) :=
  match registry.getKeyTypeInfo keyData.typeUrl with
  | .error e => .error e
  | .ok info => info.getPrimitive objects p keyData

def newKeyData (random : Bytes) (keyTemplate : KeyTemplate) : Except Status KeyData :=
  match registry.getKeyTypeInfo keyTemplate.typeUrl with
  | .error e => .error e
  | .ok info =>
    if !info.newKeyAllowed then
      let typeUrl := keyTemplate.typeUrl
      .error ⟨.invalidArgument, s!"KeyManager for type {typeUrl} does not allow for creation of new keys."⟩
    else objects.newKeyData info.manager random keyTemplate.value

def getPublicKeyData (typeUrl : String) (serializedPrivateKey : Bytes) : Except Status KeyData :=
  match registry.getKeyTypeInfo typeUrl with
  | .error e => .error e
  | .ok info =>
    match objects.privateKeyFactory info.manager info.publicKeyTypeManagerTypeIndex with
    | none => .error ⟨.invalidArgument, s!"KeyManager for type '{typeUrl}' does not have a PrivateKeyFactory."⟩
    | some getPublicKeyData => getPublicKeyData serializedPrivateKey

def deriveKey (keyTemplate : KeyTemplate) (randomness : ρ) : Except Status KeyData × ρ :=
  match registry.getKeyTypeInfo keyTemplate.typeUrl with
  | .error e => (.error e, randomness)
  | .ok info =>
    match objects.keyDeriver info.manager with
    | none =>
      let typeUrl := keyTemplate.typeUrl
      (.error ⟨.invalidArgument, s!"Manager for type '{typeUrl}' cannot derive keys."⟩, randomness)
    | some deriver => deriver keyTemplate.value randomness

/-- `Wrap`, of a set with annotations; a set that is null is `none`, and `factory` is that of the global registry. -/
def wrap (factory : Option Monitoring.ClientFactory) (p : TypeIndex) (annotations : List (String × String)) :
    Option (PrimitiveSet (T p)) → Except Status (T p)
  | none => .error ⟨.invalidArgument, "Parameter 'primitive_set' must be non-null."⟩
  | some primitives =>
    match registry.keysetWrapperStore.getPrimitiveWrapper p with
    | .error e => .error e
    | .ok wrapper => wrapper.wrap factory annotations primitives

/-- What the wrappers of a registry ask for primitives. -/
def getters {Key : Type} (parseKey : ProtoKeySerialization → Except Status Key) (p : TypeIndex) :
    PrimitiveGetters Key (T p) where
  parseKey := parseKey
  primitiveGetter := registry.getPrimitive objects p
  primitiveGetterFromKey _ := .error ⟨.notFound, "Primitive getter not available in global registry mode."⟩

/-- `WrapKeyset`; `factory` is that of the global registry. -/
def wrapKeyset {Key : Type} (parseKey : ProtoKeySerialization → Except Status Key)
    (factory : Option Monitoring.ClientFactory) (q : TypeIndex) (keyset : Keyset) (annotations : List (String × String)) :
    Except Status (T q) :=
  match registry.keysetWrapperStore.get q with
  | .error e => .error e
  | .ok wrapper => wrapper.wrap (registry.getters objects parseKey) factory keyset annotations

end Reads

/-! ## What every call but `Reset` keeps -/

/-- Nothing that the first registry has is replaced in the second. -/
structure Extends (registry registry' : Registry T) : Prop where
  keyTypeInfoStore   : registry.keyTypeInfoStore.Extends registry'.keyTypeInfoStore
  keysetWrapperStore : registry.keysetWrapperStore.Extends registry'.keysetWrapperStore
  monitoringFactory  : ∀ factory, registry.monitoringFactory = some factory → registry'.monitoringFactory = some factory
  isFipsRestricted   : registry.isFipsRestricted = true → registry'.isFipsRestricted = true

theorem Extends.refl (registry : Registry T) : Extends registry registry :=
  ⟨.refl _, .refl _, fun _ h => h, id⟩

theorem Extends.trans {registry registry' registry'' : Registry T} (h : Extends registry registry')
    (h' : Extends registry' registry'') : Extends registry registry'' :=
  ⟨h.keyTypeInfoStore.trans h'.keyTypeInfoStore, h.keysetWrapperStore.trans h'.keysetWrapperStore,
    fun factory hf => h'.monitoringFactory factory (h.monitoringFactory factory hf),
    fun hf => h'.isFipsRestricted (h.isFipsRestricted hf)⟩

theorem insert_extends (registry : Registry T) (call : KeyTypeInfoStore.Call) :
    Extends registry (registry.insert call).2 :=
  ⟨KeyTypeInfoStore.step_extends _ call, .refl _, fun _ h => h, id⟩

theorem step_extends {build : FipsBuild} {registry : Registry T} {call : Call T} (h : call ≠ .reset) :
    Extends registry (registry.step build call).2 := by
  cases call with
  | registerKeyManager manager newKeyAllowed =>
    cases manager with
    | none => exact .refl registry
    | some manager => exact insert_extends registry _
  | registerKeyTypeManager manager newKeyAllowed =>
    cases manager with
    | none => exact .refl registry
    | some manager => exact insert_extends registry _
  | registerAsymmetricKeyManagers privateManager publicManager newKeyAllowed =>
    cases privateManager with
    | none => exact .refl registry
    | some privateManager =>
      cases publicManager with
      | none => exact .refl registry
      | some publicManager => exact insert_extends registry _
  | registerPrimitiveWrapper wrapper =>
    exact ⟨.refl _, KeysetWrapperStore.add_extends _ wrapper, fun _ h => h, id⟩
  | registerMonitoringClientFactory factory =>
    unfold step registerMonitoringClientFactory
    cases factory with
    | none => exact .refl registry
    | some factory =>
      dsimp only
      split
      · exact .refl registry
      · rename_i hnone
        exact ⟨.refl _, .refl _, fun f hf => absurd (by rw [hf]; rfl) hnone, id⟩
  | restrictToFipsIfEmpty =>
    unfold step restrictToFipsIfEmpty
    dsimp only
    split
    · exact .refl registry
    · split
      · exact ⟨.refl _, .refl _, fun _ h => h, fun _ => rfl⟩
      · exact .refl registry
  | reset => exact absurd rfl h

/-- What the call inserts into the store of key types. -/
def Call.insertion (mode : FipsMode) : Call T → Option KeyTypeInfoStore.Call
  | .registerKeyManager (some manager) newKeyAllowed => some (.addKeyManager manager newKeyAllowed)
  | .registerKeyTypeManager (some manager) newKeyAllowed => some (.addKeyTypeManager mode manager newKeyAllowed)
  | .registerAsymmetricKeyManagers (some privateManager) (some publicManager) newKeyAllowed =>
    some (.addAsymmetricKeyTypeManagers mode privateManager publicManager newKeyAllowed)
  | _ => none

/-- A call but `Reset` changes the store of key types by what it inserts. -/
theorem step_keyTypeInfoStore (build : FipsBuild) (registry : Registry T) {call : Call T} (h : call ≠ .reset) :
    (registry.step build call).2.keyTypeInfoStore =
      match call.insertion (registry.fipsMode build) with
      | none => registry.keyTypeInfoStore
      | some insertion => (registry.keyTypeInfoStore.step insertion).2 := by
  cases call with
  | registerKeyManager manager newKeyAllowed =>
    cases manager with
    | none => rfl
    | some manager => rfl
  | registerKeyTypeManager manager newKeyAllowed =>
    cases manager with
    | none => rfl
    | some manager => rfl
  | registerAsymmetricKeyManagers privateManager publicManager newKeyAllowed =>
    cases privateManager with
    | none => rfl
    | some privateManager =>
      cases publicManager with
      | none => rfl
      | some publicManager => rfl
  | registerPrimitiveWrapper wrapper => rfl
  | registerMonitoringClientFactory factory =>
    unfold step registerMonitoringClientFactory
    cases factory with
    | none => rfl
    | some factory =>
      dsimp only
      split
      · rfl
      · rfl
  | restrictToFipsIfEmpty =>
    unfold step restrictToFipsIfEmpty
    dsimp only
    split
    · rfl
    · split
      · rfl
      · rfl
  | reset => exact absurd rfl h

theorem run_extends {build : FipsBuild} : ∀ {calls : List (Call T)} {registry : Registry T},
    (∀ call ∈ calls, call ≠ .reset) → Extends registry (registry.run build calls)
  | [], registry, _ => .refl registry
  | call :: _, _, h =>
    (step_extends (h call (List.mem_cons_self ..))).trans (run_extends fun c hc => h c (List.mem_cons_of_mem _ hc))

/-! ## Answers that stay -/

section Answers
variable {objects : ManagerObjects T ρ} {registry registry' : Registry T}

theorem Extends.getKeyTypeInfo (h : Extends registry registry') {typeUrl : String} {info : KeyTypeInfoStore.Info}
    (hget : registry.getKeyTypeInfo typeUrl = .ok info) :
    ∃ newKeyAllowed, registry'.getKeyTypeInfo typeUrl = .ok (info.setNewKeyAllowed newKeyAllowed) ∧
      (newKeyAllowed = true → info.newKeyAllowed = true) := by
  unfold Registry.getKeyTypeInfo KeyTypeInfoStore.get at hget ⊢
  split at hget
  · cases hget
  · rename_i found hfind
    cases hget
    obtain ⟨newKeyAllowed, hfind', hallowed⟩ := h.keyTypeInfoStore _ _ hfind
    exact ⟨newKeyAllowed, by rw [hfind'], hallowed⟩

/-- Once there is a manager for the type URL, even an error stays. -/
theorem Extends.getPrimitive_eq (h : Extends registry registry') {p : TypeIndex} {keyData : KeyData}
    {info : KeyTypeInfoStore.Info} (hget : registry.getKeyTypeInfo keyData.typeUrl = .ok info) :
    registry'.getPrimitive objects p keyData = registry.getPrimitive objects p keyData := by
  obtain ⟨newKeyAllowed, hget', -⟩ := h.getKeyTypeInfo hget
  unfold getPrimitive
  rw [hget, hget']
  rfl

theorem Extends.getPrimitive (h : Extends registry registry') {p : TypeIndex} {keyData : KeyData} {primitive : Option (T p)}
    (hok : registry.getPrimitive objects p keyData = .ok primitive) :
    registry'.getPrimitive objects p keyData = .ok primitive := by
  cases hget : registry.getKeyTypeInfo keyData.typeUrl with
  | error e =>
    unfold Registry.getPrimitive at hok
    rw [hget] at hok
    cases hok
  | ok info => rw [h.getPrimitive_eq hget, hok]

theorem Extends.getPublicKeyData (h : Extends registry registry') {typeUrl : String} {serializedPrivateKey : Bytes}
    {keyData : KeyData} (hok : registry.getPublicKeyData objects typeUrl serializedPrivateKey = .ok keyData) :
    registry'.getPublicKeyData objects typeUrl serializedPrivateKey = .ok keyData := by
  unfold Registry.getPublicKeyData at hok ⊢
  cases hget : registry.getKeyTypeInfo typeUrl with
  | error e =>
    rw [hget] at hok
    cases hok
  | ok info =>
    obtain ⟨newKeyAllowed, hget', -⟩ := h.getKeyTypeInfo hget
    rw [hget] at hok
    rw [hget']
    exact hok

theorem Extends.deriveKey (h : Extends registry registry') {keyTemplate : KeyTemplate} {randomness rest : ρ}
    {keyData : KeyData} (hok : registry.deriveKey objects keyTemplate randomness = (.ok keyData, rest)) :
    registry'.deriveKey objects keyTemplate randomness = (.ok keyData, rest) := by
  unfold Registry.deriveKey at hok ⊢
  cases hget : registry.getKeyTypeInfo keyTemplate.typeUrl with
  | error e =>
    rw [hget] at hok
    cases hok
  | ok info =>
    obtain ⟨newKeyAllowed, hget', -⟩ := h.getKeyTypeInfo hget
    rw [hget] at hok
    rw [hget']
    exact hok

/-- A key that could be made can be made, or its type no longer allows new keys. -/
theorem Extends.newKeyData (h : Extends registry registry') {keyTemplate : KeyTemplate} {random : Bytes} {keyData : KeyData}
    (hok : registry.newKeyData objects random keyTemplate = .ok keyData) :
    registry'.newKeyData objects random keyTemplate = .ok keyData ∨
      registry'.newKeyData objects random keyTemplate = .error ⟨.invalidArgument,
        s!"KeyManager for type {keyTemplate.typeUrl} does not allow for creation of new keys."⟩ := by
  unfold Registry.newKeyData at hok ⊢
  cases hget : registry.getKeyTypeInfo keyTemplate.typeUrl with
  | error e =>
    rw [hget] at hok
    cases hok
  | ok info =>
    obtain ⟨newKeyAllowed, hget', hallowed⟩ := h.getKeyTypeInfo hget
    rw [hget] at hok
    rw [hget']
    dsimp only at hok ⊢
    cases newKeyAllowed with
    | false => exact .inr rfl
    | true =>
      rw [hallowed rfl] at hok
      exact .inl hok

/-- A key that can be made later could be made before, if there was a manager for its type. -/
theorem Extends.newKeyData_of_later (h : Extends registry registry') {keyTemplate : KeyTemplate} {random : Bytes}
    {info : KeyTypeInfoStore.Info} (hget : registry.getKeyTypeInfo keyTemplate.typeUrl = .ok info) {keyData : KeyData}
    (hok : registry'.newKeyData objects random keyTemplate = .ok keyData) :
    registry.newKeyData objects random keyTemplate = .ok keyData := by
  obtain ⟨newKeyAllowed, hget', hallowed⟩ := h.getKeyTypeInfo hget
  unfold Registry.newKeyData at hok ⊢
  rw [hget'] at hok
  rw [hget]
  dsimp only at hok ⊢
  cases newKeyAllowed with
  | false => cases hok
  | true =>
    rw [hallowed rfl]
    exact hok

theorem Extends.wrap (h : Extends registry registry') {factory : Option Monitoring.ClientFactory} {p : TypeIndex}
    {annotations : List (String × String)} {primitives : Option (PrimitiveSet (T p))} {v : T p}
    (hok : registry.wrap factory p annotations primitives = .ok v) :
    registry'.wrap factory p annotations primitives = .ok v := by
  cases primitives with
  | none => cases hok
  | some primitives =>
    unfold Registry.wrap KeysetWrapperStore.getPrimitiveWrapper at hok ⊢
    dsimp only at hok ⊢
    cases hfind : registry.keysetWrapperStore.find p with
    | none =>
      rw [hfind] at hok
      cases hok
    | some info =>
      rw [hfind] at hok
      rw [h.keysetWrapperStore p info hfind]
      exact hok

/-! ## Keysets -/

variable {Key Key' : Type}

/-- The primitive of a key does not depend on what keys can be parsed. -/
theorem primitiveForKey_getters (registry : Registry T) (parseKey : ProtoKeySerialization → Except Status Key)
    (p : TypeIndex) (protoKey : KeysetKey) :
    primitiveForKey (registry.getters objects parseKey p) protoKey =
      match ProtoKeySerialization.create protoKey.getKeyData.typeUrl protoKey.getKeyData.value
          protoKey.getKeyData.keyMaterialType .raw none with
      | .error e => .error e
      | .ok _ => registry.getPrimitive objects p protoKey.getKeyData := by
  unfold primitiveForKey
  cases ProtoKeySerialization.create protoKey.getKeyData.typeUrl protoKey.getKeyData.value
      protoKey.getKeyData.keyMaterialType .raw none with
  | error e => rfl
  | ok serialization =>
    unfold getters
    dsimp only
    cases parseKey serialization with
    | error e => rfl
    | ok key => exact if_pos rfl

theorem Extends.primitiveForKey (h : Extends registry registry')
    (parseKey : ProtoKeySerialization → Except Status Key) (parseKey' : ProtoKeySerialization → Except Status Key')
    {p : TypeIndex} {protoKey : KeysetKey}
    {primitive : Option (T p)} (hok : primitiveForKey (registry.getters objects parseKey p) protoKey = .ok primitive) :
    Tink.primitiveForKey (registry'.getters objects parseKey' p) protoKey = .ok primitive := by
  rw [primitiveForKey_getters] at hok ⊢
  split at hok
  · cases hok
  · exact h.getPrimitive hok

theorem Extends.wrapLoop (h : Extends registry registry')
    (parseKey : ProtoKeySerialization → Except Status Key) (parseKey' : ProtoKeySerialization → Except Status Key')
    {p : TypeIndex} {primaryKeyId : UInt32} :
    ∀ {keys : List KeysetKey} {builder builder' : PrimitiveSetBuilder (T p)},
      wrapLoop (registry.getters objects parseKey p) primaryKeyId keys builder = .ok builder' →
      Tink.wrapLoop (registry'.getters objects parseKey' p) primaryKeyId keys builder = .ok builder'
  | [], _, _, hok => hok
  | key :: keys, builder, builder', hok => by
    unfold Tink.wrapLoop at hok ⊢
    by_cases henabled : key.isEnabled = true
    · rw [if_pos henabled] at hok ⊢
      cases hprimitive : Tink.primitiveForKey (registry.getters objects parseKey p) key with
      | error e =>
        rw [hprimitive] at hok
        cases hok
      | ok primitive =>
        rw [hprimitive] at hok
        rw [h.primitiveForKey parseKey parseKey' hprimitive]
        dsimp only at hok ⊢
        split at hok
        · rename_i hid
          rw [if_pos hid]
          exact h.wrapLoop parseKey parseKey' hok
        · rename_i hid
          rw [if_neg hid]
          exact h.wrapLoop parseKey parseKey' hok
    · rw [if_neg henabled] at hok ⊢
      exact h.wrapLoop parseKey parseKey' hok

theorem Extends.wrapKeyset (h : Extends registry registry')
    (parseKey : ProtoKeySerialization → Except Status Key) (parseKey' : ProtoKeySerialization → Except Status Key')
    {factory : Option Monitoring.ClientFactory} {q : TypeIndex} {keyset : Keyset} {annotations : List (String × String)}
    {v : T q} (hok : registry.wrapKeyset objects parseKey factory q keyset annotations = .ok v) :
    registry'.wrapKeyset objects parseKey' factory q keyset annotations = .ok v := by
  unfold Registry.wrapKeyset at hok ⊢
  cases hget : registry.keysetWrapperStore.get q with
  | error e =>
    rw [hget] at hok
    cases hok
  | ok wrapper =>
    rw [hget] at hok
    rw [KeysetWrapperStore.get_ok.2 (h.keysetWrapperStore q wrapper (KeysetWrapperStore.get_ok.1 hget))]
    unfold KeysetWrapperStore.Info.wrap keysetWrap primitiveSetOf at hok ⊢
    cases hvalid : validateKeyset keyset with
    | error e =>
      rw [hvalid] at hok
      cases hok
    | ok _ =>
      rw [hvalid] at hok
      dsimp only at hok ⊢
      cases hloop : Tink.wrapLoop (registry.getters objects parseKey wrapper.p) keyset.primaryKeyId keyset.key {} with
      | error e =>
        rw [hloop] at hok
        cases hok
      | ok builder =>
        rw [hloop] at hok
        rw [h.wrapLoop parseKey parseKey' hloop]
        exact hok

end Answers

/-- **What a registry has once answered it answers after any calls but `Reset`**, whatever else the program has registered
by then: a primitive, a public key and a derived key stay, and a new key can be made unless its type no longer allows that.
A wrapped set and a wrapped keyset stay for the monitoring factory that the wrapper has read, and a factory that is
registered stays. -/
theorem registry_answers_stay (build : FipsBuild) (objects : ManagerObjects T ρ) (registry : Registry T)
    (calls : List (Call T)) (hreset : ∀ call ∈ calls, call ≠ .reset) :
    (∀ p keyData primitive, registry.getPrimitive objects p keyData = .ok primitive →
      (registry.run build calls).getPrimitive objects p keyData = .ok primitive) ∧
    (∀ typeUrl serializedPrivateKey keyData, registry.getPublicKeyData objects typeUrl serializedPrivateKey = .ok keyData →
      (registry.run build calls).getPublicKeyData objects typeUrl serializedPrivateKey = .ok keyData) ∧
    (∀ keyTemplate randomness keyData rest, registry.deriveKey objects keyTemplate randomness = (.ok keyData, rest) →
      (registry.run build calls).deriveKey objects keyTemplate randomness = (.ok keyData, rest)) ∧
    (∀ random keyTemplate keyData, registry.newKeyData objects random keyTemplate = .ok keyData →
      (registry.run build calls).newKeyData objects random keyTemplate = .ok keyData ∨
      (registry.run build calls).newKeyData objects random keyTemplate = .error ⟨.invalidArgument,
        s!"KeyManager for type {keyTemplate.typeUrl} does not allow for creation of new keys."⟩) ∧
    (∀ factory p annotations primitives v, registry.wrap factory p annotations primitives = .ok v →
      (registry.run build calls).wrap factory p annotations primitives = .ok v) ∧
    (∀ {Key Key' : Type} (parseKey : ProtoKeySerialization → Except Status Key)
      (parseKey' : ProtoKeySerialization → Except Status Key') factory q keyset annotations v,
      registry.wrapKeyset objects parseKey factory q keyset annotations = .ok v →
      (registry.run build calls).wrapKeyset objects parseKey' factory q keyset annotations = .ok v) ∧
    ∀ factory, registry.monitoringFactory = some factory → (registry.run build calls).monitoringFactory = some factory := by
  have h : Extends registry (registry.run build calls) := run_extends hreset
  exact ⟨fun _ _ _ => h.getPrimitive, fun _ _ _ => h.getPublicKeyData, fun _ _ _ _ => h.deriveKey,
    fun _ _ _ => h.newKeyData, fun _ _ _ _ _ => h.wrap,
    fun parseKey parseKey' _ _ _ _ _ => h.wrapKeyset parseKey parseKey', h.monitoringFactory⟩

/-- Managers with one primitive type, whose primitives are as long as their keys. -/
def lengthObjects : ManagerObjects (fun _ => Nat) Nat where
  primitives _ := [⟨"Aead"⟩]
  getPrimitive _ _ keyData := .ok (some keyData.value.length)
  newKeyData _ random _ := .ok ⟨"AesGcmKey", random, .symmetric⟩
  privateKeyFactory _ _ := none
  keyDeriver _ := none

def aesGcmKeyManager : KeyTypeInfoStore.KeyTypeManager := ⟨0, ⟨"AesGcmKeyManager"⟩, "AesGcmKey", .requiresBoringCrypto⟩

/-- A registry with that manager. -/
def aesGcmRegistry : Registry fun _ => Nat :=
  run ⟨false, false⟩ {} [.registerKeyTypeManager (some aesGcmKeyManager) true]

/-- A wrapper that gives the primary primitive. -/
def primaryWrapper : PrimitiveWrapper (fun _ => Nat) ⟨"Aead"⟩ ⟨"Aead"⟩ where
  object := 0
  typeIndex := ⟨"AeadWrapper"⟩
  wrap _ _ primitives :=
    match primitives.getPrimary with
    | none => .error ⟨.invalidArgument, "aead_set has no primary"⟩
    | some entry => .ok entry.primitive

def aesGcmKeyset : Keyset := ⟨7, [⟨some ⟨"AesGcmKey", [1, 2, 3], .symmetric⟩, .enabled, 7, .tink⟩]⟩

/-- A primitive stays when its type is closed for new keys. -/
theorem registry_answers_stay_aesGcm :
    (aesGcmRegistry.run ⟨false, false⟩ [.registerKeyTypeManager (some aesGcmKeyManager) false]).getPrimitive lengthObjects
      ⟨"Aead"⟩ ⟨"AesGcmKey", [1, 2, 3], .symmetric⟩ = .ok (some 3) :=
  (registry_answers_stay ⟨false, false⟩ lengthObjects aesGcmRegistry
    [.registerKeyTypeManager (some aesGcmKeyManager) false] (by simp)).1 _ _ _ rfl

end Registry

end Tink
