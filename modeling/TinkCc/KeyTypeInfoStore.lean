import TinkCc.StreamSegments
/-!
# KeyTypeInfoStore — the key managers of a registry

`internal/key_type_info_store.h`, `internal/key_type_info_store.cc` and `ChecksFipsCompatibility`.  Three calls insert into
one map from type URLs; each returns a status and leaves a store behind, also where it fails.
-/
namespace Tink

/-! ## FIPS -/

inductive FipsCompatibility
  | notFips
  | requiresBoringCrypto
  | unnamed (value : Int)
  deriving DecidableEq, Repr

/-- What `IsFipsModeEnabled` and `IsFipsEnabledInSsl` return. -/
structure FipsMode where
  isFipsModeEnabled  : Bool
  isFipsEnabledInSsl : Bool

/-- `ChecksFipsCompatibility`. -/
def checksFipsCompatibility (mode : FipsMode) (fipsStatus : FipsCompatibility) : Except Status Unit :=
  match fipsStatus with
  | .notFips =>
    if mode.isFipsModeEnabled then .error ⟨.internal, "Primitive not available in FIPS only mode."⟩ else .ok ()
  | .requiresBoringCrypto =>
    if mode.isFipsModeEnabled && !mode.isFipsEnabledInSsl then
      .error ⟨.internal, "BoringSSL not built with the BoringCrypto module. If you want to use FIPS only mode you have to " ++
        "build BoringSSL in FIPS Mode."⟩
    else .ok ()
  | .unnamed _ => .error ⟨.internal, "Could not determine FIPS status."⟩

namespace KeyTypeInfoStore

/-! ## Managers -/

/-- `std::type_index`; types are told apart by their names. -/
structure TypeIndex where
  name : String
  deriving DecidableEq, Repr

/-- A `KeyTypeManager`, private or public; `object` tells the objects of a class apart. -/
structure KeyTypeManager where
  object     : Nat
  typeIndex  : TypeIndex
  keyType    : String
  fipsStatus : FipsCompatibility
  deriving DecidableEq, Repr

/-- A `KeyManager<P>`. -/
structure KeyManager where
  object      : Nat
  typeIndex   : TypeIndex
  keyType     : String
  doesSupport : String → Bool

/-! ## The store -/

/-- `KeyTypeInfoStore::Info`, at its address; its key factory, deriver and primitives are those of the manager. -/
structure Info where
  address                       : Nat
  manager                       : Nat
  keyManagerTypeIndex           : TypeIndex
  publicKeyTypeManagerTypeIndex : Option TypeIndex
  newKeyAllowed                 : Bool
  deriving DecidableEq, Repr

def Info.setNewKeyAllowed (info : Info) (newKeyAllowed : Bool) : Info := { info with newKeyAllowed }

end KeyTypeInfoStore

structure KeyTypeInfoStore where
  typeUrlToInfo : List (String × KeyTypeInfoStore.Info) := []
  deriving DecidableEq, Repr

namespace KeyTypeInfoStore

def find (store : KeyTypeInfoStore) (typeUrl : String) : Option Info := store.typeUrlToInfo.lookup typeUrl

def get (store : KeyTypeInfoStore) (typeUrl : String) : Except Status Info :=
  match store.find typeUrl with
  | none => .error ⟨.notFound, s!"No manager for type '{typeUrl}' has been registered."⟩
  | some info => .ok info

def isEmpty (store : KeyTypeInfoStore) : Bool := store.typeUrlToInfo.isEmpty

def isInsertable (store : KeyTypeInfoStore) (typeUrl : String) (keyManagerTypeIndex : TypeIndex) (newKeyAllowed : Bool) :
    Except Status Unit :=
  match store.find typeUrl with
  | none => .ok ()
  | some info =>
    if info.keyManagerTypeIndex ≠ keyManagerTypeIndex then
      .error ⟨.alreadyExists, s!"A manager for type '{typeUrl}' has been already registered."⟩
    else if !info.newKeyAllowed && newKeyAllowed then
      .error ⟨.alreadyExists, s!"A manager for type '{typeUrl}' has been already registered with forbidden new key " ++
        "operation."⟩
    else .ok ()

/-- `set_new_key_allowed` on the `Info` of a type URL. -/
def setNewKeyAllowed (store : KeyTypeInfoStore) (typeUrl : String) (newKeyAllowed : Bool) : KeyTypeInfoStore :=
  ⟨store.typeUrlToInfo.map fun entry => if entry.1 = typeUrl then (entry.1, entry.2.setNewKeyAllowed newKeyAllowed) else entry⟩

/-- An address that no `Info` of the store has. -/
def nextAddress (store : KeyTypeInfoStore) : Nat := store.typeUrlToInfo.length

def add (store : KeyTypeInfoStore) (typeUrl : String) (info : Info) (newKeyAllowed : Bool) : KeyTypeInfoStore :=
  match store.find typeUrl with
  | some _ => store.setNewKeyAllowed typeUrl newKeyAllowed
  | none => ⟨store.typeUrlToInfo ++ [(typeUrl, info)]⟩

def addKeyManager (store : KeyTypeInfoStore) (manager : KeyManager) (newKeyAllowed : Bool) :
    Except Status Unit × KeyTypeInfoStore :=
  let typeUrl := manager.keyType
  if !manager.doesSupport typeUrl then
    (.error ⟨.invalidArgument, s!"The manager does not support type '{typeUrl}'."⟩, store)
  else
    match store.isInsertable typeUrl manager.typeIndex newKeyAllowed with
    | .error e => (.error e, store)
    | .ok () =>
      let info := ⟨store.nextAddress, manager.object, manager.typeIndex, none, newKeyAllowed⟩
      (.ok (), store.add typeUrl info newKeyAllowed)

/-- `ChecksFipsCompatibility` for a manager. -/
def checksFips (mode : FipsMode) (manager : KeyTypeManager) : Except Status Unit :=
  match checksFipsCompatibility mode manager.fipsStatus with
  | .error e =>
    let name := manager.typeIndex.name
    let message := e.message
    .error ⟨.internal, s!"Failed registering the key manager for {name} as it is not FIPS compatible: {message}"⟩
  | .ok () => .ok ()

def addKeyTypeManager (mode : FipsMode) (store : KeyTypeInfoStore) (manager : KeyTypeManager) (newKeyAllowed : Bool) :
    Except Status Unit × KeyTypeInfoStore :=
  match checksFips mode manager with
  | .error e => (.error e, store)
  | .ok () =>
    let typeUrl := manager.keyType
    match store.isInsertable typeUrl manager.typeIndex newKeyAllowed with
    | .error e => (.error e, store)
    | .ok () =>
      let info := ⟨store.nextAddress, manager.object, manager.typeIndex, none, newKeyAllowed⟩
      (.ok (), store.add typeUrl info newKeyAllowed)

/-- The part of `AddAsymmetricKeyTypeManagers` after its checks of each manager. -/
def addPair (store : KeyTypeInfoStore) (privateManager publicManager : KeyTypeManager) (newKeyAllowed : Bool) :
    Except Status Unit × KeyTypeInfoStore :=
  let privateName := privateManager.typeIndex.name
  let publicName := publicManager.typeIndex.name
  match store.get privateManager.keyType, store.get publicManager.keyType with
  -- only one of the private and public key type managers is found
  | .ok _, .error _ =>
    (.error ⟨.invalidArgument, s!"Private key manager corresponding to {privateName} was previously registered, but key " ++
      s!"manager corresponding to {publicName} was not, so it's impossible to register them jointly"⟩, store)
  | .error _, .ok _ =>
    (.error ⟨.invalidArgument, s!"Key manager corresponding to {publicName} was previously registered, but private key " ++
      s!"manager corresponding to {privateName} was not, so it's impossible to register them jointly"⟩, store)
  | .ok privateFound, .ok _ =>
    match privateFound.publicKeyTypeManagerTypeIndex with
    | none =>
      (.error ⟨.invalidArgument, s!"private key manager corresponding to {privateName} is already registered without " ++
        "public key manager, cannot be re-registered with public key manager. "⟩, store)
    | some index =>
      if index ≠ publicManager.typeIndex then
        let found := index.name
        (.error ⟨.invalidArgument, s!"private key manager corresponding to {privateName} is already registered with " ++
          s!"{found}, cannot be re-registered with {publicName}"⟩, store)
      else (.ok (), store.setNewKeyAllowed privateManager.keyType newKeyAllowed)
  | .error _, .error _ =>
    let privateInfo := ⟨store.nextAddress, privateManager.object, privateManager.typeIndex, some publicManager.typeIndex,
      newKeyAllowed⟩
    let store := store.add privateManager.keyType privateInfo newKeyAllowed
    let publicInfo := ⟨store.nextAddress, publicManager.object, publicManager.typeIndex, none, newKeyAllowed⟩
    (.ok (), store.add publicManager.keyType publicInfo newKeyAllowed)

def addAsymmetricKeyTypeManagers (mode : FipsMode) (store : KeyTypeInfoStore)
    (privateManager publicManager : KeyTypeManager) (newKeyAllowed : Bool) : Except Status Unit × KeyTypeInfoStore :=
  if privateManager.keyType = publicManager.keyType then
    (.error ⟨.invalidArgument, "Passed in key managers must have different get_key_type() results."⟩, store)
  else
    match checksFips mode privateManager with
    | .error e => (.error e, store)
    | .ok () =>
      match checksFips mode publicManager with
      | .error e => (.error e, store)
      | .ok () =>
        match store.isInsertable privateManager.keyType privateManager.typeIndex newKeyAllowed with
        | .error e => (.error e, store)
        | .ok () =>
          match store.isInsertable publicManager.keyType publicManager.typeIndex newKeyAllowed with
          | .error e => (.error e, store)
          | .ok () => store.addPair privateManager publicManager newKeyAllowed

/-! ## Calls -/

/-- A call that inserts. -/
inductive Call
  | addKeyTypeManager (mode : FipsMode) (manager : KeyTypeManager) (newKeyAllowed : Bool)
  | addAsymmetricKeyTypeManagers (mode : FipsMode) (privateManager publicManager : KeyTypeManager) (newKeyAllowed : Bool)
  | addKeyManager (manager : KeyManager) (newKeyAllowed : Bool)

def step (store : KeyTypeInfoStore) : Call → Except Status Unit × KeyTypeInfoStore
  | .addKeyTypeManager mode manager newKeyAllowed => store.addKeyTypeManager mode manager newKeyAllowed
  | .addAsymmetricKeyTypeManagers mode privateManager publicManager newKeyAllowed =>
    store.addAsymmetricKeyTypeManagers mode privateManager publicManager newKeyAllowed
  | .addKeyManager manager newKeyAllowed => store.addKeyManager manager newKeyAllowed

/-- The store after some calls, whatever they have returned. -/
def run (store : KeyTypeInfoStore) (calls : List Call) : KeyTypeInfoStore :=
  calls.foldl (fun store call => (store.step call).2) store

/-! ## Lookups -/

theorem find_setNewKeyAllowed (store : KeyTypeInfoStore) (typeUrl url : String) (newKeyAllowed : Bool) :
    (store.setNewKeyAllowed typeUrl newKeyAllowed).find url =
      if url = typeUrl then (store.find url).map (·.setNewKeyAllowed newKeyAllowed) else store.find url := by
  unfold find setNewKeyAllowed
  induction store.typeUrlToInfo with
  | nil => simp
  | cons entry entries ih =>
    obtain ⟨key, info⟩ := entry
    by_cases hkey : key = typeUrl
    · subst hkey
      by_cases hurl : url = key
      · simp [hurl]
      · simp only [List.map_cons, if_true, List.lookup_cons, beq_eq_false_iff_ne.2 hurl, ih, if_neg hurl]
    · by_cases hurl : url = key
      · subst hurl
        simp [hkey]
      · simp only [List.map_cons, if_neg hkey, List.lookup_cons, beq_eq_false_iff_ne.2 hurl, ih]

theorem find_add (store : KeyTypeInfoStore) (typeUrl url : String) (info : Info) (newKeyAllowed : Bool) :
    (store.add typeUrl info newKeyAllowed).find url =
      if url = typeUrl then some (((store.find typeUrl).map (·.setNewKeyAllowed newKeyAllowed)).getD info)
      else store.find url := by
  unfold add
  cases hfind : store.find typeUrl with
  | some found =>
    dsimp only
    rw [find_setNewKeyAllowed]
    by_cases hurl : url = typeUrl
    · subst hurl
      simp [hfind]
    · simp [hurl]
  | none =>
    have happend : (⟨store.typeUrlToInfo ++ [(typeUrl, info)]⟩ : KeyTypeInfoStore).find url =
        (store.find url).or (if url = typeUrl then some info else none) := by
      unfold find
      rw [List.lookup_append, List.lookup_cons]
      by_cases hurl : url = typeUrl
      · simp [hurl]
      · simp only [beq_eq_false_iff_ne.2 hurl, if_neg hurl, List.lookup_nil]
    rw [happend]
    by_cases hurl : url = typeUrl
    · subst hurl
      simp [hfind]
    · simp [hurl]

theorem isInsertable_ok {store : KeyTypeInfoStore} {typeUrl : String} {index : TypeIndex} {newKeyAllowed : Bool}
    (h : store.isInsertable typeUrl index newKeyAllowed = .ok ()) {info : Info} (hfind : store.find typeUrl = some info) :
    info.keyManagerTypeIndex = index ∧ (newKeyAllowed = true → info.newKeyAllowed = true) := by
  unfold isInsertable at h
  rw [hfind] at h
  dsimp only at h
  split at h
  · cases h
  · rename_i hindex
    split at h
    · cases h
    · rename_i hallowed
      refine ⟨not_not.1 hindex, fun hnew => ?_⟩
      rw [hnew] at hallowed
      simpa using hallowed

/-! ## What a call keeps -/

/-- **Every `Info` is where it was, and none of them allows new keys again.** -/
def Extends (store store' : KeyTypeInfoStore) : Prop :=
  ∀ url info, store.find url = some info → ∃ newKeyAllowed, store'.find url = some (info.setNewKeyAllowed newKeyAllowed) ∧
    (newKeyAllowed = true → info.newKeyAllowed = true)

theorem Extends.refl (store : KeyTypeInfoStore) : Extends store store := fun _ info h => ⟨info.newKeyAllowed, h, id⟩

theorem Extends.trans {store store' store'' : KeyTypeInfoStore} (h : Extends store store') (h' : Extends store' store'') :
    Extends store store'' := by
  intro url info hfind
  obtain ⟨allowed, hfind', hallowed⟩ := h url info hfind
  obtain ⟨allowed', hfind'', hallowed'⟩ := h' url _ hfind'
  exact ⟨allowed', hfind'', fun h => hallowed (hallowed' h)⟩

theorem setNewKeyAllowed_extends {store : KeyTypeInfoStore} {typeUrl : String} {index : TypeIndex} {newKeyAllowed : Bool}
    (h : store.isInsertable typeUrl index newKeyAllowed = .ok ()) :
    Extends store (store.setNewKeyAllowed typeUrl newKeyAllowed) := by
  intro url info hfind
  rw [find_setNewKeyAllowed, hfind]
  by_cases hurl : url = typeUrl
  · subst hurl
    exact ⟨newKeyAllowed, by simp, (isInsertable_ok h hfind).2⟩
  · exact ⟨info.newKeyAllowed, by simp [hurl, Info.setNewKeyAllowed], id⟩

theorem add_extends {store : KeyTypeInfoStore} {typeUrl : String} {index : TypeIndex} {newKeyAllowed : Bool}
    (h : store.isInsertable typeUrl index newKeyAllowed = .ok ()) (info : Info) :
    Extends store (store.add typeUrl info newKeyAllowed) := by
  intro url found hfind
  rw [find_add]
  by_cases hurl : url = typeUrl
  · subst hurl
    rw [hfind]
    exact ⟨newKeyAllowed, by simp, (isInsertable_ok h hfind).2⟩
  · exact ⟨found.newKeyAllowed, by simp [hurl, hfind, Info.setNewKeyAllowed], id⟩

/-! ## What a call can do -/

/-- What `AddAsymmetricKeyTypeManagers` does once both managers may be inserted: nothing, or it sets the flag of the private
manager of a pair of the same types, or it adds both. -/
theorem addPair_cases (store : KeyTypeInfoStore) (privateManager publicManager : KeyTypeManager) (newKeyAllowed : Bool) :
    (∃ e, store.addPair privateManager publicManager newKeyAllowed = (.error e, store)) ∨
    (∃ privateFound publicFound, store.find privateManager.keyType = some privateFound ∧
      store.find publicManager.keyType = some publicFound ∧
      privateFound.publicKeyTypeManagerTypeIndex = some publicManager.typeIndex ∧
      store.addPair privateManager publicManager newKeyAllowed =
        (.ok (), store.setNewKeyAllowed privateManager.keyType newKeyAllowed)) ∨
    (store.find privateManager.keyType = none ∧ store.find publicManager.keyType = none ∧
      ∃ privateInfo publicInfo, privateInfo.keyManagerTypeIndex = privateManager.typeIndex ∧
        privateInfo.publicKeyTypeManagerTypeIndex = some publicManager.typeIndex ∧
        privateInfo.address = store.nextAddress ∧ publicInfo.keyManagerTypeIndex = publicManager.typeIndex ∧
        publicInfo.publicKeyTypeManagerTypeIndex = none ∧
        publicInfo.address = (store.add privateManager.keyType privateInfo newKeyAllowed).nextAddress ∧
        store.addPair privateManager publicManager newKeyAllowed =
          (.ok (), (store.add privateManager.keyType privateInfo newKeyAllowed).add publicManager.keyType publicInfo
            newKeyAllowed)) := by
  unfold addPair get
  cases hprivate : store.find privateManager.keyType with
  | none =>
    cases hpublic : store.find publicManager.keyType with
    | none => exact .inr (.inr ⟨rfl, rfl, _, _, rfl, rfl, rfl, rfl, rfl, rfl, rfl⟩)
    | some publicFound => exact .inl ⟨_, rfl⟩
  | some privateFound =>
    cases hpublic : store.find publicManager.keyType with
    | none => exact .inl ⟨_, rfl⟩
    | some publicFound =>
      dsimp only
      cases hindex : privateFound.publicKeyTypeManagerTypeIndex with
      | none => exact .inl ⟨_, rfl⟩
      | some index =>
        dsimp only
        by_cases hsame : index = publicManager.typeIndex
        · rw [if_neg (not_not.2 hsame)]
          exact .inr (.inl ⟨privateFound, publicFound, rfl, rfl, by rw [hindex, hsame], rfl⟩)
        · rw [if_pos hsame]
          exact .inl ⟨_, rfl⟩

/-- **What a call can do**: fail and leave the store, add one manager that may be inserted, or go on to a pair of managers
that may both be inserted. -/
theorem step_cases (store : KeyTypeInfoStore) (call : Call) :
    (∃ e, store.step call = (.error e, store)) ∨
    (∃ typeUrl info newKeyAllowed, store.isInsertable typeUrl info.keyManagerTypeIndex newKeyAllowed = .ok () ∧
      info.publicKeyTypeManagerTypeIndex = none ∧ info.address = store.nextAddress ∧
      store.step call = (.ok (), store.add typeUrl info newKeyAllowed)) ∨
    (∃ privateManager publicManager newKeyAllowed, privateManager.keyType ≠ publicManager.keyType ∧
      store.isInsertable privateManager.keyType privateManager.typeIndex newKeyAllowed = .ok () ∧
      store.isInsertable publicManager.keyType publicManager.typeIndex newKeyAllowed = .ok () ∧
      store.step call = store.addPair privateManager publicManager newKeyAllowed) := by
  cases call with
  | addKeyTypeManager mode manager newKeyAllowed =>
    unfold step addKeyTypeManager
    dsimp only
    cases checksFips mode manager with
    | error e => exact .inl ⟨_, rfl⟩
    | ok _ =>
      cases hinsertable : store.isInsertable manager.keyType manager.typeIndex newKeyAllowed with
      | error e => exact .inl ⟨_, rfl⟩
      | ok _ => exact .inr (.inl ⟨_, _, _, hinsertable, rfl, rfl, rfl⟩)
  | addKeyManager manager newKeyAllowed =>
    unfold step addKeyManager
    by_cases hsupport : (!manager.doesSupport manager.keyType) = true
    · simp only [if_pos hsupport]
      exact .inl ⟨_, rfl⟩
    · simp only [if_neg hsupport]
      cases hinsertable : store.isInsertable manager.keyType manager.typeIndex newKeyAllowed with
      | error e => exact .inl ⟨_, rfl⟩
      | ok _ => exact .inr (.inl ⟨_, _, _, hinsertable, rfl, rfl, rfl⟩)
  | addAsymmetricKeyTypeManagers mode privateManager publicManager newKeyAllowed =>
    unfold step addAsymmetricKeyTypeManagers
    dsimp only
    by_cases hsame : privateManager.keyType = publicManager.keyType
    · rw [if_pos hsame]
      exact .inl ⟨_, rfl⟩
    · rw [if_neg hsame]
      cases checksFips mode privateManager with
      | error e => exact .inl ⟨_, rfl⟩
      | ok _ =>
        cases checksFips mode publicManager with
        | error e => exact .inl ⟨_, rfl⟩
        | ok _ =>
          cases hprivate : store.isInsertable privateManager.keyType privateManager.typeIndex newKeyAllowed with
          | error e => exact .inl ⟨_, rfl⟩
          | ok _ =>
            cases hpublic : store.isInsertable publicManager.keyType publicManager.typeIndex newKeyAllowed with
            | error e => exact .inl ⟨_, rfl⟩
            | ok _ => exact .inr (.inr ⟨privateManager, publicManager, newKeyAllowed, hsame, hprivate, hpublic, rfl⟩)

theorem addPair_extends {store : KeyTypeInfoStore} {privateManager publicManager : KeyTypeManager} {newKeyAllowed : Bool}
    (hne : privateManager.keyType ≠ publicManager.keyType)
    (hprivate : store.isInsertable privateManager.keyType privateManager.typeIndex newKeyAllowed = .ok ()) :
    Extends store (store.addPair privateManager publicManager newKeyAllowed).2 := by
  rcases addPair_cases store privateManager publicManager newKeyAllowed with
    ⟨e, h⟩ | ⟨_, _, -, -, -, h⟩ | ⟨-, hnone, privateInfo, publicInfo, -, -, -, -, -, -, h⟩
  · rw [h]
    exact .refl store
  · rw [h]
    exact setNewKeyAllowed_extends hprivate
  · rw [h]
    -- the public type URL is still absent after the private one was added
    have habsent : (store.add privateManager.keyType privateInfo newKeyAllowed).find publicManager.keyType = none := by
      rw [find_add, if_neg hne.symm, hnone]
    have hpublic : (store.add privateManager.keyType privateInfo newKeyAllowed).isInsertable publicManager.keyType
        publicManager.typeIndex newKeyAllowed = .ok () := by
      unfold isInsertable
      rw [habsent]
    exact (add_extends hprivate privateInfo).trans (add_extends hpublic publicInfo)

theorem step_extends (store : KeyTypeInfoStore) (call : Call) : Extends store (store.step call).2 := by
  rcases step_cases store call with ⟨e, h⟩ | ⟨_, info, _, hinsertable, -, -, h⟩ | ⟨_, _, _, hne, hprivate, -, h⟩
  · rw [h]
    exact .refl store
  · rw [h]
    exact add_extends hinsertable info
  · rw [h]
    exact addPair_extends hne hprivate

theorem run_extends : ∀ (calls : List Call) (store : KeyTypeInfoStore), Extends store (store.run calls)
  | [], store => .refl store
  | call :: calls, store => (step_extends store call).trans (run_extends calls (store.step call).2)

/-- A call that returns an error has done nothing. -/
theorem step_error {store : KeyTypeInfoStore} {call : Call} {e : Status} (h : (store.step call).1 = .error e) :
    (store.step call).2 = store := by
  rcases step_cases store call with ⟨_, hstep⟩ | ⟨_, _, _, -, -, -, hstep⟩ | ⟨privateManager, publicManager, allowed, -, -, -, hstep⟩
  · rw [hstep]
  · rw [hstep] at h
    cases h
  · rw [hstep] at h ⊢
    rcases addPair_cases store privateManager publicManager allowed with
      ⟨_, hpair⟩ | ⟨_, _, -, -, -, hpair⟩ | ⟨-, -, _, _, -, -, -, -, -, -, hpair⟩
    · rw [hpair]
    · rw [hpair] at h
      cases h
    · rw [hpair] at h
      cases h

/-! ## Pairs -/

/-- The managers are bound to their type URLs, the private one together with the public one. -/
structure PairBound (privateManager publicManager : KeyTypeManager) (store : KeyTypeInfoStore) : Prop where
  privateBound : ∃ info, store.find privateManager.keyType = some info ∧
    info.keyManagerTypeIndex = privateManager.typeIndex ∧
    info.publicKeyTypeManagerTypeIndex = some publicManager.typeIndex
  publicBound : ∃ info, store.find publicManager.keyType = some info ∧ info.keyManagerTypeIndex = publicManager.typeIndex

theorem PairBound.extends {privateManager publicManager : KeyTypeManager} {store store' : KeyTypeInfoStore}
    (h : PairBound privateManager publicManager store) (hext : Extends store store') :
    PairBound privateManager publicManager store' := by
  obtain ⟨⟨privateInfo, hprivate, hindex, hpair⟩, publicInfo, hpublic, hpublicIndex⟩ := h
  obtain ⟨_, hprivate', -⟩ := hext _ _ hprivate
  obtain ⟨_, hpublic', -⟩ := hext _ _ hpublic
  exact ⟨⟨_, hprivate', hindex, hpair⟩, _, hpublic', hpublicIndex⟩

theorem addPair_bound {store : KeyTypeInfoStore} {privateManager publicManager : KeyTypeManager} {newKeyAllowed : Bool}
    (hne : privateManager.keyType ≠ publicManager.keyType)
    (hprivate : store.isInsertable privateManager.keyType privateManager.typeIndex newKeyAllowed = .ok ())
    (hpublic : store.isInsertable publicManager.keyType publicManager.typeIndex newKeyAllowed = .ok ())
    (hok : (store.addPair privateManager publicManager newKeyAllowed).1 = .ok ()) :
    PairBound privateManager publicManager (store.addPair privateManager publicManager newKeyAllowed).2 := by
  have hext := addPair_extends hne hprivate
  rcases addPair_cases store privateManager publicManager newKeyAllowed with
    ⟨e, h⟩ | ⟨privateFound, publicFound, hfound, hfound', hindex, -⟩ |
      ⟨hnone, hnone', privateInfo, publicInfo, hindex, hpair, -, hindex', -, -, h⟩
  · rw [h] at hok
    cases hok
  · have hbound : PairBound privateManager publicManager store :=
      ⟨⟨_, hfound, (isInsertable_ok hprivate hfound).1, hindex⟩, _, hfound', (isInsertable_ok hpublic hfound').1⟩
    exact hbound.extends hext
  · rw [h]
    refine ⟨⟨privateInfo, ?_, hindex, hpair⟩, publicInfo, ?_, hindex'⟩
    · rw [find_add, if_neg hne, find_add, if_pos rfl, hnone]
      rfl
    · rw [find_add, if_pos rfl, find_add, if_neg hne.symm, hnone']
      rfl

theorem addAsymmetric_bound {mode : FipsMode} {store : KeyTypeInfoStore} {privateManager publicManager : KeyTypeManager}
    {newKeyAllowed : Bool}
    (h : (store.addAsymmetricKeyTypeManagers mode privateManager publicManager newKeyAllowed).1 = .ok ()) :
    PairBound privateManager publicManager
      (store.addAsymmetricKeyTypeManagers mode privateManager publicManager newKeyAllowed).2 := by
  unfold addAsymmetricKeyTypeManagers at h ⊢
  split at h
  · cases h
  · rename_i hne
    split at h
    · cases h
    · split at h
      · cases h
      · split at h
        · cases h
        · rename_i hprivate
          split at h
          · cases h
          · rename_i hpublic
            simp only [if_neg hne]
            exact addPair_bound hne hprivate hpublic h

/-! ## Stores that calls have made -/

/-- A type URL has one `Info`, and two type URLs have two. -/
structure Filed (store : KeyTypeInfoStore) : Prop where
  urls      : (store.typeUrlToInfo.map (·.1)).Nodup
  addresses : store.typeUrlToInfo.map (·.2.address) = List.range store.typeUrlToInfo.length

/-- **What holds of every store that calls have made**: it is filed, and a private manager that was registered with a public
one has that one beside it. -/
structure Sound (store : KeyTypeInfoStore) : Prop extends Filed store where
  pairs : ∀ url info index, store.find url = some info → info.publicKeyTypeManagerTypeIndex = some index →
    ∃ publicUrl publicInfo, publicUrl ≠ url ∧ store.find publicUrl = some publicInfo ∧
      publicInfo.keyManagerTypeIndex = index

theorem sound_empty : Sound {} := ⟨⟨List.nodup_nil, rfl⟩, fun _ _ _ h => by cases h⟩

theorem Filed.setNewKeyAllowed {store : KeyTypeInfoStore} (h : Filed store) (typeUrl : String) (newKeyAllowed : Bool) :
    Filed (store.setNewKeyAllowed typeUrl newKeyAllowed) := by
  have hsame : ∀ {α : Type} (g : String × Info → α),
      (∀ entry : String × Info, g (entry.1, entry.2.setNewKeyAllowed newKeyAllowed) = g entry) →
      (store.setNewKeyAllowed typeUrl newKeyAllowed).typeUrlToInfo.map g = store.typeUrlToInfo.map g := by
    intro α g hg
    unfold KeyTypeInfoStore.setNewKeyAllowed
    rw [List.map_map]
    refine List.map_congr_left fun entry _ => ?_
    dsimp only [Function.comp_apply]
    split
    · exact hg entry
    · rfl
  have hlen : (store.setNewKeyAllowed typeUrl newKeyAllowed).typeUrlToInfo.length = store.typeUrlToInfo.length :=
    List.length_map ..
  refine ⟨?_, ?_⟩
  · rw [hsame (·.1) (fun _ => rfl)]
    exact h.urls
  · rw [hsame (·.2.address) (fun _ => rfl), hlen]
    exact h.addresses

theorem Filed.add {store : KeyTypeInfoStore} (h : Filed store) (typeUrl : String) {info : Info}
    (haddress : info.address = store.nextAddress) (newKeyAllowed : Bool) :
    Filed (store.add typeUrl info newKeyAllowed) := by
  unfold KeyTypeInfoStore.add
  split
  · exact h.setNewKeyAllowed typeUrl newKeyAllowed
  · rename_i hnone
    refine ⟨?_, ?_⟩
    · have habsent : typeUrl ∉ store.typeUrlToInfo.map (·.1) := by
        intro hmem
        obtain ⟨entry, hentry, hkey⟩ := List.mem_map.1 hmem
        have hne := List.lookup_eq_none_iff.1 hnone entry hentry
        rw [hkey] at hne
        simp at hne
      rw [List.map_append, List.nodup_append]
      refine ⟨h.urls, List.nodup_singleton _, fun url hurl other hother => ?_⟩
      rw [List.map_singleton, List.mem_singleton] at hother
      rintro rfl
      rw [hother] at hurl
      exact habsent hurl
    · rw [List.map_append, h.addresses, List.length_append, List.length_singleton, List.range_succ, List.map_singleton,
        haddress]
      rfl

/-- Pairs are kept by what keeps every `Info` and adds only managers that have their public manager beside them. -/
theorem Sound.of_extends {store store' : KeyTypeInfoStore} (h : Sound store) (hfiled : Filed store')
    (hext : Extends store store')
    (hnew : ∀ url info index, store'.find url = some info → info.publicKeyTypeManagerTypeIndex = some index →
      (∃ old, store.find url = some old ∧ old.publicKeyTypeManagerTypeIndex = some index) ∨
      ∃ publicUrl publicInfo, publicUrl ≠ url ∧ store'.find publicUrl = some publicInfo ∧
        publicInfo.keyManagerTypeIndex = index) : Sound store' := by
  refine ⟨hfiled, fun url info index hfind hindex => ?_⟩
  rcases hnew url info index hfind hindex with ⟨old, hold, hindex⟩ | hpublic
  · obtain ⟨publicUrl, publicInfo, hne, hpublic, hsame⟩ := h.pairs url old index hold hindex
    obtain ⟨_, hpublic', -⟩ := hext _ _ hpublic
    exact ⟨publicUrl, _, hne, hpublic', hsame⟩
  · exact hpublic

theorem find_setNewKeyAllowed_index {store : KeyTypeInfoStore} {typeUrl url : String} {newKeyAllowed : Bool} {info : Info}
    (h : (store.setNewKeyAllowed typeUrl newKeyAllowed).find url = some info) :
    ∃ old, store.find url = some old ∧ old.publicKeyTypeManagerTypeIndex = info.publicKeyTypeManagerTypeIndex := by
  rw [find_setNewKeyAllowed] at h
  split at h
  · obtain ⟨old, hold, rfl⟩ := Option.map_eq_some_iff.1 h
    exact ⟨old, hold, rfl⟩
  · exact ⟨info, h, rfl⟩

/-- An `Info` of a store to which one was added is one from before, but for its flag, or the added one. -/
theorem find_add_index {store : KeyTypeInfoStore} {typeUrl url : String} {added info : Info} {newKeyAllowed : Bool}
    (h : (store.add typeUrl added newKeyAllowed).find url = some info) :
    (∃ old, store.find url = some old ∧ old.publicKeyTypeManagerTypeIndex = info.publicKeyTypeManagerTypeIndex) ∨
      url = typeUrl ∧ info = added := by
  rw [find_add] at h
  split at h
  · rename_i hurl
    subst hurl
    cases hfind : store.find url with
    | none =>
      rw [hfind] at h
      exact .inr ⟨rfl, (Option.some.inj h).symm⟩
    | some old =>
      rw [hfind] at h
      cases h
      exact .inl ⟨old, rfl, rfl⟩
  · exact .inl ⟨info, h, rfl⟩

theorem step_sound {store : KeyTypeInfoStore} (h : Sound store) (call : Call) : Sound (store.step call).2 := by
  have hext := step_extends store call
  rcases step_cases store call with ⟨e, hstep⟩ | ⟨typeUrl, info, allowed, -, hindex, haddress, hstep⟩ |
    ⟨privateManager, publicManager, allowed, hne, -, -, hstep⟩
  · rw [hstep]
    exact h
  · rw [hstep] at hext ⊢
    refine h.of_extends (h.toFiled.add typeUrl haddress allowed) hext (fun url found index hfind hfound => ?_)
    rcases find_add_index hfind with ⟨old, hold, hsame⟩ | ⟨-, rfl⟩
    · exact .inl ⟨old, hold, hsame.trans hfound⟩
    · rw [hindex] at hfound
      cases hfound
  · rw [hstep] at hext ⊢
    rcases addPair_cases store privateManager publicManager allowed with
      ⟨e, hpair⟩ | ⟨_, _, -, -, -, hpair⟩ |
        ⟨hnone, hnone', privateInfo, publicInfo, hindex, hpublic, haddress, hindex', hpublic', haddress', hpair⟩
    · rw [hpair]
      exact h
    · rw [hpair] at hext ⊢
      refine h.of_extends (h.toFiled.setNewKeyAllowed _ _) hext (fun url found index hfind hfound => ?_)
      obtain ⟨old, hold, hsame⟩ := find_setNewKeyAllowed_index hfind
      exact .inl ⟨old, hold, hsame.trans hfound⟩
    · rw [hpair] at hext ⊢
      refine h.of_extends ((h.toFiled.add _ haddress _).add _ haddress' _) hext (fun url found index hfind hfound => ?_)
      rcases find_add_index hfind with ⟨old, hold, hsame⟩ | ⟨-, rfl⟩
      · rcases find_add_index hold with ⟨older, holder, hsame'⟩ | ⟨rfl, rfl⟩
        · exact .inl ⟨older, holder, (hsame'.trans hsame).trans hfound⟩
        · -- the private manager was added together with its public one
          rw [← hsame, hpublic] at hfound
          cases hfound
          refine .inr ⟨publicManager.keyType, publicInfo, hne.symm, ?_, hindex'⟩
          rw [find_add, if_pos rfl, find_add, if_neg hne.symm, hnone']
          rfl
      · rw [hpublic'] at hfound
        cases hfound

theorem run_sound : ∀ (calls : List Call) {store : KeyTypeInfoStore}, Sound store → Sound (store.run calls)
  | [], _, h => h
  | call :: calls, _, h => run_sound calls (step_sound h call)

/-- **The store over every sequence of calls**: no `Info` is replaced and no flag comes back, a pair stays a pair, and a call
that fails leaves the store as it was. -/
theorem keyTypeInfoStore_invariants :
    (∀ (calls later : List Call), Extends (run {} calls) (run {} (calls ++ later))) ∧
    (∀ (calls : List Call) call e, (step (run {} calls) call).1 = .error e → (step (run {} calls) call).2 = run {} calls) ∧
    (∀ (calls later : List Call) mode privateManager publicManager newKeyAllowed,
      (step (run {} calls) (.addAsymmetricKeyTypeManagers mode privateManager publicManager newKeyAllowed)).1 = .ok () →
      PairBound privateManager publicManager (run {}
        (calls ++ .addAsymmetricKeyTypeManagers mode privateManager publicManager newKeyAllowed :: later))) ∧
    ∀ calls : List Call, Sound (run {} calls) := by
  have happend : ∀ calls later : List Call, run {} (calls ++ later) = (run {} calls).run later :=
    fun _ _ => List.foldl_append
  refine ⟨fun calls later => ?_, fun _ _ _ => step_error, fun calls later mode privateManager publicManager allowed h => ?_,
    fun calls => run_sound calls sound_empty⟩
  · rw [happend]
    exact run_extends later _
  · rw [happend]
    exact (addAsymmetric_bound h).extends (run_extends later _)

def privateKeyTypeManager : KeyTypeManager := ⟨0, ⟨"EcdsaSignKeyManager"⟩, "EcdsaPrivateKey", .requiresBoringCrypto⟩

def publicKeyTypeManager : KeyTypeManager := ⟨1, ⟨"EcdsaVerifyKeyManager"⟩, "EcdsaPublicKey", .requiresBoringCrypto⟩

/-- A pair, after a call that takes the flag away and one that cannot bring it back. -/
theorem keyTypeInfoStore_pair :
    PairBound privateKeyTypeManager publicKeyTypeManager (run {}
      [.addAsymmetricKeyTypeManagers ⟨false, false⟩ privateKeyTypeManager publicKeyTypeManager true,
        .addKeyTypeManager ⟨false, false⟩ privateKeyTypeManager false,
        .addAsymmetricKeyTypeManagers ⟨false, false⟩ privateKeyTypeManager publicKeyTypeManager true]) :=
  keyTypeInfoStore_invariants.2.2.1 []
    [.addKeyTypeManager ⟨false, false⟩ privateKeyTypeManager false,
      .addAsymmetricKeyTypeManagers ⟨false, false⟩ privateKeyTypeManager publicKeyTypeManager true]
    ⟨false, false⟩ privateKeyTypeManager publicKeyTypeManager true rfl

end KeyTypeInfoStore

end Tink
