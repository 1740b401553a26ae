import TinkCc.KeysetHandle
import TinkCc.KeysetManager
/-!
# KeysetHandleBuilder — handles that are built entry by entry

`keyset_handle_builder.cc` and `internal/keyset_handle_builder_entry.cc`.  `Built` says what the loop of `Build` has made
of the entries; that a handle is valid or not is read from it.
-/
namespace Tink

/-! ## Entries -/

inductive KeyIdStrategyEnum
  | fixedId
  | randomId
  | other (value : Int)
  deriving DecidableEq, Repr

structure KeyIdStrategy where
  strategy      : KeyIdStrategyEnum
  idRequirement : Option UInt32
  deriving DecidableEq, Repr

/-- A key, or the parameters of a key that `Build` makes. -/
inductive EntrySource (Key Params : Type)
  | key (key : Key)
  | parameters (parameters : Params)

/-- `KeysetHandleBuilder::Entry`. -/
structure BuilderEntry (Key Params : Type) where
  source         : EntrySource Key Params
  status         : KeyStatus := .disabled
  isPrimary      : Bool := false
  strategy       : KeyIdStrategy := ⟨.randomId, none⟩
  addedToBuilder : Bool := false

/-- What the builder asks of keys, parameters and their serializations. -/
structure KeyClasses (Key Params : Type) where
  idRequirement       : Key → Option UInt32
  hasIdRequirement    : Params → Bool
  serializeKey        : Key → Except Status ProtoKeySerialization
  serializeParameters : Params → Except Status KeyTemplate
  parseKey            : ProtoKeySerialization → Except Status Key

/-- A `KeyGenConfiguration`; keys are made at random, so what is made depends on the entry, by its index. -/
structure KeyGenConfiguration (Key Params : Type) where
  globalRegistryMode : Bool
  createKey          : Nat → Params → Option UInt32 → Except Status Key
  newKeyData         : Nat → KeyTemplate → Except Status KeyData

section Builder
variable {Key Params : Type}

namespace BuilderEntry

def setStatus (status : KeyStatus) (entry : BuilderEntry Key Params) : BuilderEntry Key Params :=
  { entry with status := status }

def setPrimary (entry : BuilderEntry Key Params) : BuilderEntry Key Params := { entry with isPrimary := true }

def unsetPrimary (entry : BuilderEntry Key Params) : BuilderEntry Key Params := { entry with isPrimary := false }

def setFixedId (id : UInt32) (entry : BuilderEntry Key Params) : BuilderEntry Key Params :=
  { entry with strategy := ⟨.fixedId, some id⟩ }

def setRandomId (entry : BuilderEntry Key Params) : BuilderEntry Key Params :=
  { entry with strategy := ⟨.randomId, none⟩ }

/-- `SetBuilderEntryAttributes`. -/
def setAttributes (status : KeyStatus) (isPrimary : Bool) (id : Option UInt32) (entry : BuilderEntry Key Params) :
    BuilderEntry Key Params :=
  let entry := entry.setStatus status
  let entry := if isPrimary then entry.setPrimary else entry.unsetPrimary
  match id with
  | some id => entry.setFixedId id
  | none => entry.setRandomId

variable (classes : KeyClasses Key Params)

def createFromKey (key : Key) (status : KeyStatus) (isPrimary : Bool) : BuilderEntry Key Params :=
  setAttributes status isPrimary (classes.idRequirement key) { source := .key key }

theorem setAttributes_source (status : KeyStatus) (isPrimary : Bool) (id : Option UInt32)
    (entry : BuilderEntry Key Params) : (entry.setAttributes status isPrimary id).source = entry.source := by
  cases isPrimary <;> cases id <;> rfl

theorem setAttributes_status (status : KeyStatus) (isPrimary : Bool) (id : Option UInt32)
    (entry : BuilderEntry Key Params) : (entry.setAttributes status isPrimary id).status = status := by
  cases isPrimary <;> cases id <;> rfl

def createFromParams (parameters : Params) (status : KeyStatus) (isPrimary : Bool) (id : Option UInt32) :
    BuilderEntry Key Params :=
  setAttributes status isPrimary id { source := .parameters parameters }

end BuilderEntry

/-! ## The key of an entry -/

variable (classes : KeyClasses Key Params)

/-- `ToKeysetKey`. -/
def toKeysetKey (id : UInt32) (status : KeyStatusType) (serialization : ProtoKeySerialization) : KeysetKey :=
  { keyData := some ⟨serialization.typeUrl, serialization.serializedKey, serialization.keyMaterialType⟩,
    status := status, keyId := id, outputPrefixType := serialization.outputPrefixType }

/-- `CreateKeysetKeyFromProtoKeySerialization`. -/
def createKeysetKeyFromProtoKeySerialization (serialization : ProtoKeySerialization) (id : UInt32)
    (status : KeyStatusType) : Except Status KeysetKey :=
  match serialization.idRequirement with
  | some idRequirement =>
    if idRequirement ≠ id then .error ⟨.invalidArgument, "Wrong ID set for key with ID requirement."⟩
    else .ok (toKeysetKey id status serialization)
  | none => .ok (toKeysetKey id status serialization)

/-- `CreateKeysetKeyFromKey`. -/
def createKeysetKeyFromKey (key : Key) (id : UInt32) (status : KeyStatusType) : Except Status KeysetKey :=
  match classes.serializeKey key with
  | .error e => .error e
  | .ok serialization => createKeysetKeyFromProtoKeySerialization serialization id status

variable (config : KeyGenConfiguration Key Params)

/-- `CreateKeysetKeyFromParameters`. -/
def createKeysetKeyFromParameters (index : Nat) (parameters : Params) (id : UInt32) (status : KeyStatusType) :
    Except Status KeysetKey :=
  match classes.serializeParameters parameters with
  | .error e => .error e
  | .ok keyTemplate =>
    match config.newKeyData index keyTemplate with
    | .error e => .error e
    | .ok keyData => .ok ⟨some keyData, status, id, keyTemplate.outputPrefixType⟩

/-- `ParametersEntry::CreateKeysetKey`, after its checks. -/
def parametersKeysetKey (index : Nat) (parameters : Params) (id : UInt32) (status : KeyStatusType) :
    Except Status KeysetKey :=
  if config.globalRegistryMode then createKeysetKeyFromParameters classes config index parameters id status
  else
    match config.createKey index parameters (if classes.hasIdRequirement parameters then some id else none) with
    | .ok key => createKeysetKeyFromKey classes key id status
    | .error e =>
      -- a key creator that fails is not one that is missing
      if e.code ≠ .unimplemented then .error e
      else createKeysetKeyFromParameters classes config index parameters id status

/-- `CreateKeysetKey` of an entry. -/
def BuilderEntry.createKeysetKey (index : Nat) (entry : BuilderEntry Key Params) (id : UInt32) :
    Except Status KeysetKey :=
  match toKeyStatusType entry.status with
  | .error e => .error e
  | .ok status =>
    if entry.strategy.idRequirement ≠ none ∧ entry.strategy.idRequirement ≠ some id then
      .error ⟨.invalidArgument, "Requested id does not match id requirement."⟩
    else
      match entry.source with
      | .key key => createKeysetKeyFromKey classes key id status
      | .parameters parameters => parametersKeysetKey classes config index parameters id status

/-! ## The builder -/

/-- `KeysetHandleBuilder`; of the annotations, the names of their types. -/
structure KeysetHandleBuilder (Key Params : Type) where
  entries           : List (BuilderEntry Key Params) := []
  annotations       : List String := []
  annotationsStatus : Except Status Unit := .ok ()
  buildCalled       : Bool := false

namespace KeysetHandleBuilder

/-- `ClearPrimary`. -/
def clearPrimary (builder : KeysetHandleBuilder Key Params) : KeysetHandleBuilder Key Params :=
  { builder with entries := builder.entries.map (·.unsetPrimary) }

/-- `AddEntry`. -/
def addEntry (entry : BuilderEntry Key Params) (builder : KeysetHandleBuilder Key Params) :
    Option (KeysetHandleBuilder Key Params) :=
  if entry.addedToBuilder then none
  else
    let builder := if entry.isPrimary then builder.clearPrimary else builder
    some { builder with entries := builder.entries ++ [{ entry with addedToBuilder := true }] }

/-- `RemoveEntry`. -/
def removeEntry (index : Nat) (builder : KeysetHandleBuilder Key Params) : Option (KeysetHandleBuilder Key Params) :=
  if index < builder.entries.length then some { builder with entries := builder.entries.eraseIdx index } else none

/-- A setter of an entry that was added. -/
def modifyEntry (index : Nat) (f : BuilderEntry Key Params → BuilderEntry Key Params)
    (builder : KeysetHandleBuilder Key Params) : Option (KeysetHandleBuilder Key Params) :=
  if index < builder.entries.length then some { builder with entries := builder.entries.modify index f } else none

/-- `AddAnnotations`. -/
def addAnnotations (typeName : String) (builder : KeysetHandleBuilder Key Params) : KeysetHandleBuilder Key Params :=
  if typeName ∈ builder.annotations then
    let status : Status := ⟨.invalidArgument, s!"Annotations for type {typeName} have already been added."⟩
    { builder with annotationsStatus := .error status }
  else { builder with annotations := typeName :: builder.annotations }

end KeysetHandleBuilder

def BuilderEntry.hasRandomId (entry : BuilderEntry Key Params) : Bool := decide (entry.strategy.strategy = .randomId)

/-- The loop of `CheckIdAssignments`. -/
def checkIdLoop : List (BuilderEntry Key Params) → Except Status Unit
  | [] => .ok ()
  | [_] => .ok ()
  | entry :: next :: entries =>
    if entry.hasRandomId && !next.hasRandomId then
      .error ⟨.failedPrecondition, "Entries with random ids may only be followed by other entries with random ids."⟩
    else checkIdLoop (next :: entries)

/-- `CheckIdAssignments`. -/
def checkIdAssignments (entries : List (BuilderEntry Key Params)) : Except Status Unit :=
  if entries = [] then .error ⟨.failedPrecondition, "Cannot build empty keyset."⟩ else checkIdLoop entries

/-- The loop that draws an id, and the draws after it. -/
def drawId (idsSoFar : List UInt32) : List UInt32 → Option (UInt32 × List UInt32)
  | [] => none
  | id :: draws => if id = 0 ∨ id ∈ idsSoFar then drawId idsSoFar draws else some (id, draws)

/-- `NextIdFromKeyIdStrategy`. -/
def nextIdFromKeyIdStrategy (strategy : KeyIdStrategy) (idsSoFar draws : List UInt32) :
    Option (Except Status UInt32 × List UInt32) :=
  match strategy.strategy with
  | .fixedId =>
    match strategy.idRequirement with
    | none => some (.error ⟨.invalidArgument, "Missing fixed id with fixed id strategy."⟩, draws)
    | some id => some (.ok id, draws)
  | .randomId => (drawId idsSoFar draws).map fun r => (.ok r.1, r.2)
  | .other _ => some (.error ⟨.invalidArgument, "Invalid key id strategy."⟩, draws)

/-- The loop of `Build`: the keys and the primary id. -/
def buildLoop : Nat → List (BuilderEntry Key Params) → List UInt32 → List UInt32 → List KeysetKey → Option UInt32 →
    Option (Except Status (List KeysetKey × Option UInt32))
  | _, [], _, _, keys, primaryId => some (.ok (keys, primaryId))
  | index, entry :: entries, draws, idsSoFar, keys, primaryId =>
    match nextIdFromKeyIdStrategy entry.strategy idsSoFar draws with
    | none => none
    | some (.error e, _) => some (.error e)
    | some (.ok id, draws) =>
      if id ∈ idsSoFar then
        let shown := id.toInt32.toInt
        some (.error ⟨.alreadyExists, s!"Next id {shown} is already used in the keyset."⟩)
      else
        match entry.createKeysetKey classes config index id with
        | .error e => some (.error e)
        | .ok key =>
          if entry.isPrimary then
            match primaryId with
            | some _ =>
              some (.error ⟨.internal, "Primary is already set in this keyset (should never happen since " ++
                "primary is cleared when a new primary is added)."⟩)
            | none => buildLoop (index + 1) entries draws (id :: idsSoFar) (keys ++ [key]) (some id)
          else buildLoop (index + 1) entries draws (id :: idsSoFar) (keys ++ [key]) primaryId

/-- `Build`, from the check of the ids on. -/
def buildEntries (draws : List UInt32) (entries : List (BuilderEntry Key Params)) :
    Option (Except Status (KeysetHandle Key)) :=
  match checkIdAssignments entries with
  | .error e => some (.error e)
  | .ok () =>
    match buildLoop classes config 0 entries draws [] [] none with
    | none => none
    | some (.error e) => some (.error e)
    | some (.ok (_, none)) => some (.error ⟨.failedPrecondition, "No primary set in this keyset."⟩)
    | some (.ok (keys, some primaryId)) =>
      match getEntriesFromKeyset classes.parseKey ⟨primaryId, keys⟩ with
      | .error e => some (.error e)
      | .ok entries => some (.ok ⟨⟨primaryId, keys⟩, entries⟩)

/-- `Build`. -/
def KeysetHandleBuilder.build (draws : List UInt32) (builder : KeysetHandleBuilder Key Params) :
    Option (Except Status (KeysetHandle Key) × KeysetHandleBuilder Key Params) :=
  if builder.buildCalled then
    some (.error ⟨.failedPrecondition, "KeysetHandleBuilder::Build may only be called once"⟩, builder)
  else
    match builder.annotationsStatus with
    | .error e => some (.error e, builder)
    | .ok () => (buildEntries classes config draws builder.entries).map fun r => (r, { builder with buildCalled := true })

/-! ## Runs -/

inductive BuilderOp (Key Params : Type)
  | addEntry (entry : BuilderEntry Key Params)
  | removeEntry (index : Nat)
  | setStatus (index : Nat) (status : KeyStatus)
  | setPrimary (index : Nat)
  | unsetPrimary (index : Nat)
  | setFixedId (index : Nat) (id : UInt32)
  | setRandomId (index : Nat)
  | addAnnotations (typeName : String)

/-- A call; `none` if it aborts. -/
def builderStep (builder : KeysetHandleBuilder Key Params) : BuilderOp Key Params → Option (KeysetHandleBuilder Key Params)
  | .addEntry entry => builder.addEntry entry
  | .removeEntry index => builder.removeEntry index
  | .setStatus index status => builder.modifyEntry index (·.setStatus status)
  | .setPrimary index => builder.modifyEntry index (·.setPrimary)
  | .unsetPrimary index => builder.modifyEntry index (·.unsetPrimary)
  | .setFixedId index id => builder.modifyEntry index (·.setFixedId id)
  | .setRandomId index => builder.modifyEntry index (·.setRandomId)
  | .addAnnotations typeName => some (builder.addAnnotations typeName)

def builderRun (builder : KeysetHandleBuilder Key Params) :
    List (BuilderOp Key Params) → Option (KeysetHandleBuilder Key Params)
  | [] => some builder
  | op :: ops => (builderStep builder op).bind fun builder => builderRun builder ops

/-! ## What the loop of `Build` makes -/

/-- **The keys made of the entries, and the primary id among them**, when `ids` were taken before. -/
inductive Built : List UInt32 → List (BuilderEntry Key Params) → List KeysetKey → Option UInt32 → Prop
  | nil {ids} : Built ids [] [] none
  | cons {ids entry entries key keys p} : key.keyId ∉ ids → toKeyStatusType entry.status = .ok key.status →
      entry.isPrimary = false → Built (key.keyId :: ids) entries keys p →
      Built ids (entry :: entries) (key :: keys) p
  | primary {ids entry entries key keys} : key.keyId ∉ ids → toKeyStatusType entry.status = .ok key.status →
      entry.isPrimary = true → Built (key.keyId :: ids) entries keys none →
      Built ids (entry :: entries) (key :: keys) (some key.keyId)

theorem createKeysetKeyFromKey_ok {key : Key} {id : UInt32} {status : KeyStatusType} {keysetKey : KeysetKey}
    (h : createKeysetKeyFromKey classes key id status = .ok keysetKey) :
    keysetKey.keyId = id ∧ keysetKey.status = status := by
  unfold createKeysetKeyFromKey createKeysetKeyFromProtoKeySerialization at h
  split at h
  · cases h
  · split at h
    · split at h
      · cases h
      · cases h
        exact ⟨rfl, rfl⟩
    · cases h
      exact ⟨rfl, rfl⟩

theorem createKeysetKeyFromParameters_ok {index : Nat} {parameters : Params} {id : UInt32} {status : KeyStatusType}
    {keysetKey : KeysetKey} (h : createKeysetKeyFromParameters classes config index parameters id status = .ok keysetKey) :
    keysetKey.keyId = id ∧ keysetKey.status = status := by
  unfold createKeysetKeyFromParameters at h
  split at h
  · cases h
  · split at h
    · cases h
    · cases h
      exact ⟨rfl, rfl⟩

theorem parametersKeysetKey_ok {index : Nat} {parameters : Params} {id : UInt32} {status : KeyStatusType}
    {keysetKey : KeysetKey} (h : parametersKeysetKey classes config index parameters id status = .ok keysetKey) :
    keysetKey.keyId = id ∧ keysetKey.status = status := by
  unfold parametersKeysetKey at h
  split at h
  · exact createKeysetKeyFromParameters_ok classes config h
  · split at h
    · exact createKeysetKeyFromKey_ok classes h
    · split at h
      · cases h
      · exact createKeysetKeyFromParameters_ok classes config h

/-- **The key of an entry has the id it was asked for and the status of the entry.** -/
theorem createKeysetKey_ok {index : Nat} {entry : BuilderEntry Key Params} {id : UInt32} {key : KeysetKey}
    (h : entry.createKeysetKey classes config index id = .ok key) :
    key.keyId = id ∧ toKeyStatusType entry.status = .ok key.status := by
  unfold BuilderEntry.createKeysetKey at h
  split at h
  · cases h
  · rename_i status hstatus
    split at h
    · cases h
    · have hkey : key.keyId = id ∧ key.status = status := by
        split at h
        · exact createKeysetKeyFromKey_ok classes h
        · exact parametersKeysetKey_ok classes config h
      exact ⟨hkey.1, by rw [hkey.2, hstatus]⟩

/-- What is asked of a key that an entry holds. -/
theorem createKeysetKey_key {index : Nat} {entry : BuilderEntry Key Params} {id : UInt32} {key : Key} {keysetKey : KeysetKey}
    (hsource : entry.source = .key key) :
    entry.createKeysetKey classes config index id = .ok keysetKey ↔
      (entry.strategy.idRequirement = none ∨ entry.strategy.idRequirement = some id) ∧
        ∃ status s, toKeyStatusType entry.status = .ok status ∧ classes.serializeKey key = .ok s ∧
          (s.idRequirement = none ∨ s.idRequirement = some id) ∧ keysetKey = toKeysetKey id status s := by
  unfold BuilderEntry.createKeysetKey createKeysetKeyFromKey createKeysetKeyFromProtoKeySerialization
  rw [hsource]
  rcases hstatus : toKeyStatusType entry.status with e | status
  · simp
  · dsimp only
    by_cases hid : entry.strategy.idRequirement ≠ none ∧ entry.strategy.idRequirement ≠ some id
    · rw [if_pos hid]
      exact iff_of_false (fun h => by cases h) (fun h => h.1.elim hid.1 hid.2)
    · rw [if_neg hid]
      rw [not_and_or, not_not, not_not] at hid
      rcases hs : classes.serializeKey key with e | s
      · simp
      · dsimp only
        rcases hreq : s.idRequirement with _ | idRequirement
        · simp [hid, hreq, eq_comm]
        · by_cases heq : idRequirement = id
          · simp [hid, hreq, heq, eq_comm]
          · simp [hreq, heq]

theorem buildLoop_ok :
    ∀ {entries : List (BuilderEntry Key Params)} {index : Nat} {draws ids : List UInt32} {keys keys' : List KeysetKey}
      {primaryId primaryId' : Option UInt32},
      buildLoop classes config index entries draws ids keys primaryId = some (.ok (keys', primaryId')) →
      ∃ new p, keys' = keys ++ new ∧ Built ids entries new p ∧
        (primaryId = none ∧ primaryId' = p ∨ p = none ∧ primaryId' = primaryId)
  | [], index, draws, ids, keys, keys', primaryId, primaryId', h => by
    cases h
    exact ⟨[], none, by simp, .nil, .inr ⟨rfl, rfl⟩⟩
  | entry :: entries, index, draws, ids, keys, keys', primaryId, primaryId', h => by
    unfold buildLoop at h
    split at h
    · cases h
    · cases h
    · rename_i id draws' hid
      split at h
      · cases h
      · rename_i hnew
        split at h
        · cases h
        · rename_i key hkey
          obtain ⟨rfl, hstatus⟩ := createKeysetKey_ok classes config hkey
          by_cases hp : entry.isPrimary = true
          · rw [if_pos hp] at h
            split at h
            · cases h
            · obtain ⟨new, p, rfl, hbuilt, hprimary⟩ := buildLoop_ok h
              rcases hprimary with ⟨hne, -⟩ | ⟨rfl, rfl⟩
              · cases hne
              · exact ⟨key :: new, some key.keyId, by simp, .primary hnew hstatus hp hbuilt, .inl ⟨rfl, rfl⟩⟩
          · rw [if_neg hp] at h
            obtain ⟨new, p, rfl, hbuilt, hprimary⟩ := buildLoop_ok h
            exact ⟨key :: new, p, by simp, .cons hnew hstatus (by simpa using hp) hbuilt, hprimary⟩

/-- The key of an entry was created with the id it has. -/
def CreatedFrom (entry : BuilderEntry Key Params) (key : KeysetKey) : Prop :=
  ∃ index, entry.createKeysetKey classes config index key.keyId = .ok key

theorem buildLoop_created :
    ∀ {entries : List (BuilderEntry Key Params)} {index : Nat} {draws ids : List UInt32} {keys keys' : List KeysetKey}
      {primaryId primaryId' : Option UInt32},
      buildLoop classes config index entries draws ids keys primaryId = some (.ok (keys', primaryId')) →
      ∃ new, keys' = keys ++ new ∧ List.Forall₂ (CreatedFrom classes config) entries new
  | [], index, draws, ids, keys, keys', primaryId, primaryId', h => by
    cases h
    exact ⟨[], by simp, .nil⟩
  | entry :: entries, index, draws, ids, keys, keys', primaryId, primaryId', h => by
    unfold buildLoop at h
    split at h
    · cases h
    · cases h
    · rename_i id draws' hid
      split at h
      · cases h
      · split at h
        · cases h
        · rename_i key hkey
          have hcreated : CreatedFrom classes config entry key :=
            ⟨index, by rw [(createKeysetKey_ok classes config hkey).1]; exact hkey⟩
          have hnext : ∃ primaryId₁, buildLoop classes config (index + 1) entries draws' (id :: ids) (keys ++ [key])
              primaryId₁ = some (.ok (keys', primaryId')) := by
            split at h
            · split at h
              · cases h
              · exact ⟨_, h⟩
            · exact ⟨_, h⟩
          obtain ⟨primaryId₁, hloop⟩ := hnext
          obtain ⟨new, rfl, hnew⟩ := buildLoop_created hloop
          exact ⟨key :: new, by simp, .cons hcreated hnew⟩

namespace Built
variable {ids : List UInt32} {entries : List (BuilderEntry Key Params)} {keys : List KeysetKey} {p : Option UInt32}

/-- The ids are new and distinct. -/
theorem nodup (h : Built ids entries keys p) : (keys.map (·.keyId)).Nodup ∧ ∀ key ∈ keys, key.keyId ∉ ids := by
  have hcons : ∀ {ids key} {keys : List KeysetKey}, key.keyId ∉ ids →
      ((keys.map (·.keyId)).Nodup ∧ ∀ k ∈ keys, k.keyId ∉ key.keyId :: ids) →
      ((key :: keys).map (·.keyId)).Nodup ∧ ∀ k ∈ key :: keys, k.keyId ∉ ids := by
    intro ids key keys hnew ih
    refine ⟨List.nodup_cons.2 ⟨fun hmem => ?_, ih.1⟩, fun k hk => ?_⟩
    · obtain ⟨k, hk, heq⟩ := List.mem_map.1 hmem
      exact ih.2 k hk (heq ▸ List.mem_cons_self ..)
    · rcases List.mem_cons.1 hk with rfl | hk
      · exact hnew
      · exact fun hmem => ih.2 k hk (List.mem_cons_of_mem _ hmem)
  induction h with
  | nil => simp
  | cons hnew _ _ _ ih => exact hcons hnew ih
  | primary hnew _ _ _ ih => exact hcons hnew ih

/-- Without a primary id no entry is the primary one. -/
theorem of_none (h : Built ids entries keys p) (hp : p = none) : ∀ entry ∈ entries, entry.isPrimary = false := by
  induction h with
  | nil => simp
  | cons _ _ hnot _ ih =>
    intro e he
    rcases List.mem_cons.1 he with rfl | he
    · exact hnot
    · exact ih hp e he
  | primary => cases hp

/-- **The primary id is that of the key that was made of the one primary entry.** -/
theorem of_some {id : UInt32} (h : Built ids entries keys p) (hp : p = some id) :
    ∃ entry ∈ entries, ∃ key ∈ keys, entry.isPrimary = true ∧ key.keyId = id ∧
      toKeyStatusType entry.status = .ok key.status ∧ ∀ e ∈ entries, e.isPrimary = true → e = entry := by
  induction h with
  | nil => cases hp
  | cons _ _ hnot _ ih =>
    obtain ⟨entry, hentry, key, hkey, hprimary, hid, hs, hunique⟩ := ih hp
    refine ⟨entry, List.mem_cons_of_mem _ hentry, key, List.mem_cons_of_mem _ hkey, hprimary, hid, hs, fun e he hep => ?_⟩
    rcases List.mem_cons.1 he with rfl | he
    · rw [hnot] at hep
      cases hep
    · exact hunique e he hep
  | primary _ hs hprimary hrest _ =>
    cases hp
    refine ⟨_, List.mem_cons_self .., _, List.mem_cons_self .., hprimary, rfl, hs, fun e he hep => ?_⟩
    rcases List.mem_cons.1 he with rfl | he
    · rfl
    · rw [hrest.of_none rfl e he] at hep
      cases hep

end Built

/-! ## What a handle is worth -/

/-- **A handle one can rely on**: distinct ids, one primary entry, which is ENABLED, entries that say what the proto says,
and a `Validate` and a `GetPrimary` that succeed. -/
structure KeysetHandle.Good (parseKey : ProtoKeySerialization → Except Status Key) (handle : KeysetHandle Key) : Prop where
  distinct   : handle.keyset.ids.Nodup
  primary    : ∃ entry, handle.entries.filter (·.isPrimary) = [entry] ∧ entry.status = .enabled
  validates  : handle.validate = .ok ()
  getPrimary : ∃ entry, handle.getPrimary parseKey = some entry
  agrees     : List.Forall₂ (EntryAgrees handle.keyset.primaryKeyId) handle.entries handle.keyset.key

variable {classes config} {draws : List UInt32} {handle : KeysetHandle Key}

/-- **What `Build` has done** when it returns a handle. -/
theorem buildEntries_cases {entries : List (BuilderEntry Key Params)}
    (h : buildEntries classes config draws entries = some (.ok handle)) :
    buildLoop classes config 0 entries draws [] [] none =
        some (.ok (handle.keyset.key, some handle.keyset.primaryKeyId)) ∧
      getEntriesFromKeyset classes.parseKey handle.keyset = .ok handle.entries := by
  unfold buildEntries at h
  split at h
  · cases h
  · split at h
    · cases h
    · cases h
    · cases h
    · rename_i keys primaryId hloop
      split at h
      · cases h
      · rename_i handleEntries hentries
        cases h
        exact ⟨hloop, hentries⟩

theorem buildEntries_ok {entries : List (BuilderEntry Key Params)}
    (h : buildEntries classes config draws entries = some (.ok handle)) :
    Built [] entries handle.keyset.key (some handle.keyset.primaryKeyId) ∧
      List.Forall₂ (EntryAgrees handle.keyset.primaryKeyId) handle.entries handle.keyset.key ∧
      ∀ key ∈ handle.keyset.key, validateAt key = .ok () := by
  obtain ⟨hloop, hentries⟩ := buildEntries_cases h
  obtain ⟨new, p, hkeys, hbuilt, hprimary⟩ := buildLoop_ok classes config hloop
  rw [List.nil_append] at hkeys
  obtain ⟨hagrees, hvalid⟩ := entriesLoop_ok classes.parseKey hentries
  refine ⟨?_, hagrees, hvalid⟩
  rw [hkeys]
  rcases hprimary with ⟨-, hp⟩ | ⟨-, hne⟩
  · rw [hp]
    exact hbuilt
  · cases hne

theorem buildEntries_created {entries : List (BuilderEntry Key Params)}
    (h : buildEntries classes config draws entries = some (.ok handle)) :
    List.Forall₂ (CreatedFrom classes config) entries handle.keyset.key := by
  obtain ⟨new, hkeys, hnew⟩ := buildLoop_created classes config (buildEntries_cases h).1
  rw [hkeys]
  exact hnew

theorem build_ok {builder builder' : KeysetHandleBuilder Key Params}
    (h : builder.build classes config draws = some (.ok handle, builder')) :
    buildEntries classes config draws builder.entries = some (.ok handle) := by
  unfold KeysetHandleBuilder.build at h
  split at h
  · cases h
  · split at h
    · cases h
    · cases hb : buildEntries classes config draws builder.entries with
      | none =>
        rw [hb] at h
        cases h
      | some r =>
        rw [hb] at h
        cases h
        rfl

/-- Distinct ids, valid keys and a primary key: `Validate` accepts exactly when that key is ENABLED. -/
theorem validate_iff (hnodup : handle.keyset.ids.Nodup) (hvalid : ∀ key ∈ handle.keyset.key, validateAt key = .ok ())
    {key : KeysetKey} (hmem : key ∈ handle.keyset.key) (hid : key.keyId = handle.keyset.primaryKeyId) :
    handle.validate = .ok () ↔ key.status = .enabled := by
  have hone : (handle.keyset.key.filter fun k => decide (k.keyId = handle.keyset.primaryKeyId)) = [key] := by
    rw [← hid]
    exact Keyset.filter_keyId hnodup hmem
  have hall : (∀ k ∈ handle.keyset.key, k.keyId = handle.keyset.primaryKeyId → k.status = .enabled) ↔
      key.status = .enabled := by
    constructor
    · intro h
      exact h key hmem hid
    · intro hs k hk hkid
      rw [Keyset.eq_of_keyId hnodup hk hmem (hkid.trans hid.symm)]
      exact hs
  unfold KeysetHandle.validate
  rw [validateLoop_eq _ _ _ hvalid, hone]
  by_cases hs : key.status = .enabled
  · rw [if_pos (hall.2 hs)]
    simp [hs]
  · rw [if_neg (fun h => hs (hall.1 h))]
    simp [hs]

/-- A handle that validates and has an entry for each key has a primary entry to give. -/
theorem getPrimary_of_validate {parseKey : ProtoKeySerialization → Except Status Key} (h : handle.validate = .ok ())
    (hlen : handle.entries.length = handle.keyset.key.length) {key : KeysetKey} (hmem : key ∈ handle.keyset.key)
    (hid : key.keyId = handle.keyset.primaryKeyId) : ∃ entry, handle.getPrimary parseKey = some entry := by
  unfold KeysetHandle.getPrimary
  rw [h]
  simp only
  split
  · rename_i hfind
    rw [List.findIdx?_eq_none_iff] at hfind
    simpa [hid] using hfind key hmem
  · rename_i index hfind
    obtain ⟨hlt, -⟩ := List.findIdx?_eq_some_iff_getElem.1 hfind
    exact ⟨handle.entries[index], entryAt_stored parseKey (List.getElem?_eq_getElem hlt)
      (List.getElem?_eq_getElem (hlen ▸ hlt))⟩

/-- **After any calls, the handle `Build` returns is good exactly when the primary entry is ENABLED.** -/
theorem build_good_iff {start builder builder' : KeysetHandleBuilder Key Params} {ops : List (BuilderOp Key Params)}
    (_hrun : builderRun start ops = some builder)
    (hbuild : builder.build classes config draws = some (.ok handle, builder')) :
    handle.Good classes.parseKey ↔ ∀ entry ∈ builder.entries, entry.isPrimary = true → entry.status = .enabled := by
  obtain ⟨hbuilt, hagrees, hvalid⟩ := buildEntries_ok (build_ok hbuild)
  have hnodup : handle.keyset.ids.Nodup := hbuilt.nodup.1
  obtain ⟨entry, hentry, key, hkey, hprimary, hid, hstatus, hunique⟩ := hbuilt.of_some rfl
  have hiff := validate_iff hnodup hvalid hkey hid
  constructor
  · intro hgood e he hep
    rw [hunique e he hep]
    exact (enabled_iff hstatus).2 (hiff.1 hgood.validates)
  · intro henabled
    have hs : key.status = .enabled := (enabled_iff hstatus).1 (henabled entry hentry hprimary)
    have hvalidates := hiff.2 hs
    refine ⟨hnodup, ?_, hvalidates, getPrimary_of_validate hvalidates hagrees.length_eq hkey hid, hagrees⟩
    -- the entries marked primary are those of the keys with the primary id, and that is one key
    have hfilter := List.rel_filter (p := fun e : HandleEntry Key => e.isPrimary)
      (q := fun k : KeysetKey => decide (k.keyId = handle.keyset.primaryKeyId))
      (fun _ _ h => by simp only [h.primary]) hagrees
    rw [← hid, Keyset.filter_keyId hnodup hkey] at hfilter
    obtain ⟨e, _, he, hnil, heq⟩ := List.forall₂_cons_right_iff.1 hfilter
    cases hnil
    exact ⟨e, heq, (enabled_iff he.status).2 hs⟩

end Builder

/-- Keys that are their own serializations. -/
def serializedKeys : KeyClasses ProtoKeySerialization Unit where
  idRequirement := (·.idRequirement)
  hasIdRequirement := fun _ => false
  serializeKey := .ok
  serializeParameters := fun _ => .error ⟨.unimplemented, ""⟩
  parseKey := .ok

def noKeyGen : KeyGenConfiguration ProtoKeySerialization Unit where
  globalRegistryMode := true
  createKey := fun _ _ _ => .error ⟨.unimplemented, ""⟩
  newKeyData := fun _ _ => .error ⟨.notFound, ""⟩

def rawKey : ProtoKeySerialization :=
  ⟨"type.googleapis.com/google.crypto.tink.AesGcmKey", [26, 0], .symmetric, .raw, none, by decide, by decide⟩

def tinkKey (id : UInt32) : ProtoKeySerialization :=
  ⟨"type.googleapis.com/google.crypto.tink.AesGcmKey", [26, 0], .symmetric, .tink, some id, by decide, by simp⟩

/-- A TINK key that is DISABLED and a RAW key with another status; both are added as the primary key. -/
def twoEntries (status : KeyStatus) : List (BuilderOp ProtoKeySerialization Unit) :=
  [.addEntry (.createFromKey serializedKeys (tinkKey 5) .disabled true),
   .addEntry (.createFromKey serializedKeys rawKey status true)]

/-- The builder after `twoEntries`. -/
def twoEntriesBuilder (status : KeyStatus) : KeysetHandleBuilder ProtoKeySerialization Unit :=
  { entries := [⟨.key (tinkKey 5), .disabled, false, ⟨.fixedId, some 5⟩, true⟩,
                ⟨.key rawKey, status, true, ⟨.randomId, none⟩, true⟩] }

/-- The handle of `twoEntries`, when 7 is the first id drawn that is not taken. -/
def twoEntriesHandle (status : KeyStatus) (statusType : KeyStatusType) : KeysetHandle ProtoKeySerialization :=
  { keyset := ⟨7, [toKeysetKey 5 .disabled (tinkKey 5), toKeysetKey 7 statusType rawKey]⟩,
    entries := [⟨tinkKey 5, .disabled, 5, false⟩, ⟨rawKey, status, 7, true⟩] }

theorem enabled_primary_good :
    ∃ builder builder' handle, builderRun {} (twoEntries .enabled) = some builder ∧
      builder.build serializedKeys noKeyGen [0, 5, 7] = some (.ok handle, builder') ∧ handle.Good .ok := by
  have hrun : builderRun {} (twoEntries .enabled) = some (twoEntriesBuilder .enabled) := rfl
  have hbuild : (twoEntriesBuilder .enabled).build serializedKeys noKeyGen [0, 5, 7] =
      some (.ok (twoEntriesHandle .enabled .enabled), { twoEntriesBuilder .enabled with buildCalled := true }) := rfl
  refine ⟨_, _, _, hrun, hbuild, (build_good_iff hrun hbuild).2 fun entry he hp => ?_⟩
  rcases List.mem_cons.1 he with rfl | he
  · cases hp
  · rw [List.mem_singleton.1 he]

/-- **A handle whose primary key is DISABLED.** -/
theorem disabled_primary_not_good :
    ¬ ∀ ops builder draws builder' handle, builderRun {} ops = some builder →
        builder.build serializedKeys noKeyGen draws = some (.ok handle, builder') → handle.Good .ok := by
  intro h
  have hgood := h (twoEntries .disabled) (twoEntriesBuilder .disabled) [0, 5, 7] _
    (twoEntriesHandle .disabled .disabled) rfl rfl
  have hvalidate : (twoEntriesHandle .disabled .disabled).validate =
      .error ⟨.failedPrecondition, "Keyset has primary that is not enabled"⟩ := rfl
  rw [hgood.validates] at hvalidate
  cases hvalidate

end Tink
