import TinkCc.KeysetHandle
import TinkCc.PrimitiveSet
/-!
# KeysetWrapper — from a keyset to the primitive set of its ENABLED keys

`util/validation.cc` and `KeysetWrapperImpl::Wrap`.  What makes a primitive of a key is a parameter.
-/
namespace Tink

/-! ## Validation -/

def KeysetKey.isEnabled (key : KeysetKey) : Bool := decide (key.status = .enabled)

/-- `ValidateVersion`. -/
def validateVersion (candidate maxExpected : UInt32) : Except Status Unit :=
  if candidate > maxExpected then
    .error ⟨.invalidArgument,
      s!"Key has version '{candidate}'; only keys with version in range [0..{maxExpected}] are supported."⟩
  else .ok ()

/-- `ValidateKey`. -/
def validateKey (key : KeysetKey) : Except Status Unit :=
  let keyId := key.keyId
  if key.keyData = none then .error ⟨.invalidArgument, s!"key {keyId}, has no key data"⟩
  else if key.outputPrefixType = .unknownPrefix then .error ⟨.invalidArgument, s!"key {keyId} has unknown prefix"⟩
  else if key.status = .unknownStatus then .error ⟨.invalidArgument, s!"key {keyId} has unknown status"⟩
  else .ok ()

/-- What the loop of `ValidateKeyset` keeps. -/
structure KeysetScan where
  hasPrimaryKey                 : Bool := false
  containsOnlyPublicKeyMaterial : Bool := true
  enabledKeys                   : Nat := 0

/-- The loop of `ValidateKeyset`. -/
def validateKeysetLoop (primaryKeyId : UInt32) : List KeysetKey → KeysetScan → Except Status KeysetScan
  | [], scan => .ok scan
  | key :: keys, scan =>
    if key.isEnabled then
      match validateKey key with
      | .error e => .error e
      | .ok () =>
        if key.keyId = primaryKeyId ∧ scan.hasPrimaryKey = true then
          .error ⟨.invalidArgument, "keyset contains multiple primary keys"⟩
        else
          validateKeysetLoop primaryKeyId keys
            { hasPrimaryKey := scan.hasPrimaryKey || decide (key.keyId = primaryKeyId),
              containsOnlyPublicKeyMaterial := scan.containsOnlyPublicKeyMaterial &&
                decide (key.getKeyData.keyMaterialType = .asymmetricPublic),
              enabledKeys := scan.enabledKeys + 1 }
    else validateKeysetLoop primaryKeyId keys scan

/-- `ValidateKeyset`. -/
def validateKeyset (keyset : Keyset) : Except Status Unit :=
  if keyset.key.length < 1 then .error ⟨.invalidArgument, "A valid keyset must contain at least one key."⟩
  else
    match validateKeysetLoop keyset.primaryKeyId keyset.key {} with
    | .error e => .error e
    | .ok scan =>
      if scan.enabledKeys = 0 then .error ⟨.invalidArgument, "keyset must contain at least one ENABLED key"⟩
      else if !scan.hasPrimaryKey && !scan.containsOnlyPublicKeyMaterial then
        .error ⟨.invalidArgument, "keyset doesn't contain a valid primary key"⟩
      else .ok ()

/-! ## Wrap -/

/-- `KeyInfoFromKey`. -/
def keyInfoFromKey (key : KeysetKey) : KeyInfo :=
  ⟨key.getKeyData.typeUrl, key.status, key.keyId, key.outputPrefixType⟩

/-- What `KeysetWrapperImpl` asks for primitives: parsing of a key, and the two ways to a primitive. -/
structure PrimitiveGetters (Key P : Type) where
  parseKey                : ProtoKeySerialization → Except Status Key
  primitiveGetter         : KeyData → Except Status (Option P)
  primitiveGetterFromKey  : Key → Except Status (Option P)

section Wrap
variable {Key P : Type} (getters : PrimitiveGetters Key P)

/-- The primitive that `Wrap` makes of a key. -/
def primitiveForKey (protoKey : KeysetKey) : Except Status (Option P) :=
  match ProtoKeySerialization.create protoKey.getKeyData.typeUrl protoKey.getKeyData.value
      protoKey.getKeyData.keyMaterialType .raw none with
  | .error e => .error e
  | .ok serialization =>
    match getters.parseKey serialization with
    | .error _ => getters.primitiveGetter protoKey.getKeyData
    | .ok key =>
      match getters.primitiveGetterFromKey key with
      | .ok primitive => .ok primitive
      | .error e => if e.code = .notFound then getters.primitiveGetter protoKey.getKeyData else .error e

/-- The loop of `Wrap`. -/
def wrapLoop (primaryKeyId : UInt32) : List KeysetKey → PrimitiveSetBuilder P → Except Status (PrimitiveSetBuilder P)
  | [], builder => .ok builder
  | protoKey :: keys, builder =>
    if protoKey.isEnabled then
      match primitiveForKey getters protoKey with
      | .error e => .error e
      | .ok primitive =>
        if protoKey.keyId = primaryKeyId then
          wrapLoop primaryKeyId keys (builder.addPrimaryPrimitive primitive (keyInfoFromKey protoKey))
        else wrapLoop primaryKeyId keys (builder.addPrimitive primitive (keyInfoFromKey protoKey))
    else wrapLoop primaryKeyId keys builder

/-- The primitive set of a keyset, as `Wrap` hands it on. -/
def primitiveSetOf (keyset : Keyset) : Except Status (PrimitiveSet P) :=
  match validateKeyset keyset with
  | .error e => .error e
  | .ok () =>
    match wrapLoop getters keyset.primaryKeyId keyset.key {} with
    | .error e => .error e
    | .ok builder => builder.build

/-- `KeysetWrapperImpl::Wrap`. -/
def keysetWrap {Q : Type} (transformingWrapper : PrimitiveSet P → Except Status Q) (keyset : Keyset) : Except Status Q :=
  match primitiveSetOf getters keyset with
  | .error e => .error e
  | .ok primitives => transformingWrapper primitives

/-! ## What `ValidateKeyset` accepts -/

/-- The ENABLED keys, in keyset order. -/
def enabledKeys (keys : List KeysetKey) : List KeysetKey := keys.filter (·.isEnabled)

theorem validateKeysetLoop_ok {primaryKeyId : UInt32} :
    ∀ {keys : List KeysetKey} {scan scan' : KeysetScan}, validateKeysetLoop primaryKeyId keys scan = .ok scan' →
      scan'.enabledKeys = scan.enabledKeys + (enabledKeys keys).length ∧
      ((enabledKeys keys).filter (fun key => decide (key.keyId = primaryKeyId))).length + scan.hasPrimaryKey.toNat =
        scan'.hasPrimaryKey.toNat ∧
      (scan'.containsOnlyPublicKeyMaterial = true → scan.containsOnlyPublicKeyMaterial = true ∧
        ∀ key ∈ enabledKeys keys, key.getKeyData.keyMaterialType = .asymmetricPublic)
  | [], scan, scan', h => by
    cases h
    simp [enabledKeys]
  | key :: keys, scan, scan', h => by
    unfold validateKeysetLoop at h
    by_cases henabled : key.isEnabled = true
    · have hcons : enabledKeys (key :: keys) = key :: enabledKeys keys := List.filter_cons_of_pos henabled
      rw [if_pos henabled] at h
      split at h
      · cases h
      · split at h
        · cases h
        · rename_i hnot
          obtain ⟨hcount, hprimary, hpublic⟩ := validateKeysetLoop_ok h
          refine ⟨?_, ?_, fun honly => ?_⟩
          · rw [hcount, hcons, List.length_cons]
            dsimp only
            omega
          · rw [hcons, ← hprimary]
            by_cases hid : key.keyId = primaryKeyId
            · have hfirst : scan.hasPrimaryKey = false := by simpa [hid] using hnot
              rw [List.filter_cons_of_pos (by simpa using hid), List.length_cons, hfirst]
              simp [hid]
            · rw [List.filter_cons_of_neg (by simpa using hid)]
              simp [hid]
          · obtain ⟨hscan, hrest⟩ := hpublic honly
            simp only [Bool.and_eq_true, decide_eq_true_eq] at hscan
            refine ⟨hscan.1, fun k hk => ?_⟩
            rw [hcons] at hk
            rcases List.mem_cons.1 hk with rfl | hk
            · exact hscan.2
            · exact hrest k hk
    · have hcons : enabledKeys (key :: keys) = enabledKeys keys := List.filter_cons_of_neg henabled
      rw [if_neg henabled] at h
      rw [hcons]
      exact validateKeysetLoop_ok h

/-- **An accepted keyset has one ENABLED key with the primary id, or none, and then all its ENABLED keys are public.** -/
theorem validateKeyset_ok {keyset : Keyset} (h : validateKeyset keyset = .ok ()) :
    enabledKeys keyset.key ≠ [] ∧
    ((∃ key, (enabledKeys keyset.key).filter (fun key => decide (key.keyId = keyset.primaryKeyId)) = [key]) ∨
      (enabledKeys keyset.key).filter (fun key => decide (key.keyId = keyset.primaryKeyId)) = [] ∧
        ∀ key ∈ enabledKeys keyset.key, key.getKeyData.keyMaterialType = .asymmetricPublic) := by
  unfold validateKeyset at h
  split at h
  · cases h
  · split at h
    · cases h
    · rename_i scan hscan
      obtain ⟨hcount, hprimary, hpublic⟩ := validateKeysetLoop_ok hscan
      split at h
      · cases h
      · rename_i hsome
        split at h
        · cases h
        · rename_i hvalid
          refine ⟨fun hnil => hsome (by rw [hcount, hnil]; rfl), ?_⟩
          cases hhas : scan.hasPrimaryKey with
          | true =>
            rw [hhas] at hprimary
            exact .inl (List.length_eq_one_iff.1 hprimary)
          | false =>
            rw [hhas] at hprimary
            rw [hhas] at hvalid
            exact .inr ⟨List.length_eq_zero_iff.1 hprimary, (hpublic (by simpa using hvalid)).2⟩

/-! ## What `Wrap` hands on -/

/-- The call that `Wrap` makes for a key. -/
structure CallFor (primaryKeyId : UInt32) (key : KeysetKey) (call : AddCall P) : Prop where
  primitive : primitiveForKey getters key = .ok call.primitive
  keyInfo   : call.keyInfo = keyInfoFromKey key
  asPrimary : call.asPrimary = decide (key.keyId = primaryKeyId)

/-- **The entry of a key**: its id, its prefix type, its identifier and a primitive that was made of it. -/
structure EntryFor (key : KeysetKey) (entry : PrimitiveEntry P) : Prop where
  primitive        : primitiveForKey getters key = .ok (some entry.primitive)
  keyId            : entry.keyId = key.keyId
  outputPrefixType : entry.outputPrefixType = key.outputPrefixType
  status           : entry.status = .enabled
  keyTypeUrl       : entry.keyTypeUrl = key.getKeyData.typeUrl
  identifier       : identifierOf (keyInfoFromKey key) = .ok entry.identifier

theorem CallFor.entry {primaryKeyId : UInt32} {key : KeysetKey} {call : AddCall P} {entry : PrimitiveEntry P}
    (h : CallFor getters primaryKeyId key call) (hstored : StoredBy call entry) : EntryFor getters key entry := by
  obtain ⟨hs, identifier, p, hid, hp, heq⟩ := PrimitiveEntry.new_ok.1 hstored
  rw [h.keyInfo] at hs hid heq
  rw [heq]
  exact ⟨by rw [h.primitive, hp], rfl, rfl, hs, rfl, hid⟩

theorem wrapLoop_ok {primaryKeyId : UInt32} :
    ∀ {keys : List KeysetKey} {builder builder' : PrimitiveSetBuilder P},
      wrapLoop getters primaryKeyId keys builder = .ok builder' →
      ∃ calls, List.Forall₂ (CallFor getters primaryKeyId) (enabledKeys keys) calls ∧
        builder' = calls.foldl PrimitiveSetBuilder.add builder
  | [], builder, builder', h => by
    cases h
    exact ⟨[], .nil, rfl⟩
  | key :: keys, builder, builder', h => by
    unfold wrapLoop at h
    by_cases henabled : key.isEnabled = true
    · have hcons : enabledKeys (key :: keys) = key :: enabledKeys keys := List.filter_cons_of_pos henabled
      rw [if_pos henabled] at h
      split at h
      · cases h
      · rename_i primitive hprimitive
        rw [hcons]
        by_cases hid : key.keyId = primaryKeyId
        · rw [if_pos hid] at h
          obtain ⟨calls, hcalls, rfl⟩ := wrapLoop_ok h
          exact ⟨⟨primitive, keyInfoFromKey key, true⟩ :: calls, .cons ⟨hprimitive, rfl, by simp [hid]⟩ hcalls, rfl⟩
        · rw [if_neg hid] at h
          obtain ⟨calls, hcalls, rfl⟩ := wrapLoop_ok h
          exact ⟨⟨primitive, keyInfoFromKey key, false⟩ :: calls, .cons ⟨hprimitive, rfl, by simp [hid]⟩ hcalls, rfl⟩
    · have hcons : enabledKeys (key :: keys) = enabledKeys keys := List.filter_cons_of_neg henabled
      rw [if_neg henabled] at h
      rw [hcons]
      exact wrapLoop_ok h

/-- The loop goes to its end when every ENABLED key has a primitive. -/
theorem wrapLoop_total (primaryKeyId : UInt32) :
    ∀ {keys : List KeysetKey} (builder : PrimitiveSetBuilder P),
      (∀ key ∈ enabledKeys keys, ∃ primitive, primitiveForKey getters key = .ok primitive) →
      ∃ builder', wrapLoop getters primaryKeyId keys builder = .ok builder'
  | [], builder, _ => ⟨builder, rfl⟩
  | key :: keys, builder, h => by
    unfold wrapLoop
    by_cases henabled : key.isEnabled = true
    · have hcons : enabledKeys (key :: keys) = key :: enabledKeys keys := List.filter_cons_of_pos henabled
      rw [hcons] at h
      obtain ⟨primitive, hprimitive⟩ := h key (List.mem_cons_self ..)
      rw [if_pos henabled, hprimitive]
      dsimp only
      split
      · exact wrapLoop_total primaryKeyId _ (fun k hk => h k (List.mem_cons_of_mem _ hk))
      · exact wrapLoop_total primaryKeyId _ (fun k hk => h k (List.mem_cons_of_mem _ hk))
    · have hcons : enabledKeys (key :: keys) = enabledKeys keys := List.filter_cons_of_neg henabled
      rw [hcons] at h
      rw [if_neg henabled]
      exact wrapLoop_total primaryKeyId _ h

theorem forall_of_forall₂ {α β : Type} {p : α → Prop} {l : List α} {u : List β}
    (h : List.Forall₂ (fun a _ => p a) l u) : ∀ a ∈ l, p a := by
  induction h with
  | nil => simp
  | cons ha _ ih => exact List.forall_mem_cons.2 ⟨ha, ih⟩

theorem exists_of_forall₂ {α β : Type} {S : α → β → Prop} {l : List α} {u : List β} (h : List.Forall₂ S l u) :
    ∀ a ∈ l, ∃ b ∈ u, S a b := by
  induction h with
  | nil => simp
  | cons hab _ ih =>
    refine List.forall_mem_cons.2 ⟨⟨_, List.mem_cons_self .., hab⟩, fun a ha => ?_⟩
    obtain ⟨b, hb, h⟩ := ih a ha
    exact ⟨b, List.mem_cons_of_mem _ hb, h⟩

/-- The last primary entry, when the calls that are primary are none or one. -/
theorem lastPrimary_eq (stored : List (AddCall P × PrimitiveEntry P)) (primary : Option (PrimitiveEntry P)) :
    PrimitiveSetBuilder.lastPrimary primary stored =
      ((stored.filter (·.1.asPrimary)).getLast?.map (·.2)).or primary := by
  unfold PrimitiveSetBuilder.lastPrimary
  induction stored using List.reverseRecOn with
  | nil => rfl
  | append_singleton stored s ih =>
    rw [List.foldl_append, List.foldl_cons, List.foldl_nil, List.filter_append, ih]
    by_cases hp : s.1.asPrimary = true
    · simp [hp]
    · simp [hp]

/-- The primary entry of a set that was made of a keyset: that of the one ENABLED key with the primary id.  Without such
a key there is none, and the ENABLED keys are all public. -/
def PrimaryOf (keyset : Keyset) (set : PrimitiveSet P) : Prop :=
  (∃ key entry, (enabledKeys keyset.key).filter (fun key => decide (key.keyId = keyset.primaryKeyId)) = [key] ∧
      set.getAllInKeysetOrder.filter (fun entry => decide (entry.keyId = keyset.primaryKeyId)) = [entry] ∧
      EntryFor getters key entry ∧ set.getPrimary = some entry) ∨
    (enabledKeys keyset.key).filter (fun key => decide (key.keyId = keyset.primaryKeyId)) = [] ∧ set.getPrimary = none ∧
      ∀ key ∈ enabledKeys keyset.key, key.getKeyData.keyMaterialType = .asymmetricPublic

variable {getters}

theorem primitiveSetOf_ok {keyset : Keyset} {set : PrimitiveSet P} (h : primitiveSetOf getters keyset = .ok set) :
    validateKeyset keyset = .ok () ∧ ∃ calls,
      List.Forall₂ (CallFor getters keyset.primaryKeyId) (enabledKeys keyset.key) calls ∧
      (calls.foldl PrimitiveSetBuilder.add {}).build = .ok set := by
  unfold primitiveSetOf at h
  split at h
  · cases h
  · rename_i hvalid
    split at h
    · cases h
    · rename_i builder hloop
      obtain ⟨calls, hcalls, rfl⟩ := wrapLoop_ok getters hloop
      exact ⟨hvalid, calls, hcalls, h⟩

/-- **The set of a keyset has the entries of its ENABLED keys, in their order, and the primary entry among them.** -/
theorem primitiveSetOf_entries {keyset : Keyset} {set : PrimitiveSet P} (h : primitiveSetOf getters keyset = .ok set) :
    List.Forall₂ (EntryFor getters) (enabledKeys keyset.key) set.getAllInKeysetOrder ∧ PrimaryOf getters keyset set := by
  obtain ⟨hvalid, calls, hcalls, hbuild⟩ := primitiveSetOf_ok h
  obtain ⟨hstatus, rfl⟩ := PrimitiveSetBuilder.build_ok hbuild
  obtain ⟨stored, rfl, hstored, horder, hprimary⟩ := PrimitiveSetBuilder.adds_ok rfl hstatus
  have hpairs : List.Forall₂ (fun s key => StoredBy s.1 s.2 ∧ CallFor getters keyset.primaryKeyId key s.1)
      stored (enabledKeys keyset.key) := by
    rw [List.forall₂_map_right_iff] at hcalls
    exact (List.forall₂_and_left _ _).2 ⟨hstored, hcalls.flip⟩
  have hentries : List.Forall₂ (EntryFor getters) (enabledKeys keyset.key) (stored.map (·.2)) :=
    List.forall₂_map_right_iff.2 (hpairs.imp fun _ _ h => h.2.entry getters h.1).flip
  -- a call is the primary one exactly when its entry has the primary id
  have hsame : ∀ s ∈ stored, decide (s.2.keyId = keyset.primaryKeyId) = s.1.asPrimary := by
    refine forall_of_forall₂ (hpairs.imp fun s key h => ?_)
    rw [h.2.asPrimary, (h.2.entry getters h.1).keyId]
  have hfilter := List.rel_filter (p := fun s : AddCall P × PrimitiveEntry P => s.1.asPrimary)
    (q := fun k : KeysetKey => decide (k.keyId = keyset.primaryKeyId)) (fun _ _ h => by simp only [h.2.asPrimary]) hpairs
  rw [List.nil_append] at horder
  unfold PrimaryOf PrimitiveSet.getAllInKeysetOrder PrimitiveSet.getPrimary
  dsimp only
  rw [horder, hprimary, lastPrimary_eq, List.filter_map]
  refine ⟨hentries, ?_⟩
  rcases (validateKeyset_ok hvalid).2 with ⟨key, hone⟩ | ⟨hnone, hpublic⟩
  · rw [hone] at hfilter
    obtain ⟨s, _, hs, hnil, hstore⟩ := List.forall₂_cons_right_iff.1 hfilter
    rw [List.forall₂_nil_right_iff.1 hnil] at hstore
    refine .inl ⟨key, s.2, hone, ?_, hs.2.entry getters hs.1, ?_⟩
    · rw [List.filter_congr (q := fun s => s.1.asPrimary) hsame, hstore]
      rfl
    · rw [hstore]
      rfl
  · rw [hnone] at hfilter
    refine .inr ⟨hnone, ?_, hpublic⟩
    rw [List.forall₂_nil_right_iff.1 hfilter]
    rfl

/-- An accepted keyset has a set when its ENABLED keys have primitives and prefixes. -/
theorem primitiveSetOf_total {keyset : Keyset} (hvalid : validateKeyset keyset = .ok ())
    (hprimitives : ∀ key ∈ enabledKeys keyset.key, ∃ primitive, primitiveForKey getters key = .ok (some primitive))
    (hidentifiers : ∀ key ∈ enabledKeys keyset.key, ∃ identifier, identifierOf (keyInfoFromKey key) = .ok identifier) :
    ∃ set, primitiveSetOf getters keyset = .ok set := by
  obtain ⟨builder, hloop⟩ := wrapLoop_total getters keyset.primaryKeyId {}
    (fun key hkey => ⟨_, (hprimitives key hkey).choose_spec⟩)
  obtain ⟨calls, hcalls, rfl⟩ := wrapLoop_ok getters hloop
  have hnew : ∀ call ∈ calls, ∀ address, ∃ entry, PrimitiveEntry.new address call.primitive call.keyInfo = .ok entry := by
    have hkeys := (List.forall₂_and_left (p := fun key => key ∈ enabledKeys keyset.key) _ _).2 ⟨fun _ h => h, hcalls⟩
    refine forall_of_forall₂ (List.Forall₂.flip (hkeys.imp fun key call h address => ?_))
    obtain ⟨hmem, hcall⟩ := h
    obtain ⟨p, hp⟩ := hprimitives key hmem
    obtain ⟨identifier, hidentifier⟩ := hidentifiers key hmem
    have hprimitive : call.primitive = some p := Except.ok.inj (hcall.primitive.symm.trans hp)
    have henabled : (keyInfoFromKey key).status = .enabled := by
      simpa [KeysetKey.isEnabled, keyInfoFromKey] using (List.mem_filter.1 hmem).2
    rw [hcall.keyInfo]
    exact ⟨_, PrimitiveEntry.new_ok.2 ⟨henabled, identifier, p, hidentifier, hprimitive, rfl⟩⟩
  unfold primitiveSetOf PrimitiveSetBuilder.build
  rw [hvalid, hloop]
  dsimp only
  rw [PrimitiveSetBuilder.adds_status rfl hnew]
  exact ⟨_, rfl⟩

/-- The identifier is empty for RAW and WITH_ID_REQUIREMENT, and for these alone. -/
theorem identifierOf_eq_nil {keyInfo : KeyInfo} {identifier : Bytes} (h : identifierOf keyInfo = .ok identifier) :
    identifier = [] ↔ keyInfo.outputPrefixType = .raw ∨ keyInfo.outputPrefixType = .withIdRequirement := by
  unfold identifierOf CryptoFormat.getOutputPrefix at h
  cases hp : keyInfo.outputPrefixType with
  | raw =>
    simp only [hp] at h
    cases h
    simp [CryptoFormat.rawPrefixBytes]
  | withIdRequirement =>
    simp only [hp] at h
    cases h
    simp
  | tink =>
    simp only [hp] at h
    cases h
    simp
  | legacy =>
    simp only [hp] at h
    cases h
    simp
  | crunchy =>
    simp only [hp] at h
    cases h
    simp
  | unknownPrefix =>
    simp only [hp] at h
    cases h
  | unnamed v =>
    simp only [hp] at h
    cases h

/-- **From a keyset to its primitive set.**  The first three parts are about the set that `Wrap` makes of a keyset, the last
about any set that is built, whatever the order in which its map is walked. -/
theorem primitiveSet_of_keyset {walk : PrimitivesMap P → PrimitivesMap P} (hwalk : ∀ map, (walk map).Perm map) :
    (∀ keyset, validateKeyset keyset = .ok () →
      (∀ key ∈ enabledKeys keyset.key, ∃ primitive, primitiveForKey getters key = .ok (some primitive)) →
      (∀ key ∈ enabledKeys keyset.key, ∃ identifier, identifierOf (keyInfoFromKey key) = .ok identifier) →
      ∃ set, primitiveSetOf getters keyset = .ok set) ∧
    (∀ keyset set, primitiveSetOf getters keyset = .ok set →
      List.Forall₂ (EntryFor getters) (enabledKeys keyset.key) set.getAllInKeysetOrder ∧
      PrimaryOf getters keyset set ∧ set.Consistent walk) ∧
    (∀ keyInfo identifier, identifierOf keyInfo = .ok identifier →
      (identifier = [] ↔ keyInfo.outputPrefixType = .raw ∨ keyInfo.outputPrefixType = .withIdRequirement)) ∧
    ∀ (calls : List (AddCall P)) set, (calls.foldl PrimitiveSetBuilder.add {}).build = .ok set →
      List.Forall₂ StoredBy calls set.getAllInKeysetOrder ∧ set.Consistent walk := by
  refine ⟨fun keyset => primitiveSetOf_total, fun keyset set h => ?_, fun _ _ => identifierOf_eq_nil, fun calls set h => ?_⟩
  · obtain ⟨hentries, hprimary⟩ := primitiveSetOf_entries h
    obtain ⟨-, calls, -, hbuild⟩ := primitiveSetOf_ok h
    exact ⟨hentries, hprimary, (PrimitiveSetBuilder.holds_empty.adds calls).consistent hwalk hbuild⟩
  · refine ⟨?_, (PrimitiveSetBuilder.holds_empty.adds calls).consistent hwalk h⟩
    obtain ⟨hstatus, rfl⟩ := PrimitiveSetBuilder.build_ok h
    obtain ⟨stored, rfl, hstored, horder, -⟩ := PrimitiveSetBuilder.adds_ok rfl hstatus
    unfold PrimitiveSet.getAllInKeysetOrder
    dsimp only
    rw [horder, List.nil_append, List.forall₂_map_left_iff, List.forall₂_map_right_iff, List.forall₂_same]
    exact hstored

end Wrap

/-- Keys whose primitives are the bytes of the key. -/
def bytesGetters : PrimitiveGetters Unit Bytes where
  parseKey := fun _ => .error ⟨.notFound, ""⟩
  primitiveGetter := fun keyData => .ok (some keyData.value)
  primitiveGetterFromKey := fun _ => .error ⟨.notFound, ""⟩

/-- Two RAW keys around a DISABLED one, and a TINK key, which is the primary key. -/
def fourKeys : Keyset :=
  { primaryKeyId := 9,
    key := [⟨some ⟨"a", [1], .symmetric⟩, .enabled, 5, .raw⟩, ⟨some ⟨"a", [2], .symmetric⟩, .disabled, 9, .tink⟩,
            ⟨some ⟨"a", [3], .symmetric⟩, .enabled, 9, .tink⟩, ⟨some ⟨"a", [4], .symmetric⟩, .enabled, 5, .raw⟩] }

theorem fourKeys_primitiveSet :
    ∃ set, primitiveSetOf bytesGetters fourKeys = .ok set ∧
      List.Forall₂ (EntryFor bytesGetters) (enabledKeys fourKeys.key) set.getAllInKeysetOrder ∧
      PrimaryOf bytesGetters fourKeys set ∧ set.Consistent List.reverse := by
  refine ⟨_, rfl, (primitiveSet_of_keyset List.reverse_perm).2.1 fourKeys _ rfl⟩

end Tink
