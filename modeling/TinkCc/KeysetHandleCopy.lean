import TinkCc.KeysetHandleBuilder
import TinkCc.KeysetWrapper
/-!
# KeysetHandleCopy — building a handle from the entries of another

`KeysetHandleBuilder(handle)`: every entry is added with its id fixed.  `Rebuilt` says which proto `Build` makes of an
entry; it is read back as that entry.
-/
namespace Tink

section Copy
variable {Key Params : Type} (classes : KeyClasses Key Params)

/-- The entry that the constructor adds for an entry of the handle. -/
def HandleEntry.toBuilderEntry (entry : HandleEntry Key) : BuilderEntry Key Params :=
  (BuilderEntry.createFromKey classes entry.key entry.status entry.isPrimary).setFixedId entry.id

namespace KeysetHandleBuilder

/-- The loop of `KeysetHandleBuilder(handle)`, from an index on. -/
def ofHandleLoop (handle : KeysetHandle Key) :
    (remaining index : Nat) → KeysetHandleBuilder Key Params → Option (KeysetHandleBuilder Key Params)
  | 0, _, builder => some builder
  | remaining + 1, index, builder => do
    let entry ← handle.entryAt classes.parseKey index
    let builder ← builder.addEntry (entry.toBuilderEntry classes)
    ofHandleLoop handle remaining (index + 1) builder

/-- `KeysetHandleBuilder(handle)`. -/
def ofHandle (handle : KeysetHandle Key) : Option (KeysetHandleBuilder Key Params) :=
  ofHandleLoop classes handle handle.keyset.key.length 0 {}

end KeysetHandleBuilder

/-! ## The entries that are added -/

/-- An added entry of the builder. -/
def HandleEntry.toAdded (entry : HandleEntry Key) : BuilderEntry Key Params :=
  { entry.toBuilderEntry classes with addedToBuilder := true }

@[simp] theorem HandleEntry.toAdded_source (entry : HandleEntry Key) : (entry.toAdded classes).source = .key entry.key :=
  BuilderEntry.setAttributes_source ..

@[simp] theorem HandleEntry.toAdded_status (entry : HandleEntry Key) : (entry.toAdded classes).status = entry.status :=
  BuilderEntry.setAttributes_status ..

@[simp] theorem HandleEntry.toAdded_strategy (entry : HandleEntry Key) :
    (entry.toAdded classes).strategy = ⟨.fixedId, some entry.id⟩ := rfl

@[simp] theorem HandleEntry.toAdded_isPrimary (entry : HandleEntry Key) :
    (entry.toAdded classes).isPrimary = entry.isPrimary := by
  unfold HandleEntry.toAdded HandleEntry.toBuilderEntry BuilderEntry.createFromKey BuilderEntry.setAttributes
  cases hp : entry.isPrimary <;> cases hid : classes.idRequirement entry.key <;> rfl

/-- At most one of the flags is set. -/
def AtMostOne (flags : List Bool) : Prop := flags.Pairwise fun a b => a = true → b = false

theorem addEntry_toBuilderEntry {builder : KeysetHandleBuilder Key Params} {entry : HandleEntry Key}
    (h : entry.isPrimary = true → ∀ b ∈ builder.entries, b.isPrimary = false) :
    builder.addEntry (entry.toBuilderEntry classes) =
      some { builder with entries := builder.entries ++ [entry.toAdded classes] } := by
  have hadded : (entry.toBuilderEntry classes).addedToBuilder = false := by
    unfold HandleEntry.toBuilderEntry BuilderEntry.createFromKey BuilderEntry.setAttributes
    cases entry.isPrimary <;> cases classes.idRequirement entry.key <;> rfl
  have hprimary : (entry.toBuilderEntry classes).isPrimary = entry.isPrimary := entry.toAdded_isPrimary classes
  unfold KeysetHandleBuilder.addEntry
  rw [hadded, if_neg Bool.false_ne_true]
  by_cases hp : entry.isPrimary = true
  · -- none of the entries before is primary, so clearing changes nothing
    have hmap : builder.entries.map (·.unsetPrimary) = builder.entries := by
      have hid : ∀ b ∈ builder.entries, b.unsetPrimary = id b := by
        intro b hb
        have hb := h hp b hb
        cases b
        cases hb
        rfl
      rw [List.map_congr_left hid, List.map_id]
    have hclear : builder.clearPrimary = builder := by
      unfold KeysetHandleBuilder.clearPrimary
      rw [hmap]
    rw [if_pos (hprimary.trans hp), hclear]
    rfl
  · rw [if_neg (fun h => hp (hprimary.symm.trans h))]
    rfl

/-- The loop adds the entries of the handle as they are. -/
theorem ofHandleLoop_eq {handle : KeysetHandle Key} (hlen : handle.entries.length = handle.keyset.key.length) :
    ∀ {rest : List (HandleEntry Key)} {index : Nat} {builder : KeysetHandleBuilder Key Params},
      handle.entries.drop index = rest →
      AtMostOne (builder.entries.map (·.isPrimary) ++ rest.map (·.isPrimary)) →
      KeysetHandleBuilder.ofHandleLoop classes handle rest.length index builder =
        some { builder with entries := builder.entries ++ rest.map (·.toAdded classes) }
  | [], index, builder, _, _ => by
    rw [List.map_nil, List.append_nil]
    rfl
  | entry :: rest, index, builder, hdrop, hone => by
    have hindex : index < handle.entries.length := by
      by_contra hge
      rw [List.drop_eq_nil_of_le (Nat.not_lt.1 hge)] at hdrop
      cases hdrop
    rw [List.drop_eq_getElem_cons hindex] at hdrop
    obtain ⟨hentry, hrest⟩ := List.cons.inj hdrop
    have hat : handle.entryAt classes.parseKey index = some entry := by
      rw [entryAt_stored _ (List.getElem?_eq_getElem (hlen ▸ hindex)) (List.getElem?_eq_getElem hindex), hentry]
    have hadd := addEntry_toBuilderEntry classes fun (hp : entry.isPrimary = true) b (hb : b ∈ builder.entries) => by
      cases hbp : b.isPrimary with
      | false => rfl
      | true =>
        have hfalse := (List.pairwise_append.1 hone).2.2 b.isPrimary (List.mem_map.2 ⟨b, hb, rfl⟩) entry.isPrimary
          (List.mem_cons_self ..) hbp
        rw [hp] at hfalse
        cases hfalse
    rw [List.length_cons, KeysetHandleBuilder.ofHandleLoop, hat]
    show ((builder.addEntry (entry.toBuilderEntry classes)).bind fun builder => _) = _
    rw [hadd, Option.bind_some, ofHandleLoop_eq hlen hrest]
    · rw [List.append_assoc]
      rfl
    · rw [List.map_append, List.map_singleton, HandleEntry.toAdded_isPrimary, List.append_assoc]
      exact hone

/-! ## What is built of them -/

/-- The proto that is made of an entry of a handle, and from which the entry is read back. -/
structure Rebuilt (entry : HandleEntry Key) (keysetKey : KeysetKey) : Prop where
  made : ∃ status s, toKeyStatusType entry.status = .ok status ∧ classes.serializeKey entry.key = .ok s ∧
    classes.parseKey s = .ok entry.key ∧ (s.idRequirement = none ∨ s.idRequirement = some entry.id) ∧
    keysetKey = toKeysetKey entry.id status s

variable {classes} (config : KeyGenConfiguration Key Params)

/-- The serialization is found again in the proto. -/
theorem toProtoKeySerialization_toKeysetKey {id : UInt32} {status : KeyStatusType} {s : ProtoKeySerialization}
    (h : s.idRequirement = none ∨ s.idRequirement = some id) :
    toProtoKeySerialization (toKeysetKey id status s) = .ok s := by
  have hid : (if s.outputPrefixType = .raw then none else some id) = s.idRequirement := by
    by_cases hraw : s.outputPrefixType = .raw
    · rw [if_pos hraw, s.raw_iff.1 hraw]
    · rw [if_neg hraw]
      rcases h with hnone | hsome
      · exact absurd (s.raw_iff.2 hnone) hraw
      · exact hsome.symm
  unfold toProtoKeySerialization
  show ProtoKeySerialization.create s.typeUrl s.serializedKey s.keyMaterialType s.outputPrefixType
    (if s.outputPrefixType = .raw then none else some id) = _
  rw [hid]
  exact ProtoKeySerialization.create_of_valid s.printable s.raw_iff

theorem fromKeyStatusType_of_to {t : KeyStatusType} {s : KeyStatus} (h : toKeyStatusType s = .ok t) :
    fromKeyStatusType t = .ok s := by
  cases s with
  | enabled => cases h; rfl
  | disabled => cases h; rfl
  | destroyed => cases h; rfl
  | other v => cases h

/-- A proto that is made of a serialization is read as the key that the serialization is parsed to. -/
theorem createEntry_toKeysetKey {parseKey : ProtoKeySerialization → Except Status Key} {s : ProtoKeySerialization} {key : Key}
    {id primaryKeyId : UInt32} {status : KeyStatus} {keyStatus : KeyStatusType}
    (hid : s.idRequirement = none ∨ s.idRequirement = some id) (hparse : parseKey s = .ok key)
    (hstatus : toKeyStatusType status = .ok keyStatus) :
    createEntry parseKey (toKeysetKey id keyStatus s) primaryKeyId =
      .ok ⟨key, status, id, decide (id = primaryKeyId)⟩ := by
  exact createEntry_of_parsed parseKey (toProtoKeySerialization_toKeysetKey hid) hparse (fromKeyStatusType_of_to hstatus) _

theorem Rebuilt.createEntry {entry : HandleEntry Key} {keysetKey : KeysetKey} {primaryKeyId : UInt32}
    (h : Rebuilt classes entry keysetKey) (hprimary : entry.isPrimary = decide (entry.id = primaryKeyId)) :
    Tink.createEntry classes.parseKey keysetKey primaryKeyId = .ok entry := by
  obtain ⟨status, s, hstatus, -, hparse, hid, rfl⟩ := h.made
  rw [createEntry_toKeysetKey hid hparse hstatus, ← hprimary]

theorem entriesLoop_rebuilt {primaryKeyId : UInt32} {entries : List (HandleEntry Key)} {keys : List KeysetKey}
    (h : List.Forall₂ (Rebuilt classes) entries keys)
    (hprimary : ∀ entry ∈ entries, entry.isPrimary = decide (entry.id = primaryKeyId)) :
    entriesLoop classes.parseKey primaryKeyId keys = .ok entries := by
  induction h with
  | nil => rfl
  | @cons entry key entries keys hfirst _ ih =>
    unfold entriesLoop
    rw [hfirst.createEntry (hprimary entry (List.mem_cons_self ..))]
    dsimp only
    rw [ih fun e he => hprimary e (List.mem_cons_of_mem _ he)]
    rfl

/-- **The loop of `Build` makes the protos of the entries**, whatever is drawn. -/
theorem buildLoop_rebuilt {primaryKeyId : UInt32} {entries : List (HandleEntry Key)} {newKeys : List KeysetKey}
    (h : List.Forall₂ (Rebuilt classes) entries newKeys)
    (hprimary : ∀ entry ∈ entries, entry.isPrimary = decide (entry.id = primaryKeyId)) :
    ∀ {index : Nat} {draws ids : List UInt32} {keys : List KeysetKey} {primaryId : Option UInt32},
      (entries.map (·.id)).Nodup → (∀ entry ∈ entries, entry.id ∉ ids) →
      (primaryId ≠ none → primaryKeyId ∉ entries.map (·.id)) →
      buildLoop classes config index (entries.map (·.toAdded classes)) draws ids keys primaryId =
        some (.ok (keys ++ newKeys, if primaryKeyId ∈ entries.map (·.id) then some primaryKeyId else primaryId)) := by
  induction h with
  | nil =>
    intro index draws ids keys primaryId _ _ _
    rw [List.append_nil]
    rfl
  | @cons entry key entries newKeys hfirst _ ih =>
    intro index draws ids keys primaryId hnodup hfresh hnone
    rw [List.map_cons, List.nodup_cons] at hnodup
    rw [List.map_cons] at hnone
    have hkey : (entry.toAdded classes).createKeysetKey classes config index entry.id = .ok key := by
      obtain ⟨status, s, hstatus, hserialize, -, hid, rfl⟩ := hfirst.made
      refine (createKeysetKey_key classes config (entry.toAdded_source classes)).2 ⟨.inr rfl, status, s, ?_, hserialize, hid, rfl⟩
      rw [HandleEntry.toAdded_status]
      exact hstatus
    have hfreshRest : ∀ e ∈ entries, e.id ∉ entry.id :: ids := by
      intro e he hmem
      rcases List.mem_cons.1 hmem with heq | hmem
      · exact hnodup.1 (List.mem_map.2 ⟨e, he, heq⟩)
      · exact hfresh e (List.mem_cons_of_mem _ he) hmem
    have hflag := hprimary entry (List.mem_cons_self ..)
    have hprimaryRest : ∀ e ∈ entries, e.isPrimary = decide (e.id = primaryKeyId) :=
      fun e he => hprimary e (List.mem_cons_of_mem _ he)
    rw [List.map_cons, buildLoop]
    show (if entry.id ∈ ids then _ else _) = _
    rw [if_neg (hfresh entry (List.mem_cons_self ..)), hkey]
    dsimp only
    rw [HandleEntry.toAdded_isPrimary, hflag, List.map_cons]
    by_cases hid : entry.id = primaryKeyId
    · have hnone' : primaryId = none := by
        by_contra hne
        exact hnone hne (hid ▸ List.mem_cons_self ..)
      subst hnone'
      have hgone : primaryKeyId ∉ entries.map (·.id) := hid ▸ hnodup.1
      rw [if_pos (decide_eq_true hid)]
      dsimp only
      rw [ih hprimaryRest hnodup.2 hfreshRest (fun _ => hgone), if_neg hgone,
        if_pos (hid ▸ List.mem_cons_self ..), hid, List.append_assoc]
      rfl
    · rw [if_neg (by simpa using hid), ih hprimaryRest hnodup.2 hfreshRest
        (fun hne hmem => hnone hne (List.mem_cons_of_mem _ hmem)), List.append_assoc]
      have hmem : (primaryKeyId ∈ entry.id :: entries.map (·.id)) = (primaryKeyId ∈ entries.map (·.id)) :=
        propext ⟨fun h => (List.mem_cons.1 h).resolve_left fun heq => hid heq.symm, List.mem_cons_of_mem _⟩
      simp only [hmem]
      rfl

/-- Where ids are distinct, at most one entry is primary. -/
theorem atMostOne_primary {entries : List (HandleEntry Key)} {primaryKeyId : UInt32} (hnodup : (entries.map (·.id)).Nodup)
    (hprimary : ∀ entry ∈ entries, entry.isPrimary = decide (entry.id = primaryKeyId)) :
    AtMostOne (entries.map (·.isPrimary)) := by
  unfold AtMostOne
  rw [List.pairwise_map]
  refine (List.pairwise_map.1 hnodup).imp_of_mem fun {a b} ha hb hne hpa => ?_
  rw [hprimary a ha, decide_eq_true_eq] at hpa
  rw [hprimary b hb, decide_eq_false_iff_not]
  exact fun hpb => hne (hpa.trans hpb.symm)

theorem checkIdLoop_fixed : ∀ {entries : List (BuilderEntry Key Params)}, (∀ entry ∈ entries, entry.hasRandomId = false) →
    checkIdLoop entries = .ok ()
  | [], _ => rfl
  | [_], _ => rfl
  | entry :: next :: entries, h => by
    unfold checkIdLoop
    rw [h entry (List.mem_cons_self ..), Bool.false_and, if_neg Bool.false_ne_true]
    exact checkIdLoop_fixed fun e he => h e (List.mem_cons_of_mem _ he)

/-- **What `Build` makes of the added entries.** -/
theorem buildEntries_rebuilt {primaryKeyId : UInt32} {draws : List UInt32} {entries : List (HandleEntry Key)}
    {newKeys : List KeysetKey} (h : List.Forall₂ (Rebuilt classes) entries newKeys)
    (hprimary : ∀ entry ∈ entries, entry.isPrimary = decide (entry.id = primaryKeyId))
    (hnodup : (entries.map (·.id)).Nodup) (hmem : primaryKeyId ∈ entries.map (·.id)) :
    buildEntries classes config draws (entries.map (·.toAdded classes)) =
      some (.ok ⟨⟨primaryKeyId, newKeys⟩, entries⟩) := by
  have hne : (entries.map (·.toAdded classes) : List (BuilderEntry Key Params)) ≠ [] := by
    intro hnil
    rw [List.map_eq_nil_iff.1 hnil] at hmem
    exact absurd hmem List.not_mem_nil
  have hcheck : checkIdAssignments (entries.map (·.toAdded classes) : List (BuilderEntry Key Params)) = .ok () := by
    unfold checkIdAssignments
    rw [if_neg hne]
    apply checkIdLoop_fixed
    intro entry hentry
    obtain ⟨e, -, rfl⟩ := List.mem_map.1 hentry
    rfl
  unfold buildEntries
  rw [hcheck]
  dsimp only
  rw [buildLoop_rebuilt config h hprimary hnodup (fun _ _ => List.not_mem_nil) (fun h => absurd rfl h), if_pos hmem]
  dsimp only
  unfold getEntriesFromKeyset
  dsimp only
  rw [List.nil_append, entriesLoop_rebuilt h hprimary]

/-! ## Rebuilding -/

/-- A parsed key is serialized with the id requirement that was parsed, or with none. -/
def KeepsIdRequirement (classes : KeyClasses Key Params) : Prop :=
  ∀ {s s' key}, classes.parseKey s = .ok key → classes.serializeKey key = .ok s' →
    s'.idRequirement = none ∨ s'.idRequirement = s.idRequirement

theorem createEntry_parsed {protoKey : KeysetKey} {primaryKeyId : UInt32} {entry : HandleEntry Key}
    (h : createEntry classes.parseKey protoKey primaryKeyId = .ok entry) :
    ∃ s, classes.parseKey s = .ok entry.key ∧ (s.idRequirement = none ∨ s.idRequirement = some entry.id) := by
  obtain ⟨s, key, status, hs, hkey, -, rfl⟩ := createEntry_cases _ h
  refine ⟨s, hkey, ?_⟩
  obtain ⟨-, -, -, hid⟩ := toProtoKeySerialization_ok hs
  rw [hid]
  split
  · exact .inl rfl
  · exact .inr rfl

theorem entriesLoop_parsed {primaryKeyId : UInt32} :
    ∀ {keys : List KeysetKey} {entries : List (HandleEntry Key)},
      entriesLoop classes.parseKey primaryKeyId keys = .ok entries → ∀ entry ∈ entries,
        ∃ s, classes.parseKey s = .ok entry.key ∧ (s.idRequirement = none ∨ s.idRequirement = some entry.id)
  | [], entries, h => by
    cases h
    exact fun entry hmem => absurd hmem List.not_mem_nil
  | key :: keys, entries, h => by
    unfold entriesLoop at h
    split at h
    · cases h
    · rename_i entry hentry
      obtain ⟨rest, hrest, rfl⟩ := map_eq_ok h
      intro e he
      rcases List.mem_cons.1 he with rfl | he
      · exact createEntry_parsed hentry
      · exact entriesLoop_parsed hrest e he

theorem forall₂_of_forall_exists {α β : Type} {R : α → β → Prop} :
    ∀ {l : List α}, (∀ a ∈ l, ∃ b, R a b) → ∃ u, List.Forall₂ R l u
  | [], _ => ⟨[], .nil⟩
  | a :: l, h => by
    obtain ⟨b, hb⟩ := h a (List.mem_cons_self ..)
    obtain ⟨u, hu⟩ := forall₂_of_forall_exists fun a' ha' => h a' (List.mem_cons_of_mem _ ha')
    exact ⟨b :: u, .cons hb hu⟩

/-- **Rebuilding a handle is the identity.**  From a handle that was built, the constructor and `Build` make a handle with
the same entries and the same primary id, whatever the configuration and the draws. -/
theorem rebuild_handle {config : KeyGenConfiguration Key Params} {builder builder' : KeysetHandleBuilder Key Params}
    {draws : List UInt32} {handle : KeysetHandle Key}
    (hbuild : builder.build classes config draws = some (.ok handle, builder'))
    (hround : ∀ entry ∈ handle.entries, ∃ s, classes.serializeKey entry.key = .ok s ∧ classes.parseKey s = .ok entry.key)
    (hids : KeepsIdRequirement classes) (config' : KeyGenConfiguration Key Params) (draws' : List UInt32) :
    ∃ copy copy' handle', KeysetHandleBuilder.ofHandle classes handle = some copy ∧
      copy.build classes config' draws' = some (.ok handle', copy') ∧ handle'.entries = handle.entries ∧
      handle'.keyset.primaryKeyId = handle.keyset.primaryKeyId := by
  obtain ⟨hbuilt, hagrees, -⟩ := buildEntries_ok (build_ok hbuild)
  have hparsed := entriesLoop_parsed (buildEntries_cases (build_ok hbuild)).2
  obtain ⟨-, -, key, hkey, -, hkeyId, -⟩ := hbuilt.of_some rfl
  have hidsEq : handle.entries.map (·.id) = handle.keyset.key.map (·.keyId) := by
    have h := hagrees.imp fun _ _ h => h.id
    rw [← List.forall₂_eq_eq_eq, List.forall₂_map_left_iff, List.forall₂_map_right_iff]
    exact h
  have hnodup : (handle.entries.map (·.id)).Nodup := hidsEq ▸ hbuilt.nodup.1
  have hprimary : ∀ entry ∈ handle.entries, entry.isPrimary = decide (entry.id = handle.keyset.primaryKeyId) :=
    forall_of_forall₂ (hagrees.imp fun _ _ h => by rw [h.primary, h.id])
  have hstatus : ∀ entry ∈ handle.entries, ∃ status, toKeyStatusType entry.status = .ok status :=
    forall_of_forall₂ (hagrees.imp fun _ _ h => ⟨_, h.status⟩)
  have hmade : ∀ entry ∈ handle.entries, ∃ keysetKey, Rebuilt classes entry keysetKey := by
    intro entry hentry
    obtain ⟨status, hstatus⟩ := hstatus entry hentry
    obtain ⟨s, hserialize, hparse⟩ := hround entry hentry
    obtain ⟨s₀, hparse₀, hid₀⟩ := hparsed entry hentry
    have hid : s.idRequirement = none ∨ s.idRequirement = some entry.id := by
      rcases hids hparse₀ hserialize with hnone | hsame
      · exact .inl hnone
      · rw [hsame]
        exact hid₀
    exact ⟨_, status, s, hstatus, hserialize, hparse, hid, rfl⟩
  obtain ⟨newKeys, hnew⟩ := forall₂_of_forall_exists hmade
  have hmem : handle.keyset.primaryKeyId ∈ handle.entries.map (·.id) := by
    rw [hidsEq, ← hkeyId]
    exact List.mem_map_of_mem hkey
  have hcopy : KeysetHandleBuilder.ofHandle classes handle =
      some { entries := handle.entries.map (·.toAdded classes) } := by
    unfold KeysetHandleBuilder.ofHandle
    rw [← hagrees.length_eq]
    exact ofHandleLoop_eq classes hagrees.length_eq rfl (atMostOne_primary hnodup hprimary)
  have hentries : buildEntries classes config' draws' (handle.entries.map (·.toAdded classes)) =
      some (.ok ⟨⟨handle.keyset.primaryKeyId, newKeys⟩, handle.entries⟩) :=
    buildEntries_rebuilt config' hnew hprimary hnodup hmem
  have hbuild' : KeysetHandleBuilder.build classes config' draws'
      { entries := handle.entries.map (·.toAdded classes) } =
      some (.ok ⟨⟨handle.keyset.primaryKeyId, newKeys⟩, handle.entries⟩,
        { entries := handle.entries.map (·.toAdded classes), buildCalled := true }) := by
    unfold KeysetHandleBuilder.build
    rw [if_neg Bool.false_ne_true]
    dsimp only
    rw [hentries, Option.map_some]
  exact ⟨_, _, _, hcopy, hbuild', rfl, rfl⟩

end Copy

/-- The handle of a fixed id and a drawn one is rebuilt without drawing. -/
theorem rebuild_twoEntries : ∃ copy copy' handle',
    KeysetHandleBuilder.ofHandle serializedKeys (twoEntriesHandle .enabled .enabled) = some copy ∧
      copy.build serializedKeys noKeyGen [] = some (.ok handle', copy') ∧
      handle'.entries = (twoEntriesHandle .enabled .enabled).entries ∧ handle'.keyset.primaryKeyId = 7 := by
  have hbuild : (twoEntriesBuilder .enabled).build serializedKeys noKeyGen [0, 5, 7] =
      some (.ok (twoEntriesHandle .enabled .enabled), { twoEntriesBuilder .enabled with buildCalled := true }) := rfl
  have hids : KeepsIdRequirement serializedKeys := by
    intro s s' key hparse hserialize
    cases hparse
    cases hserialize
    exact .inr rfl
  exact rebuild_handle hbuild (fun entry _ => ⟨entry.key, rfl, rfl⟩) hids noKeyGen []

end Tink
