import Mathlib.Data.List.Forall2
import TinkCc.Keyset
/-!
# KeysetHandle — a keyset proto and the entries made from it

`keyset_handle.cc`.  A handle holds the keys twice: as a `Keyset` and as a list of entries.  What parses a key is the
parameter `parseKey`; a call that aborts the process returns `none`.
-/
namespace Tink

/-! ## Statuses and serializations -/

/-- `KeyStatus`; `other` is every value without a meaning. -/
inductive KeyStatus
  | enabled
  | disabled
  | destroyed
  | other (value : Int)
  deriving DecidableEq, Repr

/-- `FromKeyStatusType`. -/
def fromKeyStatusType : KeyStatusType → Except Status KeyStatus
  | .enabled => .ok .enabled
  | .disabled => .ok .disabled
  | .destroyed => .ok .destroyed
  | _ => .error ⟨.invalidArgument, "Invalid key status type."⟩

/-- `ToKeyStatusType`. -/
def toKeyStatusType : KeyStatus → Except Status KeyStatusType
  | .enabled => .ok .enabled
  | .disabled => .ok .disabled
  | .destroyed => .ok .destroyed
  | .other _ => .error ⟨.invalidArgument, "Invalid key status."⟩

/-- `IsPrintableAscii`: no space, no control character, nothing beyond ASCII. -/
def isPrintableAscii (input : String) : Bool :=
  input.toList.all fun c => decide ('!' ≤ c ∧ c ≤ '~')

theorem isPrintableAscii_append (s t : String) : isPrintableAscii (s ++ t) = (isPrintableAscii s && isPrintableAscii t) := by
  simp [isPrintableAscii]

/-- `ProtoKeySerialization`, with what `Create` checks. -/
structure ProtoKeySerialization where
  typeUrl          : String
  serializedKey    : Bytes
  keyMaterialType  : KeyMaterialType
  outputPrefixType : OutputPrefixType
  idRequirement    : Option UInt32
  printable        : isPrintableAscii typeUrl = true
  raw_iff          : outputPrefixType = .raw ↔ idRequirement = none

/-- `ProtoKeySerialization::Create`. -/
def ProtoKeySerialization.create (typeUrl : String) (serializedKey : Bytes) (keyMaterialType : KeyMaterialType)
    (outputPrefixType : OutputPrefixType) (idRequirement : Option UInt32) : Except Status ProtoKeySerialization :=
  if hprint : isPrintableAscii typeUrl = true then
    if hraw : outputPrefixType = .raw ∧ idRequirement ≠ none then
      .error ⟨.invalidArgument, "Keys with a RAW output prefix type should not have an ID requirement."⟩
    else if hother : outputPrefixType ≠ .raw ∧ idRequirement = none then
      .error ⟨.invalidArgument, "Keys without a RAW output prefix type should have an ID requirement."⟩
    else
      .ok ⟨typeUrl, serializedKey, keyMaterialType, outputPrefixType, idRequirement, hprint,
        ⟨fun h => by_contra fun hne => hraw ⟨h, hne⟩, fun h => by_contra fun hne => hother ⟨hne, h⟩⟩⟩
  else .error ⟨.invalidArgument, "Non-printable ASCII character in type URL."⟩

section
variable {typeUrl : String} {value : Bytes} {m : KeyMaterialType} {o : OutputPrefixType} {r : Option UInt32}

theorem ProtoKeySerialization.create_ok {s : ProtoKeySerialization}
    (h : ProtoKeySerialization.create typeUrl value m o r = .ok s) :
    s.typeUrl = typeUrl ∧ s.serializedKey = value ∧ s.keyMaterialType = m ∧ s.outputPrefixType = o ∧
      s.idRequirement = r := by
  unfold ProtoKeySerialization.create at h
  split at h
  · split at h
    · cases h
    · split at h
      · cases h
      · cases h
        exact ⟨rfl, rfl, rfl, rfl, rfl⟩
  · cases h

theorem ProtoKeySerialization.create_of_valid (hprint : isPrintableAscii typeUrl = true) (hraw : o = .raw ↔ r = none) :
    ProtoKeySerialization.create typeUrl value m o r = .ok ⟨typeUrl, value, m, o, r, hprint, hraw⟩ := by
  unfold ProtoKeySerialization.create
  rw [dif_pos hprint, dif_neg (fun h => h.2 (hraw.1 h.1)), dif_neg (fun h => h.1 (hraw.2 h.2))]

end

/-- `key_data`, as proto3 reads a field that is not set. -/
def KeysetKey.getKeyData (key : KeysetKey) : KeyData := key.keyData.getD ⟨"", [], .unknownKeymaterial⟩

/-- `ToProtoKeySerialization`. -/
def toProtoKeySerialization (key : KeysetKey) : Except Status ProtoKeySerialization :=
  ProtoKeySerialization.create key.getKeyData.typeUrl key.getKeyData.value key.getKeyData.keyMaterialType
    key.outputPrefixType (if key.outputPrefixType = .raw then none else some key.keyId)

theorem toProtoKeySerialization_ok {key : KeysetKey} {s : ProtoKeySerialization}
    (h : toProtoKeySerialization key = .ok s) :
    s.typeUrl = key.getKeyData.typeUrl ∧ s.serializedKey = key.getKeyData.value ∧ s.outputPrefixType = key.outputPrefixType ∧
      s.idRequirement = if key.outputPrefixType = .raw then none else some key.keyId := by
  obtain ⟨hurl, hvalue, -, hprefix, hid⟩ := ProtoKeySerialization.create_ok h
  exact ⟨hurl, hvalue, hprefix, hid⟩

/-! ## The handle -/

section Handle
variable {Key : Type}

/-- `KeysetHandle::Entry`. -/
structure HandleEntry (Key : Type) where
  key       : Key
  status    : KeyStatus
  id        : UInt32
  isPrimary : Bool

structure KeysetHandle (Key : Type) where
  keyset  : Keyset
  entries : List (HandleEntry Key)

variable (parseKey : ProtoKeySerialization → Except Status Key)

/-- `CreateEntry`. -/
def createEntry (protoKey : KeysetKey) (primaryKeyId : UInt32) : Except Status (HandleEntry Key) :=
  match toProtoKeySerialization protoKey with
  | .error e => .error e
  | .ok serialization =>
    match parseKey serialization with
    | .error e => .error e
    | .ok key =>
      match fromKeyStatusType protoKey.status with
      | .error e => .error e
      | .ok status => .ok ⟨key, status, protoKey.keyId, decide (protoKey.keyId = primaryKeyId)⟩

/-- The loop of `GetEntriesFromKeyset`. -/
def entriesLoop (primaryKeyId : UInt32) : List KeysetKey → Except Status (List (HandleEntry Key))
  | [] => .ok []
  | key :: keys =>
    match createEntry parseKey key primaryKeyId with
    | .error e => .error e
    | .ok entry => (entriesLoop primaryKeyId keys).map (entry :: ·)

def getEntriesFromKeyset (keyset : Keyset) : Except Status (List (HandleEntry Key)) :=
  entriesLoop parseKey keyset.primaryKeyId keyset.key

/-- `ValidateAt`, on the key at the index. -/
def validateAt (protoKey : KeysetKey) : Except Status Unit :=
  if isPrintableAscii protoKey.getKeyData.typeUrl = true then (fromKeyStatusType protoKey.status).map fun _ => ()
  else .error ⟨.failedPrecondition, "Non-printable ASCII character in type URL."⟩

/-- The loop of `Validate`: the number of keys with the primary id. -/
def validateLoop (primaryKeyId : UInt32) : List KeysetKey → Nat → Except Status Nat
  | [], numPrimary => .ok numPrimary
  | protoKey :: keys, numPrimary =>
    match validateAt protoKey with
    | .error e => .error e
    | .ok () =>
      if protoKey.keyId = primaryKeyId then
        if protoKey.status ≠ .enabled then .error ⟨.failedPrecondition, "Keyset has primary that is not enabled"⟩
        else validateLoop primaryKeyId keys (numPrimary + 1)
      else validateLoop primaryKeyId keys numPrimary

/-- `Validate`. -/
def KeysetHandle.validate (handle : KeysetHandle Key) : Except Status Unit :=
  match validateLoop handle.keyset.primaryKeyId handle.keyset.key 0 with
  | .error e => .error e
  | .ok numPrimary =>
    if numPrimary < 1 then .error ⟨.failedPrecondition, "Keyset has no primary"⟩
    else if numPrimary > 1 then .error ⟨.failedPrecondition, "Keyset has more than one primary"⟩
    else .ok ()

/-- `operator[]`, with `CreateEntryAt` for a handle without entries. -/
def KeysetHandle.entryAt (handle : KeysetHandle Key) (index : Nat) : Option (HandleEntry Key) :=
  match handle.keyset.key[index]? with
  | none => none
  | some protoKey =>
    match handle.entries[index]? with
    | some entry => some entry
    | none =>
      match validateAt protoKey, createEntry parseKey protoKey handle.keyset.primaryKeyId with
      | .ok (), .ok entry => some entry
      | _, _ => none

/-- `GetPrimary`. -/
def KeysetHandle.getPrimary (handle : KeysetHandle Key) : Option (HandleEntry Key) :=
  match handle.validate with
  | .error _ => none
  | .ok () =>
    match handle.keyset.key.findIdx? (fun key => decide (key.keyId = handle.keyset.primaryKeyId)) with
    | none => none
    | some index => handle.entryAt parseKey index

/-- The entry that the handle has stored. -/
theorem entryAt_stored {handle : KeysetHandle Key} {index : Nat} {key : KeysetKey} {entry : HandleEntry Key}
    (hkey : handle.keyset.key[index]? = some key) (hentry : handle.entries[index]? = some entry) :
    handle.entryAt parseKey index = some entry := by
  unfold KeysetHandle.entryAt
  rw [hkey]
  dsimp only
  rw [hentry]

/-! ## What is read of an accepted keyset -/

/-- An entry says of its key what the proto says. -/
structure EntryAgrees (primaryKeyId : UInt32) (entry : HandleEntry Key) (protoKey : KeysetKey) : Prop where
  id      : entry.id = protoKey.keyId
  status  : toKeyStatusType entry.status = .ok protoKey.status
  primary : entry.isPrimary = decide (protoKey.keyId = primaryKeyId)

theorem toKeyStatusType_of_from {t : KeyStatusType} {s : KeyStatus} (h : fromKeyStatusType t = .ok s) :
    toKeyStatusType s = .ok t := by
  cases t with
  | enabled => cases h; rfl
  | disabled => cases h; rfl
  | destroyed => cases h; rfl
  | unknownStatus => cases h
  | unnamed v => cases h

theorem enabled_iff {t : KeyStatusType} {s : KeyStatus} (h : toKeyStatusType s = .ok t) :
    s = .enabled ↔ t = .enabled := by
  cases s with
  | enabled => cases h; simp
  | disabled => cases h; simp
  | destroyed => cases h; simp
  | other v => cases h

/-- What an entry is made of. -/
theorem createEntry_cases {protoKey : KeysetKey} {primaryKeyId : UInt32} {entry : HandleEntry Key}
    (h : createEntry parseKey protoKey primaryKeyId = .ok entry) :
    ∃ s key status, toProtoKeySerialization protoKey = .ok s ∧ parseKey s = .ok key ∧
      fromKeyStatusType protoKey.status = .ok status ∧
      entry = ⟨key, status, protoKey.keyId, decide (protoKey.keyId = primaryKeyId)⟩ := by
  unfold createEntry at h
  split at h
  · cases h
  · rename_i s hs
    split at h
    · cases h
    · rename_i key hkey
      split at h
      · cases h
      · rename_i status hstatus
        cases h
        exact ⟨s, key, status, hs, hkey, hstatus, rfl⟩

theorem createEntry_of_parsed {protoKey : KeysetKey} {s : ProtoKeySerialization} {key : Key} {status : KeyStatus}
    (hs : toProtoKeySerialization protoKey = .ok s) (hkey : parseKey s = .ok key)
    (hstatus : fromKeyStatusType protoKey.status = .ok status) (primaryKeyId : UInt32) :
    createEntry parseKey protoKey primaryKeyId =
      .ok ⟨key, status, protoKey.keyId, decide (protoKey.keyId = primaryKeyId)⟩ := by
  unfold createEntry
  rw [hs]
  dsimp only
  rw [hkey, hstatus]

/-- **A key an entry was made from agrees with it, and is one that `ValidateAt` accepts.** -/
theorem createEntry_ok {protoKey : KeysetKey} {primaryKeyId : UInt32} {entry : HandleEntry Key}
    (h : createEntry parseKey protoKey primaryKeyId = .ok entry) :
    EntryAgrees primaryKeyId entry protoKey ∧ validateAt protoKey = .ok () := by
  obtain ⟨s, key, status, hs, -, hstatus, rfl⟩ := createEntry_cases parseKey h
  refine ⟨⟨rfl, toKeyStatusType_of_from hstatus, rfl⟩, ?_⟩
  have hprint : isPrintableAscii protoKey.getKeyData.typeUrl = true := by
    rw [← (toProtoKeySerialization_ok hs).1]
    exact s.printable
  unfold validateAt
  rw [if_pos hprint, hstatus]
  rfl

theorem entriesLoop_ok {primaryKeyId : UInt32} :
    ∀ {keys : List KeysetKey} {entries : List (HandleEntry Key)}, entriesLoop parseKey primaryKeyId keys = .ok entries →
      List.Forall₂ (EntryAgrees primaryKeyId) entries keys ∧ ∀ key ∈ keys, validateAt key = .ok ()
  | [], entries, h => by
    cases h
    exact ⟨.nil, by simp⟩
  | key :: keys, entries, h => by
    unfold entriesLoop at h
    split at h
    · cases h
    · rename_i entry hentry
      cases hrest : entriesLoop parseKey primaryKeyId keys with
      | error e =>
        rw [hrest] at h
        cases h
      | ok rest =>
        rw [hrest] at h
        cases h
        obtain ⟨hagrees, hvalid⟩ := createEntry_ok parseKey hentry
        obtain ⟨hrests, hvalids⟩ := entriesLoop_ok hrest
        refine ⟨.cons hagrees hrests, fun k hk => ?_⟩
        rcases List.mem_cons.1 hk with rfl | hk
        · exact hvalid
        · exact hvalids k hk

/-- The loop of `Validate` on keys that are valid one by one. -/
theorem validateLoop_eq (primaryKeyId : UInt32) :
    ∀ (keys : List KeysetKey) (n : Nat), (∀ key ∈ keys, validateAt key = .ok ()) →
      validateLoop primaryKeyId keys n =
        if ∀ key ∈ keys, key.keyId = primaryKeyId → key.status = .enabled then
          .ok (n + (keys.filter fun key => decide (key.keyId = primaryKeyId)).length)
        else .error ⟨.failedPrecondition, "Keyset has primary that is not enabled"⟩
  | [], n, _ => by
    rw [if_pos (by simp)]
    rfl
  | key :: keys, n, hvalid => by
    have ih := fun n => validateLoop_eq primaryKeyId keys n (fun k hk => hvalid k (List.mem_cons_of_mem _ hk))
    unfold validateLoop
    rw [hvalid key (List.mem_cons_self ..)]
    simp only
    by_cases hid : key.keyId = primaryKeyId
    · rw [if_pos hid]
      by_cases hs : key.status = .enabled
      · rw [if_neg (not_not.2 hs), ih]
        simp only [List.mem_cons, forall_eq_or_imp, hs, implies_true, true_and]
        split
        · rw [List.filter_cons_of_pos (by simpa using hid), List.length_cons, Nat.add_assoc, Nat.add_comm 1]
        · rfl
      · rw [if_pos hs, if_neg (fun h => hs (h key (List.mem_cons_self ..) hid))]
    · rw [if_neg hid, ih]
      simp only [List.mem_cons, forall_eq_or_imp, hid, false_implies, true_and]
      rw [List.filter_cons_of_neg (by simpa using hid)]

/-! ## Handles without secrets -/

/-- `ValidateNoSecret`. -/
def validateNoSecret (keyset : Keyset) : Except Status Unit :=
  if keyset.key.any (fun key => decide (key.getKeyData.keyMaterialType = .unknownKeymaterial ∨
      key.getKeyData.keyMaterialType = .symmetric ∨ key.getKeyData.keyMaterialType = .asymmetricPrivate)) then
    .error ⟨.failedPrecondition,
      "Cannot create KeysetHandle with secret key material from potentially unencrypted source."⟩
  else .ok ()

theorem validateNoSecret_of_public {keyset : Keyset}
    (h : ∀ key ∈ keyset.key, key.getKeyData.keyMaterialType = .asymmetricPublic) : validateNoSecret keyset = .ok () := by
  unfold validateNoSecret
  rw [if_neg]
  intro hsecret
  obtain ⟨key, hmem, hkey⟩ := List.any_eq_true.1 hsecret
  rw [decide_eq_true_eq, h key hmem] at hkey
  rcases hkey with hkey | hkey | hkey <;> cases hkey

/-- `ReadNoSecret`, on the parsed keyset. -/
def readNoSecret (keyset : Keyset) : Except Status (KeysetHandle Key) :=
  match validateNoSecret keyset with
  | .error e => .error e
  | .ok () =>
    match getEntriesFromKeyset parseKey keyset with
    | .error e => .error e
    | .ok entries => .ok ⟨keyset, entries⟩

/-- `WriteNoSecret`: the keyset that is written. -/
def KeysetHandle.writeNoSecret (handle : KeysetHandle Key) : Except Status Keyset :=
  match validateNoSecret handle.keyset with
  | .error e => .error e
  | .ok () => .ok handle.keyset

end Handle

end Tink
