import Mathlib.Data.List.Forall2
import Mathlib.Data.List.Range
import TinkCc.Keyset
import TinkCc.LibBuckets
import TinkCc.StreamSegments
/-!
# PrimitiveSet — the primitives of a keyset, by prefix and in order

`internal/primitive_set.h`, `internal/primitive_set_base.cc` and `CryptoFormat::GetOutputPrefix`.  The hash map of a set
is a list of buckets, and the order in which it is walked is a parameter.
-/
namespace Tink

/-! ## Prefixes -/

/-- `KeysetInfo::KeyInfo`. -/
structure KeyInfo where
  typeUrl          : String
  status           : KeyStatusType
  keyId            : UInt32
  outputPrefixType : OutputPrefixType
  deriving DecidableEq, Repr

namespace CryptoFormat

def nonRawPrefixSize : Nat := 5
def legacyStartByte : UInt8 := 0
def tinkStartByte : UInt8 := 1
def rawPrefixBytes : Bytes := []

/-- `CryptoFormat::GetOutputPrefix`. -/
def getOutputPrefix (keyInfo : KeyInfo) : Except Status Bytes :=
  match keyInfo.outputPrefixType with
  | .tink => .ok (tinkStartByte :: bigEndian32 keyInfo.keyId)
  | .crunchy => .ok (legacyStartByte :: bigEndian32 keyInfo.keyId)
  | .legacy => .ok (legacyStartByte :: bigEndian32 keyInfo.keyId)
  | .raw => .ok rawPrefixBytes
  | _ => .error ⟨.invalidArgument, "The given key has invalid OutputPrefixType."⟩

end CryptoFormat

/-! ## Entries -/

/-- An entry; the entries of a set are told apart by their addresses. -/
structure PrimitiveEntry (P : Type) where
  address          : Nat
  primitive        : P
  identifier       : Bytes
  status           : KeyStatusType
  keyId            : UInt32
  outputPrefixType : OutputPrefixType
  keyTypeUrl       : String

/-- The identifier of an entry. -/
def identifierOf (keyInfo : KeyInfo) : Except Status Bytes :=
  -- no associated prefix, so set to empty
  if keyInfo.outputPrefixType = .withIdRequirement then .ok [] else CryptoFormat.getOutputPrefix keyInfo

section PrimitiveSet
variable {P : Type}

/-- `Entry::New`; a primitive that is null is `none`. -/
def PrimitiveEntry.new (address : Nat) (primitive : Option P) (keyInfo : KeyInfo) : Except Status (PrimitiveEntry P) :=
  if keyInfo.status ≠ .enabled then .error ⟨.invalidArgument, "The key must be ENABLED."⟩
  else
    match identifierOf keyInfo with
    | .error e => .error e
    | .ok identifier =>
      match primitive with
      | none => .error ⟨.invalidArgument, "The primitive must be non-null."⟩
      | some primitive =>
        .ok ⟨address, primitive, identifier, keyInfo.status, keyInfo.keyId, keyInfo.outputPrefixType, keyInfo.typeUrl⟩

/-- `CiphertextPrefixToPrimitivesMap`. -/
abbrev PrimitivesMap (P : Type) := List (Bytes × List (PrimitiveEntry P))

/-! ## The builder -/

structure PrimitiveSetBuilder (P : Type) where
  primary                 : Option (PrimitiveEntry P) := none
  primitives              : PrimitivesMap P := []
  primitivesInKeysetOrder : List (PrimitiveEntry P) := []
  status                  : Except Status Unit := .ok ()

structure PrimitiveSet (P : Type) where
  primary                 : Option (PrimitiveEntry P)
  primitives              : PrimitivesMap P
  primitivesInKeysetOrder : List (PrimitiveEntry P)

/-- `SetPrimaryImpl`: the new primary. -/
def setPrimaryImpl (primary : Option (PrimitiveEntry P)) (primitives : PrimitivesMap P) :
    Except Status (PrimitiveEntry P) :=
  match primary with
  | none => .error ⟨.invalidArgument, "The primary primitive must be non-null."⟩
  | some entry =>
    if entry.status ≠ .enabled then .error ⟨.invalidArgument, "Primary has to be enabled."⟩
    else if Buckets.get? entry.identifier primitives = none then
      .error ⟨.invalidArgument, "Primary cannot be set to an entry which is not held by this primitive set."⟩
    else .ok entry

namespace PrimitiveSetBuilder

/-- `AddPrimitiveImpl`: the stored entry and the builder with it, at an address that no other entry has. -/
def addPrimitiveImpl (primitive : Option P) (keyInfo : KeyInfo) (builder : PrimitiveSetBuilder P) :
    Except Status (PrimitiveEntry P × PrimitiveSetBuilder P) :=
  match PrimitiveEntry.new builder.primitivesInKeysetOrder.length primitive keyInfo with
  | .error e => .error e
  | .ok entry =>
    .ok (entry, { builder with primitives := Buckets.push entry.identifier entry builder.primitives,
                               primitivesInKeysetOrder := builder.primitivesInKeysetOrder ++ [entry] })

def addPrimitive (primitive : Option P) (keyInfo : KeyInfo) (builder : PrimitiveSetBuilder P) : PrimitiveSetBuilder P :=
  match builder.status with
  | .error _ => builder
  | .ok () =>
    match builder.addPrimitiveImpl primitive keyInfo with
    | .error e => { builder with status := .error e }
    | .ok (_, builder) => builder

def addPrimaryPrimitive (primitive : Option P) (keyInfo : KeyInfo) (builder : PrimitiveSetBuilder P) :
    PrimitiveSetBuilder P :=
  match builder.status with
  | .error _ => builder
  | .ok () =>
    match builder.addPrimitiveImpl primitive keyInfo with
    | .error e => { builder with status := .error e }
    | .ok (entry, builder) =>
      match setPrimaryImpl (some entry) builder.primitives with
      | .error e => { builder with status := .error e }
      | .ok entry => { builder with primary := some entry }

def build (builder : PrimitiveSetBuilder P) : Except Status (PrimitiveSet P) :=
  match builder.status with
  | .error e => .error e
  | .ok () => .ok ⟨builder.primary, builder.primitives, builder.primitivesInKeysetOrder⟩

end PrimitiveSetBuilder

/-! ## The set -/

/-- Bytes as the text of a message. -/
def bytesText (bs : Bytes) : String := String.ofList (bs.map fun b => Char.ofNat b.toNat)

namespace PrimitiveSet

def getPrimitives (identifier : Bytes) (set : PrimitiveSet P) : Except Status (List (PrimitiveEntry P)) :=
  match Buckets.get? identifier set.primitives with
  | none =>
    let shown := bytesText identifier
    .error ⟨.notFound, s!"No primitives found for identifier '{shown}'."⟩
  | some entries => .ok entries

def getRawPrimitives (set : PrimitiveSet P) : Except Status (List (PrimitiveEntry P)) :=
  set.getPrimitives CryptoFormat.rawPrefixBytes

def getPrimary (set : PrimitiveSet P) : Option (PrimitiveEntry P) := set.primary

/-- `get_all`, when `walk` is the order in which the hash map is walked. -/
def getAll (walk : PrimitivesMap P → PrimitivesMap P) (set : PrimitiveSet P) : List (PrimitiveEntry P) :=
  (walk set.primitives).flatMap (·.2)

def getAllInKeysetOrder (set : PrimitiveSet P) : List (PrimitiveEntry P) := set.primitivesInKeysetOrder

end PrimitiveSet

/-- The inner loop of `ReleaseAllEntries`: the entry at the address, which leaves a null pointer behind. -/
def releaseFrom (address : Nat) :
    List (Option (PrimitiveEntry P)) → Option (PrimitiveEntry P) × List (Option (PrimitiveEntry P))
  | [] => (none, [])
  | entry :: entries =>
    if entry.map (·.address) = some address then (entry, none :: entries)
    else ((releaseFrom address entries).1, entry :: (releaseFrom address entries).2)

/-- The loop of `ReleaseAllEntries`. -/
def releaseLoop : List (PrimitiveEntry P) → List (Bytes × List (Option (PrimitiveEntry P))) → List (PrimitiveEntry P)
  | [], _ => []
  | rawEntry :: rest, primitives =>
    let list := (Buckets.get? rawEntry.identifier primitives).getD []
    let released := releaseFrom rawEntry.address list
    released.1.toList ++ releaseLoop rest (Buckets.set rawEntry.identifier released.2 primitives)

/-- `ReleaseAllEntries`: the entries, and the set without them. -/
def PrimitiveSet.releaseAllEntries (set : PrimitiveSet P) : List (PrimitiveEntry P) × PrimitiveSet P :=
  (releaseLoop set.primitivesInKeysetOrder (set.primitives.map fun b => (b.1, b.2.map some)), ⟨none, [], []⟩)

/-! ## What a call adds -/

/-- `AddPrimitive` or `AddPrimaryPrimitive`, with its arguments. -/
structure AddCall (P : Type) where
  primitive : Option P
  keyInfo   : KeyInfo
  asPrimary : Bool

namespace PrimitiveSetBuilder

def add (builder : PrimitiveSetBuilder P) (call : AddCall P) : PrimitiveSetBuilder P :=
  if call.asPrimary then builder.addPrimaryPrimitive call.primitive call.keyInfo
  else builder.addPrimitive call.primitive call.keyInfo

end PrimitiveSetBuilder

theorem PrimitiveEntry.new_ok {address : Nat} {primitive : Option P} {keyInfo : KeyInfo} {entry : PrimitiveEntry P} :
    PrimitiveEntry.new address primitive keyInfo = .ok entry ↔
      keyInfo.status = .enabled ∧ ∃ identifier p, identifierOf keyInfo = .ok identifier ∧ primitive = some p ∧
        entry = ⟨address, p, identifier, keyInfo.status, keyInfo.keyId, keyInfo.outputPrefixType, keyInfo.typeUrl⟩ := by
  unfold PrimitiveEntry.new
  constructor
  · intro h
    split at h
    · cases h
    · rename_i hs
      split at h
      · cases h
      · rename_i identifier hid
        split at h
        · cases h
        · rename_i p
          cases h
          exact ⟨not_not.1 hs, identifier, p, hid, rfl, rfl⟩
  · rintro ⟨hs, identifier, p, hid, rfl, rfl⟩
    rw [if_neg (not_not.2 hs), hid]

/-- **What a call does to a builder that has not failed**: it stores an entry, or it fails. -/
theorem PrimitiveSetBuilder.add_eq {builder : PrimitiveSetBuilder P} (hok : builder.status = .ok ()) (call : AddCall P) :
    builder.add call =
      match PrimitiveEntry.new builder.primitivesInKeysetOrder.length call.primitive call.keyInfo with
      | .error e => { builder with status := .error e }
      | .ok entry =>
        { primary := if call.asPrimary then some entry else builder.primary,
          primitives := Buckets.push entry.identifier entry builder.primitives,
          primitivesInKeysetOrder := builder.primitivesInKeysetOrder ++ [entry],
          status := .ok () } := by
  unfold add addPrimaryPrimitive addPrimitive addPrimitiveImpl
  rw [hok]
  cases hnew : PrimitiveEntry.new builder.primitivesInKeysetOrder.length call.primitive call.keyInfo with
  | error e => simp
  | ok entry =>
    obtain ⟨hs, identifier, p, -, -, rfl⟩ := PrimitiveEntry.new_ok.1 hnew
    -- the primary entry has just been stored and is ENABLED
    by_cases hp : call.asPrimary = true
    · simp [setPrimaryImpl, hs, hp, Buckets.get?_push]
    · simp [hs, hp]

theorem PrimitiveSetBuilder.add_failed {builder : PrimitiveSetBuilder P} {e : Status} (h : builder.status = .error e)
    (call : AddCall P) : builder.add call = builder := by
  unfold add addPrimaryPrimitive addPrimitive
  rw [h]
  simp

/-! ## What a builder holds after any calls -/

/-- The entry a call stores. -/
def StoredBy (call : AddCall P) (entry : PrimitiveEntry P) : Prop :=
  PrimitiveEntry.new entry.address call.primitive call.keyInfo = .ok entry

/-- **The three parts of a builder are about the same entries.** -/
structure PrimitiveSetBuilder.Holds (builder : PrimitiveSetBuilder P) : Prop where
  files     : Buckets.Files (·.identifier) builder.primitives builder.primitivesInKeysetOrder
  addresses : builder.primitivesInKeysetOrder.map (·.address) = List.range builder.primitivesInKeysetOrder.length
  primary   : ∀ entry, builder.primary = some entry → entry ∈ builder.primitivesInKeysetOrder

namespace PrimitiveSetBuilder

theorem new_address {address : Nat} {primitive : Option P} {keyInfo : KeyInfo} {entry : PrimitiveEntry P}
    (h : PrimitiveEntry.new address primitive keyInfo = .ok entry) : entry.address = address := by
  obtain ⟨-, identifier, p, -, -, rfl⟩ := PrimitiveEntry.new_ok.1 h
  rfl

theorem Holds.add {builder : PrimitiveSetBuilder P} (h : builder.Holds) (call : AddCall P) : (builder.add call).Holds := by
  cases hs : builder.status with
  | error e =>
    rw [add_failed hs]
    exact h
  | ok _ =>
    rw [add_eq hs]
    cases hnew : PrimitiveEntry.new builder.primitivesInKeysetOrder.length call.primitive call.keyInfo with
    | error e => exact ⟨h.files, h.addresses, h.primary⟩
    | ok entry =>
      refine ⟨h.files.push entry, ?_, fun e he => ?_⟩
      · simp only [List.map_append, List.map_cons, List.map_nil, List.length_append, List.length_cons, List.length_nil,
          List.range_succ, h.addresses, new_address hnew]
      · simp only at he
        split at he
        · cases he
          exact List.mem_append_right _ (List.mem_singleton_self _)
        · exact List.mem_append_left _ (h.primary e he)

/-- What holds of a builder holds after any calls. -/
theorem Holds.adds : ∀ (calls : List (AddCall P)) {builder : PrimitiveSetBuilder P}, builder.Holds →
    (calls.foldl PrimitiveSetBuilder.add builder).Holds
  | [], _, h => h
  | call :: calls, _, h => Holds.adds calls (h.add call)

theorem holds_empty : ({} : PrimitiveSetBuilder P).Holds :=
  ⟨Buckets.Files.nil _, rfl, fun _ h => by cases h⟩

theorem adds_failed {e : Status} : ∀ (calls : List (AddCall P)) {builder : PrimitiveSetBuilder P},
    builder.status = .error e → (calls.foldl PrimitiveSetBuilder.add builder).status = .error e
  | [], _, h => h
  | call :: calls, builder, h => by
    rw [List.foldl_cons, add_failed h]
    exact adds_failed calls h

/-- The primary entry after calls that have stored the entries next to them. -/
def lastPrimary (primary : Option (PrimitiveEntry P)) (stored : List (AddCall P × PrimitiveEntry P)) :
    Option (PrimitiveEntry P) :=
  stored.foldl (fun primary s => if s.1.asPrimary then some s.2 else primary) primary

/-- **Calls that all succeed store one entry each, in their order.** -/
theorem adds_ok : ∀ {calls : List (AddCall P)} {builder : PrimitiveSetBuilder P}, builder.status = .ok () →
    (calls.foldl PrimitiveSetBuilder.add builder).status = .ok () →
    ∃ stored, stored.map (·.1) = calls ∧ (∀ s ∈ stored, StoredBy s.1 s.2) ∧
      (calls.foldl PrimitiveSetBuilder.add builder).primitivesInKeysetOrder =
        builder.primitivesInKeysetOrder ++ stored.map (·.2) ∧
      (calls.foldl PrimitiveSetBuilder.add builder).primary = lastPrimary builder.primary stored
  | [], builder, _, _ => ⟨[], rfl, by simp, by simp, rfl⟩
  | call :: calls, builder, hok, h => by
    rw [List.foldl_cons, add_eq hok] at h ⊢
    cases hnew : PrimitiveEntry.new builder.primitivesInKeysetOrder.length call.primitive call.keyInfo with
    | error e =>
      rw [hnew] at h
      rw [adds_failed calls rfl] at h
      cases h
    | ok entry =>
      rw [hnew] at h
      obtain ⟨stored, rfl, hall, horder, hprimary⟩ := adds_ok rfl h
      refine ⟨(call, entry) :: stored, rfl, fun s hs => ?_, ?_, hprimary⟩
      · rcases List.mem_cons.1 hs with rfl | hs
        · unfold StoredBy
          rw [new_address hnew]
          exact hnew
        · exact hall s hs
      · rw [horder, List.append_assoc]
        rfl

/-- Calls that could each succeed do so one after the other. -/
theorem adds_status : ∀ {calls : List (AddCall P)} {builder : PrimitiveSetBuilder P}, builder.status = .ok () →
    (∀ call ∈ calls, ∀ address, ∃ entry, PrimitiveEntry.new address call.primitive call.keyInfo = .ok entry) →
    (calls.foldl PrimitiveSetBuilder.add builder).status = .ok ()
  | [], _, hok, _ => hok
  | call :: calls, builder, hok, h => by
    obtain ⟨entry, hnew⟩ := h call (List.mem_cons_self ..) builder.primitivesInKeysetOrder.length
    rw [List.foldl_cons, add_eq hok, hnew]
    exact adds_status rfl (fun c hc => h c (List.mem_cons_of_mem _ hc))

end PrimitiveSetBuilder

/-! ## Releasing the entries -/

theorem releaseFrom_mem {address : Nat} {raw : PrimitiveEntry P} (haddress : raw.address = address) :
    ∀ {list : List (Option (PrimitiveEntry P))}, some raw ∈ list →
      (∀ e, some e ∈ list → e.address = address → e = raw) → (releaseFrom address list).1 = some raw
  | [], h, _ => by cases h
  | entry :: list, h, hunique => by
    unfold releaseFrom
    split
    · rename_i heq
      obtain ⟨e, rfl, he⟩ := Option.map_eq_some_iff.1 heq
      rw [hunique e (List.mem_cons_self ..) he]
    · rename_i hne
      rcases List.mem_cons.1 h with rfl | h
      · exact absurd (by rw [Option.map_some, haddress]) hne
      · exact releaseFrom_mem haddress h (fun e he => hunique e (List.mem_cons_of_mem _ he))

/-- An entry at another address is still there, and no entry is new. -/
theorem releaseFrom_others (address : Nat) (e : PrimitiveEntry P) :
    ∀ (list : List (Option (PrimitiveEntry P))),
      (some e ∈ list → e.address ≠ address → some e ∈ (releaseFrom address list).2) ∧
      (some e ∈ (releaseFrom address list).2 → some e ∈ list)
  | [] => ⟨fun h _ => h, fun h => h⟩
  | entry :: list => by
    have ih := releaseFrom_others address e list
    unfold releaseFrom
    split
    · rename_i heq
      refine ⟨fun h hne => ?_, fun h => ?_⟩
      · rcases List.mem_cons.1 h with rfl | h
        · exact absurd (Option.some.inj heq) hne
        · exact List.mem_cons_of_mem _ h
      · rcases List.mem_cons.1 h with h | h
        · cases h
        · exact List.mem_cons_of_mem _ h
    · refine ⟨fun h hne => ?_, fun h => ?_⟩
      · rcases List.mem_cons.1 h with rfl | h
        · exact List.mem_cons_self ..
        · exact List.mem_cons_of_mem _ (ih.1 h hne)
      · rcases List.mem_cons.1 h with rfl | h
        · exact List.mem_cons_self ..
        · exact List.mem_cons_of_mem _ (ih.2 h)

/-- **The entries come out as they are listed**, when each of them is in its bucket and addresses tell entries apart. -/
theorem releaseLoop_eq {held : List (PrimitiveEntry P)} (hheld : (held.map (·.address)).Nodup) :
    ∀ {order : List (PrimitiveEntry P)} {primitives : List (Bytes × List (Option (PrimitiveEntry P)))},
      (order.map (·.address)).Nodup → (∀ raw ∈ order, raw ∈ held) →
      (∀ raw ∈ order, ∃ list, Buckets.get? raw.identifier primitives = some list ∧ some raw ∈ list) →
      (∀ k list e, Buckets.get? k primitives = some list → some e ∈ list → e ∈ held) →
      releaseLoop order primitives = order
  | [], _, _, _, _, _ => rfl
  | raw :: order, primitives, hnodup, hin, hfiled, honly => by
    obtain ⟨list, hlist, hraw⟩ := hfiled raw (List.mem_cons_self ..)
    rw [List.map_cons, List.nodup_cons] at hnodup
    have hreleased : (releaseFrom raw.address list).1 = some raw := by
      refine releaseFrom_mem rfl hraw (fun e he haddress => ?_)
      exact List.inj_on_of_nodup_map hheld (honly _ _ e hlist he) (hin raw (List.mem_cons_self ..)) haddress
    have hrest : releaseLoop order (Buckets.set raw.identifier (releaseFrom raw.address list).2 primitives) = order := by
      refine releaseLoop_eq hheld hnodup.2 (fun r hr => hin r (List.mem_cons_of_mem _ hr)) (fun r hr => ?_)
        (fun k l e hk he => ?_)
      · obtain ⟨l, hl, hr'⟩ := hfiled r (List.mem_cons_of_mem _ hr)
        rw [Buckets.get?_set]
        split
        · rename_i hid
          rw [← hid, hlist] at hl
          cases hl
          refine ⟨_, rfl, (releaseFrom_others _ _ _).1 hr' fun haddress => hnodup.1 ?_⟩
          rw [← haddress]
          exact List.mem_map.2 ⟨r, hr, rfl⟩
        · exact ⟨l, hl, hr'⟩
      · rw [Buckets.get?_set] at hk
        split at hk
        · cases hk
          exact honly _ _ e hlist ((releaseFrom_others _ _ _).2 he)
        · exact honly _ _ e hk he
    unfold releaseLoop
    simp only [hlist, Option.getD_some, hreleased, Option.toList_some, List.singleton_append, hrest]

/-! ## What a set gives -/

theorem PrimitiveSetBuilder.build_ok {builder : PrimitiveSetBuilder P} {set : PrimitiveSet P} (h : builder.build = .ok set) :
    builder.status = .ok () ∧ set = ⟨builder.primary, builder.primitives, builder.primitivesInKeysetOrder⟩ := by
  unfold build at h
  split at h
  · cases h
  · rename_i hs
    cases h
    exact ⟨hs, rfl⟩

/-- The entries with an identifier, in keyset order. -/
def PrimitiveSet.withIdentifier (identifier : Bytes) (set : PrimitiveSet P) : List (PrimitiveEntry P) :=
  set.getAllInKeysetOrder.filter (fun entry => decide (entry.identifier = identifier))

/-- **What every set that was built gives**, when `walk` walks its map in some order. -/
structure PrimitiveSet.Consistent (walk : PrimitivesMap P → PrimitivesMap P) (set : PrimitiveSet P) : Prop where
  getAll        : (set.getAll walk).Perm set.getAllInKeysetOrder
  getPrimitives : ∀ identifier, set.getPrimitives identifier = .ok (set.withIdentifier identifier) ∨
    set.withIdentifier identifier = [] ∧ ∃ e, set.getPrimitives identifier = .error e ∧ e.code = .notFound
  distinct      : (set.getAllInKeysetOrder.map (·.address)).Nodup
  release       : set.releaseAllEntries = (set.getAllInKeysetOrder, ⟨none, [], []⟩)
  primary       : ∀ entry, set.getPrimary = some entry → entry ∈ set.getAllInKeysetOrder

theorem PrimitiveSetBuilder.Holds.consistent {builder : PrimitiveSetBuilder P} {set : PrimitiveSet P}
    {walk : PrimitivesMap P → PrimitivesMap P} (hwalk : ∀ map, (walk map).Perm map) (h : builder.Holds)
    (hbuild : builder.build = .ok set) : set.Consistent walk := by
  obtain ⟨-, rfl⟩ := build_ok hbuild
  have hnodup : (builder.primitivesInKeysetOrder.map (·.address)).Nodup := by
    rw [h.addresses]
    exact List.nodup_range
  refine ⟨?_, fun identifier => ?_, hnodup, ?_, h.primary⟩
  · exact ((hwalk _).flatMap_right _).trans h.files.perm
  · unfold PrimitiveSet.getPrimitives
    simp only [h.files.get]
    by_cases hnil : builder.primitivesInKeysetOrder.filter (fun entry => decide (entry.identifier = identifier)) = []
    · rw [if_pos hnil]
      exact .inr ⟨hnil, _, rfl, rfl⟩
    · rw [if_neg hnil]
      exact .inl rfl
  · unfold PrimitiveSet.releaseAllEntries PrimitiveSet.getAllInKeysetOrder
    refine Prod.ext (releaseLoop_eq hnodup hnodup (fun _ hraw => hraw) (fun raw hraw => ?_) (fun k list e hk he => ?_)) rfl
    · obtain ⟨entries, hget, hmem⟩ := h.files.mem_iff.1 hraw
      refine ⟨entries.map some, ?_, List.mem_map_of_mem hmem⟩
      rw [Buckets.get?_map, hget]
      rfl
    · rw [Buckets.get?_map, h.files.get] at hk
      split at hk
      · cases hk
      · cases hk
        obtain ⟨e', he', heq⟩ := List.mem_map.1 he
        cases heq
        exact (List.mem_filter.1 he').1

end PrimitiveSet

end Tink
