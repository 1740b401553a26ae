import Mathlib.Data.List.Induction
import Mathlib.Data.List.Nodup
import TinkCc.Keyset
/-!
# KeysetManager — a keyset over any sequence of calls

`keyset_manager.cc` and `KeysetHandle::AddToKeyset`.  `Effect` says once what a call that succeeds does; what holds of
every keyset a manager reaches follows from it, call after call.
-/
namespace Tink

/-! ## The calls -/

/-- `GenerateUnusedKeyId`, on the ids that are drawn: the first that no key has.  `none` is a call that still draws. -/
def generateUnusedKeyId (keyset : Keyset) (draws : List UInt32) : Option UInt32 :=
  draws.find? (fun keyId => decide (keyId ∉ keyset.ids))

/-- `AddToKeyset`; `newKeyData` is what the registry makes of the template. -/
def addToKeyset (keyTemplate : KeyTemplate) (newKeyData : Except Status KeyData) (draws : List UInt32) (asPrimary : Bool)
    (keyset : Keyset) : Option (Except Status UInt32 × Keyset) :=
  if keyTemplate.outputPrefixType = .unknownPrefix then
    some (.error ⟨.invalidArgument, "key template has UNKNOWN prefix"⟩, keyset)
  else if keyTemplate.outputPrefixType = .withIdRequirement then
    some (.error ⟨.invalidArgument, "key template has WITH_ID_REQUIREMENT prefix"⟩, keyset)
  else
    match newKeyData with
    | .error e => some (.error e, keyset)
    | .ok keyData =>
      -- the key is in the keyset, with id 0, when its id is drawn
      let key : KeysetKey := ⟨some keyData, .enabled, 0, keyTemplate.outputPrefixType⟩
      match generateUnusedKeyId { keyset with key := keyset.key ++ [key] } draws with
      | none => none
      | some keyId =>
        some (.ok keyId, { primaryKeyId := if asPrimary then keyId else keyset.primaryKeyId,
                           key := keyset.key ++ [{ key with keyId := keyId }] })

/-- The loop for the key with the id `keyId`: what `f` puts in its place, or why it does not. -/
def onKey (keyId : UInt32) (f : KeysetKey → Except Status (List KeysetKey)) :
    List KeysetKey → Except Status (List KeysetKey)
  | [] => .error ⟨.notFound, s!"No key with key_id {keyId} found in the keyset."⟩
  | key :: keys =>
    if key.keyId = keyId then (f key).map (· ++ keys) else (onKey keyId f keys).map (key :: ·)

namespace KeysetManager

/-- A call that puts something in the place of one key. -/
def replaceKey (keyId : UInt32) (f : KeysetKey → Except Status (List KeysetKey)) (keyset : Keyset) :
    Except Status Unit × Keyset :=
  match onKey keyId f keyset.key with
  | .error e => (.error e, keyset)
  | .ok keys => (.ok (), { keyset with key := keys })

/-- A call that is refused on the primary key. -/
def unlessPrimary (verb : String) (keyId : UInt32) (f : KeysetKey → Except Status (List KeysetKey)) (keyset : Keyset) :
    Except Status Unit × Keyset :=
  if keyset.primaryKeyId = keyId then
    (.error ⟨.invalidArgument, s!"Cannot {verb} primary key (key_id {keyId})."⟩, keyset)
  else replaceKey keyId f keyset

/-- The status check of a call. -/
def checkStatus (verb : String) (allowed : List KeyStatusType) (key : KeysetKey) (result : List KeysetKey) :
    Except Status (List KeysetKey) :=
  if key.status ∈ allowed then .ok result
  else
    let keyId := key.keyId
    let status := keyStatusName key.status
    .error ⟨.invalidArgument, s!"Cannot {verb} key with key_id {keyId} and status {status}."⟩

def enable (keyId : UInt32) (keyset : Keyset) : Except Status Unit × Keyset :=
  replaceKey keyId (fun key => checkStatus "enable" [.disabled, .enabled] key [{ key with status := .enabled }]) keyset

def disable (keyId : UInt32) (keyset : Keyset) : Except Status Unit × Keyset :=
  unlessPrimary "disable" keyId
    (fun key => checkStatus "disable" [.disabled, .enabled] key [{ key with status := .disabled }]) keyset

def delete (keyId : UInt32) (keyset : Keyset) : Except Status Unit × Keyset :=
  unlessPrimary "delete" keyId (fun _ => .ok []) keyset

def destroy (keyId : UInt32) (keyset : Keyset) : Except Status Unit × Keyset :=
  unlessPrimary "destroy" keyId
    (fun key => checkStatus "destroy" [.disabled, .destroyed, .enabled] key
      [{ key with keyData := none, status := .destroyed }]) keyset

def setPrimary (keyId : UInt32) (keyset : Keyset) : Except Status Unit × Keyset :=
  match onKey keyId (fun key =>
      if key.status = .enabled then .ok [key]
      else .error ⟨.invalidArgument, s!"The candidate for the primary key must be ENABLED (key_id {keyId})."⟩)
    keyset.key with
  | .error e => (.error e, keyset)
  | .ok keys => (.ok (), { primaryKeyId := keyId, key := keys })

end KeysetManager

/-! ## Runs -/

inductive ManagerOp
  | add (keyTemplate : KeyTemplate) (newKeyData : Except Status KeyData) (draws : List UInt32)
  | rotate (keyTemplate : KeyTemplate) (newKeyData : Except Status KeyData) (draws : List UInt32)
  | enable (keyId : UInt32)
  | disable (keyId : UInt32)
  | delete (keyId : UInt32)
  | destroy (keyId : UInt32)
  | setPrimary (keyId : UInt32)

/-- The id a call names. -/
def ManagerOp.keyId : ManagerOp → Option UInt32
  | .add _ _ _ => none
  | .rotate _ _ _ => none
  | .enable keyId => some keyId
  | .disable keyId => some keyId
  | .delete keyId => some keyId
  | .destroy keyId => some keyId
  | .setPrimary keyId => some keyId

def ManagerOp.setsPrimary : ManagerOp → Bool
  | .rotate _ _ _ => true
  | .setPrimary _ => true
  | _ => false

/-- A result that says nothing but OK, as the id of the key it is about. -/
def aboutKey (keyId : UInt32) (r : Except Status Unit × Keyset) : Option (Except Status UInt32 × Keyset) :=
  some (r.1.map (fun _ => keyId), r.2)

/-- A call: its result, with the id of the key it added or named, and the keyset after it. -/
def managerStep (keyset : Keyset) : ManagerOp → Option (Except Status UInt32 × Keyset)
  | .add keyTemplate newKeyData draws => addToKeyset keyTemplate newKeyData draws false keyset
  | .rotate keyTemplate newKeyData draws => addToKeyset keyTemplate newKeyData draws true keyset
  | .enable keyId => aboutKey keyId (KeysetManager.enable keyId keyset)
  | .disable keyId => aboutKey keyId (KeysetManager.disable keyId keyset)
  | .delete keyId => aboutKey keyId (KeysetManager.delete keyId keyset)
  | .destroy keyId => aboutKey keyId (KeysetManager.destroy keyId keyset)
  | .setPrimary keyId => aboutKey keyId (KeysetManager.setPrimary keyId keyset)

/-- The keyset after some calls; `none` if one of them does not return. -/
def managerRun (keyset : Keyset) : List ManagerOp → Option Keyset
  | [] => some keyset
  | op :: ops => (managerStep keyset op).bind fun r => managerRun r.2 ops

/-! ## What a call does -/

/-- **A call that succeeds**, on a keyset with the primary id `p`: it adds a key with an id of its own, or changes the
first key with the id it names. -/
inductive Effect : Keyset → ManagerOp → UInt32 → Keyset → Prop
  | add {p keys t d draws id} : id ∉ (keys.map (·.keyId)) →
      Effect ⟨p, keys⟩ (.add t (.ok d) draws) id ⟨p, keys ++ [⟨some d, .enabled, id, t.outputPrefixType⟩]⟩
  | rotate {p keys t d draws id} : id ∉ (keys.map (·.keyId)) →
      Effect ⟨p, keys⟩ (.rotate t (.ok d) draws) id ⟨id, keys ++ [⟨some d, .enabled, id, t.outputPrefixType⟩]⟩
  | enable {p l key r} : (∀ k ∈ l, k.keyId ≠ key.keyId) → key.status ∈ [.disabled, .enabled] →
      Effect ⟨p, l ++ key :: r⟩ (.enable key.keyId) key.keyId ⟨p, l ++ { key with status := .enabled } :: r⟩
  | disable {p l key r} : p ≠ key.keyId → (∀ k ∈ l, k.keyId ≠ key.keyId) → key.status ∈ [.disabled, .enabled] →
      Effect ⟨p, l ++ key :: r⟩ (.disable key.keyId) key.keyId ⟨p, l ++ { key with status := .disabled } :: r⟩
  | delete {p l key r} : p ≠ key.keyId → (∀ k ∈ l, k.keyId ≠ key.keyId) →
      Effect ⟨p, l ++ key :: r⟩ (.delete key.keyId) key.keyId ⟨p, l ++ r⟩
  | destroy {p l key r} : p ≠ key.keyId → (∀ k ∈ l, k.keyId ≠ key.keyId) →
      key.status ∈ [.disabled, .destroyed, .enabled] →
      Effect ⟨p, l ++ key :: r⟩ (.destroy key.keyId) key.keyId
        ⟨p, l ++ { key with keyData := none, status := .destroyed } :: r⟩
  | setPrimary {p l key r} : (∀ k ∈ l, k.keyId ≠ key.keyId) → key.status = .enabled →
      Effect ⟨p, l ++ key :: r⟩ (.setPrimary key.keyId) key.keyId ⟨key.keyId, l ++ key :: r⟩

theorem onKey_ok {keyId : UInt32} {f : KeysetKey → Except Status (List KeysetKey)} :
    ∀ {keys keys' : List KeysetKey}, onKey keyId f keys = .ok keys' →
      ∃ l key r new, keys = l ++ key :: r ∧ key.keyId = keyId ∧ (∀ k ∈ l, k.keyId ≠ keyId) ∧ f key = .ok new ∧
        keys' = l ++ new ++ r
  | [], _, h => by cases h
  | key :: keys, keys', h => by
    unfold onKey at h
    split at h
    · rename_i hid
      cases hf : f key with
      | error e =>
        rw [hf] at h
        cases h
      | ok new =>
        rw [hf] at h
        cases h
        exact ⟨[], key, keys, new, rfl, hid, by simp, hf, rfl⟩
    · rename_i hid
      cases hrec : onKey keyId f keys with
      | error e =>
        rw [hrec] at h
        cases h
      | ok keys'' =>
        rw [hrec] at h
        cases h
        obtain ⟨l, key', r, new, hkeys, hkey, hl, hf, hnew⟩ := onKey_ok hrec
        refine ⟨key :: l, key', r, new, by rw [hkeys]; rfl, hkey, ?_, hf, by rw [hnew]; rfl⟩
        intro k hk
        rcases List.mem_cons.1 hk with rfl | hk
        · exact hid
        · exact hl k hk

theorem replaceKey_ok {keyId : UInt32} {f : KeysetKey → Except Status (List KeysetKey)} {keyset keyset' : Keyset}
    (h : KeysetManager.replaceKey keyId f keyset = (.ok (), keyset')) :
    ∃ l key r new, keyset.key = l ++ key :: r ∧ key.keyId = keyId ∧ (∀ k ∈ l, k.keyId ≠ keyId) ∧ f key = .ok new ∧
      keyset' = ⟨keyset.primaryKeyId, l ++ new ++ r⟩ := by
  unfold KeysetManager.replaceKey at h
  cases hon : onKey keyId f keyset.key with
  | error e =>
    rw [hon] at h
    cases h
  | ok keys =>
    rw [hon] at h
    cases h
    obtain ⟨l, key, r, new, hkeys, hkey, hl, hf, rfl⟩ := onKey_ok hon
    exact ⟨l, key, r, new, hkeys, hkey, hl, hf, rfl⟩

theorem unlessPrimary_ok {verb : String} {keyId : UInt32} {f : KeysetKey → Except Status (List KeysetKey)}
    {keyset keyset' : Keyset} (h : KeysetManager.unlessPrimary verb keyId f keyset = (.ok (), keyset')) :
    keyset.primaryKeyId ≠ keyId ∧ KeysetManager.replaceKey keyId f keyset = (.ok (), keyset') := by
  unfold KeysetManager.unlessPrimary at h
  split at h
  · cases h
  · rename_i hp
    exact ⟨hp, h⟩

theorem checkStatus_ok {verb : String} {allowed : List KeyStatusType} {key : KeysetKey} {result new : List KeysetKey}
    (h : KeysetManager.checkStatus verb allowed key result = .ok new) : key.status ∈ allowed ∧ new = result := by
  unfold KeysetManager.checkStatus at h
  split at h
  · rename_i hs
    cases h
    exact ⟨hs, rfl⟩
  · cases h

theorem aboutKey_ok {keyId id : UInt32} {r : Except Status Unit × Keyset} {keyset' : Keyset}
    (h : aboutKey keyId r = some (.ok id, keyset')) : id = keyId ∧ r = (.ok (), keyset') := by
  obtain ⟨e | u, k⟩ := r
  · cases h
  · cases h
    exact ⟨rfl, rfl⟩

/-- An id that was drawn is one that no key has. -/
theorem generateUnusedKeyId_not_mem {keyset : Keyset} {draws : List UInt32} {keyId : UInt32}
    (h : generateUnusedKeyId keyset draws = some keyId) : keyId ∉ keyset.ids := by
  simpa using List.find?_some h

theorem addToKeyset_ok {t : KeyTemplate} {newKeyData : Except Status KeyData} {draws : List UInt32} {asPrimary : Bool}
    {keyset keyset' : Keyset} {id : UInt32}
    (h : addToKeyset t newKeyData draws asPrimary keyset = some (.ok id, keyset')) :
    ∃ d, newKeyData = .ok d ∧ id ∉ keyset.ids ∧
      keyset' = ⟨if asPrimary then id else keyset.primaryKeyId,
        keyset.key ++ [⟨some d, .enabled, id, t.outputPrefixType⟩]⟩ := by
  unfold addToKeyset at h
  split at h
  · cases h
  · split at h
    · cases h
    · cases newKeyData with
      | error e => cases h
      | ok d =>
        simp only at h
        split at h
        · cases h
        · rename_i hid
          cases h
          refine ⟨d, rfl, fun hmem => generateUnusedKeyId_not_mem hid ?_, rfl⟩
          unfold Keyset.ids at hmem ⊢
          rw [List.map_append]
          exact List.mem_append_left _ hmem

/-- **What a successful call does.** -/
theorem managerStep_effect {keyset keyset' : Keyset} {op : ManagerOp} {id : UInt32}
    (h : managerStep keyset op = some (.ok id, keyset')) : Effect keyset op id keyset' := by
  obtain ⟨p, keys⟩ := keyset
  cases op with
  | add t newKeyData draws =>
    obtain ⟨d, rfl, hid, rfl⟩ := addToKeyset_ok h
    exact .add hid
  | rotate t newKeyData draws =>
    obtain ⟨d, rfl, hid, rfl⟩ := addToKeyset_ok h
    exact .rotate hid
  | enable keyId =>
    obtain ⟨rfl, h⟩ := aboutKey_ok h
    obtain ⟨l, key, r, new, hkeys, rfl, hl, hf, rfl⟩ := replaceKey_ok h
    obtain ⟨hs, rfl⟩ := checkStatus_ok hf
    obtain rfl : keys = _ := hkeys
    simp only [List.append_assoc, List.singleton_append]
    exact .enable hl hs
  | disable keyId =>
    obtain ⟨rfl, h⟩ := aboutKey_ok h
    obtain ⟨hp, h⟩ := unlessPrimary_ok h
    obtain ⟨l, key, r, new, hkeys, rfl, hl, hf, rfl⟩ := replaceKey_ok h
    obtain ⟨hs, rfl⟩ := checkStatus_ok hf
    obtain rfl : keys = _ := hkeys
    simp only [List.append_assoc, List.singleton_append]
    exact .disable hp hl hs
  | delete keyId =>
    obtain ⟨rfl, h⟩ := aboutKey_ok h
    obtain ⟨hp, h⟩ := unlessPrimary_ok h
    obtain ⟨l, key, r, new, hkeys, rfl, hl, hf, rfl⟩ := replaceKey_ok h
    cases hf
    obtain rfl : keys = _ := hkeys
    simp only [List.append_nil]
    exact .delete hp hl
  | destroy keyId =>
    obtain ⟨rfl, h⟩ := aboutKey_ok h
    obtain ⟨hp, h⟩ := unlessPrimary_ok h
    obtain ⟨l, key, r, new, hkeys, rfl, hl, hf, rfl⟩ := replaceKey_ok h
    obtain ⟨hs, rfl⟩ := checkStatus_ok hf
    obtain rfl : keys = _ := hkeys
    simp only [List.append_assoc, List.singleton_append]
    exact .destroy hp hl hs
  | setPrimary keyId =>
    obtain ⟨rfl, h⟩ := aboutKey_ok h
    unfold KeysetManager.setPrimary at h
    split at h
    · cases h
    · rename_i keys' hon
      cases h
      obtain ⟨l, key, r, new, hkeys, rfl, hl, hf, rfl⟩ := onKey_ok hon
      obtain rfl : keys = _ := hkeys
      split at hf
      · rename_i hs
        cases hf
        simp only [List.append_assoc, List.singleton_append]
        exact .setPrimary hl hs
      · cases hf

section
variable {keyset keyset' : Keyset} {e : Status}

theorem addToKeyset_error {keyTemplate : KeyTemplate} {newKeyData : Except Status KeyData} {draws : List UInt32}
    {asPrimary : Bool} (h : addToKeyset keyTemplate newKeyData draws asPrimary keyset = some (.error e, keyset')) :
    keyset' = keyset := by
  unfold addToKeyset at h
  split at h
  · cases h
    rfl
  · split at h
    · cases h
      rfl
    · cases newKeyData with
      | error e' =>
        cases h
        rfl
      | ok keyData =>
        dsimp only at h
        split at h
        · cases h
        · cases h

theorem replaceKey_error {keyId : UInt32} {f : KeysetKey → Except Status (List KeysetKey)}
    (h : (KeysetManager.replaceKey keyId f keyset).1 = .error e) :
    (KeysetManager.replaceKey keyId f keyset).2 = keyset := by
  unfold KeysetManager.replaceKey at h ⊢
  split
  · rfl
  · rename_i hon
    rw [hon] at h
    cases h

theorem unlessPrimary_error {verb : String} {keyId : UInt32} {f : KeysetKey → Except Status (List KeysetKey)}
    (h : (KeysetManager.unlessPrimary verb keyId f keyset).1 = .error e) :
    (KeysetManager.unlessPrimary verb keyId f keyset).2 = keyset := by
  unfold KeysetManager.unlessPrimary at h ⊢
  split
  · rfl
  · rename_i hprimary
    rw [if_neg hprimary] at h
    exact replaceKey_error h

theorem setPrimary_error {keyId : UInt32} (h : (KeysetManager.setPrimary keyId keyset).1 = .error e) :
    (KeysetManager.setPrimary keyId keyset).2 = keyset := by
  unfold KeysetManager.setPrimary at h ⊢
  split
  · rfl
  · rename_i hon
    rw [hon] at h
    cases h

theorem aboutKey_error {keyId : UInt32} {r : Except Status Unit × Keyset} (hr : r.1 = .error e → r.2 = keyset)
    (h : aboutKey keyId r = some (.error e, keyset')) : keyset' = keyset := by
  obtain ⟨result, k⟩ := r
  cases result with
  | error e' =>
    cases h
    exact hr rfl
  | ok _ => cases h

/-- **A call that fails leaves the keyset as it was.** -/
theorem managerStep_error {op : ManagerOp} (h : managerStep keyset op = some (.error e, keyset')) : keyset' = keyset := by
  cases op with
  | add keyTemplate newKeyData draws => exact addToKeyset_error h
  | rotate keyTemplate newKeyData draws => exact addToKeyset_error h
  | enable keyId => exact aboutKey_error replaceKey_error h
  | disable keyId => exact aboutKey_error unlessPrimary_error h
  | delete keyId => exact aboutKey_error unlessPrimary_error h
  | destroy keyId => exact aboutKey_error unlessPrimary_error h
  | setPrimary keyId => exact aboutKey_error setPrimary_error h

end

/-! ## What every keyset keeps -/

/-- **Distinct ids, and a primary key that is ENABLED.** -/
structure Keyset.Valid (keyset : Keyset) : Prop where
  distinct : keyset.ids.Nodup
  primary  : ∃ key ∈ keyset.key, key.keyId = keyset.primaryKeyId ∧ key.status = .enabled

/-- The keys with other ids are those from before, in their order; the primary id is another one only after `Rotate` and
`SetPrimary`, and then the id of the key the call is about. -/
structure OnlyChanges (op : ManagerOp) (id : UInt32) (before after : Keyset) : Prop where
  named   : ∀ keyId, op.keyId = some keyId → id = keyId
  others  : after.key.filter (fun key => decide (key.keyId ≠ id)) = before.key.filter (fun key => decide (key.keyId ≠ id))
  primary : after.primaryKeyId = if op.setsPrimary then id else before.primaryKeyId

/-- The keyset has the key, and it is DESTROYED. -/
def Destroyed (keyset : Keyset) (keyId : UInt32) : Prop :=
  ∃ key ∈ keyset.key, key.keyId = keyId ∧ key.status = .destroyed

theorem Effect.onlyChanges {before after : Keyset} {op : ManagerOp} {id : UInt32} (h : Effect before op id after) :
    OnlyChanges op id before after := by
  cases h with
  | add hid => exact ⟨by simp [ManagerOp.keyId], by simp, rfl⟩
  | rotate hid => exact ⟨by simp [ManagerOp.keyId], by simp, rfl⟩
  | enable hl hs => exact ⟨by simp [ManagerOp.keyId], by simp, rfl⟩
  | disable hp hl hs => exact ⟨by simp [ManagerOp.keyId], by simp, rfl⟩
  | delete hp hl => exact ⟨by simp [ManagerOp.keyId], by simp, rfl⟩
  | destroy hp hl hs => exact ⟨by simp [ManagerOp.keyId], by simp, rfl⟩
  | setPrimary hl hs => exact ⟨by simp [ManagerOp.keyId], rfl, rfl⟩

/-- A keyset with one more key, whose id is new. -/
theorem nodup_add {p p' : UInt32} {keys : List KeysetKey} {key : KeysetKey} (hid : key.keyId ∉ keys.map (·.keyId))
    (hnodup : (Keyset.ids ⟨p, keys⟩).Nodup) : (Keyset.ids ⟨p', keys ++ [key]⟩).Nodup := by
  unfold Keyset.ids at hnodup ⊢
  rw [List.map_append, List.map_cons, List.map_nil]
  exact List.Nodup.append hnodup (List.nodup_singleton _) (by simpa using hid)

/-- A keyset in which one key was replaced by one with the same id. -/
theorem nodup_replace {p : UInt32} {l r : List KeysetKey} {key key' : KeysetKey} (h : key'.keyId = key.keyId)
    (hnodup : (Keyset.ids ⟨p, l ++ key :: r⟩).Nodup) : (Keyset.ids ⟨p, l ++ key' :: r⟩).Nodup := by
  unfold Keyset.ids at hnodup ⊢
  rw [List.map_append, List.map_cons] at hnodup ⊢
  rw [h]
  exact hnodup

/-- A key that is not the one replaced is still there. -/
theorem mem_replace {l r : List KeysetKey} {key key' k : KeysetKey} (hk : k ∈ l ++ key :: r)
    (hne : k.keyId ≠ key.keyId) : k ∈ l ++ key' :: r := by
  rcases List.mem_append.1 hk with hk | hk
  · exact List.mem_append_left _ hk
  · rcases List.mem_cons.1 hk with rfl | hk
    · exact absurd rfl hne
    · exact List.mem_append_right _ (List.mem_cons_of_mem _ hk)

theorem mem_of_replace {l r : List KeysetKey} {key key' k : KeysetKey} (hk : k ∈ l ++ key' :: r) :
    k = key' ∨ k ∈ l ++ key :: r := by
  rcases List.mem_append.1 hk with hk | hk
  · exact .inr (List.mem_append_left _ hk)
  · rcases List.mem_cons.1 hk with rfl | hk
    · exact .inl rfl
    · exact .inr (List.mem_append_right _ (List.mem_cons_of_mem _ hk))

theorem Effect.valid {before after : Keyset} {op : ManagerOp} {id : UInt32} (h : Effect before op id after)
    (hv : before.Valid) : after.Valid := by
  obtain ⟨hnodup, primary, hmem, hprimary, hstatus⟩ := hv
  cases h with
  | @add p keys t d draws id hid =>
    exact ⟨nodup_add hid hnodup, primary, List.mem_append_left _ hmem, hprimary, hstatus⟩
  | @rotate p keys t d draws id hid =>
    exact ⟨nodup_add hid hnodup, ⟨some d, .enabled, id, t.outputPrefixType⟩,
      List.mem_append_right _ (List.mem_singleton_self _), rfl, rfl⟩
  | @enable p l key r hl hs =>
    refine ⟨nodup_replace (by rfl) hnodup, ?_⟩
    by_cases hp : primary.keyId = key.keyId
    · exact ⟨{ key with status := .enabled }, by simp, hp ▸ hprimary, rfl⟩
    · exact ⟨primary, mem_replace hmem hp, hprimary, hstatus⟩
  | @disable p l key r hp hl hs =>
    exact ⟨nodup_replace (by rfl) hnodup, primary, mem_replace hmem (fun h => hp (hprimary.symm.trans h)), hprimary,
      hstatus⟩
  | @delete p l key r hp hl =>
    refine ⟨?_, primary, ?_, hprimary, hstatus⟩
    · unfold Keyset.ids at hnodup ⊢
      rw [List.map_append, List.map_cons] at hnodup
      rw [List.map_append]
      exact hnodup.sublist (List.Sublist.append_left (List.sublist_cons_self _ _) _)
    · rcases List.mem_append.1 hmem with h | h
      · exact List.mem_append_left _ h
      · rcases List.mem_cons.1 h with rfl | h
        · exact absurd hprimary.symm hp
        · exact List.mem_append_right _ h
  | @destroy p l key r hp hl hs =>
    exact ⟨nodup_replace (by rfl) hnodup, primary, mem_replace hmem (fun h => hp (hprimary.symm.trans h)), hprimary,
      hstatus⟩
  | @setPrimary p l key r hl hs =>
    exact ⟨hnodup, key, List.mem_append_right _ (List.mem_cons_self ..), rfl, hs⟩

/-- A call destroys a key only with its data. -/
theorem Effect.destroyed_data {before after : Keyset} {op : ManagerOp} {id : UInt32} (h : Effect before op id after)
    {key : KeysetKey} (hmem : key ∈ after.key) (hs : key.status = .destroyed) :
    key.keyData = none ∨ key ∈ before.key := by
  cases h with
  | add hid =>
    rcases List.mem_append.1 hmem with hmem | hmem
    · exact .inr hmem
    · rw [List.mem_singleton.1 hmem] at hs
      cases hs
  | rotate hid =>
    rcases List.mem_append.1 hmem with hmem | hmem
    · exact .inr hmem
    · rw [List.mem_singleton.1 hmem] at hs
      cases hs
  | enable hl _ =>
    rcases mem_of_replace hmem with rfl | hmem
    · cases hs
    · exact .inr hmem
  | disable hp hl _ =>
    rcases mem_of_replace hmem with rfl | hmem
    · cases hs
    · exact .inr hmem
  | delete hp hl =>
    rcases List.mem_append.1 hmem with hmem | hmem
    · exact .inr (List.mem_append_left _ hmem)
    · exact .inr (List.mem_append_right _ (List.mem_cons_of_mem _ hmem))
  | destroy hp hl _ =>
    rcases mem_of_replace hmem with rfl | hmem
    · exact .inl rfl
    · exact .inr hmem
  | setPrimary hl _ => exact .inr hmem

/-- Two keys of a keyset with the same id are one key. -/
theorem Keyset.eq_of_keyId {keyset : Keyset} (h : keyset.ids.Nodup) {k key : KeysetKey} (hk : k ∈ keyset.key)
    (hkey : key ∈ keyset.key) (hid : k.keyId = key.keyId) : k = key :=
  List.inj_on_of_nodup_map h hk hkey hid

/-- A key stays DESTROYED unless the call deletes it, and then no key has its id. -/
theorem Effect.destroyed {before after : Keyset} {op : ManagerOp} {id keyId : UInt32} (h : Effect before op id after)
    (hv : before.Valid) (hd : Destroyed before keyId) :
    Destroyed after keyId ∨ op = .delete keyId ∧ id = keyId ∧ keyId ∉ after.ids := by
  obtain ⟨k, hk, hkid, hks⟩ := hd
  cases h with
  | add hid => exact .inl ⟨k, List.mem_append_left _ hk, hkid, hks⟩
  | rotate hid => exact .inl ⟨k, List.mem_append_left _ hk, hkid, hks⟩
  | @enable p l key r hl hs =>
    have hne : k.keyId ≠ key.keyId := by
      intro h
      obtain rfl := Keyset.eq_of_keyId hv.distinct hk (by simp) h
      simp [hks] at hs
    exact .inl ⟨k, mem_replace hk hne, hkid, hks⟩
  | @disable p l key r hp hl hs =>
    have hne : k.keyId ≠ key.keyId := by
      intro h
      obtain rfl := Keyset.eq_of_keyId hv.distinct hk (by simp) h
      simp [hks] at hs
    exact .inl ⟨k, mem_replace hk hne, hkid, hks⟩
  | @delete p l key r hp hl =>
    by_cases hne : k.keyId = key.keyId
    · refine .inr ⟨by rw [← hkid, hne], by rw [← hkid, hne], ?_⟩
      have hnodup := hv.distinct
      unfold Keyset.ids at hnodup ⊢
      rw [List.map_append, List.map_cons] at hnodup
      rw [List.map_append, ← hkid, hne]
      exact (List.nodup_middle.1 hnodup).notMem
    · refine .inl ⟨k, ?_, hkid, hks⟩
      rcases List.mem_append.1 hk with h | h
      · exact List.mem_append_left _ h
      · rcases List.mem_cons.1 h with rfl | h
        · exact absurd rfl hne
        · exact List.mem_append_right _ h
  | @destroy p l key r hp hl hs =>
    by_cases hne : k.keyId = key.keyId
    · exact .inl ⟨{ key with keyData := none, status := .destroyed }, by simp, hne ▸ hkid, rfl⟩
    · exact .inl ⟨k, mem_replace hk hne, hkid, hks⟩
  | setPrimary hl _ => exact .inl ⟨k, hk, hkid, hks⟩

/-! ## What every run keeps -/

/-- What every successful call keeps holds after every run. -/
theorem managerRun_induct {P : Keyset → Prop}
    (hstep : ∀ {before op id after}, Effect before op id after → P before → P after) :
    ∀ {ops : List ManagerOp} {before after : Keyset}, managerRun before ops = some after → P before → P after
  | [], before, after, h, hp => by
    cases h
    exact hp
  | op :: ops, before, after, h, hp => by
    obtain ⟨⟨result, mid⟩, hop, hrest⟩ := Option.bind_eq_some_iff.1 h
    refine managerRun_induct hstep hrest ?_
    cases result with
    | error e =>
      rw [managerStep_error hop]
      exact hp
    | ok id => exact hstep (managerStep_effect hop) hp

/-- A key that is DESTROYED is so after every run, unless the run deletes it. -/
theorem managerRun_destroyed {keyId : UInt32} :
    ∀ {ops : List ManagerOp} {before after : Keyset}, managerRun before ops = some after → before.Valid →
      Destroyed before keyId → Destroyed after keyId ∨
        ∃ a b mid mid', ops = a ++ .delete keyId :: b ∧ managerRun before a = some mid ∧
          managerStep mid (.delete keyId) = some (.ok keyId, mid') ∧ keyId ∉ mid'.ids
  | [], before, after, h, _, hd => by
    cases h
    exact .inl hd
  | op :: ops, before, after, h, hv, hd => by
    obtain ⟨⟨result, mid⟩, hop, hrest⟩ := Option.bind_eq_some_iff.1 h
    -- the calls after a first one that did not delete the key
    have hlater : mid.Valid → Destroyed mid keyId → Destroyed after keyId ∨
        ∃ a b m m', op :: ops = a ++ .delete keyId :: b ∧ managerRun before a = some m ∧
          managerStep m (.delete keyId) = some (.ok keyId, m') ∧ keyId ∉ m'.ids := by
      intro hv hd
      rcases managerRun_destroyed hrest hv hd with hd | ⟨a, b, m, m', rfl, ha, hdel, hout⟩
      · exact .inl hd
      · refine .inr ⟨op :: a, b, m, m', rfl, ?_, hdel, hout⟩
        unfold managerRun
        rw [hop]
        exact ha
    cases result with
    | error e =>
      have hsame : mid = before := managerStep_error hop
      exact hlater (hsame ▸ hv) (hsame ▸ hd)
    | ok id =>
      have heffect := managerStep_effect hop
      rcases heffect.destroyed hv hd with hd | ⟨rfl, rfl, hout⟩
      · exact hlater (heffect.valid hv) hd
      · exact .inr ⟨[], ops, before, mid, rfl, rfl, hop, hout⟩

/-- A keyset a manager starts from: one of a handle that is valid, or the one of `New(key_template)`. -/
def ManagerStart (start : Keyset) : Prop :=
  start.Valid ∨ ∃ keyTemplate newKeyData draws id,
    managerStep ⟨0, []⟩ (.rotate keyTemplate newKeyData draws) = some (.ok id, start)

theorem ManagerStart.valid {start : Keyset} (h : ManagerStart start) : start.Valid := by
  rcases h with h | ⟨t, d, draws, id, h⟩
  · exact h
  · generalize hop : ManagerOp.rotate t d draws = op at h
    generalize hempty : (⟨0, []⟩ : Keyset) = empty at h
    cases managerStep_effect h with
    | @rotate p keys t d draws id hid =>
      cases hempty
      exact ⟨List.nodup_singleton _, _, List.mem_singleton_self _, rfl, rfl⟩
    | add hid => cases hop
    | enable hl hs => cases hop
    | disable hp hl hs => cases hop
    | delete hp hl => cases hop
    | destroy hp hl hs => cases hop
    | setPrimary hl hs => cases hop

/-- In a keyset with distinct ids a key is the only one with its id. -/
theorem Keyset.filter_keyId {keyset : Keyset} (hnodup : keyset.ids.Nodup) {key : KeysetKey} (hmem : key ∈ keyset.key) :
    keyset.key.filter (fun k => decide (k.keyId = key.keyId)) = [key] := by
  obtain ⟨l, r, hkeys⟩ := List.append_of_mem hmem
  have hout : ∀ k ∈ l ++ r, k.keyId ≠ key.keyId := by
    intro k hk heq
    unfold Keyset.ids at hnodup
    rw [hkeys, List.map_append, List.map_cons] at hnodup
    have hnot := (List.nodup_middle.1 hnodup).notMem
    rw [← List.map_append] at hnot
    exact hnot (List.mem_map.2 ⟨k, hk, heq⟩)
  have hnone : ∀ keys : List KeysetKey, (∀ k ∈ keys, k ∈ l ++ r) →
      keys.filter (fun k => decide (k.keyId = key.keyId)) = [] := by
    intro keys hkeys
    refine List.filter_eq_nil_iff.2 fun k hk => ?_
    simpa using hout k (hkeys k hk)
  rw [hkeys, List.filter_append, List.filter_cons, if_pos (by simp),
    hnone l (fun k hk => List.mem_append_left _ hk), hnone r (fun k hk => List.mem_append_right _ hk), List.nil_append]

/-- In a valid keyset the primary id is the id of one key, and that key is ENABLED. -/
theorem Keyset.Valid.unique_primary {keyset : Keyset} (h : keyset.Valid) :
    ∃ key, keyset.key.filter (fun key => decide (key.keyId = keyset.primaryKeyId)) = [key] ∧ key.status = .enabled := by
  obtain ⟨hnodup, key, hmem, hid, hs⟩ := h
  refine ⟨key, ?_, hs⟩
  rw [← hid]
  exact Keyset.filter_keyId hnodup hmem

/-- **Every keyset a manager reaches**: its ids are distinct and its primary key is one ENABLED key; a call that fails
leaves it as it was and one that succeeds changes the key it is about; a DESTROYED key has no data unless it came into the
run with them, and is DESTROYED until it is deleted. -/
theorem keysetManager_run {start keyset : Keyset} {ops : List ManagerOp} (hstart : ManagerStart start)
    (hrun : managerRun start ops = some keyset) :
    keyset.ids.Nodup ∧
    (∃ key, keyset.key.filter (fun key => decide (key.keyId = keyset.primaryKeyId)) = [key] ∧ key.status = .enabled) ∧
    (∀ op e after, managerStep keyset op = some (.error e, after) → after = keyset) ∧
    (∀ op id after, managerStep keyset op = some (.ok id, after) → OnlyChanges op id keyset after) ∧
    (∀ key ∈ keyset.key, key.status = .destroyed → key.keyData = none ∨ key ∈ start.key) ∧
    ∀ keyId later after, Destroyed keyset keyId → managerRun keyset later = some after →
      Destroyed after keyId ∨ ∃ a b mid mid', later = a ++ .delete keyId :: b ∧ managerRun keyset a = some mid ∧
        managerStep mid (.delete keyId) = some (.ok keyId, mid') ∧ keyId ∉ mid'.ids := by
  have hv : keyset.Valid := managerRun_induct (fun h hv => h.valid hv) hrun hstart.valid
  have hdata : ∀ key ∈ keyset.key, key.status = .destroyed → key.keyData = none ∨ key ∈ start.key := by
    refine managerRun_induct (P := fun k => ∀ key ∈ k.key, key.status = .destroyed → key.keyData = none ∨ key ∈ start.key)
      (fun heffect ih key hmem hs => ?_) hrun (fun key hmem _ => .inr hmem)
    rcases heffect.destroyed_data hmem hs with hnone | hmem
    · exact .inl hnone
    · exact ih key hmem hs
  exact ⟨hv.distinct, hv.unique_primary, fun op e after h => managerStep_error h,
    fun op id after h => (managerStep_effect h).onlyChanges, hdata,
    fun keyId later after hd hlater => managerRun_destroyed hlater hv hd⟩

/-- An ENABLED primary key, an ENABLED key, and a key that is DESTROYED and has data. -/
def threeKeys : Keyset :=
  { primaryKeyId := 1,
    key := [⟨some ⟨"a", [1], .symmetric⟩, .enabled, 1, .tink⟩, ⟨some ⟨"a", [2], .symmetric⟩, .enabled, 2, .raw⟩,
            ⟨some ⟨"a", [3], .symmetric⟩, .destroyed, 3, .tink⟩] }

theorem threeKeys_valid : threeKeys.Valid :=
  ⟨by decide, _, List.mem_cons_self .., rfl, rfl⟩

theorem threeKeys_run :
    ∃ keyset, managerRun threeKeys
        [.disable 1, .destroy 2, .enable 2, .rotate ⟨"a", [], .tink⟩ (.ok ⟨"a", [4], .symmetric⟩) [2, 0, 7], .delete 1] =
          some keyset ∧
      keyset.ids = [2, 3, 7] ∧ keyset.ids.Nodup ∧ Destroyed keyset 2 ∧
      ∀ key ∈ keyset.key, key.status = .destroyed → key.keyData = none ∨ key ∈ threeKeys.key := by
  have hrun : managerRun threeKeys
      [.disable 1, .destroy 2, .enable 2, .rotate ⟨"a", [], .tink⟩ (.ok ⟨"a", [4], .symmetric⟩) [2, 0, 7], .delete 1] =
        some ⟨7, [⟨none, .destroyed, 2, .raw⟩, ⟨some ⟨"a", [3], .symmetric⟩, .destroyed, 3, .tink⟩,
                  ⟨some ⟨"a", [4], .symmetric⟩, .enabled, 7, .tink⟩]⟩ := by rfl
  have hkept := keysetManager_run (.inl threeKeys_valid) hrun
  exact ⟨_, hrun, rfl, hkept.1, ⟨_, List.mem_cons_self .., rfl, rfl⟩, hkept.2.2.2.2.1⟩

/-- A key that was DESTROYED with its data when the run started keeps them. -/
theorem destroyed_key_keeps_its_data :
    ¬ ∀ start keyset ops, ManagerStart start → managerRun start ops = some keyset →
        ∀ key ∈ keyset.key, key.status = .destroyed → key.keyData = none := by
  intro h
  have hdata := h threeKeys threeKeys [.enable 2] (.inl threeKeys_valid) rfl
    ⟨some ⟨"a", [3], .symmetric⟩, .destroyed, 3, .tink⟩ (by decide) rfl
  cases hdata

end Tink
