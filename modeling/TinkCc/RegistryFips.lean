import TinkCc.Registry
/-!
# RegistryFips — which managers a registry in FIPS mode can hold

FIPS mode is entered with an empty registry, or with the program, and no call of a registry leaves it again
(`SetFipsRestricted` and `UnSetFipsRestricted`, which set the flag by hand, are left out).  From then on a key type manager is
checked before it is inserted; a legacy key manager is not.
-/
namespace Tink

namespace KeyTypeInfoStore

/-! ## Where an `Info` is from -/

/-- The call has made the `Info` of the type URL. -/
def Call.Made (url : String) (info : Info) : Call → Prop
  | .addKeyTypeManager mode manager _ =>
    checksFips mode manager = .ok () ∧ manager.object = info.manager ∧ manager.keyType = url
  | .addAsymmetricKeyTypeManagers mode privateManager publicManager _ =>
    checksFips mode privateManager = .ok () ∧ checksFips mode publicManager = .ok () ∧
      (privateManager.object = info.manager ∧ privateManager.keyType = url ∨
        publicManager.object = info.manager ∧ publicManager.keyType = url)
  | .addKeyManager manager _ => manager.object = info.manager ∧ manager.keyType = url

/-- The store has an `Info` of the type URL that is the given one but for its flag. -/
def Has (store : KeyTypeInfoStore) (url : String) (info : Info) : Prop :=
  ∃ newKeyAllowed, store.find url = some (info.setNewKeyAllowed newKeyAllowed)

theorem has_of_find {store : KeyTypeInfoStore} {url : String} {info : Info} (h : store.find url = some info) :
    store.Has url info := ⟨info.newKeyAllowed, h⟩

theorem has_of_find_setNewKeyAllowed {store : KeyTypeInfoStore} {typeUrl url : String} {newKeyAllowed : Bool} {info : Info}
    (h : (store.setNewKeyAllowed typeUrl newKeyAllowed).find url = some info) : store.Has url info := by
  rw [find_setNewKeyAllowed] at h
  split at h
  · obtain ⟨old, hold, rfl⟩ := Option.map_eq_some_iff.1 h
    exact ⟨old.newKeyAllowed, hold⟩
  · exact has_of_find h

theorem has_of_find_add {store : KeyTypeInfoStore} {typeUrl url : String} {added info : Info} {newKeyAllowed : Bool}
    (h : (store.add typeUrl added newKeyAllowed).find url = some info) :
    store.Has url info ∨ typeUrl = url ∧ info = added := by
  rw [find_add] at h
  split at h
  · rename_i hurl
    subst hurl
    cases hfind : store.find url with
    | none =>
      rw [hfind] at h
      exact .inr ⟨rfl, (Option.some.inj h).symm⟩
    | some old =>
      rw [hfind] at h
      cases h
      exact .inl ⟨old.newKeyAllowed, hfind⟩
  · exact .inl (has_of_find h)

theorem addPair_made {store : KeyTypeInfoStore} {privateManager publicManager : KeyTypeManager} {newKeyAllowed : Bool}
    {url : String} {info : Info}
    (h : (store.addPair privateManager publicManager newKeyAllowed).2.find url = some info) :
    store.Has url info ∨ (privateManager.object = info.manager ∧ privateManager.keyType = url ∨
      publicManager.object = info.manager ∧ publicManager.keyType = url) := by
  unfold addPair at h
  dsimp only at h
  split at h
  · exact .inl (has_of_find h)
  · exact .inl (has_of_find h)
  · split at h
    · exact .inl (has_of_find h)
    · split at h
      · exact .inl (has_of_find h)
      · exact .inl (has_of_find_setNewKeyAllowed h)
  · rcases has_of_find_add h with ⟨allowed, hfind⟩ | ⟨hurl, rfl⟩
    · rcases has_of_find_add hfind with hhas | ⟨hurl, hinfo⟩
      · exact .inl hhas
      · exact .inr (.inl ⟨(congrArg Info.manager hinfo).symm, hurl⟩)
    · exact .inr (.inr ⟨rfl, hurl⟩)

/-- **An `Info` that a call leaves behind was there, or the call has made it** and its manager has passed the check. -/
theorem step_made {store : KeyTypeInfoStore} {call : Call} {url : String} {info : Info}
    (h : (store.step call).2.find url = some info) : store.Has url info ∨ call.Made url info := by
  cases call with
  | addKeyTypeManager mode manager newKeyAllowed =>
    unfold step addKeyTypeManager at h
    dsimp only at h
    split at h
    · exact .inl (has_of_find h)
    · rename_i hfips
      split at h
      · exact .inl (has_of_find h)
      · rcases has_of_find_add h with hhas | ⟨hurl, rfl⟩
        · exact .inl hhas
        · exact .inr ⟨hfips, rfl, hurl⟩
  | addKeyManager manager newKeyAllowed =>
    unfold step addKeyManager at h
    dsimp only at h
    split at h
    · exact .inl (has_of_find h)
    · split at h
      · exact .inl (has_of_find h)
      · rcases has_of_find_add h with hhas | ⟨hurl, rfl⟩
        · exact .inl hhas
        · exact .inr ⟨rfl, hurl⟩
  | addAsymmetricKeyTypeManagers mode privateManager publicManager newKeyAllowed =>
    unfold step addAsymmetricKeyTypeManagers at h
    dsimp only at h
    split at h
    · exact .inl (has_of_find h)
    · split at h
      · exact .inl (has_of_find h)
      · rename_i hprivate
        split at h
        · exact .inl (has_of_find h)
        · rename_i hpublic
          split at h
          · exact .inl (has_of_find h)
          · split at h
            · exact .inl (has_of_find h)
            · rcases addPair_made h with hhas | hmade
              · exact .inl hhas
              · exact .inr ⟨hprivate, hpublic, hmade⟩

/-- In FIPS mode the check lets in BoringCrypto's primitives only, and those only when BoringSSL has them. -/
theorem checksFips_ok {mode : FipsMode} {manager : KeyTypeManager} (hmode : mode.isFipsModeEnabled = true)
    (h : checksFips mode manager = .ok ()) :
    manager.fipsStatus = .requiresBoringCrypto ∧ mode.isFipsEnabledInSsl = true := by
  unfold checksFips at h
  split at h
  · cases h
  · rename_i hcheck
    unfold checksFipsCompatibility at hcheck
    rw [hmode] at hcheck
    split at hcheck
    · cases hcheck
    · rename_i hstatus
      refine ⟨hstatus, ?_⟩
      cases hssl : mode.isFipsEnabledInSsl with
      | true => rfl
      | false =>
        rw [hssl] at hcheck
        cases hcheck
    · cases hcheck

end KeyTypeInfoStore

/-! ## Runs of a registry -/

namespace Registry
variable {T : KeyTypeInfoStore.TypeIndex → Type}

/-- Each manager that the call registers has the property, with its type URL. -/
def Call.EachManager (Q : String → Nat → Prop) : Call T → Prop
  | .registerKeyManager manager _ => ∀ m, manager = some m → Q m.keyType m.object
  | .registerKeyTypeManager manager _ => ∀ m, manager = some m → Q m.keyType m.object
  | .registerAsymmetricKeyManagers privateManager publicManager _ =>
    ∀ m, privateManager = some m ∨ publicManager = some m → Q m.keyType m.object
  | _ => True

/-- Each type URL has the property, with the manager that is found under it. -/
def EachManager (Q : String → Nat → Prop) (registry : Registry T) : Prop :=
  ∀ url info, registry.keyTypeInfoStore.find url = some info → Q url info.manager

/-- **A property of the managers that are registered is one of those that are found.** -/
theorem EachManager.step {build : FipsBuild} {Q : String → Nat → Prop} {registry : Registry T} (h : EachManager Q registry)
    {call : Call T} (hcall : call.EachManager Q) : EachManager Q (registry.step build call).2 := by
  intro url info hfind
  by_cases hreset : call = .reset
  · subst hreset
    cases hfind
  · rw [step_keyTypeInfoStore build registry hreset] at hfind
    cases hinsertion : call.insertion (registry.fipsMode build) with
    | none =>
      rw [hinsertion] at hfind
      exact h url info hfind
    | some insertion =>
      rw [hinsertion] at hfind
      rcases KeyTypeInfoStore.step_made hfind with ⟨allowed, hold⟩ | hmade
      · exact h url (info.setNewKeyAllowed allowed) hold
      · unfold Call.insertion at hinsertion
        split at hinsertion
        · cases hinsertion
          rw [← hmade.1, ← hmade.2]
          exact hcall _ rfl
        · cases hinsertion
          rw [← hmade.2.1, ← hmade.2.2]
          exact hcall _ rfl
        · cases hinsertion
          rcases hmade.2.2 with ⟨hobject, hurl⟩ | ⟨hobject, hurl⟩
          · rw [← hobject, ← hurl]
            exact hcall _ (.inl rfl)
          · rw [← hobject, ← hurl]
            exact hcall _ (.inr rfl)
        · cases hinsertion

/-- The call registers the key type manager, by itself or in a pair. -/
def Call.Registers (manager : KeyTypeInfoStore.KeyTypeManager) : Call T → Prop
  | .registerKeyTypeManager registered _ => registered = some manager
  | .registerAsymmetricKeyManagers privateManager publicManager _ =>
    privateManager = some manager ∨ publicManager = some manager
  | _ => False

/-- One of the calls has registered the manager of the `Info`: a legacy key manager, or a key type manager whose primitives
are BoringCrypto's, with a BoringSSL that has them. -/
def FipsOrigin (build : FipsBuild) (calls : List (Call T)) (url : String) (info : KeyTypeInfoStore.Info) : Prop :=
  (∃ manager newKeyAllowed, .registerKeyManager (some manager) newKeyAllowed ∈ calls ∧ manager.object = info.manager ∧
    manager.keyType = url) ∨
  build.isFipsEnabledInSsl = true ∧ ∃ manager : KeyTypeInfoStore.KeyTypeManager, (∃ call ∈ calls, call.Registers manager) ∧
    manager.fipsStatus = .requiresBoringCrypto ∧ manager.object = info.manager ∧ manager.keyType = url

theorem FipsOrigin.mono {build : FipsBuild} {calls calls' : List (Call T)} {url : String} {info : KeyTypeInfoStore.Info}
    (hcalls : ∀ call ∈ calls, call ∈ calls') (h : FipsOrigin build calls url info) : FipsOrigin build calls' url info := by
  rcases h with ⟨manager, newKeyAllowed, hmem, hmanager⟩ | ⟨hssl, manager, ⟨call, hmem, hregisters⟩, hmanager⟩
  · exact .inl ⟨manager, newKeyAllowed, hcalls _ hmem, hmanager⟩
  · exact .inr ⟨hssl, manager, ⟨call, hcalls _ hmem, hregisters⟩, hmanager⟩

/-- Every `Info` has an origin, in FIPS mode. -/
def FipsOnly (build : FipsBuild) (calls : List (Call T)) (registry : Registry T) : Prop :=
  registry.isFipsModeEnabled build = true →
    ∀ url info, registry.keyTypeInfoStore.find url = some info → FipsOrigin build calls url info

/-- What a call inserts in FIPS mode has an origin when each of its managers has. -/
theorem FipsOnly.insert {build : FipsBuild} {calls : List (Call T)} {registry : Registry T} {call : KeyTypeInfoStore.Call}
    (h : FipsOnly build calls registry) {last : Call T}
    (hmade : registry.isFipsModeEnabled build = true → ∀ url info, call.Made url info →
      FipsOrigin build (calls ++ [last]) url info) : FipsOnly build (calls ++ [last]) (registry.insert call).2 := by
  intro hmode url info hfind
  rcases KeyTypeInfoStore.step_made hfind with ⟨allowed, hold⟩ | hnew
  · exact (h hmode url _ hold).mono fun _ hmem => List.mem_append_left _ hmem
  · exact hmade hmode url info hnew

theorem FipsOnly.skip {build : FipsBuild} {calls : List (Call T)} {registry : Registry T} (h : FipsOnly build calls registry)
    (last : Call T) : FipsOnly build (calls ++ [last]) registry :=
  fun hmode url info hfind => (h hmode url info hfind).mono fun _ hmem => List.mem_append_left _ hmem

/-- **One call keeps the origins.** -/
theorem FipsOnly.step {build : FipsBuild} {calls : List (Call T)} {registry : Registry T} (h : FipsOnly build calls registry)
    (call : Call T) : FipsOnly build (calls ++ [call]) (registry.step build call).2 := by
  have hlast : call ∈ calls ++ [call] := List.mem_append_right _ (List.mem_singleton_self _)
  cases call with
  | registerKeyManager manager newKeyAllowed =>
    cases manager with
    | none => exact h.skip _
    | some manager => exact h.insert fun _ url info hmade => .inl ⟨manager, newKeyAllowed, hlast, hmade⟩
  | registerKeyTypeManager manager newKeyAllowed =>
    cases manager with
    | none => exact h.skip _
    | some manager =>
      refine h.insert fun hmode url info hmade => .inr ?_
      obtain ⟨hcheck, hmanager⟩ := hmade
      obtain ⟨hstatus, hssl⟩ := KeyTypeInfoStore.checksFips_ok hmode hcheck
      exact ⟨hssl, manager, ⟨_, hlast, rfl⟩, hstatus, hmanager⟩
  | registerAsymmetricKeyManagers privateManager publicManager newKeyAllowed =>
    cases privateManager with
    | none => exact h.skip _
    | some privateManager =>
      cases publicManager with
      | none => exact h.skip _
      | some publicManager =>
        refine h.insert fun hmode url info hmade => .inr ?_
        obtain ⟨hprivate, hpublic, hmanager⟩ := hmade
        obtain ⟨hprivateStatus, hssl⟩ := KeyTypeInfoStore.checksFips_ok hmode hprivate
        obtain ⟨hpublicStatus, -⟩ := KeyTypeInfoStore.checksFips_ok hmode hpublic
        rcases hmanager with hmanager | hmanager
        · exact ⟨hssl, privateManager, ⟨_, hlast, .inl rfl⟩, hprivateStatus, hmanager⟩
        · exact ⟨hssl, publicManager, ⟨_, hlast, .inr rfl⟩, hpublicStatus, hmanager⟩
  | registerPrimitiveWrapper wrapper => exact h.skip _
  | registerMonitoringClientFactory factory =>
    have hstore : ((registry.step build (.registerMonitoringClientFactory factory)).2).keyTypeInfoStore =
        registry.keyTypeInfoStore ∧ ((registry.step build (.registerMonitoringClientFactory factory)).2).isFipsRestricted =
        registry.isFipsRestricted := by
      unfold Registry.step registerMonitoringClientFactory
      cases factory with
      | none => exact ⟨rfl, rfl⟩
      | some factory =>
        dsimp only
        split
        · exact ⟨rfl, rfl⟩
        · exact ⟨rfl, rfl⟩
    intro hmode url info hfind
    rw [hstore.1] at hfind
    unfold isFipsModeEnabled at hmode
    rw [hstore.2] at hmode
    exact h.skip _ hmode url info hfind
  | restrictToFipsIfEmpty =>
    unfold Registry.step restrictToFipsIfEmpty
    dsimp only
    split
    · exact h.skip _
    · split
      · -- FIPS mode starts with an empty store
        rename_i hempty
        intro _ url info hfind
        unfold KeyTypeInfoStore.isEmpty at hempty
        unfold KeyTypeInfoStore.find at hfind
        rw [List.isEmpty_iff.1 hempty] at hfind
        cases hfind
      · exact h.skip _
  | reset =>
    intro _ url info hfind
    cases hfind

theorem FipsOnly.run {build : FipsBuild} : ∀ (later calls : List (Call T)) {registry : Registry T},
    FipsOnly build calls registry → FipsOnly build (calls ++ later) (registry.run build later)
  | [], calls, registry, h => by
    rw [List.append_nil]
    exact h
  | call :: later, calls, registry, h => by
    have hrun := FipsOnly.run later (calls ++ [call]) (h.step call)
    rw [List.append_assoc] at hrun
    exact hrun

/-- A call does not leave FIPS mode, `Reset` neither. -/
theorem step_isFipsModeEnabled {build : FipsBuild} {registry : Registry T} (call : Call T)
    (h : registry.isFipsModeEnabled build = true) : (registry.step build call).2.isFipsModeEnabled build = true := by
  unfold isFipsModeEnabled at h ⊢
  rw [Bool.or_eq_true] at h ⊢
  rcases h with hbuild | hflag
  · exact .inl hbuild
  · refine .inr ?_
    by_cases hreset : call = .reset
    · rw [hreset]
      exact hflag
    · exact (step_extends hreset).isFipsRestricted hflag

theorem run_isFipsModeEnabled {build : FipsBuild} : ∀ (calls : List (Call T)) {registry : Registry T},
    registry.isFipsModeEnabled build = true → (registry.run build calls).isFipsModeEnabled build = true
  | [], _, h => h
  | call :: calls, _, h => run_isFipsModeEnabled calls (step_isFipsModeEnabled call h)

/-- **A registry in FIPS mode stays in it, and all its managers were checked for it, but for legacy key managers**: whatever
calls were made before and after FIPS mode was entered. -/
theorem registry_fips (build : FipsBuild) (calls : List (Call T))
    (hmode : (run build ({} : Registry T) calls).isFipsModeEnabled build = true) (later : List (Call T)) :
    (run build ({} : Registry T) (calls ++ later)).isFipsModeEnabled build = true ∧
    ∀ url info, (run build ({} : Registry T) (calls ++ later)).keyTypeInfoStore.find url = some info →
      FipsOrigin build (calls ++ later) url info := by
  have happend : run build ({} : Registry T) (calls ++ later) = (run build {} calls).run build later := List.foldl_append
  have hlater : (run build ({} : Registry T) (calls ++ later)).isFipsModeEnabled build = true := by
    rw [happend]
    exact run_isFipsModeEnabled later hmode
  have honly : FipsOnly build ([] ++ (calls ++ later)) (run build ({} : Registry T) (calls ++ later)) :=
    FipsOnly.run _ [] fun _ url info hfind => by cases hfind
  exact ⟨hlater, honly hlater⟩

/-- FIPS mode, before anything is registered. -/
def restrictFirst : List (Call fun _ => Nat) := [.restrictToFipsIfEmpty]

def thenRegister : List (Call fun _ => Nat) := [.registerKeyTypeManager (some aesGcmKeyManager) true]

theorem registry_fips_restrictFirst :
    (run ⟨false, true⟩ {} (restrictFirst ++ thenRegister)).isFipsModeEnabled ⟨false, true⟩ = true ∧
    ∀ url info, (run ⟨false, true⟩ {} (restrictFirst ++ thenRegister)).keyTypeInfoStore.find url = some info →
      FipsOrigin ⟨false, true⟩ (restrictFirst ++ thenRegister) url info :=
  registry_fips ⟨false, true⟩ restrictFirst rfl thenRegister

end Registry

end Tink
