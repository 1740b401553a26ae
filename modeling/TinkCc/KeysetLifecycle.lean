import TinkCc.KeysetManager
import TinkCc.RegistryFips
import TinkCc.SetWrapper
/-!
# KeysetLifecycle — a keyset, its manager and the registry, over a whole run

New keys come from the registry (`KeysetHandle::AddToKeyset` in global registry mode), keys are managed by a
`KeysetManager`, and the keyset is wrapped at any time, while the registry goes on being filled.  What the keyset's primary
key made is accepted as long as that key is ENABLED.
-/
namespace Tink

open KeyTypeInfoStore (TypeIndex)
open Monitoring (ClientFactory Clients wrapBoth wrapBoth_ok wrapBoth_total)

/-! ## Worlds -/

/-- The global registry and a keyset. -/
structure World (T : TypeIndex → Type) where
  registry : Registry T
  keyset   : Keyset

/-- A call of the registry or of the manager; `random` is what the key factory draws, `draws` are the ids drawn. -/
inductive Event (T : TypeIndex → Type)
  | register (call : Registry.Call T)
  | add (keyTemplate : KeyTemplate) (random : Bytes) (draws : List UInt32)
  | rotate (keyTemplate : KeyTemplate) (random : Bytes) (draws : List UInt32)
  | enable (keyId : UInt32)
  | disable (keyId : UInt32)
  | delete (keyId : UInt32)
  | destroy (keyId : UInt32)
  | setPrimary (keyId : UInt32)

namespace World
variable {T : TypeIndex → Type} {ρ : Type}

/-- A call of the manager. -/
def manage (w : World T) (op : ManagerOp) : Option (World T) :=
  (managerStep w.keyset op).map fun r => { w with keyset := r.2 }

def step (build : FipsBuild) (objects : ManagerObjects T ρ) (w : World T) : Event T → Option (World T)
  | .register call => some { w with registry := (w.registry.step build call).2 }
  | .add keyTemplate random draws => w.manage (.add keyTemplate (w.registry.newKeyData objects random keyTemplate) draws)
  | .rotate keyTemplate random draws =>
    w.manage (.rotate keyTemplate (w.registry.newKeyData objects random keyTemplate) draws)
  | .enable keyId => w.manage (.enable keyId)
  | .disable keyId => w.manage (.disable keyId)
  | .delete keyId => w.manage (.delete keyId)
  | .destroy keyId => w.manage (.destroy keyId)
  | .setPrimary keyId => w.manage (.setPrimary keyId)

/-- The world after some events; `none` if one of them does not return. -/
def run (build : FipsBuild) (objects : ManagerObjects T ρ) (w : World T) : List (Event T) → Option (World T)
  | [] => some w
  | event :: events => (w.step build objects event).bind fun w => w.run build objects events

/-! ## Managers and templates of one kind -/

/-- The managers of the type URLs make keys of their type, and primitives `p` of these that belong together. -/
structure MakesPrimitives (objects : ManagerObjects T ρ) (keyType : Nat → String) (p : TypeIndex) (urls : String → Prop)
    (correct : T p → T p → Prop) : Prop where
  printable : ∀ url, urls url → isPrintableAscii url = true
  supports  : ∀ manager, urls (keyType manager) → p ∈ objects.primitives manager
  newKey    : ∀ manager, urls (keyType manager) → ∀ random format keyData,
    objects.newKeyData manager random format = .ok keyData → keyData.typeUrl = keyType manager ∧
      ∃ primitive, objects.getPrimitive manager p keyData = .ok (some primitive)
  correct   : ∀ manager, urls (keyType manager) → ∀ keyData primitive,
    objects.getPrimitive manager p keyData = .ok (some primitive) → correct primitive primitive

/-- The managers that the call registers have the key types that they have anywhere. -/
def HasKeyTypes (keyType : Nat → String) : Registry.Call T → Prop
  | .registerKeyManager manager _ => ∀ m, manager = some m → keyType m.object = m.keyType
  | .registerKeyTypeManager manager _ => ∀ m, manager = some m → keyType m.object = m.keyType
  | .registerAsymmetricKeyManagers privateManager publicManager _ =>
    ∀ m, privateManager = some m ∨ publicManager = some m → keyType m.object = m.keyType
  | _ => True

/-- A prefix type that keys of a keyset have. -/
def HasPrefixType (outputPrefixType : OutputPrefixType) : Prop :=
  outputPrefixType ∈ [OutputPrefixType.tink, .legacy, .raw, .crunchy]

/-- New keys are of the type URLs, and the registry is not reset. -/
def Suits (keyType : Nat → String) (urls : String → Prop) : Event T → Prop
  | .register call => call ≠ .reset ∧ HasKeyTypes keyType call
  | .add keyTemplate _ _ => urls keyTemplate.typeUrl ∧ HasPrefixType keyTemplate.outputPrefixType
  | .rotate keyTemplate _ _ => urls keyTemplate.typeUrl ∧ HasPrefixType keyTemplate.outputPrefixType
  | _ => True

/-- The managers of the registry are found under their key types. -/
def Filed (keyType : Nat → String) (registry : Registry T) : Prop :=
  ∀ url info, registry.keyTypeInfoStore.find url = some info → keyType info.manager = url

/-- The registry makes a primitive `p` of the key. -/
structure Usable (objects : ManagerObjects T ρ) (keyType : Nat → String) (p : TypeIndex) (urls : String → Prop)
    (registry : Registry T) (key : KeysetKey) : Prop where
  prefixType : HasPrefixType key.outputPrefixType
  made       : ∃ keyData info primitive, key.keyData = some keyData ∧ urls keyData.typeUrl ∧
    registry.getKeyTypeInfo keyData.typeUrl = .ok info ∧ keyType info.manager = keyData.typeUrl ∧
    objects.getPrimitive info.manager p keyData = .ok (some primitive)

/-- **What holds of every world**: the keyset has distinct ids and an ENABLED primary key, and the registry makes primitives
of all keys that are ENABLED or DISABLED. -/
structure Ready (objects : ManagerObjects T ρ) (keyType : Nat → String) (p : TypeIndex) (urls : String → Prop)
    (w : World T) : Prop where
  filed  : Filed keyType w.registry
  valid  : w.keyset.Valid
  usable : ∀ key ∈ w.keyset.key, key.status ∈ [KeyStatusType.enabled, .disabled] →
    Usable objects keyType p urls w.registry key

variable {objects : ManagerObjects T ρ} {keyType : Nat → String} {p : TypeIndex} {urls : String → Prop}
  {correct : T p → T p → Prop} {build : FipsBuild}

/-! ## The registry goes on -/

theorem Filed.step {registry : Registry T} (h : Filed keyType registry) {call : Registry.Call T}
    (htypes : HasKeyTypes keyType call) : Filed keyType (registry.step build call).2 := by
  refine Registry.EachManager.step (Q := fun url manager => keyType manager = url) h ?_
  cases call with
  | registerKeyManager manager newKeyAllowed => exact htypes
  | registerKeyTypeManager manager newKeyAllowed => exact htypes
  | registerAsymmetricKeyManagers privateManager publicManager newKeyAllowed => exact htypes
  | registerPrimitiveWrapper wrapper => exact htypes
  | registerMonitoringClientFactory factory => exact htypes
  | restrictToFipsIfEmpty => exact htypes
  | reset => exact htypes

theorem Usable.extends {registry registry' : Registry T} {key : KeysetKey}
    (h : Usable objects keyType p urls registry key) (hext : registry.Extends registry') :
    Usable objects keyType p urls registry' key := by
  obtain ⟨keyData, info, primitive, hdata, hurl, hget, htype, hprimitive⟩ := h.made
  obtain ⟨newKeyAllowed, hget', -⟩ := hext.getKeyTypeInfo hget
  exact ⟨h.prefixType, keyData, _, primitive, hdata, hurl, hget', htype, hprimitive⟩

/-! ## The keyset goes on -/

/-- A key that is ENABLED or DISABLED after a call was so before, with the same contents, or the call has added it. -/
theorem effect_usable {before after : Keyset} {op : ManagerOp} {id : UInt32} (h : Effect before op id after)
    {key : KeysetKey} (hmem : key ∈ after.key) (hstatus : key.status ∈ [KeyStatusType.enabled, .disabled]) :
    (∃ old ∈ before.key, old.status ∈ [KeyStatusType.enabled, .disabled] ∧ old.keyData = key.keyData ∧
      old.outputPrefixType = key.outputPrefixType) ∨
    ∃ keyTemplate keyData draws, (op = .add keyTemplate (.ok keyData) draws ∨ op = .rotate keyTemplate (.ok keyData) draws) ∧
      key.keyData = some keyData ∧ key.outputPrefixType = keyTemplate.outputPrefixType := by
  cases h with
  | @add p keys t d draws id hid =>
    rcases List.mem_append.1 hmem with hmem | hmem
    · exact .inl ⟨key, hmem, hstatus, rfl, rfl⟩
    · rw [List.mem_singleton.1 hmem]
      exact .inr ⟨t, d, draws, .inl rfl, rfl, rfl⟩
  | @rotate p keys t d draws id hid =>
    rcases List.mem_append.1 hmem with hmem | hmem
    · exact .inl ⟨key, hmem, hstatus, rfl, rfl⟩
    · rw [List.mem_singleton.1 hmem]
      exact .inr ⟨t, d, draws, .inr rfl, rfl, rfl⟩
  | @enable p l old r hl hs =>
    rcases mem_of_replace hmem with rfl | hmem
    · exact .inl ⟨old, List.mem_append_right _ (List.mem_cons_self ..), by simpa [or_comm] using hs, rfl, rfl⟩
    · exact .inl ⟨key, hmem, hstatus, rfl, rfl⟩
  | @disable p l old r hp hl hs =>
    rcases mem_of_replace hmem with rfl | hmem
    · exact .inl ⟨old, List.mem_append_right _ (List.mem_cons_self ..), by simpa [or_comm] using hs, rfl, rfl⟩
    · exact .inl ⟨key, hmem, hstatus, rfl, rfl⟩
  | @delete p l old r hp hl =>
    refine .inl ⟨key, ?_, hstatus, rfl, rfl⟩
    rcases List.mem_append.1 hmem with hmem | hmem
    · exact List.mem_append_left _ hmem
    · exact List.mem_append_right _ (List.mem_cons_of_mem _ hmem)
  | @destroy p l old r hp hl hs =>
    rcases mem_of_replace hmem with rfl | hmem
    · simp at hstatus
    · exact .inl ⟨key, hmem, hstatus, rfl, rfl⟩
  | setPrimary hl hs => exact .inl ⟨key, hmem, hstatus, rfl, rfl⟩

/-- The key is in the keyset, perhaps with another status. -/
def Kept (key : KeysetKey) (keyset : Keyset) : Prop :=
  ∃ kept ∈ keyset.key, kept.keyId = key.keyId ∧ kept.keyData = key.keyData ∧ kept.outputPrefixType = key.outputPrefixType

/-- A key that a call does not delete or destroy is still in the keyset. -/
theorem effect_kept {before after : Keyset} {op : ManagerOp} {id : UInt32} (h : Effect before op id after) {key : KeysetKey}
    (hdelete : op ≠ .delete key.keyId) (hdestroy : op ≠ .destroy key.keyId) (hkept : Kept key before) :
    Kept key after := by
  obtain ⟨kept, hmem, hid, hdata, htype⟩ := hkept
  -- the key that a call replaces by one with the same contents
  have hreplace : ∀ {p : UInt32} {l r : List KeysetKey} {old new : KeysetKey}, kept ∈ l ++ old :: r →
      new.keyId = old.keyId → new.keyData = old.keyData → new.outputPrefixType = old.outputPrefixType →
      Kept key ⟨p, l ++ new :: r⟩ := by
    intro p l r old new hmem hnewId hnewData hnewType
    rcases mem_of_replace hmem with heq | hrest
    · refine ⟨new, List.mem_append_right _ (List.mem_cons_self ..), ?_, ?_, ?_⟩
      · rw [hnewId, ← heq, hid]
      · rw [hnewData, ← heq, hdata]
      · rw [hnewType, ← heq, htype]
    · exact ⟨kept, hrest, hid, hdata, htype⟩
  cases h with
  | add hnew => exact ⟨kept, List.mem_append_left _ hmem, hid, hdata, htype⟩
  | rotate hnew => exact ⟨kept, List.mem_append_left _ hmem, hid, hdata, htype⟩
  | enable hl hs => exact hreplace hmem rfl rfl rfl
  | disable hp hl hs => exact hreplace hmem rfl rfl rfl
  | @delete p l old r hp hl =>
    refine ⟨kept, ?_, hid, hdata, htype⟩
    rcases List.mem_append.1 hmem with hmem | hmem
    · exact List.mem_append_left _ hmem
    · rcases List.mem_cons.1 hmem with rfl | hmem
      · exact absurd (congrArg ManagerOp.delete hid) hdelete
      · exact List.mem_append_right _ hmem
  | @destroy p l old r hp hl hs =>
    rcases List.mem_append.1 hmem with hmem | hmem
    · exact ⟨kept, List.mem_append_left _ hmem, hid, hdata, htype⟩
    · rcases List.mem_cons.1 hmem with rfl | hmem
      · exact absurd (congrArg ManagerOp.destroy hid) hdestroy
      · exact ⟨kept, List.mem_append_right _ (List.mem_cons_of_mem _ hmem), hid, hdata, htype⟩
  | setPrimary hl hs => exact ⟨kept, hmem, hid, hdata, htype⟩

/-- **A call of the manager**: it changes nothing, or has an effect on the keyset. -/
theorem manage_cases {w w' : World T} {op : ManagerOp} (h : w.manage op = some w') :
    w' = w ∨ w'.registry = w.registry ∧ ∃ id, Effect w.keyset op id w'.keyset := by
  unfold manage at h
  obtain ⟨⟨result, keyset⟩, hstep, rfl⟩ := Option.map_eq_some_iff.1 h
  cases result with
  | error e =>
    rw [managerStep_error hstep]
    exact .inl rfl
  | ok id => exact .inr ⟨rfl, id, managerStep_effect hstep⟩

/-- A new key that a call can add is one of which the registry makes a primitive. -/
def AddsUsable (objects : ManagerObjects T ρ) (keyType : Nat → String) (p : TypeIndex) (urls : String → Prop)
    (registry : Registry T) (op : ManagerOp) : Prop :=
  ∀ keyTemplate keyData draws, op = .add keyTemplate (.ok keyData) draws ∨ op = .rotate keyTemplate (.ok keyData) draws →
    ∀ key : KeysetKey, key.keyData = some keyData → key.outputPrefixType = keyTemplate.outputPrefixType →
      Usable objects keyType p urls registry key

theorem Ready.manage {w w' : World T} (h : Ready objects keyType p urls w) {op : ManagerOp}
    (hadds : AddsUsable objects keyType p urls w.registry op) (hstep : w.manage op = some w') :
    Ready objects keyType p urls w' := by
  rcases manage_cases hstep with rfl | ⟨hregistry, id, heffect⟩
  · exact h
  · refine ⟨?_, heffect.valid h.valid, fun key hmem hstatus => ?_⟩
    · rw [hregistry]
      exact h.filed
    · rw [hregistry]
      rcases effect_usable heffect hmem hstatus with ⟨old, hold, holdStatus, hdata, htype⟩ | ⟨t, d, draws, hop, hdata, htype⟩
      · obtain ⟨hprefixType, keyData, info, primitive, hsome, hrest⟩ := h.usable old hold holdStatus
        rw [htype] at hprefixType
        rw [hdata] at hsome
        exact ⟨hprefixType, keyData, info, primitive, hsome, hrest⟩
      · exact hadds t d draws hop key hdata htype

/-- What the registry makes of a template of one of the type URLs is usable. -/
theorem newKeyData_usable (hmakes : MakesPrimitives objects keyType p urls correct) {registry : Registry T}
    (hfiled : Filed keyType registry) {keyTemplate : KeyTemplate} (hurl : urls keyTemplate.typeUrl)
    (htype : HasPrefixType keyTemplate.outputPrefixType) {random : Bytes} {keyData : KeyData}
    (hnew : registry.newKeyData objects random keyTemplate = .ok keyData) {key : KeysetKey}
    (hdata : key.keyData = some keyData) (hprefixType : key.outputPrefixType = keyTemplate.outputPrefixType) :
    Usable objects keyType p urls registry key := by
  unfold Registry.newKeyData Registry.getKeyTypeInfo KeyTypeInfoStore.get at hnew
  cases hfind : registry.keyTypeInfoStore.find keyTemplate.typeUrl with
  | none =>
    rw [hfind] at hnew
    cases hnew
  | some info =>
    rw [hfind] at hnew
    dsimp only at hnew
    split at hnew
    · cases hnew
    · have hmanager : keyType info.manager = keyTemplate.typeUrl := hfiled _ _ hfind
      have hurls : urls (keyType info.manager) := by
        rw [hmanager]
        exact hurl
      obtain ⟨htypeUrl, primitive, hprimitive⟩ := hmakes.newKey _ hurls _ _ _ hnew
      have hsame : keyData.typeUrl = keyTemplate.typeUrl := htypeUrl.trans hmanager
      refine ⟨hprefixType ▸ htype, keyData, info, primitive, hdata, hsame ▸ hurl, ?_, htypeUrl.symm, hprimitive⟩
      unfold Registry.getKeyTypeInfo KeyTypeInfoStore.get
      rw [hsame, hfind]

theorem addsUsable_named {registry : Registry T} {op : ManagerOp} (h : op.keyId ≠ none) :
    AddsUsable objects keyType p urls registry op := by
  rintro t d draws (rfl | rfl)
  · exact absurd rfl h
  · exact absurd rfl h

/-- **One event keeps a world ready.** -/
theorem Ready.step (hmakes : MakesPrimitives objects keyType p urls correct) {w w' : World T}
    (h : Ready objects keyType p urls w) {event : Event T} (hsuits : Suits keyType urls event)
    (hstep : w.step build objects event = some w') :
    Ready objects keyType p urls w' := by
  have hnew : ∀ {t : KeyTemplate} {random : Bytes} {d : KeyData}, urls t.typeUrl → HasPrefixType t.outputPrefixType →
      w.registry.newKeyData objects random t = .ok d → ∀ key : KeysetKey, key.keyData = some d →
      key.outputPrefixType = t.outputPrefixType → Usable objects keyType p urls w.registry key :=
    fun hurl htype hok _ => newKeyData_usable hmakes h.filed hurl htype hok
  cases event with
  | register call =>
    cases hstep
    exact ⟨h.filed.step hsuits.2, h.valid,
      fun key hmem hstatus => (h.usable key hmem hstatus).extends (Registry.step_extends hsuits.1)⟩
  | add keyTemplate random draws =>
    refine h.manage ?_ hstep
    rintro t d ids (hop | hop)
    · injection hop with ht hd
      rw [← ht]
      exact hnew hsuits.1 hsuits.2 hd
    · cases hop
  | rotate keyTemplate random draws =>
    refine h.manage ?_ hstep
    rintro t d ids (hop | hop)
    · cases hop
    · injection hop with ht hd
      rw [← ht]
      exact hnew hsuits.1 hsuits.2 hd
  | enable keyId => exact h.manage (addsUsable_named (by simp [ManagerOp.keyId])) hstep
  | disable keyId => exact h.manage (addsUsable_named (by simp [ManagerOp.keyId])) hstep
  | delete keyId => exact h.manage (addsUsable_named (by simp [ManagerOp.keyId])) hstep
  | destroy keyId => exact h.manage (addsUsable_named (by simp [ManagerOp.keyId])) hstep
  | setPrimary keyId => exact h.manage (addsUsable_named (by simp [ManagerOp.keyId])) hstep

theorem Ready.run (hmakes : MakesPrimitives objects keyType p urls correct) :
    ∀ {events : List (Event T)} {w w' : World T}, Ready objects keyType p urls w →
      (∀ event ∈ events, Suits keyType urls event) → w.run build objects events = some w' →
      Ready objects keyType p urls w'
  | [], _, _, h, _, hrun => by
    cases hrun
    exact h
  | event :: events, w, w', h, hsuits, hrun => by
    obtain ⟨mid, hstep, hrest⟩ := Option.bind_eq_some_iff.1 hrun
    exact Ready.run hmakes (h.step hmakes (hsuits event (List.mem_cons_self ..)) hstep)
      (fun e he => hsuits e (List.mem_cons_of_mem _ he)) hrest

theorem run_extends : ∀ {events : List (Event T)} {w w' : World T}, (∀ event ∈ events, Suits keyType urls event) →
    w.run build objects events = some w' → w.registry.Extends w'.registry
  | [], w, w', _, hrun => by
    cases hrun
    exact .refl _
  | event :: events, w, w', hsuits, hrun => by
    obtain ⟨mid, hstep, hrest⟩ := Option.bind_eq_some_iff.1 hrun
    have hsuit := hsuits event (List.mem_cons_self ..)
    have hsame : ∀ {op : ManagerOp}, w.manage op = some mid → w.registry.Extends mid.registry := by
      intro op hmanage
      rcases manage_cases hmanage with rfl | ⟨hregistry, -⟩
      · exact .refl _
      · rw [hregistry]
        exact .refl _
    have hfirst : w.registry.Extends mid.registry := by
      cases event with
      | register call =>
        cases hstep
        exact Registry.step_extends hsuit.1
      | add keyTemplate random draws => exact hsame hstep
      | rotate keyTemplate random draws => exact hsame hstep
      | enable keyId => exact hsame hstep
      | disable keyId => exact hsame hstep
      | delete keyId => exact hsame hstep
      | destroy keyId => exact hsame hstep
      | setPrimary keyId => exact hsame hstep
    exact hfirst.trans (run_extends (fun e he => hsuits e (List.mem_cons_of_mem _ he)) hrest)

/-- No event deletes or destroys the key. -/
def Spares (keyId : UInt32) (events : List (Event T)) : Prop :=
  ∀ event ∈ events, event ≠ .delete keyId ∧ event ≠ .destroy keyId

theorem run_kept {key : KeysetKey} : ∀ {events : List (Event T)} {w w' : World T}, Spares key.keyId events →
    w.run build objects events = some w' → Kept key w.keyset → Kept key w'.keyset
  | [], _, _, _, hrun, h => by
    cases hrun
    exact h
  | event :: events, w, w', hspares, hrun, h => by
    obtain ⟨mid, hstep, hrest⟩ := Option.bind_eq_some_iff.1 hrun
    obtain ⟨hdelete, hdestroy⟩ := hspares event (List.mem_cons_self ..)
    have hkept : ∀ {op : ManagerOp}, op ≠ .delete key.keyId → op ≠ .destroy key.keyId → w.manage op = some mid →
        Kept key mid.keyset := by
      intro op hop hop' hmanage
      rcases manage_cases hmanage with rfl | ⟨-, id, heffect⟩
      · exact h
      · exact effect_kept heffect hop hop' h
    have hmid : Kept key mid.keyset := by
      cases event with
      | register call =>
        cases hstep
        exact h
      | add keyTemplate random draws => exact hkept (by simp) (by simp) hstep
      | rotate keyTemplate random draws => exact hkept (by simp) (by simp) hstep
      | enable keyId => exact hkept (by simp) (by simp) hstep
      | disable keyId => exact hkept (by simp) (by simp) hstep
      | delete keyId => exact hkept (fun heq => hdelete (by injection heq with hid; rw [hid])) (by simp) hstep
      | destroy keyId => exact hkept (by simp) (fun heq => hdestroy (by injection heq with hid; rw [hid])) hstep
      | setPrimary keyId => exact hkept (by simp) (by simp) hstep
    exact run_kept (fun e he => hspares e (List.mem_cons_of_mem _ he)) hrest hmid

/-! ## A ready world wraps its keyset -/

theorem validateKeysetLoop_total {primaryKeyId : UInt32} :
    ∀ {keys : List KeysetKey} {scan : KeysetScan}, (∀ key ∈ enabledKeys keys, validateKey key = .ok ()) →
      ((enabledKeys keys).filter fun key => decide (key.keyId = primaryKeyId)).length + scan.hasPrimaryKey.toNat ≤ 1 →
      ∃ scan', validateKeysetLoop primaryKeyId keys scan = .ok scan'
  | [], scan, _, _ => ⟨scan, rfl⟩
  | key :: keys, scan, hvalid, hcount => by
    unfold validateKeysetLoop
    by_cases henabled : key.isEnabled = true
    · have hcons : enabledKeys (key :: keys) = key :: enabledKeys keys := List.filter_cons_of_pos henabled
      rw [hcons] at hvalid hcount
      rw [if_pos henabled, hvalid key (List.mem_cons_self ..)]
      dsimp only
      have hrest : ∀ k ∈ enabledKeys keys, validateKey k = .ok () := fun k hk => hvalid k (List.mem_cons_of_mem _ hk)
      by_cases hid : key.keyId = primaryKeyId
      · rw [List.filter_cons_of_pos (by simpa using hid), List.length_cons] at hcount
        have hfirst : scan.hasPrimaryKey = false := by
          cases hhas : scan.hasPrimaryKey with
          | false => rfl
          | true =>
            rw [hhas, Bool.toNat_true] at hcount
            omega
        rw [if_neg (by simp [hfirst])]
        refine validateKeysetLoop_total hrest ?_
        rw [hfirst, Bool.toNat_false] at hcount
        simp only [hid, hfirst, decide_true, Bool.or_true, Bool.toNat_true]
        omega
      · rw [List.filter_cons_of_neg (by simpa using hid)] at hcount
        rw [if_neg (fun h => hid h.1)]
        refine validateKeysetLoop_total hrest ?_
        simpa [hid] using hcount
    · have hcons : enabledKeys (key :: keys) = enabledKeys keys := List.filter_cons_of_neg henabled
      rw [hcons] at hvalid hcount
      rw [if_neg henabled]
      exact validateKeysetLoop_total hvalid hcount

theorem mem_enabledKeys {keys : List KeysetKey} {key : KeysetKey} :
    key ∈ enabledKeys keys ↔ key ∈ keys ∧ key.status = .enabled := by
  unfold enabledKeys KeysetKey.isEnabled
  rw [List.mem_filter, decide_eq_true_eq]

/-- A keyset with distinct ids and an ENABLED primary key is accepted when its ENABLED keys are. -/
theorem validateKeyset_of_valid {keyset : Keyset} (hvalid : keyset.Valid)
    (hkeys : ∀ key ∈ enabledKeys keyset.key, validateKey key = .ok ()) : validateKeyset keyset = .ok () := by
  obtain ⟨primary, hone, hstatus⟩ := hvalid.unique_primary
  have hprimary : (enabledKeys keyset.key).filter (fun key => decide (key.keyId = keyset.primaryKeyId)) = [primary] := by
    unfold enabledKeys
    rw [List.filter_filter, List.filter_congr fun _ _ => Bool.and_comm _ _, ← List.filter_filter, hone,
      List.filter_cons_of_pos (by simpa [KeysetKey.isEnabled] using hstatus), List.filter_nil]
  obtain ⟨scan, hscan⟩ : ∃ scan, validateKeysetLoop keyset.primaryKeyId keyset.key {} = .ok scan := by
    refine validateKeysetLoop_total hkeys ?_
    rw [hprimary]
    simp
  obtain ⟨hcount, hhas, -⟩ := validateKeysetLoop_ok hscan
  have hmem : primary ∈ enabledKeys keyset.key := by
    have : primary ∈ (enabledKeys keyset.key).filter (fun key => decide (key.keyId = keyset.primaryKeyId)) := by
      rw [hprimary]
      exact List.mem_singleton_self _
    exact (List.mem_filter.1 this).1
  have hpositive : 0 < (enabledKeys keyset.key).length := List.length_pos_of_mem hmem
  have hlength : ¬ keyset.key.length < 1 := by
    have := List.length_pos_of_mem (mem_enabledKeys.1 hmem).1
    omega
  have hprimaryKey : scan.hasPrimaryKey = true := by
    rw [hprimary] at hhas
    cases h : scan.hasPrimaryKey with
    | true => rfl
    | false =>
      rw [h] at hhas
      simp at hhas
  unfold validateKeyset
  rw [if_neg hlength, hscan]
  dsimp only
  have henabled : scan.enabledKeys ≠ 0 := by
    rw [hcount]
    dsimp only
    omega
  rw [if_neg henabled, hprimaryKey]
  rfl

variable {Key : Type} {parseKey : ProtoKeySerialization → Except Status Key}

/-- The primitive that the registry makes of a usable key. -/
theorem Usable.primitive (hmakes : MakesPrimitives objects keyType p urls correct) {registry : Registry T} {key : KeysetKey}
    (h : Usable objects keyType p urls registry key) :
    ∃ primitive, primitiveForKey (registry.getters objects parseKey p) key = .ok (some primitive) ∧
      correct primitive primitive := by
  obtain ⟨keyData, info, primitive, hdata, hurl, hget, htype, hprimitive⟩ := h.made
  have hurls : urls (keyType info.manager) := by
    rw [htype]
    exact hurl
  refine ⟨primitive, ?_, hmakes.correct _ hurls _ _ hprimitive⟩
  have hkeyData : key.getKeyData = keyData := by
    unfold KeysetKey.getKeyData
    rw [hdata]
    rfl
  rw [Registry.primitiveForKey_getters, hkeyData]
  obtain ⟨serialization, hcreate⟩ : ∃ serialization, ProtoKeySerialization.create keyData.typeUrl keyData.value
      keyData.keyMaterialType .raw none = .ok serialization := by
    unfold ProtoKeySerialization.create
    rw [dif_pos (hmakes.printable _ hurl)]
    exact ⟨_, rfl⟩
  rw [hcreate]
  unfold Registry.getPrimitive KeyTypeInfoStore.Info.getPrimitive KeyTypeInfoStore.Info.getKeyManager
  rw [hget]
  dsimp only
  rw [if_pos (hmakes.supports _ hurls)]
  exact hprimitive

theorem Usable.identifier {registry : Registry T} {key : KeysetKey} (h : Usable objects keyType p urls registry key) :
    ∃ identifier, identifierOf (keyInfoFromKey key) = .ok identifier := by
  have hprefixType := h.prefixType
  unfold HasPrefixType at hprefixType
  unfold identifierOf CryptoFormat.getOutputPrefix keyInfoFromKey
  simp only [List.mem_cons, List.not_mem_nil, or_false] at hprefixType
  rcases hprefixType with htype | htype | htype | htype
  · simp [htype]
  · simp [htype]
  · simp [htype]
  · simp [htype]

/-- **A ready world wraps its keyset.** -/
theorem Ready.primitiveSetOf (hmakes : MakesPrimitives objects keyType p urls correct) {w : World T}
    (h : Ready objects keyType p urls w) :
    ∃ set, primitiveSetOf (w.registry.getters objects parseKey p) w.keyset = .ok set := by
  have husable : ∀ key ∈ enabledKeys w.keyset.key, Usable objects keyType p urls w.registry key := by
    intro key hkey
    obtain ⟨hmem, hstatus⟩ := mem_enabledKeys.1 hkey
    exact h.usable key hmem (by simp [hstatus])
  refine primitiveSetOf_total (validateKeyset_of_valid h.valid fun key hkey => ?_) (fun key hkey => ?_) fun key hkey => ?_
  · obtain ⟨hprefixType, keyData, -, -, hdata, -⟩ := husable key hkey
    unfold validateKey
    have hunknown : key.outputPrefixType ≠ .unknownPrefix := by
      intro heq
      rw [heq] at hprefixType
      simp [HasPrefixType] at hprefixType
    have hstatus : key.status ≠ .unknownStatus := by
      rw [(mem_enabledKeys.1 hkey).2]
      simp
    simp [hdata, hunknown, hstatus]
  · obtain ⟨primitive, hprimitive, -⟩ := (husable key hkey).primitive hmakes
    exact ⟨primitive, hprimitive⟩
  · exact (husable key hkey).identifier

/-- The primary key of a ready world, in a later world that has spared it. -/
structure Later (w₁ w₂ : World T) (key₁ key₂ : KeysetKey) : Prop where
  member  : key₂ ∈ w₂.keyset.key
  kept    : key₂.keyId = key₁.keyId ∧ key₂.keyData = key₁.keyData ∧ key₂.outputPrefixType = key₁.outputPrefixType
  enabled : key₂.status = .enabled → Rotation w₁.keyset w₂.keyset key₁ key₂

theorem Ready.later {w₁ w₂ : World T} (h₁ : Ready objects keyType p urls w₁) (h₂ : Ready objects keyType p urls w₂)
    {events : List (Event T)} (hrun : w₁.run build objects events = some w₂) {key₁ : KeysetKey}
    (hkey : key₁ ∈ w₁.keyset.key) (hprimary : key₁.keyId = w₁.keyset.primaryKeyId) (hspares : Spares key₁.keyId events) :
    ∃ key₂, Later w₁ w₂ key₁ key₂ := by
  obtain ⟨key₂, hmem, hid, hdata, htype⟩ := run_kept hspares hrun ⟨key₁, hkey, rfl, rfl, rfl⟩
  obtain ⟨primary, hprimaryMem, hprimaryId, hstatus⟩ := h₁.valid.primary
  obtain rfl : primary = key₁ := Keyset.eq_of_keyId h₁.valid.distinct hprimaryMem hkey (hprimaryId.trans hprimary.symm)
  exact ⟨key₂, hmem, ⟨hid, hdata, htype⟩, fun henabled => ⟨h₁.valid.distinct, h₂.valid.distinct,
    mem_enabledKeys.2 ⟨hkey, hstatus⟩, hprimary, mem_enabledKeys.2 ⟨hmem, henabled⟩, hid, htype⟩⟩

/-- Both worlds make the same primitive of the key. -/
theorem Later.keysMatch (hmakes : MakesPrimitives objects keyType p urls correct) {w₁ w₂ : World T} {key₁ key₂ : KeysetKey}
    (h : Later w₁ w₂ key₁ key₂) (h₁ : Ready objects keyType p urls w₁) (hext : w₁.registry.Extends w₂.registry)
    (henabled : key₂.status = .enabled) {Key' : Type} {parseKey' : ProtoKeySerialization → Except Status Key'} :
    KeysMatch (w₁.registry.getters objects parseKey p) (w₂.registry.getters objects parseKey' p) key₁ key₂ correct := by
  intro v v' hv hv'
  have hrot := h.enabled henabled
  obtain ⟨hmem, hstatus⟩ := mem_enabledKeys.1 hrot.enabled₁
  have husable := h₁.usable key₁ hmem (by simp [hstatus])
  obtain ⟨primitive, hprimitive, hcorrect⟩ := husable.primitive hmakes
  obtain ⟨primitive', hprimitive', -⟩ := (husable.extends hext).primitive hmakes
  have hdata : key₂.getKeyData = key₁.getKeyData := by
    unfold KeysetKey.getKeyData
    rw [h.kept.2.1]
  -- the primitive of a key is that of its key data
  have hsame : primitiveForKey (w₂.registry.getters objects parseKey' p) key₂ =
      primitiveForKey (w₂.registry.getters objects parseKey' p) key₁ := by
    unfold Tink.primitiveForKey
    rw [hdata]
  rw [hsame, hprimitive'] at hv'
  have hstays := hext.primitiveForKey parseKey parseKey' hprimitive
  rw [hprimitive'] at hstays
  rw [hprimitive] at hv
  cases hv
  cases hv'
  cases hstays
  exact hcorrect

theorem Ready.primary (hmakes : MakesPrimitives objects keyType p urls correct) {w : World T}
    (h : Ready objects keyType p urls w) (name : String) :
    ∃ wrapper, keysetWrap (w.registry.getters objects parseKey p) (validateSet name) w.keyset = .ok wrapper := by
  obtain ⟨set, hset⟩ := h.primitiveSetOf hmakes
  obtain ⟨key, hmem, hid, hstatus⟩ := h.valid.primary
  unfold keysetWrap
  rw [hset]
  rcases (primitiveSetOf_entries hset).2 with ⟨_, entry, -, -, -, hentry⟩ | ⟨hnone, -⟩
  · unfold validateSet
    dsimp only
    split
    · rename_i hprimary
      rw [hentry] at hprimary
      cases hprimary
    · exact ⟨_, rfl⟩
  · have hfilter : key ∈ (enabledKeys w.keyset.key).filter (fun key => decide (key.keyId = w.keyset.primaryKeyId)) :=
      List.mem_filter.2 ⟨mem_enabledKeys.2 ⟨hmem, hstatus⟩, by simpa using hid⟩
    rw [hnone] at hfilter
    cases hfilter

/-- **`GenerateNew` makes a ready world** of a registry: the first key is added to an empty keyset, as its primary key. -/
theorem ready_generateNew (hmakes : MakesPrimitives objects keyType p urls correct) {registry : Registry T}
    (hfiled : Filed keyType registry) {keyTemplate : KeyTemplate} (hurl : urls keyTemplate.typeUrl)
    (htype : HasPrefixType keyTemplate.outputPrefixType) {random : Bytes} {draws : List UInt32} {id : UInt32}
    {keyset : Keyset}
    (hnew : managerStep ⟨0, []⟩ (.rotate keyTemplate (registry.newKeyData objects random keyTemplate) draws) =
      some (.ok id, keyset)) : Ready objects keyType p urls ⟨registry, keyset⟩ := by
  refine ⟨hfiled, ManagerStart.valid (.inr ⟨_, _, _, _, hnew⟩), fun key hmem hstatus => ?_⟩
  rcases effect_usable (managerStep_effect hnew) hmem hstatus with ⟨old, hold, -⟩ | ⟨t, d, ids, hop, hdata, hprefixType⟩
  · cases hold
  · rcases hop with hop | hop
    · cases hop
    · injection hop with ht hd
      rw [← ht] at hprefixType
      exact newKeyData_usable hmakes hfiled hurl htype hd hdata hprefixType

end World

/-- What `WrapKeyset` gives with a wrapper that makes clients for the set and hands on `make`. -/
theorem Registry.wrapKeyset_monitored {T : TypeIndex → Type} {ρ Key : Type} {objects : ManagerObjects T ρ}
    {registry : Registry T} {parseKey : ProtoKeySerialization → Except Status Key} {p q : TypeIndex} {keyset : Keyset}
    {wrapper : PrimitiveWrapper T p q} {factory : Option ClientFactory} {annotations : List (String × String)}
    {make : SetWithPrimary (T p) × Clients → T q}
    {wrap : Option ClientFactory → List (String × String) → PrimitiveSet (T p) →
      Except Status (SetWithPrimary (T p) × Clients)}
    (hfind : registry.keysetWrapperStore.find q = some ⟨p, wrapper⟩)
    (hwrapper : ∀ factory annotations set, wrapper.wrap factory annotations set = (wrap factory annotations set).map make) :
    registry.wrapKeyset objects parseKey factory q keyset annotations =
      (keysetWrap (registry.getters objects parseKey p) (wrap factory annotations) keyset).map make := by
  unfold Registry.wrapKeyset
  rw [KeysetWrapperStore.get_ok.2 hfind]
  dsimp only
  unfold KeysetWrapperStore.Info.wrap keysetWrap
  dsimp only
  cases primitiveSetOf (registry.getters objects parseKey p) keyset with
  | error e => rfl
  | ok set => exact hwrapper factory annotations set

section Generic
open World
variable {T : TypeIndex → Type} {ρ Key : Type}

/-- `KeysetHandle::GetPrimitive` in global registry mode. -/
def World.wrapKeyset (objects : ManagerObjects T ρ) (parseKey : ProtoKeySerialization → Except Status Key) (w : World T)
    (q : TypeIndex) (annotations : List (String × String)) : Except Status (T q) :=
  w.registry.wrapKeyset objects parseKey w.registry.monitoringFactory q w.keyset annotations

/-- The keyset is wrapped, unless `New` of the monitoring factory fails. -/
def World.Wraps (objects : ManagerObjects T ρ) (parseKey : ProtoKeySerialization → Except Status Key) (w : World T)
    (q : TypeIndex) (annotations : List (String × String)) : Prop :=
  (∃ a, w.wrapKeyset objects parseKey q annotations = .ok a) ∨
    ∃ new context e, w.registry.monitoringFactory = some new ∧ new context = .error e ∧
      w.wrapKeyset objects parseKey q annotations = .error e

/-- **Both worlds wrap their keysets**, and what the first primitive makes works with the second as long as the key that was
primary is neither deleted nor destroyed on the way and is ENABLED in the end. -/
def KeepsWorking (objects : ManagerObjects T ρ) (parseKey : ProtoKeySerialization → Except Status Key) (q : TypeIndex)
    (w₁ w₂ : World T) (events : List (Event T)) (works : T q → T q → UInt32 → Prop) : Prop :=
  (∀ annotations, w₁.Wraps objects parseKey q annotations ∧ w₂.Wraps objects parseKey q annotations) ∧
    ∀ annotations₁ annotations₂ a₁ a₂, w₁.wrapKeyset objects parseKey q annotations₁ = .ok a₁ →
      w₂.wrapKeyset objects parseKey q annotations₂ = .ok a₂ →
      ∀ key₁ ∈ w₁.keyset.key, key₁.keyId = w₁.keyset.primaryKeyId → Spares key₁.keyId events →
        ∃ key₂ ∈ w₂.keyset.key, key₂.keyId = key₁.keyId ∧ key₂.keyData = key₁.keyData ∧
          (key₂.status = .enabled → works a₁ a₂ key₂.keyId)

variable {objects : ManagerObjects T ρ} {parseKey : ProtoKeySerialization → Except Status Key} {keyType : Nat → String}
  {p q : TypeIndex} {urls : String → Prop} {correct : T p → T p → Prop} {build : FipsBuild} {w w₁ w₂ : World T}
  {events : List (Event T)} {walk : PrimitivesMap (T p) → PrimitivesMap (T p)} {wrapper : PrimitiveWrapper T p q}
  {name primitive produceApi acceptApi : String} {make : SetWithPrimary (T p) × Clients → T q}

/-- A ready world wraps its keyset, with the wrapper of a set with clients. -/
theorem World.Ready.wraps (hmakes : MakesPrimitives objects keyType p urls correct) (h : Ready objects keyType p urls w)
    (hwalk : ∀ map, (walk map).Perm map) (hfind : w.registry.keysetWrapperStore.find q = some ⟨p, wrapper⟩)
    (hwrapper : ∀ factory annotations set, wrapper.wrap factory annotations set =
      (wrapBoth walk factory annotations name primitive produceApi acceptApi set).map make)
    (annotations : List (String × String)) : w.Wraps objects parseKey q annotations := by
  obtain ⟨v, hv⟩ : ∃ v, keysetWrap (w.registry.getters objects parseKey p) (validateSet name) w.keyset = .ok v :=
    h.primary hmakes name
  unfold World.Wraps World.wrapKeyset
  rw [Registry.wrapKeyset_monitored hfind hwrapper]
  rcases wrapBoth_total hwalk primitive produceApi acceptApi hv with ⟨clients, hwrap⟩ | ⟨new, context, e, hnew, herror, hwrap⟩
  · rw [hwrap]
    exact .inl ⟨_, rfl⟩
  · rw [hwrap]
    exact .inr ⟨new, context, e, hnew, herror, rfl⟩

/-- What survives a rotation keeps working over a run. -/
theorem keepsWorking (hmakes : MakesPrimitives objects keyType p urls correct) (hready : Ready objects keyType p urls w₁)
    (hwalk : ∀ map, (walk map).Perm map) (hfind : w₁.registry.keysetWrapperStore.find q = some ⟨p, wrapper⟩)
    (hwrapper : ∀ factory annotations set, wrapper.wrap factory annotations set =
      (wrapBoth walk factory annotations name primitive produceApi acceptApi set).map make)
    (hsuits : ∀ event ∈ events, Suits keyType urls event) (hrun : w₁.run build objects events = some w₂)
    {works : T q → T q → UInt32 → Prop}
    (hworks : ∀ {v₁ v₂ : SetWithPrimary (T p) × Clients} {key₁ key₂},
      keysetWrap (w₁.registry.getters objects parseKey p) (validateSet name) w₁.keyset = .ok v₁.1 →
      keysetWrap (w₂.registry.getters objects parseKey p) (validateSet name) w₂.keyset = .ok v₂.1 →
      Rotation w₁.keyset w₂.keyset key₁ key₂ →
      KeysMatch (w₁.registry.getters objects parseKey p) (w₂.registry.getters objects parseKey p) key₁ key₂ correct →
      works (make v₁) (make v₂) key₂.keyId) :
    Ready objects keyType p urls w₂ ∧ KeepsWorking objects parseKey q w₁ w₂ events works := by
  have hready₂ := hready.run hmakes hsuits hrun
  have hext := run_extends hsuits hrun
  have hfind₂ := hext.keysetWrapperStore _ _ hfind
  -- what is wrapped is a set that is valid without monitoring
  have hplain : ∀ {w : World T}, w.registry.keysetWrapperStore.find q = some ⟨p, wrapper⟩ → ∀ {annotations a},
      w.wrapKeyset objects parseKey q annotations = .ok a →
      ∃ v, make v = a ∧ keysetWrap (w.registry.getters objects parseKey p) (validateSet name) w.keyset = .ok v.1 := by
    intro w hfound annotations a hwrap
    unfold World.wrapKeyset at hwrap
    rw [Registry.wrapKeyset_monitored hfound hwrapper] at hwrap
    cases hset : keysetWrap (w.registry.getters objects parseKey p) (wrapBoth walk w.registry.monitoringFactory annotations
        name primitive produceApi acceptApi) w.keyset with
    | error e =>
      rw [hset] at hwrap
      cases hwrap
    | ok v =>
      rw [hset] at hwrap
      exact ⟨v, Except.ok.inj hwrap, (wrapBoth_ok hwalk hset).1⟩
  refine ⟨hready₂, fun annotations => ⟨hready.wraps hmakes hwalk hfind hwrapper annotations,
    hready₂.wraps hmakes hwalk hfind₂ hwrapper annotations⟩, ?_⟩
  intro annotations₁ annotations₂ a₁ a₂ ha₁ ha₂ key₁ hkey hprimary hspares
  obtain ⟨v₁, rfl, hv₁⟩ := hplain hfind ha₁
  obtain ⟨v₂, rfl, hv₂⟩ := hplain hfind₂ ha₂
  obtain ⟨key₂, hlater⟩ := hready.later hready₂ hrun hkey hprimary hspares
  exact ⟨key₂, hlater.member, hlater.kept.1, hlater.kept.2.1, fun henabled =>
    hworks hv₁ hv₂ (hlater.enabled henabled) (hlater.keysMatch hmakes hready hext henabled)⟩

end Generic

/-! ## AEADs, deterministic AEADs and MACs -/

/-- What the primitives of symmetric keysets are. -/
def SymmetricPrimitive (p : TypeIndex) : Type :=
  match p.name with
  | "Aead" => Aead
  | "DeterministicAead" => DeterministicAead
  | "Mac" => Mac
  | _ => Unit

section Wrappers
variable (walk : ∀ {P : Type}, PrimitivesMap P → PrimitivesMap P)

/-- `AeadWrapper`; `walk` is the order in which the map of a set is walked. -/
def aeadWrapper : PrimitiveWrapper SymmetricPrimitive ⟨"Aead"⟩ ⟨"Aead"⟩ where
  object := 0
  typeIndex := ⟨"AeadWrapper"⟩
  wrap factory annotations set := (Monitoring.aeadWrap walk factory annotations set).map fun w =>
    (⟨fun random plaintext associatedData => (Monitoring.encrypt w random plaintext associatedData).1,
      fun ciphertext associatedData => (Monitoring.decrypt w ciphertext associatedData).1⟩ : Aead)

/-- `DeterministicAeadWrapper`. -/
def deterministicAeadWrapper : PrimitiveWrapper SymmetricPrimitive ⟨"DeterministicAead"⟩ ⟨"DeterministicAead"⟩ where
  object := 1
  typeIndex := ⟨"DeterministicAeadWrapper"⟩
  wrap factory annotations set := (Monitoring.deterministicAeadWrap walk factory annotations set).map fun w =>
    (⟨fun plaintext associatedData => (Monitoring.encryptDeterministically w plaintext associatedData).1,
      fun ciphertext associatedData => (Monitoring.decryptDeterministically w ciphertext associatedData).1⟩ :
      DeterministicAead)

/-- `MacWrapper`. -/
def macWrapper : PrimitiveWrapper SymmetricPrimitive ⟨"Mac"⟩ ⟨"Mac"⟩ where
  object := 2
  typeIndex := ⟨"MacWrapper"⟩
  wrap factory annotations set := (Monitoring.macWrap walk factory annotations set).map fun w =>
    (⟨fun data => (Monitoring.computeMac w data).1, fun mac data => (Monitoring.verifyMac w mac data).1⟩ : Mac)

end Wrappers

section Lifecycle
open World
variable {ρ Key : Type} {objects : ManagerObjects SymmetricPrimitive ρ} {keyType : Nat → String} {urls : String → Prop}
  {build : FipsBuild} {w₁ w₂ : World SymmetricPrimitive} {events : List (Event SymmetricPrimitive)}

/-- **A keyset over a run, with its manager and the registry.**  From a ready world every later world is ready, and both wrap
their keysets unless the monitoring factory fails.  What the primary key of the first makes, an AEAD ciphertext or a MAC, the
later one takes as long as that key is ENABLED, unless another key takes it for its own. -/
theorem keysetLifecycle (parseKey : ProtoKeySerialization → Except Status Key)
    (walk : ∀ {P : Type}, PrimitivesMap P → PrimitivesMap P)
    (hwalk : ∀ {P : Type} (map : PrimitivesMap P), (walk map).Perm map)
    (hsuits : ∀ event ∈ events, Suits keyType urls event) (hrun : w₁.run build objects events = some w₂) :
    (MakesPrimitives objects keyType ⟨"Aead"⟩ urls AeadCorrect → Ready objects keyType ⟨"Aead"⟩ urls w₁ →
      w₁.registry.keysetWrapperStore.find ⟨"Aead"⟩ = some ⟨_, aeadWrapper walk⟩ →
      Ready objects keyType ⟨"Aead"⟩ urls w₂ ∧
      KeepsWorking objects parseKey ⟨"Aead"⟩ w₁ w₂ events fun (a₁ a₂ : Aead) keyId =>
        ∀ random plaintext associatedData ciphertext, a₁.encrypt random plaintext associatedData = .ok ciphertext →
          OthersReject (w₂.registry.getters objects parseKey ⟨"Aead"⟩) (aeadAttempt associatedData) w₂.keyset keyId
            ciphertext →
          a₂.decrypt ciphertext associatedData = .ok plaintext) ∧
    (MakesPrimitives objects keyType ⟨"DeterministicAead"⟩ urls DeterministicAeadCorrect →
      Ready objects keyType ⟨"DeterministicAead"⟩ urls w₁ →
      w₁.registry.keysetWrapperStore.find ⟨"DeterministicAead"⟩ = some ⟨_, deterministicAeadWrapper walk⟩ →
      Ready objects keyType ⟨"DeterministicAead"⟩ urls w₂ ∧
      KeepsWorking objects parseKey ⟨"DeterministicAead"⟩ w₁ w₂ events fun (a₁ a₂ : DeterministicAead) keyId =>
        ∀ plaintext associatedData ciphertext, a₁.encryptDeterministically plaintext associatedData = .ok ciphertext →
          OthersReject (w₂.registry.getters objects parseKey ⟨"DeterministicAead"⟩)
            (deterministicAeadAttempt associatedData) w₂.keyset keyId ciphertext →
          a₂.decryptDeterministically ciphertext associatedData = .ok plaintext) ∧
    (MakesPrimitives objects keyType ⟨"Mac"⟩ urls MacCorrect → Ready objects keyType ⟨"Mac"⟩ urls w₁ →
      w₁.registry.keysetWrapperStore.find ⟨"Mac"⟩ = some ⟨_, macWrapper walk⟩ →
      Ready objects keyType ⟨"Mac"⟩ urls w₂ ∧
      KeepsWorking objects parseKey ⟨"Mac"⟩ w₁ w₂ events fun (a₁ a₂ : Mac) keyId =>
        ∀ data mac, a₁.computeMac data = .ok mac →
          OthersReject (w₂.registry.getters objects parseKey ⟨"Mac"⟩) (macAttempt data) w₂.keyset keyId mac →
          a₂.verifyMac mac data = .ok ()) := by
  refine ⟨fun hmakes hready hwrapper => ?_, fun hmakes hready hwrapper => ?_, fun hmakes hready hwrapper => ?_⟩
  · refine keepsWorking hmakes hready hwalk hwrapper (fun _ _ _ => rfl) hsuits hrun ?_
    intro v₁ v₂ key₁ key₂ hv₁ hv₂ hrotation hmatch random plaintext associatedData ciphertext hout hothers
    exact (Monitoring.decrypt_fst v₂ ciphertext associatedData).trans
      (AeadSetWrapper.rotation hrotation hv₁ hv₂ hmatch ((Monitoring.encrypt_fst v₁ _ _ _).symm.trans hout) hothers)
  · refine keepsWorking hmakes hready hwalk hwrapper (fun _ _ _ => rfl) hsuits hrun ?_
    intro v₁ v₂ key₁ key₂ hv₁ hv₂ hrotation hmatch plaintext associatedData ciphertext hout hothers
    exact (Monitoring.decryptDeterministically_fst v₂ ciphertext associatedData).trans
      (DeterministicAeadSetWrapper.rotation hrotation hv₁ hv₂ hmatch
        ((Monitoring.encryptDeterministically_fst v₁ _ _).symm.trans hout) hothers)
  · refine keepsWorking hmakes hready hwalk hwrapper (fun _ _ _ => rfl) hsuits hrun ?_
    intro v₁ v₂ key₁ key₂ hv₁ hv₂ hrotation hmatch data mac hout hothers
    exact (Monitoring.verifyMac_fst v₂ mac data).trans
      (MacSetWrapper.rotation hrotation hv₁ hv₂ hmatch ((Monitoring.computeMac_fst v₁ _).symm.trans hout) hothers)

end Lifecycle

/-- One manager for the AEADs that put a byte in front of the plaintext. -/
def taggedObjects : ManagerObjects SymmetricPrimitive Unit where
  primitives _ := [⟨"Aead"⟩]
  getPrimitive _ p keyData :=
    if h : p = ⟨"Aead"⟩ then
      .ok (some (cast (congrArg SymmetricPrimitive h.symm) (taggedAead (keyData.value.headD 0))))
    else .error ⟨.invalidArgument, ""⟩
  newKeyData _ random _ := .ok ⟨"TaggedKey", random, .symmetric⟩
  privateKeyFactory _ _ := none
  keyDeriver _ := none

theorem taggedObjects_makes :
    World.MakesPrimitives taggedObjects (fun _ => "TaggedKey") ⟨"Aead"⟩ (fun url => url = "TaggedKey") AeadCorrect where
  printable := by
    rintro _ rfl
    decide
  supports _ _ := List.mem_singleton_self _
  newKey := by
    rintro manager - random format keyData hnew
    cases hnew
    exact ⟨rfl, _, rfl⟩
  correct := by
    rintro manager - keyData primitive hprimitive
    cases hprimitive
    exact taggedAead_correct _

def taggedManager : KeyTypeInfoStore.KeyTypeManager := ⟨0, ⟨"TaggedKeyManager"⟩, "TaggedKey", .notFips⟩

def taggedRegistry : Registry SymmetricPrimitive :=
  Registry.run ⟨false, false⟩ {}
    [.registerKeyTypeManager (some taggedManager) true, .registerPrimitiveWrapper (some ⟨_, _, aeadWrapper List.reverse⟩)]

def taggedSecret (tag : UInt8) (keyId : UInt32) (outputPrefixType : OutputPrefixType) : KeysetKey :=
  ⟨some ⟨"TaggedKey", [tag], .symmetric⟩, .enabled, keyId, outputPrefixType⟩

/-- A new keyset, before and after a rotation to a RAW key; then there is monitoring. -/
def taggedWorld : World SymmetricPrimitive := ⟨taggedRegistry, ⟨5, [taggedSecret 7 5 .tink]⟩⟩

def rotatedWorld : World SymmetricPrimitive :=
  ⟨taggedRegistry.run ⟨false, false⟩ [.registerKeyTypeManager (some taggedManager) false,
      .registerMonitoringClientFactory (some Monitoring.lengthFactory)],
    ⟨9, [taggedSecret 7 5 .tink, taggedSecret 8 9 .raw]⟩⟩

def taggedRotation : List (Event SymmetricPrimitive) :=
  [.rotate ⟨"TaggedKey", [], .raw⟩ [8] [5, 9], .register (.registerKeyTypeManager (some taggedManager) false),
    .register (.registerMonitoringClientFactory (some Monitoring.lengthFactory))]

theorem taggedWorld_ready :
    World.Ready taggedObjects (fun _ => "TaggedKey") ⟨"Aead"⟩ (fun url => url = "TaggedKey") taggedWorld := by
  have hempty : World.Filed (fun _ => "TaggedKey") ({} : Registry SymmetricPrimitive) := fun _ _ hfind => by cases hfind
  have hmanager : World.Filed (fun _ => "TaggedKey") (({} : Registry SymmetricPrimitive).step ⟨false, false⟩
      (.registerKeyTypeManager (some taggedManager) true)).2 := by
    refine hempty.step fun m hm => ?_
    cases hm
    rfl
  -- the wrapper does not add a manager
  have hfiled : World.Filed (fun _ => "TaggedKey") taggedRegistry := hmanager
  have hnew : managerStep ⟨0, []⟩ (.rotate ⟨"TaggedKey", [], .tink⟩
      (taggedRegistry.newKeyData taggedObjects [7] ⟨"TaggedKey", [], .tink⟩) [5]) = some (.ok 5, taggedWorld.keyset) := rfl
  exact World.ready_generateNew taggedObjects_makes hfiled rfl (by simp [World.HasPrefixType]) hnew

section Witness
open World

/-- No key is parsed. -/
def noKeys : ProtoKeySerialization → Except Status Unit := fun _ => .error ⟨.notFound, ""⟩

theorem taggedRotation_suits :
    ∀ event ∈ taggedRotation, Suits (fun _ => "TaggedKey") (fun url => url = "TaggedKey") event := by
  intro event hevent
  unfold taggedRotation at hevent
  simp only [List.mem_cons, List.not_mem_nil, or_false] at hevent
  rcases hevent with rfl | rfl | rfl
  · exact ⟨rfl, by simp [HasPrefixType]⟩
  · refine ⟨by simp, fun m hm => ?_⟩
    cases hm
    rfl
  · exact ⟨by simp, trivial⟩

theorem rotatedWorld_rejects : OthersReject (rotatedWorld.registry.getters taggedObjects noKeys ⟨"Aead"⟩) (aeadAttempt [3])
    rotatedWorld.keyset 5 [1, 0, 0, 0, 5, 7, 1, 2] := by
  intro key hkey hne r haccepts
  have hkeys : enabledKeys rotatedWorld.keyset.key = [taggedSecret 7 5 .tink, taggedSecret 8 9 .raw] := rfl
  rw [hkeys, List.mem_cons, List.mem_singleton] at hkey
  rcases hkey with rfl | rfl
  · exact hne rfl
  · obtain ⟨p, hp, ⟨-, hok⟩ | ⟨identifier, rest, hid, hsize, -⟩⟩ := haccepts
    · cases hp
      cases hok
    · cases hid
      cases hsize

/-- The rotated keyset, with monitoring, decrypts what the first key has encrypted without. -/
theorem keysetLifecycle_tagged :
    ∃ a₂ : Aead, rotatedWorld.wrapKeyset taggedObjects noKeys ⟨"Aead"⟩ [] = .ok a₂ ∧
      a₂.decrypt [1, 0, 0, 0, 5, 7, 1, 2] [3] = .ok [1, 2] := by
  obtain ⟨a, ha, hout⟩ : ∃ a : Aead, taggedWorld.wrapKeyset taggedObjects noKeys ⟨"Aead"⟩ [] = .ok a ∧
      a.encrypt [] [1, 2] [3] = .ok [1, 0, 0, 0, 5, 7, 1, 2] := ⟨_, rfl, rfl⟩
  obtain ⟨a₂, ha₂⟩ : ∃ a₂ : Aead, rotatedWorld.wrapKeyset taggedObjects noKeys ⟨"Aead"⟩ [] = .ok a₂ := ⟨_, rfl⟩
  have hrun : taggedWorld.run ⟨false, false⟩ taggedObjects taggedRotation = some rotatedWorld := rfl
  obtain ⟨-, -, hworks⟩ :=
    (keysetLifecycle noKeys List.reverse List.reverse_perm taggedRotation_suits hrun).1 taggedObjects_makes
      taggedWorld_ready rfl
  have hspares : Spares (taggedSecret 7 5 .tink).keyId taggedRotation := by
    intro event hevent
    unfold taggedRotation at hevent
    simp only [List.mem_cons, List.not_mem_nil, or_false] at hevent
    rcases hevent with rfl | rfl | rfl
    · simp
    · simp
    · simp
  obtain ⟨key₂, hmem, hid, -, hdecrypts⟩ := hworks _ _ _ _ ha ha₂ _ (List.mem_singleton_self _) rfl hspares
  have hkey : key₂ = taggedSecret 7 5 .tink := by
    have hkeys : rotatedWorld.keyset.key = [taggedSecret 7 5 .tink, taggedSecret 8 9 .raw] := rfl
    rw [hkeys, List.mem_cons, List.mem_singleton] at hmem
    rcases hmem with rfl | rfl
    · rfl
    · cases hid
  subst hkey
  exact ⟨a₂, ha₂, hdecrypts rfl _ _ _ _ hout rotatedWorld_rejects⟩

end Witness

end Tink
