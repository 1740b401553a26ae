import TinkCc.LibThreads
import TinkCc.Registry
/-!
# RegistryThreads — keysets wrapped while other threads register

`RegistryImpl::WrapKeyset` of the global registry holds its lock while it looks up the wrapper, and again for the key
manager of each key, but not in between; the global serialization registry has a lock of its own, and the wrapper reads the
monitoring factory in the end.  Other threads register in the meantime.
-/
namespace Tink

open KeyTypeInfoStore (TypeIndex)
open Threads (Lookups Stable Settled PoolStep)
open Relation (ReflTransGen)

/-- What the threads share: the global registry, and what the global serialization registry parses. -/
structure Globals (T : TypeIndex → Type) (Key : Type) where
  registry : Registry T
  parseKey : ProtoKeySerialization → Except Status Key

namespace Globals
variable {T : TypeIndex → Type} {ρ Key : Type}

/-- What another thread does: a call of the registry that is not `Reset`, or anything to the serialization registry. -/
inductive Step (build : FipsBuild) : Globals T Key → Globals T Key → Prop
  | registry (s : Globals T Key) (call : Registry.Call T) : call ≠ .reset →
    Step build s ⟨(s.registry.step build call).2, s.parseKey⟩
  | serialization (s : Globals T Key) (parseKey) : Step build s ⟨s.registry, parseKey⟩

theorem extends_of_steps {build : FipsBuild} {s s' : Globals T Key} (h : ReflTransGen (Step build) s s') :
    s.registry.Extends s'.registry := by
  induction h with
  | refl => exact .refl _
  | tail _ hstep ih =>
    cases hstep with
    | registry call hreset => exact ih.trans (Registry.step_extends hreset)
    | serialization parseKey => exact ih

/-! ## The thread -/

section Thread
variable (objects : ManagerObjects T ρ)

/-- `RegistryImpl::GetPrimitive`; an `Info` does not change but for its flag, which is not read here. -/
def getPrimitive (p : TypeIndex) (keyData : KeyData) : Lookups (Globals T Key) (Except Status (Option (T p))) :=
  .look fun s => .done (s.registry.getPrimitive objects p keyData)

/-- The primitive of a key in the loop of `KeysetWrapperImpl::Wrap`. -/
def primitiveForKey (p : TypeIndex) (protoKey : KeysetKey) : Lookups (Globals T Key) (Except Status (Option (T p))) :=
  match ProtoKeySerialization.create protoKey.getKeyData.typeUrl protoKey.getKeyData.value
      protoKey.getKeyData.keyMaterialType .raw none with
  | .error e => .done (.error e)
  | .ok serialization =>
    .look fun s =>
      match s.parseKey serialization with
      | .error _ => getPrimitive objects p protoKey.getKeyData
      -- the getter from keys always fails with `kNotFound`
      | .ok _ => getPrimitive objects p protoKey.getKeyData

/-- The loop of `KeysetWrapperImpl::Wrap`. -/
def wrapLoop (p : TypeIndex) (primaryKeyId : UInt32) :
    List KeysetKey → PrimitiveSetBuilder (T p) → Lookups (Globals T Key) (Except Status (PrimitiveSetBuilder (T p)))
  | [], builder => .done (.ok builder)
  | protoKey :: keys, builder =>
    if protoKey.isEnabled then
      (primitiveForKey objects p protoKey).bind fun primitive =>
        if protoKey.keyId = primaryKeyId then
          wrapLoop p primaryKeyId keys (builder.addPrimaryPrimitive primitive (keyInfoFromKey protoKey))
        else wrapLoop p primaryKeyId keys (builder.addPrimitive primitive (keyInfoFromKey protoKey))
    else wrapLoop p primaryKeyId keys builder

/-- `KeysetWrapperImpl::Wrap`. -/
def wrap {q : TypeIndex} (info : KeysetWrapperStore.Info T q) (keyset : Keyset) (annotations : List (String × String)) :
    Lookups (Globals T Key) (Except Status (T q)) :=
  match validateKeyset keyset with
  | .error e => .done (.error e)
  | .ok () =>
    (wrapLoop objects info.p keyset.primaryKeyId keyset.key {}).bind fun builder =>
      match builder.build with
      | .error e => .done (.error e)
      | .ok primitives =>
        .look fun s => .done (info.originalWrapper.wrap s.registry.monitoringFactory annotations primitives)

/-- `RegistryImpl::WrapKeyset`. -/
def wrapKeyset (q : TypeIndex) (keyset : Keyset) (annotations : List (String × String)) :
    Lookups (Globals T Key) (Except Status (T q)) :=
  (Lookups.look fun s => .done (s.registry.keysetWrapperStore.get q)).bind fun info =>
    wrap objects info keyset annotations

/-! ## Alone it is `WrapKeyset` of the registry -/

variable {objects}

theorem primitiveForKey_alone (s : Globals T Key) (p : TypeIndex) (protoKey : KeysetKey) :
    (primitiveForKey objects p protoKey).alone s =
      Tink.primitiveForKey (s.registry.getters objects s.parseKey p) protoKey := by
  rw [Registry.primitiveForKey_getters]
  unfold primitiveForKey
  cases ProtoKeySerialization.create protoKey.getKeyData.typeUrl protoKey.getKeyData.value
      protoKey.getKeyData.keyMaterialType .raw none with
  | error e => rfl
  | ok serialization =>
    dsimp only
    rw [Lookups.alone_look]
    cases s.parseKey serialization with
    | error e => rfl
    | ok key => rfl

theorem wrapLoop_alone (s : Globals T Key) (p : TypeIndex) (primaryKeyId : UInt32) :
    ∀ (keys : List KeysetKey) (builder : PrimitiveSetBuilder (T p)),
      (wrapLoop objects p primaryKeyId keys builder).alone s =
        Tink.wrapLoop (s.registry.getters objects s.parseKey p) primaryKeyId keys builder
  | [], _ => rfl
  | protoKey :: keys, builder => by
    unfold wrapLoop Tink.wrapLoop
    split
    · rw [Lookups.alone_bind, primitiveForKey_alone]
      cases Tink.primitiveForKey (s.registry.getters objects s.parseKey p) protoKey with
      | error e => rfl
      | ok primitive =>
        dsimp only
        split
        · exact wrapLoop_alone s p primaryKeyId keys _
        · exact wrapLoop_alone s p primaryKeyId keys _
    · exact wrapLoop_alone s p primaryKeyId keys builder

theorem wrapKeyset_alone (s : Globals T Key) (q : TypeIndex) (keyset : Keyset) (annotations : List (String × String)) :
    (wrapKeyset objects q keyset annotations).alone s =
      s.registry.wrapKeyset objects s.parseKey s.registry.monitoringFactory q keyset annotations := by
  unfold wrapKeyset Registry.wrapKeyset
  rw [Lookups.alone_bind, Lookups.alone_look, Lookups.alone_done]
  cases s.registry.keysetWrapperStore.get q with
  | error e => rfl
  | ok info =>
    dsimp only
    unfold wrap KeysetWrapperStore.Info.wrap keysetWrap primitiveSetOf
    cases validateKeyset keyset with
    | error e => rfl
    | ok _ =>
      dsimp only
      rw [Lookups.alone_bind, wrapLoop_alone]
      cases Tink.wrapLoop (s.registry.getters objects s.parseKey info.p) keyset.primaryKeyId keyset.key {} with
      | error e => rfl
      | ok builder =>
        dsimp only
        cases builder.build with
        | error e => rfl
        | ok primitives => rfl

/-! ## Its looks can be made later -/

variable {build : FipsBuild}

theorem getPrimitive_stable (p : TypeIndex) (keyData : KeyData) :
    Stable (Step build) (getPrimitive objects p keyData : Lookups (Globals T Key) _) :=
  Stable.of_look fun _ _ _ hok hsteps => (extends_of_steps hsteps).getPrimitive hok

theorem primitiveForKey_stable (p : TypeIndex) (protoKey : KeysetKey) :
    Stable (Step build) (primitiveForKey objects p protoKey : Lookups (Globals T Key) _) := by
  unfold primitiveForKey
  split
  · trivial
  · rename_i serialization _
    -- what is parsed makes no difference
    have hsame : ∀ s : Globals T Key, (match s.parseKey serialization with
        | .error _ => getPrimitive objects p protoKey.getKeyData
        | .ok _ => getPrimitive objects p protoKey.getKeyData) =
        (getPrimitive objects p protoKey.getKeyData : Lookups (Globals T Key) _) := by
      intro s
      cases s.parseKey serialization with
      | error e => rfl
      | ok key => rfl
    simp only [hsame]
    exact fun s => .inr ⟨getPrimitive_stable p protoKey.getKeyData, fun _ _ => rfl⟩

theorem wrapLoop_stable (p : TypeIndex) (primaryKeyId : UInt32) :
    ∀ (keys : List KeysetKey) (builder : PrimitiveSetBuilder (T p)),
      Stable (Step build) (wrapLoop objects p primaryKeyId keys builder : Lookups (Globals T Key) _)
  | [], _ => trivial
  | protoKey :: keys, builder => by
    unfold wrapLoop
    split
    · refine Stable.bind (fun primitive => ?_) (primitiveForKey_stable p protoKey)
      split
      · exact wrapLoop_stable p primaryKeyId keys _
      · exact wrapLoop_stable p primaryKeyId keys _
    · exact wrapLoop_stable p primaryKeyId keys builder

/-- The monitoring factory is read last. -/
theorem wrapKeyset_settled (q : TypeIndex) (keyset : Keyset) (annotations : List (String × String)) :
    Settled (Step build) (wrapKeyset objects q keyset annotations : Lookups (Globals T Key) _) := by
  have hget : Stable (Step build)
      (Lookups.look fun s : Globals T Key => .done (s.registry.keysetWrapperStore.get q)) := by
    refine Stable.of_look fun s s' info hok hsteps => ?_
    rw [KeysetWrapperStore.get_ok] at hok ⊢
    exact (extends_of_steps hsteps).keysetWrapperStore q info hok
  refine Stable.bind_settled (fun info => ?_) hget
  unfold wrap
  split
  · trivial
  · refine Stable.bind_settled (fun builder => ?_) (wrapLoop_stable info.p _ _ _)
    split
    · trivial
    · exact Settled.of_look _

end Thread

/-- **`WrapKeyset` is atomic**: in any number of threads, among any calls that register and any changes of the serialization
registry, each gives what it would give if nothing else happened, at one moment of its run.  A primitive that it gives is
what the registry gives for the keyset also afterwards, with the monitoring factory of that moment: it is the last one,
unless there was none. -/
theorem wrapKeyset_atomic (build : FipsBuild) (objects : ManagerObjects T ρ) {ι : Type} [DecidableEq ι] (q : ι → TypeIndex)
    (keyset : ι → Keyset) (annotations : ι → List (String × String)) {s s' : Globals T Key}
    {pool : ∀ i, Lookups (Globals T Key) (Except Status (T (q i)))}
    (hrun : ReflTransGen (PoolStep (Step build)) (s, fun i => wrapKeyset objects (q i) (keyset i) (annotations i))
      (s', pool)) (i : ι) {answer : Except Status (T (q i))} (hanswer : pool i = .done answer) :
    ∃ m, ReflTransGen (Step build) s m ∧ ReflTransGen (Step build) m s' ∧
      m.registry.wrapKeyset objects m.parseKey m.registry.monitoringFactory (q i) (keyset i) (annotations i) = answer ∧
      (m.registry.monitoringFactory = none ∨ m.registry.monitoringFactory = s'.registry.monitoringFactory) ∧
      ∀ primitive, answer = .ok primitive →
        s'.registry.wrapKeyset objects s'.parseKey m.registry.monitoringFactory (q i) (keyset i) (annotations i) =
          .ok primitive := by
  have hrun' := Threads.runs_of_pool hrun i hanswer
  obtain ⟨m, hm, hm', halone⟩ := hrun'.atomic (wrapKeyset_settled (q i) (keyset i) (annotations i))
  rw [wrapKeyset_alone] at halone
  have hext := extends_of_steps hm'
  refine ⟨m, hm, hm', halone, ?_, fun primitive hok => ?_⟩
  · cases hfactory : m.registry.monitoringFactory with
    | none => exact .inl rfl
    | some factory => exact .inr (hext.monitoringFactory factory hfactory).symm
  · rw [hok] at halone
    exact hext.wrapKeyset m.parseKey s'.parseKey halone

/-- The global registry with one manager and one wrapper; no key is parsed. -/
def aesGcmGlobals : Globals (fun _ => Nat) Unit where
  registry := (Registry.aesGcmRegistry.step ⟨false, false⟩
    (.registerPrimitiveWrapper (some ⟨_, _, Registry.primaryWrapper⟩))).2
  parseKey _ := .error ⟨.notFound, ""⟩

def closeAesGcm : Registry.Call fun _ => Nat := .registerKeyTypeManager (some Registry.aesGcmKeyManager) false

/-- A factory of clients that are null. -/
def nullFactory : Monitoring.ClientFactory := fun _ => .ok none

def closedGlobals : Globals (fun _ => Nat) Unit where
  registry := (aesGcmGlobals.registry.run ⟨false, false⟩ [closeAesGcm, .registerMonitoringClientFactory (some nullFactory)])
  parseKey := aesGcmGlobals.parseKey

/-- Between two looks of `WrapKeyset` the key type is closed for new keys, and before the last one there is monitoring. -/
theorem wrapKeyset_atomic_closed :
    closedGlobals.registry.wrapKeyset Registry.lengthObjects closedGlobals.parseKey (some nullFactory) ⟨"Aead"⟩
      Registry.aesGcmKeyset [] = .ok 3 := by
  obtain ⟨m, -, -, -, -, hlater⟩ :=
    wrapKeyset_atomic ⟨false, false⟩ Registry.lengthObjects (fun _ : Unit => ⟨"Aead"⟩) (fun _ => Registry.aesGcmKeyset)
      (fun _ => []) (s := aesGcmGlobals)
      (ReflTransGen.refl |>.tail (.look () _ rfl) |>.tail (.state (.registry _ closeAesGcm (by simp [closeAesGcm])))
        |>.tail (.look () _ rfl) |>.tail (.look () _ rfl)
        |>.tail (.state (.registry _ (.registerMonitoringClientFactory (some nullFactory)) (by simp)))
        |>.tail (.look () _ rfl)) () rfl
  -- the wrapper gives the same with any factory
  exact hlater 3 rfl

end Globals

end Tink
