import Mathlib.Data.List.Sigma
import TinkCc.KeyTypeInfoStore
import TinkCc.MonitoredWrappers
/-!
# KeysetWrapperStore — the wrappers of a registry or a configuration

`internal/keyset_wrapper_store.h` and `internal/keyset_wrapper.h`.  `T` is what the primitives of a type are.  What a wrapper
asks for primitives belongs to the owner of the store, and is given when a keyset is wrapped; the monitoring factory is that
of the global registry, whoever the owner is.
-/
namespace Tink

open KeyTypeInfoStore (TypeIndex)

/-- A `PrimitiveWrapper<P, Q>`; `object` tells the objects of a class apart.  `Wrap` reads the monitoring factory of the
global registry, and the annotations of the set for it. -/
structure PrimitiveWrapper (T : TypeIndex → Type) (p q : TypeIndex) where
  object    : Nat
  typeIndex : TypeIndex
  wrap      : Option Monitoring.ClientFactory → List (String × String) → PrimitiveSet (T p) → Except Status (T q)

/-- `KeysetWrapperStore::Info` of a wrapper that makes primitives of type `q`. -/
structure KeysetWrapperStore.Info (T : TypeIndex → Type) (q : TypeIndex) where
  p               : TypeIndex
  originalWrapper : PrimitiveWrapper T p q

structure KeysetWrapperStore (T : TypeIndex → Type) where
  primitiveToInfo : List ((q : TypeIndex) × KeysetWrapperStore.Info T q) := []

namespace KeysetWrapperStore
variable {T : TypeIndex → Type}

namespace Info
variable {q : TypeIndex}

def isSamePrimitiveWrapping (info : Info T q) : Bool := decide (info.p = q)

def wrapperTypeIndex (info : Info T q) : TypeIndex := info.originalWrapper.typeIndex

def qTypeIndex (_ : Info T q) : TypeIndex := q

/-- `HasSameType`. -/
def hasSameType {p : TypeIndex} (info : Info T q) (wrapper : PrimitiveWrapper T p q) : Bool :=
  decide (info.wrapperTypeIndex = wrapper.typeIndex)

/-- `Info::GetPrimitiveWrapper`. -/
def getPrimitiveWrapper (info : Info T q) : Except Status (PrimitiveWrapper T q q) :=
  if h : info.p = q then
    if info.qTypeIndex ≠ q then .error ⟨.internal, "RegistryImpl::LegacyWrapper() called with wrong type"⟩
    else .ok (cast (congrArg (PrimitiveWrapper T · q) h) info.originalWrapper)
  else
    let name := q.name
    .error ⟨.failedPrecondition, s!"Cannot use primitive type {name} with a custom key manager."⟩

/-- `KeysetWrapperImpl::Wrap`, with what the owner gives for keys. -/
def wrap {Key : Type} (getters : ∀ p, PrimitiveGetters Key (T p)) (factory : Option Monitoring.ClientFactory)
    (info : Info T q) (keyset : Keyset) (annotations : List (String × String)) : Except Status (T q) :=
  keysetWrap (getters info.p) (info.originalWrapper.wrap factory annotations) keyset

end Info

def find (store : KeysetWrapperStore T) (q : TypeIndex) : Option (Info T q) := store.primitiveToInfo.dlookup q

def isEmpty (store : KeysetWrapperStore T) : Bool := store.primitiveToInfo.isEmpty

/-- `Get`, typed or not. -/
def get (store : KeysetWrapperStore T) (q : TypeIndex) : Except Status (Info T q) :=
  match store.find q with
  | none =>
    let name := q.name
    .error ⟨.notFound, s!"No wrapper registered for type {name}"⟩
  | some info =>
    if info.qTypeIndex ≠ q then .error ⟨.internal, "RegistryImpl::KeysetWrapper() called with wrong type"⟩
    else .ok info

/-- `GetPrimitiveWrapper`. -/
def getPrimitiveWrapper (store : KeysetWrapperStore T) (q : TypeIndex) : Except Status (PrimitiveWrapper T q q) :=
  match store.find q with
  | none =>
    let name := q.name
    .error ⟨.notFound, s!"No wrapper registered for type {name}"⟩
  | some info => info.getPrimitiveWrapper

/-- A `PrimitiveWrapper` of some types. -/
structure AnyWrapper (T : TypeIndex → Type) where
  p       : TypeIndex
  q       : TypeIndex
  wrapper : PrimitiveWrapper T p q

/-- `Add`; a wrapper that is null is `none`. -/
def add (store : KeysetWrapperStore T) : Option (AnyWrapper T) → Except Status Unit × KeysetWrapperStore T
  | none => (.error ⟨.invalidArgument, "Parameter 'wrapper' must be non-null."⟩, store)
  | some ⟨p, q, wrapper⟩ =>
    match store.find q with
    | some info =>
      if !info.hasSameType wrapper then
        (.error ⟨.alreadyExists, "A wrapper named for this primitive already exists."⟩, store)
      else (.ok (), store)
    | none => (.ok (), ⟨store.primitiveToInfo ++ [⟨q, ⟨p, wrapper⟩⟩]⟩)

/-! ## What is never replaced -/

/-- Every `Info` of the first store is in the second. -/
def Extends (store store' : KeysetWrapperStore T) : Prop :=
  ∀ q info, store.find q = some info → store'.find q = some info

theorem Extends.refl (store : KeysetWrapperStore T) : Extends store store := fun _ _ h => h

theorem Extends.trans {store store' store'' : KeysetWrapperStore T} (h : Extends store store') (h' : Extends store' store'') :
    Extends store store'' := fun q info hfind => h' q info (h q info hfind)

/-- **What `Add` does**: it fails, it finds a wrapper of the class, or it inserts. -/
theorem add_cases (store : KeysetWrapperStore T) (wrapper : Option (AnyWrapper T)) :
    (∃ e, store.add wrapper = (.error e, store)) ∨
    (∃ w info, wrapper = some w ∧ store.find w.q = some info ∧ info.wrapperTypeIndex = w.wrapper.typeIndex ∧
      store.add wrapper = (.ok (), store)) ∨
    ∃ w, wrapper = some w ∧ store.find w.q = none ∧
      store.add wrapper = (.ok (), ⟨store.primitiveToInfo ++ [⟨w.q, ⟨w.p, w.wrapper⟩⟩]⟩) := by
  cases wrapper with
  | none => exact .inl ⟨_, rfl⟩
  | some w =>
    unfold add
    cases hfind : store.find w.q with
    | none =>
      dsimp only
      exact .inr (.inr ⟨w, rfl, hfind, by rw [hfind]⟩)
    | some info =>
      dsimp only
      rw [hfind]
      by_cases hsame : info.hasSameType w.wrapper = true
      · refine .inr (.inl ⟨w, info, rfl, hfind, by simpa [Info.hasSameType] using hsame, ?_⟩)
        simp [hsame]
      · refine .inl ⟨⟨.alreadyExists, "A wrapper named for this primitive already exists."⟩, ?_⟩
        simp [hsame]

theorem find_append (store : KeysetWrapperStore T) (entry : (q : TypeIndex) × Info T q) (q : TypeIndex) :
    (⟨store.primitiveToInfo ++ [entry]⟩ : KeysetWrapperStore T).find q = (store.find q).or ([entry].dlookup q) := by
  unfold find
  exact List.dlookup_append ..

theorem add_extends (store : KeysetWrapperStore T) (wrapper : Option (AnyWrapper T)) :
    Extends store (store.add wrapper).2 := by
  rcases add_cases store wrapper with ⟨e, h⟩ | ⟨w, info, -, -, -, h⟩ | ⟨w, -, -, h⟩
  · rw [h]
    exact .refl store
  · rw [h]
    exact .refl store
  · rw [h]
    intro q info hfind
    rw [find_append, hfind]
    rfl

/-! ## Errors that do not come back -/

/-- `Get` fails only where there is no wrapper. -/
theorem get_eq (store : KeysetWrapperStore T) (q : TypeIndex) :
    store.get q = match store.find q with
      | none => .error ⟨.notFound, s!"No wrapper registered for type {q.name}"⟩
      | some info => .ok info := by
  unfold get
  cases store.find q with
  | none => rfl
  | some info => exact if_neg (not_not.2 rfl)

theorem get_ok {store : KeysetWrapperStore T} {q : TypeIndex} {info : Info T q} :
    store.get q = .ok info ↔ store.find q = some info := by
  rw [get_eq]
  cases store.find q with
  | none => simp
  | some found => simp

end KeysetWrapperStore

end Tink
