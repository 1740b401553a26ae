import Mathlib.Data.List.Forall2
import TinkCc.JwtPublicKeys
import TinkCc.RawJwt
/-!
# JsonPaths — JSON values by what is found on their paths

A member of an object or an element of a list is a step down, and a value is known by what stands at the end of each path:
two values are the same when they agree on every path, in whatever order their members are stored.
-/
namespace Tink

inductive JsonStep
  | member (name : Bytes)
  | index (i : Nat)

/-- A value without what is under it. -/
inductive JsonLeaf
  | notSet
  | null
  | number (value : Double)
  | string (value : Bytes)
  | bool (value : Bool)
  | struct
  | list (size : Nat)

namespace JsonValue

def leaf : JsonValue → JsonLeaf
  | notSet => .notSet
  | null => .null
  | number value => .number value
  | string value => .string value
  | bool value => .bool value
  | struct _ => .struct
  | list values => .list values.length

def child : JsonStep → JsonValue → Option JsonValue
  | .member name, struct fields => JsonStruct.find name ⟨fields⟩
  | .index i, list values => values[i]?
  | _, _ => none

/-- What is at the end of a path. -/
def leafAt : List JsonStep → JsonValue → Option JsonLeaf
  | [], value => some value.leaf
  | step :: path, value => (value.child step).bind (leafAt path)

/-- **The same value.** -/
def Same (value value' : JsonValue) : Prop := ∀ path, value.leafAt path = value'.leafAt path

theorem Same.refl (value : JsonValue) : value.Same value := fun _ => rfl

theorem Same.symm {value value' : JsonValue} (h : value.Same value') : value'.Same value := fun path => (h path).symm

theorem Same.trans {value value' value'' : JsonValue} (h : value.Same value') (h' : value'.Same value'') :
    value.Same value'' := fun path => (h path).trans (h' path)

theorem Same.leaf_eq {value value' : JsonValue} (h : value.Same value') : value.leaf = value'.leaf :=
  Option.some.inj (h [])

/-- What one step leads to is the same, or there is nothing in both. -/
theorem Same.child {value value' : JsonValue} (h : value.Same value') (step : JsonStep) :
    (value.child step = none ∧ value'.child step = none) ∨
    ∃ under under', value.child step = some under ∧ value'.child step = some under' ∧ under.Same under' := by
  cases hc : value.child step with
  | none =>
    cases hc' : value'.child step with
    | none => exact .inl ⟨rfl, rfl⟩
    | some under' =>
      have hstep := h [step]
      unfold leafAt at hstep
      rw [hc, hc'] at hstep
      cases hstep
  | some under =>
    cases hc' : value'.child step with
    | none =>
      have hstep := h [step]
      unfold leafAt at hstep
      rw [hc, hc'] at hstep
      cases hstep
    | some under' =>
      refine .inr ⟨under, under', rfl, rfl, fun path => ?_⟩
      have hstep := h (step :: path)
      unfold leafAt at hstep
      rw [hc, hc'] at hstep
      exact hstep

/-- Two lists that are the same have the same values one by one. -/
theorem Same.values {values values' : List JsonValue} (h : (list values).Same (list values')) :
    List.Forall₂ Same values values' := by
  have hlength : values.length = values'.length := JsonLeaf.list.inj h.leaf_eq
  refine List.forall₂_iff_get.2 ⟨hlength, fun i hi hi' => ?_⟩
  have hvalue : (list values).child (.index i) = some values[i] := List.getElem?_eq_getElem hi
  have hvalue' : (list values').child (.index i) = some values'[i] := List.getElem?_eq_getElem hi'
  rcases h.child (.index i) with ⟨hnone, -⟩ | ⟨under, under', hunder, hunder', hsame⟩
  · rw [hvalue] at hnone
    cases hnone
  · obtain rfl := Option.some.inj (hvalue.symm.trans hunder)
    obtain rfl := Option.some.inj (hvalue'.symm.trans hunder')
    exact hsame

/-- Two values that are the same are equal, or two objects, or two lists of values that are the same. -/
theorem Same.cases {value value' : JsonValue} (h : value.Same value') :
    value' = value ∨ (∃ fields fields', value = struct fields ∧ value' = struct fields') ∨
    ∃ values values', value = list values ∧ value' = list values' ∧ List.Forall₂ Same values values' := by
  have hleaf := h.leaf_eq
  cases value with
  | struct fields =>
    cases value' <;> cases hleaf
    exact .inr (.inl ⟨_, _, rfl, rfl⟩)
  | list values =>
    cases value' with
    | list values' => exact .inr (.inr ⟨_, _, rfl, rfl, h.values⟩)
    | notSet | null | number | string | bool | struct => cases hleaf
  | notSet | null | number | string | bool =>
    cases value' <;> cases hleaf
    exact .inl rfl

end JsonValue

/-- What protobuf's JSON can say: a value has a kind, a number is finite, a string is text. -/
def JsonLeaf.WellFormed : JsonLeaf → Prop
  | notSet => False
  | number value => ∃ q, value = .finite q
  | string value => IsText value
  | null | bool _ | struct | list _ => True

/-- **Well formed on every path**, whose names are text. -/
def JsonValue.WellFormed (value : JsonValue) : Prop :=
  ∀ path leaf, value.leafAt path = some leaf → leaf.WellFormed ∧ ∀ name, JsonStep.member name ∈ path → IsText name

namespace JsonStruct

def Equiv (json json' : JsonStruct) : Prop := (JsonValue.struct json.fields).Same (.struct json'.fields)

def WellFormed (json : JsonStruct) : Prop := (JsonValue.struct json.fields).WellFormed

/-- A claim is the same in both, or in neither. -/
theorem Equiv.find {json json' : JsonStruct} (h : json.Equiv json') (name : Bytes) :
    (json.find name = none ∧ json'.find name = none) ∨
    ∃ value value', json.find name = some value ∧ json'.find name = some value' ∧ value.Same value' :=
  JsonValue.Same.child h (.member name)

/-- The same, by what the claims are. -/
theorem Equiv.find_cases {json json' : JsonStruct} (h : json.Equiv json') (name : Bytes) :
    json'.find name = json.find name ∨
    (∃ fields fields', json.find name = some (.struct fields) ∧ json'.find name = some (.struct fields')) ∨
    ∃ values values', json.find name = some (.list values) ∧ json'.find name = some (.list values') ∧
      List.Forall₂ JsonValue.Same values values' := by
  rcases h.find name with ⟨hnone, hnone'⟩ | ⟨value, value', hvalue, hvalue', hsame⟩
  · exact .inl (hnone'.trans hnone.symm)
  · rcases hsame.cases with rfl | ⟨fields, fields', rfl, rfl⟩ | ⟨values, values', rfl, rfl, hvalues⟩
    · exact .inl (hvalue'.trans hvalue.symm)
    · exact .inr (.inl ⟨fields, fields', hvalue, hvalue'⟩)
    · exact .inr (.inr ⟨values, values', hvalue, hvalue', hvalues⟩)

end JsonStruct

namespace JsonValue

theorem WellFormed.child {value under : JsonValue} (h : value.WellFormed) {step : JsonStep}
    (hchild : value.child step = some under) : under.WellFormed := by
  intro path leaf hleaf
  have hpath : value.leafAt (step :: path) = some leaf := by
    unfold leafAt
    rw [hchild]
    exact hleaf
  obtain ⟨hwell, hnames⟩ := h _ leaf hpath
  exact ⟨hwell, fun name hmem => hnames name (List.mem_cons_of_mem _ hmem)⟩

/-- A value with nothing under it. -/
theorem wellFormed_of_leaf {value : JsonValue} (hwell : value.leaf.WellFormed) (hchild : ∀ step, value.child step = none) :
    value.WellFormed := by
  intro path leaf hleaf
  cases path with
  | nil =>
    obtain rfl := Option.some.inj hleaf
    exact ⟨hwell, fun name hmem => by cases hmem⟩
  | cons step path =>
    unfold leafAt at hleaf
    rw [hchild step] at hleaf
    cases hleaf

theorem WellFormed.values {values : List JsonValue} (h : (list values).WellFormed) : ∀ value ∈ values, value.WellFormed := by
  intro value hmem
  obtain ⟨i, hvalue⟩ := List.getElem?_of_mem hmem
  have hchild : (list values).child (.index i) = some value := hvalue
  exact h.child hchild

theorem wellFormed_list {values : List JsonValue} (h : ∀ value ∈ values, value.WellFormed) : (list values).WellFormed := by
  intro path leaf hleaf
  cases path with
  | nil =>
    obtain rfl := Option.some.inj hleaf
    exact ⟨trivial, fun name hmem => by cases hmem⟩
  | cons step path =>
    cases step with
    | member name => cases hleaf
    | index i =>
      obtain ⟨value, hvalue, hleaf⟩ := Option.bind_eq_some_iff.1 hleaf
      obtain ⟨hwell, hnames⟩ := h value (List.mem_of_getElem? hvalue) path leaf hleaf
      refine ⟨hwell, fun name hmem => ?_⟩
      rcases List.mem_cons.1 hmem with heq | hmem
      · cases heq
      · exact hnames name hmem

end JsonValue

namespace JsonStruct

theorem wellFormed_empty : WellFormed {} := by
  intro path leaf hleaf
  cases path with
  | nil =>
    obtain rfl := Option.some.inj hleaf
    exact ⟨trivial, fun name hmem => by cases hmem⟩
  | cons step path =>
    cases step with
    | member name => cases hleaf
    | index i => cases hleaf

theorem WellFormed.set {json : JsonStruct} (h : json.WellFormed) {name : Bytes} (hname : IsText name) {value : JsonValue}
    (hvalue : value.WellFormed) : (json.set name value).WellFormed := by
  intro path leaf hleaf
  cases path with
  | nil =>
    obtain rfl := Option.some.inj hleaf
    exact ⟨trivial, fun name' hmem => by cases hmem⟩
  | cons step path =>
    cases step with
    | index i => cases hleaf
    | member name' =>
      have hfind : ((json.set name value).find name').bind (JsonValue.leafAt path) = some leaf := hleaf
      rw [find_set] at hfind
      by_cases hsame : name = name'
      · subst hsame
        rw [if_pos rfl] at hfind
        obtain ⟨hwell, hnames⟩ := hvalue path leaf hfind
        refine ⟨hwell, fun name' hmem => ?_⟩
        rcases List.mem_cons.1 hmem with heq | hmem
        · exact (JsonStep.member.inj heq) ▸ hname
        · exact hnames name' hmem
      · rw [if_neg hsame] at hfind
        exact h (.member name' :: path) leaf hfind

theorem WellFormed.find {json : JsonStruct} (h : json.WellFormed) {name : Bytes} {value : JsonValue}
    (hfind : json.find name = some value) : value.WellFormed := by
  have hchild : (JsonValue.struct json.fields).child (.member name) = some value := hfind
  exact JsonValue.WellFormed.child h hchild

end JsonStruct

end Tink
