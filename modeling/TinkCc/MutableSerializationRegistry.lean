import TinkCc.LibFirstWins
import TinkCc.PublicKeysetHandle
/-!
# MutableSerializationRegistry — parsers and serializers of keys and parameters

`internal/serialization_registry.{h,cc}` and `internal/mutable_serialization_registry.{h,cc}`, with the templates of
`internal/{key,parameters}_{parser,serializer}.h` and the indices.  A call holds the lock, so runs are lists of calls.  What
has been registered stays and decides every later answer (`mutableSerializationRegistry`).
-/
namespace Tink

/-- `ProtoParametersSerialization`, with what `Create` checks. -/
structure ProtoParametersSerialization where
  keyTemplate : KeyTemplate
  printable   : isPrintableAscii keyTemplate.typeUrl = true

def ProtoParametersSerialization.create (keyTemplate : KeyTemplate) : Except Status ProtoParametersSerialization :=
  if h : isPrintableAscii keyTemplate.typeUrl = true then .ok ⟨keyTemplate, h⟩
  else .error ⟨.invalidArgument, "Non-printable ASCII character in type URL."⟩

namespace Internal

/-! ## Serializations -/

/-- The classes of serializations, as `type_index` tells them apart. -/
inductive SerializationType
  | protoKeySerialization
  | protoParametersSerialization
  | other (name : String)
  deriving DecidableEq, Repr

inductive Serialization
  | protoKey (serialization : ProtoKeySerialization)
  | protoParameters (serialization : ProtoParametersSerialization)
  | other (className objectIdentifier : String)

def Serialization.type : Serialization → SerializationType
  | protoKey _ => .protoKeySerialization
  | protoParameters _ => .protoParametersSerialization
  | other className _ => .other className

def Serialization.objectIdentifier : Serialization → String
  | protoKey s => s.typeUrl
  | protoParameters s => s.keyTemplate.typeUrl
  | other _ objectIdentifier => objectIdentifier

/-- A class of serializations: its `typeid`, and the casts from and to the base class. -/
structure SerializationClass (S : Type) where
  type   : SerializationType
  cast   : Serialization → Option S
  toBase : S → Serialization

def protoKeyClass : SerializationClass ProtoKeySerialization where
  type := .protoKeySerialization
  cast
    | .protoKey s => some s
    | _ => none
  toBase := .protoKey

def protoParametersClass : SerializationClass ProtoParametersSerialization where
  type := .protoParametersSerialization
  cast
    | .protoParameters s => some s
    | _ => none
  toBase := .protoParameters

structure ParserIndex where
  index            : SerializationType
  objectIdentifier : String
  deriving DecidableEq, Repr

def ParserIndex.create (serialization : Serialization) : ParserIndex := ⟨serialization.type, serialization.objectIdentifier⟩

/-- `τ` are the classes of keys or of parameters. -/
structure SerializerIndex (τ : Type) where
  kpIndex            : τ
  serializationIndex : SerializationType
  deriving DecidableEq

/-! ## Parsers and serializers -/

structure ParametersParser (Parameters : Type) where
  index           : ParserIndex
  parseParameters : Serialization → Except Status Parameters

structure ParametersSerializer (Parameters τ : Type) where
  index               : SerializerIndex τ
  serializeParameters : Parameters → Except Status Serialization

structure KeyParser (Key : Type) where
  index    : ParserIndex
  parseKey : Serialization → Option SecretKeyAccessToken → Except Status Key

structure KeySerializer (Key τ : Type) where
  index        : SerializerIndex τ
  serializeKey : Key → Option SecretKeyAccessToken → Except Status Serialization

section Templates
variable {S K Key Parameters τ : Type} (serializationClass : SerializationClass S)

/-- The two checks of a serialization that parsers make before their function reads it. -/
def castForParser (what objectIdentifier : String) (serialization : Serialization) : Except Status S :=
  if serialization.objectIdentifier ≠ objectIdentifier then
    .error ⟨.invalidArgument, s!"Invalid object identifier for this {what} parser."⟩
  else
    match serializationClass.cast serialization with
    | none => .error ⟨.invalidArgument, s!"Invalid serialization type for this {what} parser."⟩
    | some st => .ok st

def parametersParserImpl (objectIdentifier : String) (function : S → Except Status Parameters) :
    ParametersParser Parameters where
  index := ⟨serializationClass.type, objectIdentifier⟩
  parseParameters serialization :=
    (castForParser serializationClass "parameters" objectIdentifier serialization).bind function

def keyParserImpl (objectIdentifier : String) (function : S → Option SecretKeyAccessToken → Except Status Key) :
    KeyParser Key where
  index := ⟨serializationClass.type, objectIdentifier⟩
  parseKey serialization token :=
    (castForParser serializationClass "key" objectIdentifier serialization).bind (function · token)

def parametersSerializerImpl (kpIndex : τ) (cast : Parameters → Option K) (function : K → Except Status S) :
    ParametersSerializer Parameters τ where
  index := ⟨kpIndex, serializationClass.type⟩
  serializeParameters parameters :=
    match cast parameters with
    | none => .error ⟨.invalidArgument, "Invalid parameters type for this parameters serializer."⟩
    | some pt => (function pt).map serializationClass.toBase

def keySerializerImpl (kpIndex : τ) (cast : Key → Option K) (function : K → Option SecretKeyAccessToken → Except Status S) :
    KeySerializer Key τ where
  index := ⟨kpIndex, serializationClass.type⟩
  serializeKey key token :=
    match cast key with
    | none => .error ⟨.invalidArgument, "Invalid key type for this key serializer."⟩
    | some kt => (function kt token).map serializationClass.toBase

end Templates

/-! ## The registry -/

/-- The objects that pointers point to, the classes of keys and of parameters, and what `typeid` calls them. -/
structure SerializationObjects (Parameters Key τ : Type) where
  parametersParser      : Nat → ParametersParser Parameters
  parametersSerializer  : Nat → ParametersSerializer Parameters τ
  keyParser             : Nat → KeyParser Key
  keySerializer         : Nat → KeySerializer Key τ
  typeOfParameters      : Parameters → τ
  typeOfKey             : Key → τ
  serializationTypeName : SerializationType → String
  typeName              : τ → String
  legacyProtoParameters : ProtoParametersSerialization → Parameters
  legacyProtoKey        : ProtoKeySerialization → Key

structure SerializationRegistry (τ : Type) where
  parametersParsers     : ParserIndex → Option Nat := fun _ => none
  parametersSerializers : SerializerIndex τ → Option Nat := fun _ => none
  keyParsers            : ParserIndex → Option Nat := fun _ => none
  keySerializers        : SerializerIndex τ → Option Nat := fun _ => none

/-- A map after a pointer to one of `what` was registered. -/
def registerPointer {κ : Type} [DecidableEq κ] (what : String) (map : κ → Option Nat) (index : κ) (pointer : Nat) :
    Except Status (κ → Option Nat) :=
  match map index with
  | some registered =>
    if registered ≠ pointer then .error ⟨.alreadyExists, s!"Attempted to update existing {what}."⟩ else .ok map
  | none => .ok (Function.update map index (some pointer))

section
variable {Parameters Key τ : Type} [DecidableEq τ] (objects : SerializationObjects Parameters Key τ)

namespace SerializationRegistry

/-! ### `SerializationRegistry::Builder`, which holds the same maps -/

variable (builder : SerializationRegistry τ)

def registerParametersParser (parser : Nat) : Except Status (SerializationRegistry τ) :=
  (registerPointer "parameters parser" builder.parametersParsers (objects.parametersParser parser).index parser).map
    fun map => { builder with parametersParsers := map }

def registerParametersSerializer (serializer : Nat) : Except Status (SerializationRegistry τ) :=
  (registerPointer "parameters serializer" builder.parametersSerializers (objects.parametersSerializer serializer).index
    serializer).map fun map => { builder with parametersSerializers := map }

def registerKeyParser (parser : Nat) : Except Status (SerializationRegistry τ) :=
  (registerPointer "key parser" builder.keyParsers (objects.keyParser parser).index parser).map
    fun map => { builder with keyParsers := map }

def registerKeySerializer (serializer : Nat) : Except Status (SerializationRegistry τ) :=
  (registerPointer "key serializer" builder.keySerializers (objects.keySerializer serializer).index serializer).map
    fun map => { builder with keySerializers := map }

/-! ### Reads -/

variable (registry : SerializationRegistry τ)

def parseParameters (serialization : Serialization) : Except Status Parameters :=
  match registry.parametersParsers (ParserIndex.create serialization) with
  | none =>
    let name := objects.serializationTypeName serialization.type
    .error ⟨.notFound, s!"No parameters parser found for parameters type {name}"⟩
  | some parser => (objects.parametersParser parser).parseParameters serialization

def parseParametersWithLegacyFallback (serialization : Serialization) : Except Status Parameters :=
  match registry.parseParameters objects serialization with
  | .ok parameters => .ok parameters
  | .error e =>
    if e.code = .notFound then
      match serialization with
      | .protoParameters s => .ok (objects.legacyProtoParameters s)
      | _ => .error ⟨.internal, "Failed to convert serialization to ProtoParametersSerialization."⟩
    else .error e

def serializeParameters (serializationType : SerializationType) (parameters : Parameters) : Except Status Serialization :=
  match registry.parametersSerializers ⟨objects.typeOfParameters parameters, serializationType⟩ with
  | none =>
    let name := objects.typeName (objects.typeOfParameters parameters)
    .error ⟨.notFound, s!"No parameters serializer found for parameters type {name}"⟩
  | some serializer => (objects.parametersSerializer serializer).serializeParameters parameters

def parseKey (serialization : Serialization) (token : Option SecretKeyAccessToken) : Except Status Key :=
  match registry.keyParsers (ParserIndex.create serialization) with
  | none =>
    let name := objects.serializationTypeName serialization.type
    .error ⟨.notFound, s!"No key parser found for serialization type {name}"⟩
  | some parser => (objects.keyParser parser).parseKey serialization token

/-- `LegacyProtoKey::Create`. -/
def createLegacyProtoKey (s : ProtoKeySerialization) (token : Option SecretKeyAccessToken) : Except Status Key :=
  if (s.keyMaterialType = .symmetric ∨ s.keyMaterialType = .asymmetricPrivate) ∧ token = none then
    .error ⟨.permissionDenied, "Missing secret key access token for legacy proto key."⟩
  else .ok (objects.legacyProtoKey s)

def parseKeyWithLegacyFallback (serialization : Serialization) (token : SecretKeyAccessToken) : Except Status Key :=
  match registry.parseKey objects serialization (some token) with
  | .ok key => .ok key
  | .error e =>
    if e.code = .notFound then
      match serialization with
      | .protoKey s => createLegacyProtoKey objects s (some token)
      | _ => .error ⟨.internal, "Failed to convert serialization to ProtoKeySerialization."⟩
    else .error e

def serializeKey (serializationType : SerializationType) (key : Key) (token : Option SecretKeyAccessToken) :
    Except Status Serialization :=
  match registry.keySerializers ⟨objects.typeOfKey key, serializationType⟩ with
  | none =>
    let name := objects.typeName (objects.typeOfKey key)
    .error ⟨.notFound, s!"No key serializer found for key type {name}"⟩
  | some serializer => (objects.keySerializer serializer).serializeKey key token

end SerializationRegistry

/-! ## The mutable registry -/

namespace MutableSerializationRegistry

/-- The calls that change the registry. -/
inductive Call
  | registerParametersParser (parser : Nat)
  | registerParametersSerializer (serializer : Nat)
  | registerKeyParser (parser : Nat)
  | registerKeySerializer (serializer : Nat)
  | reset
  deriving DecidableEq, Repr

/-- The registry that a builder gives, if the call did not fail. -/
def build (registry : SerializationRegistry τ) : Except Status (SerializationRegistry τ) →
    Except Status Unit × SerializationRegistry τ
  | .error e => (.error e, registry)
  | .ok built => (.ok (), built)

def step (registry : SerializationRegistry τ) : Call → Except Status Unit × SerializationRegistry τ
  | .registerParametersParser parser => build registry (registry.registerParametersParser objects parser)
  | .registerParametersSerializer serializer => build registry (registry.registerParametersSerializer objects serializer)
  | .registerKeyParser parser => build registry (registry.registerKeyParser objects parser)
  | .registerKeySerializer serializer => build registry (registry.registerKeySerializer objects serializer)
  | .reset => (.ok (), {})

/-- The registry after some calls, whatever they have returned. -/
def run (registry : SerializationRegistry τ) (calls : List Call) : SerializationRegistry τ :=
  calls.foldl (fun registry call => (step objects registry call).2) registry

/-- What the calls return. -/
def answers : SerializationRegistry τ → List Call → List (Except Status Unit)
  | _, [] => []
  | registry, call :: calls => (step objects registry call).1 :: answers (step objects registry call).2 calls

end MutableSerializationRegistry

end

/-! ## The four maps as one -/

/-- An index, with the map that it is one of. -/
inductive Index (τ : Type)
  | parametersParser (index : ParserIndex)
  | parametersSerializer (index : SerializerIndex τ)
  | keyParser (index : ParserIndex)
  | keySerializer (index : SerializerIndex τ)
  deriving DecidableEq

variable {Parameters Key τ : Type}

def SerializationRegistry.table (registry : SerializationRegistry τ) : FirstWins.Table (Index τ) Nat
  | .parametersParser index => registry.parametersParsers index
  | .parametersSerializer index => registry.parametersSerializers index
  | .keyParser index => registry.keyParsers index
  | .keySerializer index => registry.keySerializers index

theorem SerializationRegistry.table_injective {registry registry' : SerializationRegistry τ}
    (h : registry.table = registry'.table) : registry = registry' := by
  obtain ⟨parametersParsers, parametersSerializers, keyParsers, keySerializers⟩ := registry
  obtain ⟨parametersParsers', parametersSerializers', keyParsers', keySerializers'⟩ := registry'
  congr 1 <;> funext index
  · exact congrFun h (.parametersParser index)
  · exact congrFun h (.parametersSerializer index)
  · exact congrFun h (.keyParser index)
  · exact congrFun h (.keySerializer index)

theorem SerializationRegistry.table_empty : ({} : SerializationRegistry τ).table = fun _ => none := by
  funext index
  cases index <;> rfl

/-! ## What stays -/

/-- What `ParseKeyWithLegacyFallback` gives without a parser. -/
def SerializationObjects.legacyKey (objects : SerializationObjects Parameters Key τ) : Serialization → Except Status Key
  | .protoKey p => .ok (objects.legacyProtoKey p)
  | _ => .error ⟨.internal, "Failed to convert serialization to ProtoKeySerialization."⟩

/-- What `ParseParametersWithLegacyFallback` gives without a parser. -/
def SerializationObjects.legacyParameters (objects : SerializationObjects Parameters Key τ) :
    Serialization → Except Status Parameters
  | .protoParameters p => .ok (objects.legacyProtoParameters p)
  | _ => .error ⟨.internal, "Failed to convert serialization to ProtoParametersSerialization."⟩

section Stays
variable {objects : SerializationObjects Parameters Key τ} {registry registry' : SerializationRegistry τ}

open FirstWins

theorem parseParameters_extends (h : Extends registry.table registry'.table) {s : Serialization}
    (hfound : (registry.parametersParsers (.create s)).isSome) :
    registry'.parseParameters objects s = registry.parseParameters objects s := by
  obtain ⟨parser, hparser⟩ := Option.isSome_iff_exists.1 hfound
  have hparser' : registry'.parametersParsers (.create s) = some parser := @h (.parametersParser (.create s)) parser hparser
  unfold SerializationRegistry.parseParameters
  rw [hparser, hparser']

theorem serializeParameters_extends (h : Extends registry.table registry'.table) {serializationType : SerializationType}
    {parameters : Parameters}
    (hfound : (registry.parametersSerializers ⟨objects.typeOfParameters parameters, serializationType⟩).isSome) :
    registry'.serializeParameters objects serializationType parameters =
      registry.serializeParameters objects serializationType parameters := by
  obtain ⟨serializer, hserializer⟩ := Option.isSome_iff_exists.1 hfound
  have hserializer' : registry'.parametersSerializers ⟨objects.typeOfParameters parameters, serializationType⟩ =
      some serializer := @h (.parametersSerializer ⟨_, _⟩) serializer hserializer
  unfold SerializationRegistry.serializeParameters
  rw [hserializer, hserializer']

theorem parseKey_extends (h : Extends registry.table registry'.table) {s : Serialization}
    (hfound : (registry.keyParsers (.create s)).isSome) (token : Option SecretKeyAccessToken) :
    registry'.parseKey objects s token = registry.parseKey objects s token := by
  obtain ⟨parser, hparser⟩ := Option.isSome_iff_exists.1 hfound
  have hparser' : registry'.keyParsers (.create s) = some parser := @h (.keyParser (.create s)) parser hparser
  unfold SerializationRegistry.parseKey
  rw [hparser, hparser']

theorem serializeKey_extends (h : Extends registry.table registry'.table) {serializationType : SerializationType} {key : Key}
    (hfound : (registry.keySerializers ⟨objects.typeOfKey key, serializationType⟩).isSome)
    (token : Option SecretKeyAccessToken) :
    registry'.serializeKey objects serializationType key token =
      registry.serializeKey objects serializationType key token := by
  obtain ⟨serializer, hserializer⟩ := Option.isSome_iff_exists.1 hfound
  have hserializer' : registry'.keySerializers ⟨objects.typeOfKey key, serializationType⟩ = some serializer :=
    @h (.keySerializer ⟨_, _⟩) serializer hserializer
  unfold SerializationRegistry.serializeKey
  rw [hserializer, hserializer']

/-- Without a parser a key that can be parsed is a legacy key. -/
theorem parseKeyWithLegacyFallback_none {s : Serialization} (h : registry.keyParsers (.create s) = none)
    (token : SecretKeyAccessToken) :
    registry.parseKeyWithLegacyFallback objects s token = objects.legacyKey s := by
  unfold SerializationRegistry.parseKeyWithLegacyFallback SerializationRegistry.parseKey
  rw [h]
  cases s with
  | protoKey p =>
    dsimp only
    unfold SerializationRegistry.createLegacyProtoKey
    simp [SerializationObjects.legacyKey]
  | protoParameters p => rfl
  | other className objectIdentifier => rfl

theorem parseParametersWithLegacyFallback_none {s : Serialization} (h : registry.parametersParsers (.create s) = none) :
    registry.parseParametersWithLegacyFallback objects s = objects.legacyParameters s := by
  unfold SerializationRegistry.parseParametersWithLegacyFallback SerializationRegistry.parseParameters
  rw [h]
  cases s <;> rfl

/-- A key that was parsed is parsed again, unless it was a legacy key. -/
theorem parseKeyWithLegacyFallback_extends (h : Extends registry.table registry'.table) {s : Serialization}
    {token : SecretKeyAccessToken} {key : Key} (hparse : registry.parseKeyWithLegacyFallback objects s token = .ok key) :
    registry'.parseKeyWithLegacyFallback objects s token = .ok key ∨
      registry.keyParsers (.create s) = none ∧ (registry'.keyParsers (.create s)).isSome ∧
        ∃ p, s = .protoKey p ∧ key = objects.legacyProtoKey p := by
  cases hfound : registry.keyParsers (.create s) with
  | some parser =>
    left
    rw [← hparse]
    unfold SerializationRegistry.parseKeyWithLegacyFallback
    rw [parseKey_extends h (hfound ▸ rfl)]
  | none =>
    have hlegacy := (parseKeyWithLegacyFallback_none hfound token).symm.trans hparse
    cases s with
    | protoParameters p => cases hlegacy
    | other className objectIdentifier => cases hlegacy
    | protoKey p =>
      obtain rfl := Except.ok.inj hlegacy
      cases hfound' : registry'.keyParsers (.create (.protoKey p)) with
      | none => exact .inl (parseKeyWithLegacyFallback_none hfound' token)
      | some parser => exact .inr ⟨rfl, rfl, p, rfl, rfl⟩

theorem parseParametersWithLegacyFallback_extends (h : Extends registry.table registry'.table) {s : Serialization}
    {parameters : Parameters} (hparse : registry.parseParametersWithLegacyFallback objects s = .ok parameters) :
    registry'.parseParametersWithLegacyFallback objects s = .ok parameters ∨
      registry.parametersParsers (.create s) = none ∧ (registry'.parametersParsers (.create s)).isSome ∧
        ∃ p, s = .protoParameters p ∧ parameters = objects.legacyProtoParameters p := by
  cases hfound : registry.parametersParsers (.create s) with
  | some parser =>
    left
    rw [← hparse]
    unfold SerializationRegistry.parseParametersWithLegacyFallback
    rw [parseParameters_extends h (hfound ▸ rfl)]
  | none =>
    have hlegacy := (parseParametersWithLegacyFallback_none hfound).symm.trans hparse
    cases s with
    | protoKey p => cases hlegacy
    | other className objectIdentifier => cases hlegacy
    | protoParameters p =>
      obtain rfl := Except.ok.inj hlegacy
      cases hfound' : registry'.parametersParsers (.create (.protoParameters p)) with
      | none => exact .inl (parseParametersWithLegacyFallback_none hfound')
      | some parser => exact .inr ⟨rfl, rfl, p, rfl, rfl⟩

end Stays

section
variable [DecidableEq τ] (objects : SerializationObjects Parameters Key τ)

open MutableSerializationRegistry FirstWins

/-- What a call registers. -/
def MutableSerializationRegistry.Call.entry : Call → Option (Index τ × Nat)
  | .registerParametersParser parser => some (.parametersParser (objects.parametersParser parser).index, parser)
  | .registerParametersSerializer serializer =>
    some (.parametersSerializer (objects.parametersSerializer serializer).index, serializer)
  | .registerKeyParser parser => some (.keyParser (objects.keyParser parser).index, parser)
  | .registerKeySerializer serializer => some (.keySerializer (objects.keySerializer serializer).index, serializer)
  | .reset => none

theorem registerPointer_eq {κ : Type} [DecidableEq κ] (what : String) (map : κ → Option Nat) (index : κ) (pointer : Nat) :
    registerPointer what map index pointer =
      if map index = none ∨ map index = some pointer then
        .ok fun k => (map k).or (if index = k then some pointer else none)
      else .error ⟨.alreadyExists, s!"Attempted to update existing {what}."⟩ := by
  unfold registerPointer
  cases hmap : map index with
  | none =>
    rw [if_pos (.inl rfl)]
    refine congrArg Except.ok (funext fun k => ?_)
    by_cases hk : index = k
    · subst hk
      simp [hmap]
    · simp [hk, Function.update_of_ne (Ne.symm hk)]
  | some registered =>
    by_cases hsame : registered = pointer
    · subst hsame
      dsimp only
      rw [if_neg (not_not_intro rfl), if_pos (.inr rfl)]
      refine congrArg Except.ok (funext fun k => ?_)
      by_cases hk : index = k
      · subst hk
        simp [hmap]
      · simp [hk]
    · simp [hsame]

/-- One of the four maps, put back with a pointer more. -/
theorem build_table {κ : Type} [DecidableEq κ] {registry : SerializationRegistry τ} {what : String} {map : κ → Option Nat}
    {put : (κ → Option Nat) → SerializationRegistry τ} {inject : κ → Index τ} (hinject : Function.Injective inject)
    (hmap : ∀ k, registry.table (inject k) = map k) (hput : ∀ map k, (put map).table (inject k) = map k)
    (hother : ∀ map i, (∀ k, inject k ≠ i) → (put map).table i = registry.table i) (index : κ) (pointer : Nat) :
    (build registry ((registerPointer what map index pointer).map put)).2.table =
        after registry.table (inject index, pointer) ∧
      ((build registry ((registerPointer what map index pointer).map put)).1 = .ok () ↔
        registry.table (inject index) = none ∨ registry.table (inject index) = some pointer) := by
  rw [registerPointer_eq, hmap]
  by_cases haccepted : map index = none ∨ map index = some pointer
  · rw [if_pos haccepted]
    refine ⟨funext fun i => ?_, fun _ => haccepted, fun _ => rfl⟩
    rw [after_apply]
    by_cases hi : ∃ k, inject k = i
    · obtain ⟨k, rfl⟩ := hi
      refine (hput _ k).trans ?_
      rw [hmap]
      by_cases hk : index = k
      · rw [if_pos hk, if_pos (congrArg inject hk)]
      · rw [if_neg hk, if_neg (hinject.ne hk)]
    · refine (hother _ i fun k hk => hi ⟨k, hk⟩).trans ?_
      rw [if_neg fun hk => hi ⟨index, hk⟩, Option.or_none]
  · rw [if_neg haccepted]
    refine ⟨?_, (nomatch ·), fun h => absurd h haccepted⟩
    have hrefused : register registry.table (inject index) pointer = none := by
      unfold register
      rw [hmap, if_neg haccepted]
    unfold after
    rw [hrefused]
    rfl

/-- **A call registers its entry**, if there is no other one. -/
theorem step_table {registry : SerializationRegistry τ} {call : Call} {entry : Index τ × Nat}
    (h : call.entry objects = some entry) :
    (step objects registry call).2.table = after registry.table entry ∧
      ((step objects registry call).1 = .ok () ↔ (register registry.table entry.1 entry.2).isSome) := by
  rw [register_isSome_iff]
  cases call with
  | reset => cases h
  | registerParametersParser parser =>
    cases h
    refine build_table (fun _ _ => Index.parametersParser.inj) (fun _ => rfl) (fun _ _ => rfl) (fun _ i hi => ?_) _ _
    cases i <;> first | rfl | exact absurd rfl (hi _)
  | registerParametersSerializer serializer =>
    cases h
    refine build_table (fun _ _ => Index.parametersSerializer.inj) (fun _ => rfl) (fun _ _ => rfl) (fun _ i hi => ?_) _ _
    cases i <;> first | rfl | exact absurd rfl (hi _)
  | registerKeyParser parser =>
    cases h
    refine build_table (fun _ _ => Index.keyParser.inj) (fun _ => rfl) (fun _ _ => rfl) (fun _ i hi => ?_) _ _
    cases i <;> first | rfl | exact absurd rfl (hi _)
  | registerKeySerializer serializer =>
    cases h
    refine build_table (fun _ _ => Index.keySerializer.inj) (fun _ => rfl) (fun _ _ => rfl) (fun _ i hi => ?_) _ _
    cases i <;> first | rfl | exact absurd rfl (hi _)

/-- What calls register, in their order. -/
def entries (calls : List Call) : List (Index τ × Nat) := calls.filterMap (Call.entry objects)

omit [DecidableEq τ] in
theorem entry_isSome {call : Call} (h : call ≠ .reset) : ∃ entry, call.entry objects = some entry := by
  cases call with
  | reset => exact absurd rfl h
  | _ => exact ⟨_, rfl⟩

omit [DecidableEq τ] in
theorem entries_cons {call : Call} {entry : Index τ × Nat} (h : call.entry objects = some entry) (calls : List Call) :
    entries objects (call :: calls) = entry :: entries objects calls :=
  List.filterMap_cons_some h

/-- A run without a reset is a run of registrations. -/
theorem run_table (registry : SerializationRegistry τ) {calls : List Call} (h : .reset ∉ calls) :
    (run objects registry calls).table = FirstWins.run registry.table (entries objects calls) := by
  induction calls generalizing registry with
  | nil => rfl
  | cons call calls ih =>
    have hcall : call ≠ .reset := fun hreset => h (hreset ▸ List.mem_cons_self)
    obtain ⟨entry, hentry⟩ := entry_isSome objects hcall
    rw [entries_cons objects hentry]
    refine (ih (step objects registry call).2 fun hmem => h (List.mem_cons_of_mem _ hmem)).trans ?_
    rw [(step_table objects hentry).1]
    rfl

theorem run_extends (registry : SerializationRegistry τ) {calls : List Call} (h : .reset ∉ calls) :
    Extends registry.table (run objects registry calls).table := by
  rw [run_table objects registry h]
  exact extends_run _ _

/-- The calls succeed if the registrations are accepted. -/
theorem answers_ok_iff (registry : SerializationRegistry τ) {calls : List Call} (h : .reset ∉ calls) :
    (∀ answer ∈ answers objects registry calls, answer = .ok ()) ↔ acceptsAll registry.table (entries objects calls) := by
  induction calls generalizing registry with
  | nil => simp [answers, entries, acceptsAll]
  | cons call calls ih =>
    have hcall : call ≠ .reset := fun hreset => h (hreset ▸ List.mem_cons_self)
    obtain ⟨entry, hentry⟩ := entry_isSome objects hcall
    obtain ⟨htable, hok⟩ : (step objects registry call).2.table = _ ∧ ((step objects registry call).1 = _ ↔ _) :=
      step_table objects hentry
    rw [entries_cons objects hentry]
    simp only [answers, acceptsAll, List.forall_mem_cons, hok, ← htable]
    rw [ih (step objects registry call).2 fun hmem => h (List.mem_cons_of_mem _ hmem)]

theorem run_append (registry : SerializationRegistry τ) (calls calls' : List Call) :
    MutableSerializationRegistry.run objects registry (calls ++ calls') =
      MutableSerializationRegistry.run objects (MutableSerializationRegistry.run objects registry calls) calls' :=
  List.foldl_append

theorem run_reset (registry : SerializationRegistry τ) (calls : List Call) :
    MutableSerializationRegistry.run objects registry (.reset :: calls) = MutableSerializationRegistry.run objects {} calls :=
  rfl

/-- **The mutable registry.**  After a reset every index has the first object that was registered under it.  Calls other
than resets keep the objects, and so all that was parsed or serialized by one; a key or parameters that were a legacy
object, for want of a parser, may be parsed by a parser later, or refused by it.  Calls that all succeed may come in
another order, and more than once: they succeed, and the registry is the same. -/
theorem mutableSerializationRegistry :
    (∀ before calls, .reset ∉ calls → (MutableSerializationRegistry.run objects {} (before ++ .reset :: calls)).table =
      first (entries objects calls)) ∧
    (∀ (registry : SerializationRegistry τ) (calls : List Call), .reset ∉ calls →
      ∀ registry', MutableSerializationRegistry.run objects registry calls = registry' →
        (∀ s, (registry.parametersParsers (.create s)).isSome →
          registry'.parseParameters objects s = registry.parseParameters objects s) ∧
        (∀ type parameters, (registry.parametersSerializers ⟨objects.typeOfParameters parameters, type⟩).isSome →
          registry'.serializeParameters objects type parameters = registry.serializeParameters objects type parameters) ∧
        (∀ s token, (registry.keyParsers (.create s)).isSome →
          registry'.parseKey objects s token = registry.parseKey objects s token) ∧
        (∀ type key token, (registry.keySerializers ⟨objects.typeOfKey key, type⟩).isSome →
          registry'.serializeKey objects type key token = registry.serializeKey objects type key token) ∧
        (∀ s parameters, registry.parseParametersWithLegacyFallback objects s = .ok parameters →
          registry'.parseParametersWithLegacyFallback objects s = .ok parameters ∨
            registry.parametersParsers (.create s) = none ∧ (registry'.parametersParsers (.create s)).isSome ∧
              ∃ p, s = .protoParameters p ∧ parameters = objects.legacyProtoParameters p) ∧
        ∀ s token key, registry.parseKeyWithLegacyFallback objects s token = .ok key →
          registry'.parseKeyWithLegacyFallback objects s token = .ok key ∨
            registry.keyParsers (.create s) = none ∧ (registry'.keyParsers (.create s)).isSome ∧
              ∃ p, s = .protoKey p ∧ key = objects.legacyProtoKey p) ∧
    ∀ calls calls', .reset ∉ calls → (∀ answer ∈ answers objects ({} : SerializationRegistry τ) calls, answer = .ok ()) →
      (∀ call, call ∈ calls' ↔ call ∈ calls) →
        (∀ answer ∈ answers objects ({} : SerializationRegistry τ) calls', answer = .ok ()) ∧
          MutableSerializationRegistry.run objects ({} : SerializationRegistry τ) calls' =
            MutableSerializationRegistry.run objects {} calls := by
  refine ⟨fun before calls hreset => ?_, fun registry calls hreset registry' hrun => ?_,
    fun calls calls' hreset hok hsame => ?_⟩
  · rw [run_append, run_reset, run_table objects {} hreset, SerializationRegistry.table_empty]
    funext index
    rw [FirstWins.run_apply, Option.none_or]
  · have hextends := hrun ▸ run_extends objects registry hreset
    refine ⟨fun s => parseParameters_extends hextends, fun type parameters => serializeParameters_extends hextends,
      fun s token hfound => parseKey_extends hextends hfound token,
      fun type key token hfound => serializeKey_extends hextends hfound token,
      fun s parameters => parseParametersWithLegacyFallback_extends hextends,
      fun s token key => parseKeyWithLegacyFallback_extends hextends⟩
  · have hreset' : .reset ∉ calls' := fun h => hreset ((hsame _).1 h)
    have hmem : ∀ e, e ∈ entries objects calls ↔ e ∈ entries objects calls' := by
      intro e
      simp only [entries, List.mem_filterMap, hsame]
    rw [answers_ok_iff objects _ hreset, SerializationRegistry.table_empty, acceptsAll_iff] at hok
    obtain ⟨-, hconsistent⟩ := hok
    constructor
    · rw [answers_ok_iff objects _ hreset', SerializationRegistry.table_empty, acceptsAll_iff]
      exact ⟨fun _ _ _ => .inl rfl, fun k v w hv hw => hconsistent ((hmem _).2 hv) ((hmem _).2 hw)⟩
    · refine SerializationRegistry.table_injective ?_
      rw [run_table objects _ hreset', run_table objects _ hreset, SerializationRegistry.table_empty]
      exact (run_congr hconsistent hmem).symm

end

section Example

/-- Two parsers of one type URL: the first one takes a key that the second one refuses. -/
def namedObjects : SerializationObjects Unit String Unit where
  parametersParser _ := parametersParserImpl protoParametersClass "k" fun _ => .ok ()
  parametersSerializer _ := parametersSerializerImpl protoParametersClass () some fun _ => .error ⟨.unimplemented, ""⟩
  keyParser
    | 0 => keyParserImpl protoKeyClass "k" fun _ _ => .ok "parsed"
    | _ => keyParserImpl protoKeyClass "k" fun _ _ => .error ⟨.invalidArgument, "refused"⟩
  keySerializer _ := keySerializerImpl protoKeyClass () some fun _ _ => .error ⟨.unimplemented, ""⟩
  typeOfParameters _ := ()
  typeOfKey _ := ()
  serializationTypeName _ := ""
  typeName _ := ""
  legacyProtoParameters _ := ()
  legacyProtoKey _ := "legacy"

def namedSerialization : Serialization := .protoKey ⟨"k", [], .symmetric, .tink, some 1, by decide, by decide⟩

/-- The legacy key of before is refused by the parser that comes then, which another one does not replace.  In either order
with a serializer the registry is the same. -/
theorem mutableSerializationRegistry_refusing :
    ((MutableSerializationRegistry.run namedObjects {} [.registerKeyParser 0, .reset, .registerKeyParser 1,
      .registerKeyParser 0]).table = FirstWins.first (entries namedObjects [.registerKeyParser 1, .registerKeyParser 0])) ∧
    ({} : SerializationRegistry Unit).parseKeyWithLegacyFallback namedObjects namedSerialization .insecure = .ok "legacy" ∧
    (MutableSerializationRegistry.run namedObjects {} [.registerKeyParser 1]).parseKeyWithLegacyFallback namedObjects
      namedSerialization .insecure = .error ⟨.invalidArgument, "refused"⟩ ∧
    (MutableSerializationRegistry.run namedObjects {} [.registerKeyParser 1, .registerKeyParser 0]).parseKey namedObjects
      namedSerialization none = .error ⟨.invalidArgument, "refused"⟩ ∧
    MutableSerializationRegistry.run namedObjects {} [.registerKeySerializer 0, .registerKeyParser 0] =
      MutableSerializationRegistry.run namedObjects {} [.registerKeyParser 0, .registerKeySerializer 0] := by
  obtain ⟨hreset, hstays, horder⟩ := mutableSerializationRegistry namedObjects
  refine ⟨hreset [.registerKeyParser 0] [.registerKeyParser 1, .registerKeyParser 0] (by decide), rfl, rfl, ?_, ?_⟩
  · obtain ⟨-, -, hkeys, -⟩ := hstays (MutableSerializationRegistry.run namedObjects {} [.registerKeyParser 1])
      [.registerKeyParser 0] (by decide) _ rfl
    exact (hkeys namedSerialization none rfl).trans rfl
  · refine (horder [.registerKeyParser 0, .registerKeySerializer 0] [.registerKeySerializer 0, .registerKeyParser 0]
      (by decide) ?_ ?_).2
    · intro answer hanswer
      have hanswers : MutableSerializationRegistry.answers namedObjects {} [.registerKeyParser 0,
          .registerKeySerializer 0] = [.ok (), .ok ()] := rfl
      simpa [hanswers] using hanswer
    · intro call
      simp [or_comm]

end Example

end Internal

end Tink
