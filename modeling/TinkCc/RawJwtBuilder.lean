import Mathlib.Data.List.Dedup
import Mathlib.Data.Rat.Encodable
import Mathlib.Tactic.DeriveEncodable
import TinkCc.JsonPaths
import TinkCc.JwkSetKeys
import TinkCc.PrimitiveSet
import TinkCc.RegisteredClaims
import TinkCc.StoredKeys
/-!
# RawJwtBuilder — what is built is parsed again

The custom claims of `RawJwt` and the `RawJwtBuilder` of `raw_jwt.cc`.  A builder keeps the first error of most calls, and
goes on setting claims after one.
-/
namespace Tink

/-! ## Custom claims -/

def isRegisteredClaimName (name : Bytes) : Bool :=
  name == jwtClaimIssuer || name == jwtClaimSubject || name == jwtClaimAudience || name == jwtClaimExpiration ||
    name == jwtClaimNotBefore || name == jwtClaimIssuedAt || name == jwtClaimJwtId

def validatePayloadName (name : Bytes) : Except Status Unit :=
  if isRegisteredClaimName name then
    let shown := bytesText name
    .error ⟨.invalidArgument, s!"claim '{shown}' is invalid because it's a registered name; " ++
      "use the corresponding getter or setter method."⟩
  else .ok ()

/-- `Value::KindCase`. -/
inductive KindCase
  | notSet
  | null
  | number
  | string
  | bool
  | struct
  | list
  deriving DecidableEq, Repr

def JsonLeaf.kindCase : JsonLeaf → KindCase
  | notSet => .notSet
  | null => .null
  | number _ => .number
  | string _ => .string
  | bool _ => .bool
  | struct => .struct
  | list _ => .list

def JsonValue.kindCase (value : JsonValue) : KindCase := value.leaf.kindCase

def hasClaimOfKind (json : JsonStruct) (name : Bytes) (kind : KindCase) : Bool :=
  if isRegisteredClaimName name then false
  else
    match json.find name with
    | none => false
    | some value => value.kindCase == kind

def claimIsNotAList (json : JsonStruct) (name : Bytes) : Bool :=
  match json.find name with
  | none => false
  | some value => value.kindCase != .list

/-- The libraries with the JSON of lists too. -/
structure JsonLibraries extends JwtLibraries where
  parseList : Bytes → Option (List JsonValue)
  printList : List JsonValue → Except Status Bytes

/-- `JsonStringToProtoList`. -/
def jsonStringToProtoList (libraries : JsonLibraries) (jsonString : Bytes) : Except Status (List JsonValue) :=
  match libraries.parseList jsonString with
  | none => .error ⟨.invalidArgument, "invalid JSON"⟩
  | some values => .ok values

namespace RawJwt

/-- A getter of custom claims; `kind` is how the messages call what `read` is for. -/
def getCustomClaim {α : Type} (kind : String) (read : JsonValue → Option α) (name : Bytes) (token : RawJwt) :
    Except Status α :=
  match validatePayloadName name with
  | .error e => .error e
  | .ok () =>
    let shown := bytesText name
    match token.jsonProto.find name with
    | none => .error ⟨.notFound, s!"claim '{shown}' not found"⟩
    | some value =>
      match read value with
      | none => .error ⟨.invalidArgument, s!"claim '{shown}' is not {kind}"⟩
      | some claim => .ok claim

def isNullClaim (name : Bytes) (token : RawJwt) : Bool := hasClaimOfKind token.jsonProto name .null
def hasBooleanClaim (name : Bytes) (token : RawJwt) : Bool := hasClaimOfKind token.jsonProto name .bool
def hasStringClaim (name : Bytes) (token : RawJwt) : Bool := hasClaimOfKind token.jsonProto name .string
def hasNumberClaim (name : Bytes) (token : RawJwt) : Bool := hasClaimOfKind token.jsonProto name .number
def hasJsonObjectClaim (name : Bytes) (token : RawJwt) : Bool := hasClaimOfKind token.jsonProto name .struct
def hasJsonArrayClaim (name : Bytes) (token : RawJwt) : Bool := hasClaimOfKind token.jsonProto name .list

def getBooleanClaim : Bytes → RawJwt → Except Status Bool :=
  getCustomClaim "a bool" fun
    | .bool value => some value
    | _ => none

def getStringClaim : Bytes → RawJwt → Except Status Bytes :=
  getCustomClaim "a string" fun
    | .string value => some value
    | _ => none

def getNumberClaim : Bytes → RawJwt → Except Status Double :=
  getCustomClaim "a number" fun
    | .number value => some value
    | _ => none

def objectClaim : Bytes → RawJwt → Except Status JsonStruct :=
  getCustomClaim "a JSON object" fun
    | .struct fields => some ⟨fields⟩
    | _ => none

def getJsonObjectClaim (libraries : JsonLibraries) (name : Bytes) (token : RawJwt) : Except Status Bytes :=
  token.objectClaim name >>= libraries.printStruct

def arrayClaim : Bytes → RawJwt → Except Status (List JsonValue) :=
  getCustomClaim "a JSON array" fun
    | .list values => some values
    | _ => none

def getJsonArrayClaim (libraries : JsonLibraries) (name : Bytes) (token : RawJwt) : Except Status Bytes :=
  token.arrayClaim name >>= libraries.printList

/-- The names, in some order. -/
def customClaimNames (token : RawJwt) : List Bytes :=
  (token.jsonProto.fields.map Prod.fst).dedup.filter fun name => !isRegisteredClaimName name

end RawJwt

/-! ## The builder -/

/-- `absl::ToUnixSeconds`, which rounds down. -/
def toUnixSeconds : AbslTime → Int
  | none => -2 ^ 63
  | some none => 2 ^ 63 - 1
  | some (some ticks) => ticks / 4000000000

def timeToTimestamp (time : AbslTime) : Int := toUnixSeconds time

structure RawJwtBuilder where
  typeHeader        : Option Bytes := none
  jsonProto         : JsonStruct := {}
  error             : Option Status := none
  withoutExpiration : Bool := false

namespace RawJwtBuilder

/-- `if (!error_.has_value()) error_ = status;` -/
def fail (status : Status) (builder : RawJwtBuilder) : RawJwtBuilder :=
  { builder with error := some (builder.error.getD status) }

/-- `error_ = status;` -/
def setError (status : Status) (builder : RawJwtBuilder) : RawJwtBuilder := { builder with error := some status }

/-- `(*fields)[name] = value;` -/
def setField (name : Bytes) (value : JsonValue) (builder : RawJwtBuilder) : RawJwtBuilder :=
  { builder with jsonProto := builder.jsonProto.set name value }

def setTypeHeader (typeHeader : Bytes) (builder : RawJwtBuilder) : RawJwtBuilder :=
  { builder with typeHeader := some typeHeader }

def setIssuer (issuer : Bytes) (builder : RawJwtBuilder) : RawJwtBuilder := builder.setField jwtClaimIssuer (.string issuer)
def setSubject (subject : Bytes) (builder : RawJwtBuilder) : RawJwtBuilder := builder.setField jwtClaimSubject (.string subject)
def setJwtId (jwid : Bytes) (builder : RawJwtBuilder) : RawJwtBuilder := builder.setField jwtClaimJwtId (.string jwid)

def setAudience (audience : Bytes) (builder : RawJwtBuilder) : RawJwtBuilder :=
  if claimIsNotAString builder.jsonProto jwtClaimAudience then
    builder.setError ⟨.invalidArgument, "SetAudience() must not be called together with SetAudiences() or AddAudience"⟩
  else builder.setField jwtClaimAudience (.string audience)

/-- The value that the loop of `SetAudiences` leaves, whose list is made with the first audience. -/
def audiencesValue : List Bytes → JsonValue
  | [] => .notSet
  | audiences => .list (audiences.map .string)

def setAudiences (audiences : List Bytes) (builder : RawJwtBuilder) : RawJwtBuilder :=
  if claimIsNotAList builder.jsonProto jwtClaimAudience then
    builder.setError ⟨.invalidArgument, "SetAudiences() and SetAudience() must not be called together"⟩
  else builder.setField jwtClaimAudience (audiencesValue audiences)

/-- The values of a list, none for a claim that was just inserted. -/
def listValues : Option JsonValue → List JsonValue
  | some (.list values) => values
  | _ => []

def addAudience (audience : Bytes) (builder : RawJwtBuilder) : RawJwtBuilder :=
  if claimIsNotAList builder.jsonProto jwtClaimAudience then
    builder.setError ⟨.invalidArgument, "AddAudience() and SetAudience() must not be called together"⟩
  else
    builder.setField jwtClaimAudience
      (.list (listValues (builder.jsonProto.find jwtClaimAudience) ++ [.string audience]))

def setWithoutExpiration (builder : RawJwtBuilder) : RawJwtBuilder := { builder with withoutExpiration := true }

/-- A setter of a time; `label` is its name in the message. -/
def setTime (name : Bytes) (label : String) (time : AbslTime) (builder : RawJwtBuilder) : RawJwtBuilder :=
  let timestamp := timeToTimestamp time
  if timestamp > jwtTimestampMax ∨ timestamp < 0 then builder.fail ⟨.invalidArgument, s!"invalid {label} timestamp"⟩
  else builder.setField name (.number (.finite timestamp))

def setExpiration : AbslTime → RawJwtBuilder → RawJwtBuilder := setTime jwtClaimExpiration "expiration"
def setNotBefore : AbslTime → RawJwtBuilder → RawJwtBuilder := setTime jwtClaimNotBefore "not_before"
def setIssuedAt : AbslTime → RawJwtBuilder → RawJwtBuilder := setTime jwtClaimIssuedAt "issued_at"

/-- A setter of custom claims, whose value may not parse. -/
def addClaim (name : Bytes) (value : Except Status JsonValue) (builder : RawJwtBuilder) : RawJwtBuilder :=
  match validatePayloadName name with
  | .error e => builder.fail e
  | .ok () =>
    match value with
    | .error e => builder.fail e
    | .ok value => builder.setField name value

def addNullClaim (name : Bytes) : RawJwtBuilder → RawJwtBuilder := addClaim name (.ok .null)
def addBooleanClaim (name : Bytes) (value : Bool) : RawJwtBuilder → RawJwtBuilder := addClaim name (.ok (.bool value))
def addStringClaim (name value : Bytes) : RawJwtBuilder → RawJwtBuilder := addClaim name (.ok (.string value))
def addNumberClaim (name : Bytes) (value : Double) : RawJwtBuilder → RawJwtBuilder := addClaim name (.ok (.number value))

def addJsonObjectClaim (libraries : JsonLibraries) (name objectValue : Bytes) : RawJwtBuilder → RawJwtBuilder :=
  addClaim name ((jsonStringToProtoStruct libraries.toJwtLibraries objectValue).map fun json => .struct json.fields)

def addJsonArrayClaim (libraries : JsonLibraries) (name arrayValue : Bytes) : RawJwtBuilder → RawJwtBuilder :=
  addClaim name ((jsonStringToProtoList libraries arrayValue).map .list)

def build (builder : RawJwtBuilder) : Except Status RawJwt :=
  match builder.error with
  | some e => .error e
  | none =>
    let hasExpiration := (builder.jsonProto.find jwtClaimExpiration).isSome
    if !hasExpiration && !builder.withoutExpiration then
      .error ⟨.invalidArgument, "neither SetExpiration() nor WithoutExpiration() was called"⟩
    else if hasExpiration && builder.withoutExpiration then
      .error ⟨.invalidArgument, "SetExpiration() and WithoutExpiration() must not be called together"⟩
    else .ok ⟨builder.typeHeader, builder.jsonProto⟩

end RawJwtBuilder

/-- A call of a builder. -/
inductive BuilderCall
  | setTypeHeader (typeHeader : Bytes)
  | setIssuer (issuer : Bytes)
  | setSubject (subject : Bytes)
  | setAudience (audience : Bytes)
  | setAudiences (audiences : List Bytes)
  | addAudience (audience : Bytes)
  | setJwtId (jwid : Bytes)
  | withoutExpiration
  | setExpiration (time : AbslTime)
  | setNotBefore (time : AbslTime)
  | setIssuedAt (time : AbslTime)
  | addNullClaim (name : Bytes)
  | addBooleanClaim (name : Bytes) (value : Bool)
  | addStringClaim (name value : Bytes)
  | addNumberClaim (name : Bytes) (value : Double)
  | addJsonObjectClaim (name objectValue : Bytes)
  | addJsonArrayClaim (name arrayValue : Bytes)

namespace RawJwtBuilder

def call (libraries : JsonLibraries) (builder : RawJwtBuilder) : BuilderCall → RawJwtBuilder
  | .setTypeHeader typeHeader => builder.setTypeHeader typeHeader
  | .setIssuer issuer => builder.setIssuer issuer
  | .setSubject subject => builder.setSubject subject
  | .setAudience audience => builder.setAudience audience
  | .setAudiences audiences => builder.setAudiences audiences
  | .addAudience audience => builder.addAudience audience
  | .setJwtId jwid => builder.setJwtId jwid
  | .withoutExpiration => builder.setWithoutExpiration
  | .setExpiration time => builder.setExpiration time
  | .setNotBefore time => builder.setNotBefore time
  | .setIssuedAt time => builder.setIssuedAt time
  | .addNullClaim name => builder.addNullClaim name
  | .addBooleanClaim name value => builder.addBooleanClaim name value
  | .addStringClaim name value => builder.addStringClaim name value
  | .addNumberClaim name value => builder.addNumberClaim name value
  | .addJsonObjectClaim name objectValue => builder.addJsonObjectClaim libraries name objectValue
  | .addJsonArrayClaim name arrayValue => builder.addJsonArrayClaim libraries name arrayValue

/-- The builder after some calls. -/
def run (libraries : JsonLibraries) (calls : List BuilderCall) : RawJwtBuilder := calls.foldl (call libraries) {}

end RawJwtBuilder

/-! ## Tokens that answer the same -/

/-- Two answers that are the same error, or two values in a relation. -/
def SameAnswer {α : Type} (same : α → α → Prop) : Except Status α → Except Status α → Prop
  | .error e, .error e' => e = e'
  | .ok answer, .ok answer' => same answer answer'
  | _, _ => False

/-- Two texts of the same JSON. -/
def SameText {α : Type} (parse : Bytes → Option α) (same : α → α → Prop) (text text' : Bytes) : Prop :=
  ∃ json json', parse text = some json ∧ parse text' = some json' ∧ same json json'

def SameList (values values' : List JsonValue) : Prop := (JsonValue.list values).Same (.list values')

/-- **Every `Has` and every getter gives the same for two tokens**, a claim that is given as JSON the same JSON. -/
structure RawJwt.SameAnswers (libraries : JsonLibraries) (token token' : RawJwt) : Prop where
  hasTypeHeader      : token.hasTypeHeader = token'.hasTypeHeader
  getTypeHeader      : token.getTypeHeader = token'.getTypeHeader
  hasIssuer          : token.hasIssuer = token'.hasIssuer
  getIssuer          : token.getIssuer = token'.getIssuer
  hasSubject         : token.hasSubject = token'.hasSubject
  getSubject         : token.getSubject = token'.getSubject
  hasAudiences       : token.hasAudiences = token'.hasAudiences
  getAudiences       : token.getAudiences = token'.getAudiences
  hasJwtId           : token.hasJwtId = token'.hasJwtId
  getJwtId           : token.getJwtId = token'.getJwtId
  hasExpiration      : token.hasExpiration = token'.hasExpiration
  getExpiration      : token.getExpiration = token'.getExpiration
  hasNotBefore       : token.hasNotBefore = token'.hasNotBefore
  getNotBefore       : token.getNotBefore = token'.getNotBefore
  hasIssuedAt        : token.hasIssuedAt = token'.hasIssuedAt
  getIssuedAt        : token.getIssuedAt = token'.getIssuedAt
  isNullClaim        : ∀ name, token.isNullClaim name = token'.isNullClaim name
  hasBooleanClaim    : ∀ name, token.hasBooleanClaim name = token'.hasBooleanClaim name
  getBooleanClaim    : ∀ name, token.getBooleanClaim name = token'.getBooleanClaim name
  hasStringClaim     : ∀ name, token.hasStringClaim name = token'.hasStringClaim name
  getStringClaim     : ∀ name, token.getStringClaim name = token'.getStringClaim name
  hasNumberClaim     : ∀ name, token.hasNumberClaim name = token'.hasNumberClaim name
  getNumberClaim     : ∀ name, token.getNumberClaim name = token'.getNumberClaim name
  hasJsonObjectClaim : ∀ name, token.hasJsonObjectClaim name = token'.hasJsonObjectClaim name
  getJsonObjectClaim : ∀ name, SameAnswer (SameText libraries.parseStruct JsonStruct.Equiv)
    (token.getJsonObjectClaim libraries name) (token'.getJsonObjectClaim libraries name)
  hasJsonArrayClaim  : ∀ name, token.hasJsonArrayClaim name = token'.hasJsonArrayClaim name
  getJsonArrayClaim  : ∀ name, SameAnswer (SameText libraries.parseList SameList)
    (token.getJsonArrayClaim libraries name) (token'.getJsonArrayClaim libraries name)
  customClaimNames   : token.customClaimNames.Perm token'.customClaimNames

/-- **The payload of a token is parsed to a token that answers the same.** -/
def RawJwt.RoundTrips (libraries : JsonLibraries) (token : RawJwt) : Prop :=
  ∃ payload token', token.getJsonPayload libraries.toJwtLibraries = .ok payload ∧
    RawJwt.fromJson libraries.toJwtLibraries token.typeHeader payload = .ok token' ∧ token.SameAnswers libraries token'

/-- What is relied on: the printer and the parser are inverse on well-formed JSON, the parser yields nothing else, and a
value of no kind is printed as no value, or as null. -/
structure JsonLibraries.Inverse (libraries : JsonLibraries) : Prop where
  struct            : ∀ json, json.WellFormed → ∃ text json', libraries.printStruct json = .ok text ∧
    libraries.parseStruct text = some json' ∧ json.Equiv json'
  list              : ∀ values, (JsonValue.list values).WellFormed → ∃ text values', libraries.printList values = .ok text ∧
    libraries.parseList text = some values' ∧ SameList values values'
  struct_wellFormed : ∀ text json, libraries.parseStruct text = some json → json.WellFormed
  list_wellFormed   : ∀ text values, libraries.parseList text = some values → (JsonValue.list values).WellFormed
  notSet            : ∀ json text json' name, libraries.printStruct json = .ok text →
    libraries.parseStruct text = some json' → json.find name = some .notSet →
    json'.find name = none ∨ json'.find name = some .null

section
variable {json json' : JsonStruct}

theorem JsonStruct.Equiv.isSome (h : json.Equiv json') (name : Bytes) :
    (json.find name).isSome = (json'.find name).isSome := by
  rcases h.find_cases name with heq | ⟨_, _, hfind, hfind'⟩ | ⟨_, _, hfind, hfind', -⟩
  · rw [heq]
  · rw [hfind, hfind']
    rfl
  · rw [hfind, hfind']
    rfl

theorem JsonStruct.Equiv.claimIsNotAString (h : json.Equiv json') (name : Bytes) :
    claimIsNotAString json name = claimIsNotAString json' name := by
  unfold Tink.claimIsNotAString
  rcases h.find_cases name with heq | ⟨_, _, hfind, hfind'⟩ | ⟨_, _, hfind, hfind', -⟩
  · rw [heq]
  · rw [hfind, hfind']
  · rw [hfind, hfind']

theorem JsonStruct.Equiv.claimIsNotATimestamp (h : json.Equiv json') (name : Bytes) :
    claimIsNotATimestamp json name = claimIsNotATimestamp json' name := by
  unfold Tink.claimIsNotATimestamp
  rcases h.find_cases name with heq | ⟨_, _, hfind, hfind'⟩ | ⟨_, _, hfind, hfind', -⟩
  · rw [heq]
  · rw [hfind, hfind']
  · rw [hfind, hfind']

/-- Both loops over the audiences see strings only. -/
theorem audiencesLoop_same {values values' : List JsonValue} (h : List.Forall₂ JsonValue.Same values values') :
    audiencesLoop values = audiencesLoop values' ∧ RawJwt.getAudiencesLoop values = RawJwt.getAudiencesLoop values' := by
  induction h with
  | nil => exact ⟨rfl, rfl⟩
  | @cons value value' values values' hsame hrest ih =>
    rcases hsame.cases with rfl | ⟨_, _, rfl, rfl⟩ | ⟨_, _, rfl, rfl, -⟩
    · cases value' with
      | string audience =>
        unfold audiencesLoop RawJwt.getAudiencesLoop
        rw [ih.1, ih.2]
        exact ⟨rfl, rfl⟩
      | notSet | null | number | bool | struct | list => exact ⟨rfl, rfl⟩
    · exact ⟨rfl, rfl⟩
    · exact ⟨rfl, rfl⟩

theorem JsonStruct.Equiv.validateAudienceClaim (h : json.Equiv json') :
    validateAudienceClaim json = validateAudienceClaim json' := by
  unfold Tink.validateAudienceClaim
  rcases h.find_cases jwtClaimAudience with heq | ⟨_, _, hfind, hfind'⟩ | ⟨_, _, hfind, hfind', hsame⟩
  · rw [heq]
  · rw [hfind, hfind']
  · rw [hfind, hfind']
    dsimp only
    rw [hsame.length_eq, (audiencesLoop_same hsame).1]

theorem JsonStruct.Equiv.hasClaimOfKind (h : json.Equiv json') (name : Bytes) (kind : KindCase) :
    hasClaimOfKind json name kind = hasClaimOfKind json' name kind := by
  unfold Tink.hasClaimOfKind
  rcases h.find_cases name with heq | ⟨_, _, hfind, hfind'⟩ | ⟨_, _, hfind, hfind', -⟩
  · rw [heq]
  · rw [hfind, hfind']
    rfl
  · rw [hfind, hfind']
    rfl

end

section
variable {json json' : JsonStruct} (typeHeader : Option Bytes)

theorem JsonStruct.Equiv.getStringOf (h : json.Equiv json') (name : Bytes) (missing : StatusCode) (label : String) :
    RawJwt.getStringOf name missing label ⟨typeHeader, json⟩ = RawJwt.getStringOf name missing label ⟨typeHeader, json'⟩ := by
  unfold RawJwt.getStringOf
  rcases h.find_cases name with heq | ⟨_, _, hfind, hfind'⟩ | ⟨_, _, hfind, hfind', -⟩
  · rw [heq]
  · rw [hfind, hfind']
  · rw [hfind, hfind']

theorem JsonStruct.Equiv.getTimeClaim (h : json.Equiv json') (name : Bytes) (label : String) :
    RawJwt.getTimeClaim name label ⟨typeHeader, json⟩ = RawJwt.getTimeClaim name label ⟨typeHeader, json'⟩ := by
  unfold RawJwt.getTimeClaim
  rcases h.find_cases name with heq | ⟨_, _, hfind, hfind'⟩ | ⟨_, _, hfind, hfind', -⟩
  · rw [heq]
  · rw [hfind, hfind']
  · rw [hfind, hfind']

theorem JsonStruct.Equiv.getAudiences (h : json.Equiv json') :
    RawJwt.getAudiences ⟨typeHeader, json⟩ = RawJwt.getAudiences ⟨typeHeader, json'⟩ := by
  unfold RawJwt.getAudiences
  rcases h.find_cases jwtClaimAudience with heq | ⟨_, _, hfind, hfind'⟩ | ⟨_, _, hfind, hfind', hsame⟩
  · rw [heq]
  · rw [hfind, hfind']
  · rw [hfind, hfind']
    exact (audiencesLoop_same hsame).2

/-- What a getter of custom claims reads from values that are the same is in the relation, so its answers are. -/
theorem JsonStruct.Equiv.getCustomClaim {α : Type} {same : α → α → Prop} {read : JsonValue → Option α}
    (hread : ∀ value value', value.Same value' → Option.Rel same (read value) (read value')) (h : json.Equiv json')
    (kind : String) (name : Bytes) :
    SameAnswer same (RawJwt.getCustomClaim kind read name ⟨typeHeader, json⟩)
      (RawJwt.getCustomClaim kind read name ⟨typeHeader, json'⟩) := by
  unfold RawJwt.getCustomClaim
  cases validatePayloadName name with
  | error e => exact rfl
  | ok =>
    rcases h.find name with ⟨hnone, hnone'⟩ | ⟨value, value', hvalue, hvalue', hsame⟩
    · rw [hnone, hnone']
      exact rfl
    · rw [hvalue, hvalue']
      dsimp only
      have hrel := hread value value' hsame
      generalize read value = claim at hrel ⊢
      generalize read value' = claim' at hrel ⊢
      cases hrel with
      | none => exact rfl
      | some hclaim => exact hclaim

theorem SameAnswer.eq {α : Type} {answer answer' : Except Status α} (h : SameAnswer Eq answer answer') :
    answer = answer' := by
  cases answer with
  | error e =>
    cases answer' with
    | error e' => exact congrArg Except.error h
    | ok => cases h
  | ok value =>
    cases answer' with
    | error => cases h
    | ok value' => exact congrArg Except.ok h

theorem SameAnswer.bind {α β : Type} {same : α → α → Prop} {same' : β → β → Prop} {answer answer' : Except Status α}
    {next : α → Except Status β} (h : SameAnswer same answer answer')
    (hnext : ∀ a a', answer = .ok a → answer' = .ok a' → same a a' → SameAnswer same' (next a) (next a')) :
    SameAnswer same' (answer >>= next) (answer' >>= next) := by
  cases answer with
  | error e =>
    cases answer' with
    | error e' => exact h
    | ok => cases h
  | ok a =>
    cases answer' with
    | error => cases h
    | ok a' => exact hnext a a' rfl rfl h

/-- A getter that reads nothing from objects and lists gives the same. -/
theorem JsonStruct.Equiv.getCustomClaim_eq {α : Type} {read : JsonValue → Option α}
    (hstruct : ∀ fields, read (.struct fields) = none) (hlist : ∀ values, read (.list values) = none)
    (h : json.Equiv json') (kind : String) (name : Bytes) :
    RawJwt.getCustomClaim kind read name ⟨typeHeader, json⟩ = RawJwt.getCustomClaim kind read name ⟨typeHeader, json'⟩ := by
  refine (h.getCustomClaim typeHeader (fun value value' hsame => ?_) kind name).eq
  rcases hsame.cases with rfl | ⟨fields, fields', rfl, rfl⟩ | ⟨values, values', rfl, rfl, -⟩
  · cases read value' with
    | none => exact .none
    | some claim => exact .some rfl
  · rw [hstruct, hstruct]
    exact .none
  · rw [hlist, hlist]
    exact .none

theorem JsonStruct.Equiv.objectClaim (h : json.Equiv json') (name : Bytes) :
    SameAnswer JsonStruct.Equiv (RawJwt.objectClaim name ⟨typeHeader, json⟩) (RawJwt.objectClaim name ⟨typeHeader, json'⟩) := by
  refine h.getCustomClaim typeHeader (fun value value' hsame => ?_) "a JSON object" name
  rcases hsame.cases with rfl | ⟨fields, fields', rfl, rfl⟩ | ⟨values, values', rfl, rfl, -⟩
  · cases value' with
    | struct fields => exact .some hsame
    | notSet | null | number | string | bool | list => exact .none
  · exact .some hsame
  · exact .none

theorem JsonStruct.Equiv.arrayClaim (h : json.Equiv json') (name : Bytes) :
    SameAnswer SameList (RawJwt.arrayClaim name ⟨typeHeader, json⟩) (RawJwt.arrayClaim name ⟨typeHeader, json'⟩) := by
  refine h.getCustomClaim typeHeader (fun value value' hsame => ?_) "a JSON array" name
  rcases hsame.cases with rfl | ⟨fields, fields', rfl, rfl⟩ | ⟨values, values', rfl, rfl, -⟩
  · cases value' with
    | list values => exact .some hsame
    | notSet | null | number | string | bool | struct => exact .none
  · exact .none
  · exact .some hsame

/-- What a getter of custom claims gives was read from the claim. -/
theorem getCustomClaim_ok {α : Type} {kind : String} {read : JsonValue → Option α} {name : Bytes} {token : RawJwt} {claim : α}
    (h : RawJwt.getCustomClaim kind read name token = .ok claim) :
    ∃ value, token.jsonProto.find name = some value ∧ read value = some claim := by
  unfold RawJwt.getCustomClaim at h
  split at h
  · cases h
  · dsimp only at h
    split at h
    · cases h
    · rename_i value hfind
      split at h
      · cases h
      · rename_i claim' hread
        obtain rfl := Except.ok.inj h
        exact ⟨value, hfind, hread⟩

theorem objectClaim_wellFormed (hjson : json.WellFormed) {typeHeader : Option Bytes} {name : Bytes} {object : JsonStruct}
    (h : RawJwt.objectClaim name ⟨typeHeader, json⟩ = .ok object) : object.WellFormed := by
  obtain ⟨value, hfind, hread⟩ := getCustomClaim_ok h
  cases value with
  | struct fields =>
    obtain rfl := Option.some.inj hread
    exact hjson.find hfind
  | notSet | null | number | string | bool | list => cases hread

theorem arrayClaim_wellFormed (hjson : json.WellFormed) {typeHeader : Option Bytes} {name : Bytes} {array : List JsonValue}
    (h : RawJwt.arrayClaim name ⟨typeHeader, json⟩ = .ok array) : (JsonValue.list array).WellFormed := by
  obtain ⟨value, hfind, hread⟩ := getCustomClaim_ok h
  cases value with
  | list values =>
    obtain rfl := Option.some.inj hread
    exact hjson.find hfind
  | notSet | null | number | string | bool | struct => cases hread

theorem mem_customClaimNames {token : RawJwt} {name : Bytes} :
    name ∈ token.customClaimNames ↔ token.hasClaim name = true ∧ isRegisteredClaimName name = false := by
  unfold RawJwt.customClaimNames RawJwt.hasClaim JsonStruct.find
  rw [List.mem_filter, List.mem_dedup, Option.isSome_map, List.find?_isSome]
  simp

theorem JsonStruct.Equiv.customClaimNames (h : json.Equiv json') :
    (RawJwt.customClaimNames ⟨typeHeader, json⟩).Perm (RawJwt.customClaimNames ⟨typeHeader, json'⟩) := by
  refine (List.perm_ext_iff_of_nodup ((List.nodup_dedup _).filter _) ((List.nodup_dedup _).filter _)).2 fun name => ?_
  have hhas : RawJwt.hasClaim name ⟨typeHeader, json⟩ = RawJwt.hasClaim name ⟨typeHeader, json'⟩ := h.isSome name
  exact mem_customClaimNames.trans (hhas ▸ mem_customClaimNames.symm)

end

section
variable {libraries : JsonLibraries} (inverse : libraries.Inverse) {json json' : JsonStruct}
include inverse

/-- Well-formed objects that are the same are printed as the same JSON. -/
theorem JsonLibraries.Inverse.sameText_struct (hjson : json.WellFormed) (hjson' : json'.WellFormed) (h : json.Equiv json') :
    SameAnswer (SameText libraries.parseStruct JsonStruct.Equiv) (libraries.printStruct json) (libraries.printStruct json') := by
  obtain ⟨text, parsed, hprint, hparse, hsame⟩ := inverse.struct json hjson
  obtain ⟨text', parsed', hprint', hparse', hsame'⟩ := inverse.struct json' hjson'
  rw [hprint, hprint']
  exact ⟨parsed, parsed', hparse, hparse', (hsame.symm.trans h).trans hsame'⟩

theorem JsonLibraries.Inverse.sameText_list {values values' : List JsonValue} (hvalues : (JsonValue.list values).WellFormed)
    (hvalues' : (JsonValue.list values').WellFormed) (h : SameList values values') :
    SameAnswer (SameText libraries.parseList SameList) (libraries.printList values) (libraries.printList values') := by
  obtain ⟨text, parsed, hprint, hparse, hsame⟩ := inverse.list values hvalues
  obtain ⟨text', parsed', hprint', hparse', hsame'⟩ := inverse.list values' hvalues'
  rw [hprint, hprint']
  exact ⟨parsed, parsed', hparse, hparse', (hsame.symm.trans h).trans hsame'⟩

/-- **Well-formed tokens with the same claims answer the same.** -/
theorem JsonLibraries.Inverse.sameAnswers (typeHeader : Option Bytes) (hjson : json.WellFormed) (hjson' : json'.WellFormed)
    (h : json.Equiv json') : RawJwt.SameAnswers libraries ⟨typeHeader, json⟩ ⟨typeHeader, json'⟩ where
  hasTypeHeader := rfl
  getTypeHeader := rfl
  hasIssuer := h.isSome _
  getIssuer := h.getStringOf typeHeader jwtClaimIssuer .invalidArgument "Issuer"
  hasSubject := h.isSome _
  getSubject := h.getStringOf typeHeader _ _ _
  hasAudiences := h.isSome _
  getAudiences := h.getAudiences typeHeader
  hasJwtId := h.isSome _
  getJwtId := h.getStringOf typeHeader _ _ _
  hasExpiration := h.isSome _
  getExpiration := h.getTimeClaim typeHeader _ _
  hasNotBefore := h.isSome _
  getNotBefore := h.getTimeClaim typeHeader _ _
  hasIssuedAt := h.isSome _
  getIssuedAt := h.getTimeClaim typeHeader _ _
  isNullClaim _ := h.hasClaimOfKind _ _
  hasBooleanClaim _ := h.hasClaimOfKind _ _
  getBooleanClaim _ := h.getCustomClaim_eq typeHeader (fun _ => rfl) (fun _ => rfl) _ _
  hasStringClaim _ := h.hasClaimOfKind _ _
  getStringClaim _ := h.getCustomClaim_eq typeHeader (fun _ => rfl) (fun _ => rfl) _ _
  hasNumberClaim _ := h.hasClaimOfKind _ _
  getNumberClaim _ := h.getCustomClaim_eq typeHeader (fun _ => rfl) (fun _ => rfl) _ _
  hasJsonObjectClaim _ := h.hasClaimOfKind _ _
  getJsonObjectClaim name := (h.objectClaim typeHeader name).bind fun _ _ hobject hobject' hsame =>
    inverse.sameText_struct (objectClaim_wellFormed hjson hobject) (objectClaim_wellFormed hjson' hobject') hsame
  hasJsonArrayClaim _ := h.hasClaimOfKind _ _
  getJsonArrayClaim name := (h.arrayClaim typeHeader name).bind fun _ _ harray harray' hsame =>
    inverse.sameText_list (arrayClaim_wellFormed hjson harray) (arrayClaim_wellFormed hjson' harray') hsame
  customClaimNames := h.customClaimNames typeHeader

end

/-! ## What a call does -/

/-- What `FromJson` accepts for a claim, as far as the builder may set it. -/
structure AcceptableClaim (name : Bytes) (value : JsonValue) : Prop where
  string   : name = jwtClaimIssuer ∨ name = jwtClaimSubject → ∃ text, value = .string text
  time     : name = jwtClaimExpiration ∨ name = jwtClaimNotBefore ∨ name = jwtClaimIssuedAt →
    ∃ seconds : Int, 0 ≤ seconds ∧ seconds ≤ jwtTimestampMax ∧ value = .number (.finite seconds)
  audience : name = jwtClaimAudience →
    (∃ audience, value = .string audience) ∨ ∃ audiences, audiences ≠ [] ∧ value = .list (audiences.map .string)

/-- Well-formed claims that are all acceptable. -/
structure JsonStruct.Sound (json : JsonStruct) : Prop where
  wellFormed : json.WellFormed
  acceptable : ∀ name value, json.find name = some value → AcceptableClaim name value

theorem JsonStruct.sound_empty : JsonStruct.Sound {} := ⟨wellFormed_empty, fun name value h => by cases h⟩

theorem JsonStruct.Sound.set {json : JsonStruct} (h : json.Sound) {name : Bytes} {value : JsonValue} (hname : IsText name)
    (hvalue : value.WellFormed) (hclaim : AcceptableClaim name value) : (json.set name value).Sound := by
  refine ⟨h.wellFormed.set hname hvalue, fun name' value' hfind => ?_⟩
  rw [JsonStruct.find_set] at hfind
  by_cases hsame : name = name'
  · subst hsame
    rw [if_pos rfl] at hfind
    exact Option.some.inj hfind ▸ hclaim
  · rw [if_neg hsame] at hfind
    exact h.acceptable name' value' hfind

theorem acceptable_custom {name : Bytes} (hname : isRegisteredClaimName name = false) (value : JsonValue) :
    AcceptableClaim name value := by
  simp only [isRegisteredClaimName, Bool.or_eq_false_iff, beq_eq_false_iff_ne] at hname
  obtain ⟨⟨⟨⟨⟨⟨hiss, hsub⟩, haud⟩, hexp⟩, hnbf⟩, hiat⟩, -⟩ := hname
  refine ⟨fun h => ?_, fun h => ?_, fun h => absurd h haud⟩
  · rcases h with h | h
    · exact absurd h hiss
    · exact absurd h hsub
  · rcases h with h | h | h
    · exact absurd h hexp
    · exact absurd h hnbf
    · exact absurd h hiat

/-- Strings are valid UTF-8 and numbers are finite. -/
def BuilderCall.Valid : BuilderCall → Prop
  | .setIssuer text | .setSubject text | .setAudience text | .addAudience text | .setJwtId text => IsText text
  | .setAudiences audiences => ∀ audience ∈ audiences, IsText audience
  | .addNullClaim name | .addBooleanClaim name _ | .addJsonObjectClaim name _ | .addJsonArrayClaim name _ => IsText name
  | .addStringClaim name value => IsText name ∧ IsText value
  | .addNumberClaim name value => IsText name ∧ ∃ q, value = .finite q
  | .setTypeHeader _ | .withoutExpiration | .setExpiration _ | .setNotBefore _ | .setIssuedAt _ => True

theorem wellFormed_string {text : Bytes} (h : IsText text) : (JsonValue.string text).WellFormed :=
  JsonValue.wellFormed_of_leaf h fun step => by cases step <;> rfl

theorem wellFormed_number (q : Rat) : (JsonValue.number (.finite q)).WellFormed :=
  JsonValue.wellFormed_of_leaf ⟨q, rfl⟩ fun step => by cases step <;> rfl

theorem wellFormed_strings {audiences : List Bytes} (h : ∀ audience ∈ audiences, IsText audience) :
    (JsonValue.list (audiences.map .string)).WellFormed := by
  refine JsonValue.wellFormed_list fun value hmem => ?_
  obtain ⟨audience, haudience, rfl⟩ := List.mem_map.1 hmem
  exact wellFormed_string (h audience haudience)

theorem isText_of_all {bytes : Bytes} (h : bytes.all (· < 128) = true) : IsText bytes := by
  apply isText_of_ascii
  intro b hb
  simpa using List.all_eq_true.1 h b hb

theorem isText_registered : IsText jwtClaimIssuer ∧ IsText jwtClaimSubject ∧ IsText jwtClaimAudience ∧
    IsText jwtClaimExpiration ∧ IsText jwtClaimNotBefore ∧ IsText jwtClaimIssuedAt ∧ IsText jwtClaimJwtId :=
  ⟨isText_of_all (by decide), isText_of_all (by decide), isText_of_all (by decide), isText_of_all (by decide),
    isText_of_all (by decide), isText_of_all (by decide), isText_of_all (by decide)⟩

namespace RawJwtBuilder

/-- A call that changes no claim, and forgets no error. -/
def KeepsClaims (builder builder' : RawJwtBuilder) : Prop :=
  builder'.jsonProto = builder.jsonProto ∧ (builder.error ≠ none → builder'.error ≠ none)

/-- A call that sets a claim: not over an `aud` of no kind, and to an acceptable value if the call is allowed. -/
def SetsClaim (allowed : Prop) (builder builder' : RawJwtBuilder) : Prop :=
  ∃ name value, builder' = builder.setField name value ∧
    (name = jwtClaimAudience → builder.jsonProto.find jwtClaimAudience ≠ some .notSet) ∧
    (allowed → builder.jsonProto.Sound → IsText name ∧ value.WellFormed ∧ AcceptableClaim name value)

theorem keepsClaims_fail (status : Status) (builder : RawJwtBuilder) : builder.KeepsClaims (builder.fail status) :=
  ⟨rfl, fun _ h => by cases h⟩

theorem keepsClaims_setError (status : Status) (builder : RawJwtBuilder) : builder.KeepsClaims (builder.setError status) :=
  ⟨rfl, fun _ h => by cases h⟩

/-- The claims that are strings. -/
theorem setsClaim_string {name text : Bytes} (hname : name = jwtClaimIssuer ∨ name = jwtClaimSubject ∨ name = jwtClaimJwtId)
    (builder : RawJwtBuilder) : builder.SetsClaim (IsText text) (builder.setField name (.string text)) := by
  obtain ⟨hiss, hsub, -, -, -, -, hjti⟩ := isText_registered
  refine ⟨name, .string text, rfl, fun h => ?_, fun htext _ => ⟨?_, wellFormed_string htext, ?_⟩⟩
  · rcases hname with rfl | rfl | rfl <;> exact absurd h (by decide)
  · rcases hname with rfl | rfl | rfl
    · exact hiss
    · exact hsub
    · exact hjti
  · refine ⟨fun _ => ⟨text, rfl⟩, fun h => ?_, fun h => .inl ⟨text, rfl⟩⟩
    rcases hname with rfl | rfl | rfl <;> exact absurd h (by decide)

theorem setTime_cases {name : Bytes} (label : String)
    (hname : name = jwtClaimExpiration ∨ name = jwtClaimNotBefore ∨ name = jwtClaimIssuedAt) (time : AbslTime)
    (builder : RawJwtBuilder) :
    builder.KeepsClaims (builder.setTime name label time) ∨ builder.SetsClaim True (builder.setTime name label time) := by
  unfold setTime
  dsimp only
  split
  · exact .inl (keepsClaims_fail _ builder)
  · rename_i hrange
    obtain ⟨-, -, -, hexp, hnbf, hiat, -⟩ := isText_registered
    refine .inr ⟨name, _, rfl, fun h => ?_, fun _ _ => ⟨?_, wellFormed_number _, fun h => ?_, fun _ => ?_, fun h => ?_⟩⟩
    · rcases hname with rfl | rfl | rfl <;> exact absurd h (by decide)
    · rcases hname with rfl | rfl | rfl
      · exact hexp
      · exact hnbf
      · exact hiat
    · rcases hname with rfl | rfl | rfl <;> exact absurd h (by decide)
    · exact ⟨timeToTimestamp time, by omega, by omega, rfl⟩
    · rcases hname with rfl | rfl | rfl <;> exact absurd h (by decide)

theorem addClaim_cases {name : Bytes} {value : Except Status JsonValue} {allowed : Prop}
    (hvalue : ∀ claim, value = .ok claim → allowed → IsText name ∧ claim.WellFormed) (builder : RawJwtBuilder) :
    builder.KeepsClaims (builder.addClaim name value) ∨ builder.SetsClaim allowed (builder.addClaim name value) := by
  unfold addClaim validatePayloadName
  by_cases hname : isRegisteredClaimName name = true
  · rw [if_pos hname]
    exact .inl (keepsClaims_fail _ builder)
  · rw [if_neg hname]
    dsimp only
    cases value with
    | error e => exact .inl (keepsClaims_fail e builder)
    | ok claim =>
      refine .inr ⟨name, claim, rfl, fun h => ?_, fun hallowed _ => ?_⟩
      · subst h
        exact absurd (by decide) hname
      · obtain ⟨htext, hwell⟩ := hvalue claim rfl hallowed
        exact ⟨htext, hwell, acceptable_custom (Bool.eq_false_iff.2 hname) claim⟩

/-- The claim is set only when it is not there, or a string. -/
theorem setAudience_cases (audience : Bytes) (builder : RawJwtBuilder) :
    builder.KeepsClaims (builder.setAudience audience) ∨ builder.SetsClaim (IsText audience) (builder.setAudience audience) := by
  unfold setAudience
  by_cases hcheck : claimIsNotAString builder.jsonProto jwtClaimAudience = true
  · rw [if_pos hcheck]
    exact .inl (keepsClaims_setError _ builder)
  · rw [if_neg hcheck]
    refine .inr ⟨jwtClaimAudience, _, rfl, fun _ hnotSet => hcheck ?_, fun htext _ =>
      ⟨isText_registered.2.2.1, wellFormed_string htext, fun h => ?_, fun h => absurd h (by decide), fun _ => .inl ⟨_, rfl⟩⟩⟩
    · unfold claimIsNotAString
      rw [hnotSet]
    · exact ⟨audience, rfl⟩

theorem ne_notSet_of_list {json : JsonStruct} {name : Bytes} (h : ¬ claimIsNotAList json name = true) :
    json.find name ≠ some .notSet := by
  intro hnotSet
  apply h
  unfold claimIsNotAList
  rw [hnotSet]
  rfl

/-- An empty list of audiences leaves a value of no kind. -/
theorem setAudiences_cases (audiences : List Bytes) (builder : RawJwtBuilder) :
    builder.KeepsClaims (builder.setAudiences audiences) ∨
    builder.SetsClaim ((∀ audience ∈ audiences, IsText audience) ∧ audiences ≠ []) (builder.setAudiences audiences) := by
  unfold setAudiences
  by_cases hcheck : claimIsNotAList builder.jsonProto jwtClaimAudience = true
  · rw [if_pos hcheck]
    exact .inl (keepsClaims_setError _ builder)
  · rw [if_neg hcheck]
    refine .inr ⟨jwtClaimAudience, _, rfl, fun _ => ne_notSet_of_list hcheck, fun hallowed _ => ?_⟩
    obtain ⟨htext, hne⟩ := hallowed
    have hvalue : audiencesValue audiences = .list (audiences.map .string) := by
      cases audiences with
      | nil => exact absurd rfl hne
      | cons => rfl
    rw [hvalue]
    exact ⟨isText_registered.2.2.1, wellFormed_strings htext, fun h => absurd h (by decide), fun h => absurd h (by decide),
      fun _ => .inr ⟨audiences, hne, rfl⟩⟩

/-- A list that was acceptable is longer by one audience. -/
theorem addAudience_cases (audience : Bytes) (builder : RawJwtBuilder) :
    builder.KeepsClaims (builder.addAudience audience) ∨ builder.SetsClaim (IsText audience) (builder.addAudience audience) := by
  unfold addAudience
  by_cases hcheck : claimIsNotAList builder.jsonProto jwtClaimAudience = true
  · rw [if_pos hcheck]
    exact .inl (keepsClaims_setError _ builder)
  · rw [if_neg hcheck]
    refine .inr ⟨jwtClaimAudience, _, rfl, fun _ => ne_notSet_of_list hcheck, fun htext hsound => ?_⟩
    have hlist : ∃ audiences : List Bytes, (∀ value ∈ audiences.map JsonValue.string, value.WellFormed) ∧
        listValues (builder.jsonProto.find jwtClaimAudience) = audiences.map .string := by
      cases hfind : builder.jsonProto.find jwtClaimAudience with
      | none => exact ⟨[], fun value hmem => (by cases hmem), rfl⟩
      | some value =>
        rcases (hsound.acceptable _ _ hfind).audience rfl with ⟨text, rfl⟩ | ⟨audiences, -, rfl⟩
        · exact ⟨[], fun value hmem => (by cases hmem), rfl⟩
        · exact ⟨audiences, (hsound.wellFormed.find hfind).values, rfl⟩
    obtain ⟨audiences, hwell, hlist⟩ := hlist
    rw [hlist]
    refine ⟨isText_registered.2.2.1, JsonValue.wellFormed_list fun value hmem => ?_, fun h => absurd h (by decide),
      fun h => absurd h (by decide), fun _ => .inr ⟨audiences ++ [audience], by simp, by simp⟩⟩
    rcases List.mem_append.1 hmem with hmem | hmem
    · exact hwell value hmem
    · rw [List.mem_singleton.1 hmem]
      exact wellFormed_string htext

end RawJwtBuilder

namespace RawJwtBuilder

theorem SetsClaim.mono {allowed allowed' : Prop} {builder builder' : RawJwtBuilder} (himp : allowed' → allowed)
    (h : builder.SetsClaim allowed builder') : builder.SetsClaim allowed' builder' := by
  obtain ⟨name, value, hset, haudience, hclaim⟩ := h
  exact ⟨name, value, hset, haudience, fun hallowed => hclaim (himp hallowed)⟩

/-- **What a call does**: nothing to the claims, or it sets one. -/
theorem call_cases {libraries : JsonLibraries} (inverse : libraries.Inverse) (builder : RawJwtBuilder) (c : BuilderCall) :
    builder.KeepsClaims (builder.call libraries c) ∨
    builder.SetsClaim (c.Valid ∧ c ≠ .setAudiences []) (builder.call libraries c) := by
  cases c with
  | setTypeHeader typeHeader => exact .inl ⟨rfl, id⟩
  | withoutExpiration => exact .inl ⟨rfl, id⟩
  | setIssuer issuer => exact .inr ((setsClaim_string (.inl rfl) builder).mono And.left)
  | setSubject subject => exact .inr ((setsClaim_string (.inr (.inl rfl)) builder).mono And.left)
  | setJwtId jwid => exact .inr ((setsClaim_string (.inr (.inr rfl)) builder).mono And.left)
  | setAudience audience => exact (setAudience_cases audience builder).imp_right (SetsClaim.mono And.left)
  | setAudiences audiences =>
    refine (setAudiences_cases audiences builder).imp_right (SetsClaim.mono fun h => ⟨h.1, fun hnil => h.2 ?_⟩)
    rw [hnil]
  | addAudience audience => exact (addAudience_cases audience builder).imp_right (SetsClaim.mono And.left)
  | setExpiration time =>
    exact (setTime_cases "expiration" (.inl rfl) time builder).imp_right (SetsClaim.mono fun _ => trivial)
  | setNotBefore time =>
    exact (setTime_cases "not_before" (.inr (.inl rfl)) time builder).imp_right (SetsClaim.mono fun _ => trivial)
  | setIssuedAt time =>
    exact (setTime_cases "issued_at" (.inr (.inr rfl)) time builder).imp_right (SetsClaim.mono fun _ => trivial)
  | addNullClaim name =>
    refine addClaim_cases (fun claim hclaim h => ⟨h.1, ?_⟩) builder
    obtain rfl := Except.ok.inj hclaim
    exact JsonValue.wellFormed_of_leaf trivial fun step => by cases step <;> rfl
  | addBooleanClaim name value =>
    refine addClaim_cases (fun claim hclaim h => ⟨h.1, ?_⟩) builder
    obtain rfl := Except.ok.inj hclaim
    exact JsonValue.wellFormed_of_leaf trivial fun step => by cases step <;> rfl
  | addStringClaim name value =>
    refine addClaim_cases (fun claim hclaim h => ⟨h.1.1, ?_⟩) builder
    obtain rfl := Except.ok.inj hclaim
    exact wellFormed_string h.1.2
  | addNumberClaim name value =>
    refine addClaim_cases (fun claim hclaim h => ⟨h.1.1, ?_⟩) builder
    obtain rfl := Except.ok.inj hclaim
    obtain ⟨q, rfl⟩ := h.1.2
    exact wellFormed_number q
  | addJsonObjectClaim name objectValue =>
    refine addClaim_cases (fun claim hclaim h => ⟨h.1, ?_⟩) builder
    obtain ⟨json, hjson, rfl⟩ := map_eq_ok hclaim
    unfold jsonStringToProtoStruct at hjson
    split at hjson
    · cases hjson
    · rename_i hparse
      obtain rfl := Except.ok.inj hjson
      exact inverse.struct_wellFormed _ _ hparse
  | addJsonArrayClaim name arrayValue =>
    refine addClaim_cases (fun claim hclaim h => ⟨h.1, ?_⟩) builder
    obtain ⟨values, hvalues, rfl⟩ := map_eq_ok hclaim
    unfold jsonStringToProtoList at hvalues
    split at hvalues
    · cases hvalues
    · rename_i hparse
      obtain rfl := Except.ok.inj hvalues
      exact inverse.list_wellFormed _ _ hparse

/-- A builder that will not build, or not what is parsed again. -/
def Spoiled (builder : RawJwtBuilder) : Prop :=
  builder.error ≠ none ∨ builder.jsonProto.find jwtClaimAudience = some .notSet

theorem spoiled_setAudiences (builder : RawJwtBuilder) : (builder.setAudiences []).Spoiled := by
  unfold setAudiences
  split
  · exact .inl fun h => by cases h
  · refine .inr ((JsonStruct.find_set _ _ _ _).trans ?_)
    rw [if_pos rfl]
    rfl

section
variable {libraries : JsonLibraries} (inverse : libraries.Inverse) {builder : RawJwtBuilder} {calls : List BuilderCall}
include inverse

theorem sound_call (h : builder.jsonProto.Sound) {c : BuilderCall} (hvalid : c.Valid) (hne : c ≠ .setAudiences []) :
    (builder.call libraries c).jsonProto.Sound := by
  rcases call_cases inverse builder c with ⟨hjson, -⟩ | ⟨name, value, hset, -, hclaim⟩
  · rw [hjson]
    exact h
  · obtain ⟨hname, hvalue, hacceptable⟩ := hclaim ⟨hvalid, hne⟩ h
    rw [hset]
    exact h.set hname hvalue hacceptable

/-- **All claims stay acceptable** as long as no empty list of audiences is set. -/
theorem sound_run (h : builder.jsonProto.Sound) (hvalid : ∀ c ∈ calls, c.Valid) (hne : .setAudiences [] ∉ calls) :
    (calls.foldl (call libraries) builder).jsonProto.Sound := by
  induction calls generalizing builder with
  | nil => exact h
  | cons c calls ih =>
    obtain ⟨hc, hcalls⟩ := List.forall_mem_cons.1 hvalid
    rw [List.mem_cons, not_or] at hne
    exact ih (sound_call inverse h hc (Ne.symm hne.1)) hcalls hne.2

theorem Spoiled.call (h : builder.Spoiled) (c : BuilderCall) : (builder.call libraries c).Spoiled := by
  rcases call_cases inverse builder c with ⟨hjson, herror⟩ | ⟨name, value, hset, haudience, -⟩
  · rcases h with h | h
    · exact .inl (herror h)
    · exact .inr (hjson ▸ h)
  · rw [hset]
    rcases h with h | h
    · exact .inl h
    · refine .inr ((JsonStruct.find_set _ _ _ _).trans ?_)
      rw [if_neg fun hname => haudience hname h]
      exact h

/-- **A builder stays spoiled** once an empty list of audiences was set. -/
theorem spoiled_run (h : builder.Spoiled ∨ .setAudiences [] ∈ calls) :
    (calls.foldl (RawJwtBuilder.call libraries) builder).Spoiled := by
  induction calls generalizing builder with
  | nil =>
    rcases h with h | h
    · exact h
    · cases h
  | cons c calls ih =>
    apply ih
    rcases h with h | h
    · exact .inl (h.call inverse c)
    · rcases List.mem_cons.1 h with rfl | h
      · exact .inl (spoiled_setAudiences builder)
      · exact .inr h

end

theorem build_ok {builder : RawJwtBuilder} {token : RawJwt} (h : builder.build = .ok token) :
    builder.error = none ∧ token = ⟨builder.typeHeader, builder.jsonProto⟩ := by
  unfold build at h
  split at h
  · cases h
  · rename_i herror
    dsimp only at h
    split at h
    · cases h
    · split at h
      · cases h
      · exact ⟨herror, (Except.ok.inj h).symm⟩

end RawJwtBuilder

/-! ## The payload is parsed again -/

theorem JsonStruct.Sound.claimIsNotAString {json : JsonStruct} (h : json.Sound) {name : Bytes}
    (hname : name = jwtClaimIssuer ∨ name = jwtClaimSubject) : claimIsNotAString json name = false := by
  unfold Tink.claimIsNotAString
  cases hfind : json.find name with
  | none => rfl
  | some value =>
    obtain ⟨text, rfl⟩ := (h.acceptable _ _ hfind).string hname
    rfl

theorem JsonStruct.Sound.claimIsNotATimestamp {json : JsonStruct} (h : json.Sound) {name : Bytes}
    (hname : name = jwtClaimExpiration ∨ name = jwtClaimNotBefore ∨ name = jwtClaimIssuedAt) :
    claimIsNotATimestamp json name = false := by
  unfold Tink.claimIsNotATimestamp
  cases hfind : json.find name with
  | none => rfl
  | some value =>
    obtain ⟨seconds, hmin, hmax, rfl⟩ := (h.acceptable _ _ hfind).time hname
    refine Bool.or_eq_false_iff.2 ⟨decide_eq_false (not_lt.2 ?_), decide_eq_false (not_lt.2 ?_)⟩
    · exact Int.cast_le.2 hmax
    · exact Int.cast_le.2 hmin

theorem audiencesLoop_strings (audiences : List Bytes) : audiencesLoop (audiences.map .string) = .ok () := by
  induction audiences with
  | nil => rfl
  | cons audience audiences ih => exact ih

theorem JsonStruct.Sound.validateAudienceClaim {json : JsonStruct} (h : json.Sound) : validateAudienceClaim json = .ok () := by
  unfold Tink.validateAudienceClaim
  cases hfind : json.find jwtClaimAudience with
  | none => rfl
  | some value =>
    rcases (h.acceptable _ _ hfind).audience rfl with ⟨audience, rfl⟩ | ⟨audiences, hne, rfl⟩
    · rfl
    · dsimp only
      rw [if_neg, audiencesLoop_strings]
      rw [List.length_map]
      exact Nat.not_lt.2 (List.length_pos_iff.2 hne)

section
variable {libraries : JsonLibraries} (inverse : libraries.Inverse) {json : JsonStruct} (typeHeader : Option Bytes)
include inverse

/-- **Acceptable claims are parsed again.** -/
theorem JsonStruct.Sound.roundTrips (h : json.Sound) : RawJwt.RoundTrips libraries ⟨typeHeader, json⟩ := by
  obtain ⟨payload, json', hprint, hparse, hequiv⟩ := inverse.struct json h.wellFormed
  refine ⟨payload, ⟨typeHeader, json'⟩, hprint, ?_,
    inverse.sameAnswers typeHeader h.wellFormed (inverse.struct_wellFormed _ _ hparse) hequiv⟩
  unfold RawJwt.fromJson jsonStringToProtoStruct
  rw [hparse]
  dsimp only
  rw [← hequiv.claimIsNotAString, ← hequiv.claimIsNotAString, ← hequiv.claimIsNotATimestamp, ← hequiv.claimIsNotATimestamp,
    ← hequiv.claimIsNotATimestamp, ← hequiv.validateAudienceClaim, h.validateAudienceClaim,
    h.claimIsNotAString (.inl rfl), h.claimIsNotAString (.inr rfl), h.claimIsNotATimestamp (.inl rfl),
    h.claimIsNotATimestamp (.inr (.inl rfl)), h.claimIsNotATimestamp (.inr (.inr rfl))]
  rfl

/-- An `aud` of no kind is lost, or refused. -/
theorem not_roundTrips_of_notSet (h : json.find jwtClaimAudience = some .notSet) :
    ¬ RawJwt.RoundTrips libraries ⟨typeHeader, json⟩ := by
  rintro ⟨payload, token', hprint, hfrom, hsame⟩
  cases hparse : libraries.parseStruct payload with
  | none =>
    unfold RawJwt.fromJson jsonStringToProtoStruct at hfrom
    rw [hparse] at hfrom
    cases hfrom
  | some json' =>
    obtain ⟨rfl, -, -, -, -, -, haudience⟩ := fromJson_ok hparse hfrom
    rcases inverse.notSet json payload json' _ hprint hparse h with hlost | hnull
    · have hhas : (json.find jwtClaimAudience).isSome = (json'.find jwtClaimAudience).isSome := hsame.hasAudiences
      rw [h, hlost] at hhas
      cases hhas
    · unfold validateAudienceClaim at haudience
      rw [hnull] at haudience
      cases haudience

end

/-- **What is built is parsed again and answers the same exactly when no call set an empty list of audiences.** -/
theorem rawJwtBuilder_roundTrips_iff {libraries : JsonLibraries} (inverse : libraries.Inverse) {calls : List BuilderCall}
    (hvalid : ∀ c ∈ calls, c.Valid) {token : RawJwt} (hbuild : (RawJwtBuilder.run libraries calls).build = .ok token) :
    token.RoundTrips libraries ↔ .setAudiences [] ∉ calls := by
  obtain ⟨herror, rfl⟩ := RawJwtBuilder.build_ok hbuild
  constructor
  · intro hround hmem
    have hspoiled : (RawJwtBuilder.run libraries calls).Spoiled := RawJwtBuilder.spoiled_run inverse (.inr hmem)
    rcases hspoiled with h | h
    · exact h herror
    · exact not_roundTrips_of_notSet inverse _ h hround
  · intro hne
    exact (RawJwtBuilder.sound_run inverse JsonStruct.sound_empty hvalid hne).roundTrips inverse _

/-! ## No audiences -/

/-- A `JsonValue` or a list of members, as one tree. -/
inductive JsonNode
  | nil
  | notSet
  | null
  | number (value : Double)
  | string (value : Bytes)
  | bool (value : Bool)
  | struct (fields : JsonNode)
  | list (values : JsonNode)
  | cons (name : Bytes) (value rest : JsonNode)

deriving instance Encodable for Double
deriving instance Encodable for JsonNode

mutual

def JsonValue.toNode : JsonValue → JsonNode
  | .notSet => .notSet
  | .null => .null
  | .number value => .number value
  | .string value => .string value
  | .bool value => .bool value
  | .struct fields => .struct (nodeOfFields fields)
  | .list values => .list (nodeOfValues values)

def nodeOfFields : List (Bytes × JsonValue) → JsonNode
  | [] => .nil
  | (name, value) :: fields => .cons name value.toNode (nodeOfFields fields)

def nodeOfValues : List JsonValue → JsonNode
  | [] => .nil
  | value :: values => .cons [] value.toNode (nodeOfValues values)

end

mutual

def JsonNode.toValue : JsonNode → JsonValue
  | .null => .null
  | .number value => .number value
  | .string value => .string value
  | .bool value => .bool value
  | .struct fields => .struct fields.toFields
  | .list values => .list (values.toFields.map Prod.snd)
  | .notSet | .nil | .cons .. => .notSet

def JsonNode.toFields : JsonNode → List (Bytes × JsonValue)
  | .cons name value rest => (name, value.toValue) :: rest.toFields
  | _ => []

end

mutual

theorem toValue_toNode : ∀ value : JsonValue, value.toNode.toValue = value
  | .notSet | .null | .number _ | .string _ | .bool _ => by simp only [JsonValue.toNode, JsonNode.toValue]
  | .struct fields => by simp only [JsonValue.toNode, JsonNode.toValue, toFields_nodeOfFields fields]
  | .list values => by simp only [JsonValue.toNode, JsonNode.toValue, toFields_nodeOfValues values]

theorem toFields_nodeOfFields : ∀ fields : List (Bytes × JsonValue), (nodeOfFields fields).toFields = fields
  | [] => by simp only [nodeOfFields, JsonNode.toFields]
  | (name, value) :: fields => by
    simp only [nodeOfFields, JsonNode.toFields, toValue_toNode value, toFields_nodeOfFields fields]

theorem toFields_nodeOfValues : ∀ values : List JsonValue, (nodeOfValues values).toFields.map Prod.snd = values
  | [] => by simp only [nodeOfValues, JsonNode.toFields, List.map_nil]
  | value :: values => by
    simp only [nodeOfValues, JsonNode.toFields, List.map_cons, toValue_toNode value, toFields_nodeOfValues values]

end

/-- The number of a value, as a text of so many zeros. -/
def numberText (value : JsonValue) : Bytes := List.replicate (Encodable.encode value.toNode) 0

def valueOfText (text : Bytes) : Option JsonValue := (Encodable.decode text.length : Option JsonNode).map JsonNode.toValue

theorem valueOfText_numberText (value : JsonValue) : valueOfText (numberText value) = some value := by
  unfold valueOfText numberText
  rw [List.length_replicate, Encodable.encodek, Option.map_some, toValue_toNode]

/-- What is left of no audiences, and of one. -/
def noAudiences : JsonStruct := ⟨[(jwtClaimAudience, .notSet)]⟩
def oneAudience : JsonStruct := ⟨[(jwtClaimAudience, .list [.string (ascii "a")])]⟩

def emptyText : Bytes := ascii "\x7b\x7d"
def oneAudienceText : Bytes := ascii "\x7b\"aud\":[\"a\"]\x7d"

open Classical in
/-- Libraries that print `noAudiences` and `oneAudience` as protobuf does, and number every other object and list. -/
noncomputable def audienceLibraries : JsonLibraries where
  escape := id
  unescape := some
  printStruct json :=
    if json = {} ∨ json = noAudiences then .ok emptyText
    else if json = oneAudience then .ok oneAudienceText
    else if json.WellFormed then .ok (numberText (.struct json.fields))
    else .error ⟨.invalidArgument, "not JSON"⟩
  parseStruct text :=
    if text = emptyText then some {}
    else if text = oneAudienceText then some oneAudience
    else
      match valueOfText text with
      | some (.struct fields) => if JsonStruct.WellFormed ⟨fields⟩ then some ⟨fields⟩ else none
      | _ => none
  printList values := .ok (numberText (.list values))
  parseList text :=
    match valueOfText text with
    | some (.list values) => if (JsonValue.list values).WellFormed then some values else none
    | _ => none

theorem wellFormed_oneAudience : oneAudience.WellFormed := by
  have hlist : (JsonValue.list ([ascii "a"].map .string)).WellFormed :=
    wellFormed_strings fun audience hmem => List.mem_singleton.1 hmem ▸ isText_of_all (by decide)
  exact JsonStruct.wellFormed_empty.set isText_registered.2.2.1 hlist

theorem JsonStruct.WellFormed.find_ne_notSet {json : JsonStruct} (h : json.WellFormed) (name : Bytes) :
    json.find name ≠ some .notSet :=
  fun hfind => (h.find hfind [] _ rfl).1

theorem numberText_ne {text : Bytes} (h : ∃ b ∈ text, b ≠ 0) (value : JsonValue) : numberText value ≠ text := by
  rintro rfl
  obtain ⟨b, hmem, hb⟩ := h
  exact hb (List.eq_of_mem_replicate hmem)

theorem audienceLibraries_print_number {json : JsonStruct} (hempty : json ≠ {}) (hone : json ≠ oneAudience)
    (h : json.WellFormed) : audienceLibraries.printStruct json = .ok (numberText (.struct json.fields)) := by
  have hno : json ≠ noAudiences := by
    rintro rfl
    exact h.find_ne_notSet jwtClaimAudience rfl
  unfold audienceLibraries
  dsimp only
  rw [if_neg (not_or.2 ⟨hempty, hno⟩), if_neg hone, if_pos h]

theorem audienceLibraries_parse_number {json : JsonStruct} (h : json.WellFormed) :
    audienceLibraries.parseStruct (numberText (.struct json.fields)) = some json := by
  unfold audienceLibraries
  dsimp only
  rw [if_neg (numberText_ne ⟨123, by decide, by decide⟩ _), if_neg (numberText_ne ⟨123, by decide, by decide⟩ _),
    valueOfText_numberText]
  exact if_pos h

theorem audienceLibraries_print_empty {json : JsonStruct} (h : json = {} ∨ json = noAudiences) :
    audienceLibraries.printStruct json = .ok emptyText := by
  unfold audienceLibraries
  dsimp only
  rw [if_pos h]

theorem audienceLibraries_parse_empty : audienceLibraries.parseStruct emptyText = some {} := by
  unfold audienceLibraries
  dsimp only
  rw [if_pos rfl]

theorem audienceLibraries_print_one : audienceLibraries.printStruct oneAudience = .ok oneAudienceText := by
  have hempty : oneAudience ≠ {} := fun h => by cases h
  have hno : oneAudience ≠ noAudiences := fun h => by cases h
  unfold audienceLibraries
  dsimp only
  rw [if_neg (not_or.2 ⟨hempty, hno⟩), if_pos rfl]

theorem audienceLibraries_parse_one : audienceLibraries.parseStruct oneAudienceText = some oneAudience := by
  unfold audienceLibraries
  dsimp only
  rw [if_neg (by decide), if_pos rfl]

theorem audienceLibraries_inverse : audienceLibraries.Inverse where
  struct json h := by
    by_cases hempty : json = {}
    · subst hempty
      exact ⟨_, _, audienceLibraries_print_empty (.inl rfl), audienceLibraries_parse_empty, .refl _⟩
    · by_cases hone : json = oneAudience
      · subst hone
        exact ⟨_, _, audienceLibraries_print_one, audienceLibraries_parse_one, .refl _⟩
      · exact ⟨_, _, audienceLibraries_print_number hempty hone h, audienceLibraries_parse_number h, .refl _⟩
  list values h := by
    refine ⟨numberText (.list values), values, rfl, ?_, .refl _⟩
    unfold audienceLibraries
    dsimp only
    rw [valueOfText_numberText]
    exact if_pos h
  struct_wellFormed text json h := by
    unfold audienceLibraries at h
    dsimp only at h
    split at h
    · obtain rfl := Option.some.inj h
      exact JsonStruct.wellFormed_empty
    · split at h
      · obtain rfl := Option.some.inj h
        exact wellFormed_oneAudience
      · split at h
        · split at h
          · rename_i hwell
            obtain rfl := Option.some.inj h
            exact hwell
          · cases h
        · cases h
  list_wellFormed text values h := by
    unfold audienceLibraries at h
    dsimp only at h
    split at h
    · split at h
      · rename_i hwell
        obtain rfl := Option.some.inj h
        exact hwell
      · cases h
    · cases h
  notSet json text json' name hprint hparse hfind := by
    by_cases hempty : json = {} ∨ json = noAudiences
    · rw [audienceLibraries_print_empty hempty] at hprint
      obtain rfl := Except.ok.inj hprint
      rw [audienceLibraries_parse_empty] at hparse
      obtain rfl := Option.some.inj hparse
      exact .inl rfl
    · by_cases hwell : json.WellFormed
      · exact absurd hfind (hwell.find_ne_notSet name)
      · have hone : json ≠ oneAudience := by
          rintro rfl
          exact hwell wellFormed_oneAudience
        unfold audienceLibraries at hprint
        dsimp only at hprint
        rw [if_neg hempty, if_neg hone, if_neg hwell] at hprint
        cases hprint

def oneAudienceCalls : List BuilderCall := [.addAudience (ascii "a"), .withoutExpiration]

theorem oneAudienceCalls_valid : ∀ c ∈ oneAudienceCalls, c.Valid := by
  intro c hmem
  rcases List.mem_cons.1 hmem with rfl | hmem
  · exact isText_of_all (by decide)
  · rw [List.mem_singleton.1 hmem]
    exact trivial

/-- A token with one audience is parsed again. -/
theorem rawJwtBuilder_roundTrips_oneAudience :
    (RawJwtBuilder.run audienceLibraries oneAudienceCalls).build = .ok ⟨none, oneAudience⟩ ∧
    RawJwt.getJsonPayload audienceLibraries.toJwtLibraries ⟨none, oneAudience⟩ = .ok oneAudienceText ∧
    RawJwt.RoundTrips audienceLibraries ⟨none, oneAudience⟩ := by
  have hbuild : (RawJwtBuilder.run audienceLibraries oneAudienceCalls).build = .ok ⟨none, oneAudience⟩ := rfl
  refine ⟨hbuild, audienceLibraries_print_one, ?_⟩
  exact (rawJwtBuilder_roundTrips_iff audienceLibraries_inverse oneAudienceCalls_valid hbuild).2 fun h => by
    rcases List.mem_cons.1 h with h | h
    · cases h
    · cases List.mem_singleton.1 h

def noAudiencesCalls : List BuilderCall := [.setAudiences [], .withoutExpiration]

/-- A token whose audiences were set to an empty list has audiences, and none when it is parsed again. -/
theorem rawJwtBuilder_not_roundTrips : audienceLibraries.Inverse ∧ (∀ c ∈ noAudiencesCalls, c.Valid) ∧
    (RawJwtBuilder.run audienceLibraries noAudiencesCalls).build = .ok ⟨none, noAudiences⟩ ∧
    RawJwt.hasAudiences ⟨none, noAudiences⟩ = true ∧ RawJwt.getAudiences ⟨none, noAudiences⟩ = .ok [[]] ∧
    RawJwt.getJsonPayload audienceLibraries.toJwtLibraries ⟨none, noAudiences⟩ = .ok emptyText ∧
    RawJwt.fromJson audienceLibraries.toJwtLibraries none emptyText = .ok ⟨none, {}⟩ ∧
    RawJwt.hasAudiences ⟨none, {}⟩ = false ∧ ¬ RawJwt.RoundTrips audienceLibraries ⟨none, noAudiences⟩ := by
  refine ⟨audienceLibraries_inverse, fun c hmem => ?_, rfl, rfl, rfl, audienceLibraries_print_empty (.inr rfl), ?_, rfl,
    not_roundTrips_of_notSet audienceLibraries_inverse none rfl⟩
  · rcases List.mem_cons.1 hmem with rfl | hmem
    · exact fun audience h => by cases h
    · rw [List.mem_singleton.1 hmem]
      exact trivial
  · unfold RawJwt.fromJson jsonStringToProtoStruct
    rw [audienceLibraries_parse_empty]
    rfl

end Tink
