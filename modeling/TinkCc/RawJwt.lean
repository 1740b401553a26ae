import Mathlib.Data.Rat.Defs
import Mathlib.Order.WithBot
import TinkCc.Basic
/-!
# RawJwt — tokens as JSON objects

`raw_jwt.cc`.  A `google::protobuf::Struct` is a list of names and values, of which the first of a name counts; printing and
parsing of JSON are parameters of what uses them (`JwtLibraries`).
-/
namespace Tink

/-- The bytes of an ASCII literal. -/
def ascii (s : String) : Bytes := s.toList.map fun c => UInt8.ofNat c.toNat

/-! ## JSON values -/

/-- A `double`, by the number it stands for. -/
inductive Double
  | nan
  | infinity (negative : Bool)
  | finite (value : Rat)
  deriving DecidableEq

/-- `d > n` -/
def Double.gt (n : Int) : Double → Bool
  | .nan => false
  | .infinity negative => !negative
  | .finite value => decide ((n : Rat) < value)

/-- `d < n` -/
def Double.lt (n : Int) : Double → Bool
  | .nan => false
  | .infinity negative => negative
  | .finite value => decide (value < (n : Rat))

/-- The conversion to `int64_t`, which drops the fraction; a number that has none is undefined behaviour, here 0. -/
def Double.toInt64 : Double → Int
  | .finite value =>
    let whole := value.num.tdiv value.den
    if -2 ^ 63 ≤ whole ∧ whole < 2 ^ 63 then whole else 0
  | _ => 0

/-- `google::protobuf::Value`. -/
inductive JsonValue
  | notSet
  | null
  | number (value : Double)
  | string (value : Bytes)
  | bool (value : Bool)
  | struct (fields : List (Bytes × JsonValue))
  | list (values : List JsonValue)

/-- `google::protobuf::Struct`. -/
structure JsonStruct where
  fields : List (Bytes × JsonValue) := []

/-- `fields().find(name)`. -/
def JsonStruct.find (name : Bytes) (json : JsonStruct) : Option JsonValue :=
  (json.fields.find? fun field => decide (field.1 = name)).map (·.2)

/-- `(*fields)[name] = value`. -/
def JsonStruct.set (name : Bytes) (value : JsonValue) (json : JsonStruct) : JsonStruct :=
  { fields := (name, value) :: json.fields.filter fun field => decide (field.1 ≠ name) }

theorem JsonStruct.find_set (name name' : Bytes) (value : JsonValue) (json : JsonStruct) :
    (json.set name' value).find name = if name' = name then some value else json.find name := by
  unfold JsonStruct.find JsonStruct.set
  rw [List.find?_cons]
  by_cases h : name' = name
  · rw [if_pos h, decide_eq_true h]
    rfl
  · rw [if_neg h, decide_eq_false h]
    congr 1
    -- the members that go are not the one looked for
    induction json.fields with
    | nil => rfl
    | cons field fields ih =>
      by_cases hf : field.1 = name'
      · have hn : field.1 ≠ name := fun e => h (hf ▸ e)
        simp only [List.filter_cons, List.find?_cons, hf, ne_eq, not_true_eq_false, decide_false, Bool.false_eq_true,
          if_false, h] at ih ⊢
        exact ih
      · simp only [List.filter_cons, List.find?_cons, hf, ne_eq, not_false_eq_true, decide_true, if_true] at ih ⊢
        rw [ih]

/-- Two objects with the same members. -/
def JsonStruct.Same (json json' : JsonStruct) : Prop := ∀ name, json.find name = json'.find name

/-! ## Times -/

/-- An `absl::Time` or `absl::Duration` in quarters of a nanosecond, or an infinite one. -/
abbrev AbslTime := WithBot (WithTop Int)

instance AbslTime.linearOrder : LinearOrder AbslTime := @WithBot.linearOrder _ (@WithTop.linearOrder _ Int.instLinearOrder)
instance AbslTime.lt : LT AbslTime := AbslTime.linearOrder.toLT
instance AbslTime.le : LE AbslTime := AbslTime.linearOrder.toLE
instance AbslTime.decidableLT : DecidableLT AbslTime := AbslTime.linearOrder.toDecidableLT
instance AbslTime.decidableLE : DecidableLE AbslTime := AbslTime.linearOrder.toDecidableLE

def AbslTime.ofTicks (ticks : Int) : AbslTime := ((ticks : WithTop Int) : WithBot (WithTop Int))

/-- `absl::FromUnixSeconds`. -/
def fromUnixSeconds (seconds : Int) : AbslTime := AbslTime.ofTicks (seconds * 4000000000)

/-- `time + duration`; an infinite time stays what it is. -/
def AbslTime.plus (time duration : AbslTime) : AbslTime :=
  match time with
  | none => ⊥
  | some none => ((⊤ : WithTop Int) : WithBot (WithTop Int))
  | some (some x) =>
    match duration with
    | none => ⊥
    | some none => ((⊤ : WithTop Int) : WithBot (WithTop Int))
    | some (some y) => AbslTime.ofTicks (x + y)

/-- `-duration` -/
def AbslTime.opposite (duration : AbslTime) : AbslTime :=
  match duration with
  | none => ((⊤ : WithTop Int) : WithBot (WithTop Int))
  | some none => ⊥
  | some (some y) => AbslTime.ofTicks (-y)

/-- `time - duration` -/
def AbslTime.minus (time duration : AbslTime) : AbslTime := time.plus duration.opposite

/-! ## Registered claims -/

def jwtClaimIssuer : Bytes := ascii "iss"
def jwtClaimSubject : Bytes := ascii "sub"
def jwtClaimAudience : Bytes := ascii "aud"
def jwtClaimExpiration : Bytes := ascii "exp"
def jwtClaimNotBefore : Bytes := ascii "nbf"
def jwtClaimIssuedAt : Bytes := ascii "iat"
def jwtClaimJwtId : Bytes := ascii "jti"

/-- 31 Dec 9999, 23:59:59 GMT. -/
def jwtTimestampMax : Int := 253402300799

def claimIsNotAString (json : JsonStruct) (name : Bytes) : Bool :=
  match json.find name with
  | none => false
  | some (.string _) => false
  | some _ => true

def claimIsNotATimestamp (json : JsonStruct) (name : Bytes) : Bool :=
  match json.find name with
  | none => false
  | some (.number timestamp) => timestamp.gt jwtTimestampMax || timestamp.lt 0
  | some _ => true

/-- The loop of `ValidateAudienceClaim`. -/
def audiencesLoop : List JsonValue → Except Status Unit
  | [] => .ok ()
  | .string _ :: values => audiencesLoop values
  | _ :: _ => .error ⟨.invalidArgument, "aud claim is not a list of strings"⟩

def validateAudienceClaim (json : JsonStruct) : Except Status Unit :=
  match json.find jwtClaimAudience with
  | none => .ok ()
  | some (.string _) => .ok ()
  | some (.list values) =>
    if values.length < 1 then .error ⟨.invalidArgument, "aud claim is present but empty"⟩ else audiencesLoop values
  | some _ => .error ⟨.invalidArgument, "aud claim is not a list"⟩

/-- `TimestampToTime`. -/
def timestampToTime (timestamp : Double) : AbslTime :=
  if timestamp.gt jwtTimestampMax then fromUnixSeconds jwtTimestampMax else fromUnixSeconds timestamp.toInt64

/-! ## RawJwt -/

structure RawJwt where
  typeHeader : Option Bytes
  jsonProto  : JsonStruct

/-- The libraries behind a token: `absl::WebSafeBase64Escape` and `WebSafeBase64Unescape`, and the parser and the printer of
protobuf JSON. -/
structure JwtLibraries where
  escape      : Bytes → Bytes
  unescape    : Bytes → Option Bytes
  parseStruct : Bytes → Option JsonStruct
  printStruct : JsonStruct → Except Status Bytes

/-- `JsonStringToProtoStruct`. -/
def jsonStringToProtoStruct (libraries : JwtLibraries) (jsonString : Bytes) : Except Status JsonStruct :=
  match libraries.parseStruct jsonString with
  | none => .error ⟨.invalidArgument, "invalid JSON"⟩
  | some json => .ok json

namespace RawJwt

/-- `RawJwt::FromJson`. -/
def fromJson (libraries : JwtLibraries) (typeHeader : Option Bytes) (jsonPayload : Bytes) : Except Status RawJwt :=
  match jsonStringToProtoStruct libraries jsonPayload with
  | .error e => .error e
  | .ok json =>
    if claimIsNotAString json jwtClaimIssuer || claimIsNotAString json jwtClaimSubject ||
        claimIsNotATimestamp json jwtClaimExpiration || claimIsNotATimestamp json jwtClaimNotBefore ||
        claimIsNotATimestamp json jwtClaimIssuedAt then
      .error ⟨.invalidArgument, "contains an invalid registered claim"⟩
    else
      match validateAudienceClaim json with
      | .error e => .error e
      | .ok () => .ok ⟨typeHeader, json⟩

/-- `GetJsonPayload`. -/
def getJsonPayload (libraries : JwtLibraries) (token : RawJwt) : Except Status Bytes :=
  libraries.printStruct token.jsonProto

def hasTypeHeader (token : RawJwt) : Bool := token.typeHeader.isSome

def getTypeHeader (token : RawJwt) : Except Status Bytes :=
  match token.typeHeader with
  | none => .error ⟨.invalidArgument, "No type header found"⟩
  | some typeHeader => .ok typeHeader

/-- A `Has` method. -/
def hasClaim (name : Bytes) (token : RawJwt) : Bool := (token.jsonProto.find name).isSome

def hasIssuer (token : RawJwt) : Bool := token.hasClaim jwtClaimIssuer
def hasSubject (token : RawJwt) : Bool := token.hasClaim jwtClaimSubject
def hasJwtId (token : RawJwt) : Bool := token.hasClaim jwtClaimJwtId
def hasAudiences (token : RawJwt) : Bool := token.hasClaim jwtClaimAudience
def hasExpiration (token : RawJwt) : Bool := token.hasClaim jwtClaimExpiration
def hasNotBefore (token : RawJwt) : Bool := token.hasClaim jwtClaimNotBefore
def hasIssuedAt (token : RawJwt) : Bool := token.hasClaim jwtClaimIssuedAt

def getIssuer (token : RawJwt) : Except Status Bytes :=
  match token.jsonProto.find jwtClaimIssuer with
  | none => .error ⟨.invalidArgument, "No Issuer found"⟩
  | some (.string issuer) => .ok issuer
  | some _ => .error ⟨.invalidArgument, "Issuer is not a string"⟩

/-- A string claim; `label` is its name in the messages, and `missing` the code when it is absent. -/
def getStringOf (name : Bytes) (missing : StatusCode) (label : String) (token : RawJwt) : Except Status Bytes :=
  match token.jsonProto.find name with
  | none => .error ⟨missing, s!"No {label} found"⟩
  | some (.string value) => .ok value
  | some _ => .error ⟨.invalidArgument, s!"{label} is not a string"⟩

def getSubject (token : RawJwt) : Except Status Bytes := token.getStringOf jwtClaimSubject .invalidArgument "Subject"
def getJwtId (token : RawJwt) : Except Status Bytes := token.getStringOf jwtClaimJwtId .notFound "JwtId"

/-- The loop of `GetAudiences`. -/
def getAudiencesLoop : List JsonValue → Except Status (List Bytes)
  | [] => .ok []
  | .string audience :: values => (getAudiencesLoop values).map (audience :: ·)
  | _ :: _ => .error ⟨.invalidArgument, "Audiences is not a list of strings"⟩

def getAudiences (token : RawJwt) : Except Status (List Bytes) :=
  match token.jsonProto.find jwtClaimAudience with
  | none => .error ⟨.notFound, "No Audiences found"⟩
  | some (.list values) => getAudiencesLoop values
  | some (.string audience) => .ok [audience]
  -- the string value of a value that is no string is empty
  | some _ => .ok [[]]

/-- A time claim; `label` is its name in the messages. -/
def getTimeClaim (name : Bytes) (label : String) (token : RawJwt) : Except Status AbslTime :=
  match token.jsonProto.find name with
  | none => .error ⟨.notFound, s!"No {label} found"⟩
  | some (.number timestamp) => .ok (timestampToTime timestamp)
  | some _ => .error ⟨.invalidArgument, s!"{label} is not a number"⟩

def getExpiration (token : RawJwt) : Except Status AbslTime := token.getTimeClaim jwtClaimExpiration "Expiration"
def getNotBefore (token : RawJwt) : Except Status AbslTime := token.getTimeClaim jwtClaimNotBefore "NotBefore"
def getIssuedAt (token : RawJwt) : Except Status AbslTime := token.getTimeClaim jwtClaimIssuedAt "IssuedAt"

end RawJwt

/-! ## Tokens that say the same -/

/-- Two tokens with the same type header and the same claims. -/
structure RawJwt.Same (token token' : RawJwt) : Prop where
  typeHeader : token.typeHeader = token'.typeHeader
  claims     : token.jsonProto.Same token'.jsonProto

section
variable {token token' : RawJwt}

theorem RawJwt.Same.hasClaim (h : token.Same token') (name : Bytes) : token.hasClaim name = token'.hasClaim name := by
  unfold RawJwt.hasClaim
  rw [h.claims]

theorem RawJwt.Same.getTimeClaim (h : token.Same token') (name : Bytes) (label : String) :
    token.getTimeClaim name label = token'.getTimeClaim name label := by
  unfold RawJwt.getTimeClaim
  rw [h.claims]

theorem RawJwt.Same.getIssuer (h : token.Same token') : token.getIssuer = token'.getIssuer := by
  unfold RawJwt.getIssuer
  rw [h.claims]

theorem RawJwt.Same.getAudiences (h : token.Same token') : token.getAudiences = token'.getAudiences := by
  unfold RawJwt.getAudiences
  rw [h.claims]

end

end Tink
