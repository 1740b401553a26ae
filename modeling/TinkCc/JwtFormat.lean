import TinkCc.LibSplit
import TinkCc.PrimitiveSet
import TinkCc.RawJwt
/-!
# JwtFormat — the header of a token and its base64

`jwt_format.cc`.
-/
namespace Tink

/-! ## Base64 -/

def isValidUrlsafeBase64Char (c : UInt8) : Bool :=
  decide (97 ≤ c ∧ c ≤ 122) || decide (65 ≤ c ∧ c ≤ 90) || decide (48 ≤ c ∧ c ≤ 57) || decide (c = 45 ∨ c = 95)

section
variable (libraries : JwtLibraries)

def strictWebSafeBase64Unescape (src : Bytes) : Option Bytes :=
  if src.all isValidUrlsafeBase64Char then libraries.unescape src else none

def encodeHeader (jsonHeader : Bytes) : Bytes := libraries.escape jsonHeader
def decodeHeader (header : Bytes) : Option Bytes := strictWebSafeBase64Unescape libraries header
def encodePayload (jsonPayload : Bytes) : Bytes := libraries.escape jsonPayload
def decodePayload (payload : Bytes) : Option Bytes := strictWebSafeBase64Unescape libraries payload
def encodeSignature (signature : Bytes) : Bytes := libraries.escape signature
def decodeSignature (encodedSignature : Bytes) : Option Bytes := strictWebSafeBase64Unescape libraries encodedSignature

/-! ## Headers -/

/-- The key id of a TINK key, as a kid. -/
def getKid (keyId : UInt32) (outputPrefixType : OutputPrefixType) : Option Bytes :=
  if outputPrefixType ≠ .tink then none else some (libraries.escape (bigEndian32 keyId))

def setIfPresent (name : Bytes) (value : Option Bytes) (json : JsonStruct) : JsonStruct :=
  match value with
  | none => json
  | some value => json.set name (.string value)

/-- The header that `CreateHeader` prints. -/
def headerStruct (algorithm : Bytes) (typeHeader kid : Option Bytes) : JsonStruct :=
  JsonStruct.set (ascii "alg") (.string algorithm)
    (setIfPresent (ascii "typ") typeHeader (setIfPresent (ascii "kid") kid {}))

def createHeader (algorithm : Bytes) (typeHeader kid : Option Bytes) : Except Status Bytes :=
  match libraries.printStruct (headerStruct algorithm typeHeader kid) with
  | .error e => .error e
  | .ok jsonHeader => .ok (encodeHeader libraries jsonHeader)

end

def validateKidInHeader (kidInHeader : JsonValue) (kid : Bytes) : Except Status Unit :=
  match kidInHeader with
  | .string value => if value ≠ kid then .error ⟨.invalidArgument, "invalid kid header"⟩ else .ok ()
  | _ => .error ⟨.invalidArgument, "kid header is not a string"⟩

/-- What `ValidateHeader` asks of the kid. -/
def validateKid (header : JsonStruct) (tinkKid customKid : Option Bytes) : Except Status Unit :=
  match tinkKid, customKid with
  | some _, some _ => .error ⟨.invalidArgument, "custom_kid can only be set for RAW keys"⟩
  | some tinkKid, none =>
    match header.find (ascii "kid") with
    -- for output prefix type TINK, the kid header is required
    | none => .error ⟨.invalidArgument, "missing kid in header"⟩
    | some kidInHeader => validateKidInHeader kidInHeader tinkKid
  | none, some customKid =>
    match header.find (ascii "kid") with
    | none => .ok ()
    | some kidInHeader => validateKidInHeader kidInHeader customKid
  | none, none => .ok ()

def validateHeader (header : JsonStruct) (algorithm : Bytes) (tinkKid customKid : Option Bytes) : Except Status Unit :=
  match header.find (ascii "alg") with
  | none => .error ⟨.invalidArgument, "header is missing alg"⟩
  | some (.string alg) =>
    if alg ≠ algorithm then .error ⟨.invalidArgument, "invalid alg"⟩
    else if (header.find (ascii "crit")).isSome then
      .error ⟨.invalidArgument, "all tokens with crit headers are rejected"⟩
    else
      match validateKid header tinkKid customKid with
      | .error e => .error e
      | .ok () =>
        match header.find (ascii "typ") with
        | none => .ok ()
        | some (.string _) => .ok ()
        | some _ => .error ⟨.invalidArgument, "typ is not a string"⟩
  | some _ => .error ⟨.invalidArgument, "alg is not a string"⟩

def getTypeHeader (header : JsonStruct) : Option Bytes :=
  match header.find (ascii "typ") with
  | some (.string value) => some value
  | _ => none

/-! ## Kid modes -/

/-- How the kid of a token goes with a key. -/
inductive KidMode
  | tink (kid : Bytes)
  | custom (kid : Bytes)
  | noKid

/-- The kid that a key of this mode writes. -/
def KidMode.written : KidMode → Option Bytes
  | .tink kid => some kid
  | .custom kid => some kid
  | .noKid => none

/-- What a key of this mode asks of the kid in a header. -/
def KidMode.Obeys (header : JsonStruct) : KidMode → Prop
  | .tink kid => header.find (ascii "kid") = some (.string kid)
  | .custom kid => ∀ value, header.find (ascii "kid") = some value → value = .string kid
  | .noKid => True

/-- The mode in which `ValidateHeader` is called, if any. -/
def KidMode.ofKids : Option Bytes → Option Bytes → Option KidMode
  | some _, some _ => none
  | some tinkKid, none => some (.tink tinkKid)
  | none, some customKid => some (.custom customKid)
  | none, none => some .noKid

theorem validateKidInHeader_ok {kidInHeader : JsonValue} {kid : Bytes} :
    validateKidInHeader kidInHeader kid = .ok () ↔ kidInHeader = .string kid := by
  unfold validateKidInHeader
  split
  · rename_i value
    by_cases h : value = kid
    · rw [if_neg (not_not.2 h), h]
      exact ⟨fun _ => rfl, fun _ => rfl⟩
    · rw [if_pos h]
      exact ⟨(fun h => by cases h), fun e => absurd (JsonValue.string.inj e) h⟩
  · rename_i hv
    exact ⟨(fun h => by cases h), fun e => absurd e (hv kid)⟩

theorem validateKid_ok {header : JsonStruct} {tinkKid customKid : Option Bytes} :
    validateKid header tinkKid customKid = .ok () ↔
      ∃ mode, KidMode.ofKids tinkKid customKid = some mode ∧ mode.Obeys header := by
  unfold validateKid KidMode.ofKids
  cases tinkKid with
  | some tinkKid =>
    cases customKid with
    | some customKid => exact ⟨(fun h => by cases h), fun ⟨_, h, _⟩ => by cases h⟩
    | none =>
      simp only [Option.some.injEq, exists_eq_left', KidMode.Obeys]
      split
      · rename_i hf
        rw [hf]
        exact ⟨(fun h => by cases h), fun h => by cases h⟩
      · rename_i value hf
        rw [hf, validateKidInHeader_ok, Option.some.injEq]
  | none =>
    cases customKid with
    | some customKid =>
      simp only [Option.some.injEq, exists_eq_left', KidMode.Obeys]
      split
      · rename_i hf
        rw [hf]
        exact ⟨(fun _ _ h => by cases h), fun _ => rfl⟩
      · rename_i value hf
        rw [hf, validateKidInHeader_ok]
        exact ⟨fun h _ e => Option.some.inj e ▸ h, fun h => h value rfl⟩
    | none => exact ⟨fun _ => ⟨.noKid, rfl, trivial⟩, fun _ => rfl⟩

/-- A header that a key of the mode accepts. -/
structure HeaderAccepted (algorithm : Bytes) (mode : KidMode) (header : JsonStruct) : Prop where
  alg    : header.find (ascii "alg") = some (.string algorithm)
  noCrit : header.find (ascii "crit") = none
  kid    : mode.Obeys header
  typ    : ∀ value, header.find (ascii "typ") = some value → ∃ typ, value = .string typ

theorem validateHeader_ok {header : JsonStruct} {algorithm : Bytes} {tinkKid customKid : Option Bytes} :
    validateHeader header algorithm tinkKid customKid = .ok () ↔
      ∃ mode, KidMode.ofKids tinkKid customKid = some mode ∧ HeaderAccepted algorithm mode header := by
  constructor
  · intro h
    unfold validateHeader at h
    split at h
    · cases h
    · rename_i alg halg
      split at h
      · cases h
      · rename_i ha
        split at h
        · cases h
        · rename_i hcrit
          split at h
          · cases h
          · rename_i hkid
            obtain ⟨mode, hmode, hobeys⟩ := validateKid_ok.1 hkid
            refine ⟨mode, hmode, (not_not.1 ha) ▸ halg, by simpa using hcrit, hobeys, fun value hv => ?_⟩
            rw [hv] at h
            cases value with
            | string typ => exact ⟨typ, rfl⟩
            | _ => cases h
    · cases h
  · rintro ⟨mode, hmode, halg, hcrit, hobeys, htyp⟩
    unfold validateHeader
    rw [halg]
    dsimp only
    rw [if_neg (not_not.2 rfl), hcrit, validateKid_ok.2 ⟨mode, hmode, hobeys⟩]
    dsimp only [Option.isSome_none]
    rw [if_neg Bool.false_ne_true]
    cases hv : header.find (ascii "typ") with
    | none => rfl
    | some value =>
      obtain ⟨typ, rfl⟩ := htyp value hv
      rfl

/-! ## The header that is written -/

theorem find_setIfPresent (name name' : Bytes) (value : Option Bytes) (json : JsonStruct) :
    (setIfPresent name' value json).find name =
      if name' = name then (value.map .string).or (json.find name) else json.find name := by
  cases value with
  | none => exact (ite_self _).symm
  | some value => exact JsonStruct.find_set name name' (.string value) json

section
variable (algorithm : Bytes) (typeHeader kid : Option Bytes)

theorem headerStruct_alg : (headerStruct algorithm typeHeader kid).find (ascii "alg") = some (.string algorithm) := by
  unfold headerStruct
  rw [JsonStruct.find_set, if_pos rfl]

theorem headerStruct_typ : (headerStruct algorithm typeHeader kid).find (ascii "typ") = typeHeader.map .string := by
  unfold headerStruct
  rw [JsonStruct.find_set, if_neg (by decide), find_setIfPresent, if_pos rfl, find_setIfPresent, if_neg (by decide)]
  exact Option.or_none

theorem headerStruct_kid : (headerStruct algorithm typeHeader kid).find (ascii "kid") = kid.map .string := by
  unfold headerStruct
  rw [JsonStruct.find_set, if_neg (by decide), find_setIfPresent, if_neg (by decide), find_setIfPresent, if_pos rfl]
  exact Option.or_none

theorem headerStruct_crit : (headerStruct algorithm typeHeader kid).find (ascii "crit") = none := by
  unfold headerStruct
  rw [JsonStruct.find_set, if_neg (by decide), find_setIfPresent, if_neg (by decide), find_setIfPresent,
    if_neg (by decide)]
  rfl

end

theorem headerStruct_accepted {algorithm : Bytes} {typeHeader : Option Bytes} {mode : KidMode} {header : JsonStruct}
    (h : header.Same (headerStruct algorithm typeHeader mode.written)) : HeaderAccepted algorithm mode header := by
  refine ⟨?_, ?_, ?_, fun value hv => ?_⟩
  · rw [h, headerStruct_alg]
  · rw [h, headerStruct_crit]
  · unfold KidMode.Obeys
    rw [h, headerStruct_kid]
    cases mode with
    | tink kid => rfl
    | custom kid => exact fun value hv => (Option.some.inj hv).symm
    | noKid => trivial
  · rw [h, headerStruct_typ, Option.map_eq_some_iff] at hv
    obtain ⟨typ, -, rfl⟩ := hv
    exact ⟨typ, rfl⟩

theorem getTypeHeader_headerStruct {algorithm : Bytes} {typeHeader kid : Option Bytes} {header : JsonStruct}
    (h : header.Same (headerStruct algorithm typeHeader kid)) : getTypeHeader header = typeHeader := by
  unfold getTypeHeader
  rw [h, headerStruct_typ]
  cases typeHeader <;> rfl

end Tink
