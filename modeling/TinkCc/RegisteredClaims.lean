import Mathlib.Algebra.Order.Floor.Ring
import Mathlib.Data.Rat.Floor
import TinkCc.RawJwt
/-!
# RegisteredClaims — what the getters give for a parsed token

`RawJwt::FromJson` checks the registered claims, all but `jti`: a token whose `jti` is no string is accepted, has a JWT id,
and has none that can be read.
-/
namespace Tink

/-- A time that the setters of `RawJwtBuilder` accept. -/
def IsClaimTime (time : AbslTime) : Prop := ∃ seconds, 0 ≤ seconds ∧ seconds ≤ jwtTimestampMax ∧ time = fromUnixSeconds seconds

/-- Each registered claim that a token has can be read. -/
structure RawJwt.Readable (token : RawJwt) : Prop where
  issuer     : token.hasIssuer = true → ∃ issuer, token.getIssuer = .ok issuer
  subject    : token.hasSubject = true → ∃ subject, token.getSubject = .ok subject
  jwtId      : token.hasJwtId = true → ∃ jwtId, token.getJwtId = .ok jwtId
  audiences  : token.hasAudiences = true → ∃ audiences, token.getAudiences = .ok audiences ∧ audiences ≠ []
  expiration : token.hasExpiration = true → ∃ time, token.getExpiration = .ok time ∧ IsClaimTime time
  notBefore  : token.hasNotBefore = true → ∃ time, token.getNotBefore = .ok time ∧ IsClaimTime time
  issuedAt   : token.hasIssuedAt = true → ∃ time, token.getIssuedAt = .ok time ∧ IsClaimTime time

/-! ## What each check gives -/

/-- **A string claim can be read when it passes the check, and only then.** -/
theorem getStringOf_iff (token : RawJwt) (name : Bytes) (missing : StatusCode) (label : String) :
    (token.hasClaim name = true → ∃ value, token.getStringOf name missing label = .ok value) ↔
      claimIsNotAString token.jsonProto name = false := by
  unfold RawJwt.hasClaim RawJwt.getStringOf claimIsNotAString
  cases hfind : token.jsonProto.find name with
  | none => exact iff_of_true (fun h => by cases h) rfl
  | some value =>
    cases value with
    | string text => exact iff_of_true (fun _ => ⟨text, rfl⟩) rfl
    | notSet | null | number | bool | struct | list =>
      refine iff_of_false (fun h => ?_) (fun h => by cases h)
      obtain ⟨value, hvalue⟩ := h rfl
      cases hvalue

theorem Double.toInt64_finite {value : Rat} (hge : 0 ≤ value) (hle : value ≤ (jwtTimestampMax : Rat)) :
    (Double.finite value).toInt64 = ⌊value⌋ ∧ 0 ≤ ⌊value⌋ ∧ ⌊value⌋ ≤ jwtTimestampMax := by
  have hfloor : value.num.tdiv value.den = ⌊value⌋ := by
    rw [Int.tdiv_eq_ediv_of_nonneg (Rat.num_nonneg.2 hge), Rat.floor_def']
  have hmin : 0 ≤ ⌊value⌋ := Int.floor_nonneg.2 hge
  have hmax : ⌊value⌋ ≤ jwtTimestampMax := Int.cast_le.1 ((Int.floor_le value).trans hle)
  refine ⟨?_, hmin, hmax⟩
  have hrange : ⌊value⌋ < 2 ^ 63 := lt_of_le_of_lt hmax (by decide)
  show (if -2 ^ 63 ≤ value.num.tdiv value.den ∧ value.num.tdiv value.den < 2 ^ 63 then value.num.tdiv value.den else 0) = _
  rw [hfloor]
  exact if_pos ⟨by omega, hrange⟩

/-- The seconds of a number in the range are in it. -/
theorem timestampToTime_isClaimTime {timestamp : Double} (hmax : timestamp.gt jwtTimestampMax = false)
    (hmin : timestamp.lt 0 = false) : IsClaimTime (timestampToTime timestamp) := by
  unfold timestampToTime
  rw [if_neg (by rw [hmax]; exact Bool.false_ne_true)]
  cases timestamp with
  | nan => exact ⟨0, le_refl _, by decide, rfl⟩
  | infinity negative => exact ⟨0, le_refl _, by decide, rfl⟩
  | finite value =>
    obtain ⟨heq, hnonneg, hle⟩ := Double.toInt64_finite (not_lt.1 (of_decide_eq_false hmin)) (not_lt.1 (of_decide_eq_false hmax))
    exact ⟨⌊value⌋, hnonneg, hle, by rw [heq]⟩

/-- A time claim that passes the check can be read. -/
theorem getTimeClaim_of_check {token : RawJwt} {name : Bytes} (label : String)
    (h : claimIsNotATimestamp token.jsonProto name = false) (hhas : token.hasClaim name = true) :
    ∃ time, token.getTimeClaim name label = .ok time ∧ IsClaimTime time := by
  unfold RawJwt.hasClaim at hhas
  unfold claimIsNotATimestamp at h
  unfold RawJwt.getTimeClaim
  cases hfind : token.jsonProto.find name with
  | none =>
    rw [hfind] at hhas
    cases hhas
  | some value =>
    rw [hfind] at h
    cases value with
    | number timestamp =>
      obtain ⟨hmax, hmin⟩ := Bool.or_eq_false_iff.1 h
      exact ⟨_, rfl, timestampToTime_isClaimTime hmax hmin⟩
    | notSet | null | string | bool | struct | list => cases h

theorem getAudiencesLoop_of_check : ∀ {values : List JsonValue}, audiencesLoop values = .ok () →
    ∃ audiences, RawJwt.getAudiencesLoop values = .ok audiences ∧ audiences.length = values.length
  | [], _ => ⟨[], rfl, rfl⟩
  | value :: values, h => by
    cases value with
    | string audience =>
      have hrest : audiencesLoop values = .ok () := h
      obtain ⟨audiences, hloop, hlen⟩ := getAudiencesLoop_of_check hrest
      refine ⟨audience :: audiences, ?_, by rw [List.length_cons, List.length_cons, hlen]⟩
      unfold RawJwt.getAudiencesLoop
      rw [hloop]
      rfl
    | notSet | null | number | bool | struct | list => cases h

/-- Audiences that pass the check can be read, and there are some. -/
theorem getAudiences_of_check {token : RawJwt} (h : validateAudienceClaim token.jsonProto = .ok ())
    (hhas : token.hasAudiences = true) : ∃ audiences, token.getAudiences = .ok audiences ∧ audiences ≠ [] := by
  unfold RawJwt.hasAudiences RawJwt.hasClaim at hhas
  unfold validateAudienceClaim at h
  unfold RawJwt.getAudiences
  cases hfind : token.jsonProto.find jwtClaimAudience with
  | none =>
    rw [hfind] at hhas
    cases hhas
  | some value =>
    rw [hfind] at h
    cases value with
    | string audience => exact ⟨[audience], rfl, List.cons_ne_nil _ _⟩
    | list values =>
      dsimp only at h
      split at h
      · cases h
      · rename_i hlength
        obtain ⟨audiences, hloop, hlen⟩ := getAudiencesLoop_of_check h
        refine ⟨audiences, hloop, fun hnil => hlength ?_⟩
        rw [← hlen, hnil]
        exact Nat.zero_lt_one
    | notSet | null | number | bool | struct => cases h

/-! ## Parsed tokens -/

variable {libraries : JwtLibraries} {typeHeader : Option Bytes} {jsonPayload : Bytes} {json : JsonStruct} {token : RawJwt}

/-- What `FromJson` checks. -/
theorem fromJson_ok (hjson : libraries.parseStruct jsonPayload = some json)
    (h : RawJwt.fromJson libraries typeHeader jsonPayload = .ok token) :
    token = ⟨typeHeader, json⟩ ∧ claimIsNotAString json jwtClaimIssuer = false ∧
      claimIsNotAString json jwtClaimSubject = false ∧ claimIsNotATimestamp json jwtClaimExpiration = false ∧
      claimIsNotATimestamp json jwtClaimNotBefore = false ∧ claimIsNotATimestamp json jwtClaimIssuedAt = false ∧
      validateAudienceClaim json = .ok () := by
  unfold RawJwt.fromJson jsonStringToProtoStruct at h
  rw [hjson] at h
  dsimp only at h
  split at h
  · cases h
  · rename_i hclaims
    split at h
    · cases h
    · rename_i haudience
      simp only [Bool.or_eq_true, not_or, Bool.not_eq_true] at hclaims
      obtain ⟨⟨⟨⟨hissuer, hsubject⟩, hexp⟩, hnbf⟩, hiat⟩ := hclaims
      exact ⟨(Except.ok.inj h).symm, hissuer, hsubject, hexp, hnbf, hiat, haudience⟩

/-- **The registered claims of a parsed token can be read exactly when its `jti`, if there is one, is a string**, which is
the one check that `FromJson` does not make. -/
theorem fromJson_readable_iff (hjson : libraries.parseStruct jsonPayload = some json)
    (h : RawJwt.fromJson libraries typeHeader jsonPayload = .ok token) :
    token.Readable ↔ claimIsNotAString json jwtClaimJwtId = false := by
  obtain ⟨rfl, hissuer, hsubject, hexp, hnbf, hiat, haudience⟩ := fromJson_ok hjson h
  constructor
  · intro hreadable
    exact (getStringOf_iff ⟨typeHeader, json⟩ jwtClaimJwtId .notFound "JwtId").1 hreadable.jwtId
  · intro hjwtId
    exact
      { issuer := (getStringOf_iff ⟨typeHeader, json⟩ jwtClaimIssuer .invalidArgument "Issuer").2 hissuer
        subject := (getStringOf_iff ⟨typeHeader, json⟩ jwtClaimSubject .invalidArgument "Subject").2 hsubject
        jwtId := (getStringOf_iff ⟨typeHeader, json⟩ jwtClaimJwtId .notFound "JwtId").2 hjwtId
        audiences := getAudiences_of_check haudience
        expiration := getTimeClaim_of_check "Expiration" hexp
        notBefore := getTimeClaim_of_check "NotBefore" hnbf
        issuedAt := getTimeClaim_of_check "IssuedAt" hiat }

/-! ## A JWT id that is a number -/

def numberJtiPayload : Bytes := ascii "\x7b\"jti\":123\x7d"
def textJtiPayload : Bytes := ascii "\x7b\"jti\":\"123\",\"exp\":5\x7d"

def numberJti : JsonStruct := ⟨[(ascii "jti", .number (.finite 123))]⟩
def textJti : JsonStruct := ⟨[(ascii "jti", .string (ascii "123")), (ascii "exp", .number (.finite 5))]⟩

/-- Libraries that parse the two payloads. -/
def jtiLibraries : JwtLibraries where
  escape := id
  unescape := some
  parseStruct payload :=
    if payload = numberJtiPayload then some numberJti else if payload = textJtiPayload then some textJti else none
  printStruct _ := .error ⟨.unimplemented, ""⟩

/-- A token with a string for its JWT id is readable. -/
theorem fromJson_readable_text :
    RawJwt.fromJson jtiLibraries none textJtiPayload = .ok ⟨none, textJti⟩ ∧ RawJwt.Readable ⟨none, textJti⟩ := by
  have hjson : jtiLibraries.parseStruct textJtiPayload = some textJti := rfl
  have hparsed : RawJwt.fromJson jtiLibraries none textJtiPayload = .ok ⟨none, textJti⟩ := rfl
  exact ⟨hparsed, (fromJson_readable_iff hjson hparsed).2 rfl⟩

/-- A token whose JWT id is a number is accepted, and has a JWT id that cannot be read. -/
theorem fromJson_not_readable : RawJwt.fromJson jtiLibraries none numberJtiPayload = .ok ⟨none, numberJti⟩ ∧
    RawJwt.hasJwtId ⟨none, numberJti⟩ = true ∧
    RawJwt.getJwtId ⟨none, numberJti⟩ = .error ⟨.invalidArgument, "JwtId is not a string"⟩ ∧
    ¬ RawJwt.Readable ⟨none, numberJti⟩ := by
  refine ⟨rfl, rfl, rfl, fun h => ?_⟩
  obtain ⟨value, hvalue⟩ := h.jwtId rfl
  cases hvalue

end Tink
