import TinkCc.RawJwt
/-!
# JwtValidator — what is asked of a token

`JwtValidator::Validate` and `JwtValidatorBuilder`: what a validator accepts, and that a larger clock skew accepts more.
-/
namespace Tink

structure JwtValidator where
  expectedTypeHeader     : Option Bytes := none
  expectedIssuer         : Option Bytes := none
  expectedAudience       : Option Bytes := none
  ignoreTypeHeader       : Bool := false
  ignoreIssuer           : Bool := false
  ignoreAudiences        : Bool := false
  allowMissingExpiration : Bool := false
  expectIssuedInThePast  : Bool := false
  clockSkew              : AbslTime := AbslTime.ofTicks 0
  fixedNow               : Option AbslTime := none

namespace JwtValidator

/-- `ValidateTimestamps`, when `absl::Now()` is `clock`. -/
def validateTimestamps (validator : JwtValidator) (clock : AbslTime) (token : RawJwt) : Except Status Unit := do
  let now := validator.fixedNow.getD clock
  if !token.hasExpiration && !validator.allowMissingExpiration then
    throw ⟨.invalidArgument, "token does not have an expiration set"⟩
  if token.hasExpiration then
    let expiration ← token.getExpiration
    if expiration ≤ now.minus validator.clockSkew then
      throw ⟨.invalidArgument, "token has expired"⟩
  if token.hasNotBefore then
    let notBefore ← token.getNotBefore
    if now.plus validator.clockSkew < notBefore then
      throw ⟨.invalidArgument, "token cannot yet be used"⟩
  if validator.expectIssuedInThePast then
    let issuedAt ← token.getIssuedAt
    if now.plus validator.clockSkew < issuedAt then
      throw ⟨.invalidArgument, "token has an invalid iat claim in the future"⟩

def validateTypeHeader (validator : JwtValidator) (token : RawJwt) : Except Status Unit :=
  match validator.expectedTypeHeader with
  | some expected =>
    if !token.hasTypeHeader then .error ⟨.invalidArgument, "missing expected type header"⟩
    else do
      let typeHeader ← token.getTypeHeader
      if expected ≠ typeHeader then throw ⟨.invalidArgument, "wrong type header"⟩
  | none =>
    if token.hasTypeHeader && !validator.ignoreTypeHeader then
      .error ⟨.invalidArgument, "invalid JWT; token has type header set, but validator not"⟩
    else .ok ()

def validateIssuer (validator : JwtValidator) (token : RawJwt) : Except Status Unit :=
  match validator.expectedIssuer with
  | some expected =>
    if !token.hasIssuer then .error ⟨.invalidArgument, "missing expected issuer"⟩
    else do
      let issuer ← token.getIssuer
      if expected ≠ issuer then throw ⟨.invalidArgument, "wrong issuer"⟩
  | none =>
    if token.hasIssuer && !validator.ignoreIssuer then
      .error ⟨.invalidArgument, "invalid JWT; token has issuer set, but validator not"⟩
    else .ok ()

def validateAudiences (validator : JwtValidator) (token : RawJwt) : Except Status Unit :=
  match validator.expectedAudience with
  | some expected =>
    if !token.hasAudiences then .error ⟨.invalidArgument, "missing expected audiences"⟩
    else do
      let audiences ← token.getAudiences
      if expected ∉ audiences then throw ⟨.invalidArgument, "audience not found"⟩
  | none =>
    if token.hasAudiences && !validator.ignoreAudiences then
      .error ⟨.invalidArgument, "invalid JWT; token has audience set, but validator not"⟩
    else .ok ()

/-- `Validate`, when `absl::Now()` is `clock`. -/
def validate (validator : JwtValidator) (clock : AbslTime) (token : RawJwt) : Except Status Unit := do
  validator.validateTimestamps clock token
  validator.validateTypeHeader token
  validator.validateIssuer token
  validator.validateAudiences token

/-! ## What a validator looks at -/

section
variable {token token' : RawJwt}

theorem validateTimestamps_same (h : token.Same token') (validator : JwtValidator) (clock : AbslTime) :
    validator.validateTimestamps clock token = validator.validateTimestamps clock token' := by
  unfold validateTimestamps RawJwt.hasExpiration RawJwt.hasNotBefore RawJwt.getExpiration RawJwt.getNotBefore
    RawJwt.getIssuedAt
  rw [h.hasClaim jwtClaimExpiration, h.hasClaim jwtClaimNotBefore, h.getTimeClaim jwtClaimExpiration,
    h.getTimeClaim jwtClaimNotBefore, h.getTimeClaim jwtClaimIssuedAt]

theorem validateTypeHeader_same (h : token.Same token') (validator : JwtValidator) :
    validator.validateTypeHeader token = validator.validateTypeHeader token' := by
  unfold validateTypeHeader RawJwt.hasTypeHeader RawJwt.getTypeHeader
  rw [h.typeHeader]

theorem validateIssuer_same (h : token.Same token') (validator : JwtValidator) :
    validator.validateIssuer token = validator.validateIssuer token' := by
  unfold validateIssuer RawJwt.hasIssuer
  rw [h.hasClaim, h.getIssuer]

theorem validateAudiences_same (h : token.Same token') (validator : JwtValidator) :
    validator.validateAudiences token = validator.validateAudiences token' := by
  unfold validateAudiences RawJwt.hasAudiences
  rw [h.hasClaim, h.getAudiences]

/-- **A validator looks at nothing but the type header and the claims.** -/
theorem validate_same (h : token.Same token') (validator : JwtValidator) (clock : AbslTime) :
    validator.validate clock token = validator.validate clock token' := by
  unfold validate
  rw [validateTimestamps_same h, validateTypeHeader_same h, validateIssuer_same h, validateAudiences_same h]

end

end JwtValidator

/-! ## The builder -/

/-- `kJwtMaxClockSkew` -/
def jwtMaxClockSkew : AbslTime := fromUnixSeconds 600

structure JwtValidatorBuilder where
  expectedTypeHeader     : Option Bytes := none
  expectedIssuer         : Option Bytes := none
  expectedAudience       : Option Bytes := none
  ignoreTypeHeader       : Bool := false
  ignoreIssuer           : Bool := false
  ignoreAudiences        : Bool := false
  allowMissingExpiration : Bool := false
  expectIssuedInThePast  : Bool := false
  clockSkew              : AbslTime := AbslTime.ofTicks 0
  fixedNow               : Option AbslTime := none

namespace JwtValidatorBuilder

def expectTypeHeader (expected : Bytes) (builder : JwtValidatorBuilder) : JwtValidatorBuilder :=
  { builder with expectedTypeHeader := some expected }

def expectIssuer (expected : Bytes) (builder : JwtValidatorBuilder) : JwtValidatorBuilder :=
  { builder with expectedIssuer := some expected }

def expectAudience (expected : Bytes) (builder : JwtValidatorBuilder) : JwtValidatorBuilder :=
  { builder with expectedAudience := some expected }

def setIgnoreTypeHeader (builder : JwtValidatorBuilder) : JwtValidatorBuilder := { builder with ignoreTypeHeader := true }

def setIgnoreIssuer (builder : JwtValidatorBuilder) : JwtValidatorBuilder := { builder with ignoreIssuer := true }

def setIgnoreAudiences (builder : JwtValidatorBuilder) : JwtValidatorBuilder := { builder with ignoreAudiences := true }

def setAllowMissingExpiration (builder : JwtValidatorBuilder) : JwtValidatorBuilder :=
  { builder with allowMissingExpiration := true }

def setExpectIssuedInThePast (builder : JwtValidatorBuilder) : JwtValidatorBuilder :=
  { builder with expectIssuedInThePast := true }

def setClockSkew (clockSkew : AbslTime) (builder : JwtValidatorBuilder) : JwtValidatorBuilder :=
  { builder with clockSkew := clockSkew }

def setFixedNow (fixedNow : AbslTime) (builder : JwtValidatorBuilder) : JwtValidatorBuilder :=
  { builder with fixedNow := some fixedNow }

/-- The validator that is built. -/
def toValidator (builder : JwtValidatorBuilder) : JwtValidator :=
  ⟨builder.expectedTypeHeader, builder.expectedIssuer, builder.expectedAudience, builder.ignoreTypeHeader,
    builder.ignoreIssuer, builder.ignoreAudiences, builder.allowMissingExpiration, builder.expectIssuedInThePast,
    builder.clockSkew, builder.fixedNow⟩

/-- `Build`. -/
def build (builder : JwtValidatorBuilder) : Except Status JwtValidator :=
  if builder.expectedTypeHeader.isSome && builder.ignoreTypeHeader then
    .error ⟨.invalidArgument, "IgnoreTypeHeader() and ExpectTypeHeader() cannot be used together"⟩
  else if builder.expectedIssuer.isSome && builder.ignoreIssuer then
    .error ⟨.invalidArgument, "IgnoreIssuer() and ExpectedIssuer() cannot be used together"⟩
  else if builder.expectedAudience.isSome && builder.ignoreAudiences then
    .error ⟨.invalidArgument, "IgnoreAudiences() and ExpectAudience() cannot be used together"⟩
  else if jwtMaxClockSkew < builder.clockSkew then
    .error ⟨.invalidArgument, "clock skew too large, max is 10 minutes"⟩
  else .ok builder.toValidator

theorem build_ok {builder : JwtValidatorBuilder} {validator : JwtValidator} (h : builder.build = .ok validator) :
    ¬ (builder.expectedTypeHeader.isSome && builder.ignoreTypeHeader) = true ∧
      ¬ (builder.expectedIssuer.isSome && builder.ignoreIssuer) = true ∧
      ¬ (builder.expectedAudience.isSome && builder.ignoreAudiences) = true ∧
      ¬ jwtMaxClockSkew < builder.clockSkew ∧ validator = builder.toValidator := by
  unfold build at h
  split at h
  · cases h
  · rename_i htype
    split at h
    · cases h
    · rename_i hissuer
      split at h
      · cases h
      · rename_i haudience
        split at h
        · cases h
        · rename_i hskew
          exact ⟨htype, hissuer, haudience, hskew, (Except.ok.inj h).symm⟩

end JwtValidatorBuilder

/-! ## What a validator accepts -/

/-- A claim is present and satisfies `agrees` with what is expected of it, or is absent with no expectation, or is
ignored. -/
def ClaimAsExpected {Value : Type} (agrees : Bytes → Value → Prop) (expected : Option Bytes) (ignored present : Bool)
    (value : Except Status Value) : Prop :=
  (∃ e v, expected = some e ∧ present = true ∧ value = .ok v ∧ agrees e v) ∨ (expected = none ∧ present = false) ∨
    ignored = true

/-- What the validator is specified to ask of a token at the time `now`. -/
structure JwtValidator.Meets (validator : JwtValidator) (now : AbslTime) (token : RawJwt) : Prop where
  expirationSet : token.hasExpiration = true ∨ validator.allowMissingExpiration = true
  notExpired    : token.hasExpiration = true → ∃ exp, token.getExpiration = .ok exp ∧ now.minus validator.clockSkew < exp
  notBefore     : token.hasNotBefore = true → ∃ nbf, token.getNotBefore = .ok nbf ∧ nbf ≤ now.plus validator.clockSkew
  issuedAt      : validator.expectIssuedInThePast = true →
    ∃ iat, token.getIssuedAt = .ok iat ∧ iat ≤ now.plus validator.clockSkew
  typeHeader    : ClaimAsExpected (· = ·) validator.expectedTypeHeader validator.ignoreTypeHeader token.hasTypeHeader
    token.getTypeHeader
  issuer        : ClaimAsExpected (· = ·) validator.expectedIssuer validator.ignoreIssuer token.hasIssuer token.getIssuer
  audiences     : ClaimAsExpected (· ∈ ·) validator.expectedAudience validator.ignoreAudiences token.hasAudiences
    token.getAudiences

namespace AbslTime

/-- A later duration makes a later time. -/
theorem plus_mono (time : AbslTime) {d d' : AbslTime} (h : d ≤ d') : time.plus d ≤ time.plus d' := by
  match time, d, d' with
  | none, _, _ => exact le_refl _
  | some none, _, _ => exact le_refl _
  | some (some x), none, _ => exact bot_le
  | some (some x), some none, some none => exact le_refl _
  | some (some x), some (some y), some none => exact WithBot.coe_le_coe.2 le_top
  | some (some x), some (some y), some (some y') =>
    have hy : y ≤ y' := WithTop.coe_le_coe.1 (WithBot.coe_le_coe.1 h)
    exact WithBot.coe_le_coe.2 (WithTop.coe_le_coe.2 (Int.add_le_add_left hy x))
  | some (some x), some none, none => exact absurd h (not_le_of_gt (WithBot.bot_lt_coe _))
  | some (some x), some (some y), none => exact absurd h (not_le_of_gt (WithBot.bot_lt_coe _))
  | some (some x), some none, some (some y') =>
    exact absurd (WithBot.coe_le_coe.1 h) (not_le_of_gt (WithTop.coe_lt_top y'))

theorem opposite_antitone {d d' : AbslTime} (h : d ≤ d') : d'.opposite ≤ d.opposite := by
  match d, d' with
  | none, none => exact le_refl _
  | none, some none => exact bot_le
  | none, some (some y') => exact WithBot.coe_le_coe.2 le_top
  | some none, some none => exact le_refl _
  | some (some y), some none => exact bot_le
  | some (some y), some (some y') =>
    have hy : y ≤ y' := WithTop.coe_le_coe.1 (WithBot.coe_le_coe.1 h)
    exact WithBot.coe_le_coe.2 (WithTop.coe_le_coe.2 (Int.neg_le_neg hy))
  | some none, none => exact absurd h (not_le_of_gt (WithBot.bot_lt_coe _))
  | some (some y), none => exact absurd h (not_le_of_gt (WithBot.bot_lt_coe _))
  | some none, some (some y') => exact absurd (WithBot.coe_le_coe.1 h) (not_le_of_gt (WithTop.coe_lt_top y'))

theorem minus_antitone (time : AbslTime) {d d' : AbslTime} (h : d ≤ d') : time.minus d' ≤ time.minus d :=
  plus_mono time (opposite_antitone h)

end AbslTime

/-! ### The checks, one by one -/

section Checks
variable {Value : Type} {e : Status} {rest : Except Status Unit}

/-- A check that throws, and what comes after it. -/
theorem check_eq_ok {bad : Prop} [Decidable bad] :
    (if bad then (do let _ ← (throw e : Except Status Unit); rest) else rest) = .ok () ↔ ¬ bad ∧ rest = .ok () := by
  by_cases h : bad
  · rw [if_pos h]
    exact iff_of_false (fun h => by cases h) (fun h' => h'.1 h)
  · rw [if_neg h]
    exact (and_iff_right h).symm

/-- A check of a value that has to be there. -/
theorem checkValue_eq_ok {value : Except Status Value} {bad : Value → Prop} [DecidablePred bad] :
    (do let v ← value; if bad v then (do let _ ← (throw e : Except Status Unit); rest) else rest) = .ok () ↔
      (∃ v, value = .ok v ∧ ¬ bad v) ∧ rest = .ok () := by
  cases value with
  | error e' =>
    refine iff_of_false (fun h => by cases h) ?_
    rintro ⟨⟨v, h, -⟩, -⟩
    cases h
  | ok v =>
    refine check_eq_ok.trans ⟨fun h => ⟨⟨v, rfl, h.1⟩, h.2⟩, ?_⟩
    rintro ⟨⟨v', h, hv⟩, hrest⟩
    cases h
    exact ⟨hv, hrest⟩

/-- A check of a value that is made under a condition. -/
theorem checkWhen_eq_ok {condition : Prop} [Decidable condition] {value : Except Status Value} {bad : Value → Prop}
    [DecidablePred bad] :
    (if condition then
      (do let v ← value; if bad v then (do let _ ← (throw e : Except Status Unit); rest) else rest) else rest) = .ok () ↔
      (condition → ∃ v, value = .ok v ∧ ¬ bad v) ∧ rest = .ok () := by
  by_cases h : condition
  · rw [if_pos h, checkValue_eq_ok]
    exact and_congr_left fun _ => ⟨fun h' _ => h', fun h' => h' h⟩
  · rw [if_neg h]
    exact ⟨fun h' => ⟨fun hc => absurd hc h, h'⟩, And.right⟩

/-- The last check. -/
theorem checkLast_eq_ok {bad : Prop} [Decidable bad] :
    (if bad then throw e else pure () : Except Status Unit) = .ok () ↔ ¬ bad := by
  by_cases h : bad
  · rw [if_pos h]
    exact iff_of_false (fun h => by cases h) (not_not.2 h)
  · rw [if_neg h]
    exact iff_of_true rfl h

theorem checkLastValue_eq_ok {value : Except Status Value} {bad : Value → Prop} [DecidablePred bad] :
    (do let v ← value; if bad v then throw e else pure () : Except Status Unit) = .ok () ↔
      ∃ v, value = .ok v ∧ ¬ bad v := by
  cases value with
  | error e' =>
    refine iff_of_false (fun h => by cases h) ?_
    rintro ⟨v, h, -⟩
    cases h
  | ok v =>
    refine checkLast_eq_ok.trans ⟨fun h => ⟨v, rfl, h⟩, ?_⟩
    rintro ⟨v', h, hv⟩
    cases h
    exact hv

/-- A claim that is compared with what is expected of it, by a validator that does not both expect and ignore it. -/
theorem checkClaim_eq_ok {agrees bad : Bytes → Value → Prop} [∀ x, DecidablePred (bad x)] {expected : Option Bytes}
    {ignored present : Bool} {value : Except Status Value} {e₁ e₂ e₃ : Status}
    (hbad : ∀ {x v}, ¬ bad x v ↔ agrees x v) : ¬ (expected.isSome && ignored) = true →
    ((match expected with
      | some x =>
        if (!present) = true then .error e₁ else (do let v ← value; if bad x v then throw e₂ else pure ())
      | none => if (present && !ignored) = true then .error e₃ else .ok () : Except Status Unit) = .ok () ↔
      ClaimAsExpected agrees expected ignored present value) := by
  intro hbuilt
  cases expected with
  | some x =>
    have hignored : ignored = false := by simpa using hbuilt
    subst hignored
    cases present with
    | false =>
      refine iff_of_false (fun h => by cases h) ?_
      rintro (⟨x', v, -, h, -⟩ | ⟨h, -⟩ | h) <;> cases h
    | true =>
      refine checkLastValue_eq_ok.trans ⟨fun ⟨v, hv, h⟩ => .inl ⟨x, v, rfl, rfl, hv, hbad.1 h⟩, ?_⟩
      rintro (⟨x', v, hx, -, hv, h⟩ | ⟨h, -⟩ | h)
      · cases hx
        exact ⟨v, hv, hbad.2 h⟩
      · cases h
      · cases h
  | none =>
    unfold ClaimAsExpected
    cases present <;> cases ignored <;> simp

end Checks

namespace JwtValidator
variable {validator : JwtValidator} {clock : AbslTime} {token : RawJwt}

theorem bind_unit_eq_ok {x : Except Status Unit} {f : Unit → Except Status Unit} :
    (x >>= f) = .ok () ↔ x = .ok () ∧ f () = .ok () := by
  cases x with
  | error e => exact iff_of_false (fun h => by cases h) (fun h => by cases h.1)
  | ok u => exact (and_iff_right rfl).symm

theorem validateTimestamps_iff : validator.validateTimestamps clock token = .ok () ↔
    (token.hasExpiration = true ∨ validator.allowMissingExpiration = true) ∧
    (token.hasExpiration = true → ∃ exp, token.getExpiration = .ok exp ∧
      (validator.fixedNow.getD clock).minus validator.clockSkew < exp) ∧
    (token.hasNotBefore = true → ∃ nbf, token.getNotBefore = .ok nbf ∧
      nbf ≤ (validator.fixedNow.getD clock).plus validator.clockSkew) ∧
    (validator.expectIssuedInThePast = true → ∃ iat, token.getIssuedAt = .ok iat ∧
      iat ≤ (validator.fixedNow.getD clock).plus validator.clockSkew) := by
  unfold validateTimestamps
  dsimp only
  have hissued : (if validator.expectIssuedInThePast = true then
        (do let issuedAt ← token.getIssuedAt
            if (validator.fixedNow.getD clock).plus validator.clockSkew < issuedAt then
              throw ⟨.invalidArgument, "token has an invalid iat claim in the future"⟩
            else pure ()) else pure () : Except Status Unit) = .ok () ↔
      (validator.expectIssuedInThePast = true → ∃ iat, token.getIssuedAt = .ok iat ∧
        ¬ (validator.fixedNow.getD clock).plus validator.clockSkew < iat) := by
    by_cases h : validator.expectIssuedInThePast = true
    · rw [if_pos h, checkLastValue_eq_ok]
      exact ⟨fun h' _ => h', fun h' => h' h⟩
    · rw [if_neg h]
      exact iff_of_true rfl (fun h' => absurd h' h)
  rw [check_eq_ok, checkWhen_eq_ok, checkWhen_eq_ok, hissued]
  simp only [not_le, not_lt, Bool.and_eq_true, Bool.not_eq_true', not_and_or, Bool.not_eq_false]

/-- **A validator accepts a token exactly when the token is as specified.** -/
theorem validate_iff {builder : JwtValidatorBuilder} (h : builder.build = .ok validator) :
    validator.validate clock token = .ok () ↔ validator.Meets (validator.fixedNow.getD clock) token := by
  obtain ⟨htype, hissuer, haudience, -, hvalidator⟩ := JwtValidatorBuilder.build_ok h
  have htypeHeader : validator.validateTypeHeader token = .ok () ↔ ClaimAsExpected (· = ·) validator.expectedTypeHeader
      validator.ignoreTypeHeader token.hasTypeHeader token.getTypeHeader := by
    subst hvalidator
    unfold validateTypeHeader
    exact checkClaim_eq_ok not_not htype
  have hissuer' : validator.validateIssuer token = .ok () ↔
      ClaimAsExpected (· = ·) validator.expectedIssuer validator.ignoreIssuer token.hasIssuer token.getIssuer := by
    subst hvalidator
    unfold validateIssuer
    exact checkClaim_eq_ok not_not hissuer
  have haudiences : validator.validateAudiences token = .ok () ↔ ClaimAsExpected (· ∈ ·) validator.expectedAudience
      validator.ignoreAudiences token.hasAudiences token.getAudiences := by
    subst hvalidator
    unfold validateAudiences
    exact checkClaim_eq_ok not_not haudience
  unfold validate
  rw [bind_unit_eq_ok, bind_unit_eq_ok, bind_unit_eq_ok, validateTimestamps_iff, htypeHeader, hissuer', haudiences]
  constructor
  · rintro ⟨⟨hset, hexp, hnbf, hiat⟩, htype, hissuer, haudiences⟩
    exact ⟨hset, hexp, hnbf, hiat, htype, hissuer, haudiences⟩
  · rintro ⟨hset, hexp, hnbf, hiat, htype, hissuer, haudiences⟩
    exact ⟨⟨hset, hexp, hnbf, hiat⟩, htype, hissuer, haudiences⟩

/-- A token that is as specified is so with a larger clock skew. -/
theorem Meets.mono {now skew' : AbslTime} (h : validator.Meets now token) (hle : validator.clockSkew ≤ skew') :
    JwtValidator.Meets { validator with clockSkew := skew' } now token where
  expirationSet := h.expirationSet
  notExpired hhas := by
    obtain ⟨exp, hexp, hlt⟩ := h.notExpired hhas
    exact ⟨exp, hexp, lt_of_le_of_lt (AbslTime.minus_antitone now hle) hlt⟩
  notBefore hhas := by
    obtain ⟨nbf, hnbf, hnbf_le⟩ := h.notBefore hhas
    exact ⟨nbf, hnbf, hnbf_le.trans (AbslTime.plus_mono now hle)⟩
  issuedAt hhas := by
    obtain ⟨iat, hiat, hiat_le⟩ := h.issuedAt hhas
    exact ⟨iat, hiat, hiat_le.trans (AbslTime.plus_mono now hle)⟩
  typeHeader := h.typeHeader
  issuer := h.issuer
  audiences := h.audiences

end JwtValidator

/-- **A validator decides its specification**, and a larger clock skew never turns an accepted token into a rejected
one. -/
theorem jwtValidator_spec {builder : JwtValidatorBuilder} {validator : JwtValidator} (h : builder.build = .ok validator)
    (clock : AbslTime) (token : RawJwt) :
    (validator.validate clock token = .ok () ↔ validator.Meets (validator.fixedNow.getD clock) token) ∧
      ∀ skew' validator', validator.clockSkew ≤ skew' → (builder.setClockSkew skew').build = .ok validator' →
        validator.validate clock token = .ok () → validator'.validate clock token = .ok () := by
  refine ⟨JwtValidator.validate_iff h, fun skew' validator' hle h' hvalid => ?_⟩
  have hvalidator' : validator' = { validator with clockSkew := skew' } := by
    rw [(JwtValidatorBuilder.build_ok h).2.2.2.2, (JwtValidatorBuilder.build_ok h').2.2.2.2]
    rfl
  subst hvalidator'
  exact (JwtValidator.validate_iff h').2 (((JwtValidator.validate_iff h).1 hvalid).mono hle)

/-- A builder that expects an issuer, at second 1000 with a skew of 60 seconds. -/
def joeBuilder : JwtValidatorBuilder :=
  ((({} : JwtValidatorBuilder).expectIssuer (ascii "joe")).setFixedNow (fromUnixSeconds 1000)).setClockSkew
    (fromUnixSeconds 60)

/-- A token of that issuer that expired at second 950. -/
def joeToken : RawJwt := ⟨none, ⟨[(ascii "exp", .number (.finite 950)), (ascii "iss", .string (ascii "joe"))]⟩⟩

theorem joeBuilder_build : joeBuilder.build = .ok joeBuilder.toValidator := by
  unfold JwtValidatorBuilder.build
  rw [if_neg (by decide), if_neg (by decide), if_neg (by decide), if_neg (by decide)]

theorem jwtValidator_spec_joe : joeBuilder.toValidator.Meets (fromUnixSeconds 1000) joeToken ∧
    joeBuilder.toValidator.validate (fromUnixSeconds 0) joeToken = .ok () := by
  have hvalid : joeBuilder.toValidator.validate (fromUnixSeconds 0) joeToken = .ok () := rfl
  exact ⟨(jwtValidator_spec joeBuilder_build (fromUnixSeconds 0) joeToken).1.1 hvalid, hvalid⟩

end Tink
