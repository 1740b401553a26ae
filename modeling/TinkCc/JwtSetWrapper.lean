import TinkCc.JwtRoundTrip
/-!
# JwtSetWrapper — JWTs of whole keysets

`jwt_mac_wrapper.cc`, `jwt_public_key_sign_wrapper.cc` and `jwt_public_key_verify_wrapper.cc`, without monitoring.  The
entries of a set are tried in the order of `get_all`; what is made of an accepted token depends on the token alone, so the
order does not matter.
-/
namespace Tink

section Generic
variable {P : Type}

/-- The loop of `Validate` over the prefixes, when `walk` is the order of the hash map. -/
def validatePrefixes (walk : PrimitivesMap P → PrimitivesMap P) (set : PrimitiveSet P) : Except Status Unit :=
  if (set.getAll walk).all (fun entry => decide (entry.outputPrefixType = .raw ∨ entry.outputPrefixType = .tink)) then .ok ()
  else .error ⟨.invalidArgument, "all JWT keys must be either RAW or TINK"⟩

/-- `Validate` of a set that needs a primary entry. -/
def validateJwtSet (name : String) (walk : PrimitivesMap P → PrimitivesMap P) (set : PrimitiveSet P) :
    Except Status (SetWithPrimary P) :=
  match validateSet name set with
  | .error e => .error e
  | .ok wrapper =>
    match validatePrefixes walk set with
    | .error e => .error e
    | .ok () => .ok wrapper

/-- The loop over the entries; `interesting` is the last error that is not about a tag. -/
def tryEntries {R : Type} (attempt : PrimitiveEntry P → Except Status R) :
    List (PrimitiveEntry P) → Option Status → Except Status R
  | [], interesting => .error (interesting.getD ⟨.invalidArgument, "verification failed"⟩)
  | entry :: entries, interesting =>
    match attempt entry with
    | .ok r => .ok r
    | .error e => tryEntries attempt entries (if e.code ≠ .unauthenticated then some e else interesting)

end Generic

/-! ## The wrappers -/

section
variable (libraries : JwtLibraries)

/-- The kid of an entry. -/
def PrimitiveEntry.kid {P : Type} (entry : PrimitiveEntry P) : Option Bytes :=
  getKid libraries entry.keyId entry.outputPrefixType

abbrev JwtMacSetWrapper := SetWithPrimary JwtMacImpl

def jwtMacWrap (walk : PrimitivesMap JwtMacImpl → PrimitivesMap JwtMacImpl) (set : PrimitiveSet JwtMacImpl) :
    Except Status JwtMacSetWrapper :=
  validateJwtSet "jwt_mac_set" walk set

namespace JwtMacSetWrapper

def computeMacAndEncode (wrapper : JwtMacSetWrapper) (token : RawJwt) : Except Status Bytes :=
  wrapper.primary.primitive.computeMacAndEncodeWithKid libraries token (wrapper.primary.kid libraries)

/-- `VerifyMacAndDecode`, when `walk` is the order of the hash map and `absl::Now()` is `clock`. -/
def verifyMacAndDecode (walk : PrimitivesMap JwtMacImpl → PrimitivesMap JwtMacImpl) (wrapper : JwtMacSetWrapper)
    (compact : Bytes) (validator : JwtValidator) (clock : AbslTime) : Except Status VerifiedJwt :=
  tryEntries (fun entry => entry.primitive.verifyMacAndDecodeWithKid libraries compact validator clock (entry.kid libraries))
    (wrapper.set.getAll walk) none

end JwtMacSetWrapper

abbrev JwtPublicKeySignSetWrapper := SetWithPrimary JwtPublicKeySignImpl

def jwtPublicKeySignWrap (walk : PrimitivesMap JwtPublicKeySignImpl → PrimitivesMap JwtPublicKeySignImpl)
    (set : PrimitiveSet JwtPublicKeySignImpl) : Except Status JwtPublicKeySignSetWrapper :=
  validateJwtSet "jwt_sign_set" walk set

def JwtPublicKeySignSetWrapper.signAndEncode (wrapper : JwtPublicKeySignSetWrapper) (random : Bytes) (token : RawJwt) :
    Except Status Bytes :=
  wrapper.primary.primitive.signAndEncodeWithKid libraries random token (wrapper.primary.kid libraries)

structure JwtPublicKeyVerifySetWrapper where
  set : PrimitiveSet JwtPublicKeyVerifyImpl

def jwtPublicKeyVerifyWrap (walk : PrimitivesMap JwtPublicKeyVerifyImpl → PrimitivesMap JwtPublicKeyVerifyImpl)
    (set : PrimitiveSet JwtPublicKeyVerifyImpl) : Except Status JwtPublicKeyVerifySetWrapper :=
  match validatePrefixes walk set with
  | .error e => .error e
  | .ok () => .ok ⟨set⟩

/-- `VerifyAndDecode`, when `walk` is the order of the hash map and `absl::Now()` is `clock`. -/
def JwtPublicKeyVerifySetWrapper.verifyAndDecode
    (walk : PrimitivesMap JwtPublicKeyVerifyImpl → PrimitivesMap JwtPublicKeyVerifyImpl)
    (wrapper : JwtPublicKeyVerifySetWrapper) (compact : Bytes) (validator : JwtValidator) (clock : AbslTime) :
    Except Status VerifiedJwt :=
  tryEntries (fun entry => entry.primitive.verifyAndDecodeWithKid libraries compact validator clock (entry.kid libraries))
    (wrapper.set.getAll walk) none

end

/-! ## Trying entries -/

section
variable {P R : Type} {attempt : PrimitiveEntry P → Except Status R}

theorem tryEntries_sound {r : R} : ∀ {entries : List (PrimitiveEntry P)} {interesting : Option Status},
    tryEntries attempt entries interesting = .ok r → ∃ entry ∈ entries, attempt entry = .ok r
  | [], _, h => by cases h
  | entry :: entries, interesting, h => by
    unfold tryEntries at h
    split at h
    · rename_i r' ha
      cases h
      exact ⟨entry, List.mem_cons_self, ha⟩
    · obtain ⟨entry', hm, ha⟩ := tryEntries_sound h
      exact ⟨entry', List.mem_cons_of_mem _ hm, ha⟩

theorem tryEntries_complete {r : R} {entry : PrimitiveEntry P} (ha : attempt entry = .ok r) :
    ∀ {entries : List (PrimitiveEntry P)} (interesting : Option Status), entry ∈ entries →
      ∃ r', tryEntries attempt entries interesting = .ok r'
  | entry' :: entries, interesting, hm => by
    unfold tryEntries
    split
    · rename_i r' _
      exact ⟨r', rfl⟩
    · rename_i e he
      rcases List.mem_cons.1 hm with rfl | hm
      · rw [ha] at he
        cases he
      · exact tryEntries_complete ha _ hm

/-- **When all that accept agree, the order of the entries does not matter.** -/
theorem tryEntries_ok {entries : List (PrimitiveEntry P)} {interesting : Option Status} {r : R}
    (hagree : ∀ entry ∈ entries, ∀ entry' ∈ entries, ∀ r r', attempt entry = .ok r → attempt entry' = .ok r' → r = r') :
    tryEntries attempt entries interesting = .ok r ↔ ∃ entry ∈ entries, attempt entry = .ok r := by
  constructor
  · exact tryEntries_sound
  · rintro ⟨entry, hm, ha⟩
    obtain ⟨r', hr⟩ := tryEntries_complete ha interesting hm
    obtain ⟨entry', hm', ha'⟩ := tryEntries_sound hr
    rw [hr, hagree entry' hm' entry hm r' r ha' ha]

end

/-- The entries of a set. -/
def PrimitiveSet.Has {P : Type} (set : PrimitiveSet P) (entry : PrimitiveEntry P) : Prop :=
  ∃ bucket ∈ set.primitives, entry ∈ bucket.2

theorem PrimitiveSet.mem_getAll {P : Type} {set : PrimitiveSet P} {walk : PrimitivesMap P → PrimitivesMap P}
    (hwalk : (walk set.primitives).Perm set.primitives) (entry : PrimitiveEntry P) :
    entry ∈ set.getAll walk ↔ set.Has entry := by
  unfold PrimitiveSet.getAll PrimitiveSet.Has
  rw [List.mem_flatMap]
  constructor
  · rintro ⟨bucket, hb, he⟩
    exact ⟨bucket, hwalk.mem_iff.1 hb, he⟩
  · rintro ⟨bucket, hb, he⟩
    exact ⟨bucket, hwalk.mem_iff.2 hb, he⟩

/-! ## What is accepted -/

/-- **What is made of a token depends on the token alone**, not on the key that accepts it. -/
theorem tokenAccepted_unique {libraries : JwtLibraries} {algorithm algorithm' : Bytes} {mode mode' : KidMode}
    {verify verify' : Bytes → Bytes → Except Status Unit} {validator validator' : JwtValidator} {clock clock' : AbslTime}
    {compact : Bytes} {verified verified' : VerifiedJwt}
    (h : TokenAccepted libraries algorithm mode verify validator clock compact verified)
    (h' : TokenAccepted libraries algorithm' mode' verify' validator' clock' compact verified') : verified = verified' := by
  obtain ⟨_, _, _, hthree, -, jsonHeader, jsonPayload, header, h⟩ := h
  obtain ⟨_, _, _, hthree', -, jsonHeader', jsonPayload', header', h'⟩ := h'
  rw [hthree] at hthree'
  cases hthree'
  have hh : jsonHeader' = jsonHeader := Option.some.inj (h'.headerDecodes.decoded.symm.trans h.headerDecodes.decoded)
  have hp : jsonPayload' = jsonPayload := Option.some.inj (h'.payloadDecodes.decoded.symm.trans h.payloadDecodes.decoded)
  subst hh hp
  have hj : header' = header := Option.some.inj (h'.headerIsJson.symm.trans h.headerIsJson)
  subst hj
  have hraw : verified.rawJwt = verified'.rawJwt := Except.ok.inj (h.claims.symm.trans h'.claims)
  cases verified
  cases verified'
  exact congrArg VerifiedJwt.mk hraw

section
variable {libraries : JwtLibraries} {compact : Bytes} {validator : JwtValidator} {clock : AbslTime}

theorem JwtMacImpl.verify_ok {impl : JwtMacImpl} {kid : Option Bytes} {verified : VerifiedJwt} :
    impl.verifyMacAndDecodeWithKid libraries compact validator clock kid = .ok verified ↔
      ∃ mode, impl.modeFor kid = some mode ∧
        TokenAccepted libraries impl.algorithm mode impl.mac.verifyMac validator clock compact verified :=
  verifyAndDecodeWithKid_ok libraries

theorem JwtPublicKeyVerifyImpl.verify_ok {impl : JwtPublicKeyVerifyImpl} {kid : Option Bytes} {verified : VerifiedJwt} :
    impl.verifyAndDecodeWithKid libraries compact validator clock kid = .ok verified ↔
      ∃ mode, impl.modeFor kid = some mode ∧
        TokenAccepted libraries impl.algorithm mode impl.verify.verify validator clock compact verified :=
  verifyAndDecodeWithKid_ok libraries

theorem JwtMacSetWrapper.verify_ok {wrapper : JwtMacSetWrapper} {walk : PrimitivesMap JwtMacImpl → PrimitivesMap JwtMacImpl}
    (hwalk : (walk wrapper.set.primitives).Perm wrapper.set.primitives) {verified : VerifiedJwt} :
    wrapper.verifyMacAndDecode libraries walk compact validator clock = .ok verified ↔
      ∃ entry, wrapper.set.Has entry ∧
        entry.primitive.verifyMacAndDecodeWithKid libraries compact validator clock (entry.kid libraries) = .ok verified := by
  unfold verifyMacAndDecode
  rw [tryEntries_ok]
  · simp only [PrimitiveSet.mem_getAll hwalk]
  · intro entry _ entry' _ verified verified' h h'
    obtain ⟨_, -, h⟩ := JwtMacImpl.verify_ok.1 h
    obtain ⟨_, -, h'⟩ := JwtMacImpl.verify_ok.1 h'
    exact tokenAccepted_unique h h'

theorem JwtPublicKeyVerifySetWrapper.verify_ok {wrapper : JwtPublicKeyVerifySetWrapper}
    {walk : PrimitivesMap JwtPublicKeyVerifyImpl → PrimitivesMap JwtPublicKeyVerifyImpl}
    (hwalk : (walk wrapper.set.primitives).Perm wrapper.set.primitives) {verified : VerifiedJwt} :
    wrapper.verifyAndDecode libraries walk compact validator clock = .ok verified ↔
      ∃ entry, wrapper.set.Has entry ∧
        entry.primitive.verifyAndDecodeWithKid libraries compact validator clock (entry.kid libraries) = .ok verified := by
  unfold verifyAndDecode
  rw [tryEntries_ok]
  · simp only [PrimitiveSet.mem_getAll hwalk]
  · intro entry _ entry' _ verified verified' h h'
    obtain ⟨_, -, h⟩ := JwtPublicKeyVerifyImpl.verify_ok.1 h
    obtain ⟨_, -, h'⟩ := JwtPublicKeyVerifyImpl.verify_ok.1 h'
    exact tokenAccepted_unique h h'

end

/-- **What JWT verifiers accept**: with one key, the tokens of its algorithm and mode; with a set of keys, in any order of
its hash map, what one of them accepts, and with the same result. -/
theorem jwt_accepted_iff (libraries : JwtLibraries) (compact : Bytes) (validator : JwtValidator) (clock : AbslTime)
    (verified : VerifiedJwt) :
    (∀ (impl : JwtMacImpl) (kid : Option Bytes),
      impl.verifyMacAndDecodeWithKid libraries compact validator clock kid = .ok verified ↔
        ∃ mode, impl.modeFor kid = some mode ∧
          TokenAccepted libraries impl.algorithm mode impl.mac.verifyMac validator clock compact verified) ∧
    (∀ (impl : JwtPublicKeyVerifyImpl) (kid : Option Bytes),
      impl.verifyAndDecodeWithKid libraries compact validator clock kid = .ok verified ↔
        ∃ mode, impl.modeFor kid = some mode ∧
          TokenAccepted libraries impl.algorithm mode impl.verify.verify validator clock compact verified) ∧
    (∀ (wrapper : JwtMacSetWrapper) (walk : PrimitivesMap JwtMacImpl → PrimitivesMap JwtMacImpl),
      (walk wrapper.set.primitives).Perm wrapper.set.primitives →
      (wrapper.verifyMacAndDecode libraries walk compact validator clock = .ok verified ↔
        ∃ entry, wrapper.set.Has entry ∧ entry.primitive.verifyMacAndDecodeWithKid libraries compact validator clock
          (entry.kid libraries) = .ok verified)) ∧
    (∀ (wrapper : JwtPublicKeyVerifySetWrapper)
      (walk : PrimitivesMap JwtPublicKeyVerifyImpl → PrimitivesMap JwtPublicKeyVerifyImpl),
      (walk wrapper.set.primitives).Perm wrapper.set.primitives →
      (wrapper.verifyAndDecode libraries walk compact validator clock = .ok verified ↔
        ∃ entry, wrapper.set.Has entry ∧ entry.primitive.verifyAndDecodeWithKid libraries compact validator clock
          (entry.kid libraries) = .ok verified)) :=
  ⟨fun _ _ => JwtMacImpl.verify_ok, fun _ _ => JwtPublicKeyVerifyImpl.verify_ok,
    fun _ _ hwalk => JwtMacSetWrapper.verify_ok hwalk, fun _ _ hwalk => JwtPublicKeyVerifySetWrapper.verify_ok hwalk⟩

/-! ## Keys 7 and 42 -/

def keyEntry (address : Nat) (keyId : UInt32) (algorithm : Bytes) : PrimitiveEntry JwtMacImpl :=
  ⟨address, .raw byteMac algorithm, 1 :: bigEndian32 keyId, .enabled, keyId, .tink,
    "type.googleapis.com/google.crypto.tink.JwtHmacKey"⟩

def keys7And42 : JwtMacSetWrapper where
  set := ⟨some (keyEntry 1 42 (ascii "HS256")),
    [(1 :: bigEndian32 7, [keyEntry 0 7 (ascii "HS512")]), (1 :: bigEndian32 42, [keyEntry 1 42 (ascii "HS256")])],
    [keyEntry 0 7 (ascii "HS512"), keyEntry 1 42 (ascii "HS256")]⟩
  primary := keyEntry 1 42 (ascii "HS256")
  isPrimary := rfl

theorem keyEntry_kid : (keyEntry 1 42 (ascii "HS256")).kid tableLibraries = some (ascii "AAAAKg") := by decide

theorem jwt_accepted_keys7And42 : ∃ compact, keys7And42.computeMacAndEncode tableLibraries tokenOf42 = .ok compact ∧
    keys7And42.verifyMacAndDecode tableLibraries id compact validatorOf42 (fromUnixSeconds 0) = .ok ⟨tokenOf42⟩ ∧
    keys7And42.verifyMacAndDecode tableLibraries List.reverse compact validatorOf42 (fromUnixSeconds 0) =
      .ok ⟨tokenOf42⟩ := by
  have hcompact : ∃ compact, keys7And42.computeMacAndEncode tableLibraries tokenOf42 = .ok compact := by
    unfold JwtMacSetWrapper.computeMacAndEncode
    rw [show keys7And42.primary.kid tableLibraries = _ from keyEntry_kid]
    exact ⟨_, rfl⟩
  obtain ⟨compact, hcompact⟩ := hcompact
  have hmode : (keyEntry 1 42 (ascii "HS256")).primitive.modeFor ((keyEntry 1 42 (ascii "HS256")).kid tableLibraries) =
      some (.tink (ascii "AAAAKg")) := by
    rw [keyEntry_kid]
    rfl
  have hverify : (keyEntry 1 42 (ascii "HS256")).primitive.verifyMacAndDecodeWithKid tableLibraries compact validatorOf42
      (fromUnixSeconds 0) ((keyEntry 1 42 (ascii "HS256")).kid tableLibraries) = .ok ⟨tokenOf42⟩ := by
    refine (verifyAndDecodeWithKid_written tableLibraries_base64 tokenOf42_payload tokenOf42_read ⟨rfl, fun _ => rfl⟩ ?_ rfl
      rfl hmode hmode byteMac_verifies hcompact _ _ _).2 ⟨rfl, rfl⟩
    exact tableLibraries_header
  have hhas : keys7And42.set.Has (keyEntry 1 42 (ascii "HS256")) :=
    ⟨_, List.mem_cons_of_mem _ List.mem_cons_self, List.mem_cons_self⟩
  have h := jwt_accepted_iff tableLibraries compact validatorOf42 (fromUnixSeconds 0) ⟨tokenOf42⟩
  exact ⟨compact, hcompact, (h.2.2.1 keys7And42 id (List.Perm.refl _)).2 ⟨_, hhas, hverify⟩,
    (h.2.2.1 keys7And42 List.reverse (List.reverse_perm _)).2 ⟨_, hhas, hverify⟩⟩

end Tink
