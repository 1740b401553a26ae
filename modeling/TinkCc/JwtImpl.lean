import TinkCc.JwtFormat
import TinkCc.JwtValidator
import TinkCc.SetWrapper
/-!
# JwtImpl — JWTs with a MAC or a signature

`jwt_mac_impl.cc`, `jwt_public_key_sign_impl.cc` and `jwt_public_key_verify_impl.cc`.  The two kinds of keys write and read
tokens the same way but for some messages.
-/
namespace Tink

/-- A verified token. -/
structure VerifiedJwt where
  rawJwt : RawJwt

/-- The byte of `.`. -/
def dot : UInt8 := 46

/-- The fields that MAC and signature keys share. -/
structure JwtKeyFields where
  algorithm : Bytes
  customKid : Option Bytes
  kid       : Option Bytes

/-- The check of `kid_`. -/
def JwtKeyFields.checkKid (key : JwtKeyFields) (kid : Option Bytes) : Except Status Unit :=
  match key.kid with
  | some expected =>
    if kid ≠ some expected then
      let expected := bytesText expected
      let got := bytesText (kid.getD (ascii "nullopt"))
      .error ⟨.invalidArgument, s!"invalid kid provided; expected: {expected}, got: {got}"⟩
    else .ok ()
  | none => .ok ()

section
variable (libraries : JwtLibraries)

/-! ## Writing -/

/-- `custom_kid_` in the place of a kid; `bothKids` is the message when there are both. -/
def JwtKeyFields.kidToWrite (key : JwtKeyFields) (bothKids : String) (kid : Option Bytes) : Except Status (Option Bytes) :=
  match key.customKid with
  | none => .ok kid
  | some customKid => if kid.isSome then .error ⟨.invalidArgument, bothKids⟩ else .ok (some customKid)

def typeHeaderToWrite (token : RawJwt) : Except Status (Option Bytes) :=
  if token.hasTypeHeader then
    match token.getTypeHeader with
    | .error e => .error e
    | .ok typeHeader => .ok (some typeHeader)
  else .ok none

/-- `ComputeMacAndEncodeWithKid` and `SignAndEncodeWithKid`. -/
def encodeWithKid (key : JwtKeyFields) (bothKids : String) (sign : Bytes → Except Status Bytes) (token : RawJwt)
    (kid : Option Bytes) : Except Status Bytes := do
  let typeHeader ← typeHeaderToWrite token
  key.checkKid kid
  let kid ← key.kidToWrite bothKids kid
  let encodedHeader ← createHeader libraries key.algorithm typeHeader kid
  let payload ← token.getJsonPayload libraries
  let unsignedToken := encodedHeader ++ dot :: encodePayload libraries payload
  let tag ← sign unsignedToken
  return unsignedToken ++ dot :: encodeSignature libraries tag

/-! ## Reading -/

/-- What follows the check of the tag. -/
def decodeUnsignedToken (key : JwtKeyFields) (unsignedToken : Bytes) (validator : JwtValidator) (clock : AbslTime)
    (kid : Option Bytes) : Except Status VerifiedJwt :=
  match unsignedToken.splitOn dot with
  | [encodedHeader, encodedPayload] =>
    match decodeHeader libraries encodedHeader with
    | none => .error ⟨.invalidArgument, "invalid header"⟩
    | some jsonHeader =>
      match jsonStringToProtoStruct libraries jsonHeader with
      | .error e => .error e
      | .ok header =>
        match validateHeader header key.algorithm kid key.customKid with
        | .error e => .error e
        | .ok () =>
          match decodePayload libraries encodedPayload with
          | none => .error ⟨.invalidArgument, "invalid JWT payload"⟩
          | some jsonPayload =>
            match RawJwt.fromJson libraries (getTypeHeader header) jsonPayload with
            | .error e => .error e
            | .ok rawJwt =>
              match validator.validate clock rawJwt with
              | .error e => .error e
              | .ok () => .ok ⟨rawJwt⟩
  | _ => .error ⟨.invalidArgument, "only tokens in JWS compact serialization format are supported"⟩

/-- `VerifyMacAndDecodeWithKid` and `VerifyAndDecodeWithKid`, when `absl::Now()` is `clock`; `badTag` is the message for a
tag that is not base64. -/
def verifyAndDecodeWithKid (key : JwtKeyFields) (badTag : String) (verify : Bytes → Bytes → Except Status Unit)
    (compact : Bytes) (validator : JwtValidator) (clock : AbslTime) (kid : Option Bytes) : Except Status VerifiedJwt :=
  match key.checkKid kid with
  | .error e => .error e
  | .ok () =>
    match Split.splitLast dot compact with
    | none => .error ⟨.invalidArgument, "invalid token"⟩
    | some (unsignedToken, encodedTag) =>
      match decodeSignature libraries encodedTag with
      | none => .error ⟨.invalidArgument, badTag⟩
      | some tag =>
        match verify tag unsignedToken with
        -- a code of its own, to be told from the other errors
        | .error e => .error ⟨.unauthenticated, e.message⟩
        | .ok () => decodeUnsignedToken libraries key unsignedToken validator clock kid

/-! ## MACs -/

structure JwtMacImpl extends JwtKeyFields where
  mac : Mac

namespace JwtMacImpl

def rawWithCustomKid (mac : Mac) (algorithm customKid : Bytes) : JwtMacImpl := ⟨⟨algorithm, some customKid, none⟩, mac⟩
def raw (mac : Mac) (algorithm : Bytes) : JwtMacImpl := ⟨⟨algorithm, none, none⟩, mac⟩

def computeMacAndEncodeWithKid (impl : JwtMacImpl) (token : RawJwt) (kid : Option Bytes) : Except Status Bytes :=
  encodeWithKid libraries impl.toJwtKeyFields "TINK keys are not allowed to have a kid value set." impl.mac.computeMac token
    kid

def verifyMacAndDecodeWithKid (impl : JwtMacImpl) (compact : Bytes) (validator : JwtValidator) (clock : AbslTime)
    (kid : Option Bytes) : Except Status VerifiedJwt :=
  verifyAndDecodeWithKid libraries impl.toJwtKeyFields "invalid JWT MAC" impl.mac.verifyMac compact validator clock kid

end JwtMacImpl

/-! ## Signatures -/

structure JwtPublicKeySignImpl extends JwtKeyFields where
  sign : PublicKeySign

namespace JwtPublicKeySignImpl

def rawWithCustomKid (sign : PublicKeySign) (algorithm customKid : Bytes) : JwtPublicKeySignImpl :=
  ⟨⟨algorithm, some customKid, none⟩, sign⟩
def raw (sign : PublicKeySign) (algorithm : Bytes) : JwtPublicKeySignImpl := ⟨⟨algorithm, none, none⟩, sign⟩

/-- `SignAndEncodeWithKid`; what the signature draws at random is `random`. -/
def signAndEncodeWithKid (impl : JwtPublicKeySignImpl) (random : Bytes) (token : RawJwt) (kid : Option Bytes) :
    Except Status Bytes :=
  encodeWithKid libraries impl.toJwtKeyFields "TINK keys are not allowed to have a custom kid value" (impl.sign.sign random)
    token kid

end JwtPublicKeySignImpl

structure JwtPublicKeyVerifyImpl extends JwtKeyFields where
  verify : PublicKeyVerify

namespace JwtPublicKeyVerifyImpl

def rawWithCustomKid (verify : PublicKeyVerify) (algorithm customKid : Bytes) : JwtPublicKeyVerifyImpl :=
  ⟨⟨algorithm, some customKid, none⟩, verify⟩
def raw (verify : PublicKeyVerify) (algorithm : Bytes) : JwtPublicKeyVerifyImpl := ⟨⟨algorithm, none, none⟩, verify⟩

def verifyAndDecodeWithKid (impl : JwtPublicKeyVerifyImpl) (compact : Bytes) (validator : JwtValidator) (clock : AbslTime)
    (kid : Option Bytes) : Except Status VerifiedJwt :=
  Tink.verifyAndDecodeWithKid libraries impl.toJwtKeyFields "invalid JWT signature" impl.verify.verify compact validator
    clock kid

end JwtPublicKeyVerifyImpl

end

/-! ## What a verifier accepts -/

section
variable (libraries : JwtLibraries)

/-- A text of the base64url alphabet, and what it decodes to. -/
structure DecodesTo (text data : Bytes) : Prop where
  alphabet : ∀ c ∈ text, isValidUrlsafeBase64Char c = true
  decoded  : libraries.unescape text = some data

theorem strictWebSafeBase64Unescape_some {text data : Bytes} :
    strictWebSafeBase64Unescape libraries text = some data ↔ DecodesTo libraries text data := by
  unfold strictWebSafeBase64Unescape
  constructor
  · intro h
    split at h
    · rename_i hall
      exact ⟨List.all_eq_true.1 hall, h⟩
    · cases h
  · rintro ⟨halphabet, hdecoded⟩
    rw [if_pos (List.all_eq_true.2 halphabet), hdecoded]

/-- The three parts are of a token whose header and claims are accepted. -/
structure PartsAccepted (algorithm : Bytes) (mode : KidMode) (validator : JwtValidator) (clock : AbslTime)
    (encodedHeader encodedPayload jsonHeader jsonPayload : Bytes) (header : JsonStruct) (verified : VerifiedJwt) :
    Prop where
  headerDecodes  : DecodesTo libraries encodedHeader jsonHeader
  payloadDecodes : DecodesTo libraries encodedPayload jsonPayload
  headerIsJson   : libraries.parseStruct jsonHeader = some header
  headerAccepted : HeaderAccepted algorithm mode header
  claims         : RawJwt.fromJson libraries (getTypeHeader header) jsonPayload = .ok verified.rawJwt
  valid          : validator.validate clock verified.rawJwt = .ok ()

/-- The last part of a token is a tag of all that is before it. -/
structure TagAccepted (verify : Bytes → Bytes → Except Status Unit) (compact encodedTag unsignedToken tag : Bytes) :
    Prop where
  unsigned : compact = unsignedToken ++ dot :: encodedTag
  decodes  : DecodesTo libraries encodedTag tag
  verified : verify tag unsignedToken = .ok ()

/-- **A token that is accepted**, and what is made of it. -/
def TokenAccepted (algorithm : Bytes) (mode : KidMode) (verify : Bytes → Bytes → Except Status Unit)
    (validator : JwtValidator) (clock : AbslTime) (compact : Bytes) (verified : VerifiedJwt) : Prop :=
  ∃ encodedHeader encodedPayload encodedTag, compact.splitOn dot = [encodedHeader, encodedPayload, encodedTag] ∧
    (∃ unsignedToken tag, TagAccepted libraries verify compact encodedTag unsignedToken tag) ∧
    ∃ jsonHeader jsonPayload header, PartsAccepted libraries algorithm mode validator clock
      encodedHeader encodedPayload jsonHeader jsonPayload header verified

theorem jsonStringToProtoStruct_ok {jsonString : Bytes} {json : JsonStruct} :
    jsonStringToProtoStruct libraries jsonString = .ok json ↔ libraries.parseStruct jsonString = some json := by
  unfold jsonStringToProtoStruct
  split
  · rename_i h
    rw [h]
    exact ⟨(fun h => by cases h), fun h => by cases h⟩
  · rename_i json' h
    rw [h]
    exact ⟨fun h => congrArg some (Except.ok.inj h), fun h => congrArg Except.ok (Option.some.inj h)⟩

theorem decodeUnsignedToken_ok {key : JwtKeyFields} {unsignedToken : Bytes} {validator : JwtValidator} {clock : AbslTime}
    {kid : Option Bytes} {verified : VerifiedJwt} :
    decodeUnsignedToken libraries key unsignedToken validator clock kid = .ok verified ↔
      ∃ mode encodedHeader encodedPayload, KidMode.ofKids kid key.customKid = some mode ∧
        unsignedToken.splitOn dot = [encodedHeader, encodedPayload] ∧
        ∃ jsonHeader jsonPayload header, PartsAccepted libraries key.algorithm mode validator clock
          encodedHeader encodedPayload jsonHeader jsonPayload header verified := by
  constructor
  · intro h
    unfold decodeUnsignedToken at h
    split at h
    · rename_i encodedHeader encodedPayload hsplit
      split at h
      · cases h
      · rename_i jsonHeader hheader
        split at h
        · cases h
        · rename_i header hjson
          split at h
          · cases h
          · rename_i hvalidate
            split at h
            · cases h
            · rename_i jsonPayload hpayload
              split at h
              · cases h
              · rename_i rawJwt hclaims
                split at h
                · cases h
                · rename_i hvalid
                  cases h
                  obtain ⟨mode, hmode, haccepted⟩ := validateHeader_ok.1 hvalidate
                  exact ⟨mode, encodedHeader, encodedPayload, hmode, hsplit, jsonHeader, jsonPayload, header,
                    (strictWebSafeBase64Unescape_some libraries).1 hheader,
                    (strictWebSafeBase64Unescape_some libraries).1 hpayload,
                    (jsonStringToProtoStruct_ok libraries).1 hjson, haccepted, hclaims, hvalid⟩
    · cases h
  · rintro ⟨mode, encodedHeader, encodedPayload, hmode, hsplit, jsonHeader, jsonPayload, header, h⟩
    have hheader : decodeHeader libraries encodedHeader = some jsonHeader :=
      (strictWebSafeBase64Unescape_some libraries).2 h.headerDecodes
    have hpayload : decodePayload libraries encodedPayload = some jsonPayload :=
      (strictWebSafeBase64Unescape_some libraries).2 h.payloadDecodes
    have hjson := (jsonStringToProtoStruct_ok libraries).2 h.headerIsJson
    have hvalidate := validateHeader_ok.2 ⟨mode, hmode, h.headerAccepted⟩
    unfold decodeUnsignedToken
    rw [hsplit]
    dsimp only
    rw [hheader]
    dsimp only
    rw [hjson]
    dsimp only
    rw [hvalidate]
    dsimp only
    rw [hpayload]
    dsimp only
    rw [h.claims]
    dsimp only
    rw [h.valid]

/-- The mode in which a key is asked, unless it has another kid. -/
def JwtKeyFields.modeFor (key : JwtKeyFields) (kid : Option Bytes) : Option KidMode :=
  match key.checkKid kid with
  | .error _ => none
  | .ok () => KidMode.ofKids kid key.customKid

theorem JwtKeyFields.modeFor_some {key : JwtKeyFields} {kid : Option Bytes} {mode : KidMode} :
    key.modeFor kid = some mode ↔ key.checkKid kid = .ok () ∧ KidMode.ofKids kid key.customKid = some mode := by
  unfold JwtKeyFields.modeFor
  split
  · rename_i e h
    rw [h]
    exact ⟨(fun h => by cases h), fun h => by cases h.1⟩
  · rename_i h
    rw [h]
    exact ⟨fun h => ⟨rfl, h⟩, fun h => h.2⟩

/-- **What is accepted.** -/
theorem verifyAndDecodeWithKid_ok {key : JwtKeyFields} {badTag : String} {verify : Bytes → Bytes → Except Status Unit}
    {compact : Bytes} {validator : JwtValidator} {clock : AbslTime} {kid : Option Bytes} {verified : VerifiedJwt} :
    verifyAndDecodeWithKid libraries key badTag verify compact validator clock kid = .ok verified ↔
      ∃ mode, key.modeFor kid = some mode ∧
        TokenAccepted libraries key.algorithm mode verify validator clock compact verified := by
  constructor
  · intro h
    unfold verifyAndDecodeWithKid at h
    split at h
    · cases h
    · rename_i hkid
      split at h
      · cases h
      · rename_i unsignedToken encodedTag hlast
        split at h
        · cases h
        · rename_i tag htag
          split at h
          · cases h
          · rename_i hverify
            obtain ⟨mode, encodedHeader, encodedPayload, hmode, hsplit, hparts⟩ := (decodeUnsignedToken_ok libraries).1 h
            have hthree := (Split.splitOn_eq_concat _ (List.cons_ne_nil _ _)).2 ⟨unsignedToken, hlast, hsplit⟩
            exact ⟨mode, JwtKeyFields.modeFor_some.2 ⟨hkid, hmode⟩, encodedHeader, encodedPayload, encodedTag, hthree,
              ⟨unsignedToken, tag, (Split.splitLast_eq_some hlast).1, (strictWebSafeBase64Unescape_some libraries).1 htag,
                hverify⟩, hparts⟩
  · rintro ⟨mode, hm, encodedHeader, encodedPayload, encodedTag, hthree, ⟨unsignedToken, tag, hunsigned, htag, hverify⟩,
      hparts⟩
    obtain ⟨hkid, hmode⟩ := JwtKeyFields.modeFor_some.1 hm
    obtain ⟨front, hlast, hsplit⟩ := (Split.splitOn_eq_concat [encodedHeader, encodedPayload]
      (List.cons_ne_nil _ _)).1 hthree
    have hfront : front = unsignedToken :=
      (List.append_inj' ((Split.splitLast_eq_some hlast).1.symm.trans hunsigned) rfl).1
    rw [hfront] at hlast hsplit
    have htag' : decodeSignature libraries encodedTag = some tag := (strictWebSafeBase64Unescape_some libraries).2 htag
    unfold verifyAndDecodeWithKid
    rw [hkid]
    dsimp only
    rw [hlast]
    dsimp only
    rw [htag']
    dsimp only
    rw [hverify]
    exact (decodeUnsignedToken_ok libraries).2 ⟨mode, encodedHeader, encodedPayload, hmode, hsplit, hparts⟩

end

end Tink
