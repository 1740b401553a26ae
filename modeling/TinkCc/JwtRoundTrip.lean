import Mathlib.Data.UInt
import TinkCc.JwtImpl
import TinkCc.LibBase64
/-!
# JwtRoundTrip — a token that is written is read back

The header that is written is one that its mode asks for, the three parts have no dots, and the validator sees what the
token holds.
-/
namespace Tink

/-- What is relied on of `absl::WebSafeBase64Escape` and `absl::WebSafeBase64Unescape`. -/
structure JwtLibraries.Base64 (libraries : JwtLibraries) : Prop where
  unescape_escape : ∀ src, libraries.unescape (libraries.escape src) = some src
  alphabet        : ∀ src, ∀ c ∈ libraries.escape src, isValidUrlsafeBase64Char c = true

/-! ## What is written -/

theorem typeHeaderToWrite_eq (token : RawJwt) : typeHeaderToWrite token = .ok token.typeHeader := by
  unfold typeHeaderToWrite RawJwt.hasTypeHeader RawJwt.getTypeHeader
  cases token.typeHeader <;> rfl

theorem JwtKeyFields.kidToWrite_of_modeFor {key : JwtKeyFields} {kid : Option Bytes} {mode : KidMode}
    (h : key.modeFor kid = some mode) (bothKids : String) : key.kidToWrite bothKids kid = .ok mode.written := by
  obtain ⟨-, h⟩ := JwtKeyFields.modeFor_some.1 h
  unfold JwtKeyFields.kidToWrite
  cases hc : key.customKid with
  | none =>
    rw [hc] at h
    cases kid with
    | none => cases h; rfl
    | some kid => cases h; rfl
  | some customKid =>
    rw [hc] at h
    cases kid with
    | none => cases h; rfl
    | some kid => cases h

section
variable {libraries : JwtLibraries}

/-- The parts of a token that is written. -/
theorem encodeWithKid_ok {key : JwtKeyFields} {bothKids : String} {sign : Bytes → Except Status Bytes} {token : RawJwt}
    {kid : Option Bytes} {mode : KidMode} {compact : Bytes} (hm : key.modeFor kid = some mode)
    (h : encodeWithKid libraries key bothKids sign token kid = .ok compact) :
    ∃ jsonHeader payload unsignedToken tag,
      libraries.printStruct (headerStruct key.algorithm token.typeHeader mode.written) = .ok jsonHeader ∧
      token.getJsonPayload libraries = .ok payload ∧
      unsignedToken = libraries.escape jsonHeader ++ dot :: libraries.escape payload ∧
      sign unsignedToken = .ok tag ∧ compact = unsignedToken ++ dot :: libraries.escape tag := by
  unfold encodeWithKid at h
  rw [typeHeaderToWrite_eq] at h
  dsimp only [bind, Except.bind] at h
  rw [(JwtKeyFields.modeFor_some.1 hm).1] at h
  dsimp only at h
  rw [JwtKeyFields.kidToWrite_of_modeFor hm] at h
  dsimp only at h
  unfold createHeader at h
  split at h
  · cases h
  · rename_i encodedHeader hheader
    split at hheader
    · cases hheader
    · rename_i jsonHeader hprint
      cases hheader
      split at h
      · cases h
      · rename_i payload hpayload
        split at h
        · cases h
        · rename_i tag hsign
          cases h
          exact ⟨jsonHeader, payload, _, tag, hprint, hpayload, rfl, hsign, rfl⟩

/-! ## Writing and reading -/

section
variable (base64 : libraries.Base64)
include base64

theorem JwtLibraries.Base64.no_dot (src : Bytes) : dot ∉ libraries.escape src := by
  intro h
  exact absurd (base64.alphabet src dot h) (by decide)

theorem JwtLibraries.Base64.decodesTo {src data : Bytes} : DecodesTo libraries (libraries.escape src) data ↔ data = src := by
  constructor
  · intro h
    exact Option.some.inj (h.decoded.symm.trans (base64.unescape_escape src))
  · rintro rfl
    exact ⟨base64.alphabet data, base64.unescape_escape data⟩

theorem JwtLibraries.Base64.splitOn (header payload tag : Bytes) :
    (libraries.escape header ++ dot :: libraries.escape payload ++ dot :: libraries.escape tag).splitOn dot =
      [libraries.escape header, libraries.escape payload, libraries.escape tag] := by
  rw [Split.splitOn_concat (base64.no_dot tag), Split.splitOn_concat (base64.no_dot payload),
    List.splitOn_eq_singleton (base64.no_dot header)]
  rfl

/-- A written token, read by a key of the same mode. -/
theorem tokenAccepted_written {algorithm : Bytes} {mode : KidMode} {verify : Bytes → Bytes → Except Status Unit}
    {token readBack : RawJwt} {jsonHeader payload tag : Bytes}
    (hparse : ∃ header, libraries.parseStruct jsonHeader = some header ∧
      header.Same (headerStruct algorithm token.typeHeader mode.written))
    (hread : RawJwt.fromJson libraries token.typeHeader payload = .ok readBack)
    (hverify : verify tag (libraries.escape jsonHeader ++ dot :: libraries.escape payload) = .ok ())
    (validator : JwtValidator) (clock : AbslTime) (verified : VerifiedJwt) :
    TokenAccepted libraries algorithm mode verify validator clock
        (libraries.escape jsonHeader ++ dot :: libraries.escape payload ++ dot :: libraries.escape tag) verified ↔
      validator.validate clock readBack = .ok () ∧ verified = ⟨readBack⟩ := by
  obtain ⟨header, hjson, hsame⟩ := hparse
  have htype := getTypeHeader_headerStruct hsame
  constructor
  · rintro ⟨encodedHeader, encodedPayload, encodedTag, hthree, -, jsonHeader', jsonPayload', header', h⟩
    rw [base64.splitOn] at hthree
    cases hthree
    have hh : jsonHeader' = jsonHeader := base64.decodesTo.1 h.headerDecodes
    have hp : jsonPayload' = payload := base64.decodesTo.1 h.payloadDecodes
    subst hh hp
    have he : header' = header := Option.some.inj (h.headerIsJson.symm.trans hjson)
    subst he
    have hraw : verified.rawJwt = readBack := by
      have hclaims := h.claims
      rw [htype, hread] at hclaims
      exact (Except.ok.inj hclaims).symm
    have hvalid := h.valid
    rw [hraw] at hvalid
    exact ⟨hvalid, congrArg VerifiedJwt.mk hraw⟩
  · rintro ⟨hvalid, rfl⟩
    refine ⟨_, _, _, base64.splitOn _ _ _, ⟨_, tag, rfl, base64.decodesTo.2 rfl, hverify⟩, jsonHeader, payload, header,
      base64.decodesTo.2 rfl, base64.decodesTo.2 rfl, hjson, headerStruct_accepted hsame, ?_, hvalid⟩
    rw [htype]
    exact hread

/-- A token that one key writes and another key of the same mode reads. -/
theorem verifyAndDecodeWithKid_written {algorithm : Bytes} {mode : KidMode} {token readBack : RawJwt} {payload : Bytes}
    (hpayload : token.getJsonPayload libraries = .ok payload)
    (hread : RawJwt.fromJson libraries token.typeHeader payload = .ok readBack) (hclaims : readBack.Same token)
    (hheader : ∀ jsonHeader, libraries.printStruct (headerStruct algorithm token.typeHeader mode.written) = .ok jsonHeader →
      ∃ header, libraries.parseStruct jsonHeader = some header ∧
        header.Same (headerStruct algorithm token.typeHeader mode.written))
    {signer verifier : JwtKeyFields} (hsigner : signer.algorithm = algorithm) (hverifier : verifier.algorithm = algorithm)
    {kid kid' : Option Bytes} (hmode : signer.modeFor kid = some mode) (hmode' : verifier.modeFor kid' = some mode)
    {sign : Bytes → Except Status Bytes} {verify : Bytes → Bytes → Except Status Unit}
    (htag : ∀ data tag, sign data = .ok tag → verify tag data = .ok ()) {bothKids badTag : String} {compact : Bytes}
    (hcompact : encodeWithKid libraries signer bothKids sign token kid = .ok compact) (validator : JwtValidator)
    (clock : AbslTime) (verified : VerifiedJwt) :
    verifyAndDecodeWithKid libraries verifier badTag verify compact validator clock kid' = .ok verified ↔
      validator.validate clock token = .ok () ∧ verified = ⟨readBack⟩ := by
  obtain ⟨jsonHeader, payload', unsignedToken, tag, hprint, hpayload', rfl, hsign, rfl⟩ := encodeWithKid_ok hmode hcompact
  have hp : payload' = payload := Except.ok.inj (hpayload'.symm.trans hpayload)
  subst hp
  rw [hsigner] at hprint
  have haccepted := tokenAccepted_written base64 (hheader jsonHeader hprint) hread (htag _ tag hsign) validator
    clock verified
  rw [JwtValidator.validate_same hclaims] at haccepted
  rw [verifyAndDecodeWithKid_ok, hverifier, ← haccepted]
  constructor
  · rintro ⟨mode', hm, h⟩
    rw [hmode'] at hm
    cases hm
    exact h
  · intro h
    exact ⟨mode, hmode', h⟩

end

end

/-! ## MACs and signatures -/

def quoted (text : Bytes) : Bytes := 34 :: text ++ [34]

/-- Members with plain strings, as JSON. -/
def printStrings : List (Bytes × JsonValue) → Except Status (List Bytes)
  | [] => .ok []
  | (name, .string value) :: fields => (printStrings fields).map ((quoted name ++ ascii ":" ++ quoted value) :: ·)
  | _ :: _ => .error ⟨.unimplemented, "not a string"⟩

def printPlainStruct (json : JsonStruct) : Except Status Bytes :=
  (printStrings json.fields).map fun members => 123 :: (ascii ",").intercalate members ++ [125]

def headerOf42 : JsonStruct := headerStruct (ascii "HS256") none (some (ascii "AAAAKg"))

def payloadOf42 : JsonStruct := ⟨[(ascii "iss", .string (ascii "tink"))]⟩

def textOf (json : JsonStruct) : Bytes := (printPlainStruct json).toOption.getD []

/-- Base64, and a table of the two texts. -/
def tableLibraries : JwtLibraries where
  escape := Base64.encode
  unescape := Base64.decode
  parseStruct := fun text =>
    if text = textOf headerOf42 then some headerOf42
    else if text = textOf payloadOf42 then some payloadOf42
    else none
  printStruct := printPlainStruct

theorem tableLibraries_base64 : tableLibraries.Base64 where
  unescape_escape := Base64.decode_encode
  alphabet := Base64.encode_forall (by decide)

theorem tableLibraries_header (jsonHeader : Bytes) (h : tableLibraries.printStruct headerOf42 = .ok jsonHeader) :
    ∃ header, tableLibraries.parseStruct jsonHeader = some header ∧ header.Same headerOf42 := by
  cases h
  exact ⟨headerOf42, rfl, fun _ => rfl⟩

/-- A MAC of one byte. -/
def byteMac : Mac where
  computeMac := fun data => .ok [data.sum]
  verifyMac := fun mac data => if mac = [data.sum] then .ok () else .error ⟨.invalidArgument, "verification failed"⟩

theorem byteMac_verifies (data tag : Bytes) (h : byteMac.computeMac data = .ok tag) : byteMac.verifyMac tag data = .ok () := by
  cases h
  exact if_pos rfl

def tokenOf42 : RawJwt := ⟨none, payloadOf42⟩

def validatorOf42 : JwtValidator := { expectedIssuer := some (ascii "tink"), allowMissingExpiration := true }

theorem tokenOf42_payload : tokenOf42.getJsonPayload tableLibraries = .ok (textOf payloadOf42) := rfl

theorem tokenOf42_read : RawJwt.fromJson tableLibraries tokenOf42.typeHeader (textOf payloadOf42) = .ok tokenOf42 := rfl

end Tink
