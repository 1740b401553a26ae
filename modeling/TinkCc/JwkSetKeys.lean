import TinkCc.JwkSetConverter
import TinkCc.JwtRoundTrip
/-!
# JwkSetKeys — a key that is exported and imported again

Every exported key has entries that the importer reads back, and the key it makes of them has the same numbers: the bytes of
an RSA key are the same, the coordinates of a point have the size of the field.
-/
namespace Tink

section
variable {K : Type} {types : JwtKeyTypes K}

/-! ## The entries of a key -/

theorem getBase64Item_escape (base64 : types.libraries.Base64) {keyStruct : JsonStruct} {name : String} {data : Bytes}
    (h : getStringItem keyStruct name = .ok (types.libraries.escape data)) :
    getBase64Item types keyStruct name = .ok data := by
  have hd : strictWebSafeBase64Unescape types.libraries (types.libraries.escape data) = some data :=
    (strictWebSafeBase64Unescape_some _).2 (base64.decodesTo.2 rfl)
  unfold getBase64Item
  rw [h]
  dsimp only [bind, Except.bind]
  rw [hd]
  rfl

theorem esAlgorithmOf_name (algorithm : JwtAlgorithm) :
    esAlgorithmOf (ascii (esAlgorithmName algorithm)) (ascii (esCurveName algorithm)) = .ok algorithm := by
  cases algorithm <;> rfl

theorem algorithmOf_name (family : RsaFamily) (algorithm : JwtAlgorithm) :
    family.algorithmOf (ascii (family.algorithmName algorithm)) = .ok algorithm := by
  cases family <;> cases algorithm <;> rfl

theorem esPublicKeyDataFromKeyStruct_ecKeyStruct (base64 : types.libraries.Base64) {algorithm : JwtAlgorithm} {x y : Bytes}
    (hx : x.length = ecFieldSizeInBytes algorithm.curve) (hy : y.length = ecFieldSizeInBytes algorithm.curve)
    (kid : Option Bytes) :
    esPublicKeyDataFromKeyStruct types
        (ecKeyStruct algorithm (types.libraries.escape x) (types.libraries.escape y) kid) =
      .ok ⟨jwtEcdsaPublicKeyUrl, types.ecdsa.serializeAsString ⟨0, .known algorithm, x, y, kid⟩, .asymmetricPublic⟩ := by
  generalize hs : ecKeyStruct algorithm (types.libraries.escape x) (types.libraries.escape y) kid = keyStruct
  have halg : getStringItem keyStruct "alg" = .ok (ascii (esAlgorithmName algorithm)) := by rw [← hs]; cases kid <;> rfl
  have hcrv : getStringItem keyStruct "crv" = .ok (ascii (esCurveName algorithm)) := by rw [← hs]; cases kid <;> rfl
  have hd : hasItem keyStruct "d" = false := by rw [← hs]; cases kid <;> rfl
  have hkty : expectStringItem keyStruct "kty" "EC" = .ok () := by rw [← hs]; cases kid <;> rfl
  have huse : validateUseIsSig keyStruct = .ok () := by rw [← hs]; cases kid <;> rfl
  have hops : validateKeyOpsIsVerify keyStruct = .ok () := by rw [← hs]; cases kid <;> rfl
  have hkid : getKidItem keyStruct = .ok kid := by rw [← hs]; cases kid <;> rfl
  have hxs : getStringItem keyStruct "x" = .ok (types.libraries.escape x) := by rw [← hs]; cases kid <;> rfl
  have hys : getStringItem keyStruct "y" = .ok (types.libraries.escape y) := by rw [← hs]; cases kid <;> rfl
  unfold esPublicKeyDataFromKeyStruct getCoordinate
  simp only [halg, hcrv, hd, hkty, huse, hops, hkid, esAlgorithmOf_name, getBase64Item_escape base64 hxs,
    getBase64Item_escape base64 hys, hx, hy, bind, Except.bind, pure, Except.pure, ne_eq, not_true_eq_false, if_false,
    Bool.false_eq_true]

theorem rsaPublicKeyDataFromKeyStruct_rsaKeyStruct (base64 : types.libraries.Base64) (family : RsaFamily)
    (algorithm : JwtAlgorithm) (e n : Bytes) (kid : Option Bytes) :
    rsaPublicKeyDataFromKeyStruct types family
        (rsaKeyStruct family algorithm (types.libraries.escape e) (types.libraries.escape n) kid) =
      .ok ⟨family.typeUrl, (family.codec types).serializeAsString ⟨0, .known algorithm, n, e, kid⟩, .asymmetricPublic⟩ := by
  generalize hs : rsaKeyStruct family algorithm (types.libraries.escape e) (types.libraries.escape n) kid = keyStruct
  have halg : getStringItem keyStruct "alg" = .ok (ascii (family.algorithmName algorithm)) := by
    rw [← hs]; cases kid <;> rfl
  have hprivate : rsaPrivateItems.any (hasItem keyStruct) = false := by rw [← hs]; cases kid <;> rfl
  have hkty : expectStringItem keyStruct "kty" "RSA" = .ok () := by rw [← hs]; cases kid <;> rfl
  have huse : validateUseIsSig keyStruct = .ok () := by rw [← hs]; cases kid <;> rfl
  have hops : validateKeyOpsIsVerify keyStruct = .ok () := by rw [← hs]; cases kid <;> rfl
  have hkid : getKidItem keyStruct = .ok kid := by rw [← hs]; cases kid <;> rfl
  have hes : getStringItem keyStruct "e" = .ok (types.libraries.escape e) := by rw [← hs]; cases kid <;> rfl
  have hns : getStringItem keyStruct "n" = .ok (types.libraries.escape n) := by rw [← hs]; cases kid <;> rfl
  unfold rsaPublicKeyDataFromKeyStruct
  simp only [halg, hprivate, hkty, huse, hops, hkid, algorithmOf_name, getBase64Item_escape base64 hes,
    getBase64Item_escape base64 hns, bind, Except.bind, pure, Except.pure, if_false, Bool.false_eq_true]

/-! ## Public keys -/

end

/-- The public key of a JWT key. -/
inductive JwtPublicKeyProto
  | ecdsa (key : JwtEcdsaPublicKeyProto)
  | rsa (family : RsaFamily) (key : JwtRsaPublicKeyProto)

namespace JwtPublicKeyProto

def algorithm : JwtPublicKeyProto → JwtAlgorithmProto
  | .ecdsa key => key.algorithm
  | .rsa _ key => key.algorithm

def customKid : JwtPublicKeyProto → Option Bytes
  | .ecdsa key => key.customKid
  | .rsa _ key => key.customKid

def typeUrl : JwtPublicKeyProto → String
  | .ecdsa _ => jwtEcdsaPublicKeyUrl
  | .rsa family _ => family.typeUrl

/-- The public key that is imported for an exported one. -/
def imported (algorithm : JwtAlgorithm) (kid : Option Bytes) : JwtPublicKeyProto → JwtPublicKeyProto
  | .ecdsa key =>
    let size := ecFieldSizeInBytes algorithm.curve
    .ecdsa ⟨0, .known algorithm, BigEndian.encode size (BigEndian.value key.x), BigEndian.encode size (BigEndian.value key.y),
      kid⟩
  | .rsa family key => .rsa family ⟨0, .known algorithm, key.n, key.e, kid⟩

/-- The same numbers. -/
def SameValues : JwtPublicKeyProto → JwtPublicKeyProto → Prop
  | .ecdsa key, .ecdsa key' => BigEndian.value key.x = BigEndian.value key'.x ∧ BigEndian.value key.y = BigEndian.value key'.y
  | .rsa family key, .rsa family' key' => family = family' ∧ BigEndian.value key.n = BigEndian.value key'.n ∧
    BigEndian.value key.e = BigEndian.value key'.e
  | _, _ => False

/-- The coordinates of an ECDSA key are of a point. -/
def OnCurve (groups : EcGroups) (algorithm : JwtAlgorithm) : JwtPublicKeyProto → Prop
  | .ecdsa key => groups.isOnCurve algorithm.curve (BigEndian.value key.x) (BigEndian.value key.y) = true
  | .rsa _ _ => True

theorem imported_algorithm (algorithm : JwtAlgorithm) (kid : Option Bytes) (publicKey : JwtPublicKeyProto) :
    (publicKey.imported algorithm kid).algorithm = .known algorithm := by
  cases publicKey <;> rfl

theorem imported_customKid (algorithm : JwtAlgorithm) (kid : Option Bytes) (publicKey : JwtPublicKeyProto) :
    (publicKey.imported algorithm kid).customKid = kid := by
  cases publicKey <;> rfl

theorem imported_typeUrl (algorithm : JwtAlgorithm) (kid : Option Bytes) (publicKey : JwtPublicKeyProto) :
    (publicKey.imported algorithm kid).typeUrl = publicKey.typeUrl := by
  cases publicKey <;> rfl

theorem imported_sameValues {groups : EcGroups} {algorithm : JwtAlgorithm} {publicKey : JwtPublicKeyProto}
    (h : publicKey.OnCurve groups algorithm) (kid : Option Bytes) : publicKey.SameValues (publicKey.imported algorithm kid) := by
  cases publicKey with
  | ecdsa key =>
    obtain ⟨hx, hy⟩ := groups.range _ _ _ h
    exact ⟨(BigEndian.value_encode hx).symm, (BigEndian.value_encode hy).symm⟩
  | rsa family key => exact ⟨rfl, rfl, rfl⟩

theorem SameValues.onCurve {groups : EcGroups} {algorithm : JwtAlgorithm} {publicKey publicKey' : JwtPublicKeyProto}
    (h : publicKey.SameValues publicKey') (hc : publicKey.OnCurve groups algorithm) : publicKey'.OnCurve groups algorithm := by
  cases publicKey with
  | ecdsa key =>
    cases publicKey' with
    | ecdsa key' =>
      change groups.isOnCurve algorithm.curve (BigEndian.value key'.x) (BigEndian.value key'.y) = true
      rw [← h.1, ← h.2]
      exact hc
    | rsa family' key' => cases h
  | rsa family key =>
    cases publicKey' with
    | ecdsa key' => cases h
    | rsa family' key' => trivial

end JwtPublicKeyProto

section
variable {K : Type} (types : JwtKeyTypes K)

def JwtKeyTypes.serialize : JwtPublicKeyProto → Bytes
  | .ecdsa key => types.ecdsa.serializeAsString key
  | .rsa family key => (family.codec types).serializeAsString key

/-- The public key in the value of a key of a type. -/
def JwtKeyTypes.parse (typeUrl : String) (value : Bytes) : Option JwtPublicKeyProto :=
  if typeUrl = jwtEcdsaPublicKeyUrl then (types.ecdsa.parseFromString value).map .ecdsa
  else if typeUrl = jwtRsaSsaPkcs1PublicKeyUrl then (types.rsaPkcs1.parseFromString value).map (.rsa .rs)
  else if typeUrl = jwtRsaSsaPssPublicKeyUrl then (types.rsaPss.parseFromString value).map (.rsa .ps)
  else none

/-- **A RAW or TINK key for JWT signatures**: its value is the public key of the type, of a known algorithm. -/
structure IsJwtPublicKey (key : KeysetKey) (publicKey : JwtPublicKeyProto) (algorithm : JwtAlgorithm) : Prop where
  rawOrTink : key.outputPrefixType = .raw ∨ key.outputPrefixType = .tink
  material  : key.getKeyData.keyMaterialType = .asymmetricPublic
  parses    : types.parse key.getKeyData.typeUrl key.getKeyData.value = some publicKey
  known     : publicKey.algorithm = .known algorithm
  onCurve   : publicKey.OnCurve types.groups algorithm

/-- The entries of an exported key. -/
def exportedStruct (publicKey : JwtPublicKeyProto) (algorithm : JwtAlgorithm) (kid : Option Bytes) : JsonStruct :=
  match publicKey with
  | .ecdsa key =>
    let size := ecFieldSizeInBytes algorithm.curve
    ecKeyStruct algorithm (types.libraries.escape (BigEndian.encode size (BigEndian.value key.x)))
      (types.libraries.escape (BigEndian.encode size (BigEndian.value key.y))) kid
  | .rsa family key =>
    rsaKeyStruct family algorithm (types.libraries.escape key.e) (types.libraries.escape key.n) kid

end

section
variable {K : Type} {types : JwtKeyTypes K}

theorem sec1EncodeCoordinates_eq {x y : Bytes} {curve : EllipticCurveType}
    (h : types.groups.isOnCurve curve (BigEndian.value x) (BigEndian.value y) = true) :
    sec1EncodeCoordinates types x y curve =
      .ok (BigEndian.encode (ecFieldSizeInBytes curve) (BigEndian.value x),
        BigEndian.encode (ecFieldSizeInBytes curve) (BigEndian.value y)) := by
  unfold sec1EncodeCoordinates EcGroups.getEcPoint
  rw [if_pos h]
  generalize ecFieldSizeInBytes curve = size
  have hx := BigEndian.encode_length size (BigEndian.value x)
  have hy := BigEndian.encode_length size (BigEndian.value y)
  dsimp only
  rw [if_neg (by simp [hx, hy]; omega)]
  congr 2
  · rw [List.cons_append, List.drop_succ_cons, List.drop_zero, List.take_left' hx]
  · rw [List.cons_append, List.drop_succ_cons, List.drop_left' hx, List.take_of_length_le hy.le]

/-- What is exported for a key. -/
theorem keyToKeyStruct_eq {key : KeysetKey} {publicKey : JwtPublicKeyProto} {algorithm : JwtAlgorithm}
    (h : IsJwtPublicKey types key publicKey algorithm) :
    keyToKeyStruct types key = .ok (exportedStruct types publicKey algorithm (kidToExport types key publicKey.customKid)) := by
  obtain ⟨hprefixes, hmaterial, hparses, halgorithm, hcurve⟩ := h
  unfold keyToKeyStruct
  rw [if_neg (by rcases hprefixes with h | h <;> simp [h]), if_neg (not_not.2 hmaterial)]
  unfold JwtKeyTypes.parse at hparses
  split at hparses
  · rename_i hurl
    rw [if_pos hurl]
    obtain ⟨p, hp, rfl⟩ := Option.map_eq_some_iff.1 hparses
    unfold esPublicKeyToKeyStruct
    rw [hp]
    dsimp only
    rw [show p.algorithm = _ from halgorithm]
    dsimp only
    rw [sec1EncodeCoordinates_eq hcurve]
    rfl
  · rename_i hes
    rw [if_neg hes]
    split at hparses
    · rename_i hurl
      rw [if_pos hurl]
      obtain ⟨p, hp, rfl⟩ := Option.map_eq_some_iff.1 hparses
      unfold rsPublicKeyToKeyStruct rsaPublicKeyToKeyStruct RsaFamily.codec
      rw [hp]
      dsimp only
      rw [show p.algorithm = _ from halgorithm]
      rfl
    · rename_i hrs
      rw [if_neg hrs]
      split at hparses
      · rename_i hurl
        rw [if_pos hurl]
        obtain ⟨p, hp, rfl⟩ := Option.map_eq_some_iff.1 hparses
        unfold psPublicKeyToKeyStruct rsaPublicKeyToKeyStruct RsaFamily.codec
        rw [hp]
        dsimp only
        rw [show p.algorithm = _ from halgorithm]
        rfl
      · cases hparses

/-- What is imported of it. -/
theorem keyDataFromKeyStruct_exportedStruct (base64 : types.libraries.Base64) (publicKey : JwtPublicKeyProto)
    (algorithm : JwtAlgorithm) (kid : Option Bytes) :
    ∃ alg, getStringItem (exportedStruct types publicKey algorithm kid) "alg" = .ok alg ∧
      keyDataFromKeyStruct types (exportedStruct types publicKey algorithm kid) alg =
        .ok ⟨publicKey.typeUrl, types.serialize (publicKey.imported algorithm kid), .asymmetricPublic⟩ := by
  cases publicKey with
  | ecdsa key =>
    refine ⟨ascii (esAlgorithmName algorithm), by cases kid <;> rfl, ?_⟩
    unfold keyDataFromKeyStruct
    rw [if_neg (by cases algorithm <;> decide), if_neg (by cases algorithm <;> decide), if_pos (by cases algorithm <;> rfl)]
    exact esPublicKeyDataFromKeyStruct_ecKeyStruct base64 (BigEndian.encode_length _ _) (BigEndian.encode_length _ _) kid
  | rsa family key =>
    refine ⟨ascii (family.algorithmName algorithm), by cases kid <;> rfl, ?_⟩
    unfold keyDataFromKeyStruct
    cases family with
    | rs =>
      rw [if_pos (by cases algorithm <;> rfl)]
      exact rsaPublicKeyDataFromKeyStruct_rsaKeyStruct base64 .rs algorithm key.e key.n kid
    | ps =>
      rw [if_neg (by cases algorithm <;> decide), if_pos (by cases algorithm <;> rfl)]
      exact rsaPublicKeyDataFromKeyStruct_rsaKeyStruct base64 .ps algorithm key.e key.n kid

/-! ## Texts -/

theorem utf8EncodeChar_ascii : ∀ n : Fin 128, String.utf8EncodeChar (Char.ofNat n.1) = [UInt8.ofNat n.1] := by decide

theorem isText_of_ascii {bytes : Bytes} (h : ∀ b ∈ bytes, b < 128) : IsText bytes := by
  refine ⟨bytes.map fun b => Char.ofNat b.toNat, ?_⟩
  induction bytes with
  | nil => rfl
  | cons b bytes ih =>
    have hb : b.toNat < 128 := UInt8.lt_iff_toNat_lt.1 (h b List.mem_cons_self)
    have hc : String.utf8EncodeChar (Char.ofNat b.toNat) = [b] := by
      rw [utf8EncodeChar_ascii ⟨b.toNat, hb⟩, UInt8.ofNat_toNat]
    rw [List.map_cons, List.flatMap_cons, ← ih fun b' hm => h b' (List.mem_cons_of_mem _ hm), hc, List.singleton_append]

theorem JwtLibraries.Base64.isText {libraries : JwtLibraries} (base64 : libraries.Base64) (src : Bytes) :
    IsText (libraries.escape src) := by
  apply isText_of_ascii
  intro b hb
  have halphabet := base64.alphabet src b hb
  simp only [isValidUrlsafeBase64Char, Bool.or_eq_true, decide_eq_true_eq, UInt8.le_iff_toNat_le, ← UInt8.toNat_inj] at halphabet
  rw [UInt8.lt_iff_toNat_lt]
  simp only [UInt8.reduceToNat] at halphabet ⊢
  omega

/-! ## The imported key -/

theorem JwtKeyTypes.parse_serialize {publicKey : JwtPublicKeyProto} {algorithm : JwtAlgorithm}
    (halgorithm : publicKey.algorithm = .known algorithm) (htext : ∀ kid, publicKey.customKid = some kid → IsText kid) :
    types.parse publicKey.typeUrl (types.serialize publicKey) = some publicKey := by
  cases publicKey with
  | ecdsa key =>
    have h := types.ecdsa.parse_serialize key algorithm halgorithm htext
    exact congrArg (Option.map JwtPublicKeyProto.ecdsa) h
  | rsa family key =>
    cases family with
    | rs =>
      have h := types.rsaPkcs1.parse_serialize key algorithm halgorithm htext
      exact congrArg (Option.map (JwtPublicKeyProto.rsa .rs)) h
    | ps =>
      have h := types.rsaPss.parse_serialize key algorithm halgorithm htext
      exact congrArg (Option.map (JwtPublicKeyProto.rsa .ps)) h

theorem JwtKeyTypes.parse_some {typeUrl : String} {value : Bytes} {publicKey : JwtPublicKeyProto}
    (h : types.parse typeUrl value = some publicKey) :
    typeUrl = publicKey.typeUrl ∧ ∀ kid, publicKey.customKid = some kid → IsText kid := by
  unfold JwtKeyTypes.parse at h
  split at h
  · rename_i hurl
    obtain ⟨key, hkey, rfl⟩ := Option.map_eq_some_iff.1 h
    exact ⟨hurl, types.ecdsa.text_of_parse _ _ hkey⟩
  · split at h
    · rename_i hurl
      obtain ⟨key, hkey, rfl⟩ := Option.map_eq_some_iff.1 h
      exact ⟨hurl, types.rsaPkcs1.text_of_parse _ _ hkey⟩
    · split at h
      · rename_i hurl
        obtain ⟨key, hkey, rfl⟩ := Option.map_eq_some_iff.1 h
        exact ⟨hurl, types.rsaPss.text_of_parse _ _ hkey⟩
      · cases h

/-- The key that `JwkSetToPublicKeysetHandle` makes of a public key. -/
def importedKey (types : JwtKeyTypes K) (publicKey : JwtPublicKeyProto) (keyId : UInt32) : KeysetKey :=
  ⟨some ⟨publicKey.typeUrl, types.serialize publicKey, .asymmetricPublic⟩, .enabled, keyId, .raw⟩

section
variable {key : KeysetKey} {publicKey : JwtPublicKeyProto} {algorithm : JwtAlgorithm}

theorem kidToExport_isText (base64 : types.libraries.Base64) (h : IsJwtPublicKey types key publicKey algorithm) {kid : Bytes}
    (hkid : kidToExport types key publicKey.customKid = some kid) : IsText kid := by
  unfold kidToExport getKid at hkid
  split at hkid
  · exact (JwtKeyTypes.parse_some h.parses).2 kid hkid
  · cases hkid
    exact base64.isText _

/-- **The imported key is a JWT key again.** -/
theorem IsJwtPublicKey.imported (base64 : types.libraries.Base64) (h : IsJwtPublicKey types key publicKey algorithm)
    (keyId : UInt32) :
    IsJwtPublicKey types
      (importedKey types (publicKey.imported algorithm (kidToExport types key publicKey.customKid)) keyId)
      (publicKey.imported algorithm (kidToExport types key publicKey.customKid)) algorithm where
  rawOrTink := Or.inl rfl
  material := rfl
  parses := by
    refine JwtKeyTypes.parse_serialize (publicKey.imported_algorithm algorithm _) ?_
    intro kid hkid
    rw [JwtPublicKeyProto.imported_customKid] at hkid
    exact kidToExport_isText base64 h hkid
  known := publicKey.imported_algorithm algorithm _
  onCurve := (JwtPublicKeyProto.imported_sameValues h.onCurve _).onCurve h.onCurve

theorem kidToExport_importedKey (publicKey : JwtPublicKeyProto) (keyId : UInt32) (customKid : Option Bytes) :
    kidToExport types (importedKey types publicKey keyId) customKid = customKid := rfl

theorem exportedStruct_imported (h : publicKey.OnCurve types.groups algorithm) (kid kid' : Option Bytes) :
    exportedStruct types (publicKey.imported algorithm kid') algorithm kid = exportedStruct types publicKey algorithm kid := by
  have hsame := JwtPublicKeyProto.imported_sameValues h kid'
  cases publicKey with
  | ecdsa key =>
    unfold exportedStruct
    dsimp only [JwtPublicKeyProto.imported]
    rw [← hsame.1, ← hsame.2]
  | rsa family key => rfl

/-- **It is exported as the key was.** -/
theorem keyToKeyStruct_imported (base64 : types.libraries.Base64) (h : IsJwtPublicKey types key publicKey algorithm)
    (keyId : UInt32) :
    keyToKeyStruct types
        (importedKey types (publicKey.imported algorithm (kidToExport types key publicKey.customKid)) keyId) =
      keyToKeyStruct types key := by
  rw [keyToKeyStruct_eq (h.imported base64 keyId), keyToKeyStruct_eq h, kidToExport_importedKey,
    JwtPublicKeyProto.imported_customKid, exportedStruct_imported h.onCurve]

end

/-! ## The key of the handle -/

end

/-- The key without an id requirement; its kid stays, as a custom one. -/
def JwtKeyBase.asRaw (key : JwtKeyBase) : JwtKeyBase :=
  { key with kidStrategy := if key.kid.isSome then .custom else .ignored, idRequirement := none }

/-- A JWT key without an id requirement. -/
def HandleKey.asRaw {K : Type} : HandleKey K → HandleKey K
  | .jwtEcdsa key => .jwtEcdsa { key with toJwtKeyBase := key.toJwtKeyBase.asRaw }
  | .jwtRsaSsaPkcs1 key => .jwtRsaSsaPkcs1 { key with toJwtKeyBase := key.toJwtKeyBase.asRaw }
  | .jwtRsaSsaPss key => .jwtRsaSsaPss { key with toJwtKeyBase := key.toJwtKeyBase.asRaw }
  | .legacy serialization => .legacy serialization
  | .other key => .other key

namespace JwtPublicKeyProto

def version : JwtPublicKeyProto → UInt32
  | .ecdsa key => key.version
  | .rsa _ key => key.version

/-- The name of the type in the messages. -/
def name : JwtPublicKeyProto → String
  | .ecdsa _ => "JwtEcdsa"
  | .rsa .rs _ => "JwtRsaSsaPkcs1"
  | .rsa .ps _ => "JwtRsaSsaPss"

/-- What is asked of the numbers. -/
def validate (groups : EcGroups) : JwtPublicKeyProto → JwtAlgorithm → Except Status Unit
  | .ecdsa key => validatePublicPoint groups (BigEndian.value key.x) (BigEndian.value key.y)
  | .rsa _ key => validateRsaParameters (BigEndian.value key.n) (BigEndian.value key.e)

/-- The key with the numbers. -/
def toHandleKey {K : Type} (base : JwtKeyBase) : JwtPublicKeyProto → HandleKey K
  | .ecdsa key => .jwtEcdsa ⟨base, (BigEndian.value key.x, BigEndian.value key.y)⟩
  | .rsa .rs key => .jwtRsaSsaPkcs1 ⟨base, BigEndian.value key.e, BigEndian.value key.n⟩
  | .rsa .ps key => .jwtRsaSsaPss ⟨base, BigEndian.value key.e, BigEndian.value key.n⟩

theorem toHandleKey_asRaw {K : Type} (base : JwtKeyBase) (publicKey : JwtPublicKeyProto) :
    (publicKey.toHandleKey base : HandleKey K).asRaw = publicKey.toHandleKey base.asRaw := by
  cases publicKey with
  | ecdsa key => rfl
  | rsa family key => cases family <;> rfl

theorem SameValues.validate {groups : EcGroups} {publicKey publicKey' : JwtPublicKeyProto}
    (h : publicKey.SameValues publicKey') : publicKey.validate groups = publicKey'.validate groups := by
  cases publicKey with
  | ecdsa key =>
    cases publicKey' with
    | ecdsa key' =>
      dsimp only [JwtPublicKeyProto.validate]
      rw [h.1, h.2]
    | rsa family' key' => cases h
  | rsa family key =>
    cases publicKey' with
    | ecdsa key' => cases h
    | rsa family' key' =>
      dsimp only [JwtPublicKeyProto.validate]
      rw [h.2.1, h.2.2]

theorem SameValues.toHandleKey {K : Type} {publicKey publicKey' : JwtPublicKeyProto} (h : publicKey.SameValues publicKey')
    (base : JwtKeyBase) : (publicKey'.toHandleKey base : HandleKey K) = publicKey.toHandleKey base := by
  cases publicKey with
  | ecdsa key =>
    cases publicKey' with
    | ecdsa key' =>
      dsimp only [JwtPublicKeyProto.toHandleKey]
      rw [h.1, h.2]
    | rsa family' key' => cases h
  | rsa family key =>
    cases publicKey' with
    | ecdsa key' => cases h
    | rsa family' key' =>
      obtain ⟨rfl, hn, he⟩ := h
      cases family <;> dsimp only [JwtPublicKeyProto.toHandleKey] <;> rw [hn, he]

theorem typeUrl_printable (publicKey : JwtPublicKeyProto) : isPrintableAscii publicKey.typeUrl = true := by
  cases publicKey with
  | ecdsa key => exact (by simp [isPrintableAscii, jwtEcdsaPublicKeyUrl] : isPrintableAscii jwtEcdsaPublicKeyUrl = true)
  | rsa family key =>
    cases family with
    | rs => exact (by simp [isPrintableAscii, jwtRsaSsaPkcs1PublicKeyUrl] : isPrintableAscii jwtRsaSsaPkcs1PublicKeyUrl = true)
    | ps => exact (by simp [isPrintableAscii, jwtRsaSsaPssPublicKeyUrl] : isPrintableAscii jwtRsaSsaPssPublicKeyUrl = true)

end JwtPublicKeyProto

section
variable {libraries : JwtLibraries} {name : String} {outputPrefixType : OutputPrefixType} {idRequirement : Option UInt32}
  {customKid : Option Bytes} {algorithm : JwtAlgorithm} {validate : JwtAlgorithm → Except Status Unit}

/-- A key that was read. -/
theorem toPublicKey_ok {base : JwtKeyBase}
    (h : toPublicKey libraries name outputPrefixType idRequirement (.known algorithm) customKid validate = .ok base) :
    validate algorithm = .ok () ∧ base.algorithm = algorithm ∧
      base.kid = if outputPrefixType = .tink then idRequirement.map fun id => libraries.escape (bigEndian32 id)
        else customKid := by
  obtain ⟨kidStrategy, hstrategy, h⟩ := bind_eq_ok h
  obtain ⟨_, halgorithm, h⟩ := bind_eq_ok h
  cases halgorithm
  obtain ⟨⟨⟩, hvalidate, h⟩ := bind_eq_ok h
  obtain ⟨⟨⟩, -, h⟩ := bind_eq_ok h
  obtain ⟨kid, hkid, h⟩ := bind_eq_ok h
  cases h
  refine ⟨hvalidate, rfl, ?_⟩
  cases outputPrefixType with
  | raw =>
    cases hstrategy
    cases customKid <;> cases hkid <;> rfl
  | tink =>
    cases hstrategy
    cases customKid with
    | none =>
      cases hkid
      rfl
    | some customKid => cases hkid
  | _ => cases hstrategy

theorem toPublicKey_raw (h : validate algorithm = .ok ()) (customKid : Option Bytes) :
    toPublicKey libraries name .raw none (.known algorithm) customKid validate =
      .ok ⟨if customKid.isSome then .custom else .ignored, algorithm, none, customKid⟩ := by
  unfold toPublicKey toKidStrategy fromProtoAlgorithm
  dsimp only [bind, Except.bind]
  rw [h]
  cases customKid <;> rfl

end

section
variable {K : Type} {types : JwtKeyTypes K} {s : ProtoKeySerialization} {algorithm : JwtAlgorithm}

theorem parseEcdsaPublicKey_ok {libraries : JwtLibraries} {groups : EcGroups} {codec : JwtEcdsaCodec}
    {proto : JwtEcdsaPublicKeyProto} (hproto : codec.parseFromString s.serializedKey = some proto)
    (hknown : proto.algorithm = .known algorithm) {key : JwtEcdsaPublicKey}
    (h : parseEcdsaPublicKey libraries groups codec s = .ok key) :
    ∃ base, toPublicKey libraries "JwtEcdsa" s.outputPrefixType s.idRequirement proto.algorithm proto.customKid
        (validatePublicPoint groups (BigEndian.value proto.x) (BigEndian.value proto.y)) = .ok base ∧
      key = ⟨base, (BigEndian.value proto.x, BigEndian.value proto.y)⟩ := by
  unfold parseEcdsaPublicKey at h
  split at h
  · cases h
  · rename_i proto' hTP
    have hp := codec.parseTP_agrees _ _ _ _ hproto hknown hTP
    subst hp
    split at h
    · cases h
    · obtain ⟨base, hbase, rfl⟩ := map_eq_ok h
      exact ⟨base, hbase, rfl⟩

theorem parseRsaPublicKey_ok {libraries : JwtLibraries} {name : String} {codec : JwtRsaCodec} {proto : JwtRsaPublicKeyProto}
    (hproto : codec.parseFromString s.serializedKey = some proto) (hknown : proto.algorithm = .known algorithm)
    {key : JwtRsaPublicKey} (h : parseRsaPublicKey libraries name codec s = .ok key) :
    ∃ base, toPublicKey libraries name s.outputPrefixType s.idRequirement proto.algorithm proto.customKid
        (validateRsaParameters (BigEndian.value proto.n) (BigEndian.value proto.e)) = .ok base ∧
      key = ⟨base, BigEndian.value proto.e, BigEndian.value proto.n⟩ := by
  unfold parseRsaPublicKey at h
  split at h
  · cases h
  · rename_i proto' hTP
    have hp := codec.parseTP_agrees _ _ _ _ hproto hknown hTP
    subst hp
    split at h
    · cases h
    · obtain ⟨base, hbase, rfl⟩ := map_eq_ok h
      exact ⟨base, hbase, rfl⟩

variable {publicKey : JwtPublicKeyProto}

/-- What a registered parser has asked of a public key. -/
theorem parseKeyWithLegacyFallback_ok (hregistered : types.registered = true)
    (hparses : types.parse s.typeUrl s.serializedKey = some publicKey) (hknown : publicKey.algorithm = .known algorithm)
    {key : HandleKey K} (h : types.parseKeyWithLegacyFallback s = .ok key) :
    ∃ base, toPublicKey types.libraries publicKey.name s.outputPrefixType s.idRequirement publicKey.algorithm
      publicKey.customKid (publicKey.validate types.groups) = .ok base ∧ key = publicKey.toHandleKey base := by
  unfold JwtKeyTypes.parseKeyWithLegacyFallback at h
  unfold JwtKeyTypes.parse at hparses
  simp only [hregistered, if_true] at h
  split at h
  · rename_i hurl
    rw [if_pos hurl] at hparses
    obtain ⟨proto, hproto, rfl⟩ := Option.map_eq_some_iff.1 hparses
    obtain ⟨ecdsaKey, hkey, rfl⟩ := map_eq_ok h
    obtain ⟨base, hbase, rfl⟩ := parseEcdsaPublicKey_ok hproto hknown hkey
    exact ⟨base, hbase, rfl⟩
  · rename_i hes
    rw [if_neg hes] at hparses
    split at h
    · rename_i hurl
      rw [if_pos hurl] at hparses
      obtain ⟨proto, hproto, rfl⟩ := Option.map_eq_some_iff.1 hparses
      obtain ⟨rsaKey, hkey, rfl⟩ := map_eq_ok h
      obtain ⟨base, hbase, rfl⟩ := parseRsaPublicKey_ok hproto hknown hkey
      exact ⟨base, hbase, rfl⟩
    · rename_i hrs
      rw [if_neg hrs] at hparses
      split at h
      · rename_i hurl
        rw [if_pos hurl] at hparses
        obtain ⟨proto, hproto, rfl⟩ := Option.map_eq_some_iff.1 hparses
        obtain ⟨rsaKey, hkey, rfl⟩ := map_eq_ok h
        obtain ⟨base, hbase, rfl⟩ := parseRsaPublicKey_ok hproto hknown hkey
        exact ⟨base, hbase, rfl⟩
      · rename_i hps
        rw [if_neg hps] at hparses
        cases hparses

/-- It reads what was serialized. -/
theorem parseKeyWithLegacyFallback_serialize (hregistered : types.registered = true) (hurl : s.typeUrl = publicKey.typeUrl)
    (hvalue : s.serializedKey = types.serialize publicKey) (hversion : publicKey.version = 0)
    (hknown : publicKey.algorithm = .known algorithm) {base : JwtKeyBase}
    (h : toPublicKey types.libraries publicKey.name s.outputPrefixType s.idRequirement publicKey.algorithm
      publicKey.customKid (publicKey.validate types.groups) = .ok base) :
    types.parseKeyWithLegacyFallback s = .ok (publicKey.toHandleKey base) := by
  unfold JwtKeyTypes.parseKeyWithLegacyFallback
  simp only [hregistered, if_true]
  cases publicKey with
  | ecdsa key =>
    rw [show s.typeUrl = jwtEcdsaPublicKeyUrl from hurl, if_pos rfl]
    unfold parseEcdsaPublicKey
    rw [hvalue, show types.serialize _ = types.ecdsa.serializeAsString key from rfl,
      types.ecdsa.parseTP_serialize key algorithm hknown]
    dsimp only
    rw [if_neg (not_not.2 (show key.version = 0 from hversion))]
    exact congrArg (fun x => Except.map HandleKey.jwtEcdsa (Except.map _ x)) h
  | rsa family key =>
    cases family with
    | rs =>
      rw [show s.typeUrl = jwtRsaSsaPkcs1PublicKeyUrl from hurl, if_neg (by decide), if_pos rfl]
      unfold parseRsaPublicKey
      rw [hvalue, show types.serialize _ = types.rsaPkcs1.serializeAsString key from rfl,
        types.rsaPkcs1.parseTP_serialize key algorithm hknown]
      dsimp only
      rw [if_neg (not_not.2 (show key.version = 0 from hversion))]
      exact congrArg (fun x => Except.map HandleKey.jwtRsaSsaPkcs1 (Except.map _ x)) h
    | ps =>
      rw [show s.typeUrl = jwtRsaSsaPssPublicKeyUrl from hurl, if_neg (by decide), if_neg (by decide), if_pos rfl]
      unfold parseRsaPublicKey
      rw [hvalue, show types.serialize _ = types.rsaPss.serializeAsString key from rfl,
        types.rsaPss.parseTP_serialize key algorithm hknown]
      dsimp only
      rw [if_neg (not_not.2 (show key.version = 0 from hversion))]
      exact congrArg (fun x => Except.map HandleKey.jwtRsaSsaPss (Except.map _ x)) h

end

section
variable {K : Type} {types : JwtKeyTypes K} {key : KeysetKey} {publicKey : JwtPublicKeyProto} {algorithm : JwtAlgorithm}

theorem toProtoKeySerialization_importedKey (types : JwtKeyTypes K) (publicKey : JwtPublicKeyProto) (keyId : UInt32) :
    ∃ s, toProtoKeySerialization (importedKey types publicKey keyId) = .ok s :=
  ⟨_, ProtoKeySerialization.create_of_valid publicKey.typeUrl_printable (iff_of_true rfl rfl)⟩

/-- The kid of a key that was read is the one that is exported. -/
theorem toPublicKey_kid {s : ProtoKeySerialization} (hs : toProtoKeySerialization key = .ok s) {base : JwtKeyBase}
    (hraw : key.outputPrefixType = .raw ∨ key.outputPrefixType = .tink) {customKid : Option Bytes}
    (hkid : base.kid = if s.outputPrefixType = .tink then
      s.idRequirement.map fun id => types.libraries.escape (bigEndian32 id) else customKid) :
    base.kid = kidToExport types key customKid := by
  obtain ⟨-, -, hp, hid⟩ := toProtoKeySerialization_ok hs
  rw [hkid, hp, hid]
  unfold kidToExport getKid
  rcases hraw with hraw | htink
  · simp [hraw]
  · simp [htink]

/-- **The imported key is read as the original, without an id requirement.** -/
theorem createEntry_imported (hregistered : types.registered = true) (hkey : IsJwtPublicKey types key publicKey algorithm)
    {primaryKeyId : UInt32} {entry : HandleEntry (HandleKey K)}
    (hentry : createEntry types.parseKeyWithLegacyFallback key primaryKeyId = .ok entry) (keyId primaryKeyId' : UInt32) :
    createEntry types.parseKeyWithLegacyFallback
        (importedKey types (publicKey.imported algorithm (kidToExport types key publicKey.customKid)) keyId) primaryKeyId' =
      .ok ⟨entry.key.asRaw, .enabled, keyId, decide (keyId = primaryKeyId')⟩ := by
  obtain ⟨s, handleKey, status, hs, hparse, -, rfl⟩ := createEntry_cases _ hentry
  dsimp only
  obtain ⟨hurl, hvalue, -, -⟩ := toProtoKeySerialization_ok hs
  have hparses : types.parse s.typeUrl s.serializedKey = some publicKey := by
    rw [hurl, hvalue]
    exact hkey.parses
  obtain ⟨base, hbase, hread⟩ := parseKeyWithLegacyFallback_ok hregistered hparses hkey.known hparse
  rw [hkey.known] at hbase
  obtain ⟨hvalidate, halgorithm, hkid⟩ := toPublicKey_ok hbase
  have hkid := toPublicKey_kid hs hkey.rawOrTink hkid
  have hsame := JwtPublicKeyProto.imported_sameValues hkey.onCurve (kidToExport types key publicKey.customKid)
  rw [hread, JwtPublicKeyProto.toHandleKey_asRaw, ← hsame.toHandleKey]
  rw [hsame.validate] at hvalidate
  rw [← hkid] at hvalidate ⊢
  have hversion : (publicKey.imported algorithm base.kid).version = 0 := by cases publicKey <;> rfl
  have hknown := publicKey.imported_algorithm algorithm base.kid
  have hcustom := publicKey.imported_customKid algorithm base.kid
  generalize publicKey.imported algorithm base.kid = publicKey' at *
  obtain ⟨s', hs'⟩ := toProtoKeySerialization_importedKey types publicKey' keyId
  obtain ⟨hurl', hvalue', hprefixes', hid'⟩ := toProtoKeySerialization_ok hs'
  refine createEntry_of_parsed _ hs'
    (parseKeyWithLegacyFallback_serialize hregistered hurl' hvalue' hversion hknown ?_) rfl primaryKeyId'
  rw [hprefixes', hid', hknown, hcustom]
  refine (toPublicKey_raw hvalidate base.kid).trans ?_
  rw [← halgorithm]
  rfl

/-- Without registration every key is kept as it is. -/
theorem createEntry_unregistered (hregistered : types.registered = false) (publicKey : JwtPublicKeyProto)
    (keyId primaryKeyId : UInt32) :
    ∃ entry, createEntry types.parseKeyWithLegacyFallback (importedKey types publicKey keyId) primaryKeyId = .ok entry := by
  obtain ⟨s, hs⟩ := toProtoKeySerialization_importedKey types publicKey keyId
  obtain ⟨hurl, -, -, -⟩ := toProtoKeySerialization_ok hs
  have hparse : types.parseKeyWithLegacyFallback s = .ok (.legacy s) := by
    unfold JwtKeyTypes.parseKeyWithLegacyFallback
    simp only [hregistered, Bool.false_eq_true, if_false]
    cases publicKey with
    | ecdsa key => rw [if_pos (show s.typeUrl = jwtEcdsaPublicKeyUrl from hurl)]
    | rsa family key =>
      cases family with
      | rs => rw [if_pos (show s.typeUrl = jwtRsaSsaPkcs1PublicKeyUrl from hurl), ite_self]
      | ps => rw [if_pos (show s.typeUrl = jwtRsaSsaPssPublicKeyUrl from hurl), ite_self, ite_self]
  exact ⟨_, createEntry_of_parsed _ hs hparse rfl primaryKeyId⟩

end

end Tink
