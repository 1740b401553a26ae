import TinkCc.JwtPublicKeys
import TinkCc.KeysetManager
/-!
# JwkSetConverter — keysets as JSON Web Key sets

`jwk_set_converter.cc`.  The converters of RS and PS keys differ in names only.
-/
namespace Tink

/-! ## Items of a JSON object -/

def hasItem (keyStruct : JsonStruct) (name : String) : Bool := (keyStruct.find (ascii name)).isSome

def getStringItem (keyStruct : JsonStruct) (name : String) : Except Status Bytes :=
  match keyStruct.find (ascii name) with
  | none => .error ⟨.invalidArgument, "not found"⟩
  | some (.string value) => .ok value
  | some _ => .error ⟨.invalidArgument, "is not a string"⟩

def expectStringItem (keyStruct : JsonStruct) (name value : String) : Except Status Unit :=
  match getStringItem keyStruct name with
  | .error e => .error e
  | .ok item => if item ≠ ascii value then .error ⟨.invalidArgument, "unexpected value"⟩ else .ok ()

def validateUseIsSig (keyStruct : JsonStruct) : Except Status Unit :=
  if !hasItem keyStruct "use" then .ok () else expectStringItem keyStruct "use" "sig"

def validateKeyOpsIsVerify (keyStruct : JsonStruct) : Except Status Unit :=
  match keyStruct.find (ascii "key_ops") with
  | none => .ok ()
  | some (.list [.string value]) =>
    if value ≠ ascii "verify" then .error ⟨.invalidArgument, "key_ops is not equal to [\"verify\"]"⟩ else .ok ()
  | some (.list [_]) => .error ⟨.invalidArgument, "key_ops item is not a string"⟩
  | some (.list _) => .error ⟨.invalidArgument, "key_ops size is not 1"⟩
  | some _ => .error ⟨.invalidArgument, "key_ops is not a list"⟩

/-- The kid of a key, when it has one. -/
def getKidItem (keyStruct : JsonStruct) : Except Status (Option Bytes) :=
  if hasItem keyStruct "kid" then (getStringItem keyStruct "kid").map some else .ok none

section
variable {K : Type} (types : JwtKeyTypes K)

/-- A base64 item. -/
def getBase64Item (keyStruct : JsonStruct) (name : String) : Except Status Bytes := do
  let item ← getStringItem keyStruct name
  match strictWebSafeBase64Unescape types.libraries item with
  | none => throw ⟨.invalidArgument, s!"failed to decode {name}"⟩
  | some decoded => return decoded

/-! ## From JSON -/

/-- The types of RSA keys. -/
inductive RsaFamily
  | rs
  | ps
  deriving DecidableEq, Repr

namespace RsaFamily

def algorithmName : RsaFamily → JwtAlgorithm → String
  | .rs, .bits256 => "RS256"
  | .rs, .bits384 => "RS384"
  | .rs, .bits512 => "RS512"
  | .ps, .bits256 => "PS256"
  | .ps, .bits384 => "PS384"
  | .ps, .bits512 => "PS512"

def typeUrl : RsaFamily → String
  | .rs => jwtRsaSsaPkcs1PublicKeyUrl
  | .ps => jwtRsaSsaPssPublicKeyUrl

def codec : RsaFamily → JwtRsaCodec
  | .rs => types.rsaPkcs1
  | .ps => types.rsaPss

/-- The algorithm of a name. -/
def algorithmOf (family : RsaFamily) (alg : Bytes) : Except Status JwtAlgorithm :=
  if alg = ascii (family.algorithmName .bits256) then .ok .bits256
  else if alg = ascii (family.algorithmName .bits384) then .ok .bits384
  else if alg = ascii (family.algorithmName .bits512) then .ok .bits512
  else .error ⟨.invalidArgument, "invalid alg"⟩

end RsaFamily

/-- The private parts of an RSA key. -/
def rsaPrivateItems : List String := ["p", "q", "dq", "dp", "d", "qi"]

def rsaPublicKeyDataFromKeyStruct (family : RsaFamily) (keyStruct : JsonStruct) : Except Status KeyData := do
  let alg ← getStringItem keyStruct "alg"
  let algorithm ← family.algorithmOf alg
  if rsaPrivateItems.any (hasItem keyStruct) then
    throw ⟨.invalidArgument, "private keys cannot be converted"⟩
  expectStringItem keyStruct "kty" "RSA"
  validateUseIsSig keyStruct
  validateKeyOpsIsVerify keyStruct
  let e ← getBase64Item types keyStruct "e"
  let n ← getBase64Item types keyStruct "n"
  let kid ← getKidItem keyStruct
  return ⟨family.typeUrl, (family.codec types).serializeAsString ⟨0, .known algorithm, n, e, kid⟩, .asymmetricPublic⟩

def rsPublicKeyDataFromKeyStruct (keyStruct : JsonStruct) : Except Status KeyData :=
  rsaPublicKeyDataFromKeyStruct types .rs keyStruct

def psPublicKeyDataFromKeyStruct (keyStruct : JsonStruct) : Except Status KeyData :=
  rsaPublicKeyDataFromKeyStruct types .ps keyStruct

def esAlgorithmName : JwtAlgorithm → String
  | .bits256 => "ES256"
  | .bits384 => "ES384"
  | .bits512 => "ES512"

def esCurveName : JwtAlgorithm → String
  | .bits256 => "P-256"
  | .bits384 => "P-384"
  | .bits512 => "P-521"

/-- A curve that has to be the one of the algorithm. -/
def expectCurve (algorithm : JwtAlgorithm) (curve : Bytes) : Except Status JwtAlgorithm :=
  if curve ≠ ascii (esCurveName algorithm) then
    let name := esCurveName algorithm
    .error ⟨.invalidArgument, s!"crv is not equal to {name}"⟩
  else .ok algorithm

def esAlgorithmOf (alg curve : Bytes) : Except Status JwtAlgorithm :=
  if alg = ascii (esAlgorithmName .bits256) then expectCurve .bits256 curve
  else if alg = ascii (esAlgorithmName .bits384) then expectCurve .bits384 curve
  else if alg = ascii (esAlgorithmName .bits512) then expectCurve .bits512 curve
  else .error ⟨.invalidArgument, "invalid alg"⟩

/-- A coordinate, which has to have the size of the field. -/
def getCoordinate (keyStruct : JsonStruct) (name : String) (size : Nat) : Except Status Bytes := do
  let decoded ← getBase64Item types keyStruct name
  if decoded.length ≠ size then throw ⟨.invalidArgument, s!"invalid length of {name}"⟩
  return decoded

def esPublicKeyDataFromKeyStruct (keyStruct : JsonStruct) : Except Status KeyData := do
  let alg ← getStringItem keyStruct "alg"
  let curve ← getStringItem keyStruct "crv"
  let algorithm ← esAlgorithmOf alg curve
  if hasItem keyStruct "d" then
    throw ⟨.invalidArgument, "private keys cannot be converted"⟩
  expectStringItem keyStruct "kty" "EC"
  validateUseIsSig keyStruct
  validateKeyOpsIsVerify keyStruct
  let expectedCoordinateSize := ecFieldSizeInBytes algorithm.curve
  let x ← getCoordinate types keyStruct "x" expectedCoordinateSize
  let y ← getCoordinate types keyStruct "y" expectedCoordinateSize
  let kid ← getKidItem keyStruct
  return ⟨jwtEcdsaPublicKeyUrl, types.ecdsa.serializeAsString ⟨0, .known algorithm, x, y, kid⟩, .asymmetricPublic⟩

/-- An element of `keys`, with its algorithm. -/
def keyStructOf (value : JsonValue) : Except Status (JsonStruct × Bytes) :=
  match value with
  | .struct fields => (getStringItem ⟨fields⟩ "alg").map fun alg => (⟨fields⟩, alg)
  | _ => .error ⟨.invalidArgument, "key is not a JSON object"⟩

/-- The converter for an algorithm. -/
def keyDataFromKeyStruct (keyStruct : JsonStruct) (alg : Bytes) : Except Status KeyData :=
  if alg.take 2 = ascii "RS" then rsPublicKeyDataFromKeyStruct types keyStruct
  else if alg.take 2 = ascii "PS" then psPublicKeyDataFromKeyStruct types keyStruct
  else if alg.take 2 = ascii "ES" then esPublicKeyDataFromKeyStruct types keyStruct
  else .error ⟨.invalidArgument, "invalid alg prefix"⟩

/-- The loop of `JwkSetToPublicKeysetHandle`, when the id of the key at an index is the first of its `draws` that no key
has; `none` is a call that still draws. -/
def keysLoop (draws : Nat → List UInt32) : List JsonValue → Keyset → Option (Except Status Keyset)
  | [], keyset => some (.ok keyset)
  | value :: values, keyset =>
    match keyStructOf value with
    | .error e => some (.error e)
    | .ok (keyStruct, alg) =>
      -- the key is in the keyset, with id 0, when its id is drawn
      match generateUnusedKeyId { keyset with key := keyset.key ++ [⟨none, .unknownStatus, 0, .unknownPrefix⟩] }
          (draws keyset.key.length) with
      | none => none
      | some keyId =>
        match keyDataFromKeyStruct types keyStruct alg with
        | .error e => some (.error e)
        | .ok keyData => keysLoop draws values ⟨keyId, keyset.key ++ [⟨some keyData, .enabled, keyId, .raw⟩]⟩

def jwkSetToPublicKeysetHandle (draws : Nat → List UInt32) (jwkSet : Bytes) :
    Option (Except Status (KeysetHandle (HandleKey K))) :=
  match jsonStringToProtoStruct types.libraries jwkSet with
  | .error e => some (.error e)
  | .ok jwkSetStruct =>
    match jwkSetStruct.find (ascii "keys") with
    | none => some (.error ⟨.invalidArgument, "keys not found"⟩)
    | some (.list values) =>
      if values.length ≤ 0 then some (.error ⟨.invalidArgument, "keys list is empty"⟩)
      else
        match keysLoop types draws values ⟨0, []⟩ with
        | none => none
        | some (.error e) => some (.error e)
        | some (.ok keyset) => some (readNoSecret types.parseKeyWithLegacyFallback keyset)
    | some _ => some (.error ⟨.invalidArgument, "keys is not a list"⟩)

/-! ## To JSON -/

def addStringEntry (name : String) (value : Bytes) (key : JsonStruct) : JsonStruct := key.set (ascii name) (.string value)

def addKeyOpsVerifyEntry (key : JsonStruct) : JsonStruct := key.set (ascii "key_ops") (.list [.string (ascii "verify")])

/-- The kid of a TINK key, and else the custom kid. -/
def kidToExport (key : KeysetKey) (customKid : Option Bytes) : Option Bytes :=
  (getKid types.libraries key.keyId key.outputPrefixType).or customKid

/-- `Sec1EncodeCoordinates`. -/
def sec1EncodeCoordinates (x y : Bytes) (curveType : EllipticCurveType) : Except Status (Bytes × Bytes) :=
  let encodedSize := ecFieldSizeInBytes curveType
  match types.groups.getEcPoint curveType (BigEndian.value x) (BigEndian.value y) with
  | .error e => .error e
  | .ok (x, y) =>
    -- `EcPointEncode`: the uncompressed point is encoded as 0x04 || x || y
    let uncompressedPoint : Bytes := 4 :: BigEndian.encode encodedSize x ++ BigEndian.encode encodedSize y
    if uncompressedPoint.length ≠ encodedSize * 2 + 1 then .error ⟨.invalidArgument, "invalid encoded size"⟩
    else .ok ((uncompressedPoint.drop 1).take encodedSize, (uncompressedPoint.drop (encodedSize + 1)).take encodedSize)

/-- The entries of an EC key. -/
def ecKeyStruct (algorithm : JwtAlgorithm) (x y : Bytes) (kid : Option Bytes) : JsonStruct :=
  ({} : JsonStruct) |> addStringEntry "crv" (ascii (esCurveName algorithm))
    |> addStringEntry "alg" (ascii (esAlgorithmName algorithm))
    |> addStringEntry "kty" (ascii "EC")
    |> addStringEntry "x" x
    |> addStringEntry "y" y
    |> addStringEntry "use" (ascii "sig")
    |> addKeyOpsVerifyEntry
    |> setIfPresent (ascii "kid") kid

def esPublicKeyToKeyStruct (key : KeysetKey) : Except Status JsonStruct :=
  match types.ecdsa.parseFromString key.getKeyData.value with
  | none => .error ⟨.invalidArgument, "parse JwtEcdsaPublicKey failed"⟩
  | some publicKey =>
    match publicKey.algorithm with
    | .known algorithm =>
      match sec1EncodeCoordinates types publicKey.x publicKey.y algorithm.curve with
      | .error e => .error e
      | .ok (x, y) =>
        .ok (ecKeyStruct algorithm (types.libraries.escape x) (types.libraries.escape y)
          (kidToExport types key publicKey.customKid))
    | _ => .error ⟨.invalidArgument, "unknown JwtEcdsaAlgorithm"⟩

/-- The entries of an RSA key. -/
def rsaKeyStruct (family : RsaFamily) (algorithm : JwtAlgorithm) (e n : Bytes) (kid : Option Bytes) : JsonStruct :=
  ({} : JsonStruct) |> addStringEntry "alg" (ascii (family.algorithmName algorithm))
    |> addStringEntry "kty" (ascii "RSA")
    |> addStringEntry "e" e
    |> addStringEntry "n" n
    |> addStringEntry "use" (ascii "sig")
    |> addKeyOpsVerifyEntry
    |> setIfPresent (ascii "kid") kid

def rsaPublicKeyToKeyStruct (family : RsaFamily) (key : KeysetKey) : Except Status JsonStruct :=
  match (family.codec types).parseFromString key.getKeyData.value with
  -- the messages name PKCS1 keys also when the key is a PSS key
  | none => .error ⟨.invalidArgument, "parse JwtRsaSsaPkcs1PublicKey failed"⟩
  | some publicKey =>
    match publicKey.algorithm with
    | .known algorithm =>
      .ok (rsaKeyStruct family algorithm (types.libraries.escape publicKey.e) (types.libraries.escape publicKey.n)
        (kidToExport types key publicKey.customKid))
    | _ => .error ⟨.invalidArgument, "unknown JwtRsaSsaPkcs1Algorithm"⟩

def rsPublicKeyToKeyStruct (key : KeysetKey) : Except Status JsonStruct := rsaPublicKeyToKeyStruct types .rs key
def psPublicKeyToKeyStruct (key : KeysetKey) : Except Status JsonStruct := rsaPublicKeyToKeyStruct types .ps key

/-- An ENABLED key in the loop of `JwkSetFromPublicKeysetHandle`. -/
def keyToKeyStruct (key : KeysetKey) : Except Status JsonStruct :=
  if key.outputPrefixType ≠ .raw ∧ key.outputPrefixType ≠ .tink then
    .error ⟨.invalidArgument, "Unknown output prefix type"⟩
  else if key.getKeyData.keyMaterialType ≠ .asymmetricPublic then
    .error ⟨.invalidArgument, "Only asymmetric public keys are supported"⟩
  else if key.getKeyData.typeUrl = jwtEcdsaPublicKeyUrl then esPublicKeyToKeyStruct types key
  else if key.getKeyData.typeUrl = jwtRsaSsaPkcs1PublicKeyUrl then rsPublicKeyToKeyStruct types key
  else if key.getKeyData.typeUrl = jwtRsaSsaPssPublicKeyUrl then psPublicKeyToKeyStruct types key
  else .error ⟨.invalidArgument, "Unknown key type url"⟩

/-- The loop of `JwkSetFromPublicKeysetHandle`. -/
def keyStructs : List KeysetKey → Except Status (List JsonStruct)
  | [] => .ok []
  | key :: keys =>
    if key.status ≠ .enabled then keyStructs keys
    else
      match keyToKeyStruct types key with
      | .error e => .error e
      | .ok keyStruct => (keyStructs keys).map (keyStruct :: ·)

/-- The JWK set of some keys. -/
def jwkSetOf (keys : List JsonStruct) : JsonStruct :=
  JsonStruct.set (ascii "keys") (.list (keys.map fun key => .struct key.fields)) {}

def jwkSetFromPublicKeysetHandle (handle : KeysetHandle (HandleKey K)) : Except Status Bytes :=
  match handle.writeNoSecret with
  | .error e => .error e
  | .ok keyset =>
    match keyStructs types keyset.key with
    | .error e => .error e
    | .ok keys => types.libraries.printStruct (jwkSetOf keys)

end

end Tink
