import Mathlib.Algebra.Group.Basic
import Mathlib.Algebra.Group.Fin.Basic
import TinkCc.EcdsaKeys
/-!
# EcPoints — points of elliptic curves, as bytes

`EcPointEncode`, `EcPointDecode`, `EcPointEncodingSizeInBytes`, `NewEcKey` and the shared secrets of `internal/ec_util.cc`,
with the enumerations of `subtle/common_enums.cc`.  In each format a point has one encoding, and nothing else is decoded
(`ecPointDecode_iff`); two sides that multiply each other's points get one secret (`computeEcdhSharedSecret_comm`).
-/
namespace Tink

open BigEndian (value encode)

/-! ## Enumerations -/

namespace Subtle

/-- `subtle::EllipticCurveType`. -/
inductive EllipticCurveType
  | unknownCurve
  | nistP256
  | nistP384
  | nistP521
  | curve25519
  deriving DecidableEq, Repr

/-- `subtle::EcPointFormat`. -/
inductive EcPointFormat
  | unknownFormat
  | uncompressed
  | compressed
  | doNotUseCrunchyUncompressed
  deriving DecidableEq, Repr

def EllipticCurveType.enumToString : EllipticCurveType → String
  | .nistP256 => "NIST_P256"
  | .nistP384 => "NIST_P384"
  | .nistP521 => "NIST_P521"
  | .curve25519 => "CURVE25519"
  | .unknownCurve => "UNKNOWN_CURVE"

def EcPointFormat.enumToString : EcPointFormat → String
  | .uncompressed => "UNCOMPRESSED"
  | .compressed => "COMPRESSED"
  | .doNotUseCrunchyUncompressed => "DO_NOT_USE_CRUNCHY_UNCOMPRESSED"
  | .unknownFormat => "UNKNOWN_FORMAT"

end Subtle

/-- `Enums::ProtoToSubtle`. -/
def EllipticCurveTypeProto.protoToSubtle : EllipticCurveTypeProto → Subtle.EllipticCurveType
  | .nistP256 => .nistP256
  | .nistP384 => .nistP384
  | .nistP521 => .nistP521
  | .curve25519 => .curve25519
  | _ => .unknownCurve

/-- `EcGroupFromCurveType`, the curve of the group. -/
def ecGroupFromCurveType : Subtle.EllipticCurveType → Except Status EllipticCurveType
  | .nistP256 => .ok .nistP256
  | .nistP384 => .ok .nistP384
  | .nistP521 => .ok .nistP521
  | _ => .error ⟨.unimplemented, "Unsupported elliptic curve"⟩

/-- `EcPointEncodingSizeInBytes`. -/
def ecPointEncodingSizeInBytes (curveType : Subtle.EllipticCurveType) (pointFormat : Subtle.EcPointFormat) :
    Except Status Nat :=
  if curveType = .curve25519 then .ok 32
  else
    match ecGroupFromCurveType curveType with
    | .error e => .error e
    | .ok curve =>
      let coordinateSize := ecFieldSizeInBytes curve
      if coordinateSize = 0 then
        let name := curveType.enumToString
        .error ⟨.invalidArgument, s!"Unsupported elliptic curve type: {name}"⟩
      else
        match pointFormat with
        | .uncompressed => .ok (2 * coordinateSize + 1)
        | .compressed => .ok (coordinateSize + 1)
        | .doNotUseCrunchyUncompressed => .ok (2 * coordinateSize)
        | .unknownFormat =>
          let name := pointFormat.enumToString
          .error ⟨.invalidArgument, s!"Unsupported elliptic curve point format: {name}"⟩

/-! ## Groups -/

/-- `BN_bin2bn`.  It may refuse a long string, as BoringSSL does; from 2^31 bytes on, more than the `int` of OpenSSL holds,
it may return anything. -/
structure SslBignums where
  bin2bn        : Bytes → Option Nat
  bin2bn_value  : ∀ {bytes n}, bytes.length < 2 ^ 31 → bin2bn bytes = some n → n = value bytes
  bin2bn_isSome : ∀ {bytes}, bytes.length ≤ 2 ^ 16 → (bin2bn bytes).isSome

/-- The X9.62 encoding of two coordinates: the form, then x, and y unless the form has its parity. -/
def x962Octets (fieldSize : Nat) (compressed : Bool) (x y : Nat) : Bytes :=
  if compressed then (if y % 2 = 1 then 3 else 2) :: encode fieldSize x
  else 4 :: (encode fieldSize x ++ encode fieldSize y)

/-- An `EC_GROUP` and its points, infinity being zero.  `coordinates` is `EC_POINT_get_affine_coordinates_GFp`, `point` is
`EC_POINT_set_affine_coordinates_GFp`, and `pointMul` is `EC_POINT_mul` of a point and a number, which may be null.  The laws
are those of BoringSSL and of OpenSSL.  These differ at infinity, which has no encoding or is one zero byte, and on
coordinates from the modulus on, which are refused or reduced. -/
structure EcGroup (fieldSize : Nat) extends SslBignums where
  Point                 : Type
  [addCommGroup         : AddCommGroup Point]
  generator             : Point
  modulus               : Nat
  coordinates           : Point → Option (Nat × Nat)
  point                 : (x y : Nat) → Option Point
  point2oct             : (compressed : Bool) → Point → Option Bytes
  oct2point             : Bytes → Option Point
  pointMul              : Option Nat → Point → Option Point
  modulus_le            : modulus ≤ 256 ^ fieldSize
  coordinates_eq_none   : ∀ {P}, coordinates P = none ↔ P = 0
  coordinates_lt        : ∀ {P x y}, coordinates P = some (x, y) → x < modulus ∧ y < modulus
  point_coordinates     : ∀ {P x y}, coordinates P = some (x, y) → point x y = some P
  coordinates_point     : ∀ {P x y}, point x y = some P → coordinates P = some (x % modulus, y % modulus)
  point2oct_coordinates : ∀ {P x y}, coordinates P = some (x, y) → ∀ compressed,
    point2oct compressed P = some (x962Octets fieldSize compressed x y)
  point2oct_zero        : ∀ {compressed encoded}, point2oct compressed 0 = some encoded → encoded = [0]
  oct2point_x962Octets  : ∀ {P x y}, coordinates P = some (x, y) → ∀ compressed,
    oct2point (x962Octets fieldSize compressed x y) = some P
  oct2point_eq_some     : ∀ {P form rest}, oct2point (form :: rest) = some P → form = 4 ∨ form = 2 ∨ form = 3 →
    ∃ compressed x y, coordinates P = some (x, y) ∧ form :: rest = x962Octets fieldSize compressed x y
  pointMul_some         : ∀ n P, pointMul (some n) P = some (n • P)

attribute [instance] EcGroup.addCommGroup

/-- The groups of the library. -/
abbrev SslEcGroups := (curve : EllipticCurveType) → EcGroup (ecFieldSizeInBytes curve)

/-- `BignumToBinaryPadded`. -/
def bignumToBinaryPadded (bignum length : Nat) : Except Status Bytes :=
  if bignum < 256 ^ length then .ok (encode length bignum)
  else .error ⟨.internal, "Value too large to fit into the given buffer"⟩

theorem bignumToBinaryPadded_of_lt {bignum length : Nat} (h : bignum < 256 ^ length) :
    bignumToBinaryPadded bignum length = .ok (encode length bignum) :=
  if_pos h

theorem bignumToBinaryPadded_ok {bignum length : Nat} {bytes : Bytes} (h : bignumToBinaryPadded bignum length = .ok bytes) :
    bytes.length = length ∧ value bytes = bignum := by
  unfold bignumToBinaryPadded at h
  split at h
  · rename_i hlt
    cases h
    exact ⟨BigEndian.encode_length _ _, BigEndian.value_encode hlt⟩
  · cases h

/-- What a function of the library returned, or the status for its failure. -/
def sslResult {α : Type} (message : String) : Option α → Except Status α
  | none => .error ⟨.internal, message⟩
  | some result => .ok result

theorem sslResult_eq_ok {α : Type} {message : String} {found : Option α} {result : α} :
    sslResult message found = .ok result ↔ found = some result := by
  cases found with
  | none => exact ⟨(nomatch ·), (nomatch ·)⟩
  | some result' => exact ⟨fun h => congrArg some (Except.ok.inj h), fun h => congrArg Except.ok (Option.some.inj h)⟩

/-- `StringToBignum` and `SecretDataToBignum`. -/
def SslBignums.stringToBignum (bignums : SslBignums) (bigendianBnStr : Bytes) : Except Status Nat :=
  sslResult "BIGNUM allocation failed" (bignums.bin2bn bigendianBnStr)

/-- A short string is read as the number that it is. -/
theorem SslBignums.bin2bn_of_length (bignums : SslBignums) {bytes : Bytes} (h : bytes.length ≤ 2 ^ 16) :
    bignums.bin2bn bytes = some (value bytes) := by
  obtain ⟨n, hn⟩ := Option.isSome_iff_exists.1 (bignums.bin2bn_isSome h)
  rw [hn, bignums.bin2bn_value (by omega) hn]

theorem SslBignums.stringToBignum_of_length (bignums : SslBignums) {bytes : Bytes} (h : bytes.length ≤ 2 ^ 16) :
    bignums.stringToBignum bytes = .ok (value bytes) :=
  sslResult_eq_ok.2 (bignums.bin2bn_of_length h)

namespace EcGroup
variable {fieldSize : Nat} (group : EcGroup fieldSize)

/-- `SslGetEcPointCoordinates`. -/
def getCoordinates (P : group.Point) : Except Status (Nat × Nat) :=
  sslResult "EC_POINT_get_affine_coordinates_GFp failed" (group.coordinates P)

/-- `SslGetEcPointFromCoordinates`. -/
def fromCoordinates (pubx puby : Bytes) : Except Status group.Point := do
  let x ← group.stringToBignum pubx
  let y ← group.stringToBignum puby
  sslResult "EC_POINT_set_affine_coordinates_GFp failed" (group.point x y)

/-- `SslEcPointEncode`. -/
def sslEcPointEncode (compressed : Bool) (P : group.Point) : Except Status Bytes :=
  sslResult "EC_POINT_point2oct failed" (group.point2oct compressed P)

/-- The coordinates, one after the other, as `EcPointEncode` writes them. -/
def crunchyEncode (P : group.Point) : Except Status Bytes := do
  let (x, y) ← group.getCoordinates P
  let encodedX ← (bignumToBinaryPadded x fieldSize).mapError fun e =>
    ⟨.internal, e.message ++ " serializing the x coordinate"⟩
  let encodedY ← (bignumToBinaryPadded y fieldSize).mapError fun e =>
    ⟨.internal, e.message ++ " serializing the y coordinate"⟩
  return encodedX ++ encodedY

end EcGroup

section
variable (groups : SslEcGroups)

/-- `EcPointEncode`, of a point of the curve's group. -/
def ecPointEncode (curve : EllipticCurveType) (format : Subtle.EcPointFormat) (P : (groups curve).Point) :
    Except Status Bytes :=
  match format with
  | .uncompressed => (groups curve).sslEcPointEncode false P
  | .compressed => (groups curve).sslEcPointEncode true P
  | .doNotUseCrunchyUncompressed => (groups curve).crunchyEncode P
  | .unknownFormat => .error ⟨.internal, "Unsupported point format"⟩

/-- The curve, as the enumeration has it. -/
def EllipticCurveType.toSubtle : EllipticCurveType → Subtle.EllipticCurveType
  | .nistP256 => .nistP256
  | .nistP384 => .nistP384
  | .nistP521 => .nistP521

/-- `SslGetEcPointFromEncoded`. -/
def sslGetEcPointFromEncoded (curve : EllipticCurveType) (format : Subtle.EcPointFormat) (encoded : Bytes) :
    Except Status (groups curve).Point :=
  if format ≠ .uncompressed ∧ format ≠ .compressed then
    let name := format.enumToString
    .error ⟨.invalidArgument, s!"Invalid format {name}"⟩
  else
    match ecPointEncodingSizeInBytes curve.toSubtle format with
    | .error e => .error e
    | .ok encodingSize =>
      let size := encoded.length
      if size ≠ encodingSize then
        .error ⟨.internal, s!"Encoded point's size is {size} bytes; expected {encodingSize}"⟩
      else if format = .uncompressed ∧ encoded.head? ≠ some 4 then
        .error ⟨.internal, "Uncompressed point should start with 0x04, but input doesn't"⟩
      else if format = .compressed ∧ encoded.head? ≠ some 3 ∧ encoded.head? ≠ some 2 then
        .error ⟨.internal, "Compressed point should start with either 0x02 or 0x03, but input doesn't"⟩
      else
        sslResult "EC_POINT_toc2point failed" ((groups curve).oct2point encoded)

/-- `EcPointDecode`. -/
def ecPointDecode (curve : EllipticCurveType) (format : Subtle.EcPointFormat) (encoded : Bytes) :
    Except Status (groups curve).Point :=
  match format with
  | .uncompressed | .compressed => sslGetEcPointFromEncoded groups curve format encoded
  | .doNotUseCrunchyUncompressed =>
    let size := encoded.length
    let curveSizeInBytes := ecFieldSizeInBytes curve
    let expected := 2 * curveSizeInBytes
    if size ≠ expected then .error ⟨.internal, s!"Encoded point's size is {size} bytes; expected {expected}"⟩
    else (groups curve).fromCoordinates (encoded.take curveSizeInBytes) (encoded.drop curveSizeInBytes)
  | .unknownFormat => .error ⟨.internal, "Unsupported format"⟩

/-- `NewEcKey`, with the number that `EC_KEY_generate_key` drew. -/
def newSslEcKey (curve : EllipticCurveType) (privKey : Nat) : Except Status EcKey := do
  let (x, y) ← (groups curve).getCoordinates (privKey • (groups curve).generator)
  let pubX ← bignumToBinaryPadded x (ecFieldSizeInBytes curve)
  let pubY ← bignumToBinaryPadded y (ecFieldSizeInBytes curve)
  -- the order of each group is as long as its field
  let priv ← bignumToBinaryPadded privKey (ecFieldSizeInBytes curve)
  return ⟨pubX, pubY, priv⟩

/-- `ComputeEcdhSharedSecret`. -/
def computeEcdhSharedSecret (curve : EllipticCurveType) (privKey : Option Nat) (pubKey : (groups curve).Point) :
    Except Status Bytes := do
  let sharedPoint ← sslResult "Point multiplication failed" ((groups curve).pointMul privKey pubKey)
  let (x, _) ← (groups curve).getCoordinates sharedPoint
  bignumToBinaryPadded x (ecFieldSizeInBytes curve)

end

/-! ## Encodings -/

theorem encode_value_length {bytes : Bytes} {size : Nat} (h : bytes.length = size) : encode size (value bytes) = bytes :=
  h ▸ BigEndian.encode_value bytes

theorem ecFieldSizeInBytes_ne_zero (curve : EllipticCurveType) : ecFieldSizeInBytes curve ≠ 0 := by
  cases curve <;> decide

theorem ecFieldSizeInBytes_le (curve : EllipticCurveType) : ecFieldSizeInBytes curve ≤ 2 ^ 16 := by
  cases curve <;> decide

theorem x962Octets_length (fieldSize : Nat) (compressed : Bool) (x y : Nat) :
    (x962Octets fieldSize compressed x y).length = if compressed then fieldSize + 1 else 2 * fieldSize + 1 := by
  have hlenX := BigEndian.encode_length fieldSize x
  have hlenY := BigEndian.encode_length fieldSize y
  cases compressed with
  | false =>
    unfold x962Octets
    rw [if_neg Bool.false_ne_true, if_neg Bool.false_ne_true, List.length_cons, List.length_append, hlenX, hlenY]
    omega
  | true =>
    unfold x962Octets
    rw [if_pos rfl, if_pos rfl, List.length_cons, hlenX]

/-- The first byte names the form. -/
theorem x962Octets_head (fieldSize : Nat) (compressed : Bool) (x y : Nat) :
    if compressed then (x962Octets fieldSize compressed x y).head? = some 3 ∨
        (x962Octets fieldSize compressed x y).head? = some 2
    else (x962Octets fieldSize compressed x y).head? = some 4 := by
  cases compressed with
  | false => exact rfl
  | true =>
    rw [if_pos rfl]
    unfold x962Octets
    by_cases hodd : y % 2 = 1
    · exact .inl (by simp [hodd])
    · exact .inr (by simp [hodd])

theorem x962Octets_forms (fieldSize : Nat) (compressed : Bool) (x y : Nat) :
    x962Octets fieldSize compressed x y = x962Octets fieldSize false x y ∨
      x962Octets fieldSize compressed x y = x962Octets fieldSize true x y := by
  cases compressed with
  | false => exact .inl rfl
  | true => exact .inr rfl

/-- Two y of different parities have different encodings. -/
theorem x962Octets_ne {fieldSize y y' : Nat} (hodd : y % 2 = 1) (heven : y' % 2 = 0) (hy : y < 256 ^ fieldSize)
    (hy' : y' < 256 ^ fieldSize) (compressed compressed' : Bool) (x : Nat) :
    x962Octets fieldSize compressed x y ≠ x962Octets fieldSize compressed' x y' := by
  have heven' : ¬ y' % 2 = 1 := by omega
  intro h
  cases compressed with
  | false =>
    cases compressed' with
    | false =>
      have hencode : encode fieldSize y = encode fieldSize y' := List.append_cancel_left (List.cons.inj h).2
      have hvalue := congrArg value hencode
      rw [BigEndian.value_encode hy, BigEndian.value_encode hy'] at hvalue
      omega
    | true => simp [x962Octets, heven'] at h
  | true =>
    cases compressed' with
    | false => simp [x962Octets, hodd] at h
    | true => simp [x962Octets, hodd, heven'] at h

namespace EcGroup
variable {fieldSize : Nat} {group : EcGroup fieldSize}

/-- A point that is not infinity has coordinates, of the field's size. -/
theorem exists_coordinates {P : group.Point} (h : P ≠ 0) :
    ∃ x y, group.coordinates P = some (x, y) ∧ x < 256 ^ fieldSize ∧ y < 256 ^ fieldSize := by
  rcases hcoordinates : group.coordinates P with _ | ⟨x, y⟩
  · exact absurd (group.coordinates_eq_none.1 hcoordinates) h
  · obtain ⟨hx, hy⟩ := group.coordinates_lt hcoordinates
    exact ⟨x, y, rfl, Nat.lt_of_lt_of_le hx group.modulus_le, Nat.lt_of_lt_of_le hy group.modulus_le⟩

theorem ne_zero {P : group.Point} {x y : Nat} (h : group.coordinates P = some (x, y)) : P ≠ 0 := by
  intro hP
  rw [group.coordinates_eq_none.2 hP] at h
  cases h

/-- The string of a form's first byte that is read as a point is the encoding of its coordinates in that form. -/
theorem oct2point_ok {encoded : Bytes} {P : group.Point} (h : group.oct2point encoded = some P) {compressed : Bool}
    (hhead : if compressed then encoded.head? = some 3 ∨ encoded.head? = some 2 else encoded.head? = some 4) :
    ∃ x y, group.coordinates P = some (x, y) ∧ encoded = x962Octets fieldSize compressed x y := by
  cases encoded with
  | nil => cases compressed <;> simp at hhead
  | cons form rest =>
    have hform : form = 4 ∨ form = 2 ∨ form = 3 := by
      cases compressed with
      | false => exact .inl (Option.some.inj hhead)
      | true =>
        rcases hhead with hhead | hhead
        · exact .inr (.inr (Option.some.inj hhead))
        · exact .inr (.inl (Option.some.inj hhead))
    obtain ⟨compressed', x, y, hcoordinates, hencoded⟩ := group.oct2point_eq_some h hform
    refine ⟨x, y, hcoordinates, ?_⟩
    have hhead' := x962Octets_head fieldSize compressed' x y
    rw [← hencoded] at hhead'
    rw [hencoded]
    cases compressed <;> cases compressed' <;> simp_all

theorem fromCoordinates_of_length {pubx puby : Bytes} (hx : pubx.length ≤ 2 ^ 16) (hy : puby.length ≤ 2 ^ 16) :
    group.fromCoordinates pubx puby =
      sslResult "EC_POINT_set_affine_coordinates_GFp failed" (group.point (value pubx) (value puby)) := by
  unfold fromCoordinates
  rw [group.stringToBignum_of_length hx, group.stringToBignum_of_length hy]
  rfl

theorem crunchyEncode_of {P : group.Point} {x y : Nat} (h : group.coordinates P = some (x, y)) :
    group.crunchyEncode P = .ok (encode fieldSize x ++ encode fieldSize y) := by
  obtain ⟨hx, hy⟩ := group.coordinates_lt h
  unfold crunchyEncode getCoordinates
  rw [h]
  dsimp only [sslResult, bind, Except.bind]
  rw [bignumToBinaryPadded_of_lt (Nat.lt_of_lt_of_le hx group.modulus_le),
    bignumToBinaryPadded_of_lt (Nat.lt_of_lt_of_le hy group.modulus_le)]
  rfl

theorem crunchyEncode_ok {P : group.Point} {encoded : Bytes} (h : group.crunchyEncode P = .ok encoded) :
    ∃ x y, group.coordinates P = some (x, y) ∧ encoded = encode fieldSize x ++ encode fieldSize y := by
  obtain ⟨⟨x, y⟩, hcoordinates, -⟩ := bind_eq_ok h
  have hcoordinates := sslResult_eq_ok.1 hcoordinates
  rw [crunchyEncode_of hcoordinates] at h
  exact ⟨x, y, hcoordinates, (Except.ok.inj h).symm⟩

end EcGroup

theorem ecGroupFromCurveType_toSubtle (curve : EllipticCurveType) : ecGroupFromCurveType curve.toSubtle = .ok curve := by
  cases curve <;> rfl

theorem ecGroupFromCurveType_ok {curveType : Subtle.EllipticCurveType} {curve : EllipticCurveType}
    (h : ecGroupFromCurveType curveType = .ok curve) : curveType = curve.toSubtle := by
  cases curveType <;> cases h <;> rfl

/-- The size of the encodings of a curve's points. -/
theorem ecPointEncodingSizeInBytes_toSubtle (curve : EllipticCurveType) (format : Subtle.EcPointFormat) :
    ecPointEncodingSizeInBytes curve.toSubtle format =
      match format with
      | .uncompressed => .ok (2 * ecFieldSizeInBytes curve + 1)
      | .compressed => .ok (ecFieldSizeInBytes curve + 1)
      | .doNotUseCrunchyUncompressed => .ok (2 * ecFieldSizeInBytes curve)
      | .unknownFormat => .error ⟨.invalidArgument, "Unsupported elliptic curve point format: UNKNOWN_FORMAT"⟩ := by
  cases curve <;> cases format <;> rfl

section
variable {groups : SslEcGroups} {curve : EllipticCurveType}

/-- `EcPointEncode` in a form of X9.62. -/
theorem ecPointEncode_x962 (compressed : Bool) (P : (groups curve).Point) :
    ecPointEncode groups curve (if compressed then .compressed else .uncompressed) P =
      (groups curve).sslEcPointEncode compressed P := by
  cases compressed <;> rfl

/-- `EcPointDecode` in a form of X9.62: the size and the first byte are checked before OpenSSL is asked. -/
theorem ecPointDecode_x962_ok_iff (compressed : Bool) {encoded : Bytes} {P : (groups curve).Point} :
    ecPointDecode groups curve (if compressed then .compressed else .uncompressed) encoded = .ok P ↔
      encoded.length = (if compressed then ecFieldSizeInBytes curve + 1 else 2 * ecFieldSizeInBytes curve + 1) ∧
        (if compressed then encoded.head? = some 3 ∨ encoded.head? = some 2 else encoded.head? = some 4) ∧
        (groups curve).oct2point encoded = some P := by
  cases compressed with
  | false =>
    simp only [Bool.false_eq_true, if_false]
    unfold ecPointDecode sslGetEcPointFromEncoded
    rw [ecPointEncodingSizeInBytes_toSubtle]
    by_cases hlen : encoded.length = 2 * ecFieldSizeInBytes curve + 1
    · by_cases hhead : encoded.head? = some 4
      · simp [hlen, hhead, sslResult_eq_ok]
      · simp [hlen, hhead]
    · simp [hlen]
  | true =>
    simp only [if_true]
    unfold ecPointDecode sslGetEcPointFromEncoded
    rw [ecPointEncodingSizeInBytes_toSubtle]
    by_cases hlen : encoded.length = ecFieldSizeInBytes curve + 1
    · by_cases hhead : encoded.head? = some 3 ∨ encoded.head? = some 2
      · rcases hhead with hhead | hhead <;> simp [hlen, hhead, sslResult_eq_ok]
      · obtain ⟨hthree, htwo⟩ := not_or.1 hhead
        simp [hlen, hthree, htwo]
    · simp [hlen]

/-- In a form of X9.62 the only string that is read as a point is the one that is written for it. -/
theorem ecPointDecode_x962 (compressed : Bool) {encoded : Bytes} {P : (groups curve).Point} :
    ecPointDecode groups curve (if compressed then .compressed else .uncompressed) encoded = .ok P ↔
      P ≠ 0 ∧ ecPointEncode groups curve (if compressed then .compressed else .uncompressed) P = .ok encoded := by
  rw [ecPointDecode_x962_ok_iff, ecPointEncode_x962]
  constructor
  · rintro ⟨-, hhead, hpoint⟩
    obtain ⟨x, y, hcoordinates, rfl⟩ := EcGroup.oct2point_ok hpoint hhead
    exact ⟨EcGroup.ne_zero hcoordinates, sslResult_eq_ok.2 ((groups curve).point2oct_coordinates hcoordinates compressed)⟩
  · rintro ⟨hP, hencode⟩
    obtain ⟨x, y, hcoordinates, -, -⟩ := EcGroup.exists_coordinates hP
    have hencode := sslResult_eq_ok.1 hencode
    rw [(groups curve).point2oct_coordinates hcoordinates compressed] at hencode
    cases hencode
    exact ⟨x962Octets_length _ _ _ _, x962Octets_head _ _ _ _,
      (groups curve).oct2point_x962Octets hcoordinates compressed⟩

/-- The coordinates of the other format, one after the other. -/
theorem ecPointDecode_crunchy_ok_iff {encoded : Bytes} {P : (groups curve).Point} :
    ecPointDecode groups curve .doNotUseCrunchyUncompressed encoded = .ok P ↔
      encoded.length = 2 * ecFieldSizeInBytes curve ∧
        (groups curve).point (value (encoded.take (ecFieldSizeInBytes curve)))
          (value (encoded.drop (ecFieldSizeInBytes curve))) = some P := by
  have hsize := ecFieldSizeInBytes_le curve
  unfold ecPointDecode
  dsimp only
  by_cases hlen : encoded.length = 2 * ecFieldSizeInBytes curve
  · have htake : (encoded.take (ecFieldSizeInBytes curve)).length ≤ 2 ^ 16 := by
      rw [List.length_take]
      omega
    have hdrop : (encoded.drop (ecFieldSizeInBytes curve)).length ≤ 2 ^ 16 := by
      rw [List.length_drop]
      omega
    rw [if_neg (not_not_intro hlen), EcGroup.fromCoordinates_of_length htake hdrop, sslResult_eq_ok]
    exact ⟨fun h => ⟨hlen, h⟩, fun h => h.2⟩
  · rw [if_pos hlen]
    exact ⟨(nomatch ·), fun h => absurd h.1 hlen⟩

/-- In the other format the string that is written for a point is the one with coordinates below the modulus. -/
theorem ecPointEncode_crunchy {encoded : Bytes} {P : (groups curve).Point} :
    ecPointEncode groups curve .doNotUseCrunchyUncompressed P = .ok encoded ↔
      ecPointDecode groups curve .doNotUseCrunchyUncompressed encoded = .ok P ∧
        value (encoded.take (ecFieldSizeInBytes curve)) < (groups curve).modulus ∧
        value (encoded.drop (ecFieldSizeInBytes curve)) < (groups curve).modulus := by
  rw [ecPointDecode_crunchy_ok_iff]
  constructor
  · intro h
    obtain ⟨x, y, hcoordinates, rfl⟩ := EcGroup.crunchyEncode_ok h
    obtain ⟨hx, hy⟩ := (groups curve).coordinates_lt hcoordinates
    have hmodulus := (groups curve).modulus_le
    have hlenX := BigEndian.encode_length (ecFieldSizeInBytes curve) x
    have hlenY := BigEndian.encode_length (ecFieldSizeInBytes curve) y
    rw [List.take_left' hlenX, List.drop_left' hlenX, BigEndian.value_encode (Nat.lt_of_lt_of_le hx hmodulus),
      BigEndian.value_encode (Nat.lt_of_lt_of_le hy hmodulus), List.length_append, hlenX, hlenY]
    exact ⟨⟨by omega, (groups curve).point_coordinates hcoordinates⟩, hx, hy⟩
  · rintro ⟨⟨hlen, hpoint⟩, hx, hy⟩
    have hcoordinates := (groups curve).coordinates_point hpoint
    rw [Nat.mod_eq_of_lt hx, Nat.mod_eq_of_lt hy] at hcoordinates
    have htake : (encoded.take (ecFieldSizeInBytes curve)).length = ecFieldSizeInBytes curve := by
      rw [List.length_take]
      omega
    have hdrop : (encoded.drop (ecFieldSizeInBytes curve)).length = ecFieldSizeInBytes curve := by
      rw [List.length_drop]
      omega
    refine (EcGroup.crunchyEncode_of hcoordinates).trans (congrArg Except.ok ?_)
    rw [encode_value_length htake, encode_value_length hdrop, List.take_append_drop]

/-- What is decoded is not infinity, and has the size of its format. -/
theorem ecPointDecode_size {format : Subtle.EcPointFormat} {P : (groups curve).Point} {encoded : Bytes}
    (h : ecPointDecode groups curve format encoded = .ok P) :
    P ≠ 0 ∧ ecPointEncodingSizeInBytes curve.toSubtle format = .ok encoded.length := by
  rw [ecPointEncodingSizeInBytes_toSubtle]
  cases format with
  | unknownFormat => cases h
  | uncompressed =>
    have hlen := (ecPointDecode_x962_ok_iff false).1 h
    exact ⟨((ecPointDecode_x962 false).1 h).1, congrArg Except.ok hlen.1.symm⟩
  | compressed =>
    have hlen := (ecPointDecode_x962_ok_iff true).1 h
    exact ⟨((ecPointDecode_x962 true).1 h).1, congrArg Except.ok hlen.1.symm⟩
  | doNotUseCrunchyUncompressed =>
    obtain ⟨hlen, hpoint⟩ := ecPointDecode_crunchy_ok_iff.1 h
    exact ⟨EcGroup.ne_zero ((groups curve).coordinates_point hpoint), congrArg Except.ok hlen.symm⟩

/-- The encoding of a point that is not infinity is decoded to it. -/
theorem ecPointDecode_encode {format : Subtle.EcPointFormat} {P : (groups curve).Point} {encoded : Bytes} (hP : P ≠ 0)
    (h : ecPointEncode groups curve format P = .ok encoded) :
    ecPointEncodingSizeInBytes curve.toSubtle format = .ok encoded.length ∧
      ecPointDecode groups curve format encoded = .ok P := by
  have hdecode : ecPointDecode groups curve format encoded = .ok P := by
    cases format with
    | unknownFormat => cases h
    | uncompressed => exact (ecPointDecode_x962 false).2 ⟨hP, h⟩
    | compressed => exact (ecPointDecode_x962 true).2 ⟨hP, h⟩
    | doNotUseCrunchyUncompressed => exact (ecPointEncode_crunchy.1 h).1
  exact ⟨(ecPointDecode_size hdecode).2, hdecode⟩

theorem ecPointEncode_of {format : Subtle.EcPointFormat} (hformat : format ≠ .unknownFormat) {P : (groups curve).Point}
    (hP : P ≠ 0) : ∃ encoded, ecPointEncode groups curve format P = .ok encoded := by
  obtain ⟨x, y, hcoordinates, -, -⟩ := EcGroup.exists_coordinates hP
  have hx962 : ∀ compressed, ∃ encoded, (groups curve).sslEcPointEncode compressed P = .ok encoded := fun compressed =>
    ⟨_, sslResult_eq_ok.2 ((groups curve).point2oct_coordinates hcoordinates compressed)⟩
  cases format with
  | unknownFormat => exact absurd rfl hformat
  | uncompressed => exact hx962 false
  | compressed => exact hx962 true
  | doNotUseCrunchyUncompressed => exact ⟨_, EcGroup.crunchyEncode_of hcoordinates⟩

theorem ecPointEncode_zero {format : Subtle.EcPointFormat} {encoded : Bytes}
    (h : ecPointEncode groups curve format 0 = .ok encoded) : encoded = [0] := by
  cases format with
  | unknownFormat => cases h
  | uncompressed => exact (groups curve).point2oct_zero (sslResult_eq_ok.1 h)
  | compressed => exact (groups curve).point2oct_zero (sslResult_eq_ok.1 h)
  | doNotUseCrunchyUncompressed =>
    obtain ⟨x, y, hcoordinates, -⟩ := EcGroup.crunchyEncode_ok h
    exact absurd rfl (EcGroup.ne_zero hcoordinates)

end

/-- **Points have one encoding.**  A point that is not infinity is encoded in every named format, and the encoding is the
one string that is decoded to the point and, where it is two numbers, has them below the modulus of the field.  What is
decoded has the size of the format and is not infinity; infinity has no encoding, or a zero byte. -/
theorem ecPointDecode_iff (groups : SslEcGroups) (curve : EllipticCurveType) (format : Subtle.EcPointFormat) :
    (∀ P : (groups curve).Point, P ≠ 0 →
      (format ≠ .unknownFormat → ∃ encoded, ecPointEncode groups curve format P = .ok encoded) ∧
      ∀ encoded, ecPointEncode groups curve format P = .ok encoded ↔
        ecPointDecode groups curve format encoded = .ok P ∧
          (format = .doNotUseCrunchyUncompressed →
            value (encoded.take (ecFieldSizeInBytes curve)) < (groups curve).modulus ∧
            value (encoded.drop (ecFieldSizeInBytes curve)) < (groups curve).modulus)) ∧
    (∀ encoded P, ecPointDecode groups curve format encoded = .ok P →
      P ≠ 0 ∧ ecPointEncodingSizeInBytes curve.toSubtle format = .ok encoded.length) ∧
    ∀ encoded, ecPointEncode groups curve format 0 = .ok encoded → encoded = [0] := by
  refine ⟨fun P hP => ⟨fun hformat => ecPointEncode_of hformat hP, fun encoded => ?_⟩,
    fun _ _ => ecPointDecode_size, fun _ => ecPointEncode_zero⟩
  constructor
  · intro h
    refine ⟨(ecPointDecode_encode hP h).2, fun hcrunchy => ?_⟩
    subst hcrunchy
    exact (ecPointEncode_crunchy.1 h).2
  · rintro ⟨h, hmodulus⟩
    cases format with
    | unknownFormat => cases h
    | uncompressed => exact ((ecPointDecode_x962 false).1 h).2
    | compressed => exact ((ecPointDecode_x962 true).1 h).2
    | doNotUseCrunchyUncompressed => exact ecPointEncode_crunchy.2 ⟨h, hmodulus rfl⟩

section Example

/-- P-256: the modulus, the coordinates of the generator, and the y of its opposite. -/
def p256Modulus : Nat := 0xffffffff00000001000000000000000000000000ffffffffffffffffffffffff
def p256X : Nat := 0x6b17d1f2e12c4247f8bce6e563a440f277037d812deb33a0f4a13945d898c296
def p256Y : Nat := 0x4fe342e2fe1a7f9b8ee7eb4a7c0f9e162bce33576b315ececbb6406837bf51f5
def p256NegY : Nat := 0xb01cbd1c01e58065711814b583f061e9d431cca994cea1313449bf97c840ae0a

theorem p256_lt : p256X < p256Modulus ∧ p256Y < p256Modulus ∧ p256NegY < p256Modulus := by decide

theorem three_points : ∀ P : Fin 3, P = 0 ∨ P = 1 ∨ P = 2 := by decide

theorem thirtyTwo_le (curve : EllipticCurveType) : 32 ≤ ecFieldSizeInBytes curve := by
  cases curve <;> decide

/-- BoringSSL reads 64 MiB less one word. -/
def boringBignums : SslBignums where
  bin2bn bytes := if bytes.length ≤ 67108856 then some (value bytes) else none
  bin2bn_value := by
    intro bytes n _ h
    split at h
    · exact (Option.some.inj h).symm
    · cases h
  bin2bn_isSome := by
    intro bytes h
    rw [if_pos (by omega)]
    rfl

/-- The y of the two points. -/
def p256YOf (P : Fin 3) : Nat := if P = 1 then p256Y else p256NegY

theorem p256YOf_lt (P : Fin 3) : p256YOf P < p256Modulus := by
  unfold p256YOf
  split
  · exact p256_lt.2.1
  · exact p256_lt.2.2

/-- A group of the three points: infinity, the generator and its opposite. -/
def generatorGroup {fieldSize : Nat} (h : 32 ≤ fieldSize) : EcGroup fieldSize where
  toSslBignums := boringBignums
  Point := Fin 3
  generator := 1
  modulus := p256Modulus
  coordinates P := if P = 0 then none else some (p256X, p256YOf P)
  point x y := if x = p256X ∧ y = p256Y then some 1 else if x = p256X ∧ y = p256NegY then some 2 else none
  point2oct compressed P := if P = 0 then none else some (x962Octets fieldSize compressed p256X (p256YOf P))
  oct2point encoded :=
    if encoded = x962Octets fieldSize false p256X p256Y ∨ encoded = x962Octets fieldSize true p256X p256Y then some 1
    else if encoded = x962Octets fieldSize false p256X p256NegY ∨ encoded = x962Octets fieldSize true p256X p256NegY then
      some 2
    else none
  pointMul n P := n.map (· • P)
  modulus_le := Nat.le_trans (by decide : p256Modulus ≤ 256 ^ 32) (Nat.pow_le_pow_right (by omega) h)
  coordinates_eq_none := by
    intro P
    rcases three_points P with rfl | rfl | rfl <;> simp
  coordinates_lt := by
    intro P x y hP
    split at hP
    · cases hP
    · cases hP
      exact ⟨p256_lt.1, p256YOf_lt P⟩
  point_coordinates := by
    intro P x y hP
    have hne : p256NegY ≠ p256Y := by decide
    rcases three_points P with rfl | rfl | rfl
    · cases hP
    · cases hP
      exact if_pos ⟨rfl, rfl⟩
    · cases hP
      exact (if_neg fun h => hne h.2).trans (if_pos ⟨rfl, rfl⟩)
  coordinates_point := by
    intro P x y hP
    obtain ⟨hx, hy, hnegY⟩ := p256_lt
    split at hP
    · rename_i heq
      cases hP
      rw [heq.1, heq.2, Nat.mod_eq_of_lt hx, Nat.mod_eq_of_lt hy]
      rfl
    · split at hP
      · rename_i heq
        cases hP
        rw [heq.1, heq.2, Nat.mod_eq_of_lt hx, Nat.mod_eq_of_lt hnegY]
        rfl
      · cases hP
  point2oct_coordinates := by
    intro P x y hP compressed
    split at hP
    · cases hP
    · rename_i hne
      cases hP
      exact if_neg hne
  point2oct_zero := by
    intro compressed encoded h
    cases h
  oct2point_x962Octets := by
    intro P x y hP compressed
    have hpow : p256Modulus ≤ 256 ^ fieldSize :=
      Nat.le_trans (by decide : p256Modulus ≤ 256 ^ 32) (Nat.pow_le_pow_right (by omega) h)
    have hne := fun compressed' => x962Octets_ne (by decide : p256Y % 2 = 1) (by decide : p256NegY % 2 = 0)
      (Nat.lt_of_lt_of_le p256_lt.2.1 hpow) (Nat.lt_of_lt_of_le p256_lt.2.2 hpow) compressed' compressed p256X
    rcases three_points P with rfl | rfl | rfl
    · cases hP
    · cases hP
      exact if_pos (x962Octets_forms _ _ _ _)
    · cases hP
      refine (if_neg ?_).trans (if_pos (x962Octets_forms _ _ _ _))
      rintro (heq | heq)
      · exact hne false heq.symm
      · exact hne true heq.symm
  oct2point_eq_some := by
    intro P form rest hP _
    split at hP
    · rename_i heq
      cases hP
      exact heq.elim (fun heq => ⟨false, _, _, rfl, heq⟩) (fun heq => ⟨true, _, _, rfl, heq⟩)
    · split at hP
      · rename_i heq
        cases hP
        exact heq.elim (fun heq => ⟨false, _, _, rfl, heq⟩) (fun heq => ⟨true, _, _, rfl, heq⟩)
      · cases hP
  pointMul_some := fun _ _ => rfl

def generatorGroups : SslEcGroups := fun curve => generatorGroup (thirtyTwo_le curve)

/-- The generator of P-256, compressed. -/
theorem ecPointDecode_generator : ∃ encoded,
    ecPointEncode generatorGroups .nistP256 .compressed (generatorGroups .nistP256).generator = .ok encoded ∧
      ecPointDecode generatorGroups .nistP256 .compressed encoded = .ok (generatorGroups .nistP256).generator ∧
      encoded.length = 33 := by
  obtain ⟨hpoint, hsize, -⟩ := ecPointDecode_iff generatorGroups .nistP256 .compressed
  have hgenerator : (generatorGroups .nistP256).generator ≠ 0 := by
    show (1 : Fin 3) ≠ 0
    decide
  obtain ⟨hencode, hiff⟩ := hpoint _ hgenerator
  obtain ⟨encoded, hencode⟩ := hencode nofun
  obtain ⟨hdecode, -⟩ := (hiff encoded).1 hencode
  exact ⟨encoded, hencode, hdecode, (Except.ok.inj (hsize encoded _ hdecode).2).symm⟩

end Example

/-! ## Shared secrets -/

/-- Two sides that multiply each other's points compute one secret. -/
theorem computeEcdhSharedSecret_comm (groups : SslEcGroups) (curve : EllipticCurveType) (a b : Nat)
    (P : (groups curve).Point) :
    computeEcdhSharedSecret groups curve (some a) (b • P) = computeEcdhSharedSecret groups curve (some b) (a • P) := by
  unfold computeEcdhSharedSecret
  rw [(groups curve).pointMul_some, (groups curve).pointMul_some, nsmul_left_comm]

/-- There is no secret with infinity. -/
theorem computeEcdhSharedSecret_zero {groups : SslEcGroups} {curve : EllipticCurveType} {n : Nat}
    {P : (groups curve).Point} {secret : Bytes} (h : computeEcdhSharedSecret groups curve (some n) P = .ok secret) :
    n • P ≠ 0 := by
  obtain ⟨sharedPoint, hmul, h⟩ := bind_eq_ok h
  obtain ⟨⟨x, y⟩, hcoordinates, -⟩ := bind_eq_ok h
  have hmul := sslResult_eq_ok.1 hmul
  rw [(groups curve).pointMul_some] at hmul
  cases hmul
  exact EcGroup.ne_zero (sslResult_eq_ok.1 hcoordinates)

/-- A new key is a pair: its coordinates are of the public point, and its number is the private one. -/
theorem newSslEcKey_ok {groups : SslEcGroups} {curve : EllipticCurveType} {privKey : Nat} {key : EcKey}
    (h : newSslEcKey groups curve privKey = .ok key) :
    (groups curve).fromCoordinates key.pubX key.pubY = .ok (privKey • (groups curve).generator) ∧
    value key.priv = privKey ∧
    key.pubX.length = ecFieldSizeInBytes curve ∧ key.pubY.length = ecFieldSizeInBytes curve ∧
    key.priv.length = ecFieldSizeInBytes curve := by
  obtain ⟨⟨x, y⟩, hcoordinates, h⟩ := bind_eq_ok h
  obtain ⟨pubX, hx, h⟩ := bind_eq_ok h
  obtain ⟨pubY, hy, h⟩ := bind_eq_ok h
  obtain ⟨priv, hpriv, h⟩ := bind_eq_ok h
  cases h
  obtain ⟨hlenX, hvalueX⟩ := bignumToBinaryPadded_ok hx
  obtain ⟨hlenY, hvalueY⟩ := bignumToBinaryPadded_ok hy
  obtain ⟨hlen, hvalue⟩ := bignumToBinaryPadded_ok hpriv
  have hsize := ecFieldSizeInBytes_le curve
  refine ⟨?_, hvalue, hlenX, hlenY, hlen⟩
  rw [EcGroup.fromCoordinates_of_length (hlenX.trans_le hsize) (hlenY.trans_le hsize), hvalueX, hvalueY, sslResult_eq_ok]
  exact (groups curve).point_coordinates (sslResult_eq_ok.1 hcoordinates)

end Tink
