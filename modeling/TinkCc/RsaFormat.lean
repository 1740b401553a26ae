import TinkCc.RsaKeys
/-!
# RsaFormat — RSA keys as they are stored

`rsa_ssa_pss_proto_serialization_impl.cc`, `rsa_ssa_pkcs1_proto_serialization_impl.cc`,
`jwt_rsa_ssa_pss_proto_serialization_impl.cc` and `jwt_rsa_ssa_pkcs1_proto_serialization_impl.cc`.  The first one takes
the size of the modulus from the bytes that are stored, the others from the number.
-/
namespace Tink

/-! ## What the four have in common -/

/-- What the four differ in: the texts, the order of two checks, the public key and its message. -/
structure RsaKeyFormat (P M : Type) where
  publicTypeUrl        : String
  privateTypeUrl       : String
  wrongPublicUrl       : String
  wrongPrivateUrl      : String
  publicFailure        : String
  privateFailure       : String
  publicVersion        : String
  privateVersion       : String
  privatePublicVersion : String
  checksTokenFirst     : Bool
  version              : M → UInt32
  toPublicKey          : M → OutputPrefixType → Option UInt32 → Except Status P
  toPublicKeyProto     : P → M
  modulus              : P → Nat
  publicExponent       : P → Nat
  modulusSizeInBits    : P → Int32
  outputPrefixType     : P → OutputPrefixType
  idRequirement        : P → Option UInt32

namespace RsaKeyFormat
variable {P M : Type} {named : M → Prop} (family : RsaKeyFormat P M) (lib : RsaLibrary) (publicCodec : MessageCodec M named)
  (privateCodec : MessageCodec (RsaPrivateKeyProto M) fun key => named key.publicKey)

/-- `Builder::Build` of a private key. -/
def buildPrivateKey (publicKey : P) (numbers : RsaPrivateNumbers) : Except Status (RsaPrivateKey P) := do
  -- ValidateKeyPair
  rsaPrivateKeyToRsaFixedSizeInputs lib (family.modulus publicKey) (family.publicExponent publicKey) numbers
  return ⟨publicKey, numbers⟩

/-- What `ParsePublicKey` does with the message. -/
def parsePublicKeyProto (key : M) (outputPrefixType : OutputPrefixType) (idRequirement : Option UInt32) :
    Except Status P := do
  checkVersion (family.version key) family.publicVersion
  family.toPublicKey key outputPrefixType idRequirement

/-- What `ParsePrivateKey` does with the message. -/
def parsePrivateKeyProto (key : RsaPrivateKeyProto M) (outputPrefixType : OutputPrefixType)
    (idRequirement : Option UInt32) : Except Status (RsaPrivateKey P) := do
  checkVersion key.version family.privateVersion
  checkVersion (family.version key.publicKey) family.privatePublicVersion
  let publicKey ← family.toPublicKey key.publicKey outputPrefixType idRequirement
  let numbers ← answered (parseRsaPrivateNumbers key.numbers (family.modulusSizeInBits publicKey))
  family.buildPrivateKey lib publicKey numbers

/-- `ParsePublicKey`. -/
def parsePublicKey (serialization : ProtoKeySerialization) (_token : Option SecretKeyAccessToken) : Except Status P := do
  checkTypeUrl family.publicTypeUrl family.wrongPublicUrl serialization
  let key ← parseMessage publicCodec family.publicFailure serialization.serializedKey
  family.parsePublicKeyProto key serialization.outputPrefixType serialization.idRequirement

/-- The type URL and the token, in the order of the parser. -/
def checkUrlAndToken (serialization : ProtoKeySerialization) (token : Option SecretKeyAccessToken) : Except Status Unit :=
  if family.checksTokenFirst then do
    checkToken token
    checkTypeUrl family.privateTypeUrl family.wrongPrivateUrl serialization
  else do
    checkTypeUrl family.privateTypeUrl family.wrongPrivateUrl serialization
    checkToken token

/-- `ParsePrivateKey`. -/
def parsePrivateKey (serialization : ProtoKeySerialization) (token : Option SecretKeyAccessToken) :
    Except Status (RsaPrivateKey P) := do
  family.checkUrlAndToken serialization token
  let key ← parseMessage privateCodec family.privateFailure serialization.serializedKey
  family.parsePrivateKeyProto lib key serialization.outputPrefixType serialization.idRequirement

/-- `SerializePublicKey`. -/
def serializePublicKey (key : P) (_token : Option SecretKeyAccessToken) : Except Status ProtoKeySerialization :=
  ProtoKeySerialization.create family.publicTypeUrl (publicCodec.serializeAsSecretData (family.toPublicKeyProto key))
    .asymmetricPublic (family.outputPrefixType key) (family.idRequirement key)

/-- `SerializePrivateKey`. -/
def serializePrivateKey (key : RsaPrivateKey P) (token : Option SecretKeyAccessToken) :
    Except Status ProtoKeySerialization := do
  checkToken token
  ProtoKeySerialization.create family.privateTypeUrl
    (privateCodec.serializeAsSecretData ⟨0, family.toPublicKeyProto key.publicKey, key.numbers⟩) .asymmetricPrivate
    (family.outputPrefixType key.publicKey) (family.idRequirement key.publicKey)

def publicKeys : KeyFormat P M named :=
  ⟨publicCodec, family.parsePublicKey publicCodec, family.serializePublicKey publicCodec⟩

def privateKeys (named : M → Prop) (privateCodec : MessageCodec (RsaPrivateKeyProto M) fun key => named key.publicKey) :
    KeyFormat (RsaPrivateKey P) (RsaPrivateKeyProto M) fun key => named key.publicKey :=
  ⟨privateCodec, family.parsePrivateKey lib privateCodec, family.serializePrivateKey privateCodec⟩

end RsaKeyFormat

/-! ## Zeros before the numbers -/

/-- How many zeros come before each number. -/
structure RsaPadding where
  n   : Nat
  e   : Nat
  d   : Nat
  p   : Nat
  q   : Nat
  dp  : Nat
  dq  : Nat
  crt : Nat
  deriving DecidableEq, Repr

def padded (zeros : Nat) (val : Bytes) : Bytes := List.replicate zeros 0 ++ val

def RsaPrivateNumbers.padded (numbers : RsaPrivateNumbers) (padding : RsaPadding) : RsaPrivateNumbers where
  d := Tink.padded padding.d numbers.d
  p := Tink.padded padding.p numbers.p
  q := Tink.padded padding.q numbers.q
  dp := Tink.padded padding.dp numbers.dp
  dq := Tink.padded padding.dq numbers.dq
  crt := Tink.padded padding.crt numbers.crt

theorem value_padded (zeros : Nat) (val : Bytes) : BigEndian.value (padded zeros val) = BigEndian.value val :=
  BigEndian.value_zeros_append zeros val

theorem withoutLeadingZeros_padded (zeros : Nat) (val : Bytes) :
    withoutLeadingZeros (padded zeros val) = withoutLeadingZeros val :=
  BigEndian.trim_zeros_append zeros val

theorem value_bigIntegerValue (n : Nat) : BigEndian.value (bigIntegerValue n) = n :=
  BigEndian.value_encode (lt_pow_sizeInBytes n)

theorem bigIntegerValue_length (n : Nat) : (bigIntegerValue n).length = sizeInBytes n := BigEndian.encode_length _ _

theorem equalUpToZeros_padded (zeros : Nat) (val : Bytes) : EqualUpToZeros val (padded zeros val) :=
  ⟨0, zeros, val, rfl, rfl⟩

theorem throw_ne_pure {α : Type} {e : Status} {a : α} : (throw e : ExceptT Status Option α) ≠ pure a := fun h => by
  cases h

theorem pure_inj {α : Type} {a b : α} : (pure a : ExceptT Status Option α) = pure b ↔ a = b := by
  constructor
  · intro h
    exact Except.ok.inj (Option.some.inj h)
  · rintro rfl
    rfl

theorem bind_eq_pure {α β : Type} {x : ExceptT Status Option α} {f : α → ExceptT Status Option β} {b : β} :
    x >>= f = pure b ↔ ∃ a, x = pure a ∧ f a = pure b := by
  constructor
  · intro h
    cases x with
    | none => cases h
    | some result =>
      cases result with
      | error e => cases h
      | ok a => exact ⟨a, rfl, h⟩
  · rintro ⟨a, rfl, h⟩
    exact h

theorem parseRsaNumber_ok {name : String} {val bytes : Bytes} {length : Int} :
    parseRsaNumber name val length = pure bytes ↔
      parseBigIntToFixedLength val (Narrow.toInt length) = pure bytes := by
  unfold parseRsaNumber
  cases parseBigIntToFixedLength val (Narrow.toInt length) with
  | none => exact iff_of_false (fun h => by cases h) (fun h => by cases h)
  | some result =>
    cases result with
    | ok bytes' => exact Iff.rfl
    | error e => exact iff_of_false (fun h => by cases h) (fun h => by cases h)

theorem parseRsaNumber_small {name : String} {val bytes : Bytes} {length : Nat} (h : length < 2 ^ 31) :
    parseRsaNumber name val length = pure bytes ↔ parseBigIntToFixedLength val length = pure bytes := by
  rw [parseRsaNumber_ok, Narrow.toInt_of_nonneg_of_lt (by omega) (by omega)]

theorem parseRsaNumber_self (name : String) {val : Bytes} {length : Nat} (h : val.length = length)
    (hsmall : length < 2 ^ 31) : parseRsaNumber name val length = pure val := by
  rw [parseRsaNumber_small hsmall, ← h, parseBigIntToFixedLength_self]

/-! ## The numbers of a private key -/

/-- What holds of the numbers of a private key that was built. -/
structure RsaPrivateNumbers.FixedSize (numbers : RsaPrivateNumbers) (n : Nat) : Prop where
  p     : withoutLeadingZeros numbers.p = numbers.p
  q     : withoutLeadingZeros numbers.q = numbers.q
  dp    : numbers.dp.length = numbers.p.length
  dq    : numbers.dq.length = numbers.q.length
  crt   : numbers.crt.length = numbers.p.length
  d     : numbers.d.length = sizeInBytes n
  sizeP : numbers.p.length ≤ sizeInBytes n
  sizeQ : numbers.q.length ≤ sizeInBytes n

theorem withoutLeadingZeros_eq_self {val : Bytes} (hzero : BigEndian.value val ≠ 0)
    (h : ¬ (1 < val.length ∧ val.head? = some 0)) : withoutLeadingZeros val = val := by
  apply BigEndian.trim_of_head
  intro hhead
  apply hzero
  cases val with
  | nil => cases hhead
  | cons b bs =>
    cases hhead
    cases bs with
    | nil => rfl
    | cons b' bs => exact absurd ⟨by rw [List.length_cons, List.length_cons]; omega, rfl⟩ h

/-- A factor has no more bytes than the product. -/
theorem length_le_sizeInBytes {val : Bytes} {n : Nat} (hval : withoutLeadingZeros val = val)
    (hle : BigEndian.value val ≤ n) : val.length ≤ sizeInBytes n := by
  have hhead : val.head? ≠ some 0 := by
    rw [← hval]
    exact BigEndian.trim_head val
  rw [← BigEndian.digits_length_value hhead]
  exact sizeInBytes_le (Nat.lt_of_le_of_lt hle (lt_pow_sizeInBytes n))

theorem rsaPrivateKeyToRsaFixedSizeInputs_ok {lib : RsaLibrary} {n e : Nat} {numbers : RsaPrivateNumbers}
    (h : rsaPrivateKeyToRsaFixedSizeInputs lib n e numbers = .ok ()) : numbers.FixedSize n := by
  obtain ⟨_, hsize, h⟩ := bind_eq_ok h
  obtain ⟨_, -, h⟩ := bind_eq_ok h
  obtain ⟨_, hp, h⟩ := bind_eq_ok h
  obtain ⟨_, hq, h⟩ := bind_eq_ok h
  obtain ⟨_, hdp, h⟩ := bind_eq_ok h
  obtain ⟨_, hdq, h⟩ := bind_eq_ok h
  obtain ⟨_, hcrt, h⟩ := bind_eq_ok h
  obtain ⟨_, hd, h⟩ := bind_eq_ok h
  have hn : n ≠ 0 := by
    rintro rfl
    cases hsize
  -- no prime is zero, so one byte of zero is none either
  have hproduct := lib.checkKey_modulus h
  have hzeroP : BigEndian.value numbers.p ≠ 0 := fun hzero => hn (by rw [hproduct, hzero, Nat.zero_mul])
  have hzeroQ : BigEndian.value numbers.q ≠ 0 := fun hzero => hn (by rw [hproduct, hzero, Nat.mul_zero])
  have hselfP := withoutLeadingZeros_eq_self hzeroP (refuseIf_ok.1 hp)
  have hselfQ := withoutLeadingZeros_eq_self hzeroQ (refuseIf_ok.1 hq)
  have hleP := Nat.le_mul_of_pos_right (BigEndian.value numbers.p) (Nat.pos_of_ne_zero hzeroQ)
  have hleQ := Nat.le_mul_of_pos_left (BigEndian.value numbers.q) (Nat.pos_of_ne_zero hzeroP)
  rw [← hproduct] at hleP hleQ
  exact ⟨hselfP, hselfQ, not_not.1 (refuseIf_ok.1 hdp), not_not.1 (refuseIf_ok.1 hdq), not_not.1 (refuseIf_ok.1 hcrt),
    not_not.1 (refuseIf_ok.1 hd), length_le_sizeInBytes hselfP hleP, length_le_sizeInBytes hselfQ hleQ⟩

/-- An `int` holds how many bytes each secret number is longer than the length it is parsed in.  The primes are not
parsed in a length. -/
structure RsaPrivateNumbers.Counted (numbers : RsaPrivateNumbers) (modulusSize : Nat) : Prop where
  dp  : numbers.dp.length < (withoutLeadingZeros numbers.p).length + 2 ^ 31
  dq  : numbers.dq.length < (withoutLeadingZeros numbers.q).length + 2 ^ 31
  crt : numbers.crt.length < (withoutLeadingZeros numbers.p).length + 2 ^ 31
  d   : numbers.d.length < modulusSize + 2 ^ 31

theorem modulusSize_eq {modulusSizeInBits : Int32} {n : Nat} (hsize : modulusSizeInBits.toInt = sizeInBytes n * 8) :
    (modulusSizeInBits.toInt + 7) / 8 = (sizeInBytes n : Int) ∧ sizeInBytes n < 2 ^ 31 := by
  have hlt := modulusSizeInBits.toInt_lt
  omega

theorem parseRsaPrivateNumbers_ok {numbers parsed : RsaPrivateNumbers} {modulusSizeInBits : Int32} :
    parseRsaPrivateNumbers numbers modulusSizeInBits = pure parsed ↔
      parsed.p = withoutLeadingZeros numbers.p ∧ parsed.q = withoutLeadingZeros numbers.q ∧
      parseRsaNumber "dp" numbers.dp (withoutLeadingZeros numbers.p).length = pure parsed.dp ∧
      parseRsaNumber "dq" numbers.dq (withoutLeadingZeros numbers.q).length = pure parsed.dq ∧
      parseRsaNumber "crt" numbers.crt (withoutLeadingZeros numbers.p).length = pure parsed.crt ∧
      parseRsaNumber "d" numbers.d ((modulusSizeInBits.toInt + 7) / 8) = pure parsed.d := by
  unfold parseRsaPrivateNumbers
  simp only [bind_eq_pure, pure_inj]
  constructor
  · rintro ⟨dp, hdp, dq, hdq, crt, hcrt, d, hd, rfl⟩
    exact ⟨rfl, rfl, hdp, hdq, hcrt, hd⟩
  · rintro ⟨hp, hq, hdp, hdq, hcrt, hd⟩
    refine ⟨_, hdp, _, hdq, _, hcrt, _, hd, ?_⟩
    rw [← hp, ← hq]

theorem RsaPrivateNumbers.FixedSize.parse {numbers : RsaPrivateNumbers} {n : Nat} (h : numbers.FixedSize n)
    {modulusSizeInBits : Int32} (hsize : modulusSizeInBits.toInt = sizeInBytes n * 8) :
    parseRsaPrivateNumbers numbers modulusSizeInBits = pure numbers := by
  obtain ⟨hbytes, hsmall⟩ := modulusSize_eq hsize
  rw [parseRsaPrivateNumbers_ok, h.p, h.q, hbytes]
  exact ⟨rfl, rfl, parseRsaNumber_self "dp" h.dp (h.sizeP.trans_lt hsmall),
    parseRsaNumber_self "dq" h.dq (h.sizeQ.trans_lt hsmall), parseRsaNumber_self "crt" h.crt (h.sizeP.trans_lt hsmall),
    parseRsaNumber_self "d" h.d hsmall⟩

theorem parseRsaNumber_padded_iff {name : String} {val bytes : Bytes} {length : Nat} (zeros : Nat)
    (hlength : bytes.length = length) (hsmall : length < 2 ^ 31) (h : parseRsaNumber name val length = pure bytes) :
    parseRsaNumber name (padded zeros val) length = pure bytes ↔ (padded zeros val).length < length + 2 ^ 31 := by
  rw [parseRsaNumber_small hsmall] at h ⊢
  exact (equalUpToZeros_padded zeros val).parseBigIntToFixedLength_iff h hlength

/-- **Zeros before the secret numbers change nothing exactly while an `int` counts them.** -/
theorem parseRsaPrivateNumbers_padded_iff {numbers parsed : RsaPrivateNumbers} {modulusSizeInBits : Int32} {n : Nat}
    (hsize : modulusSizeInBits.toInt = sizeInBytes n * 8) (hfixed : parsed.FixedSize n)
    (h : parseRsaPrivateNumbers numbers modulusSizeInBits = pure parsed) (padding : RsaPadding) :
    parseRsaPrivateNumbers (numbers.padded padding) modulusSizeInBits = pure parsed ↔
      (numbers.padded padding).Counted (sizeInBytes n) := by
  obtain ⟨hbytes, hsmall⟩ := modulusSize_eq hsize
  rw [parseRsaPrivateNumbers_ok, hbytes] at h ⊢
  obtain ⟨hp, hq, hdp, hdq, hcrt, hd⟩ := h
  have hsizeP := hfixed.sizeP.trans_lt hsmall
  have hsizeQ := hfixed.sizeQ.trans_lt hsmall
  have hlenDp := hfixed.dp
  have hlenDq := hfixed.dq
  have hlenCrt := hfixed.crt
  rw [hp] at hsizeP hlenDp hlenCrt
  rw [hq] at hsizeQ hlenDq
  have hdp' := parseRsaNumber_padded_iff padding.dp hlenDp hsizeP hdp
  have hdq' := parseRsaNumber_padded_iff padding.dq hlenDq hsizeQ hdq
  have hcrt' := parseRsaNumber_padded_iff padding.crt hlenCrt hsizeP hcrt
  have hd' := parseRsaNumber_padded_iff padding.d hfixed.d hsmall hd
  unfold RsaPrivateNumbers.padded
  dsimp only
  rw [withoutLeadingZeros_padded, withoutLeadingZeros_padded, hdp', hdq', hcrt', hd']
  constructor
  · rintro ⟨-, -, hdp, hdq, hcrt, hd⟩
    refine ⟨?_, ?_, ?_, hd⟩ <;> dsimp only <;> rw [withoutLeadingZeros_padded] <;> assumption
  · rintro ⟨hdp, hdq, hcrt, hd⟩
    dsimp only at hdp hdq hcrt
    rw [withoutLeadingZeros_padded] at hdp hdq hcrt
    exact ⟨hp, hq, hdp, hdq, hcrt, hd⟩

/-! ## What survives, for all four -/

/-- What is asked of a family: a key that was created is read back from its message, and zeros before the numbers of the
message of a public key change nothing under the condition `Kept`. -/
structure RsaKeyFormat.Lawful {P M : Type} (family : RsaKeyFormat P M) (named : M → Prop) (Created : P → Prop)
    (pad : RsaPadding → M → M) (Kept : RsaPadding → Prop) : Prop where
  publicPrintable  : isPrintableAscii family.publicTypeUrl = true
  privatePrintable : isPrintableAscii family.privateTypeUrl = true
  named            : ∀ {key}, Created key → named (family.toPublicKeyProto key)
  version          : ∀ key, family.version (family.toPublicKeyProto key) = 0
  roundTrip        : ∀ {key}, Created key → family.toPublicKey (family.toPublicKeyProto key) (family.outputPrefixType key)
    (family.idRequirement key) = .ok key
  id_iff           : ∀ {key}, Created key → (family.outputPrefixType key = .raw ↔ family.idRequirement key = none)
  size             : ∀ {m prefixType idRequirement key}, family.toPublicKey m prefixType idRequirement = .ok key →
    (family.modulusSizeInBits key).toInt = sizeInBytes (family.modulus key) * 8
  version_pad      : ∀ padding m, family.version (pad padding m) = family.version m
  toPublicKey_pad  : ∀ padding m prefixType idRequirement key, family.toPublicKey m prefixType idRequirement = .ok key →
    (family.toPublicKey (pad padding m) prefixType idRequirement = .ok key ↔ Kept padding)

/-- A private key over a created public key. -/
structure RsaPrivateKey.Created {P M : Type} (family : RsaKeyFormat P M) (lib : RsaLibrary) (PublicCreated : P → Prop)
    (key : RsaPrivateKey P) : Prop where
  publicKey : PublicCreated key.publicKey
  build     : family.buildPrivateKey lib key.publicKey key.numbers = .ok key

/-- Zeros before the numbers of a private key, and before those of its public key. -/
def RsaPrivateKeyProto.pad {M : Type} (pad : RsaPadding → M → M) (padding : RsaPadding) (key : RsaPrivateKeyProto M) :
    RsaPrivateKeyProto M :=
  ⟨key.version, pad padding key.publicKey, key.numbers.padded padding⟩

namespace RsaKeyFormat
variable {P M : Type} {named : M → Prop} {family : RsaKeyFormat P M} {lib : RsaLibrary} {Created : P → Prop}
  {pad : RsaPadding → M → M} {Kept : RsaPadding → Prop}

theorem checkUrlAndToken_some (serialization : ProtoKeySerialization) (token : SecretKeyAccessToken) :
    family.checkUrlAndToken serialization (some token) =
      checkTypeUrl family.privateTypeUrl family.wrongPrivateUrl serialization := by
  unfold checkUrlAndToken
  split
  · rfl
  · cases checkTypeUrl family.privateTypeUrl family.wrongPrivateUrl serialization <;> rfl

theorem buildPrivateKey_ok {publicKey : P} {numbers : RsaPrivateNumbers} {key : RsaPrivateKey P}
    (h : family.buildPrivateKey lib publicKey numbers = .ok key) :
    key = ⟨publicKey, numbers⟩ ∧ numbers.FixedSize (family.modulus publicKey) := by
  obtain ⟨_, hvalid, h⟩ := bind_eq_ok h
  exact ⟨(Except.ok.inj h).symm, rsaPrivateKeyToRsaFixedSizeInputs_ok hvalid⟩

namespace Lawful

theorem publicKeys_reads (h : family.Lawful named Created pad Kept) (codec : MessageCodec M named) :
    (family.publicKeys codec).Reads family.publicTypeUrl family.wrongPublicUrl family.publicFailure
      family.parsePublicKeyProto :=
  ⟨fun _ _ => rfl, h.publicPrintable⟩

theorem privateKeys_reads (h : family.Lawful named Created pad Kept) (lib : RsaLibrary)
    (codec : MessageCodec (RsaPrivateKeyProto M) fun key => named key.publicKey) :
    (family.privateKeys lib named codec).Reads family.privateTypeUrl family.wrongPrivateUrl family.privateFailure
      (family.parsePrivateKeyProto lib) where
  parse_eq stored token := by
    change (family.checkUrlAndToken stored (some token) >>= _) = _
    rw [checkUrlAndToken_some]
    rfl
  printable := h.privatePrintable

/-- **Public keys.** -/
theorem publicKeys_survive (h : family.Lawful named Created pad Kept) (codec : MessageCodec M named) :
    (∀ key, Created key → (family.publicKeys codec).RoundTrips key fun _ => True) ∧
      ∀ key padding, (family.publicKeys codec).ParsesIff key (fun m m' => m' = pad padding m) fun _ => Kept padding := by
  have hreads := h.publicKeys_reads codec
  constructor
  · intro key hkey
    refine hreads.roundTrips .asymmetricPublic (h.named hkey) trivial (h.id_iff hkey) (fun _ => rfl) ?_
    unfold parsePublicKeyProto
    rw [h.version, checkVersion_zero]
    exact h.roundTrip hkey
  · intro key padding
    apply hreads.parsesIff
    rintro m _ prefixType idRequirement rfl hkey
    obtain ⟨_, hversion, hkey⟩ := bind_eq_ok hkey
    unfold parsePublicKeyProto
    rw [h.version_pad, hversion]
    exact h.toPublicKey_pad padding m prefixType idRequirement key hkey

/-- **Private keys.** -/
theorem privateKeys_survive (h : family.Lawful named Created pad Kept) (lib : RsaLibrary)
    (codec : MessageCodec (RsaPrivateKeyProto M) fun key => named key.publicKey) :
    (∀ key, RsaPrivateKey.Created family lib Created key → (family.privateKeys lib named codec).RoundTrips key fun _ => True) ∧
      ∀ key padding, (family.privateKeys lib named codec).ParsesIff key
        (fun m m' => m' = RsaPrivateKeyProto.pad pad padding m)
        fun m' => Kept padding ∧ m'.numbers.Counted (sizeInBytes (family.modulus key.publicKey)) := by
  have hreads := h.privateKeys_reads lib codec
  constructor
  · intro key hkey
    obtain ⟨-, hfixed⟩ := buildPrivateKey_ok hkey.build
    have hround := h.roundTrip hkey.publicKey
    refine hreads.roundTrips .asymmetricPrivate (m := ⟨0, family.toPublicKeyProto key.publicKey, key.numbers⟩)
      (h.named hkey.publicKey) trivial (h.id_iff hkey.publicKey) (fun _ => rfl) ?_
    unfold parsePrivateKeyProto
    dsimp only
    rw [h.version, checkVersion_zero, checkVersion_zero, hround]
    change (answered (parseRsaPrivateNumbers key.numbers (family.modulusSizeInBits key.publicKey)) >>= _) = _
    rw [hfixed.parse (h.size hround)]
    exact hkey.build
  · intro key padding
    apply hreads.parsesIff
    rintro m _ prefixType idRequirement rfl hkey
    obtain ⟨_, hversion, hkey⟩ := bind_eq_ok hkey
    obtain ⟨_, hpublicVersion, hkey⟩ := bind_eq_ok hkey
    obtain ⟨publicKey, hpublic, hkey⟩ := bind_eq_ok hkey
    obtain ⟨numbers, hnumbers, hkey⟩ := bind_eq_ok hkey
    obtain ⟨rfl, hfixed⟩ := buildPrivateKey_ok hkey
    have hpad := h.toPublicKey_pad padding m.publicKey prefixType idRequirement publicKey hpublic
    have hparse := parseRsaPrivateNumbers_padded_iff (h.size hpublic) hfixed (answered_ok.1 hnumbers) padding
    rw [← hpad]
    change _ ↔ _ ∧ (m.numbers.padded padding).Counted (sizeInBytes (family.modulus publicKey))
    rw [← hparse]
    unfold parsePrivateKeyProto RsaPrivateKeyProto.pad
    dsimp only
    rw [h.version_pad, hversion, hpublicVersion]
    constructor
    · intro h'
      obtain ⟨_, -, h'⟩ := bind_eq_ok h'
      obtain ⟨_, -, h'⟩ := bind_eq_ok h'
      obtain ⟨publicKey', hpublic', h'⟩ := bind_eq_ok h'
      obtain ⟨numbers', hnumbers', h'⟩ := bind_eq_ok h'
      cases (buildPrivateKey_ok h').1
      exact ⟨hpublic', answered_ok.1 hnumbers'⟩
    · rintro ⟨hpublic', hnumbers'⟩
      rw [hpublic']
      change (answered (parseRsaPrivateNumbers (m.numbers.padded padding) (family.modulusSizeInBits publicKey)) >>= _) = _
      rw [hnumbers']
      exact hkey

end Lawful

end RsaKeyFormat

end Tink
