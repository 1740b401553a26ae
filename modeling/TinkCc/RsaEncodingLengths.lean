import TinkCc.RsaFormat
/-!
# RsaEncodingLengths — RSA private keys with numbers of fixed lengths

`RsaPrivateKeyAdjustEncodingLengths` and the checks of `RsaPrivateKeyToRsaFixedSizeInputs` in `internal/rsa_util.cc`, for
numbers of any sizes, which `ParseBigIntToFixedLength` takes as `int`s.
-/
namespace Tink
namespace RsaUtil

/-- `internal::RsaPrivateKey`. -/
structure RsaPrivateKey extends RsaPrivateNumbers where
  n : Bytes
  e : Bytes
  deriving DecidableEq, Repr

/-! ## The code -/

def rsaPrivateKeyAdjustEncodingLengths (privateKey : RsaPrivateKey) : ExceptT Status Option RsaPrivateKey := do
  let trimmedP := withoutLeadingZeros privateKey.p
  let trimmedQ := withoutLeadingZeros privateKey.q
  -- a `size_t` given where an `int` is asked for
  let adjustedDp ← parseBigIntToFixedLength privateKey.dp (Narrow.toInt trimmedP.length)
  let adjustedDq ← parseBigIntToFixedLength privateKey.dq (Narrow.toInt trimmedQ.length)
  let adjustedCrt ← parseBigIntToFixedLength privateKey.crt (Narrow.toInt trimmedP.length)
  let adjustedD ← parseBigIntToFixedLength privateKey.d (Narrow.toInt privateKey.n.length)
  return { privateKey with
    p := trimmedP, q := trimmedQ, dp := adjustedDp, dq := adjustedDq, crt := adjustedCrt, d := adjustedD }

/-- The checks for sizes and leading zeros in `RsaPrivateKeyToRsaFixedSizeInputs`. -/
def checkEncodingLengths (privateKey : RsaPrivateKey) : Except Status Unit := do
  let sizeP := privateKey.p.length
  let sizeQ := privateKey.q.length
  let sizeN := privateKey.n.length
  let sizeDp := privateKey.dp.length
  let sizeDq := privateKey.dq.length
  let sizeCrt := privateKey.crt.length
  let sizeD := privateKey.d.length
  refuseIf (1 < sizeP ∧ privateKey.p.head? = some 0) "Prime factor p has leading zeros"
  refuseIf (1 < sizeQ ∧ privateKey.q.head? = some 0) "Prime factor q has leading zeros"
  refuseIf (sizeDp ≠ sizeP) s!"Prime exponent dp has incorrect length: expected {sizeP} got {sizeDp}"
  refuseIf (sizeDq ≠ sizeQ) s!"Prime exponent dq has incorrect length: expected {sizeQ} got {sizeDq}"
  refuseIf (sizeCrt ≠ sizeP) s!"CRT coefficient has incorrect length: expected {sizeP} got {sizeCrt}"
  refuseIf (sizeD ≠ sizeN) s!"Private exponent d has incorrect length: expected {sizeN} got {sizeD}"

def rsaPrivateKeyToRsaFixedSizeInputs (lib : RsaLibrary) (privateKey : RsaPrivateKey) : Except Status Unit := do
  validateRsaModulusSize lib.fipsMode (BigEndian.value privateKey.n).size
  validateRsaPublicExponent (BigEndian.value privateKey.e)
  checkEncodingLengths privateKey
  lib.checkKey (BigEndian.value privateKey.n) (BigEndian.value privateKey.e) (BigEndian.value privateKey.d)
    (BigEndian.value privateKey.p) (BigEndian.value privateKey.q) (BigEndian.value privateKey.dp)
    (BigEndian.value privateKey.dq) (BigEndian.value privateKey.crt)

/-- With a modulus without leading zeros these are the checks of the key classes. -/
theorem rsaPrivateKeyToRsaFixedSizeInputs_eq (lib : RsaLibrary) (privateKey : RsaPrivateKey)
    (h : privateKey.n.length = sizeInBytes (BigEndian.value privateKey.n)) :
    rsaPrivateKeyToRsaFixedSizeInputs lib privateKey = Tink.rsaPrivateKeyToRsaFixedSizeInputs lib
      (BigEndian.value privateKey.n) (BigEndian.value privateKey.e) privateKey.toRsaPrivateNumbers := by
  unfold rsaPrivateKeyToRsaFixedSizeInputs Tink.rsaPrivateKeyToRsaFixedSizeInputs checkEncodingLengths
  rw [h]
  simp only [bind_assoc]

/-! ## Lengths as `int`s -/

/-- Nothing is lost of `length`, or what is lost is lost of the length of `val` too. -/
def ExactInt (val : Bytes) (length : Nat) : Prop :=
  length % 2 ^ 32 < 2 ^ 31 ∧
    ((val.length ≤ length ∧ length < 2 ^ 31) ∨ (length ≤ val.length ∧ val.length - length < 2 ^ 31))

/-- How many bytes are looked at: what is left of the difference. -/
def checkedZeros (val : Bytes) (length : Nat) : Nat := (val.length - length % 2 ^ 32) % 2 ^ 32

/-- What `ParseBigIntToFixedLength` asks of a value. -/
def Accepts (val : Bytes) (length : Nat) : Prop :=
  length % 2 ^ 32 < 2 ^ 31 ∧ (val.length ≤ length % 2 ^ 32 ∨ (checkedZeros val length < 2 ^ 31 ∧
    val.take (checkedZeros val length) = List.replicate (checkedZeros val length) 0))

/-- The value that a size has as an `int` that is not negative. -/
theorem toInt_size {size : Nat} (h : size % 2 ^ 32 < 2 ^ 31) : Narrow.toInt size = (size % 2 ^ 32 : Nat) := by
  rw [Narrow.toInt_of_emod_lt (by omega)]
  omega

/-- **What `ParseBigIntToFixedLength` returns for any sizes.** -/
theorem parseBigIntToFixedLength_ok {val bytes : Bytes} {length : Nat} :
    parseBigIntToFixedLength val (Narrow.toInt length) = pure bytes ↔
      length % 2 ^ 32 < 2 ^ 31 ∧
        ((val.length ≤ length % 2 ^ 32 ∧ bytes = List.replicate (length % 2 ^ 32 - val.length) 0 ++ val) ∨
         (length % 2 ^ 32 < val.length ∧ checkedZeros val length < 2 ^ 31 ∧
           val.take (checkedZeros val length) = List.replicate (checkedZeros val length) 0 ∧
           bytes = val.drop (checkedZeros val length))) := by
  unfold parseBigIntToFixedLength
  by_cases hneg : Narrow.toInt length < 0
  · rw [if_pos hneg]
    rw [Narrow.toInt_neg_iff] at hneg
    exact iff_of_false throw_ne_pure (fun h => by omega)
  rw [if_neg hneg]
  have hlength : length % 2 ^ 32 < 2 ^ 31 := by
    rw [Narrow.toInt_neg_iff] at hneg
    omega
  rw [toInt_size hlength, Int.toNat_natCast]
  by_cases hle : val.length ≤ length % 2 ^ 32
  · rw [if_pos hle, pure_inj]
    constructor
    · rintro rfl
      exact ⟨hlength, .inl ⟨hle, rfl⟩⟩
    · rintro ⟨-, ⟨-, rfl⟩ | ⟨hlt, -⟩⟩
      · rfl
      · omega
  rw [if_neg hle]
  have hdiff : ((val.length : Int) - (length % 2 ^ 32 : Nat)) = ((val.length - length % 2 ^ 32 : Nat) : Int) := by omega
  have hchecked : (((val.length - length % 2 ^ 32 : Nat) : Int) % 2 ^ 32) = (checkedZeros val length : Nat) := by
    unfold checkedZeros
    omega
  rw [hdiff]
  dsimp only
  by_cases hbig : Narrow.toInt ((val.length - length % 2 ^ 32 : Nat) : Int) < 0
  · rw [if_pos hbig]
    rw [Narrow.toInt_neg_iff, hchecked] at hbig
    refine iff_of_false (fun h => by cases h) ?_
    rintro ⟨-, ⟨hle', -⟩ | ⟨-, hlt, -⟩⟩
    · exact hle hle'
    · omega
  rw [if_neg hbig]
  have hlt : checkedZeros val length < 2 ^ 31 := by
    rw [Narrow.toInt_neg_iff, hchecked] at hbig
    omega
  have htruncate : (Narrow.toInt ((val.length - length % 2 ^ 32 : Nat) : Int)).toNat = checkedZeros val length := by
    rw [Narrow.toInt_of_emod_lt (by omega), hchecked, Int.toNat_natCast]
  rw [htruncate]
  by_cases hzeros : val.take (checkedZeros val length) = List.replicate (checkedZeros val length) 0
  · rw [if_pos hzeros, pure_inj]
    constructor
    · rintro rfl
      exact ⟨hlength, .inr ⟨by omega, hlt, hzeros, rfl⟩⟩
    · rintro ⟨-, ⟨hle', -⟩ | ⟨-, -, -, rfl⟩⟩
      · exact absurd hle' hle
      · rfl
  · rw [if_neg hzeros]
    refine iff_of_false throw_ne_pure ?_
    rintro ⟨-, ⟨hle', -⟩ | ⟨-, -, hzeros', -⟩⟩
    · exact hle hle'
    · exact hzeros hzeros'

theorem exists_parse_iff (val : Bytes) (length : Nat) :
    (∃ bytes, parseBigIntToFixedLength val (Narrow.toInt length) = pure bytes) ↔ Accepts val length := by
  constructor
  · rintro ⟨bytes, h⟩
    obtain ⟨hlength, ⟨hle, -⟩ | ⟨-, hlt, hzeros, -⟩⟩ := parseBigIntToFixedLength_ok.1 h
    · exact ⟨hlength, .inl hle⟩
    · exact ⟨hlength, .inr ⟨hlt, hzeros⟩⟩
  · rintro ⟨hlength, haccept⟩
    by_cases hle : val.length ≤ length % 2 ^ 32
    · exact ⟨_, parseBigIntToFixedLength_ok.2 ⟨hlength, .inl ⟨hle, rfl⟩⟩⟩
    · obtain ⟨hlt, hzeros⟩ := haccept.resolve_left hle
      exact ⟨_, parseBigIntToFixedLength_ok.2 ⟨hlength, .inr ⟨by omega, hlt, hzeros, rfl⟩⟩⟩

/-- A result of the length asked for comes from exact sizes. -/
theorem exactInt_of_length {val bytes : Bytes} {length : Nat}
    (h : parseBigIntToFixedLength val (Narrow.toInt length) = pure bytes) (hlen : bytes.length = length) :
    ExactInt val length := by
  obtain ⟨hlength, ⟨hle, rfl⟩ | ⟨hlt, hsmall, -, rfl⟩⟩ := parseBigIntToFixedLength_ok.1 h
  · rw [List.length_append, List.length_replicate] at hlen
    exact ⟨hlength, .inl (by omega)⟩
  · rw [List.length_drop] at hlen
    refine ⟨hlength, .inr ?_⟩
    unfold checkedZeros at hlen hsmall
    omega

/-- **With exact sizes the number is kept, in the length asked for.** -/
theorem parseBigIntToFixedLength_exact {val bytes : Bytes} {length : Nat} (hexact : ExactInt val length) :
    parseBigIntToFixedLength val (Narrow.toInt length) = pure bytes ↔
      BigEndian.value val < 256 ^ length ∧ bytes = BigEndian.encode length (BigEndian.value val) := by
  rw [parseBigIntToFixedLength_ok]
  obtain ⟨hlength, hsizes⟩ := hexact
  by_cases hle : val.length ≤ length ∧ length < 2 ^ 31
  · have hmod : length % 2 ^ 32 = length := by omega
    have hlt : BigEndian.value val < 256 ^ length :=
      Nat.lt_of_lt_of_le (BigEndian.value_lt val) (Nat.pow_le_pow_right (by omega) hle.1)
    rw [hmod, BigEndian.encode_value_of_le hle.1]
    constructor
    · rintro ⟨-, ⟨-, rfl⟩ | ⟨hlonger, -⟩⟩
      · exact ⟨hlt, rfl⟩
      · omega
    · rintro ⟨-, rfl⟩
      exact ⟨by omega, .inl ⟨hle.1, rfl⟩⟩
  · have hchecked : checkedZeros val length = val.length - length := by
      unfold checkedZeros
      omega
    have hzeros := BigEndian.take_eq_zeros_iff (Nat.sub_le val.length length)
    have hdrop := BigEndian.drop_eq_encode (Nat.sub_le val.length length)
    have hleft : val.length - (val.length - length) = length := by omega
    rw [hleft] at hzeros hdrop
    rw [hchecked, hzeros]
    constructor
    · rintro ⟨-, ⟨hle', rfl⟩ | ⟨-, -, hlt, rfl⟩⟩
      · have heq : length = val.length := by omega
        rw [show length % 2 ^ 32 - val.length = 0 by omega, heq, BigEndian.encode_value]
        exact ⟨BigEndian.value_lt val, rfl⟩
      · exact ⟨hlt, hdrop hlt⟩
    · rintro ⟨hlt, rfl⟩
      by_cases hle' : val.length ≤ length % 2 ^ 32
      · have heq : val.length = length := by omega
        refine ⟨hlength, .inl ⟨hle', ?_⟩⟩
        rw [show length % 2 ^ 32 - val.length = 0 by omega, ← heq, BigEndian.encode_value]
        rfl
      · exact ⟨hlength, .inr ⟨by omega, by omega, hlt, (hdrop hlt).symm⟩⟩

/-! ## Keys -/

/-- The numbers that are brought to a length, each with that length. -/
def adjusted (privateKey : RsaPrivateKey) : List (Bytes × Nat) :=
  [(privateKey.dp, (withoutLeadingZeros privateKey.p).length), (privateKey.dq, (withoutLeadingZeros privateKey.q).length),
   (privateKey.crt, (withoutLeadingZeros privateKey.p).length), (privateKey.d, privateKey.n.length)]

/-- **Every number fits in its length.** -/
def Fits (privateKey : RsaPrivateKey) : Prop := ∀ c ∈ adjusted privateKey, BigEndian.value c.1 < 256 ^ c.2

/-- The same numbers. -/
structure SameValues (privateKey privateKey' : RsaPrivateKey) : Prop where
  n   : privateKey'.n = privateKey.n
  e   : privateKey'.e = privateKey.e
  d   : BigEndian.value privateKey'.d = BigEndian.value privateKey.d
  p   : BigEndian.value privateKey'.p = BigEndian.value privateKey.p
  q   : BigEndian.value privateKey'.q = BigEndian.value privateKey.q
  dp  : BigEndian.value privateKey'.dp = BigEndian.value privateKey.dp
  dq  : BigEndian.value privateKey'.dq = BigEndian.value privateKey.dq
  crt : BigEndian.value privateKey'.crt = BigEndian.value privateKey.crt

/-- **The key is adjusted when its numbers fit**, keeps its numbers, passes the checks and is not adjusted again. -/
def AdjustsExactly (privateKey : RsaPrivateKey) : Prop :=
  ((∃ adjustedKey, rsaPrivateKeyAdjustEncodingLengths privateKey = pure adjustedKey) ↔ Fits privateKey) ∧
  ∀ adjustedKey, rsaPrivateKeyAdjustEncodingLengths privateKey = pure adjustedKey →
    SameValues privateKey adjustedKey ∧ checkEncodingLengths adjustedKey = .ok () ∧
      rsaPrivateKeyAdjustEncodingLengths adjustedKey = pure adjustedKey

/-- **No size is changed by its conversion to an `int`**, or where a number does not fit, one is refused. -/
def ConvertsExactly (privateKey : RsaPrivateKey) : Prop :=
  (Fits privateKey → ∀ c ∈ adjusted privateKey, ExactInt c.1 c.2) ∧
  (¬ Fits privateKey → ∃ c ∈ adjusted privateKey, ¬ Accepts c.1 c.2)

theorem adjust_ok_iff {privateKey adjustedKey : RsaPrivateKey} :
    rsaPrivateKeyAdjustEncodingLengths privateKey = pure adjustedKey ↔
      ∃ dp dq crt d,
        parseBigIntToFixedLength privateKey.dp (Narrow.toInt (withoutLeadingZeros privateKey.p).length) = pure dp ∧
        parseBigIntToFixedLength privateKey.dq (Narrow.toInt (withoutLeadingZeros privateKey.q).length) = pure dq ∧
        parseBigIntToFixedLength privateKey.crt (Narrow.toInt (withoutLeadingZeros privateKey.p).length) = pure crt ∧
        parseBigIntToFixedLength privateKey.d (Narrow.toInt privateKey.n.length) = pure d ∧
        adjustedKey = { privateKey with
          p := withoutLeadingZeros privateKey.p, q := withoutLeadingZeros privateKey.q, dp := dp, dq := dq, crt := crt,
          d := d } := by
  unfold rsaPrivateKeyAdjustEncodingLengths
  simp only [bind_eq_pure, pure_inj]
  constructor
  · rintro ⟨dp, hdp, dq, hdq, crt, hcrt, d, hd, rfl⟩
    exact ⟨dp, dq, crt, d, hdp, hdq, hcrt, hd, rfl⟩
  · rintro ⟨dp, dq, crt, d, hdp, hdq, hcrt, hd, rfl⟩
    exact ⟨dp, hdp, dq, hdq, crt, hcrt, d, hd, rfl⟩

theorem forall_adjusted {privateKey : RsaPrivateKey} {P : Bytes × Nat → Prop} :
    (∀ c ∈ adjusted privateKey, P c) ↔
      P (privateKey.dp, (withoutLeadingZeros privateKey.p).length) ∧
      P (privateKey.dq, (withoutLeadingZeros privateKey.q).length) ∧
      P (privateKey.crt, (withoutLeadingZeros privateKey.p).length) ∧ P (privateKey.d, privateKey.n.length) := by
  simp [adjusted]

theorem exists_adjust_iff (privateKey : RsaPrivateKey) :
    (∃ adjustedKey, rsaPrivateKeyAdjustEncodingLengths privateKey = pure adjustedKey) ↔
      ∀ c ∈ adjusted privateKey, Accepts c.1 c.2 := by
  simp only [forall_adjusted, ← exists_parse_iff, adjust_ok_iff]
  constructor
  · rintro ⟨_, dp, dq, crt, d, hdp, hdq, hcrt, hd, -⟩
    exact ⟨⟨dp, hdp⟩, ⟨dq, hdq⟩, ⟨crt, hcrt⟩, ⟨d, hd⟩⟩
  · rintro ⟨⟨dp, hdp⟩, ⟨dq, hdq⟩, ⟨crt, hcrt⟩, ⟨d, hd⟩⟩
    exact ⟨_, dp, dq, crt, d, hdp, hdq, hcrt, hd, rfl⟩

theorem withoutLeadingZeros_head (val : Bytes) : (withoutLeadingZeros val).head? ≠ some 0 := BigEndian.trim_head val

theorem withoutLeadingZeros_idem (val : Bytes) : withoutLeadingZeros (withoutLeadingZeros val) = withoutLeadingZeros val :=
  BigEndian.trim_of_head (withoutLeadingZeros_head val)

theorem value_withoutLeadingZeros (val : Bytes) : BigEndian.value (withoutLeadingZeros val) = BigEndian.value val :=
  BigEndian.value_trim val

/-- The checks look at lengths and at the first bytes of the primes. -/
theorem checkEncodingLengths_ok {privateKey : RsaPrivateKey} (hp : privateKey.p.head? ≠ some 0)
    (hq : privateKey.q.head? ≠ some 0) (hdp : privateKey.dp.length = privateKey.p.length)
    (hdq : privateKey.dq.length = privateKey.q.length) (hcrt : privateKey.crt.length = privateKey.p.length)
    (hd : privateKey.d.length = privateKey.n.length) : checkEncodingLengths privateKey = .ok () := by
  unfold checkEncodingLengths
  simp only [refuseIf_ok.2 (fun h => hp h.2 : ¬ (1 < privateKey.p.length ∧ privateKey.p.head? = some 0)),
    refuseIf_ok.2 (fun h => hq h.2 : ¬ (1 < privateKey.q.length ∧ privateKey.q.head? = some 0)),
    refuseIf_ok.2 (not_not_intro hdp), refuseIf_ok.2 (not_not_intro hdq), refuseIf_ok.2 (not_not_intro hcrt),
    refuseIf_ok.2 (not_not_intro hd)]
  rfl

theorem lengths_of_checkEncodingLengths {privateKey : RsaPrivateKey} (h : checkEncodingLengths privateKey = .ok ()) :
    privateKey.dp.length = privateKey.p.length ∧ privateKey.dq.length = privateKey.q.length ∧
    privateKey.crt.length = privateKey.p.length ∧ privateKey.d.length = privateKey.n.length := by
  obtain ⟨_, -, h⟩ := bind_eq_ok h
  obtain ⟨_, -, h⟩ := bind_eq_ok h
  obtain ⟨_, hdp, h⟩ := bind_eq_ok h
  obtain ⟨_, hdq, h⟩ := bind_eq_ok h
  obtain ⟨_, hcrt, hd⟩ := bind_eq_ok h
  exact ⟨not_not.1 (refuseIf_ok.1 hdp), not_not.1 (refuseIf_ok.1 hdq), not_not.1 (refuseIf_ok.1 hcrt),
    not_not.1 (refuseIf_ok.1 hd)⟩

/-- A number that has its length already is parsed to itself, if its size is not negative as an `int`. -/
theorem parseBigIntToFixedLength_same {val : Bytes} (h : val.length % 2 ^ 32 < 2 ^ 31) :
    parseBigIntToFixedLength val (Narrow.toInt val.length) = pure val :=
  (parseBigIntToFixedLength_exact ⟨h, .inr ⟨Nat.le_refl _, by omega⟩⟩).2
    ⟨BigEndian.value_lt val, (BigEndian.encode_value val).symm⟩

/-- A key whose numbers have their lengths is left alone. -/
theorem adjust_of_lengths {privateKey : RsaPrivateKey} (hp : withoutLeadingZeros privateKey.p = privateKey.p)
    (hq : withoutLeadingZeros privateKey.q = privateKey.q) (hdp : privateKey.dp.length = privateKey.p.length)
    (hdq : privateKey.dq.length = privateKey.q.length) (hcrt : privateKey.crt.length = privateKey.p.length)
    (hd : privateKey.d.length = privateKey.n.length) (hsizeP : privateKey.p.length % 2 ^ 32 < 2 ^ 31)
    (hsizeQ : privateKey.q.length % 2 ^ 32 < 2 ^ 31) (hsizeN : privateKey.n.length % 2 ^ 32 < 2 ^ 31) :
    rsaPrivateKeyAdjustEncodingLengths privateKey = pure privateKey := by
  refine adjust_ok_iff.2 ⟨privateKey.dp, privateKey.dq, privateKey.crt, privateKey.d, ?_, ?_, ?_, ?_, ?_⟩
  · rw [hp, ← hdp]
    exact parseBigIntToFixedLength_same (hdp ▸ hsizeP)
  · rw [hq, ← hdq]
    exact parseBigIntToFixedLength_same (hdq ▸ hsizeQ)
  · rw [hp, ← hcrt]
    exact parseBigIntToFixedLength_same (hcrt ▸ hsizeP)
  · rw [← hd]
    exact parseBigIntToFixedLength_same (hd ▸ hsizeN)
  · rw [hp, hq]

/-- **A key is adjusted exactly when its sizes convert exactly.** -/
theorem adjustsExactly_iff (privateKey : RsaPrivateKey) : AdjustsExactly privateKey ↔ ConvertsExactly privateKey := by
  constructor
  · rintro ⟨hiff, hresult⟩
    constructor
    · intro hfits
      obtain ⟨adjustedKey, hadjust⟩ := hiff.2 hfits
      obtain ⟨-, hcheck, -⟩ := hresult adjustedKey hadjust
      obtain ⟨hdp, hdq, hcrt, hd⟩ := lengths_of_checkEncodingLengths hcheck
      obtain ⟨dp, dq, crt, d, hpdp, hpdq, hpcrt, hpd, rfl⟩ := adjust_ok_iff.1 hadjust
      exact forall_adjusted.2 ⟨exactInt_of_length hpdp hdp, exactInt_of_length hpdq hdq,
        exactInt_of_length hpcrt hcrt, exactInt_of_length hpd hd⟩
    · intro hfits
      by_contra hall
      push Not at hall
      exact hfits (hiff.1 ((exists_adjust_iff privateKey).2 hall))
  · rintro ⟨hfit, hunfit⟩
    by_cases hfits : Fits privateKey
    · obtain ⟨hedp, hedq, hecrt, hed⟩ := forall_adjusted.1 (hfit hfits)
      obtain ⟨hvdp, hvdq, hvcrt, hvd⟩ := forall_adjusted.1 hfits
      have hpdp := (parseBigIntToFixedLength_exact hedp).2 ⟨hvdp, rfl⟩
      have hpdq := (parseBigIntToFixedLength_exact hedq).2 ⟨hvdq, rfl⟩
      have hpcrt := (parseBigIntToFixedLength_exact hecrt).2 ⟨hvcrt, rfl⟩
      have hpd := (parseBigIntToFixedLength_exact hed).2 ⟨hvd, rfl⟩
      refine ⟨iff_of_true ⟨_, adjust_ok_iff.2 ⟨_, _, _, _, hpdp, hpdq, hpcrt, hpd, rfl⟩⟩ hfits, ?_⟩
      intro adjustedKey hadjust
      obtain rfl := pure_inj.1 ((adjust_ok_iff.2 ⟨_, _, _, _, hpdp, hpdq, hpcrt, hpd, rfl⟩).symm.trans hadjust)
      refine ⟨⟨rfl, rfl, BigEndian.value_encode hvd, value_withoutLeadingZeros _, value_withoutLeadingZeros _,
        BigEndian.value_encode hvdp, BigEndian.value_encode hvdq, BigEndian.value_encode hvcrt⟩,
        checkEncodingLengths_ok (withoutLeadingZeros_head _) (withoutLeadingZeros_head _)
          (BigEndian.encode_length _ _) (BigEndian.encode_length _ _) (BigEndian.encode_length _ _)
          (BigEndian.encode_length _ _), ?_⟩
      exact adjust_of_lengths (withoutLeadingZeros_idem _) (withoutLeadingZeros_idem _) (BigEndian.encode_length _ _)
        (BigEndian.encode_length _ _) (BigEndian.encode_length _ _) (BigEndian.encode_length _ _) hedp.1 hedq.1 hed.1
    · have hnone : ¬ ∃ adjustedKey, rsaPrivateKeyAdjustEncodingLengths privateKey = pure adjustedKey := by
        obtain ⟨c, hc, hrefused⟩ := hunfit hfits
        rw [exists_adjust_iff]
        exact fun hall => hrefused (hall c hc)
      exact ⟨iff_of_false hnone hfits, fun adjustedKey h => absurd ⟨adjustedKey, h⟩ hnone⟩

/-- A prime of some ones, and no other numbers. -/
def primeOfOnes (size : Nat) : RsaPrivateKey where
  d := []
  p := List.replicate size 1
  q := []
  dp := []
  dq := []
  crt := []
  n := []
  e := []

/-- Its numbers are 0, which fits everywhere, but a size from 2^31 on is negative as an `int`. -/
theorem not_adjustsExactly_primeOfOnes {size : Nat} (h : 2 ^ 31 ≤ size % 2 ^ 32) :
    ¬ AdjustsExactly (primeOfOnes size) := by
  rintro ⟨hiff, -⟩
  have hfits : Fits (primeOfOnes size) := by
    have hvalue : ∀ length, BigEndian.value [] < 256 ^ length := fun length => Nat.pow_pos (by omega)
    exact forall_adjusted.2 ⟨hvalue _, hvalue _, hvalue _, hvalue _⟩
  obtain ⟨hlength, -⟩ := (forall_adjusted.1 ((exists_adjust_iff _).1 (hiff.2 hfits))).1
  have htrim : withoutLeadingZeros (List.replicate size (1 : UInt8)) = List.replicate size 1 := by
    apply BigEndian.trim_of_head
    intro hhead
    have hmem := List.mem_of_mem_head? hhead
    exact absurd (List.eq_of_mem_replicate hmem) (by decide)
  have hsize : (withoutLeadingZeros (primeOfOnes size).p).length = size := by
    unfold primeOfOnes
    rw [htrim, List.length_replicate]
  rw [hsize] at hlength
  omega

theorem not_adjustsExactly : ¬ AdjustsExactly (primeOfOnes (2 ^ 31)) := not_adjustsExactly_primeOfOnes (by decide)

/-- **Sizes below 2^31 convert exactly.** -/
theorem convertsExactly_of_small {privateKey : RsaPrivateKey} (hp : privateKey.p.length < 2 ^ 31)
    (hq : privateKey.q.length < 2 ^ 31) (hn : privateKey.n.length < 2 ^ 31) (hdp : privateKey.dp.length < 2 ^ 31)
    (hdq : privateKey.dq.length < 2 ^ 31) (hcrt : privateKey.crt.length < 2 ^ 31) (hd : privateKey.d.length < 2 ^ 31) :
    ConvertsExactly privateKey := by
  have htrim : ∀ val : Bytes, (withoutLeadingZeros val).length ≤ val.length := fun val => (List.dropWhile_suffix _).length_le
  have hexact : ∀ {val : Bytes} {length : Nat}, val.length < 2 ^ 31 → length < 2 ^ 31 → ExactInt val length := by
    intro val length hval hlength
    unfold ExactInt
    omega
  have hall : ∀ c ∈ adjusted privateKey, ExactInt c.1 c.2 :=
    forall_adjusted.2 ⟨hexact hdp ((htrim _).trans_lt hp), hexact hdq ((htrim _).trans_lt hq),
      hexact hcrt ((htrim _).trans_lt hp), hexact hd hn⟩
  refine ⟨fun _ => hall, fun hfits => ?_⟩
  by_contra haccepted
  push Not at haccepted
  refine hfits fun c hc => ?_
  obtain ⟨bytes, hbytes⟩ := (exists_parse_iff c.1 c.2).2 (haccepted c hc)
  exact ((parseBigIntToFixedLength_exact (hall c hc)).1 hbytes).1

end RsaUtil
end Tink
