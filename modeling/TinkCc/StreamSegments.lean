import TinkCc.DecryptingStream
import TinkCc.LibBigEndian
/-!
# StreamSegments — what the two segment encrypters share

`AesGcmHkdfStreamSegmentEncrypter` and `AesCtrHmacStreamSegmentEncrypter` make the same checks before they use a nonce,
and add one to `segment_number_`, their only member that is not const, when they are done.  So do the decrypters, with
the segment number as an argument.  OpenSSL's functions, and `Hkdf` and `HmacBoringSsl` which wrap them, are parameters.

Over every sequence of `EncryptSegment` calls the numbers of the successful ones go up (`segmentCalls_numbers`).
-/
namespace Tink

/-! ## The cryptographic functions -/

/-- `subtle::HashType`. -/
inductive HashType
  | unknownHash
  | sha1
  | sha384
  | sha256
  | sha512
  | sha224
  deriving DecidableEq, Repr

/-- `internal::SslOneShotAead`; what `Encrypt` and `Decrypt` write to `out`. -/
structure SslOneShotAead where
  encrypt : (plaintext associatedData iv : Bytes) → Except Status Bytes
  decrypt : (ciphertext associatedData iv : Bytes) → Except Status Bytes

/-- `Mac`. -/
structure Mac where
  computeMac : (data : Bytes) → Except Status Bytes
  verifyMac  : (mac data : Bytes) → Except Status Unit

/-- The ciphers of `internal::GetAesCtrCipherForKeySize`. -/
inductive AesCtrCipher
  | aes128Ctr
  | aes256Ctr
  deriving DecidableEq, Repr

/-- The functions that call OpenSSL: `Hkdf::ComputeHkdf`, `internal::CreateAesGcmOneShotCrypter`, `HmacBoringSsl::New`,
and `EVP_EncryptUpdate` and `EVP_DecryptUpdate` after their `Init`. -/
structure CryptoLibrary where
  computeHkdf                : HashType → (ikm salt info : Bytes) → (outLen : Int) → Except Status Bytes
  createAesGcmOneShotCrypter : (key : Bytes) → Except Status SslOneShotAead
  newHmac                    : HashType → (tagSize : Int) → (key : Bytes) → Except Status Mac
  evpEncrypt                 : AesCtrCipher → (key nonce plaintext : Bytes) → Except Status Bytes
  evpDecrypt                 : AesCtrCipher → (key nonce ciphertext : Bytes) → Except Status Bytes

/-- `internal::GetAesCtrCipherForKeySize`. -/
def getAesCtrCipherForKeySize (keySizeInBytes : Nat) : Except Status AesCtrCipher :=
  if keySizeInBytes = 16 then .ok .aes128Ctr
  else if keySizeInBytes = 32 then .ok .aes256Ctr
  else .error ⟨.invalidArgument, s!"Invalid key size {keySizeInBytes}"⟩

/-- What `Random::GetRandomBytes(length)` may return. -/
abbrev RandomBytes (length : Nat) := { bs : Bytes // bs.length = length }

/-- `internal::StoreBigEndian32` and `BigEndian32`. -/
def bigEndian32 (value : UInt32) : Bytes :=
  [(value >>> 24).toUInt8, (value >>> 16).toUInt8, (value >>> 8).toUInt8, value.toUInt8]

theorem bigEndian32_value (v : UInt32) : BigEndian.value (bigEndian32 v) = v.toNat := by
  have hlt := v.toNat_lt
  unfold bigEndian32
  rw [BigEndian.value_cons, BigEndian.value_cons, BigEndian.value_cons, BigEndian.value_cons]
  simp only [UInt32.toNat_toUInt8, UInt32.toNat_shiftRight, List.length_cons, List.length_nil, Nat.shiftRight_eq_div_pow]
  have h0 : BigEndian.value [] = 0 := rfl
  have h24 : (24 : UInt32).toNat % 32 = 24 := rfl
  have h16 : (16 : UInt32).toNat % 32 = 16 := rfl
  have h8 : (8 : UInt32).toNat % 32 = 8 := rfl
  rw [h0, h24, h16, h8]
  omega

/-- Segment numbers below 2^32 are told apart by their bytes. -/
theorem bigEndian32_inj {m n : Nat} (hm : m < 2 ^ 32) (hn : n < 2 ^ 32)
    (h : bigEndian32 (UInt32.ofNat m) = bigEndian32 (UInt32.ofNat n)) : m = n := by
  have hval := congrArg BigEndian.value h
  rw [bigEndian32_value, bigEndian32_value, UInt32.toNat_ofNat_of_lt' hm, UInt32.toNat_ofNat_of_lt' hn] at hval
  exact hval

/-- What was bound has succeeded. -/
theorem bind_eq_ok {α β : Type} {x : Except Status α} {f : α → Except Status β} {b : β} (h : x >>= f = .ok b) :
    ∃ a, x = .ok a ∧ f a = .ok b := by
  cases x with
  | error e => cases h
  | ok a => exact ⟨a, rfl, h⟩

theorem map_eq_ok {α β : Type} {x : Except Status α} {f : α → β} {b : β} (h : x.map f = .ok b) :
    ∃ a, x = .ok a ∧ f a = b := by
  cases x with
  | error e => cases h
  | ok a => exact ⟨a, rfl, Except.ok.inj h⟩

/-- The salt and the nonce prefix of a header. -/
theorem header_parts (headerSize : UInt8) {salt noncePrefix : Bytes} {saltSize prefixSize : Nat}
    (hsalt : salt.length = saltSize) (hpre : noncePrefix.length = prefixSize) :
    ((headerSize :: (salt ++ noncePrefix)).drop 1).take saltSize = salt ∧
      ((headerSize :: (salt ++ noncePrefix)).drop (1 + saltSize)).take prefixSize = noncePrefix := by
  subst hsalt hpre
  constructor
  · rw [List.drop_one, List.tail_cons, List.take_left]
  · rw [Nat.add_comm 1, List.drop_succ_cons, List.drop_left, List.take_length]

/-! ## One segment -/

/-- What a call on a segment came to: refused before it made a nonce, or a result with the nonce that it used. -/
inductive SegmentResult
  | refused (error : Status)
  | done (nonce : Bytes) (result : Except Status Bytes)

/-- What the caller sees. -/
def SegmentResult.result : SegmentResult → Except Status Bytes
  | .refused error => .error error
  | .done _ result => result

/-- The check of `segment_number` that all four functions make. -/
def tooManySegments (segmentNumber : Nat) (isLastSegment : Bool) : Bool :=
  segmentNumber > 2 ^ 32 - 1 || (segmentNumber == 2 ^ 32 - 1 && !isLastSegment)

theorem tooManySegments_eq_false {segmentNumber : Nat} {isLastSegment : Bool}
    (h : tooManySegments segmentNumber isLastSegment = false) : segmentNumber < 2 ^ 32 := by
  unfold tooManySegments at h
  rw [Bool.or_eq_false_iff, decide_eq_false_iff_not] at h
  omega

/-- Both `EncryptSegment`s, by how they make a nonce and encrypt with it; and `segment_number_` after the call. -/
def encryptSegmentWith (plaintextSegmentSize : Int) (nonceOf : Nat → Bool → Bytes)
    (encrypt : (nonce plaintext : Bytes) → Except Status Bytes) (segmentNumber : Nat) (plaintext : Bytes)
    (isLastSegment : Bool) : SegmentResult × Nat :=
  if (plaintext.length : Int) > plaintextSegmentSize then
    (.refused ⟨.invalidArgument, "plaintext too long"⟩, segmentNumber)
  else if tooManySegments segmentNumber isLastSegment then
    (.refused ⟨.invalidArgument, "too many segments"⟩, segmentNumber)
  else
    let nonce := nonceOf segmentNumber isLastSegment
    match encrypt nonce plaintext with
    | .error e       => (.done nonce (.error e), segmentNumber)
    | .ok ciphertext => (.done nonce (.ok ciphertext), segmentNumber + 1)

/-- Both `DecryptSegment`s, once initialized. -/
def decryptSegmentWith (ciphertextSegmentSize tagSize : Int) (nonceOf : Nat → Bool → Bytes)
    (decrypt : (nonce ciphertext : Bytes) → Except Status Bytes) (ciphertext : Bytes) (segmentNumber : Nat)
    (isLastSegment : Bool) : SegmentResult :=
  if (ciphertext.length : Int) > ciphertextSegmentSize then .refused ⟨.invalidArgument, "ciphertext too long"⟩
  else if (ciphertext.length : Int) < tagSize then .refused ⟨.invalidArgument, "ciphertext too short"⟩
  else if tooManySegments segmentNumber isLastSegment then .refused ⟨.invalidArgument, "too many segments"⟩
  else
    let nonce := nonceOf segmentNumber isLastSegment
    .done nonce (decrypt nonce ciphertext)

section Segment
variable {size tagSize : Int} {nonceOf : Nat → Bool → Bytes} {crypt : (nonce bs : Bytes) → Except Status Bytes}
  {segmentNumber segmentNumber' : Nat} {bs : Bytes} {isLastSegment : Bool}

/-- **A successful call.** -/
theorem encryptSegmentWith_ok {nonce ciphertext : Bytes}
    (h : encryptSegmentWith size nonceOf crypt segmentNumber bs isLastSegment = (.done nonce (.ok ciphertext), segmentNumber')) :
    nonce = nonceOf segmentNumber isLastSegment ∧ crypt nonce bs = .ok ciphertext ∧ segmentNumber' = segmentNumber + 1 ∧
      tooManySegments segmentNumber isLastSegment = false ∧ (bs.length : Int) ≤ size := by
  unfold encryptSegmentWith at h
  split at h
  · cases h
  · split at h
    · cases h
    · rename_i hlen hmany
      simp only at h
      split at h
      · cases h
      · rename_i hcrypt
        cases h
        exact ⟨rfl, hcrypt, rfl, Bool.eq_false_iff.2 hmany, by omega⟩

/-- What the caller was given. -/
theorem encryptSegmentWith_result {ciphertext : Bytes}
    (h : (encryptSegmentWith size nonceOf crypt segmentNumber bs isLastSegment).1.result = .ok ciphertext) :
    crypt (nonceOf segmentNumber isLastSegment) bs = .ok ciphertext ∧ tooManySegments segmentNumber isLastSegment = false ∧
      (bs.length : Int) ≤ size := by
  cases hr : encryptSegmentWith size nonceOf crypt segmentNumber bs isLastSegment with
  | mk r segmentNumber' =>
    rw [hr] at h
    cases r with
    | refused e => cases h
    | done nonce result =>
      obtain rfl : result = .ok ciphertext := h
      obtain ⟨rfl, hcrypt, -, hmany, hlen⟩ := encryptSegmentWith_ok hr
      exact ⟨hcrypt, hmany, hlen⟩

/-- A call that fails leaves the segment number. -/
theorem encryptSegmentWith_failed {r : SegmentResult}
    (h : encryptSegmentWith size nonceOf crypt segmentNumber bs isLastSegment = (r, segmentNumber'))
    (hr : ∀ nonce ciphertext, r ≠ .done nonce (.ok ciphertext)) : segmentNumber' = segmentNumber := by
  unfold encryptSegmentWith at h
  split at h
  · cases h
    rfl
  · split at h
    · cases h
      rfl
    · simp only at h
      split at h
      · cases h
        rfl
      · cases h
        exact absurd rfl (hr _ _)

/-- A segment of a fitting size is decrypted with its nonce. -/
theorem decryptSegmentWith_eq (hsize : (bs.length : Int) ≤ size) (htag : tagSize ≤ bs.length)
    (hmany : tooManySegments segmentNumber isLastSegment = false) :
    decryptSegmentWith size tagSize nonceOf crypt bs segmentNumber isLastSegment =
      .done (nonceOf segmentNumber isLastSegment) (crypt (nonceOf segmentNumber isLastSegment) bs) := by
  unfold decryptSegmentWith
  rw [if_neg (by omega), if_neg (by omega), hmany]
  rfl

end Segment

/-! ## A sequence of calls -/

/-- A successful call of `EncryptSegment`. -/
structure SegmentCall where
  segmentNumber : Nat
  plaintext     : Bytes
  isLastSegment : Bool
  nonce         : Bytes
  ciphertext    : Bytes

/-- The successful ones of a sequence of calls. -/
def segmentCalls (encryptSegment : Nat → Bytes → Bool → SegmentResult × Nat) : Nat → List (Bytes × Bool) → List SegmentCall
  | _, [] => []
  | segmentNumber, (plaintext, isLastSegment) :: calls =>
    match encryptSegment segmentNumber plaintext isLastSegment with
    | (.done nonce (.ok ciphertext), segmentNumber') =>
      ⟨segmentNumber, plaintext, isLastSegment, nonce, ciphertext⟩ :: segmentCalls encryptSegment segmentNumber' calls
    | (_, segmentNumber') => segmentCalls encryptSegment segmentNumber' calls

/-- The call was made and gave this. -/
def SegmentCall.Succeeds (encryptSegment : Nat → Bytes → Bool → SegmentResult × Nat) (c : SegmentCall) : Prop :=
  encryptSegment c.segmentNumber c.plaintext c.isLastSegment = (.done c.nonce (.ok c.ciphertext), c.segmentNumber + 1)

section Calls
variable {size : Int} {nonceOf : Nat → Bool → Bytes} {encrypt : (nonce plaintext : Bytes) → Except Status Bytes}

/-- **The numbers of the successful calls go up.** -/
theorem segmentCalls_numbers : ∀ (calls : List (Bytes × Bool)) (segmentNumber : Nat),
    (segmentCalls (encryptSegmentWith size nonceOf encrypt) segmentNumber calls).Pairwise
        (fun c c' => c.segmentNumber < c'.segmentNumber) ∧
      ∀ c ∈ segmentCalls (encryptSegmentWith size nonceOf encrypt) segmentNumber calls,
        segmentNumber ≤ c.segmentNumber ∧ c.Succeeds (encryptSegmentWith size nonceOf encrypt)
  | [], _ => ⟨.nil, fun c hc => by cases hc⟩
  | (plaintext, isLastSegment) :: calls, segmentNumber => by
    rw [segmentCalls]
    split
    · rename_i nonce ciphertext segmentNumber' h
      obtain ⟨-, -, rfl, -⟩ := encryptSegmentWith_ok h
      obtain ⟨hpair, hmem⟩ := segmentCalls_numbers calls (segmentNumber + 1)
      refine ⟨List.pairwise_cons.2 ⟨fun c hc => (hmem c hc).1, hpair⟩, fun c hc => ?_⟩
      rcases List.mem_cons.1 hc with rfl | hc
      · exact ⟨le_rfl, h⟩
      · exact ⟨Nat.le_of_succ_le (hmem c hc).1, (hmem c hc).2⟩
    · rename_i r segmentNumber' hr h
      rw [encryptSegmentWith_failed h hr]
      exact segmentCalls_numbers calls segmentNumber

/-- A successful call of a sequence. -/
theorem segmentCalls_mem {calls : List (Bytes × Bool)} {segmentNumber : Nat} {c : SegmentCall}
    (hc : c ∈ segmentCalls (encryptSegmentWith size nonceOf encrypt) segmentNumber calls) :
    c.nonce = nonceOf c.segmentNumber c.isLastSegment ∧ tooManySegments c.segmentNumber c.isLastSegment = false ∧
      (c.plaintext.length : Int) ≤ size := by
  obtain ⟨hnonce, -, -, hmany, hlen⟩ := encryptSegmentWith_ok ((segmentCalls_numbers calls segmentNumber).2 c hc).2
  exact ⟨hnonce, hmany, hlen⟩

/-- **What tells segment numbers apart tells the calls apart.** -/
theorem segmentCalls_pairwise {R : SegmentCall → SegmentCall → Prop} (calls : List (Bytes × Bool)) (segmentNumber : Nat)
    (hR : ∀ {c c' : SegmentCall}, c.segmentNumber < 2 ^ 32 → c'.segmentNumber < 2 ^ 32 →
      c.segmentNumber ≠ c'.segmentNumber → c.nonce = nonceOf c.segmentNumber c.isLastSegment →
      c'.nonce = nonceOf c'.segmentNumber c'.isLastSegment → (c.plaintext.length : Int) ≤ size →
      (c'.plaintext.length : Int) ≤ size → R c c') :
    (segmentCalls (encryptSegmentWith size nonceOf encrypt) segmentNumber calls).Pairwise R := by
  refine (segmentCalls_numbers calls segmentNumber).1.imp_of_mem (fun {c c'} hc hc' hlt => ?_)
  obtain ⟨hnonce, hmany, hlen⟩ := segmentCalls_mem hc
  obtain ⟨hnonce', hmany', hlen'⟩ := segmentCalls_mem hc'
  exact hR (tooManySegments_eq_false hmany) (tooManySegments_eq_false hmany') hlt.ne hnonce hnonce' hlen hlen'

end Calls

end Tink
