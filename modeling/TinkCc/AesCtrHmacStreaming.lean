import TinkCc.RandomAccessRead
import TinkCc.StreamSegments
/-!
# AesCtrHmacStreaming — segments with AES-CTR and HMAC

`AesCtrHmacStreamSegmentEncrypter` and `AesCtrHmacStreamSegmentDecrypter`.  A segment is encrypted in counter mode from
the block prefix ‖ segment number ‖ last flag ‖ 0000 on, and authenticated together with that block.

Over any calls the nonces are distinct and the decrypter makes the same ones, and no counter block is used twice
(`nonces`).  Together the two are what the streams assume of a segment encrypter and its decrypter (`bounded`,
`inverts`).
-/
namespace Tink

namespace AesCtrHmacStreaming

def kNoncePrefixSizeInBytes : Nat := 7
def kHmacKeySizeInBytes : Nat := 32

/-- `AesCtrHmacStreaming::Params`. -/
structure Params where
  ikm                   : Bytes
  hkdfAlgo              : HashType
  keySize               : Int
  ciphertextSegmentSize : Int
  ciphertextOffset      : Int
  tagAlgo               : HashType
  tagSize               : Int

def nonceForSegment (noncePrefix : Bytes) (segmentNumber : Nat) (isLastSegment : Bool) : Bytes :=
  noncePrefix ++ bigEndian32 (UInt32.ofNat segmentNumber) ++ (if isLastSegment then [1] else [0]) ++ [0, 0, 0, 0]

/-- `DeriveKeys`: the key and the HMAC key. -/
def deriveKeys (lib : CryptoLibrary) (ikm : Bytes) (hkdfAlgo : HashType) (salt associatedData : Bytes) (keySize : Int) :
    Except Status (Bytes × Bytes) := do
  let derivedKeyMaterialSize := keySize + kHmacKeySizeInBytes
  let keyMaterial ← lib.computeHkdf hkdfAlgo ikm salt associatedData derivedKeyMaterialSize
  return (keyMaterial.take keySize.toNat, keyMaterial.drop keySize.toNat)

def validate (params : Params) : Except Status Unit :=
  if params.keySize ≠ 16 ∧ params.keySize ≠ 32 then .error ⟨.invalidArgument, "key_size must be 16 or 32"⟩
  else if params.ikm.length < params.keySize.toNat then .error ⟨.invalidArgument, "input key material too small"⟩
  else if ¬ (params.hkdfAlgo = .sha1 ∨ params.hkdfAlgo = .sha256 ∨ params.hkdfAlgo = .sha512) then
    .error ⟨.invalidArgument, "unsupported hkdf_algo"⟩
  else
    let headerSize : Int := 1 + params.keySize + kNoncePrefixSizeInBytes
    if params.ciphertextSegmentSize ≤ params.ciphertextOffset + headerSize + params.tagSize then
      .error ⟨.invalidArgument, "ciphertext_segment_size too small"⟩
    else if params.ciphertextOffset < 0 then .error ⟨.invalidArgument, "ciphertext_offset must be non-negative"⟩
    else if params.tagSize < 10 then .error ⟨.invalidArgument, "tag_size too small"⟩
    else if ¬ (params.tagAlgo = .sha1 ∨ params.tagAlgo = .sha256 ∨ params.tagAlgo = .sha512) then
      .error ⟨.invalidArgument, "unsupported tag_algo"⟩
    else if (params.tagAlgo = .sha1 ∧ params.tagSize > 20) ∨ (params.tagAlgo = .sha256 ∧ params.tagSize > 32) ∨
        (params.tagAlgo = .sha512 ∧ params.tagSize > 64) then .error ⟨.invalidArgument, "tag_size too big"⟩
    else .ok ()

def makeHeader (salt noncePrefix : Bytes) : Bytes :=
  UInt8.ofNat (1 + salt.length + noncePrefix.length) :: (salt ++ noncePrefix)

/-- `Encrypt`: as many bytes as the plaintext has. -/
def encrypt (lib : CryptoLibrary) (key : Bytes) (cipher : AesCtrCipher) (nonce plaintext : Bytes) : Except Status Bytes := do
  let ciphertext ← lib.evpEncrypt cipher key nonce plaintext
  if ciphertext.length ≠ plaintext.length then .error ⟨.internal, "incorrect ciphertext size"⟩
  else .ok ciphertext

/-- `DecryptSensitive`. -/
def decryptSensitive (lib : CryptoLibrary) (key : Bytes) (cipher : AesCtrCipher) (nonce ciphertext : Bytes) :
    Except Status Bytes := do
  let plaintext ← lib.evpDecrypt cipher key nonce ciphertext
  if plaintext.length ≠ ciphertext.length then .error ⟨.internal, "incorrect plaintext size"⟩
  else .ok plaintext

/-- The counter blocks that AES-CTR encrypts a plaintext with. -/
def counterBlocks (nonce : Bytes) (plaintextSize : Nat) : List Bytes := BigEndian.counter nonce ((plaintextSize + 15) / 16)

end AesCtrHmacStreaming

open AesCtrHmacStreaming (kNoncePrefixSizeInBytes kHmacKeySizeInBytes Params nonceForSegment deriveKeys validate makeHeader
  encrypt decryptSensitive counterBlocks)

/-- The const members of `AesCtrHmacStreamSegmentEncrypter`. -/
structure AesCtrHmacStreamSegmentEncrypter where
  keyValue              : Bytes
  header                : Bytes
  noncePrefix           : RandomBytes kNoncePrefixSizeInBytes
  ciphertextSegmentSize : Int
  ciphertextOffset      : Int
  tagSize               : Int
  mac                   : Mac

namespace AesCtrHmacStreamSegmentEncrypter

def new (lib : CryptoLibrary) (params : Params) (associatedData : Bytes) (salt : RandomBytes params.keySize.toNat)
    (noncePrefix : RandomBytes kNoncePrefixSizeInBytes) : Except Status AesCtrHmacStreamSegmentEncrypter := do
  validate params
  let header := makeHeader salt.1 noncePrefix.1
  let (keyValue, hmacKeyValue) ← deriveKeys lib params.ikm params.hkdfAlgo salt.1 associatedData params.keySize
  let mac ← lib.newHmac params.tagAlgo params.tagSize hmacKeyValue
  return ⟨keyValue, header, noncePrefix, params.ciphertextSegmentSize, params.ciphertextOffset, params.tagSize, mac⟩

variable (lib : CryptoLibrary) (s : AesCtrHmacStreamSegmentEncrypter)

def plaintextSegmentSize : Int := s.ciphertextSegmentSize - s.tagSize

/-- `EncryptSegment`, and `segment_number_` after it. -/
def encryptSegment : (segmentNumber : Nat) → (plaintext : Bytes) → (isLastSegment : Bool) → SegmentResult × Nat :=
  encryptSegmentWith s.plaintextSegmentSize (nonceForSegment s.noncePrefix.1)
    (fun nonce plaintext => do
      let cipher ← getAesCtrCipherForKeySize s.keyValue.length
      let ciphertext ← encrypt lib s.keyValue cipher nonce plaintext
      let tag ← s.mac.computeMac (nonce ++ ciphertext)
      return ciphertext ++ resize tag s.tagSize.toNat)

def toSegmentEncrypter : SegmentEncrypter where
  header := s.header
  plaintextSegmentSize := s.plaintextSegmentSize.toNat
  ciphertextSegmentSize := s.ciphertextSegmentSize.toNat
  ciphertextOffset := s.ciphertextOffset.toNat
  encryptSegment segmentNumber plaintext isLastSegment :=
    (s.encryptSegment lib segmentNumber plaintext isLastSegment).1.result

end AesCtrHmacStreamSegmentEncrypter

/-! ## The decrypter -/

/-- The const members of `AesCtrHmacStreamSegmentDecrypter`. -/
structure AesCtrHmacStreamSegmentDecrypter where
  ikm                   : Bytes
  hkdfAlgo              : HashType
  keySize               : Int
  associatedData        : Bytes
  ciphertextSegmentSize : Int
  ciphertextOffset      : Int
  tagAlgo               : HashType
  tagSize               : Int

namespace AesCtrHmacStreamSegmentDecrypter

/-- The members that `Init` sets. -/
structure Initialized where
  noncePrefix : Bytes
  keyValue    : Bytes
  mac         : Mac

def new (params : Params) (associatedData : Bytes) : Except Status AesCtrHmacStreamSegmentDecrypter := do
  validate params
  return ⟨params.ikm, params.hkdfAlgo, params.keySize, associatedData, params.ciphertextSegmentSize,
    params.ciphertextOffset, params.tagAlgo, params.tagSize⟩

variable (lib : CryptoLibrary) (d : AesCtrHmacStreamSegmentDecrypter)

def headerSize : Int := 1 + d.keySize + kNoncePrefixSizeInBytes

def plaintextSegmentSize : Int := d.ciphertextSegmentSize - d.tagSize

def init (state : Option Initialized) (header : Bytes) : Except Status Initialized :=
  let headerSize := d.headerSize
  if state.isSome then .error ⟨.failedPrecondition, "decrypter alreday initialized"⟩
  else if (header.length : Int) ≠ headerSize then
    .error ⟨.invalidArgument, s!"wrong header size, expected {headerSize} bytes"⟩
  else if (header.headD 0).toNat ≠ header.length then .error ⟨.invalidArgument, "corrupted header"⟩
  else do
    let salt := (header.drop 1).take d.keySize.toNat
    let noncePrefix := (header.drop (1 + d.keySize.toNat)).take kNoncePrefixSizeInBytes
    let (keyValue, hmacKeyValue) ← deriveKeys lib d.ikm d.hkdfAlgo salt d.associatedData d.keySize
    let mac ← lib.newHmac d.tagAlgo d.tagSize hmacKeyValue
    return ⟨noncePrefix, keyValue, mac⟩

def decryptSegment (state : Option Initialized) (ciphertext : Bytes) (segmentNumber : Nat) (isLastSegment : Bool) :
    SegmentResult :=
  match state with
  | none   => .refused ⟨.failedPrecondition, "decrypter not initialized"⟩
  | some k =>
    decryptSegmentWith d.ciphertextSegmentSize d.tagSize (nonceForSegment k.noncePrefix)
      (fun nonce ciphertext => do
        let ptSize := ciphertext.length - d.tagSize.toNat
        k.mac.verifyMac (ciphertext.drop ptSize) (nonce ++ ciphertext.take ptSize)
        let cipher ← getAesCtrCipherForKeySize k.keyValue.length
        decryptSensitive lib k.keyValue cipher nonce (ciphertext.take ptSize))
      ciphertext segmentNumber isLastSegment

def toSegmentDecrypter : SegmentDecrypter Initialized where
  headerSize := d.headerSize.toNat
  plaintextSegmentSize := d.plaintextSegmentSize.toNat
  ciphertextSegmentSize := d.ciphertextSegmentSize.toNat
  ciphertextOffset := d.ciphertextOffset.toNat
  init := d.init lib
  decryptSegment k ciphertext segmentNumber isLastSegment :=
    (d.decryptSegment lib (some k) ciphertext segmentNumber isLastSegment).result

end AesCtrHmacStreamSegmentDecrypter

/-! ## The nonces -/

namespace AesCtrHmacStreaming

/-- What `Validate` accepts. -/
theorem validate_ok {params : Params} (h : validate params = .ok ()) :
    (params.keySize = 16 ∨ params.keySize = 32) ∧ 0 ≤ params.ciphertextOffset ∧ 10 ≤ params.tagSize ∧
      params.ciphertextOffset + (1 + params.keySize + kNoncePrefixSizeInBytes) + params.tagSize <
        params.ciphertextSegmentSize := by
  unfold validate at h
  split at h
  · cases h
  · rename_i hkey
    split at h
    · cases h
    · split at h
      · cases h
      · simp only at h
        split at h
        · cases h
        · rename_i hsize
          split at h
          · cases h
          · rename_i hoffset
            split at h
            · cases h
            · rename_i htag
              exact ⟨by omega, by omega, by omega, by omega⟩

/-- The nonce without its zeros. -/
def nonceFront (noncePrefix : Bytes) (segmentNumber : Nat) (isLastSegment : Bool) : Bytes :=
  noncePrefix ++ bigEndian32 (UInt32.ofNat segmentNumber) ++ (if isLastSegment then [1] else [0])

theorem nonceForSegment_eq (noncePrefix : Bytes) (segmentNumber : Nat) (isLastSegment : Bool) :
    nonceForSegment noncePrefix segmentNumber isLastSegment =
      nonceFront noncePrefix segmentNumber isLastSegment ++ List.replicate 4 0 := rfl

theorem nonceFront_length (noncePrefix : Bytes) (segmentNumber : Nat) (isLastSegment : Bool) :
    (nonceFront noncePrefix segmentNumber isLastSegment).length = noncePrefix.length + 5 := by
  unfold nonceFront bigEndian32
  cases isLastSegment <;> simp

theorem nonceFront_ne (noncePrefix : Bytes) {m n : Nat} (hm : m < 2 ^ 32) (hn : n < 2 ^ 32) (hne : m ≠ n)
    (isLast isLast' : Bool) : nonceFront noncePrefix m isLast ≠ nonceFront noncePrefix n isLast' := by
  intro heq
  unfold nonceFront at heq
  rw [List.append_assoc, List.append_assoc] at heq
  exact hne (bigEndian32_inj hm hn (List.append_inj (List.append_cancel_left heq) rfl).1)

end AesCtrHmacStreaming

namespace AesCtrHmacStreamSegmentEncrypter

open AesCtrHmacStreaming (validate_ok nonceFront nonceForSegment_eq nonceFront_length nonceFront_ne)

variable {lib : CryptoLibrary} {params : Params} {associatedData : Bytes} {salt : RandomBytes params.keySize.toNat}
  {noncePrefix : RandomBytes kNoncePrefixSizeInBytes} {s : AesCtrHmacStreamSegmentEncrypter}
  {d : AesCtrHmacStreamSegmentDecrypter} {k : AesCtrHmacStreamSegmentDecrypter.Initialized}

/-- What `New` makes of parameters that it accepts. -/
theorem new_ok (h : new lib params associatedData salt noncePrefix = .ok s) :
    validate params = .ok () ∧ ∃ keyValue hmacKeyValue mac,
      deriveKeys lib params.ikm params.hkdfAlgo salt.1 associatedData params.keySize = .ok (keyValue, hmacKeyValue) ∧
      lib.newHmac params.tagAlgo params.tagSize hmacKeyValue = .ok mac ∧
      s = ⟨keyValue, makeHeader salt.1 noncePrefix.1, noncePrefix, params.ciphertextSegmentSize, params.ciphertextOffset,
        params.tagSize, mac⟩ := by
  obtain ⟨_, hvalid, h⟩ := bind_eq_ok h
  obtain ⟨⟨keyValue, hmacKeyValue⟩, hkeys, h⟩ := bind_eq_ok h
  obtain ⟨mac, hmac, h⟩ := bind_eq_ok h
  cases h
  exact ⟨hvalid, keyValue, hmacKeyValue, mac, hkeys, hmac, rfl⟩

theorem decrypter_new_ok (h : AesCtrHmacStreamSegmentDecrypter.new params associatedData = .ok d) :
    d = ⟨params.ikm, params.hkdfAlgo, params.keySize, associatedData, params.ciphertextSegmentSize, params.ciphertextOffset,
      params.tagAlgo, params.tagSize⟩ := by
  obtain ⟨_, -, h⟩ := bind_eq_ok h
  cases h
  rfl

/-- **The decrypter reads the nonce prefix from the header.** -/
theorem init_ok (hnew : new lib params associatedData salt noncePrefix = .ok s) (hsize : d.keySize = params.keySize)
    (h : d.init lib none s.header = .ok k) : k.noncePrefix = noncePrefix.1 := by
  obtain ⟨-, keyValue, hmacKeyValue, mac, -, -, rfl⟩ := new_ok hnew
  unfold AesCtrHmacStreamSegmentDecrypter.init at h
  rw [if_neg (by simp)] at h
  split at h
  · cases h
  · split at h
    · cases h
    · obtain ⟨keys, -, h⟩ := bind_eq_ok h
      obtain ⟨mac, -, h⟩ := bind_eq_ok h
      cases h
      rw [hsize]
      exact (header_parts _ salt.2 noncePrefix.2).2

/-- **Over any calls the nonces are distinct and no counter block is used twice**, and the decrypter makes the same
nonces. -/
theorem nonces (hnew : new lib params associatedData salt noncePrefix = .ok s)
    (hint : params.ciphertextSegmentSize < 2 ^ 31) (calls : List (Bytes × Bool)) :
    (segmentCalls (s.encryptSegment lib) 0 calls).Pairwise (fun c c' => c.nonce ≠ c'.nonce ∧
      List.Disjoint (counterBlocks c.nonce c.plaintext.length) (counterBlocks c'.nonce c'.plaintext.length)) ∧
    ∀ c ∈ segmentCalls (s.encryptSegment lib) 0 calls, c.segmentNumber < 2 ^ 32 ∧
      ∀ (associatedData' : Bytes) (d : AesCtrHmacStreamSegmentDecrypter) (k : AesCtrHmacStreamSegmentDecrypter.Initialized)
        (ciphertext : Bytes), AesCtrHmacStreamSegmentDecrypter.new params associatedData' = .ok d →
        d.init lib none s.header = .ok k → params.tagSize ≤ ciphertext.length →
        (ciphertext.length : Int) ≤ params.ciphertextSegmentSize →
        ∃ r, d.decryptSegment lib (some k) ciphertext c.segmentNumber c.isLastSegment = .done c.nonce r := by
  unfold encryptSegment
  constructor
  · refine segmentCalls_pairwise calls 0 (fun {c c'} hn hn' hne hnonce hnonce' hlen hlen' => ?_)
    have hfront := nonceFront_ne s.noncePrefix.1 hn hn' hne c.isLastSegment c'.isLastSegment
    have hlens : (nonceFront s.noncePrefix.1 c.segmentNumber c.isLastSegment).length =
        (nonceFront s.noncePrefix.1 c'.segmentNumber c'.isLastSegment).length := by
      rw [nonceFront_length, nonceFront_length]
    rw [hnonce, hnonce', nonceForSegment_eq, nonceForSegment_eq]
    refine ⟨fun heq => hfront (List.append_inj heq hlens).1, ?_⟩
    -- a segment has fewer than 2^31 bytes, so its blocks fit in the four zeros
    have hsize : s.plaintextSegmentSize < 2 ^ 31 := by
      obtain ⟨hvalid, _, _, _, -, -, rfl⟩ := new_ok hnew
      obtain ⟨-, -, htag, -⟩ := validate_ok hvalid
      unfold plaintextSegmentSize
      simp only
      omega
    exact BigEndian.counter_disjoint hlens hfront (by omega) (by omega)
  · intro c hc
    obtain ⟨hnonce, hmany, -⟩ := segmentCalls_mem hc
    refine ⟨tooManySegments_eq_false hmany, fun associatedData' d k ciphertext hd hinit htag hct => ?_⟩
    have hd' := decrypter_new_ok hd
    have hpre := init_ok hnew (by rw [hd']) hinit
    obtain ⟨-, _, _, _, -, -, rfl⟩ := new_ok hnew
    subst hd'
    unfold AesCtrHmacStreamSegmentDecrypter.decryptSegment
    simp only
    rw [decryptSegmentWith_eq hct htag hmany, hpre, hnonce]
    exact ⟨_, rfl⟩

/-! ## The streams' assumptions -/

/-- What a segment was encrypted to. -/
theorem encryptSegment_ok {segmentNumber : Nat} {plaintext bs : Bytes} {isLastSegment : Bool}
    (h : (s.toSegmentEncrypter lib).encryptSegment segmentNumber plaintext isLastSegment = .ok bs) :
    tooManySegments segmentNumber isLastSegment = false ∧ (plaintext.length : Int) ≤ s.plaintextSegmentSize ∧
      ∃ cipher ciphertext tag, getAesCtrCipherForKeySize s.keyValue.length = .ok cipher ∧
        lib.evpEncrypt cipher s.keyValue (nonceForSegment s.noncePrefix.1 segmentNumber isLastSegment) plaintext =
          .ok ciphertext ∧ ciphertext.length = plaintext.length ∧
        s.mac.computeMac (nonceForSegment s.noncePrefix.1 segmentNumber isLastSegment ++ ciphertext) = .ok tag ∧
        bs = ciphertext ++ resize tag s.tagSize.toNat := by
  obtain ⟨henc, hmany, hlen⟩ := encryptSegmentWith_result h
  obtain ⟨cipher, hcipher, henc⟩ := bind_eq_ok henc
  obtain ⟨ciphertext, hct, henc⟩ := bind_eq_ok henc
  obtain ⟨tag, htag, henc⟩ := bind_eq_ok henc
  cases henc
  obtain ⟨ciphertext', hevp, hct⟩ := bind_eq_ok hct
  split at hct
  · cases hct
  · rename_i hsize
    cases hct
    exact ⟨hmany, hlen, cipher, ciphertext, tag, hcipher, hevp, not_not.1 hsize, htag, rfl⟩

/-- **What the streams assume of the sizes.** -/
theorem bounded (hnew : new lib params associatedData salt noncePrefix = .ok s)
    (hd : AesCtrHmacStreamSegmentDecrypter.new params associatedData = .ok d)
    (hint : params.ciphertextSegmentSize < 2 ^ 31) :
    Bounded (s.toSegmentEncrypter lib) (d.toSegmentDecrypter lib) params.tagSize.toNat := by
  obtain ⟨hvalid, keyValue, hmacKeyValue, mac, -, -, rfl⟩ := new_ok hnew
  obtain ⟨hkey, hoffset, htag, hsize⟩ := validate_ok hvalid
  obtain rfl := decrypter_new_ok hd
  have hpre : kNoncePrefixSizeInBytes = 7 := rfl
  refine ⟨⟨?_, rfl, ?_, rfl, fun h => ?_⟩, by omega, ?_, fun h => tooManySegments_eq_false (encryptSegment_ok h).1⟩
  · simp only [AesCtrHmacStreamSegmentDecrypter.toSegmentDecrypter, AesCtrHmacStreamSegmentDecrypter.headerSize,
      toSegmentEncrypter, makeHeader, List.length_cons, List.length_append, noncePrefix.2, salt.2]
    omega
  · simp only [AesCtrHmacStreamSegmentDecrypter.toSegmentDecrypter, toSegmentEncrypter, plaintextSegmentSize]
    omega
  · obtain ⟨-, -, cipher, ciphertext, tag, -, -, hlen, -, rfl⟩ := encryptSegment_ok h
    rw [List.length_append, resize_length, hlen]
  · simp only [AesCtrHmacStreamSegmentDecrypter.toSegmentDecrypter]
    omega

/-- `New` leaves plaintext to the first segment. -/
theorem firstSegmentSize_pos (hnew : new lib params associatedData salt noncePrefix = .ok s) :
    0 < (s.toSegmentEncrypter lib).firstSegmentSize := by
  obtain ⟨hvalid, keyValue, hmacKeyValue, mac, -, -, rfl⟩ := new_ok hnew
  obtain ⟨hkey, hoffset, htag, hsize⟩ := validate_ok hvalid
  simp only [SegmentEncrypter.firstSegmentSize, toSegmentEncrypter, plaintextSegmentSize, makeHeader, List.length_cons,
    List.length_append, noncePrefix.2, salt.2]
  omega

/-- The decrypter accepts the header, and derives the same keys. -/
theorem init_header (hnew : new lib params associatedData salt noncePrefix = .ok s)
    (hd : AesCtrHmacStreamSegmentDecrypter.new params associatedData = .ok d) :
    d.init lib none s.header = .ok ⟨noncePrefix.1, s.keyValue, s.mac⟩ := by
  obtain ⟨hvalid, keyValue, hmacKeyValue, mac, hkeys, hnewMac, rfl⟩ := new_ok hnew
  obtain ⟨hkey, -, -, -⟩ := validate_ok hvalid
  obtain rfl := decrypter_new_ok hd
  have hpre : kNoncePrefixSizeInBytes = 7 := rfl
  obtain ⟨htake, hdrop⟩ := header_parts (UInt8.ofNat (1 + salt.1.length + noncePrefix.1.length)) salt.2 noncePrefix.2
  have hlen : (makeHeader salt.1 noncePrefix.1).length = 1 + salt.1.length + noncePrefix.1.length := by
    simp only [makeHeader, List.length_cons, List.length_append]
    omega
  have hbyte : (UInt8.ofNat (1 + salt.1.length + noncePrefix.1.length)).toNat =
      1 + salt.1.length + noncePrefix.1.length := by
    have hbyteSize : UInt8.size = 256 := rfl
    refine UInt8.toNat_ofNat_of_lt' ?_
    rw [salt.2, noncePrefix.2]
    omega
  simp only [AesCtrHmacStreamSegmentDecrypter.init, AesCtrHmacStreamSegmentDecrypter.headerSize]
  rw [if_neg (by simp), if_neg (by rw [hlen, salt.2, noncePrefix.2]; omega), if_neg (by rw [hlen]; exact not_not.2 hbyte)]
  simp only [makeHeader]
  rw [htake, hdrop, hkeys]
  change (lib.newHmac params.tagAlgo params.tagSize hmacKeyValue >>= _) = _
  rw [hnewMac]
  rfl

/-- **The decrypter undoes `EncryptSegment`**, if AES-CTR does and the MAC accepts its own tags. -/
theorem inverts (hnew : new lib params associatedData salt noncePrefix = .ok s)
    (hd : AesCtrHmacStreamSegmentDecrypter.new params associatedData = .ok d)
    (hctr : ∀ {cipher key nonce plaintext ciphertext}, lib.evpEncrypt cipher key nonce plaintext = .ok ciphertext →
      lib.evpDecrypt cipher key nonce ciphertext = .ok plaintext)
    (hmac : ∀ {hash tagSize key mac data tag}, lib.newHmac hash tagSize key = .ok mac → mac.computeMac data = .ok tag →
      tag.length = tagSize.toNat ∧ mac.verifyMac tag data = .ok ()) :
    Inverts (s.toSegmentEncrypter lib) (d.toSegmentDecrypter lib) ⟨noncePrefix.1, s.keyValue, s.mac⟩ := by
  refine ⟨init_header hnew hd, fun {i p isLast c} h => ?_⟩
  obtain ⟨hvalid, keyValue, hmacKeyValue, mac, -, hnewMac, rfl⟩ := new_ok hnew
  obtain ⟨-, -, htag, -⟩ := validate_ok hvalid
  obtain rfl := decrypter_new_ok hd
  obtain ⟨hmany, hplen, cipher, ciphertext, tag, hcipher, hevp, hlen, hcompute, rfl⟩ := encryptSegment_ok h
  obtain ⟨htlen, hverify⟩ := hmac hnewMac hcompute
  rw [← htlen, resize_self]
  unfold plaintextSegmentSize at hplen
  simp only at hplen
  have hpt : (ciphertext ++ tag).length - params.tagSize.toNat = ciphertext.length := by
    rw [List.length_append]
    omega
  simp only [AesCtrHmacStreamSegmentDecrypter.toSegmentDecrypter, AesCtrHmacStreamSegmentDecrypter.decryptSegment]
  rw [decryptSegmentWith_eq (by rw [List.length_append]; omega) (by rw [List.length_append]; omega) hmany, hpt,
    List.take_left, List.drop_left]
  -- the tag is accepted, then the same cipher decrypts
  change (mac.verifyMac tag (nonceForSegment noncePrefix.1 i isLast ++ ciphertext) >>= _) = _
  rw [hverify]
  change (getAesCtrCipherForKeySize keyValue.length >>= _) = _
  rw [hcipher]
  change (lib.evpDecrypt cipher keyValue (nonceForSegment noncePrefix.1 i isLast) ciphertext >>= _) = _
  rw [hctr hevp]
  change (if p.length ≠ ciphertext.length then _ else _) = _
  rw [if_neg (not_not.2 hlen.symm)]

end AesCtrHmacStreamSegmentEncrypter

end Tink
