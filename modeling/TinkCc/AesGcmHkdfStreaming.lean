import TinkCc.RandomAccessRead
import TinkCc.StreamSegments
/-!
# AesGcmHkdfStreaming — segments with AES-GCM

`AesGcmHkdfStreamSegmentEncrypter` and `AesGcmHkdfStreamSegmentDecrypter`.  A segment is encrypted with the nonce
prefix ‖ segment number ‖ last flag.

Over any calls the nonces are distinct and the decrypter makes the same ones (`nonces`), and together the two are what the
streams assume of a segment encrypter and its decrypter (`bounded`, `inverts`).
-/
namespace Tink

/-- The `bs` that were copied into a buffer, from `offset` on. -/
def copyTo (buffer : Bytes) (offset : Nat) (bs : Bytes) : Bytes :=
  buffer.take offset ++ bs ++ buffer.drop (offset + bs.length)

namespace AesGcmHkdfStreamSegmentEncrypter

def kNonceSizeInBytes : Nat := 12
def kNoncePrefixSizeInBytes : Nat := 7
def kTagSizeInBytes : Nat := 16

/-- `AesGcmHkdfStreamSegmentEncrypter::Params`. -/
structure Params where
  key                   : Bytes
  salt                  : Bytes
  ciphertextOffset      : Int
  ciphertextSegmentSize : Int

def validate (params : Params) : Except Status Unit :=
  if params.key.length ≠ 16 ∧ params.key.length ≠ 32 then .error ⟨.invalidArgument, "key must have 16 or 32 bytes"⟩
  else if params.key.length ≠ params.salt.length then .error ⟨.invalidArgument, "salt must have same size as the key"⟩
  else if params.ciphertextOffset < 0 then .error ⟨.invalidArgument, "ciphertext_offset must be non-negative"⟩
  else
    let headerSize : Int := 1 + params.salt.length + kNoncePrefixSizeInBytes
    if params.ciphertextSegmentSize ≤ params.ciphertextOffset + headerSize + kTagSizeInBytes then
      .error ⟨.invalidArgument, "ciphertext_segment_size too small"⟩
    else .ok ()

def createHeader (salt noncePrefix : Bytes) : Bytes :=
  UInt8.ofNat (1 + salt.length + kNoncePrefixSizeInBytes) :: (salt ++ noncePrefix)

def constructNonce (noncePrefix : Bytes) (segmentNumber : UInt32) (isLastSegment : Bool) : Bytes :=
  -- the buffer is not initialized, but every byte of it is written
  let iv : Bytes := List.replicate kNonceSizeInBytes 0
  let iv := copyTo iv 0 noncePrefix
  let iv := copyTo iv kNoncePrefixSizeInBytes (bigEndian32 segmentNumber)
  iv.set (iv.length - 1) (if isLastSegment then 1 else 0)

end AesGcmHkdfStreamSegmentEncrypter

/-- The const members of `AesGcmHkdfStreamSegmentEncrypter`. -/
structure AesGcmHkdfStreamSegmentEncrypter where
  aead                  : SslOneShotAead
  noncePrefix           : RandomBytes AesGcmHkdfStreamSegmentEncrypter.kNoncePrefixSizeInBytes
  header                : Bytes
  ciphertextSegmentSize : Int
  ciphertextOffset      : Int

namespace AesGcmHkdfStreamSegmentEncrypter

def new (lib : CryptoLibrary) (params : Params) (noncePrefix : RandomBytes kNoncePrefixSizeInBytes) :
    Except Status AesGcmHkdfStreamSegmentEncrypter := do
  validate params
  let aead ← lib.createAesGcmOneShotCrypter params.key
  return ⟨aead, noncePrefix, createHeader params.salt noncePrefix.1, params.ciphertextSegmentSize, params.ciphertextOffset⟩

variable (s : AesGcmHkdfStreamSegmentEncrypter)

def plaintextSegmentSize : Int := s.ciphertextSegmentSize - kTagSizeInBytes

/-- `EncryptSegment`, and `segment_number_` after it. -/
def encryptSegment : (segmentNumber : Nat) → (plaintext : Bytes) → (isLastSegment : Bool) → SegmentResult × Nat :=
  encryptSegmentWith s.plaintextSegmentSize
    (fun segmentNumber isLastSegment => constructNonce s.noncePrefix.1 (UInt32.ofNat segmentNumber) isLastSegment)
    (fun iv plaintext => do
      let ciphertextBuffer ← s.aead.encrypt plaintext [] iv
      return resize ciphertextBuffer (plaintext.length + kTagSizeInBytes))

def toSegmentEncrypter : SegmentEncrypter where
  header := s.header
  plaintextSegmentSize := s.plaintextSegmentSize.toNat
  ciphertextSegmentSize := s.ciphertextSegmentSize.toNat
  ciphertextOffset := s.ciphertextOffset.toNat
  encryptSegment segmentNumber plaintext isLastSegment := (s.encryptSegment segmentNumber plaintext isLastSegment).1.result

end AesGcmHkdfStreamSegmentEncrypter

/-! ## The decrypter -/

/-- `AesGcmHkdfStreamSegmentDecrypter::Params`, which are also its const members. -/
structure AesGcmHkdfStreamSegmentDecrypter where
  ikm                   : Bytes
  hkdfHash              : HashType
  derivedKeySize        : Int
  ciphertextOffset      : Int
  ciphertextSegmentSize : Int
  associatedData        : Bytes

namespace AesGcmHkdfStreamSegmentDecrypter

open AesGcmHkdfStreamSegmentEncrypter (kNonceSizeInBytes kNoncePrefixSizeInBytes kTagSizeInBytes)

/-- The members that `Init` sets. -/
structure Initialized where
  salt        : Bytes
  noncePrefix : Bytes
  aead        : SslOneShotAead

def validate (params : AesGcmHkdfStreamSegmentDecrypter) : Except Status Unit :=
  if ¬ (params.hkdfHash = .sha1 ∨ params.hkdfHash = .sha256 ∨ params.hkdfHash = .sha512) then
    .error ⟨.invalidArgument, "unsupported hkdf_hash"⟩
  else if params.derivedKeySize ≠ 16 ∧ params.derivedKeySize ≠ 32 then
    .error ⟨.invalidArgument, "derived_key_size must be 16 or 32"⟩
  else if params.ikm.length < 16 ∨ params.ikm.length < params.derivedKeySize.toNat then
    .error ⟨.invalidArgument, "ikm too small"⟩
  else if params.ciphertextOffset < 0 then .error ⟨.invalidArgument, "ciphertext_offset must be non-negative"⟩
  else
    let headerSize : Int := 1 + params.derivedKeySize + kNoncePrefixSizeInBytes
    if params.ciphertextSegmentSize ≤ params.ciphertextOffset + headerSize + kTagSizeInBytes then
      .error ⟨.invalidArgument, "ciphertext_segment_size too small"⟩
    else .ok ()

def new (params : AesGcmHkdfStreamSegmentDecrypter) : Except Status AesGcmHkdfStreamSegmentDecrypter := do
  validate params
  return params

variable (lib : CryptoLibrary) (d : AesGcmHkdfStreamSegmentDecrypter)

def headerSize : Int := 1 + d.derivedKeySize + kNoncePrefixSizeInBytes

def plaintextSegmentSize : Int := d.ciphertextSegmentSize - kTagSizeInBytes

def init (state : Option Initialized) (header : Bytes) : Except Status Initialized :=
  let headerSize := d.headerSize
  if state.isSome then .error ⟨.failedPrecondition, "decrypter already initialized"⟩
  else if (header.length : Int) ≠ headerSize then
    .error ⟨.invalidArgument, s!"wrong header size, expected {headerSize} bytes"⟩
  else if ((header.headD 0).toNat : Int) ≠ headerSize then .error ⟨.invalidArgument, "corrupted header"⟩
  else do
    let salt := (header.drop 1).take d.derivedKeySize.toNat
    let noncePrefix := (header.drop (1 + d.derivedKeySize.toNat)).take kNoncePrefixSizeInBytes
    let key ← lib.computeHkdf d.hkdfHash d.ikm salt d.associatedData d.derivedKeySize
    let aead ← lib.createAesGcmOneShotCrypter key
    return ⟨salt, noncePrefix, aead⟩

def decryptSegment (state : Option Initialized) (ciphertext : Bytes) (segmentNumber : Nat) (isLastSegment : Bool) :
    SegmentResult :=
  match state with
  | none   => .refused ⟨.failedPrecondition, "decrypter not initialized"⟩
  | some k =>
    decryptSegmentWith d.ciphertextSegmentSize kTagSizeInBytes
      (fun segmentNumber isLastSegment =>
        let iv : Bytes := List.replicate kNonceSizeInBytes 0
        let iv := copyTo iv 0 k.noncePrefix
        let iv := copyTo iv kNoncePrefixSizeInBytes (bigEndian32 (UInt32.ofNat segmentNumber))
        iv.set (iv.length - 1) (if isLastSegment then 1 else 0))
      (fun iv ciphertext => do
        let plaintextBuffer ← k.aead.decrypt ciphertext [] iv
        return resize plaintextBuffer (ciphertext.length - kTagSizeInBytes))
      ciphertext segmentNumber isLastSegment

def toSegmentDecrypter : SegmentDecrypter Initialized where
  headerSize := d.headerSize.toNat
  plaintextSegmentSize := d.plaintextSegmentSize.toNat
  ciphertextSegmentSize := d.ciphertextSegmentSize.toNat
  ciphertextOffset := d.ciphertextOffset.toNat
  init := d.init lib
  decryptSegment k ciphertext segmentNumber isLastSegment :=
    (d.decryptSegment (some k) ciphertext segmentNumber isLastSegment).result

end AesGcmHkdfStreamSegmentDecrypter

/-! ## The streaming AEAD -/

/-- `AesGcmHkdfStreaming::Params`, which are also its const members. -/
structure AesGcmHkdfStreaming where
  ikm                   : Bytes
  hkdfHash              : HashType
  derivedKeySize        : Int
  ciphertextSegmentSize : Int
  ciphertextOffset      : Int

namespace AesGcmHkdfStreaming

open AesGcmHkdfStreamSegmentEncrypter (kNoncePrefixSizeInBytes kTagSizeInBytes)

/-- Here the header is not counted, but for the salt in it. -/
def validate (params : AesGcmHkdfStreaming) : Except Status Unit :=
  if ¬ (params.hkdfHash = .sha1 ∨ params.hkdfHash = .sha256 ∨ params.hkdfHash = .sha512) then
    .error ⟨.invalidArgument, "unsupported hkdf_hash"⟩
  else if params.derivedKeySize ≠ 16 ∧ params.derivedKeySize ≠ 32 then
    .error ⟨.invalidArgument, "derived_key_size must be 16 or 32"⟩
  else if params.ikm.length < 16 ∨ params.ikm.length < params.derivedKeySize.toNat then
    .error ⟨.invalidArgument, "ikm too small"⟩
  else if params.ciphertextOffset < 0 then .error ⟨.invalidArgument, "ciphertext_offset must be non-negative"⟩
  else if params.ciphertextSegmentSize ≤ params.ciphertextOffset + params.derivedKeySize + kTagSizeInBytes then
    .error ⟨.invalidArgument, "ciphertext_segment_size too small"⟩
  else .ok ()

/-- `New`, outside FIPS mode. -/
def new (params : AesGcmHkdfStreaming) : Except Status AesGcmHkdfStreaming := do
  validate params
  return params

variable (s : AesGcmHkdfStreaming)

def newSegmentEncrypter (lib : CryptoLibrary) (associatedData : Bytes) (salt : RandomBytes s.derivedKeySize.toNat)
    (noncePrefix : RandomBytes kNoncePrefixSizeInBytes) : Except Status AesGcmHkdfStreamSegmentEncrypter := do
  let key ← lib.computeHkdf s.hkdfHash s.ikm salt.1 associatedData s.derivedKeySize
  AesGcmHkdfStreamSegmentEncrypter.new lib ⟨key, salt.1, s.ciphertextOffset, s.ciphertextSegmentSize⟩ noncePrefix

def newSegmentDecrypter (associatedData : Bytes) : Except Status AesGcmHkdfStreamSegmentDecrypter :=
  AesGcmHkdfStreamSegmentDecrypter.new
    ⟨s.ikm, s.hkdfHash, s.derivedKeySize, s.ciphertextOffset, s.ciphertextSegmentSize, associatedData⟩

end AesGcmHkdfStreaming

/-! ## The nonces -/

namespace AesGcmHkdfStreamSegmentEncrypter

variable {lib : CryptoLibrary} {params : Params} {noncePrefix : RandomBytes kNoncePrefixSizeInBytes}
  {s : AesGcmHkdfStreamSegmentEncrypter} {d : AesGcmHkdfStreamSegmentDecrypter}
  {k : AesGcmHkdfStreamSegmentDecrypter.Initialized}

theorem constructNonce_eq {noncePrefix : Bytes} (h : noncePrefix.length = kNoncePrefixSizeInBytes) (segmentNumber : UInt32)
    (isLastSegment : Bool) : constructNonce noncePrefix segmentNumber isLastSegment =
      noncePrefix ++ (bigEndian32 segmentNumber ++ [if isLastSegment then 1 else 0]) := by
  match noncePrefix, h with
  | [_, _, _, _, _, _, _], _ => rfl

/-- What `New` accepts, and what it makes of it. -/
theorem new_ok (h : new lib params noncePrefix = .ok s) :
    (params.key.length = 16 ∨ params.key.length = 32) ∧ params.salt.length = params.key.length ∧
    0 ≤ params.ciphertextOffset ∧
    params.ciphertextOffset + (1 + params.salt.length + kNoncePrefixSizeInBytes) + kTagSizeInBytes <
      params.ciphertextSegmentSize ∧
    ∃ aead, lib.createAesGcmOneShotCrypter params.key = .ok aead ∧
      s = ⟨aead, noncePrefix, createHeader params.salt noncePrefix.1, params.ciphertextSegmentSize, params.ciphertextOffset⟩ := by
  obtain ⟨_, hvalid, h⟩ := bind_eq_ok h
  obtain ⟨aead, haead, h⟩ := bind_eq_ok h
  cases h
  unfold validate at hvalid
  split at hvalid
  · cases hvalid
  · rename_i hkey
    split at hvalid
    · cases hvalid
    · rename_i hsalt
      split at hvalid
      · cases hvalid
      · rename_i hoffset
        simp only at hvalid
        split at hvalid
        · cases hvalid
        · rename_i hsize
          exact ⟨by omega, by omega, by omega, by omega, aead, haead, rfl⟩

/-- **The decrypter reads the nonce prefix from the header.** -/
theorem init_ok (hnew : new lib params noncePrefix = .ok s) (hsize : d.derivedKeySize = params.salt.length)
    (h : d.init lib none s.header = .ok k) : k.salt = params.salt ∧ k.noncePrefix = noncePrefix.1 := by
  obtain ⟨-, -, -, -, aead, -, rfl⟩ := new_ok hnew
  unfold AesGcmHkdfStreamSegmentDecrypter.init at h
  rw [if_neg (by simp)] at h
  split at h
  · cases h
  · split at h
    · cases h
    · obtain ⟨key, -, h⟩ := bind_eq_ok h
      obtain ⟨aead, -, h⟩ := bind_eq_ok h
      cases h
      rw [hsize]
      exact header_parts _ rfl noncePrefix.2

theorem constructNonce_ne {noncePrefix : Bytes} (h : noncePrefix.length = kNoncePrefixSizeInBytes) {m n : Nat} (hm : m < 2 ^ 32)
    (hn : n < 2 ^ 32) (hne : m ≠ n) (isLast isLast' : Bool) :
    constructNonce noncePrefix (UInt32.ofNat m) isLast ≠ constructNonce noncePrefix (UInt32.ofNat n) isLast' := by
  intro heq
  rw [constructNonce_eq h, constructNonce_eq h] at heq
  exact hne (bigEndian32_inj hm hn (List.append_inj (List.append_cancel_left heq) rfl).1)

/-- **Over any calls the nonces are distinct**, and the decrypter makes the same ones. -/
theorem nonces (hnew : new lib params noncePrefix = .ok s) (calls : List (Bytes × Bool)) :
    (segmentCalls s.encryptSegment 0 calls).Pairwise (fun c c' => c.nonce ≠ c'.nonce) ∧
    ∀ c ∈ segmentCalls s.encryptSegment 0 calls, c.segmentNumber < 2 ^ 32 ∧
      ∀ (d : AesGcmHkdfStreamSegmentDecrypter) (k : AesGcmHkdfStreamSegmentDecrypter.Initialized) (ciphertext : Bytes),
        d.derivedKeySize = params.salt.length → d.init lib none s.header = .ok k →
        kTagSizeInBytes ≤ ciphertext.length → (ciphertext.length : Int) ≤ d.ciphertextSegmentSize →
        ∃ r, d.decryptSegment (some k) ciphertext c.segmentNumber c.isLastSegment = .done c.nonce r := by
  unfold encryptSegment
  constructor
  · refine segmentCalls_pairwise calls 0 (fun {c c'} hn hn' hne hnonce hnonce' _ _ => ?_)
    rw [hnonce, hnonce']
    exact constructNonce_ne s.noncePrefix.2 hn hn' hne _ _
  · intro c hc
    obtain ⟨hnonce, hmany, -⟩ := segmentCalls_mem hc
    refine ⟨tooManySegments_eq_false hmany, fun d k ciphertext hsize hinit htag hct => ?_⟩
    obtain ⟨-, hpre⟩ := init_ok hnew hsize hinit
    obtain ⟨-, -, -, -, aead, -, rfl⟩ := new_ok hnew
    unfold AesGcmHkdfStreamSegmentDecrypter.decryptSegment
    simp only
    rw [decryptSegmentWith_eq hct (by omega) hmany, hpre, hnonce]
    exact ⟨_, rfl⟩

/-! ## The streams' assumptions -/

/-- The decrypter for the encrypter of these parameters. -/
structure Pairs (params : Params) (d : AesGcmHkdfStreamSegmentDecrypter) : Prop where
  derivedKeySize        : d.derivedKeySize = params.salt.length
  ciphertextOffset      : d.ciphertextOffset = params.ciphertextOffset
  ciphertextSegmentSize : d.ciphertextSegmentSize = params.ciphertextSegmentSize

/-- What a segment was encrypted to. -/
theorem encryptSegment_ok {segmentNumber : Nat} {plaintext ciphertext : Bytes} {isLastSegment : Bool}
    (h : s.toSegmentEncrypter.encryptSegment segmentNumber plaintext isLastSegment = .ok ciphertext) :
    tooManySegments segmentNumber isLastSegment = false ∧ (plaintext.length : Int) ≤ s.plaintextSegmentSize ∧
      ∃ buffer, s.aead.encrypt plaintext [] (constructNonce s.noncePrefix.1 (UInt32.ofNat segmentNumber) isLastSegment) =
        .ok buffer ∧ ciphertext = resize buffer (plaintext.length + kTagSizeInBytes) := by
  obtain ⟨henc, hmany, hlen⟩ := encryptSegmentWith_result h
  obtain ⟨buffer, hbuffer, hc⟩ := bind_eq_ok henc
  cases hc
  exact ⟨hmany, hlen, buffer, hbuffer, rfl⟩

/-- **What the streams assume of the sizes.** -/
theorem bounded (hnew : new lib params noncePrefix = .ok s) (hd : Pairs params d)
    (hint : params.ciphertextSegmentSize < 2 ^ 31) :
    Bounded s.toSegmentEncrypter (d.toSegmentDecrypter lib) kTagSizeInBytes := by
  obtain ⟨hkey, hsalt, hoffset, hsize, aead, -, rfl⟩ := new_ok hnew
  have htag : kTagSizeInBytes = 16 := rfl
  have hpre : kNoncePrefixSizeInBytes = 7 := rfl
  refine ⟨⟨?_, ?_, ?_, ?_, fun h => ?_⟩, by decide, ?_, fun h => ?_⟩
  · simp only [AesGcmHkdfStreamSegmentDecrypter.toSegmentDecrypter, AesGcmHkdfStreamSegmentDecrypter.headerSize,
      toSegmentEncrypter, createHeader, List.length_cons, List.length_append, noncePrefix.2, hd.derivedKeySize]
    omega
  · simp only [AesGcmHkdfStreamSegmentDecrypter.toSegmentDecrypter, AesGcmHkdfStreamSegmentDecrypter.plaintextSegmentSize,
      toSegmentEncrypter, plaintextSegmentSize, hd.ciphertextSegmentSize]
  · simp only [AesGcmHkdfStreamSegmentDecrypter.toSegmentDecrypter, toSegmentEncrypter, plaintextSegmentSize,
      hd.ciphertextSegmentSize]
    omega
  · simp only [AesGcmHkdfStreamSegmentDecrypter.toSegmentDecrypter, toSegmentEncrypter, hd.ciphertextOffset]
  · obtain ⟨-, -, buffer, -, rfl⟩ := encryptSegment_ok h
    exact resize_length _ _
  · simp only [AesGcmHkdfStreamSegmentDecrypter.toSegmentDecrypter, hd.ciphertextSegmentSize]
    omega
  · exact tooManySegments_eq_false (encryptSegment_ok h).1

/-- `New` leaves plaintext to the first segment. -/
theorem firstSegmentSize_pos (hnew : new lib params noncePrefix = .ok s) : 0 < s.toSegmentEncrypter.firstSegmentSize := by
  obtain ⟨-, -, hoffset, hsize, aead, -, rfl⟩ := new_ok hnew
  have hlen := noncePrefix.2
  simp only [SegmentEncrypter.firstSegmentSize, toSegmentEncrypter, plaintextSegmentSize, createHeader, List.length_cons,
    List.length_append, noncePrefix.2]
  omega

/-- The decrypter accepts the header, and derives the key. -/
theorem init_header {aead : SslOneShotAead} (hnew : new lib params noncePrefix = .ok s) (hd : Pairs params d)
    (hkey : lib.computeHkdf d.hkdfHash d.ikm params.salt d.associatedData d.derivedKeySize = .ok params.key)
    (haead : lib.createAesGcmOneShotCrypter params.key = .ok aead) :
    d.init lib none s.header = .ok ⟨params.salt, noncePrefix.1, aead⟩ := by
  obtain ⟨hkeySize, hsalt, -, -, aead', -, rfl⟩ := new_ok hnew
  have hpre : kNoncePrefixSizeInBytes = 7 := rfl
  have hheaderSize : d.headerSize = ((1 + params.salt.length + kNoncePrefixSizeInBytes : Nat) : Int) := by
    unfold AesGcmHkdfStreamSegmentDecrypter.headerSize
    rw [hd.derivedKeySize]
    push_cast
    rfl
  have hbyte : (UInt8.ofNat (1 + params.salt.length + kNoncePrefixSizeInBytes)).toNat =
      1 + params.salt.length + kNoncePrefixSizeInBytes := by
    have hbyteSize : UInt8.size = 256 := rfl
    exact UInt8.toNat_ofNat_of_lt' (by omega)
  obtain ⟨htake, hdrop⟩ := header_parts (UInt8.ofNat (1 + params.salt.length + kNoncePrefixSizeInBytes))
    (by rw [hd.derivedKeySize]; rfl : params.salt.length = d.derivedKeySize.toNat) noncePrefix.2
  simp only [AesGcmHkdfStreamSegmentDecrypter.init, createHeader, htake, hdrop]
  rw [if_neg (by simp), if_neg (by simp only [List.length_cons, List.length_append, noncePrefix.2]; omega),
    if_neg (by rw [List.headD_cons, hbyte, hheaderSize]; simp), hkey]
  change (lib.createAesGcmOneShotCrypter params.key >>= _) = _
  rw [haead]
  rfl

/-- **The decrypter undoes `EncryptSegment`**, if AES-GCM does and both derive the same key. -/
theorem inverts {aead : SslOneShotAead} (hnew : new lib params noncePrefix = .ok s) (hd : Pairs params d)
    (hkey : lib.computeHkdf d.hkdfHash d.ikm params.salt d.associatedData d.derivedKeySize = .ok params.key)
    (haead : lib.createAesGcmOneShotCrypter params.key = .ok aead)
    (hgcm : ∀ {plaintext iv ciphertext}, aead.encrypt plaintext [] iv = .ok ciphertext →
      ciphertext.length = plaintext.length + kTagSizeInBytes ∧ aead.decrypt ciphertext [] iv = .ok plaintext) :
    Inverts s.toSegmentEncrypter (d.toSegmentDecrypter lib) ⟨params.salt, noncePrefix.1, aead⟩ := by
  refine ⟨init_header hnew hd hkey haead, fun {i p isLast c} h => ?_⟩
  obtain ⟨-, -, -, -, aead', haead', rfl⟩ := new_ok hnew
  rw [haead] at haead'
  cases haead'
  obtain ⟨hmany, hlen, buffer, hbuffer, rfl⟩ := encryptSegment_ok h
  obtain ⟨hblen, hdec⟩ := hgcm hbuffer
  rw [← hblen, resize_self]
  have hct : (buffer.length : Int) ≤ d.ciphertextSegmentSize := by
    rw [hd.ciphertextSegmentSize]
    unfold plaintextSegmentSize at hlen
    simp only at hlen
    omega
  simp only [AesGcmHkdfStreamSegmentDecrypter.toSegmentDecrypter, AesGcmHkdfStreamSegmentDecrypter.decryptSegment]
  rw [decryptSegmentWith_eq hct (by omega) hmany]
  change ((aead.decrypt buffer [] (constructNonce noncePrefix.1 (UInt32.ofNat i) isLast)) >>= _) = _
  rw [hdec]
  change Except.ok (resize p (buffer.length - kTagSizeInBytes)) = _
  rw [(by omega : buffer.length - kTagSizeInBytes = p.length), resize_self]

end AesGcmHkdfStreamSegmentEncrypter

end Tink
