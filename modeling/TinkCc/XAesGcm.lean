import TinkCc.CordAesGcm
import TinkCc.LibNarrow
import TinkCc.StreamSegments
/-!
# XAesGcm — X-AES-GCM on flat strings and on cords

`aead/internal/base_x_aes_gcm.cc`, `zero_copy_x_aes_gcm_boringssl.cc`, `cord_x_aes_gcm_boringssl.cc`,
`zero_copy_aes_gcm_boringssl.cc` and the one-shot AES-GCM of `ssl_aead.cc`.  Both implementations derive an AES-GCM key from
a salt and put the salt in front of the AES-GCM ciphertext.  Where a check fails or the value of a failed `StatusOr` is read,
the program stops; `Handled` says that this does not happen and what the calls return, `handled_iff` exactly when it is so.
-/
namespace Tink

open Outcome

/-- The CMAC functions of OpenSSL; `none` where they fail. -/
structure CmacLibrary where
  Ctx               : Type
  ctxNew            : Option Ctx
  ctxCopy           : (out context : Ctx) → Option Ctx
  init              : Ctx → (key : Bytes) → Option Ctx
  update            : Ctx → (data : Bytes) → Option Ctx
  final             : Ctx → Option (Ctx × Bytes)
  reset             : Ctx → Option Ctx
  opensslIsBoringSsl : Bool

/-- The parameters of an `XAesGcmKey`. -/
structure XAesGcmParameters where
  saltSizeBytes : Nat
  salt_le       : 8 ≤ saltSizeBytes ∧ saltSizeBytes ≤ 12

/-- `XAesGcmParameters::Create`, of which only the salt's size matters here. -/
def XAesGcmParameters.create (saltSizeBytes : Nat) : Except Status XAesGcmParameters :=
  if h : saltSizeBytes < 8 ∨ 12 < saltSizeBytes then
    .error ⟨.invalidArgument, "Salt size must be between 8 and 12 bytes."⟩
  else .ok ⟨saltSizeBytes, by omega⟩

/-! ## The derivation of the key -/

section

variable (lib : CmacLibrary)

def kAesBlockSize : Nat := 16

def kMinSaltSize : Nat := 8

def kMaxSaltSize : Nat := 12

def cloneCmacContext (cmacCtx : lib.Ctx) : Except Status lib.Ctx := do
  let copyCtx ← required ⟨.internal, "failed CMAC_CTX_new"⟩ lib.ctxNew
  required ⟨.internal, "failed CMAC_CTX_copy"⟩ (lib.ctxCopy copyCtx cmacCtx)

/-- `SingleShotCmac`: the context after it, and its output. -/
def singleShotCmac (cmacCtx : lib.Ctx) (data : Bytes) : Except Status (lib.Ctx × Bytes) := do
  let cmacCtx ← required ⟨.internal, "failed CMAC_Update"⟩ (lib.update cmacCtx data)
  let (cmacCtx, output) ← required ⟨.internal, "failed CMAC_Final"⟩ (lib.final cmacCtx)
  if output.length ≠ kAesBlockSize then throw ⟨.internal, "CMAC_Final returned unexpected output length"⟩
  return (cmacCtx, output)

/-- `0, i, 'X', 0`, the salt, and zeros. -/
def derivationBlock (i : UInt8) (salt : Bytes) : Bytes :=
  [0, i, 88, 0] ++ salt ++ List.replicate (kAesBlockSize - 4 - salt.length) 0

/-- Before the second block. -/
def resetCmac (cmacCtx localCtx : lib.Ctx) : Except Status lib.Ctx :=
  if lib.opensslIsBoringSsl then required ⟨.internal, "failed CMAC_Reset"⟩ (lib.reset localCtx)
  else required ⟨.internal, "failed CMAC_CTX_copy"⟩ (lib.ctxCopy localCtx cmacCtx)

def derivePerMessageKeyImpl (cmacCtx : lib.Ctx) (salt : Bytes) : Except Status Bytes := do
  if kMaxSaltSize < salt.length then throw ⟨.invalidArgument, s!"salt size must be at most {kMaxSaltSize} bytes"⟩
  if salt.length < kMinSaltSize then throw ⟨.invalidArgument, s!"salt size must be at least {kMinSaltSize} bytes"⟩
  let localCtx ← cloneCmacContext lib cmacCtx
  let (localCtx, first) ← singleShotCmac lib localCtx (derivationBlock 1 salt)
  let localCtx ← resetCmac lib cmacCtx localCtx
  let (_, second) ← singleShotCmac lib localCtx (derivationBlock 2 salt)
  return first ++ second

end

/-- `BaseXAesGcm`. -/
structure BaseXAesGcm (lib : CmacLibrary) where
  cmacCtx    : lib.Ctx
  parameters : XAesGcmParameters

namespace BaseXAesGcm

variable {lib : CmacLibrary}

def kAesGcmIvSize : Nat := 12

def kTagSize : Nat := kAesBlockSize

def new (parameters : XAesGcmParameters) (keyBytes : Bytes) : Except Status (BaseXAesGcm lib) := do
  let cmacCtx ← required ⟨.internal, "failed CMAC_CTX_new"⟩ lib.ctxNew
  let cmacCtx ← required ⟨.internal, "failed CMAC_Init"⟩ (lib.init cmacCtx keyBytes)
  return ⟨cmacCtx, parameters⟩

def saltSize (b : BaseXAesGcm lib) : Nat := b.parameters.saltSizeBytes

def minCtSize (b : BaseXAesGcm lib) : Nat := b.saltSize + kAesGcmIvSize + kTagSize

def derivePerMessageKey (b : BaseXAesGcm lib) (salt : Bytes) : Except Status Bytes :=
  derivePerMessageKeyImpl lib b.cmacCtx salt

end BaseXAesGcm

/-! ## AES-GCM without copies -/

/-- `ZeroCopyAesGcmBoringSsl`.  What a call writes to its buffer, whose memory is the caller's and no other string's. -/
structure ZeroCopyAesGcmBoringSsl where
  aead         : SslOneShotAead
  outputPrefix : Bytes

namespace ZeroCopyAesGcmBoringSsl

def kIvSizeInBytes : Nat := 12

def kTagSizeInBytes : Nat := 16

def new (createAesGcmOneShotCrypter : Bytes → Except Status SslOneShotAead) (key : Bytes) :
    Except Status ZeroCopyAesGcmBoringSsl := do
  let aead ← createAesGcmOneShotCrypter key
  return ⟨aead, []⟩

/-- `aead_->CiphertextSize(plaintext_size)` behind the prefix and the initialization vector. -/
def maxEncryptionSize (s : ZeroCopyAesGcmBoringSsl) (plaintextSize : Int) : Int :=
  Narrow.toInt64 (s.outputPrefix.length + kIvSizeInBytes + (plaintextSize + kTagSizeInBytes))

def encrypt (s : ZeroCopyAesGcmBoringSsl) (iv : Except Status (RandomBytes kIvSizeInBytes))
    (plaintext associatedData : Bytes) (bufferSize : Nat) : Outcome Status Bytes := do
  let size := s.maxEncryptionSize (Narrow.toInt64 plaintext.length)
  check (0 ≤ size)
  if bufferSize < size.toNat then
    fails ⟨.invalidArgument,
      s!"Encryption buffer too small; expected at least {size} bytes, got {bufferSize}"⟩
  else
    let iv ← ofExcept iv
    let written ← ofExcept (s.aead.encrypt plaintext associatedData iv.1)
    return s.outputPrefix ++ iv.1 ++ written

def maxDecryptionSize (s : ZeroCopyAesGcmBoringSsl) (ciphertextSize : Int) : Int :=
  let size := Narrow.toInt64 (ciphertextSize - s.outputPrefix.length - kIvSizeInBytes - kTagSizeInBytes)
  if size ≤ 0 then 0 else size

def decrypt (s : ZeroCopyAesGcmBoringSsl) (ciphertext associatedData : Bytes) (bufferSize : Nat) :
    Outcome Status Bytes := do
  let minCiphertextSize := s.outputPrefix.length + kIvSizeInBytes + kTagSizeInBytes
  if ciphertext.length < minCiphertextSize then
    fails ⟨.invalidArgument,
      s!"Ciphertext too short; expected at least {minCiphertextSize} bytes, got {ciphertext.length}"⟩
  else
    let size := s.maxDecryptionSize (Narrow.toInt64 ciphertext.length)
    check (0 ≤ size)
    if bufferSize < size.toNat then
      fails ⟨.invalidArgument,
        s!"Decryption buffer too small; expected at least {size} bytes, got {bufferSize}"⟩
    else if !s.outputPrefix.isPrefixOf ciphertext then
      fails ⟨.invalidArgument, "Prefix mismatch"⟩
    else
      let ciphertext := ciphertext.drop s.outputPrefix.length
      ofExcept (s.aead.decrypt (ciphertext.drop kIvSizeInBytes) associatedData (ciphertext.take kIvSizeInBytes))

end ZeroCopyAesGcmBoringSsl

/-- A `CordAead`; what `Encrypt` draws at random is its first argument. -/
structure CordAead where
  encrypt : (iv : RandomBytes ZeroCopyAesGcmBoringSsl.kIvSizeInBytes) → (plaintext associatedData : Cord) →
    Except Status Cord
  decrypt : (ciphertext associatedData : Cord) → Except Status Cord

/-- What both implementations make of a key: the sealing and opening behind an `SslOneShotAead`, and the AES-GCM of cords
(`CordAesGcmBoringSsl::New`). -/
structure AesGcmLibrary where
  oneShotNew    : (key : Bytes) → Except Status SslOneShotAead
  cordAesGcmNew : (key : Bytes) → Except Status CordAead

/-! ## One-shot AES-GCM -/

namespace SslAead

def kAesGcmTagSizeInBytes : Nat := 16

/-- `std::numeric_limits<int>::max()`. -/
def kMaxInt : Nat := 2 ^ 31 - 1

def associatedDataTooLarge (associatedData : Bytes) : Status :=
  ⟨.invalidArgument, s!"Associated data too large; expected at most {kMaxInt} got {associatedData.length}"⟩

def ciphertextTooSmall (ciphertext : Bytes) : Status :=
  ⟨.invalidArgument,
    s!"Ciphertext buffer too small; expected at least {kAesGcmTagSizeInBytes} got {ciphertext.length}"⟩

/-- `OpenSslOneShotAeadImpl`, what it checks before `EncryptSensitive` and `DecryptSensitive`. -/
def openSslOneShotAeadImpl (sensitive : SslOneShotAead) : SslOneShotAead where
  encrypt plaintext associatedData iv :=
    if kMaxInt < associatedData.length then .error (associatedDataTooLarge associatedData)
    else sensitive.encrypt plaintext associatedData iv
  decrypt ciphertext associatedData iv :=
    if ciphertext.length < kAesGcmTagSizeInBytes then .error (ciphertextTooSmall ciphertext)
    else if kMaxInt < associatedData.length then .error (associatedDataTooLarge associatedData)
    else sensitive.decrypt ciphertext associatedData iv

/-- `BoringSslOneShotAeadImpl`, which takes associated data of any size. -/
def boringSslOneShotAeadImpl (sensitive : SslOneShotAead) : SslOneShotAead where
  encrypt := sensitive.encrypt
  decrypt ciphertext associatedData iv :=
    if ciphertext.length < kAesGcmTagSizeInBytes then .error (ciphertextTooSmall ciphertext)
    else sensitive.decrypt ciphertext associatedData iv

end SslAead

/-- An X-AES-GCM key's object, with the libraries it calls. -/
structure XAesGcm where
  cmac        : CmacLibrary
  baseXAesGcm : BaseXAesGcm cmac
  aesGcm      : AesGcmLibrary

namespace XAesGcm

variable (x : XAesGcm)

/-- What `Random::GetRandomBytes` may write to a salt. -/
abbrev Salt := RandomBytes x.baseXAesGcm.saltSize

abbrev Iv := RandomBytes ZeroCopyAesGcmBoringSsl.kIvSizeInBytes

def oneShotAeadImpl (sensitive : SslOneShotAead) : SslOneShotAead :=
  if x.cmac.opensslIsBoringSsl then SslAead.boringSslOneShotAeadImpl sensitive
  else SslAead.openSslOneShotAeadImpl sensitive

def createAesGcmOneShotCrypter (key : Bytes) : Except Status SslOneShotAead := do
  let sensitive ← x.aesGcm.oneShotNew key
  return x.oneShotAeadImpl sensitive

/-! ## X-AES-GCM without copies -/

def maxEncryptionSize (plaintextSize : Int) : Int := Narrow.toInt64 (x.baseXAesGcm.minCtSize + plaintextSize)

/-- `Encrypt`, with the outcomes of drawing a salt and an initialization vector. -/
def encrypt (salt : Except Status x.Salt) (iv : Except Status Iv) (plaintext associatedData : Bytes) (bufferSize : Nat) :
    Outcome Status Bytes := do
  let size := x.maxEncryptionSize (Narrow.toInt64 plaintext.length)
  check (0 ≤ size)
  if bufferSize < size.toNat then
    fails ⟨.invalidArgument,
      s!"Encryption buffer too small; expected at least {size} bytes, got {bufferSize}"⟩
  else
    let salt ← ofExcept salt
    let derivedKey ← ofExcept (x.baseXAesGcm.derivePerMessageKey salt.1)
    let zeroCopyAead ← ofExcept (ZeroCopyAesGcmBoringSsl.new x.createAesGcmOneShotCrypter derivedKey)
    let written ← zeroCopyAead.encrypt iv plaintext associatedData (bufferSize - x.baseXAesGcm.saltSize)
    return salt.1 ++ written

def maxDecryptionSize (ciphertextSize : Int) : Int :=
  let size := Narrow.toInt64 (ciphertextSize - x.baseXAesGcm.minCtSize)
  if size ≤ 0 then 0 else size

/-- `Decrypt`, which keeps the result of `MaxDecryptionSize` in an `int`. -/
def decrypt (ciphertext associatedData : Bytes) (bufferSize : Nat) : Outcome Status Bytes := do
  let minCtSize := x.baseXAesGcm.minCtSize
  if ciphertext.length < minCtSize then
    fails ⟨.invalidArgument,
      s!"Ciphertext too short; expected at least {minCtSize} bytes, got {ciphertext.length}"⟩
  else
    let maxSize := x.maxDecryptionSize (Narrow.toInt64 ciphertext.length)
    check (0 ≤ Narrow.toInt maxSize)
    if bufferSize < (Narrow.toInt maxSize).toNat then
      fails ⟨.invalidArgument,
        s!"Decryption buffer too small; expected at least {maxSize} bytes, got {bufferSize}"⟩
    else
      let derivedKey ← ofExcept (x.baseXAesGcm.derivePerMessageKey (ciphertext.take x.baseXAesGcm.saltSize))
      let zeroCopyAead ← ofExcept (ZeroCopyAesGcmBoringSsl.new x.createAesGcmOneShotCrypter derivedKey)
      zeroCopyAead.decrypt (ciphertext.drop x.baseXAesGcm.saltSize) associatedData bufferSize

/-! ## X-AES-GCM on cords -/

/-- The value of a `StatusOr`, which must be OK. -/
def deref {α : Type} : Except Status α → Outcome Status α
  | .ok a => returns a
  | .error _ => checkFails

/-- `Encrypt`, which does not look whether AES-GCM's `Encrypt` failed. -/
def cordEncrypt (salt : x.Salt) (iv : Iv) (plaintext associatedData : Cord) : Outcome Status Cord := do
  let derivedKey ← ofExcept (x.baseXAesGcm.derivePerMessageKey salt.1)
  let aead ← ofExcept (x.aesGcm.cordAesGcmNew derivedKey)
  let ciphertext ← deref (aead.encrypt iv plaintext associatedData)
  return ciphertext.prepend salt.1

/-- `Decrypt`, which does not look whether there is an AES-GCM object. -/
def cordDecrypt (ciphertext associatedData : Cord) : Outcome Status Cord := do
  let minCtSize := x.baseXAesGcm.minCtSize
  if ciphertext.size < minCtSize then
    fails ⟨.invalidArgument, s!"ciphertext too short, expected at least {minCtSize} bytes"⟩
  else
    let salt ← (CordReader.new ciphertext).readN x.baseXAesGcm.saltSize
    let ciphertext ← ciphertext.removePrefix x.baseXAesGcm.saltSize
    let derivedKey ← ofExcept (x.baseXAesGcm.derivePerMessageKey salt)
    let aead ← deref (x.aesGcm.cordAesGcmNew derivedKey)
    ofExcept (aead.decrypt ciphertext associatedData)

end XAesGcm

/-! ## What is assumed of AES-GCM -/

/-- AES-GCM on strings: the ciphertext with its tag, if the text is not too long, and the plaintext of a ciphertext that is
accepted. -/
structure AesGcm where
  sealText    : (key iv plaintext associatedData : Bytes) → Option Bytes
  openText    : (key iv ciphertext associatedData : Bytes) → Option Bytes
  open_seal   : ∀ key iv plaintext aad ciphertext, sealText key iv plaintext aad = some ciphertext →
    openText key iv ciphertext aad = some plaintext
  seal_length : ∀ key iv plaintext aad ciphertext, sealText key iv plaintext aad = some ciphertext →
    ciphertext.length = plaintext.length + 16
  open_length : ∀ key iv ciphertext aad plaintext, openText key iv ciphertext aad = some plaintext →
    ciphertext.length = plaintext.length + 16

namespace XAesGcm

variable (x : XAesGcm)

/-- The one-shot AES-GCM takes associated data of this size. -/
def TakesAad (associatedData : Bytes) : Prop :=
  x.cmac.opensslIsBoringSsl = true ∨ associatedData.length ≤ SslAead.kMaxInt

/-- **The library is AES-GCM** with this associated data: it encrypts or fails, and it decrypts what AES-GCM accepts. -/
structure AesGcmCorrect (gcm : AesGcm) (aad : Cord) : Prop where
  oneShot_encrypt : ∀ key sensitive, x.aesGcm.oneShotNew key = .ok sensitive → x.TakesAad aad.flatten →
    ∀ plaintext iv out, sensitive.encrypt plaintext aad.flatten iv = .ok out →
      gcm.sealText key iv plaintext aad.flatten = some out
  oneShot_decrypt : ∀ key sensitive, x.aesGcm.oneShotNew key = .ok sensitive → x.TakesAad aad.flatten →
    ∀ ciphertext iv out, sensitive.decrypt ciphertext aad.flatten iv = .ok out ↔
      gcm.openText key iv ciphertext aad.flatten = some out
  cord_encrypt    : ∀ key aead, x.aesGcm.cordAesGcmNew key = .ok aead → ∀ iv plaintext out,
    aead.encrypt iv plaintext aad = .ok out →
    ∃ ciphertext, gcm.sealText key iv.1 plaintext.flatten aad.flatten = some ciphertext ∧ out.flatten = iv.1 ++ ciphertext
  cord_decrypt    : ∀ key aead, x.aesGcm.cordAesGcmNew key = .ok aead → ∀ ciphertext out,
    (∃ cord, aead.decrypt ciphertext aad = .ok cord ∧ cord.flatten = out) ↔
      gcm.openText key (ciphertext.flatten.take 12) (ciphertext.flatten.drop 12) aad.flatten = some out

/-- The ciphertext has the least size, `key` is the key of its salt, and AES-GCM accepts what is behind the salt. -/
structure Accepts (gcm : AesGcm) (key text associatedData plaintext : Bytes) : Prop where
  long    : x.baseXAesGcm.minCtSize ≤ text.length
  derives : x.baseXAesGcm.derivePerMessageKey (text.take x.baseXAesGcm.saltSize) = .ok key
  opens   : gcm.openText key ((text.drop x.baseXAesGcm.saltSize).take 12) ((text.drop x.baseXAesGcm.saltSize).drop 12)
    associatedData = some plaintext

/-- What the four calls are given: the texts, the sizes of the buffers, and what is drawn at random. -/
structure Input where
  plaintext      : Cord
  associatedData : Cord
  ciphertext     : Cord
  encryptBuffer  : Nat
  decryptBuffer  : Nat
  salt           : Except Status x.Salt
  iv             : Except Status Iv
  cordSalt       : x.Salt
  cordIv         : Iv

namespace Input

variable {x} (i : x.Input)

def encrypted : Outcome Status Bytes :=
  x.encrypt i.salt i.iv i.plaintext.flatten i.associatedData.flatten i.encryptBuffer

def decrypted : Outcome Status Bytes := x.decrypt i.ciphertext.flatten i.associatedData.flatten i.decryptBuffer

def cordEncrypted : Outcome Status Cord := x.cordEncrypt i.cordSalt i.cordIv i.plaintext i.associatedData

def cordDecrypted : Outcome Status Cord := x.cordDecrypt i.ciphertext i.associatedData

/-- The buffer has the size that `MaxDecryptionSize` says. -/
def Roomy : Prop := (x.maxDecryptionSize i.ciphertext.size).toNat ≤ i.decryptBuffer

/-- **Every call returns or fails with an error**, decrypting is the inverse of encrypting, both implementations accept the
same ciphertexts, and the sizes are exact. -/
structure Handled : Prop where
  encrypts       : i.encrypted.ComesBack
  decrypts       : i.decrypted.ComesBack
  cordEncrypts   : i.cordEncrypted.ComesBack
  cordDecrypts   : i.cordDecrypted.ComesBack
  inverse        : i.Roomy → i.encrypted = returns i.ciphertext.flatten → i.decrypted = returns i.plaintext.flatten
  cordInverse    : ∀ cord, i.cordEncrypted = returns cord → cord.flatten = i.ciphertext.flatten →
    ∃ plaintext, i.cordDecrypted = returns plaintext ∧ plaintext.flatten = i.plaintext.flatten
  accepts        : i.Roomy → ∀ plaintext, i.decrypted = returns plaintext ↔
    ∃ cord, i.cordDecrypted = returns cord ∧ cord.flatten = plaintext
  encryptionSize : ∀ written, i.encrypted = returns written → written.length = x.maxEncryptionSize i.plaintext.size
  decryptionSize : ∀ written, i.decrypted = returns written → written.length = x.maxDecryptionSize i.ciphertext.size

/-- **What the code relies on and does not check**: what the ciphertext has more than the least size is not negative in an
`int`, the AES-GCM of cords does not fail to encrypt, for the key of a ciphertext there is an AES-GCM of cords, and the
one-shot AES-GCM does not refuse a ciphertext that AES-GCM accepts. -/
structure Unfailing (gcm : AesGcm) : Prop where
  narrow   : x.baseXAesGcm.minCtSize ≤ i.ciphertext.size →
    (i.ciphertext.size - x.baseXAesGcm.minCtSize) % 2 ^ 32 < 2 ^ 31
  encrypts : ∀ key aead, x.baseXAesGcm.derivePerMessageKey i.cordSalt.1 = .ok key → x.aesGcm.cordAesGcmNew key = .ok aead →
    ∃ cord, aead.encrypt i.cordIv i.plaintext i.associatedData = .ok cord
  creates  : ∀ key, x.baseXAesGcm.minCtSize ≤ i.ciphertext.size →
    x.baseXAesGcm.derivePerMessageKey (i.ciphertext.flatten.take x.baseXAesGcm.saltSize) = .ok key →
    ∃ aead, x.aesGcm.cordAesGcmNew key = .ok aead
  takes    : i.Roomy → ∀ key plaintext, x.Accepts gcm key i.ciphertext.flatten i.associatedData.flatten plaintext →
    (∃ sensitive, x.aesGcm.oneShotNew key = .ok sensitive) ∧ x.TakesAad i.associatedData.flatten

end Input

/-! ## Sizes -/

variable {x}

theorem minCtSize_eq : x.baseXAesGcm.minCtSize = x.baseXAesGcm.saltSize + 28 := rfl

theorem saltSize_le : x.baseXAesGcm.saltSize ≤ 12 := x.baseXAesGcm.parameters.salt_le.2

theorem maxEncryptionSize_eq {n : Nat} (h : n < 2 ^ 62) : x.maxEncryptionSize n = (x.baseXAesGcm.minCtSize + n : Nat) := by
  have hmin := minCtSize_eq (x := x)
  have hsalt := saltSize_le (x := x)
  unfold maxEncryptionSize
  rw [Narrow.toInt64_of_le_of_lt (by omega) (by omega), Int.natCast_add]

theorem maxDecryptionSize_eq {n : Nat} (h : n < 2 ^ 62) : x.maxDecryptionSize n = (n - x.baseXAesGcm.minCtSize : Nat) := by
  have hmin := minCtSize_eq (x := x)
  have hsalt := saltSize_le (x := x)
  unfold maxDecryptionSize
  simp only
  rw [Narrow.toInt64_of_le_of_lt (by omega) (by omega)]
  split <;> omega

/-- What is left of that number in an `int` is not negative where its lowest 32 bits are below 2^31. -/
theorem narrowed_nonneg_iff {n : Nat} (h : n < 2 ^ 62) :
    0 ≤ Narrow.toInt (x.maxDecryptionSize n) ↔ (n - x.baseXAesGcm.minCtSize) % 2 ^ 32 < 2 ^ 31 := by
  have hneg := Narrow.toInt_neg_iff (n - x.baseXAesGcm.minCtSize : Nat)
  rw [maxDecryptionSize_eq h]
  omega

theorem narrowed_le {n : Nat} (h : n < 2 ^ 62) : Narrow.toInt (x.maxDecryptionSize n) ≤ x.maxDecryptionSize n := by
  rw [maxDecryptionSize_eq h]
  exact Narrow.toInt_le_of_nonneg (Int.natCast_nonneg _)

end XAesGcm

/-! ## One-shot AES-GCM -/

namespace XAesGcm

variable {x : XAesGcm} {gcm : AesGcm} {key text iv associatedData out : Bytes} {aead sensitive : SslOneShotAead}

theorem createAesGcmOneShotCrypter_eq_ok : x.createAesGcmOneShotCrypter key = .ok aead ↔
    ∃ sensitive, x.aesGcm.oneShotNew key = .ok sensitive ∧ aead = x.oneShotAeadImpl sensitive := by
  unfold createAesGcmOneShotCrypter
  cases x.aesGcm.oneShotNew key with
  | error e => exact ⟨nofun, nofun⟩
  | ok sensitive =>
    constructor
    · intro h
      cases h
      exact ⟨sensitive, rfl, rfl⟩
    · rintro ⟨_, h, rfl⟩
      cases h
      rfl

theorem oneShot_encrypts (h : (x.oneShotAeadImpl sensitive).encrypt text associatedData iv = .ok out) :
    x.TakesAad associatedData ∧ sensitive.encrypt text associatedData iv = .ok out := by
  unfold oneShotAeadImpl at h
  cases hboring : x.cmac.opensslIsBoringSsl with
  | true =>
    rw [hboring, if_pos rfl] at h
    exact ⟨.inl hboring, h⟩
  | false =>
    rw [hboring, if_neg Bool.false_ne_true] at h
    unfold SslAead.openSslOneShotAeadImpl at h
    simp only at h
    split at h
    · cases h
    · next hsize => exact ⟨.inr (Nat.le_of_not_lt hsize), h⟩

/-- **The one-shot AEAD decrypts what AES-GCM accepts** where the associated data is not too large for it. -/
theorem oneShot_decrypts_iff {aad : Cord} (hgcm : x.AesGcmCorrect gcm aad) (hnew : x.aesGcm.oneShotNew key = .ok sensitive) :
    (x.oneShotAeadImpl sensitive).decrypt text aad.flatten iv = .ok out ↔
      x.TakesAad aad.flatten ∧ gcm.openText key iv text aad.flatten = some out := by
  have hdecrypt := fun htakes => hgcm.oneShot_decrypt key sensitive hnew htakes text iv out
  have hlength := gcm.open_length key iv text aad.flatten out
  unfold oneShotAeadImpl
  cases hboring : x.cmac.opensslIsBoringSsl with
  | true =>
    have htakes : x.TakesAad aad.flatten := .inl hboring
    rw [if_pos rfl, ← hdecrypt htakes]
    unfold SslAead.boringSslOneShotAeadImpl
    simp only
    split
    · next hshort =>
      refine ⟨nofun, fun ⟨_, hok⟩ => ?_⟩
      have := hlength ((hdecrypt htakes).1 hok)
      simp only [SslAead.kAesGcmTagSizeInBytes] at hshort
      omega
    · exact ⟨fun hok => ⟨htakes, hok⟩, And.right⟩
  | false =>
    have htakes : x.TakesAad aad.flatten ↔ aad.flatten.length ≤ SslAead.kMaxInt := by simp [TakesAad, hboring]
    rw [if_neg Bool.false_ne_true]
    unfold SslAead.openSslOneShotAeadImpl
    simp only
    split
    · next hshort =>
      refine ⟨nofun, fun ⟨_, hopen⟩ => ?_⟩
      have := hlength hopen
      simp only [SslAead.kAesGcmTagSizeInBytes] at hshort
      omega
    · split
      · next hsize => exact ⟨nofun, fun ⟨ht, _⟩ => absurd hsize (Nat.not_lt.2 (htakes.1 ht))⟩
      · next hsize =>
        have ht := htakes.2 (Nat.le_of_not_lt hsize)
        exact ⟨fun hok => ⟨ht, (hdecrypt ht).1 hok⟩, fun ⟨_, hopen⟩ => (hdecrypt ht).2 hopen⟩

end XAesGcm

/-! ## AES-GCM without copies -/

/-- A size in an `int64_t`. -/
theorem toInt64_size {n : Nat} (h : n < 2 ^ 62) : Narrow.toInt64 n = n :=
  Narrow.toInt64_natCast (Nat.lt_trans h (by decide))

namespace ZeroCopyAesGcmBoringSsl

variable {create : Bytes → Except Status SslOneShotAead} {key : Bytes} {s : ZeroCopyAesGcmBoringSsl}
  {aead : SslOneShotAead}

theorem new_eq_ok : new create key = .ok s ↔ ∃ aead, create key = .ok aead ∧ s = ⟨aead, []⟩ := by
  unfold new
  cases create key with
  | error e => exact ⟨nofun, fun ⟨_, h, _⟩ => nomatch h⟩
  | ok aead =>
    constructor
    · intro h
      cases h
      exact ⟨aead, rfl, rfl⟩
    · rintro ⟨_, h, rfl⟩
      cases h
      rfl

theorem maxEncryptionSize_eq {n : Nat} (h : n < 2 ^ 62) : maxEncryptionSize ⟨aead, []⟩ n = (n + 28 : Nat) := by
  have hconst : kIvSizeInBytes = 12 ∧ kTagSizeInBytes = 16 := ⟨rfl, rfl⟩
  unfold maxEncryptionSize
  simp only [List.length_nil]
  rw [Narrow.toInt64_of_le_of_lt (by omega) (by omega)]
  omega

theorem maxDecryptionSize_eq {n : Nat} (h : n < 2 ^ 62) : maxDecryptionSize ⟨aead, []⟩ n = (n - 28 : Nat) := by
  have hconst : kIvSizeInBytes = 12 ∧ kTagSizeInBytes = 16 := ⟨rfl, rfl⟩
  unfold maxDecryptionSize
  simp only [List.length_nil]
  rw [Narrow.toInt64_of_le_of_lt (by omega) (by omega)]
  split <;> omega

variable {iv : Except Status (RandomBytes kIvSizeInBytes)} {text associatedData : Bytes} {bufferSize : Nat}

theorem encrypt_comesBack (h : text.length < 2 ^ 62) :
    (encrypt ⟨aead, []⟩ iv text associatedData bufferSize).ComesBack := by
  unfold encrypt
  simp only [toInt64_size h, maxEncryptionSize_eq h]
  rw [check_pos (Int.natCast_nonneg _), returns_bind]
  split
  · trivial
  · refine (comesBack_ofExcept _).bind fun iv _ => (comesBack_ofExcept _).bind fun out _ => trivial

theorem encrypt_returns {written : Bytes}
    (hwritten : encrypt ⟨aead, []⟩ iv text associatedData bufferSize = returns written) :
    ∃ iv' out, aead.encrypt text associatedData iv'.1 = .ok out ∧ iv = .ok iv' ∧ written = iv'.1 ++ out := by
  unfold encrypt at hwritten
  obtain ⟨_, _, hrest⟩ := bind_eq_returns.1 hwritten
  split at hrest
  · cases hrest
  · obtain ⟨iv', hiv, hrest⟩ := bind_eq_returns.1 hrest
    obtain ⟨out, hout, hrest⟩ := bind_eq_returns.1 hrest
    exact ⟨iv', out, ofExcept_eq_returns.1 hout, ofExcept_eq_returns.1 hiv, (returns.inj hrest).symm⟩

/-- A ciphertext that is long enough, in a buffer that is large enough, is left to the one-shot AEAD. -/
theorem decrypt_eq (h : text.length < 2 ^ 62) (hlong : 28 ≤ text.length) (hbuffer : text.length - 28 ≤ bufferSize) :
    decrypt ⟨aead, []⟩ text associatedData bufferSize =
      ofExcept (aead.decrypt (text.drop 12) associatedData (text.take 12)) := by
  unfold decrypt
  simp only [toInt64_size h, maxDecryptionSize_eq h]
  rw [if_neg (by simp [kIvSizeInBytes, kTagSizeInBytes]; omega), check_pos (Int.natCast_nonneg _), returns_bind,
    if_neg (by simp; omega)]
  rfl

theorem decrypt_comesBack (h : text.length < 2 ^ 62) :
    (decrypt ⟨aead, []⟩ text associatedData bufferSize).ComesBack := by
  unfold decrypt
  simp only [toInt64_size h, maxDecryptionSize_eq h]
  split
  · trivial
  · rw [check_pos (Int.natCast_nonneg _), returns_bind]
    split
    · trivial
    · exact comesBack_ofExcept _

/-- What is decrypted is what the one-shot AEAD decrypts. -/
theorem decrypt_returns {plaintext : Bytes} (h : text.length < 2 ^ 62)
    (hreturns : decrypt ⟨aead, []⟩ text associatedData bufferSize = returns plaintext) :
    28 ≤ text.length ∧ text.length - 28 ≤ bufferSize := by
  unfold decrypt at hreturns
  simp only [toInt64_size h, maxDecryptionSize_eq h] at hreturns
  split at hreturns
  · cases hreturns
  · next hlong =>
    rw [check_pos (Int.natCast_nonneg _), returns_bind] at hreturns
    split at hreturns
    · cases hreturns
    · next hbuffer =>
      simp [kIvSizeInBytes, kTagSizeInBytes] at hlong hbuffer
      omega

end ZeroCopyAesGcmBoringSsl

/-! ## X-AES-GCM -/

namespace XAesGcm

variable {x : XAesGcm} {gcm : AesGcm} {salt : Except Status x.Salt} {iv : Except Status Iv}
  {text associatedData : Bytes} {bufferSize : Nat}

theorem encrypt_comesBack (h : text.length < 2 ^ 62) : (x.encrypt salt iv text associatedData bufferSize).ComesBack := by
  unfold encrypt
  simp only [toInt64_size h, maxEncryptionSize_eq h]
  rw [check_pos (Int.natCast_nonneg _), returns_bind]
  split
  · trivial
  · refine (comesBack_ofExcept _).bind fun salt _ => (comesBack_ofExcept _).bind fun key _ =>
      (comesBack_ofExcept _).bind fun s hs => ComesBack.bind ?_ fun written _ => trivial
    obtain ⟨aead, _, rfl⟩ := ZeroCopyAesGcmBoringSsl.new_eq_ok.1 (ofExcept_eq_returns.1 hs)
    exact ZeroCopyAesGcmBoringSsl.encrypt_comesBack h

/-- **What `Encrypt` writes**: the salt, the initialization vector, and what AES-GCM makes of the text. -/
theorem encrypt_returns {aad : Cord} (hgcm : x.AesGcmCorrect gcm aad) {written : Bytes}
    (hwritten : x.encrypt salt iv text aad.flatten bufferSize = returns written) :
    ∃ (salt' : x.Salt) (key : Bytes) (iv' : Iv) (ciphertext : Bytes),
      x.baseXAesGcm.derivePerMessageKey salt'.1 = .ok key ∧ (∃ sensitive, x.aesGcm.oneShotNew key = .ok sensitive) ∧
      x.TakesAad aad.flatten ∧ gcm.sealText key iv'.1 text aad.flatten = some ciphertext ∧
      written = salt'.1 ++ (iv'.1 ++ ciphertext) := by
  unfold encrypt at hwritten
  obtain ⟨_, _, hrest⟩ := bind_eq_returns.1 hwritten
  split at hrest
  · cases hrest
  · obtain ⟨salt', _, hrest⟩ := bind_eq_returns.1 hrest
    obtain ⟨key, hkey, hrest⟩ := bind_eq_returns.1 hrest
    obtain ⟨s, hs, hrest⟩ := bind_eq_returns.1 hrest
    obtain ⟨inner, hinner, hrest⟩ := bind_eq_returns.1 hrest
    obtain ⟨aead, haead, rfl⟩ := ZeroCopyAesGcmBoringSsl.new_eq_ok.1 (ofExcept_eq_returns.1 hs)
    obtain ⟨sensitive, hnew, rfl⟩ := createAesGcmOneShotCrypter_eq_ok.1 haead
    obtain ⟨iv', out, hout, _, rfl⟩ := ZeroCopyAesGcmBoringSsl.encrypt_returns hinner
    obtain ⟨htakes, hencrypt⟩ := oneShot_encrypts hout
    have hseal := hgcm.oneShot_encrypt key sensitive hnew htakes _ _ _ hencrypt
    exact ⟨salt', key, iv', out, ofExcept_eq_returns.1 hkey, ⟨sensitive, hnew⟩, htakes, hseal, (returns.inj hrest).symm⟩

/-- **What is put together is accepted** and has the text's size and the least size. -/
theorem accepts_sealed {salt : x.Salt} {iv : Iv} {key ciphertext : Bytes}
    (hkey : x.baseXAesGcm.derivePerMessageKey salt.1 = .ok key)
    (hseal : gcm.sealText key iv.1 text associatedData = some ciphertext) :
    x.Accepts gcm key (salt.1 ++ (iv.1 ++ ciphertext)) associatedData text ∧
      (salt.1 ++ (iv.1 ++ ciphertext)).length = x.baseXAesGcm.minCtSize + text.length := by
  have hmin := minCtSize_eq (x := x)
  have hciphertext := gcm.seal_length key iv.1 text associatedData ciphertext hseal
  have hiv : iv.1.length = 12 := iv.2
  have hlength : (salt.1 ++ (iv.1 ++ ciphertext)).length = x.baseXAesGcm.minCtSize + text.length := by
    rw [List.length_append, List.length_append, salt.2, hiv, hciphertext]
    omega
  refine ⟨⟨by omega, ?_, ?_⟩, hlength⟩
  · rw [List.take_left' salt.2]
    exact hkey
  · rw [List.drop_left' salt.2, List.take_left' hiv, List.drop_left' hiv]
    exact gcm.open_seal key iv.1 text associatedData ciphertext hseal

/-- **`Decrypt` comes back exactly where the narrowed size is not negative.** -/
theorem decrypt_comesBack_iff (h : text.length < 2 ^ 62) : (x.decrypt text associatedData bufferSize).ComesBack ↔
    (x.baseXAesGcm.minCtSize ≤ text.length → (text.length - x.baseXAesGcm.minCtSize) % 2 ^ 32 < 2 ^ 31) := by
  unfold decrypt
  simp only [toInt64_size h]
  by_cases hshort : text.length < x.baseXAesGcm.minCtSize
  · rw [if_pos hshort]
    exact ⟨fun _ hle => absurd hshort (Nat.not_lt.2 hle), fun _ => trivial⟩
  rw [if_neg hshort, ← narrowed_nonneg_iff h]
  by_cases hnarrow : 0 ≤ Narrow.toInt (x.maxDecryptionSize text.length)
  · refine ⟨fun _ _ => hnarrow, fun _ => ?_⟩
    rw [check_pos hnarrow, returns_bind]
    split
    · trivial
    · refine (comesBack_ofExcept _).bind fun key _ => (comesBack_ofExcept _).bind fun s hs => ?_
      obtain ⟨aead, _, rfl⟩ := ZeroCopyAesGcmBoringSsl.new_eq_ok.1 (ofExcept_eq_returns.1 hs)
      apply ZeroCopyAesGcmBoringSsl.decrypt_comesBack
      rw [List.length_drop]
      omega
  · have hfails : (check (0 ≤ Narrow.toInt (x.maxDecryptionSize text.length)) : Outcome Status Unit) = checkFails :=
      if_neg hnarrow
    rw [hfails]
    exact ⟨fun hback => absurd hback id, fun hall => absurd (hall (Nat.le_of_not_lt hshort)) hnarrow⟩

/-- **`Decrypt` returns what AES-GCM accepts**, where the one-shot AEAD does not refuse it and in a buffer that is large
enough. -/
theorem decrypt_returns_iff {aad : Cord} (hgcm : x.AesGcmCorrect gcm aad) (h : text.length < 2 ^ 62) {plaintext : Bytes} :
    x.decrypt text aad.flatten bufferSize = returns plaintext ↔
      (∃ key, x.Accepts gcm key text aad.flatten plaintext ∧ ∃ sensitive, x.aesGcm.oneShotNew key = .ok sensitive) ∧
        x.TakesAad aad.flatten ∧ 0 ≤ Narrow.toInt (x.maxDecryptionSize text.length) ∧
        text.length - x.baseXAesGcm.minCtSize ≤ bufferSize := by
  have hmin := minCtSize_eq (x := x)
  have hle := narrowed_le (x := x) h
  have hmax := maxDecryptionSize_eq (x := x) h
  unfold decrypt
  simp only [toInt64_size h]
  by_cases hshort : text.length < x.baseXAesGcm.minCtSize
  · rw [if_pos hshort]
    constructor
    · intro hreturns
      cases hreturns
    · rintro ⟨⟨_, haccepts, _⟩, _⟩
      exact absurd hshort (Nat.not_lt.2 haccepts.long)
  have hlong : x.baseXAesGcm.minCtSize ≤ text.length := Nat.le_of_not_lt hshort
  have hbody : (text.drop x.baseXAesGcm.saltSize).length = text.length - x.baseXAesGcm.saltSize := List.length_drop
  rw [if_neg hshort]
  constructor
  · intro hreturns
    obtain ⟨_, hcheck, hrest⟩ := bind_eq_returns.1 hreturns
    have hnarrow : 0 ≤ Narrow.toInt (x.maxDecryptionSize text.length) := by
      by_contra hnot
      rw [check, if_neg hnot] at hcheck
      cases hcheck
    split at hrest
    · cases hrest
    · obtain ⟨key, hkey, hrest⟩ := bind_eq_returns.1 hrest
      obtain ⟨s, hs, hrest⟩ := bind_eq_returns.1 hrest
      obtain ⟨aead, haead, rfl⟩ := ZeroCopyAesGcmBoringSsl.new_eq_ok.1 (ofExcept_eq_returns.1 hs)
      obtain ⟨sensitive, hnew, rfl⟩ := createAesGcmOneShotCrypter_eq_ok.1 haead
      have hfits := ZeroCopyAesGcmBoringSsl.decrypt_returns (by omega) hrest
      rw [ZeroCopyAesGcmBoringSsl.decrypt_eq (by omega) hfits.1 hfits.2] at hrest
      obtain ⟨htakes, hopen⟩ := (oneShot_decrypts_iff hgcm hnew).1 (ofExcept_eq_returns.1 hrest)
      exact ⟨⟨key, ⟨hlong, ofExcept_eq_returns.1 hkey, hopen⟩, sensitive, hnew⟩, htakes, hnarrow, by omega⟩
  · rintro ⟨⟨key, haccepts, sensitive, hnew⟩, htakes, hnarrow, hbuffer⟩
    have hcreate := createAesGcmOneShotCrypter_eq_ok.2 ⟨sensitive, hnew, rfl⟩
    have haead := ZeroCopyAesGcmBoringSsl.new_eq_ok.2 ⟨_, hcreate, rfl⟩
    have hdecrypt := (oneShot_decrypts_iff hgcm hnew).2 ⟨htakes, haccepts.opens⟩
    rw [check_pos hnarrow, returns_bind, if_neg (by omega), haccepts.derives, ofExcept_ok, returns_bind, haead, ofExcept_ok,
      returns_bind, ZeroCopyAesGcmBoringSsl.decrypt_eq (by omega) (by omega) (by omega), hdecrypt, ofExcept_ok]

/-! ## X-AES-GCM on cords -/

theorem comesBack_deref_iff {α : Type} {value : Except Status α} : (deref value).ComesBack ↔ ∃ a, value = .ok a := by
  cases value with
  | error e => exact ⟨fun h => absurd h id, fun ⟨_, h⟩ => nomatch h⟩
  | ok a => exact ⟨fun _ => ⟨a, rfl⟩, fun _ => trivial⟩

theorem deref_eq_returns {α : Type} {value : Except Status α} {a : α} : deref value = returns a ↔ value = .ok a := by
  cases value with
  | error e => exact ⟨nofun, nofun⟩
  | ok a' => exact ofExcept_eq_returns (x := .ok a')

variable {cordSalt : x.Salt} {cordIv : Iv} {plaintext ciphertext aad : Cord}

/-- **`Encrypt` of cords comes back exactly where AES-GCM's `Encrypt` does not fail.** -/
theorem cordEncrypt_comesBack_iff : (x.cordEncrypt cordSalt cordIv plaintext aad).ComesBack ↔
    ∀ key aead, x.baseXAesGcm.derivePerMessageKey cordSalt.1 = .ok key → x.aesGcm.cordAesGcmNew key = .ok aead →
      ∃ cord, aead.encrypt cordIv plaintext aad = .ok cord := by
  unfold cordEncrypt
  cases hkey : x.baseXAesGcm.derivePerMessageKey cordSalt.1 with
  | error e => exact ⟨fun _ _ _ h => (nomatch h), fun _ => trivial⟩
  | ok key =>
    cases hnew : x.aesGcm.cordAesGcmNew key with
    | error e =>
      simp only [ofExcept_ok, returns_bind, hnew]
      exact ⟨fun _ key' aead h h' => (by cases h; rw [hnew] at h'; cases h'), fun _ => trivial⟩
    | ok aead =>
      simp only [ofExcept_ok, returns_bind, hnew]
      constructor
      · rintro hback _ _ ⟨⟩ h'
        rw [hnew] at h'
        cases h'
        apply comesBack_deref_iff.1
        cases hencrypt : aead.encrypt cordIv plaintext aad with
        | error e =>
          rw [hencrypt] at hback
          exact hback
        | ok cord => trivial
      · intro hall
        obtain ⟨cord, hcord⟩ := hall key aead rfl hnew
        rw [hcord]
        trivial

theorem cordEncrypt_returns (hgcm : x.AesGcmCorrect gcm aad) {written : Cord}
    (hwritten : x.cordEncrypt cordSalt cordIv plaintext aad = returns written) :
    ∃ key ciphertext, x.baseXAesGcm.derivePerMessageKey cordSalt.1 = .ok key ∧
      (∃ aead, x.aesGcm.cordAesGcmNew key = .ok aead) ∧
      gcm.sealText key cordIv.1 plaintext.flatten aad.flatten = some ciphertext ∧
      written.flatten = cordSalt.1 ++ (cordIv.1 ++ ciphertext) := by
  obtain ⟨key, hkey, hrest⟩ := bind_eq_returns.1 hwritten
  obtain ⟨aead, haead, hrest⟩ := bind_eq_returns.1 hrest
  obtain ⟨out, hout, hrest⟩ := bind_eq_returns.1 hrest
  have hnew := ofExcept_eq_returns.1 haead
  obtain ⟨ciphertext, hseal, hflat⟩ := hgcm.cord_encrypt key aead hnew _ _ _ (deref_eq_returns.1 hout)
  refine ⟨key, ciphertext, ofExcept_eq_returns.1 hkey, ⟨aead, hnew⟩, hseal, ?_⟩
  rw [← returns.inj hrest, Cord.flatten_prepend, hflat]

/-- A ciphertext that is long enough: what happens once the salt is read and removed. -/
theorem cordDecrypt_eq (aad : Cord) (hlong : x.baseXAesGcm.minCtSize ≤ ciphertext.size) :
    ∃ rest : Cord, rest.flatten = ciphertext.flatten.drop x.baseXAesGcm.saltSize ∧
      x.cordDecrypt ciphertext aad = (do
        let derivedKey ← ofExcept (x.baseXAesGcm.derivePerMessageKey (ciphertext.flatten.take x.baseXAesGcm.saltSize))
        let aead ← deref (x.aesGcm.cordAesGcmNew derivedKey)
        ofExcept (aead.decrypt rest aad)) := by
  have hmin := minCtSize_eq (x := x)
  have hsize : ciphertext.size = ciphertext.flatten.length := rfl
  obtain ⟨rest, hremove, hrest⟩ := Cord.removePrefix_returns (ε := Status)
    (show x.baseXAesGcm.saltSize ≤ ciphertext.size by omega)
  refine ⟨rest, hrest, ?_⟩
  unfold cordDecrypt
  simp only
  rw [if_neg (Nat.not_lt.2 hlong), (CordReader.at_new ciphertext).readN (by omega), returns_bind, hremove, returns_bind]

/-- **`Decrypt` of cords comes back exactly where there is an AES-GCM object for the ciphertext's key.** -/
theorem cordDecrypt_comesBack_iff : (x.cordDecrypt ciphertext aad).ComesBack ↔
    ∀ key, x.baseXAesGcm.minCtSize ≤ ciphertext.size →
      x.baseXAesGcm.derivePerMessageKey (ciphertext.flatten.take x.baseXAesGcm.saltSize) = .ok key →
      ∃ aead, x.aesGcm.cordAesGcmNew key = .ok aead := by
  by_cases hlong : x.baseXAesGcm.minCtSize ≤ ciphertext.size
  · obtain ⟨rest, _, heq⟩ := cordDecrypt_eq aad hlong
    rw [heq]
    cases hkey : x.baseXAesGcm.derivePerMessageKey (ciphertext.flatten.take x.baseXAesGcm.saltSize) with
    | error e => exact ⟨fun _ _ _ h => (nomatch h), fun _ => trivial⟩
    | ok key =>
      simp only [ofExcept_ok, returns_bind]
      constructor
      · rintro hback _ _ ⟨⟩
        cases hnew : x.aesGcm.cordAesGcmNew key with
        | error e =>
          rw [hnew] at hback
          exact absurd hback id
        | ok aead => exact ⟨aead, rfl⟩
      · intro hall
        obtain ⟨aead, hnew⟩ := hall key hlong rfl
        rw [hnew]
        exact comesBack_ofExcept _
  · unfold cordDecrypt
    simp only
    rw [if_pos (Nat.lt_of_not_le hlong)]
    exact ⟨fun _ _ h => absurd h hlong, fun _ => trivial⟩

/-- **`Decrypt` of cords returns what AES-GCM accepts.** -/
theorem cordDecrypt_returns_iff (hgcm : x.AesGcmCorrect gcm aad) {bytes : Bytes} :
    (∃ cord, x.cordDecrypt ciphertext aad = returns cord ∧ cord.flatten = bytes) ↔
      ∃ key, x.Accepts gcm key ciphertext.flatten aad.flatten bytes ∧ ∃ aead, x.aesGcm.cordAesGcmNew key = .ok aead := by
  by_cases hlong : x.baseXAesGcm.minCtSize ≤ ciphertext.size
  · obtain ⟨rest, hrest, heq⟩ := cordDecrypt_eq aad hlong
    rw [heq]
    constructor
    · rintro ⟨cord, hreturns, hcord⟩
      obtain ⟨key, hkey, hreturns⟩ := bind_eq_returns.1 hreturns
      obtain ⟨aead, haead, hreturns⟩ := bind_eq_returns.1 hreturns
      have hnew := deref_eq_returns.1 haead
      have hopen := (hgcm.cord_decrypt key aead hnew rest bytes).1 ⟨cord, ofExcept_eq_returns.1 hreturns, hcord⟩
      rw [hrest] at hopen
      exact ⟨key, ⟨hlong, ofExcept_eq_returns.1 hkey, hopen⟩, aead, hnew⟩
    · rintro ⟨key, haccepts, aead, hnew⟩
      have hopen := haccepts.opens
      rw [← hrest] at hopen
      obtain ⟨cord, hdecrypt, hcord⟩ := (hgcm.cord_decrypt key aead hnew rest bytes).2 hopen
      refine ⟨cord, ?_, hcord⟩
      rw [haccepts.derives, ofExcept_ok, returns_bind, hnew]
      exact ofExcept_eq_returns.2 hdecrypt
  · unfold cordDecrypt
    simp only
    rw [if_pos (Nat.lt_of_not_le hlong)]
    exact ⟨fun ⟨_, h, _⟩ => (nomatch h), fun ⟨_, haccepts, _⟩ => absurd haccepts.long hlong⟩

namespace Input

variable {i : x.Input}

theorem roomy_iff (hciphertext : i.ciphertext.size < 2 ^ 62) :
    i.Roomy ↔ i.ciphertext.flatten.length - x.baseXAesGcm.minCtSize ≤ i.decryptBuffer := by
  unfold Roomy
  rw [maxDecryptionSize_eq hciphertext, Int.toNat_natCast]
  rfl

theorem narrowed_nonneg (hciphertext : i.ciphertext.size < 2 ^ 62)
    (hlong : x.baseXAesGcm.minCtSize ≤ i.ciphertext.flatten.length) (h : i.Unfailing gcm) :
    0 ≤ Narrow.toInt (x.maxDecryptionSize i.ciphertext.flatten.length) :=
  (narrowed_nonneg_iff hciphertext).2 (h.narrow hlong)

/-- **Decrypting is the inverse of encrypting.** -/
theorem decrypted_of_encrypted (hgcm : x.AesGcmCorrect gcm i.associatedData) (hciphertext : i.ciphertext.size < 2 ^ 62)
    (h : i.Unfailing gcm) (hroomy : i.Roomy) (hencrypted : i.encrypted = returns i.ciphertext.flatten) :
    i.decrypted = returns i.plaintext.flatten := by
  obtain ⟨salt, key, iv, ciphertext, hkey, hnew, htakes, hseal, hwritten⟩ := encrypt_returns hgcm hencrypted
  have haccepts := (accepts_sealed hkey hseal).1
  rw [← hwritten] at haccepts
  exact (decrypt_returns_iff hgcm hciphertext).2
    ⟨⟨key, haccepts, hnew⟩, htakes, narrowed_nonneg hciphertext haccepts.long h, (roomy_iff hciphertext).1 hroomy⟩

theorem cordDecrypted_of_cordEncrypted (hgcm : x.AesGcmCorrect gcm i.associatedData) {cord : Cord}
    (hencrypted : i.cordEncrypted = returns cord) (hcord : cord.flatten = i.ciphertext.flatten) :
    ∃ plaintext, i.cordDecrypted = returns plaintext ∧ plaintext.flatten = i.plaintext.flatten := by
  obtain ⟨key, ciphertext, hkey, hnew, hseal, hwritten⟩ := cordEncrypt_returns hgcm hencrypted
  have haccepts := (accepts_sealed hkey hseal).1
  rw [← hwritten, hcord] at haccepts
  exact (cordDecrypt_returns_iff hgcm).2 ⟨key, haccepts, hnew⟩

/-- **Both implementations accept the same ciphertexts.** -/
theorem decrypted_iff_cordDecrypted (hgcm : x.AesGcmCorrect gcm i.associatedData) (hciphertext : i.ciphertext.size < 2 ^ 62)
    (h : i.Unfailing gcm) (hroomy : i.Roomy) {plaintext : Bytes} : i.decrypted = returns plaintext ↔
      ∃ cord, i.cordDecrypted = returns cord ∧ cord.flatten = plaintext := by
  constructor
  · intro hdecrypted
    obtain ⟨⟨key, haccepts, _⟩, _⟩ := (decrypt_returns_iff hgcm hciphertext).1 hdecrypted
    exact (cordDecrypt_returns_iff hgcm).2 ⟨key, haccepts, h.creates key haccepts.long haccepts.derives⟩
  · intro hcord
    obtain ⟨key, haccepts, _⟩ := (cordDecrypt_returns_iff hgcm).1 hcord
    obtain ⟨hnew, htakes⟩ := h.takes hroomy key plaintext haccepts
    exact (decrypt_returns_iff hgcm hciphertext).2
      ⟨⟨key, haccepts, hnew⟩, htakes, narrowed_nonneg hciphertext haccepts.long h, (roomy_iff hciphertext).1 hroomy⟩

/-- **The sizes are exact.** -/
theorem encrypted_length (hgcm : x.AesGcmCorrect gcm i.associatedData) (hplaintext : i.plaintext.size < 2 ^ 62)
    {written : Bytes} (hencrypted : i.encrypted = returns written) : written.length = x.maxEncryptionSize i.plaintext.size := by
  obtain ⟨salt, key, iv, ciphertext, hkey, _, _, hseal, rfl⟩ := encrypt_returns hgcm hencrypted
  rw [maxEncryptionSize_eq hplaintext, (accepts_sealed hkey hseal).2]
  rfl

theorem decrypted_length (hgcm : x.AesGcmCorrect gcm i.associatedData) (hciphertext : i.ciphertext.size < 2 ^ 62)
    {written : Bytes} (hdecrypted : i.decrypted = returns written) : written.length = x.maxDecryptionSize i.ciphertext.size := by
  have hmin := minCtSize_eq (x := x)
  have hsize : i.ciphertext.size = i.ciphertext.flatten.length := rfl
  obtain ⟨⟨key, haccepts, _⟩, _⟩ := (decrypt_returns_iff hgcm hciphertext).1 hdecrypted
  have hlength := gcm.open_length _ _ _ _ _ haccepts.opens
  rw [List.length_drop, List.length_drop] at hlength
  rw [maxDecryptionSize_eq hciphertext]
  have hlong := haccepts.long
  omega

end Input

/-- **When every size and every error is handled**: exactly where the narrowed size is not negative, the AES-GCM of cords
neither fails to encrypt nor is missing for the ciphertext's key, and the one-shot AES-GCM refuses nothing that AES-GCM
accepts. -/
theorem handled_iff (x : XAesGcm) (gcm : AesGcm) (i : x.Input) (hgcm : x.AesGcmCorrect gcm i.associatedData)
    (hplaintext : i.plaintext.size < 2 ^ 62) (hciphertext : i.ciphertext.size < 2 ^ 62) :
    i.Handled ↔ i.Unfailing gcm := by
  constructor
  · intro h
    have hcreates := cordDecrypt_comesBack_iff.1 h.cordDecrypts
    refine ⟨(decrypt_comesBack_iff hciphertext).1 h.decrypts, cordEncrypt_comesBack_iff.1 h.cordEncrypts, hcreates, ?_⟩
    intro hroomy key plaintext haccepts
    have hnew := hcreates key haccepts.long haccepts.derives
    have hdecrypted := (h.accepts hroomy plaintext).2 ((cordDecrypt_returns_iff hgcm).2 ⟨key, haccepts, hnew⟩)
    obtain ⟨⟨key', haccepts', hnew'⟩, htakes, _⟩ := (decrypt_returns_iff hgcm hciphertext).1 hdecrypted
    have hkey : key' = key := Except.ok.inj (haccepts'.derives.symm.trans haccepts.derives)
    exact ⟨hkey ▸ hnew', htakes⟩
  · intro h
    exact {
      encrypts := encrypt_comesBack hplaintext
      decrypts := (decrypt_comesBack_iff hciphertext).2 h.narrow
      cordEncrypts := cordEncrypt_comesBack_iff.2 h.encrypts
      cordDecrypts := cordDecrypt_comesBack_iff.2 h.creates
      inverse := Input.decrypted_of_encrypted hgcm hciphertext h
      cordInverse := fun _ => Input.cordDecrypted_of_cordEncrypted hgcm
      accepts := fun hroomy _ => Input.decrypted_iff_cordDecrypted hgcm hciphertext h hroomy
      encryptionSize := fun _ => Input.encrypted_length hgcm hplaintext
      decryptionSize := fun _ => Input.decrypted_length hgcm hciphertext }

end XAesGcm

/-- Every chunk has a size that an `int` holds. -/
def Cord.SmallChunks (c : Cord) : Prop := ∀ chunk ∈ c.chunks, chunk.length < 2 ^ 31

theorem Cord.exists_size (n : Nat) : ∃ c : Cord, c.size = n :=
  ⟨Cord.ofChunks [List.replicate n 0], by simp [Cord.size]⟩

/-- A cord of two chunks. -/
theorem Cord.exists_smallChunks {n : Nat} (h : n < 2 ^ 31) : ∃ c : Cord, c.size = n + n ∧ c.SmallChunks := by
  refine ⟨Cord.ofChunks [List.replicate n 0, List.replicate n 0], by simp [Cord.size], fun chunk hchunk => ?_⟩
  have hmem := List.mem_of_mem_filter hchunk
  have heq : chunk = List.replicate n 0 := by simpa using hmem
  rw [heq, List.length_replicate]
  exact h

/-! ## The AES-GCM of cords -/

namespace CordAesGcmBoringSsl

variable {lib : EvpAesGcm}

/-- OpenSSL's calls on flat strings are AES-GCM. -/
structure IsAesGcm (s : CordAesGcmBoringSsl lib) (gcm : AesGcm) (key : Bytes) : Prop where
  flatEncrypt : ∀ iv plaintext aad out, s.flatEncrypt iv plaintext aad = .ok out →
    ∃ ciphertext, gcm.sealText key iv plaintext aad = some ciphertext ∧ out = iv ++ ciphertext
  flatDecrypt : ∀ ciphertext aad out, s.flatDecrypt ciphertext aad = .ok out ↔
    gcm.openText key (ciphertext.take 12) (ciphertext.drop 12) aad = some out

/-- The object, as X-AES-GCM calls it. -/
def cordAead (s : CordAesGcmBoringSsl lib) (allocator : Allocator) : CordAead where
  encrypt iv plaintext aad := (s.encrypt allocator iv plaintext aad).toExcept ⟨.internal, "Encryption failed"⟩
  decrypt ciphertext aad := (s.decrypt allocator ciphertext aad).toExcept ⟨.internal, "Decryption failed"⟩

end CordAesGcmBoringSsl

/-- **The AES-GCM of cords is AES-GCM** with associated data in small chunks, if OpenSSL's calls on flat strings are. -/
theorem XAesGcm.AesGcmCorrect.of_cordAesGcm {lib : EvpAesGcm} (hlib : lib.Consecutive) {x : XAesGcm} {gcm : AesGcm}
    (allocator : Allocator) (hnew : ∀ key aead, x.aesGcm.cordAesGcmNew key = .ok aead →
      ∃ s : CordAesGcmBoringSsl lib, CordAesGcmBoringSsl.new key = returns s ∧ s.IsAesGcm gcm key ∧
        aead = s.cordAead allocator)
    {aad : Cord} (haad : aad.SmallChunks)
    (hencrypt : ∀ key sensitive, x.aesGcm.oneShotNew key = .ok sensitive → x.TakesAad aad.flatten →
      ∀ plaintext iv out, sensitive.encrypt plaintext aad.flatten iv = .ok out →
        gcm.sealText key iv plaintext aad.flatten = some out)
    (hdecrypt : ∀ key sensitive, x.aesGcm.oneShotNew key = .ok sensitive → x.TakesAad aad.flatten →
      ∀ ciphertext iv out, sensitive.decrypt ciphertext aad.flatten iv = .ok out ↔
        gcm.openText key iv ciphertext aad.flatten = some out) :
    x.AesGcmCorrect gcm aad where
  oneShot_encrypt := hencrypt
  oneShot_decrypt := hdecrypt
  cord_encrypt := by
    intro key aead haead iv plaintext out h
    obtain ⟨s, -, hs, rfl⟩ := hnew key aead haead
    have hreturns := Outcome.toExcept_eq_ok.1 h
    have hflat := s.encrypt_flat hlib allocator iv plaintext aad haad
    rw [hreturns] at hflat
    exact hs.flatEncrypt _ _ _ _ (ofExcept_eq_returns.1 hflat.symm)
  cord_decrypt := by
    intro key aead haead ciphertext out
    obtain ⟨s, -, hs, rfl⟩ := hnew key aead haead
    have hflat := s.decrypt_flat hlib allocator ciphertext aad haad
    rw [← hs.flatDecrypt]
    constructor
    · rintro ⟨cord, h, rfl⟩
      have hreturns := Outcome.toExcept_eq_ok.1 h
      rw [hreturns] at hflat
      exact ofExcept_eq_returns.1 hflat.symm
    · intro h
      rw [h] at hflat
      obtain ⟨cord, hreturns, hcord⟩ := bind_eq_returns.1 (hflat : s.decrypt allocator ciphertext aad >>= _ = _)
      exact ⟨cord, Outcome.toExcept_eq_ok.2 hreturns, returns.inj hcord⟩

/-! ## The first test vector -/

namespace XAesGcmVector

def salt : Bytes := BigEndian.encode 12 0x4142434445464748494a4b4c

def iv : XAesGcm.Iv := ⟨BigEndian.encode 12 0x4d4e4f505152535455565758, rfl⟩

def plaintext : Bytes := BigEndian.encode 12 0x584145532d3235362d47434d

def sealed : Bytes := BigEndian.encode 28 0xce546ef63c9cc60765923609b33a9a1974e96e52daf2fcf7075e2271

/-- The two blocks of the derived key are known; a context is the data so far. -/
def cmac (opensslIsBoringSsl : Bool) : CmacLibrary where
  Ctx := Bytes
  ctxNew := some []
  ctxCopy := fun _ ctx => some ctx
  init := fun _ _ => some []
  update := fun ctx data => some (ctx ++ data)
  final := fun ctx => some (ctx, BigEndian.encode 16
    (if ctx.getD 1 0 = 1 then 0xc8612c9ed53fe43e8e005b828a1631a0 else 0xbbcb6ab2f46514ec4f439fcfd0fa969b))
  reset := fun _ => some []
  opensslIsBoringSsl := opensslIsBoringSsl

/-- AES-GCM that knows the vector's text. -/
def gcm : AesGcm where
  sealText := fun _ _ text _ => if text = plaintext then some sealed else none
  openText := fun _ _ text _ => if text = sealed then some plaintext else none
  open_seal := by
    intro _ _ text _ ciphertext h
    split at h
    · next htext =>
      cases h
      rw [htext, if_pos rfl]
    · cases h
  seal_length := by
    intro _ _ text _ ciphertext h
    split at h
    · next htext =>
      cases h
      rw [htext]
      rfl
    · cases h
  open_length := by
    intro _ _ text _ out h
    split at h
    · next htext =>
      cases h
      rw [htext]
      rfl
    · cases h

theorem opens_sealed {key iv text aad : Bytes} (h : text = sealed) : gcm.openText key iv text aad = some plaintext :=
  if_pos h

def oneShot (key : Bytes) : SslOneShotAead where
  encrypt := fun text aad iv => required ⟨.internal, "Encryption failed"⟩ (gcm.sealText key iv text aad)
  decrypt := fun text aad iv => required ⟨.internal, "Authentication failed"⟩ (gcm.openText key iv text aad)

def cordAead (key : Bytes) : CordAead where
  encrypt := fun iv text aad =>
    (required ⟨.internal, "Encryption failed"⟩ (gcm.sealText key iv.1 text.flatten aad.flatten)).map
      fun ciphertext => Cord.ofChunks [iv.1, ciphertext]
  decrypt := fun text aad =>
    (required ⟨.internal, "Authentication failed"⟩
      (gcm.openText key (text.flatten.take 12) (text.flatten.drop 12) aad.flatten)).map
      fun plaintext => Cord.ofChunks [plaintext]

/-- Its `Encrypt` fails. -/
def failingCordAead (key : Bytes) : CordAead where
  encrypt := fun _ _ _ => .error ⟨.internal, "Encryption failed"⟩
  decrypt := (cordAead key).decrypt

/-- The salt has 12 bytes. -/
def object (opensslIsBoringSsl : Bool) (cordAesGcmNew : Bytes → Except Status CordAead) : XAesGcm where
  cmac := cmac opensslIsBoringSsl
  baseXAesGcm := ⟨([] : Bytes), ⟨12, by decide⟩⟩
  aesGcm := ⟨fun key => .ok (oneShot key), cordAesGcmNew⟩

theorem required_eq_ok {α : Type} {e : Status} {o : Option α} {a : α} : required e o = .ok a ↔ o = some a := by
  constructor
  · exact required_ok
  · rintro rfl
    rfl

theorem cordAead_encrypt {key : Bytes} {iv : XAesGcm.Iv} {text aad out : Cord}
    (h : (cordAead key).encrypt iv text aad = .ok out) :
    ∃ ciphertext, gcm.sealText key iv.1 text.flatten aad.flatten = some ciphertext ∧ out.flatten = iv.1 ++ ciphertext := by
  unfold cordAead at h
  simp only at h
  cases hseal : gcm.sealText key iv.1 text.flatten aad.flatten with
  | none =>
    rw [hseal] at h
    cases h
  | some ciphertext =>
    rw [hseal] at h
    cases h
    exact ⟨ciphertext, rfl, by simp [Cord.flatten_ofChunks]⟩

theorem cordAead_decrypt {key : Bytes} {text aad : Cord} {out : Bytes} :
    (∃ cord, (cordAead key).decrypt text aad = .ok cord ∧ cord.flatten = out) ↔
      gcm.openText key (text.flatten.take 12) (text.flatten.drop 12) aad.flatten = some out := by
  unfold cordAead
  simp only
  cases gcm.openText key (text.flatten.take 12) (text.flatten.drop 12) aad.flatten with
  | none => exact ⟨fun ⟨_, h, _⟩ => (nomatch h), nofun⟩
  | some plaintext =>
    constructor
    · rintro ⟨_, ⟨⟩, rfl⟩
      simp [Cord.flatten_ofChunks]
    · rintro ⟨⟩
      exact ⟨_, rfl, by simp [Cord.flatten_ofChunks]⟩

theorem object_correct (opensslIsBoringSsl : Bool) {cordAesGcmNew : Bytes → Except Status CordAead}
    (hnew : ∀ key aead, cordAesGcmNew key = .ok aead → aead = cordAead key ∨ aead = failingCordAead key) (aad : Cord) :
    (object opensslIsBoringSsl cordAesGcmNew).AesGcmCorrect gcm aad where
  oneShot_encrypt := by
    rintro key _ ⟨⟩ _ text iv out h
    exact required_ok h
  oneShot_decrypt := by
    rintro key _ ⟨⟩ _ text iv out
    exact required_eq_ok
  cord_encrypt := by
    intro key aead h iv text out hencrypt
    rcases hnew key aead h with rfl | rfl
    · exact cordAead_encrypt hencrypt
    · cases hencrypt
  cord_decrypt := by
    intro key aead h text out
    rcases hnew key aead h with rfl | rfl
    · exact cordAead_decrypt
    · exact cordAead_decrypt

def derivedKey : Bytes := BigEndian.encode 32 0xc8612c9ed53fe43e8e005b828a1631a0bbcb6ab2f46514ec4f439fcfd0fa969b

theorem derives (opensslIsBoringSsl : Bool) :
    derivePerMessageKeyImpl (cmac opensslIsBoringSsl) ([] : Bytes) salt = .ok derivedKey := by
  cases opensslIsBoringSsl <;> decide +kernel

/-- The texts in cords of two chunks. -/
def plaintextCord : Cord := Cord.ofChunks [plaintext.take 5, plaintext.drop 5]

def ciphertextCord : Cord := Cord.ofChunks [salt, iv.1 ++ sealed]

theorem plaintextCord_size : plaintextCord.size < 2 ^ 62 := by decide +kernel

theorem ciphertextCord_size : ciphertextCord.size < 2 ^ 62 := by decide +kernel

def input (x : XAesGcm) (hsalt : salt.length = x.baseXAesGcm.saltSize) (associatedData ciphertext : Cord) : x.Input where
  plaintext := plaintextCord
  associatedData := associatedData
  ciphertext := ciphertext
  encryptBuffer := 52
  decryptBuffer := 12
  salt := .ok ⟨salt, hsalt⟩
  iv := .ok iv
  cordSalt := ⟨salt, hsalt⟩
  cordIv := iv

end XAesGcmVector

open XAesGcmVector in
theorem XAesGcm.handled_iff_vector :
    let i := input (object false fun key => .ok (cordAead key)) rfl (Cord.ofChunks []) ciphertextCord
    i.Handled ∧ i.encrypted = returns (salt ++ (iv.1 ++ sealed)) ∧ i.decrypted = returns plaintext ∧
      Cord.flatten <$> i.cordEncrypted = returns (salt ++ (iv.1 ++ sealed)) ∧
      Cord.flatten <$> i.cordDecrypted = returns plaintext := by
  intro i
  have hcorrect : (object false fun key => .ok (cordAead key)).AesGcmCorrect gcm i.associatedData :=
    object_correct false (fun _ _ h => .inl (Except.ok.inj h).symm) _
  have hunfailing : i.Unfailing gcm := {
    narrow := by
      intro _
      show 12 % 2 ^ 32 < 2 ^ 31
      decide
    encrypts := by
      rintro key _ _ ⟨⟩
      exact ⟨_, rfl⟩
    creates := fun key _ _ => ⟨cordAead key, rfl⟩
    takes := fun _ key _ _ => ⟨⟨oneShot key, rfl⟩, .inr (Nat.zero_le _)⟩ }
  refine ⟨(XAesGcm.handled_iff _ gcm i hcorrect plaintextCord_size ciphertextCord_size).2 hunfailing, ?_, ?_, ?_, ?_⟩
  · decide +kernel
  · decide +kernel
  · decide +kernel
  · decide +kernel

open XAesGcmVector in
/-- A ciphertext of 2^31 bytes too much, an AES-GCM of cords that fails to encrypt, none for the ciphertext's key, and
associated data, in two chunks, that is too large for OpenSSL's one-shot AES-GCM. -/
theorem XAesGcm.not_handled :
    (¬ ∀ (x : XAesGcm) (gcm : AesGcm), (∀ aad : Cord, x.AesGcmCorrect gcm aad) → ∀ i : x.Input,
      i.associatedData.SmallChunks → i.plaintext.size < 2 ^ 62 → i.ciphertext.size < 2 ^ 62 → i.decrypted.ComesBack) ∧
    (¬ ∀ (x : XAesGcm) (gcm : AesGcm), (∀ aad : Cord, x.AesGcmCorrect gcm aad) → ∀ i : x.Input,
      i.associatedData.SmallChunks → i.plaintext.size < 2 ^ 62 → i.ciphertext.size < 2 ^ 62 →
      i.cordEncrypted.ComesBack) ∧
    (¬ ∀ (x : XAesGcm) (gcm : AesGcm), (∀ aad : Cord, x.AesGcmCorrect gcm aad) → ∀ i : x.Input,
      i.associatedData.SmallChunks → i.plaintext.size < 2 ^ 62 → i.ciphertext.size < 2 ^ 62 →
      i.cordDecrypted.ComesBack) ∧
    (¬ ∀ (x : XAesGcm) (gcm : AesGcm), (∀ aad : Cord, x.AesGcmCorrect gcm aad) → ∀ i : x.Input,
      i.associatedData.SmallChunks → i.plaintext.size < 2 ^ 62 → i.ciphertext.size < 2 ^ 62 → i.Roomy →
      ∀ plaintext, i.decrypted = returns plaintext ↔ ∃ cord, i.cordDecrypted = returns cord ∧ cord.flatten = plaintext) := by
  have hempty : (Cord.ofChunks []).SmallChunks := fun _ h => nomatch h
  refine ⟨fun hall => ?_, fun hall => ?_, fun hall => ?_, fun hall => ?_⟩
  · have hcorrect : ∀ aad, (object true fun key => .ok (cordAead key)).AesGcmCorrect gcm aad :=
      object_correct true fun _ _ h => .inl (Except.ok.inj h).symm
    obtain ⟨long, hlong⟩ := Cord.exists_size (40 + 2 ^ 31)
    have hsize : long.size < 2 ^ 62 := hlong.trans_lt (by decide)
    have hback := hall _ gcm hcorrect (input _ rfl (Cord.ofChunks []) long) hempty plaintextCord_size hsize
    have hnarrow := (XAesGcm.decrypt_comesBack_iff hsize).1 hback
    have hlength : long.flatten.length = 40 + 2 ^ 31 := hlong
    rw [hlength] at hnarrow
    exact absurd (hnarrow (by decide)) (by decide)
  · have hcorrect : ∀ aad, (object true fun key => .ok (failingCordAead key)).AesGcmCorrect gcm aad :=
      object_correct true fun _ _ h => .inr (Except.ok.inj h).symm
    have hback := hall _ gcm hcorrect (input _ rfl (Cord.ofChunks []) ciphertextCord) hempty plaintextCord_size
      ciphertextCord_size
    obtain ⟨_, hencrypt⟩ := XAesGcm.cordEncrypt_comesBack_iff.1 hback derivedKey _ (derives true) rfl
    cases hencrypt
  · have hcorrect : ∀ aad, (object true fun _ => .error ⟨.internal, "Context initialization failed"⟩).AesGcmCorrect gcm aad :=
      object_correct true fun _ _ h => nomatch h
    have hback := hall _ gcm hcorrect (input _ rfl (Cord.ofChunks []) ciphertextCord) hempty plaintextCord_size
      ciphertextCord_size
    obtain ⟨_, hnew⟩ := XAesGcm.cordDecrypt_comesBack_iff.1 hback derivedKey (by decide +kernel) (derives true)
    cases hnew
  · have hcorrect : ∀ aad, (object false fun key => .ok (cordAead key)).AesGcmCorrect gcm aad :=
      object_correct false fun _ _ h => .inl (Except.ok.inj h).symm
    obtain ⟨large, hlarge, hsmall⟩ := Cord.exists_smallChunks (show 2 ^ 30 < 2 ^ 31 by decide)
    have hroomy : ((object false fun key => .ok (cordAead key)).maxDecryptionSize ciphertextCord.size).toNat ≤ 12 := by
      decide +kernel
    have hiff := hall _ gcm hcorrect (input _ rfl large ciphertextCord) hsmall plaintextCord_size ciphertextCord_size hroomy
      plaintext
    have hbody : (ciphertextCord.flatten.drop 12).drop 12 = sealed := by decide +kernel
    have haccepts : (object false fun key => .ok (cordAead key)).Accepts gcm derivedKey ciphertextCord.flatten large.flatten
        plaintext := ⟨by decide +kernel, derives false, opens_sealed hbody⟩
    have hcord := (XAesGcm.cordDecrypt_returns_iff (hcorrect large)).2 ⟨derivedKey, haccepts, cordAead derivedKey, rfl⟩
    obtain ⟨_, htakes, _⟩ := (XAesGcm.decrypt_returns_iff (hcorrect large) ciphertextCord_size).1 (hiff.2 hcord)
    rcases htakes with hboring | hsize
    · cases hboring
    · have hmax : large.size ≤ SslAead.kMaxInt := hsize
      rw [hlarge] at hmax
      exact absurd hmax (by decide)

end Tink
