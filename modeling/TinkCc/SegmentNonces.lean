import TinkCc.AesCtrHmacStreaming
import TinkCc.AesGcmHkdfStreaming
/-!
# SegmentNonces — no nonce is used twice in a stream

What `AesGcmHkdfStreaming` and `AesCtrHmacStreaming` show of their nonces, for any calls of `EncryptSegment`, whatever the
cryptographic functions return.
-/
namespace Tink

open AesCtrHmacStreaming (counterBlocks)

/-- **No nonce is used twice**: over any calls of `EncryptSegment`, the successful ones use distinct nonces, those that
`DecryptSegment` makes of the same segment number and flag, with segment numbers below 2^32; and with AES-CTR no two of
them use the same counter block. -/
theorem encryptSegment_nonces (lib : CryptoLibrary) (calls : List (Bytes × Bool)) :
    (∀ params noncePrefix s, AesGcmHkdfStreamSegmentEncrypter.new lib params noncePrefix = .ok s →
      (segmentCalls s.encryptSegment 0 calls).Pairwise (fun c c' => c.nonce ≠ c'.nonce) ∧
      ∀ c ∈ segmentCalls s.encryptSegment 0 calls, c.segmentNumber < 2 ^ 32 ∧
        ∀ (d : AesGcmHkdfStreamSegmentDecrypter) (k : AesGcmHkdfStreamSegmentDecrypter.Initialized) (ciphertext : Bytes),
          d.derivedKeySize = params.salt.length → d.init lib none s.header = .ok k →
          AesGcmHkdfStreamSegmentEncrypter.kTagSizeInBytes ≤ ciphertext.length →
          (ciphertext.length : Int) ≤ d.ciphertextSegmentSize →
          ∃ r, d.decryptSegment (some k) ciphertext c.segmentNumber c.isLastSegment = .done c.nonce r) ∧
    (∀ params associatedData salt noncePrefix s, params.ciphertextSegmentSize < 2 ^ 31 →
      AesCtrHmacStreamSegmentEncrypter.new lib params associatedData salt noncePrefix = .ok s →
      (segmentCalls (s.encryptSegment lib) 0 calls).Pairwise (fun c c' => c.nonce ≠ c'.nonce ∧
        List.Disjoint (counterBlocks c.nonce c.plaintext.length) (counterBlocks c'.nonce c'.plaintext.length)) ∧
      ∀ c ∈ segmentCalls (s.encryptSegment lib) 0 calls, c.segmentNumber < 2 ^ 32 ∧
        ∀ (associatedData' : Bytes) (d : AesCtrHmacStreamSegmentDecrypter)
          (k : AesCtrHmacStreamSegmentDecrypter.Initialized) (ciphertext : Bytes),
          AesCtrHmacStreamSegmentDecrypter.new params associatedData' = .ok d → d.init lib none s.header = .ok k →
          params.tagSize ≤ ciphertext.length → (ciphertext.length : Int) ≤ params.ciphertextSegmentSize →
          ∃ r, d.decryptSegment lib (some k) ciphertext c.segmentNumber c.isLastSegment = .done c.nonce r) :=
  ⟨fun _ _ _ hnew => AesGcmHkdfStreamSegmentEncrypter.nonces hnew calls,
    fun _ _ _ _ _ hint hnew => AesCtrHmacStreamSegmentEncrypter.nonces hnew hint calls⟩

/-! ## Functions to run -/

/-- Keys, tags and keystreams of zeros. -/
def zeroLibrary : CryptoLibrary where
  computeHkdf _ _ _ _ outLen := .ok (List.replicate outLen.toNat 0)
  createAesGcmOneShotCrypter _ :=
    .ok ⟨fun plaintext _ _ => .ok (plaintext ++ List.replicate 16 0),
      fun ciphertext _ _ => .ok (ciphertext.take (ciphertext.length - 16))⟩
  newHmac _ tagSize _ :=
    .ok ⟨fun _ => .ok (List.replicate tagSize.toNat 0),
      fun mac _ => if mac = List.replicate tagSize.toNat 0 then .ok () else .error ⟨.invalidArgument, "verification failed"⟩⟩
  evpEncrypt _ _ _ plaintext := .ok plaintext
  evpDecrypt _ _ _ ciphertext := .ok ciphertext

def gcmParams : AesGcmHkdfStreamSegmentEncrypter.Params := ⟨List.replicate 16 3, List.replicate 16 5, 0, 64⟩

def gcmDecrypter : AesGcmHkdfStreamSegmentDecrypter := ⟨List.replicate 16 3, .sha256, 16, 0, 64, []⟩

def ctrParams : AesCtrHmacStreaming.Params := ⟨List.replicate 16 3, .sha256, 16, 64, 0, .sha256, 16⟩

/-- Of three calls the second is refused, and the third takes its number. -/
def threeCalls : List (Bytes × Bool) := [([1], false), (List.replicate 49 1, false), ([2], true)]

/-- Two segments are encrypted, with the nonces that the decrypter makes for them. -/
theorem zeroLibrary_nonces :
    (∃ s k, AesGcmHkdfStreamSegmentEncrypter.new zeroLibrary gcmParams ⟨List.replicate 7 9, rfl⟩ = .ok s ∧
      gcmDecrypter.init zeroLibrary none s.header = .ok k ∧
      (segmentCalls s.encryptSegment 0 threeCalls).map (·.segmentNumber) = [0, 1] ∧
      (segmentCalls s.encryptSegment 0 threeCalls).Pairwise (fun c c' => c.nonce ≠ c'.nonce) ∧
      ∀ c ∈ segmentCalls s.encryptSegment 0 threeCalls, ∃ r,
        gcmDecrypter.decryptSegment (some k) (List.replicate 17 0) c.segmentNumber c.isLastSegment = .done c.nonce r) ∧
    (∃ s d k, AesCtrHmacStreamSegmentEncrypter.new zeroLibrary ctrParams [] ⟨List.replicate 16 5, rfl⟩
        ⟨List.replicate 7 9, rfl⟩ = .ok s ∧ AesCtrHmacStreamSegmentDecrypter.new ctrParams [] = .ok d ∧
      d.init zeroLibrary none s.header = .ok k ∧
      (segmentCalls (s.encryptSegment zeroLibrary) 0 threeCalls).map (·.segmentNumber) = [0, 1] ∧
      (segmentCalls (s.encryptSegment zeroLibrary) 0 threeCalls).Pairwise (fun c c' => c.nonce ≠ c'.nonce ∧
        List.Disjoint (counterBlocks c.nonce c.plaintext.length) (counterBlocks c'.nonce c'.plaintext.length)) ∧
      ∀ c ∈ segmentCalls (s.encryptSegment zeroLibrary) 0 threeCalls, ∃ r,
        d.decryptSegment zeroLibrary (some k) (List.replicate 17 0) c.segmentNumber c.isLastSegment = .done c.nonce r) := by
  obtain ⟨hgcm, hctr⟩ := encryptSegment_nonces zeroLibrary threeCalls
  constructor
  · obtain ⟨hpair, hmem⟩ := hgcm gcmParams ⟨List.replicate 7 9, rfl⟩ _ rfl
    exact ⟨_, _, rfl, rfl, rfl, hpair, fun c hc =>
      (hmem c hc).2 gcmDecrypter _ (List.replicate 17 0) rfl rfl (by decide) (by decide)⟩
  · obtain ⟨hpair, hmem⟩ := hctr ctrParams [] ⟨List.replicate 16 5, rfl⟩ ⟨List.replicate 7 9, rfl⟩ _ (by decide) rfl
    exact ⟨_, _, _, rfl, rfl, rfl, rfl, hpair, fun c hc =>
      (hmem c hc).2 [] _ _ (List.replicate 17 0) rfl rfl (by decide) (by decide)⟩

end Tink
