import TinkCc.Cords
import TinkCc.LibNarrow
import TinkCc.StreamSegments
/-!
# CordAesGcm — AES-GCM on cords

`aead/internal/cord_aes_gcm_boringssl.cc`.  `DoCryptAndConsume` cuts the text three times: into segments, which are removed
from the cord one after the other, at the chunks of the cord, and where a buffer of the writer is full.  OpenSSL's calls on
consecutive pieces are assumed to do together what one call does on all of them (`Consecutive`).
-/
namespace Tink

open Outcome

/-- The ciphers of `internal::GetAesGcmCipherForKeySize`. -/
inductive AesGcmCipher
  | aes128Gcm
  | aes256Gcm
  deriving DecidableEq, Repr

/-- `internal::GetAesGcmCipherForKeySize`. -/
def getAesGcmCipherForKeySize (keySizeInBytes : Nat) : Except Status AesGcmCipher :=
  if keySizeInBytes = 16 then .ok .aes128Gcm
  else if keySizeInBytes = 32 then .ok .aes256Gcm
  else .error ⟨.invalidArgument, s!"Invalid key size {keySizeInBytes}"⟩

/-- OpenSSL's calls on a cipher context; `none` where they fail.  The lengths are `int`s. -/
structure EvpAesGcm where
  Ctx            : Type
  ctxNew         : Option Ctx
  ctxCopy        : (out context : Ctx) → Option Ctx
  initKey        : Ctx → AesGcmCipher → (key : Bytes) → Option Ctx
  setIvLen       : Ctx → (length : Int) → Option Ctx
  setIv          : Ctx → (iv : Bytes) → (encryption : Bool) → Option Ctx
  updateAad      : Ctx → (data : Bytes) → (length : Int) → Option Ctx
  update         : Ctx → (data : Bytes) → (length : Int) → Option (Ctx × Bytes)
  final          : Ctx → Option Ctx
  getTag         : Ctx → (length : Int) → Option Bytes
  setTag         : Ctx → (tag : Bytes) → Option Ctx
  /-- `OPENSSL_IS_BORINGSSL || OPENSSL_VERSION_NUMBER < 0x30000000L`. -/
  copiesContexts : Bool

/-- **A call on two pieces together is the calls on one after the other**, the text's output is as long as the text, and a
tag has the size that was asked for. -/
structure EvpAesGcm.Consecutive (lib : EvpAesGcm) : Prop where
  aad         : ∀ ctx a b, a ≠ [] → b ≠ [] → lib.updateAad ctx (a ++ b) (a ++ b).length =
    (lib.updateAad ctx a a.length).bind fun ctx => lib.updateAad ctx b b.length
  text        : ∀ ctx a b, a ≠ [] → b ≠ [] → lib.update ctx (a ++ b) (a ++ b).length =
    (lib.update ctx a a.length).bind fun (ctx, x) => (lib.update ctx b b.length).map fun (ctx, y) => (ctx, x ++ y)
  text_length : ∀ ctx a ctx' out, lib.update ctx a a.length = some (ctx', out) → out.length = a.length
  tag_length  : ∀ ctx (length : Nat) tag, lib.getTag ctx length = some tag → tag.length = length

namespace CordAesGcm

def kIvSizeInBytes : Nat := 12

def kTagSizeInBytes : Nat := 16

def kMaxSegmentSize : Nat := 512 <<< 10

section

variable (lib : EvpAesGcm)

/-! ## The code -/

def setIvAndDirection (context : lib.Ctx) (iv : Bytes) (encryption : Bool) : Except Status lib.Ctx := do
  let context ← required ⟨.internal, "Failed to set the IV size"⟩ (lib.setIvLen context iv.length)
  required ⟨.internal, "Failed to set the IV"⟩ (lib.setIv context iv encryption)

def newContextFromPartial (partialContext : lib.Ctx) (iv : Bytes) (encryption : Bool) : Except Status lib.Ctx := do
  let context ← required ⟨.internal, "EVP_CIPHER_CTX_new failed"⟩ lib.ctxNew
  let context ← required ⟨.internal, "EVP_CIPHER_CTX_copy failed"⟩ (lib.ctxCopy context partialContext)
  setIvAndDirection lib context iv encryption

def newContext (key iv : Bytes) (encryption : Bool) : Except Status lib.Ctx := do
  let context ← required ⟨.internal, "EVP_CIPHER_CTX_new failed"⟩ lib.ctxNew
  let cipher ← getAesGcmCipherForKeySize key.length
  let context ← required ⟨.internal, "Context initialization failed"⟩ (lib.initKey context cipher key)
  setIvAndDirection lib context iv encryption

/-- A turn of the loop over the buffers: the part of the chunk that is left, the context and the writer. -/
def cryptBuffer (allocator : Allocator) : Bytes × lib.Ctx × CordWriter → Outcome Unit (Bytes × lib.Ctx × CordWriter)
  | (chunk, ctx, w) => do
    let w := w.nextWriteBuffer allocator
    let toCrypt := chunk.take w.currentBufferSpan.length
    let (ctx, out) ← ofExcept (required () (lib.update ctx toCrypt (Narrow.toInt toCrypt.length)))
    let w ← w.fill out
    let w ← w.advance toCrypt.length
    return (chunk.drop toCrypt.length, ctx, w)

/-- A turn of the loop over the chunks: the number of bytes left in the segment, the reader, the context and the writer. -/
def cryptChunk (allocator : Allocator) :
    Nat × CordReader × lib.Ctx × CordWriter → Outcome Unit (Nat × CordReader × lib.Ctx × CordWriter)
  | (leftInSegment, reader, ctx, w) => do
    let reader := reader.peek
    let chunk := reader.currentChunk.take leftInSegment
    let (_, ctx, w) ← loop (·.1.length) (·.1 ≠ []) (cryptBuffer lib allocator) (chunk, ctx, w)
    let reader ← reader.skip chunk.length
    return (leftInSegment - chunk.length, reader, ctx, w)

/-- A turn of the loop over the segments: the number of bytes left, the cord, the context and the writer. -/
def cryptSegment (allocator : Allocator) :
    Nat × Cord × lib.Ctx × CordWriter → Outcome Unit (Nat × Cord × lib.Ctx × CordWriter)
  | (bytesToCrypt, input, ctx, w) => do
    let segmentSize := min bytesToCrypt kMaxSegmentSize
    let (_, _, ctx, w) ← loop Prod.fst (0 < ·.1) (cryptChunk lib allocator) (segmentSize, CordReader.new input, ctx, w)
    let input ← input.removePrefix segmentSize
    return (bytesToCrypt - segmentSize, input, ctx, w)

/-- `DoCryptAndConsume`; it fails where it returns false.  What is left of the input, the context and the writer. -/
def doCryptAndConsume (allocator : Allocator) (input : Cord) (bytesToCrypt : Nat) (ctx : lib.Ctx) (w : CordWriter) :
    Outcome Unit (Cord × lib.Ctx × CordWriter) := do
  check (bytesToCrypt ≤ input.size)
  let (_, input, ctx, w) ← loop Prod.fst (0 < ·.1) (cryptSegment lib allocator) (bytesToCrypt, input, ctx, w)
  return (input, ctx, w)

/-- The loop over the chunks of the associated data. -/
def processAad (ctx : lib.Ctx) : List Bytes → Except Unit lib.Ctx
  | [] => .ok ctx
  | adChunk :: chunks => do
    let ctx ← required () (lib.updateAad ctx adChunk (Narrow.toInt adChunk.length))
    processAad ctx chunks

end

end CordAesGcm

/-- `CordAesGcmBoringSsl`. -/
structure CordAesGcmBoringSsl (lib : EvpAesGcm) where
  partialContext : lib.Ctx
  key            : Bytes

namespace CordAesGcmBoringSsl

open CordAesGcm

variable {lib : EvpAesGcm}

/-- `New`, which does not look whether there is a new context. -/
def new (keyValue : Bytes) : Outcome Status (CordAesGcmBoringSsl lib) := do
  let cipher ← ofExcept (getAesGcmCipherForKeySize keyValue.length)
  match lib.ctxNew with
  | none => checkFails
  | some context =>
    let context ← ofExcept (required ⟨.internal, "Context initialization failed"⟩ (lib.initKey context cipher keyValue))
    return ⟨context, keyValue⟩

/-- The context that `Encrypt` and `Decrypt` begin with. -/
def context (s : CordAesGcmBoringSsl lib) (iv : Bytes) (encryption : Bool) : Except Status lib.Ctx :=
  if lib.copiesContexts then newContextFromPartial lib s.partialContext iv encryption
  else newContext lib s.key iv encryption

/-- `Encrypt`, with the initialization vector that is drawn. -/
def encrypt (s : CordAesGcmBoringSsl lib) (allocator : Allocator) (iv : RandomBytes kIvSizeInBytes)
    (plaintext associatedData : Cord) : Outcome Status Cord := do
  let failed : Status := ⟨.internal, "Encryption failed"⟩
  let ctx ← ofExcept (s.context iv.1 true)
  let ctx ← (ofExcept (processAad lib ctx associatedData.chunks)).orError failed
  let w ← (CordWriter.new (kIvSizeInBytes + plaintext.size + kTagSizeInBytes)).write allocator iv.1
  let (_, ctx, w) ← (doCryptAndConsume lib allocator plaintext plaintext.size ctx w).orError failed
  let ctx ← ofExcept (required failed (lib.final ctx))
  let tag ← ofExcept (required failed (lib.getTag ctx kTagSizeInBytes))
  let w ← w.write allocator tag
  return w.data

def decrypt (s : CordAesGcmBoringSsl lib) (allocator : Allocator) (ciphertext associatedData : Cord) :
    Outcome Status Cord := do
  let failed : Status := ⟨.internal, "Decryption failed"⟩
  if ciphertext.size < kIvSizeInBytes + kTagSizeInBytes then
    fails ⟨.internal, "Ciphertext too short"⟩
  else
    let iv ← (CordReader.new ciphertext).readN kIvSizeInBytes
    let ciphertext ← ciphertext.removePrefix kIvSizeInBytes
    let ctx ← ofExcept (s.context iv false)
    let ctx ← (ofExcept (processAad lib ctx associatedData.chunks)).orError failed
    let ciphertextSize := ciphertext.size - kTagSizeInBytes
    let w := CordWriter.new ciphertextSize
    let (ciphertext, ctx, w) ← (doCryptAndConsume lib allocator ciphertext ciphertextSize ctx w).orError failed
    let tag ← (CordReader.new ciphertext).readN kTagSizeInBytes
    let ctx ← ofExcept (required ⟨.internal, "Could not set authentication tag"⟩ (lib.setTag ctx tag))
    let _ ← ofExcept (required ⟨.internal, "Authentication failed"⟩ (lib.final ctx))
    return w.data

/-! ## On flat strings -/

/-- One call on all of the associated data. -/
def flatAad (ctx : lib.Ctx) (associatedData : Bytes) : Except Unit lib.Ctx :=
  if associatedData = [] then .ok ctx else required () (lib.updateAad ctx associatedData associatedData.length)

/-- One call on all of the text. -/
def flatCrypt (ctx : lib.Ctx) (text : Bytes) : Except Unit (lib.Ctx × Bytes) :=
  if text = [] then .ok (ctx, []) else required () (lib.update ctx text text.length)

/-- **AES-GCM of flat strings**: the initialization vector, the encrypted text and the tag. -/
def flatEncrypt (s : CordAesGcmBoringSsl lib) (iv plaintext associatedData : Bytes) : Except Status Bytes := do
  let failed : Status := ⟨.internal, "Encryption failed"⟩
  let ctx ← s.context iv true
  let ctx ← (flatAad ctx associatedData).mapError fun _ => failed
  let (ctx, ciphertext) ← (flatCrypt ctx plaintext).mapError fun _ => failed
  let ctx ← required failed (lib.final ctx)
  let tag ← required failed (lib.getTag ctx kTagSizeInBytes)
  return iv ++ ciphertext ++ tag

def flatDecrypt (s : CordAesGcmBoringSsl lib) (ciphertext associatedData : Bytes) : Except Status Bytes := do
  let failed : Status := ⟨.internal, "Decryption failed"⟩
  if ciphertext.length < kIvSizeInBytes + kTagSizeInBytes then
    throw ⟨.internal, "Ciphertext too short"⟩
  else
    let iv := ciphertext.take kIvSizeInBytes
    let text := (ciphertext.drop kIvSizeInBytes).take (ciphertext.length - kIvSizeInBytes - kTagSizeInBytes)
    let tag := ciphertext.drop (ciphertext.length - kTagSizeInBytes)
    let ctx ← s.context iv false
    let ctx ← (flatAad ctx associatedData).mapError fun _ => failed
    let (ctx, plaintext) ← (flatCrypt ctx text).mapError fun _ => failed
    let ctx ← required ⟨.internal, "Could not set authentication tag"⟩ (lib.setTag ctx tag)
    let _ ← required ⟨.internal, "Authentication failed"⟩ (lib.final ctx)
    return plaintext

end CordAesGcmBoringSsl

/-! ## One call and several calls -/

namespace CordAesGcm

open CordAesGcmBoringSsl (flatAad flatCrypt)

variable {lib : EvpAesGcm}

theorem flatCrypt_append (hlib : lib.Consecutive) (ctx : lib.Ctx) (a b : Bytes) :
    flatCrypt ctx (a ++ b) = flatCrypt ctx a >>= fun (ctx, x) => (flatCrypt ctx b).map fun (ctx, y) => (ctx, x ++ y) := by
  by_cases ha : a = []
  · subst ha
    have hnil : flatCrypt ctx [] = .ok (ctx, []) := rfl
    rw [hnil, List.nil_append]
    simp only [bind, Except.bind]
    cases flatCrypt ctx b <;> rfl
  by_cases hb : b = []
  · subst hb
    rw [List.append_nil]
    cases flatCrypt ctx a with
    | error e => rfl
    | ok p => simp [flatCrypt, Except.map, bind, Except.bind]
  · unfold flatCrypt
    rw [if_neg (by simp [ha]), if_neg ha, hlib.text ctx a b ha hb]
    cases lib.update ctx a a.length with
    | none => rfl
    | some p =>
      obtain ⟨ctx', x⟩ := p
      simp only [required, bind, Except.bind, Option.bind_some, if_neg hb]
      cases lib.update ctx' b b.length <;> rfl

theorem flatCrypt_length (hlib : lib.Consecutive) {ctx ctx' : lib.Ctx} {text out : Bytes}
    (h : flatCrypt ctx text = .ok (ctx', out)) : out.length = text.length := by
  unfold flatCrypt at h
  split at h
  · next hnil =>
    cases h
    rw [hnil]
  · cases hupdate : lib.update ctx text text.length with
    | none =>
      rw [hupdate] at h
      cases h
    | some p =>
      rw [hupdate] at h
      cases h
      exact hlib.text_length _ _ _ _ hupdate

theorem flatAad_append (hlib : lib.Consecutive) (ctx : lib.Ctx) (a b : Bytes) :
    flatAad ctx (a ++ b) = flatAad ctx a >>= fun ctx => flatAad ctx b := by
  by_cases ha : a = []
  · subst ha
    rfl
  by_cases hb : b = []
  · subst hb
    rw [List.append_nil]
    cases flatAad ctx a <;> rfl
  · unfold flatAad
    rw [if_neg (by simp [ha]), if_neg ha, hlib.aad ctx a b ha hb]
    cases lib.updateAad ctx a a.length with
    | none => rfl
    | some ctx' => simp only [required, bind, Except.bind, Option.bind_some, if_neg hb]

/-- **The chunks of the associated data one after the other are all of it**, where each has a size that an `int` holds. -/
theorem processAad_eq (hlib : lib.Consecutive) : ∀ (chunks : List Bytes) (ctx : lib.Ctx),
    (∀ chunk ∈ chunks, chunk ≠ []) → (∀ chunk ∈ chunks, chunk.length < 2 ^ 31) →
    processAad lib ctx chunks = flatAad ctx chunks.flatten
  | [], _, _, _ => rfl
  | chunk :: chunks, ctx, hne, hint => by
    have hchunk : required () (lib.updateAad ctx chunk (Narrow.toInt chunk.length)) = flatAad ctx chunk := by
      have hlength := hint chunk List.mem_cons_self
      unfold flatAad
      rw [if_neg (hne chunk List.mem_cons_self), Narrow.toInt_of_nonneg_of_lt (by omega) (by omega)]
    rw [processAad, List.flatten_cons, flatAad_append hlib, hchunk]
    congr 1
    funext ctx'
    exact processAad_eq hlib chunks ctx' (fun c hc => hne c (List.mem_cons_of_mem _ hc))
      (fun c hc => hint c (List.mem_cons_of_mem _ hc))

/-! ## The loops of DoCryptAndConsume -/

/-- What is to be done with a text that is left, behind what was already written. -/
def cryptRest : lib.Ctx × Bytes × Bytes → Except Unit (lib.Ctx × Bytes)
  | (ctx, left, out) => (flatCrypt ctx left).map fun (ctx, x) => (ctx, out ++ x)

/-- The part of it for the first bytes. -/
def cryptFirst (ctx : lib.Ctx) (first left out : Bytes) : Except Unit (lib.Ctx × Bytes × Bytes) :=
  (flatCrypt ctx first).map fun (ctx, x) => (ctx, left, out ++ x)

theorem cryptRest_append (hlib : lib.Consecutive) (ctx : lib.Ctx) (first left out : Bytes) :
    cryptRest (ctx, first ++ left, out) = cryptFirst ctx first left out >>= cryptRest := by
  unfold cryptRest cryptFirst
  simp only
  rw [flatCrypt_append hlib]
  cases flatCrypt ctx first with
  | error e => rfl
  | ok p =>
    obtain ⟨ctx', x⟩ := p
    simp only [bind, Except.bind, Except.map]
    cases flatCrypt ctx' left with
    | error e => rfl
    | ok q => simp

/-- The context and the writer are those of the one call; `maxSize` is what the writer has room for. -/
structure Agrees (maxSize : Nat) (ctx : lib.Ctx) (w : CordWriter) (flat : lib.Ctx × Bytes) : Prop where
  ctx     : ctx = flat.1
  holds   : w.Holds flat.2
  maxSize : w.maxSize = maxSize

theorem cryptRest_nil (ctx : lib.Ctx) (out : Bytes) : cryptRest (ctx, [], out) = .ok (ctx, out) := by
  simp [cryptRest, flatCrypt, Except.map]

theorem cryptRest_length (hlib : lib.Consecutive) {ctx : lib.Ctx} {left out : Bytes} {flat : lib.Ctx × Bytes}
    (h : cryptRest (ctx, left, out) = .ok flat) : flat.2.length = out.length + left.length := by
  unfold cryptRest at h
  simp only at h
  cases hcrypt : flatCrypt ctx left with
  | error e =>
    rw [hcrypt] at h
    cases h
  | ok p =>
    rw [hcrypt] at h
    cases h
    rw [List.length_append, flatCrypt_length hlib hcrypt]

/-- The first part of a text, and then what is left of it. -/
theorem cryptFirst_eq (ctx : lib.Ctx) (first left out : Bytes) :
    cryptFirst ctx first left out = cryptRest (ctx, first, out) >>= fun flat => .ok (flat.1, left, flat.2) := by
  unfold cryptFirst cryptRest
  simp only
  cases flatCrypt ctx first <;> rfl

/-! ### The buffers of a chunk -/

/-- What is left of a chunk is what is left of the flat text. -/
def InChunk (maxSize : Nat) (s : Bytes × lib.Ctx × CordWriter) (t : lib.Ctx × Bytes × Bytes) : Prop :=
  s.1 = t.2.1 ∧ Agrees maxSize s.2.1 s.2.2 (t.1, t.2.2) ∧ t.2.2.length + s.1.length ≤ maxSize ∧ s.1.length < 2 ^ 31

theorem cryptBuffer_step (hlib : lib.Consecutive) (allocator : Allocator) {maxSize : Nat} {s : Bytes × lib.Ctx × CordWriter}
    {t : lib.Ctx × Bytes × Bytes} (h : InChunk maxSize s t) (hmore : s.1 ≠ []) :
    ∃ part, cryptRest t = part >>= cryptRest ∧
      Refines (fun s' t' => InChunk maxSize s' t' ∧ s'.1.length < s.1.length) (cryptBuffer lib allocator s) part := by
  obtain ⟨chunk, ctx, w⟩ := s
  obtain ⟨ctx', left, out⟩ := t
  obtain ⟨rfl, ⟨rfl, hholds, hmax⟩, hroom, hint⟩ := h
  simp only at hmore hroom hint hholds hmax
  have hpos := List.length_pos_iff.2 hmore
  let span := (w.nextWriteBuffer allocator).currentBufferSpan
  have hspan : 0 < span.length := List.length_pos_iff.2 (hholds.span_ne_nil allocator (by omega))
  have hlength : (chunk.take span.length).length = min span.length chunk.length := List.length_take
  have hsize : chunk.drop (chunk.take span.length).length = chunk.drop span.length := by
    rw [hlength, ← List.drop_eq_drop_min]
  have hcall : required () (lib.update ctx (chunk.take span.length) (Narrow.toInt (chunk.take span.length).length)) =
      flatCrypt ctx (chunk.take span.length) := by
    unfold flatCrypt
    rw [if_neg (List.ne_nil_of_length_pos (by omega)), Narrow.toInt_of_nonneg_of_lt (by omega) (by omega)]
  refine ⟨cryptFirst ctx (chunk.take span.length) (chunk.drop span.length) out, ?_, ?_⟩
  · rw [← cryptRest_append hlib, List.take_append_drop]
  · simp only [cryptBuffer, cryptFirst]
    rw [hcall]
    cases hcrypt : flatCrypt ctx (chunk.take span.length) with
    | error e => rfl
    | ok flat =>
      obtain ⟨ctx', x⟩ := flat
      have hx := flatCrypt_length hlib hcrypt
      have hfits : x.length ≤ span.length := by omega
      obtain ⟨w', hput, hholds', hmax'⟩ := (hholds.nextWriteBuffer allocator).put x hfits (by omega)
      refine ⟨(chunk.drop span.length, ctx', w'), ?_, ⟨rfl, ⟨rfl, hholds', ?_⟩, ?_, ?_⟩, ?_⟩
      · rw [← hsize, ← hx]
        simp only [Outcome.ofExcept, returns_bind]
        rw [← Outcome.bind_assoc, hput]
        rfl
      · rw [hmax', CordWriter.nextWriteBuffer_maxSize, hmax]
      · simp only [List.length_append, List.length_drop]
        omega
      · simp only [List.length_drop]
        omega
      · simp only [List.length_drop]
        omega

/-- **A chunk is encrypted buffer by buffer.** -/
theorem cryptBuffers_refines (hlib : lib.Consecutive) (allocator : Allocator) (chunk : Bytes) {maxSize : Nat} {out : Bytes}
    {ctx : lib.Ctx} {w : CordWriter} (hw : Agrees maxSize ctx w (ctx, out)) (hroom : out.length + chunk.length ≤ maxSize)
    (hint : chunk.length < 2 ^ 31) :
    Refines (fun s flat => Agrees maxSize s.2.1 s.2.2 flat)
      (loop (·.1.length) (·.1 ≠ []) (cryptBuffer lib allocator) (chunk, ctx, w)) (cryptRest (ctx, chunk, out)) := by
  apply loop_refines (I := InChunk maxSize)
  · intro s t h hmore
    exact cryptBuffer_step hlib allocator h (of_decide_eq_true hmore)
  · rintro ⟨chunk, ctx, w⟩ ⟨ctx', left, out⟩ ⟨rfl, hw, _, _⟩ hmore
    have hnil : chunk = [] := by simpa using hmore
    rw [hnil, cryptRest_nil]
    exact Refines.returns hw
  · exact ⟨rfl, hw, hroom, hint⟩

/-! ### The chunks of a segment -/

/-- What is left of a segment stands before the reader. -/
def InSegment (maxSize : Nat) (s : Nat × CordReader × lib.Ctx × CordWriter) (t : lib.Ctx × Bytes × Bytes) : Prop :=
  (∃ rest, s.2.1.At rest ∧ s.1 ≤ rest.length ∧ t.2.1 = rest.take s.1) ∧
    Agrees maxSize s.2.2.1 s.2.2.2 (t.1, t.2.2) ∧ t.2.2.length + s.1 ≤ maxSize ∧ s.1 < 2 ^ 31

theorem cryptChunk_step (hlib : lib.Consecutive) (allocator : Allocator) {maxSize : Nat}
    {s : Nat × CordReader × lib.Ctx × CordWriter} {t : lib.Ctx × Bytes × Bytes} (h : InSegment maxSize s t) (hmore : 0 < s.1) :
    ∃ part, cryptRest t = part >>= cryptRest ∧
      Refines (fun s' t' => InSegment maxSize s' t' ∧ s'.1 < s.1) (cryptChunk lib allocator s) part := by
  obtain ⟨n, reader, ctx, w⟩ := s
  obtain ⟨ctx', left, out⟩ := t
  obtain ⟨⟨rest, hat, hle, hleft⟩, ⟨hctx, hholds, hmax⟩, hroom, hint⟩ := h
  simp only at hmore hat hle hleft hctx hroom hint hholds hmax
  subst hctx hleft
  have hchunkPos : 0 < reader.peek.currentChunk.length :=
    List.length_pos_iff.2 (hat.peek_ne_nil (List.ne_nil_of_length_pos (by omega)))
  let chunk := reader.peek.currentChunk.take n
  have hchunk : chunk.length = min n reader.peek.currentChunk.length := List.length_take
  have hcut : rest.take n = chunk ++ (rest.drop chunk.length).take (n - chunk.length) := by
    have hbegins : chunk = rest.take chunk.length := by
      show reader.peek.currentChunk.take n = rest.take chunk.length
      rw [hat.peek.currentChunk_eq, List.take_take, hchunk]
    have hn : n = chunk.length + (n - chunk.length) := by omega
    conv => lhs; rw [hn, List.take_add, ← hbegins]
  refine ⟨cryptFirst ctx chunk ((rest.drop chunk.length).take (n - chunk.length)) out, ?_, ?_⟩
  · rw [hcut, cryptRest_append hlib]
  · rw [cryptFirst_eq]
    have hagrees : Agrees maxSize ctx w (ctx, out) := ⟨rfl, hholds, hmax⟩
    have hbuffers := cryptBuffers_refines hlib allocator chunk hagrees (by omega) (by omega)
    refine hbuffers.specified.bind ?_
    rintro ⟨_, ctx₁, w₁⟩ flat ⟨hagrees, hflat⟩
    obtain ⟨reader', hskip, hat'⟩ := hat.peek.skip chunk.length
    have hlength := cryptRest_length hlib hflat
    refine ⟨(n - chunk.length, reader', ctx₁, w₁), ?_, ⟨⟨_, hat', ?_, rfl⟩, hagrees, ?_, ?_⟩, ?_⟩
    · show (reader.peek.skip chunk.length >>= fun reader => _) = _
      rw [hskip]
      rfl
    · simp only [List.length_drop]
      omega
    · simp only
      omega
    · simp only
      omega
    · simp only
      omega

/-- **A segment is encrypted chunk by chunk.** -/
theorem cryptChunks_refines (hlib : lib.Consecutive) (allocator : Allocator) (leftInSegment : Nat) {maxSize : Nat}
    {reader : CordReader} {rest out : Bytes} {ctx : lib.Ctx} {w : CordWriter} (hreader : reader.At rest)
    (hrest : leftInSegment ≤ rest.length) (hw : Agrees maxSize ctx w (ctx, out))
    (hroom : out.length + leftInSegment ≤ maxSize) (hint : leftInSegment < 2 ^ 31) :
    Refines (fun s flat => Agrees maxSize s.2.2.1 s.2.2.2 flat)
      (loop Prod.fst (0 < ·.1) (cryptChunk lib allocator) (leftInSegment, reader, ctx, w))
      (cryptRest (ctx, rest.take leftInSegment, out)) := by
  apply loop_refines (I := InSegment maxSize)
  · intro s t h hmore
    exact cryptChunk_step hlib allocator h (of_decide_eq_true hmore)
  · rintro ⟨n, reader, ctx, w⟩ ⟨ctx', left, out⟩ ⟨⟨rest, _, _, hleft⟩, hw, _, _⟩ hmore
    have hzero : n = 0 := by simpa using hmore
    subst hzero
    simp only [List.take_zero] at hleft
    rw [hleft, cryptRest_nil]
    exact Refines.returns hw
  · exact ⟨⟨rest, hreader, hrest, rfl⟩, hw, hroom, hint⟩

/-! ### The segments of the text -/

/-- What is left of the text stands in front of the cord, with `behind` behind it. -/
def InText (maxSize : Nat) (behind : Bytes) (s : Nat × Cord × lib.Ctx × CordWriter) (t : lib.Ctx × Bytes × Bytes) : Prop :=
  s.1 ≤ s.2.1.size ∧ t.2.1 = s.2.1.flatten.take s.1 ∧ s.2.1.flatten.drop s.1 = behind ∧
    Agrees maxSize s.2.2.1 s.2.2.2 (t.1, t.2.2) ∧ t.2.2.length + s.1 ≤ maxSize

theorem cryptSegment_step (hlib : lib.Consecutive) (allocator : Allocator) {maxSize : Nat} {behind : Bytes}
    {s : Nat × Cord × lib.Ctx × CordWriter} {t : lib.Ctx × Bytes × Bytes} (h : InText maxSize behind s t) (hmore : 0 < s.1) :
    ∃ part, cryptRest t = part >>= cryptRest ∧
      Refines (fun s' t' => InText maxSize behind s' t' ∧ s'.1 < s.1) (cryptSegment lib allocator s) part := by
  obtain ⟨n, cord, ctx, w⟩ := s
  obtain ⟨ctx', left, out⟩ := t
  obtain ⟨hle, hleft, hdrop, ⟨hctx, hholds, hmax⟩, hroom⟩ := h
  simp only at hmore hle hleft hctx hroom hholds hmax hdrop
  subst hctx hleft
  have hmaxPos : kMaxSegmentSize = 524288 := rfl
  let segmentSize := min n kMaxSegmentSize
  have hsegment : segmentSize = min n kMaxSegmentSize := rfl
  have hcut : cord.flatten.take n =
      cord.flatten.take segmentSize ++ (cord.flatten.drop segmentSize).take (n - segmentSize) := by
    rw [← List.take_add]
    congr 1
    omega
  have hsize : cord.size = cord.flatten.length := rfl
  refine ⟨cryptFirst ctx (cord.flatten.take segmentSize) ((cord.flatten.drop segmentSize).take (n - segmentSize)) out,
    ?_, ?_⟩
  · rw [hcut, cryptRest_append hlib]
  · rw [cryptFirst_eq]
    have hagrees : Agrees maxSize ctx w (ctx, out) := ⟨rfl, hholds, hmax⟩
    have hchunks := cryptChunks_refines hlib allocator segmentSize (CordReader.at_new cord) (by omega) hagrees
      (by omega) (by omega)
    refine hchunks.specified.bind ?_
    rintro ⟨_, _, ctx₁, w₁⟩ flat ⟨hagrees, hflat⟩
    obtain ⟨cord', hremove, hcord'⟩ := Cord.removePrefix_returns (show segmentSize ≤ cord.size by omega)
    have hlength := cryptRest_length hlib hflat
    rw [List.length_take] at hlength
    refine ⟨(n - segmentSize, cord', ctx₁, w₁), ?_, ⟨?_, ?_, ?_, hagrees, ?_⟩, ?_⟩
    · show (cord.removePrefix segmentSize >>= fun input => _) = _
      rw [hremove]
      rfl
    · simp only [Cord.size, hcord', List.length_drop]
      omega
    · rw [hcord']
    · simp only [hcord', List.drop_drop]
      rw [← hdrop]
      congr 1
      omega
    · simp only
      omega
    · simp only
      omega

/-- **The text is encrypted segment by segment**, and leaves the input. -/
theorem doCryptAndConsume_refines (hlib : lib.Consecutive) (allocator : Allocator) {maxSize bytesToCrypt : Nat}
    {input : Cord} {out : Bytes} {ctx : lib.Ctx} {w : CordWriter} (hinput : bytesToCrypt ≤ input.size)
    (hw : Agrees maxSize ctx w (ctx, out)) (hroom : out.length + bytesToCrypt ≤ maxSize) :
    Refines (fun s flat => s.1.flatten = input.flatten.drop bytesToCrypt ∧ Agrees maxSize s.2.1 s.2.2 (flat.1, out ++ flat.2))
      (doCryptAndConsume lib allocator input bytesToCrypt ctx w) (flatCrypt ctx (input.flatten.take bytesToCrypt)) := by
  have hloop : Refines (fun s flat => s.2.1.flatten = input.flatten.drop bytesToCrypt ∧ Agrees maxSize s.2.2.1 s.2.2.2 flat)
      (loop Prod.fst (0 < ·.1) (cryptSegment lib allocator) (bytesToCrypt, input, ctx, w))
      (cryptRest (ctx, input.flatten.take bytesToCrypt, out)) := by
    apply loop_refines (I := InText maxSize (input.flatten.drop bytesToCrypt))
    · intro s t h hmore
      exact cryptSegment_step hlib allocator h (of_decide_eq_true hmore)
    · rintro ⟨n, cord, ctx, w⟩ ⟨ctx', left, out⟩ ⟨_, hleft, hdrop, hw, _⟩ hmore
      have hzero : n = 0 := by simpa using hmore
      subst hzero
      simp only [List.take_zero, List.drop_zero] at hleft hdrop
      rw [hleft, cryptRest_nil]
      exact Refines.returns ⟨hdrop, hw⟩
    · exact ⟨hinput, rfl, rfl, hw, hroom⟩
  have hreturn : Refines (fun s flat => s.1.flatten = input.flatten.drop bytesToCrypt ∧ Agrees maxSize s.2.1 s.2.2 flat)
      (doCryptAndConsume lib allocator input bytesToCrypt ctx w)
      (cryptRest (ctx, input.flatten.take bytesToCrypt, out)) := by
    unfold doCryptAndConsume
    rw [check_pos hinput, returns_bind]
    exact hloop.returning fun _ _ h => h
  exact hreturn.of_map

end CordAesGcm

/-! ## Encrypt and Decrypt -/

namespace CordAesGcmBoringSsl

open CordAesGcm

variable {lib : EvpAesGcm}

/-- **`Encrypt` of cords is AES-GCM of what is in them.** -/
theorem encrypt_flat (hlib : lib.Consecutive) (s : CordAesGcmBoringSsl lib) (allocator : Allocator)
    (iv : RandomBytes kIvSizeInBytes) (plaintext associatedData : Cord)
    (hint : ∀ chunk ∈ associatedData.chunks, chunk.length < 2 ^ 31) :
    Cord.flatten <$> s.encrypt allocator iv plaintext associatedData =
      Outcome.ofExcept (s.flatEncrypt iv.1 plaintext.flatten associatedData.flatten) := by
  apply Refines.map_eq
  have hiv : iv.1.length = 12 := iv.2
  unfold encrypt flatEncrypt
  refine (Refines.ofExcept _).bind ?_
  rintro ctx _ rfl
  rw [processAad_eq hlib _ _ associatedData.ne_nil hint]
  refine (Refines.ofExcept _).orError.bind ?_
  rintro ctx _ rfl
  let maxSize := kIvSizeInBytes + plaintext.size + kTagSizeInBytes
  have hmaxSize : maxSize = 12 + plaintext.flatten.length + 16 := rfl
  have hfits : ([] : Bytes).length + iv.1.length ≤ (CordWriter.new maxSize).maxSize := by
    show 0 + iv.1.length ≤ maxSize
    omega
  obtain ⟨w, hwrite, hholds, hmax⟩ := (CordWriter.holds_new maxSize).write allocator iv.1 hfits (by omega)
  rw [hwrite, returns_bind]
  have hagrees : Agrees maxSize ctx w (ctx, iv.1) := ⟨rfl, hholds, hmax⟩
  have hcrypt := doCryptAndConsume_refines hlib allocator (Nat.le_refl plaintext.size) hagrees (by
    show iv.1.length + plaintext.flatten.length ≤ maxSize
    omega)
  rw [Cord.size, List.take_length] at hcrypt
  refine hcrypt.specified.orError.bind ?_
  rintro ⟨rest, ctx₁, w₁⟩ ⟨ctx₂, ciphertext⟩ ⟨⟨_, hctx, hholds₁, hmax₁⟩, hspec⟩
  have hlength := flatCrypt_length hlib hspec
  subst hctx
  refine (Refines.ofExcept _).bind ?_
  rintro ctx₃ _ rfl
  refine (Refines.ofExcept _).specified.bind ?_
  rintro tag _ ⟨rfl, htag⟩
  have htagLength : tag.length = kTagSizeInBytes := hlib.tag_length _ _ _ (required_ok htag)
  have hroom : (iv.1 ++ ciphertext).length + tag.length ≤ w₁.maxSize := by
    simp only at hlength hmax₁
    have hmaxTag : maxSize = 12 + plaintext.flatten.length + kTagSizeInBytes := rfl
    rw [List.length_append, hmax₁, htagLength, hmaxTag]
    omega
  obtain ⟨w₂, hwrite₂, hholds₂, _⟩ := hholds₁.write allocator tag hroom (by rw [htagLength]; decide)
  rw [hwrite₂]
  exact Refines.returns hholds₂.flatten_data

/-- **`Decrypt` of cords is AES-GCM of what is in them.** -/
theorem decrypt_flat (hlib : lib.Consecutive) (s : CordAesGcmBoringSsl lib) (allocator : Allocator)
    (ciphertext associatedData : Cord) (hint : ∀ chunk ∈ associatedData.chunks, chunk.length < 2 ^ 31) :
    Cord.flatten <$> s.decrypt allocator ciphertext associatedData =
      Outcome.ofExcept (s.flatDecrypt ciphertext.flatten associatedData.flatten) := by
  apply Refines.map_eq
  unfold decrypt flatDecrypt
  by_cases hshort : ciphertext.size < kIvSizeInBytes + kTagSizeInBytes
  · rw [if_pos hshort]
    have hflat : ciphertext.flatten.length < kIvSizeInBytes + kTagSizeInBytes := hshort
    rw [if_pos hflat]
    rfl
  have hsize : ciphertext.size = ciphertext.flatten.length := rfl
  have hconst : kIvSizeInBytes = 12 ∧ kTagSizeInBytes = 16 := ⟨rfl, rfl⟩
  rw [if_neg hshort, if_neg (hsize ▸ hshort)]
  obtain ⟨rest, hremove, hrest⟩ := Cord.removePrefix_returns (show kIvSizeInBytes ≤ ciphertext.size by omega)
  have hrestSize : rest.size = ciphertext.flatten.length - kIvSizeInBytes := by
    rw [Cord.size, hrest, List.length_drop]
  rw [(CordReader.at_new ciphertext).readN (by omega), returns_bind, hremove, returns_bind]
  refine (Refines.ofExcept _).bind ?_
  rintro ctx _ rfl
  rw [processAad_eq hlib _ _ associatedData.ne_nil hint]
  refine (Refines.ofExcept _).orError.bind ?_
  rintro ctx _ rfl
  have hagrees : Agrees (rest.size - kTagSizeInBytes) ctx (CordWriter.new (rest.size - kTagSizeInBytes)) (ctx, []) :=
    ⟨rfl, CordWriter.holds_new _, rfl⟩
  have hcrypt := doCryptAndConsume_refines hlib allocator (Nat.sub_le rest.size kTagSizeInBytes) hagrees (by simp)
  rw [hrest, hrestSize] at hcrypt
  rw [hrestSize]
  refine hcrypt.orError.bind ?_
  rintro ⟨last, ctx₁, w₁⟩ ⟨ctx₂, plaintext⟩ ⟨hlast, hctx, hholds, _⟩
  subst hctx
  have hlastTag : last.flatten = ciphertext.flatten.drop (ciphertext.flatten.length - kTagSizeInBytes) := by
    simp only at hlast
    rw [hlast, List.drop_drop]
    congr 1
    omega
  have hlength : last.flatten.length = kTagSizeInBytes := by
    rw [hlastTag, List.length_drop]
    omega
  have htag : (CordReader.new last).readN kTagSizeInBytes =
      (returns (ciphertext.flatten.drop (ciphertext.flatten.length - kTagSizeInBytes)) : Outcome Status Bytes) := by
    rw [(CordReader.at_new last).readN hlength.ge, List.take_of_length_le hlength.le, hlastTag]
  simp only [htag, returns_bind]
  refine (Refines.ofExcept _).bind ?_
  rintro ctx₃ _ rfl
  refine (Refines.ofExcept _).bind ?_
  rintro _ _ rfl
  exact Refines.returns hholds.flatten_data

end CordAesGcmBoringSsl

end Tink
