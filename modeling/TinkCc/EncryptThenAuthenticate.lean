import TinkCc.Basic
import TinkCc.LibBigEndian
/-!
# EncryptThenAuthenticate — a cipher and a MAC of its ciphertexts

`subtle/encrypt_then_authenticate.cc`.  The MAC is of the associated data, the ciphertext and the number of bits of the
associated data.  That number comes last and in eight bytes, so the input of the MAC determines both parts; a MAC that
accepts only what it computed then makes `Decrypt` accept only what `Encrypt` returned.
-/
namespace Tink

/-- `IndCpaCipher`; what `Encrypt` draws at random is its first argument. -/
structure IndCpaCipher where
  encrypt : (random plaintext : Bytes) → Except Status Bytes
  decrypt : (ciphertext : Bytes) → Except Status Bytes

/-- It decrypts what it encrypted. -/
def IndCpaCipher.Inverse (cipher : IndCpaCipher) : Prop :=
  ∀ random plaintext ciphertext, cipher.encrypt random plaintext = .ok ciphertext →
    cipher.decrypt ciphertext = .ok plaintext

/-- A `Mac` object whose calls may leave something behind in it. -/
structure MacObject (σ : Type) where
  computeMac : (data : Bytes) → σ → Except Status Bytes × σ
  verifyMac  : (mac data : Bytes) → σ → Except Status Unit × σ

namespace MacObject

variable {σ : Type}

/-- **The state after some calls**, and the pairs of data and tag that `ComputeMac` returned in them. -/
inductive Computed (mac : MacObject σ) (init : σ) : σ → List (Bytes × Bytes) → Prop
  | init : Computed mac init init []
  | computed {s log data tag s'} : Computed mac init s log → mac.computeMac data s = (.ok tag, s') →
      Computed mac init s' ((data, tag) :: log)
  | failed {s log data e s'} : Computed mac init s log → mac.computeMac data s = (.error e, s') →
      Computed mac init s' log
  | verified {s log tag data r s'} : Computed mac init s log → mac.verifyMac tag data s = (r, s') →
      Computed mac init s' log

/-- A tag is accepted for the data it was computed on. -/
def Correct (mac : MacObject σ) (init : σ) : Prop :=
  ∀ s log, mac.Computed init s log → ∀ data tag, (data, tag) ∈ log → (mac.verifyMac tag data s).1 = .ok ()

/-- **A tag is accepted only for data it was computed on.** -/
def AcceptsOnlyComputed (mac : MacObject σ) (init : σ) : Prop :=
  ∀ s log, mac.Computed init s log → ∀ data tag, (mac.verifyMac tag data s).1 = .ok () → (data, tag) ∈ log

end MacObject

/-! ## The code -/

/-- The loop of `longToBigEndianStr`: the bytes that are left, the last first. -/
def longToBigEndianLoop : Nat → UInt64 → Bytes → Bytes
  | 0, _, bytes => bytes
  | i + 1, value, bytes => longToBigEndianLoop i (value >>> 8) ((value &&& 0xff).toUInt8 :: bytes)

def longToBigEndianStr (value : UInt64) : Bytes := longToBigEndianLoop 8 value []

structure EncryptThenAuthenticate (σ : Type) where
  indCpaCipher : IndCpaCipher
  mac          : MacObject σ
  tagSize      : UInt8
  minTagSize   : 10 ≤ tagSize

namespace EncryptThenAuthenticate

variable {σ : Type}

def new (indCpaCipher : IndCpaCipher) (mac : MacObject σ) (tagSize : UInt8) :
    Except Status (EncryptThenAuthenticate σ) :=
  if h : tagSize < 10 then .error ⟨.invalidArgument, "tag size too small"⟩
  else .ok ⟨indCpaCipher, mac, tagSize, UInt8.not_lt.1 h⟩

def associatedDataSizeInBits (associatedData : Bytes) : UInt64 := UInt64.ofNat associatedData.length * 8

/-- `associated_data_size_in_bits / 8 != associated_data_size_in_bytes`. -/
def overflows (associatedData : Bytes) : Bool :=
  associatedDataSizeInBits associatedData / 8 != UInt64.ofNat associatedData.length

/-- What the MAC is computed on. -/
def macInput (associatedData payload : Bytes) : Bytes :=
  associatedData ++ payload ++ longToBigEndianStr (associatedDataSizeInBits associatedData)

def encrypt (aead : EncryptThenAuthenticate σ) (random plaintext associatedData : Bytes) (s : σ) :
    Except Status Bytes × σ :=
  if overflows associatedData then (.error ⟨.invalidArgument, "associated data too long"⟩, s)
  else
    match aead.indCpaCipher.encrypt random plaintext with
    | .error e => (.error e, s)
    | .ok ciphertext =>
      match aead.mac.computeMac (macInput associatedData ciphertext) s with
      | (.error e, s) => (.error e, s)
      | (.ok tag, s) =>
        if tag.length ≠ aead.tagSize.toNat then (.error ⟨.internal, "invalid tag size"⟩, s)
        else (.ok (ciphertext ++ tag), s)

def decrypt (aead : EncryptThenAuthenticate σ) (ciphertext associatedData : Bytes) (s : σ) : Except Status Bytes × σ :=
  if ciphertext.length < aead.tagSize.toNat then (.error ⟨.invalidArgument, "ciphertext too short"⟩, s)
  else if overflows associatedData then (.error ⟨.invalidArgument, "additional data too long"⟩, s)
  else
    let payload := ciphertext.take (ciphertext.length - aead.tagSize.toNat)
    let tag := ciphertext.drop (ciphertext.length - aead.tagSize.toNat)
    match aead.mac.verifyMac tag (macInput associatedData payload) s with
    | (.error e, s) => (.error e, s)
    | (.ok _, s) => (aead.indCpaCipher.decrypt payload, s)

/-! ## Runs -/

/-- A call that returned a ciphertext. -/
structure Encryption where
  plaintext      : Bytes
  associatedData : Bytes
  ciphertext     : Bytes

/-- The pair of data and tag that the MAC computes in a call of `Encrypt`, if it comes to that. -/
def computed (aead : EncryptThenAuthenticate σ) (random plaintext associatedData : Bytes) (s : σ) : List (Bytes × Bytes) :=
  if overflows associatedData then []
  else
    match aead.indCpaCipher.encrypt random plaintext with
    | .error _ => []
    | .ok ciphertext =>
      match aead.mac.computeMac (macInput associatedData ciphertext) s with
      | (.error _, _) => []
      | (.ok tag, _) => [(macInput associatedData ciphertext, tag)]

/-- **The MAC's state after some calls**, the calls of `Encrypt` that returned a ciphertext, and what the MAC computed in all
of them.  A string's size is a `size_t`. -/
inductive Run (aead : EncryptThenAuthenticate σ) (init : σ) : σ → List Encryption → List (Bytes × Bytes) → Prop
  | init : Run aead init init [] []
  | encrypted {s done log random plaintext aad ciphertext s'} : Run aead init s done log → aad.length < 2 ^ 64 →
      aead.encrypt random plaintext aad s = (.ok ciphertext, s') →
      Run aead init s' (⟨plaintext, aad, ciphertext⟩ :: done) (aead.computed random plaintext aad s ++ log)
  | failed {s done log random plaintext aad e s'} : Run aead init s done log → aad.length < 2 ^ 64 →
      aead.encrypt random plaintext aad s = (.error e, s') →
      Run aead init s' done (aead.computed random plaintext aad s ++ log)
  | decrypted {s done log ciphertext aad r s'} : Run aead init s done log → aad.length < 2 ^ 64 →
      aead.decrypt ciphertext aad s = (r, s') → Run aead init s' done log

/-- **No forgery in a ciphertext**: if the MAC accepts its tag, then it has computed it in the run. -/
def NotForged (aead : EncryptThenAuthenticate σ) (log : List (Bytes × Bytes)) (ciphertext aad : Bytes) (s : σ) : Prop :=
  ∀ payload tag, ciphertext = payload ++ tag → tag.length = aead.tagSize.toNat →
    (aead.mac.verifyMac tag (macInput aad payload) s).1 = .ok () → (macInput aad payload, tag) ∈ log

/-! ## The input of the MAC -/

theorem longToBigEndianLoop_length : ∀ (i : Nat) (value : UInt64) (bytes : Bytes),
    (longToBigEndianLoop i value bytes).length = i + bytes.length
  | 0, _, _ => by simp [longToBigEndianLoop]
  | i + 1, value, bytes => by
    unfold longToBigEndianLoop
    rw [longToBigEndianLoop_length i, List.length_cons]
    omega

theorem longToBigEndianLoop_value : ∀ (i : Nat) (value : UInt64) (bytes : Bytes),
    BigEndian.value (longToBigEndianLoop i value bytes) =
      BigEndian.value bytes + 256 ^ bytes.length * (value.toNat % 256 ^ i)
  | 0, _, _ => by simp [longToBigEndianLoop, Nat.mod_one]
  | i + 1, value, bytes => by
    have hlow : (value &&& 0xff).toUInt8.toNat = value.toNat % 256 := by
      have hand : value.toNat &&& (2 ^ 8 - 1) = value.toNat % 2 ^ 8 := Nat.and_two_pow_sub_one_eq_mod value.toNat 8
      rw [UInt64.toNat_toUInt8, UInt64.toNat_and]
      exact (congrArg (· % 2 ^ 8) hand).trans (Nat.mod_mod _ _)
    have hhigh : (value >>> 8).toNat = value.toNat / 256 := by
      simp [Nat.shiftRight_eq_div_pow]
    unfold longToBigEndianLoop
    rw [longToBigEndianLoop_value i, BigEndian.value_cons, hlow, hhigh, List.length_cons, Nat.pow_succ' (n := i),
      Nat.mod_mul, Nat.pow_succ]
    ring

theorem longToBigEndianStr_length (value : UInt64) : (longToBigEndianStr value).length = 8 :=
  longToBigEndianLoop_length 8 value []

theorem longToBigEndianStr_value (value : UInt64) : BigEndian.value (longToBigEndianStr value) = value.toNat := by
  have h := longToBigEndianLoop_value 8 value []
  rw [Nat.mod_eq_of_lt (value.toNat_lt.trans_eq (by norm_num))] at h
  have hnil : BigEndian.value [] = 0 := BigEndian.value_replicate_zero 0
  rw [hnil, List.length_nil, Nat.pow_zero, Nat.one_mul, Nat.zero_add] at h
  exact h

theorem longToBigEndianStr_inj {value value' : UInt64} :
    longToBigEndianStr value = longToBigEndianStr value' ↔ value = value' := by
  constructor
  · intro h
    have hv := congrArg BigEndian.value h
    rw [longToBigEndianStr_value, longToBigEndianStr_value] at hv
    exact UInt64.toNat_inj.1 hv
  · exact congrArg longToBigEndianStr

theorem associatedDataSizeInBits_toNat (aad : Bytes) :
    (associatedDataSizeInBits aad).toNat = aad.length % 2 ^ 64 * 8 % 2 ^ 64 := by
  unfold associatedDataSizeInBits
  rw [UInt64.toNat_mul, UInt64.toNat_ofNat']
  rfl

/-- **The size test finds every overflow**, and nothing else. -/
theorem overflows_iff {aad : Bytes} (h : aad.length < 2 ^ 64) : overflows aad = true ↔ 2 ^ 64 ≤ aad.length * 8 := by
  unfold overflows
  have hdiv : (associatedDataSizeInBits aad / 8).toNat = aad.length * 8 % 2 ^ 64 / 8 := by
    rw [UInt64.toNat_div, associatedDataSizeInBits_toNat, Nat.mod_eq_of_lt h]
    rfl
  have hlen : (UInt64.ofNat aad.length).toNat = aad.length := by rw [UInt64.toNat_ofNat', Nat.mod_eq_of_lt h]
  rw [bne_iff_ne, ne_eq, ← UInt64.toNat_inj, hdiv, hlen]
  omega

theorem length_of_not_overflows {aad : Bytes} (h : aad.length < 2 ^ 64) (hover : ¬ overflows aad = true) :
    aad.length < 2 ^ 61 := by
  rw [overflows_iff h] at hover
  omega

/-- **The input of the MAC determines the associated data and the payload**: the number at its end says where the one
stops. -/
theorem macInput_inj {aad aad' payload payload' : Bytes} (haad : aad.length < 2 ^ 61) (haad' : aad'.length < 2 ^ 61)
    (h : macInput aad payload = macInput aad' payload') : aad = aad' ∧ payload = payload' := by
  obtain ⟨hfront, hbits⟩ := List.append_inj' h (by rw [longToBigEndianStr_length, longToBigEndianStr_length])
  have hlen : aad.length = aad'.length := by
    have hbits := congrArg UInt64.toNat (longToBigEndianStr_inj.1 hbits)
    rw [associatedDataSizeInBits_toNat, associatedDataSizeInBits_toNat] at hbits
    omega
  exact List.append_inj hfront hlen

/-! ## What a call does -/

/-- `Encrypt` asks the MAC once, or fails before it does. -/
theorem encrypt_cases {aead : EncryptThenAuthenticate σ} {random plaintext aad : Bytes} {s s' : σ}
    {r : Except Status Bytes} (h : aead.encrypt random plaintext aad s = (r, s')) :
    (s' = s ∧ aead.computed random plaintext aad s = [] ∧ ∃ e, r = .error e) ∨
    ∃ payload, ¬ overflows aad = true ∧ aead.indCpaCipher.encrypt random plaintext = .ok payload ∧
      ((∃ e, aead.mac.computeMac (macInput aad payload) s = (.error e, s') ∧
          aead.computed random plaintext aad s = [] ∧ r = .error e) ∨
       ∃ tag, aead.mac.computeMac (macInput aad payload) s = (.ok tag, s') ∧
        aead.computed random plaintext aad s = [(macInput aad payload, tag)] ∧
        ((tag.length ≠ aead.tagSize.toNat ∧ ∃ e, r = .error e) ∨
         (tag.length = aead.tagSize.toNat ∧ r = .ok (payload ++ tag)))) := by
  unfold encrypt at h
  unfold computed
  by_cases hover : overflows aad = true
  · rw [if_pos hover] at h
    obtain ⟨rfl, rfl⟩ := Prod.mk.inj h
    exact .inl ⟨rfl, if_pos hover, _, rfl⟩
  rw [if_neg hover] at h ⊢
  cases hc : aead.indCpaCipher.encrypt random plaintext with
  | error e =>
    rw [hc] at h
    obtain ⟨rfl, rfl⟩ := Prod.mk.inj h
    exact .inl ⟨rfl, rfl, e, rfl⟩
  | ok payload =>
    rw [hc] at h
    dsimp only at h ⊢
    refine .inr ⟨payload, hover, rfl, ?_⟩
    rcases hm : aead.mac.computeMac (macInput aad payload) s with ⟨result, s₁⟩
    rw [hm] at h
    cases result with
    | error e =>
      obtain ⟨rfl, rfl⟩ := Prod.mk.inj h
      exact .inl ⟨e, rfl, rfl, rfl⟩
    | ok tag =>
      dsimp only at h
      by_cases hlen : tag.length = aead.tagSize.toNat
      · rw [if_neg (not_not_intro hlen)] at h
        obtain ⟨rfl, rfl⟩ := Prod.mk.inj h
        exact .inr ⟨tag, rfl, rfl, .inr ⟨hlen, rfl⟩⟩
      · rw [if_pos hlen] at h
        obtain ⟨rfl, rfl⟩ := Prod.mk.inj h
        exact .inr ⟨tag, rfl, rfl, .inl ⟨hlen, _, rfl⟩⟩

/-- `Decrypt` of a payload and a tag. -/
theorem decrypt_append (aead : EncryptThenAuthenticate σ) {payload tag aad : Bytes} (s : σ)
    (htag : tag.length = aead.tagSize.toNat) (hover : ¬ overflows aad = true) :
    aead.decrypt (payload ++ tag) aad s =
      ((aead.mac.verifyMac tag (macInput aad payload) s).1.bind fun _ => aead.indCpaCipher.decrypt payload,
       (aead.mac.verifyMac tag (macInput aad payload) s).2) := by
  have hsize : (payload ++ tag).length - aead.tagSize.toNat = payload.length := by
    rw [List.length_append, htag, Nat.add_sub_cancel]
  have hlong : ¬ (payload ++ tag).length < aead.tagSize.toNat := by
    rw [List.length_append]
    omega
  unfold decrypt
  rw [if_neg hlong, if_neg hover, hsize, List.take_left, List.drop_left]
  dsimp only
  rcases aead.mac.verifyMac tag (macInput aad payload) s with ⟨verified, s'⟩
  cases verified with
  | error e => rfl
  | ok u => rfl

/-- `Decrypt` asks the MAC about the two parts of the ciphertext, or fails before it does. -/
theorem decrypt_cases {aead : EncryptThenAuthenticate σ} {ciphertext aad : Bytes} {s s' : σ}
    {r : Except Status Bytes} (h : aead.decrypt ciphertext aad s = (r, s')) :
    (s' = s ∧ ∃ e, r = .error e) ∨
    ∃ payload tag verified, ¬ overflows aad = true ∧ ciphertext = payload ++ tag ∧
      tag.length = aead.tagSize.toNat ∧ aead.mac.verifyMac tag (macInput aad payload) s = (verified, s') ∧
      r = verified.bind fun _ => aead.indCpaCipher.decrypt payload := by
  by_cases hshort : ciphertext.length < aead.tagSize.toNat
  · unfold decrypt at h
    rw [if_pos hshort] at h
    obtain ⟨rfl, rfl⟩ := Prod.mk.inj h
    exact .inl ⟨rfl, _, rfl⟩
  by_cases hover : overflows aad = true
  · unfold decrypt at h
    rw [if_neg hshort, if_pos hover] at h
    obtain ⟨rfl, rfl⟩ := Prod.mk.inj h
    exact .inl ⟨rfl, _, rfl⟩
  have hsplit := (List.take_append_drop (ciphertext.length - aead.tagSize.toNat) ciphertext).symm
  have hlen : (ciphertext.drop (ciphertext.length - aead.tagSize.toNat)).length = aead.tagSize.toNat := by
    rw [List.length_drop]
    omega
  rw [hsplit, decrypt_append aead s hlen hover] at h
  obtain ⟨hr, hs⟩ := Prod.mk.inj h
  exact .inr ⟨_, _, _, hover, hsplit, hlen, Prod.ext rfl hs, hr.symm⟩

/-! ## What a run has computed -/

/-- The pair of the MAC behind a ciphertext. -/
def Encryption.Made (aead : EncryptThenAuthenticate σ) (e : Encryption) (data tag : Bytes) : Prop :=
  ∃ random payload, e.associatedData.length < 2 ^ 61 ∧ aead.indCpaCipher.encrypt random e.plaintext = .ok payload ∧
    data = macInput e.associatedData payload ∧ tag.length = aead.tagSize.toNat ∧ e.ciphertext = payload ++ tag

/-- **The MAC's pairs with a tag of the right size are those of the ciphertexts.** -/
structure Logged (aead : EncryptThenAuthenticate σ) (done : List Encryption) (log : List (Bytes × Bytes)) : Prop where
  made   : ∀ e ∈ done, ∃ data tag, (data, tag) ∈ log ∧ e.Made aead data tag
  logged : ∀ data tag, (data, tag) ∈ log → tag.length = aead.tagSize.toNat → ∃ e ∈ done, e.Made aead data tag

/-- A pair more, with a ciphertext more. -/
theorem Logged.cons {aead : EncryptThenAuthenticate σ} {done : List Encryption} {log : List (Bytes × Bytes)}
    (h : Logged aead done log) {e : Encryption} {data tag : Bytes} (hmade : e.Made aead data tag) :
    Logged aead (e :: done) ((data, tag) :: log) := by
  constructor
  · intro e' he'
    rcases List.mem_cons.1 he' with rfl | he'
    · exact ⟨data, tag, List.mem_cons_self, hmade⟩
    · obtain ⟨data', tag', hmem, hmade'⟩ := h.made e' he'
      exact ⟨data', tag', List.mem_cons_of_mem _ hmem, hmade'⟩
  · intro data' tag' hmem hlen
    rcases List.mem_cons.1 hmem with heq | hmem
    · obtain ⟨rfl, rfl⟩ := Prod.mk.inj heq
      exact ⟨e, List.mem_cons_self, hmade⟩
    · obtain ⟨e', he', hmade'⟩ := h.logged data' tag' hmem hlen
      exact ⟨e', List.mem_cons_of_mem _ he', hmade'⟩

/-- A pair with a tag of another size is that of no ciphertext. -/
theorem Logged.skip {aead : EncryptThenAuthenticate σ} {done : List Encryption} {log : List (Bytes × Bytes)}
    (h : Logged aead done log) {data tag : Bytes} (hlen : tag.length ≠ aead.tagSize.toNat) :
    Logged aead done ((data, tag) :: log) := by
  constructor
  · intro e he
    obtain ⟨data', tag', hmem, hmade⟩ := h.made e he
    exact ⟨data', tag', List.mem_cons_of_mem _ hmem, hmade⟩
  · intro data' tag' hmem hlen'
    rcases List.mem_cons.1 hmem with heq | hmem
    · obtain ⟨rfl, rfl⟩ := Prod.mk.inj heq
      exact absurd hlen' hlen
    · exact h.logged data' tag' hmem hlen'

/-- **What every run keeps.** -/
theorem Run.logged {aead : EncryptThenAuthenticate σ} {init s : σ} {done : List Encryption} {log : List (Bytes × Bytes)}
    (h : Run aead init s done log) : aead.mac.Computed init s log ∧ Logged aead done log := by
  induction h with
  | init => exact ⟨.init, ⟨(fun e he => by cases he), (fun data tag hmem => by cases hmem)⟩⟩
  | encrypted _ haad henc ih =>
    obtain ⟨hlog, hinv⟩ := ih
    rcases encrypt_cases henc with
      ⟨-, -, e, hr⟩ | ⟨payload, hover, hc, ⟨e, -, -, hr⟩ | ⟨tag, hm, hcomputed, ⟨-, e, hr⟩ | ⟨hlen, hr⟩⟩⟩
    · cases hr
    · cases hr
    · cases hr
    · rw [hcomputed]
      exact ⟨.computed hlog hm, hinv.cons
        ⟨_, payload, length_of_not_overflows haad hover, hc, rfl, hlen, Except.ok.inj hr⟩⟩
  | failed _ _ henc ih =>
    obtain ⟨hlog, hinv⟩ := ih
    rcases encrypt_cases henc with
      ⟨rfl, hcomputed, -⟩ | ⟨payload, -, -, ⟨e, hm, hcomputed, -⟩ | ⟨tag, hm, hcomputed, ⟨hlen, -⟩ | ⟨-, hr⟩⟩⟩
    · rw [hcomputed]
      exact ⟨hlog, hinv⟩
    · rw [hcomputed]
      exact ⟨.failed hlog hm, hinv⟩
    · rw [hcomputed]
      exact ⟨.computed hlog hm, hinv.skip hlen⟩
    · cases hr
  | decrypted _ _ hdec ih =>
    obtain ⟨hlog, hinv⟩ := ih
    rcases decrypt_cases hdec with ⟨rfl, -⟩ | ⟨payload, tag, verified, -, -, -, hm, -⟩
    · exact ⟨hlog, hinv⟩
    · exact ⟨.verified hlog hm, hinv⟩

/-- A MAC that accepts only what it computed leaves no room for forgeries. -/
theorem Run.notForged {aead : EncryptThenAuthenticate σ} {init s : σ} {done : List Encryption} {log : List (Bytes × Bytes)}
    (h : Run aead init s done log) (hmac : aead.mac.AcceptsOnlyComputed init) (ciphertext aad : Bytes) :
    aead.NotForged log ciphertext aad s :=
  fun _ _ _ _ hok => hmac s log h.logged.1 _ _ hok

/-- What was encrypted is decrypted, whatever was called in between. -/
theorem Run.decrypt_of_mem {aead : EncryptThenAuthenticate σ} {init s : σ} {done : List Encryption}
    {log : List (Bytes × Bytes)} (h : Run aead init s done log) (hmac : aead.mac.Correct init)
    (hcipher : aead.indCpaCipher.Inverse) {e : Encryption} (he : e ∈ done) :
    (aead.decrypt e.ciphertext e.associatedData s).1 = .ok e.plaintext := by
  obtain ⟨hlog, hinv⟩ := h.logged
  obtain ⟨data, tag, hmem, random, payload, haad, hc, rfl, hlen, hct⟩ := hinv.made e he
  have hover : ¬ overflows e.associatedData = true := by
    rw [overflows_iff (by omega)]
    omega
  rw [hct, decrypt_append aead s hlen hover, hmac s log hlog _ _ hmem]
  exact hcipher _ _ _ hc

/-- Only what was encrypted is decrypted. -/
theorem Run.mem_of_decrypt {aead : EncryptThenAuthenticate σ} {init s : σ} {done : List Encryption}
    {log : List (Bytes × Bytes)} (h : Run aead init s done log) {ciphertext aad plaintext : Bytes}
    (hforged : aead.NotForged log ciphertext aad s) (haad : aad.length < 2 ^ 64)
    (hdec : (aead.decrypt ciphertext aad s).1 = .ok plaintext) :
    ∃ e ∈ done, e.ciphertext = ciphertext ∧ e.associatedData = aad ∧
      (aead.indCpaCipher.Inverse → e.plaintext = plaintext) := by
  obtain ⟨-, hinv⟩ := h.logged
  rcases decrypt_cases (Prod.ext hdec rfl : aead.decrypt ciphertext aad s = (.ok plaintext, _)) with
    ⟨-, e, hr⟩ | ⟨payload, tag, verified, hover, rfl, hlen, hm, hr⟩
  · cases hr
  · cases verified with
    | error e => cases hr
    | ok u =>
      have hmem := hforged payload tag rfl hlen (congrArg Prod.fst hm)
      obtain ⟨e, he, random, payload', haad', hc, hdata, -, hct⟩ := hinv.logged _ _ hmem hlen
      obtain ⟨rfl, rfl⟩ := macInput_inj (length_of_not_overflows haad hover) haad' hdata
      exact ⟨e, he, hct, rfl, fun hcipher => Except.ok.inj ((hcipher _ _ _ hc).symm.trans hr.symm)⟩

/-- **Only what `Encrypt` returned is decrypted, with its associated data and to its plaintext**, unless the MAC accepts
a pair that it has not computed in the run. -/
theorem encryptThenAuthenticate_authentic (aead : EncryptThenAuthenticate σ) (init : σ) :
    (∀ aad aad' payload payload' : Bytes, aad.length < 2 ^ 61 → aad'.length < 2 ^ 61 →
      macInput aad payload = macInput aad' payload' → aad = aad' ∧ payload = payload') ∧
    (∀ s done log, Run aead init s done log →
      ∀ ciphertext aad plaintext, aead.NotForged log ciphertext aad s ∨ aead.mac.AcceptsOnlyComputed init →
        aad.length < 2 ^ 64 → (aead.decrypt ciphertext aad s).1 = .ok plaintext →
        ∃ e ∈ done, e.ciphertext = ciphertext ∧ e.associatedData = aad ∧
          (aead.indCpaCipher.Inverse → e.plaintext = plaintext)) ∧
    (aead.mac.Correct init → aead.indCpaCipher.Inverse → ∀ s done log, Run aead init s done log →
      ∀ e ∈ done, (aead.decrypt e.ciphertext e.associatedData s).1 = .ok e.plaintext) ∧
    (∀ aad : Bytes, aad.length < 2 ^ 64 →
      (overflows aad = true ↔ 2 ^ 64 ≤ aad.length * 8) ∧
      (2 ^ 64 ≤ aad.length * 8 → ∀ random plaintext ciphertext s, aead.encrypt random plaintext aad s =
          (.error ⟨.invalidArgument, "associated data too long"⟩, s) ∧
        ∃ e, aead.decrypt ciphertext aad s = (.error e, s))) := by
  refine ⟨fun _ _ _ _ haad haad' => macInput_inj haad haad', fun s done log hrun ciphertext aad plaintext hmac haad hdec =>
    hrun.mem_of_decrypt (hmac.elim id fun hmac => hrun.notForged hmac ciphertext aad) haad hdec,
    fun hmac hcipher s done log hrun e he => hrun.decrypt_of_mem hmac hcipher he,
    fun aad haad => ⟨overflows_iff haad, fun hbits random plaintext ciphertext s => ?_⟩⟩
  have hover := (overflows_iff haad).2 hbits
  constructor
  · unfold encrypt
    rw [if_pos hover]
  · unfold decrypt
    by_cases hshort : ciphertext.length < aead.tagSize.toNat
    · exact ⟨_, if_pos hshort⟩
    · rw [if_neg hshort, if_pos hover]
      exact ⟨_, rfl⟩

/-- A MAC that remembers what it computed. -/
def rememberingMac : MacObject (List (Bytes × Bytes)) where
  computeMac data log := (.ok (List.replicate 10 0), (data, List.replicate 10 0) :: log)
  verifyMac tag data log :=
    if (data, tag) ∈ log then (.ok (), log) else (.error ⟨.invalidArgument, "verification failed"⟩, log)

theorem rememberingMac_log {s log : List (Bytes × Bytes)} (h : rememberingMac.Computed [] s log) : s = log := by
  induction h with
  | init => rfl
  | computed _ hm ih =>
    obtain ⟨hr, rfl⟩ := Prod.mk.inj hm
    rw [ih, ← Except.ok.inj hr]
  | failed _ hm _ => cases (Prod.mk.inj hm).1
  | @verified s log tag data r s' _ hm ih =>
    unfold rememberingMac at hm
    by_cases hmem : (data, tag) ∈ s
    · rw [← ih, ← (Prod.mk.inj ((if_pos hmem).symm.trans hm)).2]
    · rw [← ih, ← (Prod.mk.inj ((if_neg hmem).symm.trans hm)).2]

theorem rememberingMac_verify (data tag : Bytes) (s : List (Bytes × Bytes)) :
    (rememberingMac.verifyMac tag data s).1 = .ok () ↔ (data, tag) ∈ s := by
  unfold rememberingMac
  by_cases h : (data, tag) ∈ s
  · simp [h]
  · simp [h]

theorem rememberingMac_correct : rememberingMac.Correct [] := fun s _ hlog data tag hmem =>
  (rememberingMac_verify data tag s).2 (rememberingMac_log hlog ▸ hmem)

theorem rememberingMac_acceptsOnlyComputed : rememberingMac.AcceptsOnlyComputed [] := fun s _ hlog data tag hok =>
  rememberingMac_log hlog ▸ (rememberingMac_verify data tag s).1 hok

/-- A cipher that hides nothing, with the MAC that remembers. -/
def plainThenRemembered : EncryptThenAuthenticate (List (Bytes × Bytes)) where
  indCpaCipher := ⟨fun _ plaintext => .ok plaintext, .ok⟩
  mac := rememberingMac
  tagSize := 10
  minTagSize := by decide

theorem encryptThenAuthenticate_authentic_plain :
    let tag : Bytes := List.replicate 10 0
    let s := (plainThenRemembered.encrypt [] [3] [7] []).2
    (plainThenRemembered.decrypt (3 :: tag) [7] s).1 = .ok [3] ∧
      ∀ ciphertext aad plaintext, aad.length < 2 ^ 64 →
        (plainThenRemembered.decrypt ciphertext aad s).1 = .ok plaintext → ciphertext = 3 :: tag ∧ aad = [7] := by
  have hrun : Run plainThenRemembered [] _ [⟨[3], [7], _⟩] _ :=
    .encrypted .init (by decide) (rfl : plainThenRemembered.encrypt [] [3] [7] [] = _)
  obtain ⟨-, honly, hall, -⟩ := encryptThenAuthenticate_authentic plainThenRemembered []
  constructor
  · exact hall rememberingMac_correct (fun _ _ _ h => congrArg Except.ok (Except.ok.inj h).symm) _ _ _ hrun _
      List.mem_cons_self
  · intro ciphertext aad plaintext haad hdec
    obtain ⟨e, he, rfl, rfl, -⟩ := honly _ _ _ hrun _ _ _ (.inr rememberingMac_acceptsOnlyComputed) haad hdec
    obtain rfl := List.mem_singleton.1 he
    exact ⟨rfl, rfl⟩

end EncryptThenAuthenticate

end Tink
