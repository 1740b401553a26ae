import TinkCc.KeysetWrapper
/-!
# SetWrapper — AEADs, MACs and signatures of whole keysets

`aead_wrapper.cc`, `deterministic_aead_wrapper.cc`, `mac_wrapper.cc`, `public_key_sign_wrapper.cc` and
`public_key_verify_wrapper.cc`, without monitoring.  What the primary key makes starts with its prefix; what is accepted is
looked up by its first five bytes, and then given to the RAW keys.  `Decides` is what the loops of all wrappers have in
common.
-/
namespace Tink

/-! ## Primitives -/

/-- `Aead`; what `Encrypt` draws at random is its first argument. -/
structure Aead where
  encrypt : Bytes → Bytes → Bytes → Except Status Bytes
  decrypt : Bytes → Bytes → Except Status Bytes

structure DeterministicAead where
  encryptDeterministically : Bytes → Bytes → Except Status Bytes
  decryptDeterministically : Bytes → Bytes → Except Status Bytes

/-- `PublicKeySign`; what `Sign` draws at random is its first argument. -/
structure PublicKeySign where
  sign : Bytes → Bytes → Except Status Bytes

structure PublicKeyVerify where
  verify : Bytes → Bytes → Except Status Unit

/-! ## Sets with a primary entry -/

section Generic
variable {P R : Type}

/-- A set that `Validate` has accepted. -/
structure SetWithPrimary (P : Type) where
  set       : PrimitiveSet P
  primary   : PrimitiveEntry P
  isPrimary : set.getPrimary = some primary

/-- `Validate` of a wrapper; `name` is the set's name in the message. -/
def validateSet (name : String) (set : PrimitiveSet P) : Except Status (SetWithPrimary P) :=
  match h : set.getPrimary with
  | none => .error ⟨.invalidArgument, s!"{name} has no primary"⟩
  | some primary => .ok ⟨set, primary, h⟩

/-- The output of the primary primitive, after the prefix of its key. -/
def SetWithPrimary.prefixed (wrapper : SetWithPrimary P) (output : Except Status Bytes) : Except Status Bytes :=
  match output with
  | .error e => .error e
  | .ok output => .ok (wrapper.primary.identifier ++ output)

/-- A loop over entries that stops at the first that accepts. -/
def firstOk {α : Type} (cond : α → Bool) (attempt : α → Except Status R) : List α → Option R
  | [] => none
  | a :: as =>
    if cond a then
      match attempt a with
      | .ok r => some r
      | .error _ => firstOk cond attempt as
    else firstOk cond attempt as

/-- The loop over the entries with the first five bytes as their identifier. -/
def tryPrefixed (attempt : PrimitiveEntry P → Bytes → Except Status R) (set : PrimitiveSet P) (input : Bytes) : Option R :=
  if input.length > CryptoFormat.nonRawPrefixSize then
    match set.getPrimitives (input.take CryptoFormat.nonRawPrefixSize) with
    | .ok entries => firstOk (fun _ => true) (fun entry => attempt entry (input.drop CryptoFormat.nonRawPrefixSize)) entries
    | .error _ => none
  else none

/-- The loop over the RAW entries. -/
def tryRaw (attempt : PrimitiveEntry P → Bytes → Except Status R) (set : PrimitiveSet P) (input : Bytes) : Option R :=
  match set.getRawPrimitives with
  | .ok entries => firstOk (fun _ => true) (fun entry => attempt entry input) entries
  | .error _ => none

/-- An entry with the prefix of the input, or else a RAW entry. -/
def acceptBySet (attempt attemptRaw : PrimitiveEntry P → Bytes → Except Status R) (failure : Status) (set : PrimitiveSet P)
    (input : Bytes) : Except Status R :=
  match tryPrefixed attempt set input with
  | some r => .ok r
  | none =>
    -- no matching key succeeded, try all RAW keys
    match tryRaw attemptRaw set input with
    | some r => .ok r
    | none => .error failure

end Generic

/-! ## The wrappers -/

abbrev AeadSetWrapper := SetWithPrimary Aead

def aeadWrap (set : PrimitiveSet Aead) : Except Status AeadSetWrapper := validateSet "aead_set" set

def AeadSetWrapper.encrypt (wrapper : AeadSetWrapper) (random plaintext associatedData : Bytes) : Except Status Bytes :=
  wrapper.prefixed (wrapper.primary.primitive.encrypt random plaintext associatedData)

def AeadSetWrapper.decrypt (wrapper : AeadSetWrapper) (ciphertext associatedData : Bytes) : Except Status Bytes :=
  acceptBySet (fun entry ciphertext => entry.primitive.decrypt ciphertext associatedData)
    (fun entry ciphertext => entry.primitive.decrypt ciphertext associatedData)
    ⟨.invalidArgument, "decryption failed"⟩ wrapper.set ciphertext

abbrev DeterministicAeadSetWrapper := SetWithPrimary DeterministicAead

def deterministicAeadWrap (set : PrimitiveSet DeterministicAead) : Except Status DeterministicAeadSetWrapper :=
  validateSet "daead_set" set

def DeterministicAeadSetWrapper.encryptDeterministically (wrapper : DeterministicAeadSetWrapper)
    (plaintext associatedData : Bytes) : Except Status Bytes :=
  wrapper.prefixed (wrapper.primary.primitive.encryptDeterministically plaintext associatedData)

def DeterministicAeadSetWrapper.decryptDeterministically (wrapper : DeterministicAeadSetWrapper)
    (ciphertext associatedData : Bytes) : Except Status Bytes :=
  acceptBySet (fun entry ciphertext => entry.primitive.decryptDeterministically ciphertext associatedData)
    (fun entry ciphertext => entry.primitive.decryptDeterministically ciphertext associatedData)
    ⟨.invalidArgument, "decryption failed"⟩ wrapper.set ciphertext

/-- The data that a key is given: with one more byte for a LEGACY key. -/
def legacyData (outputPrefixType : OutputPrefixType) (data : Bytes) : Bytes :=
  if outputPrefixType = .legacy then data ++ [CryptoFormat.legacyStartByte] else data

abbrev MacSetWrapper := SetWithPrimary Mac

def macWrap (set : PrimitiveSet Mac) : Except Status MacSetWrapper := validateSet "mac_set" set

def MacSetWrapper.computeMac (wrapper : MacSetWrapper) (data : Bytes) : Except Status Bytes :=
  wrapper.prefixed (wrapper.primary.primitive.computeMac (legacyData wrapper.primary.outputPrefixType data))

def MacSetWrapper.verifyMac (wrapper : MacSetWrapper) (macValue data : Bytes) : Except Status Unit :=
  acceptBySet (fun entry macValue => entry.primitive.verifyMac macValue (legacyData entry.outputPrefixType data))
    (fun entry macValue => entry.primitive.verifyMac macValue data)
    ⟨.invalidArgument, "verification failed"⟩ wrapper.set macValue

abbrev PublicKeySignSetWrapper := SetWithPrimary PublicKeySign

def publicKeySignWrap (set : PrimitiveSet PublicKeySign) : Except Status PublicKeySignSetWrapper :=
  validateSet "public_key_sign_set" set

def PublicKeySignSetWrapper.sign (wrapper : PublicKeySignSetWrapper) (random data : Bytes) : Except Status Bytes :=
  wrapper.prefixed (wrapper.primary.primitive.sign random (legacyData wrapper.primary.outputPrefixType data))

structure VerifyEntry where
  primitive        : PublicKeyVerify
  keyId            : UInt32
  outputPrefixType : OutputPrefixType
  hasPrefix        : Bool
  prefixBytes      : Bytes

/-- `UnpackPrimitives`, on one entry. -/
def unpackPrimitive (entry : PrimitiveEntry PublicKeyVerify) : VerifyEntry where
  primitive := entry.primitive
  keyId := entry.keyId
  outputPrefixType := entry.outputPrefixType
  hasPrefix := decide (entry.identifier ≠ [])
  prefixBytes :=
    if entry.identifier ≠ [] then entry.identifier.take CryptoFormat.nonRawPrefixSize
    else List.replicate CryptoFormat.nonRawPrefixSize 0

structure PublicKeyVerifySetWrapper where
  entries : List VerifyEntry

def publicKeyVerifyWrap (set : PrimitiveSet PublicKeyVerify) : Except Status PublicKeyVerifySetWrapper :=
  match validateSet "public_key_verify_set" set with
  | .error e => .error e
  | .ok wrapper => .ok ⟨wrapper.set.releaseAllEntries.1.map unpackPrimitive⟩

def PublicKeyVerifySetWrapper.verify (wrapper : PublicKeyVerifySetWrapper) (signature data : Bytes) : Except Status Unit :=
  if signature.length ≤ CryptoFormat.nonRawPrefixSize then .error ⟨.invalidArgument, "Signature too short."⟩
  else
    let keyId := signature.take CryptoFormat.nonRawPrefixSize
    let rawSignature := signature.drop CryptoFormat.nonRawPrefixSize
    match firstOk (fun entry => entry.hasPrefix && decide (entry.prefixBytes = keyId))
        (fun entry => entry.primitive.verify rawSignature (legacyData entry.outputPrefixType data)) wrapper.entries with
    | some () => .ok ()
    | none =>
      -- no matching key succeeded with verification, try all RAW keys
      match firstOk (fun entry => !entry.hasPrefix) (fun entry => entry.primitive.verify signature data)
          wrapper.entries with
      | some () => .ok ()
      | none => .error ⟨.invalidArgument, "Invalid signature."⟩

/-! ## What the loops decide -/

section Loops
variable {P R α : Type}

theorem firstOk_some {cond : α → Bool} {attempt : α → Except Status R} {r : R} :
    ∀ {as : List α}, firstOk cond attempt as = some r → ∃ a ∈ as, cond a = true ∧ attempt a = .ok r
  | [], h => by cases h
  | a :: as, h => by
    have hrest : firstOk cond attempt as = some r → ∃ b ∈ a :: as, cond b = true ∧ attempt b = .ok r := by
      intro h
      obtain ⟨b, hb, hcond, hok⟩ := firstOk_some h
      exact ⟨b, List.mem_cons_of_mem _ hb, hcond, hok⟩
    unfold firstOk at h
    split at h
    · rename_i hcond
      split at h
      · rename_i hok
        cases h
        exact ⟨a, List.mem_cons_self .., hcond, hok⟩
      · exact hrest h
    · exact hrest h

theorem firstOk_none {cond : α → Bool} {attempt : α → Except Status R} :
    ∀ {as : List α}, firstOk cond attempt as = none → ∀ a ∈ as, cond a = true → ∀ r, attempt a ≠ .ok r
  | [], _, _, ha => by cases ha
  | a :: as, h, b, hb => by
    unfold firstOk at h
    split at h
    · split at h
      · cases h
      · rename_i herror
        rcases List.mem_cons.1 hb with rfl | hb
        · intro _ r hok
          rw [herror] at hok
          cases hok
        · exact firstOk_none h b hb
    · rename_i hcond
      rcases List.mem_cons.1 hb with rfl | hb
      · intro hcond'
        exact absurd hcond' hcond
      · exact firstOk_none h b hb

/-- An entry without an identifier accepts the input as it is, another one what follows its identifier. -/
def EntryAccepts (attempt : OutputPrefixType → P → Bytes → Except Status R) (entry : PrimitiveEntry P) (input : Bytes)
    (r : R) : Prop :=
  entry.identifier = [] ∧ attempt entry.outputPrefixType entry.primitive input = .ok r ∨
    ∃ rest, rest ≠ [] ∧ entry.identifier.length = CryptoFormat.nonRawPrefixSize ∧ input = entry.identifier ++ rest ∧
      attempt entry.outputPrefixType entry.primitive rest = .ok r

/-- **A result is decided by the entries**: one of them accepts, or none does, at least when the input is `long`. -/
def Decides (attempt : OutputPrefixType → P → Bytes → Except Status R) (entries : List (PrimitiveEntry P)) (long : Prop)
    (input : Bytes) (result : Except Status R) : Prop :=
  (∃ r, result = .ok r ∧ ∃ entry ∈ entries, EntryAccepts attempt entry input r) ∨
    (∃ e, result = .error e) ∧ (long → ∀ entry ∈ entries, ∀ r, ¬ EntryAccepts attempt entry input r)

/-- What is known of the entries of a set that `Wrap` has made. -/
structure WellFiled (set : PrimitiveSet P) : Prop where
  consistent : set.Consistent id
  identifier : ∀ entry ∈ set.getAllInKeysetOrder, entry.identifier = [] ∧
    (entry.outputPrefixType = .raw ∨ entry.outputPrefixType = .withIdRequirement) ∨
    entry.identifier.length = CryptoFormat.nonRawPrefixSize

variable {set : PrimitiveSet P}

/-- An entry without an identifier is one of a RAW key. -/
theorem WellFiled.raw (h : WellFiled set) {entry : PrimitiveEntry P} (hmem : entry ∈ set.getAllInKeysetOrder)
    (hnil : entry.identifier = []) :
    entry.outputPrefixType = .raw ∨ entry.outputPrefixType = .withIdRequirement := by
  rcases h.identifier entry hmem with ⟨-, htype⟩ | hsize
  · exact htype
  · rw [hnil] at hsize
    cases hsize

theorem WellFiled.size (h : WellFiled set) {entry : PrimitiveEntry P} (hmem : entry ∈ set.getAllInKeysetOrder)
    (hne : entry.identifier ≠ []) : entry.identifier.length = CryptoFormat.nonRawPrefixSize := by
  rcases h.identifier entry hmem with ⟨hnil, -⟩ | hsize
  · exact absurd hnil hne
  · exact hsize

/-- An entry without an identifier accepts nothing but the input as it is. -/
theorem EntryAccepts.of_nil {attempt : OutputPrefixType → P → Bytes → Except Status R} {entry : PrimitiveEntry P}
    {input : Bytes} {r : R} (h : EntryAccepts attempt entry input r) (hnil : entry.identifier = []) :
    attempt entry.outputPrefixType entry.primitive input = .ok r := by
  rcases h with ⟨-, hok⟩ | ⟨rest, -, hsize, -⟩
  · exact hok
  · rw [hnil] at hsize
    cases hsize

/-- A lookup is a loop over the entries with the identifier. -/
theorem WellFiled.firstOk_getPrimitives (h : WellFiled set) (identifier : Bytes) (attempt : PrimitiveEntry P → Except Status R) :
    (match set.getPrimitives identifier with
      | .ok entries => firstOk (fun _ => true) attempt entries
      | .error _ => none) = firstOk (fun _ => true) attempt (set.withIdentifier identifier) := by
  rcases h.consistent.getPrimitives identifier with hok | ⟨hnil, e, herror, -⟩
  · rw [hok]
  · rw [herror, hnil]
    rfl

theorem mem_withIdentifier {identifier : Bytes} {entry : PrimitiveEntry P} :
    entry ∈ set.withIdentifier identifier ↔ entry ∈ set.getAllInKeysetOrder ∧ entry.identifier = identifier := by
  unfold PrimitiveSet.withIdentifier
  rw [List.mem_filter, decide_eq_true_eq]

variable {attempt : OutputPrefixType → P → Bytes → Except Status R} {input : Bytes}

/-- What the loop over the entries with the first five bytes as identifier finds. -/
theorem tryPrefixed_spec (attempt : OutputPrefixType → P → Bytes → Except Status R) (h : WellFiled set) (input : Bytes) :
    (∃ r, tryPrefixed (fun entry => attempt entry.outputPrefixType entry.primitive) set input = some r ∧
      ∃ entry ∈ set.getAllInKeysetOrder, EntryAccepts attempt entry input r) ∨
    tryPrefixed (fun entry => attempt entry.outputPrefixType entry.primitive) set input = none ∧
      ∀ entry ∈ set.getAllInKeysetOrder, entry.identifier ≠ [] → ∀ r, ¬ EntryAccepts attempt entry input r := by
  unfold tryPrefixed
  rw [h.firstOk_getPrimitives]
  by_cases hlen : input.length > CryptoFormat.nonRawPrefixSize
  · rw [if_pos hlen]
    cases hfirst : firstOk (fun _ => true) (fun entry : PrimitiveEntry P => attempt entry.outputPrefixType entry.primitive
        (input.drop CryptoFormat.nonRawPrefixSize)) (set.withIdentifier (input.take CryptoFormat.nonRawPrefixSize)) with
    | some r =>
      obtain ⟨entry, hmem, -, hok⟩ := firstOk_some hfirst
      obtain ⟨hmem, hid⟩ := mem_withIdentifier.1 hmem
      refine .inl ⟨r, rfl, entry, hmem, .inr ⟨_, ?_, ?_, ?_, hok⟩⟩
      · exact List.ne_nil_of_length_pos (by rw [List.length_drop]; omega)
      · rw [hid, List.length_take]
        omega
      · rw [hid, List.take_append_drop]
    | none =>
      refine .inr ⟨rfl, fun entry hmem hne r haccepts => ?_⟩
      rcases haccepts with ⟨hnil, -⟩ | ⟨rest, -, hsize, hinput, hok⟩
      · exact hne hnil
      · have htake : input.take CryptoFormat.nonRawPrefixSize = entry.identifier := by
          rw [hinput, ← hsize, List.take_left]
        have hdrop : input.drop CryptoFormat.nonRawPrefixSize = rest := by
          rw [hinput, ← hsize, List.drop_left]
        refine firstOk_none hfirst entry (mem_withIdentifier.2 ⟨hmem, htake.symm⟩) rfl r ?_
        rw [hdrop]
        exact hok
  · rw [if_neg hlen]
    refine .inr ⟨rfl, fun entry hmem hne r haccepts => ?_⟩
    rcases haccepts with ⟨hnil, -⟩ | ⟨rest, hrest, hsize, hinput, -⟩
    · exact hne hnil
    · have := List.length_pos_iff.2 hrest
      rw [hinput, List.length_append] at hlen
      omega

theorem acceptBySet_decides (h : WellFiled set) {attemptRaw : PrimitiveEntry P → Bytes → Except Status R} (failure : Status)
    (hraw : ∀ entry : PrimitiveEntry P, entry.outputPrefixType = .raw ∨ entry.outputPrefixType = .withIdRequirement →
      attemptRaw entry = attempt entry.outputPrefixType entry.primitive) (input : Bytes) :
    Decides attempt set.getAllInKeysetOrder True input
      (acceptBySet (fun entry => attempt entry.outputPrefixType entry.primitive) attemptRaw failure set input) := by
  have hsame : ∀ entry ∈ set.getAllInKeysetOrder, entry.identifier = [] →
      attemptRaw entry input = attempt entry.outputPrefixType entry.primitive input := by
    intro entry hmem hnil
    rw [hraw entry (h.raw hmem hnil)]
  have htryRaw : tryRaw attemptRaw set input = firstOk (fun _ => true) (fun entry => attemptRaw entry input)
      (set.withIdentifier []) := h.firstOk_getPrimitives [] _
  unfold acceptBySet
  rcases tryPrefixed_spec attempt h input with ⟨r, hfirst, hentry⟩ | ⟨hfirst, hnone⟩
  · rw [hfirst]
    exact .inl ⟨r, rfl, hentry⟩
  · rw [hfirst, htryRaw]
    cases hloop : firstOk (fun _ => true) (fun entry => attemptRaw entry input) (set.withIdentifier []) with
    | some r =>
      obtain ⟨entry, hmem, -, hok⟩ := firstOk_some hloop
      obtain ⟨hmem, hid⟩ := mem_withIdentifier.1 hmem
      rw [hsame entry hmem hid] at hok
      exact .inl ⟨r, rfl, entry, hmem, .inl ⟨hid, hok⟩⟩
    | none =>
      refine .inr ⟨⟨failure, rfl⟩, fun _ entry hmem r haccepts => ?_⟩
      by_cases hid : entry.identifier = []
      · refine firstOk_none hloop entry (mem_withIdentifier.2 ⟨hmem, hid⟩) rfl r ?_
        rw [hsame entry hmem hid]
        exact haccepts.of_nil hid
      · exact hnone entry hmem hid r haccepts

/-! ## What each wrapper decides by -/

def aeadAttempt (associatedData : Bytes) (_ : OutputPrefixType) (primitive : Aead) (ciphertext : Bytes) :
    Except Status Bytes := primitive.decrypt ciphertext associatedData

def deterministicAeadAttempt (associatedData : Bytes) (_ : OutputPrefixType) (primitive : DeterministicAead)
    (ciphertext : Bytes) : Except Status Bytes := primitive.decryptDeterministically ciphertext associatedData

def macAttempt (data : Bytes) (outputPrefixType : OutputPrefixType) (primitive : Mac) (macValue : Bytes) :
    Except Status Unit := primitive.verifyMac macValue (legacyData outputPrefixType data)

def verifyAttempt (data : Bytes) (outputPrefixType : OutputPrefixType) (primitive : PublicKeyVerify) (signature : Bytes) :
    Except Status Unit := primitive.verify signature (legacyData outputPrefixType data)

/-- A RAW key is given the data as they are. -/
theorem legacyData_of_raw {outputPrefixType : OutputPrefixType} (data : Bytes)
    (h : outputPrefixType = .raw ∨ outputPrefixType = .withIdRequirement) : legacyData outputPrefixType data = data := by
  rcases h with rfl | rfl
  · rfl
  · rfl

theorem AeadSetWrapper.decrypt_decides (wrapper : AeadSetWrapper) (h : WellFiled wrapper.set)
    (ciphertext associatedData : Bytes) :
    Decides (aeadAttempt associatedData) wrapper.set.getAllInKeysetOrder True ciphertext
      (wrapper.decrypt ciphertext associatedData) :=
  acceptBySet_decides h _ (fun _ _ => rfl) ciphertext

theorem DeterministicAeadSetWrapper.decrypt_decides (wrapper : DeterministicAeadSetWrapper) (h : WellFiled wrapper.set)
    (ciphertext associatedData : Bytes) :
    Decides (deterministicAeadAttempt associatedData) wrapper.set.getAllInKeysetOrder True ciphertext
      (wrapper.decryptDeterministically ciphertext associatedData) :=
  acceptBySet_decides h _ (fun _ _ => rfl) ciphertext

theorem MacSetWrapper.verify_decides (wrapper : MacSetWrapper) (h : WellFiled wrapper.set) (macValue data : Bytes) :
    Decides (macAttempt data) wrapper.set.getAllInKeysetOrder True macValue (wrapper.verifyMac macValue data) := by
  refine acceptBySet_decides h _ (fun entry hraw => ?_) macValue
  unfold macAttempt
  rw [legacyData_of_raw data hraw]

/-- The two loops over the unpacked entries. -/
theorem PublicKeyVerifySetWrapper.verify_decides {set : PrimitiveSet PublicKeyVerify} (h : WellFiled set)
    (signature data : Bytes) :
    Decides (verifyAttempt data) set.getAllInKeysetOrder (CryptoFormat.nonRawPrefixSize < signature.length) signature
      (PublicKeyVerifySetWrapper.verify ⟨set.getAllInKeysetOrder.map unpackPrimitive⟩ signature data) := by
  unfold PublicKeyVerifySetWrapper.verify
  by_cases hlen : signature.length ≤ CryptoFormat.nonRawPrefixSize
  · rw [if_pos hlen]
    exact .inr ⟨⟨_, rfl⟩, fun hlong => absurd hlong (by omega)⟩
  · rw [if_neg hlen]
    dsimp only
    -- an entry with an identifier is tried when its identifier is how the signature starts
    have htried : ∀ entry ∈ set.getAllInKeysetOrder, entry.identifier ≠ [] →
        (unpackPrimitive entry).prefixBytes = entry.identifier ∧
          entry.identifier.length = CryptoFormat.nonRawPrefixSize := by
      intro entry hmem hne
      refine ⟨?_, h.size hmem hne⟩
      unfold unpackPrimitive
      rw [if_pos hne, List.take_of_length_le (by rw [h.size hmem hne])]
    cases hfirst : firstOk (fun entry : VerifyEntry => entry.hasPrefix &&
          decide (entry.prefixBytes = signature.take CryptoFormat.nonRawPrefixSize))
        (fun entry => entry.primitive.verify (signature.drop CryptoFormat.nonRawPrefixSize)
          (legacyData entry.outputPrefixType data)) (set.getAllInKeysetOrder.map unpackPrimitive) with
    | some u =>
      obtain ⟨_, hmap, hcond, hok⟩ := firstOk_some hfirst
      obtain ⟨entry, hmem, rfl⟩ := List.mem_map.1 hmap
      rw [Bool.and_eq_true, decide_eq_true_eq] at hcond
      have hne : entry.identifier ≠ [] := by simpa [unpackPrimitive] using hcond.1
      obtain ⟨hbytes, hsize⟩ := htried entry hmem hne
      refine .inl ⟨(), rfl, entry, hmem, .inr ⟨signature.drop CryptoFormat.nonRawPrefixSize, ?_, hsize, ?_, hok⟩⟩
      · exact List.ne_nil_of_length_pos (by rw [List.length_drop]; omega)
      · rw [← hbytes, hcond.2, List.take_append_drop]
    | none =>
      dsimp only
      have hprefixed : ∀ entry ∈ set.getAllInKeysetOrder, entry.identifier ≠ [] → ∀ r,
          ¬ EntryAccepts (verifyAttempt data) entry signature r := by
        rintro entry hmem hne r (⟨hnil, -⟩ | ⟨rest, -, hsize, rfl, hok⟩)
        · exact hne hnil
        · obtain ⟨hbytes, -⟩ := htried entry hmem hne
          have htake : (entry.identifier ++ rest).take CryptoFormat.nonRawPrefixSize = entry.identifier := by
            rw [← hsize, List.take_left]
          have hdrop : (entry.identifier ++ rest).drop CryptoFormat.nonRawPrefixSize = rest := by
            rw [← hsize, List.drop_left]
          refine firstOk_none hfirst _ (List.mem_map_of_mem hmem) ?_ r ?_
          · rw [hbytes, htake]
            simpa [unpackPrimitive] using hne
          · rw [hdrop]
            exact hok
      cases hraw : firstOk (fun entry : VerifyEntry => !entry.hasPrefix) (fun entry => entry.primitive.verify signature data)
          (set.getAllInKeysetOrder.map unpackPrimitive) with
      | some u =>
        obtain ⟨_, hmap, hcond, hok⟩ := firstOk_some hraw
        obtain ⟨entry, hmem, rfl⟩ := List.mem_map.1 hmap
        have hnil : entry.identifier = [] := by simpa [unpackPrimitive] using hcond
        refine .inl ⟨(), rfl, entry, hmem, .inl ⟨hnil, ?_⟩⟩
        unfold verifyAttempt
        rw [legacyData_of_raw data (h.raw hmem hnil)]
        exact hok
      | none =>
        refine .inr ⟨⟨_, rfl⟩, fun _ entry hmem r haccepts => ?_⟩
        by_cases hid : entry.identifier = []
        · have hok := haccepts.of_nil hid
          unfold verifyAttempt at hok
          rw [legacyData_of_raw data (h.raw hmem hid)] at hok
          exact firstOk_none hraw _ (List.mem_map_of_mem hmem) (by simp [unpackPrimitive, hid]) r hok
        · exact hprefixed entry hmem hid r haccepts

end Loops

/-! ## From entries to keys -/

section Keys
variable {K K' P P' R : Type} {getters : PrimitiveGetters K P} {keyset : Keyset} {set : PrimitiveSet P}
  {attempt : OutputPrefixType → P → Bytes → Except Status R} {input : Bytes}

/-- **A key accepts an input**: a RAW key the whole of it, another one what follows its own five-byte prefix. -/
def KeyAccepts (getters : PrimitiveGetters K P) (attempt : OutputPrefixType → P → Bytes → Except Status R)
    (key : KeysetKey) (input : Bytes) (r : R) : Prop :=
  ∃ primitive, primitiveForKey getters key = .ok (some primitive) ∧
    ((key.outputPrefixType = .raw ∨ key.outputPrefixType = .withIdRequirement) ∧
        attempt key.outputPrefixType primitive input = .ok r ∨
      ∃ identifier rest, identifierOf (keyInfoFromKey key) = .ok identifier ∧
        identifier.length = CryptoFormat.nonRawPrefixSize ∧ rest ≠ [] ∧ input = identifier ++ rest ∧
        attempt key.outputPrefixType primitive rest = .ok r)

/-- No ENABLED key with another id accepts the input. -/
def OthersReject (getters : PrimitiveGetters K P) (attempt : OutputPrefixType → P → Bytes → Except Status R)
    (keyset : Keyset) (keyId : UInt32) (input : Bytes) : Prop :=
  ∀ key ∈ enabledKeys keyset.key, key.keyId ≠ keyId → ∀ r, ¬ KeyAccepts getters attempt key input r

theorem identifierOf_size {keyInfo : KeyInfo} {identifier : Bytes} (h : identifierOf keyInfo = .ok identifier)
    (hne : identifier ≠ []) : identifier.length = CryptoFormat.nonRawPrefixSize := by
  unfold identifierOf CryptoFormat.getOutputPrefix at h
  split at h
  · cases h
    exact absurd rfl hne
  · split at h
    · cases h
      rfl
    · cases h
      rfl
    · cases h
      rfl
    · cases h
      exact absurd rfl hne
    · cases h

theorem EntryFor.accepts_iff {key : KeysetKey} {entry : PrimitiveEntry P} (h : EntryFor getters key entry) {r : R} :
    EntryAccepts attempt entry input r ↔ KeyAccepts getters attempt key input r := by
  have hraw : entry.identifier = [] ↔ key.outputPrefixType = .raw ∨ key.outputPrefixType = .withIdRequirement :=
    identifierOf_eq_nil h.identifier
  unfold EntryAccepts KeyAccepts
  rw [hraw, h.outputPrefixType]
  constructor
  · rintro (⟨htype, hok⟩ | ⟨rest, hrest, hsize, hinput, hok⟩)
    · exact ⟨_, h.primitive, .inl ⟨htype, hok⟩⟩
    · exact ⟨_, h.primitive, .inr ⟨_, rest, h.identifier, hsize, hrest, hinput, hok⟩⟩
  · rintro ⟨primitive, hprimitive, hcases⟩
    rw [h.primitive] at hprimitive
    cases hprimitive
    rcases hcases with ⟨htype, hok⟩ | ⟨identifier, rest, hid, hsize, hrest, hinput, hok⟩
    · exact .inl ⟨htype, hok⟩
    · rw [h.identifier] at hid
      cases hid
      exact .inr ⟨rest, hrest, hsize, hinput, hok⟩

theorem primitiveSetOf_wellFiled (h : primitiveSetOf getters keyset = .ok set) : WellFiled set := by
  obtain ⟨-, calls, -, hbuild⟩ := primitiveSetOf_ok h
  refine ⟨(PrimitiveSetBuilder.holds_empty.adds calls).consistent (fun _ => List.Perm.refl _) hbuild, fun entry hmem => ?_⟩
  obtain ⟨key, -, hentry⟩ := exists_of_forall₂ (primitiveSetOf_entries h).1.flip entry hmem
  by_cases hnil : entry.identifier = []
  · refine .inl ⟨hnil, ?_⟩
    rw [hentry.outputPrefixType]
    exact (identifierOf_eq_nil hentry.identifier).1 hnil
  · exact .inr (identifierOf_size hentry.identifier hnil)

/-- **A result is decided by the ENABLED keys.** -/
def KeysDecide (getters : PrimitiveGetters K P) (attempt : OutputPrefixType → P → Bytes → Except Status R)
    (keyset : Keyset) (long : Prop) (input : Bytes) (result : Except Status R) : Prop :=
  (∃ r, result = .ok r ∧ ∃ key ∈ enabledKeys keyset.key, KeyAccepts getters attempt key input r) ∨
    (∃ e, result = .error e) ∧ (long → ∀ key ∈ enabledKeys keyset.key, ∀ r, ¬ KeyAccepts getters attempt key input r)

theorem Decides.keys {long : Prop} {result : Except Status R} (hset : primitiveSetOf getters keyset = .ok set)
    (h : Decides attempt set.getAllInKeysetOrder long input result) : KeysDecide getters attempt keyset long input result := by
  have hentries := (primitiveSetOf_entries hset).1
  rcases h with ⟨r, hr, entry, hmem, haccepts⟩ | ⟨herror, hnone⟩
  · obtain ⟨key, hkey, hentry⟩ := exists_of_forall₂ hentries.flip entry hmem
    exact .inl ⟨r, hr, key, hkey, hentry.accepts_iff.1 haccepts⟩
  · refine .inr ⟨herror, fun hlong key hkey r haccepts => ?_⟩
    obtain ⟨entry, hmem, hentry⟩ := exists_of_forall₂ hentries key hkey
    exact hnone hlong entry hmem r (hentry.accepts_iff.2 haccepts)

theorem KeysDecide.sound {long : Prop} {result : Except Status R} {r : R}
    (h : KeysDecide getters attempt keyset long input result) (hr : result = .ok r) :
    ∃ key ∈ enabledKeys keyset.key, KeyAccepts getters attempt key input r := by
  rcases h with ⟨r', hr', hkey⟩ | ⟨⟨e, he⟩, -⟩
  · rw [hr] at hr'
    cases hr'
    exact hkey
  · rw [hr] at he
    cases he

/-- A key gives one result. -/
theorem KeyAccepts.unique {key : KeysetKey} {r r' : R} (h : KeyAccepts getters attempt key input r)
    (h' : KeyAccepts getters attempt key input r') : r = r' := by
  obtain ⟨p, hp, h⟩ := h
  obtain ⟨p', hp', h'⟩ := h'
  rw [hp] at hp'
  cases hp'
  have hraw : ∀ {identifier : Bytes}, identifierOf (keyInfoFromKey key) = .ok identifier →
      identifier.length = CryptoFormat.nonRawPrefixSize →
      ¬ (key.outputPrefixType = .raw ∨ key.outputPrefixType = .withIdRequirement) := by
    intro identifier hid hsize htype
    rw [(identifierOf_eq_nil hid).2 htype] at hsize
    cases hsize
  rcases h with ⟨htype, hok⟩ | ⟨identifier, rest, hid, hsize, -, hinput, hok⟩
  · rcases h' with ⟨-, hok'⟩ | ⟨identifier, rest, hid, hsize, -, -, -⟩
    · rw [hok] at hok'
      cases hok'
      rfl
    · exact absurd htype (hraw hid hsize)
  · rcases h' with ⟨htype, -⟩ | ⟨identifier', rest', hid', -, -, hinput', hok'⟩
    · exact absurd htype (hraw hid hsize)
    · rw [hid] at hid'
      cases hid'
      rw [hinput] at hinput'
      rw [← List.append_cancel_left hinput', hok] at hok'
      cases hok'
      rfl

/-- **What one key accepts and the others reject is accepted**, with the result of that key. -/
theorem KeysDecide.complete {long : Prop} {result : Except Status R} {key : KeysetKey} {r : R}
    (h : KeysDecide getters attempt keyset long input result) (hlong : long) (hdistinct : keyset.ids.Nodup)
    (hkey : key ∈ enabledKeys keyset.key) (haccepts : KeyAccepts getters attempt key input r)
    (hothers : OthersReject getters attempt keyset key.keyId input) : result = .ok r := by
  rcases h with ⟨r', rfl, other, hother, haccepts'⟩ | ⟨-, hnone⟩
  · have hid : other.keyId = key.keyId := by_contra fun hne => hothers other hother hne r' haccepts'
    obtain rfl : other = key :=
      List.inj_on_of_nodup_map hdistinct (List.mem_filter.1 hother).1 (List.mem_filter.1 hkey).1 hid
    rw [haccepts'.unique haccepts]
  · exact absurd haccepts (hnone hlong key hkey r)

/-! ## Rotation -/

/-- **A primary key of one keyset that is an ENABLED key of another**, with the same id and prefix type. -/
structure Rotation (keyset₁ keyset₂ : Keyset) (key₁ key₂ : KeysetKey) : Prop where
  distinct₁        : keyset₁.ids.Nodup
  distinct₂        : keyset₂.ids.Nodup
  enabled₁         : key₁ ∈ enabledKeys keyset₁.key
  primary          : key₁.keyId = keyset₁.primaryKeyId
  enabled₂         : key₂ ∈ enabledKeys keyset₂.key
  keyId            : key₂.keyId = key₁.keyId
  outputPrefixType : key₂.outputPrefixType = key₁.outputPrefixType

theorem primary_entry (hset : primitiveSetOf getters keyset = .ok set) {key : KeysetKey}
    (hkey : key ∈ enabledKeys keyset.key) (hprimary : key.keyId = keyset.primaryKeyId) {entry : PrimitiveEntry P}
    (hentry : set.getPrimary = some entry) : EntryFor getters key entry := by
  have hmem : key ∈ (enabledKeys keyset.key).filter (fun key => decide (key.keyId = keyset.primaryKeyId)) :=
    List.mem_filter.2 ⟨hkey, by simpa using hprimary⟩
  rcases (primitiveSetOf_entries hset).2 with ⟨key', entry', hone, -, hfor, hsome⟩ | ⟨hnone, -⟩
  · rw [hone, List.mem_singleton] at hmem
    rw [hsome] at hentry
    cases hentry
    rw [hmem]
    exact hfor
  · rw [hnone] at hmem
    cases hmem

/-- The ENABLED key with the primary id. -/
theorem exists_primary_key (hset : primitiveSetOf getters keyset = .ok set) {entry : PrimitiveEntry P}
    (hentry : set.getPrimary = some entry) :
    ∃ key ∈ enabledKeys keyset.key, key.keyId = keyset.primaryKeyId ∧ EntryFor getters key entry := by
  rcases (primitiveSetOf_entries hset).2 with ⟨key, -, hone, -⟩ | ⟨-, hnone, -⟩
  · have hmem : key ∈ (enabledKeys keyset.key).filter (fun key => decide (key.keyId = keyset.primaryKeyId)) := by
      rw [hone]
      exact List.mem_singleton_self _
    have hkey := (List.mem_filter.1 hmem).1
    have hid : key.keyId = keyset.primaryKeyId := by simpa using (List.mem_filter.1 hmem).2
    exact ⟨key, hkey, hid, primary_entry hset hkey hid hentry⟩
  · rw [hentry] at hnone
    cases hnone

/-- What the primary key made, the same key of the other keyset accepts. -/
theorem Rotation.accepts {keyset₁ keyset₂ : Keyset} {key₁ key₂ : KeysetKey} (h : Rotation keyset₁ keyset₂ key₁ key₂)
    {getters' : PrimitiveGetters K' P'} {wrapper : SetWithPrimary P'}
    (hset : primitiveSetOf getters' keyset₁ = .ok wrapper.set) (hset₂ : primitiveSetOf getters keyset₂ = .ok set)
    {made : Except Status Bytes} {output : Bytes} (hmade : wrapper.prefixed made = .ok output) {r : R}
    (hattempt : ∀ q out, primitiveForKey getters key₂ = .ok (some q) → made = .ok out →
      out ≠ [] ∧ attempt key₂.outputPrefixType q out = .ok r) :
    KeyAccepts getters attempt key₂ output r := by
  have hprimary := primary_entry hset h.enabled₁ h.primary wrapper.isPrimary
  obtain ⟨entry, -, hentry⟩ := exists_of_forall₂ (primitiveSetOf_entries hset₂).1 key₂ h.enabled₂
  unfold SetWithPrimary.prefixed at hmade
  cases made with
  | error e => cases hmade
  | ok out =>
    cases hmade
    obtain ⟨hne, hok⟩ := hattempt entry.primitive out hentry.primitive rfl
    -- both keys have the same identifier
    have hid : identifierOf (keyInfoFromKey key₂) = .ok wrapper.primary.identifier := by
      rw [← hprimary.identifier]
      unfold identifierOf CryptoFormat.getOutputPrefix keyInfoFromKey
      rw [h.keyId, h.outputPrefixType]
    refine ⟨entry.primitive, hentry.primitive, ?_⟩
    by_cases hnil : wrapper.primary.identifier = []
    · refine .inl ⟨(identifierOf_eq_nil hid).1 hnil, ?_⟩
      rw [hnil]
      exact hok
    · exact .inr ⟨_, out, hid, identifierOf_size hid hnil, hne, rfl, hok⟩

end Keys

/-! ## The wrappers of two keysets -/

section Wrappers
variable {K K' P Q : Type}

theorem keysetWrap_ok {getters : PrimitiveGetters K P} {wrap : PrimitiveSet P → Except Status Q} {keyset : Keyset} {wrapper : Q}
    (h : keysetWrap getters wrap keyset = .ok wrapper) :
    ∃ set, primitiveSetOf getters keyset = .ok set ∧ wrap set = .ok wrapper := by
  unfold keysetWrap at h
  split at h
  · cases h
  · rename_i set hset
    exact ⟨set, hset, h⟩

theorem validateSet_ok {name : String} {set : PrimitiveSet P} {wrapper : SetWithPrimary P}
    (h : validateSet name set = .ok wrapper) : wrapper.set = set := by
  unfold validateSet at h
  split at h
  · cases h
  · cases h
    rfl

/-- The set in a wrapper is that of its keyset. -/
theorem keysetWrap_set {getters : PrimitiveGetters K P} {name : String} {keyset : Keyset} {wrapper : SetWithPrimary P}
    (h : keysetWrap getters (validateSet name) keyset = .ok wrapper) : primitiveSetOf getters keyset = .ok wrapper.set := by
  obtain ⟨set, hset, hwrap⟩ := keysetWrap_ok h
  rw [validateSet_ok hwrap]
  exact hset

theorem keysetWrap_verify {getters : PrimitiveGetters K PublicKeyVerify} {keyset : Keyset}
    {wrapper : PublicKeyVerifySetWrapper} (h : keysetWrap getters publicKeyVerifyWrap keyset = .ok wrapper) :
    ∃ set, primitiveSetOf getters keyset = .ok set ∧ wrapper = ⟨set.getAllInKeysetOrder.map unpackPrimitive⟩ := by
  obtain ⟨set, hset, hwrap⟩ := keysetWrap_ok h
  unfold publicKeyVerifyWrap at hwrap
  split at hwrap
  · cases hwrap
  · rename_i validated hvalid
    cases hwrap
    rw [validateSet_ok hvalid, (primitiveSetOf_wellFiled hset).consistent.release]
    exact ⟨set, hset, rfl⟩

/-- The primitives of the two keys, when they have any, belong together. -/
def KeysMatch (getters₁ : PrimitiveGetters K P) (getters₂ : PrimitiveGetters K' Q) (key₁ key₂ : KeysetKey)
    (correct : P → Q → Prop) : Prop :=
  ∀ p q, primitiveForKey getters₁ key₁ = .ok (some p) → primitiveForKey getters₂ key₂ = .ok (some q) → correct p q

def AeadCorrect (p q : Aead) : Prop :=
  ∀ random plaintext associatedData ciphertext, p.encrypt random plaintext associatedData = .ok ciphertext →
    ciphertext ≠ [] ∧ q.decrypt ciphertext associatedData = .ok plaintext

def DeterministicAeadCorrect (p q : DeterministicAead) : Prop :=
  ∀ plaintext associatedData ciphertext, p.encryptDeterministically plaintext associatedData = .ok ciphertext →
    ciphertext ≠ [] ∧ q.decryptDeterministically ciphertext associatedData = .ok plaintext

def MacCorrect (p q : Mac) : Prop :=
  ∀ data mac, p.computeMac data = .ok mac → mac ≠ [] ∧ q.verifyMac mac data = .ok ()

/-- A signature without a prefix has to be longer than one. -/
def SignCorrect (outputPrefixType : OutputPrefixType) (p : PublicKeySign) (q : PublicKeyVerify) : Prop :=
  ∀ random data signature, p.sign random data = .ok signature → signature ≠ [] ∧
    (outputPrefixType = .raw ∨ outputPrefixType = .withIdRequirement →
      CryptoFormat.nonRawPrefixSize < signature.length) ∧
    q.verify signature data = .ok ()

variable {keyset₁ keyset₂ : Keyset} {key₁ key₂ : KeysetKey}

theorem AeadSetWrapper.rotation (hrot : Rotation keyset₁ keyset₂ key₁ key₂) {g₁ : PrimitiveGetters K Aead}
    {g₂ : PrimitiveGetters K' Aead} {w₁ w₂ : AeadSetWrapper} (h₁ : keysetWrap g₁ aeadWrap keyset₁ = .ok w₁)
    (h₂ : keysetWrap g₂ aeadWrap keyset₂ = .ok w₂) (hmatch : KeysMatch g₁ g₂ key₁ key₂ AeadCorrect)
    {random plaintext associatedData output : Bytes} (hout : w₁.encrypt random plaintext associatedData = .ok output)
    (hothers : OthersReject g₂ (aeadAttempt associatedData) keyset₂ key₂.keyId output) :
    w₂.decrypt output associatedData = .ok plaintext := by
  have hset₂ := keysetWrap_set h₂
  have hprimary := primary_entry (keysetWrap_set h₁) hrot.enabled₁ hrot.primary w₁.isPrimary
  have haccepts : KeyAccepts g₂ (aeadAttempt associatedData) key₂ output plaintext :=
    hrot.accepts (keysetWrap_set h₁) hset₂ hout (fun q out hq hmade => hmatch _ q hprimary.primitive hq _ _ _ _ hmade)
  exact ((w₂.decrypt_decides (primitiveSetOf_wellFiled hset₂) output associatedData).keys hset₂).complete trivial
    hrot.distinct₂ hrot.enabled₂ haccepts hothers

theorem DeterministicAeadSetWrapper.rotation (hrot : Rotation keyset₁ keyset₂ key₁ key₂)
    {g₁ : PrimitiveGetters K DeterministicAead} {g₂ : PrimitiveGetters K' DeterministicAead}
    {w₁ w₂ : DeterministicAeadSetWrapper} (h₁ : keysetWrap g₁ deterministicAeadWrap keyset₁ = .ok w₁)
    (h₂ : keysetWrap g₂ deterministicAeadWrap keyset₂ = .ok w₂)
    (hmatch : KeysMatch g₁ g₂ key₁ key₂ DeterministicAeadCorrect) {plaintext associatedData output : Bytes}
    (hout : w₁.encryptDeterministically plaintext associatedData = .ok output)
    (hothers : OthersReject g₂ (deterministicAeadAttempt associatedData) keyset₂ key₂.keyId output) :
    w₂.decryptDeterministically output associatedData = .ok plaintext := by
  have hset₂ := keysetWrap_set h₂
  have hprimary := primary_entry (keysetWrap_set h₁) hrot.enabled₁ hrot.primary w₁.isPrimary
  have haccepts : KeyAccepts g₂ (deterministicAeadAttempt associatedData) key₂ output plaintext :=
    hrot.accepts (keysetWrap_set h₁) hset₂ hout (fun q out hq hmade => hmatch _ q hprimary.primitive hq _ _ _ hmade)
  exact ((w₂.decrypt_decides (primitiveSetOf_wellFiled hset₂) output associatedData).keys hset₂).complete trivial
    hrot.distinct₂ hrot.enabled₂ haccepts hothers

theorem MacSetWrapper.rotation (hrot : Rotation keyset₁ keyset₂ key₁ key₂) {g₁ : PrimitiveGetters K Mac}
    {g₂ : PrimitiveGetters K' Mac} {w₁ w₂ : MacSetWrapper} (h₁ : keysetWrap g₁ macWrap keyset₁ = .ok w₁)
    (h₂ : keysetWrap g₂ macWrap keyset₂ = .ok w₂) (hmatch : KeysMatch g₁ g₂ key₁ key₂ MacCorrect)
    {data output : Bytes} (hout : w₁.computeMac data = .ok output)
    (hothers : OthersReject g₂ (macAttempt data) keyset₂ key₂.keyId output) : w₂.verifyMac output data = .ok () := by
  have hset₂ := keysetWrap_set h₂
  have hprimary := primary_entry (keysetWrap_set h₁) hrot.enabled₁ hrot.primary w₁.isPrimary
  have haccepts : KeyAccepts g₂ (macAttempt data) key₂ output () := by
    refine hrot.accepts (keysetWrap_set h₁) hset₂ hout (fun q out hq hmade => ?_)
    unfold macAttempt
    rw [hrot.outputPrefixType, ← hprimary.outputPrefixType]
    exact hmatch _ q hprimary.primitive hq _ _ hmade
  exact ((w₂.verify_decides (primitiveSetOf_wellFiled hset₂) output data).keys hset₂).complete trivial
    hrot.distinct₂ hrot.enabled₂ haccepts hothers

theorem PublicKeyVerifySetWrapper.rotation (hrot : Rotation keyset₁ keyset₂ key₁ key₂)
    {g₁ : PrimitiveGetters K PublicKeySign} {g₂ : PrimitiveGetters K' PublicKeyVerify} {w₁ : PublicKeySignSetWrapper}
    {w₂ : PublicKeyVerifySetWrapper} (h₁ : keysetWrap g₁ publicKeySignWrap keyset₁ = .ok w₁)
    (h₂ : keysetWrap g₂ publicKeyVerifyWrap keyset₂ = .ok w₂)
    (hmatch : KeysMatch g₁ g₂ key₁ key₂ (SignCorrect key₁.outputPrefixType)) {random data output : Bytes}
    (hout : w₁.sign random data = .ok output)
    (hothers : OthersReject g₂ (verifyAttempt data) keyset₂ key₂.keyId output) : w₂.verify output data = .ok () := by
  obtain ⟨set₂, hset₂, rfl⟩ := keysetWrap_verify h₂
  have hprimary := primary_entry (keysetWrap_set h₁) hrot.enabled₁ hrot.primary w₁.isPrimary
  have haccepts : KeyAccepts g₂ (verifyAttempt data) key₂ output () := by
    refine hrot.accepts (keysetWrap_set h₁) hset₂ hout (fun q out hq hmade => ?_)
    unfold verifyAttempt
    rw [hrot.outputPrefixType, ← hprimary.outputPrefixType]
    obtain ⟨hne, -, hok⟩ := hmatch _ q hprimary.primitive hq _ _ _ hmade
    exact ⟨hne, hok⟩
  have hlong : CryptoFormat.nonRawPrefixSize < output.length := by
    obtain ⟨q, hq, -⟩ := haccepts
    unfold PublicKeySignSetWrapper.sign SetWithPrimary.prefixed at hout
    cases hmade : w₁.primary.primitive.sign random (legacyData w₁.primary.outputPrefixType data) with
    | error e =>
      rw [hmade] at hout
      cases hout
    | ok signature =>
      rw [hmade] at hout
      cases hout
      obtain ⟨hne, hraw, -⟩ := hmatch _ q hprimary.primitive hq _ _ _ hmade
      rw [List.length_append]
      by_cases hnil : w₁.primary.identifier = []
      · have := hraw ((identifierOf_eq_nil hprimary.identifier).1 hnil)
        omega
      · have := List.length_pos_iff.2 hne
        rw [identifierOf_size hprimary.identifier hnil]
        omega
  exact ((verify_decides (primitiveSetOf_wellFiled hset₂) output data).keys hset₂).complete hlong
    hrot.distinct₂ hrot.enabled₂ haccepts hothers

end Wrappers

/-- **Outputs survive a rotation of keys**, and what is accepted is accepted by one ENABLED key: for AEADs, deterministic
AEADs, MACs and signatures. -/
theorem setWrappers_rotation {K K' : Type} :
    (∀ {g₁ : PrimitiveGetters K Aead} {g₂ : PrimitiveGetters K' Aead} {keyset₁ keyset₂ w₁ w₂},
      keysetWrap g₁ aeadWrap keyset₁ = .ok w₁ → keysetWrap g₂ aeadWrap keyset₂ = .ok w₂ →
      (∀ key₁ key₂, Rotation keyset₁ keyset₂ key₁ key₂ → KeysMatch g₁ g₂ key₁ key₂ AeadCorrect →
        ∀ random plaintext associatedData output, w₁.encrypt random plaintext associatedData = .ok output →
          OthersReject g₂ (aeadAttempt associatedData) keyset₂ key₂.keyId output →
          w₂.decrypt output associatedData = .ok plaintext) ∧
      ∀ input associatedData plaintext, w₂.decrypt input associatedData = .ok plaintext →
        ∃ key ∈ enabledKeys keyset₂.key, KeyAccepts g₂ (aeadAttempt associatedData) key input plaintext) ∧
    (∀ {g₁ : PrimitiveGetters K DeterministicAead} {g₂ : PrimitiveGetters K' DeterministicAead} {keyset₁ keyset₂ w₁ w₂},
      keysetWrap g₁ deterministicAeadWrap keyset₁ = .ok w₁ → keysetWrap g₂ deterministicAeadWrap keyset₂ = .ok w₂ →
      (∀ key₁ key₂, Rotation keyset₁ keyset₂ key₁ key₂ → KeysMatch g₁ g₂ key₁ key₂ DeterministicAeadCorrect →
        ∀ plaintext associatedData output, w₁.encryptDeterministically plaintext associatedData = .ok output →
          OthersReject g₂ (deterministicAeadAttempt associatedData) keyset₂ key₂.keyId output →
          w₂.decryptDeterministically output associatedData = .ok plaintext) ∧
      ∀ input associatedData plaintext, w₂.decryptDeterministically input associatedData = .ok plaintext →
        ∃ key ∈ enabledKeys keyset₂.key, KeyAccepts g₂ (deterministicAeadAttempt associatedData) key input plaintext) ∧
    (∀ {g₁ : PrimitiveGetters K Mac} {g₂ : PrimitiveGetters K' Mac} {keyset₁ keyset₂ w₁ w₂},
      keysetWrap g₁ macWrap keyset₁ = .ok w₁ → keysetWrap g₂ macWrap keyset₂ = .ok w₂ →
      (∀ key₁ key₂, Rotation keyset₁ keyset₂ key₁ key₂ → KeysMatch g₁ g₂ key₁ key₂ MacCorrect →
        ∀ data output, w₁.computeMac data = .ok output →
          OthersReject g₂ (macAttempt data) keyset₂ key₂.keyId output → w₂.verifyMac output data = .ok ()) ∧
      ∀ input data, w₂.verifyMac input data = .ok () →
        ∃ key ∈ enabledKeys keyset₂.key, KeyAccepts g₂ (macAttempt data) key input ()) ∧
    (∀ {g₁ : PrimitiveGetters K PublicKeySign} {g₂ : PrimitiveGetters K' PublicKeyVerify} {keyset₁ keyset₂ w₁ w₂},
      keysetWrap g₁ publicKeySignWrap keyset₁ = .ok w₁ → keysetWrap g₂ publicKeyVerifyWrap keyset₂ = .ok w₂ →
      (∀ key₁ key₂, Rotation keyset₁ keyset₂ key₁ key₂ →
        KeysMatch g₁ g₂ key₁ key₂ (SignCorrect key₁.outputPrefixType) →
        ∀ random data output, w₁.sign random data = .ok output →
          OthersReject g₂ (verifyAttempt data) keyset₂ key₂.keyId output → w₂.verify output data = .ok ()) ∧
      ∀ input data, w₂.verify input data = .ok () →
        ∃ key ∈ enabledKeys keyset₂.key, KeyAccepts g₂ (verifyAttempt data) key input ()) := by
  refine ⟨fun h₁ h₂ => ⟨fun _ _ hrot hmatch _ _ _ _ hout hothers => ?_, fun input associatedData plaintext h => ?_⟩,
    fun h₁ h₂ => ⟨fun _ _ hrot hmatch _ _ _ hout hothers => ?_, fun input associatedData plaintext h => ?_⟩,
    fun h₁ h₂ => ⟨fun _ _ hrot hmatch _ _ hout hothers => ?_, fun input data h => ?_⟩,
    fun h₁ h₂ => ⟨fun _ _ hrot hmatch _ _ _ hout hothers => ?_, fun input data h => ?_⟩⟩
  · exact AeadSetWrapper.rotation hrot h₁ h₂ hmatch hout hothers
  · have hset := keysetWrap_set h₂
    exact ((AeadSetWrapper.decrypt_decides _ (primitiveSetOf_wellFiled hset) _ _).keys hset).sound h
  · exact DeterministicAeadSetWrapper.rotation hrot h₁ h₂ hmatch hout hothers
  · have hset := keysetWrap_set h₂
    exact ((DeterministicAeadSetWrapper.decrypt_decides _ (primitiveSetOf_wellFiled hset) _ _).keys hset).sound h
  · exact MacSetWrapper.rotation hrot h₁ h₂ hmatch hout hothers
  · have hset := keysetWrap_set h₂
    exact ((MacSetWrapper.verify_decides _ (primitiveSetOf_wellFiled hset) _ _).keys hset).sound h
  · exact PublicKeyVerifySetWrapper.rotation hrot h₁ h₂ hmatch hout hothers
  · obtain ⟨set, hset, rfl⟩ := keysetWrap_verify h₂
    exact ((PublicKeyVerifySetWrapper.verify_decides (primitiveSetOf_wellFiled hset) _ _).keys hset).sound h

/-- An AEAD that puts one byte in front of the plaintext. -/
def taggedAead (tag : UInt8) : Aead where
  encrypt := fun _ plaintext _ => .ok (tag :: plaintext)
  decrypt := fun ciphertext _ =>
    if ciphertext.head? = some tag then .ok ciphertext.tail else .error ⟨.invalidArgument, ""⟩

/-- Keys whose value is the byte. -/
def taggedGetters : PrimitiveGetters Unit Aead where
  parseKey := fun _ => .error ⟨.notFound, ""⟩
  primitiveGetter := fun keyData => .ok (some (taggedAead (keyData.value.headD 0)))
  primitiveGetterFromKey := fun _ => .error ⟨.notFound, ""⟩

def taggedKey (tag : UInt8) (keyId : UInt32) (outputPrefixType : OutputPrefixType) : KeysetKey :=
  ⟨some ⟨"a", [tag], .symmetric⟩, .enabled, keyId, outputPrefixType⟩

/-- Before a rotation from the TINK key 5 to the RAW key 9, and after it. -/
def keysBefore : Keyset := ⟨5, [taggedKey 7 5 .tink]⟩

def keysAfter : Keyset := ⟨9, [taggedKey 8 9 .raw, taggedKey 7 5 .tink]⟩

theorem keysAfter_rotation : Rotation keysBefore keysAfter (taggedKey 7 5 .tink) (taggedKey 7 5 .tink) where
  distinct₁ := by decide
  distinct₂ := by decide
  enabled₁ := by decide
  primary := rfl
  enabled₂ := by decide
  keyId := rfl
  outputPrefixType := rfl

theorem taggedAead_correct (tag : UInt8) : AeadCorrect (taggedAead tag) (taggedAead tag) := by
  intro random plaintext associatedData ciphertext h
  cases h
  exact ⟨by simp, by simp [taggedAead]⟩

theorem keysAfter_decrypts :
    ∃ w₁ w₂, keysetWrap taggedGetters aeadWrap keysBefore = .ok w₁ ∧ keysetWrap taggedGetters aeadWrap keysAfter = .ok w₂ ∧
      w₁.encrypt [] [1, 2] [3] = .ok [1, 0, 0, 0, 5, 7, 1, 2] ∧
      w₂.decrypt [1, 0, 0, 0, 5, 7, 1, 2] [3] = .ok [1, 2] := by
  obtain ⟨w₁, h₁, hout⟩ : ∃ w₁, keysetWrap taggedGetters aeadWrap keysBefore = .ok w₁ ∧
      w₁.encrypt [] [1, 2] [3] = .ok [1, 0, 0, 0, 5, 7, 1, 2] := ⟨_, rfl, rfl⟩
  obtain ⟨w₂, h₂⟩ : ∃ w₂, keysetWrap taggedGetters aeadWrap keysAfter = .ok w₂ := ⟨_, rfl⟩
  have hmatch : KeysMatch taggedGetters taggedGetters (taggedKey 7 5 .tink) (taggedKey 7 5 .tink) AeadCorrect := by
    intro p q hp hq
    cases hp
    cases hq
    exact taggedAead_correct _
  have hothers : OthersReject taggedGetters (aeadAttempt [3]) keysAfter 5 [1, 0, 0, 0, 5, 7, 1, 2] := by
    intro key hkey hne r haccepts
    have hkeys : enabledKeys keysAfter.key = [taggedKey 8 9 .raw, taggedKey 7 5 .tink] := rfl
    rw [hkeys, List.mem_cons, List.mem_singleton] at hkey
    rcases hkey with rfl | rfl
    · obtain ⟨p, hp, ⟨-, hok⟩ | ⟨identifier, rest, hid, hsize, -⟩⟩ := haccepts
      · cases hp
        cases hok
      · cases hid
        cases hsize
    · exact hne rfl
  exact ⟨w₁, w₂, h₁, h₂, hout, (setWrappers_rotation.1 h₁ h₂).1 _ _ keysAfter_rotation hmatch _ _ _ _ hout hothers⟩

end Tink
