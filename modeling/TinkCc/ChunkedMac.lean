import TinkCc.SetWrapper
/-!
# ChunkedMac — MACs over data that arrive in chunks

`chunked_mac.h`, `mac/internal/chunked_mac_impl.cc` and `mac/internal/chunked_mac_wrapper.cc`.  The objects of a class
are the values of a type, and its virtual functions are those of a Lean class, which also give the object after the call.
-/
namespace Tink

/-! ## Interfaces -/

/-- Classes with an `Update`. -/
class MacUpdate (σ : Type) where
  update : σ → Bytes → Except Status Unit × σ

class ChunkedMacComputation (κ : Type) extends MacUpdate κ where
  computeMac : κ → Except Status Bytes × κ

class ChunkedMacVerification (ν : Type) extends MacUpdate ν where
  verifyMac : ν → Except Status Unit × ν

class StatefulMac (σ : Type) extends MacUpdate σ where
  finalizeAsSecretData : σ → Except Status Bytes × σ

open MacUpdate ChunkedMacComputation ChunkedMacVerification StatefulMac

structure ChunkedMac (κ ν : Type) where
  createComputation  : Except Status κ
  createVerification : (tag : Bytes) → Except Status ν

/-! ## The implementation for one key -/

section Impl
variable {σ : Type} [StatefulMac σ]

structure ChunkedMacComputationImpl (σ : Type) where
  statefulMac : σ
  status      : Except Status Unit := .ok ()

def ChunkedMacComputationImpl.update (self : ChunkedMacComputationImpl σ) (data : Bytes) :
    Except Status Unit × ChunkedMacComputationImpl σ :=
  match self.status with
  | .error e => (.error e, self)
  | .ok () =>
    let updated := MacUpdate.update self.statefulMac data
    (updated.1, { self with statefulMac := updated.2 })

def ChunkedMacComputationImpl.computeMac (self : ChunkedMacComputationImpl σ) :
    Except Status Bytes × ChunkedMacComputationImpl σ :=
  match self.status with
  | .error e => (.error e, self)
  | .ok () =>
    let resultTag := finalizeAsSecretData self.statefulMac
    (resultTag.1, ⟨resultTag.2, .error ⟨.failedPrecondition, "MAC computation already finalized."⟩⟩)

instance : ChunkedMacComputation (ChunkedMacComputationImpl σ) where
  update := ChunkedMacComputationImpl.update
  computeMac := ChunkedMacComputationImpl.computeMac

structure ChunkedMacVerificationImpl (σ : Type) where
  statefulMac : σ
  tag         : Bytes
  status      : Except Status Unit := .ok ()

def ChunkedMacVerificationImpl.update (self : ChunkedMacVerificationImpl σ) (data : Bytes) :
    Except Status Unit × ChunkedMacVerificationImpl σ :=
  match self.status with
  | .error e => (.error e, self)
  | .ok () =>
    let updated := MacUpdate.update self.statefulMac data
    (updated.1, { self with statefulMac := updated.2 })

def ChunkedMacVerificationImpl.verifyMac (self : ChunkedMacVerificationImpl σ) :
    Except Status Unit × ChunkedMacVerificationImpl σ :=
  match self.status with
  | .error e => (.error e, self)
  | .ok () =>
    let computedMac := finalizeAsSecretData self.statefulMac
    (match computedMac.1 with
      | .error e => .error e
      | .ok mac =>
        if mac.length ≠ self.tag.length then .error ⟨.invalidArgument, "Verification failed."⟩
        else if mac ≠ self.tag then .error ⟨.invalidArgument, "Verification failed."⟩
        else .ok (),
      ⟨computedMac.2, self.tag, .error ⟨.failedPrecondition, "MAC verification already finalized."⟩⟩)

instance : ChunkedMacVerification (ChunkedMacVerificationImpl σ) where
  update := ChunkedMacVerificationImpl.update
  verifyMac := ChunkedMacVerificationImpl.verifyMac

/-- `ChunkedMacImpl`; its factory is what `Create` returns. -/
def chunkedMacImpl (create : Except Status σ) : ChunkedMac (ChunkedMacComputationImpl σ) (ChunkedMacVerificationImpl σ) where
  createComputation := create.map fun statefulMac => { statefulMac }
  createVerification := fun tag => create.map fun statefulMac => { statefulMac, tag }

end Impl

/-! ## The wrapper -/

section Wrapper
variable {κ ν : Type}

/-- What a LEGACY key is given after the data. -/
def legacySuffix : Bytes := [CryptoFormat.legacyStartByte]

structure ChunkedMacComputationSetWrapper (κ : Type) where
  computation      : κ
  tagPrefix        : Bytes
  outputPrefixType : OutputPrefixType

section Computation
variable [ChunkedMacComputation κ]

def ChunkedMacComputationSetWrapper.update (self : ChunkedMacComputationSetWrapper κ) (data : Bytes) :
    Except Status Unit × ChunkedMacComputationSetWrapper κ :=
  let updated := MacUpdate.update self.computation data
  (updated.1, { self with computation := updated.2 })

/-- The tag of the computation, after the prefix. -/
def ChunkedMacComputationSetWrapper.finish (self : ChunkedMacComputationSetWrapper κ) :
    Except Status Bytes × ChunkedMacComputationSetWrapper κ :=
  let rawTag := ChunkedMacComputation.computeMac self.computation
  (rawTag.1.map (self.tagPrefix ++ ·), { self with computation := rawTag.2 })

def ChunkedMacComputationSetWrapper.computeMac (self : ChunkedMacComputationSetWrapper κ) :
    Except Status Bytes × ChunkedMacComputationSetWrapper κ :=
  if self.outputPrefixType = .legacy then
    let appended := self.update legacySuffix
    match appended.1 with
    | .error e => (.error e, appended.2)
    | .ok () => appended.2.finish
  else self.finish

instance : ChunkedMacComputation (ChunkedMacComputationSetWrapper κ) where
  update := ChunkedMacComputationSetWrapper.update
  computeMac := ChunkedMacComputationSetWrapper.computeMac

end Computation

structure ChunkedMacVerificationWithPrefixType (ν : Type) where
  verification     : ν
  outputPrefixType : OutputPrefixType

section Verification
variable [ChunkedMacVerification ν]

def ChunkedMacVerificationWithPrefixType.update (self : ChunkedMacVerificationWithPrefixType ν) (data : Bytes) :
    Except Status Unit × ChunkedMacVerificationWithPrefixType ν :=
  let updated := MacUpdate.update self.verification data
  (updated.1, { self with verification := updated.2 })

/-- What the verification says. -/
def ChunkedMacVerificationWithPrefixType.finish (self : ChunkedMacVerificationWithPrefixType ν) :
    Except Status Unit × ChunkedMacVerificationWithPrefixType ν :=
  let verified := ChunkedMacVerification.verifyMac self.verification
  (verified.1, { self with verification := verified.2 })

def ChunkedMacVerificationWithPrefixType.verifyMac (self : ChunkedMacVerificationWithPrefixType ν) :
    Except Status Unit × ChunkedMacVerificationWithPrefixType ν :=
  if self.outputPrefixType = .legacy then
    let appended := self.update legacySuffix
    match appended.1 with
    | .error e => (.error e, appended.2)
    | .ok () => appended.2.finish
  else self.finish

instance : ChunkedMacVerification (ChunkedMacVerificationWithPrefixType ν) where
  update := ChunkedMacVerificationWithPrefixType.update
  verifyMac := ChunkedMacVerificationWithPrefixType.verifyMac

end Verification

structure ChunkedMacVerificationSetWrapper (ν : Type) where
  verifications : List (ChunkedMacVerificationWithPrefixType ν)

section VerificationSet
variable [ChunkedMacVerification ν]

/-- The loop of `Update`. -/
def updateLoop (data : Bytes) : List (ChunkedMacVerificationWithPrefixType ν) → Except Status Unit →
    Except Status Unit × List (ChunkedMacVerificationWithPrefixType ν)
  | [], status => (status, [])
  | verification :: verifications, status =>
    let updated := verification.update data
    let rest := updateLoop data verifications <|
      match updated.1 with
      | .ok () => .ok () -- at least one update succeeded
      | .error _ => status
    (rest.1, updated.2 :: rest.2)

def ChunkedMacVerificationSetWrapper.update (self : ChunkedMacVerificationSetWrapper ν) (data : Bytes) :
    Except Status Unit × ChunkedMacVerificationSetWrapper ν :=
  let updated := updateLoop data self.verifications (.error ⟨.unknown, "Update failed."⟩)
  (updated.1, ⟨updated.2⟩)

/-- The loop of `VerifyMac`. -/
def verifyLoop : List (ChunkedMacVerificationWithPrefixType ν) →
    Except Status Unit × List (ChunkedMacVerificationWithPrefixType ν)
  | [] => (.error ⟨.unknown, "Verification failed."⟩, [])
  | verification :: verifications =>
    let verified := verification.verifyMac
    match verified.1 with
    | .ok () => (.ok (), verified.2 :: verifications)
    | .error _ =>
      let rest := verifyLoop verifications
      (rest.1, verified.2 :: rest.2)

def ChunkedMacVerificationSetWrapper.verifyMac (self : ChunkedMacVerificationSetWrapper ν) :
    Except Status Unit × ChunkedMacVerificationSetWrapper ν :=
  let verified := verifyLoop self.verifications
  (verified.1, ⟨verified.2⟩)

instance : ChunkedMacVerification (ChunkedMacVerificationSetWrapper ν) where
  update := ChunkedMacVerificationSetWrapper.update
  verifyMac := ChunkedMacVerificationSetWrapper.verifyMac

end VerificationSet

abbrev ChunkedMacSetWrapper (κ ν : Type) := SetWithPrimary (ChunkedMac κ ν)

/-- `ChunkedMacWrapper::Wrap`. -/
def chunkedMacWrap (set : PrimitiveSet (ChunkedMac κ ν)) : Except Status (ChunkedMacSetWrapper κ ν) :=
  validateSet "mac_set" set

def ChunkedMacSetWrapper.createComputation (wrapper : ChunkedMacSetWrapper κ ν) :
    Except Status (ChunkedMacComputationSetWrapper κ) :=
  match wrapper.primary.primitive.createComputation with
  | .error e => .error e
  | .ok computation => .ok ⟨computation, wrapper.primary.identifier, wrapper.primary.outputPrefixType⟩

/-- The verification of an entry, with its prefix type. -/
def verificationAttempt (outputPrefixType : OutputPrefixType) (primitive : ChunkedMac κ ν) (tag : Bytes) :
    Except Status (ChunkedMacVerificationWithPrefixType ν) :=
  match primitive.createVerification tag with
  | .error e => .error e
  | .ok verification => .ok ⟨verification, outputPrefixType⟩

/-- A loop of `CreateVerification`, which passes over the entries that fail. -/
def verificationsOf (tag : Bytes) (entries : Except Status (List (PrimitiveEntry (ChunkedMac κ ν)))) :
    List (ChunkedMacVerificationWithPrefixType ν) :=
  match entries with
  | .error _ => []
  | .ok entries =>
    entries.filterMap fun entry => (verificationAttempt entry.outputPrefixType entry.primitive tag).toOption

def ChunkedMacSetWrapper.createVerification (wrapper : ChunkedMacSetWrapper κ ν) (tag : Bytes) :
    Except Status (ChunkedMacVerificationSetWrapper ν) :=
  let prefixed :=
    if tag.length > CryptoFormat.nonRawPrefixSize then
      verificationsOf (tag.drop CryptoFormat.nonRawPrefixSize)
        (wrapper.set.getPrimitives (tag.take CryptoFormat.nonRawPrefixSize))
    else []
  .ok ⟨prefixed ++ verificationsOf tag wrapper.set.getRawPrimitives⟩

end Wrapper

/-! ## Feeding an object -/

section Feeding
variable {σ : Type} [MacUpdate σ]

/-- The object after an `Update` for every chunk, whatever these have returned. -/
def feed (s : σ) (chunks : List Bytes) : σ := chunks.foldl (fun s data => (MacUpdate.update s data).2) s

/-- Every `Update` has returned OK. -/
def Received : σ → List Bytes → Prop
  | _, [] => True
  | s, data :: chunks => (MacUpdate.update s data).1 = .ok () ∧ Received (MacUpdate.update s data).2 chunks

theorem feed_append (s : σ) (chunks chunks' : List Bytes) : feed s (chunks ++ chunks') = feed (feed s chunks) chunks' :=
  List.foldl_append

theorem received_append : ∀ {s : σ} {chunks chunks' : List Bytes},
    Received s (chunks ++ chunks') ↔ Received s chunks ∧ Received (feed s chunks) chunks'
  | _, [], _ => by simp [Received, feed]
  | s, data :: chunks, chunks' => by
    have ih : Received (MacUpdate.update s data).2 (chunks ++ chunks') ↔ _ := received_append
    simp only [List.cons_append, Received, ih, and_assoc]
    exact Iff.rfl

/-- Otherwise a first `Update` has failed. -/
theorem exists_failed : ∀ {s : σ} {chunks : List Bytes}, ¬ Received s chunks →
    ∃ pre data post, chunks = pre ++ data :: post ∧ (MacUpdate.update (feed s pre) data).1 ≠ .ok ()
  | _, [], h => absurd trivial h
  | s, data :: chunks, h => by
    by_cases hok : (MacUpdate.update s data).1 = .ok ()
    · obtain ⟨pre, data', post, rfl, hfailed⟩ := exists_failed (fun hrest => h ⟨hok, hrest⟩)
      exact ⟨data :: pre, data', post, rfl, hfailed⟩
    · exact ⟨[], data, chunks, rfl, hok⟩

end Feeding

/-- The computation has received the chunks and gives the tag. -/
def Computes {κ : Type} [ChunkedMacComputation κ] (computation : κ) (chunks : List Bytes) (tag : Bytes) : Prop :=
  Received computation chunks ∧ (ChunkedMacComputation.computeMac (feed computation chunks)).1 = .ok tag

section Accepting
variable {ν : Type} [ChunkedMacVerification ν]

/-- The verification accepts after the chunks, whatever the `Update`s have returned. -/
def Accepts (verification : ν) (chunks : List Bytes) : Prop :=
  (ChunkedMacVerification.verifyMac (feed verification chunks)).1 = .ok ()

/-- **A verification that fails an `Update` never accepts afterwards.** -/
def LatchesFailures (verification : ν) (chunks : List Bytes) : Prop :=
  ∀ pre data post, chunks = pre ++ data :: post → (MacUpdate.update (feed verification pre) data).1 ≠ .ok () →
    ∀ more, ¬ Accepts (MacUpdate.update (feed verification pre) data).2 more

theorem LatchesFailures.of_received {verification : ν} {chunks : List Bytes} (h : Received verification chunks) :
    LatchesFailures verification chunks := by
  rintro pre data post rfl hfailed
  exact absurd (received_append.1 h).2.1 hfailed

theorem LatchesFailures.received {verification : ν} {chunks : List Bytes} (h : LatchesFailures verification chunks)
    (haccepts : Accepts verification chunks) : Received verification chunks := by
  by_contra hnot
  obtain ⟨pre, data, post, rfl, hfailed⟩ := exists_failed hnot
  refine h pre data post rfl hfailed post ?_
  unfold Accepts at haccepts ⊢
  rw [feed_append] at haccepts
  exact haccepts

end Accepting

/-! ## What the objects of the wrapper do -/

/-- The chunks that a key is given: with one more for a LEGACY key. -/
def legacyChunks (outputPrefixType : OutputPrefixType) (chunks : List Bytes) : List Bytes :=
  if outputPrefixType = .legacy then chunks ++ [legacySuffix] else chunks

theorem legacyChunks_flatten (outputPrefixType : OutputPrefixType) (chunks : List Bytes) :
    (legacyChunks outputPrefixType chunks).flatten = legacyData outputPrefixType chunks.flatten := by
  unfold legacyChunks legacyData
  split
  · simp [legacySuffix]
  · rfl

section Objects
variable {κ ν : Type} [ChunkedMacComputation κ] [ChunkedMacVerification ν]

theorem ChunkedMacComputationSetWrapper.feed_eq (self : ChunkedMacComputationSetWrapper κ) :
    ∀ chunks, feed self chunks = { self with computation := feed self.computation chunks } := by
  intro chunks
  induction chunks generalizing self with
  | nil => rfl
  | cons data chunks ih => exact ih (self.update data).2

theorem ChunkedMacComputationSetWrapper.received_iff (self : ChunkedMacComputationSetWrapper κ) :
    ∀ chunks, Received self chunks ↔ Received self.computation chunks := by
  intro chunks
  induction chunks generalizing self with
  | nil => exact Iff.rfl
  | cons data chunks ih => exact and_congr Iff.rfl (ih (self.update data).2)

theorem ChunkedMacComputationSetWrapper.finish_ok {self : ChunkedMacComputationSetWrapper κ} {tag : Bytes} :
    self.finish.1 = .ok tag ↔
      ∃ rawTag, (ChunkedMacComputation.computeMac self.computation).1 = .ok rawTag ∧ tag = self.tagPrefix ++ rawTag := by
  unfold ChunkedMacComputationSetWrapper.finish
  cases h : (ChunkedMacComputation.computeMac self.computation).1 with
  | error e => simp [h, Except.map]
  | ok rawTag => simp [h, Except.map, eq_comm]

/-- **The computation of the wrapper is that of the primary key**, on the chunks for its prefix type. -/
theorem ChunkedMacComputationSetWrapper.computes_iff {self : ChunkedMacComputationSetWrapper κ} {chunks : List Bytes}
    {tag : Bytes} : Computes self chunks tag ↔
      ∃ rawTag, Computes self.computation (legacyChunks self.outputPrefixType chunks) rawTag ∧
        tag = self.tagPrefix ++ rawTag := by
  have hcompute : ChunkedMacComputation.computeMac (feed self chunks) = (feed self chunks).computeMac := rfl
  unfold Computes
  rw [hcompute, self.received_iff, self.feed_eq]
  unfold ChunkedMacComputationSetWrapper.computeMac legacyChunks
  by_cases hlegacy : self.outputPrefixType = .legacy
  · simp only [if_pos hlegacy, received_append, feed_append]
    unfold ChunkedMacComputationSetWrapper.update
    cases hupdate : (MacUpdate.update (feed self.computation chunks) legacySuffix).1 with
    | error e => simp [Received, hupdate]
    | ok _ =>
      simp only [Received, hupdate, and_true]
      rw [ChunkedMacComputationSetWrapper.finish_ok]
      simp [feed, and_assoc]
  · simp only [if_neg hlegacy]
    rw [ChunkedMacComputationSetWrapper.finish_ok]
    simp [and_assoc]

theorem ChunkedMacVerificationWithPrefixType.feed_eq (self : ChunkedMacVerificationWithPrefixType ν) :
    ∀ chunks, feed self chunks = { self with verification := feed self.verification chunks } := by
  intro chunks
  induction chunks generalizing self with
  | nil => rfl
  | cons data chunks ih => exact ih (self.update data).2

theorem ChunkedMacVerificationWithPrefixType.received_iff (self : ChunkedMacVerificationWithPrefixType ν) :
    ∀ chunks, Received self chunks ↔ Received self.verification chunks := by
  intro chunks
  induction chunks generalizing self with
  | nil => exact Iff.rfl
  | cons data chunks ih => exact and_congr Iff.rfl (ih (self.update data).2)

/-- What a key has received and accepts, its prefix type aside. -/
theorem ChunkedMacVerificationWithPrefixType.accepts_iff {self : ChunkedMacVerificationWithPrefixType ν}
    {chunks : List Bytes} : Received self chunks ∧ Accepts self chunks ↔
      Received self.verification (legacyChunks self.outputPrefixType chunks) ∧
        Accepts self.verification (legacyChunks self.outputPrefixType chunks) := by
  have hverify : ChunkedMacVerification.verifyMac (feed self chunks) = (feed self chunks).verifyMac := rfl
  unfold Accepts
  rw [hverify, self.received_iff, self.feed_eq]
  unfold ChunkedMacVerificationWithPrefixType.verifyMac legacyChunks
  by_cases hlegacy : self.outputPrefixType = .legacy
  · simp only [if_pos hlegacy, received_append, feed_append]
    unfold ChunkedMacVerificationWithPrefixType.update ChunkedMacVerificationWithPrefixType.finish
    cases hupdate : (MacUpdate.update (feed self.verification chunks) legacySuffix).1 with
    | error e => simp [Received, hupdate]
    | ok _ =>
      simp only [Received, hupdate, and_true]
      exact Iff.rfl
  · simp only [if_neg hlegacy]
    exact Iff.rfl

theorem updateLoop_objects (data : Bytes) : ∀ (verifications : List (ChunkedMacVerificationWithPrefixType ν))
    (status : Except Status Unit),
    (updateLoop data verifications status).2 = verifications.map (fun verification => (verification.update data).2)
  | [], _ => rfl
  | _ :: verifications, _ => congrArg _ (updateLoop_objects data verifications _)

theorem updateLoop_ok {data : Bytes} : ∀ {verifications : List (ChunkedMacVerificationWithPrefixType ν)}
    {status : Except Status Unit}, (updateLoop data verifications status).1 = .ok () ↔
      status = .ok () ∨ ∃ verification ∈ verifications, (verification.update data).1 = .ok ()
  | [], status => by simp [updateLoop]
  | verification :: verifications, status => by
    unfold updateLoop
    rw [updateLoop_ok, List.exists_mem_cons_iff]
    cases h : (verification.update data).1 with
    | ok _ => simp
    | error e => simp

theorem verifyLoop_ok : ∀ {verifications : List (ChunkedMacVerificationWithPrefixType ν)},
    (verifyLoop verifications).1 = .ok () ↔ ∃ verification ∈ verifications, verification.verifyMac.1 = .ok ()
  | [] => by simp [verifyLoop]
  | verification :: verifications => by
    rw [List.exists_mem_cons_iff, ← verifyLoop_ok]
    conv_lhs => unfold verifyLoop
    cases h : verification.verifyMac.1 with
    | ok _ => simp only [h, true_or]
    | error e => simp only [h, reduceCtorEq, false_or]

/-- All keys are fed alike. -/
theorem ChunkedMacVerificationSetWrapper.feed_eq (self : ChunkedMacVerificationSetWrapper ν) :
    ∀ chunks, feed self chunks = ⟨self.verifications.map (feed · chunks)⟩ := by
  intro chunks
  induction chunks generalizing self with
  | nil => simp [feed]
  | cons data chunks ih =>
    have hstep : feed self (data :: chunks) = feed (self.update data).2 chunks := rfl
    rw [hstep, ih]
    unfold ChunkedMacVerificationSetWrapper.update
    simp only [updateLoop_objects, List.map_map]
    rfl

theorem ChunkedMacVerificationSetWrapper.accepts_iff {self : ChunkedMacVerificationSetWrapper ν} {chunks : List Bytes} :
    Accepts self chunks ↔ ∃ verification ∈ self.verifications, Accepts verification chunks := by
  have hverify : ChunkedMacVerification.verifyMac (feed self chunks) = (feed self chunks).verifyMac := rfl
  unfold Accepts
  rw [hverify, self.feed_eq]
  unfold ChunkedMacVerificationSetWrapper.verifyMac
  rw [verifyLoop_ok]
  simp only [List.mem_map, exists_exists_and_eq_and]
  exact Iff.rfl

/-- `Update` returns OK as long as one key goes along. -/
theorem ChunkedMacVerificationSetWrapper.received (self : ChunkedMacVerificationSetWrapper ν) :
    ∀ {chunks : List Bytes} {verification}, verification ∈ self.verifications → Received verification chunks →
      Received self chunks := by
  intro chunks
  induction chunks generalizing self with
  | nil => exact fun _ _ => trivial
  | cons data chunks ih =>
    intro verification hmem hreceived
    refine ⟨updateLoop_ok.2 (.inr ⟨verification, hmem, hreceived.1⟩), ih (self.update data).2 ?_ hreceived.2⟩
    have hobjects := updateLoop_objects data self.verifications (.error ⟨.unknown, "Update failed."⟩)
    unfold ChunkedMacVerificationSetWrapper.update
    simp only [hobjects]
    exact List.mem_map_of_mem hmem

end Objects

/-! ## The keys behind a verification -/

section Keys
variable {κ ν K : Type} {set : PrimitiveSet (ChunkedMac κ ν)}

theorem verificationsOf_mem (h : WellFiled set) {identifier tag : Bytes}
    {verification : ChunkedMacVerificationWithPrefixType ν} :
    verification ∈ verificationsOf tag (set.getPrimitives identifier) ↔
      ∃ entry ∈ set.getAllInKeysetOrder, entry.identifier = identifier ∧
        verificationAttempt entry.outputPrefixType entry.primitive tag = .ok verification := by
  have hall : verification ∈ verificationsOf tag (set.getPrimitives identifier) ↔
      ∃ entry ∈ set.withIdentifier identifier,
        verificationAttempt entry.outputPrefixType entry.primitive tag = .ok verification := by
    unfold verificationsOf
    rcases h.consistent.getPrimitives identifier with hok | ⟨hnil, e, herror, -⟩
    · rw [hok]
      simp only [List.mem_filterMap]
      refine exists_congr fun entry => and_congr_right fun _ => ?_
      cases verificationAttempt entry.outputPrefixType entry.primitive tag with
      | error e => simp [Except.toOption]
      | ok made => simp [Except.toOption]
    · rw [herror, hnil]
      simp
  rw [hall]
  simp only [mem_withIdentifier, and_assoc]

/-- **The verifications of a tag are those of the entries that it may be from.** -/
theorem ChunkedMacSetWrapper.mem_verifications {wrapper : ChunkedMacSetWrapper κ ν} (h : WellFiled wrapper.set) {tag : Bytes}
    {made : ChunkedMacVerificationSetWrapper ν} (hmade : wrapper.createVerification tag = .ok made)
    {verification : ChunkedMacVerificationWithPrefixType ν} : verification ∈ made.verifications ↔
      ∃ entry ∈ wrapper.set.getAllInKeysetOrder, EntryAccepts verificationAttempt entry tag verification := by
  cases hmade
  have hraw : verification ∈ verificationsOf tag wrapper.set.getRawPrimitives ↔ _ := verificationsOf_mem h
  rw [List.mem_append, hraw]
  constructor
  · rintro (hprefixed | ⟨entry, hmem, hnil, hok⟩)
    · split at hprefixed
      · rename_i hlong
        obtain ⟨entry, hmem, hid, hok⟩ := (verificationsOf_mem h).1 hprefixed
        refine ⟨entry, hmem, .inr ⟨_, ?_, ?_, ?_, hok⟩⟩
        · exact List.ne_nil_of_length_pos (by rw [List.length_drop]; omega)
        · rw [hid, List.length_take]
          omega
        · rw [hid, List.take_append_drop]
      · cases hprefixed
    · exact ⟨entry, hmem, .inl ⟨hnil, hok⟩⟩
  · rintro ⟨entry, hmem, ⟨hnil, hok⟩ | ⟨rest, hrest, hsize, rfl, hok⟩⟩
    · exact .inr ⟨entry, hmem, hnil, hok⟩
    · have hpos := List.length_pos_iff.2 hrest
      rw [if_pos (by rw [List.length_append]; omega), ← hsize, List.take_left, List.drop_left]
      exact .inl ((verificationsOf_mem h).2 ⟨entry, hmem, rfl, hok⟩)

/-- The verifications of a tag are those of the ENABLED keys that it may be from. -/
theorem ChunkedMacSetWrapper.mem_verifications_keys {getters : PrimitiveGetters K (ChunkedMac κ ν)} {keyset : Keyset}
    {wrapper : ChunkedMacSetWrapper κ ν} (hset : primitiveSetOf getters keyset = .ok wrapper.set) {tag : Bytes}
    {made : ChunkedMacVerificationSetWrapper ν} (hmade : wrapper.createVerification tag = .ok made)
    {verification : ChunkedMacVerificationWithPrefixType ν} : verification ∈ made.verifications ↔
      ∃ key ∈ enabledKeys keyset.key, KeyAccepts getters verificationAttempt key tag verification := by
  have hentries := (primitiveSetOf_entries hset).1
  rw [wrapper.mem_verifications (primitiveSetOf_wellFiled hset) hmade]
  constructor
  · rintro ⟨entry, hmem, haccepts⟩
    obtain ⟨key, hkey, hentry⟩ := exists_of_forall₂ hentries.flip entry hmem
    exact ⟨key, hkey, hentry.accepts_iff.1 haccepts⟩
  · rintro ⟨key, hkey, haccepts⟩
    obtain ⟨entry, hmem, hentry⟩ := exists_of_forall₂ hentries key hkey
    exact ⟨entry, hmem, hentry.accepts_iff.2 haccepts⟩

/-- What a key accepts with one primitive, it accepts with another that accepts as much. -/
theorem KeyAccepts.transfer {K' P P' R R' : Type} {g : PrimitiveGetters K P} {g' : PrimitiveGetters K' P'}
    {attempt : OutputPrefixType → P → Bytes → Except Status R} {attempt' : OutputPrefixType → P' → Bytes → Except Status R'}
    {key : KeysetKey} {q : P'} (hq : primitiveForKey g' key = .ok (some q)) {good : R' → Prop} {input : Bytes} {r : R}
    (h : ∀ p input, primitiveForKey g key = .ok (some p) → attempt key.outputPrefixType p input = .ok r →
      ∃ r', attempt' key.outputPrefixType q input = .ok r' ∧ good r')
    (haccepts : KeyAccepts g attempt key input r) : ∃ r', KeyAccepts g' attempt' key input r' ∧ good r' := by
  obtain ⟨p, hp, ⟨htype, hok⟩ | ⟨identifier, rest, hid, hsize, hrest, hinput, hok⟩⟩ := haccepts
  · obtain ⟨r', hok', hgood⟩ := h p _ hp hok
    exact ⟨r', ⟨q, hq, .inl ⟨htype, hok'⟩⟩, hgood⟩
  · obtain ⟨r', hok', hgood⟩ := h p _ hp hok
    exact ⟨r', ⟨q, hq, .inr ⟨identifier, rest, hid, hsize, hrest, hinput, hok'⟩⟩, hgood⟩

end Keys

/-! ## One-shot and chunked MACs of a keyset -/

section Agree
variable {κ ν K K' : Type} [ChunkedMacComputation κ] [ChunkedMacVerification ν]

/-- **A chunked MAC agrees with a MAC** on all data, however they are cut, when no `Update` fails. -/
structure MacsAgree (p : Mac) (q : ChunkedMac κ ν) : Prop where
  compute : ∀ chunks tag, (∃ computation, q.createComputation = .ok computation ∧ Computes computation chunks tag) ↔
    p.computeMac chunks.flatten = .ok tag
  verify  : ∀ tag chunks, (∃ verification, q.createVerification tag = .ok verification ∧
    Received verification chunks ∧ Accepts verification chunks) ↔ p.verifyMac tag chunks.flatten = .ok ()

/-- What a key has received and accepts is what its one-shot MAC accepts. -/
theorem MacsAgree.attempt {p : Mac} {q : ChunkedMac κ ν} (h : MacsAgree p q) (outputPrefixType : OutputPrefixType)
    (tag : Bytes) (chunks : List Bytes) :
    (∃ verification, verificationAttempt outputPrefixType q tag = .ok verification ∧
      Received verification chunks ∧ Accepts verification chunks) ↔
      macAttempt chunks.flatten outputPrefixType p tag = .ok () := by
  unfold macAttempt verificationAttempt
  rw [← legacyChunks_flatten, ← h.verify]
  cases q.createVerification tag with
  | error e => simp
  | ok verification => simp [ChunkedMacVerificationWithPrefixType.accepts_iff]

variable {g₁ : PrimitiveGetters K Mac} {g₂ : PrimitiveGetters K' (ChunkedMac κ ν)} {keyset : Keyset} {w₁ : MacSetWrapper}
  {w₂ : ChunkedMacSetWrapper κ ν}

theorem ChunkedMacSetWrapper.computes_iff (hset₁ : primitiveSetOf g₁ keyset = .ok w₁.set)
    (hset₂ : primitiveSetOf g₂ keyset = .ok w₂.set)
    (hagree : ∀ key ∈ enabledKeys keyset.key, KeysMatch g₁ g₂ key key MacsAgree) (chunks : List Bytes) (tag : Bytes) :
    (∃ computation, w₂.createComputation = .ok computation ∧ Computes computation chunks tag) ↔
      w₁.computeMac chunks.flatten = .ok tag := by
  obtain ⟨key, hkey, hprimary, hentry₁⟩ := exists_primary_key hset₁ w₁.isPrimary
  have hentry₂ := primary_entry hset₂ hkey hprimary w₂.isPrimary
  have hmacs := hagree key hkey _ _ hentry₁.primitive hentry₂.primitive
  have hid : w₂.primary.identifier = w₁.primary.identifier := by
    have h := hentry₂.identifier
    rw [hentry₁.identifier] at h
    exact (Except.ok.inj h).symm
  unfold ChunkedMacSetWrapper.createComputation MacSetWrapper.computeMac SetWithPrimary.prefixed
  rw [hid, hentry₁.outputPrefixType, hentry₂.outputPrefixType]
  have hshot : ∀ rawTag, (∃ computation, w₂.primary.primitive.createComputation = .ok computation ∧
      Computes computation (legacyChunks key.outputPrefixType chunks) rawTag) ↔
      w₁.primary.primitive.computeMac (legacyData key.outputPrefixType chunks.flatten) = .ok rawTag := by
    intro rawTag
    rw [hmacs.compute, legacyChunks_flatten]
  constructor
  · rintro ⟨computation, hcreate, hcomputes⟩
    cases hprimitive : w₂.primary.primitive.createComputation with
    | error e =>
      rw [hprimitive] at hcreate
      cases hcreate
    | ok inner =>
      rw [hprimitive] at hcreate
      cases hcreate
      obtain ⟨rawTag, hraw, rfl⟩ := ChunkedMacComputationSetWrapper.computes_iff.1 hcomputes
      rw [(hshot rawTag).1 ⟨inner, hprimitive, hraw⟩]
  · intro hcompute
    split at hcompute
    · cases hcompute
    · rename_i rawTag hraw
      cases hcompute
      obtain ⟨inner, hprimitive, hcomputes⟩ := (hshot rawTag).2 hraw
      rw [hprimitive]
      exact ⟨_, rfl, ChunkedMacComputationSetWrapper.computes_iff.2 ⟨rawTag, hcomputes, rfl⟩⟩

/-- What an ENABLED key has received and accepts is what its one-shot MAC accepts. -/
theorem keyAccepts_chunks (hset₁ : primitiveSetOf g₁ keyset = .ok w₁.set) (hset₂ : primitiveSetOf g₂ keyset = .ok w₂.set)
    (hagree : ∀ key ∈ enabledKeys keyset.key, KeysMatch g₁ g₂ key key MacsAgree) {key : KeysetKey}
    (hkey : key ∈ enabledKeys keyset.key) (tag : Bytes) (chunks : List Bytes) :
    (∃ verification, KeyAccepts g₂ verificationAttempt key tag verification ∧
      Received verification chunks ∧ Accepts verification chunks) ↔
      KeyAccepts g₁ (macAttempt chunks.flatten) key tag () := by
  obtain ⟨entry₁, -, hentry₁⟩ := exists_of_forall₂ (primitiveSetOf_entries hset₁).1 key hkey
  obtain ⟨entry₂, -, hentry₂⟩ := exists_of_forall₂ (primitiveSetOf_entries hset₂).1 key hkey
  constructor
  · rintro ⟨verification, haccepts, hgood⟩
    have hshot : ∃ r, KeyAccepts g₁ (macAttempt chunks.flatten) key tag r ∧ True :=
      haccepts.transfer hentry₁.primitive (fun q input hq hok =>
        ⟨(), ((hagree key hkey _ q hentry₁.primitive hq).attempt _ input chunks).1 ⟨verification, hok, hgood⟩, trivial⟩)
    obtain ⟨r, haccepts, -⟩ := hshot
    exact haccepts
  · intro haccepts
    exact haccepts.transfer hentry₂.primitive (fun p input hp hok =>
      ((hagree key hkey p _ hp hentry₂.primitive).attempt _ input chunks).2 hok)

omit [ChunkedMacComputation κ] in
/-- What the verification of a keyset accepts was received, whole, by an ENABLED key that accepts it, when no key forgets
a failed `Update`. -/
theorem ChunkedMacSetWrapper.accepts_received (hset₂ : primitiveSetOf g₂ keyset = .ok w₂.set) {tag : Bytes}
    {made : ChunkedMacVerificationSetWrapper ν} (hmade : w₂.createVerification tag = .ok made) {chunks : List Bytes}
    (hlatches : ∀ verification ∈ made.verifications, LatchesFailures verification chunks) (haccepts : Accepts made chunks) :
    Received made chunks ∧ ∃ key ∈ enabledKeys keyset.key, ∃ verification,
      KeyAccepts g₂ verificationAttempt key tag verification ∧ Received verification chunks ∧ Accepts verification chunks := by
  obtain ⟨verification, hin, haccepts⟩ := ChunkedMacVerificationSetWrapper.accepts_iff.1 haccepts
  have hreceived := (hlatches verification hin).received haccepts
  obtain ⟨key, hkey, hof⟩ := (w₂.mem_verifications_keys hset₂ hmade).1 hin
  exact ⟨made.received hin hreceived, key, hkey, verification, hof, hreceived, haccepts⟩

/-- Where the keys agree with their MACs, so does the verification of a keyset. -/
theorem ChunkedMacSetWrapper.verifies_iff (hset₁ : primitiveSetOf g₁ keyset = .ok w₁.set)
    (hset₂ : primitiveSetOf g₂ keyset = .ok w₂.set)
    (hagree : ∀ key ∈ enabledKeys keyset.key, KeysMatch g₁ g₂ key key MacsAgree) {tag : Bytes}
    {made : ChunkedMacVerificationSetWrapper ν} (hmade : w₂.createVerification tag = .ok made) {chunks : List Bytes}
    (hlatches : ∀ verification ∈ made.verifications, LatchesFailures verification chunks) :
    Accepts made chunks ↔ w₁.verifyMac tag chunks.flatten = .ok () := by
  have hdecide := (w₁.verify_decides (primitiveSetOf_wellFiled hset₁) tag chunks.flatten).keys hset₁
  constructor
  · intro haccepts
    obtain ⟨-, key, hkey, hreceived⟩ := ChunkedMacSetWrapper.accepts_received hset₂ hmade hlatches haccepts
    have hshot := (keyAccepts_chunks hset₁ hset₂ hagree hkey tag chunks).1 hreceived
    rcases hdecide with ⟨r, hr, -⟩ | ⟨-, hnone⟩
    · exact hr
    · exact absurd hshot (hnone trivial key hkey ())
  · intro hverify
    obtain ⟨key, hkey, hshot⟩ := hdecide.sound hverify
    obtain ⟨verification, hof, -, haccepts⟩ := (keyAccepts_chunks hset₁ hset₂ hagree hkey tag chunks).2 hshot
    exact ChunkedMacVerificationSetWrapper.accepts_iff.2
      ⟨verification, (w₂.mem_verifications_keys hset₂ hmade).2 ⟨key, hkey, hof⟩, haccepts⟩

/-- **What the chunked MAC of a keyset accepts, a key that has received every chunk accepts**, as long as keys that fail an
`Update` refuse afterwards; and where each key agrees with its MAC, the keyset agrees with its MAC. -/
theorem chunkedMac_agrees (h₂ : keysetWrap g₂ chunkedMacWrap keyset = .ok w₂) :
    (∀ tag, ∃ made, w₂.createVerification tag = .ok made ∧
      ∀ chunks, (∀ verification ∈ made.verifications, LatchesFailures verification chunks) → Accepts made chunks →
        Received made chunks ∧ ∃ key ∈ enabledKeys keyset.key, ∃ verification,
          KeyAccepts g₂ verificationAttempt key tag verification ∧
            Received verification chunks ∧ Accepts verification chunks) ∧
    ∀ {K : Type} {g₁ : PrimitiveGetters K Mac} {w₁ : MacSetWrapper}, keysetWrap g₁ macWrap keyset = .ok w₁ →
      (∀ key ∈ enabledKeys keyset.key, KeysMatch g₁ g₂ key key MacsAgree) →
      (∀ chunks tag, (∃ computation, w₂.createComputation = .ok computation ∧ Computes computation chunks tag) ↔
        w₁.computeMac chunks.flatten = .ok tag) ∧
      ∀ tag made chunks, w₂.createVerification tag = .ok made →
        (∀ verification ∈ made.verifications, LatchesFailures verification chunks) →
        (Accepts made chunks ↔ w₁.verifyMac tag chunks.flatten = .ok ()) := by
  have hset₂ := keysetWrap_set h₂
  refine ⟨fun _ => ⟨_, rfl, fun _ => ChunkedMacSetWrapper.accepts_received hset₂ rfl⟩, fun h₁ hagree => ?_⟩
  have hset₁ := keysetWrap_set h₁
  exact ⟨ChunkedMacSetWrapper.computes_iff hset₁ hset₂ hagree, fun _ _ _ hmade hlatches =>
    ChunkedMacSetWrapper.verifies_iff hset₁ hset₂ hagree hmade hlatches⟩

end Agree

/-! ## MACs of single keys -/

section Impl
variable {σ : Type} [StatefulMac σ]

theorem chunkedMacComputationImpl_feed (s : σ) : ∀ chunks,
    feed (⟨s, .ok ()⟩ : ChunkedMacComputationImpl σ) chunks = ⟨feed s chunks, .ok ()⟩ ∧
      (Received (⟨s, .ok ()⟩ : ChunkedMacComputationImpl σ) chunks ↔ Received s chunks) := by
  intro chunks
  induction chunks generalizing s with
  | nil => exact ⟨rfl, Iff.rfl⟩
  | cons data chunks ih => exact ⟨(ih _).1, and_congr Iff.rfl (ih _).2⟩

theorem chunkedMacVerificationImpl_feed (tag : Bytes) (s : σ) : ∀ chunks,
    feed (⟨s, tag, .ok ()⟩ : ChunkedMacVerificationImpl σ) chunks = ⟨feed s chunks, tag, .ok ()⟩ ∧
      (Received (⟨s, tag, .ok ()⟩ : ChunkedMacVerificationImpl σ) chunks ↔ Received s chunks) := by
  intro chunks
  induction chunks generalizing s with
  | nil => exact ⟨rfl, Iff.rfl⟩
  | cons data chunks ih => exact ⟨(ih _).1, and_congr Iff.rfl (ih _).2⟩

/-- **`ChunkedMacImpl` agrees with a MAC when its stateful MAC does.** -/
theorem chunkedMacImpl_agrees {s : σ} {p : Mac}
    (hcompute : ∀ chunks tag, Received s chunks ∧ (finalizeAsSecretData (feed s chunks)).1 = .ok tag ↔
      p.computeMac chunks.flatten = .ok tag)
    (hverify : ∀ tag data, p.verifyMac tag data = .ok () ↔ p.computeMac data = .ok tag) :
    MacsAgree p (chunkedMacImpl (.ok s)) := by
  refine ⟨fun chunks tag => ?_, fun tag chunks => ?_⟩
  · rw [← hcompute]
    obtain ⟨hfeed, hreceived⟩ := chunkedMacComputationImpl_feed s chunks
    constructor
    · rintro ⟨computation, hcreate, hcomputes⟩
      cases hcreate
      unfold Computes at hcomputes
      rw [hfeed, hreceived] at hcomputes
      exact hcomputes
    · intro h
      refine ⟨_, rfl, ?_⟩
      unfold Computes
      rw [hfeed, hreceived]
      exact h
  · rw [hverify, ← hcompute]
    obtain ⟨hfeed, hreceived⟩ := chunkedMacVerificationImpl_feed tag s chunks
    have haccepts : Accepts (⟨s, tag, .ok ()⟩ : ChunkedMacVerificationImpl σ) chunks ↔
        (finalizeAsSecretData (feed s chunks)).1 = .ok tag := by
      have hcall : ChunkedMacVerification.verifyMac (⟨feed s chunks, tag, .ok ()⟩ : ChunkedMacVerificationImpl σ) =
        ChunkedMacVerificationImpl.verifyMac ⟨feed s chunks, tag, .ok ()⟩ := rfl
      unfold Accepts
      rw [hfeed, hcall]
      unfold ChunkedMacVerificationImpl.verifyMac
      cases hfinal : (finalizeAsSecretData (feed s chunks)).1 with
      | error e => simp [hfinal]
      | ok mac =>
        by_cases hsame : mac = tag
        · simp [hfinal, hsame]
        · simp [hfinal, hsame]
    rw [← hreceived, ← haccepts]
    constructor
    · rintro ⟨verification, hcreate, h⟩
      cases hcreate
      exact h
    · exact fun h => ⟨_, rfl, h⟩

end Impl

/-! ## A key that cannot process a byte -/

/-- A MAC that is the data after a byte; with the byte 7 it refuses data with the byte 2. -/
structure RefusingMac where
  tagByte : UInt8
  data    : Bytes

instance : StatefulMac RefusingMac where
  update := fun self data =>
    if self.tagByte = 7 ∧ 2 ∈ data then (.error ⟨.internal, "Inputs to CMAC Update invalid"⟩, self)
    else (.ok (), { self with data := self.data ++ data })
  finalizeAsSecretData := fun self => (.ok (self.tagByte :: self.data), self)

def refusingMac (tagByte : UInt8) : Mac where
  computeMac := fun data =>
    if tagByte = 7 ∧ 2 ∈ data then .error ⟨.internal, "Inputs to CMAC Update invalid"⟩ else .ok (tagByte :: data)
  verifyMac := fun mac data =>
    if ¬ (tagByte = 7 ∧ 2 ∈ data) ∧ mac = tagByte :: data then .ok () else .error ⟨.invalidArgument, "verification failed"⟩

theorem refusingMac_feed (tagByte : UInt8) : ∀ (chunks : List Bytes) (data : Bytes),
    (Received (⟨tagByte, data⟩ : RefusingMac) chunks ↔ ¬ (tagByte = 7 ∧ 2 ∈ chunks.flatten)) ∧
      (¬ (tagByte = 7 ∧ 2 ∈ chunks.flatten) →
        feed (⟨tagByte, data⟩ : RefusingMac) chunks = ⟨tagByte, data ++ chunks.flatten⟩)
  | [], data => by simp [Received, feed]
  | chunk :: chunks, data => by
    by_cases hrefused : tagByte = 7 ∧ 2 ∈ chunk
    · have hupdate : MacUpdate.update (⟨tagByte, data⟩ : RefusingMac) chunk =
        (.error ⟨.internal, "Inputs to CMAC Update invalid"⟩, ⟨tagByte, data⟩) := if_pos hrefused
      have hmem : 2 ∈ (chunk :: chunks).flatten := by simp [hrefused.2]
      have hnot : ¬ Received (⟨tagByte, data⟩ : RefusingMac) (chunk :: chunks) := by
        rintro ⟨hok, -⟩
        rw [hupdate] at hok
        cases hok
      exact ⟨iff_of_false hnot (fun h => h ⟨hrefused.1, hmem⟩), fun h => absurd ⟨hrefused.1, hmem⟩ h⟩
    · have hupdate : MacUpdate.update (⟨tagByte, data⟩ : RefusingMac) chunk = (.ok (), ⟨tagByte, data ++ chunk⟩) :=
        if_neg hrefused
      obtain ⟨hreceived, hfeed⟩ := refusingMac_feed tagByte chunks (data ++ chunk)
      have hrest : (tagByte = 7 ∧ 2 ∈ (chunk :: chunks).flatten) ↔ tagByte = 7 ∧ 2 ∈ chunks.flatten := by
        rw [List.flatten_cons, List.mem_append]
        tauto
      rw [hrest]
      refine ⟨?_, fun hnot => ?_⟩
      · simp only [Received, hupdate, true_and, hreceived]
      · have hstep : feed (⟨tagByte, data⟩ : RefusingMac) (chunk :: chunks) =
          feed (MacUpdate.update (⟨tagByte, data⟩ : RefusingMac) chunk).2 chunks := rfl
        rw [hstep, hupdate, hfeed hnot, List.flatten_cons, List.append_assoc]

theorem refusingMac_agrees (tagByte : UInt8) : MacsAgree (refusingMac tagByte) (chunkedMacImpl (.ok (⟨tagByte, []⟩ : RefusingMac))) := by
  refine chunkedMacImpl_agrees (fun chunks tag => ?_) (fun tag data => ?_)
  · obtain ⟨hreceived, hfeed⟩ := refusingMac_feed tagByte chunks []
    rw [hreceived]
    unfold refusingMac
    by_cases hrefused : tagByte = 7 ∧ 2 ∈ chunks.flatten
    · simp only [if_pos hrefused]
      exact iff_of_false (fun h => h.1 hrefused) (fun h => by cases h)
    · rw [hfeed hrefused]
      simp only [hrefused, not_false_eq_true, true_and]
      exact Iff.rfl
  · unfold refusingMac
    by_cases hrefused : tagByte = 7 ∧ 2 ∈ data
    · simp [hrefused]
    · simp [hrefused, eq_comm]

def refusingMacGetters : PrimitiveGetters Unit Mac where
  parseKey := fun _ => .error ⟨.notFound, ""⟩
  primitiveGetter := fun keyData => .ok (some (refusingMac (keyData.value.headD 0)))
  primitiveGetterFromKey := fun _ => .error ⟨.notFound, ""⟩

def chunkedRefusingMacGetters :
    PrimitiveGetters Unit (ChunkedMac (ChunkedMacComputationImpl RefusingMac) (ChunkedMacVerificationImpl RefusingMac)) where
  parseKey := fun _ => .error ⟨.notFound, ""⟩
  primitiveGetter := fun keyData => .ok (some (chunkedMacImpl (.ok ⟨keyData.value.headD 0, []⟩)))
  primitiveGetterFromKey := fun _ => .error ⟨.notFound, ""⟩

/-- The RAW keys 7 and 8. -/
def rawMacKeys : Keyset := ⟨5, [taggedKey 7 5 .raw, taggedKey 8 9 .raw]⟩

theorem refusingMac_keysMatch : ∀ key ∈ enabledKeys rawMacKeys.key,
    KeysMatch refusingMacGetters chunkedRefusingMacGetters key key MacsAgree := by
  have hkeys : enabledKeys rawMacKeys.key = [taggedKey 7 5 .raw, taggedKey 8 9 .raw] := rfl
  intro key hkey p q hp hq
  rw [hkeys, List.mem_cons, List.mem_singleton] at hkey
  rcases hkey with rfl | rfl
  · cases hp
    cases hq
    exact refusingMac_agrees _
  · cases hp
    cases hq
    exact refusingMac_agrees _

theorem chunkedMac_agrees_rawKeys :
    ∃ w₁ w₂ made, keysetWrap refusingMacGetters macWrap rawMacKeys = .ok w₁ ∧
      keysetWrap chunkedRefusingMacGetters chunkedMacWrap rawMacKeys = .ok w₂ ∧
      ChunkedMacSetWrapper.createVerification w₂ [7, 1, 3] = .ok made ∧ Accepts made [[1], [3]] ∧
      (∃ key ∈ enabledKeys rawMacKeys.key, ∃ verification,
        KeyAccepts chunkedRefusingMacGetters verificationAttempt key [7, 1, 3] verification ∧
          Received verification [[1], [3]]) ∧
      MacSetWrapper.verifyMac w₁ [7, 1, 3] [1, 3] = .ok () := by
  obtain ⟨w₁, h₁⟩ : ∃ w₁, keysetWrap refusingMacGetters macWrap rawMacKeys = .ok w₁ := ⟨_, rfl⟩
  obtain ⟨w₂, h₂⟩ : ∃ w₂, keysetWrap chunkedRefusingMacGetters chunkedMacWrap rawMacKeys = .ok w₂ := ⟨_, rfl⟩
  obtain ⟨hall, hagrees⟩ := chunkedMac_agrees h₂
  obtain ⟨-, hverify⟩ := hagrees h₁ refusingMac_keysMatch
  obtain ⟨made, hmade, hreceives⟩ := hall [7, 1, 3]
  have hiff := hverify [7, 1, 3] made [[1], [3]] hmade
  cases h₁
  cases h₂
  cases hmade
  have hreceived : ∀ verification ∈ [(⟨⟨⟨7, []⟩, [7, 1, 3], .ok ()⟩, .raw⟩ :
      ChunkedMacVerificationWithPrefixType (ChunkedMacVerificationImpl RefusingMac)),
      ⟨⟨⟨8, []⟩, [7, 1, 3], .ok ()⟩, .raw⟩], Received verification [[1], [3]] := by
    intro verification hmem
    rw [List.mem_cons, List.mem_singleton] at hmem
    rcases hmem with rfl | rfl
    · exact ⟨rfl, rfl, trivial⟩
    · exact ⟨rfl, rfl, trivial⟩
  have hlatches := fun verification hmem => LatchesFailures.of_received (hreceived verification hmem)
  obtain ⟨-, key, hkey, verification, hof, hwhole, -⟩ := hreceives [[1], [3]] hlatches rfl
  exact ⟨_, _, _, rfl, rfl, rfl, rfl, ⟨key, hkey, verification, hof, hwhole⟩, (hiff hlatches).1 rfl⟩

/-- **A MAC of a message with a chunk missing**: the key 7 fails the second `Update`, the wrapper returns OK for the key 8,
and the tag of the first chunk is accepted for both. -/
theorem chunkedMac_chunkMissing :
    (∀ key ∈ enabledKeys rawMacKeys.key, KeysMatch refusingMacGetters chunkedRefusingMacGetters key key MacsAgree) ∧
    ∃ w₁ w₂ made, keysetWrap refusingMacGetters macWrap rawMacKeys = .ok w₁ ∧
      keysetWrap chunkedRefusingMacGetters chunkedMacWrap rawMacKeys = .ok w₂ ∧
      ChunkedMacSetWrapper.createVerification w₂ [7, 1] = .ok made ∧ Received made [[1], [2]] ∧ Accepts made [[1], [2]] ∧
      MacSetWrapper.computeMac w₁ [1] = .ok [7, 1] ∧ MacSetWrapper.verifyMac w₁ [7, 1] [1, 2] ≠ .ok () ∧
      ∀ verification ∈ made.verifications, Accepts verification [[1], [2]] → ¬ Received verification [[1], [2]] := by
  refine ⟨refusingMac_keysMatch, _, _, _, rfl, rfl, rfl, ⟨rfl, rfl, trivial⟩, rfl, rfl,
    (fun h => by cases h), ?_⟩
  have hnone : ∀ verification ∈ [(⟨⟨⟨7, []⟩, [7, 1], .ok ()⟩, .raw⟩ :
      ChunkedMacVerificationWithPrefixType (ChunkedMacVerificationImpl RefusingMac)),
      ⟨⟨⟨8, []⟩, [7, 1], .ok ()⟩, .raw⟩],
      Accepts verification [[1], [2]] → ¬ Received verification [[1], [2]] := by
    intro verification hmem
    rw [List.mem_cons, List.mem_singleton] at hmem
    rcases hmem with rfl | rfl
    · rintro - ⟨-, hsecond, -⟩
      cases hsecond
    · intro haccepts
      cases haccepts
  exact hnone

end Tink
