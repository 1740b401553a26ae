import TinkCc.KeysetHandle
import TinkCc.SetWrapper
/-!
# MonitoredWrappers — what the wrappers report to monitoring clients

`internal/monitoring.h`, `internal/monitoring_util.h`, and the monitoring of `aead_wrapper.cc`,
`deterministic_aead_wrapper.cc`, `mac_wrapper.cc`, `public_key_sign_wrapper.cc`, `public_key_verify_wrapper.cc`,
`hybrid_encrypt_wrapper.cc` and `hybrid_decrypt_wrapper.cc`.  A client is made for each API of a wrapped set; each call of
that API reports the key it has used, or a failure.
-/
namespace Tink

/-! ## Hybrid encryption -/

/-- `HybridEncrypt`; what `Encrypt` draws at random is its first argument. -/
structure HybridEncrypt where
  encrypt : Bytes → Bytes → Bytes → Except Status Bytes

structure HybridDecrypt where
  decrypt : Bytes → Bytes → Except Status Bytes

/-! ## Clients -/

/-- `OutputPrefixType_Name`. -/
def OutputPrefixType.name : OutputPrefixType → String
  | .unknownPrefix => "UNKNOWN_PREFIX"
  | .tink => "TINK"
  | .legacy => "LEGACY"
  | .raw => "RAW"
  | .crunchy => "CRUNCHY"
  | .withIdRequirement => "WITH_ID_REQUIREMENT"
  | .unnamed _ => ""

namespace Monitoring

/-- `MonitoringKeySetInfo::Entry`. -/
structure Entry where
  status    : KeyStatus
  keyId     : UInt32
  keyType   : String
  keyPrefix : String
  deriving DecidableEq

/-- `MonitoringKeySetInfo`. -/
structure KeySetInfo where
  annotations  : List (String × String)
  entries      : List Entry
  primaryKeyId : UInt32

/-- `MonitoringContext`. -/
structure Context where
  primitive   : String
  apiFunction : String
  keysetInfo  : KeySetInfo

/-- A `MonitoringClient`, told apart by its object. -/
abbrev Client := Nat

/-- `MonitoringClientFactory::New`; a client that is null is `none`. -/
abbrev ClientFactory := Context → Except Status (Option Client)

/-- A call of `Log` or `LogFailure`. -/
inductive Record
  | log (keyId : UInt32) (numBytesAsInput : Nat)
  | logFailure
  deriving DecidableEq, Repr

/-- The calls of clients, in order. -/
abbrev Log := List (Client × Record)

/-- A call of a client that is not null. -/
def report (client : Option Client) (record : Record) : Log := client.toList.map fun client => (client, record)

def keyTypePrefix : String := "type.googleapis.com/google.crypto."

/-- `absl::StripPrefix` of `kKeyTypePrefix`. -/
def stripKeyTypePrefix (typeUrl : String) : String :=
  if keyTypePrefix.toList.isPrefixOf typeUrl.toList then String.ofList (typeUrl.toList.drop keyTypePrefix.length)
  else typeUrl

section Info
variable {P : Type}

/-- The loop of `MonitoringKeySetInfoFromPrimitiveSet`. -/
def keySetInfoEntries : List (PrimitiveEntry P) → Except Status (List Entry)
  | [] => .ok []
  | entry :: entries =>
    match fromKeyStatusType entry.status with
    | .error e => .error e
    | .ok status =>
      match keySetInfoEntries entries with
      | .error e => .error e
      | .ok infos =>
        .ok (⟨status, entry.keyId, stripKeyTypePrefix entry.keyTypeUrl, entry.outputPrefixType.name⟩ :: infos)

/-- `MonitoringKeySetInfoFromPrimitiveSet`; `walk` is the order in which the map of the set is walked. -/
def monitoringKeySetInfoFromPrimitiveSet (walk : PrimitivesMap P → PrimitivesMap P) (annotations : List (String × String))
    (set : PrimitiveSet P) : Except Status KeySetInfo :=
  if set.getAll walk = [] then .error ⟨.invalidArgument, "The primitive set is empty"⟩
  else
    match set.getPrimary with
    | none => .error ⟨.invalidArgument, "The primary keys must not be null"⟩
    | some primary =>
      match keySetInfoEntries (set.getAll walk) with
      | .error e => .error e
      | .ok entries => .ok ⟨annotations, entries, primary.keyId⟩

end Info

/-! ## Sets with clients -/

section Sets
variable {P R α : Type}

/-- The clients of a wrapped set: for what the primary key makes, and for what any key accepts. -/
structure Clients where
  produce : Option Client
  accept  : Option Client

/-- `Wrap`, for an API that makes something and one that takes it. -/
def wrapBoth (walk : PrimitivesMap P → PrimitivesMap P) (factory : Option ClientFactory)
    (annotations : List (String × String)) (name primitive produceApi acceptApi : String) (set : PrimitiveSet P) :
    Except Status (SetWithPrimary P × Clients) :=
  match validateSet name set with
  | .error e => .error e
  | .ok wrapper =>
    match factory with
    -- monitoring is not enabled
    | none => .ok (wrapper, ⟨none, none⟩)
    | some new =>
      match monitoringKeySetInfoFromPrimitiveSet walk annotations set with
      | .error e => .error e
      | .ok keysetInfo =>
        match new ⟨primitive, produceApi, keysetInfo⟩ with
        | .error e => .error e
        | .ok produce =>
          match new ⟨primitive, acceptApi, keysetInfo⟩ with
          | .error e => .error e
          | .ok accept => .ok (wrapper, ⟨produce, accept⟩)

/-- `Wrap`, for one API. -/
def wrapOne (walk : PrimitivesMap P → PrimitivesMap P) (factory : Option ClientFactory)
    (annotations : List (String × String)) (name primitive api : String) (set : PrimitiveSet P) :
    Except Status (SetWithPrimary P × Option Client) :=
  match validateSet name set with
  | .error e => .error e
  | .ok wrapper =>
    match factory with
    | none => .ok (wrapper, none)
    | some new =>
      match monitoringKeySetInfoFromPrimitiveSet walk annotations set with
      | .error e => .error e
      | .ok keysetInfo =>
        match new ⟨primitive, api, keysetInfo⟩ with
        | .error e => .error e
        | .ok client => .ok (wrapper, client)

/-- What the primary key makes, and the report of it. -/
def producing (wrapper : SetWithPrimary P) (client : Option Client) (numBytes : Nat) (output : Except Status Bytes) :
    Except Status Bytes × Log :=
  match output with
  | .error e => (.error e, report client .logFailure)
  | .ok output => (.ok (wrapper.primary.identifier ++ output), report client (.log wrapper.primary.keyId numBytes))

/-- A loop over entries, with the entry that accepts. -/
def firstOkEntry (cond : α → Bool) (attempt : α → Except Status R) : List α → Option (α × R)
  | [] => none
  | a :: as =>
    if cond a then
      match attempt a with
      | .ok r => some (a, r)
      | .error _ => firstOkEntry cond attempt as
    else firstOkEntry cond attempt as

def tryPrefixedEntry (attempt : PrimitiveEntry P → Bytes → Except Status R) (set : PrimitiveSet P) (input : Bytes) :
    Option (PrimitiveEntry P × R) :=
  if input.length > CryptoFormat.nonRawPrefixSize then
    match set.getPrimitives (input.take CryptoFormat.nonRawPrefixSize) with
    | .ok entries =>
      firstOkEntry (fun _ => true) (fun entry => attempt entry (input.drop CryptoFormat.nonRawPrefixSize)) entries
    | .error _ => none
  else none

def tryRawEntry (attempt : PrimitiveEntry P → Bytes → Except Status R) (set : PrimitiveSet P) (input : Bytes) :
    Option (PrimitiveEntry P × R) :=
  match set.getRawPrimitives with
  | .ok entries => firstOkEntry (fun _ => true) (fun entry => attempt entry input) entries
  | .error _ => none

/-- What an entry accepts, and the report of it: `prefixedRecord` and `rawRecord` are what the two loops report. -/
def accepting (client : Option Client) (attempt attemptRaw : PrimitiveEntry P → Bytes → Except Status R) (failure : Status)
    (prefixedRecord rawRecord : PrimitiveEntry P → Option Record) (set : PrimitiveSet P) (input : Bytes) :
    Except Status R × Log :=
  match tryPrefixedEntry attempt set input with
  | some (entry, r) => (.ok r, (prefixedRecord entry).elim [] (report client))
  | none =>
    -- no matching key succeeded, try all RAW keys
    match tryRawEntry attemptRaw set input with
    | some (entry, r) => (.ok r, (rawRecord entry).elim [] (report client))
    | none => (.error failure, report client .logFailure)

end Sets
end Monitoring

open Monitoring

/-! ## The wrappers, without monitoring -/

abbrev HybridEncryptSetWrapper := SetWithPrimary HybridEncrypt

def hybridEncryptWrap (set : PrimitiveSet HybridEncrypt) : Except Status HybridEncryptSetWrapper :=
  validateSet "hybrid_encrypt_set" set

def HybridEncryptSetWrapper.encrypt (wrapper : HybridEncryptSetWrapper) (random plaintext contextInfo : Bytes) :
    Except Status Bytes :=
  wrapper.prefixed (wrapper.primary.primitive.encrypt random plaintext contextInfo)

abbrev HybridDecryptSetWrapper := SetWithPrimary HybridDecrypt

def hybridDecryptWrap (set : PrimitiveSet HybridDecrypt) : Except Status HybridDecryptSetWrapper :=
  validateSet "hybrid_decrypt_set" set

def HybridDecryptSetWrapper.decrypt (wrapper : HybridDecryptSetWrapper) (ciphertext contextInfo : Bytes) :
    Except Status Bytes :=
  acceptBySet (fun entry ciphertext => entry.primitive.decrypt ciphertext contextInfo)
    (fun entry ciphertext => entry.primitive.decrypt ciphertext contextInfo)
    ⟨.invalidArgument, "decryption failed"⟩ wrapper.set ciphertext

/-! ## The wrappers, with monitoring -/

namespace Monitoring

section Wrap
variable (walk : ∀ {P : Type}, PrimitivesMap P → PrimitivesMap P) (factory : Option ClientFactory)
  (annotations : List (String × String))

def aeadWrap (set : PrimitiveSet Aead) : Except Status (AeadSetWrapper × Clients) :=
  wrapBoth walk factory annotations "aead_set" "aead" "encrypt" "decrypt" set

def deterministicAeadWrap (set : PrimitiveSet DeterministicAead) : Except Status (DeterministicAeadSetWrapper × Clients) :=
  wrapBoth walk factory annotations "daead_set" "daead" "encrypt" "decrypt" set

def macWrap (set : PrimitiveSet Mac) : Except Status (MacSetWrapper × Clients) :=
  wrapBoth walk factory annotations "mac_set" "mac" "compute" "verify" set

def publicKeySignWrap (set : PrimitiveSet PublicKeySign) : Except Status (PublicKeySignSetWrapper × Option Client) :=
  wrapOne walk factory annotations "public_key_sign_set" "public_key_sign" "sign" set

def publicKeyVerifyWrap (set : PrimitiveSet PublicKeyVerify) :
    Except Status (PublicKeyVerifySetWrapper × Option Client) :=
  match wrapOne walk factory annotations "public_key_verify_set" "public_key_verify" "verify" set with
  | .error e => .error e
  | .ok (wrapper, client) => .ok (⟨wrapper.set.releaseAllEntries.1.map unpackPrimitive⟩, client)

def hybridEncryptWrap (set : PrimitiveSet HybridEncrypt) : Except Status (HybridEncryptSetWrapper × Option Client) :=
  wrapOne walk factory annotations "hybrid_encrypt_set" "hybrid_encrypt" "encrypt" set

def hybridDecryptWrap (set : PrimitiveSet HybridDecrypt) : Except Status (HybridDecryptSetWrapper × Option Client) :=
  wrapOne walk factory annotations "hybrid_decrypt_set" "hybrid_decrypt" "decrypt" set

end Wrap

def encrypt (wrapper : AeadSetWrapper × Clients) (random plaintext associatedData : Bytes) : Except Status Bytes × Log :=
  producing wrapper.1 wrapper.2.produce plaintext.length
    (wrapper.1.primary.primitive.encrypt random plaintext associatedData)

def decrypt (wrapper : AeadSetWrapper × Clients) (ciphertext associatedData : Bytes) : Except Status Bytes × Log :=
  accepting wrapper.2.accept (fun entry ciphertext => entry.primitive.decrypt ciphertext associatedData)
    (fun entry ciphertext => entry.primitive.decrypt ciphertext associatedData) ⟨.invalidArgument, "decryption failed"⟩
    (fun entry => some (.log entry.keyId (ciphertext.drop CryptoFormat.nonRawPrefixSize).length))
    (fun entry => some (.log entry.keyId ciphertext.length)) wrapper.1.set ciphertext

def encryptDeterministically (wrapper : DeterministicAeadSetWrapper × Clients) (plaintext associatedData : Bytes) :
    Except Status Bytes × Log :=
  producing wrapper.1 wrapper.2.produce plaintext.length
    (wrapper.1.primary.primitive.encryptDeterministically plaintext associatedData)

def decryptDeterministically (wrapper : DeterministicAeadSetWrapper × Clients) (ciphertext associatedData : Bytes) :
    Except Status Bytes × Log :=
  accepting wrapper.2.accept (fun entry ciphertext => entry.primitive.decryptDeterministically ciphertext associatedData)
    (fun entry ciphertext => entry.primitive.decryptDeterministically ciphertext associatedData)
    ⟨.invalidArgument, "decryption failed"⟩
    (fun entry => some (.log entry.keyId (ciphertext.drop CryptoFormat.nonRawPrefixSize).length))
    (fun entry => some (.log entry.keyId ciphertext.length)) wrapper.1.set ciphertext

/-- The data of a LEGACY key are reported with their last byte. -/
def computeMac (wrapper : MacSetWrapper × Clients) (data : Bytes) : Except Status Bytes × Log :=
  let data := legacyData wrapper.1.primary.outputPrefixType data
  producing wrapper.1 wrapper.2.produce data.length (wrapper.1.primary.primitive.computeMac data)

/-- The data are reported as they are, also for a LEGACY key. -/
def verifyMac (wrapper : MacSetWrapper × Clients) (macValue data : Bytes) : Except Status Unit × Log :=
  accepting wrapper.2.accept
    (fun entry macValue => entry.primitive.verifyMac macValue (legacyData entry.outputPrefixType data))
    (fun entry macValue => entry.primitive.verifyMac macValue data) ⟨.invalidArgument, "verification failed"⟩
    (fun entry => some (.log entry.keyId data.length)) (fun entry => some (.log entry.keyId data.length))
    wrapper.1.set macValue

def sign (wrapper : PublicKeySignSetWrapper × Option Client) (random data : Bytes) : Except Status Bytes × Log :=
  let data := legacyData wrapper.1.primary.outputPrefixType data
  producing wrapper.1 wrapper.2 data.length (wrapper.1.primary.primitive.sign random data)

def verify (wrapper : PublicKeyVerifySetWrapper × Option Client) (signature data : Bytes) : Except Status Unit × Log :=
  -- a signature that is too short is not reported
  if signature.length ≤ CryptoFormat.nonRawPrefixSize then (.error ⟨.invalidArgument, "Signature too short."⟩, [])
  else
    let keyId := signature.take CryptoFormat.nonRawPrefixSize
    let rawSignature := signature.drop CryptoFormat.nonRawPrefixSize
    match firstOkEntry (fun entry => entry.hasPrefix && decide (entry.prefixBytes = keyId))
        (fun entry => entry.primitive.verify rawSignature (legacyData entry.outputPrefixType data)) wrapper.1.entries with
    | some (entry, ()) => (.ok (), report wrapper.2 (.log entry.keyId data.length))
    | none =>
      match firstOkEntry (fun entry => !entry.hasPrefix) (fun entry => entry.primitive.verify signature data)
          wrapper.1.entries with
      | some (entry, ()) => (.ok (), report wrapper.2 (.log entry.keyId data.length))
      | none => (.error ⟨.invalidArgument, "Invalid signature."⟩, report wrapper.2 .logFailure)

section Contexts
variable {K P : Type} {getters : PrimitiveGetters K P} {keyset : Keyset} {set : PrimitiveSet P}
  {walk : PrimitivesMap P → PrimitivesMap P} {factory : Option ClientFactory} {annotations : List (String × String)}

/-- The entry of an ENABLED key. -/
def entryOf (key : KeysetKey) : Entry :=
  ⟨.enabled, key.keyId, stripKeyTypePrefix key.getKeyData.typeUrl, key.outputPrefixType.name⟩

/-- The info is that of the ENABLED keys, in some order. -/
structure Describes (annotations : List (String × String)) (keyset : Keyset) (info : KeySetInfo) : Prop where
  annotations  : info.annotations = annotations
  entries      : info.entries.Perm ((enabledKeys keyset.key).map entryOf)
  primaryKeyId : info.primaryKeyId = keyset.primaryKeyId

/-- The client is the one of the factory for that API of the keyset; without a factory there is none. -/
def ClientFor (factory : Option ClientFactory) (annotations : List (String × String)) (keyset : Keyset)
    (primitive api : String) (client : Option Client) : Prop :=
  match factory with
  | none => client = none
  | some new => ∃ info, Describes annotations keyset info ∧ new ⟨primitive, api, info⟩ = .ok client

theorem keySetInfoEntries_ok : ∀ {entries : List (PrimitiveEntry P)}, (∀ entry ∈ entries, entry.status = .enabled) →
    keySetInfoEntries entries = .ok (entries.map fun entry =>
      ⟨.enabled, entry.keyId, stripKeyTypePrefix entry.keyTypeUrl, entry.outputPrefixType.name⟩)
  | [], _ => rfl
  | entry :: entries, h => by
    have hstatus : fromKeyStatusType entry.status = .ok .enabled := by
      rw [h entry (List.mem_cons_self ..)]
      rfl
    unfold keySetInfoEntries
    rw [hstatus, keySetInfoEntries_ok fun e he => h e (List.mem_cons_of_mem _ he)]
    rfl

/-- The set of a keyset can always be described, if it has a primary entry. -/
theorem info_describes (hwalk : ∀ map, (walk map).Perm map) (annotations : List (String × String))
    (hset : primitiveSetOf getters keyset = .ok set) {primary : PrimitiveEntry P} (hprimary : set.getPrimary = some primary) :
    ∃ info, monitoringKeySetInfoFromPrimitiveSet walk annotations set = .ok info ∧ Describes annotations keyset info := by
  obtain ⟨hentries, -⟩ := primitiveSetOf_entries hset
  obtain ⟨-, calls, -, hbuild⟩ := primitiveSetOf_ok hset
  have hconsistent : set.Consistent walk := (PrimitiveSetBuilder.holds_empty.adds calls).consistent hwalk hbuild
  have hmem : primary ∈ set.getAll walk := hconsistent.getAll.mem_iff.2 (hconsistent.primary primary hprimary)
  have hstatus : ∀ entry ∈ set.getAll walk, entry.status = .enabled := by
    intro entry hentry
    obtain ⟨key, -, hfor⟩ := exists_of_forall₂ hentries.flip entry (hconsistent.getAll.mem_iff.1 hentry)
    exact hfor.status
  have hmap : set.getAllInKeysetOrder.map (fun entry => (⟨.enabled, entry.keyId, stripKeyTypePrefix entry.keyTypeUrl,
      entry.outputPrefixType.name⟩ : Entry)) = (enabledKeys keyset.key).map entryOf := by
    refine List.forall₂_eq_eq_eq ▸ List.forall₂_map_left_iff.2 (List.forall₂_map_right_iff.2 (hentries.flip.imp ?_))
    intro entry key hfor
    unfold entryOf
    rw [hfor.keyId, hfor.keyTypeUrl, hfor.outputPrefixType]
  obtain ⟨key, -, hid, hfor⟩ := exists_primary_key hset hprimary
  unfold monitoringKeySetInfoFromPrimitiveSet
  rw [if_neg (List.ne_nil_of_mem hmem), hprimary, keySetInfoEntries_ok hstatus]
  exact ⟨_, rfl, rfl, (hconsistent.getAll.map _).trans (.of_eq hmap), hfor.keyId.trans hid⟩

theorem wrapBoth_ok (hwalk : ∀ map, (walk map).Perm map) {name primitive produceApi acceptApi : String}
    {wrapper : SetWithPrimary P × Clients}
    (h : keysetWrap getters (wrapBoth walk factory annotations name primitive produceApi acceptApi) keyset = .ok wrapper) :
    keysetWrap getters (validateSet name) keyset = .ok wrapper.1 ∧
      ClientFor factory annotations keyset primitive produceApi wrapper.2.produce ∧
      ClientFor factory annotations keyset primitive acceptApi wrapper.2.accept := by
  obtain ⟨set, hset, hwrap⟩ := keysetWrap_ok h
  unfold wrapBoth at hwrap
  split at hwrap
  · cases hwrap
  · rename_i validated hvalid
    have hplain : keysetWrap getters (validateSet name) keyset = .ok validated := by
      unfold keysetWrap
      rw [hset]
      exact hvalid
    have hprimary : set.getPrimary = some validated.primary := by
      rw [← validateSet_ok hvalid]
      exact validated.isPrimary
    split at hwrap
    · cases hwrap
      exact ⟨hplain, rfl, rfl⟩
    · obtain ⟨info, hinfo, hdescribes⟩ := info_describes hwalk annotations hset hprimary
      rw [hinfo] at hwrap
      dsimp only at hwrap
      split at hwrap
      · cases hwrap
      · rename_i produce hproduce
        split at hwrap
        · cases hwrap
        · rename_i accept haccept
          cases hwrap
          exact ⟨hplain, ⟨info, hdescribes, hproduce⟩, info, hdescribes, haccept⟩

/-- A keyset that is wrapped without monitoring is wrapped with it, unless `New` of the factory fails. -/
theorem wrapBoth_total (hwalk : ∀ map, (walk map).Perm map) {name : String} (primitive produceApi acceptApi : String)
    {wrapper : SetWithPrimary P} (h : keysetWrap getters (validateSet name) keyset = .ok wrapper) :
    (∃ clients, keysetWrap getters (wrapBoth walk factory annotations name primitive produceApi acceptApi) keyset =
      .ok (wrapper, clients)) ∨
    ∃ new context e, factory = some new ∧ new context = .error e ∧
      keysetWrap getters (wrapBoth walk factory annotations name primitive produceApi acceptApi) keyset = .error e := by
  obtain ⟨set, hset, hvalid⟩ := keysetWrap_ok h
  have hprimary : set.getPrimary = some wrapper.primary := by
    rw [← validateSet_ok hvalid]
    exact wrapper.isPrimary
  obtain ⟨info, hinfo, -⟩ := info_describes hwalk annotations hset hprimary
  unfold keysetWrap wrapBoth
  rw [hset]
  dsimp only
  rw [hvalid]
  cases factory with
  | none => exact .inl ⟨_, rfl⟩
  | some new =>
    dsimp only
    rw [hinfo]
    dsimp only
    cases hproduce : new ⟨primitive, produceApi, info⟩ with
    | error e => exact .inr ⟨new, _, e, rfl, hproduce, rfl⟩
    | ok produce =>
      dsimp only
      cases haccept : new ⟨primitive, acceptApi, info⟩ with
      | error e => exact .inr ⟨new, _, e, rfl, haccept, rfl⟩
      | ok accept => exact .inl ⟨_, rfl⟩

end Contexts

/-! ## What is reported -/

section Reports
variable {P R α : Type}

theorem firstOk_eq_map (cond : α → Bool) (attempt : α → Except Status R) :
    ∀ as : List α, firstOk cond attempt as = (firstOkEntry cond attempt as).map (·.2)
  | [] => rfl
  | a :: as => by
    have ih := firstOk_eq_map cond attempt as
    unfold firstOk firstOkEntry
    cases cond a with
    | false => exact ih
    | true =>
      rw [if_pos rfl, if_pos rfl]
      cases attempt a with
      | error e => exact ih
      | ok r => rfl

variable {set : PrimitiveSet P} {attempt : PrimitiveEntry P → Bytes → Except Status R} {input : Bytes}

theorem tryPrefixed_eq_map : tryPrefixed attempt set input = (tryPrefixedEntry attempt set input).map (·.2) := by
  unfold tryPrefixed tryPrefixedEntry
  split
  · cases set.getPrimitives (input.take CryptoFormat.nonRawPrefixSize) with
    | ok entries => exact firstOk_eq_map _ _ entries
    | error e => rfl
  · rfl

theorem tryRaw_eq_map : tryRaw attempt set input = (tryRawEntry attempt set input).map (·.2) := by
  unfold tryRaw tryRawEntry
  cases set.getRawPrimitives with
  | ok entries => exact firstOk_eq_map _ _ entries
  | error e => rfl

/-- Monitoring does not change what is made. -/
theorem producing_fst (wrapper : SetWithPrimary P) (client : Option Client) (numBytes : Nat) (output : Except Status Bytes) :
    (producing wrapper client numBytes output).1 = wrapper.prefixed output := by
  cases output with
  | error e => rfl
  | ok output => rfl

/-- Monitoring does not change what is accepted. -/
theorem accepting_fst (client : Option Client) (attemptRaw : PrimitiveEntry P → Bytes → Except Status R) (failure : Status)
    (prefixedRecord rawRecord : PrimitiveEntry P → Option Record) :
    (accepting client attempt attemptRaw failure prefixedRecord rawRecord set input).1 =
      acceptBySet attempt attemptRaw failure set input := by
  unfold accepting acceptBySet
  rw [tryPrefixed_eq_map, tryRaw_eq_map]
  cases tryPrefixedEntry attempt set input with
  | some found => rfl
  | none =>
    cases tryRawEntry attemptRaw set input with
    | some found => rfl
    | none => rfl

end Reports

section Answers

theorem encrypt_fst (wrapper : AeadSetWrapper × Clients) (random plaintext associatedData : Bytes) :
    (encrypt wrapper random plaintext associatedData).1 = wrapper.1.encrypt random plaintext associatedData :=
  producing_fst _ _ _ _

theorem decrypt_fst (wrapper : AeadSetWrapper × Clients) (ciphertext associatedData : Bytes) :
    (decrypt wrapper ciphertext associatedData).1 = wrapper.1.decrypt ciphertext associatedData :=
  accepting_fst _ _ _ _ _

theorem encryptDeterministically_fst (wrapper : DeterministicAeadSetWrapper × Clients) (plaintext associatedData : Bytes) :
    (encryptDeterministically wrapper plaintext associatedData).1 =
      wrapper.1.encryptDeterministically plaintext associatedData :=
  producing_fst _ _ _ _

theorem decryptDeterministically_fst (wrapper : DeterministicAeadSetWrapper × Clients) (ciphertext associatedData : Bytes) :
    (decryptDeterministically wrapper ciphertext associatedData).1 =
      wrapper.1.decryptDeterministically ciphertext associatedData :=
  accepting_fst _ _ _ _ _

theorem computeMac_fst (wrapper : MacSetWrapper × Clients) (data : Bytes) :
    (computeMac wrapper data).1 = wrapper.1.computeMac data :=
  producing_fst _ _ _ _

theorem verifyMac_fst (wrapper : MacSetWrapper × Clients) (macValue data : Bytes) :
    (verifyMac wrapper macValue data).1 = wrapper.1.verifyMac macValue data :=
  accepting_fst _ _ _ _ _

end Answers

section Keys
variable {K P R : Type} {getters : PrimitiveGetters K P} {keyset : Keyset}

/-- **A call that accepts something reports an ENABLED key that accepts it, or a failure**, and does what it does without
monitoring.  The record depends on the key and its identifier. -/
def Accepted (getters : PrimitiveGetters K P) (attempt : OutputPrefixType → P → Bytes → Except Status R) (keyset : Keyset)
    (client : Option Client) (record : KeysetKey → Bytes → Option Record) (input : Bytes) (plain : Except Status R)
    (reported : Except Status R × Log) : Prop :=
  reported.1 = plain ∧
    ((∃ r key identifier, plain = .ok r ∧ key ∈ enabledKeys keyset.key ∧
        identifierOf (keyInfoFromKey key) = .ok identifier ∧ KeyAccepts getters attempt key input r ∧
        reported.2 = (record key identifier).elim [] (report client)) ∨
      (∃ e, plain = .error e) ∧ reported.2 = report client .logFailure)

end Keys

end Monitoring

/-! ## Hybrid decryption -/

def hybridAttempt (contextInfo : Bytes) (_ : OutputPrefixType) (primitive : HybridDecrypt) (ciphertext : Bytes) :
    Except Status Bytes := primitive.decrypt ciphertext contextInfo

theorem HybridDecryptSetWrapper.decrypt_decides (wrapper : HybridDecryptSetWrapper) (h : WellFiled wrapper.set)
    (ciphertext contextInfo : Bytes) :
    Decides (hybridAttempt contextInfo) wrapper.set.getAllInKeysetOrder True ciphertext
      (wrapper.decrypt ciphertext contextInfo) :=
  acceptBySet_decides h _ (fun _ _ => rfl) ciphertext

def HybridCorrect (p : HybridEncrypt) (q : HybridDecrypt) : Prop :=
  ∀ random plaintext contextInfo ciphertext, p.encrypt random plaintext contextInfo = .ok ciphertext →
    ciphertext ≠ [] ∧ q.decrypt ciphertext contextInfo = .ok plaintext

/-! ## Keysets, with monitoring -/

namespace Monitoring

section Keysets
variable {K : Type} {walk : ∀ {P : Type}, PrimitivesMap P → PrimitivesMap P} {factory : Option ClientFactory}
  {annotations : List (String × String)} {keyset : Keyset}

end Keysets

/-- A factory whose clients are numbered by the lengths of their API's names. -/
def lengthFactory : ClientFactory := fun context => .ok (some context.apiFunction.length)

end Monitoring

end Tink
