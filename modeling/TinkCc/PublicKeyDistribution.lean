import TinkCc.MonitoredWrappers
import TinkCc.PublicKeysetShape
/-!
# PublicKeyDistribution — a keyset of private keys here, its public keys elsewhere

`GetPublicKeysetHandle`, `WriteNoSecret`, `ReadNoSecret` and the wrappers of both sides.  The public keys are written in the
clear and read by somebody else; signatures go one way and hybrid ciphertexts the other.
-/
namespace Tink

/-! ## Keys with one prefix -/

/-- **A primary key of one keyset, and an ENABLED key of another with the same id and prefix.** -/
structure Counterpart (keyset₁ keyset₂ : Keyset) (key₁ key₂ : KeysetKey) : Prop where
  distinct₂  : keyset₂.ids.Nodup
  enabled₁   : key₁ ∈ enabledKeys keyset₁.key
  primary    : key₁.keyId = keyset₁.primaryKeyId
  enabled₂   : key₂ ∈ enabledKeys keyset₂.key
  keyId      : key₂.keyId = key₁.keyId
  identifier : identifierOf (keyInfoFromKey key₂) = identifierOf (keyInfoFromKey key₁)

section Counterparts
variable {K K' P P' R : Type} {keyset₁ keyset₂ : Keyset} {key₁ key₂ : KeysetKey}

/-- What the primary key made, the other key accepts. -/
theorem Counterpart.accepts (h : Counterpart keyset₁ keyset₂ key₁ key₂) {getters₁ : PrimitiveGetters K P}
    {getters₂ : PrimitiveGetters K' P'} {attempt : OutputPrefixType → P' → Bytes → Except Status R}
    {wrapper : SetWithPrimary P} {set : PrimitiveSet P'} (hset : primitiveSetOf getters₁ keyset₁ = .ok wrapper.set)
    (hset₂ : primitiveSetOf getters₂ keyset₂ = .ok set) {made : Except Status Bytes} {output : Bytes}
    (hmade : wrapper.prefixed made = .ok output) {r : R}
    (hattempt : ∀ q out, primitiveForKey getters₂ key₂ = .ok (some q) → made = .ok out →
      out ≠ [] ∧ attempt key₂.outputPrefixType q out = .ok r) :
    KeyAccepts getters₂ attempt key₂ output r := by
  have hprimary := primary_entry hset h.enabled₁ h.primary wrapper.isPrimary
  obtain ⟨entry, -, hentry⟩ := exists_of_forall₂ (primitiveSetOf_entries hset₂).1 key₂ h.enabled₂
  unfold SetWithPrimary.prefixed at hmade
  cases made with
  | error e => cases hmade
  | ok out =>
    cases hmade
    obtain ⟨hne, hok⟩ := hattempt entry.primitive out hentry.primitive rfl
    have hid : identifierOf (keyInfoFromKey key₂) = .ok wrapper.primary.identifier := by
      rw [h.identifier, hprimary.identifier]
    refine ⟨entry.primitive, hentry.primitive, ?_⟩
    by_cases hnil : wrapper.primary.identifier = []
    · refine .inl ⟨(identifierOf_eq_nil hid).1 hnil, ?_⟩
      rw [hnil]
      exact hok
    · exact .inr ⟨_, out, hid, identifierOf_size hid hnil, hne, rfl, hok⟩

theorem Counterpart.decrypts (h : Counterpart keyset₁ keyset₂ key₁ key₂) {g₁ : PrimitiveGetters K HybridEncrypt}
    {g₂ : PrimitiveGetters K' HybridDecrypt} {w₁ : HybridEncryptSetWrapper} {w₂ : HybridDecryptSetWrapper}
    (h₁ : keysetWrap g₁ hybridEncryptWrap keyset₁ = .ok w₁) (h₂ : keysetWrap g₂ hybridDecryptWrap keyset₂ = .ok w₂)
    (hmatch : KeysMatch g₁ g₂ key₁ key₂ HybridCorrect) {random plaintext contextInfo output : Bytes}
    (hout : w₁.encrypt random plaintext contextInfo = .ok output)
    (hothers : OthersReject g₂ (hybridAttempt contextInfo) keyset₂ key₂.keyId output) :
    w₂.decrypt output contextInfo = .ok plaintext := by
  have hset₂ := keysetWrap_set h₂
  have hprimary := primary_entry (keysetWrap_set h₁) h.enabled₁ h.primary w₁.isPrimary
  have haccepts : KeyAccepts g₂ (hybridAttempt contextInfo) key₂ output plaintext :=
    h.accepts (keysetWrap_set h₁) hset₂ hout (fun q out hq hmade => hmatch _ q hprimary.primitive hq _ _ _ _ hmade)
  exact ((w₂.decrypt_decides (primitiveSetOf_wellFiled hset₂) output contextInfo).keys hset₂).complete trivial
    h.distinct₂ h.enabled₂ haccepts hothers

/-- The two keys also have to be LEGACY together. -/
theorem Counterpart.verifies (h : Counterpart keyset₁ keyset₂ key₁ key₂)
    (hlegacy : key₂.outputPrefixType = .legacy ↔ key₁.outputPrefixType = .legacy) {g₁ : PrimitiveGetters K PublicKeySign}
    {g₂ : PrimitiveGetters K' PublicKeyVerify} {w₁ : PublicKeySignSetWrapper} {w₂ : PublicKeyVerifySetWrapper}
    (h₁ : keysetWrap g₁ publicKeySignWrap keyset₁ = .ok w₁) (h₂ : keysetWrap g₂ publicKeyVerifyWrap keyset₂ = .ok w₂)
    (hmatch : KeysMatch g₁ g₂ key₁ key₂ (SignCorrect key₁.outputPrefixType)) {random data output : Bytes}
    (hout : w₁.sign random data = .ok output)
    (hothers : OthersReject g₂ (verifyAttempt data) keyset₂ key₂.keyId output) : w₂.verify output data = .ok () := by
  obtain ⟨set₂, hset₂, rfl⟩ := keysetWrap_verify h₂
  have hprimary := primary_entry (keysetWrap_set h₁) h.enabled₁ h.primary w₁.isPrimary
  have hdata : legacyData key₂.outputPrefixType data = legacyData key₁.outputPrefixType data := by
    unfold legacyData
    by_cases hkey : key₁.outputPrefixType = .legacy
    · rw [if_pos (hlegacy.2 hkey), if_pos hkey]
    · rw [if_neg fun hkey₂ => hkey (hlegacy.1 hkey₂), if_neg hkey]
  have haccepts : KeyAccepts g₂ (verifyAttempt data) key₂ output () := by
    refine h.accepts (keysetWrap_set h₁) hset₂ hout (fun q out hq hmade => ?_)
    unfold verifyAttempt
    rw [hdata, ← hprimary.outputPrefixType]
    obtain ⟨hne, -, hok⟩ := hmatch _ q hprimary.primitive hq _ _ _ hmade
    exact ⟨hne, hok⟩
  have hlong : CryptoFormat.nonRawPrefixSize < output.length := by
    obtain ⟨q, hq, -⟩ := haccepts
    unfold PublicKeySignSetWrapper.sign SetWithPrimary.prefixed at hout
    cases hmade : w₁.primary.primitive.sign random (legacyData w₁.primary.outputPrefixType data) with
    | error e =>
      rw [hmade] at hout
      cases hout
    | ok signature =>
      rw [hmade] at hout
      cases hout
      obtain ⟨hne, hraw, -⟩ := hmatch _ q hprimary.primitive hq _ _ _ hmade
      rw [List.length_append]
      by_cases hnil : w₁.primary.identifier = []
      · have := hraw ((identifierOf_eq_nil hprimary.identifier).1 hnil)
        omega
      · have := List.length_pos_iff.2 hne
        rw [identifierOf_size hprimary.identifier hnil]
        omega
  exact ((PublicKeyVerifySetWrapper.verify_decides (primitiveSetOf_wellFiled hset₂) output data).keys hset₂).complete hlong
    h.distinct₂ h.enabled₂ haccepts hothers

end Counterparts

/-! ## Handles of public keys -/

section Handles
variable {ι : Type} {classes : ι → KeyPairClass} {parseKey : ProtoKeySerialization → Except Status (KeyObject classes)}
  {handle result : KeysetHandle (KeyObject classes)}

theorem KeepsShape.ids (h : KeepsShape parseKey handle result) : result.keyset.ids = handle.keyset.ids := by
  unfold Keyset.ids
  refine List.ext_getElem? fun index => ?_
  rw [List.getElem?_map, List.getElem?_map]
  by_cases hindex : index < handle.keyset.key.length
  · obtain ⟨key, entry, publicKey, publicEntry, hkey, -, hpublic, -, hshape⟩ := h.sameShape index hindex
    rw [hkey, hpublic, Option.map_some, Option.map_some, hshape.keyId]
  · rw [List.getElem?_eq_none (Nat.le_of_not_lt hindex), List.getElem?_eq_none (by rw [h.length]; omega)]

/-- **A handle of public keys can be written and read again**, in the clear, and is the same. -/
theorem KeepsShape.writeNoSecret_readNoSecret (h : KeepsShape parseKey handle result) :
    result.writeNoSecret = .ok result.keyset ∧ readNoSecret parseKey result.keyset = .ok result := by
  unfold KeysetHandle.writeNoSecret readNoSecret
  rw [h.noSecret, h.parsed]
  exact ⟨rfl, rfl⟩

/-- The primary key of the private keyset, and its public key. -/
theorem KeepsShape.counterpart (h : KeepsShape parseKey handle result) (hdistinct : handle.keyset.ids.Nodup) {key : KeysetKey}
    (hkey : key ∈ enabledKeys handle.keyset.key) (hprimary : key.keyId = handle.keyset.primaryKeyId) :
    ∃ index entry publicKey, handle.keyset.key[index]? = some key ∧ handle.entryAt parseKey index = some entry ∧
      result.keyset.key[index]? = some publicKey ∧
      (entry.key.IsSignatureKey → (publicKey.outputPrefixType = .legacy ↔ key.outputPrefixType = .legacy)) ∧
      Counterpart handle.keyset result.keyset key publicKey ∧ Counterpart result.keyset handle.keyset publicKey key := by
  obtain ⟨hmem, henabled⟩ := List.mem_filter.1 hkey
  obtain ⟨index, hindex, hget⟩ := List.mem_iff_getElem.1 hmem
  obtain ⟨key', entry, publicKey, publicEntry, hkey', hentry, hpublic, -, hshape⟩ := h.sameShape index hindex
  rw [List.getElem?_eq_getElem hindex, hget] at hkey'
  cases hkey'
  have hpublicEnabled : publicKey ∈ enabledKeys result.keyset.key := by
    refine List.mem_filter.2 ⟨List.mem_of_getElem? hpublic, ?_⟩
    unfold KeysetKey.isEnabled at henabled ⊢
    rw [hshape.keyStatus]
    exact henabled
  refine ⟨index, entry, publicKey, ?_, hentry, hpublic, hshape.legacy_iff, ?_, ?_⟩
  · rw [List.getElem?_eq_getElem hindex, hget]
  · exact ⟨by rw [h.ids]; exact hdistinct, hkey, hprimary, hpublicEnabled, hshape.keyId, hshape.identifier⟩
  · exact ⟨hdistinct, hpublicEnabled, by rw [hshape.keyId, h.primaryKeyId, hprimary], hkey, hshape.keyId.symm,
      hshape.identifier.symm⟩

/-- The primary key of the public keyset is that of the private one. -/
theorem KeepsShape.exists_primary (h : KeepsShape parseKey handle result) {publicKey : KeysetKey}
    (hkey : publicKey ∈ enabledKeys result.keyset.key) (hprimary : publicKey.keyId = result.keyset.primaryKeyId) :
    ∃ key ∈ enabledKeys handle.keyset.key, key.keyId = handle.keyset.primaryKeyId := by
  obtain ⟨hmem, henabled⟩ := List.mem_filter.1 hkey
  obtain ⟨index, hindex, hget⟩ := List.mem_iff_getElem.1 hmem
  obtain ⟨key, entry, publicKey', publicEntry, hkey, -, hpublic, -, hshape⟩ := h.sameShape index (h.length ▸ hindex)
  rw [List.getElem?_eq_getElem hindex, hget] at hpublic
  cases hpublic
  refine ⟨key, List.mem_filter.2 ⟨List.mem_of_getElem? hkey, ?_⟩, ?_⟩
  · unfold KeysetKey.isEnabled at henabled ⊢
    rw [← hshape.keyStatus]
    exact henabled
  · rw [← hshape.keyId, hprimary, h.primaryKeyId]

end Handles

/-- The public keys belong to the private ones, where the private key is the primary key. -/
def PrimaryMatch {ι K K' P Q : Type} {classes : ι → KeyPairClass} (handle result : KeysetHandle (KeyObject classes))
    (g₁ : PrimitiveGetters K P) (g₂ : PrimitiveGetters K' Q) (correct : KeysetKey → P → Q → Prop) : Prop :=
  ∀ (index : Nat) (key publicKey : KeysetKey), handle.keyset.key[index]? = some key →
    key.keyId = handle.keyset.primaryKeyId → result.keyset.key[index]? = some publicKey →
    KeysMatch g₁ g₂ key publicKey (correct key)

/-- **Public keys work away from home.**  The handle that `GetPublicKeysetHandle` makes can be written in the clear, and is
the same when it is read; the wrapper of its keys verifies what the private keyset signs, and the private keyset decrypts
what the public one encrypts, unless another key takes it for its own. -/
theorem publicKeyDistribution {ι : Type} [DecidableEq ι] {classes : ι → KeyPairClass} (registry : SerializationRegistry ι)
    (config : PublicKeyConfiguration) (handle result : KeysetHandle (KeyObject classes)) (hread : handle.IsRead)
    (hround : ∀ {index : Nat} {entry : HandleEntry (KeyObject classes)} {key : (c : ι) × (classes c).Public},
      handle.entryAt (registry.parseKeyWithLegacyFallback classes) index = some entry →
        entry.key.getPublicKey = some key → registry.RoundTrips key)
    (hconfig : config.ReturnsPublicKeys) (h : handle.getPublicKeysetHandle registry config = some (.ok result)) :
    result.writeNoSecret = .ok result.keyset ∧
    readNoSecret (registry.parseKeyWithLegacyFallback classes) result.keyset = .ok result ∧
    (∀ {K K' : Type} (g₁ : PrimitiveGetters K PublicKeySign) (g₂ : PrimitiveGetters K' PublicKeyVerify) w₁ w₂,
      handle.keyset.ids.Nodup →
      (∀ index entry, handle.entryAt (registry.parseKeyWithLegacyFallback classes) index = some entry →
        entry.key.IsSignatureKey) →
      keysetWrap g₁ publicKeySignWrap handle.keyset = .ok w₁ →
      keysetWrap g₂ publicKeyVerifyWrap result.keyset = .ok w₂ →
      PrimaryMatch handle result g₁ g₂ (fun key => SignCorrect key.outputPrefixType) →
      ∀ random data signature, w₁.sign random data = .ok signature →
        OthersReject g₂ (verifyAttempt data) result.keyset result.keyset.primaryKeyId signature →
        w₂.verify signature data = .ok ()) ∧
    ∀ {K K' : Type} (g₁ : PrimitiveGetters K HybridEncrypt) (g₂ : PrimitiveGetters K' HybridDecrypt) w₁ w₂,
      handle.keyset.ids.Nodup →
      keysetWrap g₁ hybridEncryptWrap result.keyset = .ok w₁ →
      keysetWrap g₂ hybridDecryptWrap handle.keyset = .ok w₂ →
      PrimaryMatch handle result g₂ g₁ (fun _ q p => HybridCorrect p q) →
      ∀ random plaintext contextInfo ciphertext, w₁.encrypt random plaintext contextInfo = .ok ciphertext →
        OthersReject g₂ (hybridAttempt contextInfo) handle.keyset handle.keyset.primaryKeyId ciphertext →
        w₂.decrypt ciphertext contextInfo = .ok plaintext := by
  have hshape := getPublicKeysetHandle_keepsShape hread hround hconfig h
  obtain ⟨hwrite, hreadBack⟩ := hshape.writeNoSecret_readNoSecret
  refine ⟨hwrite, hreadBack, fun g₁ g₂ w₁ w₂ hdistinct hsignature h₁ h₂ hmatch => ?_,
    fun g₁ g₂ w₁ w₂ hdistinct h₁ h₂ hmatch => ?_⟩
  · intro random data signature hsign hothers
    obtain ⟨key, hkey, hprimary, -⟩ := exists_primary_key (keysetWrap_set h₁) w₁.isPrimary
    obtain ⟨index, entry, publicKey, hget, hentry, hpublic, hlegacy, hcounterpart, -⟩ :=
      hshape.counterpart hdistinct hkey hprimary
    refine hcounterpart.verifies (hlegacy (hsignature index entry hentry)) h₁ h₂
      (hmatch index key publicKey hget hprimary hpublic) hsign ?_
    rw [hcounterpart.keyId, hprimary, ← hshape.primaryKeyId]
    exact hothers
  · intro random plaintext contextInfo ciphertext hencrypt hothers
    obtain ⟨publicKey, hpublicKey, hpublicPrimary, -⟩ := exists_primary_key (keysetWrap_set h₁) w₁.isPrimary
    obtain ⟨key, hkey, hprimary⟩ := hshape.exists_primary hpublicKey hpublicPrimary
    obtain ⟨index, entry, publicKey', hget, -, hpublic, -, -, hcounterpart⟩ := hshape.counterpart hdistinct hkey hprimary
    refine hcounterpart.decrypts h₁ h₂ (fun p q hp hq => ?_) hencrypt ?_
    · exact hmatch index key publicKey' hget hprimary hpublic q p hq hp
    · rw [hprimary]
      exact hothers

section Example
open EcKeyPair

/-- A signature is the public key and the data. -/
def plainSigners : PrimitiveGetters Unit PublicKeySign where
  parseKey _ := .error ⟨.notFound, ""⟩
  primitiveGetter keyData := .ok (some ⟨fun _ data => .ok (keyData.value.drop 1 ++ data)⟩)
  primitiveGetterFromKey _ := .error ⟨.notFound, ""⟩

def plainVerifiers : PrimitiveGetters Unit PublicKeyVerify where
  parseKey _ := .error ⟨.notFound, ""⟩
  primitiveGetter keyData := .ok (some ⟨fun signature data =>
    if signature = keyData.value ++ data then .ok () else .error ⟨.invalidArgument, "Invalid signature."⟩⟩)
  primitiveGetterFromKey _ := .error ⟨.notFound, ""⟩

/-- The primary key is of a type that only managers know; its public key is made by one. -/
theorem publicKeyDistribution_generator : ∃ stored s w₁ w₂,
    (generatorHandle stored).getPublicKeysetHandle registry otherConfiguration = some (.ok (generatorPublicHandle s)) ∧
      keysetWrap plainSigners publicKeySignWrap (generatorHandle stored).keyset = .ok w₁ ∧
      keysetWrap plainVerifiers publicKeyVerifyWrap (generatorPublicHandle s).keyset = .ok w₂ ∧
      PublicKeyVerifySetWrapper.verify w₂ [1, 0, 0, 0, 7, 2, 3, 9] [9] = .ok () := by
  have hround := legacyGeneratorKey_created.roundTrips_iff.2 not_false
  obtain ⟨stored, _, hserialize, -, -, hparse⟩ := hround .insecure
  obtain ⟨s, hresult⟩ := generatorHandle_publicKeys stored
  obtain ⟨w₁, h₁, hsign⟩ : ∃ w₁, keysetWrap plainSigners publicKeySignWrap (generatorHandle stored).keyset = .ok w₁ ∧
      PublicKeySignSetWrapper.sign w₁ [] [9] = .ok [1, 0, 0, 0, 7, 2, 3, 9] := ⟨_, rfl, rfl⟩
  obtain ⟨w₂, h₂⟩ : ∃ w₂, keysetWrap plainVerifiers publicKeyVerifyWrap (generatorPublicHandle s).keyset = .ok w₂ :=
    ⟨_, rfl⟩
  have hsignature : ∀ index entry, (generatorHandle stored).entryAt
      (registry.parseKeyWithLegacyFallback (classes generatorTypes)) index = some entry → entry.key.IsSignatureKey := by
    intro index entry hentry
    rcases index with _ | _ | index
    · cases hentry
      exact rfl
    · cases hentry
      exact trivial
    · cases hentry
  have hmatch : PrimaryMatch (generatorHandle stored) (generatorPublicHandle s) plainSigners plainVerifiers
      (fun key => SignCorrect key.outputPrefixType) := by
    intro index key publicKey hkey hprimary hpublic p q hp hq
    rcases index with _ | _ | index
    · cases hkey
      cases hprimary
    · cases hkey
      cases hpublic
      cases hp
      cases hq
      intro random data signature hmade
      cases hmade
      refine ⟨List.cons_ne_nil 2 (3 :: data), fun hraw => ?_, if_pos rfl⟩
      rcases hraw with hraw | hraw
      · cases hraw
      · cases hraw
    · cases hkey
  have hothers : OthersReject plainVerifiers (verifyAttempt [9]) (generatorPublicHandle s).keyset 7
      [1, 0, 0, 0, 7, 2, 3, 9] := by
    intro key hkey hne
    have hkeys : enabledKeys (generatorPublicHandle s).keyset.key = [toKeysetKey 7 .enabled otherPublicSerialization] := rfl
    rw [hkeys, List.mem_singleton] at hkey
    rw [hkey] at hne
    exact absurd rfl hne
  have hdistinct : (generatorHandle stored).keyset.ids.Nodup := by
    have hids : (generatorHandle stored).keyset.ids = [0xFFFFFFFF, 7] := rfl
    rw [hids]
    decide
  have hall := publicKeyDistribution registry otherConfiguration (generatorHandle stored) (generatorPublicHandle s)
    (isRead_of_entries (generatorHandle_read hserialize hparse)) generatorHandle_roundTrips (fun hfactory hdata => by
      cases hfactory
      cases hdata
      rfl) hresult
  exact ⟨stored, s, w₁, w₂, hresult, h₁, h₂,
    hall.2.2.1 plainSigners plainVerifiers w₁ w₂ hdistinct hsignature h₁ h₂ hmatch _ _ _ hsign hothers⟩

end Example

end Tink
