import TinkCc.KeyDerivers
/-!
# PrfBasedDeriver — the two ways to a derived key agree

A key manager and the deriver of the parameters map read the same bytes and make the same key of them (`Agrees`), for each
of the five types.  So the key does not depend on what is registered, and the second attempt on a stream fails when the
first one took bytes from it.
-/
namespace Tink

/-! ## Inversions -/

theorem validateVersion_zero {version : UInt32} (h : validateVersion version 0 = .ok ()) : version = 0 := by
  unfold validateVersion at h
  split at h
  · cases h
  · rename_i hle
    have : ¬ (0 : UInt32) < version := hle
    rw [UInt32.lt_iff_toNat_lt] at this
    exact UInt32.toNat_inj.1 (by simpa using this)

section Read
variable {σ : Type} [InputStream σ] {S : Bytes} {At : σ → Cursor → Prop} {Failed : σ → Prop} {s s' : σ}

theorem readPseudorandomness_ok {numBytes : Int} {bytes : Bytes} (h : readPseudorandomness numBytes s = (.ok bytes, s')) :
    readSecretBytesFromStream numBytes s = (.ok bytes, s') := by
  unfold readPseudorandomness at h
  split at h
  · split at h <;> cases h
  · rename_i heq
    rw [heq]
    exact h

theorem readPseudorandomness_error {numBytes : Int} {e : Status} (h : readPseudorandomness numBytes s = (.error e, s')) :
    ∃ e', readSecretBytesFromStream numBytes s = (.error e', s') := by
  unfold readPseudorandomness at h
  split at h
  · rename_i e' s₁ heq
    refine ⟨e', ?_⟩
    rw [heq]
    split at h
    · cases h
      rfl
    · cases h
      rfl
  · cases h

/-- What is read from the start of a stream is its leading bytes. -/
theorem readSecretBytesFromStream_start (hr : PrfStream S At Failed) {numBytes : Int} {last : Nat} {bytes : Bytes}
    (hs : At s ⟨0, last⟩) (h : readSecretBytesFromStream numBytes s = (.ok bytes, s')) :
    bytes = S.take bytes.length ∧ bytes.length ≤ S.length ∧ bytes.length = numBytes.toNat := by
  obtain ⟨hbytes, hlen, -⟩ := readSecretBytesFromStream_ok hr hs h
  rw [List.drop_zero] at hbytes hlen
  have hn : bytes.length = numBytes.toNat := by
    rw [hbytes, List.length_take]
    omega
  exact ⟨by rw [hn]; exact hbytes, by omega, hn⟩

end Read

/-! ## What the builder does with one key -/

section Build
variable {σ Format KeyProto Params Key : Type} {formatNamed : Format → Prop} {keyNamed : KeyProto → Prop}
  {type : DerivableType σ Format KeyProto Params Key formatNamed keyNamed}

theorem writeKey_ok {key : Key} {serialization : ProtoKeySerialization} (h : type.writeKey key = .ok serialization) :
    ∃ proto, type.serializeKey key = .ok proto ∧ serialization.typeUrl = type.typeUrl ∧
      serialization.serializedKey = type.codec.serializeKeyTP proto ∧ serialization.keyMaterialType = type.keyMaterialType := by
  obtain ⟨proto, hproto, h⟩ := bind_eq_ok h
  obtain ⟨hurl, hvalue, hmaterial, -⟩ := ProtoKeySerialization.create_ok h
  exact ⟨proto, hproto, hurl, hvalue, hmaterial⟩

/-- A keyset that was built has the one key that the builder was given. -/
theorem buildKeyset_ok {draws : List UInt32} {key : Key} {keyset : Keyset}
    (h : buildKeyset type draws key = some (.ok keyset)) :
    ∃ proto id prefixType, type.serializeKey key = .ok proto ∧ keyset.key =
      [⟨some ⟨type.typeUrl, type.codec.serializeKeyTP proto, type.keyMaterialType⟩, .enabled, id, prefixType⟩] := by
  unfold buildKeyset at h
  simp only [Option.bind_eq_bind, Option.bind_eq_some_iff, Option.pure_def, Option.some.injEq] at h
  obtain ⟨builder, hadd, ⟨r, builder'⟩, hbuild, hr⟩ := h
  obtain ⟨handle, rfl, rfl⟩ := map_eq_ok hr
  have hcreated := buildEntries_created (build_ok hbuild)
  have hbuilder : builder.entries =
      [{ BuilderEntry.createFromKey type.keyClasses key .enabled true with addedToBuilder := true }] := by
    unfold KeysetHandleBuilder.addEntry at hadd
    split at hadd
    · cases hadd
    · cases hadd
      dsimp only
      split <;> rfl
  rw [hbuilder] at hcreated
  obtain ⟨keysetKey, rest, ⟨index, hkey⟩, hrest, hkeys⟩ := List.forall₂_cons_left_iff.1 hcreated
  have hnil := List.forall₂_nil_left_iff.1 hrest
  subst hnil
  have hsource : (BuilderEntry.createFromKey type.keyClasses key .enabled true).source = .key key :=
    BuilderEntry.setAttributes_source ..
  obtain ⟨-, status, serialization, hstatus, hs, -, heq⟩ :=
    (createKeysetKey_key type.keyClasses noKeyCreation hsource).1 hkey
  obtain ⟨proto, hproto, hurl, hvalue, hmaterial⟩ := writeKey_ok hs
  refine ⟨proto, keysetKey.keyId, serialization.outputPrefixType, hproto, ?_⟩
  rw [BuilderEntry.createFromKey, BuilderEntry.setAttributes_status] at hstatus
  cases hstatus
  rw [hkeys, heq, toKeysetKey, hurl, hvalue, hmaterial]

end Build

/-! ## What the two ways have in common -/

section Agree
variable {σ : Type} {Format KeyProto Params Key : Type} {formatNamed : Format → Prop} {keyNamed : KeyProto → Prop}
  (type : DerivableType σ Format KeyProto Params Key formatNamed keyNamed)

/-- The key material is built from leading bytes of the stream, at least 16 of them. -/
def FromStart (S : Bytes) (built : KeyProto → Bytes → Prop) (key : KeyProto) : Prop :=
  ∃ n, 16 ≤ n ∧ n ≤ S.length ∧ built key (S.take n)

/-- The key manager makes `key` of the stream. -/
structure ManagerMakes (s : σ) (format : Format) (key : KeyProto) : Prop where
  formatValid : type.manager.validateKeyFormat format = .ok ()
  derived     : ∃ s', type.manager.deriveKey format s = (.ok key, s')
  keyValid    : type.manager.validateKey key = .ok ()

/-- The deriver of the parameters makes a key of the stream, and `proto` is what it is serialized as. -/
structure MapMakes (s : σ) (format : Format) (proto : KeyProto) : Prop where
  derived : ∃ params key s', type.parseParameters format .raw = .ok params ∧ type.deriveKey params s = (.ok key, s') ∧
    type.serializeKey key = .ok proto

/-- The key manager fails on the stream, after the format was accepted. -/
def ManagerFails (s s' : σ) (format : Format) : Prop :=
  (∃ e, type.manager.deriveKey format s = (.error e, s')) ∨
    ∃ key e, type.manager.deriveKey format s = (.ok key, s') ∧ type.manager.validateKey key = .error e

variable {type} in
/-- Where every key that is derived is valid, it is the derivation that fails. -/
theorem ManagerFails.deriveKey_error {s s' : σ} {format : Format} (h : ManagerFails type s s' format)
    (hvalid : ∀ key, type.manager.deriveKey format s = (.ok key, s') → type.manager.validateKey key = .ok ()) :
    ∃ e, type.manager.deriveKey format s = (.error e, s') := by
  rcases h with herror | ⟨key, e, hderive, hinvalid⟩
  · exact herror
  · rw [hvalid key hderive] at hinvalid
    cases hinvalid

/-- **A key manager and the deriver of the parameters agree**, on a stream at its start: both build the key from leading
bytes, the keys read the same, and where the manager fails and has taken bytes the deriver fails too. -/
structure Agrees (S : Bytes) (built : KeyProto → Bytes → Prop) (Start : σ → Prop) : Prop where
  typeUrl         : type.manager.keyType = type.typeUrl
  keyMaterialType : type.manager.keyMaterialType = type.keyMaterialType
  named           : ∀ {format}, type.manager.validateKeyFormat format = .ok () → formatNamed format
  manager         : ∀ {s format key}, Start s → ManagerMakes type s format key → keyNamed key ∧ FromStart S built key
  map             : ∀ {s format proto}, Start s → MapMakes type s format proto → keyNamed proto ∧ FromStart S built proto
  same            : ∀ {s format key proto}, Start s → ManagerMakes type s format key → MapMakes type s format proto →
    type.parseKey key = type.parseKey proto
  retry           : ∀ {s s' format proto}, Start s → type.manager.validateKeyFormat format = .ok () →
    ManagerFails type s s' format → MapMakes type s' format proto → s' = s

end Agree

section Attempts
variable {σ : Type} {Format KeyProto Params Key : Type} {formatNamed : Format → Prop}
  {keyNamed : KeyProto → Prop} {type : DerivableType σ Format KeyProto Params Key formatNamed keyNamed}
  {registration : TypeRegistration} {draws : List UInt32} {value : Bytes} {s s' : σ} {keyset : Keyset}

theorem createDeriverFunctionFor_ok {keyData : KeyData}
    (h : createDeriverFunctionFor type.manager type.codec value s = (.ok keyData, s')) :
    ∃ format unknownFields key, type.codec.parseFormat value = some (format, unknownFields) ∧
      ManagerMakes type s format key ∧
      keyData = ⟨type.manager.keyType, type.codec.serializeKey key unknownFields, type.manager.keyMaterialType⟩ := by
  unfold createDeriverFunctionFor at h
  split at h
  · cases h
  · rename_i format unknownFields hparse
    split at h
    · cases h
    · rename_i hformat
      split at h
      · cases h
      · rename_i key s₁ hderive
        split at h
        · cases h
        · rename_i hkey
          cases h
          exact ⟨format, unknownFields, key, hparse, ⟨hformat, ⟨_, hderive⟩, hkey⟩, rfl⟩

theorem createDeriverFunctionFor_error {e : Status}
    (h : createDeriverFunctionFor type.manager type.codec value s = (.error e, s')) :
    s' = s ∨ ∃ format unknownFields, type.codec.parseFormat value = some (format, unknownFields) ∧
      type.manager.validateKeyFormat format = .ok () ∧ ManagerFails type s s' format := by
  unfold createDeriverFunctionFor at h
  split at h
  · cases h
    exact .inl rfl
  · rename_i format unknownFields hparse
    split at h
    · cases h
      exact .inl rfl
    · rename_i hformat
      split at h
      · rename_i e' s₁ hderive
        cases h
        exact .inr ⟨format, unknownFields, hparse, hformat, .inl ⟨e, hderive⟩⟩
      · rename_i key s₁ hderive
        split at h
        · rename_i e' hkey
          cases h
          exact .inr ⟨format, unknownFields, hparse, hformat, .inr ⟨key, e, hderive, hkey⟩⟩
        · cases h

theorem deriveWithGlobalRegistry_ok (h : deriveWithGlobalRegistry type registration value s = (.ok keyset, s')) :
    ∃ format unknownFields key id prefixType status, type.codec.parseFormat value = some (format, unknownFields) ∧
      ManagerMakes type s format key ∧ keyset.key =
        [⟨some ⟨type.manager.keyType, type.codec.serializeKey key unknownFields, type.manager.keyMaterialType⟩,
          status, id, prefixType⟩] := by
  unfold deriveWithGlobalRegistry registryDeriveKey at h
  split at h
  · cases h
  · rename_i keyData s₁ hregistry
    cases h
    split at hregistry
    · cases hregistry
    · cases hregistry
    · obtain ⟨format, unknownFields, key, hparse, hmakes, rfl⟩ := createDeriverFunctionFor_ok hregistry
      exact ⟨format, unknownFields, key, 0, .unknownPrefix, .unknownStatus, hparse, hmakes, rfl⟩

theorem deriveWithGlobalRegistry_error {e : Status}
    (h : deriveWithGlobalRegistry type registration value s = (.error e, s')) :
    s' = s ∨ ∃ format unknownFields, type.codec.parseFormat value = some (format, unknownFields) ∧
      type.manager.validateKeyFormat format = .ok () ∧ ManagerFails type s s' format := by
  unfold deriveWithGlobalRegistry registryDeriveKey at h
  split at h
  · rename_i e' s₁ hregistry
    cases h
    split at hregistry
    · cases hregistry
      exact .inl rfl
    · cases hregistry
      exact .inl rfl
    · exact createDeriverFunctionFor_error hregistry
  · cases h

theorem deriveWithParametersMap_ok
    (h : deriveWithParametersMap type registration draws value s = (some (.ok keyset), s')) :
    ∃ format proto id prefixType, type.codec.parseFormatTP value = some format ∧ MapMakes type s format proto ∧
      keyset.key =
        [⟨some ⟨type.typeUrl, type.codec.serializeKeyTP proto, type.keyMaterialType⟩, .enabled, id, prefixType⟩] := by
  unfold deriveWithParametersMap at h
  split at h
  · cases h
  · rename_i params hparams
    split at h
    · cases h
    · rename_i key s₁ hderive
      simp only [Prod.mk.injEq] at h
      obtain ⟨proto, id, prefixType, hproto, hkeyset⟩ := buildKeyset_ok h.1
      unfold parseTemplate at hparams
      split at hparams
      · cases hparams
      · split at hparams
        · cases hparams
        · split at hparams
          · cases hparams
          · rename_i format hformat
            exact ⟨format, proto, id, prefixType, hformat, ⟨params, key, s₁, hparams, hderive, hproto⟩, hkeyset⟩

/-- **The second attempt never succeeds on a stream that the first one took bytes from.** -/
theorem Agrees.untouched {S : Bytes} {built : KeyProto → Bytes → Prop} {Start : σ → Prop} (h : Agrees type S built Start)
    (hs : Start s) {e : Status} {s'' : σ} (h₁ : deriveWithGlobalRegistry type registration value s = (.error e, s'))
    (h₂ : deriveWithParametersMap type registration draws value s' = (some (.ok keyset), s'')) : s' = s := by
  rcases deriveWithGlobalRegistry_error h₁ with hsame | ⟨format, unknownFields, hparse, hvalid, hfails⟩
  · exact hsame
  · obtain ⟨format', proto, id, prefixType, hparse', hmakes, -⟩ := deriveWithParametersMap_ok h₂
    have hformat := type.codec.parseFormatTP_agrees hparse (h.named hvalid) hparse'
    rw [hformat] at hmakes
    exact h.retry hs hvalid hfails hmakes

/-- What a run of both attempts makes of a stream. -/
inductive Makes (type : DerivableType σ Format KeyProto Params Key formatNamed keyNamed) (value : Bytes) (s : σ) :
    KeyProto → (serialized : Bytes) → Prop
  | manager {format unknownFields key} : type.codec.parseFormat value = some (format, unknownFields) →
      ManagerMakes type s format key → Makes type value s key (type.codec.serializeKey key unknownFields)
  | map {format proto} : type.codec.parseFormatTP value = some format → MapMakes type s format proto →
      Makes type value s proto (type.codec.serializeKeyTP proto)

theorem Agrees.makes {S : Bytes} {built : KeyProto → Bytes → Prop} {Start : σ → Prop} (h : Agrees type S built Start)
    (hs : Start s) (hrun : (∃ s', deriveWithGlobalRegistry type registration value s = (.ok keyset, s')) ∨
      ∃ e s' s'', deriveWithGlobalRegistry type registration value s = (.error e, s') ∧
        deriveWithParametersMap type registration draws value s' = (some (.ok keyset), s'')) :
    ∃ key serialized status id prefixType, Makes type value s key serialized ∧
      keyset.key = [⟨some ⟨type.typeUrl, serialized, type.keyMaterialType⟩, status, id, prefixType⟩] := by
  rcases hrun with ⟨s', h₁⟩ | ⟨e, s', s'', h₁, h₂⟩
  · obtain ⟨format, unknownFields, key, id, prefixType, status, hparse, hmakes, hkeyset⟩ := deriveWithGlobalRegistry_ok h₁
    rw [h.typeUrl, h.keyMaterialType] at hkeyset
    exact ⟨key, _, status, id, prefixType, .manager hparse hmakes, hkeyset⟩
  · have hsame := h.untouched hs h₁ h₂
    subst hsame
    obtain ⟨format, proto, id, prefixType, hparse, hmakes, hkeyset⟩ := deriveWithParametersMap_ok h₂
    exact ⟨proto, _, .enabled, id, prefixType, .map hparse hmakes, hkeyset⟩

/-- **What a run makes is read back, and is built from leading bytes.** -/
theorem Agrees.makes_spec {S : Bytes} {built : KeyProto → Bytes → Prop} {Start : σ → Prop} (h : Agrees type S built Start)
    (hs : Start s) {key : KeyProto} {serialized : Bytes} (hmakes : Makes type value s key serialized) :
    type.codec.parseKeyTP serialized = some key ∧ FromStart S built key := by
  cases hmakes with
  | manager _ hm => exact ⟨type.codec.parseKeyTP_serializeKey (h.manager hs hm).1 _, (h.manager hs hm).2⟩
  | map _ hm => exact ⟨type.codec.parseKeyTP_serializeKeyTP (h.map hs hm).1, (h.map hs hm).2⟩

/-- **Two runs make keys that read the same.** -/
theorem Agrees.makes_same {S : Bytes} {built : KeyProto → Bytes → Prop} {Start : σ → Prop} (h : Agrees type S built Start)
    (hs : Start s) {key key' : KeyProto} {serialized serialized' : Bytes} (hmakes : Makes type value s key serialized)
    (hmakes' : Makes type value s key' serialized') : type.parseKey key = type.parseKey key' := by
  cases hmakes with
  | manager hparse hm =>
    cases hmakes' with
    | manager hparse' hm' =>
      rw [hparse] at hparse'
      cases hparse'
      obtain ⟨s₁, h₁⟩ := hm.derived
      obtain ⟨s₂, h₂⟩ := hm'.derived
      rw [h₁] at h₂
      cases h₂
      rfl
    | map hparse' hm' =>
      have hformat := type.codec.parseFormatTP_agrees hparse (h.named hm.formatValid) hparse'
      rw [hformat] at hm'
      exact h.same hs hm hm'
  | map hparse hm =>
    cases hmakes' with
    | manager hparse' hm' =>
      have hformat := type.codec.parseFormatTP_agrees hparse' (h.named hm'.formatValid) hparse
      rw [hformat] at hm
      exact (h.same hs hm' hm).symm
    | map hparse' hm' =>
      rw [hparse] at hparse'
      cases hparse'
      obtain ⟨params, k, s₁, hp, hd, hser⟩ := hm.derived
      obtain ⟨params', k', s₂, hp', hd', hser'⟩ := hm'.derived
      rw [hp] at hp'
      cases hp'
      rw [hd] at hd'
      cases hd'
      rw [hser] at hser'
      cases hser'
      rfl

end Attempts

end Tink
