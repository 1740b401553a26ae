import TinkCc.EcKeyFormats
/-!
# KeysetDeriver — deriving a keyset with a keyset of derivers

`keyset_deriver_wrapper.cc`, and what holds of every derivation: the derived keys depend on the PRF stream alone, not on
what is registered, and take over the attributes of the deriver keys.
-/
namespace Tink

/-! ## The wrapper -/

/-- `KeysetDeriver::DeriveKeyset`; `none` is one that has not drawn an id yet. -/
abbrev KeysetDeriver := Bytes → Option (Except Status Keyset)

/-- `KeysetDeriverSetWrapper`, with what `Validate` checked. -/
structure KeysetDeriverSetWrapper where
  deriverSet : PrimitiveSet KeysetDeriver
  primary    : PrimitiveEntry KeysetDeriver
  primary_eq : deriverSet.getPrimary = some primary

/-- `KeysetDeriverWrapper::Wrap`. -/
def keysetDeriverWrap (deriverSet : PrimitiveSet KeysetDeriver) : Except Status KeysetDeriverSetWrapper :=
  match h : deriverSet.getPrimary with
  | none => .error ⟨.invalidArgument, "deriver_set has no primary"⟩
  | some primary => .ok ⟨deriverSet, primary, h⟩

/-- `DeriveAndGetKeyData`. -/
def deriveAndGetKeyData (salt : Bytes) (deriver : KeysetDeriver) : Option (Except Status KeyData) := do
  match ← deriver salt with
  | .error e => return .error e
  | .ok keyset =>
    match keyset.key with
    | [key] => return .ok key.getKeyData
    | _ => return .error ⟨.internal, "Wrapper Deriver must create a keyset with exactly one KeyData"⟩

namespace KeysetDeriverSetWrapper

/-- The loop of `DeriveKeyset`. -/
def deriveLoop (salt : Bytes) : List (PrimitiveEntry KeysetDeriver) → Option (Except Status (List KeysetKey))
  | [] => some (.ok [])
  | entry :: entries => do
    match ← deriveAndGetKeyData salt entry.primitive with
    | .error e => return .error e
    | .ok keyData =>
      let keys ← deriveLoop salt entries
      return keys.map fun keys => ⟨some keyData, entry.status, entry.keyId, entry.outputPrefixType⟩ :: keys

/-- `DeriveKeyset`. -/
def deriveKeyset (wrapper : KeysetDeriverSetWrapper) (salt : Bytes) : Option (Except Status Keyset) := do
  let keys ← deriveLoop salt wrapper.deriverSet.getAllInKeysetOrder
  return keys.map fun keys => ⟨wrapper.primary.keyId, keys⟩

end KeysetDeriverSetWrapper

/-- A keyset with one key, of this key data. -/
def Keyset.HasOneKey (keyset : Keyset) (keyData : KeyData) : Prop := ∃ key, keyset.key = [key] ∧ key.keyData = some keyData

/-- What the wrapper makes of a deriver key. -/
structure DerivedFrom {Key : Type} (getters : PrimitiveGetters Key KeysetDeriver) (salt : Bytes) (deriverKey key : KeysetKey) : Prop where
  status           : key.status = deriverKey.status
  keyId            : key.keyId = deriverKey.keyId
  outputPrefixType : key.outputPrefixType = deriverKey.outputPrefixType
  keyData          : ∃ deriver keyset derived, primitiveForKey getters deriverKey = .ok (some deriver) ∧
    deriver salt = some (.ok keyset) ∧ keyset.key = [derived] ∧ key.keyData = some derived.getKeyData

theorem deriveAndGetKeyData_ok {salt : Bytes} {deriver : KeysetDeriver} {keyData : KeyData}
    (h : deriveAndGetKeyData salt deriver = some (.ok keyData)) :
    ∃ keyset derived, deriver salt = some (.ok keyset) ∧ keyset.key = [derived] ∧ keyData = derived.getKeyData := by
  unfold deriveAndGetKeyData at h
  obtain ⟨r, hr, h⟩ := Option.bind_eq_some_iff.1 h
  split at h
  · cases h
  · rename_i keyset
    split at h
    · rename_i derived hkey
      cases h
      exact ⟨keyset, derived, hr, hkey, rfl⟩
    · cases h

theorem KeysetDeriverSetWrapper.deriveLoop_ok {Key : Type} {getters : PrimitiveGetters Key KeysetDeriver} {salt : Bytes}
    {deriverKeys : List KeysetKey} {entries : List (PrimitiveEntry KeysetDeriver)}
    (hentries : List.Forall₂ (EntryFor getters) deriverKeys entries) (henabled : ∀ key ∈ deriverKeys, key.status = .enabled) :
    ∀ {keys : List KeysetKey}, deriveLoop salt entries = some (.ok keys) →
      List.Forall₂ (DerivedFrom getters salt) deriverKeys keys := by
  induction hentries with
  | nil =>
    intro keys h
    cases h
    exact .nil
  | @cons deriverKey entry deriverKeys entries hentry _ ih =>
    intro keys h
    unfold deriveLoop at h
    obtain ⟨r, hr, h⟩ := Option.bind_eq_some_iff.1 h
    split at h
    · cases h
    · rename_i keyData
      obtain ⟨rest, hrest, h⟩ := Option.bind_eq_some_iff.1 h
      obtain ⟨keys', rfl, rfl⟩ := map_eq_ok (Option.some.inj h)
      obtain ⟨keyset, derived, hderive, hkey, rfl⟩ := deriveAndGetKeyData_ok hr
      refine .cons ⟨?_, hentry.keyId, hentry.outputPrefixType, entry.primitive, keyset, derived, hentry.primitive,
        hderive, hkey, rfl⟩ (ih (fun k hk => henabled k (List.mem_cons_of_mem _ hk)) hrest)
      rw [henabled deriverKey (List.mem_cons_self ..)]
      exact hentry.status

/-- **The wrapper makes one key of each ENABLED deriver key**, with its attributes, and the primary id is theirs. -/
theorem KeysetDeriverSetWrapper.deriveKeyset_ok {Key : Type} {getters : PrimitiveGetters Key KeysetDeriver}
    {deriverKeyset keyset : Keyset} {wrapper : KeysetDeriverSetWrapper} {salt : Bytes}
    (hwrap : keysetWrap getters keysetDeriverWrap deriverKeyset = .ok wrapper)
    (h : wrapper.deriveKeyset salt = some (.ok keyset)) :
    List.Forall₂ (DerivedFrom getters salt) (enabledKeys deriverKeyset.key) keyset.key ∧
      keyset.primaryKeyId = deriverKeyset.primaryKeyId := by
  unfold keysetWrap at hwrap
  split at hwrap
  · cases hwrap
  · rename_i set hset
    obtain ⟨hentries, hprimary⟩ := primitiveSetOf_entries hset
    have hwrapper : wrapper.deriverSet = set := by
      unfold keysetDeriverWrap at hwrap
      split at hwrap
      · cases hwrap
      · cases hwrap
        rfl
    unfold deriveKeyset at h
    obtain ⟨r, hr, h⟩ := Option.bind_eq_some_iff.1 h
    obtain ⟨keys, rfl, rfl⟩ := map_eq_ok (Option.some.inj h)
    rw [hwrapper] at hr
    refine ⟨deriveLoop_ok hentries (fun key hkey => ?_) hr, ?_⟩
    · have := (List.mem_filter.1 hkey).2
      simpa [KeysetKey.isEnabled] using this
    · have hprimary' := wrapper.primary_eq
      rw [hwrapper] at hprimary'
      rcases hprimary with ⟨key, entry, -, hfilter, -, hget⟩ | ⟨-, hget, -⟩
      · rw [hget] at hprimary'
        cases hprimary'
        have hmem : wrapper.primary ∈
            set.getAllInKeysetOrder.filter (fun entry => decide (entry.keyId = deriverKeyset.primaryKeyId)) := by
          rw [hfilter]
          exact List.mem_singleton_self _
        simpa using (List.mem_filter.1 hmem).2
      · rw [hget] at hprimary'
        cases hprimary'

/-! ## Reading a derived key -/

section Read
variable {σ : Type} {Format KeyProto Params Key : Type} {formatNamed : Format → Prop} {keyNamed : KeyProto → Prop}
  {type : DerivableType σ Format KeyProto Params Key formatNamed keyNamed}

/-- Two keys of one type whose protos are parsed alike are read alike, with the same id and prefix type. -/
theorem readKey_same {value value' : Bytes} {proto proto' : KeyProto} (h : type.codec.parseKeyTP value = some proto)
    (h' : type.codec.parseKeyTP value' = some proto') (hsame : type.parseKey proto = type.parseKey proto')
    (keyMaterialType : KeyMaterialType) (status : KeyStatusType) (id : UInt32) (prefixType : OutputPrefixType) :
    (toProtoKeySerialization ⟨some ⟨type.typeUrl, value, keyMaterialType⟩, status, id, prefixType⟩ >>= type.readKey) =
      (toProtoKeySerialization ⟨some ⟨type.typeUrl, value', keyMaterialType⟩, status, id, prefixType⟩ >>= type.readKey) := by
  unfold toProtoKeySerialization KeysetKey.getKeyData ProtoKeySerialization.create
  dsimp only [Option.getD_some]
  generalize (if prefixType = .raw then none else some id) = idRequirement
  split
  · split
    · rfl
    · split
      · rfl
      · show type.readKey _ = type.readKey _
        unfold DerivableType.readKey
        dsimp only
        rw [h, h']
        exact congrFun (congrFun hsame _) _
  · rfl

end Read

theorem bind_map_congr {α β γ : Type} {x y : Except Status α} {f : α → Except Status β} (g : β → γ)
    (h : (x >>= f) = (y >>= f)) : (x >>= fun a => (f a).map g) = (y >>= fun a => (f a).map g) := by
  have hmap : ∀ z : Except Status α, (z >>= fun a => (f a).map g) = (z >>= f).map g := by
    intro z
    cases z with
    | error e => rfl
    | ok a => rfl
  rw [hmap, hmap, h]

/-- A run of `DeriveKeysetHandle` on a type. -/
def Derives {σ Format KeyProto Params Key : Type} [InputStream σ] {formatNamed : Format → Prop} {keyNamed : KeyProto → Prop}
    (type : DerivableType σ Format KeyProto Params Key formatNamed keyNamed) (registration : TypeRegistration)
    (draws : List UInt32) (value : Bytes) (s : σ) (keyset : Keyset) : Prop :=
  (∃ s', deriveWithGlobalRegistry type registration value s = (.ok keyset, s')) ∨
    ∃ e s' s'', deriveWithGlobalRegistry type registration value s = (.error e, s') ∧
      deriveWithParametersMap type registration draws value s' = (some (.ok keyset), s'')

/-- A run on a type makes one key, of leading bytes of the stream; a run with anything else registered makes one that
reads the same. -/
theorem Agrees.derives {σ Format KeyProto Params Key ReadKey : Type} [InputStream σ] {formatNamed : Format → Prop}
    {keyNamed : KeyProto → Prop} {type : DerivableType σ Format KeyProto Params Key formatNamed keyNamed} {S : Bytes}
    {built : KeyProto → Bytes → Prop} {Start : σ → Prop} (h : Agrees type S built Start) {s : σ} (hs : Start s)
    {registration registration' : TypeRegistration} {draws draws' : List UInt32} {value : Bytes} {keyset keyset' : Keyset}
    (hrun : Derives type registration draws value s keyset) (hrun' : Derives type registration' draws' value s keyset')
    (builtFrom : Bytes → Bytes → Prop) (asRead : Key → ReadKey) (hbuilt : ∀ {value proto material}, type.codec.parseKeyTP value = some proto →
      built proto material → builtFrom value material) :
    ∃ keyData keyData', keyset.HasOneKey keyData ∧ keyset'.HasOneKey keyData' ∧
      (∃ n, 16 ≤ n ∧ n ≤ S.length ∧ builtFrom keyData.value (S.take n)) ∧
      (∃ n, 16 ≤ n ∧ n ≤ S.length ∧ builtFrom keyData'.value (S.take n)) ∧
      ∀ status id prefixType,
        (toProtoKeySerialization ⟨some keyData, status, id, prefixType⟩ >>= fun k => (type.readKey k).map asRead) =
          (toProtoKeySerialization ⟨some keyData', status, id, prefixType⟩ >>= fun k => (type.readKey k).map asRead) := by
  obtain ⟨key, serialized, status, id, prefixType, hmakes, hkeyset⟩ := h.makes hs hrun
  obtain ⟨key', serialized', status', id', prefixType', hmakes', hkeyset'⟩ := h.makes hs hrun'
  obtain ⟨hparse, n, hn, hle, hstart⟩ := h.makes_spec hs hmakes
  obtain ⟨hparse', n', hn', hle', hstart'⟩ := h.makes_spec hs hmakes'
  refine ⟨_, _, ⟨_, hkeyset, rfl⟩, ⟨_, hkeyset', rfl⟩, ⟨n, hn, hle, hbuilt hparse hstart⟩,
    ⟨n', hn', hle', hbuilt hparse' hstart'⟩, fun status id prefixType => bind_map_congr asRead ?_⟩
  exact readKey_same hparse hparse' (h.makes_same hs hmakes hmakes') _ status id prefixType

/-! ## The derived key -/

namespace DeriverLibraries
variable (libs : DeriverLibraries)

/-- `value` is the key of the type that is built from the bytes `material`. -/
def BuiltFrom (type : DerivableKeyType) (value material : Bytes) : Prop :=
  match type with
  | .hmac => ∃ key, libs.hmac.parseKeyTP value = some key ∧ key.keyValue = material
  | .aesCtrHmacAead =>
    ∃ key, libs.aesCtrHmacAead.parseKeyTP value = some key ∧ key.aesCtrKey.keyValue ++ key.hmacKey.keyValue = material
  | .ecdsa =>
    ∃ key, libs.ecdsa.parseKeyTP value = some key ∧ ∃ curve ecKey, curve.toProto = key.publicKey.params.curve ∧
      newEcKey libs.ec curve material = .ok ecKey ∧ BigEndian.value key.publicKey.x = BigEndian.value ecKey.pubX ∧
      BigEndian.value key.publicKey.y = BigEndian.value ecKey.pubY ∧
      BigEndian.value key.keyValue = BigEndian.value ecKey.priv
  | .ed25519 =>
    ∃ key, libs.ed25519.parseKeyTP value = some key ∧ key.keyValue = material ∧
      key.publicKey.keyValue = libs.ec.ed25519PublicKey material
  | .aesGcmHkdfStreaming => ∃ key, libs.aesGcmHkdfStreaming.parseKeyTP value = some key ∧ key.keyValue = material

/-- The key with this key data, once it has a status, an id and a prefix type. -/
def keyOf (type : DerivableKeyType) (keyData : KeyData) (status : KeyStatusType) (id : UInt32)
    (prefixType : OutputPrefixType) : Except Status DerivedKey :=
  toProtoKeySerialization ⟨some keyData, status, id, prefixType⟩ >>= libs.parseKey type

end DeriverLibraries

namespace PrfBasedDeriver
variable {libs : DeriverLibraries} {registries registries' : GlobalRegistries} {draws draws' : List UInt32}
  {deriver : PrfBasedDeriver} {salt : Bytes}

/-- The bytes of the PRF stream. -/
def stream (deriver : PrfBasedDeriver) (salt : Bytes) : Bytes :=
  HkdfInputStream.output deriver.digest deriver.secret deriver.prfSalt salt

theorem computePrf_start (deriver : PrfBasedDeriver) (salt : Bytes) :
    ∃ last, HkdfInputStream.At (deriver.stream salt) (deriver.computePrf salt) ⟨0, last⟩ :=
  ⟨0, HkdfInputStream.new_at ..⟩

/-- What a run of `DeriveKeysetHandle` is. -/
theorem deriveKeyset_ok {keyset : Keyset} (h : deriver.deriveKeyset libs registries draws salt = some (.ok keyset)) :
    (∃ s', deriver.deriveWithGlobalRegistry libs registries (deriver.computePrf salt) = (.ok keyset, s')) ∨
      ∃ e s' s'', deriver.deriveWithGlobalRegistry libs registries (deriver.computePrf salt) = (.error e, s') ∧
        deriver.deriveWithParametersMap libs registries draws s' = (some (.ok keyset), s'') := by
  unfold deriveKeyset deriveKeysetHandle at h
  split at h
  · rename_i e s' hregistry
    exact .inr ⟨e, s', (deriver.deriveWithParametersMap libs registries draws s').2, hregistry, Prod.ext h rfl⟩
  · rename_i keyset' s' hregistry
    cases h
    exact .inl ⟨s', hregistry⟩

/-- **The second attempt never succeeds on a stream that the first one took bytes from.** -/
theorem untouched {e : Status} {s' s'' : HkdfInputStream} {keyset : Keyset}
    (h₁ : deriver.deriveWithGlobalRegistry libs registries (deriver.computePrf salt) = (.error e, s'))
    (h₂ : deriver.deriveWithParametersMap libs registries draws s' = (some (.ok keyset), s'')) :
    s' = deriver.computePrf salt := by
  have hr := HkdfInputStream.prfStream (deriver.stream salt)
  have hs := deriver.computePrf_start salt
  unfold deriveWithGlobalRegistry at h₁
  unfold deriveWithParametersMap at h₂
  dsimp only at h₁ h₂
  cases htype : deriver.type <;> rw [htype] at h₁ h₂ <;> dsimp only at h₁ h₂
  · exact (libs.hmac_agrees hr).untouched hs h₁ h₂
  · exact (libs.aesCtrHmacAead_agrees hr).untouched hs h₁ h₂
  · exact (libs.ecdsa_agrees hr).untouched hs h₁ h₂
  · exact (libs.ed25519_agrees hr).untouched hs h₁ h₂
  · exact (libs.aesGcmHkdfStreaming_agrees hr).untouched hs h₁ h₂

/-- **Two runs make keys of leading bytes of the stream, which read the same.** -/
theorem same_key {keyset keyset' : Keyset} (h : deriver.deriveKeyset libs registries draws salt = some (.ok keyset))
    (h' : deriver.deriveKeyset libs registries' draws' salt = some (.ok keyset')) :
    ∃ keyData keyData', keyset.HasOneKey keyData ∧ keyset'.HasOneKey keyData' ∧
      (∃ n, 16 ≤ n ∧ n ≤ (deriver.stream salt).length ∧
        libs.BuiltFrom deriver.type keyData.value ((deriver.stream salt).take n)) ∧
      (∃ n, 16 ≤ n ∧ n ≤ (deriver.stream salt).length ∧
        libs.BuiltFrom deriver.type keyData'.value ((deriver.stream salt).take n)) ∧
      ∀ status id prefixType, libs.keyOf deriver.type keyData status id prefixType =
        libs.keyOf deriver.type keyData' status id prefixType := by
  have hr := HkdfInputStream.prfStream (deriver.stream salt)
  have hs := deriver.computePrf_start salt
  have hrun := deriveKeyset_ok h
  have hrun' := deriveKeyset_ok h'
  unfold deriveWithGlobalRegistry deriveWithParametersMap at hrun hrun'
  dsimp only at hrun hrun'
  cases htype : deriver.type <;> rw [htype] at hrun hrun' <;> dsimp only at hrun hrun'
  · exact (libs.hmac_agrees hr).derives hs hrun hrun' (libs.BuiltFrom .hmac) DerivedKey.hmac
      fun hparse hbuilt => ⟨_, hparse, hbuilt⟩
  · exact (libs.aesCtrHmacAead_agrees hr).derives hs hrun hrun' (libs.BuiltFrom .aesCtrHmacAead) DerivedKey.aesCtrHmacAead
      fun hparse hbuilt => ⟨_, hparse, hbuilt⟩
  · exact (libs.ecdsa_agrees hr).derives hs hrun hrun' (libs.BuiltFrom .ecdsa) DerivedKey.ecdsa
      fun hparse hbuilt => ⟨_, hparse, hbuilt⟩
  · exact (libs.ed25519_agrees hr).derives hs hrun hrun' (libs.BuiltFrom .ed25519) DerivedKey.ed25519
      fun hparse hbuilt => ⟨_, hparse, hbuilt⟩
  · exact (libs.aesGcmHkdfStreaming_agrees hr).derives hs hrun hrun' (libs.BuiltFrom .aesGcmHkdfStreaming) DerivedKey.aesGcmHkdfStreaming
      fun hparse hbuilt => ⟨_, hparse, hbuilt⟩

end PrfBasedDeriver

/-- **Derived keysets depend on the PRF stream, not on what is registered.**  Two runs that succeed make one key each, of
leading bytes of the stream, and these are the same key under any status, id and prefix type; the second attempt of a run
only succeeds on a stream that the first one left alone; and a keyset of derivers makes one key of each of its ENABLED
keys, with its attributes. -/
theorem derivedKeysets (libs : DeriverLibraries) :
    (∀ (deriver : PrfBasedDeriver) (salt : Bytes) (registries registries' : GlobalRegistries) (draws draws' : List UInt32)
        (keyset keyset' : Keyset), deriver.deriveKeyset libs registries draws salt = some (.ok keyset) →
        deriver.deriveKeyset libs registries' draws' salt = some (.ok keyset') →
        ∃ keyData keyData', keyset.HasOneKey keyData ∧ keyset'.HasOneKey keyData' ∧
          (∃ n, 16 ≤ n ∧ n ≤ (deriver.stream salt).length ∧
            libs.BuiltFrom deriver.type keyData.value ((deriver.stream salt).take n)) ∧
          (∃ n, 16 ≤ n ∧ n ≤ (deriver.stream salt).length ∧
            libs.BuiltFrom deriver.type keyData'.value ((deriver.stream salt).take n)) ∧
          ∀ status id prefixType, libs.keyOf deriver.type keyData status id prefixType =
            libs.keyOf deriver.type keyData' status id prefixType) ∧
    (∀ (deriver : PrfBasedDeriver) (salt : Bytes) (registries : GlobalRegistries) (draws : List UInt32) (e : Status)
        (s' s'' : HkdfInputStream) (keyset : Keyset),
        deriver.deriveWithGlobalRegistry libs registries (deriver.computePrf salt) = (.error e, s') →
        deriver.deriveWithParametersMap libs registries draws s' = (some (.ok keyset), s'') →
        s' = deriver.computePrf salt) ∧
    ∀ (Key : Type) (getters : PrimitiveGetters Key KeysetDeriver) (deriverKeyset keyset : Keyset)
        (wrapper : KeysetDeriverSetWrapper) (salt : Bytes),
        keysetWrap getters keysetDeriverWrap deriverKeyset = .ok wrapper →
        wrapper.deriveKeyset salt = some (.ok keyset) →
        List.Forall₂ (DerivedFrom getters salt) (enabledKeys deriverKeyset.key) keyset.key ∧
          keyset.primaryKeyId = deriverKeyset.primaryKeyId :=
  ⟨fun _ _ _ _ _ _ _ _ h h' => PrfBasedDeriver.same_key h h',
    fun _ _ _ _ _ _ _ _ h₁ h₂ => PrfBasedDeriver.untouched h₁ h₂,
    fun _ _ _ _ _ _ hwrap h => KeysetDeriverSetWrapper.deriveKeyset_ok hwrap h⟩

/-! ## A derived HMAC key -/

deriving instance Encodable for HmacKeyProto, AesCtrKeyProto, AesCtrHmacAeadKeyFormat, AesCtrHmacAeadKeyProto, EcdsaKeyFormat,
  Ed25519KeyFormat, Ed25519PublicKeyProto, Ed25519PrivateKeyProto, AesGcmHkdfStreamingParamsProto,
  AesGcmHkdfStreamingKeyFormat, AesGcmHkdfStreamingKeyProto

/-- The generated code and Tink's own parser as one: no field is unknown. -/
def DeriverCodec.ofCodecs {Format KeyProto : Type} {formatNamed : Format → Prop} {keyNamed : KeyProto → Prop}
    (formats : MessageCodec Format formatNamed) (keys : MessageCodec KeyProto keyNamed) :
    DeriverCodec Format KeyProto formatNamed keyNamed where
  parseFormat bytes := (formats.parseFromString bytes).map fun format => (format, [])
  serializeKey key _ := keys.serializeAsSecretData key
  parseFormatTP := formats.parseFromString
  parseKeyTP := keys.parseFromString
  serializeKeyTP := keys.serializeAsSecretData
  parseFormatTP_agrees := by
    intro bytes format unknownFields format' hparse _ hparseTP
    rw [hparseTP] at hparse
    cases hparse
    rfl
  parseKeyTP_serializeKey hnamed _ := keys.parse_serialize hnamed
  parseKeyTP_serializeKeyTP := keys.parse_serialize

/-- The first 32 bytes of HKDF with SHA256, the secret 0 .. 31, no salt and the input 9. -/
def hkdfBytes : Bytes :=
  [184, 139, 204, 227, 85, 219, 122, 153, 2, 154, 55, 107, 189, 107, 188, 205, 199, 97, 215, 102, 66, 181, 219, 76, 37, 41,
    232, 91, 248, 153, 91, 163]

/-- The HMAC of these bytes with SHA256, with no key. -/
def hkdfPrk : Bytes :=
  [70, 189, 50, 6, 5, 197, 166, 182, 22, 58, 183, 11, 198, 52, 91, 146, 165, 249, 8, 231, 159, 229, 137, 121, 194, 62, 187,
    71, 209, 165, 227, 7]

/-- HMAC with SHA256, on the inputs of one block. -/
def oneBlockMac (key data : Bytes) : Option Bytes :=
  if key = [] ∧ data = (List.range 32).map UInt8.ofNat then some hkdfPrk
  else if key = hkdfPrk ∧ data = [9, 1] then some hkdfBytes
  else none

theorem oneBlockMac_length {key data tag : Bytes} (h : oneBlockMac key data = some tag) : tag.length = 32 := by
  unfold oneBlockMac at h
  split at h
  · cases h
    rfl
  · split at h <;> cases h
    rfl

def oneBlockHmac : Hmac where
  digestSize := 32
  digestSize_pos := Nat.succ_pos 31
  mac := oneBlockMac
  length_mac := oneBlockMac_length

/-- 32 bytes of key and 16 bytes of tag, with SHA256. -/
def hmacFormatBytes : Bytes := lengthDelimited 10 [8, 3, 16, 16] ++ [16, 32]

def hmacDeriver : PrfBasedDeriver where
  digest := oneBlockHmac
  secret := (List.range 32).map UInt8.ofNat
  prfSalt := []
  keyTemplate := ⟨"type.googleapis.com/google.crypto.tink.HmacKey", hmacFormatBytes, .tink⟩
  type := .hmac
  typeUrl_eq := rfl

def hkdfKeyProto : HmacKeyProto := ⟨0, ⟨.sha256, 16⟩, hkdfBytes⟩

def hkdfKeyBytes : Bytes := lengthDelimited 18 [8, 3, 16, 16] ++ lengthDelimited 26 hkdfBytes

def hmacLibraries : DeriverLibraries where
  hmac := .ofCodecs (.withTable _ [(⟨⟨.sha256, 16⟩, 32, 0⟩, hmacFormatBytes)] (by decide))
    (.withTable _ [(hkdfKeyProto, hkdfKeyBytes)] (by decide))
  aesCtrHmacAead := .ofCodecs (.numbered _) (.numbered _)
  ecdsa := .ofCodecs (.numbered _) (.numbered _)
  ed25519 := .ofCodecs (.numbered _) (.numbered _)
  aesGcmHkdfStreaming := .ofCodecs (.numbered _) (.numbered _)
  ec := generatorLibrary.toEcKeyLibrary

/-- The stream with its first block read. -/
def hkdfStream (positionInTi : Nat) : HkdfInputStream := ⟨oneBlockHmac, hkdfPrk, [9], .ok (), hkdfBytes, 1, positionInTi⟩

theorem hmacDeriver_computePrf : hmacDeriver.computePrf [9] = hkdfStream 0 := rfl

theorem read_hkdfStream : readSecretBytesFromStream 32 (hkdfStream 0) = (.ok hkdfBytes, hkdfStream 32) := by
  have hnext : InputStream.next (hkdfStream 0) = (.ok hkdfBytes, hkdfStream 32) := rfl
  unfold readSecretBytesFromStream
  rw [readBytesLoop_of_ok (by decide) hnext]
  exact readBytesLoop_zero _ _

/-- A manager that can derive keys, and no parser of parameters. -/
def managerRegistered : GlobalRegistries := fun _ => ⟨.withDeriver, false⟩

/-- A parser of parameters, and no manager. -/
def parserRegistered : GlobalRegistries := fun _ => ⟨.absent, true⟩

theorem hmacFormat_derived : HmacKeyManager.deriveKey ⟨⟨.sha256, 16⟩, 32, 0⟩ (hkdfStream 0) =
    (.ok hkdfKeyProto, hkdfStream 32) := by
  have hread : readPseudorandomness (asInt 32) (hkdfStream 0) = (.ok hkdfBytes, hkdfStream 32) := by
    rw [show asInt 32 = 32 by decide]
    unfold readPseudorandomness
    rw [read_hkdfStream]
  unfold HmacKeyManager.deriveKey
  rw [show validateVersion 0 0 = .ok () by decide]
  dsimp only
  rw [hread]
  rfl

theorem hmacFormat_parsed : hmacLibraries.hmac.parseFormat hmacFormatBytes = some (⟨⟨.sha256, 16⟩, 32, 0⟩, []) := by decide

theorem hmacDeriver_withManager : hmacDeriver.deriveKeyset hmacLibraries managerRegistered [] [9] =
    some (.ok ⟨0, [⟨some ⟨DerivableKeyType.hmac.typeUrl, hkdfKeyBytes, .symmetric⟩, .unknownStatus, 0, .unknownPrefix⟩]⟩) := by
  have hderive : registryDeriveKey (hmacLibraries.hmacType (σ := HkdfInputStream)) (managerRegistered .hmac) hmacFormatBytes
      (hkdfStream 0) = (.ok ⟨DerivableKeyType.hmac.typeUrl, hkdfKeyBytes, .symmetric⟩, hkdfStream 32) := by
    unfold registryDeriveKey managerRegistered createDeriverFunctionFor DeriverLibraries.hmacType
    dsimp only
    rw [hmacFormat_parsed]
    dsimp only
    rw [show HmacKeyManager.validateKeyFormat ⟨⟨.sha256, 16⟩, 32, 0⟩ = .ok () by decide, hmacFormat_derived]
    rfl
  unfold PrfBasedDeriver.deriveKeyset PrfBasedDeriver.deriveKeysetHandle PrfBasedDeriver.deriveWithGlobalRegistry
    Tink.deriveWithGlobalRegistry
  rw [hmacDeriver_computePrf]
  dsimp only [hmacDeriver]
  rw [hderive]

theorem hmacDeriver_withParser : hmacDeriver.deriveKeyset hmacLibraries parserRegistered [7] [9] =
    some (.ok ⟨7, [⟨some ⟨DerivableKeyType.hmac.typeUrl, hkdfKeyBytes, .symmetric⟩, .enabled, 7, .raw⟩]⟩) := by
  have hparams : parseTemplate (hmacLibraries.hmacType (σ := HkdfInputStream)) (parserRegistered .hmac) hmacFormatBytes =
      .ok ⟨32, 16, .sha256, .noPrefix, by decide⟩ := by
    rfl
  have hderive : (hmacLibraries.hmacType (σ := HkdfInputStream)).deriveKey ⟨32, 16, .sha256, .noPrefix, by decide⟩
      (hkdfStream 0) = (.ok ⟨⟨32, 16, .sha256, .noPrefix, by decide⟩, hkdfBytes, none, rfl⟩, hkdfStream 32) := by
    change deriveHmacKey _ _ = _
    unfold deriveHmacKey
    dsimp only
    rw [read_hkdfStream]
    rfl
  have hbuild : buildKeyset (hmacLibraries.hmacType (σ := HkdfInputStream)) [7]
      ⟨⟨32, 16, .sha256, .noPrefix, by decide⟩, hkdfBytes, none, rfl⟩ =
      some (.ok ⟨7, [⟨some ⟨DerivableKeyType.hmac.typeUrl, hkdfKeyBytes, .symmetric⟩, .enabled, 7, .raw⟩]⟩) := by
    rfl
  have habsent : registryDeriveKey (hmacLibraries.hmacType (σ := HkdfInputStream)) (parserRegistered .hmac) hmacFormatBytes
      (hkdfStream 0) =
        (.error ⟨.notFound, s!"No manager for type '{DerivableKeyType.hmac.typeUrl}' has been registered."⟩, hkdfStream 0) :=
    rfl
  unfold PrfBasedDeriver.deriveKeyset PrfBasedDeriver.deriveKeysetHandle PrfBasedDeriver.deriveWithGlobalRegistry
    PrfBasedDeriver.deriveWithParametersMap Tink.deriveWithGlobalRegistry Tink.deriveWithParametersMap
  rw [hmacDeriver_computePrf]
  dsimp only [hmacDeriver]
  rw [habsent]
  dsimp only
  rw [hparams]
  dsimp only
  rw [hderive]
  exact hbuild

/-- A deriver keyset of one key, whose deriver has a manager. -/
def hmacDeriverKeyset : Keyset := ⟨5, [⟨some ⟨"type.googleapis.com/google.crypto.tink.PrfBasedDeriverKey", [], .symmetric⟩,
  .enabled, 5, .crunchy⟩]⟩

def hmacDeriverGetters : PrimitiveGetters Unit KeysetDeriver where
  parseKey _ := .error ⟨.notFound, ""⟩
  primitiveGetter _ := .ok (some (hmacDeriver.deriveKeyset hmacLibraries managerRegistered []))
  primitiveGetterFromKey _ := .error ⟨.notFound, ""⟩

theorem hmacDeriverKeyset_derives : ∃ wrapper keyset,
    keysetWrap hmacDeriverGetters keysetDeriverWrap hmacDeriverKeyset = .ok wrapper ∧
      wrapper.deriveKeyset [9] = some (.ok keyset) := by
  obtain ⟨wrapper, hwrap, hentries⟩ : ∃ wrapper,
      keysetWrap hmacDeriverGetters keysetDeriverWrap hmacDeriverKeyset = .ok wrapper ∧
        wrapper.deriverSet.getAllInKeysetOrder.map (·.primitive) =
          [hmacDeriver.deriveKeyset hmacLibraries managerRegistered []] := ⟨_, rfl, rfl⟩
  obtain ⟨entry, hset, hprimitive⟩ := List.map_eq_singleton_iff.1 hentries
  refine ⟨wrapper, ⟨wrapper.primary.keyId, [⟨some ⟨DerivableKeyType.hmac.typeUrl, hkdfKeyBytes, .symmetric⟩, entry.status,
    entry.keyId, entry.outputPrefixType⟩]⟩, hwrap, ?_⟩
  unfold KeysetDeriverSetWrapper.deriveKeyset
  rw [hset]
  unfold KeysetDeriverSetWrapper.deriveLoop deriveAndGetKeyData
  rw [hprimitive, hmacDeriver_withManager]
  rfl

/-- Two keys of one deriver, one made by its manager and one by the deriver of its parameters, and a keyset. -/
theorem derivedKeysets_hmac :
    (∃ keyset keyset' keyData keyData',
      hmacDeriver.deriveKeyset hmacLibraries managerRegistered [] [9] = some (.ok keyset) ∧
        hmacDeriver.deriveKeyset hmacLibraries parserRegistered [7] [9] = some (.ok keyset') ∧
        keyset.HasOneKey keyData ∧ keyset'.HasOneKey keyData' ∧
        ∀ status id prefixType, hmacLibraries.keyOf .hmac keyData status id prefixType =
          hmacLibraries.keyOf .hmac keyData' status id prefixType) ∧
    ∃ keyset : Keyset, List.Forall₂ (DerivedFrom hmacDeriverGetters [9]) (enabledKeys hmacDeriverKeyset.key) keyset.key ∧
      keyset.primaryKeyId = 5 := by
  obtain ⟨hsame, -, hwrapper⟩ := derivedKeysets hmacLibraries
  obtain ⟨keyData, keyData', hone, hone', -, -, hkeys⟩ := hsame hmacDeriver [9] managerRegistered parserRegistered [] [7] _ _
    hmacDeriver_withManager hmacDeriver_withParser
  obtain ⟨wrapper, keyset, hwrap, hderive⟩ := hmacDeriverKeyset_derives
  exact ⟨⟨_, _, keyData, keyData', hmacDeriver_withManager, hmacDeriver_withParser, hone, hone', hkeys⟩,
    keyset, hwrapper Unit hmacDeriverGetters hmacDeriverKeyset keyset wrapper [9] hwrap hderive⟩

end Tink
