import TinkCc.SetWrapper
/-!
# PrehashSigning — signing what another keyset has hashed

`signature/internal/prehash_format.cc`, `signature/internal/prehash_wrapper.cc` and
`signature/internal/sign_prehash_wrapper.cc`.  A prehash names its key by the id, a signature by the output prefix.
-/
namespace Tink

structure Prehash where
  compute : (data : Bytes) → Except Status Bytes

/-- `SignPrehash`; what `Sign` draws at random is its first argument. -/
structure SignPrehash where
  sign : (random prehash : Bytes) → Except Status Bytes

/-! ## Big-endian numbers -/

/-- `LoadBigEndian32`, on four bytes at least. -/
def loadBigEndian32 (bs : Bytes) : UInt32 :=
  match bs with
  | b₀ :: b₁ :: b₂ :: b₃ :: _ =>
    b₀.toUInt32 <<< 24 ||| b₁.toUInt32 <<< 16 ||| b₂.toUInt32 <<< 8 ||| b₃.toUInt32
  | _ => 0

/-- What was loaded is stored as it was. -/
theorem bigEndian32_load (b₀ b₁ b₂ b₃ : UInt8) (rest : Bytes) :
    bigEndian32 (loadBigEndian32 (b₀ :: b₁ :: b₂ :: b₃ :: rest)) = [b₀, b₁, b₂, b₃] := by
  unfold bigEndian32 loadBigEndian32
  simp only [List.cons.injEq, and_true]
  -- bit by bit: the other three bytes are shifted away
  have hb : ∀ (b : UInt8) (i : Nat), 8 ≤ i → b.toBitVec.getLsbD i = false := fun b i hi => BitVec.getLsbD_of_ge _ _ hi
  refine ⟨?_, ?_, ?_, ?_⟩
  · apply UInt8.toBitVec_inj.1
    apply BitVec.eq_of_getLsbD_eq
    intro i hi
    have h₁ := hb b₁ (24 + i - 16) (by omega)
    have h₂ := hb b₂ (24 + i - 8) (by omega)
    have h₃ := hb b₃ (24 + i) (by omega)
    have hlt : 24 + i < 32 ∧ i < 32 := by omega
    simp [hi, h₁, h₂, h₃, hlt]
  · apply UInt8.toBitVec_inj.1
    apply BitVec.eq_of_getLsbD_eq
    intro i hi
    have h₂ := hb b₂ (16 + i - 8) (by omega)
    have h₃ := hb b₃ (16 + i) (by omega)
    have hlt : 16 + i < 24 ∧ 16 + i < 32 ∧ i < 32 := by omega
    simp [hi, h₂, h₃, hlt]
  · apply UInt8.toBitVec_inj.1
    apply BitVec.eq_of_getLsbD_eq
    intro i hi
    have hlt : 8 + i < 16 ∧ 8 + i < 24 ∧ 8 + i < 32 ∧ i < 32 := by omega
    simp [hi, hlt]
  · apply UInt8.toBitVec_inj.1
    apply BitVec.eq_of_getLsbD_eq
    intro i hi
    simp [hi]

theorem loadBigEndian32_append (v : UInt32) (rest : Bytes) : loadBigEndian32 (bigEndian32 v ++ rest) = v := by
  have hstored := congrArg BigEndian.value (bigEndian32_load (v >>> 24).toUInt8 (v >>> 16).toUInt8 (v >>> 8).toUInt8
    v.toUInt8 rest)
  have hvalue : BigEndian.value [(v >>> 24).toUInt8, (v >>> 16).toUInt8, (v >>> 8).toUInt8, v.toUInt8] = v.toNat :=
    bigEndian32_value v
  rw [bigEndian32_value, hvalue] at hstored
  exact UInt32.toNat_inj.1 hstored

/-! ## The wrappers -/

def prehashStartByte : UInt8 := 0xff

def prehashPrefixSize : Nat := 5

def getPrehashPrefix (idRequirement : Option UInt32) : Bytes :=
  match idRequirement with
  | none => []
  | some keyId => prehashStartByte :: bigEndian32 keyId

/-- The loop of both `Validate`s, in the order in which the hash map is walked. -/
def holdsRaw {P : Type} (walk : PrimitivesMap P → PrimitivesMap P) (set : PrimitiveSet P) : Bool :=
  (set.getAll walk).any fun entry => decide (entry.outputPrefixType = .raw)

abbrev PrehashSetWrapper := SetWithPrimary Prehash

/-- `PrehashWrapper::Wrap`. -/
def prehashWrap (walk : PrimitivesMap Prehash → PrimitivesMap Prehash) (set : PrimitiveSet Prehash) :
    Except Status PrehashSetWrapper :=
  match h : set.getPrimary with
  | none => .error ⟨.invalidArgument, "prehash_set must have a primary"⟩
  | some primary =>
    if holdsRaw walk set then
      .error ⟨.invalidArgument, "Prehash primitive does not allow raw output prefixes, use the WITH_ID_REQUIREMENT output " ++
        "prefix instead."⟩
    else .ok ⟨set, primary, h⟩

def PrehashSetWrapper.compute (wrapper : PrehashSetWrapper) (data : Bytes) : Except Status Bytes :=
  match wrapper.primary.primitive.compute (legacyData wrapper.primary.outputPrefixType data) with
  | .error e => .error e
  | .ok prehash => .ok (getPrehashPrefix (some wrapper.primary.keyId) ++ prehash)

abbrev PrehashSignSetWrapper := SetWithPrimary SignPrehash

/-- `SignPrehashWrapper::Wrap`. -/
def signPrehashWrap (walk : PrimitivesMap SignPrehash → PrimitivesMap SignPrehash) (set : PrimitiveSet SignPrehash) :
    Except Status PrehashSignSetWrapper :=
  match validateSet "prehash_sign_set" set with
  | .error e => .error e
  | .ok wrapper =>
    if holdsRaw walk set then
      .error ⟨.invalidArgument, "Prehash sign primitive does not allow raw output prefixes."⟩
    else .ok wrapper

namespace PrehashSignSetWrapper

/-- The entry that `Sign` uses. -/
def signingEntry (wrapper : PrehashSignSetWrapper) (walk : PrimitivesMap SignPrehash → PrimitivesMap SignPrehash)
    (prehash : Bytes) : Except Status (PrimitiveEntry SignPrehash) :=
  if prehash.length < prehashPrefixSize then .error ⟨.invalidArgument, "Prehash is missing required prefix."⟩
  else if prehash.head? ≠ some prehashStartByte then
    .error ⟨.invalidArgument, "Prehash does not start with Prehash prefix byte."⟩
  else
    -- the next four bytes following the start byte should contain the key id
    let prehashKeyId := loadBigEndian32 (prehash.drop 1)
    match (wrapper.set.getAll walk).find? fun entry => decide (entry.keyId = prehashKeyId) with
    | none => .error ⟨.notFound, "Could not find prehash signing key that matches prehash key id."⟩
    | some entry => .ok entry

/-- `Sign`; LEGACY keys are not special here, the prehash has their suffix already. -/
def sign (wrapper : PrehashSignSetWrapper) (walk : PrimitivesMap SignPrehash → PrimitivesMap SignPrehash)
    (random prehash : Bytes) : Except Status Bytes :=
  match wrapper.signingEntry walk prehash with
  | .error e => .error e
  | .ok entry =>
    match entry.primitive.sign random (prehash.drop prehashPrefixSize) with
    | .error e => .error e
    | .ok signature => .ok (entry.identifier ++ signature)

end PrehashSignSetWrapper

/-! ## The key of a prehash -/

theorem getPrehashPrefix_size (keyId : UInt32) : (getPrehashPrefix (some keyId)).length = prehashPrefixSize := rfl

/-- Five bytes of which the first is the start byte name a key. -/
theorem prehash_names {prehash : Bytes} (hlen : ¬ prehash.length < prehashPrefixSize)
    (hstart : prehash.head? = some prehashStartByte) :
    prehash = getPrehashPrefix (some (loadBigEndian32 (prehash.drop 1))) ++ prehash.drop prehashPrefixSize := by
  match prehash, hlen, hstart with
  | [], _, hstart => cases hstart
  | [_], hlen, _ | [_, _], hlen, _ | [_, _, _], hlen, _ | [_, _, _, _], hlen, _ => exact absurd (by simp [prehashPrefixSize]) hlen
  | b :: b₀ :: b₁ :: b₂ :: b₃ :: rest, _, hstart =>
    obtain rfl : b = prehashStartByte := Option.some.inj hstart
    change _ = prehashStartByte :: (bigEndian32 (loadBigEndian32 (b₀ :: b₁ :: b₂ :: b₃ :: rest)) ++ rest)
    rw [bigEndian32_load]
    rfl

section Signing
variable {K : Type} {getters : PrimitiveGetters K SignPrehash} {keyset : Keyset} {wrapper : PrehashSignSetWrapper}
  {walk : PrimitivesMap SignPrehash → PrimitivesMap SignPrehash}

theorem PrehashSignSetWrapper.mem_getAll (hset : primitiveSetOf getters keyset = .ok wrapper.set)
    (hwalk : ∀ map, (walk map).Perm map) (entry : PrimitiveEntry SignPrehash) :
    entry ∈ wrapper.set.getAll walk ↔ entry ∈ wrapper.set.getAllInKeysetOrder := by
  obtain ⟨-, -, hconsistent⟩ := (primitiveSet_of_keyset hwalk).2.1 keyset _ hset
  exact hconsistent.getAll.mem_iff

/-- **The entry that `Sign` uses is the one that the prehash names.** -/
theorem PrehashSignSetWrapper.signingEntry_ok (hset : primitiveSetOf getters keyset = .ok wrapper.set)
    (hwalk : ∀ map, (walk map).Perm map) {prehash : Bytes} {entry : PrimitiveEntry SignPrehash}
    (h : wrapper.signingEntry walk prehash = .ok entry) :
    (∃ key ∈ enabledKeys keyset.key, EntryFor getters key entry) ∧
      prehash = getPrehashPrefix (some entry.keyId) ++ prehash.drop prehashPrefixSize := by
  unfold signingEntry at h
  split at h
  · cases h
  · rename_i hlen
    split at h
    · cases h
    · rename_i hstart
      dsimp only at h
      split at h
      · cases h
      · rename_i found hfind
        cases h
        have hid : entry.keyId = loadBigEndian32 (prehash.drop 1) := by simpa using List.find?_some hfind
        have hmem := (mem_getAll hset hwalk entry).1 (List.mem_of_find?_eq_some hfind)
        refine ⟨exists_of_forall₂ (primitiveSetOf_entries hset).1.flip entry hmem, ?_⟩
        rw [hid]
        exact prehash_names hlen (not_not.1 hstart)

/-- The signature was made with this key, of what comes after the prefix that names the key. -/
def SignedBy (getters : PrimitiveGetters K SignPrehash) (key : KeysetKey) (random prehash signature : Bytes) : Prop :=
  ∃ primitive rest identifier rawSignature, primitiveForKey getters key = .ok (some primitive) ∧
    prehash = 0xff :: (bigEndian32 key.keyId ++ rest) ∧ identifierOf (keyInfoFromKey key) = .ok identifier ∧
    primitive.sign random rest = .ok rawSignature ∧ signature = identifier ++ rawSignature

/-- **What `Sign` returns was made with an ENABLED key, the one that the prehash names.** -/
theorem PrehashSignSetWrapper.sign_ok (hset : primitiveSetOf getters keyset = .ok wrapper.set)
    (hwalk : ∀ map, (walk map).Perm map) {random prehash signature : Bytes}
    (h : wrapper.sign walk random prehash = .ok signature) :
    ∃ key ∈ enabledKeys keyset.key, SignedBy getters key random prehash signature := by
  unfold sign at h
  split at h
  · cases h
  · rename_i entry hentry
    obtain ⟨⟨key, hkey, hfor⟩, hprehash⟩ := signingEntry_ok hset hwalk hentry
    split at h
    · cases h
    · rename_i rawSignature hsign
      cases h
      rw [hfor.keyId] at hprehash
      exact ⟨key, hkey, _, _, _, rawSignature, hfor.primitive, hprehash, hfor.identifier, hsign, rfl⟩

/-- A prehash that names an ENABLED key is signed with that key. -/
theorem PrehashSignSetWrapper.signingEntry_prefix (hset : primitiveSetOf getters keyset = .ok wrapper.set)
    (hwalk : ∀ map, (walk map).Perm map) (hdistinct : keyset.ids.Nodup) {key : KeysetKey}
    (hkey : key ∈ enabledKeys keyset.key) (rest : Bytes) :
    ∃ entry, wrapper.signingEntry walk (getPrehashPrefix (some key.keyId) ++ rest) = .ok entry ∧
      EntryFor getters key entry := by
  have hload : loadBigEndian32 ((getPrehashPrefix (some key.keyId) ++ rest).drop 1) = key.keyId :=
    loadBigEndian32_append key.keyId rest
  have hlen : ¬ (getPrehashPrefix (some key.keyId) ++ rest).length < prehashPrefixSize := by
    rw [List.length_append, getPrehashPrefix_size]
    omega
  have hstart : ¬ (getPrehashPrefix (some key.keyId) ++ rest).head? ≠ some prehashStartByte := not_not.2 rfl
  unfold signingEntry
  rw [if_neg hlen, if_neg hstart, hload]
  dsimp only
  cases hfind : (wrapper.set.getAll walk).find? fun entry => decide (entry.keyId = key.keyId) with
  | none =>
    obtain ⟨entry, hmem, hentry⟩ := exists_of_forall₂ (primitiveSetOf_entries hset).1 key hkey
    have hnone := List.find?_eq_none.1 hfind entry ((mem_getAll hset hwalk entry).2 hmem)
    exact absurd (by simpa using hentry.keyId) hnone
  | some entry =>
    have hid : entry.keyId = key.keyId := by simpa using List.find?_some hfind
    have hmem := (mem_getAll hset hwalk entry).1 (List.mem_of_find?_eq_some hfind)
    obtain ⟨key', hkey', hentry⟩ := exists_of_forall₂ (primitiveSetOf_entries hset).1.flip entry hmem
    obtain rfl : key' = key := List.inj_on_of_nodup_map hdistinct (List.mem_filter.1 hkey').1 (List.mem_filter.1 hkey).1
      (hentry.keyId.symm.trans hid)
    exact ⟨entry, rfl, hentry⟩

end Signing

/-! ## Three keysets -/

/-- The primitives of one key pair: the prehash of a message is signed, and the signature verifies. -/
def PrehashCorrect (p : Prehash) (s : SignPrehash) (v : PublicKeyVerify) : Prop :=
  ∀ random message, ∃ prehash signature, p.compute message = .ok prehash ∧ s.sign random prehash = .ok signature ∧
    CryptoFormat.nonRawPrefixSize < signature.length ∧ v.verify signature message = .ok ()

theorem prehashWrap_ok {walk : PrimitivesMap Prehash → PrimitivesMap Prehash} {set : PrimitiveSet Prehash}
    {wrapper : PrehashSetWrapper} (h : prehashWrap walk set = .ok wrapper) : set = wrapper.set := by
  unfold prehashWrap at h
  split at h
  · cases h
  · split at h
    · cases h
    · cases h
      rfl

theorem signPrehashWrap_ok {walk : PrimitivesMap SignPrehash → PrimitivesMap SignPrehash} {set : PrimitiveSet SignPrehash}
    {wrapper : PrehashSignSetWrapper} (h : signPrehashWrap walk set = .ok wrapper) : set = wrapper.set := by
  unfold signPrehashWrap at h
  split at h
  · cases h
  · rename_i validated hvalid
    split at h
    · cases h
    · cases h
      exact (validateSet_ok hvalid).symm

section Keysets
variable {K₁ K₂ K₃ : Type} {g₁ : PrimitiveGetters K₁ Prehash} {g₂ : PrimitiveGetters K₂ SignPrehash}
  {g₃ : PrimitiveGetters K₃ PublicKeyVerify} {keyset₁ keyset₂ keyset₃ : Keyset} {w₁ : PrehashSetWrapper}
  {w₂ : PrehashSignSetWrapper} {w₃ : PublicKeyVerifySetWrapper}
  {walk : PrimitivesMap SignPrehash → PrimitivesMap SignPrehash}

/-- A signature by a key is accepted by the same key of another keyset, after the key's own prefix. -/
theorem PublicKeyVerifySetWrapper.verify_signature (h₃ : keysetWrap g₃ publicKeyVerifyWrap keyset₃ = .ok w₃)
    {key : KeysetKey} (hkey : key ∈ enabledKeys keyset₃.key) {v : PublicKeyVerify}
    (hv : primitiveForKey g₃ key = .ok (some v)) {identifier signature message : Bytes}
    (hid : identifierOf (keyInfoFromKey key) = .ok identifier) (hlong : CryptoFormat.nonRawPrefixSize < signature.length)
    (hok : v.verify signature (legacyData key.outputPrefixType message) = .ok ()) :
    w₃.verify (identifier ++ signature) message = .ok () := by
  obtain ⟨set₃, hset₃, rfl⟩ := keysetWrap_verify h₃
  have haccepts : KeyAccepts g₃ (verifyAttempt message) key (identifier ++ signature) () := by
    refine ⟨v, hv, ?_⟩
    by_cases hnil : identifier = []
    · rw [hnil] at hid ⊢
      exact .inl ⟨(identifierOf_eq_nil hid).1 rfl, hok⟩
    · exact .inr ⟨identifier, signature, hid, identifierOf_size hid hnil, List.ne_nil_of_length_pos (by omega), rfl, hok⟩
  have hlen : CryptoFormat.nonRawPrefixSize < (identifier ++ signature).length := by
    rw [List.length_append]
    omega
  rcases (verify_decides (primitiveSetOf_wellFiled hset₃) (identifier ++ signature) message).keys hset₃ with
    ⟨r, hr, -⟩ | ⟨-, hnone⟩
  · exact hr
  · exact absurd haccepts (hnone hlen key hkey ())

/-- What the primary key of the hashing keyset begins is signed and verified by the same key of the other two. -/
theorem PrehashSetWrapper.compute_sign_verify (hset₁ : primitiveSetOf g₁ keyset₁ = .ok w₁.set)
    (hset₂ : primitiveSetOf g₂ keyset₂ = .ok w₂.set) (h₃ : keysetWrap g₃ publicKeyVerifyWrap keyset₃ = .ok w₃)
    (hwalk : ∀ map, (walk map).Perm map) {key₁ key₂ key₃ : KeysetKey} (hrot₂ : Rotation keyset₁ keyset₂ key₁ key₂)
    (hrot₃ : Rotation keyset₁ keyset₃ key₁ key₃)
    (hcorrect : ∀ p s v, primitiveForKey g₁ key₁ = .ok (some p) → primitiveForKey g₂ key₂ = .ok (some s) →
      primitiveForKey g₃ key₃ = .ok (some v) → PrehashCorrect p s v)
    (random message : Bytes) :
    ∃ prehash signature, w₁.compute message = .ok prehash ∧ w₂.sign walk random prehash = .ok signature ∧
      w₃.verify signature message = .ok () := by
  obtain ⟨set₃, hset₃, -⟩ := keysetWrap_verify h₃
  have hprimary := primary_entry hset₁ hrot₂.enabled₁ hrot₂.primary w₁.isPrimary
  obtain ⟨entry₃, -, hentry₃⟩ := exists_of_forall₂ (primitiveSetOf_entries hset₃).1 key₃ hrot₃.enabled₂
  -- all three keys have the id and the prefix type of the first
  have hid : w₁.primary.keyId = key₂.keyId := hprimary.keyId.trans hrot₂.keyId.symm
  have hinfo : identifierOf (keyInfoFromKey key₃) = identifierOf (keyInfoFromKey key₂) := by
    unfold identifierOf CryptoFormat.getOutputPrefix keyInfoFromKey
    rw [hrot₃.keyId, hrot₂.keyId, hrot₃.outputPrefixType, hrot₂.outputPrefixType]
  obtain ⟨entry₂, -, hentry₂⟩ := exists_of_forall₂ (primitiveSetOf_entries hset₂).1 key₂ hrot₂.enabled₂
  obtain ⟨prehash, signature, hcompute, hsign, hlong, hverify⟩ := hcorrect _ _ _ hprimary.primitive hentry₂.primitive
    hentry₃.primitive random (legacyData w₁.primary.outputPrefixType message)
  obtain ⟨entry, hentry, hfor⟩ := PrehashSignSetWrapper.signingEntry_prefix hset₂ hwalk hrot₂.distinct₂ hrot₂.enabled₂
    prehash
  have hsame : entry.primitive = entry₂.primitive := by
    have := hfor.primitive
    rw [hentry₂.primitive] at this
    exact (Option.some.inj (Except.ok.inj this)).symm
  refine ⟨getPrehashPrefix (some key₂.keyId) ++ prehash, entry.identifier ++ signature, ?_, ?_, ?_⟩
  · unfold PrehashSetWrapper.compute
    rw [hcompute, hid]
  · unfold PrehashSignSetWrapper.sign
    rw [hentry]
    dsimp only
    rw [← getPrehashPrefix_size key₂.keyId, List.drop_left, hsame, hsign]
  · rw [hprimary.outputPrefixType, ← hrot₃.outputPrefixType] at hverify
    exact PublicKeyVerifySetWrapper.verify_signature h₃ hrot₃.enabled₂ hentry₃.primitive (hinfo.trans hfor.identifier)
      hlong hverify

/-- A prehash names the primary key. -/
theorem PrehashSetWrapper.compute_names (hset₁ : primitiveSetOf g₁ keyset₁ = .ok w₁.set) {message rest : Bytes}
    {keyId : UInt32} (hcompute : w₁.compute message = .ok (getPrehashPrefix (some keyId) ++ rest)) :
    keyId = keyset₁.primaryKeyId := by
  obtain ⟨key, -, hid, hprimary⟩ := exists_primary_key hset₁ w₁.isPrimary
  unfold PrehashSetWrapper.compute at hcompute
  split at hcompute
  · cases hcompute
  · have hprehash := Except.ok.inj hcompute
    have hload := congrArg (fun bs => loadBigEndian32 (bs.drop 1)) hprehash
    have hleft : ∀ (id : UInt32) (rest : Bytes), loadBigEndian32 ((getPrehashPrefix (some id) ++ rest).drop 1) = id :=
      fun id rest => loadBigEndian32_append id rest
    rw [hleft, hleft, hprimary.keyId, hid] at hload
    exact hload.symm

/-- **Prehash signing across keysets**: the primary key of the hashing keyset signs and verifies wherever it is enabled;
what `Sign` returns was made with the one ENABLED key that the prehash names; and of a prehash that was computed, this is
the primary key of the hashing keyset. -/
theorem prehashSigning {walk₁ : PrimitivesMap Prehash → PrimitivesMap Prehash}
    {walk₂ : PrimitivesMap SignPrehash → PrimitivesMap SignPrehash}
    (h₁ : keysetWrap g₁ (prehashWrap walk₁) keyset₁ = .ok w₁) (h₂ : keysetWrap g₂ (signPrehashWrap walk₂) keyset₂ = .ok w₂)
    (h₃ : keysetWrap g₃ publicKeyVerifyWrap keyset₃ = .ok w₃) (hwalk : ∀ map, (walk map).Perm map) :
    (∀ key₁ key₂ key₃, Rotation keyset₁ keyset₂ key₁ key₂ → Rotation keyset₁ keyset₃ key₁ key₃ →
      (∀ p s v, primitiveForKey g₁ key₁ = .ok (some p) → primitiveForKey g₂ key₂ = .ok (some s) →
        primitiveForKey g₃ key₃ = .ok (some v) → PrehashCorrect p s v) →
      ∀ random message, ∃ prehash signature, w₁.compute message = .ok prehash ∧
        w₂.sign walk random prehash = .ok signature ∧ w₃.verify signature message = .ok ()) ∧
    (∀ random prehash signature, w₂.sign walk random prehash = .ok signature →
      ∃ key ∈ enabledKeys keyset₂.key, SignedBy g₂ key random prehash signature ∧
        (keyset₂.ids.Nodup → ∀ other ∈ enabledKeys keyset₂.key, other.keyId = key.keyId → other = key)) ∧
    ∀ random message prehash signature, w₁.compute message = .ok prehash →
      w₂.sign walk random prehash = .ok signature →
      ∃ key ∈ enabledKeys keyset₂.key, key.keyId = keyset₁.primaryKeyId ∧ SignedBy g₂ key random prehash signature := by
  obtain ⟨set₁, hset₁, hwrap₁⟩ := keysetWrap_ok h₁
  obtain rfl := prehashWrap_ok hwrap₁
  obtain ⟨set₂, hset₂, hwrap₂⟩ := keysetWrap_ok h₂
  obtain rfl := signPrehashWrap_ok hwrap₂
  refine ⟨?_, ?_, ?_⟩
  · intro key₁ key₂ key₃ hrot₂ hrot₃ hcorrect random message
    exact PrehashSetWrapper.compute_sign_verify hset₁ hset₂ h₃ hwalk hrot₂ hrot₃ hcorrect random message
  · intro random prehash signature h
    obtain ⟨key, hkey, hsigned⟩ := PrehashSignSetWrapper.sign_ok hset₂ hwalk h
    refine ⟨key, hkey, hsigned, fun hdistinct other hother hid => ?_⟩
    exact List.inj_on_of_nodup_map hdistinct (List.mem_filter.1 hother).1 (List.mem_filter.1 hkey).1 hid
  · intro random message prehash signature hcompute h
    obtain ⟨key, hkey, hsigned⟩ := PrehashSignSetWrapper.sign_ok hset₂ hwalk h
    refine ⟨key, hkey, ?_, hsigned⟩
    obtain ⟨primitive, rest, identifier, rawSignature, -, hprehash, -⟩ := hsigned
    rw [hprehash] at hcompute
    exact PrehashSetWrapper.compute_names hset₁ hcompute

end Keysets

/-- A key whose prehash is the message, and whose signatures end in six bytes. -/
def appendPrehash : Prehash := ⟨fun data => .ok data⟩

def appendSignPrehash : SignPrehash := ⟨fun _ prehash => .ok (prehash ++ [1, 2, 3, 4, 5, 6])⟩

def appendVerify : PublicKeyVerify :=
  ⟨fun signature data => if signature = data ++ [1, 2, 3, 4, 5, 6] then .ok () else .error ⟨.invalidArgument, ""⟩⟩

theorem appendPrehash_correct : PrehashCorrect appendPrehash appendSignPrehash appendVerify := by
  intro random message
  refine ⟨message, message ++ [1, 2, 3, 4, 5, 6], rfl, rfl, ?_, if_pos rfl⟩
  rw [List.length_append]
  exact Nat.lt_of_lt_of_le (by decide) (Nat.le_add_left _ _)

/-- Every key has the primitive. -/
def constGetters {P : Type} (primitive : P) : PrimitiveGetters Unit P where
  parseKey := fun _ => .error ⟨.notFound, ""⟩
  primitiveGetter := fun _ => .ok (some primitive)
  primitiveGetterFromKey := fun _ => .error ⟨.notFound, ""⟩

def hashKeys : Keyset := ⟨5, [taggedKey 8 9 .tink, taggedKey 7 5 .legacy]⟩

def signKeys : Keyset := ⟨9, [taggedKey 7 5 .legacy, taggedKey 8 9 .tink]⟩

def verifyKeys : Keyset := ⟨11, [taggedKey 6 11 .withIdRequirement, taggedKey 7 5 .legacy]⟩

theorem hashKeys_signKeys : Rotation hashKeys signKeys (taggedKey 7 5 .legacy) (taggedKey 7 5 .legacy) where
  distinct₁ := by decide
  distinct₂ := by decide
  enabled₁ := by decide
  primary := rfl
  enabled₂ := by decide
  keyId := rfl
  outputPrefixType := rfl

theorem hashKeys_verifyKeys : Rotation hashKeys verifyKeys (taggedKey 7 5 .legacy) (taggedKey 7 5 .legacy) where
  distinct₁ := by decide
  distinct₂ := by decide
  enabled₁ := by decide
  primary := rfl
  enabled₂ := by decide
  keyId := rfl
  outputPrefixType := rfl

theorem prehashSigning_legacyKey :
    ∃ w₁ w₂ w₃ prehash signature, keysetWrap (constGetters appendPrehash) (prehashWrap id) hashKeys = .ok w₁ ∧
      keysetWrap (constGetters appendSignPrehash) (signPrehashWrap id) signKeys = .ok w₂ ∧
      keysetWrap (constGetters appendVerify) publicKeyVerifyWrap verifyKeys = .ok w₃ ∧
      PrehashSetWrapper.compute w₁ [40] = .ok prehash ∧ PrehashSignSetWrapper.sign w₂ id [] prehash = .ok signature ∧
      PublicKeyVerifySetWrapper.verify w₃ signature [40] = .ok () ∧
      ∃ key, key.keyId = 5 ∧ SignedBy (constGetters appendSignPrehash) key [] prehash signature := by
  obtain ⟨w₁, h₁⟩ : ∃ w₁, keysetWrap (constGetters appendPrehash) (prehashWrap id) hashKeys = .ok w₁ := ⟨_, rfl⟩
  obtain ⟨w₂, h₂⟩ : ∃ w₂, keysetWrap (constGetters appendSignPrehash) (signPrehashWrap id) signKeys = .ok w₂ := ⟨_, rfl⟩
  obtain ⟨w₃, h₃⟩ : ∃ w₃, keysetWrap (constGetters appendVerify) publicKeyVerifyWrap verifyKeys = .ok w₃ := ⟨_, rfl⟩
  have hcorrect : ∀ p s v, primitiveForKey (constGetters appendPrehash) (taggedKey 7 5 .legacy) = .ok (some p) →
      primitiveForKey (constGetters appendSignPrehash) (taggedKey 7 5 .legacy) = .ok (some s) →
      primitiveForKey (constGetters appendVerify) (taggedKey 7 5 .legacy) = .ok (some v) → PrehashCorrect p s v := by
    intro p s v hp hs hv
    cases hp
    cases hs
    cases hv
    exact appendPrehash_correct
  have hwalk : ∀ map : PrimitivesMap SignPrehash, (id map).Perm map := fun _ => .refl _
  obtain ⟨hsigns, -, hprimary⟩ := prehashSigning h₁ h₂ h₃ hwalk
  obtain ⟨prehash, signature, hcompute, hsign, hverify⟩ :=
    hsigns _ _ _ hashKeys_signKeys hashKeys_verifyKeys hcorrect [] [40]
  obtain ⟨key, -, hid, hsigned⟩ := hprimary [] [40] prehash signature hcompute hsign
  exact ⟨w₁, w₂, w₃, prehash, signature, h₁, h₂, h₃, hcompute, hsign, hverify, key, hid, hsigned⟩

end Tink
