import Mathlib.Data.Nat.Size
import Mathlib.Data.List.Dedup
import Mathlib.Logic.Equiv.List
import TinkCc.JwkSetKeys
import TinkCc.JwtSetWrapper
/-!
# JwkSetRoundTrip — what is exported is imported again

A keyset of JWT keys, exported as a JWK set and imported from it, has the same keys without an id requirement.  Each of them
accepts the tokens of the original: the kid of a TINK key is a custom kid then, which a token need not have.
-/
namespace Tink

/-! ## Verifiers -/

/-- `ValidateRsaModulusSize`. -/
def validateRsaModulusSize (fipsMode : Bool) (modulusSize : Nat) : Except Status Unit :=
  if modulusSize < 2048 then
    .error ⟨.invalidArgument, s!"Modulus size is {modulusSize} only modulus size >= 2048-bit is supported"⟩
  else if fipsMode ∧ modulusSize ≠ 2048 ∧ modulusSize ≠ 3072 then
    .error ⟨.internal, s!"Modulus size is {modulusSize} only modulus size 2048 or 3072 is supported."⟩
  else .ok ()

/-- `subtle::EcdsaVerifyBoringSsl`, `RsaSsaPkcs1VerifyBoringSsl` and `RsaSsaPssVerifyBoringSsl`, with the hash of the
algorithm. -/
structure JwtRawVerifiers where
  fipsMode : Bool
  ecdsa    : JwtAlgorithm → (x y : Nat) → Except Status PublicKeyVerify
  rsa      : RsaFamily → JwtAlgorithm → (n e : Nat) → Except Status PublicKeyVerify

/-- `ValidateAlgorithm`. -/
def validateAlgorithm (name : String) : JwtAlgorithmProto → Except Status JwtAlgorithm
  | .known algorithm => .ok algorithm
  | _ => .error ⟨.invalidArgument, s!"Unsupported {name} Algorithm"⟩

namespace JwtRawVerifiers
variable (verifiers : JwtRawVerifiers)

/-- `ValidateKey` of the key managers, with the algorithm it accepts. -/
def validateKey : JwtPublicKeyProto → Except Status JwtAlgorithm
  | .ecdsa key => do
    validateVersion key.version 0
    validateAlgorithm "Ecdsa" key.algorithm
  | .rsa family key => do
    validateVersion key.version 0
    validateRsaModulusSize verifiers.fipsMode (BigEndian.value key.n).size
    validateRsaPublicExponent (BigEndian.value key.e)
    validateAlgorithm (match family with | .rs => "RSA SSA PKCS1" | .ps => "RSA SSA PSS") key.algorithm

/-- `Create` of the raw key managers. -/
def rawVerify (algorithm : JwtAlgorithm) : JwtPublicKeyProto → Except Status PublicKeyVerify
  | .ecdsa key => verifiers.ecdsa algorithm (BigEndian.value key.x) (BigEndian.value key.y)
  | .rsa family key => verifiers.rsa family algorithm (BigEndian.value key.n) (BigEndian.value key.e)

/-- `AlgorithmName`. -/
def algorithmName (algorithm : JwtAlgorithm) : JwtPublicKeyProto → Bytes
  | .ecdsa _ => ascii (esAlgorithmName algorithm)
  | .rsa family _ => ascii (family.algorithmName algorithm)

/-- `GetPrimitive` of the key managers, on the parsed key. -/
def create (publicKey : JwtPublicKeyProto) : Except Status JwtPublicKeyVerifyImpl := do
  let algorithm ← verifiers.validateKey publicKey
  let verify ← verifiers.rawVerify algorithm publicKey
  match publicKey.customKid with
  | some customKid => return .rawWithCustomKid verify (algorithmName algorithm publicKey) customKid
  | none => return .raw verify (algorithmName algorithm publicKey)

end JwtRawVerifiers

section
variable {K : Type} (types : JwtKeyTypes K) (verifiers : JwtRawVerifiers)

/-- `GetPrimitive` of the key managers. -/
def getJwtVerifier (keyData : KeyData) : Except Status JwtPublicKeyVerifyImpl :=
  match types.parse keyData.typeUrl keyData.value with
  | none => .error ⟨.invalidArgument, s!"Could not parse key_data.value as key type '{keyData.typeUrl}'."⟩
  | some publicKey => verifiers.create publicKey

/-- `VerifyAndDecode` with one key of a keyset. -/
def verifyWithKey (key : KeysetKey) (compact : Bytes) (validator : JwtValidator) (clock : AbslTime) :
    Except Status VerifiedJwt := do
  let impl ← getJwtVerifier types verifiers key.getKeyData
  impl.verifyAndDecodeWithKid types.libraries compact validator clock
    (getKid types.libraries key.keyId key.outputPrefixType)

end

/-- What a mode asks is asked less strictly of a custom kid. -/
theorem KidMode.ofKids_or {kid customKid : Option Bytes} {mode : KidMode} (h : KidMode.ofKids kid customKid = some mode) :
    ∃ mode', KidMode.ofKids none (kid.or customKid) = some mode' ∧ ∀ header, mode.Obeys header → mode'.Obeys header := by
  cases kid with
  | some kid =>
    cases customKid with
    | some customKid => cases h
    | none =>
      cases h
      refine ⟨.custom kid, rfl, ?_⟩
      intro header hobeys value hvalue
      exact Option.some.inj (hvalue.symm.trans hobeys)
  | none => exact ⟨mode, h, fun _ hobeys => hobeys⟩

theorem TokenAccepted.mono {libraries : JwtLibraries} {algorithm : Bytes} {mode mode' : KidMode}
    {verify : Bytes → Bytes → Except Status Unit} {validator : JwtValidator} {clock : AbslTime} {compact : Bytes}
    {verified : VerifiedJwt} (hmode : ∀ header, mode.Obeys header → mode'.Obeys header)
    (h : TokenAccepted libraries algorithm mode verify validator clock compact verified) :
    TokenAccepted libraries algorithm mode' verify validator clock compact verified := by
  obtain ⟨encodedHeader, encodedPayload, encodedTag, hthree, htag, jsonHeader, jsonPayload, header, hparts⟩ := h
  have haccepted : HeaderAccepted algorithm mode' header :=
    { hparts.headerAccepted with kid := hmode header hparts.headerAccepted.kid }
  exact ⟨encodedHeader, encodedPayload, encodedTag, hthree, htag, jsonHeader, jsonPayload, header,
    { hparts with headerAccepted := haccepted }⟩

section
variable {verifiers : JwtRawVerifiers} {publicKey publicKey' : JwtPublicKeyProto} {algorithm : JwtAlgorithm}

theorem JwtRawVerifiers.create_ok {impl : JwtPublicKeyVerifyImpl} (h : verifiers.create publicKey = .ok impl) :
    ∃ algorithm verify, verifiers.validateKey publicKey = .ok algorithm ∧
      verifiers.rawVerify algorithm publicKey = .ok verify ∧
      impl = ⟨⟨algorithmName algorithm publicKey, publicKey.customKid, none⟩, verify⟩ := by
  obtain ⟨algorithm, hvalid, h⟩ := bind_eq_ok h
  obtain ⟨verify, hverify, h⟩ := bind_eq_ok h
  refine ⟨algorithm, verify, hvalid, hverify, ?_⟩
  split at h
  · rename_i customKid hkid
    cases h
    rw [hkid]
    rfl
  · rename_i hkid
    cases h
    rw [hkid]
    rfl

theorem JwtRawVerifiers.create_eq {verify : PublicKeyVerify} (hvalid : verifiers.validateKey publicKey = .ok algorithm)
    (hverify : verifiers.rawVerify algorithm publicKey = .ok verify) :
    verifiers.create publicKey = .ok ⟨⟨algorithmName algorithm publicKey, publicKey.customKid, none⟩, verify⟩ := by
  unfold JwtRawVerifiers.create
  rw [hvalid]
  dsimp only [bind, Except.bind]
  rw [hverify]
  dsimp only
  split
  · rename_i customKid hkid
    rw [hkid]
    rfl
  · rename_i hkid
    rw [hkid]
    rfl

theorem validateAlgorithm_ok {name : String} {proto : JwtAlgorithmProto} (h : validateAlgorithm name proto = .ok algorithm) :
    proto = .known algorithm := by
  cases proto with
  | known a => exact congrArg JwtAlgorithmProto.known (Except.ok.inj h)
  | _ => cases h

/-- What was accepted is accepted with version 0. -/
theorem JwtRawVerifiers.validateKey_imported (h : verifiers.validateKey publicKey = .ok algorithm) (kid : Option Bytes) :
    publicKey.algorithm = .known algorithm ∧ verifiers.validateKey (publicKey.imported algorithm kid) = .ok algorithm := by
  cases publicKey with
  | ecdsa key =>
    obtain ⟨⟨⟩, -, h⟩ := bind_eq_ok h
    exact ⟨validateAlgorithm_ok h, rfl⟩
  | rsa family key =>
    obtain ⟨⟨⟩, -, h⟩ := bind_eq_ok h
    obtain ⟨⟨⟩, hmodulus, h⟩ := bind_eq_ok h
    obtain ⟨⟨⟩, hexponent, h⟩ := bind_eq_ok h
    refine ⟨validateAlgorithm_ok h, ?_⟩
    unfold JwtRawVerifiers.validateKey JwtPublicKeyProto.imported
    dsimp only
    rw [hmodulus, hexponent]
    rfl

theorem JwtPublicKeyProto.SameValues.rawVerify (h : publicKey.SameValues publicKey') (verifiers : JwtRawVerifiers)
    (algorithm : JwtAlgorithm) :
    verifiers.rawVerify algorithm publicKey' = verifiers.rawVerify algorithm publicKey ∧
      JwtRawVerifiers.algorithmName algorithm publicKey' = JwtRawVerifiers.algorithmName algorithm publicKey := by
  cases publicKey with
  | ecdsa key =>
    cases publicKey' with
    | ecdsa key' =>
      dsimp only [JwtRawVerifiers.rawVerify]
      rw [h.1, h.2]
      exact ⟨rfl, rfl⟩
    | rsa family' key' => cases h
  | rsa family key =>
    cases publicKey' with
    | ecdsa key' => cases h
    | rsa family' key' =>
      obtain ⟨rfl, hn, he⟩ := h
      dsimp only [JwtRawVerifiers.rawVerify]
      rw [hn, he]
      exact ⟨rfl, rfl⟩

variable {K : Type} {types : JwtKeyTypes K} {key : KeysetKey}

theorem getJwtVerifier_eq (h : IsJwtPublicKey types key publicKey algorithm) :
    getJwtVerifier types verifiers key.getKeyData = verifiers.create publicKey := by
  unfold getJwtVerifier
  rw [h.parses]

/-- **What the key verifies, the imported key verifies.** -/
theorem verifyWithKey_imported (base64 : types.libraries.Base64) (hkey : IsJwtPublicKey types key publicKey algorithm)
    {compact : Bytes} {validator : JwtValidator} {clock : AbslTime} {verified : VerifiedJwt}
    (h : verifyWithKey types verifiers key compact validator clock = .ok verified) (keyId : UInt32) :
    verifyWithKey types verifiers
        (importedKey types (publicKey.imported algorithm (kidToExport types key publicKey.customKid)) keyId)
        compact validator clock = .ok verified := by
  obtain ⟨impl, himpl, h⟩ := bind_eq_ok h
  rw [getJwtVerifier_eq hkey] at himpl
  obtain ⟨algorithm', verify, hvalid, hverify, rfl⟩ := JwtRawVerifiers.create_ok himpl
  obtain ⟨hknown, hvalid'⟩ := JwtRawVerifiers.validateKey_imported hvalid (kidToExport types key publicKey.customKid)
  cases hkey.known.symm.trans hknown
  have hsame := JwtPublicKeyProto.imported_sameValues hkey.onCurve (kidToExport types key publicKey.customKid)
  obtain ⟨hraw, hname⟩ := hsame.rawVerify verifiers algorithm
  unfold verifyWithKey
  rw [getJwtVerifier_eq (hkey.imported base64 keyId), JwtRawVerifiers.create_eq hvalid' (hraw.trans hverify), hname,
    JwtPublicKeyProto.imported_customKid]
  obtain ⟨mode, hmode, haccepted⟩ := JwtPublicKeyVerifyImpl.verify_ok.1 h
  obtain ⟨-, hkids⟩ := JwtKeyFields.modeFor_some.1 hmode
  obtain ⟨mode', hmode', hobeys⟩ := KidMode.ofKids_or hkids
  dsimp only [bind, Except.bind]
  refine JwtPublicKeyVerifyImpl.verify_ok.2 ⟨mode', JwtKeyFields.modeFor_some.2 ⟨rfl, ?_⟩, haccepted.mono hobeys⟩
  exact hmode'

end

/-! ## The loops -/

section
variable {K : Type} {types : JwtKeyTypes K}

theorem JsonStruct.Same.getStringItem {keyStruct keyStruct' : JsonStruct} (h : keyStruct.Same keyStruct') :
    Tink.getStringItem keyStruct = Tink.getStringItem keyStruct' := by
  funext name
  unfold Tink.getStringItem
  rw [h]

theorem JsonStruct.Same.hasItem {keyStruct keyStruct' : JsonStruct} (h : keyStruct.Same keyStruct') :
    Tink.hasItem keyStruct = Tink.hasItem keyStruct' := by
  funext name
  unfold Tink.hasItem
  rw [h]

/-- What is imported depends on the members alone. -/
theorem JsonStruct.Same.keyDataFromKeyStruct {keyStruct keyStruct' : JsonStruct} (h : keyStruct.Same keyStruct')
    (alg : Bytes) : Tink.keyDataFromKeyStruct types keyStruct alg = Tink.keyDataFromKeyStruct types keyStruct' alg := by
  have hops : validateKeyOpsIsVerify keyStruct = validateKeyOpsIsVerify keyStruct' := by
    unfold validateKeyOpsIsVerify
    rw [h]
  unfold Tink.keyDataFromKeyStruct rsPublicKeyDataFromKeyStruct psPublicKeyDataFromKeyStruct rsaPublicKeyDataFromKeyStruct
    esPublicKeyDataFromKeyStruct getCoordinate getBase64Item validateUseIsSig expectStringItem getKidItem
  rw [h.getStringItem, h.hasItem, hops]

/-- An element of a JWK set is what was exported for a key. -/
def ReadsKey (types : JwtKeyTypes K) (value : JsonValue) (key : KeysetKey) : Prop :=
  ∃ publicKey algorithm fields, IsJwtPublicKey types key publicKey algorithm ∧ value = .struct fields ∧
    (⟨fields⟩ : JsonStruct).Same (exportedStruct types publicKey algorithm (kidToExport types key publicKey.customKid))

/-- A key was imported for an exported one. -/
def ImportedFrom (types : JwtKeyTypes K) (key key' : KeysetKey) : Prop :=
  ∃ publicKey algorithm keyId, IsJwtPublicKey types key publicKey algorithm ∧
    key' = importedKey types (publicKey.imported algorithm (kidToExport types key publicKey.customKid)) keyId

/-- More different ids than there are keys are enough. -/
theorem generateUnusedKeyId_isSome {keyset : Keyset} {draws : List UInt32} (h : keyset.key.length < draws.dedup.length) :
    ∃ keyId, generateUnusedKeyId keyset draws = some keyId := by
  apply Option.isSome_iff_exists.1
  unfold generateUnusedKeyId
  rw [List.find?_isSome]
  by_contra hall
  have hsub : draws.dedup ⊆ keyset.ids := by
    intro keyId hmem
    by_contra hnot
    exact hall ⟨keyId, List.mem_dedup.1 hmem, decide_eq_true hnot⟩
  have hle := ((List.nodup_dedup draws).subperm hsub).length_le
  rw [Keyset.ids, List.length_map] at hle
  omega

theorem keysLoop_imported (base64 : types.libraries.Base64) {draws : Nat → List UInt32} {values : List JsonValue}
    {keys : List KeysetKey} (hread : List.Forall₂ (ReadsKey types) values keys) :
    ∀ keyset : Keyset,
      (∀ n, keyset.key.length ≤ n → n < keyset.key.length + keys.length → n + 1 < (draws n).dedup.length) →
      ∃ primaryKeyId keys', keysLoop types draws values keyset = some (.ok ⟨primaryKeyId, keyset.key ++ keys'⟩) ∧
        List.Forall₂ (ImportedFrom types) keys keys' := by
  induction hread with
  | nil =>
    intro keyset _
    refine ⟨keyset.primaryKeyId, [], ?_, .nil⟩
    rw [List.append_nil]
    rfl
  | @cons value key values keys hvalue _ ih =>
    intro keyset hdraws
    obtain ⟨publicKey, algorithm, fields, hkey, rfl, hsame⟩ := hvalue
    obtain ⟨alg, halg, hdata⟩ := keyDataFromKeyStruct_exportedStruct base64 publicKey algorithm
      (kidToExport types key publicKey.customKid)
    have hid : ∃ keyId, generateUnusedKeyId
        { keyset with key := keyset.key ++ [⟨none, .unknownStatus, 0, .unknownPrefix⟩] } (draws keyset.key.length) =
          some keyId := by
      apply generateUnusedKeyId_isSome
      have hn := hdraws keyset.key.length le_rfl (by simp)
      simpa using hn
    obtain ⟨keyId, hid⟩ := hid
    rw [← hsame.getStringItem] at halg
    rw [← hsame.keyDataFromKeyStruct] at hdata
    obtain ⟨primaryKeyId, keys', hloop, himported⟩ := ih ⟨keyId, keyset.key ++
      [importedKey types (publicKey.imported algorithm (kidToExport types key publicKey.customKid)) keyId]⟩ (by
        intro n hle hlt
        simp only [List.length_append, List.length_cons, List.length_nil] at hle hlt hdraws
        exact hdraws n (by omega) (by omega))
    refine ⟨primaryKeyId, _ :: keys', ?_, .cons ⟨publicKey, algorithm, keyId, hkey, rfl⟩ himported⟩
    rw [← List.append_cons] at hloop
    rw [← hloop, keysLoop, keyStructOf, halg]
    dsimp only [Except.map]
    rw [hid]
    dsimp only
    rw [hdata]
    dsimp only
    rw [importedKey, JwtPublicKeyProto.imported_typeUrl]

/-- Imported keys are public keys. -/
theorem validateNoSecret_imported {keys keys' : List KeysetKey} (h : List.Forall₂ (ImportedFrom types) keys keys')
    (primaryKeyId : UInt32) : validateNoSecret ⟨primaryKeyId, keys'⟩ = .ok () := by
  apply validateNoSecret_of_public
  induction h with
  | nil => simp
  | cons hkey _ ih =>
    obtain ⟨_, _, _, _, rfl⟩ := hkey
    intro key'' hmem'
    rcases List.mem_cons.1 hmem' with rfl | hmem'
    · rfl
    · exact ih key'' hmem'

/-- The entries of the enabled keys. -/
theorem entriesLoop_enabled {primaryKeyId : UInt32} : ∀ {keys : List KeysetKey} {entries : List (HandleEntry (HandleKey K))},
    entriesLoop types.parseKeyWithLegacyFallback primaryKeyId keys = .ok entries →
      List.Forall₂ (fun key entry => createEntry types.parseKeyWithLegacyFallback key primaryKeyId = .ok entry)
        (keys.filter fun key => decide (key.status = .enabled)) (entries.filter fun entry => decide (entry.status = .enabled))
  | [], entries, h => by
    cases h
    exact .nil
  | key :: keys, entries, h => by
    unfold entriesLoop at h
    split at h
    · cases h
    · rename_i entry hentry
      obtain ⟨rest, hrest, rfl⟩ := map_eq_ok h
      have ih := entriesLoop_enabled hrest
      have hstatus := enabled_iff (createEntry_ok _ hentry).1.status
      by_cases he : key.status = .enabled
      · rw [List.filter_cons_of_pos (by simpa using he), List.filter_cons_of_pos (by simpa using hstatus.2 he)]
        exact .cons hentry ih
      · rw [List.filter_cons_of_neg (by simpa using he), List.filter_cons_of_neg (by simpa using mt hstatus.1 he)]
        exact ih

/-- **The entries of the imported keys**: the original ones, without id requirements. -/
theorem entriesLoop_imported (hregistered : types.registered = true) {primaryKeyId : UInt32} {keys : List KeysetKey}
    {entries : List (HandleEntry (HandleKey K))}
    (hentries : List.Forall₂ (fun key entry => createEntry types.parseKeyWithLegacyFallback key primaryKeyId = .ok entry)
      keys entries) (primaryKeyId' : UInt32) :
    ∀ {keys' : List KeysetKey}, List.Forall₂ (ImportedFrom types) keys keys' →
      ∃ entries', entriesLoop types.parseKeyWithLegacyFallback primaryKeyId' keys' = .ok entries' ∧
        entries'.map (·.key) = entries.map (·.key.asRaw) := by
  induction hentries with
  | nil =>
    intro keys' h
    cases h
    exact ⟨[], rfl, rfl⟩
  | @cons key entry keys entries hentry _ ih =>
    intro keys' h
    cases h with
    | cons hkey hkeys =>
      obtain ⟨publicKey, algorithm, keyId, hkey, rfl⟩ := hkey
      obtain ⟨entries', hloop, hmap⟩ := ih hkeys
      refine ⟨⟨entry.key.asRaw, .enabled, keyId, decide (keyId = primaryKeyId')⟩ :: entries', ?_, ?_⟩
      · unfold entriesLoop
        rw [createEntry_imported hregistered hkey hentry keyId primaryKeyId']
        dsimp only
        rw [hloop]
        rfl
      · rw [List.map_cons, List.map_cons, hmap]

theorem entriesLoop_unregistered (hregistered : types.registered = false) (primaryKeyId : UInt32)
    {keys keys' : List KeysetKey} (h : List.Forall₂ (ImportedFrom types) keys keys') :
    ∃ entries', entriesLoop types.parseKeyWithLegacyFallback primaryKeyId keys' = .ok entries' := by
  induction h with
  | nil => exact ⟨[], rfl⟩
  | cons hkey _ ih =>
    obtain ⟨publicKey, algorithm, keyId, hkey, rfl⟩ := hkey
    obtain ⟨entries', hloop⟩ := ih
    obtain ⟨entry, hentry⟩ := createEntry_unregistered hregistered _ keyId primaryKeyId
    refine ⟨entry :: entries', ?_⟩
    unfold entriesLoop
    rw [hentry]
    dsimp only
    rw [hloop]
    rfl

/-! ## Exporting -/

/-- The struct that is exported for a key. -/
def Exports (types : JwtKeyTypes K) (key : KeysetKey) (keyStruct : JsonStruct) : Prop :=
  ∃ publicKey algorithm, IsJwtPublicKey types key publicKey algorithm ∧
    keyStruct = exportedStruct types publicKey algorithm (kidToExport types key publicKey.customKid)

theorem keyStructs_ok : ∀ {keys : List KeysetKey},
    (∀ key ∈ keys, key.status = .enabled → ∃ publicKey algorithm, IsJwtPublicKey types key publicKey algorithm) →
    ∃ structs, keyStructs types keys = .ok structs ∧
      List.Forall₂ (Exports types) (keys.filter fun key => decide (key.status = .enabled)) structs
  | [], _ => ⟨[], rfl, .nil⟩
  | key :: keys, h => by
    obtain ⟨structs, hstructs, hexports⟩ := keyStructs_ok fun k hk => h k (List.mem_cons_of_mem _ hk)
    unfold keyStructs
    by_cases he : key.status = .enabled
    · obtain ⟨publicKey, algorithm, hkey⟩ := h key List.mem_cons_self he
      rw [if_neg (not_not.2 he), keyToKeyStruct_eq hkey, hstructs, List.filter_cons_of_pos (by simpa using he)]
      exact ⟨_, rfl, .cons ⟨publicKey, algorithm, hkey, rfl⟩ hexports⟩
    · rw [if_pos he, List.filter_cons_of_neg (by simpa using he)]
      exact ⟨structs, hstructs, hexports⟩

/-- **The imported keys are exported as the original ones.** -/
theorem keyStructs_imported (base64 : types.libraries.Base64) {keys : List KeysetKey} {structs : List JsonStruct}
    (hexports : List.Forall₂ (Exports types) keys structs) :
    ∀ {keys' : List KeysetKey}, List.Forall₂ (ImportedFrom types) keys keys' → keyStructs types keys' = .ok structs := by
  induction hexports with
  | nil =>
    intro keys' h
    cases h
    rfl
  | cons hstruct _ ih =>
    intro keys' h
    cases h with
    | cons hkey hkeys =>
      obtain ⟨publicKey, algorithm, keyId, hkey, rfl⟩ := hkey
      obtain ⟨publicKey', algorithm', hkey', rfl⟩ := hstruct
      unfold keyStructs
      rw [if_neg (fun h => h rfl), keyToKeyStruct_imported base64 hkey, keyToKeyStruct_eq hkey', ih hkeys]
      rfl

/-! ## The round trip -/

/-- What is parsed of a printed JWK set: its keys, each with the members it was printed with. -/
def ReadsKeys (json : JsonStruct) (structs : List JsonStruct) : Prop :=
  ∃ values, json.find (ascii "keys") = some (.list values) ∧
    List.Forall₂ (fun value keyStruct => ∃ fields, value = .struct fields ∧ (⟨fields⟩ : JsonStruct).Same keyStruct)
      values structs

/-- A key and the one that was imported for it. -/
structure SameJwtKey (types : JwtKeyTypes K) (verifiers : JwtRawVerifiers) (key key' : KeysetKey)
    (publicKey publicKey' : JwtPublicKeyProto) (algorithm : JwtAlgorithm) : Prop where
  original  : IsJwtPublicKey types key publicKey algorithm
  imported  : IsJwtPublicKey types key' publicKey' algorithm
  values    : publicKey.SameValues publicKey'
  raw       : key'.outputPrefixType = .raw
  enabled   : key'.status = .enabled
  customKid : publicKey'.customKid = kidToExport types key publicKey.customKid
  tokens    : ∀ compact validator clock verified, verifyWithKey types verifiers key compact validator clock = .ok verified →
    verifyWithKey types verifiers key' compact validator clock = .ok verified

theorem ImportedFrom.sameJwtKey (base64 : types.libraries.Base64) (verifiers : JwtRawVerifiers) {key key' : KeysetKey}
    (h : ImportedFrom types key key') :
    ∃ publicKey publicKey' algorithm, SameJwtKey types verifiers key key' publicKey publicKey' algorithm := by
  obtain ⟨publicKey, algorithm, keyId, hkey, rfl⟩ := h
  exact ⟨publicKey, _, algorithm, hkey, hkey.imported base64 keyId, JwtPublicKeyProto.imported_sameValues hkey.onCurve _, rfl,
    rfl, JwtPublicKeyProto.imported_customKid _ _ _, fun _ _ _ _ h => verifyWithKey_imported base64 hkey h keyId⟩

theorem readsKeys_forall₂ {keys : List KeysetKey} {structs : List JsonStruct}
    (hexports : List.Forall₂ (Exports types) keys structs) :
    ∀ {values : List JsonValue}, List.Forall₂
      (fun value keyStruct => ∃ fields, value = .struct fields ∧ (⟨fields⟩ : JsonStruct).Same keyStruct) values structs →
      List.Forall₂ (ReadsKey types) values keys := by
  induction hexports with
  | nil =>
    intro values h
    cases h
    exact .nil
  | cons hkey _ ih =>
    intro values h
    cases h with
    | cons hvalue hvalues =>
      obtain ⟨publicKey, algorithm, hkey, rfl⟩ := hkey
      obtain ⟨fields, rfl, hsame⟩ := hvalue
      exact .cons ⟨publicKey, algorithm, fields, hkey, rfl, hsame⟩ (ih hvalues)

theorem jwkSetFromPublicKeysetHandle_eq {handle : KeysetHandle (HandleKey K)} {structs : List JsonStruct}
    (hpublic : validateNoSecret handle.keyset = .ok ()) (hstructs : keyStructs types handle.keyset.key = .ok structs) :
    jwkSetFromPublicKeysetHandle types handle = types.libraries.printStruct (jwkSetOf structs) := by
  unfold jwkSetFromPublicKeysetHandle KeysetHandle.writeNoSecret
  rw [hpublic]
  dsimp only
  rw [hstructs]

theorem jwkSetToPublicKeysetHandle_eq {draws : Nat → List UInt32} {text : Bytes} {json : JsonStruct} {values : List JsonValue}
    {keyset : Keyset} {entries : List (HandleEntry (HandleKey K))} (hparse : types.libraries.parseStruct text = some json)
    (hfind : json.find (ascii "keys") = some (.list values)) (hne : ¬ values.length ≤ 0)
    (hloop : keysLoop types draws values ⟨0, []⟩ = some (.ok keyset)) (hsecret : validateNoSecret keyset = .ok ())
    (hentries : getEntriesFromKeyset types.parseKeyWithLegacyFallback keyset = .ok entries) :
    jwkSetToPublicKeysetHandle types draws text = some (.ok ⟨keyset, entries⟩) := by
  unfold jwkSetToPublicKeysetHandle
  rw [(jsonStringToProtoStruct_ok _).2 hparse]
  dsimp only
  rw [hfind]
  dsimp only
  rw [if_neg hne, hloop]
  dsimp only
  unfold readNoSecret
  rw [hsecret]
  dsimp only
  rw [hentries]

/-- The imported keys are read: where their classes are registered, as RAW keys of those that were exported. -/
theorem getEntriesFromKeyset_imported {keyset : Keyset} {entries : List (HandleEntry (HandleKey K))} {keys' : List KeysetKey}
    (hentries : getEntriesFromKeyset types.parseKeyWithLegacyFallback keyset = .ok entries)
    (himported : List.Forall₂ (ImportedFrom types) (keyset.key.filter fun key => decide (key.status = .enabled)) keys')
    (primaryKeyId : UInt32) :
    ∃ entries', getEntriesFromKeyset types.parseKeyWithLegacyFallback ⟨primaryKeyId, keys'⟩ = .ok entries' ∧
      (types.registered = true → entries'.map (·.key) =
        (entries.filter fun entry => decide (entry.status = .enabled)).map (·.key.asRaw)) := by
  cases hregistered : types.registered with
  | true =>
    obtain ⟨entries', hentries', hmap⟩ :=
      entriesLoop_imported hregistered (entriesLoop_enabled hentries) primaryKeyId himported
    exact ⟨entries', hentries', fun _ => hmap⟩
  | false =>
    obtain ⟨entries', hentries'⟩ := entriesLoop_unregistered hregistered primaryKeyId himported
    exact ⟨entries', hentries', fun h => by cases h⟩

/-- **A JWK set is imported as it was exported**: every ENABLED key, in order, with its algorithm, its numbers and its kid
as a custom kid, and without an id requirement; it verifies what the original verifies, and it is exported again as before. -/
theorem jwkSet_roundTrip (base64 : types.libraries.Base64) (verifiers : JwtRawVerifiers) (handle : KeysetHandle (HandleKey K))
    (entries : List (HandleEntry (HandleKey K))) (draws : Nat → List UInt32)
    (hentries : getEntriesFromKeyset types.parseKeyWithLegacyFallback handle.keyset = .ok entries)
    (hpublic : validateNoSecret handle.keyset = .ok ())
    (henabled : ∃ key ∈ handle.keyset.key, key.status = .enabled)
    (hjwt : ∀ key ∈ handle.keyset.key, key.status = .enabled →
      ∃ publicKey algorithm, IsJwtPublicKey types key publicKey algorithm)
    (hjson : ∀ structs, keyStructs types handle.keyset.key = .ok structs →
      ∃ text json, types.libraries.printStruct (jwkSetOf structs) = .ok text ∧
        types.libraries.parseStruct text = some json ∧ ReadsKeys json structs)
    (hdraws : ∀ n < (handle.keyset.key.filter fun key => decide (key.status = .enabled)).length,
      n + 1 < (draws n).dedup.length) :
    ∃ text handle', jwkSetFromPublicKeysetHandle types handle = .ok text ∧
      jwkSetToPublicKeysetHandle types draws text = some (.ok handle') ∧
      List.Forall₂ (fun key key' => ∃ publicKey publicKey' algorithm,
          SameJwtKey types verifiers key key' publicKey publicKey' algorithm)
        (handle.keyset.key.filter fun key => decide (key.status = .enabled)) handle'.keyset.key ∧
      (types.registered = true → handle'.entries.map (·.key) =
        (entries.filter fun entry => decide (entry.status = .enabled)).map (·.key.asRaw)) ∧
      jwkSetFromPublicKeysetHandle types handle' = .ok text := by
  obtain ⟨structs, hstructs, hexports⟩ := keyStructs_ok hjwt
  obtain ⟨text, json, hprint, hparse, values, hfind, hvalues⟩ := hjson structs hstructs
  have hread := readsKeys_forall₂ hexports hvalues
  obtain ⟨primaryKeyId, keys', hloop, himported⟩ := keysLoop_imported base64 hread ⟨0, []⟩ (by
    intro n _ hlt
    exact hdraws n (by simpa using hlt))
  rw [List.nil_append] at hloop
  have hne : ¬ values.length ≤ 0 := by
    obtain ⟨key, hmem, he⟩ := henabled
    have hmem' : key ∈ handle.keyset.key.filter fun key => decide (key.status = .enabled) :=
      List.mem_filter.2 ⟨hmem, decide_eq_true he⟩
    rw [hread.length_eq]
    exact Nat.not_le.2 (List.length_pos_of_mem hmem')
  have hsecret := validateNoSecret_imported himported primaryKeyId
  obtain ⟨entries', hentries', hmap⟩ := getEntriesFromKeyset_imported hentries himported primaryKeyId
  refine ⟨text, ⟨⟨primaryKeyId, keys'⟩, entries'⟩, ?_, ?_, ?_, hmap, ?_⟩
  · rw [jwkSetFromPublicKeysetHandle_eq hpublic hstructs, hprint]
  · exact jwkSetToPublicKeysetHandle_eq hparse hfind hne hloop hsecret hentries'
  · exact himported.imp fun _ _ h => h.sameJwtKey base64 verifiers
  · rw [jwkSetFromPublicKeysetHandle_eq hsecret (keyStructs_imported base64 hexports himported), hprint]

end

/-! ## Key 42 -/

instance : DecidablePred IsText := fun bytes =>
  decidable_of_iff bytes.toByteArray.IsValidUTF8 <| by
    constructor
    · rintro ⟨chars, h⟩
      exact ⟨chars, by simpa [List.utf8Encode] using congrArg (fun b : ByteArray => b.data.toList) h⟩
    · rintro ⟨chars, rfl⟩
      exact ⟨chars, rfl⟩

/-- The fields of a key as numbers. -/
abbrev KeyNumbers := Nat × Nat × List Nat × List Nat × Option (List Nat)

def algorithmNumber : JwtAlgorithmProto → Nat
  | .known .bits256 => 1
  | .known .bits384 => 2
  | .known .bits512 => 3
  | _ => 0

def algorithmOfNumber : Nat → JwtAlgorithmProto
  | 1 => .known .bits256
  | 2 => .known .bits384
  | 3 => .known .bits512
  | _ => .unknown

theorem algorithmOfNumber_algorithmNumber (a : JwtAlgorithm) :
    algorithmOfNumber (algorithmNumber (.known a)) = .known a := by
  cases a <;> rfl

def numbersOf (bytes : Bytes) : List Nat := bytes.map UInt8.toNat
def bytesOf (numbers : List Nat) : Bytes := numbers.map UInt8.ofNat

theorem bytesOf_numbersOf (bytes : Bytes) : bytesOf (numbersOf bytes) = bytes := by
  unfold bytesOf numbersOf
  rw [List.map_map, show UInt8.ofNat ∘ UInt8.toNat = id from funext fun _ => UInt8.ofNat_toNat, List.map_id]

section
variable {M : Type} [DecidableEq M] (toNumbers : M → KeyNumbers) (ofNumbers : KeyNumbers → M) (table : List (M × Bytes))

def tableSerialize (m : M) : Bytes :=
  match table.find? fun row => decide (row.1 = m) with
  | some row => row.2
  | none => 0 :: List.replicate (Encodable.encode (toNumbers m)) 0

def tableParse (bytes : Bytes) : Option M :=
  match table.find? fun row => decide (row.2 = bytes) with
  | some row => some row.1
  | none => (Encodable.decode (bytes.length - 1)).map ofNumbers

theorem tableParse_tableSerialize (htable : ∀ row ∈ table, row.2.head? ≠ some 0 ∧
      table.find? (fun row' => decide (row'.2 = row.2)) = some row) {m : M} (hm : ofNumbers (toNumbers m) = m) :
    tableParse ofNumbers table (tableSerialize toNumbers table m) = some m := by
  unfold tableSerialize
  cases hfind : table.find? fun row => decide (row.1 = m) with
  | some row =>
    unfold tableParse
    rw [(htable row (List.mem_of_find?_eq_some hfind)).2]
    have hrow := List.find?_some hfind
    exact congrArg some (of_decide_eq_true hrow)
  | none =>
    unfold tableParse
    have hnone : table.find? (fun row => decide (row.2 = 0 :: List.replicate (Encodable.encode (toNumbers m)) 0)) = none := by
      rw [List.find?_eq_none]
      intro row hrow heq
      refine (htable row hrow).1 ?_
      rw [of_decide_eq_true heq]
      rfl
    dsimp only
    rw [hnone]
    dsimp only
    rw [List.length_cons, List.length_replicate, Nat.add_sub_cancel, Encodable.encodek]
    exact congrArg some hm

/-- A codec with the bytes of some messages. -/
def tableCodec {algorithm : M → JwtAlgorithmProto} {customKid : M → Option Bytes}
    (hnumbers : ∀ m a, algorithm m = .known a → ofNumbers (toNumbers m) = m)
    (htable : ∀ row ∈ table, row.2.head? ≠ some 0 ∧ table.find? (fun row' => decide (row'.2 = row.2)) = some row) :
    JwtKeyCodec M algorithm customKid where
  serializeAsString := tableSerialize toNumbers table
  parseFromString := fun bytes =>
    (tableParse ofNumbers table bytes).filter fun m => decide (∀ kid ∈ customKid m, IsText kid)
  parseTP := tableParse ofNumbers table
  parse_serialize := by
    intro m a ha htext
    rw [tableParse_tableSerialize toNumbers ofNumbers table htable (hnumbers m a ha)]
    exact Option.filter_some_pos (decide_eq_true htext)
  text_of_parse := by
    intro bytes m h
    exact of_decide_eq_true (Option.filter_eq_some_iff.1 h).2
  parseTP_serialize := fun m a ha => tableParse_tableSerialize toNumbers ofNumbers table htable (hnumbers m a ha)
  parseTP_agrees := by
    intro bytes m m' a h _ h'
    exact Option.some.inj (h'.symm.trans (Option.filter_eq_some_iff.1 h).1)

end

/-- The prime of the field and the last coefficient of the equation. -/
def curveNumbers : EllipticCurveType → Nat × Nat
  | .nistP256 => (0xffffffff00000001000000000000000000000000ffffffffffffffffffffffff,
      0x5ac635d8aa3a93e7b3ebbd55769886bc651d06b0cc53b0f63bce3c3e27d2604b)
  | .nistP384 => (0xfffffffffffffffffffffffffffffffffffffffffffffffffffffffffffffffeffffffff0000000000000000ffffffff,
      0xb3312fa7e23ee7e4988e056be3f82d19181d9c6efe8141120314088f5013875ac656398d8a2ed19d2a85c8edd3ec2aef)
  | .nistP521 => (0x1ffffffffffffffffffffffffffffffffffffffffffffffffffffffffffffffffffffffffffffffffffffffffffffffffffffffffffffffffffffffffffffffffff,
      0x51953eb9618e1c9a1f929a21a0b68540eea2da725b99b315f3b8b489918ef109e156193951ec7e937b1652c0bd3bb1bf073573df883d2c34f1ef451fd46b503f00)

/-- `y² = x³ - 3x + b`. -/
def nistGroups : EcGroups where
  isOnCurve := fun curve x y =>
    let (p, b) := curveNumbers curve
    decide (x < p ∧ y < p ∧ (y * y) % p = (x * x * x + (p - 3) * x + b) % p)
  range := by
    intro curve x y h
    have hp : (curveNumbers curve).1 < 256 ^ ecFieldSizeInBytes curve := by cases curve <;> decide
    obtain ⟨hx, hy, -⟩ := of_decide_eq_true h
    exact ⟨hx.trans hp, hy.trans hp⟩

def generatorX : Nat := 0x6b17d1f2e12c4247f8bce6e563a440f277037d812deb33a0f4a13945d898c296
def generatorY : Nat := 0x4fe342e2fe1a7f9b8ee7eb4a7c0f9e162bce33576b315ececbb6406837bf51f5

/-- An ES256 key whose coordinates have a leading zero, and what is imported for it. -/
def es256Key : JwtEcdsaPublicKeyProto :=
  ⟨0, .known .bits256, 0 :: BigEndian.encode 32 generatorX, 0 :: BigEndian.encode 32 generatorY, none⟩

def es256Imported : JwtEcdsaPublicKeyProto :=
  ⟨0, .known .bits256, BigEndian.encode 32 generatorX, BigEndian.encode 32 generatorY, some (ascii "AAAAKg")⟩

/-- The bytes of the two messages. -/
def es256Table : List (JwtEcdsaPublicKeyProto × Bytes) :=
  [(es256Key, [16, 1, 26, 33] ++ es256Key.x ++ [34, 33] ++ es256Key.y),
    (es256Imported, [16, 1, 26, 32] ++ es256Imported.x ++ [34, 32] ++ es256Imported.y ++ [42, 8, 10, 6] ++ ascii "AAAAKg")]

def es256Codec : JwtEcdsaCodec :=
  tableCodec
    (fun key => (key.version.toNat, algorithmNumber key.algorithm, numbersOf key.x, numbersOf key.y,
      key.customKid.map numbersOf))
    (fun ⟨version, algorithm, x, y, customKid⟩ =>
      ⟨UInt32.ofNat version, algorithmOfNumber algorithm, bytesOf x, bytesOf y, customKid.map bytesOf⟩)
    es256Table
    (by
      rintro ⟨version, algorithm, x, y, customKid⟩ a rfl
      cases customKid <;>
        simp [algorithmOfNumber_algorithmNumber, bytesOf_numbersOf])
    (by decide)

def rsaCodec : JwtRsaCodec :=
  tableCodec
    (fun key => (key.version.toNat, algorithmNumber key.algorithm, numbersOf key.n, numbersOf key.e,
      key.customKid.map numbersOf))
    (fun ⟨version, algorithm, n, e, customKid⟩ =>
      ⟨UInt32.ofNat version, algorithmOfNumber algorithm, bytesOf n, bytesOf e, customKid.map bytesOf⟩)
    []
    (by
      rintro ⟨version, algorithm, n, e, customKid⟩ a rfl
      cases customKid <;>
        simp [algorithmOfNumber_algorithmNumber, bytesOf_numbersOf])
    (by decide)

def key42Struct : JsonStruct :=
  ecKeyStruct .bits256 (Base64.encode es256Imported.x) (Base64.encode es256Imported.y) es256Imported.customKid

/-- A member of a key: a string or a list of one. -/
def printMember : Bytes × JsonValue → Except Status Bytes
  | (name, .string value) => .ok (quoted name ++ ascii ":" ++ quoted value)
  | (name, .list [.string value]) => .ok (quoted name ++ ascii ":[" ++ quoted value ++ ascii "]")
  | _ => .error ⟨.unimplemented, "not a string"⟩

def printJwkSet (json : JsonStruct) : Except Status Bytes :=
  match json.find (ascii "keys") with
  | some (.list [.struct fields]) => (fields.mapM printMember).map fun members =>
    ascii "\x7b\"keys\":[\x7b" ++ (ascii ",").intercalate members ++ ascii "\x7d]\x7d"
  | _ => .error ⟨.unimplemented, "not a JWK set of one key"⟩

def key42Text : Bytes := (printJwkSet (jwkSetOf [key42Struct])).toOption.getD []

def key42Libraries : JwtLibraries where
  escape := Base64.encode
  unescape := Base64.decode
  parseStruct := fun text => if text = key42Text then some (jwkSetOf [key42Struct]) else none
  printStruct := printJwkSet

theorem key42_printed : printJwkSet (jwkSetOf [key42Struct]) = .ok key42Text := by
  have h : ∃ text, printJwkSet (jwkSetOf [key42Struct]) = .ok text := ⟨_, rfl⟩
  obtain ⟨text, h⟩ := h
  unfold key42Text
  rw [h]
  rfl

theorem key42_parsed : key42Libraries.parseStruct key42Text = some (jwkSetOf [key42Struct]) := by
  unfold key42Libraries
  dsimp only
  generalize key42Text = text
  rw [if_pos rfl]

theorem key42Libraries_base64 : key42Libraries.Base64 where
  unescape_escape := Base64.decode_encode
  alphabet := Base64.encode_forall (by decide)

def key42Types : JwtKeyTypes Unit := ⟨key42Libraries, nistGroups, es256Codec, rsaCodec, rsaCodec, true, fun _ => .ok ()⟩

/-- An ENABLED TINK key. -/
def key42 : KeysetKey :=
  ⟨some ⟨jwtEcdsaPublicKeyUrl, es256Codec.serializeAsString es256Key, .asymmetricPublic⟩, .enabled, 42, .tink⟩

theorem value_zero_encode {n : Nat} (h : n < 256 ^ 32) : BigEndian.value (0 :: BigEndian.encode 32 n) = n := by
  rw [BigEndian.value_cons, BigEndian.value_encode h, UInt8.toNat_zero, Nat.mul_zero, Nat.add_zero]

theorem es256Key_x : BigEndian.value es256Key.x = generatorX := value_zero_encode (by decide)
theorem es256Key_y : BigEndian.value es256Key.y = generatorY := value_zero_encode (by decide)

theorem key42_isJwtPublicKey : IsJwtPublicKey key42Types key42 (.ecdsa es256Key) .bits256 where
  rawOrTink := Or.inr rfl
  material := rfl
  parses := congrArg (Option.map JwtPublicKeyProto.ecdsa)
    (es256Codec.parse_serialize es256Key .bits256 rfl (fun _ h => by cases h))
  known := rfl
  onCurve := by
    change nistGroups.isOnCurve .nistP256 (BigEndian.value es256Key.x) (BigEndian.value es256Key.y) = true
    rw [es256Key_x, es256Key_y]
    decide

theorem key42_kid : kidToExport key42Types key42 none = some (ascii "AAAAKg") := by decide

theorem key42_keyStructs : keyStructs key42Types [key42] = .ok [key42Struct] := by
  have hstruct : keyToKeyStruct key42Types key42 = .ok key42Struct := by
    rw [keyToKeyStruct_eq key42_isJwtPublicKey, show JwtPublicKeyProto.customKid _ = none from rfl, key42_kid]
    unfold exportedStruct
    dsimp only
    rw [es256Key_x, es256Key_y]
    rfl
  unfold keyStructs
  rw [if_neg (fun h => h rfl), hstruct]
  rfl

theorem key42_read : ∃ handle, readNoSecret key42Types.parseKeyWithLegacyFallback ⟨42, [key42]⟩ = .ok handle := ⟨_, rfl⟩

def byteVerifiers : JwtRawVerifiers := ⟨false, fun _ _ _ => .ok ⟨byteMac.verifyMac⟩, fun _ _ _ _ => .ok ⟨byteMac.verifyMac⟩⟩

theorem readNoSecret_ok {Key : Type} {parseKey : ProtoKeySerialization → Except Status Key} {keyset : Keyset}
    {handle : KeysetHandle Key} (h : readNoSecret parseKey keyset = .ok handle) :
    validateNoSecret keyset = .ok () ∧ getEntriesFromKeyset parseKey keyset = .ok handle.entries ∧ handle.keyset = keyset := by
  unfold readNoSecret at h
  split at h
  · cases h
  · rename_i hpublic
    split at h
    · cases h
    · rename_i entries hentries
      cases h
      exact ⟨hpublic, hentries, rfl⟩

theorem jwkSet_roundTrip_key42 : ∃ handle text handle',
    readNoSecret key42Types.parseKeyWithLegacyFallback ⟨42, [key42]⟩ = .ok handle ∧
    jwkSetFromPublicKeysetHandle key42Types handle = .ok text ∧
    jwkSetToPublicKeysetHandle key42Types (fun _ => [0, 7]) text = some (.ok handle') ∧
    jwkSetFromPublicKeysetHandle key42Types handle' = .ok text := by
  obtain ⟨handle, hread⟩ := key42_read
  obtain ⟨hpublic, hentries, hkeyset⟩ := readNoSecret_ok hread
  have hkeys : handle.keyset.key = [key42] := congrArg Keyset.key hkeyset
  rw [← hkeyset] at hpublic hentries
  have h := jwkSet_roundTrip key42Libraries_base64 byteVerifiers handle handle.entries (fun _ => [0, 7]) hentries hpublic
    ⟨key42, by rw [hkeys]; exact List.mem_cons_self, rfl⟩ ?_ ?_ ?_
  · obtain ⟨text, handle', hexport, himport, -, -, hagain⟩ := h
    exact ⟨handle, text, handle', hread, hexport, himport, hagain⟩
  · intro key hmem _
    rw [hkeys] at hmem
    cases List.mem_singleton.1 hmem
    exact ⟨_, _, key42_isJwtPublicKey⟩
  · intro structs hstructs
    rw [hkeys, key42_keyStructs] at hstructs
    cases hstructs
    exact ⟨key42Text, jwkSetOf [key42Struct], key42_printed, key42_parsed, _, rfl, .cons ⟨_, rfl, fun _ => rfl⟩ .nil⟩
  · intro n hn
    rw [hkeys] at hn
    have hn : n = 0 := Nat.lt_one_iff.1 hn
    subst hn
    decide

/-! ## A key of another type -/

def ed25519Key : KeysetKey :=
  ⟨some ⟨"type.googleapis.com/google.crypto.tink.Ed25519PublicKey", [18, 32] ++ List.replicate 32 5, .asymmetricPublic⟩,
    .enabled, 7, .tink⟩

/-- A keyset with a JWT key is not exported when another ENABLED key is of another type. -/
theorem jwkSet_mixed_not_exported : ∃ handle,
    readNoSecret key42Types.parseKeyWithLegacyFallback ⟨42, [key42, ed25519Key]⟩ = .ok handle ∧
    (∃ key ∈ handle.keyset.key, key.status = .enabled ∧ IsJwtPublicKey key42Types key (.ecdsa es256Key) .bits256) ∧
    jwkSetFromPublicKeysetHandle key42Types handle = .error ⟨.invalidArgument, "Unknown key type url"⟩ := by
  have hstructs : keyStructs key42Types [key42, ed25519Key] = .error ⟨.invalidArgument, "Unknown key type url"⟩ := by
    unfold keyStructs
    rw [if_neg (fun h => h rfl), keyToKeyStruct_eq key42_isJwtPublicKey]
    rfl
  have hread : ∃ handle, readNoSecret key42Types.parseKeyWithLegacyFallback ⟨42, [key42, ed25519Key]⟩ = .ok handle := ⟨_, rfl⟩
  obtain ⟨handle, hread⟩ := hread
  obtain ⟨hpublic, -, hkeyset⟩ := readNoSecret_ok hread
  refine ⟨handle, hread, ⟨key42, ?_, rfl, key42_isJwtPublicKey⟩, ?_⟩
  · rw [hkeyset]
    exact List.mem_cons_self
  · unfold jwkSetFromPublicKeysetHandle KeysetHandle.writeNoSecret
    rw [hkeyset, hpublic]
    dsimp only
    rw [hstructs]

end Tink
