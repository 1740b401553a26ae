import TinkCc.Streams
/-!
# HkdfInputStream — reading key material from a PRF stream

`input_stream_util.cc` and `hkdf_streaming_prf.cc`.  A key deriver may be tried on a stream that another one has read
from, so what a stream does after an error counts: `PrfStream` says that an error is permanent, and a stream of HKDF
keeps to it.
-/
namespace Tink

/-! ## ReadSecretBytesFromStream -/

section Read
variable {σ : Type} [InputStream σ]

/-- The loop of `ReadBytesFromStreamImpl`: what was read, and the bytes still to be read.  A stream ignores `BackUp(0)`,
which is left out here. -/
def readBytesLoop (result : Bytes) (missing : Nat) (inputStream : σ) : Except Status Bytes × σ :=
  if missing = 0 then (.ok result, inputStream)
  else
    match _hnext : InputStream.next inputStream with
    | (.error e, s) => (.error e, s)
    | (.ok buffer, s) =>
      let numBytesToCopy := min missing buffer.length
      readBytesLoop (result ++ buffer.take numBytesToCopy) (missing - numBytesToCopy)
        (if numBytesToCopy < buffer.length then InputStream.backUp (buffer.length - numBytesToCopy : Nat) s else s)
termination_by (missing, InputStream.rank inputStream)
decreasing_by
  rw [Prod.lex_def]
  by_cases h0 : buffer = []
  · subst h0
    right
    simp only [List.length_nil, Nat.min_zero, Nat.sub_zero, Nat.lt_irrefl, true_and]
    exact InputStream.rank_lt _hnext
  · left
    have := List.length_pos_iff.2 h0
    simp only
    omega

/-- `ReadSecretBytesFromStream`: nothing is read for a count below 1. -/
def readSecretBytesFromStream (numBytes : Int) (inputStream : σ) : Except Status Bytes × σ :=
  readBytesLoop [] numBytes.toNat inputStream

/-- `ReadBytesFromStream`. -/
def readBytesFromStream (numBytes : Int) (inputStream : σ) : Except Status Bytes × σ :=
  readBytesLoop [] numBytes.toNat inputStream

theorem readBytesLoop_zero (result : Bytes) (s : σ) : readBytesLoop result 0 s = (.ok result, s) := by
  rw [readBytesLoop, if_pos rfl]

theorem readBytesLoop_of_error {result : Bytes} {n : Nat} {s s' : σ} {e : Status} (hn : n ≠ 0)
    (h : InputStream.next s = (.error e, s')) : readBytesLoop result n s = (.error e, s') := by
  rw [readBytesLoop, if_neg hn]
  split
  · rename_i heq
    rw [h] at heq
    cases heq
    rfl
  · rename_i heq
    rw [h] at heq
    cases heq

theorem readBytesLoop_of_ok {result buffer : Bytes} {n : Nat} {s s' : σ} (hn : n ≠ 0)
    (h : InputStream.next s = (.ok buffer, s')) :
    readBytesLoop result n s =
      readBytesLoop (result ++ buffer.take (min n buffer.length)) (n - min n buffer.length)
        (if min n buffer.length < buffer.length then InputStream.backUp (buffer.length - min n buffer.length : Nat) s'
          else s') := by
  rw [readBytesLoop, if_neg hn]
  split
  · rename_i heq
    rw [h] at heq
    cases heq
  · rename_i heq
    rw [h] at heq
    cases heq
    rfl

/-! ## A stream that gives the next bytes -/

/-- What the loop needs of a stream with the bytes `S`; `Stop` is what is known of an error: the place it came at, its status
and the stream it left. -/
structure Yields (S : Bytes) (At : σ → Cursor → Prop) (Stop : Nat → Status → σ → Prop) : Prop where
  next_ok    : ∀ {s c bs s'}, At s c → InputStream.next s = (.ok bs, s') →
    bs <+: S.drop c.pos ∧ At s' (c.next bs.length)
  next_error : ∀ {s c e s'}, At s c → InputStream.next s = (.error e, s') → Stop c.pos e s'
  backUp     : ∀ {s c} (count : Nat), At s c → count ≤ c.last → At (InputStream.backUp count s) (c.backUp count)

variable {S : Bytes} {At : σ → Cursor → Prop}

theorem Yields.readBytesLoop {Stop : Nat → Status → σ → Prop} (hr : Yields S At Stop) (result : Bytes) (n : Nat) (s : σ)
    (c : Cursor) (hat : At s c) :
    (∃ s' last, Tink.readBytesLoop result n s = (.ok (result ++ (S.drop c.pos).take n), s') ∧
        At s' ⟨c.pos + n, last⟩ ∧ n ≤ (S.drop c.pos).length) ∨
    (∃ e s' pos, Tink.readBytesLoop result n s = (.error e, s') ∧ Stop pos e s' ∧ c.pos ≤ pos ∧ pos < c.pos + n) := by
  by_cases hn : n = 0
  · subst hn
    refine .inl ⟨s, c.last, ?_, hat, Nat.zero_le _⟩
    rw [readBytesLoop_zero, List.take_zero, List.append_nil]
  · rcases hnext : InputStream.next s with ⟨e | buffer, s₁⟩
    · exact .inr ⟨e, s₁, c.pos, readBytesLoop_of_error hn hnext, hr.next_error hat hnext, Nat.le_refl _, by omega⟩
    · rw [readBytesLoop_of_ok hn hnext]
      obtain ⟨⟨tail, htail⟩, hat₁⟩ := hr.next_ok hat hnext
      by_cases hlt : min n buffer.length < buffer.length
      · -- the buffer has more than is missing: the rest is given back
        have hmin : min n buffer.length = n := by omega
        rw [if_pos hlt, hmin, Nat.sub_self, readBytesLoop_zero]
        refine .inl ⟨InputStream.backUp (buffer.length - n : Nat) s₁, n, ?_, ?_, ?_⟩
        · rw [← htail, List.take_append_of_le_length (by omega)]
        · have hback : (c.next buffer.length).backUp ((buffer.length - n : Nat) : Int) = ⟨c.pos + n, n⟩ := by
            unfold Cursor.next Cursor.backUp
            simp only [Int.toNat_natCast, Cursor.mk.injEq]
            omega
          rw [← hback]
          exact hr.backUp _ hat₁ (Nat.sub_le _ _)
        · rw [← htail, List.length_append]
          omega
      · have hmin : min n buffer.length = buffer.length := by omega
        rw [if_neg hlt, hmin, List.take_length]
        have hdrop : S.drop (c.next buffer.length).pos = tail := by
          rw [Cursor.next, ← List.drop_drop, ← htail, List.drop_left]
        rcases Yields.readBytesLoop hr (result ++ buffer) (n - buffer.length) s₁ _ hat₁ with
          ⟨s', last, he, hat', hlen⟩ | ⟨e, s', pos, he, hstop, hle, hpos⟩
        · rw [hdrop] at he hlen
          refine .inl ⟨s', last, ?_, ?_, ?_⟩
          · rw [he, ← htail, List.take_append, List.take_of_length_le (i := n) (by omega), List.append_assoc]
          · rw [show c.pos + n = c.pos + buffer.length + (n - buffer.length) by omega]
            exact hat'
          · rw [← htail, List.length_append]
            omega
        · simp only [Cursor.next] at hle hpos
          exact .inr ⟨e, s', pos, he, hstop, by omega, by omega⟩
termination_by (n, InputStream.rank s)
decreasing_by
  rw [Prod.lex_def]
  by_cases h0 : buffer = []
  · subst h0
    right
    simp only [List.length_nil, Nat.sub_zero, true_and]
    exact InputStream.rank_lt hnext
  · left
    have := List.length_pos_iff.2 h0
    simp only
    omega

/-! ## A stream whose errors are permanent -/

/-- **A PRF stream with the bytes `S`**: every buffer is what comes next in `S`, bytes given back come again, and after
an error there is nothing but errors. -/
structure PrfStream (S : Bytes) (At : σ → Cursor → Prop) (Failed : σ → Prop) : Prop where
  next_ok    : ∀ {s c bs s'}, At s c → InputStream.next s = (.ok bs, s') →
    bs <+: S.drop c.pos ∧ At s' (c.next bs.length)
  next_error : ∀ {s c e s'}, At s c → InputStream.next s = (.error e, s') → Failed s'
  backUp     : ∀ {s c} (count : Nat), At s c → count ≤ c.last → At (InputStream.backUp count s) (c.backUp count)
  failed     : ∀ {s}, Failed s → ∃ e, InputStream.next s = (.error e, s)

variable {Failed : σ → Prop}

theorem PrfStream.yields (hr : PrfStream S At Failed) : Yields S At (fun _ _ => Failed) where
  next_ok := hr.next_ok
  next_error := hr.next_error
  backUp := hr.backUp

theorem readBytesLoop_spec (hr : PrfStream S At Failed) (result : Bytes) (n : Nat) (s : σ) (c : Cursor) (hat : At s c) :
    (∃ s' last, readBytesLoop result n s = (.ok (result ++ (S.drop c.pos).take n), s') ∧
        At s' ⟨c.pos + n, last⟩ ∧ n ≤ (S.drop c.pos).length) ∨
    (∃ e s', readBytesLoop result n s = (.error e, s') ∧ Failed s') := by
  rcases hr.yields.readBytesLoop result n s c hat with hok | ⟨e, s', pos, he, hfailed, -⟩
  · exact .inl hok
  · exact .inr ⟨e, s', he, hfailed⟩

/-- **What is read is what comes next**, whatever the buffers. -/
theorem readSecretBytesFromStream_ok (hr : PrfStream S At Failed) {numBytes : Int} {s s' : σ} {c : Cursor} {bs : Bytes}
    (hat : At s c) (h : readSecretBytesFromStream numBytes s = (.ok bs, s')) :
    bs = (S.drop c.pos).take numBytes.toNat ∧ numBytes.toNat ≤ (S.drop c.pos).length ∧
      ∃ last, At s' ⟨c.pos + numBytes.toNat, last⟩ := by
  rcases readBytesLoop_spec hr [] numBytes.toNat s c hat with ⟨s'', last, he, hat', hlen⟩ | ⟨e, s'', he, -⟩
  · unfold readSecretBytesFromStream at h
    rw [he] at h
    cases h
    exact ⟨rfl, hlen, last, hat'⟩
  · unfold readSecretBytesFromStream at h
    rw [he] at h
    cases h

theorem readSecretBytesFromStream_error (hr : PrfStream S At Failed) {numBytes : Int} {s s' : σ} {c : Cursor} {e : Status}
    (hat : At s c) (h : readSecretBytesFromStream numBytes s = (.error e, s')) : Failed s' := by
  rcases readBytesLoop_spec hr [] numBytes.toNat s c hat with ⟨s'', last, he, -⟩ | ⟨e, s'', he, hfailed⟩
  · unfold readSecretBytesFromStream at h
    rw [he] at h
    cases h
  · unfold readSecretBytesFromStream at h
    rw [he] at h
    cases h
    exact hfailed

/-- A stream that has failed gives no more bytes. -/
theorem readSecretBytesFromStream_of_failed (hr : PrfStream S At Failed) {numBytes : Int} {s : σ} (hpos : 0 < numBytes)
    (h : Failed s) : ∃ e, readSecretBytesFromStream numBytes s = (.error e, s) := by
  obtain ⟨e, he⟩ := hr.failed h
  exact ⟨e, readBytesLoop_of_error (by omega) he⟩

theorem not_failed_of_read (hr : PrfStream S At Failed) {numBytes : Int} {s s' : σ} {bytes : Bytes} (hpos : 0 < numBytes)
    (h : readSecretBytesFromStream numBytes s = (.ok bytes, s')) : ¬ Failed s := by
  intro hfailed
  obtain ⟨e, he⟩ := readSecretBytesFromStream_of_failed hr hpos hfailed
  rw [he] at h
  cases h

end Read

/-! ## The stream of HKDF -/

/-- `HMAC` of BoringSSL with one digest: a failed call, or a tag of the digest's size. -/
structure Hmac where
  digestSize     : Nat
  digestSize_pos : 0 < digestSize
  mac            : (key data : Bytes) → Option Bytes
  length_mac     : ∀ {key data tag}, mac key data = some tag → tag.length = digestSize

/-- `HkdfInputStream`; the HMAC context holds the key `prk`. -/
structure HkdfInputStream where
  hmac         : Hmac
  prk          : Bytes
  input        : Bytes
  streamStatus : Except Status Unit
  ti           : Bytes
  i            : Nat
  positionInTi : Nat

namespace HkdfInputStream

/-- T(i + 1) as by RFC 5869. -/
def nextTi (hmac : Hmac) (prk input : Bytes) (i : Nat) (ti : Bytes) : Option Bytes :=
  hmac.mac prk ((if i = 0 then [] else ti) ++ input ++ [UInt8.ofNat (i + 1)])

/-- `UpdateTi`; the calls on the context are one call of `HMAC`. -/
def updateTi (s : HkdfInputStream) : HkdfInputStream :=
  match nextTi s.hmac s.prk s.input s.i s.ti with
  | none => { s with streamStatus := .error ⟨.internal, "HMAC_Final failed"⟩ }
  | some ti => { s with streamStatus := .ok (), ti := ti, i := s.i + 1, positionInTi := 0 }

/-- `returnDataFromPosition`. -/
def returnDataFromPosition (s : HkdfInputStream) : Except Status Bytes × HkdfInputStream :=
  (.ok (s.ti.drop s.positionInTi), { s with positionInTi := s.ti.length })

/-- `Next`. -/
def next (s : HkdfInputStream) : Except Status Bytes × HkdfInputStream :=
  match s.streamStatus with
  | .error e => (.error e, s)
  | .ok () =>
    if s.positionInTi < s.ti.length then s.returnDataFromPosition
    else if s.i = 255 then (.error ⟨.outOfRange, "EOF"⟩, { s with streamStatus := .error ⟨.outOfRange, "EOF"⟩ })
    else
      match s.updateTi.streamStatus with
      | .error e => (.error e, s.updateTi)
      | .ok () => s.updateTi.returnDataFromPosition

/-- `BackUp`. -/
def backUp (count : Int) (s : HkdfInputStream) : HkdfInputStream :=
  { s with positionInTi := s.positionInTi - min count.toNat s.positionInTi }

/-- The constructor, with `Init`. -/
def new (hmac : Hmac) (secret salt input : Bytes) : HkdfInputStream :=
  match hmac.mac salt secret with
  | none => ⟨hmac, [], input, .error ⟨.internal, "HKDF-Extract failed"⟩, List.replicate hmac.digestSize 0, 0, 0⟩
  | some prk => updateTi ⟨hmac, prk, input, .ok (), List.replicate hmac.digestSize 0, 0, 0⟩

/-! ## What the stream holds -/

/-- The blocks after T(i), at most `rounds` of them, up to a call of `HMAC` that fails. -/
def expand (hmac : Hmac) (prk input : Bytes) : (rounds i : Nat) → (ti : Bytes) → Bytes
  | 0, _, _ => []
  | rounds + 1, i, ti =>
    match nextTi hmac prk input i ti with
    | none => []
    | some t => t ++ expand hmac prk input rounds (i + 1) t

/-- The bytes of a stream: T(1) to T(255). -/
def output (hmac : Hmac) (secret salt input : Bytes) : Bytes :=
  match hmac.mac salt secret with
  | none => []
  | some prk => expand hmac prk input 255 0 (List.replicate hmac.digestSize 0)

theorem updateTi_cases (s : HkdfInputStream) :
    (∃ ti, nextTi s.hmac s.prk s.input s.i s.ti = some ti ∧ ti.length = s.hmac.digestSize ∧
        s.updateTi = { s with streamStatus := .ok (), ti := ti, i := s.i + 1, positionInTi := 0 }) ∨
      nextTi s.hmac s.prk s.input s.i s.ti = none ∧
        s.updateTi = { s with streamStatus := .error ⟨.internal, "HMAC_Final failed"⟩ } := by
  unfold updateTi
  rcases h : nextTi s.hmac s.prk s.input s.i s.ti with _ | ti
  · exact .inr ⟨rfl, rfl⟩
  · exact .inl ⟨ti, rfl, s.hmac.length_mac h, rfl⟩

/-- What a call of `Next` can do. -/
theorem next_cases {s s' : HkdfInputStream} {r : Except Status Bytes} (h : s.next = (r, s')) :
    (∃ e, r = .error e ∧ s'.streamStatus = .error e) ∨
    (s.streamStatus = .ok () ∧ s.positionInTi < s.ti.length ∧ r = .ok (s.ti.drop s.positionInTi) ∧
      s' = { s with positionInTi := s.ti.length }) ∨
    (∃ ti, s.streamStatus = .ok () ∧ ¬ s.positionInTi < s.ti.length ∧ s.i ≠ 255 ∧
      nextTi s.hmac s.prk s.input s.i s.ti = some ti ∧ ti.length = s.hmac.digestSize ∧ r = .ok ti ∧
      s' = { s with streamStatus := .ok (), ti := ti, i := s.i + 1, positionInTi := ti.length }) := by
  unfold next at h
  rcases hstatus : s.streamStatus with e | _
  · rw [hstatus] at h
    cases h
    exact .inl ⟨e, rfl, hstatus⟩
  · rw [hstatus] at h
    dsimp only at h
    by_cases hlt : s.positionInTi < s.ti.length
    · rw [if_pos hlt] at h
      cases h
      exact .inr (.inl ⟨rfl, hlt, rfl, by rw [← hstatus]⟩)
    · rw [if_neg hlt] at h
      by_cases hi : s.i = 255
      · rw [if_pos hi] at h
        cases h
        exact .inl ⟨_, rfl, rfl⟩
      · rw [if_neg hi] at h
        rcases s.updateTi_cases with ⟨ti, hti, hlen, hupdate⟩ | ⟨-, hupdate⟩
        · rw [hupdate] at h
          cases h
          exact .inr (.inr ⟨ti, rfl, hlt, hi, hti, hlen, rfl, rfl⟩)
        · rw [hupdate] at h
          cases h
          exact .inl ⟨_, rfl, rfl⟩

instance : InputStream HkdfInputStream where
  next := next
  backUp := backUp
  rank _ := 0
  rank_lt {s s'} h := by
    -- a buffer is never empty
    exfalso
    rcases next_cases h with ⟨e, he, -⟩ | ⟨-, hlt, hr, -⟩ | ⟨ti, -, -, -, -, hlen, hr, -⟩
    · cases he
    · have := congrArg List.length (Except.ok.inj hr)
      rw [List.length_drop, List.length_nil] at this
      omega
    · have := s.hmac.digestSize_pos
      rw [← hlen, ← Except.ok.inj hr, List.length_nil] at this
      omega

/-- The stream works, and `S` is the blocks before T(i), T(i) and the blocks after it. -/
structure Working (S : Bytes) (s : HkdfInputStream) (c : Cursor) : Prop where
  status : s.streamStatus = .ok ()
  last   : c.last ≤ s.positionInTi
  inTi   : s.positionInTi ≤ s.ti.length
  i_le   : s.i ≤ 255
  blocks : ∃ before, S = before ++ s.ti ++ expand s.hmac s.prk s.input (255 - s.i) s.i s.ti ∧
    c.pos = before.length + s.positionInTi

def Failed (s : HkdfInputStream) : Prop := ∃ e, s.streamStatus = .error e

/-- A stream whose constructor failed is at its start. -/
def At (S : Bytes) (s : HkdfInputStream) (c : Cursor) : Prop := Working S s c ∨ Failed s ∧ c = ⟨0, 0⟩

theorem Working.next_same {S : Bytes} {s : HkdfInputStream} {c : Cursor} (h : Working S s c) :
    s.ti.drop s.positionInTi <+: S.drop c.pos ∧
      Working S { s with positionInTi := s.ti.length } (c.next (s.ti.drop s.positionInTi).length) := by
  obtain ⟨before, hS, hpos⟩ := h.blocks
  have hle := h.inTi
  constructor
  · rw [hS, hpos, ← List.drop_drop, List.append_assoc, List.drop_left, List.drop_append_of_le_length h.inTi]
    exact List.prefix_append _ _
  · refine ⟨h.status, ?_, Nat.le_refl _, h.i_le, before, hS, ?_⟩
    · show (s.ti.drop s.positionInTi).length ≤ s.ti.length
      rw [List.length_drop]
      omega
    · show c.pos + (s.ti.drop s.positionInTi).length = before.length + s.ti.length
      rw [hpos, List.length_drop]
      omega

theorem Working.next_block {S ti : Bytes} {s : HkdfInputStream} {c : Cursor} (h : Working S s c)
    (hend : ¬ s.positionInTi < s.ti.length) (hi : s.i ≠ 255) (hti : nextTi s.hmac s.prk s.input s.i s.ti = some ti) :
    ti <+: S.drop c.pos ∧
      Working S { s with streamStatus := .ok (), ti := ti, i := s.i + 1, positionInTi := ti.length } (c.next ti.length) := by
  obtain ⟨before, hS, hpos⟩ := h.blocks
  have hle := h.inTi
  have hi_le := h.i_le
  have hexpand : expand s.hmac s.prk s.input (255 - s.i) s.i s.ti =
      ti ++ expand s.hmac s.prk s.input (255 - (s.i + 1)) (s.i + 1) ti := by
    rw [show 255 - s.i = (255 - (s.i + 1)) + 1 by omega, expand, hti]
  have hposEq : c.pos = (before ++ s.ti).length := by
    rw [hpos, List.length_append]
    omega
  rw [hexpand] at hS
  constructor
  · rw [hS, hposEq, List.drop_left]
    exact List.prefix_append _ _
  · refine ⟨rfl, Nat.le_refl _, Nat.le_refl _, by show s.i + 1 ≤ 255; omega, before ++ s.ti, ?_, ?_⟩
    · rw [hS, List.append_assoc (before ++ s.ti)]
    · show c.pos + ti.length = (before ++ s.ti).length + ti.length
      rw [hposEq]

/-- **The stream of HKDF is a PRF stream**: its errors are permanent, also the end after T(255). -/
theorem prfStream (S : Bytes) : PrfStream S (At S) Failed where
  next_ok := by
    intro s c bs s' hat h
    rcases next_cases h with ⟨e, he, -⟩ | ⟨hok, -, hr, rfl⟩ | ⟨ti, hok, hend, hi, hti, -, hr, rfl⟩
    · cases he
    · rcases hat with hw | ⟨⟨e, he⟩, -⟩
      · cases hr
        exact ⟨hw.next_same.1, .inl hw.next_same.2⟩
      · rw [hok] at he
        cases he
    · rcases hat with hw | ⟨⟨e, he⟩, -⟩
      · cases hr
        exact ⟨(hw.next_block hend hi hti).1, .inl (hw.next_block hend hi hti).2⟩
      · rw [hok] at he
        cases he
  next_error := by
    intro s c e s' _ h
    rcases next_cases h with ⟨e', -, hs⟩ | ⟨-, -, hr, -⟩ | ⟨ti, -, -, -, -, -, hr, -⟩
    · exact ⟨e', hs⟩
    · cases hr
    · cases hr
  backUp := by
    intro s c count hat hle
    rcases hat with hw | ⟨hf, rfl⟩
    · obtain ⟨before, hS, hpos⟩ := hw.blocks
      have hlast := hw.last
      have hin := hw.inTi
      refine .inl ⟨hw.status, ?_, ?_, hw.i_le, before, hS, ?_⟩
      · show c.last - min (count : Int).toNat c.last ≤ s.positionInTi - min (count : Int).toNat s.positionInTi
        omega
      · show s.positionInTi - min (count : Int).toNat s.positionInTi ≤ s.ti.length
        omega
      · show c.pos - min (count : Int).toNat c.last = before.length + (s.positionInTi - min (count : Int).toNat s.positionInTi)
        omega
    · exact .inr ⟨hf, Cursor.backUp_of_last_eq_zero rfl _⟩
  failed := by
    rintro s ⟨e, he⟩
    refine ⟨e, ?_⟩
    show s.next = _
    unfold next
    rw [he]

/-- A new stream is at the start of its output. -/
theorem new_at (hmac : Hmac) (secret salt input : Bytes) :
    At (output hmac secret salt input) (new hmac secret salt input) ⟨0, 0⟩ := by
  unfold output new
  rcases hmac.mac salt secret with _ | prk
  · exact .inr ⟨⟨_, rfl⟩, rfl⟩
  · dsimp only
    rcases updateTi_cases ⟨hmac, prk, input, .ok (), List.replicate hmac.digestSize 0, 0, 0⟩ with
      ⟨ti, hti, -, hupdate⟩ | ⟨-, hupdate⟩
    · rw [hupdate]
      refine .inl ⟨rfl, Nat.le_refl _, Nat.zero_le _, by show 0 + 1 ≤ 255; omega, [], ?_, rfl⟩
      have hti' : nextTi hmac prk input 0 (List.replicate hmac.digestSize 0) = some ti := hti
      rw [expand, hti']
      rfl
    · rw [hupdate]
      exact .inr ⟨⟨_, rfl⟩, rfl⟩

end HkdfInputStream

end Tink
