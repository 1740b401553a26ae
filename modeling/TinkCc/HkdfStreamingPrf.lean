import TinkCc.HkdfInputStream
import TinkCc.LibNarrow
/-!
# HkdfStreamingPrf — the PRF of HKDF

The position of the stream of `hkdf_streaming_prf.cc`, and the `Prf` that `prf_set_util.cc` makes of it, with the `int` that
`ReadBytesFromStream` takes.  RFC 5869 says which bytes they give: T(1) to T(255).
-/
namespace Tink

/-! ## RFC 5869 -/

namespace Hkdf

/-- HMAC that does not fail, with its length. -/
structure TotalHmac where
  digestSize     : Nat
  digestSize_pos : 0 < digestSize
  mac            : (key data : Bytes) → Bytes
  length_mac     : ∀ key data, (mac key data).length = digestSize

def TotalHmac.toHmac (h : TotalHmac) : Hmac where
  digestSize := h.digestSize
  digestSize_pos := h.digestSize_pos
  mac key data := some (h.mac key data)
  length_mac := by
    intro key data tag htag
    rw [← Option.some.inj htag]
    exact h.length_mac key data

variable (h : TotalHmac)

def extract (salt ikm : Bytes) : Bytes := h.mac salt ikm

/-- T(i). -/
def block (prk info : Bytes) : Nat → Bytes
  | 0 => []
  | i + 1 => h.mac prk (block prk info i ++ info ++ [UInt8.ofNat (i + 1)])

/-- T(1) to T(N). -/
def blocks (prk info : Bytes) : Nat → Bytes
  | 0 => []
  | i + 1 => blocks prk info i ++ block h prk info (i + 1)

/-- **All that HKDF gives.** -/
def okm (salt ikm info : Bytes) : Bytes := blocks h (extract h salt ikm) info 255

variable {h}

theorem block_length {prk info : Bytes} {i : Nat} (hi : i ≠ 0) : (block h prk info i).length = h.digestSize := by
  cases i with
  | zero => exact absurd rfl hi
  | succ i => exact h.length_mac _ _

theorem blocks_length (prk info : Bytes) : ∀ n, (blocks h prk info n).length = n * h.digestSize
  | 0 => by simp [blocks]
  | n + 1 => by
    rw [blocks, List.length_append, blocks_length prk info n, block_length (Nat.succ_ne_zero n), Nat.succ_mul]

theorem okm_length (salt ikm info : Bytes) : (okm h salt ikm info).length = 255 * h.digestSize := blocks_length _ _ _

/-- A part of the blocks, and the rest. -/
theorem blocks_prefix {prk info : Bytes} {m n : Nat} (hle : m ≤ n) : blocks h prk info m <+: blocks h prk info n := by
  induction hle with
  | refl => exact List.prefix_refl _
  | step _ ih => exact ih.trans (List.prefix_append _ _)

end Hkdf

/-! ## The code -/

/-- `Position`. -/
def HkdfInputStream.position (s : HkdfInputStream) : Int :=
  if s.i = 0 then 0 else (s.i - 1 : Nat) * s.ti.length + s.positionInTi

structure HkdfStreamingPrf where
  hmac   : Hmac
  secret : Bytes
  salt   : Bytes

def HkdfStreamingPrf.computePrf (prf : HkdfStreamingPrf) (input : Bytes) : HkdfInputStream :=
  .new prf.hmac prf.secret prf.salt input

/-- `PrfFromStreamingPrf::Compute`; the length is a `size_t`, given where an `int` is asked for. -/
def PrfFromStreamingPrf.compute {σ : Type} [InputStream σ] (computePrf : Bytes → σ) (input : Bytes) (outputLength : Nat) :
    Except Status Bytes :=
  (readBytesFromStream (Narrow.toInt outputLength) (computePrf input)).1

/-! ## The stream -/

/-- What follows a place in T(k + 1) starts with the rest of T(k + 1). -/
theorem Hkdf.drop_okm (h : TotalHmac) (salt secret input : Bytes) {k pos : Nat} (hk : k < 255)
    (hpos : pos ≤ h.digestSize) :
    (block h (extract h salt secret) input (k + 1)).drop pos <+: (okm h salt secret input).drop (k * h.digestSize + pos) := by
  obtain ⟨rest, hrest⟩ : blocks h (extract h salt secret) input (k + 1) <+: okm h salt secret input :=
    blocks_prefix (Nat.succ_le_of_lt hk)
  have hbefore : k * h.digestSize = (blocks h (extract h salt secret) input k).length := (blocks_length _ _ k).symm
  rw [← hrest, ← List.drop_drop, hbefore, blocks, List.append_assoc,
    List.drop_left, List.drop_append_of_le_length (by rw [block_length (Nat.succ_ne_zero k)]; exact hpos)]
  exact List.prefix_append _ _

namespace HkdfInputStream

open Hkdf (TotalHmac)

variable {h : TotalHmac} {salt secret input : Bytes}

/-- The stream holds T(i), and the reader is in it. -/
structure Reading (h : TotalHmac) (salt secret input : Bytes) (s : HkdfInputStream) (c : Cursor) : Prop where
  hmac   : s.hmac = h.toHmac
  prk    : s.prk = Hkdf.extract h salt secret
  info   : s.input = input
  status : s.streamStatus = .ok ()
  i_pos  : 1 ≤ s.i
  i_le   : s.i ≤ 255
  ti     : s.ti = Hkdf.block h (Hkdf.extract h salt secret) input s.i
  inTi   : s.positionInTi ≤ h.digestSize
  last   : c.last ≤ s.positionInTi
  pos    : c.pos = (s.i - 1) * h.digestSize + s.positionInTi

theorem Reading.ti_length {s : HkdfInputStream} {c : Cursor} (hr : Reading h salt secret input s c) :
    s.ti.length = h.digestSize := by
  have hi := hr.i_pos
  rw [hr.ti, Hkdf.block_length (by omega)]

theorem Reading.position_eq {s : HkdfInputStream} {c : Cursor} (hr : Reading h salt secret input s c) :
    s.position = c.pos := by
  have hi := hr.i_pos
  unfold position
  rw [if_neg (by omega), hr.ti_length, hr.pos]
  push_cast
  rfl

/-- `UpdateTi` makes the next block of the output. -/
theorem Reading.updateTi_eq {s : HkdfInputStream} {c : Cursor} (hr : Reading h salt secret input s c) :
    s.updateTi = { s with
      streamStatus := .ok ()
      ti := Hkdf.block h (Hkdf.extract h salt secret) input (s.i + 1)
      i := s.i + 1
      positionInTi := 0 } := by
  have hi := hr.i_pos
  have hti : nextTi s.hmac s.prk s.input s.i s.ti =
      some (Hkdf.block h (Hkdf.extract h salt secret) input (s.i + 1)) := by
    unfold nextTi
    rw [if_neg (by omega), hr.hmac, hr.prk, hr.info, hr.ti]
    rfl
  unfold updateTi
  rw [hti]

/-- `Next` gives what comes next, or all bytes have been consumed. -/
theorem Reading.next {s s' : HkdfInputStream} {c : Cursor} {r : Except Status Bytes}
    (hr : Reading h salt secret input s c) (hnext : s.next = (r, s')) :
    (∃ bs, r = .ok bs ∧ bs ≠ [] ∧ bs <+: (Hkdf.okm h salt secret input).drop c.pos ∧
      Reading h salt secret input s' (c.next bs.length)) ∨
    (r = .error ⟨.outOfRange, "EOF"⟩ ∧ s' = { s with streamStatus := .error ⟨.outOfRange, "EOF"⟩ } ∧
      c.pos = 255 * h.digestSize) := by
  have hi_pos := hr.i_pos
  have hi_le := hr.i_le
  have hinTi := hr.inTi
  have hpos := hr.pos
  have hlen := hr.ti_length
  unfold HkdfInputStream.next at hnext
  rw [hr.status] at hnext
  dsimp only at hnext
  by_cases hlt : s.positionInTi < s.ti.length
  · rw [if_pos hlt] at hnext
    obtain ⟨rfl, rfl⟩ := Prod.mk.inj hnext
    have hsize : (s.ti.drop s.positionInTi).length = h.digestSize - s.positionInTi := by rw [List.length_drop, hlen]
    refine .inl ⟨_, rfl, ?_, ?_, ?_⟩
    · rw [← List.length_pos_iff, List.length_drop]
      omega
    · have hdrop := Hkdf.drop_okm h salt secret input (by omega : s.i - 1 < 255) hinTi
      rwa [Nat.sub_add_cancel hi_pos, ← hr.ti, ← hpos] at hdrop
    · refine ⟨hr.hmac, hr.prk, hr.info, hr.status, hi_pos, hi_le, hr.ti, Nat.le_of_eq hlen, ?_, ?_⟩
      · exact (Nat.le_of_eq hsize).trans ((Nat.sub_le _ _).trans (Nat.le_of_eq hlen.symm))
      · dsimp only [Cursor.next]
        rw [hsize, hlen]
        omega
  rw [if_neg hlt] at hnext
  have hend : s.positionInTi = h.digestSize := by omega
  by_cases hlast : s.i = 255
  · rw [if_pos hlast] at hnext
    obtain ⟨rfl, rfl⟩ := Prod.mk.inj hnext
    refine .inr ⟨rfl, rfl, ?_⟩
    rw [hpos, hlast, hend]
    omega
  · have hposNext : c.pos = s.i * h.digestSize := by
      rw [hpos, hend, ← Nat.succ_mul, Nat.succ_eq_add_one, Nat.sub_add_cancel hi_pos]
    rw [if_neg hlast] at hnext
    rw [hr.updateTi_eq] at hnext
    dsimp only [returnDataFromPosition] at hnext
    obtain ⟨rfl, rfl⟩ := Prod.mk.inj hnext
    have hsize : (Hkdf.block h (Hkdf.extract h salt secret) input (s.i + 1)).length = h.digestSize :=
      Hkdf.block_length (Nat.succ_ne_zero _)
    refine .inl ⟨_, rfl, ?_, ?_, ?_⟩
    · rw [← List.length_pos_iff, List.drop_zero, hsize]
      exact h.digestSize_pos
    · have hdrop := Hkdf.drop_okm h salt secret input (by omega : s.i < 255) (Nat.zero_le _)
      rwa [Nat.add_zero, ← hposNext] at hdrop
    · refine ⟨hr.hmac, hr.prk, hr.info, rfl, Nat.succ_pos _, by dsimp only; omega, rfl, Nat.le_of_eq hsize, ?_, ?_⟩
      · exact Nat.le_refl _
      · dsimp only [Cursor.next]
        rw [List.drop_zero, hsize, hposNext, Nat.add_sub_cancel]

/-- The reader is in T(i), or was told that T(255) is over. -/
def ReadsOkm (h : TotalHmac) (salt secret input : Bytes) (s : HkdfInputStream) (c : Cursor) : Prop :=
  Reading h salt secret input s c ∨
  Reading h salt secret input { s with streamStatus := .ok () } c ∧ s.streamStatus = .error ⟨.outOfRange, "EOF"⟩ ∧
    c.pos = 255 * h.digestSize ∧ c.last = 0

theorem Reading.new (h : TotalHmac) (salt secret input : Bytes) :
    Reading h salt secret input (new h.toHmac secret salt input) ⟨0, 0⟩ :=
  ⟨rfl, rfl, rfl, rfl, Nat.le_refl 1, by show 1 ≤ 255; omega, rfl, Nat.zero_le _, Nat.le_refl _,
    by show 0 = (1 - 1) * h.digestSize + 0; omega⟩

theorem Reading.backUp {s : HkdfInputStream} {c : Cursor} (hr : Reading h salt secret input s c) {count : Int}
    (hcount : count ≤ c.last) : Reading h salt secret input (s.backUp count) (c.backUp count) := by
  have hlast := hr.last
  have hinTi := hr.inTi
  have hpos := hr.pos
  refine ⟨hr.hmac, hr.prk, hr.info, hr.status, hr.i_pos, hr.i_le, hr.ti, ?_, ?_, ?_⟩
  · exact (Nat.sub_le _ _).trans hinTi
  · dsimp only [HkdfInputStream.backUp, Cursor.backUp]
    omega
  · dsimp only [HkdfInputStream.backUp, Cursor.backUp]
    omega

theorem ReadsOkm.position_eq {s : HkdfInputStream} {c : Cursor} (hr : ReadsOkm h salt secret input s c) :
    s.position = c.pos := by
  rcases hr with hr | ⟨hr, -⟩
  · exact hr.position_eq
  · exact hr.position_eq

theorem ReadsOkm.next_ok {s s' : HkdfInputStream} {c : Cursor} {bs : Bytes} (hr : ReadsOkm h salt secret input s c)
    (hnext : s.next = (.ok bs, s')) :
    bs ≠ [] ∧ bs <+: (Hkdf.okm h salt secret input).drop c.pos ∧ ReadsOkm h salt secret input s' (c.next bs.length) := by
  rcases hr with hr | ⟨-, hstatus, -⟩
  · rcases hr.next hnext with ⟨bs', hbs, hne, hpre, hr'⟩ | ⟨he, -⟩
    · obtain rfl := Except.ok.inj hbs
      exact ⟨hne, hpre, .inl hr'⟩
    · cases he
  · unfold HkdfInputStream.next at hnext
    rw [hstatus] at hnext
    cases hnext

theorem ReadsOkm.next_error {s s' : HkdfInputStream} {c : Cursor} {e : Status} (hr : ReadsOkm h salt secret input s c)
    (hnext : s.next = (.error e, s')) :
    e = ⟨.outOfRange, "EOF"⟩ ∧ c.pos = 255 * h.digestSize ∧ Failed s' ∧ ReadsOkm h salt secret input s' ⟨c.pos, 0⟩ := by
  rcases hr with hr | ⟨hr, hstatus, hend, hlast⟩
  · rcases hr.next hnext with ⟨bs, hbs, -⟩ | ⟨he, rfl, hend⟩
    · cases hbs
    · refine ⟨Except.error.inj he, hend, ⟨_, rfl⟩, .inr ⟨?_, rfl, hend, rfl⟩⟩
      exact ⟨hr.hmac, hr.prk, hr.info, rfl, hr.i_pos, hr.i_le, hr.ti, hr.inTi, Nat.zero_le _, hr.pos⟩
  · unfold HkdfInputStream.next at hnext
    rw [hstatus] at hnext
    obtain ⟨he, rfl⟩ := Prod.mk.inj hnext
    refine ⟨(Except.error.inj he).symm, hend, ⟨_, hstatus⟩, .inr ⟨?_, hstatus, hend, rfl⟩⟩
    exact ⟨hr.hmac, hr.prk, hr.info, rfl, hr.i_pos, hr.i_le, hr.ti, hr.inTi, Nat.zero_le _, hr.pos⟩

theorem ReadsOkm.backUp {s : HkdfInputStream} {c : Cursor} (hr : ReadsOkm h salt secret input s c) {count : Int}
    (hcount : count ≤ c.last) : ReadsOkm h salt secret input (s.backUp count) (c.backUp count) := by
  rcases hr with hr | ⟨hr, hstatus, hend, hlast⟩
  · exact .inl (hr.backUp hcount)
  · refine .inr ⟨hr.backUp hcount, hstatus, ?_, ?_⟩
    · rw [Cursor.backUp_of_last_eq_zero hlast, hend]
    · rw [Cursor.backUp_of_last_eq_zero hlast, hlast]

/-- **A stream of HKDF without failing HMACs is one over all that HKDF gives.** -/
theorem prfStream_okm (h : TotalHmac) (salt secret input : Bytes) :
    PrfStream (Hkdf.okm h salt secret input) (ReadsOkm h salt secret input) Failed where
  next_ok hat hnext := ⟨(hat.next_ok hnext).2.1, (hat.next_ok hnext).2.2⟩
  next_error hat hnext := (hat.next_error hnext).2.2.1
  backUp _ hat hle := hat.backUp (Int.ofNat_le.2 hle)
  failed := (prfStream []).failed

/-! ## Runs -/

/-- **The stream after some calls that keep to the contract**, and what their reader has consumed and may give back:
nothing after a call that failed. -/
inductive Reached (start : HkdfInputStream) : HkdfInputStream → Cursor → Prop
  | start : Reached start start ⟨0, 0⟩
  | next {s c bs s'} : Reached start s c → s.next = (.ok bs, s') → Reached start s' (c.next bs.length)
  | failed {s c e s'} : Reached start s c → s.next = (.error e, s') → Reached start s' ⟨c.pos, 0⟩
  | backUp {s c} (count : Int) : Reached start s c → count ≤ c.last → Reached start (s.backUp count) (c.backUp count)

theorem Reached.readsOkm {s : HkdfInputStream} {c : Cursor} (hr : Reached (new h.toHmac secret salt input) s c) :
    ReadsOkm h salt secret input s c := by
  induction hr with
  | start => exact .inl (Reading.new h salt secret input)
  | next _ hnext ih => exact (ih.next_ok hnext).2.2
  | failed _ hnext ih => exact (ih.next_error hnext).2.2.2
  | backUp count _ hcount ih => exact ih.backUp hcount

end HkdfInputStream

/-! ## The PRF -/

section Read
variable {σ : Type} [InputStream σ] {S : Bytes} {At : σ → Cursor → Prop} {Failed : σ → Prop}

/-- Where a stream fails at its end only, reading fails only for want of bytes. -/
theorem readBytesLoop_error (hr : PrfStream S At Failed)
    (hend : ∀ {s c e s'}, At s c → InputStream.next s = (.error e, s') → S.length ≤ c.pos) (result : Bytes) (n : Nat)
    (s : σ) : ∀ {c e s'}, At s c → readBytesLoop result n s = (.error e, s') → S.length < c.pos + n := by
  fun_induction readBytesLoop result n s with
  | case1 result s =>
    intro c e s' _ h
    cases h
  | case2 result n s hn e' s₁ hnext =>
    intro c e s' hat _
    have hle := hend hat hnext
    omega
  | case3 result n s hn buffer s₁ hnext numBytesToCopy =>
    rename_i ih
    intro c e s' hat h
    obtain ⟨-, hat₁⟩ := hr.next_ok hat hnext
    by_cases hlt : numBytesToCopy < buffer.length
    · -- nothing is missing after this buffer
      have hmin : n - numBytesToCopy = 0 := by omega
      rw [hmin, readBytesLoop_zero] at h
      cases h
    · rw [if_neg hlt] at h
      rw [dif_neg hlt] at ih
      have hih := ih hat₁ h
      dsimp only [Cursor.next] at hih
      omega

end Read

namespace HkdfStreamingPrf

open Hkdf (TotalHmac)
open PrfFromStreamingPrf (compute)

variable (h : TotalHmac) (salt secret input : Bytes)

/-- The PRF whose stream gives the blocks of HKDF. -/
abbrev ofTotal : HkdfStreamingPrf := ⟨h.toHmac, secret, salt⟩

/-- **The output has the length that is left of `n` in an `int`**, if there are as many bytes. -/
theorem compute_eq (n : Nat) :
    ((Narrow.toInt n).toNat ≤ 255 * h.digestSize →
      compute (ofTotal h salt secret).computePrf input n = .ok ((Hkdf.okm h salt secret input).take (Narrow.toInt n).toNat)) ∧
    (255 * h.digestSize < (Narrow.toInt n).toNat →
      ∃ e, compute (ofTotal h salt secret).computePrf input n = .error e) := by
  have hlen := Hkdf.okm_length (h := h) salt secret input
  have hstart : HkdfInputStream.ReadsOkm h salt secret input ((ofTotal h salt secret).computePrf input) ⟨0, 0⟩ :=
    .inl (HkdfInputStream.Reading.new h salt secret input)
  unfold compute readBytesFromStream
  rcases readBytesLoop_spec (HkdfInputStream.prfStream_okm h salt secret input) [] (Narrow.toInt n).toNat _ _ hstart with
    ⟨s', last, he, -, hle⟩ | ⟨e, s', he, -⟩
  · rw [he]
    constructor
    · intro _
      rw [List.nil_append, List.drop_zero]
    · intro hlt
      rw [List.drop_zero, hlen] at hle
      omega
  · rw [he]
    constructor
    · intro hle
      have hlt := readBytesLoop_error (HkdfInputStream.prfStream_okm h salt secret input)
        (fun hat hnext => (hat.next_error hnext).2.1 ▸ Nat.le_of_eq hlen) _ _ _ hstart he
      rw [hlen] at hlt
      dsimp only at hlt
      omega
    · intro _
      exact ⟨e, rfl⟩

/-- The first `n` bytes, or an error where there are fewer. -/
def ComputesPrefix (n : Nat) : Prop :=
  (n ≤ 255 * h.digestSize →
    compute (ofTotal h salt secret).computePrf input n = .ok ((Hkdf.okm h salt secret input).take n)) ∧
  (255 * h.digestSize < n → ∃ e, compute (ofTotal h salt secret).computePrf input n = .error e)

theorem computesPrefix_iff (n : Nat) :
    ComputesPrefix h salt secret input n ↔
      (n ≤ 255 * h.digestSize → n < 2 ^ 31) ∧ (255 * h.digestSize < n → 255 * h.digestSize < Narrow.toInt n) := by
  obtain ⟨hok, herror⟩ := compute_eq h salt secret input n
  have hlen := Hkdf.okm_length (h := h) salt secret input
  constructor
  · rintro ⟨hfirst, hlong⟩
    constructor
    · intro hle
      rw [← Narrow.toNat_toInt_eq_iff]
      by_cases hm : (Narrow.toInt n).toNat ≤ 255 * h.digestSize
      · have htake := congrArg List.length (Except.ok.inj ((hok hm).symm.trans (hfirst hle)))
        rw [List.length_take, List.length_take, hlen] at htake
        omega
      · obtain ⟨e, he⟩ := herror (by omega)
        cases he.symm.trans (hfirst hle)
    · intro hlt
      by_contra hm
      obtain ⟨e, he⟩ := hlong hlt
      cases he.symm.trans (hok (by omega))
  · rintro ⟨hsmall, hlarge⟩
    constructor
    · intro hle
      have hm := (Narrow.toNat_toInt_eq_iff n).2 (hsmall hle)
      rw [hm] at hok
      exact hok hle
    · intro hlt
      exact herror (by have := hlarge hlt; omega)

/-- **The stream gives the bytes of RFC 5869 and knows its place**, and the PRF gives the first `n` of them exactly when
`n` survives as an `int`, or stays too long. -/
theorem hkdfStreamingPrf_exact :
    (∀ s c, HkdfInputStream.Reached ((ofTotal h salt secret).computePrf input) s c →
      s.position = c.pos ∧
      (∀ bs s', s.next = (.ok bs, s') → bs ≠ [] ∧ bs <+: (Hkdf.okm h salt secret input).drop c.pos) ∧
      ∀ e s', s.next = (.error e, s') → e = ⟨.outOfRange, "EOF"⟩ ∧ c.pos = 255 * h.digestSize) ∧
    (∀ n, ComputesPrefix h salt secret input n ↔
      (n ≤ 255 * h.digestSize → n < 2 ^ 31) ∧ (255 * h.digestSize < n → 255 * h.digestSize < Narrow.toInt n)) ∧
    ∀ m n, m ≤ n → n ≤ 255 * h.digestSize → n < 2 ^ 31 → ∃ output output',
      compute (ofTotal h salt secret).computePrf input m = .ok output ∧
      compute (ofTotal h salt secret).computePrf input n = .ok output' ∧ output <+: output' := by
  refine ⟨fun s c hreached => ?_, computesPrefix_iff h salt secret input, fun m n hmn hn hsmall => ?_⟩
  · have hreads := hreached.readsOkm
    refine ⟨hreads.position_eq, fun bs s' hnext => ?_, fun e s' hnext => ?_⟩
    · exact ⟨(hreads.next_ok hnext).1, (hreads.next_ok hnext).2.1⟩
    · exact ⟨(hreads.next_error hnext).1, (hreads.next_error hnext).2.1⟩
  · have hm := (computesPrefix_iff h salt secret input m).2 ⟨fun _ => by omega, fun hlt => by omega⟩
    have hn' := (computesPrefix_iff h salt secret input n).2 ⟨fun _ => hsmall, fun hlt => by omega⟩
    exact ⟨_, _, hm.1 (hmn.trans hn), hn'.1 hn, List.take_prefix_take_left hmn⟩

/-- A hash of 32 bytes that are all zero. -/
def zeroHmac : TotalHmac where
  digestSize := 32
  digestSize_pos := by decide
  mac _ _ := List.replicate 32 0
  length_mac _ _ := List.length_replicate

/-- A length of 2^32 is 0 as an `int`: the output is empty, and not an error. -/
theorem not_computesPrefix : ¬ ComputesPrefix zeroHmac [] [] [] (2 ^ 32) := by
  rw [computesPrefix_iff]
  rintro ⟨-, hlarge⟩
  have hzero : Narrow.toInt (2 ^ 32 : Nat) = 0 := by
    rw [Narrow.toInt_eq_bmod]
    decide
  have hlt := hlarge (by decide)
  rw [hzero] at hlt
  omega

end HkdfStreamingPrf

end Tink
