import Mathlib.Data.List.Basic
/-!
# LibBase64 — base64 with the alphabet for URLs

Three bytes are four digits; one or two bytes at the end are two or three digits, without padding.  `decode` asks that the
bits left over at the end are zero.
-/
namespace Base64

/-- The character of a digit. -/
def char (digit : Nat) : UInt8 :=
  if digit < 26 then UInt8.ofNat (65 + digit)
  else if digit < 52 then UInt8.ofNat (71 + digit)
  else if digit < 62 then UInt8.ofNat (digit - 4)
  else if digit = 62 then 45
  else 95

/-- The digit of a character. -/
def digit? (c : UInt8) : Option Nat :=
  if 65 ≤ c ∧ c ≤ 90 then some (c.toNat - 65)
  else if 97 ≤ c ∧ c ≤ 122 then some (c.toNat - 71)
  else if 48 ≤ c ∧ c ≤ 57 then some (c.toNat + 4)
  else if c = 45 then some 62
  else if c = 95 then some 63
  else none

def encode : List UInt8 → List UInt8
  | [] => []
  | [a] => [char (a.toNat / 4), char (a.toNat % 4 * 16)]
  | [a, b] =>
    let n := a.toNat * 256 + b.toNat
    [char (n / 1024), char (n / 16 % 64), char (n % 16 * 4)]
  | a :: b :: c :: rest =>
    let n := a.toNat * 65536 + b.toNat * 256 + c.toNat
    char (n / 262144) :: char (n / 4096 % 64) :: char (n / 64 % 64) :: char (n % 64) :: encode rest

def decode : List UInt8 → Option (List UInt8)
  | [] => some []
  | [_] => none
  | [p, q] => do
    let n := (← digit? p) * 64 + (← digit? q)
    if n % 16 = 0 then some [UInt8.ofNat (n / 16)] else none
  | [p, q, r] => do
    let n := (← digit? p) * 4096 + (← digit? q) * 64 + (← digit? r)
    if n % 4 = 0 then some [UInt8.ofNat (n / 1024), UInt8.ofNat (n / 4 % 256)] else none
  | p :: q :: r :: s :: text => do
    let n := (← digit? p) * 262144 + (← digit? q) * 4096 + (← digit? r) * 64 + (← digit? s)
    let rest ← decode text
    some (UInt8.ofNat (n / 65536) :: UInt8.ofNat (n / 256 % 256) :: UInt8.ofNat (n % 256) :: rest)

theorem digit?_char : ∀ digit < 64, digit? (char digit) = some digit := by decide

theorem ofNat_eq {n : Nat} {a : UInt8} (h : n = a.toNat) : UInt8.ofNat n = a := by
  rw [h, UInt8.ofNat_toNat]

/-- **What is encoded can be decoded.** -/
theorem decode_encode : ∀ (data : List UInt8), decode (encode data) = some data
  | [] => rfl
  | [a] => by
    have ha := a.toNat_lt
    unfold encode decode
    simp only [digit?_char (a.toNat / 4) (by omega), digit?_char (a.toNat % 4 * 16) (by omega), Option.bind_eq_bind,
      Option.bind_some]
    rw [if_pos (by omega), ofNat_eq (a := a) (by omega)]
  | [a, b] => by
    have ha := a.toNat_lt
    have hb := b.toNat_lt
    unfold encode decode
    generalize hn : a.toNat * 256 + b.toNat = n
    simp only [digit?_char (n / 1024) (by omega), digit?_char (n / 16 % 64) (by omega),
      digit?_char (n % 16 * 4) (by omega), Option.bind_eq_bind, Option.bind_some]
    rw [if_pos (by omega), ofNat_eq (a := a) (by omega), ofNat_eq (a := b) (by omega)]
  | a :: b :: c :: rest => by
    have ha := a.toNat_lt
    have hb := b.toNat_lt
    have hc := c.toNat_lt
    unfold encode decode
    generalize hn : a.toNat * 65536 + b.toNat * 256 + c.toNat = n
    simp only [digit?_char (n / 262144) (by omega), digit?_char (n / 4096 % 64) (by omega),
      digit?_char (n / 64 % 64) (by omega), digit?_char (n % 64) (by omega), decode_encode rest, Option.bind_eq_bind,
      Option.bind_some]
    rw [ofNat_eq (a := a) (by omega), ofNat_eq (a := b) (by omega), ofNat_eq (a := c) (by omega)]

/-- What holds of every character holds of what is encoded. -/
theorem encode_forall {P : UInt8 → Prop} (h : ∀ digit < 64, P (char digit)) :
    ∀ (data : List UInt8), ∀ c ∈ encode data, P c
  | [], c, hc => by cases hc
  | [a], c, hc => by
    have ha := a.toNat_lt
    simp only [encode, List.mem_cons, List.not_mem_nil, or_false] at hc
    rcases hc with rfl | rfl
    · exact h _ (by omega)
    · exact h _ (by omega)
  | [a, b], c, hc => by
    have ha := a.toNat_lt
    have hb := b.toNat_lt
    simp only [encode, List.mem_cons, List.not_mem_nil, or_false] at hc
    rcases hc with rfl | rfl | rfl
    · exact h _ (by omega)
    · exact h _ (by omega)
    · exact h _ (by omega)
  | a :: b :: d :: rest, c, hc => by
    have ha := a.toNat_lt
    have hb := b.toNat_lt
    have hd := d.toNat_lt
    simp only [encode, List.mem_cons] at hc
    rcases hc with rfl | rfl | rfl | rfl | hc
    · exact h _ (by omega)
    · exact h _ (by omega)
    · exact h _ (by omega)
    · exact h _ (by omega)
    · exact encode_forall h rest c hc

end Base64
