import Mathlib.Data.Nat.Size
import Mathlib.Tactic.Ring
/-!
# LibBase128 — base-128 numbers over bytes

A number is written seven bits a byte, lowest first, the high bit of every byte but the last one set.  `IsVarint`
says which byte strings are such a number, `value` reads one and `encode` writes the shortest one.
-/
namespace Base128

/-- The byte string is one number: it ends at its first byte below 128. -/
def IsVarint : List UInt8 → Prop
  | []     => False
  | b :: t => if b.toNat < 128 then t = [] else IsVarint t

def value : List UInt8 → Nat
  | []     => 0
  | b :: t => b.toNat % 128 + 128 * value t

def encode (n : Nat) : List UInt8 :=
  if n < 128 then [UInt8.ofNat n] else UInt8.ofNat (n % 128 + 128) :: encode (n / 128)

theorem isVarint_cons_of_lt {b : UInt8} {t : List UInt8} (h : b.toNat < 128) : IsVarint (b :: t) ↔ t = [] := by
  simp [IsVarint, h]

theorem isVarint_cons_of_ge {b : UInt8} {t : List UInt8} (h : ¬ b.toNat < 128) : IsVarint (b :: t) ↔ IsVarint t := by
  simp [IsVarint, h]

theorem isVarint_ne_nil : ∀ {bs : List UInt8}, IsVarint bs → bs ≠ []
  | _ :: _, _ => by simp

theorem isVarint_length_pos {bs : List UInt8} (h : IsVarint bs) : 0 < bs.length :=
  List.length_pos_iff.2 (isVarint_ne_nil h)

/-! ## The shortest writing -/

theorem encode_of_lt {n : Nat} (h : n < 128) : encode n = [UInt8.ofNat n] := by
  rw [encode, if_pos h]

theorem encode_of_ge {n : Nat} (h : ¬ n < 128) : encode n = UInt8.ofNat (n % 128 + 128) :: encode (n / 128) := by
  rw [encode, if_neg h]

theorem toNat_ofNat_of_lt {n : Nat} (h : n < 256) : (UInt8.ofNat n).toNat = n := by
  rw [UInt8.toNat_ofNat']
  exact Nat.mod_eq_of_lt h

theorem isVarint_encode (n : Nat) : IsVarint (encode n) := by
  induction n using Nat.strongRecOn with
  | ind n ih =>
    by_cases h : n < 128
    · rw [encode_of_lt h, isVarint_cons_of_lt (by rw [toNat_ofNat_of_lt (by omega)]; exact h)]
    · have hb : ¬ (UInt8.ofNat (n % 128 + 128)).toNat < 128 := by
        rw [toNat_ofNat_of_lt (by omega)]; omega
      rw [encode_of_ge h, isVarint_cons_of_ge hb]
      exact ih (n / 128) (by omega)

theorem value_encode (n : Nat) : value (encode n) = n := by
  induction n using Nat.strongRecOn with
  | ind n ih =>
    by_cases h : n < 128
    · rw [encode_of_lt h]
      simp only [value, toNat_ofNat_of_lt (show n < 256 by omega)]
      omega
    · rw [encode_of_ge h]
      simp only [value, toNat_ofNat_of_lt (show n % 128 + 128 < 256 by omega), ih (n / 128) (by omega)]
      omega

/-- **The writing is the shortest**: `n` has exactly as many base-128 digits as it has bytes. -/
theorem encode_length_bounds (n : Nat) :
    ∃ k, (encode n).length = k + 1 ∧ n < 128 ^ (k + 1) ∧ (k = 0 ∨ 128 ^ k ≤ n) := by
  induction n using Nat.strongRecOn with
  | ind n ih =>
    by_cases h : n < 128
    · exact ⟨0, by rw [encode_of_lt h]; rfl, by simpa using h, .inl rfl⟩
    · obtain ⟨k, hlen, hlt, hge⟩ := ih (n / 128) (by omega)
      refine ⟨k + 1, by rw [encode_of_ge h, List.length_cons, hlen], ?_, .inr ?_⟩
      · rw [Nat.pow_succ]
        omega
      · rw [Nat.pow_succ]
        rcases hge with rfl | hge
        · omega
        · omega

theorem encode_length_le {n k : Nat} (hk : 0 < k) (h : n < 128 ^ k) : (encode n).length ≤ k := by
  obtain ⟨j, hlen, -, hj⟩ := encode_length_bounds n
  rw [hlen]
  rcases hj with rfl | hj
  · omega
  · have : 128 ^ j < 128 ^ k := Nat.lt_of_le_of_lt hj h
    exact (Nat.pow_lt_pow_iff_right (by decide)).1 this

/-- **The length of the shortest writing, from the number of bits**: seven bits a byte, and one byte for 0. -/
theorem encode_length (n : Nat) : (encode n).length = if n.size = 0 then 1 else (n.size + 6) / 7 := by
  obtain ⟨k, hlen, hlt, hge⟩ := encode_length_bounds n
  have e : ∀ j, 128 ^ j = 2 ^ (7 * j) := fun j => by rw [Nat.pow_mul]
  rw [e] at hlt
  have hle : n.size ≤ 7 * (k + 1) := Nat.size_le.2 hlt
  rw [hlen]
  rcases hge with rfl | hge
  · by_cases h0 : n.size = 0
    · rw [if_pos h0]
    · rw [if_neg h0]; omega
  · rw [e] at hge
    have hlt' : 7 * k < n.size := Nat.lt_size.2 hge
    rw [if_neg (by omega)]
    omega

end Base128
