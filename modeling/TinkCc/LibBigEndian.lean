import Mathlib.Data.List.Iterate
import Mathlib.Data.Nat.Digits.Lemmas
/-!
# LibBigEndian — counters over big-endian bytes

A byte string is a number, highest byte first.  `increment` adds one with a carry from the last byte, and `counter` is
the run of strings it gives: the blocks of a counter mode.  A run that starts with zeros behind other bytes leaves those
alone as long as it fits in the zeros, so runs that start with other bytes have no string in common
(`counter_disjoint`).
-/
namespace BigEndian

/-- The number. -/
def value (bs : List UInt8) : Nat := Nat.ofDigits 256 (bs.reverse.map UInt8.toNat)

theorem value_cons (b : UInt8) (bs : List UInt8) : value (b :: bs) = value bs + 256 ^ bs.length * b.toNat := by
  unfold value
  rw [List.reverse_cons, List.map_append, Nat.ofDigits_append, List.length_map, List.length_reverse]
  simp

theorem value_replicate_zero : ∀ (n : Nat), value (List.replicate n 0) = 0
  | 0     => rfl
  | n + 1 => by
    rw [List.replicate_succ, value_cons, value_replicate_zero n]
    simp

/-- Zeros in front of a number do not count. -/
theorem value_zeros_append : ∀ (n : Nat) (bs : List UInt8), value (List.replicate n 0 ++ bs) = value bs
  | 0, _      => rfl
  | n + 1, bs => by
    rw [List.replicate_succ, List.cons_append, value_cons, value_zeros_append n bs]
    simp

theorem value_lt (bs : List UInt8) : value bs < 256 ^ bs.length := by
  have h := Nat.ofDigits_lt_base_pow_length (b := 256) (l := bs.reverse.map UInt8.toNat) (by omega) (fun d hd => by
    obtain ⟨b, -, rfl⟩ := List.mem_map.1 hd
    exact b.toNat_lt)
  rwa [List.length_map, List.length_reverse] at h

/-- The last `size` bytes of a number. -/
def encode : (size n : Nat) → List UInt8
  | 0, _ => []
  | size + 1, n => UInt8.ofNat (n / 256 ^ size) :: encode size n

theorem encode_length : ∀ (size n : Nat), (encode size n).length = size
  | 0, _ => rfl
  | size + 1, n => congrArg (· + 1) (encode_length size n)

theorem value_encode_mod : ∀ (size n : Nat), value (encode size n) = n % 256 ^ size
  | 0, n => by
    rw [Nat.pow_zero, Nat.mod_one]
    rfl
  | size + 1, n => by
    have hb : (UInt8.ofNat (n / 256 ^ size)).toNat = n / 256 ^ size % 256 := UInt8.toNat_ofNat'
    unfold encode
    rw [value_cons, encode_length, value_encode_mod size n, hb, Nat.pow_succ, Nat.mod_mul]

theorem value_encode {size n : Nat} (h : n < 256 ^ size) : value (encode size n) = n := by
  rw [value_encode_mod, Nat.mod_eq_of_lt h]

/-- Strings of one length that are the same number are the same. -/
theorem value_injective : ∀ {bs bs' : List UInt8}, bs.length = bs'.length → value bs = value bs' → bs = bs'
  | [], [], _, _ => rfl
  | b :: bs, b' :: bs', hlen, h => by
    have hlen : bs.length = bs'.length := Nat.succ.inj hlen
    rw [value_cons, value_cons, hlen] at h
    have hlt := value_lt bs
    have hlt' := value_lt bs'
    rw [hlen] at hlt
    have hlow := congrArg (· % 256 ^ bs'.length) h
    have hhigh := congrArg (· / 256 ^ bs'.length) h
    simp only [Nat.add_mul_mod_self_left, Nat.mod_eq_of_lt hlt, Nat.mod_eq_of_lt hlt'] at hlow
    simp only [Nat.add_mul_div_left _ _ (Nat.pow_pos (by omega : 0 < 256)), Nat.div_eq_of_lt hlt,
      Nat.div_eq_of_lt hlt', Nat.zero_add] at hhigh
    rw [UInt8.toNat_inj.1 hhigh, value_injective hlen hlow]

theorem encode_value (bs : List UInt8) : encode bs.length (value bs) = bs :=
  value_injective (encode_length _ _) (value_encode (value_lt bs))

/-- A longer string for the same number has zeros in front. -/
theorem encode_value_of_le {bs : List UInt8} {size : Nat} (h : bs.length ≤ size) :
    encode size (value bs) = List.replicate (size - bs.length) 0 ++ bs := by
  apply value_injective
  · rw [encode_length, List.length_append, List.length_replicate]
    omega
  · rw [value_encode (Nat.lt_of_lt_of_le (value_lt bs) (Nat.pow_le_pow_right (by omega) h)), value_zeros_append]

/-- A number that fits in its last bytes has zeros before them. -/
theorem take_eq_zeros {bs : List UInt8} {n : Nat} (hn : n ≤ bs.length) (h : value bs < 256 ^ (bs.length - n)) :
    bs.take n = List.replicate n 0 := by
  have heq : bs = List.replicate n 0 ++ encode (bs.length - n) (value bs) := by
    apply value_injective
    · rw [List.length_append, List.length_replicate, encode_length]
      omega
    · rw [value_zeros_append, value_encode h]
  rw [heq, List.take_left' (List.length_replicate ..)]

theorem value_drop_of_take {bs : List UInt8} {n : Nat} (h : bs.take n = List.replicate n 0) : value (bs.drop n) = value bs := by
  conv_rhs => rw [← List.take_append_drop n bs, h]
  rw [value_zeros_append]

/-- A number fits in the bytes that are left exactly if those taken away are zeros. -/
theorem take_eq_zeros_iff {bs : List UInt8} {n : Nat} (hn : n ≤ bs.length) :
    bs.take n = List.replicate n 0 ↔ value bs < 256 ^ (bs.length - n) := by
  constructor
  · intro h
    have hlt := value_lt (bs.drop n)
    rwa [value_drop_of_take h, List.length_drop] at hlt
  · exact take_eq_zeros hn

theorem drop_eq_encode {bs : List UInt8} {n : Nat} (hn : n ≤ bs.length) (h : value bs < 256 ^ (bs.length - n)) :
    bs.drop n = encode (bs.length - n) (value bs) := by
  have hencode := encode_value (bs.drop n)
  rw [value_drop_of_take (take_eq_zeros hn h), List.length_drop] at hencode
  exact hencode.symm

/-- Without the zeros in front. -/
def trim (bs : List UInt8) : List UInt8 := bs.dropWhile (· == 0)

theorem trim_zeros_append : ∀ (n : Nat) (bs : List UInt8), trim (List.replicate n 0 ++ bs) = trim bs
  | 0, bs     => rfl
  | n + 1, bs => by
    rw [List.replicate_succ, List.cons_append]
    exact trim_zeros_append n bs

theorem trim_of_head {bs : List UInt8} (h : bs.head? ≠ some 0) : trim bs = bs := by
  cases bs with
  | nil => rfl
  | cons b bs =>
    unfold trim
    rw [List.dropWhile_cons_of_neg]
    simpa using h

theorem trim_head : ∀ (bs : List UInt8), (trim bs).head? ≠ some 0
  | [] => by simp [trim]
  | b :: bs => by
    unfold trim
    by_cases h : b = 0
    · rw [List.dropWhile_cons_of_pos (by simpa using h)]
      exact trim_head bs
    · rw [List.dropWhile_cons_of_neg (by simpa using h)]
      simpa using h

theorem value_trim : ∀ (bs : List UInt8), value (trim bs) = value bs
  | [] => rfl
  | b :: bs => by
    by_cases h : b = 0
    · subst h
      have htrim : trim (0 :: bs) = trim bs := trim_zeros_append 1 bs
      have hvalue : value (0 :: bs) = value bs := value_zeros_append 1 bs
      rw [htrim, hvalue, value_trim bs]
    · rw [trim_of_head (by simpa using h)]

/-- Without zeros in front the number has as many digits as there are bytes. -/
theorem digits_length_value {bs : List UInt8} (h : bs.head? ≠ some 0) : (Nat.digits 256 (value bs)).length = bs.length := by
  unfold value
  rw [Nat.digits_ofDigits 256 (by omega), List.length_map, List.length_reverse]
  · intro digit hdigit
    obtain ⟨b, -, rfl⟩ := List.mem_map.1 hdigit
    exact b.toNat_lt
  · intro hne hlast
    cases bs with
    | nil => exact hne rfl
    | cons b bs =>
      apply h
      simp only [List.reverse_cons, List.map_append, List.map_cons, List.map_nil, List.getLast_append_singleton] at hlast
      rw [List.head?_cons, UInt8.toNat_inj.1 (hlast.trans UInt8.toNat_zero.symm)]

/-- One more, and whether it carries out of the first byte. -/
def increment : List UInt8 → Bool × List UInt8
  | []      => (true, [])
  | b :: bs =>
    match increment bs with
    | (true, bs')  => (b == 255, (b + 1) :: bs')
    | (false, bs') => (false, b :: bs')

def next (bs : List UInt8) : List UInt8 := (increment bs).2

/-- `n` strings, from `bs` on. -/
def counter (bs : List UInt8) (n : Nat) : List (List UInt8) := List.iterate next bs n

theorem next_length (bs : List UInt8) : (next bs).length = bs.length := by
  unfold next
  induction bs with
  | nil => rfl
  | cons b bs ih =>
    rw [increment]
    split <;> rename_i h <;> rw [h] at ih <;> simpa using ih

/-- **What `increment` adds.** -/
theorem increment_value (bs : List UInt8) :
    value (next bs) + (if (increment bs).1 then 256 ^ bs.length else 0) = value bs + 1 := by
  induction bs with
  | nil => rfl
  | cons b bs ih =>
    have hlen := next_length bs
    unfold next at ih hlen ⊢
    rw [increment]
    split
    · rename_i h
      rw [h] at ih hlen
      simp only [if_true] at ih hlen
      simp only [value_cons, hlen, List.length_cons, beq_iff_eq]
      by_cases hb : b = 255
      · subst hb
        simp only [if_true, Nat.pow_succ]
        have h0 : ((255 : UInt8) + 1).toNat = 0 := rfl
        have h1 : (255 : UInt8).toNat = 255 := rfl
        rw [h0, h1]
        omega
      · rw [if_neg hb]
        have hsucc : (b + 1).toNat = b.toNat + 1 := by
          have hne : b.toNat ≠ 255 := fun h => hb (UInt8.toNat_inj.1 h)
          have hlt := b.toNat_lt
          rw [UInt8.toNat_add]
          exact Nat.mod_eq_of_lt (by simpa using (by omega : b.toNat + 1 < 256))
        rw [hsucc, Nat.mul_add]
        omega
    · rename_i h
      rw [h] at ih hlen
      simp only [Bool.false_eq_true, if_false] at ih hlen ⊢
      rw [value_cons, value_cons, hlen]
      omega

/-- Without a carry out of them, the last bytes are incremented alone. -/
theorem next_append {bs : List UInt8} (h : value bs + 1 < 256 ^ bs.length) :
    ∀ (front : List UInt8), next (front ++ bs) = front ++ next bs ∧ (increment (front ++ bs)).1 = false
  | [] => by
    refine ⟨rfl, ?_⟩
    by_contra hc
    have hval := increment_value bs
    rw [List.nil_append, Bool.not_eq_false] at hc
    rw [hc, if_pos rfl] at hval
    omega
  | b :: front => by
    obtain ⟨ih, hc⟩ := next_append h front
    unfold next at ih ⊢
    rw [List.cons_append, increment]
    split
    · rename_i h
      rw [h] at hc
      cases hc
    · rename_i h
      rw [h] at ih
      exact ⟨congrArg (List.cons b) ih, rfl⟩

/-- **A run that starts with zeros keeps the bytes before them.** -/
theorem iterate_next (front : List UInt8) {k : Nat} : ∀ {m : Nat}, m < 256 ^ k →
    ∃ bs, Nat.iterate next m (front ++ List.replicate k 0) = front ++ bs ∧ bs.length = k ∧ value bs = m
  | 0, _ => ⟨_, rfl, List.length_replicate, value_replicate_zero k⟩
  | m + 1, hm => by
    obtain ⟨bs, hbs, rfl, rfl⟩ := iterate_next front (by omega : m < 256 ^ k)
    refine ⟨next bs, ?_, next_length bs, ?_⟩
    · rw [Function.iterate_succ_apply', hbs]
      exact (next_append hm front).1
    · have hval := increment_value bs
      have hc := (next_append hm []).2
      rw [List.nil_append] at hc
      rw [hc] at hval
      simpa using hval

/-- **Runs that start with zeros behind other bytes have nothing in common.** -/
theorem counter_disjoint {front front' : List UInt8} (hlen : front.length = front'.length) (hne : front ≠ front') {k n n' : Nat}
    (hn : n ≤ 256 ^ k) (hn' : n' ≤ 256 ^ k) :
    List.Disjoint (counter (front ++ List.replicate k 0) n) (counter (front' ++ List.replicate k 0) n') := by
  intro block h h'
  obtain ⟨m, hm, rfl⟩ := List.mem_iterate.1 h
  obtain ⟨m', hm', heq⟩ := List.mem_iterate.1 h'
  obtain ⟨bs, hbs, -, -⟩ := iterate_next front (by omega : m < 256 ^ k)
  obtain ⟨bs', hbs', -, -⟩ := iterate_next front' (by omega : m' < 256 ^ k)
  rw [hbs, hbs'] at heq
  exact hne (List.append_inj heq hlen).1

end BigEndian
