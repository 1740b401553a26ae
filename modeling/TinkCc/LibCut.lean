import Mathlib.Data.List.Basic
/-!
# LibCut — cutting a list into pieces

A list is cut into one piece of `first` elements and pieces of `rest` elements, the last piece being what is left.  The
last piece is empty only for the empty list: a list that ends with a full piece gets no empty piece behind it.

`cut_append` says that this shape determines the pieces, `cut_spec` that `cut` has it.
-/
namespace Cut

variable {α : Type}

/-- The pieces. -/
def cut (first rest : Nat) (xs : List α) : List (List α) :=
  if 0 < first ∧ first < xs.length then xs.take first :: cut rest rest (xs.drop first) else [xs]
termination_by xs.length
decreasing_by rw [List.length_drop]; omega

/-- Pieces that are all full: the first of `first` elements, the others of `rest`. -/
def Full : (first rest : Nat) → List (List α) → Prop
  | _, _, []              => True
  | first, rest, p :: ps  => p.length = first ∧ Full rest rest ps

/-- The size of the piece behind these. -/
def nextSize (first rest : Nat) : List (List α) → Nat
  | []     => first
  | _ :: _ => rest

theorem nextSize_cons (first rest : Nat) (p : List α) (ps : List (List α)) :
    nextSize first rest (p :: ps) = nextSize rest rest ps := by
  cases ps <;> rfl

/-- A piece that may stand last behind full pieces. -/
structure IsLast (first rest : Nat) (ps : List (List α)) (p : List α) : Prop where
  length_le : p.length ≤ nextSize first rest ps
  ne_nil    : ps ≠ [] → p ≠ []

theorem full_append {first rest : Nat} {p : List α} : ∀ {ps : List (List α)}, Full first rest ps →
    p.length = nextSize first rest ps → Full first rest (ps ++ [p])
  | [], _, h => ⟨h, trivial⟩
  | q :: ps, h, hp => by
    rw [nextSize_cons] at hp
    exact ⟨h.1, full_append h.2 hp⟩

theorem full_get {first rest : Nat} {p : List α} {qs : List (List α)} : ∀ {ps : List (List α)},
    Full first rest (ps ++ p :: qs) → p.length = nextSize first rest ps
  | [], h => h.1
  | q :: ps, h => by
    rw [nextSize_cons]
    exact full_get h.2

theorem full_left {first rest : Nat} {qs : List (List α)} : ∀ {ps : List (List α)}, Full first rest (ps ++ qs) →
    Full first rest ps
  | [], _ => trivial
  | _ :: _, h => ⟨h.1, full_left h.2⟩

theorem nextSize_pos {first rest : Nat} (hf : 0 < first) (hr : 0 < rest) (ps : List (List α)) :
    0 < nextSize first rest ps := by
  cases ps with
  | nil => exact hf
  | cons p ps => exact hr

theorem cut_of_length_le {first rest : Nat} {xs : List α} (h : xs.length ≤ first) : cut first rest xs = [xs] := by
  rw [cut, if_neg (by omega)]

/-- Full pieces with something behind them are cut off. -/
theorem cut_full_append {first rest : Nat} (hf : 0 < first) (hr : 0 < rest) {xs : List α} (hne : xs ≠ []) :
    ∀ {ps : List (List α)}, Full first rest ps →
      cut first rest (ps.flatten ++ xs) = ps ++ cut (nextSize first rest ps) rest xs
  | [], _ => rfl
  | q :: ps, hfull => by
    obtain ⟨rfl, hps⟩ := hfull
    have hpos := List.length_pos_iff.2 hne
    rw [List.flatten_cons, List.append_assoc, cut,
      if_pos ⟨hf, by rw [List.length_append, List.length_append]; omega⟩, List.take_left, List.drop_left,
      cut_full_append hr hr hne hps, nextSize_cons]
    rfl

/-- **The shape determines the pieces.** -/
theorem cut_append {first rest : Nat} (hf : 0 < first) (hr : 0 < rest) {ps : List (List α)} {p : List α}
    (hfull : Full first rest ps) (hl : IsLast first rest ps p) : cut first rest (ps.flatten ++ p) = ps ++ [p] := by
  by_cases hps : ps = []
  · subst hps
    exact cut_of_length_le hl.length_le
  · rw [cut_full_append hf hr (hl.ne_nil hps) hfull, cut_of_length_le hl.length_le]

/-- **The pieces have the shape**, and are the list. -/
theorem cut_spec {first rest : Nat} (hf : 0 < first) (hr : 0 < rest) (xs : List α) :
    ∃ ps p, cut first rest xs = ps ++ [p] ∧ ps.flatten ++ p = xs ∧ Full first rest ps ∧ IsLast first rest ps p := by
  by_cases hlt : first < xs.length
  · obtain ⟨ps, p, hcut, hxs, hfull, hl⟩ := cut_spec hr hr (xs.drop first)
    have hlen : (xs.take first).length = first := List.length_take_of_le (by omega)
    refine ⟨xs.take first :: ps, p, ?_, ?_, ⟨hlen, hfull⟩, ?_, fun _ => ?_⟩
    · rw [cut, if_pos ⟨hf, hlt⟩, hcut]
      rfl
    · rw [List.flatten_cons, List.append_assoc, hxs, List.take_append_drop]
    · rw [nextSize_cons]
      exact hl.length_le
    · -- behind no full piece, the piece is all that is left
      cases ps with
      | nil =>
        intro hp
        have := congrArg List.length hxs
        rw [hp, List.flatten_nil, List.append_nil, List.length_nil, List.length_drop] at this
        omega
      | cons q ps => exact hl.ne_nil (by simp)
  · exact ⟨[], xs, cut_of_length_le (Nat.le_of_not_lt hlt), rfl, trivial, Nat.le_of_not_lt hlt, by simp⟩
termination_by xs.length
decreasing_by rw [List.length_drop]; omega

theorem cut_flatten {first rest : Nat} (hf : 0 < first) (hr : 0 < rest) (xs : List α) :
    (cut first rest xs).flatten = xs := by
  obtain ⟨ps, p, hcut, hxs, -, -⟩ := cut_spec hf hr xs
  rw [hcut, List.flatten_append, List.flatten_singleton, hxs]

/-- Every piece but the last is full, and an empty one is all there is. -/
theorem cut_piece {first rest : Nat} (hf : 0 < first) (hr : 0 < rest) {xs p : List α} {ps qs : List (List α)}
    (h : cut first rest xs = ps ++ p :: qs) :
    p.length ≤ nextSize first rest ps ∧ (qs ≠ [] → p.length = nextSize first rest ps) ∧ (p = [] → xs = []) ∧
      Full first rest ps := by
  obtain ⟨ps', p', hcut, hxs, hfull, hl⟩ := cut_spec hf hr xs
  rw [hcut] at h
  rcases List.eq_nil_or_concat qs with rfl | ⟨qs, q, rfl⟩
  · obtain ⟨rfl, hp⟩ := List.append_inj' h rfl
    obtain rfl : p' = p := by simpa using hp
    refine ⟨hl.length_le, fun hne => absurd rfl hne, fun hnil => ?_, hfull⟩
    by_cases hps : ps' = []
    · rw [← hxs, hps, hnil]
      rfl
    · exact absurd hnil (hl.ne_nil hps)
  · rw [List.concat_eq_append, ← List.cons_append, ← List.append_assoc] at h
    obtain ⟨rfl, -⟩ := List.append_inj' h rfl
    have hp := full_get hfull
    refine ⟨Nat.le_of_eq hp, fun _ => hp, fun hnil => ?_, full_left hfull⟩
    have := nextSize_pos hf hr ps
    rw [hnil, List.length_nil] at hp
    omega

/-! ## Where the pieces are -/

/-- The elements before piece `n`. -/
def start (first rest : Nat) : Nat → Nat
  | 0     => 0
  | n + 1 => first + n * rest

theorem start_self (rest n : Nat) : start rest rest n = n * rest := by
  cases n with
  | zero => rw [Nat.zero_mul]; rfl
  | succ n => rw [Nat.succ_mul]; exact Nat.add_comm _ _

theorem full_length {first rest : Nat} : ∀ {ps : List (List α)}, Full first rest ps →
    ps.flatten.length = start first rest ps.length
  | [], _ => rfl
  | p :: ps, h => by
    rw [List.flatten_cons, List.length_append, h.1, full_length h.2, start_self]
    rfl

theorem start_succ (first rest n : Nat) :
    start first rest (n + 1) = start first rest n + if n = 0 then first else rest := by
  cases n with
  | zero => simp [start]
  | succ n => simp only [start, Nat.succ_mul, Nat.add_assoc, Nat.add_one_ne_zero, if_false]

theorem nextSize_eq (first rest : Nat) (ps : List (List α)) :
    nextSize first rest ps = if ps.length = 0 then first else rest := by
  cases ps <;> rfl

/-- Piece `i` and what lies behind it. -/
theorem cut_get {first rest : Nat} (hf : 0 < first) (hr : 0 < rest) {xs p : List α} {i : Nat}
    (h : (cut first rest xs)[i]? = some p) :
    ∃ behind, xs.drop (start first rest i) = p ++ behind ∧ start first rest i ≤ xs.length ∧
      start first rest i + p.length ≤ start first rest (i + 1) ∧
      (i + 1 = (cut first rest xs).length → behind = []) ∧
      (i + 1 ≠ (cut first rest xs).length → behind ≠ [] ∧ start first rest i + p.length = start first rest (i + 1)) := by
  obtain ⟨hi, hp⟩ := List.getElem?_eq_some_iff.1 h
  have hsplit : cut first rest xs = (cut first rest xs).take i ++ p :: (cut first rest xs).drop (i + 1) := by
    rw [← hp, List.getElem_cons_drop, List.take_append_drop]
  have hlen : ((cut first rest xs).take i).length = i := by
    rw [List.length_take]
    omega
  generalize (cut first rest xs).take i = ps at hsplit hlen
  generalize (cut first rest xs).drop (i + 1) = qs at hsplit
  obtain ⟨hle, hfull, -, hps⟩ := cut_piece hf hr hsplit
  have hsucc : start first rest (i + 1) = start first rest i + nextSize first rest ps := by
    rw [start_succ, nextSize_eq, hlen]
  have hxs : xs = ps.flatten ++ (p ++ qs.flatten) := by
    rw [← List.flatten_cons, ← List.flatten_append, ← hsplit, cut_flatten hf hr]
  have hstart : ps.flatten.length = start first rest i := by rw [full_length hps, hlen]
  have hcount : (cut first rest xs).length = i + 1 + qs.length := by
    rw [hsplit, List.length_append, List.length_cons, hlen]
    omega
  refine ⟨qs.flatten, ?_, ?_, by omega, fun hl => ?_, fun hl => ?_⟩
  · rw [← hstart]
    conv_lhs => rw [hxs]
    exact List.drop_left
  · rw [← hstart, hxs, List.length_append]
    omega
  · rw [List.eq_nil_of_length_eq_zero (by omega : qs.length = 0), List.flatten_nil]
  · have hqs : qs ≠ [] := by
      rw [← List.length_pos_iff]
      omega
    refine ⟨fun hnil => ?_, by rw [hfull hqs, hsucc]⟩
    -- the piece behind is not empty
    obtain ⟨q, qs, rfl⟩ := List.exists_cons_of_ne_nil hqs
    rw [List.flatten_cons, List.append_eq_nil_iff] at hnil
    have hnext : cut first rest xs = (ps ++ [p]) ++ q :: qs := by rw [hsplit, List.append_assoc]; rfl
    have := (cut_piece hf hr hnext).2.2.1 hnil.1
    have hpnil : p = [] := by
      rw [this] at hxs
      exact (List.append_eq_nil_iff.1 (List.append_eq_nil_iff.1 hxs.symm).2).1
    have := nextSize_pos hf hr ps
    have := hfull hqs
    rw [hpnil, List.length_nil] at this
    omega

/-- The last piece is full for these lengths. -/
theorem last_full_iff {first rest : Nat} (hf : 0 < first) (hr : 0 < rest) {xs p : List α} {ps : List (List α)}
    (h : cut first rest xs = ps ++ [p]) :
    p.length = nextSize first rest ps ↔ ∃ j, xs.length = first + j * rest := by
  obtain ⟨ps', p', hcut, hxs, hfull, hl⟩ := cut_spec hf hr xs
  rw [hcut] at h
  obtain ⟨rfl, hp⟩ := List.append_inj' h rfl
  obtain rfl : p' = p := by simpa using hp
  have hlen : xs.length = start first rest ps'.length + p'.length := by
    rw [← hxs, List.length_append, full_length hfull]
  have hle := hl.length_le
  rw [hlen]
  cases ps' with
  | nil =>
    simp only [nextSize, start, List.length_nil, Nat.zero_add] at hle ⊢
    exact ⟨fun hp => ⟨0, by omega⟩, fun ⟨j, hj⟩ => by omega⟩
  | cons q ps' =>
    have hpos := List.length_pos_iff.2 (hl.ne_nil (by simp))
    simp only [nextSize, start, List.length_cons] at hle ⊢
    constructor
    · intro hp
      exact ⟨ps'.length + 1, by rw [hp, Nat.succ_mul]; omega⟩
    · rintro ⟨j, hj⟩
      -- a multiple of `rest` in `(0, rest]`
      have hmul : ps'.length * rest + p'.length = j * rest := by omega
      have hlt : ps'.length < j := Nat.lt_of_mul_lt_mul_right (a := rest) (by omega)
      have hge := Nat.mul_le_mul_right rest hlt
      rw [Nat.succ_mul] at hge
      omega

end Cut
