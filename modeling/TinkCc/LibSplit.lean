import Mathlib.Data.List.Basic
/-!
# LibSplit — a list split at a separator

`splitLast` splits at the last separator, `List.splitOn` at every one; `splitOn_eq_concat` says how the two go together.
-/
namespace Split

variable {α : Type} [DecidableEq α]

/-- What is before and what is after the last separator. -/
def splitLast (sep : α) : List α → Option (List α × List α)
  | [] => none
  | x :: xs =>
    match splitLast sep xs with
    | some (front, back) => some (x :: front, back)
    | none => if x = sep then some ([], xs) else none

theorem splitLast_eq_none {sep : α} : ∀ {xs : List α}, splitLast sep xs = none → sep ∉ xs
  | [], _ => List.not_mem_nil
  | x :: xs, h => by
    unfold splitLast at h
    split at h
    · cases h
    · rename_i hs
      split at h
      · cases h
      · rename_i hx
        rw [List.mem_cons, not_or]
        exact ⟨Ne.symm hx, splitLast_eq_none hs⟩

theorem splitLast_eq_some {sep : α} : ∀ {xs front back : List α}, splitLast sep xs = some (front, back) →
    xs = front ++ sep :: back ∧ sep ∉ back
  | [], _, _, h => by cases h
  | x :: xs, front, back, h => by
    unfold splitLast at h
    split at h
    · rename_i front' back' hs
      cases h
      obtain ⟨hxs, hb⟩ := splitLast_eq_some hs
      exact ⟨congrArg (x :: ·) hxs, hb⟩
    · rename_i hs
      split at h
      · rename_i hx
        cases h
        exact ⟨congrArg (· :: xs) hx, splitLast_eq_none hs⟩
      · cases h

theorem splitOn_concat {sep : α} {back : List α} (h : sep ∉ back) (front : List α) :
    (front ++ sep :: back).splitOn sep = front.splitOn sep ++ [back] := by
  rw [List.splitOn_append_cons_self, List.splitOn_eq_singleton h]

/-- The parts before the last one are those of what is before the last separator. -/
theorem splitOn_eq_concat {sep : α} {xs back : List α} (parts : List (List α)) (hp : parts ≠ []) :
    xs.splitOn sep = parts ++ [back] ↔ ∃ front, splitLast sep xs = some (front, back) ∧ front.splitOn sep = parts := by
  constructor
  · intro h
    cases hs : splitLast sep xs with
    | none =>
      rw [List.splitOn_eq_singleton (splitLast_eq_none hs)] at h
      exact absurd (List.append_inj_left' ((List.nil_append _).trans h) rfl).symm hp
    | some split =>
      obtain ⟨front, back'⟩ := split
      obtain ⟨hx, hb⟩ := splitLast_eq_some hs
      rw [hx, splitOn_concat hb] at h
      obtain ⟨hparts, hback⟩ := List.append_inj' h rfl
      cases hback
      exact ⟨front, rfl, hparts⟩
  · rintro ⟨front, hs, hf⟩
    obtain ⟨hx, hb⟩ := splitLast_eq_some hs
    rw [hx, splitOn_concat hb, hf]

end Split
