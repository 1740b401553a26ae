import Mathlib.Data.List.Perm.Basic
/-!
# Buckets — a map from keys to lists of values

An association list whose values are lists, each value put at the end of the list of its key.  `Files` relates it to the
list of the values in the order in which they were put.
-/
namespace Buckets

variable {κ α : Type} [DecidableEq κ]

/-- Puts a value at the end of the bucket of its key. -/
def push (k : κ) (a : α) : List (κ × List α) → List (κ × List α)
  | [] => [(k, [a])]
  | (k', as) :: bs => if k' = k then (k', as ++ [a]) :: bs else (k', as) :: push k a bs

/-- The bucket of a key. -/
def get? (k : κ) : List (κ × List α) → Option (List α)
  | [] => none
  | (k', as) :: bs => if k' = k then some as else get? k bs

/-- Puts another list in the place of the bucket of a key. -/
def set (k : κ) (as : List α) : List (κ × List α) → List (κ × List α)
  | [] => [(k, as)]
  | (k', as') :: bs => if k' = k then (k', as) :: bs else (k', as') :: set k as bs

theorem get?_push (k k' : κ) (a : α) : ∀ (bs : List (κ × List α)),
    get? k (push k' a bs) = if k' = k then some ((get? k bs).getD [] ++ [a]) else get? k bs
  | [] => by simp only [push, get?]; rfl
  | (k₀, as) :: bs => by
    by_cases h : k₀ = k'
    · subst h
      by_cases hk : k₀ = k
      · simp [push, get?, hk]
      · simp [push, get?, hk]
    · have ih := get?_push k k' a bs
      by_cases hk : k₀ = k
      · subst hk
        simp [push, get?, h, Ne.symm h]
      · simp only [push, get?, if_neg h, if_neg hk, ih]

theorem push_perm (k : κ) (a : α) : ∀ (bs : List (κ × List α)),
    ((push k a bs).flatMap (·.2)).Perm (bs.flatMap (·.2) ++ [a])
  | [] => by simp [push]
  | (k', as) :: bs => by
    by_cases h : k' = k
    · simp only [push, if_pos h, List.flatMap_cons, List.append_assoc]
      exact List.Perm.append_left as List.perm_append_comm
    · simp only [push, if_neg h, List.flatMap_cons, List.append_assoc]
      exact (push_perm k a bs).append_left as

theorem get?_set (k k' : κ) (as : List α) : ∀ (bs : List (κ × List α)),
    get? k (set k' as bs) = if k' = k then some as else get? k bs
  | [] => by simp only [set, get?]
  | (k₀, as₀) :: bs => by
    by_cases h : k₀ = k'
    · subst h
      by_cases hk : k₀ = k
      · simp [set, get?, hk]
      · simp [set, get?, hk]
    · have ih := get?_set k k' as bs
      by_cases hk : k₀ = k
      · subst hk
        simp [set, get?, h, Ne.symm h]
      · simp only [set, get?, if_neg h, if_neg hk, ih]

theorem get?_map {β : Type} (g : α → β) (k : κ) : ∀ (bs : List (κ × List α)),
    get? k (bs.map fun b => (b.1, b.2.map g)) = (get? k bs).map (List.map g)
  | [] => rfl
  | (k', as) :: bs => by
    simp only [List.map_cons, get?, get?_map g k bs]
    split
    · rfl
    · rfl

/-- **The buckets hold the values `l`, in this order, each under its key `f`.** -/
structure Files (f : α → κ) (bs : List (κ × List α)) (l : List α) : Prop where
  get  : ∀ k, get? k bs = if l.filter (fun a => decide (f a = k)) = [] then none
    else some (l.filter (fun a => decide (f a = k)))
  perm : (bs.flatMap (·.2)).Perm l

theorem Files.nil (f : α → κ) : Files f [] [] := ⟨fun _ => rfl, .nil⟩

theorem Files.push {f : α → κ} {bs : List (κ × List α)} {l : List α} (h : Files f bs l) (a : α) :
    Files f (push (f a) a bs) (l ++ [a]) := by
  refine ⟨fun k => ?_, (push_perm (f a) a bs).trans (h.perm.append_right [a])⟩
  rw [get?_push, h.get, List.filter_append]
  by_cases hk : f a = k
  · rw [if_pos hk]
    split
    · rename_i hnil
      simp [hnil, hk]
    · simp [hk]
  · rw [if_neg hk]
    simp [hk]

theorem Files.mem_iff {f : α → κ} {bs : List (κ × List α)} {l : List α} (h : Files f bs l) {a : α} :
    a ∈ l ↔ ∃ as, get? (f a) bs = some as ∧ a ∈ as := by
  rw [h.get]
  constructor
  · intro ha
    have hmem : a ∈ l.filter (fun b => decide (f b = f a)) := by simpa using ha
    exact ⟨_, if_neg (List.ne_nil_of_mem hmem), hmem⟩
  · rintro ⟨as, has, ha⟩
    split at has
    · cases has
    · cases has
      exact (List.mem_filter.1 ha).1

end Buckets
