import Mathlib.Data.List.Basic
import Mathlib.Logic.Function.Basic
/-!
# LibFirstWins — tables whose entries stay

A value is registered under a key.  The first value stays; the same value may be registered again, and another one is
refused.  After a run of registrations every key has the first value that was registered under it (`run_apply`); if no key
has been registered with two values, every registration is accepted and their order does not matter (`acceptsAll_iff`,
`run_congr`).
-/
namespace FirstWins

universe u v

variable {κ : Type u} {ω : Type v} [DecidableEq κ]

abbrev Table (κ : Type u) (ω : Type v) := κ → Option ω

/-- The first value that is registered under a key. -/
def first (entries : List (κ × ω)) (k : κ) : Option ω := (entries.find? (·.1 = k)).map (·.2)

theorem first_cons (entry : κ × ω) (entries : List (κ × ω)) (k : κ) :
    first (entry :: entries) k = (if entry.1 = k then some entry.2 else none).or (first entries k) := by
  unfold first
  rw [List.find?_cons]
  by_cases hk : entry.1 = k <;> simp [hk]

theorem first_eq_none_iff {entries : List (κ × ω)} {k : κ} : first entries k = none ↔ ∀ v, (k, v) ∉ entries := by
  unfold first
  simp only [Option.map_eq_none_iff, List.find?_eq_none, decide_eq_true_eq]
  exact ⟨fun h v hv => h (k, v) hv rfl, fun h entry hentry hk => h entry.2 (hk ▸ hentry)⟩

theorem mem_of_first {entries : List (κ × ω)} {k : κ} {v : ω} (h : first entries k = some v) : (k, v) ∈ entries := by
  obtain ⟨entry, hfind, rfl⟩ := Option.map_eq_some_iff.1 h
  have hk := List.find?_some hfind
  have hk : entry.1 = k := of_decide_eq_true hk
  exact hk ▸ List.mem_of_find?_eq_some hfind

variable [DecidableEq ω]

/-- A registration, `none` if it is refused. -/
def register (t : Table κ ω) (k : κ) (v : ω) : Option (Table κ ω) :=
  if t k = none ∨ t k = some v then some (Function.update t k (some v)) else none

/-- The table after a registration, whether it was refused or not. -/
def after (t : Table κ ω) (entry : κ × ω) : Table κ ω := (register t entry.1 entry.2).getD t

def run (t : Table κ ω) (entries : List (κ × ω)) : Table κ ω := entries.foldl after t

/-- Whether every registration is accepted. -/
def acceptsAll : Table κ ω → List (κ × ω) → Prop
  | _, [] => True
  | t, entry :: entries => (register t entry.1 entry.2).isSome ∧ acceptsAll (after t entry) entries

/-- No key is registered with two values. -/
def Consistent (entries : List (κ × ω)) : Prop := ∀ ⦃k v w⦄, (k, v) ∈ entries → (k, w) ∈ entries → v = w

/-- Every entry of the first table is one of the second. -/
def Extends (t t' : Table κ ω) : Prop := ∀ ⦃k v⦄, t k = some v → t' k = some v

theorem register_isSome_iff (t : Table κ ω) (k : κ) (v : ω) : (register t k v).isSome ↔ t k = none ∨ t k = some v := by
  unfold register
  split <;> simp [*]

theorem after_apply (t : Table κ ω) (entry : κ × ω) (k : κ) :
    after t entry k = (t k).or (if entry.1 = k then some entry.2 else none) := by
  unfold after register
  by_cases hk : entry.1 = k
  · subst hk
    cases ht : t entry.1 with
    | none => simp
    | some w => by_cases hw : w = entry.2 <;> simp [ht, hw]
  · have hne : k ≠ entry.1 := Ne.symm hk
    rw [if_neg hk, Option.or_none]
    split <;> simp [Function.update_of_ne hne]

/-- **The first value wins.** -/
theorem run_apply (t : Table κ ω) (entries : List (κ × ω)) (k : κ) : run t entries k = (t k).or (first entries k) := by
  induction entries generalizing t with
  | nil => simp [run, first]
  | cons entry entries ih =>
    rw [first_cons, ← Option.or_assoc, ← after_apply]
    exact ih (after t entry)

theorem extends_run (t : Table κ ω) (entries : List (κ × ω)) : Extends t (run t entries) := by
  intro k v h
  rw [run_apply, h, Option.some_or]

/-- **When every registration is accepted**: the values agree with each other and with what is there. -/
theorem acceptsAll_iff (t : Table κ ω) (entries : List (κ × ω)) :
    acceptsAll t entries ↔ (∀ k v, (k, v) ∈ entries → t k = none ∨ t k = some v) ∧ Consistent entries := by
  induction entries generalizing t with
  | nil => simp [acceptsAll, Consistent]
  | cons entry entries ih =>
    obtain ⟨k, v⟩ := entry
    have hafter : ∀ k', after t (k, v) k' = (t k').or (if k = k' then some v else none) := after_apply t (k, v)
    simp only [acceptsAll, register_isSome_iff, ih, hafter]
    constructor
    · rintro ⟨hhead, htail, hconsistent⟩
      have hagree : ∀ w, (k, w) ∈ entries → w = v := by
        intro w hw
        have := htail k w hw
        rcases hhead with h | h <;> simpa [h, eq_comm] using this
      refine ⟨fun k' w hw => ?_, fun k' w w' hw hw' => ?_⟩
      · rcases List.mem_cons.1 hw with heq | hw
        · cases heq
          exact hhead
        · by_cases hk : k = k'
          · subst hk
            rw [hagree w hw]
            exact hhead
          · simpa [hk] using htail k' w hw
      · rcases List.mem_cons.1 hw with heq | hw <;> rcases List.mem_cons.1 hw' with heq' | hw'
        · cases heq
          cases heq'
          rfl
        · cases heq
          exact (hagree w' hw').symm
        · cases heq'
          exact hagree w hw
        · exact hconsistent hw hw'
    · rintro ⟨hagree, hconsistent⟩
      refine ⟨hagree k v List.mem_cons_self, fun k' w hw => ?_, fun k' w w' hw hw' =>
        hconsistent (List.mem_cons_of_mem _ hw) (List.mem_cons_of_mem _ hw')⟩
      have hw' := List.mem_cons_of_mem (k, v) hw
      by_cases hk : k = k'
      · subst hk
        obtain rfl := hconsistent List.mem_cons_self hw'
        rcases hagree k v hw' with h | h <;> simp [h]
      · simpa [hk] using hagree k' w hw'

/-- The entries of a table that was made by registrations that agree. -/
theorem run_none_eq_some_iff {entries : List (κ × ω)} (h : Consistent entries) {k : κ} {v : ω} :
    run (fun _ => none) entries k = some v ↔ (k, v) ∈ entries := by
  rw [run_apply, Option.none_or]
  refine ⟨mem_of_first, fun hmem => ?_⟩
  cases hfirst : first entries k with
  | none => exact absurd hmem (first_eq_none_iff.1 hfirst v)
  | some w => rw [h (mem_of_first hfirst) hmem]

/-- **Neither the order nor repetitions matter**, if the registrations agree. -/
theorem run_congr {entries entries' : List (κ × ω)} (h : Consistent entries) (hmem : ∀ e, e ∈ entries ↔ e ∈ entries') :
    run (fun _ => none) entries = run (fun _ => none) entries' := by
  have h' : Consistent entries' := fun k v w hv hw => h ((hmem _).2 hv) ((hmem _).2 hw)
  funext k
  refine Option.ext fun v => ?_
  rw [run_none_eq_some_iff h, run_none_eq_some_iff h', hmem]

end FirstWins
