import Mathlib.Logic.Relation
/-!
# LibTrace — what a machine answers to a sequence of calls

A machine takes a call to an answer and its next state, or does not return.  Two machines are the same to their callers
when some relation of their states is kept by every call, with the same answer.
-/
namespace Trace

universe u v w x
variable {ι : Type u} {ο : Type v}

/-- The answers to some calls, up to one that does not return. -/
def answers {σ : Type w} (step : σ → ι → Option (ο × σ)) : σ → List ι → List ο
  | _, [] => []
  | s, i :: is =>
    match step s i with
    | none => []
    | some (o, s') => o :: answers step s' is

/-- One call, on related states: both return and answer the same, or neither returns. -/
inductive Agree {σ : Type w} {τ : Type x} (R : σ → τ → Prop) : Option (ο × σ) → Option (ο × τ) → Prop
  | none : Agree R none none
  | some {o s t} : R s t → Agree R (some (o, s)) (some (o, t))

theorem Agree.mono {σ : Type w} {τ : Type x} {R Q : σ → τ → Prop} (hRQ : ∀ s t, R s t → Q s t) {a : Option (ο × σ)}
    {b : Option (ο × τ)} (h : Agree R a b) : Agree Q a b := by
  cases h with
  | none => exact .none
  | some hr => exact .some (hRQ _ _ hr)

theorem Agree.exists_of_some {σ : Type w} {τ : Type x} {R : σ → τ → Prop} {o : ο} {s : σ} {b : Option (ο × τ)}
    (h : Agree R (Option.some (o, s)) b) : ∃ t, b = Option.some (o, t) ∧ R s t := by
  cases h with
  | some hr => exact ⟨_, rfl, hr⟩

/-- **Machines whose calls agree answer every sequence of calls the same.** -/
theorem answers_eq {σ : Type w} {τ : Type x} {step₁ : σ → ι → Option (ο × σ)} {step₂ : τ → ι → Option (ο × τ)}
    {R : σ → τ → Prop} (hstep : ∀ s t i, R s t → Agree R (step₁ s i) (step₂ t i)) :
    ∀ (is : List ι) {s : σ} {t : τ}, R s t → answers step₁ s is = answers step₂ t is
  | [], _, _, _ => rfl
  | i :: is, s, t, h => by
    have hagree := hstep s t i h
    unfold answers
    generalize step₁ s i = a at hagree
    generalize step₂ t i = b at hagree
    cases hagree with
    | none => rfl
    | some hr => simp only [answers_eq hstep is hr]

/-- **Calls that return and keep an invariant are all answered**, and as it says. -/
theorem forall_answers {σ : Type w} {step : σ → ι → Option (ο × σ)} {I : σ → Prop} {P : ο → Prop}
    (hstep : ∀ s i, I s → ∃ o s', step s i = some (o, s') ∧ P o ∧ I s') :
    ∀ (is : List ι) {s : σ}, I s → (answers step s is).length = is.length ∧ ∀ o ∈ answers step s is, P o
  | [], _, _ => ⟨rfl, fun o ho => by cases ho⟩
  | i :: is, s, h => by
    obtain ⟨o, s', hs, hp, hi⟩ := hstep s i h
    obtain ⟨hlen, hall⟩ := forall_answers hstep is hi
    unfold answers
    rw [hs]
    refine ⟨congrArg Nat.succ hlen, fun o' ho => ?_⟩
    rcases List.mem_cons.1 ho with rfl | ho
    · exact hp
    · exact hall o' ho

end Trace
