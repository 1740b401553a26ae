import Mathlib.Logic.Relation
import Mathlib.Logic.Function.Basic
/-!
# LibThreads — threads that look at a shared state while it changes

A thread looks at the shared state in critical sections, one after the other, and then answers; between two looks the state
takes any steps of `R`.  The answer of a thread is atomic when it is the one that the thread would give alone, at one of the
states from its start to its end.  `Settled` is what a thread needs for that: a look is the last that counts, or it can as
well be made later.
-/
namespace Threads

open Relation (ReflTransGen)

universe u v w x

/-- A thread over shared states `σ` that answers in `α`. -/
inductive Lookups (σ : Type u) (α : Type v)
  | done (answer : α)
  | look (next : σ → Lookups σ α)

namespace Lookups
variable {σ : Type u} {α : Type v} {β : Type w} {ε : Type x}

/-- The answer when the state does not change. -/
def alone (s : σ) : Lookups σ α → α
  | done a => a
  | look next => (next s).alone s

/-- A thread and then another, unless the first ends in an error. -/
def bind (f : α → Lookups σ (Except ε β)) : Lookups σ (Except ε α) → Lookups σ (Except ε β)
  | done (.error e) => done (.error e)
  | done (.ok a) => f a
  | look next => look fun s => (next s).bind f

@[simp] theorem alone_done (s : σ) (a : α) : (done a : Lookups σ α).alone s = a := rfl

@[simp] theorem alone_look (s : σ) (next : σ → Lookups σ α) : (look next).alone s = (next s).alone s := rfl

theorem alone_bind (s : σ) (f : α → Lookups σ (Except ε β)) :
    ∀ t : Lookups σ (Except ε α), (t.bind f).alone s = match t.alone s with
      | .error e => .error e
      | .ok a => (f a).alone s
  | done (.error _) => rfl
  | done (.ok _) => rfl
  | look next => alone_bind s f (next s)

end Lookups

open Lookups

section Runs
variable {σ : Type u} {α : Type v} {β : Type w} {ε : Type x} (R : σ → σ → Prop)

/-- A thread, from a first state to a last one, with the steps of `R` in between. -/
inductive Runs : σ → Lookups σ α → σ → α → Prop
  | done (s a) : Runs s (.done a) s a
  | look {s next s' a} : Runs s (next s) s' a → Runs s (.look next) s' a
  | other {s s₁ t s' a} : R s s₁ → Runs s₁ t s' a → Runs s t s' a

/-- Every look is the last that counts, or the answer of what follows is that of the whole also later. -/
def Settled : Lookups σ α → Prop
  | .done _ => True
  | .look next => ∀ s, (∀ s' a, Runs R s (next s) s' a → a = (next s).alone s) ∨
      Settled (next s) ∧ ∀ s', ReflTransGen R s s' → (next s).alone s' = (next s').alone s'

/-- Every look ends in an error, or the answer of what follows is that of the whole also later. -/
def Stable : Lookups σ (Except ε α) → Prop
  | .done _ => True
  | .look next => ∀ s, (∃ e, next s = .done (.error e)) ∨
      Stable (next s) ∧ ∀ s', ReflTransGen R s s' → (next s).alone s' = (next s').alone s'

variable {R}

theorem Runs.reaches {s s' : σ} {t : Lookups σ α} {a : α} (h : Runs R s t s' a) : ReflTransGen R s s' := by
  induction h with
  | done => exact .refl
  | look _ ih => exact ih
  | other hstep _ ih => exact .head hstep ih

/-- Nothing is left of a thread that has answered. -/
theorem Runs.eq_of_done {s s' : σ} {t : Lookups σ α} {a b : α} (h : Runs R s t s' b) (ht : t = .done a) : b = a := by
  induction h with
  | done => exact Lookups.done.inj ht
  | look => cases ht
  | other _ _ ih => exact ih ht

/-- **The answer of a settled thread is the one it would give alone**, at some state on its way. -/
theorem Runs.atomic {s s' : σ} {t : Lookups σ α} {a : α} (ht : Settled R t) (h : Runs R s t s' a) :
    ∃ m, ReflTransGen R s m ∧ ReflTransGen R m s' ∧ t.alone m = a := by
  induction h with
  | done s a => exact ⟨s, .refl, .refl, rfl⟩
  | look hrun ih =>
    rename_i s next s' a
    rcases ht s with hlast | ⟨hnext, hlater⟩
    · -- the look at `s` decides the answer
      exact ⟨s, .refl, hrun.reaches, (hlast _ _ hrun).symm⟩
    · obtain ⟨m, hm, hm', ha⟩ := ih hnext
      exact ⟨m, hm, hm', (hlater m hm).symm.trans ha⟩
  | other hstep _ ih =>
    obtain ⟨m, hm, hm', ha⟩ := ih ht
    exact ⟨m, .head hstep hm, hm', ha⟩

/-- One look whose answer, when it is no error, is that of every later look. -/
theorem Stable.of_look {read : σ → Except ε α} (h : ∀ s s' a, read s = .ok a → ReflTransGen R s s' → read s' = .ok a) :
    Stable R (.look fun s => .done (read s)) := by
  intro s
  cases hread : read s with
  | error e => exact .inl ⟨e, congrArg Lookups.done hread⟩
  | ok a => exact .inr ⟨trivial, fun s' hs' => hread.trans (h s s' a hread hs').symm⟩

/-- One look that is the last. -/
theorem Settled.of_look (read : σ → α) : Settled R (.look fun s => .done (read s)) :=
  fun _ => .inl fun _ _ hrun => hrun.eq_of_done rfl

/-- What follows a thread whose looks can be made later may end with a look that counts. -/
theorem Stable.bind_settled {f : α → Lookups σ (Except ε β)} (hf : ∀ a, Settled R (f a)) :
    ∀ {t : Lookups σ (Except ε α)}, Stable R t → Settled R (t.bind f)
  | .done (.error _), _ => trivial
  | .done (.ok a), _ => hf a
  | .look next, h => by
    intro s
    rcases h s with ⟨e, herror⟩ | ⟨hstable, hlater⟩
    · refine .inl fun s' a hrun => ?_
      have hdone : (next s).bind f = .done (.error e) := congrArg (Lookups.bind f) herror
      rw [hrun.eq_of_done hdone]
      dsimp only
      rw [hdone]
      rfl
    · refine .inr ⟨hstable.bind_settled hf, fun s' hs' => ?_⟩
      dsimp only
      rw [alone_bind, alone_bind, hlater s' hs']

theorem Stable.bind {f : α → Lookups σ (Except ε β)} (hf : ∀ a, Stable R (f a)) :
    ∀ {t : Lookups σ (Except ε α)}, Stable R t → Stable R (t.bind f)
  | .done (.error _), _ => trivial
  | .done (.ok a), _ => hf a
  | .look next, h => by
    intro s
    rcases h s with ⟨e, herror⟩ | ⟨hstable, hlater⟩
    · exact .inl ⟨e, congrArg (Lookups.bind f) herror⟩
    · refine .inr ⟨hstable.bind hf, fun s' hs' => ?_⟩
      dsimp only
      rw [alone_bind, alone_bind, hlater s' hs']

end Runs

/-! ## Many threads -/

section Pool
variable {σ : Type u} {ι : Type v} [DecidableEq ι] {α : ι → Type w} (R : σ → σ → Prop)

/-- One step of a pool: the state takes a step, or one of the threads looks at it. -/
inductive PoolStep : σ × (∀ i, Lookups σ (α i)) → σ × (∀ i, Lookups σ (α i)) → Prop
  | state {s s' pool} : R s s' → PoolStep (s, pool) (s', pool)
  | look {s pool} (i next) : pool i = .look next → PoolStep (s, pool) (s, Function.update pool i (next s))

variable {R}

/-- Every thread of a pool that has answered has run among the steps of the others. -/
theorem runs_of_pool {before after : σ × (∀ i, Lookups σ (α i))} (h : ReflTransGen (PoolStep R) before after) (i : ι)
    {a : α i} (ha : after.2 i = .done a) : Runs R before.1 (before.2 i) after.1 a := by
  induction h using ReflTransGen.head_induction_on with
  | refl =>
    rw [ha]
    exact .done _ _
  | head hstep _ ih =>
    cases hstep with
    | state hs => exact .other hs ih
    | look j next hlook =>
      by_cases hij : i = j
      · subst hij
        simp only [Function.update_self] at ih
        dsimp only
        rw [hlook]
        exact .look ih
      · simp only [Function.update_of_ne hij] at ih
        exact ih

end Pool

end Threads
