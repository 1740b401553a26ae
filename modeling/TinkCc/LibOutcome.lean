import Mathlib.Data.Nat.Basic
/-!
# LibOutcome — calls that need not come back

A call returns a value, fails with an error, stops the program at a failed check, or never ends.  `loop` is a while loop
with a rank: a step of the body that does not lower the rank counts as a loop that never ends, so what is proved to come
back does come back.

`Refines` compares a call with a specification that always comes back: the same error, or values in a relation.  A loop
refines a specification when each step of the body takes a part of the specification's work away (`loop_refines`).
-/
inductive Outcome (ε α : Type) where
  | returns (value : α)
  | fails (error : ε)
  | checkFails
  | diverges
  deriving DecidableEq, Repr

namespace Outcome

variable {ε δ α β γ σ τ : Type}

/-- What comes behind a call happens if the call returns. -/
protected def bind (o : Outcome ε α) (f : α → Outcome ε β) : Outcome ε β :=
  match o with
  | returns a => f a
  | fails e => fails e
  | checkFails => checkFails
  | diverges => diverges

instance : Monad (Outcome ε) where
  pure := returns
  bind := Outcome.bind

def check (c : Prop) [Decidable c] : Outcome ε Unit := if c then returns () else checkFails

/-- The call with every error replaced. -/
def orError (e : ε) : Outcome δ α → Outcome ε α
  | returns a => returns a
  | fails _ => fails e
  | checkFails => checkFails
  | diverges => diverges

def ofExcept : Except ε α → Outcome ε α
  | .ok a => returns a
  | .error e => fails e

/-- The result of a call, which has one if it comes back. -/
def toExcept (stopped : ε) : Outcome ε α → Except ε α
  | returns a => .ok a
  | fails e => .error e
  | checkFails => .error stopped
  | diverges => .error stopped

/-- A value that must be there. -/
def required (e : ε) : Option α → Except ε α
  | some a => .ok a
  | none => .error e

/-- `while (more(s)) s = body(s);` -/
def loop (rank : σ → Nat) (more : σ → Bool) (body : σ → Outcome ε σ) (s : σ) : Outcome ε σ :=
  if more s then
    match body s with
    | returns s' => if rank s' < rank s then loop rank more body s' else diverges
    | fails e => fails e
    | checkFails => checkFails
    | diverges => diverges
  else returns s
termination_by rank s

@[simp] theorem pure_eq (a : α) : (pure a : Outcome ε α) = returns a := rfl

@[simp] theorem returns_bind (a : α) (f : α → Outcome ε β) : (returns a >>= f) = f a := rfl

@[simp] theorem fails_bind (e : ε) (f : α → Outcome ε β) : (fails e >>= f) = fails e := rfl

@[simp] theorem ofExcept_ok (a : α) : ofExcept (.ok a : Except ε α) = returns a := rfl

theorem required_ok {e : ε} {a : α} : ∀ {o : Option α}, required e o = .ok a → o = some a
  | some _, h => congrArg some (Except.ok.inj h)

theorem check_pos {c : Prop} [Decidable c] (h : c) : (check c : Outcome ε Unit) = returns () := if_pos h

protected theorem bind_assoc (o : Outcome ε α) (f : α → Outcome ε β) (g : β → Outcome ε γ) :
    (o >>= f >>= g) = o >>= fun a => f a >>= g := by
  cases o <;> rfl

theorem bind_eq_returns {o : Outcome ε α} {f : α → Outcome ε β} {b : β} :
    o >>= f = returns b ↔ ∃ a, o = returns a ∧ f a = returns b := by
  cases o with
  | returns a => simp
  | fails e => exact ⟨nofun, fun ⟨_, h, _⟩ => nomatch h⟩
  | checkFails => exact ⟨nofun, fun ⟨_, h, _⟩ => nomatch h⟩
  | diverges => exact ⟨nofun, fun ⟨_, h, _⟩ => nomatch h⟩

theorem ofExcept_eq_returns {x : Except ε α} {a : α} : ofExcept x = returns a ↔ x = .ok a := by
  cases x with
  | error e => exact ⟨nofun, nofun⟩
  | ok a' => exact ⟨fun h => congrArg Except.ok (returns.inj h), fun h => congrArg returns (Except.ok.inj h)⟩

theorem toExcept_eq_ok {stopped : ε} {o : Outcome ε α} {a : α} : o.toExcept stopped = .ok a ↔ o = returns a := by
  cases o with
  | returns a' => exact ⟨fun h => congrArg returns (Except.ok.inj h), fun h => congrArg Except.ok (returns.inj h)⟩
  | fails e => exact ⟨nofun, nofun⟩
  | checkFails => exact ⟨nofun, nofun⟩
  | diverges => exact ⟨nofun, nofun⟩

/-! ## Calls that come back -/

/-- The call returns a value or an error. -/
def ComesBack : Outcome ε α → Prop
  | returns _ => True
  | fails _ => True
  | checkFails => False
  | diverges => False

theorem comesBack_ofExcept (x : Except ε α) : (ofExcept x).ComesBack := by
  cases x <;> trivial

theorem ComesBack.bind {o : Outcome ε α} {f : α → Outcome ε β} (h : o.ComesBack)
    (hf : ∀ a, o = returns a → (f a).ComesBack) : (o >>= f).ComesBack := by
  cases o with
  | returns a => exact hf a rfl
  | fails e => trivial
  | checkFails => exact h
  | diverges => exact h

/-! ## Loops that return -/

theorem loop_done {rank : σ → Nat} {more : σ → Bool} {body : σ → Outcome ε σ} {s : σ} (h : more s = false) :
    loop rank more body s = returns s := by
  rw [loop, h]
  rfl

theorem loop_next {rank : σ → Nat} {more : σ → Bool} {body : σ → Outcome ε σ} {s s' : σ} (h : more s = true)
    (hbody : body s = returns s') (hrank : rank s' < rank s) :
    loop rank more body s = loop rank more body s' := by
  rw [loop, h, if_pos rfl, hbody]
  exact if_pos hrank

/-- **The invariant rule**: the body returns, keeps the invariant and lowers the rank. -/
theorem loop_returns {rank : σ → Nat} {more : σ → Bool} {body : σ → Outcome ε σ} {I : σ → Prop}
    (hstep : ∀ s, I s → more s = true → ∃ s', body s = returns s' ∧ I s' ∧ rank s' < rank s) :
    ∀ s, I s → ∃ s', loop rank more body s = returns s' ∧ I s' ∧ more s' = false := by
  intro s
  induction hn : rank s using Nat.strong_induction_on generalizing s with
  | _ n ih =>
    intro hI
    cases hmore : more s with
    | false => exact ⟨s, loop_done hmore, hI, hmore⟩
    | true =>
      obtain ⟨s', hbody, hI', hrank⟩ := hstep s hI hmore
      rw [loop_next hmore hbody hrank]
      exact ih (rank s') (hn ▸ hrank) s' rfl hI'

/-! ## Refinement -/

/-- **The call does what the specification says**: the same error, or a value in relation with the specified one. -/
def Refines (R : α → β → Prop) (o : Outcome ε α) : Except ε β → Prop
  | .ok b => ∃ a, o = returns a ∧ R a b
  | .error e => o = fails e

namespace Refines

variable {R : α → β → Prop} {o : Outcome ε α} {spec : Except ε β}

theorem returns {a : α} {b : β} (h : R a b) : Refines R (.returns a : Outcome ε α) (.ok b) := ⟨a, rfl, h⟩

theorem ofExcept (spec : Except ε α) : Refines Eq (Outcome.ofExcept spec) spec := by
  cases spec with
  | error e => rfl
  | ok a => exact ⟨a, rfl, rfl⟩

/-- The specified value may be used. -/
theorem specified (h : Refines R o spec) : Refines (fun a b => R a b ∧ spec = .ok b) o spec := by
  cases spec with
  | error e => exact h
  | ok b =>
    obtain ⟨a, rfl, hR⟩ := h
    exact ⟨a, rfl, hR, rfl⟩

theorem bind {α' β' : Type} {S : α' → β' → Prop} {f : α → Outcome ε α'} {g : β → Except ε β'} (h : Refines R o spec)
    (hf : ∀ a b, R a b → Refines S (f a) (g b)) : Refines S (o >>= f) (spec >>= g) := by
  cases spec with
  | error e => exact (congrArg (· >>= f) h).trans rfl
  | ok b =>
    obtain ⟨a, rfl, hR⟩ := h
    exact hf a b hR

/-- Only what is returned is put another way. -/
theorem returning {α' : Type} {S : α' → β → Prop} {f : α → α'} (h : Refines R o spec) (hf : ∀ a b, R a b → S (f a) b) :
    Refines S (o >>= fun a => .returns (f a)) spec := by
  cases spec with
  | error e => exact (congrArg (· >>= _) h).trans rfl
  | ok b =>
    obtain ⟨a, rfl, hR⟩ := h
    exact ⟨f a, rfl, hf a b hR⟩

/-- Only what is specified is put another way. -/
theorem of_map {β' : Type} {R : α → β' → Prop} {f : β → β'} (h : Refines R o (spec.map f)) :
    Refines (fun a b => R a (f b)) o spec := by
  cases spec with
  | error e => exact h
  | ok b => exact h

theorem orError {e : δ} (h : Refines R o spec) : Refines R (o.orError e) (spec.mapError fun _ => e) := by
  cases spec with
  | error e' =>
    have ho : o = .fails e' := h
    rw [ho]
    rfl
  | ok b =>
    obtain ⟨a, rfl, hR⟩ := h
    exact ⟨a, rfl, hR⟩

/-- Where the relation is a function, the call is the specification. -/
theorem map_eq {f : α → β} (h : Refines (fun a b => f a = b) o spec) : f <$> o = Outcome.ofExcept spec := by
  cases spec with
  | error e => exact (congrArg (f <$> ·) h).trans rfl
  | ok b =>
    obtain ⟨a, rfl, rfl⟩ := h
    rfl

end Refines

/-- **A loop refines a specification** that does the body's part of the work first and then itself: each step of the body
refines that part and lowers the rank, and where the loop stops there is nothing left to do. -/
theorem loop_refines {rank : σ → Nat} {more : σ → Bool} {body : σ → Outcome ε σ} {I : σ → τ → Prop} {R : σ → β → Prop}
    {spec : τ → Except ε β}
    (hstep : ∀ s t, I s t → more s = true → ∃ part : Except ε τ, spec t = part >>= spec ∧
      Refines (fun s' t' => I s' t' ∧ rank s' < rank s) (body s) part)
    (hdone : ∀ s t, I s t → more s = false → Refines R (returns s : Outcome ε σ) (spec t)) :
    ∀ s t, I s t → Refines R (loop rank more body s) (spec t) := by
  intro s
  induction hn : rank s using Nat.strong_induction_on generalizing s with
  | _ n ih =>
    intro t hI
    cases hmore : more s with
    | false =>
      rw [loop_done hmore]
      exact hdone s t hI hmore
    | true =>
      obtain ⟨part, hspec, hbody⟩ := hstep s t hI hmore
      rw [hspec]
      cases part with
      | error e =>
        have hfails : body s = fails e := hbody
        rw [loop, hmore, if_pos rfl, hfails]
        rfl
      | ok t' =>
        obtain ⟨s', hreturns, hI', hrank⟩ := hbody
        rw [loop_next hmore hreturns hrank]
        exact ih (rank s') (hn ▸ hrank) s' rfl t' hI'

end Outcome
