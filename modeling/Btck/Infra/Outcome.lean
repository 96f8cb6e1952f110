import Mathlib.Tactic.Common

/-!
# Outcomes of a program step

A C or C++ function ends in one of three ways: it returns, it throws, or it leaves what the
language defines. The last is kept apart from an exception, because no handler sees it.

* `Outcome ε α` is the result of code without state.
* `Prog σ ε α` is code over a state `σ`. The state survives a throw, so that what a handler
  or a destructor finds is what the body left behind.
-/

namespace Infra

/-! ## Outcome -/

/-- How a run leaves the defined behaviour of its language. -/
inductive Fault where
  /-- An `assert` failed and the process aborts. -/
  | assertion
  /-- A null pointer was read through. -/
  | nullDeref
  /-- Any other undefined behaviour. -/
  | undefined
  deriving DecidableEq, Repr

/-- What a call does: it returns a value, throws, or faults. -/
inductive Outcome (ε α : Type) where
  | returns (a : α)
  | throws (e : ε)
  | faults (f : Fault)
  deriving DecidableEq, Repr

namespace Outcome

variable {ε ε' α β : Type}

def bind : Outcome ε α → (α → Outcome ε β) → Outcome ε β
  | returns a, f => f a
  | throws e, _ => throws e
  | faults u, _ => faults u

instance : Monad (Outcome ε) where
  pure := returns
  bind := bind

@[simp] theorem pure_eq (a : α) : (pure a : Outcome ε α) = returns a := rfl

@[simp] theorem returns_bind (a : α) (f : α → Outcome ε β) : (returns a >>= f) = f a := rfl

@[simp] theorem throws_bind (e : ε) (f : α → Outcome ε β) : (throws e >>= f) = throws e := rfl

@[simp] theorem faults_bind (u : Fault) (f : α → Outcome ε β) : (faults u >>= f) = faults u := rfl

theorem bind_eq_returns {x : Outcome ε α} {f : α → Outcome ε β} {b : β} :
    (x >>= f) = returns b ↔ ∃ a, x = returns a ∧ f a = returns b := by
  cases x <;> simp

/-- The value, when the call returned one. -/
def value? : Outcome ε α → Option α
  | returns a => some a
  | _ => none

@[simp] theorem value?_returns (a : α) : (returns a : Outcome ε α).value? = some a := rfl

@[simp] theorem value?_throws (e : ε) : (throws e : Outcome ε α).value? = none := rfl

@[simp] theorem value?_faults (u : Fault) : (faults u : Outcome ε α).value? = none := rfl

/-- A call that cannot throw, seen where a throw is possible. -/
def noThrow : Outcome Empty α → Outcome ε α
  | returns a => returns a
  | faults u => faults u

@[simp] theorem noThrow_returns (a : α) : (noThrow (returns a) : Outcome ε α) = returns a := rfl

end Outcome

/-! ## Programs over a state -/

/-- Code over a state. The state is there however the code ends. -/
def Prog (σ ε α : Type) : Type := σ → Outcome ε α × σ

namespace Prog

open Outcome

variable {σ ε ε' α β : Type}

instance : Monad (Prog σ ε) where
  pure a := fun s => (returns a, s)
  bind x f := fun s =>
    match x s with
    | (returns a, s') => f a s'
    | (throws e, s') => (throws e, s')
    | (faults u, s') => (faults u, s')

/-- Code that does not touch the state. -/
def lift (x : Outcome ε α) : Prog σ ε α := fun s => (x, s)

def throw (e : ε) : Prog σ ε α := fun s => (throws e, s)

def fault (u : Fault) : Prog σ ε α := fun s => (faults u, s)

/-- A call through an interface that lets no exception out. -/
def noThrow (x : Prog σ Empty α) : Prog σ ε α := fun s => ((x s).1.noThrow, (x s).2)

/-- `try { x } catch (...) { handler }`. -/
def catchAll (x : Prog σ ε α) (handler : ε → Prog σ ε' α) : Prog σ ε' α := fun s =>
  match x s with
  | (returns a, s') => (returns a, s')
  | (throws e, s') => handler e s'
  | (faults u, s') => (faults u, s')

/--
Run `cleanup` when `x` is left, by a return or by a throw: a destructor at the end of a scope.
-/
def andFinally (x : Prog σ ε α) (cleanup : Prog σ Empty Unit) : Prog σ ε α := fun s =>
  match x s with
  | (returns a, s') => (noThrow cleanup >>= fun _ => pure a : Prog σ ε α) s'
  | (throws e, s') => (noThrow cleanup >>= fun _ => throw e : Prog σ ε α) s'
  | (faults u, s') => (faults u, s')

@[simp] theorem pure_run (a : α) (s : σ) : (pure a : Prog σ ε α) s = (returns a, s) := rfl

@[simp] theorem lift_run (x : Outcome ε α) (s : σ) : lift x s = (x, s) := rfl

@[simp] theorem throw_run (e : ε) (s : σ) : (throw e : Prog σ ε α) s = (throws e, s) := rfl

@[simp] theorem fault_run (u : Fault) (s : σ) : (fault u : Prog σ ε α) s = (faults u, s) := rfl

/-- What follows a computation that is known to return. -/
theorem bind_of_returns {x : Prog σ ε α} {s s' : σ} {a : α} (h : x s = (returns a, s'))
    (f : α → Prog σ ε β) : (x >>= f) s = f a s' := by
  show (match x s with
    | (returns a, s') => f a s'
    | (throws e, s') => (throws e, s')
    | (faults u, s') => (faults u, s')) = _
  rw [h]

theorem bind_of_throws {x : Prog σ ε α} {s s' : σ} {e : ε} (h : x s = (throws e, s'))
    (f : α → Prog σ ε β) : (x >>= f) s = (throws e, s') := by
  show (match x s with
    | (returns a, s') => f a s'
    | (throws e, s') => (throws e, s')
    | (faults u, s') => (faults u, s')) = _
  rw [h]

theorem bind_of_faults {x : Prog σ ε α} {s s' : σ} {u : Fault} (h : x s = (faults u, s'))
    (f : α → Prog σ ε β) : (x >>= f) s = (faults u, s') := by
  show (match x s with
    | (returns a, s') => f a s'
    | (throws e, s') => (throws e, s')
    | (faults u, s') => (faults u, s')) = _
  rw [h]

@[simp] theorem pure_bind_run (a : α) (f : α → Prog σ ε β) (s : σ) :
    ((pure a : Prog σ ε α) >>= f) s = f a s := rfl

theorem bind_eq_returns {x : Prog σ ε α} {f : α → Prog σ ε β} {s s'' : σ} {b : β} :
    (x >>= f) s = (returns b, s'') ↔ ∃ a s', x s = (returns a, s') ∧ f a s' = (returns b, s'') := by
  rcases hrun : x s with ⟨out, s'⟩
  cases out with
  | returns a => simp [bind_of_returns hrun]
  | throws e => simp [bind_of_throws hrun]
  | faults u => simp [bind_of_faults hrun]

theorem bind_assoc {γ : Type} (x : Prog σ ε α) (f : α → Prog σ ε β) (g : β → Prog σ ε γ) :
    (x >>= f) >>= g = x >>= fun a => f a >>= g := by
  funext s
  rcases hrun : x s with ⟨out, s'⟩
  cases out with
  | returns a =>
    rw [bind_of_returns hrun]
    show (match (x >>= f) s with
      | (returns b, s') => g b s'
      | (throws e, s') => (throws e, s')
      | (faults u, s') => (faults u, s')) = _
    rw [bind_of_returns hrun]
    rfl
  | throws e => rw [bind_of_throws hrun, bind_of_throws (bind_of_throws hrun f)]
  | faults u => rw [bind_of_faults hrun, bind_of_faults (bind_of_faults hrun f)]

theorem noThrow_of_returns {x : Prog σ Empty α} {s s' : σ} {a : α} (h : x s = (returns a, s')) :
    (noThrow x : Prog σ ε α) s = (returns a, s') := by
  simp [noThrow, h]

theorem catchAll_of_returns {x : Prog σ ε α} {s s' : σ} {a : α} (h : x s = (returns a, s'))
    (handler : ε → Prog σ ε' α) : catchAll x handler s = (returns a, s') := by
  simp [catchAll, h]

theorem catchAll_of_throws {x : Prog σ ε α} {s s' : σ} {e : ε} (h : x s = (throws e, s'))
    (handler : ε → Prog σ ε' α) : catchAll x handler s = handler e s' := by
  simp [catchAll, h]

theorem andFinally_of_returns {x : Prog σ ε α} {cleanup : Prog σ Empty Unit} {s s' s'' : σ} {a : α}
    (h : x s = (returns a, s')) (hc : cleanup s' = (returns (), s'')) :
    andFinally x cleanup s = (returns a, s'') := by
  simp only [andFinally, h]
  rw [bind_of_returns (noThrow_of_returns hc), pure_run]

theorem andFinally_of_throws {x : Prog σ ε α} {cleanup : Prog σ Empty Unit} {s s' s'' : σ} {e : ε}
    (h : x s = (throws e, s')) (hc : cleanup s' = (returns (), s'')) :
    andFinally x cleanup s = (throws e, s'') := by
  simp only [andFinally, h]
  rw [bind_of_returns (noThrow_of_returns hc), throw_run]

end Prog

end Infra
