import Btck.Infra.Outcome

/-!
# Triples for programs with three ends

A triple says what holds when a program that starts in a good state returns, what holds when it
throws, and what holds when it faults. A sequence needs no more than that each of its parts
ends well: what throws or faults early has the same to answer for as the whole.

* `Triple` — the judgement
* `Triple.bind` — the rule for a sequence
-/

namespace Infra

variable {σ ε α β : Type}

/-- What is to hold at each of the three ends of a program. -/
structure Ends (σ ε α : Type) where
  returns : α → σ → Prop
  throws : ε → σ → Prop
  faults : Fault → σ → Prop

/-- What is to hold at the end that the program came to. -/
def Ends.holds (ends : Ends σ ε α) : Outcome ε α × σ → Prop
  | (.returns a, s) => ends.returns a s
  | (.throws e, s) => ends.throws e s
  | (.faults u, s) => ends.faults u s

/-- From every state in which `pre` holds, `x` comes to one of the ends. -/
def Triple (pre : σ → Prop) (x : Prog σ ε α) (ends : Ends σ ε α) : Prop :=
  ∀ s, pre s → ends.holds (x s)

namespace Triple

variable {pre : σ → Prop} {mid : α → σ → Prop} {post : β → σ → Prop} {thrown : ε → σ → Prop}
  {faulted : Fault → σ → Prop}

/-- **The rule for a sequence.** -/
theorem bind {x : Prog σ ε α} {f : α → Prog σ ε β} (hx : Triple pre x ⟨mid, thrown, faulted⟩)
    (hf : ∀ a, Triple (mid a) (f a) ⟨post, thrown, faulted⟩) :
    Triple pre (x >>= f) ⟨post, thrown, faulted⟩ := by
  intro s hs
  have hend := hx s hs
  rcases hrun : x s with ⟨out, s'⟩
  rw [hrun] at hend
  cases out with
  | returns a =>
    rw [Prog.bind_of_returns hrun]
    exact hf a s' hend
  | throws e =>
    rw [Prog.bind_of_throws hrun]
    exact hend
  | faults u =>
    rw [Prog.bind_of_faults hrun]
    exact hend

theorem pure {a : α} {post : α → σ → Prop} (h : ∀ s, pre s → post a s) :
    Triple pre (Pure.pure a : Prog σ ε α) ⟨post, thrown, faulted⟩ := h

theorem throw {e : ε} (h : ∀ s, pre s → thrown e s) :
    Triple pre (Prog.throw e : Prog σ ε β) ⟨post, thrown, faulted⟩ := h

theorem fault {u : Fault} (h : ∀ s, pre s → faulted u s) :
    Triple pre (Prog.fault u : Prog σ ε β) ⟨post, thrown, faulted⟩ := h

/-- Code that does not touch the state. -/
theorem lift {x : Outcome ε β} (hreturns : ∀ b s, x = .returns b → pre s → post b s)
    (hthrows : ∀ e s, x = .throws e → pre s → thrown e s)
    (hfaults : ∀ u s, x = .faults u → pre s → faulted u s) :
    Triple pre (Prog.lift x) ⟨post, thrown, faulted⟩ := by
  intro s hs
  cases x with
  | returns b => exact hreturns b s rfl hs
  | throws e => exact hthrows e s rfl hs
  | faults u => exact hfaults u s rfl hs

/-- A condition that does not depend on the state can be taken out of the precondition. -/
theorem of_and {p : Prop} {x : Prog σ ε β} {ends : Ends σ ε β} (h : p → Triple pre x ends) :
    Triple (fun s => p ∧ pre s) x ends := fun s hs => h hs.1 s hs.2

end Triple

end Infra
