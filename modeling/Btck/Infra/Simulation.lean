import Btck.Infra.Outcome

/-!
# Two programs side by side

`Simulation` relates a program over one kind of state to a program over another: from related
states they come to the same kind of end, throw the same exception or fault in the same way, and
leave related states. So the second program says everything that there is to say about the first.

* `Part` — a part of a state, and programs that work on it
* `Prog.onThrow` — a destructor that only runs when the body throws
* `Simulation` — the judgement, with a rule for each construct
-/

namespace Infra

variable {σ τ ε ε' α β γ δ : Type}

/-! ## Parts of a state -/

/-- A part of a state that can be read and replaced. -/
structure Part (σ τ : Type) where
  get : σ → τ
  set : σ → τ → σ

/-- A program that works on a part of the state. -/
def Prog.within (part : Part σ τ) (x : Prog τ ε α) : Prog σ ε α := fun s =>
  ((x (part.get s)).1, part.set s (x (part.get s)).2)

theorem Prog.within_run (part : Part σ τ) {x : Prog τ ε α} {s : σ} {out : Outcome ε α} {t : τ}
    (h : x (part.get s) = (out, t)) : Prog.within part x s = (out, part.set s t) := by
  rw [Prog.within, h]

/-- Run `cleanup` when `x` throws: a destructor of what a return hands on. -/
def Prog.onThrow (x : Prog σ ε α) (cleanup : Prog σ Empty Unit) : Prog σ ε α :=
  Prog.catchAll x fun e => do
    Prog.noThrow cleanup
    Prog.throw e

theorem Prog.onThrow_of_returns {x : Prog σ ε α} {s s' : σ} {a : α} (h : x s = (.returns a, s'))
    (cleanup : Prog σ Empty Unit) : Prog.onThrow x cleanup s = (.returns a, s') :=
  Prog.catchAll_of_returns h _

theorem Prog.onThrow_of_throws {x : Prog σ ε α} {cleanup : Prog σ Empty Unit} {s s' s'' : σ}
    {e : ε} (h : x s = (.throws e, s')) (hc : cleanup s' = (.returns (), s'')) :
    Prog.onThrow x cleanup s = (.throws e, s'') := by
  rw [Prog.onThrow, Prog.catchAll_of_throws h, Prog.bind_of_returns (Prog.noThrow_of_returns hc),
    Prog.throw_run]

theorem Prog.onThrow_of_faults {x : Prog σ ε α} {s s' : σ} {u : Fault} (h : x s = (.faults u, s'))
    (cleanup : Prog σ Empty Unit) : Prog.onThrow x cleanup s = (.faults u, s') := by
  simp [Prog.onThrow, Prog.catchAll, h]

/-- Two calls that come to the same kind of end, with related results. -/
def Outcome.Related (R : α → β → Prop) : Outcome ε α → Outcome ε β → Prop
  | .returns a, .returns b => R a b
  | .throws e, .throws e' => e = e'
  | .faults u, .faults u' => u = u'
  | _, _ => False

theorem Prog.lift_bind (x : Outcome ε α) (f : α → Outcome ε β) :
    (Prog.lift (x >>= f) : Prog σ ε β) = Prog.lift x >>= fun a => Prog.lift (f a) := by
  cases x <;> rfl

/-! ## The judgement -/

/-- What is to hold when both programs return, and when both throw. -/
structure Both (σ τ ε α β : Type) where
  returns : α → β → σ → τ → Prop
  throws : ε → σ → τ → Prop

/-- Both came to the same kind of end, and what is to hold there holds. -/
def Both.holds (ends : Both σ τ ε α β) : Outcome ε α × σ → Outcome ε β × τ → Prop
  | (.returns a, s), (.returns b, t) => ends.returns a b s t
  | (.throws e, s), (.throws e', t) => e = e' ∧ ends.throws e s t
  | (.faults u, _), (.faults u', _) => u = u'
  | _, _ => False

/-- From every two related states, both programs come to such an end. -/
def Simulation (pre : σ → τ → Prop) (x : Prog σ ε α) (y : Prog τ ε β) (ends : Both σ τ ε α β) :
    Prop :=
  ∀ s t, pre s t → ends.holds (x s) (y t)

namespace Simulation

variable {pre : σ → τ → Prop} {x : Prog σ ε α} {y : Prog τ ε β} {mid : α → β → σ → τ → Prop}
  {post : γ → δ → σ → τ → Prop} {thrown thrown' : ε → σ → τ → Prop}

/-- **The rule for a sequence.** -/
theorem bind {f : α → Prog σ ε γ} {g : β → Prog τ ε δ} (hx : Simulation pre x y ⟨mid, thrown⟩)
    (hf : ∀ a b, Simulation (mid a b) (f a) (g b) ⟨post, thrown⟩) :
    Simulation pre (x >>= f) (y >>= g) ⟨post, thrown⟩ := by
  intro s t hpre
  have hend := hx s t hpre
  rcases hrun : x s with ⟨out, s'⟩
  rcases hrun' : y t with ⟨out', t'⟩
  rw [hrun, hrun'] at hend
  cases out with
  | returns a =>
    cases out' with
    | returns b =>
      rw [Prog.bind_of_returns hrun, Prog.bind_of_returns hrun']
      exact hf a b s' t' hend
    | throws _ => exact hend.elim
    | faults _ => exact hend.elim
  | throws e =>
    cases out' with
    | returns _ => exact hend.elim
    | throws _ =>
      rw [Prog.bind_of_throws hrun, Prog.bind_of_throws hrun']
      exact hend
    | faults _ => exact hend.elim
  | faults u =>
    cases out' with
    | returns _ => exact hend.elim
    | throws _ => exact hend.elim
    | faults _ =>
      rw [Prog.bind_of_faults hrun, Prog.bind_of_faults hrun']
      exact hend

theorem pure {a : γ} {b : δ} (h : ∀ s t, pre s t → post a b s t) :
    Simulation pre (Pure.pure a : Prog σ ε γ) (Pure.pure b : Prog τ ε δ) ⟨post, thrown⟩ := h

theorem fault (u : Fault) :
    Simulation pre (Prog.fault u : Prog σ ε γ) (Prog.fault u : Prog τ ε δ) ⟨post, thrown⟩ :=
  fun _ _ _ => rfl

/-- The same code on both sides that does not touch the state. -/
theorem lift {z : Outcome ε γ} {post : γ → γ → σ → τ → Prop}
    (hreturns : ∀ a s t, z = .returns a → pre s t → post a a s t)
    (hthrows : ∀ e s t, z = .throws e → pre s t → thrown e s t) :
    Simulation pre (Prog.lift z) (Prog.lift z) ⟨post, thrown⟩ := by
  intro s t hpre
  cases z with
  | returns a => exact hreturns a s t rfl hpre
  | throws e => exact ⟨rfl, hthrows e s t rfl hpre⟩
  | faults u => rfl

/-- Less can be asked for at the start, and more promised at the end. -/
theorem imp {pre' : σ → τ → Prop} {post : α → β → σ → τ → Prop}
    (h : Simulation pre x y ⟨mid, thrown⟩) (hpre : ∀ s t, pre' s t → pre s t)
    (hpost : ∀ a b s t, mid a b s t → post a b s t)
    (hthrown : ∀ e s t, thrown e s t → thrown' e s t) :
    Simulation pre' x y ⟨post, thrown'⟩ := by
  intro s t hs
  have hend := h s t (hpre s t hs)
  rcases hrun : x s with ⟨out, s'⟩
  rcases hrun' : y t with ⟨out', t'⟩
  rw [hrun, hrun'] at hend
  cases out <;> cases out' <;> first
    | exact hpost _ _ _ _ hend
    | exact ⟨hend.1, hthrown _ _ _ hend.2⟩
    | exact hend

/-- The result of one side is passed through a function. -/
theorem map {f : α → γ} {post : γ → β → σ → τ → Prop}
    (h : Simulation pre x y ⟨fun a => post (f a), thrown⟩) :
    Simulation pre (f <$> x) y ⟨post, thrown⟩ := by
  intro s t hs
  have hend := h s t hs
  show Both.holds _ ((x >>= fun a => Pure.pure (f a)) s) (y t)
  rcases hrun : x s with ⟨out, s'⟩
  rcases hrun' : y t with ⟨out', t'⟩
  rw [hrun, hrun'] at hend
  cases out with
  | returns a =>
    rw [Prog.bind_of_returns hrun]
    cases out' <;> exact hend
  | throws e =>
    rw [Prog.bind_of_throws hrun]
    cases out' <;> exact hend
  | faults u =>
    rw [Prog.bind_of_faults hrun]
    cases out' <;> exact hend

/-- Handlers on both sides. -/
theorem catchAll {handler : ε → Prog σ ε' α} {handler' : ε → Prog τ ε' β}
    {caught : ε' → σ → τ → Prop} (hx : Simulation pre x y ⟨mid, thrown⟩)
    (hh : ∀ e, Simulation (thrown e) (handler e) (handler' e) ⟨mid, caught⟩) :
    Simulation pre (Prog.catchAll x handler) (Prog.catchAll y handler') ⟨mid, caught⟩ := by
  intro s t hpre
  have hend := hx s t hpre
  rcases hrun : x s with ⟨out, s'⟩
  rcases hrun' : y t with ⟨out', t'⟩
  rw [hrun, hrun'] at hend
  cases out with
  | returns a =>
    cases out' with
    | returns b =>
      rw [Prog.catchAll_of_returns hrun, Prog.catchAll_of_returns hrun']
      exact hend
    | throws _ => exact hend.elim
    | faults _ => exact hend.elim
  | throws e =>
    cases out' with
    | returns _ => exact hend.elim
    | throws e' =>
      obtain ⟨rfl, hthrown⟩ := hend
      rw [Prog.catchAll_of_throws hrun, Prog.catchAll_of_throws hrun']
      exact hh e s' t' hthrown
    | faults _ => exact hend.elim
  | faults u =>
    cases out' with
    | returns _ => exact hend.elim
    | throws _ => exact hend.elim
    | faults _ =>
      simp only [Prog.catchAll, hrun, hrun']
      exact hend

/-- Destructors on both sides. -/
theorem onThrow {cleanup : Prog σ Empty Unit} {cleanup' : Prog τ Empty Unit}
    (hx : Simulation pre x y ⟨mid, thrown⟩)
    (hc : ∀ e s t, thrown e s t → ∃ s' t', cleanup s = (.returns (), s') ∧
      cleanup' t = (.returns (), t') ∧ thrown' e s' t') :
    Simulation pre (Prog.onThrow x cleanup) (Prog.onThrow y cleanup') ⟨mid, thrown'⟩ := by
  refine hx.catchAll fun e s t hthrown => ?_
  obtain ⟨s', t', hclean, hclean', hend⟩ := hc e s t hthrown
  rw [Prog.bind_of_returns (Prog.noThrow_of_returns hclean),
    Prog.bind_of_returns (Prog.noThrow_of_returns hclean')]
  exact ⟨rfl, hend⟩

end Simulation

end Infra
