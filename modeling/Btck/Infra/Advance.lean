import Btck.Infra.Simulation
import Btck.Infra.RefCount
import Mathlib.Order.Defs.Unbundled

/-!
# What a program can only do to its state

A relation between the state before and the state after, such as "nothing that is there has
changed", holds of a program when it holds of its steps, as long as it is reflexive and transitive.
It does not matter how the program ends.

* `Advances` — the judgement, with a rule for each construct
* `Same` — a part of the state stays as it is
* `Heap.Later` — a heap in which numbers are used once, and blocks keep what can be seen of them
-/

namespace Infra

variable {σ τ ε ε' α β : Type}

/-- However the program ends, `R` holds between the states before and after it. -/
def Advances (R : σ → σ → Prop) (x : Prog σ ε α) : Prop := ∀ s, R s (x s).2

namespace Advances

variable {R : σ → σ → Prop}

section

variable [IsPreorder σ R]

theorem bind {x : Prog σ ε α} {f : α → Prog σ ε β} (hx : Advances R x)
    (hf : ∀ a, Advances R (f a)) : Advances R (x >>= f) := by
  intro s
  have hfirst := hx s
  rcases hrun : x s with ⟨out, s'⟩
  rw [hrun] at hfirst
  cases out with
  | returns a =>
    rw [Prog.bind_of_returns hrun]
    exact trans_of R hfirst (hf a s')
  | throws e =>
    rw [Prog.bind_of_throws hrun]
    exact hfirst
  | faults u =>
    rw [Prog.bind_of_faults hrun]
    exact hfirst

theorem pure (a : α) : Advances R (Pure.pure a : Prog σ ε α) := fun s => refl_of R s

theorem throw (e : ε) : Advances R (Prog.throw e : Prog σ ε α) := fun s => refl_of R s

theorem fault (u : Fault) : Advances R (Prog.fault u : Prog σ ε α) := fun s => refl_of R s

theorem lift (x : Outcome ε α) : Advances R (Prog.lift x) := fun s => refl_of R s

theorem catchAll {x : Prog σ ε α} {handler : ε → Prog σ ε' α} (hx : Advances R x)
    (hh : ∀ e, Advances R (handler e)) : Advances R (Prog.catchAll x handler) := by
  intro s
  have hfirst := hx s
  rcases hrun : x s with ⟨out, s'⟩
  rw [hrun] at hfirst
  cases out with
  | returns a =>
    rw [Prog.catchAll_of_returns hrun]
    exact hfirst
  | throws e =>
    rw [Prog.catchAll_of_throws hrun]
    exact trans_of R hfirst (hh e s')
  | faults u =>
    simp only [Prog.catchAll, hrun]
    exact hfirst

theorem onThrow {x : Prog σ ε α} {cleanup : Prog σ Empty Unit} (hx : Advances R x)
    (hc : Advances R cleanup) : Advances R (Prog.onThrow x cleanup) :=
  hx.catchAll fun e => bind (x := Prog.noThrow cleanup) hc fun _ => throw e

end

theorem within {R' : τ → τ → Prop} {part : Part σ τ} {x : Prog τ ε α} (hx : Advances R' x)
    (hpart : ∀ s t, R' (part.get s) t → R s (part.set s t)) :
    Advances R (Prog.within part x) := fun s => hpart s _ (hx (part.get s))

end Advances

/-! ## A part that stays as it is -/

/-- A part of the state is the same. -/
def Same (part : σ → τ) (s s' : σ) : Prop := part s' = part s

instance (part : σ → τ) : IsPreorder σ (Same part) where
  refl _ := rfl
  trans _ _ _ h₁ h₂ := h₂.trans h₁

/-! ## Heaps -/

/-- What was allocated on the way is gone at the end. -/
instance : IsPreorder (Heap β) Heap.Restored where
  refl _ := ⟨rfl, le_rfl⟩
  trans _ _ _ h₁ h₂ := ⟨h₂.cell_eq.trans h₁.cell_eq, h₁.next_le.trans h₂.next_le⟩

/--
A later state of a heap. New blocks have new numbers, and of a block that is still there the same
can be seen.
-/
structure Heap.Later {β γ : Type} (view : β → γ) (h h' : Heap β) : Prop where
  next_le : h.next ≤ h'.next
  same : ∀ n < h.next, (h'.cell n).isSome → (h'.cell n).map view = (h.cell n).map view

namespace Heap.Later

variable {γ : Type} {view : β → γ}

instance : IsPreorder (Heap β) (Heap.Later view) where
  refl _ := ⟨le_rfl, fun _ _ _ => rfl⟩
  trans h h' h'' h₁ h₂ := by
    refine ⟨h₁.next_le.trans h₂.next_le, fun n hn hlive => ?_⟩
    have hlast := h₂.same n (lt_of_lt_of_le hn h₁.next_le) hlive
    have hlive' : (h'.cell n).isSome := by
      rw [← Option.isSome_map, ← hlast, Option.isSome_map]
      exact hlive
    exact hlast.trans (h₁.same n hn hlive')

theorem alloc (h : Heap β) (b : β) : Heap.Later view h (h.alloc b) := by
  refine ⟨Nat.le_succ h.next, fun n hn _ => ?_⟩
  show (Function.update h.cell h.next (some b) n).map view = _
  rw [Function.update_of_ne hn.ne]

theorem drop (h : Heap β) (n : Nat) (hl : (h.cell n).isSome) : Heap.Later view h (h.drop n hl) := by
  refine ⟨le_rfl, fun m _ hm => ?_⟩
  have hcell : (h.drop n hl).cell = Function.update h.cell n none := rfl
  rcases eq_or_ne m n with rfl | hmn
  · rw [hcell, Function.update_self] at hm
    cases hm
  · rw [hcell, Function.update_of_ne hmn]

theorem set (h : Heap β) {n : Nat} {b b' : β} (hb : h.cell n = some b) (hview : view b' = view b)
    (hl : (h.cell n).isSome) : Heap.Later view h (h.set n b' hl) := by
  refine ⟨le_rfl, fun m _ _ => ?_⟩
  show (Function.update h.cell n (some b') m).map view = _
  rcases eq_or_ne m n with rfl | hmn
  · rw [Function.update_self, hb, Option.map_some, Option.map_some, hview]
  · rw [Function.update_of_ne hmn]

theorem free (n : Nat) : Advances (Heap.Later view) (Heap.free n : Prog (Heap β) ε Unit) := by
  intro h
  unfold Heap.free
  split
  · rename_i hl
    exact drop h n hl
  · exact refl_of _ h

theorem read (n : Nat) : Advances (Heap.Later view) (Heap.read n : Prog (Heap β) ε β) := by
  intro h
  unfold Heap.read
  split <;> exact refl_of _ h

/-- A change of the count is none of the value. -/
theorem write_count {α : Type} {h : Heap (Counted α)} {n : Nat} {object : Counted α}
    (hobject : h.cell n = some object) (refcnt : Nat) : Heap.Later (·.value) h
      ((Heap.write n { object with refcnt := refcnt } : Prog (Heap (Counted α)) ε Unit) h).2 := by
  have hl : (h.cell n).isSome := by rw [hobject]; rfl
  rw [Heap.write_of_live _ hl]
  show Heap.Later _ h (h.set n { object with refcnt := refcnt } hl)
  refine set h hobject ?_ hl
  rfl

theorem incref {α : Type} (n : Nat) :
    Advances (Heap.Later (·.value)) (Counted.incref n : Prog (Heap (Counted α)) ε Unit) := by
  intro h
  unfold Counted.incref
  cases hobject : h.cell n with
  | none =>
    have hread : (Heap.read n : Prog _ ε (Counted α)) h = (.faults .undefined, h) := by
      rw [Heap.read, hobject]
    rw [Prog.bind_of_faults hread]
    exact refl_of _ h
  | some object =>
    rw [Prog.bind_of_returns (Heap.read_of_live hobject)]
    exact write_count hobject _

theorem decref {α : Type} (n : Nat) :
    Advances (Heap.Later (·.value)) (Counted.decref n : Prog (Heap (Counted α)) ε Unit) := by
  intro h
  unfold Counted.decref
  cases hobject : h.cell n with
  | none =>
    have hread : (Heap.read n : Prog _ ε (Counted α)) h = (.faults .undefined, h) := by
      rw [Heap.read, hobject]
    rw [Prog.bind_of_faults hread]
    exact refl_of _ h
  | some object =>
    rw [Prog.bind_of_returns (Heap.read_of_live hobject)]
    split
    · exact free n h
    · exact write_count hobject _

end Heap.Later

end Infra
