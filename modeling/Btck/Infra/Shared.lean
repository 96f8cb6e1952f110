import Btck.Infra.Advance
import Mathlib.Algebra.BigOperators.Group.Finset.Basic
import Mathlib.Algebra.Order.BigOperators.Group.Finset

/-!
# Blocks that share objects

The blocks of one heap can hold references to the counted objects of another. What they hold
together is a sum over the live blocks, which a change of one block changes by what this block held.

* `Heap.total` — the sum, with one lemma for each change
* `Counts.cell_eq` — counts and values determine the objects
-/

namespace Infra

/-! ## What the live blocks hold -/

namespace Heap

variable {β M : Type} {ε : Type}

/-- A new block from an allocation that is known to succeed. -/
def place (b : β) : Prog (Heap β) ε Nat := fun h => (.returns h.next, h.alloc b)

@[simp] theorem place_run (b : β) (h : Heap β) :
    (place b : Prog (Heap β) ε Nat) h = (.returns h.next, h.alloc b) := rfl

theorem read_of_dead {h : Heap β} {n : Nat} (hn : h.cell n = none) :
    (read n : Prog (Heap β) ε β) h = (.faults .undefined, h) := by
  rw [read, hn]

/-- What is still there was there. -/
theorem cell_of_drop {h : Heap β} {n m : Nat} {hl : (h.cell n).isSome} {b : β}
    (hm : (h.drop n hl).cell m = some b) : h.cell m = some b := by
  have hcell : Function.update h.cell n none m = some b := hm
  rcases eq_or_ne m n with rfl | hne
  · rw [Function.update_self] at hcell
    cases hcell
  · rwa [Function.update_of_ne hne] at hcell

section

variable [AddCommMonoid M] (f : β → M)

/-- What one block adds to the sum. -/
def weight : Option β → M
  | none => 0
  | some b => f b

/-- The sum over the live blocks. -/
def total (h : Heap β) : M := ∑ n ∈ Finset.range h.next, weight f (h.cell n)

theorem total_empty (schedule : List Bool) : total f (empty schedule : Heap β) = 0 :=
  Finset.sum_range_zero _

theorem total_alloc (h : Heap β) (b : β) : total f (h.alloc b) = f b + total f h := by
  show ∑ n ∈ Finset.range (h.next + 1), weight f (Function.update h.cell h.next (some b) n) = _
  rw [Finset.sum_range_succ, Function.update_self, add_comm]
  refine congrArg (f b + ·) (Finset.sum_congr rfl fun n hn => ?_)
  rw [Function.update_of_ne (Finset.mem_range.mp hn).ne]

theorem total_drop {h : Heap β} {n : Nat} {b : β} (hb : h.cell n = some b)
    (hl : (h.cell n).isSome) : total f h = f b + total f (h.drop n hl) := by
  have hmem : n ∈ Finset.range h.next := Finset.mem_range.mpr (lt_next_of_isSome hl)
  have hself : weight f ((h.drop n hl).cell n) = 0 := by
    show weight f (Function.update h.cell n none n) = 0
    rw [Function.update_self]
    rfl
  have hother : ∀ m ∈ (Finset.range h.next).erase n,
      weight f (h.cell m) = weight f ((h.drop n hl).cell m) := by
    intro m hm
    show _ = weight f (Function.update h.cell n none m)
    rw [Function.update_of_ne (Finset.ne_of_mem_erase hm)]
  calc total f h
      = weight f (h.cell n) + ∑ m ∈ (Finset.range h.next).erase n, weight f (h.cell m) :=
        (Finset.add_sum_erase _ _ hmem).symm
    _ = f b + ∑ m ∈ (Finset.range h.next).erase n, weight f ((h.drop n hl).cell m) := by
        rw [hb, Finset.sum_congr rfl hother]
        rfl
    _ = f b + total f (h.drop n hl) := by
        rw [total, show (h.drop n hl).next = h.next from rfl, ← Finset.add_sum_erase _ _ hmem,
          hself, zero_add]

theorem total_set {h : Heap β} {n : Nat} {b b' : β} (hb : h.cell n = some b) (hf : f b' = f b)
    (hl : (h.cell n).isSome) : total f (h.set n b' hl) = total f h := by
  refine Finset.sum_congr rfl fun m _ => ?_
  rw [cell_set]
  by_cases hm : m = n
  · rw [if_pos hm, hm, hb]
    exact hf
  · rw [if_neg hm]

theorem total_congr {f g : β → M} {h : Heap β} (hfg : ∀ n b, h.cell n = some b → f b = g b) :
    total f h = total g h := by
  refine Finset.sum_congr rfl fun n _ => ?_
  cases hb : h.cell n with
  | none => rfl
  | some b => exact hfg n b hb

end

/-- The blocks hold what one of them holds. -/
theorem mem_total {γ : Type} {f : β → Multiset γ} {h : Heap β} {c : γ} :
    c ∈ total f h ↔ ∃ n b, h.cell n = some b ∧ c ∈ f b := by
  rw [total, Multiset.mem_sum]
  constructor
  · rintro ⟨n, -, hc⟩
    cases hb : h.cell n with
    | none =>
      rw [hb] at hc
      exact absurd hc (Multiset.notMem_zero c)
    | some b =>
      rw [hb] at hc
      exact ⟨n, b, hb, hc⟩
  · rintro ⟨n, b, hb, hc⟩
    refine ⟨n, Finset.mem_range.mpr (lt_next_of_isSome (by rw [hb]; rfl)), ?_⟩
    rw [hb]
    exact hc

/-- Without live blocks there is nothing to add up. -/
theorem total_of_drained [AddCommMonoid M] (f : β → M) {h : Heap β} (hd : ∀ n, h.cell n = none) :
    total f h = 0 :=
  Finset.sum_eq_zero fun n _ => by rw [hd n]; rfl

end Heap

/-! ## Counts and values determine the objects -/

namespace Counts

variable {α : Type} {h : Heap (Counted α)} {holders : Multiset Nat}

/-- Who holds what and the values say everything about the objects. -/
theorem cell_eq {h' : Heap (Counted α)} (hc : Counts h holders) (hc' : Counts h' holders)
    (hvalue : ∀ n object object', h.cell n = some object → h'.cell n = some object' →
      object'.value = object.value) : h'.cell = h.cell := by
  funext n
  by_cases hn : n ∈ holders
  · obtain ⟨object, hobject, hcount⟩ := hc.object_of_mem hn
    obtain ⟨object', hobject', hcount'⟩ := hc'.object_of_mem hn
    have hsame := hvalue n object object' hobject hobject'
    obtain ⟨value, refcnt⟩ := object
    obtain ⟨value', refcnt'⟩ := object'
    simp only at hsame hcount hcount'
    rw [hobject, hobject', hsame, hcount, hcount']
  · have hgone : ∀ {g : Heap (Counted α)}, Counts g holders → g.cell n = none := by
      intro g hg
      rw [← Option.not_isSome_iff_eq_none, hg.live_iff]
      exact hn
    rw [hgone hc, hgone hc']

end Counts

/-! ## Numbers are only used up by new objects -/

section

variable {α ε : Type}

theorem Heap.read_next (n : Nat) :
    Advances (Same Heap.next) (Heap.read n : Prog (Heap α) ε α) := by
  intro h
  rw [Heap.read]
  split <;> rfl

theorem Heap.write_next (n : Nat) (b : α) :
    Advances (Same Heap.next) (Heap.write n b : Prog _ ε Unit) := by
  intro h
  rw [Heap.write]
  split <;> rfl

theorem Heap.free_next (n : Nat) :
    Advances (Same Heap.next) (Heap.free n : Prog (Heap α) ε Unit) := by
  intro h
  rw [Heap.free]
  split <;> rfl

theorem Counted.incref_next (n : Nat) :
    Advances (Same Heap.next) (Counted.incref n : Prog (Heap (Counted α)) ε Unit) :=
  (Heap.read_next n).bind fun _ => Heap.write_next n _

theorem Counted.decref_next (n : Nat) :
    Advances (Same Heap.next) (Counted.decref n : Prog (Heap (Counted α)) ε Unit) := by
  refine (Heap.read_next n).bind fun object => ?_
  split
  · exact Heap.free_next n
  · exact Heap.write_next n _

end

end Infra
