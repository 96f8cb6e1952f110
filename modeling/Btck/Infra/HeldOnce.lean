import Btck.Infra.Shared
import Mathlib.Data.Multiset.Count

/-!
# Blocks that have one holder each

A heap is in good hands when the holders, taken together, hold each live block once and nothing
else. To drop a block that somebody holds is then no fault, leaves nobody with a stale number, and
blocks whose holders are gone are gone.

* `HeldOnce` — the property, with one lemma for each change of the heap
-/

namespace Infra

variable {β : Type}

/-- Each live block is held once, and what is held is live. -/
def HeldOnce (holders : Multiset Nat) (h : Heap β) : Prop :=
  ∀ n, holders.count n = if (h.cell n).isSome then 1 else 0

namespace HeldOnce

variable {holders : Multiset Nat} {h h' : Heap β} {n : Nat}

theorem empty (schedule : List Bool) : HeldOnce 0 (Heap.empty schedule : Heap β) := fun _ => rfl

theorem live (hh : HeldOnce holders h) (hn : n ∈ holders) : (h.cell n).isSome := by
  have hcount := hh n
  have hpos := Multiset.count_pos.mpr hn
  by_contra hdead
  rw [if_neg hdead] at hcount
  omega

theorem mem_iff (hh : HeldOnce holders h) : n ∈ holders ↔ (h.cell n).isSome := by
  refine ⟨hh.live, fun hn => ?_⟩
  rw [← Multiset.count_pos, hh n, if_pos hn]
  exact Nat.one_pos

/-- Nobody else holds what one holder has. -/
theorem notMem_of_cons (hh : HeldOnce (n ::ₘ holders) h) : n ∉ holders := by
  have hcount := hh n
  rw [Multiset.count_cons_self, if_pos (hh.live (Multiset.mem_cons_self n holders))] at hcount
  rw [← Multiset.count_eq_zero]
  omega

theorem next_notMem (hh : HeldOnce holders h) : h.next ∉ holders := by
  intro hmem
  have hlive := hh.live hmem
  rw [h.unused h.next le_rfl] at hlive
  cases hlive

theorem of_cell (hh : HeldOnce holders h) (hcell : ∀ n, (h'.cell n).isSome = (h.cell n).isSome) :
    HeldOnce holders h' := fun n => by rw [hcell, hh n]

theorem alloc (hh : HeldOnce holders h) (b : β) : HeldOnce (h.next ::ₘ holders) (h.alloc b) := by
  intro m
  rw [Heap.cell_alloc]
  by_cases hm : m = h.next
  · rw [hm, Multiset.count_cons_self, if_pos rfl, Multiset.count_eq_zero.mpr hh.next_notMem]
    rfl
  · rw [Multiset.count_cons_of_ne hm, if_neg hm, hh m]

theorem drop (hh : HeldOnce (n ::ₘ holders) h) (hl : (h.cell n).isSome) :
    HeldOnce holders (h.drop n hl) := by
  intro m
  rw [Heap.cell_drop]
  by_cases hm : m = n
  · rw [hm, if_pos rfl, Multiset.count_eq_zero.mpr hh.notMem_of_cons]
    rfl
  · have hcount := hh m
    rw [Multiset.count_cons_of_ne hm] at hcount
    rw [if_neg hm, hcount]

theorem set (hh : HeldOnce holders h) (b : β) (hl : (h.cell n).isSome) :
    HeldOnce holders (h.set n b hl) := by
  refine hh.of_cell fun m => ?_
  rw [Heap.cell_set]
  by_cases hm : m = n
  · rw [hm, if_pos rfl, hl]
    rfl
  · rw [if_neg hm]

/-- With the last holder the last block is gone. -/
theorem freed (hh : HeldOnce 0 h) (hn : n < h.next) : h.freed.count n = 1 := by
  refine Heap.freed_of_none hn (Option.not_isSome_iff_eq_none.mp fun hlive => ?_)
  exact Multiset.notMem_zero n (hh.mem_iff.mpr hlive)

end HeldOnce

end Infra
