import Btck.Infra.Outcome
import Mathlib.Logic.Function.Basic
import Mathlib.Data.List.Nodup

/-!
# A heap that keeps a ledger

Blocks are numbered in the order in which they are handed out. The heap remembers which numbers
were given back, and a heap cannot be built in which a block is both live and given back, or was
given back twice: that is what the proof fields say.

`free` on a block that is not live faults. So a program that does not fault frees nothing twice,
and `Heap.freed_once` reads "what was allocated has been freed exactly once" off the two ends.

Which allocations fail is part of the state: `schedule` answers the coming calls in order, and
every call after its end succeeds.
-/

namespace Infra

structure Heap (β : Type) where
  cell : Nat → Option β
  next : Nat
  freed : List Nat
  schedule : List Bool
  unused : ∀ n, next ≤ n → cell n = none
  nodup : freed.Nodup
  mem_freed : ∀ n, n ∈ freed ↔ n < next ∧ cell n = none

namespace Heap

variable {β : Type} {ε : Type}

/-- A heap from which nothing was taken yet. -/
def empty (schedule : List Bool) : Heap β where
  cell := fun _ => none
  next := 0
  freed := []
  schedule := schedule
  unused := fun _ _ => rfl
  nodup := List.nodup_nil
  mem_freed := by simp

/-! ## The four changes -/

def alloc (h : Heap β) (b : β) : Heap β where
  cell := Function.update h.cell h.next (some b)
  next := h.next + 1
  freed := h.freed
  schedule := h.schedule.tail
  unused := by
    intro n hn
    rw [Function.update_of_ne (by omega)]
    exact h.unused n (by omega)
  nodup := h.nodup
  mem_freed := by
    intro n
    rw [h.mem_freed]
    by_cases hn : n = h.next
    · subst hn; simp
    · rw [Function.update_of_ne hn]
      constructor
      · rintro ⟨h1, h2⟩; exact ⟨by omega, h2⟩
      · rintro ⟨h1, h2⟩; exact ⟨by omega, h2⟩

/-- An allocation that failed. -/
def refuse (h : Heap β) : Heap β := { h with schedule := h.schedule.tail }

theorem lt_next_of_isSome {h : Heap β} {n : Nat} (hl : (h.cell n).isSome) : n < h.next := by
  by_contra hge
  rw [h.unused n (by omega)] at hl
  simp at hl

def drop (h : Heap β) (n : Nat) (hl : (h.cell n).isSome) : Heap β where
  cell := Function.update h.cell n none
  next := h.next
  freed := n :: h.freed
  schedule := h.schedule
  unused := by
    intro m hm
    have hne : m ≠ n := by have := lt_next_of_isSome hl; omega
    rw [Function.update_of_ne hne]
    exact h.unused m hm
  nodup := by
    refine List.nodup_cons.mpr ⟨?_, h.nodup⟩
    intro hmem
    rw [((h.mem_freed n).mp hmem).2] at hl
    simp at hl
  mem_freed := by
    intro m
    rw [List.mem_cons, h.mem_freed]
    by_cases hm : m = n
    · subst hm; simpa using lt_next_of_isSome hl
    · rw [Function.update_of_ne hm]
      simp [hm]

def set (h : Heap β) (n : Nat) (b : β) (hl : (h.cell n).isSome) : Heap β where
  cell := Function.update h.cell n (some b)
  next := h.next
  freed := h.freed
  schedule := h.schedule
  unused := by
    intro m hm
    have hne : m ≠ n := by have := lt_next_of_isSome hl; omega
    rw [Function.update_of_ne hne]
    exact h.unused m hm
  nodup := h.nodup
  mem_freed := by
    intro m
    rw [h.mem_freed]
    by_cases hm : m = n
    · subst hm
      rw [Function.update_self, Option.isSome_iff_ne_none] at *
      simp [hl]
    · rw [Function.update_of_ne hm]

theorem cell_alloc (h : Heap β) (b : β) (m : Nat) :
    (h.alloc b).cell m = if m = h.next then some b else h.cell m :=
  Function.update_apply ..

theorem cell_drop (h : Heap β) (n : Nat) (hl : (h.cell n).isSome) (m : Nat) :
    (h.drop n hl).cell m = if m = n then none else h.cell m :=
  Function.update_apply ..

theorem cell_set (h : Heap β) (n : Nat) (b : β) (hl : (h.cell n).isSome) (m : Nat) :
    (h.set n b hl).cell m = if m = n then some b else h.cell m :=
  Function.update_apply ..

/-! ## The library calls -/

/-- `malloc`, with the block already holding `b`. -/
def malloc (b : β) : Prog (Heap β) ε (Option Nat) := fun h =>
  if h.schedule.headD true then (.returns (some h.next), h.alloc b) else (.returns none, h.refuse)

/-- `free` of a block. A block that is not live makes it fault. -/
def free (n : Nat) : Prog (Heap β) ε Unit := fun h =>
  if hl : (h.cell n).isSome then (.returns (), h.drop n hl) else (.faults .undefined, h)

def read (n : Nat) : Prog (Heap β) ε β := fun h =>
  match h.cell n with
  | some b => (.returns b, h)
  | none => (.faults .undefined, h)

def write (n : Nat) (b : β) : Prog (Heap β) ε Unit := fun h =>
  if hl : (h.cell n).isSome then (.returns (), h.set n b hl) else (.faults .undefined, h)

theorem malloc_of_true {h : Heap β} (hs : h.schedule.headD true = true) (b : β) :
    (malloc b : Prog (Heap β) ε _) h = (.returns (some h.next), h.alloc b) := by
  rw [malloc, if_pos hs]

theorem malloc_of_false {h : Heap β} (hs : h.schedule.headD true = false) (b : β) :
    (malloc b : Prog (Heap β) ε _) h = (.returns none, h.refuse) := by
  rw [malloc, if_neg (by rw [hs]; decide)]

theorem free_of_live {h : Heap β} {n : Nat} (hl : (h.cell n).isSome) :
    (free n : Prog (Heap β) ε _) h = (.returns (), h.drop n hl) := by
  rw [free, dif_pos hl]

theorem read_of_live {h : Heap β} {n : Nat} {b : β} (hb : h.cell n = some b) :
    (read n : Prog (Heap β) ε _) h = (.returns b, h) := by
  rw [read, hb]

theorem write_of_live {h : Heap β} {n : Nat} (b : β) (hl : (h.cell n).isSome) :
    (write n b : Prog (Heap β) ε _) h = (.returns (), h.set n b hl) := by
  rw [write, dif_pos hl]

/-! ## What a call left behind -/

/-- The live blocks are the same as before: whatever was allocated meanwhile is gone again. -/
structure Restored (h h' : Heap β) : Prop where
  cell_eq : h'.cell = h.cell
  next_le : h.next ≤ h'.next

/-- What was allocated and is gone has been freed exactly once. -/
theorem freed_of_none {h : Heap β} {n : Nat} (hn : n < h.next) (hc : h.cell n = none) :
    h.freed.count n = 1 :=
  List.count_eq_one_of_mem h.nodup ((h.mem_freed n).mpr ⟨hn, hc⟩)

/-- **A block allocated on the way has been freed exactly once.** -/
theorem freed_once {h h' : Heap β} (hr : Restored h h') {n : Nat} (h1 : h.next ≤ n)
    (h2 : n < h'.next) : h'.freed.count n = 1 := by
  refine List.count_eq_one_of_mem h'.nodup ((h'.mem_freed n).mpr ⟨h2, ?_⟩)
  rw [hr.cell_eq]
  exact h.unused n h1

/-- A block that was there before has been freed as often as before. -/
theorem freed_before {h h' : Heap β} (hr : Restored h h') {n : Nat} (h1 : n < h.next) :
    h'.freed.count n = h.freed.count n := by
  have hiff : n ∈ h'.freed ↔ n ∈ h.freed := by
    rw [h'.mem_freed, h.mem_freed, hr.cell_eq]
    have := hr.next_le
    constructor
    · rintro ⟨_, hc⟩; exact ⟨h1, hc⟩
    · rintro ⟨_, hc⟩; exact ⟨by omega, hc⟩
  by_cases hm : n ∈ h.freed
  · rw [List.count_eq_one_of_mem h.nodup hm, List.count_eq_one_of_mem h'.nodup (hiff.mpr hm)]
  · rw [List.count_eq_zero_of_not_mem hm, List.count_eq_zero_of_not_mem (fun hc => hm (hiff.mp hc))]

end Heap

end Infra
