import Btck.Infra.Heap
import Mathlib.Data.Multiset.AddSub
import Mathlib.Data.Multiset.Count

/-!
# Reference counts

An object lives as long as somebody holds a reference to it. It knows how many references there are,
and not who has them. `Counts` says that the numbers are right: then a reference never dangles, and
to drop one that is held never faults.

A pointer that was taken from an object without a reference of its own is good as long as somebody
else has one, which `Counts.live_iff` decides.

* `Counted`, `incref`, `decref` — objects and references
* `Counts` — the invariant, and one lemma for each change
-/

namespace Infra

/-- An object with its reference count. -/
structure Counted (α : Type) where
  value : α
  refcnt : Nat

namespace Counted

variable {α ε : Type}

/-- A new object, with one reference. -/
def fresh (a : α) : Counted α := ⟨a, 1⟩

/-- Take one more reference. -/
def incref (n : Nat) : Prog (Heap (Counted α)) ε Unit := do
  let object ← Heap.read n
  Heap.write n { object with refcnt := object.refcnt + 1 }

/-- Drop a reference. The object goes with the last one. -/
def decref (n : Nat) : Prog (Heap (Counted α)) ε Unit := do
  let object ← Heap.read n
  if object.refcnt ≤ 1 then Heap.free n
  else Heap.write n { object with refcnt := object.refcnt - 1 }

/-- Drop the references of a list, from the last item on. -/
def decrefAll : List Nat → Prog (Heap (Counted α)) ε Unit
  | [] => return ()
  | n :: ns => do
    decrefAll ns
    decref n

end Counted

variable {α ε : Type}

/-- The holders of references are those that the objects count, and the objects are those held. -/
structure Counts (h : Heap (Counted α)) (holders : Multiset Nat) : Prop where
  refcnt_eq : ∀ {n object}, h.cell n = some object → object.refcnt = holders.count n
  live_iff : ∀ n, (h.cell n).isSome ↔ n ∈ holders

/-- What is still there has the value that it had. -/
def Unchanged (h h' : Heap (Counted α)) : Prop :=
  ∀ n, (h'.cell n).isSome → (h'.cell n).map (·.value) = (h.cell n).map (·.value)

namespace Unchanged

variable {h h' h'' : Heap (Counted α)}

theorem refl (h : Heap (Counted α)) : Unchanged h h := fun _ _ => rfl

theorem trans (h₁ : Unchanged h h') (h₂ : Unchanged h' h'') : Unchanged h h'' := by
  intro n hn
  have hvalue := h₂ n hn
  have hlive : (h'.cell n).isSome := by
    rw [← Option.isSome_map, ← hvalue, Option.isSome_map]
    exact hn
  exact hvalue.trans (h₁ n hlive)

theorem of_update {n : Nat} {slot : Option (Counted α)}
    (hcell : h'.cell = Function.update h.cell n slot)
    (hslot : ∀ object, slot = some object → (h.cell n).map (·.value) = some object.value) :
    Unchanged h h' := by
  intro m hm
  rw [hcell] at hm ⊢
  rcases eq_or_ne m n with rfl | hmn
  · rw [Function.update_self] at hm ⊢
    obtain ⟨object, hobject⟩ := Option.isSome_iff_exists.mp hm
    rw [hslot object hobject, hobject]
    rfl
  · rw [Function.update_of_ne hmn]

end Unchanged

namespace Counts

variable {h : Heap (Counted α)} {holders : Multiset Nat} {n : Nat}

theorem object_of_mem (hc : Counts h holders) (hn : n ∈ holders) :
    ∃ object, h.cell n = some object ∧ object.refcnt = holders.count n := by
  obtain ⟨object, hobject⟩ := Option.isSome_iff_exists.mp ((hc.live_iff n).mpr hn)
  exact ⟨object, hobject, hc.refcnt_eq hobject⟩

theorem empty (schedule : List Bool) : Counts (Heap.empty schedule : Heap (Counted α)) 0 where
  refcnt_eq h := by cases h
  live_iff n := by simp [Heap.empty]

/-- A change at one place, and of the references to that object only. -/
theorem of_update (hc : Counts h holders) {h' : Heap (Counted α)} {holders' : Multiset Nat}
    {slot : Option (Counted α)} (hcell : h'.cell = Function.update h.cell n slot)
    (hcount : ∀ object, slot = some object → object.refcnt = holders'.count n)
    (hlive : slot.isSome ↔ n ∈ holders') (hother : ∀ m ≠ n, holders'.count m = holders.count m) :
    Counts h' holders' where
  refcnt_eq := by
    intro m object hm
    rw [hcell] at hm
    rcases eq_or_ne m n with rfl | hmn
    · rw [Function.update_self] at hm
      exact hcount object hm
    · rw [Function.update_of_ne hmn] at hm
      rw [hother m hmn]
      exact hc.refcnt_eq hm
  live_iff := by
    intro m
    rw [hcell]
    rcases eq_or_ne m n with rfl | hmn
    · rw [Function.update_self]
      exact hlive
    · rw [Function.update_of_ne hmn, hc.live_iff, ← Multiset.count_pos, ← Multiset.count_pos,
        hother m hmn]

/-- A new object is held by who made it. -/
theorem alloc (hc : Counts h holders) (a : α) :
    Counts (h.alloc (Counted.fresh a)) (h.next ::ₘ holders) := by
  have hnew : h.next ∉ holders := by
    rw [← hc.live_iff, h.unused h.next le_rfl]
    simp
  refine hc.of_update rfl ?_ (by simp) fun m hm => Multiset.count_cons_of_ne hm holders
  rintro object ⟨⟩
  rw [Multiset.count_cons_self, Multiset.count_eq_zero.mpr hnew]
  rfl

theorem incref (hc : Counts h holders) (hn : n ∈ holders) :
    ∃ h', (Counted.incref n : Prog _ ε Unit) h = (.returns (), h') ∧ Counts h' (n ::ₘ holders) ∧
      Unchanged h h' := by
  obtain ⟨object, hobject, hcount⟩ := hc.object_of_mem hn
  have hlive : (h.cell n).isSome := (hc.live_iff n).mpr hn
  refine ⟨h.set n { object with refcnt := object.refcnt + 1 } hlive, ?_, ?_, ?_⟩
  · unfold Counted.incref
    rw [Prog.bind_of_returns (Heap.read_of_live hobject), Heap.write_of_live _ hlive]
  · refine hc.of_update rfl ?_ (by simp) fun m hm => Multiset.count_cons_of_ne hm holders
    rintro _ ⟨⟩
    rw [Multiset.count_cons_self, hcount]
  · exact Unchanged.of_update rfl (by rintro _ ⟨⟩; rw [hobject]; rfl)

theorem decref (hc : Counts h (n ::ₘ holders)) :
    ∃ h', (Counted.decref n : Prog _ ε Unit) h = (.returns (), h') ∧ Counts h' holders ∧
      Unchanged h h' := by
  obtain ⟨object, hobject, hcount⟩ := hc.object_of_mem (Multiset.mem_cons_self n holders)
  rw [Multiset.count_cons_self] at hcount
  have hlive : (h.cell n).isSome := (hc.live_iff n).mpr (Multiset.mem_cons_self n holders)
  have hother : ∀ m ≠ n, holders.count m = (n ::ₘ holders).count m := fun m hm =>
    (Multiset.count_cons_of_ne hm holders).symm
  unfold Counted.decref
  rw [Prog.bind_of_returns (Heap.read_of_live hobject)]
  by_cases hlast : object.refcnt ≤ 1
  · -- the last reference
    have hgone : n ∉ holders := Multiset.count_eq_zero.mp (by omega)
    rw [if_pos hlast]
    refine ⟨h.drop n hlive, Heap.free_of_live hlive, ?_, ?_⟩
    · exact hc.of_update rfl (by simp) (by simpa using hgone) hother
    · exact Unchanged.of_update rfl (by simp)
  · have hmem : n ∈ holders := Multiset.count_pos.mp (by omega)
    rw [if_neg hlast]
    refine ⟨h.set n { object with refcnt := object.refcnt - 1 } hlive,
      Heap.write_of_live _ hlive, ?_, ?_⟩
    · refine hc.of_update rfl ?_ (by simpa using hmem) hother
      rintro _ ⟨⟩
      show object.refcnt - 1 = _
      omega
    · exact Unchanged.of_update rfl (by rintro _ ⟨⟩; rw [hobject]; rfl)

theorem decrefAll : ∀ {ns : List Nat} {holders : Multiset Nat} {h : Heap (Counted α)},
    Counts h ((ns : Multiset Nat) + holders) →
    ∃ h', (Counted.decrefAll ns : Prog _ ε Unit) h = (.returns (), h') ∧ Counts h' holders ∧
      Unchanged h h' := by
  intro ns
  induction ns with
  | nil =>
    intro holders h hc
    refine ⟨h, rfl, ?_, Unchanged.refl h⟩
    rwa [Multiset.coe_nil, Multiset.zero_add] at hc
  | cons n ns ih =>
    intro holders h hc
    -- the last item goes first
    rw [← Multiset.cons_coe, Multiset.cons_add, ← Multiset.add_cons] at hc
    obtain ⟨h₁, hdrop, hc₁, hkeep₁⟩ := ih hc
    obtain ⟨h₂, hlast, hc₂, hkeep₂⟩ := hc₁.decref
    refine ⟨h₂, ?_, hc₂, hkeep₁.trans hkeep₂⟩
    rw [Counted.decrefAll, Prog.bind_of_returns hdrop, hlast]

end Counts

end Infra
