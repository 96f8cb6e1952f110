import Btck.Infra.Shared

/-!
# Counted objects that hold each other

An object may hold references to other objects of the same heap, which it gives up when it goes. In
between, its count is zero and it is still there: it is dying. `Linked` is what is true at any time:
the references are those that are held from outside and those that objects hold which are not dying.

* `Counted.holds` — what the objects hold that are not dying
* `Linked` — the invariant, with one lemma for each change
* `Linked.drained` — what nobody refers to is gone, if objects only hold older ones
-/

namespace Infra

variable {α M : Type}

/-! ## What the objects hold -/

namespace Counted

section

variable [AddCommMonoid M] (f : α → M)

/-- What an object holds. It has given it up when its count is zero. -/
def holding (object : Counted α) : M := if object.refcnt = 0 then 0 else f object.value

/-- What the objects hold together. -/
def holds (h : Heap (Counted α)) : M := Heap.total (holding f) h

variable {h : Heap (Counted α)} {n : Nat} {object : Counted α}

theorem holds_alloc (a : α) : holds f (h.alloc (fresh a)) = f a + holds f h :=
  Heap.total_alloc _ h (fresh a)

theorem total_of_cell {h h' : Heap (Counted α)} {g : Counted α → M} (hnext : h'.next = h.next)
    (hcell : ∀ m, h'.cell m = h.cell m) : Heap.total g h' = Heap.total g h := by
  unfold Heap.total
  rw [hnext]
  exact Finset.sum_congr rfl fun m _ => by rw [hcell]

/-- The others hold what they held, whatever becomes of one object. -/
theorem total_set (g : Counted α → M) (hobject : h.cell n = some object) (object' : Counted α)
    (hl : (h.cell n).isSome) : Heap.total g h = g object + Heap.total g (h.drop n hl) ∧
      Heap.total g (h.set n object' hl) = g object' + Heap.total g (h.drop n hl) := by
  refine ⟨Heap.total_drop g hobject hl, ?_⟩
  have hself : (h.set n object' hl).cell n = some object' := Function.update_self ..
  have hl' : ((h.set n object' hl).cell n).isSome := by rw [hself]; rfl
  rw [Heap.total_drop g hself hl']
  refine congrArg (g object' + ·) (total_of_cell rfl fun m => ?_)
  show Function.update (Function.update h.cell n (some object')) n none m
    = Function.update h.cell n none m
  rw [Function.update_idem]

/-- A count that changes and does not get to zero does not matter. -/
theorem holds_set (hobject : h.cell n = some object) {refcnt : Nat} (hold : object.refcnt ≠ 0)
    (hnew : refcnt ≠ 0) (hl : (h.cell n).isSome) :
    holds f (h.set n { object with refcnt := refcnt } hl) = holds f h := by
  obtain ⟨hbefore, hafter⟩ := total_set (holding f) hobject { object with refcnt := refcnt } hl
  rw [holds, holds, hbefore, hafter, holding, holding, if_neg hold, if_neg hnew]

/-- With its last reference, an object gives up what it holds. -/
theorem holds_last (hobject : h.cell n = some object) (hold : object.refcnt ≠ 0)
    (hl : (h.cell n).isSome) :
    holds f h = f object.value + holds f (h.set n { object with refcnt := 0 } hl) := by
  obtain ⟨hbefore, hafter⟩ := total_set (holding f) hobject { object with refcnt := 0 } hl
  rw [holds, holds, hbefore, hafter, holding, holding, if_neg hold, if_pos rfl, zero_add]

theorem holds_drop (hobject : h.cell n = some object) (hdying : object.refcnt = 0)
    (hl : (h.cell n).isSome) : holds f (h.drop n hl) = holds f h := by
  rw [holds, holds, Heap.total_drop (holding f) hobject hl, holding, if_pos hdying, zero_add]

end

theorem mem_holds {γ : Type} {f : α → Multiset γ} {h : Heap (Counted α)} {c : γ} :
    c ∈ holds f h ↔ ∃ n object, h.cell n = some object ∧ object.refcnt ≠ 0 ∧ c ∈ f object.value := by
  rw [holds, Heap.mem_total]
  refine exists_congr fun n => exists_congr fun object => and_congr_right fun _ => ?_
  by_cases hdying : object.refcnt = 0
  · simp [holding, hdying]
  · simp [holding, hdying]

/-- What is held once has one holder. -/
theorem holder_unique {γ : Type} [DecidableEq γ] {f : α → Multiset γ} {h : Heap (Counted α)} {c : γ}
    (hcount : (holds f h).count c ≤ 1) {n m : Nat} {object other : Counted α}
    (hn : h.cell n = some object) (hobject : object.refcnt ≠ 0) (hc : c ∈ f object.value)
    (hm : h.cell m = some other) (hother : other.refcnt ≠ 0) (hc' : c ∈ f other.value) : m = n := by
  by_contra hne
  have hl : (h.cell n).isSome := by rw [hn]; rfl
  have hfirst : c ∈ holding f object := by
    rw [holding, if_neg hobject]
    exact hc
  have hsecond : c ∈ Heap.total (holding f) (h.drop n hl) := by
    rw [Heap.mem_total]
    refine ⟨m, other, ?_, ?_⟩
    · show Function.update h.cell n none m = _
      rw [Function.update_of_ne hne, hm]
    · rw [holding, if_neg hother]
      exact hc'
  rw [holds, Heap.total_drop (holding f) hn hl, Multiset.count_add] at hcount
  have hpos := Multiset.count_pos.mpr hfirst
  have hpos' := Multiset.count_pos.mpr hsecond
  omega

/-- A change of a count leaves the values as they are. -/
theorem value_of_set {h : Heap (Counted α)} {n m : Nat} {object other : Counted α} {refcnt : Nat}
    (hobject : h.cell n = some object) {hl : (h.cell n).isSome}
    (hm : (h.set n { object with refcnt := refcnt } hl).cell m = some other) :
    (m = n ∧ other = { object with refcnt := refcnt }) ∨ (m ≠ n ∧ h.cell m = some other) := by
  have hcell : Function.update h.cell n (some { object with refcnt := refcnt }) m = some other := hm
  rcases eq_or_ne m n with rfl | hmn
  · rw [Function.update_self, Option.some.injEq] at hcell
    exact .inl ⟨rfl, hcell.symm⟩
  · rw [Function.update_of_ne hmn] at hcell
    exact .inr ⟨hmn, hcell⟩

end Counted

/-! ## The invariant -/

/-- The counts are right, no reference dangles, and the objects in `dying` are those that go. -/
structure Linked (links : α → Multiset Nat) (held : Multiset Nat) (dying : Finset Nat)
    (h : Heap (Counted α)) : Prop where
  refcnt_eq : ∀ {n object}, h.cell n = some object →
    object.refcnt = (held + Counted.holds links h).count n
  live : ∀ n ∈ held + Counted.holds links h, (h.cell n).isSome
  dying_live : ∀ n ∈ dying, (h.cell n).isSome
  dying_iff : ∀ {n object}, h.cell n = some object → (object.refcnt = 0 ↔ n ∈ dying)

namespace Linked

variable {links : α → Multiset Nat} {held : Multiset Nat} {dying : Finset Nat}
  {h : Heap (Counted α)} {n : Nat} {object : Counted α}

theorem empty (schedule : List Bool) :
    Linked links 0 ∅ (Heap.empty schedule : Heap (Counted α)) where
  refcnt_eq hn := by cases hn
  live n hn := by
    rw [Counted.holds, Heap.total_empty, add_zero] at hn
    exact absurd hn (Multiset.notMem_zero n)
  dying_live n hn := absurd hn (Finset.notMem_empty n)
  dying_iff hn := by cases hn

/-- An object that somebody refers to is there, and is not dying. -/
theorem object_of_mem (hl : Linked links held dying h) (hn : n ∈ held + Counted.holds links h) :
    ∃ object, h.cell n = some object ∧ object.refcnt ≠ 0 := by
  obtain ⟨object, hobject⟩ := Option.isSome_iff_exists.mp (hl.live n hn)
  refine ⟨object, hobject, ?_⟩
  rw [hl.refcnt_eq hobject]
  exact Multiset.count_ne_zero.mpr hn

/-- One more reference, or one less, to an object that keeps some. -/
theorem set (hl : Linked links held dying h) (hobject : h.cell n = some object)
    {held' : Multiset Nat} {refcnt : Nat} (hold : object.refcnt ≠ 0) (hnew : refcnt ≠ 0)
    (hlive : (h.cell n).isSome) (hcount : refcnt = (held' + Counted.holds links h).count n)
    (hother : ∀ m ≠ n, held'.count m = held.count m) :
    Linked links held' dying (h.set n { object with refcnt := refcnt } hlive) where
  refcnt_eq := by
    intro m other hm
    rw [Counted.holds_set links hobject hold hnew hlive]
    have hcell : Function.update h.cell n (some _) m = some other := hm
    rcases eq_or_ne m n with rfl | hmn
    · rw [Function.update_self, Option.some.injEq] at hcell
      rw [← hcell]
      exact hcount
    · rw [Function.update_of_ne hmn] at hcell
      rw [hl.refcnt_eq hcell, Multiset.count_add, Multiset.count_add, hother m hmn]
  live := by
    intro m hm
    rw [Counted.holds_set links hobject hold hnew hlive] at hm
    show (Function.update h.cell n (some _) m).isSome
    rcases eq_or_ne m n with rfl | hmn
    · rw [Function.update_self]
      rfl
    · rw [Function.update_of_ne hmn]
      refine hl.live m ?_
      rw [← Multiset.count_pos, Multiset.count_add] at hm ⊢
      rwa [hother m hmn] at hm
  dying_live := by
    intro m hm
    show (Function.update h.cell n (some _) m).isSome
    rcases eq_or_ne m n with rfl | hmn
    · rw [Function.update_self]
      rfl
    · rw [Function.update_of_ne hmn]
      exact hl.dying_live m hm
  dying_iff := by
    intro m other hm
    have hcell : Function.update h.cell n (some _) m = some other := hm
    rcases eq_or_ne m n with rfl | hmn
    · rw [Function.update_self, Option.some.injEq] at hcell
      rw [← hcell, ← hl.dying_iff hobject]
      exact ⟨fun h0 => absurd h0 hnew, fun h0 => absurd h0 hold⟩
    · rw [Function.update_of_ne hmn] at hcell
      exact hl.dying_iff hcell

/-- A new object is held by who made it, and takes over the references that it is made with. -/
theorem alloc {a : α} (hl : Linked links (links a + held) dying h) :
    Linked links (h.next ::ₘ held) dying (h.alloc (Counted.fresh a)) := by
  have hfresh : h.cell h.next = none := h.unused h.next le_rfl
  have hnew : h.next ∉ links a + held + Counted.holds links h := by
    intro hmem
    have hlive := hl.live _ hmem
    rw [hfresh] at hlive
    cases hlive
  have hsum : h.next ::ₘ held + Counted.holds links (h.alloc (Counted.fresh a))
      = h.next ::ₘ (links a + held + Counted.holds links h) := by
    rw [Counted.holds_alloc, Multiset.cons_add, add_left_comm, add_assoc]
  refine ⟨?_, ?_, ?_, ?_⟩
  · intro m object hm
    rw [hsum]
    have hcell : Function.update h.cell h.next (some (Counted.fresh a)) m = some object := hm
    rcases eq_or_ne m h.next with rfl | hmn
    · rw [Function.update_self, Option.some.injEq] at hcell
      rw [← hcell, Multiset.count_cons_self, Multiset.count_eq_zero.mpr hnew]
      rfl
    · rw [Function.update_of_ne hmn] at hcell
      rw [hl.refcnt_eq hcell, Multiset.count_cons_of_ne hmn]
  · intro m hm
    rw [hsum] at hm
    show (Function.update h.cell h.next (some (Counted.fresh a)) m).isSome
    rcases eq_or_ne m h.next with rfl | hmn
    · rw [Function.update_self]
      rfl
    · rw [Function.update_of_ne hmn]
      exact hl.live m ((Multiset.mem_cons.mp hm).resolve_left hmn)
  · intro m hm
    have hlive := hl.dying_live m hm
    have hmn : m ≠ h.next := by
      rintro rfl
      rw [hfresh] at hlive
      cases hlive
    show (Function.update h.cell h.next (some (Counted.fresh a)) m).isSome
    rwa [Function.update_of_ne hmn]
  · intro m object hm
    have hcell : Function.update h.cell h.next (some (Counted.fresh a)) m = some object := hm
    rcases eq_or_ne m h.next with rfl | hmn
    · rw [Function.update_self, Option.some.injEq] at hcell
      rw [← hcell]
      refine ⟨fun h0 => absurd h0 Nat.one_ne_zero, fun hdying => ?_⟩
      have hlive := hl.dying_live _ hdying
      rw [hfresh] at hlive
      cases hlive
    · rw [Function.update_of_ne hmn] at hcell
      exact hl.dying_iff hcell

/-- Take one more reference. -/
theorem raise (hl : Linked links held dying h) (hn : n ∈ held + Counted.holds links h)
    (hobject : h.cell n = some object) (hlive : (h.cell n).isSome) :
    Linked links (n ::ₘ held) dying (h.set n { object with refcnt := object.refcnt + 1 } hlive) := by
  have hcount := hl.refcnt_eq hobject
  have hold : object.refcnt ≠ 0 := by
    rw [hcount]
    exact Multiset.count_ne_zero.mpr hn
  refine hl.set hobject hold (Nat.succ_ne_zero _) hlive ?_
    fun m hm => Multiset.count_cons_of_ne hm held
  rw [Multiset.cons_add, Multiset.count_cons_self, hcount]

/-- Give up a reference that is not the last. -/
theorem lower (hl : Linked links (n ::ₘ held) dying h) (hobject : h.cell n = some object)
    (hmore : 1 < object.refcnt) (hlive : (h.cell n).isSome) :
    Linked links held dying (h.set n { object with refcnt := object.refcnt - 1 } hlive) := by
  have hcount := hl.refcnt_eq hobject
  rw [Multiset.cons_add, Multiset.count_cons_self] at hcount
  exact hl.set hobject (by omega) (by omega) hlive (by omega)
    fun m hm => (Multiset.count_cons_of_ne hm held).symm

/-- With its last reference, an object begins to go, and gives up those that it holds. -/
theorem last (hl : Linked links (n ::ₘ held) dying h) (hobject : h.cell n = some object)
    (hlast : object.refcnt ≤ 1) (hlive : (h.cell n).isSome) :
    Linked links (links object.value + held) (insert n dying)
      (h.set n { object with refcnt := 0 } hlive) := by
  have hcount := hl.refcnt_eq hobject
  rw [Multiset.cons_add, Multiset.count_cons_self] at hcount
  have hold : object.refcnt ≠ 0 := by omega
  have hsum : links object.value + held
      + Counted.holds links (h.set n { object with refcnt := 0 } hlive)
      = held + Counted.holds links h := by
    rw [Counted.holds_last links hobject hold hlive, add_left_comm, add_assoc]
  have hgone : (held + Counted.holds links h).count n = 0 := by omega
  refine ⟨?_, ?_, ?_, ?_⟩
  · intro m other hm
    rw [hsum]
    have hcell : Function.update h.cell n (some { object with refcnt := 0 }) m = some other := hm
    rcases eq_or_ne m n with rfl | hmn
    · rw [Function.update_self, Option.some.injEq] at hcell
      rw [← hcell, hgone]
    · rw [Function.update_of_ne hmn] at hcell
      rw [hl.refcnt_eq hcell, Multiset.cons_add, Multiset.count_cons_of_ne hmn]
  · intro m hm
    rw [hsum] at hm
    show (Function.update h.cell n (some { object with refcnt := 0 }) m).isSome
    rcases eq_or_ne m n with rfl | hmn
    · rw [Function.update_self]
      rfl
    · rw [Function.update_of_ne hmn]
      refine hl.live m ?_
      rw [Multiset.cons_add]
      exact Multiset.mem_cons_of_mem hm
  · intro m hm
    show (Function.update h.cell n (some { object with refcnt := 0 }) m).isSome
    rcases eq_or_ne m n with rfl | hmn
    · rw [Function.update_self]
      rfl
    · rw [Function.update_of_ne hmn]
      exact hl.dying_live m ((Finset.mem_insert.mp hm).resolve_left hmn)
  · intro m other hm
    have hcell : Function.update h.cell n (some { object with refcnt := 0 }) m = some other := hm
    rcases eq_or_ne m n with rfl | hmn
    · rw [Function.update_self, Option.some.injEq] at hcell
      rw [← hcell]
      exact ⟨fun _ => Finset.mem_insert_self _ _, fun _ => rfl⟩
    · rw [Function.update_of_ne hmn] at hcell
      rw [hl.dying_iff hcell, Finset.mem_insert]
      exact ⟨.inr, fun h0 => h0.resolve_left hmn⟩

/-- The memory of an object that is dying is given back. -/
theorem collect (hl : Linked links held (insert n dying) h) (hn : n ∉ dying)
    (hlive : (h.cell n).isSome) : Linked links held dying (h.drop n hlive) := by
  obtain ⟨object, hobject⟩ := Option.isSome_iff_exists.mp hlive
  have hdying : object.refcnt = 0 := (hl.dying_iff hobject).mpr (Finset.mem_insert_self n dying)
  have hholds : Counted.holds links (h.drop n hlive) = Counted.holds links h :=
    Counted.holds_drop links hobject hdying hlive
  have hgone : n ∉ held + Counted.holds links h := by
    rw [← Multiset.count_eq_zero, ← hl.refcnt_eq hobject]
    exact hdying
  have hcell : ∀ m ≠ n, (h.drop n hlive).cell m = h.cell m := by
    intro m hm
    show Function.update h.cell n none m = h.cell m
    rw [Function.update_of_ne hm]
  refine ⟨?_, ?_, ?_, ?_⟩
  · intro m other hm
    rw [hholds]
    exact hl.refcnt_eq (Heap.cell_of_drop hm)
  · intro m hm
    rw [hholds] at hm
    have hmn : m ≠ n := by
      rintro rfl
      exact hgone hm
    rw [hcell m hmn]
    exact hl.live m hm
  · intro m hm
    have hmn : m ≠ n := by
      rintro rfl
      exact hn hm
    rw [hcell m hmn]
    exact hl.dying_live m (Finset.mem_insert_of_mem hm)
  · intro m other hm
    have hmn : m ≠ n := by
      rintro rfl
      have hself : Function.update h.cell m none m = some other := hm
      rw [Function.update_self] at hself
      cases hself
    rw [hl.dying_iff (Heap.cell_of_drop hm), Finset.mem_insert]
    exact ⟨fun h0 => h0.resolve_left hmn, .inr⟩

/--
**What nobody refers to is gone**, where objects only hold objects that are older than they are.
-/
theorem drained (hl : Linked links 0 ∅ h)
    (hlinks : ∀ {n object}, h.cell n = some object → ∀ m ∈ links object.value, m < n) :
    ∀ n, h.cell n = none := by
  -- the youngest object would have to be held by a younger one
  have hnone : ∀ k n, h.next ≤ n + k → h.cell n = none := by
    intro k
    induction k with
    | zero => exact fun n hn => h.unused n hn
    | succ k ih =>
      intro n hn
      by_contra hne
      obtain ⟨object, hobject⟩ := Option.ne_none_iff_exists'.mp hne
      have hheld : n ∈ 0 + Counted.holds links h := by
        rw [← Multiset.count_ne_zero, ← hl.refcnt_eq hobject]
        exact fun h0 => absurd ((hl.dying_iff hobject).mp h0) (Finset.notMem_empty n)
      rw [zero_add, Counted.mem_holds] at hheld
      obtain ⟨m, other, hother, -, hmem⟩ := hheld
      have hlt := hlinks hother n hmem
      rw [ih m (by omega)] at hother
      cases hother
  exact fun n => hnone h.next n (Nat.le_add_left _ _)

end Linked

end Infra
