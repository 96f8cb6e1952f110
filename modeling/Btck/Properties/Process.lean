import Btck.Properties.Clients
import Btck.Python.Process

/-!
# Python objects own their handles

Every object of the library that a Python program made belongs to one Python object, and goes with
it. So a program that only uses what it has references to never uses a handle that was freed, and
one that drops its references has given everything back.

* `Owned` — the invariant
* `Owned.incref`, …, `Owned.decref` — one lemma for each operation
-/

namespace Btck.Python

open Infra

variable {core : BitcoinCore}

/-! ## The invariant -/

namespace Self

/-- The references to other Python objects. -/
def links : Self → Multiset Nat
  | .object _ _ => 0
  | .slice obj _ => {obj}

/-- The objects of the library that the object owns. -/
def handles : Self → Multiset Nat
  | .object _ (some (.object i)) => {i}
  | _ => 0

end Self

namespace Process

/--
The references that are held, by the program and by Python objects, are right, and every object of
the library has one owner: a Python object, or the function at work, which owns those in `own`.
-/
structure Owned (held own : Multiset Nat) (dying : Finset Nat) (s : Process core) : Prop where
  linked : Linked Self.links held dying s.objects
  older : ∀ {n object}, s.objects.cell n = some object → ∀ m ∈ object.value.links, m < n
  sound : Sound s.native
  impl : ∀ {n object k impl}, s.objects.cell n = some object → object.refcnt ≠ 0 →
    object.value = .object k impl → s.native.Owned impl
  handles : ∀ i, (own + Counted.holds Self.handles s.objects).count i
    = if (s.native.objects.cell i).isSome then 1 else 0

/-- Memory that follows. -/
structure Later (s s' : Process core) : Prop where
  objects : Heap.Later (·.value) s.objects s'.objects
  native : s.native.Later s'.native

instance : IsPreorder (Process core) Later where
  refl _ := ⟨refl_of _ _, refl_of _ _⟩
  trans _ _ _ h₁ h₂ := ⟨trans_of _ h₁.objects h₂.objects, trans_of _ h₁.native h₂.native⟩

namespace Owned

variable {held own : Multiset Nat} {dying : Finset Nat} {s : Process core} {ε : Type}

theorem empty (errors : Memory) : Owned 0 0 ∅ (Process.empty errors : Process core) where
  linked := Linked.empty []
  older h := by cases h
  sound := ⟨_, Btck.Agree.empty errors⟩
  impl h := by cases h
  handles i := by
    show (0 + Counted.holds Self.handles (Heap.empty [])).count i = _
    rw [Counted.holds, Heap.total_empty]
    rfl

/-- The memory of the library has changed. -/
theorem set_native (h : Owned held own dying s) {m : Native core} {own' : Multiset Nat}
    (hsound : Btck.Sound m)
    (hkeep : ∀ i o, i ∈ Counted.holds Self.handles s.objects →
      s.native.objects.cell i = some o → m.objects.cell i = some o)
    (hhandles : ∀ i, (own' + Counted.holds Self.handles s.objects).count i
      = if (m.objects.cell i).isSome then 1 else 0) :
    Owned held own' dying { s with native := m } where
  linked := h.linked
  older := h.older
  sound := hsound
  impl := by
    rintro n object k impl hn hlive himpl p rfl
    obtain ⟨i, x, rfl, hi⟩ := h.impl hn hlive himpl p rfl
    refine ⟨i, x, rfl, hkeep i _ ?_ hi⟩
    rw [Counted.mem_holds]
    exact ⟨n, object, hn, hlive, by rw [himpl]; exact Multiset.mem_singleton_self i⟩
  handles := hhandles

/-- The library did not make or free an object. -/
theorem same_native (h : Owned held own dying s) {m : Native core} (hsound : Btck.Sound m)
    (hobjects : m.objects = s.native.objects) : Owned held own dying { s with native := m } :=
  h.set_native hsound (fun i o _ hi => by rw [hobjects]; exact hi)
    fun i => by rw [hobjects]; exact h.handles i

/-- The library made an object. It is the function's at first. -/
theorem alloc_native (h : Owned held own dying s) {m : Native core} (hsound : Btck.Sound m)
    {o : Object core} (hobjects : m.objects = s.native.objects.alloc o) :
    Owned held (s.native.objects.next ::ₘ own) dying { s with native := m } := by
  have hheld : HeldOnce (own + Counted.holds Self.handles s.objects) s.native.objects := h.handles
  refine h.set_native hsound (fun i o' _ hi => ?_) ?_
  · have hlt := Heap.lt_next_of_isSome (h := s.native.objects) (n := i) (by rw [hi]; rfl)
    rw [hobjects, Heap.cell_alloc, if_neg hlt.ne, hi]
  · rw [hobjects, Multiset.cons_add]
    exact hheld.alloc o

/-- The library freed an object that was the function's. -/
theorem drop_native {i : Nat} (h : Owned held (i ::ₘ own) dying s) {m : Native core}
    (hsound : Btck.Sound m) {hl : (s.native.objects.cell i).isSome}
    (hobjects : m.objects = s.native.objects.drop i hl) :
    Owned held own dying { s with native := m } := by
  have hheld : HeldOnce (i ::ₘ own + Counted.holds Self.handles s.objects) s.native.objects :=
    h.handles
  rw [Multiset.cons_add] at hheld
  refine h.set_native hsound (fun j o hj hold => ?_) ?_
  · have hne : j ≠ i := by
      rintro rfl
      exact hheld.notMem_of_cons (Multiset.mem_add.mpr (.inr hj))
    rw [hobjects, Heap.cell_drop, if_neg hne, hold]
  · rw [hobjects]
    exact hheld.drop hl

/-- Counts of Python objects have changed, or memory of some was given back. -/
theorem set_objects (h : Owned held own dying s) {objects : Heap (Counted Self)}
    {held' own' : Multiset Nat} {dying' : Finset Nat}
    (hlinked : Linked Self.links held' dying' objects)
    (hvalue : ∀ n object', objects.cell n = some object' → ∃ object,
      s.objects.cell n = some object ∧ object'.value = object.value ∧
      (object'.refcnt ≠ 0 → object.refcnt ≠ 0))
    (hown : own' + Counted.holds Self.handles objects
      = own + Counted.holds Self.handles s.objects) :
    Owned held' own' dying' { s with objects := objects } where
  linked := hlinked
  older := by
    intro n object' hn
    obtain ⟨object, hobject, hsame, -⟩ := hvalue n object' hn
    rw [hsame]
    exact h.older hobject
  sound := h.sound
  impl := by
    intro n object' k impl hn hlive himpl
    obtain ⟨object, hobject, hsame, hkeep⟩ := hvalue n object' hn
    exact h.impl hobject (hkeep hlive) (hsame.symm.trans himpl)
  handles i := by
    show (own' + Counted.holds Self.handles objects).count i = _
    rw [hown]
    exact h.handles i

/-- A count is set. -/
theorem set_count (h : Owned held own dying s) {n : Nat} {object : Counted Self} {refcnt : Nat}
    (hobject : s.objects.cell n = some object) (hold : object.refcnt ≠ 0)
    {hl : (s.objects.cell n).isSome} {held' own' : Multiset Nat} {dying' : Finset Nat}
    (hlinked : Linked Self.links held' dying'
      (s.objects.set n { object with refcnt := refcnt } hl))
    (hown : own' + Counted.holds Self.handles (s.objects.set n { object with refcnt := refcnt } hl)
      = own + Counted.holds Self.handles s.objects) :
    Owned held' own' dying'
      { s with objects := s.objects.set n { object with refcnt := refcnt } hl } := by
  refine h.set_objects hlinked (fun m other hm => ?_) hown
  obtain ⟨rfl, rfl⟩ | ⟨-, hm⟩ := Counted.value_of_set hobject hm
  · exact ⟨object, hobject, rfl, fun _ => hold⟩
  · exact ⟨other, hm, rfl, id⟩

theorem object_of_mem (h : Owned held own dying s) {n : Nat} (hn : n ∈ held) :
    ∃ object, s.objects.cell n = some object ∧ object.refcnt ≠ 0 :=
  h.linked.object_of_mem (Multiset.mem_add.mpr (.inl hn))

/-- The program, or an object that is made, takes one more reference. -/
theorem incref (h : Owned held own dying s) {n : Nat} (hn : n ∈ held) :
    ∃ objects, (onObjects (Counted.incref n) : Prog (Process core) ε Unit) s
        = (.returns (), { s with objects := objects }) ∧ objects.next = s.objects.next ∧
      Owned (n ::ₘ held) own dying { s with objects := objects } ∧
      Heap.Later (·.value) s.objects objects := by
  obtain ⟨object, hobject, hlive⟩ := h.object_of_mem hn
  have hl : (s.objects.cell n).isSome := by rw [hobject]; rfl
  refine ⟨s.objects.set n { object with refcnt := object.refcnt + 1 } hl, ?_, rfl, ?_, ?_⟩
  · refine Prog.within_run objectsPart ?_
    show (Counted.incref n : Prog _ ε Unit) s.objects = _
    unfold Counted.incref
    rw [Prog.bind_of_returns (Heap.read_of_live hobject), Heap.write_of_live _ hl]
  · refine h.set_count hobject hlive
      (h.linked.raise (Multiset.mem_add.mpr (.inl hn)) hobject hl) ?_
    rw [Counted.holds_set Self.handles hobject hlive (Nat.succ_ne_zero _) hl]
  · refine Heap.Later.set s.objects hobject ?_ hl
    rfl

/-- A new object takes over the references and the handles that it is made with. -/
theorem place {a : Self} (h : Owned (a.links + held) (a.handles + own) dying s)
    (hlinks : ∀ m ∈ a.links, m < s.objects.next)
    (himpl : ∀ {k impl}, a = .object k impl → s.native.Owned impl) :
    Owned (s.objects.next ::ₘ held) own dying
      { s with objects := s.objects.alloc (Counted.fresh a) } := by
  have hcell : ∀ {n object}, (s.objects.alloc (Counted.fresh a)).cell n = some object →
      (n = s.objects.next ∧ object = Counted.fresh a) ∨ s.objects.cell n = some object := by
    intro n object hn
    have hupdate : Function.update s.objects.cell s.objects.next (some (Counted.fresh a)) n
      = some object := hn
    rcases eq_or_ne n s.objects.next with rfl | hne
    · rw [Function.update_self, Option.some.injEq] at hupdate
      exact .inl ⟨rfl, hupdate.symm⟩
    · rw [Function.update_of_ne hne] at hupdate
      exact .inr hupdate
  refine ⟨h.linked.alloc, ?_, h.sound, ?_, ?_⟩
  · intro n object hn
    obtain ⟨rfl, rfl⟩ | hold := hcell hn
    · exact hlinks
    · exact h.older hold
  · intro n object k impl hn hlive hobject
    obtain ⟨rfl, rfl⟩ | hold := hcell hn
    · exact himpl hobject
    · exact h.impl hold hlive hobject
  · intro i
    show (own + Counted.holds Self.handles (s.objects.alloc (Counted.fresh a))).count i = _
    rw [Counted.holds_alloc, add_left_comm, ← add_assoc]
    exact h.handles i

/-! ### `Py_DECREF` -/

/-- The library frees an object that is the function's. -/
theorem free_native {i : Nat} {k : Kind} {x : CppType core k} (h : Owned held (i ::ₘ own) dying s)
    (hi : s.native.objects.cell i = some ⟨k, x⟩) :
    ∃ m, (onNative ((Btck.native core).free (some (.object i : Ptr k))) :
        Prog (Process core) ε Unit) s = (.returns (), { s with native := m }) ∧
      Owned held own dying { s with native := m } ∧ s.native.Later m ∧
      m.errors = s.native.errors := by
  obtain ⟨m, hrun, hsound, hlater, herrors, hl, hobjects⟩ := free_ends (ε := ε) h.sound hi
  exact ⟨m, Prog.within_run nativePart hrun, h.drop_native hsound hobjects, hlater, herrors⟩

/-- The handle of an object that goes, or of one that could not be made, is freed. -/
theorem free_impl {k : Kind} {impl : Option (Ptr k)}
    (h : Owned held ((Self.object k impl).handles + own) dying s) (himpl : s.native.Owned impl) :
    ∃ m, (onNative ((Btck.native core).free impl) : Prog (Process core) ε Unit) s
        = (.returns (), { s with native := m }) ∧
      Owned held own dying { s with native := m } ∧ s.native.Later m ∧
      m.errors = s.native.errors := by
  cases impl with
  | none =>
    have hown : (Self.object k none).handles + own = own := zero_add own
    rw [hown] at h
    exact ⟨s.native, rfl, h, refl_of _ _, rfl⟩
  | some p =>
    obtain ⟨i, x, rfl, hi⟩ := himpl p rfl
    have hown : (Self.object k (some (.object i))).handles + own = i ::ₘ own :=
      Multiset.singleton_add i own
    rw [hown] at h
    exact h.free_native hi

/-- `tp_free` -/
theorem collect {n : Nat} (h : Owned held own (insert n dying) s) (hn : n ∉ dying) :
    ∃ s', (onObjects (Heap.free n) : Prog (Process core) ε Unit) s = (.returns (), s') ∧
      Owned held own dying s' ∧ Later s s' ∧ s'.native = s.native ∧
      ∀ d ∈ dying, s'.objects.cell d = s.objects.cell d := by
  have hl := h.linked.dying_live n (Finset.mem_insert_self n dying)
  obtain ⟨object, hobject⟩ := Option.isSome_iff_exists.mp hl
  have hdying : object.refcnt = 0 :=
    (h.linked.dying_iff hobject).mpr (Finset.mem_insert_self n dying)
  refine ⟨{ s with objects := s.objects.drop n hl },
    Prog.within_run objectsPart (Heap.free_of_live hl), ?_,
    ⟨Heap.Later.drop s.objects n hl, refl_of _ _⟩, rfl, ?_⟩
  · refine h.set_objects (h.linked.collect hn hl) (fun m other hm => ?_) ?_
    · exact ⟨other, Heap.cell_of_drop hm, rfl, id⟩
    · rw [Counted.holds_drop Self.handles hobject hdying hl]
  · intro d hd
    have hne : d ≠ n := by
      rintro rfl
      exact hn hd
    show Function.update s.objects.cell n none d = _
    rw [Function.update_of_ne hne]

/-- With its last reference, an object begins to go. What it holds is the function's then. -/
theorem last {n : Nat} (h : Owned (n ::ₘ held) own dying s) {object : Counted Self}
    (hobject : s.objects.cell n = some object) (hlast : object.refcnt ≤ 1)
    (hl : (s.objects.cell n).isSome) :
    Owned (object.value.links + held) (object.value.handles + own) (insert n dying)
      { s with objects := s.objects.set n { object with refcnt := 0 } hl } := by
  obtain ⟨object', hobject', hlive⟩ := h.object_of_mem (Multiset.mem_cons_self n held)
  obtain rfl : object = object' := Option.some.inj (hobject.symm.trans hobject')
  refine h.set_count hobject hlive (h.linked.last hobject hlast hl) ?_
  rw [Counted.holds_last Self.handles hobject hlive hl, add_left_comm, add_assoc]

theorem lower {n : Nat} (h : Owned (n ::ₘ held) own dying s) {object : Counted Self}
    (hobject : s.objects.cell n = some object) (hmore : 1 < object.refcnt)
    (hl : (s.objects.cell n).isSome) :
    Owned held own dying
      { s with objects := s.objects.set n { object with refcnt := object.refcnt - 1 } hl } := by
  refine h.set_count hobject (by omega) (h.linked.lower hobject hmore hl) ?_
  rw [Counted.holds_set Self.handles hobject (by omega) (by omega) hl]

/--
**`Py_DECREF` gives up a reference and nothing else.** With the last one the object goes, and then
what it is a view of, if this was the last reference to that.
-/
theorem decref : ∀ (depth : Nat) {n : Nat} {held : Multiset Nat} {dying : Finset Nat}
    {s : Process core}, n < depth → Owned (n ::ₘ held) own dying s →
    ∃ s', (Process.decref depth n : Prog (Process core) ε Unit) s = (.returns (), s') ∧
      Owned held own dying s' ∧ Later s s' ∧ s'.native.errors = s.native.errors ∧
      ∀ d ∈ dying, s'.objects.cell d = s.objects.cell d := by
  intro depth
  induction depth with
  | zero => exact fun hn => absurd hn (Nat.not_lt_zero _)
  | succ depth ih =>
    intro n held dying s hn h
    obtain ⟨object, hobject, hlive⟩ := h.object_of_mem (Multiset.mem_cons_self n held)
    have hl : (s.objects.cell n).isSome := by rw [hobject]; rfl
    have hnot : n ∉ dying := fun hd => hlive ((h.linked.dying_iff hobject).mpr hd)
    have hread : (onObjects (Heap.read n) : Prog (Process core) ε _) s = (.returns object, s) :=
      Prog.within_run objectsPart (Heap.read_of_live hobject)
    have hwrite : (onObjects (Heap.write n { object with refcnt := object.refcnt - 1 }) :
        Prog (Process core) ε Unit) s = (.returns (),
          { s with objects := s.objects.set n { object with refcnt := object.refcnt - 1 } hl }) :=
      Prog.within_run objectsPart (Heap.write_of_live _ hl)
    have hset : Heap.Later (·.value) s.objects
        (s.objects.set n { object with refcnt := object.refcnt - 1 } hl) := by
      refine Heap.Later.set s.objects hobject ?_ hl
      rfl
    have hother : ∀ d ∈ dying,
        (s.objects.set n { object with refcnt := object.refcnt - 1 } hl).cell d
          = s.objects.cell d := by
      intro d hd
      have hne : d ≠ n := by
        rintro rfl
        exact hnot hd
      show Function.update s.objects.cell n _ d = _
      rw [Function.update_of_ne hne]
    rw [Process.decref, Prog.bind_of_returns hread, Prog.bind_of_returns hwrite]
    by_cases hlast : object.refcnt ≤ 1
    · -- the last reference
      have h₁ := h.last hobject hlast hl
      have hzero : object.refcnt - 1 = 0 := by omega
      rw [if_pos hlast]
      rw [hzero] at hset hother ⊢
      -- what `dealloc` does before it gives back the memory
      obtain ⟨s₂, hrun₂, h₂, hlater₂, herrors₂, hdying₂⟩ : ∃ s₂,
          ((match object.value with
            | .object _ impl => onNative ((Btck.native core).free impl)
            | .slice obj _ => Process.decref depth obj : Prog (Process core) ε Unit))
            { s with objects := s.objects.set n { object with refcnt := 0 } hl }
              = (.returns (), s₂) ∧
          Owned held own (insert n dying) s₂ ∧
          Later { s with objects := s.objects.set n { object with refcnt := 0 } hl } s₂ ∧
          s₂.native.errors = s.native.errors ∧
          ∀ d ∈ insert n dying, s₂.objects.cell d
            = (s.objects.set n { object with refcnt := 0 } hl).cell d := by
        cases hvalue : object.value with
        | object k impl =>
          rw [hvalue] at h₁
          have hnull : (Self.object k impl).links + held = held := zero_add held
          rw [hnull] at h₁
          obtain ⟨m, hrun, h₂, hlater, herrors⟩ :=
            h₁.free_impl (ε := ε) (h.impl hobject hlive hvalue)
          exact ⟨_, hrun, h₂, ⟨refl_of _ _, hlater⟩, herrors, fun _ _ => rfl⟩
        | slice obj words =>
          rw [hvalue] at h₁
          have hlinks : (Self.slice obj words).links + held = obj ::ₘ held :=
            Multiset.singleton_add obj held
          have hnull : (Self.slice obj words).handles + own = own := zero_add own
          rw [hlinks, hnull] at h₁
          have hobj : obj < n := h.older hobject obj (by
            rw [hvalue]
            exact Multiset.mem_singleton_self obj)
          obtain ⟨s₂, hrun, h₂, hlater, herrors, hdying⟩ := ih (by omega) h₁
          exact ⟨s₂, hrun, h₂, hlater, herrors, hdying⟩
      obtain ⟨s₃, hrun₃, h₃, hlater₃, hnative₃, hdying₃⟩ := h₂.collect (ε := ε) hnot
      refine ⟨s₃, ?_, h₃, ?_, ?_, ?_⟩
      · exact (Prog.bind_of_returns hrun₂ _).trans hrun₃
      · exact trans_of _ (trans_of _ ⟨hset, refl_of _ _⟩ hlater₂) hlater₃
      · rw [hnative₃, herrors₂]
      · intro d hd
        rw [hdying₃ d hd, hdying₂ d (Finset.mem_insert_of_mem hd), hother d hd]
    · rw [if_neg hlast]
      exact ⟨_, rfl, h.lower hobject (by omega) hl, ⟨hset, refl_of _ _⟩, rfl, hother⟩

end Owned

end Process

end Btck.Python
