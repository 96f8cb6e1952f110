import Btck.Properties.ProcessValues
import Btck.Properties.Records

/-!
# Python programs and their memory

A Python program makes objects, passes references around, and drops them. At any time, each object
of the library has one owner; a handle that is used is good; and an object is what it was made as.
In the end nothing of the module is left. What a program has from elsewhere, such as the `bytes`
that an object was made from, is not counted.

* `Op.run_next`, `runAll_next` — what a step does to memory, and what a program does
* `references_right`, `owner_unique`, `nothing_left` — what this means for the objects
* `method_stands`, `value_stays` — and for their methods
-/

namespace Btck.Python

open Infra Process

variable {core : BitcoinCore}

/-! ## What a program does to memory -/

namespace Scope

/-- Memory is in order, and the program has the references in `held`. -/
def InOrder (s : Scope core) : Prop := Owned s.held 0 ∅ s.process

/-- A later state of a program. -/
structure Next (s s' : Scope core) : Prop where
  inOrder : s'.InOrder
  later : Later s.process s'.process
  errors : Heap.Restored s.process.native.errors s'.process.native.errors

variable {s s' s'' : Scope core} {x : Prog (Process core) PyErr (Ref core)}

theorem InOrder.next (h : s.InOrder) : Next s s := ⟨h, refl_of _ _, refl_of _ _⟩

theorem Next.trans (h : Next s s') (h' : Next s' s'') : Next s s'' :=
  ⟨h'.inOrder, trans_of _ h.later h'.later, trans_of _ h.errors h'.errors⟩

/-- The state with which what is said of values starts. -/
def start (s : Scope core) : State := ⟨s.process.native.errors, []⟩

theorem InOrder.related (h : s.InOrder) : Related s.process s.held 0 s.process s.start :=
  ⟨h, refl_of _ _, rfl⟩

theorem call_of_self {n : Nat} {p : Process core} (hx : x s.process = (.returns (.self n), p)) :
    call x s = (.returns (), { process := p, held := n ::ₘ s.held }) := by
  rw [call, hx]

theorem call_of_plain {o : PyObj core} {p : Process core}
    (hx : x s.process = (.returns (.plain o), p)) :
    call x s = (.returns (), { s with process := p }) := by
  rw [call, hx]

theorem call_of_throws {e : PyErr} {p : Process core} (hx : x s.process = (.throws e, p)) :
    call x s = (.returns (), { s with process := p }) := by
  rw [call, hx]

theorem call_of_faults {u : Fault} {p : Process core} (hx : x s.process = (.faults u, p)) :
    call x s = (.faults u, { s with process := p }) := by
  rw [call, hx]

/-- A call that does what is said of values leaves memory in order. -/
theorem call_next {y : Prog State PyErr (PyObj core)}
    (hxy : (Replies s.process s.held).holds (x s.process) (y s.start)) (hy : Advances Frees y)
    (hrun : call x s = (.returns (), s')) : Next s s' := by
  have hfrees : Frees s.start _ := hy s.start
  rcases hx : x s.process with ⟨out, p⟩
  rcases hvalue : y s.start with ⟨out', t⟩
  rw [hx, hvalue] at hxy
  rw [hvalue] at hfrees
  have hnext : ∀ {held : Multiset Nat}, Related s.process held 0 p t →
      Next s { process := p, held := held } := by
    intro held h
    refine ⟨h.owned, h.later, ?_⟩
    show Heap.Restored s.process.native.errors p.native.errors
    rw [h.errors]
    exact hfrees
  cases out with
  | returns r =>
    cases out' with
    | returns o =>
      cases r with
      | self n =>
        cases (call_of_self hx).symm.trans hrun
        exact hnext hxy.1
      | plain o' =>
        cases (call_of_plain hx).symm.trans hrun
        exact hnext hxy.1
    | throws e => exact hxy.elim
    | faults u => exact hxy.elim
  | throws e =>
    cases out' with
    | returns o => exact hxy.elim
    | throws e' =>
      cases (call_of_throws hx).symm.trans hrun
      exact hnext hxy.2
    | faults u => exact hxy.elim
  | faults u => cases (call_of_faults hx).symm.trans hrun

/-- The program takes one more reference to an object that it has. -/
theorem InOrder.incref (h : s.InOrder) {n : Nat} (hn : n ∈ s.held)
    (hrun : call (onObjects (Counted.incref n) >>= fun _ => pure (.self n)) s = (.returns (), s')) :
    Next s s' := by
  obtain ⟨objects, hincref, -, howned, hlater⟩ := Owned.incref (ε := PyErr) h hn
  cases (call_of_self (Prog.bind_of_returns hincref _)).symm.trans hrun
  exact ⟨howned, ⟨hlater, refl_of _ _⟩, refl_of _ _⟩

/-- The program gives up a reference that it has. -/
theorem InOrder.decref (h : s.InOrder) {n : Nat} (hn : n ∈ s.held)
    (hrun : call (Process.decref s.process.objects.next n >>= fun _ => pure (.plain .none))
      { s with held := s.held.erase n } = (.returns (), s')) : Next s s' := by
  have howned : Owned (n ::ₘ s.held.erase n) 0 ∅ s.process := by
    rw [Multiset.cons_erase hn]
    exact h
  have hlt := Heap.lt_next_of_isSome (h.linked.live n (Multiset.mem_add.mpr (.inl hn)))
  obtain ⟨p, hdecref, howned', hlater, herrors, -⟩ :=
    Owned.decref (ε := PyErr) s.process.objects.next hlt howned
  have hplain : ((Process.decref s.process.objects.next n >>= fun _ => pure (.plain .none)) :
      Prog (Process core) PyErr (Ref core)) s.process = (.returns (.plain .none), p) :=
    Prog.bind_of_returns hdecref _
  have hcall := call_of_plain (s := { s with held := s.held.erase n }) hplain
  cases hcall.symm.trans hrun
  refine ⟨howned', hlater, ?_⟩
  show Heap.Restored s.process.native.errors p.native.errors
  rw [herrors]
  exact refl_of _ _

end Scope

variable {s s' : Scope core}

/-- One step of a program. -/
theorem Op.run_next (env : Env) (op : Op core) (h : s.InOrder)
    (hrun : op.run env s = (.returns (), s')) : Scope.Next s s' := by
  cases op with
  | newBlock raw =>
    exact Scope.call_next (self_replies (newBlock_simulates env raw) _ _ h.related)
      (Call.run_frees env (.newBlock raw)) hrun
  | newTransaction raw =>
    exact Scope.call_next (self_replies (newTransaction_simulates env raw) _ _ h.related)
      (Call.run_frees env (.newTransaction raw)) hrun
  | newScriptPubkey raw =>
    exact Scope.call_next (self_replies (newScriptPubkey_simulates env raw) _ _ h.related)
      (Call.run_frees env (.newScriptPubkey raw)) hrun
  | method n m =>
    by_cases hn : n ∈ s.held
    · obtain ⟨o, ho⟩ := exists_is h (h.linked.live n (Multiset.mem_add.mpr (.inl hn)))
      exact Scope.call_next (method_simulates env hn m _ _ ⟨h.related, ho⟩)
        (Call.run_frees env (m.call o)) ((if_pos hn).symm.trans hrun)
    · cases (if_neg hn).symm.trans hrun
      exact h.next
  | incref n =>
    by_cases hn : n ∈ s.held
    · exact h.incref hn ((if_pos hn).symm.trans hrun)
    · cases (if_neg hn).symm.trans hrun
      exact h.next
  | decref n =>
    by_cases hn : n ∈ s.held
    · exact h.decref hn ((if_pos hn).symm.trans hrun)
    · cases (if_neg hn).symm.trans hrun
      exact h.next

theorem runAll_next : ∀ {ops : List (Env × Op core)} {s : Scope core}, s.InOrder →
    runAll ops s = (.returns (), s') → Scope.Next s s' := by
  intro ops
  induction ops with
  | nil =>
    intro s h hrun
    cases hrun
    exact h.next
  | cons step ops ih =>
    intro s h hrun
    obtain ⟨⟨⟩, s₁, hfirst, hrest⟩ := Prog.bind_eq_returns.mp hrun
    have hnext := Op.run_next step.1 step.2 h hfirst
    exact hnext.trans (ih hnext.inOrder hrest)

/-! ## At any time in a program -/

section

variable {errors : Memory} {ops ops' : List (Env × Op core)}

theorem next_of_run (hrun : runAll ops (Scope.empty errors) = (.returns (), s)) :
    Scope.Next (Scope.empty errors) s :=
  runAll_next (Owned.empty errors) hrun

/-! A transaction is made. The program keeps a view of its outputs, and drops the rest. -/

def always : Env where
  native _ := true
  object _ := true
  grow _ := true
  chars _ := 0
  words := ⟨0, 0, 0, .null⟩

def makeSpend : Env × Op minimalCore :=
  (always, .newTransaction (.bytes MinimalTx.spend.encoding))

def keepView : List (Env × Op minimalCore) :=
  [(always, .method 0 (.getAttr .outputs)), (always, .decref 0)]

def made : Scope minimalCore := (runAll [makeSpend] (Scope.empty (Heap.empty []))).2

theorem made_run : runAll [makeSpend] (Scope.empty (Heap.empty [])) = (.returns (), made) := rfl

def viewed : Scope minimalCore := (runAll keepView made).2

theorem viewed_run :
    runAll (makeSpend :: keepView) (Scope.empty (Heap.empty [])) = (.returns (), viewed) := rfl

/--
**The counts are right.** The count of an object of the module is the number of references that
there are, those of the program and those of the views of it. An object to which there is none is
gone.
-/
theorem references_right (hrun : runAll ops (Scope.empty errors) = (.returns (), s)) (n : Nat) :
    ((s.process.objects.cell n).map (·.refcnt)).getD 0
        = s.held.count n + (Counted.holds Self.links s.process.objects).count n ∧
      ((s.process.objects.cell n).isSome ↔
        0 < s.held.count n + (Counted.holds Self.links s.process.objects).count n) := by
  have h := (next_of_run hrun).inOrder
  rw [← Multiset.count_add]
  cases hcell : s.process.objects.cell n with
  | none =>
    have hnot : n ∉ s.held + Counted.holds Self.links s.process.objects := by
      intro hmem
      have hlive := h.linked.live n hmem
      rw [hcell] at hlive
      cases hlive
    rw [Multiset.count_eq_zero.mpr hnot]
    exact ⟨rfl, by simp⟩
  | some object =>
    have hcount := h.linked.refcnt_eq hcell
    refine ⟨hcount, fun _ => ?_, fun _ => rfl⟩
    rw [← hcount]
    exact Nat.pos_of_ne_zero fun h0 =>
      absurd ((h.linked.dying_iff hcell).mp h0) (Finset.notMem_empty n)

theorem references_right_view :
    ((viewed.process.objects.cell 0).map (·.refcnt)).getD 0
        = viewed.held.count 0 + (Counted.holds Self.links viewed.process.objects).count 0 ∧
      ((viewed.process.objects.cell 0).isSome ↔
        0 < viewed.held.count 0 + (Counted.holds Self.links viewed.process.objects).count 0) :=
  references_right viewed_run 0

/--
**Each object of the library has one owner.** The handle of a Python object is null, or what is
behind it is there and is of the right type; and what is there is behind the handle of exactly one
Python object.
-/
theorem owner_unique (hrun : runAll ops (Scope.empty errors) = (.returns (), s)) :
    (∀ n k impl refcnt, s.process.objects.cell n = some ⟨.object k impl, refcnt⟩ →
      s.process.native.Owned impl) ∧
    ∀ i, (s.process.native.objects.cell i).isSome →
      ∃! n, ∃ k refcnt, s.process.objects.cell n = some ⟨.object k (some (.object i)), refcnt⟩ := by
  have h := (next_of_run hrun).inOrder
  have hlive : ∀ {n object}, s.process.objects.cell n = some object → object.refcnt ≠ 0 :=
    fun hn h0 => absurd ((h.linked.dying_iff hn).mp h0) (Finset.notMem_empty _)
  refine ⟨fun n k impl refcnt hn => h.impl hn (hlive hn) rfl, fun i hi => ?_⟩
  have hcount := h.handles i
  rw [if_pos hi, zero_add] at hcount
  have hmem : i ∈ Counted.holds Self.handles s.process.objects :=
    Multiset.count_pos.mp (by omega)
  obtain ⟨n, ⟨value, refcnt⟩, hn, hobject, hc⟩ := Counted.mem_holds.mp hmem
  have howner : ∃ k, value = .object k (some (.object i)) := by
    cases value with
    | object k impl =>
      obtain _ | p := impl
      · exact absurd hc (Multiset.notMem_zero i)
      · obtain ⟨j, x, rfl, -⟩ := h.impl hn hobject rfl p rfl
        obtain rfl := Multiset.mem_singleton.mp hc
        exact ⟨k, rfl⟩
    | slice obj words => exact absurd hc (Multiset.notMem_zero i)
  obtain ⟨k, rfl⟩ := howner
  refine ⟨n, ⟨k, refcnt, hn⟩, ?_⟩
  rintro m ⟨k', refcnt', hm⟩
  exact Counted.holder_unique hcount.le hn hobject hc hm (hlive hm) (Multiset.mem_singleton_self i)

theorem owner_unique_view :
    ∃! n, ∃ k refcnt,
      viewed.process.objects.cell n = some ⟨.object k (some (.object 0)), refcnt⟩ :=
  (owner_unique viewed_run).2 0 rfl

/--
**Nothing is left.** When a program has dropped its references, each object of the module, each
object of the library and each transaction that was ever made has been freed, once, and so has each
error record.
-/
theorem nothing_left (hrun : runAll ops (Scope.empty errors) = (.returns (), s))
    (hheld : s.held = 0) :
    (∀ n < s.process.objects.next, s.process.objects.freed.count n = 1) ∧
    (∀ i < s.process.native.objects.next, s.process.native.objects.freed.count i = 1) ∧
    (∀ t < s.process.native.transactions.next,
      s.process.native.transactions.freed.count t = 1) ∧
    ∀ e, errors.next ≤ e → e < s.process.native.errors.next →
      s.process.native.errors.freed.count e = 1 := by
  have hnext := next_of_run hrun
  have h : Owned s.held 0 ∅ s.process := hnext.inOrder
  rw [hheld] at h
  have hobjects : ∀ n, s.process.objects.cell n = none := h.linked.drained h.older
  have hnative : ∀ i, s.process.native.objects.cell i = none := by
    intro i
    have hcount := h.handles i
    rw [Counted.holds, Heap.total_of_drained _ hobjects] at hcount
    by_contra hne
    rw [if_pos (Option.isSome_iff_ne_none.mpr hne)] at hcount
    cases hcount
  have htransactions : ∀ t, s.process.native.transactions.cell t = none := by
    intro t
    obtain ⟨c, hc⟩ := h.sound
    have hcounts := hc.counts
    rw [objectRefs, Heap.total_of_drained _ hnative] at hcounts
    rw [← Option.not_isSome_iff_eq_none, hcounts.live_iff]
    exact Multiset.notMem_zero t
  exact ⟨fun n hn => Heap.freed_of_none hn (hobjects n),
    fun i hi => Heap.freed_of_none hi (hnative i),
    fun t ht => Heap.freed_of_none ht (htransactions t), fun e => Heap.freed_once hnext.errors⟩

theorem nothing_left_spend : ∃ s : Scope minimalCore, s.process.objects.next = 1 ∧
    (∀ n < s.process.objects.next, s.process.objects.freed.count n = 1) ∧
    (∀ i < s.process.native.objects.next, s.process.native.objects.freed.count i = 1) ∧
    (∀ t < s.process.native.transactions.next,
      s.process.native.transactions.freed.count t = 1) ∧
    ∀ e, (Heap.empty [] : Memory).next ≤ e → e < s.process.native.errors.next →
      s.process.native.errors.freed.count e = 1 := by
  have hrun : runAll [makeSpend, (always, .decref 0)] (Scope.empty (Heap.empty [])) = (.returns (),
      (runAll [makeSpend, (always, .decref 0)] (Scope.empty (Heap.empty []))).2) := rfl
  exact ⟨_, rfl, nothing_left hrun rfl⟩

/--
**Python objects can be taken for values.** At any time in a program, an object that it has is some
value, and its methods do what is said of this value: they come to the same end, with the same
value, with a new object that is the value, or with the same exception.
-/
theorem method_stands (hrun : runAll ops (Scope.empty errors) = (.returns (), s)) {n : Nat}
    (hn : n ∈ s.held) :
    (∃ o, Is s.process n o) ∧ ∀ o, Is s.process n o → ∀ (env : Env) (m : Method core),
      match (onObjects (Heap.read n) >>= fun object => m.run env n object.value) s.process,
        (m.call o).run env ⟨s.process.native.errors, []⟩ with
      | (.returns (.self n'), p), (.returns o', t) => Is p n' o' ∧ p.native.errors = t.memory
      | (.returns (.plain o''), p), (.returns o', t) => o'' = o' ∧ p.native.errors = t.memory
      | (.throws e, p), (.throws e', t) => e = e' ∧ p.native.errors = t.memory
      | (.faults u, _), (.faults u', _) => u = u'
      | _, _ => False := by
  have h := (next_of_run hrun).inOrder
  refine ⟨exists_is h (h.linked.live n (Multiset.mem_add.mpr (.inl hn))), fun o ho env m => ?_⟩
  have hend := method_simulates env hn m s.process s.start ⟨h.related, ho⟩
  rcases hx : (onObjects (Heap.read n) >>= fun object => m.run env n object.value :
    Prog (Process core) PyErr (Ref core)) s.process with ⟨out, p⟩
  rcases hvalue : (m.call o).run env ⟨s.process.native.errors, []⟩ with ⟨out', t⟩
  have hvalue' : (m.call o).run env s.start = (out', t) := hvalue
  rw [hx, hvalue'] at hend
  cases out with
  | returns r =>
    cases out' with
    | returns o' =>
      cases r with
      | self n' => exact ⟨hend.2, hend.1.errors⟩
      | plain o'' => exact ⟨hend.2, hend.1.errors⟩
    | throws e => exact hend.elim
    | faults u => exact hend.elim
  | throws e =>
    cases out' with
    | returns o' => exact hend.elim
    | throws e' => exact ⟨hend.1, hend.2.errors⟩
    | faults u => exact hend.elim
  | faults u =>
    cases out' with
    | returns o' => exact hend.elim
    | throws e => exact hend.elim
    | faults u' => exact hend

theorem viewed_is : Is viewed.process 1
    (.slice (.transaction (some MinimalTx.spend)) ⟨1, 0, 0, .outputsItem⟩) := by
  have hview : viewed.process.objects.cell 1 = some ⟨.slice 0 ⟨1, 0, 0, .outputsItem⟩, 1⟩ := rfl
  have hcell : viewed.process.objects.cell 0
      = some ⟨.object .transaction (some (.object 0)), 1⟩ := rfl
  have hstands : Stands viewed.process.native (some (.object 0 : Ptr .transaction))
      (some MinimalTx.spend : Option (Value minimalCore .transaction)) := rfl
  exact .slice hview (.object hcell hstands rfl)

/-- The first item of the view. -/
def firstItem : Prog (Process minimalCore) PyErr (Ref minimalCore) := do
  let object ← onObjects (Heap.read 1)
  (Method.next 0).run always 1 object.value

theorem method_stands_view :
    Is (firstItem viewed.process).2 2 (.transactionOutput (some ⟨0, []⟩)) ∧
      (firstItem viewed.process).2.native.errors = viewed.process.native.errors :=
  (method_stands viewed_run (Multiset.mem_singleton_self 1)).2 _ viewed_is always (.next 0)

/--
**An object stays what it is.** Whatever the program does, an object that is still there is the
value that it was, and so is what it is a view of, to which the program may have no reference any
more.
-/
theorem value_stays (hrun : runAll ops (Scope.empty errors) = (.returns (), s)) {n : Nat}
    {o : PyObj core} (ho : Is s.process n o) (hrun' : runAll ops' s = (.returns (), s'))
    (hlive : (s'.process.objects.cell n).isSome) : Is s'.process n o := by
  have hnext := runAll_next (next_of_run hrun).inOrder hrun'
  exact ho.later hnext.later hnext.inOrder hlive

theorem value_stays_view : Is viewed.process 0 (.transaction (some MinimalTx.spend)) := by
  have hcell : made.process.objects.cell 0
      = some ⟨.object .transaction (some (.object 0)), 1⟩ := rfl
  have hstands : Stands made.process.native (some (.object 0 : Ptr .transaction))
      (some MinimalTx.spend : Option (Value minimalCore .transaction)) := rfl
  have hrun : runAll keepView made = (.returns (), viewed) := rfl
  exact value_stays made_run (.object hcell hstands rfl) hrun rfl

end

end Btck.Python
