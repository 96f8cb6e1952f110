import Btck.Properties.InputIndex
import Btck.Properties.Types
import Btck.Python.References

/-!
# Which of the spent outputs are still there

`verify` gets pointers that were taken from objects, and no references to these. A list or a tuple
is the caller's, and its items stay. Of any other iterable, a list is made that is given up before
the call, as its iterator is, and an item stays if somebody else holds it.

* `iterate_counts`, `sequenceFast_cases`, `storeAll_cases` — one lemma for each step of it
* `convert_cases` — the conversion
* `pointers_alive_iff` — when the pointers are good at the call
* `view_keepsItems_iff` — those of a view never are
* `convert_refines`, `view_refines` — the conversion without references says the same
-/

namespace Btck.Python.Refs

open Infra RefState

variable {core : BitcoinCore}

/-! ## Iteration -/

/-- What code does to the objects keeps the counts right, with `taken` in the hands of another. -/
theorem effect_counts {ε : Type} (effect : Effect core) {taken : List Nat} {s : RefState core}
    (hc : Counts s.heap ((taken : Multiset Nat) + s.others)) :
    ∃ s', (effect.run : Prog (RefState core) ε Unit) s = (.returns (), s') ∧
      Counts s'.heap ((taken : Multiset Nat) + s'.others) := by
  cases effect with
  | create o =>
    refine ⟨_, rfl, ?_⟩
    show Counts (s.heap.alloc (.fresh o)) (_ + s.heap.next ::ₘ s.others)
    rw [Multiset.add_cons]
    exact hc.alloc o
  | retain n =>
    by_cases hn : n ∈ s.others
    · obtain ⟨h', hrun, hc', -⟩ := @Counts.incref _ ε _ _ _ hc (Multiset.mem_add.mpr (.inr hn))
      have hrun' : (onHeap (Counted.incref n) : Prog (RefState core) ε Unit)
          { s with others := n ::ₘ s.others }
            = (.returns (), { heap := h', others := n ::ₘ s.others }) := onHeap_run hrun
      refine ⟨_, (if_pos hn).trans hrun', ?_⟩
      show Counts h' (_ + n ::ₘ s.others)
      rw [Multiset.add_cons]
      exact hc'
    · exact ⟨s, if_neg hn, hc⟩
  | drop n =>
    by_cases hn : n ∈ s.others
    · rw [← Multiset.cons_erase hn, Multiset.add_cons] at hc
      obtain ⟨h', hrun, hc', -⟩ := @Counts.decref _ ε _ _ _ hc
      have hrun' : (onHeap (Counted.decref n) : Prog (RefState core) ε Unit)
          { s with others := s.others.erase n }
            = (.returns (), { heap := h', others := s.others.erase n }) := onHeap_run hrun
      exact ⟨_, (if_pos hn).trans hrun', hc'⟩
    · exact ⟨s, if_neg hn, hc⟩

theorem runEffects_counts {ε : Type} : ∀ (effects : List (Effect core)) {taken : List Nat}
    {s : RefState core}, Counts s.heap ((taken : Multiset Nat) + s.others) →
    ∃ s', (runEffects effects : Prog (RefState core) ε Unit) s = (.returns (), s') ∧
      Counts s'.heap ((taken : Multiset Nat) + s'.others) := by
  intro effects
  induction effects with
  | nil => intro taken s hc; exact ⟨s, rfl, hc⟩
  | cons effect effects ih =>
    intro taken s hc
    obtain ⟨s₁, heffect, hc₁⟩ := effect_counts effect hc
    obtain ⟨s₂, hrest, hc₂⟩ := ih hc₁
    exact ⟨s₂, (Prog.bind_of_returns heffect _).trans hrest, hc₂⟩

/-- A step keeps the counts right. What it yields goes from the program to the list. -/
theorem action_counts (action : Action core) {items : List Nat} {s : RefState core}
    (hc : Counts s.heap ((items : Multiset Nat) + s.others)) :
    ∃ item s', action.run s = (.returns item, s') ∧
      Counts s'.heap (((items ++ item : List Nat) : Multiset Nat) + s'.others) := by
  cases action with
  | effect e =>
    obtain ⟨s', hrun, hc'⟩ := effect_counts e hc
    exact ⟨[], s', Prog.bind_of_returns hrun _, by rwa [List.append_nil]⟩
  | yield n =>
    by_cases hn : n ∈ s.others
    · refine ⟨[n], _, Action.run_yield hn, ?_⟩
      show Counts s.heap (_ + s.others.erase n)
      rw [← Multiset.coe_add, Multiset.add_assoc, Multiset.coe_singleton, Multiset.singleton_add,
        Multiset.cons_erase hn]
      exact hc
    · exact ⟨[], s, if_neg hn, by rwa [List.append_nil]⟩

/-- The list that is made holds the only references that were added. -/
theorem iterate_counts : ∀ (actions : List (Action core)) {taken : List Nat} {s : RefState core},
    Counts s.heap ((taken : Multiset Nat) + s.others) →
    ∃ items s', iterate actions s = (.returns items, s') ∧
      Counts s'.heap (((taken ++ items : List Nat) : Multiset Nat) + s'.others) := by
  intro actions
  induction actions with
  | nil => intro taken s hc; exact ⟨[], s, rfl, by rwa [List.append_nil]⟩
  | cons action actions ih =>
    intro taken s hc
    obtain ⟨item, s₁, haction, hc₁⟩ := action_counts action hc
    obtain ⟨items, s₂, hrest, hc₂⟩ := ih hc₁
    refine ⟨item ++ items, s₂, ?_, by rwa [List.append_assoc] at hc₂⟩
    rw [iterate, Prog.bind_of_returns haction, Prog.bind_of_returns hrest]
    rfl

/-! ## The steps of the conversion -/

section

variable {s s' : RefState core} {items : List Nat}

/-- A list that is given up leaves the objects that somebody else holds. -/
theorem decrefAll_run {ε : Type} (hc : Counts s.heap ((items : Multiset Nat) + s.others)) :
    ∃ s', (onHeap (Counted.decrefAll items) : Prog (RefState core) ε Unit) s = (.returns (), s') ∧
      s'.others = s.others ∧ Counts s'.heap s.others ∧ Unchanged s.heap s'.heap := by
  obtain ⟨h', hrun, hc', hkeep⟩ := @Counts.decrefAll _ ε _ _ _ hc
  exact ⟨{ s with heap := h' }, onHeap_run hrun, rfl, hc', hkeep⟩

/-- What is stored for a list of objects that are there. -/
def Stored (s : RefState core) (items : List Nat) (ptrs : List OutputPtr) : Prop :=
  ptrs.map (·.owner) = items ∧ ∀ ptr ∈ ptrs, s.value? ptr.owner = some (.transactionOutput ptr.impl)

/-- An object that is there can be read. -/
theorem read_item {n : Nat} (hlive : (s.heap.cell n).isSome) : ∃ object : Counted (PyObj core),
    (onHeap (Heap.read n) : Prog (RefState core) PyErr _) s = (.returns object, s) ∧
      s.value? n = some object.value := by
  obtain ⟨object, hobject⟩ := Option.isSome_iff_exists.mp hlive
  refine ⟨object, onHeap_run (Heap.read_of_live hobject), ?_⟩
  rw [RefState.value?, hobject]
  rfl

theorem storeAll_cases : ∀ (items : List Nat) (idx : Nat), (∀ n ∈ items, (s.heap.cell n).isSome) →
    (∃ ptrs, storeAll items idx s = (.returns ptrs, s) ∧ Stored s items ptrs) ∨
    ∃ e, storeAll items idx s = (.throws e, s) := by
  intro items
  induction items with
  | nil => intro _ _; exact .inl ⟨[], rfl, rfl, by simp⟩
  | cons item items ih =>
    intro idx hlive
    obtain ⟨object, hread, hobject⟩ := read_item (hlive item (by simp))
    rw [storeAll, Prog.bind_of_returns hread]
    cases hvalue : object.value with
    | transactionOutput impl =>
      rcases ih (idx + 1) fun n hn => hlive n (List.mem_cons_of_mem _ hn) with
        ⟨ptrs, hrun, howners, hptrs⟩ | ⟨e, hrun⟩
      · refine .inl ⟨{ owner := item, impl := impl } :: ptrs, ?_, ?_, ?_⟩
        · show (storeAll items (idx + 1) >>= _ : Prog (RefState core) PyErr _) s = _
          rw [Prog.bind_of_returns hrun]
          rfl
        · rw [List.map_cons, howners]
        · intro ptr hptr
          rcases List.mem_cons.mp hptr with rfl | hmem
          · rw [hobject, hvalue]
          · exact hptrs ptr hmem
      · refine .inr ⟨e, ?_⟩
        show (storeAll items (idx + 1) >>= _ : Prog (RefState core) PyErr _) s = _
        rw [Prog.bind_of_throws hrun]
    | _ => exact .inr ⟨_, rfl⟩

/-- What `PySequence_Fast` has returned, as the rest of the conversion needs it. -/
structure Sequence (obj : SpentRefs core) (items : List Nat) (s : RefState core) : Prop where
  live : ∀ n ∈ items, (s.heap.cell n).isSome
  drop : ∃ s', dropSequence obj items s = (.returns (), s') ∧ s'.others = s.others ∧
    Counts s'.heap s.others ∧ Unchanged s.heap s'.heap

/-- A list or a tuple keeps its items. -/
theorem sequence_of_held (hc : Counts s.heap s.others) (hheld : ∀ n ∈ items, n ∈ s.others) :
    Sequence (.sequence items) items s where
  live n hn := (hc.live_iff n).mpr (hheld n hn)
  drop := ⟨s, rfl, rfl, hc, Unchanged.refl s.heap⟩

/-- A new list holds its items, and gives them up. -/
theorem sequence_of_counts {it : Iterator core}
    (hc : Counts s.heap ((items : Multiset Nat) + s.others)) :
    Sequence (.iterable it) items s where
  live n hn := (hc.live_iff n).mpr (Multiset.mem_add.mpr (.inl (Multiset.mem_coe.mpr hn)))
  drop := decrefAll_run hc

/-- Whether there is a list in the end or not, all references are accounted for. -/
theorem giveUp_run {α : Type} (effects : List (Effect core)) (e : PyErr)
    (hc : Counts s.heap ((items : Multiset Nat) + s.others)) :
    ∃ s', (do
        onHeap (Counted.decrefAll items)
        runEffects effects
        Prog.throw e : Prog (RefState core) PyErr α) s = (.throws e, s') ∧
      Counts s'.heap s'.others := by
  obtain ⟨s₁, hdrop, hothers, hc₁, -⟩ := @decrefAll_run _ _ _ PyErr hc
  have hstart : Counts s₁.heap ((([] : List Nat) : Multiset Nat) + s₁.others) := by
    rwa [Multiset.coe_nil, Multiset.zero_add, hothers]
  obtain ⟨s₂, hgone, hc₂⟩ := @runEffects_counts _ PyErr effects _ _ hstart
  rw [Multiset.coe_nil, Multiset.zero_add] at hc₂
  refine ⟨s₂, ?_, hc₂⟩
  rw [Prog.bind_of_returns hdrop, Prog.bind_of_returns hgone]
  rfl

/-- A list of the items of an iterator, if the iterator comes to its end and there is memory. -/
theorem sequenceFast_iterable (env : Env) (it : Iterator core) (hc : Counts s.heap s.others) :
    ∃ items s₁, it.consume s = (.returns items, s₁) ∧
      Counts s₁.heap ((items : Multiset Nat) + s₁.others) ∧
      ∃ s₂, Counts s₂.heap s₂.others ∧
        sequenceFast env (.iterable it) s = (match it.exc with
          | some exc => (.throws exc, s₂)
          | none => if env.object 0 then (.returns items, s₁) else (.throws noMemory, s₂)) := by
  have hstart : Counts s.heap ((([] : List Nat) : Multiset Nat) + s.others) := by
    rwa [Multiset.coe_nil, Multiset.zero_add]
  obtain ⟨items, s₀, hrun, hc₀⟩ := iterate_counts it.actions hstart
  rw [List.nil_append] at hc₀
  obtain ⟨s₁, hgone, hc₁⟩ := @runEffects_counts _ PyErr it.dealloc _ _ hc₀
  have hconsume : it.consume s = (.returns items, s₁) := by
    rw [Iterator.consume, Prog.bind_of_returns hrun, Prog.bind_of_returns hgone]
    rfl
  refine ⟨items, s₁, hconsume, hc₁, ?_⟩
  rw [sequenceFast, Prog.bind_of_returns hrun]
  cases hexc : it.exc with
  | some exc =>
    obtain ⟨s₂, hthrow, hc₂⟩ := giveUp_run it.dealloc exc hc₀
    exact ⟨s₂, hc₂, hthrow⟩
  | none =>
    obtain ⟨s₂, hthrow, hc₂⟩ := giveUp_run it.dealloc noMemory hc₀
    refine ⟨s₂, hc₂, ?_⟩
    cases hmemory : env.object 0 with
    | true =>
      simp only [if_true]
      exact Prog.bind_of_returns hgone _
    | false =>
      simp only [Bool.false_eq_true, if_false]
      exact hthrow

theorem sequenceFast_cases (env : Env) {obj : SpentRefs core} (hc : Counts s.heap s.others)
    (hheld : ∀ items, obj = .sequence items → ∀ n ∈ items, n ∈ s.others) :
    (∃ items s', sequenceFast env obj s = (.returns items, s') ∧ Sequence obj items s') ∨
    ∃ e s', sequenceFast env obj s = (.throws e, s') ∧ Counts s'.heap s'.others := by
  cases obj with
  | none => exact .inr ⟨_, s, rfl, hc⟩
  | sequence items => exact .inl ⟨items, s, rfl, sequence_of_held hc (hheld items rfl)⟩
  | iterable it =>
    obtain ⟨items, s₁, -, hc₁, s₂, hc₂, hrun⟩ := sequenceFast_iterable env it hc
    rw [hrun]
    cases it.exc with
    | some exc => exact .inr ⟨exc, s₂, rfl, hc₂⟩
    | none =>
      cases env.object 0 with
      | true => exact .inl ⟨items, s₁, rfl, sequence_of_counts hc₁⟩
      | false => exact .inr ⟨noMemory, s₂, rfl, hc₂⟩

end

/-! ## The conversion -/

/-- The items that an argument for `spent_outputs` yields, and the state when it has. -/
def Yields (env : Env) (spent : Option (SpentRefs core)) (s : RefState core) (items : List Nat)
    (s' : RefState core) : Prop :=
  match spent with
  | none | some .none => items = [] ∧ s' = s
  | some obj => sequenceFast env obj s = (.returns items, s')

theorem convertTxOutputs_eq {env : Env} {obj : SpentRefs core} (hobj : obj ≠ .none) :
    convertTxOutputs env obj = (do
      let seq ← sequenceFast env obj
      Prog.andFinally (if !env.object 1 then Prog.throw noMemory else storeAll seq 0)
        (dropSequence obj seq) : Prog (RefState core) PyErr (List OutputPtr)) := by
  cases obj with
  | none => exact absurd rfl hobj
  | _ => rfl

theorem yields_of_sequenceFast {env : Env} {obj : SpentRefs core} {s s' : RefState core}
    {items : List Nat} (hobj : obj ≠ .none) (h : sequenceFast env obj s = (.returns items, s')) :
    Yields env (some obj) s items s' := by
  cases obj with
  | none => exact absurd rfl hobj
  | _ => exact h

/-- The conversion stores the pointers of the items, and holds no reference afterwards. -/
theorem convert_cases (env : Env) (caller : Caller core) :
    (∃ ptrs s' items s₁, convertSpent env caller.spent caller.state = (.returns ptrs, s') ∧
      Yields env caller.spent caller.state items s₁ ∧ Stored s₁ items ptrs ∧
      Counts s'.heap s₁.others ∧ Unchanged s₁.heap s'.heap) ∨
    ∃ e s', convertSpent env caller.spent caller.state = (.throws e, s') := by
  obtain ⟨s, hc, spent, hheld⟩ := caller
  have hempty : Stored s [] [] := ⟨rfl, by simp⟩
  rcases spent with _ | obj
  · exact .inl ⟨[], s, [], s, rfl, ⟨rfl, rfl⟩, hempty, hc, Unchanged.refl s.heap⟩
  by_cases hobj : obj = .none
  · subst hobj
    exact .inl ⟨[], s, [], s, rfl, ⟨rfl, rfl⟩, hempty, hc, Unchanged.refl s.heap⟩
  show (∃ ptrs s' items s₁, convertTxOutputs env obj s = (.returns ptrs, s') ∧ _) ∨
    ∃ e s', convertTxOutputs env obj s = (.throws e, s')
  rw [convertTxOutputs_eq hobj]
  rcases sequenceFast_cases env hc fun items h => hheld items (congrArg some h) with
    ⟨items, s₁, hseq, hlive, s₂, hdrop, -, hc₂, hkeep⟩ | ⟨e, s₁, hseq, -⟩
  · rw [Prog.bind_of_returns hseq]
    cases hmemory : env.object 1 with
    | false =>
      have hthrow : (Prog.throw noMemory : Prog (RefState core) PyErr (List OutputPtr)) s₁
          = (.throws noMemory, s₁) := rfl
      exact .inr ⟨noMemory, s₂, Prog.andFinally_of_throws hthrow hdrop⟩
    | true =>
      rcases storeAll_cases items 0 hlive with ⟨ptrs, hstore, hstored⟩ | ⟨e, hstore⟩
      · have hrun := Prog.andFinally_of_returns hstore hdrop
        have hyields := yields_of_sequenceFast hobj hseq
        exact .inl ⟨ptrs, s₂, items, s₁, hrun, hyields, hstored, hc₂, hkeep⟩
      · exact .inr ⟨e, s₂, Prog.andFinally_of_throws hstore hdrop⟩
  · rw [Prog.bind_of_throws hseq]
    exact .inr ⟨e, s₁, rfl⟩

/-! ## At the call -/

/--
Every pointer is the field of a `TransactionOutput` that is still there, and they stand in the order
of the items.
-/
structure Alive (env : Env) (caller : Caller core) (ptrs : List OutputPtr) (s : RefState core) :
    Prop where
  order : ∃ s₁, Yields env caller.spent caller.state (ptrs.map (·.owner)) s₁
  there : ∀ ptr ∈ ptrs, s.value? ptr.owner = some (.transactionOutput ptr.impl)

/--
The spent outputs are given as a list or a tuple, or not at all; or every item is also held by
somebody else when the iteration is over and the iterator has been given up.
-/
def KeepsItems (caller : Caller core) : Prop :=
  match caller.spent with
  | some (.iterable it) => ∀ items s', it.consume caller.state = (.returns items, s') →
      ∀ n ∈ items, n ∈ s'.others
  | _ => True

theorem convertSpent_of_verifyPointers {env : Env} {args : VerifyArgs core}
    {spent : Option (SpentRefs core)} {s s' : RefState core} {ptrs : List OutputPtr}
    (h : verifyPointers env args spent s = (.returns ptrs, s')) :
    convertSpent env spent s = (.returns ptrs, s') := by
  obtain ⟨amount, s₁, hamount, h⟩ := Prog.bind_eq_returns.mp h
  obtain ⟨txTo, s₂, htx, h⟩ := Prog.bind_eq_returns.mp h
  obtain ⟨ptrs', s₃, hspent, h⟩ := Prog.bind_eq_returns.mp h
  obtain ⟨inputIndex, s₄, hindex, h⟩ := Prog.bind_eq_returns.mp h
  obtain ⟨flags, s₅, hflags, hout⟩ := Prog.bind_eq_returns.mp h
  -- nothing but the conversion touches the state
  obtain ⟨-, rfl⟩ := Prod.mk.inj hamount
  obtain ⟨-, rfl⟩ := Prod.mk.inj htx
  obtain ⟨-, rfl⟩ := Prod.mk.inj hindex
  obtain ⟨-, rfl⟩ := Prod.mk.inj hflags
  obtain ⟨hptrs, rfl⟩ := Prod.mk.inj hout
  rw [hspent, Outcome.returns.inj hptrs]

theorem consume_of_yields {env : Env} {it : Iterator core} {s s' : RefState core}
    {items : List Nat} (hc : Counts s.heap s.others)
    (h : Yields env (some (.iterable it)) s items s') : it.consume s = (.returns items, s') := by
  obtain ⟨items', s₁, hconsume, -, s₂, -, hrun⟩ := sequenceFast_iterable env it hc
  have hreturns := hrun.symm.trans h
  cases hexc : it.exc with
  | some exc =>
    rw [hexc] at hreturns
    cases hreturns
  | none =>
    rw [hexc] at hreturns
    cases hmemory : env.object 0 with
    | false =>
      rw [hmemory] at hreturns
      cases hreturns
    | true =>
      rw [hmemory] at hreturns
      rw [hconsume]
      exact hreturns

/-- An item is kept by whoever holds it when `PySequence_Fast` has returned. -/
theorem keepsItems_iff {env : Env} {caller : Caller core} {items : List Nat} {s : RefState core}
    (h : Yields env caller.spent caller.state items s) :
    KeepsItems caller ↔ ∀ n ∈ items, n ∈ s.others := by
  obtain ⟨s₀, hc, spent, hheld⟩ := caller
  rcases spent with _ | obj
  · obtain ⟨rfl, -⟩ := h
    exact ⟨fun _ => by simp, fun _ => trivial⟩
  cases obj with
  | none =>
    obtain ⟨rfl, -⟩ := h
    exact ⟨fun _ => by simp, fun _ => trivial⟩
  | sequence items' =>
    obtain ⟨hout, rfl⟩ := Prod.mk.inj h
    obtain rfl := Outcome.returns.inj hout
    exact ⟨fun _ => hheld _ rfl, fun _ => trivial⟩
  | iterable it =>
    have hconsume := consume_of_yields hc h
    constructor
    · intro hkeeps
      exact hkeeps items s hconsume
    · intro hmem items' s' hconsume'
      obtain ⟨hout, rfl⟩ := Prod.mk.inj (hconsume.symm.trans hconsume')
      obtain rfl := Outcome.returns.inj hout
      exact hmem

/-- **The pointers are good at the call if and only if** somebody else holds the items. -/
theorem pointers_alive_iff {env : Env} {args : VerifyArgs core} {caller : Caller core}
    {ptrs : List OutputPtr} {s : RefState core}
    (hcall : verifyPointers env args caller.spent caller.state = (.returns ptrs, s)) :
    Alive env caller ptrs s ↔ KeepsItems caller := by
  have hconvert := convertSpent_of_verifyPointers hcall
  rcases convert_cases env caller with
    ⟨ptrs', s', items, s₁, hrun, hyields, ⟨howners, hptrs⟩, hc, hkeep⟩ | ⟨e, s', hrun⟩
  · obtain ⟨hout, rfl⟩ := Prod.mk.inj (hconvert.symm.trans hrun)
    obtain rfl := Outcome.returns.inj hout
    rw [keepsItems_iff hyields]
    constructor
    · intro halive n hn
      rw [← howners] at hn
      obtain ⟨ptr, hptr, rfl⟩ := List.mem_map.mp hn
      have hlive : (s.value? ptr.owner).isSome := by
        rw [halive.there ptr hptr]
        rfl
      rw [RefState.value?, Option.isSome_map] at hlive
      exact (hc.live_iff _).mp hlive
    · intro hmem
      refine ⟨⟨s₁, by rwa [howners]⟩, fun ptr hptr => ?_⟩
      have hitem : ptr.owner ∈ items := howners ▸ List.mem_map_of_mem hptr
      have hlive := (hc.live_iff ptr.owner).mpr (hmem _ hitem)
      exact (hkeep _ hlive).trans (hptrs ptr hptr)
  · rw [hconvert] at hrun
    cases hrun

/-- A caller that gives a list of one output. -/
def listCaller : Caller minimalCore where
  state := ⟨(Heap.empty []).alloc (.fresh (.transactionOutput (some ⟨0, [0x51]⟩))), {0}⟩
  counts := (Counts.empty []).alloc _
  spent := some (.sequence [0])
  held := by
    rintro items ⟨⟩
    simp

/-- The output is still there. -/
theorem pointers_alive_list :
    Alive (.leaving .null) listCaller [⟨0, some ⟨0, [0x51]⟩⟩] listCaller.state := by
  have hcall : verifyPointers (.leaving .null) spendArgs listCaller.spent listCaller.state
      = (.returns [⟨0, some ⟨0, [0x51]⟩⟩], listCaller.state) := rfl
  exact (pointers_alive_iff hcall).mpr trivial

/-- A caller that gives the outputs of a transaction that has one. -/
def viewCaller : Caller minimalCore where
  state := ⟨Heap.empty [], 0⟩
  counts := Counts.empty []
  spent := some (.iterable (viewIterator 0 [.transactionOutput (some ⟨0, [0x51]⟩)] none))
  held := by rintro items ⟨⟩

/-- `script.verify(0, tx, tx.outputs)`: the object that the pointer was taken from is gone. -/
theorem view_dangles :
    (verifyPointers (.leaving .null) spendArgs viewCaller.spent viewCaller.state).1
        = .returns [⟨0, some ⟨0, [0x51]⟩⟩] ∧
      ¬ Alive (.leaving .null) viewCaller [⟨0, some ⟨0, [0x51]⟩⟩]
        (verifyPointers (.leaving .null) spendArgs viewCaller.spent viewCaller.state).2 := by
  refine ⟨rfl, fun halive => ?_⟩
  have hgone : (verifyPointers (.leaving .null) spendArgs viewCaller.spent
      viewCaller.state).2.value? 0 = none := rfl
  have hthere := halive.there _ (List.mem_singleton_self _)
  rw [hgone] at hthere
  cases hthere

/-! ## Views -/

/-- The items of a view are held by the list that is made of them, and by nobody else. -/
theorem iterate_viewActions : ∀ (os : List (PyObj core)) (s : RefState core),
    ∃ s', iterate (viewActions s.heap.next os) s
        = (.returns (List.range' s.heap.next os.length), s') ∧
      s'.others = s.others ∧ (∀ n < s.heap.next, s'.heap.cell n = s.heap.cell n) ∧
      (List.range' s.heap.next os.length).map s'.value? = os.map some := by
  intro os
  induction os with
  | nil => intro s; exact ⟨s, rfl, rfl, fun _ _ => rfl, rfl⟩
  | cons o os ih =>
    intro s
    let s₁ : RefState core := { heap := s.heap.alloc (.fresh o), others := s.others }
    have hcreate : (Action.effect (.create o)).run s
        = (.returns [], { s₁ with others := s.heap.next ::ₘ s.others }) := rfl
    have hyield : (Action.yield s.heap.next : Action core).run
        { s₁ with others := s.heap.next ::ₘ s.others } = (.returns [s.heap.next], s₁) := by
      rw [Action.run_yield (Multiset.mem_cons_self _ _), Multiset.erase_cons_head]
    obtain ⟨s', hrest, hothers, hframe, hvalues⟩ := ih s₁
    have hnext : s₁.heap.next = s.heap.next + 1 := rfl
    rw [hnext] at hrest hframe hvalues
    have hstep : iterate (.yield s.heap.next :: viewActions (s.heap.next + 1) os)
        { s₁ with others := s.heap.next ::ₘ s.others }
          = (.returns (s.heap.next :: List.range' (s.heap.next + 1) os.length), s') := by
      rw [iterate, Prog.bind_of_returns hyield, Prog.bind_of_returns hrest]
      rfl
    have hnew : s'.value? s.heap.next = some o := by
      have hcell : s₁.heap.cell s.heap.next = some (.fresh o) := Function.update_self _ _ _
      rw [RefState.value?, hframe _ (Nat.lt_succ_self _), hcell]
      rfl
    refine ⟨s', ?_, hothers, fun n hn => ?_, ?_⟩
    · rw [viewActions, iterate, Prog.bind_of_returns hcreate, Prog.bind_of_returns hstep,
        List.length_cons, List.range'_succ]
      rfl
    · rw [hframe n (Nat.lt_succ_of_lt hn)]
      exact Function.update_of_ne hn.ne _ _
    · rw [List.length_cons, List.range'_succ, List.map_cons, hnew, hvalues, List.map_cons]

theorem consume_viewIterator (os : List (PyObj core)) (exc : Option PyErr) (s : RefState core) :
    ∃ s', (viewIterator s.heap.next os exc).consume s
        = (.returns (List.range' s.heap.next os.length), s') ∧
      s'.others = s.others ∧
      (List.range' s.heap.next os.length).map s'.value? = os.map some := by
  obtain ⟨s', hrun, hothers, -, hvalues⟩ := iterate_viewActions os s
  exact ⟨s', Prog.bind_of_returns hrun _, hothers, hvalues⟩

/-- An object that was made in the course of the iteration was held by nobody before. -/
theorem not_held_of_next_le (caller : Caller core) {n : Nat} (hn : caller.state.heap.next ≤ n) :
    n ∉ caller.state.others := by
  rw [← caller.counts.live_iff, caller.state.heap.unused n hn]
  simp

/-- **The items of a view never stay.** -/
theorem view_keepsItems_iff {caller : Caller core} {os : List (PyObj core)} {exc : Option PyErr}
    (hspent : caller.spent = some (.iterable (viewIterator caller.state.heap.next os exc))) :
    KeepsItems caller ↔ os = [] := by
  obtain ⟨s', hrun, hothers, -⟩ := consume_viewIterator os exc caller.state
  unfold KeepsItems
  rw [hspent]
  constructor
  · intro hkeeps
    cases os with
    | nil => rfl
    | cons o os =>
      have hmem := hkeeps _ s' hrun caller.state.heap.next (by simp [List.range'_succ])
      rw [hothers] at hmem
      exact absurd hmem (not_held_of_next_le caller le_rfl)
  · rintro rfl items s'' hrun''
    obtain ⟨hout, -⟩ := Prod.mk.inj (hrun.symm.trans hrun'')
    obtain rfl := Outcome.returns.inj hout
    simp

/-! ## The level above -/

/-- The object that a reference leads to. -/
def valueOf (s : RefState core) (n : Nat) : PyObj core := (s.value? n).getD .none

/-- Without references, an item comes with the answer to whether somebody else holds it. -/
def forget (s : RefState core) : SpentRefs core → SpentOutputs core
  | .none => .object .none
  | .sequence items => .sequence (items.map (valueOf s))
  | .iterable it =>
    match it.consume s with
    | (.returns items, s') =>
      .iterable (items.map fun n => (valueOf s' n, decide (n ∈ s'.others))) it.exc
    | _ => .iterable [] it.exc

/-- Without references, a pointer comes with the answer to whether its object is there. -/
def forgetPtr (s : RefState core) (ptr : OutputPtr) : TxOutputPtr where
  impl := ptr.impl
  owned := (s.heap.cell ptr.owner).isSome

/-- How a conversion ends, without references. -/
def forgetRun (run : Outcome PyErr (List OutputPtr) × RefState core) :
    Outcome PyErr (List TxOutputPtr) := List.map (forgetPtr run.2) <$> run.1

/-- The loops do the same. -/
theorem storeAll_refines {s : RefState core} (flag : Nat → Bool) : ∀ (items : List Nat) (idx : Nat),
    (∀ n ∈ items, (s.heap.cell n).isSome) →
    Python.storeAll (items.map fun n => (valueOf s n, flag n)) idx
      = (List.map fun ptr => { impl := ptr.impl, owned := flag ptr.owner }) <$>
        (storeAll items idx s).1 := by
  intro items
  induction items with
  | nil => intro _ _; rfl
  | cons item items ih =>
    intro idx hlive
    obtain ⟨object, hread, hobject⟩ := read_item (hlive item (by simp))
    have hvalue : valueOf s item = object.value := by
      rw [valueOf, hobject]
      rfl
    have hrest := ih (idx + 1) fun n hn => hlive n (List.mem_cons_of_mem _ hn)
    rw [List.map_cons, hvalue, storeAll, Prog.bind_of_returns hread]
    cases object.value with
    | transactionOutput impl =>
      rw [Python.storeAll, hrest]
      show _ = _ <$> ((storeAll items (idx + 1) >>= _ : Prog (RefState core) PyErr _) s).1
      rcases hrun : storeAll items (idx + 1) s with ⟨out, s'⟩
      cases out with
      | returns ptrs => rw [Prog.bind_of_returns hrun]; rfl
      | throws e => rw [Prog.bind_of_throws hrun]; rfl
      | faults u => rw [Prog.bind_of_faults hrun]; rfl
    | _ => rfl

/-- The rest of the conversion, once there is a sequence: the flags are right in the end. -/
theorem convertSequence_refines (env : Env) {obj : SpentRefs core} {items : List Nat}
    {s : RefState core} (hseq : Sequence obj items s) (flag : Nat → Bool)
    (hflag : ∀ n ∈ items, flag n = decide (n ∈ s.others)) (st : State) :
    (convertSequence env (items.map fun n => (valueOf s n, flag n)) st).1
      = forgetRun (Prog.andFinally (if !env.object 1 then Prog.throw noMemory
          else storeAll items 0) (dropSequence obj items) s) := by
  obtain ⟨hlive, s₂, hdrop, -, hc₂, -⟩ := hseq
  rw [convertSequence_fst]
  cases hmemory : env.object 1 with
  | false =>
    have hthrow : Prog.andFinally (Prog.throw noMemory) (dropSequence obj items) s
        = ((.throws noMemory, s₂) : Outcome PyErr (List OutputPtr) × RefState core) :=
      Prog.andFinally_of_throws rfl hdrop
    simp only [Bool.not_false, if_true, hthrow]
    rfl
  | true =>
    simp only [Bool.not_true, if_true, Bool.false_eq_true, if_false]
    rw [storeAll_refines flag items 0 hlive]
    rcases storeAll_cases items 0 hlive with ⟨ptrs, hstore, howners, -⟩ | ⟨e, hstore⟩
    · rw [Prog.andFinally_of_returns hstore hdrop, hstore]
      show Outcome.returns _ = Outcome.returns _
      refine congrArg Outcome.returns (List.map_congr_left fun ptr hptr => ?_)
      have hitem : ptr.owner ∈ items := howners ▸ List.mem_map_of_mem hptr
      rw [forgetPtr, hflag _ hitem]
      congr 1
      rw [Bool.eq_iff_iff, decide_eq_true_iff, hc₂.live_iff]
    · rw [Prog.andFinally_of_throws hstore hdrop, hstore]
      rfl

/-- **The conversion without references is this one**, with the flags for what is still there. -/
theorem convert_refines (env : Env) (items : Int → Env) {caller : Caller core}
    {obj : SpentRefs core} (hobj : caller.spent = some obj) (st : State) :
    (Python.convertTxOutputs env items (forget caller.state obj) st).1
      = forgetRun (convertTxOutputs env obj caller.state) := by
  obtain ⟨s, hc, spent, hheld⟩ := caller
  obtain rfl : spent = some obj := hobj
  cases obj with
  | none => rfl
  | sequence refs =>
    have hseq : Sequence (.sequence refs) refs s := sequence_of_held hc (hheld refs rfl)
    have hrest := convertSequence_refines env hseq (fun _ => true)
      (fun n hn => by simp [hheld refs rfl n hn]) st
    have hmap : (refs.map (valueOf s)).map (fun o => (o, true))
        = refs.map fun n => (valueOf s n, true) := by
      rw [List.map_map]
      rfl
    show (convertSequence env ((refs.map (valueOf s)).map fun o => (o, true)) st).1 = _
    rw [hmap]
    exact hrest
  | iterable it =>
    obtain ⟨refs, s₁, hconsume, hc₁, s₂, -, hrun⟩ := sequenceFast_iterable env it hc
    have hforget : forget s (.iterable it)
        = .iterable (refs.map fun n => (valueOf s₁ n, decide (n ∈ s₁.others))) it.exc := by
      rw [forget, hconsume]
    obtain ⟨st', hrun'⟩ := Python.sequenceFast_iterable env items
      (refs.map fun n => (valueOf s₁ n, decide (n ∈ s₁.others))) it.exc st
    rw [hforget]
    show ((Python.sequenceFast env items _ >>= convertSequence env : Prog State PyErr _) st).1
      = forgetRun ((sequenceFast env (.iterable it) >>= _ : Prog (RefState core) PyErr _) s)
    cases hexc : it.exc with
    | some exc =>
      rw [hexc] at hrun hrun'
      rw [Prog.bind_of_throws hrun, Prog.bind_of_throws hrun']
      rfl
    | none =>
      rw [hexc] at hrun hrun'
      cases hmemory : env.object 0 with
      | false =>
        rw [hmemory] at hrun hrun'
        rw [Prog.bind_of_throws hrun, Prog.bind_of_throws hrun']
        rfl
      | true =>
        rw [hmemory] at hrun hrun'
        rw [Prog.bind_of_returns hrun, Prog.bind_of_returns hrun']
        exact convertSequence_refines env (sequence_of_counts hc₁) _ (fun _ _ => rfl) st'

/-- What a view of some objects yields. -/
theorem forget_viewIterator (caller : Caller core) (os : List (PyObj core)) (exc : Option PyErr) :
    forget caller.state (.iterable (viewIterator caller.state.heap.next os exc))
      = .iterable (os.map fun o => (o, false)) exc := by
  obtain ⟨s', hrun, hothers, hvalues⟩ := consume_viewIterator os exc caller.state
  rw [forget, hrun]
  refine congrArg (SpentOutputs.iterable · exc) ?_
  have hitem : ∀ n ∈ List.range' caller.state.heap.next os.length,
      (valueOf s' n, decide (n ∈ s'.others)) = ((s'.value? n).getD .none, false) := by
    intro n hn
    rw [hothers, decide_eq_false (not_held_of_next_le caller (List.mem_range'_1.mp hn).1)]
    rfl
  rw [List.map_congr_left hitem]
  have hmap := congrArg (List.map fun o : Option (PyObj core) => (o.getD .none, false)) hvalues
  rw [List.map_map, List.map_map] at hmap
  exact hmap

/-- **A view is converted as its items would be**, if these were made one after the other. -/
theorem view_refines (env : Env) (items : Int → Env) {caller : Caller core} {obj : PyObj core}
    {words : SliceWords} {os : List (PyObj core)} {st st' : State}
    (hlist : Slice.toList items (.slice obj words) 0 st = (.returns os, st'))
    (hspent : caller.spent = some (.iterable (viewIterator caller.state.heap.next os none))) :
    (Python.convertTxOutputs env items (.object (.slice obj words)) st).1
      = forgetRun (convertTxOutputs env (.iterable (viewIterator caller.state.heap.next os none))
          caller.state) := by
  rw [← convert_refines env items hspent st', forget_viewIterator]
  let seq : List (PyObj core × Bool) := os.map fun o => (o, false)
  have hiter : iterItems items (.object (.slice obj words)) st = (.returns seq, st') :=
    Prog.bind_of_returns hlist _
  have hview : Python.sequenceFast env items (.object (.slice obj words)) st
      = (if env.object 0 then return seq
          else do dropAll seq; Prog.throw noMemory : Prog State PyErr _) st' :=
    Prog.bind_of_returns hiter _
  obtain ⟨st₁, hdrop⟩ := dropAll_run seq st'
  obtain ⟨st₂, hrun⟩ := Python.sequenceFast_iterable env items seq none st'
  show ((Python.sequenceFast env items _ >>= convertSequence env : Prog State PyErr _) st).1
    = ((Python.sequenceFast env items _ >>= convertSequence env : Prog State PyErr _) st').1
  cases hmemory : env.object 0 with
  | false =>
    have hthrow : Python.sequenceFast env items (.object (.slice obj words)) st
        = (.throws noMemory, st₁) := by
      rw [hview, hmemory]
      exact Prog.bind_of_returns hdrop _
    rw [hmemory] at hrun
    rw [Prog.bind_of_throws hthrow, Prog.bind_of_throws hrun]
  | true =>
    rw [hmemory] at hview hrun
    have hreturn : Python.sequenceFast env items (.object (.slice obj words)) st
        = (.returns seq, st') := hview
    rw [Prog.bind_of_returns hreturn, Prog.bind_of_returns hrun, convertSequence_fst,
      convertSequence_fst]

end Btck.Python.Refs
