import Btck.Properties.Program

/-!
# Counting references is as good as collecting garbage

`Collected` is memory without counts: a `CTransaction` is there as long as some object of the
library refers to it. That is what a user of the library has to know about its memory. Every program
does the same on both, to its last reply or to the call that the language does not define.

* `Collected`, `collected` — the runtime that collects
* `Agree` — what relates the two, with one lemma for each operation of a runtime
* `Alike` — functions that do the same
* `run_eq_collected` — programs
-/

namespace Btck

open Infra

variable {core : BitcoinCore}

/-! ## The runtime that collects -/

/-- Objects, and all the transactions that were ever made, by number. -/
structure Collected (core : BitcoinCore) where
  objects : Heap (Object core)
  transactions : List core.CTransaction
  errors : Memory

namespace Collected

/-- Memory from which nothing was taken yet. -/
def empty (errors : Memory) : Collected core where
  objects := Heap.empty []
  transactions := []
  errors := errors

/-- Some object refers to the transaction. -/
def Reachable (c : Collected core) (t : Nat) : Prop :=
  ∃ n o, c.objects.cell n = some o ∧ t ∈ o.refs

open Classical in
/-- The transaction, as long as it can be reached. -/
noncomputable def transaction? (c : Collected core) (t : Nat) : Option core.CTransaction :=
  if c.Reachable t then c.transactions[t]? else none

def objectsPart : Part (Collected core) (Heap (Object core)) where
  get c := c.objects
  set c objects := { c with objects := objects }

end Collected

/-- A `CTransactionRef` is a plain number here; to copy or to destroy one does nothing. -/
noncomputable def collected (core : BitcoinCore) : Runtime core (Collected core) where
  new x := Prog.within Collected.objectsPart (Heap.place x)
  read n := Prog.within Collected.objectsPart (Heap.read n)
  delete n := Prog.within Collected.objectsPart (Heap.free n)
  makeShared tx := fun c =>
    (.returns c.transactions.length, { c with transactions := c.transactions ++ [tx] })
  deref t := fun c =>
    match c.transaction? t with
    | some tx => (.returns tx, c)
    | none => (.faults .undefined, c)
  share _ := return ()
  release _ := return ()
  errors :=
    { get c := c.errors
      set c errors := { c with errors := errors } }

/-! ## The relation -/

/-- What the objects refer to. -/
def objectRefs (h : Heap (Object core)) : Multiset Nat :=
  Heap.total (fun o => (Object.refs o : Multiset Nat)) h

theorem mem_objectRefs {h : Heap (Object core)} {t : Nat} :
    t ∈ objectRefs h ↔ ∃ n o, h.cell n = some o ∧ t ∈ o.refs := by
  simp [objectRefs, Heap.mem_total]

/-- The references are to these transactions, in this order. -/
def Refer (transactions : List core.CTransaction) (ts : List Nat) (txs : List core.CTransaction) :
    Prop :=
  ts.map (transactions[·]?) = txs.map some

namespace Refer

variable {transactions txs : List core.CTransaction} {ts : List Nat}

theorem lt_length (h : Refer transactions ts txs) {t : Nat} (ht : t ∈ ts) :
    t < transactions.length := by
  have hthere : transactions[t]? ∈ txs.map some := by
    rw [← h]
    exact List.mem_map_of_mem ht
  obtain ⟨tx, -, htx⟩ := List.mem_map.mp hthere
  exact (List.getElem?_eq_some_iff.mp htx.symm).1

/-- Transactions that are added do not matter. -/
theorem append (h : Refer transactions ts txs) (new : List core.CTransaction) :
    Refer (transactions ++ new) ts txs := by
  unfold Refer
  rw [← h]
  exact List.map_congr_left fun t ht => List.getElem?_append_left (h.lt_length ht)

theorem snoc (h : Refer transactions ts txs) (tx : core.CTransaction) :
    Refer (transactions ++ [tx]) (ts ++ [transactions.length]) (txs ++ [tx]) := by
  have hold := h.append [tx]
  unfold Refer at hold ⊢
  rw [List.map_append, List.map_append, hold]
  simp

end Refer

/-- The references of a block are to its transactions, and that of a transaction is to one. -/
def Object.Coherent (transactions : List core.CTransaction) : Object core → Prop
  | ⟨.block, stored⟩ => Refer transactions (StoredBlock.vtx stored) (core.vtx stored.block).toList
  | ⟨.transaction, t⟩ => (t : Nat) < transactions.length
  | ⟨.transactionOutput, _⟩ => True
  | ⟨.scriptPubkey, _⟩ => True

theorem Object.Coherent.append {transactions : List core.CTransaction} {o : Object core}
    (h : o.Coherent transactions) (new : List core.CTransaction) :
    o.Coherent (transactions ++ new) := by
  obtain ⟨k, x⟩ := o
  cases k with
  | block => exact Refer.append h new
  | transaction =>
    have hlt : (x : Nat) < transactions.length := h
    show (x : Nat) < (transactions ++ new).length
    rw [List.length_append]
    exact Nat.lt_add_right _ hlt
  | transactionOutput => trivial
  | scriptPubkey => trivial

/-- Both memories are alike, and a function of the library holds the references in `locals`. -/
structure Agree (locals : Multiset Nat) (m : Native core) (c : Collected core) : Prop where
  objects : m.objects = c.objects
  errors : m.errors = c.errors
  next : m.transactions.next = c.transactions.length
  counts : Counts m.transactions (locals + objectRefs m.objects)
  value : ∀ {t object}, m.transactions.cell t = some object →
    c.transactions[t]? = some object.value
  coherent : ∀ {n o}, m.objects.cell n = some o → o.Coherent c.transactions

/-! ## References that are given up -/

section

variable {m : Native core} {holders : Multiset Nat} (ε : Type)

theorem release_counts {t : Nat} (hc : Counts m.transactions (t ::ₘ holders)) :
    ∃ heap, ((native core).release t : Prog _ ε Unit) m
        = (.returns (), { m with transactions := heap }) ∧
      heap.next = m.transactions.next ∧ Counts heap holders ∧ Unchanged m.transactions heap := by
  obtain ⟨heap, hrun, hcounts, hkeep⟩ := @Counts.decref _ ε _ _ _ hc
  refine ⟨heap, Prog.within_run Native.transactionsPart hrun, ?_, hcounts, hkeep⟩
  have hsame : Same Heap.next _ _ := @Counted.decref_next _ ε t m.transactions
  rwa [hrun] at hsame

theorem releaseAll_counts : ∀ {ts : List Nat} {m : Native core},
    Counts m.transactions ((ts : Multiset Nat) + holders) →
    ∃ heap, ((native core).releaseAll ts : Prog _ ε Unit) m
        = (.returns (), { m with transactions := heap }) ∧
      heap.next = m.transactions.next ∧ Counts heap holders ∧ Unchanged m.transactions heap := by
  intro ts
  induction ts with
  | nil =>
    intro m hc
    refine ⟨m.transactions, rfl, rfl, ?_, Unchanged.refl _⟩
    rwa [Multiset.coe_nil, zero_add] at hc
  | cons t ts ih =>
    intro m hc
    rw [← Multiset.cons_coe, Multiset.cons_add] at hc
    obtain ⟨heap₁, hfirst, hnext₁, hc₁, hkeep₁⟩ := release_counts ε hc
    obtain ⟨heap₂, hrest, hnext₂, hc₂, hkeep₂⟩ := ih (m := { m with transactions := heap₁ }) hc₁
    refine ⟨heap₂, ?_, hnext₂.trans hnext₁, hc₂, hkeep₁.trans hkeep₂⟩
    rw [Runtime.releaseAll, Prog.bind_of_returns hfirst, hrest]

end

namespace Agree

variable {L : Multiset Nat} {m : Native core} {c : Collected core} {t : Nat}

theorem empty (errors : Memory) :
    Agree 0 (Native.empty errors : Native core) (Collected.empty errors) where
  objects := rfl
  errors := rfl
  next := rfl
  counts := by
    show Counts (Heap.empty []) (0 + objectRefs (Heap.empty []))
    rw [objectRefs, Heap.total_empty, add_zero]
    exact Counts.empty []
  value h := by cases h
  coherent h := by cases h

/-- A transaction is there as long as it can be reached. -/
theorem live_iff (h : Agree 0 m c) : (m.transactions.cell t).isSome ↔ c.Reachable t := by
  rw [h.counts.live_iff, zero_add, mem_objectRefs, h.objects]
  rfl

/-- What is still there is what was read. -/
theorem value_of_unchanged (h : Agree L m c) {heap : Heap (Counted core.CTransaction)}
    (hkeep : Unchanged m.transactions heap) {object : Counted core.CTransaction}
    (hobject : heap.cell t = some object) : c.transactions[t]? = some object.value := by
  have hsame := hkeep t (by rw [hobject]; rfl)
  rw [hobject] at hsame
  obtain ⟨object', hobject', hvalue⟩ := Option.map_eq_some_iff.mp hsame.symm
  rw [h.value hobject', hvalue]

/-- The counted transactions have changed, and are still the right ones. -/
theorem of_transactions (h : Agree L m c) {L' : Multiset Nat}
    {heap : Heap (Counted core.CTransaction)} (hnext : heap.next = m.transactions.next)
    (hcounts : Counts heap (L' + objectRefs m.objects)) (hkeep : Unchanged m.transactions heap) :
    Agree L' { m with transactions := heap } c where
  objects := h.objects
  errors := h.errors
  next := hnext.trans h.next
  counts := hcounts
  value := h.value_of_unchanged hkeep
  coherent := h.coherent

/-! ### The operations of a runtime -/

variable {ε : Type} {thrown : ε → Native core → Collected core → Prop}

theorem read (n : Nat) : Simulation (Agree L) ((native core).read n) ((collected core).read n)
    ⟨fun o o' m c => o = o' ∧ Agree L m c ∧ m.objects.cell n = some o, thrown⟩ := by
  intro m c h
  show Both.holds _ (Prog.within Native.objectsPart (Heap.read n) m)
    (Prog.within Collected.objectsPart (Heap.read n) c)
  cases hn : m.objects.cell n with
  | none =>
    have hn' : c.objects.cell n = none := h.objects ▸ hn
    rw [Prog.within_run Native.objectsPart (Heap.read_of_dead hn),
      Prog.within_run Collected.objectsPart (Heap.read_of_dead hn')]
    rfl
  | some o =>
    have hn' : c.objects.cell n = some o := h.objects ▸ hn
    rw [Prog.within_run Native.objectsPart (Heap.read_of_live hn),
      Prog.within_run Collected.objectsPart (Heap.read_of_live hn')]
    exact ⟨rfl, h, hn⟩

/-- A new object takes over the references that it is made with. -/
theorem new (o : Object core) :
    Simulation (fun m c => Agree ((o.refs : Multiset Nat) + L) m c ∧ o.Coherent c.transactions)
      ((native core).new o) ((collected core).new o)
      ⟨fun n n' m c => n = n' ∧ Agree L m c ∧ m.objects.cell n = some o, thrown⟩ := by
  rintro m c ⟨h, hcoherent⟩
  refine ⟨congrArg Heap.next h.objects, ?_, Function.update_self ..⟩
  refine ⟨congrArg (Heap.alloc · o) h.objects, h.errors, h.next, ?_, h.value, ?_⟩
  · show Counts m.transactions (L + objectRefs (m.objects.alloc o))
    rw [objectRefs, Heap.total_alloc, ← add_assoc, add_comm L]
    exact h.counts
  · intro n o' hn
    have hcell : Function.update m.objects.cell m.objects.next (some o) n = some o' := hn
    rcases eq_or_ne n m.objects.next with rfl | hne
    · rw [Function.update_self, Option.some.injEq] at hcell
      rw [← hcell]
      exact hcoherent
    · rw [Function.update_of_ne hne] at hcell
      exact h.coherent hcell

theorem makeShared (tx : core.CTransaction) :
    Simulation (Agree L) ((native core).makeShared tx) ((collected core).makeShared tx)
      ⟨fun t t' m c => t = t' ∧ Agree (t ::ₘ L) m c ∧ c.transactions[t]? = some tx, thrown⟩ := by
  intro m c h
  have hnext : (c.transactions ++ [tx])[m.transactions.next]? = some tx := by
    rw [h.next, List.getElem?_append_right le_rfl, Nat.sub_self]
    rfl
  refine ⟨h.next, ⟨h.objects, h.errors, ?_, ?_, ?_, fun hn => (h.coherent hn).append _⟩, hnext⟩
  · show m.transactions.next + 1 = (c.transactions ++ [tx]).length
    rw [List.length_append, h.next]
    rfl
  · show Counts (m.transactions.alloc _) (m.transactions.next ::ₘ L + objectRefs m.objects)
    rw [Multiset.cons_add]
    exact h.counts.alloc tx
  · intro t object hobject
    have hcell : Function.update m.transactions.cell m.transactions.next
        (some (Counted.fresh tx)) t = some object := hobject
    rcases eq_or_ne t m.transactions.next with rfl | ht
    · rw [Function.update_self, Option.some.injEq] at hcell
      rw [← hcell]
      exact hnext
    · rw [Function.update_of_ne ht] at hcell
      have hold := h.value hcell
      rw [List.getElem?_append_left (List.getElem?_eq_some_iff.mp hold).1]
      exact hold

theorem deref (t : Nat) :
    Simulation (Agree 0) ((native core).deref t) ((collected core).deref t)
      ⟨fun tx tx' m c => tx = tx' ∧ Agree 0 m c, thrown⟩ := by
  intro m c h
  show Both.holds _ ((Prog.within Native.transactionsPart (Heap.read t) >>= fun object =>
      pure object.value) m) (match c.transaction? t with
    | some tx => (.returns tx, c)
    | none => (.faults .undefined, c))
  cases hcell : m.transactions.cell t with
  | none =>
    have hgone : ¬ c.Reachable t := by rw [← h.live_iff, hcell]; simp
    rw [Prog.bind_of_faults (Prog.within_run Native.transactionsPart
      (Heap.read_of_dead hcell)), Collected.transaction?, if_neg hgone]
    rfl
  | some object =>
    have hthere : c.Reachable t := h.live_iff.mp (by rw [hcell]; rfl)
    rw [Prog.bind_of_returns (Prog.within_run Native.transactionsPart
      (Heap.read_of_live hcell)), Collected.transaction?, if_pos hthere, h.value hcell]
    exact ⟨rfl, h⟩

/-! ### References that a function takes and gives up -/

variable (ε)

theorem share_run (h : Agree L m c) (ht : t ∈ L + objectRefs m.objects) :
    ∃ m', ((native core).share t : Prog _ ε Unit) m = (.returns (), m') ∧
      m'.objects = m.objects ∧ Agree (t ::ₘ L) m' c := by
  obtain ⟨heap, hrun, hcounts, hkeep⟩ := @Counts.incref _ ε _ _ _ h.counts ht
  have hnext : heap.next = m.transactions.next := by
    have hsame : Same Heap.next _ _ := @Counted.incref_next _ ε t m.transactions
    rwa [hrun] at hsame
  refine ⟨_, Prog.within_run Native.transactionsPart hrun, rfl, ?_⟩
  exact h.of_transactions hnext (by rwa [Multiset.cons_add]) hkeep

theorem shareAll_run : ∀ {ts : List Nat} {L : Multiset Nat} {m : Native core}, Agree L m c →
    (∀ t ∈ ts, t ∈ L + objectRefs m.objects) →
    ∃ m', ((native core).shareAll ts : Prog _ ε Unit) m = (.returns (), m') ∧
      m'.objects = m.objects ∧ Agree ((ts : Multiset Nat) + L) m' c := by
  intro ts
  induction ts with
  | nil =>
    intro L m h _
    refine ⟨m, rfl, rfl, ?_⟩
    rwa [Multiset.coe_nil, zero_add]
  | cons t ts ih =>
    intro L m h hmem
    obtain ⟨m₁, hfirst, hobjects₁, h₁⟩ := share_run ε h (hmem t (by simp))
    have hmem₁ : ∀ u ∈ ts, u ∈ t ::ₘ L + objectRefs m₁.objects := by
      intro u hu
      rw [hobjects₁, Multiset.cons_add]
      exact Multiset.mem_cons_of_mem (hmem u (List.mem_cons_of_mem t hu))
    obtain ⟨m₂, hrest, hobjects₂, h₂⟩ := ih h₁ hmem₁
    refine ⟨m₂, ?_, hobjects₂.trans hobjects₁, ?_⟩
    · rw [Runtime.shareAll, Prog.bind_of_returns hfirst, hrest]
    · rwa [← Multiset.cons_coe, Multiset.cons_add, ← Multiset.add_cons]

theorem releaseAll_run {ts : List Nat} (h : Agree ((ts : Multiset Nat) + L) m c) :
    ∃ m', ((native core).releaseAll ts : Prog _ ε Unit) m = (.returns (), m') ∧
      m'.objects = m.objects ∧ Agree L m' c := by
  have hcounts := h.counts
  rw [add_assoc] at hcounts
  obtain ⟨heap, hrun, hnext, hcounts, hkeep⟩ := releaseAll_counts ε hcounts
  exact ⟨_, hrun, rfl, h.of_transactions hnext hcounts hkeep⟩

theorem release_run (h : Agree (t ::ₘ L) m c) :
    ∃ m', ((native core).release t : Prog _ ε Unit) m = (.returns (), m') ∧
      m'.objects = m.objects ∧ Agree L m' c := by
  have hcounts := h.counts
  rw [Multiset.cons_add] at hcounts
  obtain ⟨heap, hrun, hnext, hcounts, hkeep⟩ := release_counts ε hcounts
  exact ⟨_, hrun, rfl, h.of_transactions hnext hcounts hkeep⟩

end Agree

/-! ## Functions that do the same -/

section

variable {ε α β : Type}

/-- The two do the same, and keep no reference of their own. -/
def Alike (x : Prog (Native core) ε α) (y : Prog (Collected core) ε α) : Prop :=
  Simulation (Agree 0) x y ⟨fun a b m c => a = b ∧ Agree 0 m c, fun _ => Agree 0⟩

namespace Alike

theorem bind {x : Prog (Native core) ε α} {y : Prog (Collected core) ε α}
    {f : α → Prog (Native core) ε β} {g : α → Prog (Collected core) ε β} (hx : Alike x y)
    (hf : ∀ a, Alike (f a) (g a)) : Alike (x >>= f) (y >>= g) := by
  refine Simulation.bind hx fun a b => ?_
  rintro m c ⟨rfl, h⟩
  exact hf a m c h

theorem pure (a : α) :
    Alike (Pure.pure a : Prog (Native core) ε α) (Pure.pure a : Prog (Collected core) ε α) :=
  Simulation.pure fun _ _ h => ⟨rfl, h⟩

theorem lift (z : Outcome ε α) :
    Alike (Prog.lift z : Prog (Native core) ε α) (Prog.lift z : Prog (Collected core) ε α) :=
  Simulation.lift (fun _ _ _ _ h => ⟨rfl, h⟩) fun _ _ _ _ h => h

theorem onOther {υ : Type} (x : Prog υ ε α) (other : υ) :
    Alike (Runtime.onOther x other : Prog (Native core) ε (α × υ))
      (Runtime.onOther x other : Prog (Collected core) ε (α × υ)) := by
  intro m c h
  unfold Runtime.onOther
  rcases x other with ⟨out, other'⟩
  cases out with
  | returns a => exact ⟨rfl, h⟩
  | throws e => exact ⟨rfl, h⟩
  | faults u => rfl

/-- The error records are the same on both sides. -/
theorem onErrors (x : Prog Memory ε α) :
    Alike (Prog.within (native core).errors x) (Prog.within (collected core).errors x) := by
  intro m c h
  rcases hrun : x m.errors with ⟨out, errors⟩
  have hrun' : x c.errors = (out, errors) := by rw [← h.errors, hrun]
  rw [Prog.within_run ((native core).errors) hrun,
    Prog.within_run ((collected core).errors) hrun']
  have hagree : Agree 0 ((native core).errors.set m errors) ((collected core).errors.set c errors) :=
    ⟨h.objects, rfl, h.next, h.counts, h.value, h.coherent⟩
  cases out with
  | returns a => exact ⟨rfl, hagree⟩
  | throws e => exact ⟨rfl, hagree⟩
  | faults u => rfl

theorem catchAll {ε' : Type} {x : Prog (Native core) ε α} {y : Prog (Collected core) ε α}
    {f : ε → Prog (Native core) ε' α} {g : ε → Prog (Collected core) ε' α} (hx : Alike x y)
    (hf : ∀ e, Alike (f e) (g e)) : Alike (Prog.catchAll x f) (Prog.catchAll y g) :=
  Simulation.catchAll hx hf

end Alike

/-! ### `api.hpp` -/

/-- What is read from memory could be an object: its references are among those of the objects. -/
def Loads {k : Kind} (x : Prog (Native core) ε (CppType core k))
    (y : Prog (Collected core) ε (CppType core k)) : Prop :=
  Simulation (Agree 0) x y
    ⟨fun a b m c => a = b ∧ Agree 0 m c ∧ (∀ t ∈ Object.refs ⟨k, a⟩, t ∈ objectRefs m.objects) ∧
      Object.Coherent c.transactions ⟨k, a⟩, fun _ => Agree 0⟩

theorem Loads.alike {k : Kind} {x : Prog (Native core) ε (CppType core k)}
    {y : Prog (Collected core) ε (CppType core k)} (h : Loads x y) : Alike x y :=
  h.imp (fun _ _ h => h) (fun _ _ _ _ h => ⟨h.1, h.2.1⟩) fun _ _ _ h => h

theorem loadObject_simulates (k : Kind) (n : Nat) :
    Simulation (Agree 0) ((native core).loadObject k n : Prog _ ε _) ((collected core).loadObject k n)
      ⟨fun x y m c => x = y ∧ Agree 0 m c ∧ m.objects.cell n = some ⟨k, x⟩, fun _ => Agree 0⟩ := by
  refine Simulation.bind (Agree.read n) fun o o' => ?_
  rintro m c ⟨rfl, h, hn⟩
  cases hk : o.as? k with
  | none => rfl
  | some x =>
    obtain rfl := Object.as?_eq_some.mp hk
    exact ⟨rfl, h, hn⟩

theorem loadObject_loads (k : Kind) (n : Nat) :
    Loads (ε := ε) ((native core).loadObject k n) ((collected core).loadObject k n) :=
  (loadObject_simulates k n).imp (fun _ _ h => h)
    (fun _ _ _ _ h =>
      ⟨h.1, h.2.1, fun _ ht => mem_objectRefs.mpr ⟨n, _, h.2.2, ht⟩, h.2.1.coherent h.2.2⟩)
    fun _ _ _ h => h

theorem load_loads {k : Kind} (p : Ptr k) :
    Loads (ε := ε) ((native core).load p) ((collected core).load p) := by
  induction p with
  | object n => exact loadObject_loads _ n
  | vtx block i =>
    refine Simulation.bind (loadObject_loads .block block) fun stored stored' => ?_
    rintro m c ⟨rfl, h, hrefs, hcoherent⟩
    rw [Prog.lift_run, Prog.lift_run, Runtime.subscript]
    cases ht : stored.vtx[i]? with
    | none => rfl
    | some t =>
      have hmem : t ∈ stored.vtx := List.mem_of_getElem? ht
      refine ⟨rfl, h, fun u hu => ?_, Refer.lt_length hcoherent hmem⟩
      obtain rfl := List.mem_singleton.mp hu
      exact hrefs _ hmem
  | vout tx i =>
    refine Simulation.bind (Agree.deref tx) fun value value' => ?_
    rintro m c ⟨rfl, h⟩
    rw [Prog.lift_run, Prog.lift_run, Vec.get]
    cases (core.vout value).toList[i]? with
    | none => rfl
    | some out => exact ⟨rfl, h, fun _ hu => absurd hu List.not_mem_nil, trivial⟩
  | scriptPubKey out ih =>
    refine Simulation.bind ih.alike fun value value' => ?_
    rintro m c ⟨rfl, h⟩
    exact ⟨rfl, h, fun _ hu => absurd hu List.not_mem_nil, trivial⟩

theorem get_loads {k : Kind} (self : Option (Ptr k)) :
    Loads (ε := ε) ((native core).get self) ((collected core).get self) := by
  cases self with
  | none => exact Simulation.fault .nullDeref
  | some p => exact load_loads p

end

/-- An object is made of what the function holds, or the function still holds it. -/
theorem create_simulates (ok : Bool) (k : Kind) (x : CppType core k) :
    Simulation
      (fun m c => Agree (Object.refs ⟨k, x⟩ : Multiset Nat) m c ∧
        Object.Coherent c.transactions ⟨k, x⟩)
      ((native core).create ok k x) ((collected core).create ok k x)
      ⟨fun p q m c => p = q ∧ Agree 0 m c, fun _ => Agree (Object.refs ⟨k, x⟩ : Multiset Nat)⟩ := by
  rintro m c ⟨h, hcoherent⟩
  cases ok with
  | false => exact ⟨rfl, h⟩
  | true =>
    rw [← add_zero (Object.refs ⟨k, x⟩ : Multiset Nat)] at h
    show Both.holds _ (((native core).new ⟨k, x⟩ >>= fun n => pure (some (Ptr.object n))) m)
      (((collected core).new ⟨k, x⟩ >>= fun n => pure (some (Ptr.object n))) c)
    refine Simulation.bind (Agree.new ⟨k, x⟩) (fun n n' => ?_) m c ⟨h, hcoherent⟩
    rintro m₁ c₁ ⟨rfl, h₁, -⟩
    exact ⟨rfl, h₁⟩

theorem collected_shareAll {ε : Type} (ts : List Nat) (c : Collected core) :
    ((collected core).shareAll ts : Prog _ ε Unit) c = (.returns (), c) := by
  induction ts with
  | nil => rfl
  | cons t ts ih => exact ih

theorem collected_releaseAll {ε : Type} (ts : List Nat) (c : Collected core) :
    ((collected core).releaseAll ts : Prog _ ε Unit) c = (.returns (), c) := by
  induction ts with
  | nil => rfl
  | cons t ts ih => exact ih

theorem copyBody_alike (ok : Bool) {k : Kind} (self : Option (Ptr k)) :
    Alike ((native core).copyBody ok self) ((collected core).copyBody ok self) := by
  refine Simulation.bind (get_loads self) fun x x' => ?_
  rintro m c ⟨rfl, h, hrefs, hcoherent⟩
  cases ok with
  | false => exact ⟨rfl, h⟩
  | true =>
    have hmem : ∀ t ∈ Object.refs ⟨k, x⟩, t ∈ 0 + objectRefs m.objects := by
      rwa [zero_add]
    obtain ⟨m₁, hrun, -, h₁⟩ := Agree.shareAll_run Exception h hmem
    have hok : ∀ {σ : Type} (s : σ),
        (Prog.lift (allocate true ()) : Prog σ Exception Unit) s = (.returns (), s) := fun _ => rfl
    rw [Prog.bind_of_returns (hok m), Prog.bind_of_returns (hok c), Prog.bind_of_returns hrun,
      Prog.bind_of_returns (collected_shareAll _ c)]
    refine Simulation.bind (Agree.new ⟨k, x⟩) (fun n n' => ?_) m₁ c ⟨h₁, hcoherent⟩
    rintro m₂ c₂ ⟨rfl, h₂, -⟩
    exact ⟨rfl, h₂⟩

/-- An object that is deleted gives its references up first. -/
theorem free_alike {ε : Type} {k : Kind} (self : Option (Ptr k)) :
    Alike (ε := ε) ((native core).free self) ((collected core).free self) := by
  rcases self with _ | p
  · exact Alike.pure ()
  · cases p with
    | object n =>
      refine Simulation.bind (loadObject_simulates k n) fun x x' => ?_
      rintro m c ⟨rfl, h, hn⟩
      have hlive : (m.objects.cell n).isSome := by rw [hn]; rfl
      have hlive' : (c.objects.cell n).isSome := h.objects ▸ hlive
      -- the references of the object are counted with the others
      have htotal : objectRefs m.objects
          = (Object.refs ⟨k, x⟩ : Multiset Nat) + objectRefs (m.objects.drop n hlive) :=
        Heap.total_drop _ hn hlive
      have hcounts := h.counts
      rw [zero_add, htotal] at hcounts
      obtain ⟨heap, hrun, hnext, hcounts, hkeep⟩ := releaseAll_counts ε hcounts
      have hdelete : ((native core).delete n : Prog _ ε Unit) { m with transactions := heap }
          = (.returns (), { m with objects := m.objects.drop n hlive, transactions := heap }) :=
        Prog.within_run Native.objectsPart (Heap.free_of_live hlive)
      have hdelete' : ((collected core).delete n : Prog _ ε Unit) c
          = (.returns (), { c with objects := c.objects.drop n hlive' }) :=
        Prog.within_run Collected.objectsPart (Heap.free_of_live hlive')
      rw [Prog.bind_of_returns hrun, Prog.bind_of_returns (collected_releaseAll _ c), hdelete,
        hdelete']
      refine ⟨rfl, ?_, h.errors, hnext.trans h.next, ?_, h.value_of_unchanged hkeep, ?_⟩
      · simp only [h.objects]
      · rwa [zero_add]
      · intro n' o hn'
        exact h.coherent (@Heap.cell_of_drop _ _ _ _ hlive _ hn')
    | vtx => exact Alike.lift (.faults .undefined)
    | vout => exact Alike.lift (.faults .undefined)
    | scriptPubKey => exact Alike.lift (.faults .undefined)

/-! ### The functions that create -/

/-- Transactions are made after those in `olds`, which `done` refers to. -/
theorem makeAll_simulates {ε : Type} : ∀ (txs : List core.CTransaction) {L : Multiset Nat}
    (done : List Nat) (olds : List core.CTransaction),
    Simulation (fun m c => Agree L m c ∧ Refer c.transactions done olds)
      ((native core).makeAll txs : Prog _ ε _) ((collected core).makeAll txs)
      ⟨fun ts ts' m c => ts = ts' ∧ Agree ((ts : Multiset Nat) + L) m c ∧
        Refer c.transactions (done ++ ts) (olds ++ txs), fun _ _ _ => False⟩ := by
  intro txs
  induction txs with
  | nil =>
    rintro L done olds m c ⟨h, hdone⟩
    refine ⟨rfl, ?_, ?_⟩
    · rwa [Multiset.coe_nil, zero_add]
    · rwa [List.append_nil, List.append_nil]
  | cons tx txs ih =>
    rintro L done olds m c ⟨h, hdone⟩
    obtain ⟨hnext, h₁, -⟩ := @Agree.makeShared _ _ ε (fun _ _ _ => False) tx m c h
    have hdone₁ := hdone.snoc tx
    rw [← h.next] at hdone₁
    show Both.holds _
      (((native core).makeAll txs >>= fun ts => pure (m.transactions.next :: ts)) _)
      (((collected core).makeAll txs >>= fun ts => pure (c.transactions.length :: ts)) _)
    refine Simulation.bind (ih _ _) (fun ts ts' => ?_) _ _ ⟨h₁, hdone₁⟩
    rintro m₂ c₂ ⟨rfl, h₂, hdone₂⟩
    refine ⟨by rw [h.next], ?_, ?_⟩
    · rwa [← Multiset.cons_coe, Multiset.cons_add, ← Multiset.add_cons]
    · rwa [List.append_assoc, List.append_assoc] at hdone₂

/-- A transaction that no object took over goes with the function. -/
theorem transactionNewBody_alike (alloc : Nat → Bool) (raw : Bytes) :
    Alike (Runtime.Transaction.newBody (native core) alloc raw)
      (Runtime.Transaction.newBody (collected core) alloc raw) := by
  refine (Alike.lift _).bind fun value => ?_
  refine Simulation.bind (Agree.makeShared value) fun t t' => ?_
  rintro m c ⟨rfl, h, htx⟩
  have hcoherent : Object.Coherent c.transactions ⟨.transaction, t⟩ :=
    (List.getElem?_eq_some_iff.mp htx).1
  refine (create_simulates (alloc 2) .transaction t).onThrow (fun e m c h => ?_) m c ⟨h, hcoherent⟩
  have hlocal : Agree (t ::ₘ 0) m c := h
  obtain ⟨m', hrun, -, h'⟩ := Agree.release_run Empty hlocal
  exact ⟨m', c, hrun, rfl, h'⟩

theorem createMoved_alike (ok : Bool) (block : core.CBlock) :
    Alike (Runtime.Block.createMoved (native core) ok block)
      (Runtime.Block.createMoved (collected core) ok block) := by
  have hmake : Simulation (Agree 0)
      ((native core).makeAll (core.vtx block).toList : Prog _ Exception _)
      ((collected core).makeAll (core.vtx block).toList)
      ⟨fun ts ts' m c => ts = ts' ∧ Agree ((ts : Multiset Nat) + 0) m c ∧
        Refer c.transactions ts (core.vtx block).toList, fun _ => Agree 0⟩ :=
    (makeAll_simulates _ [] []).imp (fun _ _ h => ⟨h, rfl⟩)
      (fun _ _ _ _ h => h) fun _ _ _ h => h.elim
  refine Simulation.bind hmake fun ts ts' => ?_
  rintro m c ⟨rfl, h, hcoherent⟩
  rw [add_zero] at h
  have hcreate : Simulation _ ((native core).create ok .block ⟨block, ts⟩) _ _ :=
    create_simulates ok .block ⟨block, ts⟩
  refine hcreate.onThrow (fun e m c h => ?_) m c ⟨h, hcoherent⟩
  have hlocal : Agree ((ts : Multiset Nat) + 0) m c := by rwa [add_zero]
  obtain ⟨m', hrun, -, h'⟩ := Agree.releaseAll_run Empty hlocal
  exact ⟨m', c, hrun, collected_releaseAll ts c, h'⟩

/-! ### Programs -/

theorem congruent_alike : Congruent (native core) (collected core) Alike where
  pure := Alike.pure
  lift := Alike.lift
  bind := Alike.bind
  catchAll := Alike.catchAll
  onOther := Alike.onOther
  onErrors := Alike.onErrors
  deref := Agree.deref
  load p := (load_loads p).alike
  createScript ok script m c h := create_simulates ok .scriptPubkey script m c ⟨h, trivial⟩
  createOutput ok out m c h := create_simulates ok .transactionOutput out m c ⟨h, trivial⟩
  transactionNew := transactionNewBody_alike
  createMoved := createMoved_alike
  copyBody := copyBody_alike
  free := free_alike

/-- The outcomes of functions that do the same are the same. -/
theorem Alike.outcome_eq {ε α : Type} {x : Prog (Native core) ε α} {y : Prog (Collected core) ε α}
    (hxy : Alike x y) {m : Native core} {c : Collected core} (h : Agree 0 m c) :
    (x m).1 = (y c).1 := by
  have hend := hxy m c h
  rcases hrun : x m with ⟨out, m'⟩
  rcases hrun' : y c with ⟨out', c'⟩
  rw [hrun, hrun'] at hend
  cases out with
  | returns a =>
    cases out' with
    | returns b => exact congrArg Outcome.returns hend.1
    | throws _ => exact hend.elim
    | faults _ => exact hend.elim
  | throws e =>
    cases out' with
    | returns _ => exact hend.elim
    | throws e' => exact congrArg Outcome.throws hend.1
    | faults _ => exact hend.elim
  | faults u =>
    cases out' with
    | returns _ => exact hend.elim
    | throws _ => exact hend.elim
    | faults u' => exact congrArg Outcome.faults hend

/-- Functions that do the same keep the two memories alike. -/
theorem Alike.agree {ε α : Type} {x : Prog (Native core) ε α} {y : Prog (Collected core) ε α}
    (hxy : Alike x y) {m m' : Native core} {c : Collected core} (h : Agree 0 m c) {a : α}
    (hrun : x m = (.returns a, m')) : ∃ c', y c = (.returns a, c') ∧ Agree 0 m' c' := by
  have hend := hxy m c h
  rw [hrun] at hend
  rcases hrun' : y c with ⟨out', c'⟩
  rw [hrun'] at hend
  cases out' with
  | returns b =>
    obtain ⟨rfl, h'⟩ := hend
    exact ⟨c', rfl, h'⟩
  | throws _ => exact hend.elim
  | faults _ => exact hend.elim

variable {υ : Type}

/-- **To count references is as good as to collect garbage**: a program gets the same replies from
both, and does what is not defined in the same call. -/
theorem run_eq_collected (calls : List (Call core υ)) (errors : Memory) :
    (run (native core) calls (Native.empty errors)).1
      = (run (collected core) calls (Collected.empty errors)).1 :=
  (congruent_alike.run calls).outcome_eq (Agree.empty errors)

end Btck
