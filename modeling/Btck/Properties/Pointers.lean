import Btck.Infra.Triple
import Btck.Minimal
import Btck.Properties.Sharing

/-!
# How long a pointer is good, and what is left at the end

A `Get` function returns a pointer into memory that somebody else owns. How long it can be used
follows from what `Btck.Properties.Sharing` says about references, and from this: nothing in the
memory of the library changes between the time that it is made and the time that it is gone.

* `Runtime.Within` — what a program can do to memory is what the operations of the runtime can do
* `Native.Later` — memory after a program
* `Native.Alive` — the pointers that are good, without a word about counts
* `read?_later` — what a pointer reads, it reads as long as it is good
* `transactions_freed`, `restored_of_null` — what is left in memory
-/

namespace Btck

open Infra

variable {core : BitcoinCore}

/-! ## What a program can do to memory -/

/-- No operation of the runtime does more to memory than `R` allows. -/
structure Runtime.Within {σ : Type} (rt : Runtime core σ) (R : σ → σ → Prop) : Prop where
  new : ∀ {ε : Type} (o : Object core), Advances R (rt.new o : Prog σ ε Nat)
  read : ∀ {ε : Type} (n : Nat), Advances R (rt.read n : Prog σ ε (Object core))
  delete : ∀ {ε : Type} (n : Nat), Advances R (rt.delete n : Prog σ ε Unit)
  makeShared : ∀ {ε : Type} (tx : core.CTransaction), Advances R (rt.makeShared tx : Prog σ ε Nat)
  deref : ∀ {ε : Type} (t : Nat), Advances R (rt.deref t : Prog σ ε core.CTransaction)
  share : ∀ {ε : Type} (t : Nat), Advances R (rt.share t : Prog σ ε Unit)
  release : ∀ {ε : Type} (t : Nat), Advances R (rt.release t : Prog σ ε Unit)
  errors : ∀ s e, R s (rt.errors.set s e)

section

variable {σ : Type} {rt : Runtime core σ} {R : σ → σ → Prop} [IsPreorder σ R] {ε : Type}

/-- To read does no more than the two operations that read. -/
theorem load_advances (hread : ∀ n, Advances R (rt.read n : Prog σ ε _))
    (hderef : ∀ t, Advances R (rt.deref t : Prog σ ε _)) {k : Kind} (p : Ptr k) :
    Advances R (rt.load p : Prog σ ε (CppType core k)) := by
  have hobject : ∀ (k : Kind) (n : Nat), Advances R (rt.loadObject k n : Prog σ ε _) := by
    intro k n
    refine (hread n).bind fun o => ?_
    cases o.as? k with
    | none => exact Advances.fault .undefined
    | some x => exact Advances.pure x
  induction p with
  | object n => exact hobject _ n
  | vtx block i => exact (hobject .block block).bind fun _ => Advances.lift _
  | vout tx i => exact (hderef tx).bind fun _ => Advances.lift _
  | scriptPubKey out ih => exact ih.bind fun value => Advances.pure value.scriptPubKey

theorem get_advances (hread : ∀ n, Advances R (rt.read n : Prog σ ε _))
    (hderef : ∀ t, Advances R (rt.deref t : Prog σ ε _)) {k : Kind} (self : Option (Ptr k)) :
    Advances R (rt.get self : Prog σ ε (CppType core k)) := by
  cases self with
  | none => exact Advances.fault .nullDeref
  | some p => exact load_advances hread hderef p

end

namespace Runtime.Within

variable {σ : Type} {rt : Runtime core σ} {R : σ → σ → Prop} [IsPreorder σ R] {ε : Type}

open Advances

theorem shareAll (h : rt.Within R) :
    ∀ ts : List Nat, Advances R (rt.shareAll ts : Prog σ ε Unit) := by
  intro ts
  induction ts with
  | nil => exact pure ()
  | cons t ts ih => exact (h.share t).bind fun _ => ih

theorem releaseAll (h : rt.Within R) :
    ∀ ts : List Nat, Advances R (rt.releaseAll ts : Prog σ ε Unit) := by
  intro ts
  induction ts with
  | nil => exact pure ()
  | cons t ts ih => exact (h.release t).bind fun _ => ih

theorem makeAll (h : rt.Within R) :
    ∀ txs : List core.CTransaction, Advances R (rt.makeAll txs : Prog σ ε (List Nat)) := by
  intro txs
  induction txs with
  | nil => exact pure []
  | cons tx txs ih => exact (h.makeShared tx).bind fun t => ih.bind fun ts => pure (t :: ts)

theorem onOther {υ α : Type} (x : Prog υ ε α) (other : υ) :
    Advances R (Runtime.onOther x other : Prog σ ε (α × υ)) := by
  intro s
  unfold Runtime.onOther
  rcases x other with ⟨out, other'⟩
  cases out <;> exact refl_of R s

theorem load (h : rt.Within R) {k : Kind} (p : Ptr k) :
    Advances R (rt.load p : Prog σ ε (CppType core k)) :=
  load_advances h.read h.deref p

theorem get (h : rt.Within R) {k : Kind} (self : Option (Ptr k)) :
    Advances R (rt.get self : Prog σ ε (CppType core k)) :=
  get_advances h.read h.deref self

theorem create (h : rt.Within R) (ok : Bool) (k : Kind) (x : CppType core k) :
    Advances R (rt.create ok k x) :=
  (lift _).bind fun _ => (h.new _).bind fun _ => pure _

theorem copyBody (h : rt.Within R) (ok : Bool) {k : Kind} (self : Option (Ptr k)) :
    Advances R (rt.copyBody ok self) :=
  (h.get self).bind fun _ => (lift _).bind fun _ => (h.shareAll _).bind fun _ =>
    (h.new _).bind fun _ => pure _

theorem free (h : rt.Within R) {k : Kind} (self : Option (Ptr k)) :
    Advances R (rt.free self : Prog σ ε Unit) := by
  cases self with
  | none => exact pure ()
  | some p =>
    cases p with
    | object n =>
      exact (h.load (.object n)).bind fun _ => (h.releaseAll _).bind fun _ => h.delete n
    | vtx => exact fault .undefined
    | vout => exact fault .undefined
    | scriptPubKey => exact fault .undefined

theorem createMoved (h : rt.Within R) (ok : Bool) (block : core.CBlock) :
    Advances R (Runtime.Block.createMoved rt ok block) :=
  (h.makeAll _).bind fun vtx => (h.create ok .block _).onThrow (h.releaseAll vtx)

theorem congruent (h : rt.Within R) :
    Congruent rt rt (fun {ε α : Type} (x _ : Prog σ ε α) => Advances R x) where
  pure := pure
  lift := lift
  bind := bind
  catchAll := catchAll
  onOther := onOther
  onErrors _ := fun s => h.errors s _
  deref := h.deref
  load := h.load
  createScript ok := h.create ok .scriptPubkey
  createOutput ok := h.create ok .transactionOutput
  transactionNew alloc _ := (lift _).bind fun _ => (h.makeShared _).bind fun t =>
    (h.create (alloc 2) .transaction t).onThrow (h.release t)
  createMoved := h.createMoved
  copyBody := h.copyBody
  free := h.free

end Runtime.Within

/-! ## Memory after a program -/

/-- Objects and transactions are made once, stay as they are, and do not come back. -/
structure Native.Later (m m' : Native core) : Prop where
  objects : Heap.Later id m.objects m'.objects
  transactions : Heap.Later (·.value) m.transactions m'.transactions

namespace Native.Later

instance : IsPreorder (Native core) Native.Later where
  refl _ := ⟨refl_of _ _, refl_of _ _⟩
  trans _ _ _ h₁ h₂ :=
    ⟨trans_of _ h₁.objects h₂.objects, trans_of _ h₁.transactions h₂.transactions⟩

theorem onObjects {ε α : Type} {x : Prog (Heap (Object core)) ε α}
    (hx : Advances (Heap.Later id) x) : Advances Native.Later (Prog.within objectsPart x) :=
  hx.within fun _ _ h => ⟨h, refl_of _ _⟩

theorem onTransactions {ε α : Type} {x : Prog (Heap (Counted core.CTransaction)) ε α}
    (hx : Advances (Heap.Later (·.value)) x) :
    Advances Native.Later (Prog.within transactionsPart x) :=
  hx.within fun _ _ h => ⟨refl_of _ _, h⟩

theorem native_within : (native core).Within Native.Later where
  new o := onObjects fun h => Heap.Later.alloc h o
  read n := onObjects (Heap.Later.read n)
  delete n := onObjects (Heap.Later.free n)
  makeShared tx := onTransactions fun h => Heap.Later.alloc h (Counted.fresh tx)
  deref t := (onTransactions (Heap.Later.read t)).bind fun _ => Advances.pure _
  share t := onTransactions (Heap.Later.incref t)
  release t := onTransactions (Heap.Later.decref t)
  errors _ _ := ⟨refl_of _ _, refl_of _ _⟩

end Native.Later

/-! ## Reading -/

section

variable {ε : Type} {m m' : Native core}

theorem read_run (n : Nat) : ((native core).read n : Prog _ ε _) m
    = (match m.objects.cell n with
      | some o => .returns o
      | none => .faults .undefined, m) := by
  cases hn : m.objects.cell n with
  | none => exact Prog.within_run Native.objectsPart (Heap.read_of_dead hn)
  | some o => exact Prog.within_run Native.objectsPart (Heap.read_of_live hn)

theorem deref_run (t : Nat) : ((native core).deref t : Prog _ ε _) m
    = (match m.transactions.cell t with
      | some object => .returns object.value
      | none => .faults .undefined, m) := by
  cases ht : m.transactions.cell t with
  | none =>
    exact Prog.bind_of_faults (Prog.within_run Native.transactionsPart (Heap.read_of_dead ht)) _
  | some object =>
    exact Prog.bind_of_returns (Prog.within_run Native.transactionsPart (Heap.read_of_live ht)) _

/-- What is behind a pointer, if it is good. -/
def Native.read? (m : Native core) : {k : Kind} → Ptr k → Option (CppType core k)
  | k, .object n => (m.objects.cell n).bind (Object.as? k)
  | _, .vtx block i => ((m.objects.cell block).bind (Object.as? .block)).bind (·.vtx[i]?)
  | _, .vout tx i => (m.transactions.cell tx).bind fun object => (core.vout object.value).toList[i]?
  | _, .scriptPubKey out => (m.read? out).map (·.scriptPubKey)

/-- What an option is read as: a value, or a fault. -/
def behind {α : Type} : Option α → Outcome ε α
  | some x => .returns x
  | none => .faults .undefined

theorem loadObject_run (k : Kind) (n : Nat) : ((native core).loadObject k n : Prog _ ε _) m
    = (behind (m.read? (.object n : Ptr k)), m) := by
  rw [Native.read?]
  cases hn : m.objects.cell n with
  | none =>
    have hread : ((native core).read n : Prog _ ε _) m = (.faults .undefined, m) := by
      rw [read_run, hn]
    exact Prog.bind_of_faults hread _
  | some o =>
    have hread : ((native core).read n : Prog _ ε _) m = (.returns o, m) := by rw [read_run, hn]
    rw [Runtime.loadObject, Prog.bind_of_returns hread, Option.bind_some]
    cases o.as? k <;> rfl

theorem load_run {k : Kind} (p : Ptr k) :
    ((native core).load p : Prog _ ε _) m = (behind (m.read? p), m) := by
  induction p with
  | object n => exact loadObject_run _ n
  | vtx block i =>
    have hblock := @loadObject_run _ ε m .block block
    rw [Runtime.load, Native.read?]
    rw [Native.read?] at hblock
    cases hstored : (m.objects.cell block).bind (Object.as? .block) with
    | none =>
      rw [hstored] at hblock
      exact Prog.bind_of_faults hblock _
    | some stored =>
      rw [hstored] at hblock
      rw [Prog.bind_of_returns hblock, Option.bind_some]
      show (Runtime.subscript stored.vtx i, m) = _
      unfold Runtime.subscript
      cases stored.vtx[i]? <;> rfl
  | vout tx i =>
    have hderef := @deref_run _ ε m tx
    rw [Runtime.load, Native.read?]
    cases hcell : m.transactions.cell tx with
    | none =>
      rw [hcell] at hderef
      exact Prog.bind_of_faults hderef _
    | some object =>
      rw [hcell] at hderef
      rw [Prog.bind_of_returns hderef, Option.bind_some]
      show ((core.vout object.value).get i, m) = _
      unfold Vec.get
      cases (core.vout object.value).toList[i]? <;> rfl
  | scriptPubKey out ih =>
    rw [Runtime.load, Native.read?]
    cases hout : m.read? out with
    | none =>
      rw [hout] at ih
      exact Prog.bind_of_faults ih _
    | some value =>
      rw [hout] at ih
      exact Prog.bind_of_returns ih _

end

/-! ## The pointers that are good -/

/--
A pointer into a block or to an object is good as long as this has not been freed. A pointer into a
transaction is good as long as somebody's object refers to the transaction.
-/
def Native.Alive (m : Native core) : {k : Kind} → Ptr k → Prop
  | _, .object n => (m.objects.cell n).isSome
  | _, .vtx block _ => (m.objects.cell block).isSome
  | _, .vout tx _ => ∃ n o, m.objects.cell n = some o ∧ tx ∈ o.refs
  | _, .scriptPubKey out => m.Alive out

/-- An object that is still there is the one that was there. -/
theorem Native.Later.object_eq {m m' : Native core} (h : m.Later m') {n : Nat} {o : Object core}
    (hn : m.objects.cell n = some o) (hlive : (m'.objects.cell n).isSome) :
    m'.objects.cell n = some o := by
  have hlt : n < m.objects.next := Heap.lt_next_of_isSome (by rw [hn]; rfl)
  have hsame := h.objects.same n hlt hlive
  rwa [Option.map_id, hn] at hsame

theorem Native.Later.transaction_eq {m m' : Native core} (h : m.Later m') {t : Nat}
    {object object' : Counted core.CTransaction} (ht : m.transactions.cell t = some object)
    (ht' : m'.transactions.cell t = some object') : object'.value = object.value := by
  have hlt : t < m.transactions.next := Heap.lt_next_of_isSome (by rw [ht]; rfl)
  have hsame := h.transactions.same t hlt (by rw [ht']; rfl)
  rw [ht, ht'] at hsame
  exact Option.some.inj hsame

/-- What a pointer reads, it reads as long as it is good. -/
theorem read?_later {m m' : Native core} {c' : Collected core} (hl : m.Later m')
    (h' : Agree 0 m' c') {k : Kind} (p : Ptr k) {x : CppType core k} (hx : m.read? p = some x) :
    (m'.Alive p → m'.read? p = some x) ∧ (¬ m'.Alive p → m'.read? p = none) := by
  induction p with
  | object n =>
    obtain ⟨o, ho, hox⟩ := Option.bind_eq_some_iff.mp hx
    constructor
    · intro halive
      rw [Native.read?, hl.object_eq ho halive, Option.bind_some, hox]
    · intro hdead
      rw [Native.read?, Option.not_isSome_iff_eq_none.mp hdead, Option.bind_none]
  | vtx block i =>
    obtain ⟨stored, hstored, hi⟩ := Option.bind_eq_some_iff.mp hx
    obtain ⟨o, ho, hos⟩ := Option.bind_eq_some_iff.mp hstored
    constructor
    · intro halive
      rw [Native.read?, hl.object_eq ho halive, Option.bind_some, hos, Option.bind_some, hi]
    · intro hdead
      rw [Native.read?, Option.not_isSome_iff_eq_none.mp hdead, Option.bind_none, Option.bind_none]
  | vout tx i =>
    obtain ⟨object, hobject, hi⟩ := Option.bind_eq_some_iff.mp hx
    have hiff : m'.Alive (.vout tx i) ↔ (m'.transactions.cell tx).isSome := by
      rw [h'.counts.live_iff, zero_add, mem_objectRefs]
      rfl
    rw [hiff, Native.read?]
    constructor
    · intro halive
      obtain ⟨object', hobject'⟩ := Option.isSome_iff_exists.mp halive
      rw [hobject', Option.bind_some, hl.transaction_eq hobject hobject', hi]
    · intro hdead
      rw [Option.not_isSome_iff_eq_none.mp hdead, Option.bind_none]
  | scriptPubKey out ih =>
    obtain ⟨value, hvalue, rfl⟩ := Option.map_eq_some_iff.mp hx
    obtain ⟨halive, hdead⟩ := ih hvalue
    rw [Native.read?]
    constructor
    · intro h
      rw [halive h, Option.map_some]
    · intro h
      rw [hdead h, Option.map_none]

/-! ## Functions that create an object, or leave memory as it was -/

section

variable {α β : Type} {k : Kind}

/-- The function returns a new object. When it throws, the objects are the same as before. -/
def Creates (x : Prog (Native core) Exception (Option (Ptr k))) : Prop :=
  ∀ o, Triple (fun m => m.objects = o) x
    ⟨fun p m => ∃ y, p = some (.object o.next) ∧ m.objects = o.alloc ⟨k, y⟩,
      fun _ m => m.objects = o, fun _ _ => True⟩

namespace Creates

theorem bind {x : Prog (Native core) Exception β}
    {f : β → Prog (Native core) Exception (Option (Ptr k))}
    (hx : Advances (Same Native.objects) x) (hf : ∀ b, Creates (f b)) : Creates (x >>= f) := by
  intro o
  have hfirst : Triple (fun m => m.objects = o) x
      ⟨fun _ m => m.objects = o, fun _ m => m.objects = o, fun _ _ => True⟩ := by
    intro m hm
    have hsame : (x m).2.objects = m.objects := hx m
    rcases hrun : x m with ⟨out, m'⟩
    rw [hrun] at hsame
    cases out with
    | returns b => exact hsame.trans hm
    | throws e => exact hsame.trans hm
    | faults u => trivial
  exact hfirst.bind fun b => hf b o

theorem onThrow {x : Prog (Native core) Exception (Option (Ptr k))}
    {cleanup : Prog (Native core) Empty Unit} (hx : Creates x)
    (hc : Advances (Same Native.objects) cleanup) : Creates (Prog.onThrow x cleanup) := by
  intro o m hm
  have hend := hx o m hm
  rcases hrun : x m with ⟨out, m'⟩
  rw [hrun] at hend
  cases out with
  | returns p =>
    rw [Prog.onThrow_of_returns hrun]
    exact hend
  | throws e =>
    have hsame : (cleanup m').2.objects = m'.objects := hc m'
    rcases hclean : cleanup m' with ⟨out', m''⟩
    rw [hclean] at hsame
    cases out' with
    | returns u =>
      rw [Prog.onThrow_of_throws hrun hclean]
      exact hsame.trans hend
    | throws e' => exact e'.elim
    | faults u =>
      have hfault : Prog.onThrow x cleanup m = (.faults u, m'') := by
        simp only [Prog.onThrow, Prog.catchAll_of_throws hrun]
        exact Prog.bind_of_faults (by simp [Prog.noThrow, hclean, Outcome.noThrow]) _
      rw [hfault]
      trivial
  | faults u =>
    rw [Prog.onThrow_of_faults hrun]
    trivial

theorem create (ok : Bool) (k : Kind) (x : CppType core k) :
    Creates ((native core).create ok k x) := by
  intro o m hm
  cases ok with
  | false => exact hm
  | true => exact ⟨x, by rw [← hm]; rfl, by rw [← hm]; rfl⟩

theorem shareAll {ε : Type} : ∀ ts : List Nat,
    Advances (Same Native.objects) ((native core).shareAll ts : Prog _ ε Unit) := by
  intro ts
  induction ts with
  | nil => exact Advances.pure ()
  | cons t ts ih => exact Advances.bind (fun _ => rfl) fun _ => ih

theorem releaseAll {ε : Type} : ∀ ts : List Nat,
    Advances (Same Native.objects) ((native core).releaseAll ts : Prog _ ε Unit) := by
  intro ts
  induction ts with
  | nil => exact Advances.pure ()
  | cons t ts ih => exact Advances.bind (fun _ => rfl) fun _ => ih

theorem makeAll {ε : Type} : ∀ txs : List core.CTransaction,
    Advances (Same Native.objects) ((native core).makeAll txs : Prog _ ε (List Nat)) := by
  intro txs
  induction txs with
  | nil => exact Advances.pure []
  | cons tx txs ih => exact Advances.bind (fun _ => rfl) fun t => ih.bind fun ts => Advances.pure _

theorem get {ε : Type} {k : Kind} (self : Option (Ptr k)) :
    Advances (Same Native.objects) ((native core).get self : Prog _ ε (CppType core k)) := by
  cases self with
  | none => exact Advances.fault .nullDeref
  | some p =>
    intro m
    show ((native core).load p m).2.objects = m.objects
    rw [load_run]

theorem copyBody (ok : Bool) {k : Kind} (self : Option (Ptr k)) :
    Creates ((native core).copyBody ok self) := by
  refine bind (get self) fun x => bind (Advances.lift _) fun _ => bind (shareAll _) fun _ => ?_
  rintro o m rfl
  exact ⟨x, rfl, rfl⟩

theorem createMoved (ok : Bool) (block : core.CBlock) :
    Creates (Runtime.Block.createMoved (native core) ok block) :=
  bind (makeAll _) fun vtx => (create ok .block _).onThrow (releaseAll vtx)

theorem transactionNewBody (alloc : Nat → Bool) (raw : Bytes) :
    Creates (Runtime.Transaction.newBody (native core) alloc raw) :=
  bind (Advances.lift _) fun _ => bind (fun _ => rfl) fun t =>
    (create (alloc 2) .transaction t).onThrow fun _ => rfl

/--
The function of the library returns the new object. When its body threw, it returns null, with an
error if there is a place for one, and the objects are the same as before.
-/
theorem wrapFn {ε : Type} {x : Prog (Native core) Exception (Option (Ptr k))} (hx : Creates x)
    {err : Bool} {m m' : Native core} {p : Option (Ptr k)} {e : Option ErrorPtr}
    (hrun : ((native core).wrapFn err x : Prog _ ε _) m = (.returns (p, e), m')) :
    (∃ y, p = some (.object m.objects.next) ∧ e = none ∧
      m'.objects = m.objects.alloc ⟨k, y⟩) ∨
    (p = none ∧ e.isSome = err ∧ m'.objects = m.objects) := by
  have hend := hx m.objects m rfl
  rcases hbody : x m with ⟨out, m₁⟩
  rw [hbody] at hend
  cases out with
  | returns q =>
    have hwrap : ((native core).wrapFn err x : Prog _ ε _) m = (.returns (q, none), m₁) :=
      Prog.catchAll_of_returns (Prog.bind_of_returns hbody _) _
    rw [hrun] at hwrap
    cases hwrap
    obtain ⟨y, hp, hobjects⟩ := hend
    exact .inl ⟨y, hp, rfl, hobjects⟩
  | throws ex =>
    have hwrap : ((native core).wrapFn err x : Prog _ ε _) m = _ :=
      Prog.catchAll_of_throws (Prog.bind_of_throws hbody _) _
    rw [hrun] at hwrap
    cases err with
    | false =>
      cases hwrap
      exact .inr ⟨rfl, rfl, hend⟩
    | true =>
      obtain ⟨q, m₂, herrors, hpure⟩ := Prog.bind_eq_returns.mp hwrap.symm
      have hobjects : m₂.objects = m₁.objects := congrArg (fun r => r.2.objects) herrors.symm
      cases hpure
      exact .inr ⟨rfl, rfl, hobjects.trans hend⟩
  | faults u =>
    have hwrap : ((native core).wrapFn err x : Prog _ ε _) m = (.faults u, m₁) := by
      simp only [Runtime.wrapFn, Prog.catchAll, Prog.bind_of_faults hbody]
    rw [hrun] at hwrap
    cases hwrap

theorem scriptPubkeyNewBody (alloc : Nat → Bool) (raw : Bytes) :
    Creates (Runtime.ScriptPubkey.newBody (native core) alloc raw) :=
  create (alloc 0) .scriptPubkey raw

theorem transactionOutputNewBody (alloc : Nat → Bool) (amount : Int64)
    (scriptPubkey : Option (Ptr .scriptPubkey)) :
    Creates (Runtime.TransactionOutput.newBody (native core) alloc amount scriptPubkey) :=
  bind (get scriptPubkey) fun _ => create (alloc 0) .transactionOutput _

theorem blockNewBody (alloc : Nat → Bool) (raw : Bytes) :
    Creates (Runtime.Block.newBody (native core) alloc raw) :=
  bind (Advances.lift _) fun block => createMoved (alloc 1) block

theorem getBlockBody (self : ChainstateManager core) (alloc : Nat → Bool) (idx : UInt64) :
    Creates (Runtime.Chain.getBlockBody (native core) self alloc idx) :=
  bind (Advances.lift _) fun block => createMoved (alloc 0) block

/-- A function that returns null has left the objects as they were. -/
theorem objects_of_null {ε : Type} {x : Prog (Native core) Exception (Option (Ptr k))}
    (hx : Creates x) {err : Bool} {m m' : Native core} {e : Option ErrorPtr}
    (hrun : ((native core).wrapFn err x : Prog _ ε _) m = (.returns (none, e), m')) :
    m'.objects = m.objects := by
  obtain ⟨y, hp, -, -⟩ | ⟨-, -, hobjects⟩ := hx.wrapFn hrun
  · cases hp
  · exact hobjects

end Creates

/-- To free an object takes it out, and no other. -/
theorem objects_of_free {ε : Type} {i : Nat} {m m' : Native core}
    (hrun : ((native core).free (some (.object i : Ptr k)) : Prog _ ε Unit) m = (.returns (), m')) :
    ∃ hl, m'.objects = m.objects.drop i hl := by
  obtain ⟨x, m₁, hload, hrest⟩ := Prog.bind_eq_returns.mp hrun
  have hm₁ : m₁ = m := by
    have hrun' := loadObject_run (ε := ε) (m := m) k i
    rw [hload] at hrun'
    exact congrArg Prod.snd hrun'
  obtain ⟨u, m₂, hrelease, hdelete⟩ := Prog.bind_eq_returns.mp hrest
  have hm₂ : m₂.objects = m.objects := by
    have hsame := Creates.releaseAll (ε := ε) (Object.refs ⟨k, x⟩) m₁
    rw [hrelease, hm₁] at hsame
    exact hsame
  have hcell : ((Heap.free i : Prog _ ε Unit) m₂.objects).1 = .returns () :=
    congrArg Prod.fst hdelete
  have hobjects : ((Heap.free i : Prog _ ε Unit) m₂.objects).2 = m'.objects :=
    congrArg (·.2.objects) hdelete
  rw [hm₂] at hcell hobjects
  by_cases hl : (m.objects.cell i).isSome
  · rw [Heap.free_of_live hl] at hobjects
    exact ⟨hl, hobjects.symm⟩
  · rw [Heap.free, dif_neg hl] at hcell
    cases hcell

end

/-! ## Programs -/

section

variable {υ : Type} {calls calls' : List (Call core υ)} {errors : Memory}
  {replies replies' : List (Reply Ptr υ)} {m m' : Native core}

/-- Memory in the course of a program is related to memory that is collected. -/
theorem agree_of_run (h : run (native core) calls (Native.empty errors) = (.returns replies, m)) :
    ∃ c, Agree 0 m c := by
  obtain ⟨c, -, hagree⟩ := (congruent_alike.run calls).agree (Agree.empty errors) h
  exact ⟨c, hagree⟩

/-- Memory that follows is related too, and is later. -/
theorem later_of_run {c : Collected core} (hc : Agree 0 m c)
    (h : run (native core) calls m = (.returns replies, m')) :
    m.Later m' ∧ ∃ c', Agree 0 m' c' := by
  have hlater : m.Later (run (native core) calls m).2 :=
    Native.Later.native_within.congruent.run calls m
  rw [h] at hlater
  obtain ⟨c', -, hagree⟩ := (congruent_alike.run calls).agree hc h
  exact ⟨hlater, c', hagree⟩

/--
**No transaction is lost.** At any time in a program, a transaction that some object refers to has
not been freed, and every other transaction that was ever made has been freed exactly once.
-/
theorem transactions_freed
    (h : run (native core) calls (Native.empty errors) = (.returns replies, m)) {t : Nat}
    (ht : t < m.transactions.next) :
    (∃ n o, m.objects.cell n = some o ∧ t ∈ o.refs) ∧ m.transactions.freed.count t = 0 ∨
    (¬ ∃ n o, m.objects.cell n = some o ∧ t ∈ o.refs) ∧ m.transactions.freed.count t = 1 := by
  obtain ⟨c, hc⟩ := agree_of_run h
  have hlive : (m.transactions.cell t).isSome ↔ ∃ n o, m.objects.cell n = some o ∧ t ∈ o.refs := by
    rw [hc.counts.live_iff, zero_add, mem_objectRefs]
  rw [← hlive]
  by_cases hcell : (m.transactions.cell t).isSome
  · refine .inl ⟨hcell, List.count_eq_zero_of_not_mem fun hfreed => ?_⟩
    rw [((m.transactions.mem_freed t).mp hfreed).2] at hcell
    cases hcell
  · refine .inr ⟨hcell, List.count_eq_one_of_mem m.transactions.nodup ?_⟩
    exact (m.transactions.mem_freed t).mpr ⟨ht, Option.not_isSome_iff_eq_none.mp hcell⟩

/-- A transaction with one output is read. -/
def readSpend (alloc : Nat → Bool) : Call minimalCore Unit :=
  .transactionNew alloc MinimalTx.spend.encoding false

def spendMemory : Native minimalCore :=
  ((readSpend fun _ => true).run (native minimalCore) (Native.empty (Heap.empty []))).2

theorem spendMemory_run :
    run (native minimalCore) [readSpend fun _ => true] (Native.empty (Heap.empty []))
      = (.returns [.created .transaction (some (.object 0)) none], spendMemory) := rfl

theorem transactions_freed_spend :
    (∃ n o, spendMemory.objects.cell n = some o ∧ 0 ∈ o.refs) ∧
        spendMemory.transactions.freed.count 0 = 0 ∨
      (¬ ∃ n o, spendMemory.objects.cell n = some o ∧ 0 ∈ o.refs) ∧
        spendMemory.transactions.freed.count 0 = 1 :=
  transactions_freed spendMemory_run Nat.one_pos

theorem null_of_created {k k' : Kind}
    {x : Prog (Native core) Empty (Option (Ptr k) × Option ErrorPtr)} {e : Option ErrorPtr}
    (h : (x >>= fun r => pure (Reply.created k r.1 r.2) : Prog (Native core) Empty (Reply Ptr υ)) m
      = (.returns (.created k' none e), m')) : x m = (.returns (none, e), m') := by
  obtain ⟨⟨p, e'⟩, m₁, hrun, hpure⟩ := Prog.bind_eq_returns.mp h
  have hreply : Reply.created (υ := υ) k p e' = .created k' none e :=
    Outcome.returns.inj (congrArg Prod.fst hpure)
  have hm : m₁ = m' := congrArg Prod.snd hpure
  cases hreply
  rw [hrun, hm]

/-- The other calls return something else. -/
theorem not_created {α : Type} {k : Kind} {x : Prog (Native core) Empty α} {f : α → Reply Ptr υ}
    {e : Option ErrorPtr} (hf : ∀ a, f a ≠ .created k none e) :
    (x >>= fun a => pure (f a) : Prog (Native core) Empty (Reply Ptr υ)) m
      ≠ (.returns (.created k none e), m') := by
  intro h
  obtain ⟨a, m₁, -, hpure⟩ := Prog.bind_eq_returns.mp h
  exact hf a (Outcome.returns.inj (congrArg Prod.fst hpure))

/-- A call that returns null for a new object leaves the objects as they were. -/
theorem objects_of_null {call : Call core υ} {k : Kind} {e : Option ErrorPtr}
    (h : call.run (native core) m = (.returns (.created k none e), m')) :
    m'.objects = m.objects := by
  cases call with
  | scriptPubkeyNew alloc raw err =>
    exact (Creates.scriptPubkeyNewBody alloc raw).objects_of_null (null_of_created h)
  | transactionOutputNew alloc amount scriptPubkey err =>
    exact (Creates.transactionOutputNewBody alloc amount scriptPubkey).objects_of_null
      (null_of_created h)
  | transactionNew alloc raw err =>
    exact (Creates.transactionNewBody alloc raw).objects_of_null (null_of_created h)
  | blockNew alloc raw err =>
    exact (Creates.blockNewBody alloc raw).objects_of_null (null_of_created h)
  | chainGetBlock self alloc idx err =>
    exact (Creates.getBlockBody self alloc idx).objects_of_null (null_of_created h)
  | copy ok self err => exact (Creates.copyBody ok self).objects_of_null (null_of_created h)
  | scriptPubkeyToBytes | scriptPubkeyVerify | transactionOutputToString | transactionToBytes
  | transactionToString | blockToBytes | blockToString =>
    exact absurd h (not_created fun ⟨_, _⟩ => nofun)
  | scriptPubkeyEqual | transactionOutputGetAmount | transactionOutputGetScriptPubkey
  | transactionCountOutputs | transactionGetOutput | blockGetHash | blockCountTransactions
  | blockGetTransaction | free | errorFree => exact absurd h (not_created fun _ => nofun)

/--
**A call that fails leaves no trace.** When a `New`, `Copy` or `GetBlock` function returns null,
whatever allocation failed, objects and transactions are as they were, down to the counts, and what
was read on the way has been freed exactly once.
-/
theorem restored_of_null
    (h : run (native core) calls (Native.empty errors) = (.returns replies, m))
    {call : Call core υ} {k : Kind} {e : Option ErrorPtr}
    (hcall : call.run (native core) m = (.returns (.created k none e), m')) :
    m'.objects = m.objects ∧ m'.transactions.cell = m.transactions.cell ∧
      ∀ t, m.transactions.next ≤ t → t < m'.transactions.next →
        m'.transactions.freed.count t = 1 := by
  obtain ⟨c, hc⟩ := agree_of_run h
  have hobjects := objects_of_null hcall
  have hlater : m.Later (call.run (native core) m).2 :=
    Native.Later.native_within.congruent.call call m
  rw [hcall] at hlater
  obtain ⟨c', -, hc'⟩ := (congruent_alike.call call).agree hc hcall
  have hcounts := hc'.counts
  rw [hobjects] at hcounts
  have hcell : m'.transactions.cell = m.transactions.cell :=
    hc.counts.cell_eq hcounts fun _ _ _ hold hnew => hlater.transaction_eq hold hnew
  have hrestored : Heap.Restored m.transactions m'.transactions :=
    ⟨hcell, hlater.transactions.next_le⟩
  exact ⟨hobjects, hcell, fun t => Heap.freed_once hrestored⟩

/-- There is no memory for the handle of a second transaction. -/
theorem restored_of_null_spend :
    ∃ m', (readSpend (· < 2)).run (native minimalCore) spendMemory
        = (.returns (.created .transaction none none), m') ∧
      (m'.objects = spendMemory.objects ∧
        m'.transactions.cell = spendMemory.transactions.cell ∧
        ∀ t, spendMemory.transactions.next ≤ t → t < m'.transactions.next →
          m'.transactions.freed.count t = 1) := by
  have hcall : (readSpend (· < 2)).run (native minimalCore) spendMemory
      = (.returns (.created .transaction none none),
        ((readSpend (· < 2)).run (native minimalCore) spendMemory).2) := rfl
  exact ⟨_, hcall, restored_of_null spendMemory_run hcall⟩

end

end Btck
