import Btck.Properties.Clients
import Btck.Rust.Crate

/-!
# What a program of the Rust crate can do wrong

The crate promises that safe code cannot go wrong. It keeps the promise for what it makes, and for
references to it; not for what its iterators yield. An item is a pointer into an object of somebody
else, in a struct that says it is its own: it can outlive that object, and it frees it.

* `Misuses` — the two ways to go wrong, both with an item
* `fmt_verification` — what is shown of an error of the library's own
* `Valid` — what holds between variables and memory, in the course of any program
* `runAll_returns_iff` — a program is defined as long as it keeps clear of these two
* `runAll_of_plain` — which is easy without the iterators
* `nothing_lost` — who has what, and what is left
-/

namespace Btck.Rust

open Infra

variable {core : BitcoinCore}

/-! ## Misuse -/

/-- An operation goes wrong on a variable that has the value. -/
def Op.Misused (s : Process core) : Op → Value → Prop
  | .amount _, @Value.object .transactionOutput (some p) => ¬ s.native.Alive p
  | .outputs _, @Value.object .transaction (some p) => ¬ s.native.Alive p
  | .next _, .iterator .outputs source idx count =>
    idx < count ∧ ∃ p : Ptr .transaction, s.vars.cell source = some (.object (some p)) ∧
      ¬ s.native.Alive p
  | .drop x, .object (some p) => s.borrowed x = false ∧ ∀ n, p ≠ .object n
  | _, _ => False

/--
An item is used that is gone, with the object that it is a part of, or an item goes out of scope.
-/
def Misuses (s : Process core) (op : Op) : Prop :=
  ∃ x v, op.on = some x ∧ s.vars.cell x = some v ∧ op.Misused s v

/-! ## The invariant -/

/-- The objects that a value owns. -/
def Value.handles : Value → Multiset Nat
  | .object (some (.object n)) => {n}
  | _ => 0

/-- The blocks of the record that a value owns. -/
def Value.blocks (h : Memory) : Value → Multiset Nat
  | .error p => p.blocks h
  | _ => 0

/-- How many there are of what an iterator goes over. -/
def Over.size (core : BitcoinCore) : (what : Over) → Btck.Value core what.source → Nat
  | .outputs, tx => (core.vout tx).size
  | .transactions, block => (core.vtx block).size

/-- What the value of a variable is good for. There are items only where `items` says so. -/
inductive Means (items : Prop) (s : Process core) : Value → Prop where
  | own {k : Kind} {n : Nat} {v : Btck.Value core k} (hn : (s.native.objects.cell n).isSome)
      (hp : Seen s.native (.object n : Ptr k) v) :
      Means items s (.object (some (.object n : Ptr k)))
  | output {tx i : Nat} {v : CTxOut} (hitems : items) (hp : Seen s.native (.vout tx i) v) :
      Means items s (.object (some (.vout tx i)))
  | transaction {block i : Nat} {v : core.CTransaction} (hitems : items)
      (hp : Seen s.native (.vtx block i) v) : Means items s (.object (some (.vtx block i)))
  | error {p : ErrorPtr} {r : Report} (hp : Record s.native.errors p r) : Means items s (.error p)
  | iterator {what : Over} {source : Nat} {idx count : UInt64} {p : Ptr what.source}
      {v : Btck.Value core what.source} (hsource : s.vars.cell source = some (.object (some p)))
      (hp : Seen s.native p v) (hcount : count.toNat ≤ what.size core v) :
      Means items s (.iterator what source idx count)

/--
What holds between variables and memory. What a program has forgotten is still there, and nobody has
it: these are the objects `lost` and the blocks `leaked`.
-/
structure Valid (lost leaked : Multiset Nat) (items : Prop) (s : Process core) : Prop where
  sound : Sound s.native
  objects : HeldOnce (lost + s.vars.total Value.handles) s.native.objects
  records : HeldOnce (leaked + s.vars.total (Value.blocks s.native.errors)) s.native.errors
  means : ∀ x v, s.vars.cell x = some v → Means items s v

/-- Some iterator refers to the variable. -/
theorem borrowed_iff {s : Process core} {x : Nat} : s.borrowed x = true ↔
    ∃ y what idx count, s.vars.cell y = some (.iterator what x idx count) := by
  rw [Process.borrowed, List.any_eq_true]
  constructor
  · rintro ⟨y, -, hy⟩
    split at hy
    · next what source idx count hcell =>
      exact ⟨y, what, idx, count, by rw [hcell, beq_iff_eq.mp hy]⟩
    · cases hy
  · rintro ⟨y, what, idx, count, hcell⟩
    refine ⟨y, List.mem_range.mpr (Heap.lt_next_of_isSome (by rw [hcell]; rfl)), ?_⟩
    rw [hcell]
    exact beq_self_eq_true x

/-- What a value owns is there. -/
theorem Means.live {items : Prop} {s : Process core} {v : Value} (h : Means items s v) {n : Nat}
    (hn : n ∈ v.handles) : (s.native.objects.cell n).isSome := by
  cases h with
  | own hlive => rwa [Multiset.mem_singleton.mp hn]
  | output => cases hn
  | transaction => cases hn
  | error => cases hn
  | iterator => cases hn

theorem Means.weaken {items : Prop} {s : Process core} {v : Value} (h : Means items s v) :
    Means True s v := by
  cases h with
  | own hn hp => exact .own hn hp
  | output _ hp => exact .output trivial hp
  | transaction _ hp => exact .transaction trivial hp
  | error hp => exact .error hp
  | iterator hsource hp hcount => exact .iterator hsource hp hcount

theorem Means.change {items : Prop} {s s' : Process core} {v : Value} (h : Means items s v)
    (hlater : s.native.Later s'.native)
    (hobjects : ∀ n ∈ v.handles, (s'.native.objects.cell n).isSome)
    (hrecords : ∀ n ∈ v.blocks s.native.errors,
      s'.native.errors.cell n = s.native.errors.cell n)
    (hsource : ∀ what source idx count, v = .iterator what source idx count →
      ∀ k (p : Option (Ptr k)), s.vars.cell source = some (.object p) →
        s'.vars.cell source = some (.object p)) : Means items s' v := by
  cases h with
  | own hn hp => exact .own (hobjects _ (Multiset.mem_singleton_self _)) (hp.later hlater)
  | output hitems hp => exact .output hitems (hp.later hlater)
  | transaction hitems hp => exact .transaction hitems (hp.later hlater)
  | error hp => exact .error (hp.of_cell hrecords).1
  | iterator hcell hp hcount =>
    exact .iterator (hsource _ _ _ _ rfl _ _ hcell) (hp.later hlater) hcount

namespace Valid

variable {lost lost' leaked leaked' : Multiset Nat} {items : Prop} {s : Process core} {v : Value}
  {x : Nat}

theorem empty (schedule : List Bool) :
    Valid 0 0 False (Process.empty (Heap.empty schedule) : Process core) where
  sound := ⟨_, Agree.empty _⟩
  objects := by
    rw [Process.empty, Heap.total_empty]
    exact HeldOnce.empty []
  records := by
    rw [Process.empty, Heap.total_empty]
    exact HeldOnce.empty schedule
  means _ _ h := by cases h

/-- There may be items. -/
theorem weaken (h : Valid lost leaked items s) : Valid lost leaked True s :=
  ⟨h.sound, h.objects, h.records, fun x v hx => (h.means x v hx).weaken⟩

/-! ### Variables -/

/-- What is in hand is bound to a variable. -/
theorem bind (h : Valid (v.handles + lost) (v.blocks s.native.errors + leaked) items s)
    (hv : Means items s v) : Valid lost leaked items { s with vars := s.vars.alloc v } := by
  have hchange : ∀ w, Means items s w → Means items { s with vars := s.vars.alloc v } w := by
    intro w hw
    refine hw.change (refl_of _ _) (fun _ => hw.live) (fun _ _ => rfl) fun _ y _ _ _ _ _ hy => ?_
    have hlt := Heap.lt_next_of_isSome (h := s.vars) (n := y) (by rw [hy]; rfl)
    rw [Heap.cell_alloc, if_neg hlt.ne, hy]
  refine ⟨h.sound, ?_, ?_, fun x w hx => ?_⟩
  · rw [Heap.total_alloc, ← add_assoc, add_comm lost]
    exact h.objects
  · rw [Heap.total_alloc, ← add_assoc, add_comm leaked]
    exact h.records
  · have hcell : (s.vars.alloc v).cell x = some w := hx
    rw [Heap.cell_alloc] at hcell
    split at hcell
    · obtain rfl := Option.some.inj hcell
      exact hchange v hv
    · exact hchange w (h.means x w hcell)

/-- A variable is gone, and what it had is in hand. -/
theorem unbind (h : Valid lost leaked items s) (hx : s.vars.cell x = some v)
    (hb : s.borrowed x = false) (hl : (s.vars.cell x).isSome) :
    Valid (v.handles + lost) (v.blocks s.native.errors + leaked) items
      { s with vars := s.vars.drop x hl } := by
  refine ⟨h.sound, ?_, ?_, fun y w hy => ?_⟩
  · have hobjects := h.objects
    rw [Heap.total_drop Value.handles hx hl, ← add_assoc, add_comm lost] at hobjects
    exact hobjects
  · have hrecords := h.records
    rw [Heap.total_drop (Value.blocks s.native.errors) hx hl, ← add_assoc,
      add_comm leaked] at hrecords
    exact hrecords
  · have hy' : s.vars.cell y = some w := @Heap.cell_of_drop _ _ _ _ hl _ hy
    have hw := h.means y w hy'
    refine hw.change (refl_of _ _) (fun _ => hw.live) (fun _ _ => rfl) ?_
    rintro what source idx count rfl k p hsource
    rw [Heap.cell_drop, if_neg]
    · exact hsource
    · rintro rfl
      rw [borrowed_iff.mpr ⟨y, what, idx, count, hy'⟩] at hb
      cases hb

/-- An iterator goes on. -/
theorem advance (h : Valid lost leaked items s) {what : Over} {source : Nat}
    {idx idx' count : UInt64}
    (hx : s.vars.cell x = some (.iterator what source idx count))
    (hl : (s.vars.cell x).isSome) : Valid lost leaked items
      { s with vars := s.vars.set x (.iterator what source idx' count) hl } := by
  have hchange : ∀ w, Means items s w →
      Means items { s with vars := s.vars.set x (.iterator what source idx' count) hl } w := by
    intro w hw
    refine hw.change (refl_of _ _) (fun _ => hw.live) (fun _ _ => rfl) fun _ y _ _ _ _ _ hy => ?_
    rw [Heap.cell_set, if_neg]
    · exact hy
    · rintro rfl
      cases hx.symm.trans hy
  have htotal : ∀ f : Value → Multiset Nat,
      f (.iterator what source idx' count) = f (.iterator what source idx count) →
      (s.vars.set x (.iterator what source idx' count) hl).total f = s.vars.total f := fun f hf =>
    Heap.total_set f hx hf hl
  refine ⟨h.sound, ?_, ?_, fun y w hy => ?_⟩
  · show HeldOnce (lost + Heap.total Value.handles (s.vars.set x _ hl)) s.native.objects
    rw [htotal _ rfl]
    exact h.objects
  · show HeldOnce (leaked + Heap.total (Value.blocks s.native.errors) (s.vars.set x _ hl)) _
    rw [htotal _ rfl]
    exact h.records
  · have hcell : (s.vars.set x (.iterator what source idx' count) hl).cell y = some w := hy
    rw [Heap.cell_set] at hcell
    split at hcell
    · obtain rfl := Option.some.inj hcell
      cases hchange _ (h.means x _ hx) with
      | iterator hsource hp hcount => exact .iterator hsource hp hcount
    · exact hchange w (h.means y w hcell)

/-! ### Memory -/

/-- Memory changes, but not for those who have something there. -/
theorem set_native (h : Valid lost leaked items s) {m : Native core} (hs : Sound m)
    (hlater : s.native.Later m)
    (hobjects : HeldOnce (lost' + s.vars.total Value.handles) m.objects)
    (hrecords : HeldOnce (leaked' + s.vars.total (Value.blocks s.native.errors)) m.errors)
    (hkeep : ∀ n ∈ s.vars.total (Value.blocks s.native.errors),
      m.errors.cell n = s.native.errors.cell n) :
    Valid lost' leaked' items { s with native := m } := by
  have hkept : ∀ y w, s.vars.cell y = some w → ∀ n ∈ w.blocks s.native.errors,
      m.errors.cell n = s.native.errors.cell n := fun y w hy n hn =>
    hkeep n (Heap.mem_total.mpr ⟨y, w, hy, hn⟩)
  have hblocks : s.vars.total (Value.blocks m.errors)
      = s.vars.total (Value.blocks s.native.errors) := by
    refine Heap.total_congr fun y w hy => ?_
    cases h.means y w hy with
    | error hp => exact (hp.of_cell (hkept y _ hy)).2
    | own => rfl
    | output => rfl
    | transaction => rfl
    | iterator => rfl
  refine ⟨hs, hobjects, ?_, fun y w hy => ?_⟩
  · rw [hblocks]
    exact hrecords
  · refine (h.means y w hy).change hlater (fun n hn => ?_) (hkept y w hy)
      fun _ _ _ _ _ _ _ hsource => hsource
    exact hobjects.live (Multiset.mem_add.mpr (.inr (Heap.mem_total.mpr ⟨y, w, hy, hn⟩)))

/-- What a `new` function has made is bound to a variable. -/
theorem new (h : Valid lost leaked items s) {k : Kind} {m : Native core} {p : Option (Ptr k)}
    {e : Option ErrorPtr} (hs : Sound m) (hlater : s.native.Later m)
    (hend : NewEnd k s.native m p e) :
    Valid lost leaked items { s with vars := s.vars.alloc (newResult (p, e)), native := m } := by
  have hobjects := h.objects
  have hrecords := h.records
  cases hend with
  | @created y v hnew hvalue herrors =>
    have hown : Means items { s with native := m }
        (.object (some (.object s.native.objects.next : Ptr k))) := by
      refine .own (v := v) ?_ (.now hvalue)
      show (m.objects.cell _).isSome
      rw [hnew, Heap.cell_alloc, if_pos rfl]
      rfl
    refine Valid.bind (s := { s with native := m }) (h.set_native hs hlater ?_ ?_ fun n _ => ?_)
      hown
    · rw [hnew, add_assoc]
      exact hobjects.alloc _
    · rw [herrors, Value.blocks, zero_add]
      · exact hrecords
      · nofun
    · rw [herrors]
  | @failed p r hsame hrecord hkeep hheld =>
    have hresult : newResult ((none : Option (Ptr k)), some p) = .error p := by
      cases hrecord <;> rfl
    have herror : Means items { s with native := m } (.error p) := .error hrecord
    rw [hresult]
    refine Valid.bind (s := { s with native := m }) (h.set_native hs hlater ?_ ?_ fun n hn => ?_)
      herror
    · rw [hsame, Value.handles, zero_add]
      · exact hobjects
      · nofun
    · rw [add_assoc]
      exact hheld _ hrecords
    · exact hkeep n (hrecords.live (Multiset.mem_add.mpr (.inr hn)))

/-- A value goes out of scope that is not an item. -/
theorem drop (h : Valid lost leaked items s) (hx : s.vars.cell x = some v)
    (hb : s.borrowed x = false) (hl : (s.vars.cell x).isSome)
    (hown : ∀ k (p : Ptr k), v = .object (some p) → ∃ n, p = .object n) :
    ∃ m, (v.drop core : Prog _ Empty Unit) s.native = (.returns (), m) ∧
      Valid lost leaked items { s with vars := s.vars.drop x hl, native := m } := by
  have hgone := h.unbind hx hb hl
  have hobjects := hgone.objects
  have hrecords := hgone.records
  rw [add_assoc] at hobjects hrecords
  cases h.means x v hx with
  | @own k n v hn hp =>
    obtain ⟨data, ho⟩ := hp.object h.sound hn
    obtain ⟨m, hrun, hs, hlater, herrors, hl', hdrop⟩ := free_ends (ε := Empty) h.sound ho
    refine ⟨m, hrun, hgone.set_native hs hlater ?_ ?_ fun n _ => ?_⟩
    · rw [hdrop]
      exact hobjects.drop hl'
    · rw [herrors]
      exact (zero_add (leaked + _)) ▸ hrecords
    · rw [herrors]
  | output => obtain ⟨n, hn⟩ := hown _ _ rfl; cases hn
  | transaction => obtain ⟨n, hn⟩ := hown _ _ rfl; cases hn
  | @error p r hp =>
    obtain ⟨m, hrun, hrest, hkeep⟩ := free_record hp hrecords
    refine ⟨(native core).errors.set s.native m,
      Prog.within_run (native core).errors (hrun (ε := Empty)), ?_⟩
    refine hgone.set_native (h.sound.set_errors m) ?_ ?_ hrest
      fun n hn => hkeep n (Multiset.mem_add.mpr (.inr hn))
    · exact Native.Later.native_within.errors s.native m
    · exact (zero_add (lost + _)) ▸ hobjects
  | iterator =>
    refine ⟨s.native, rfl, ?_⟩
    exact hgone.set_native h.sound (refl_of _ _) ((zero_add (lost + _)) ▸ hobjects)
      ((zero_add (leaked + _)) ▸ hrecords) fun _ _ => rfl

end Valid

/-! ## The functions of the crate -/

section

variable {ε : Type} {lost leaked : Multiset Nat} {items : Prop} {s : Process core}
  {m : Native core}

/-- What the `new` functions do, when they are called with what is good. -/
theorem new_runs {k : Kind} {P : Native core → Prop}
    {body : Prog (Native core) Exception (Option (Ptr k))}
    {z : Outcome Exception (Option (Btck.Value core k))} (hbody : NewBody P body z)
    (h : Valid lost leaked items s) (hpre : P s.native) {x : Prog (Native core) Empty Value}
    (hx : x = (native core).wrapFn true body >>= fun result => pure (newResult result)) :
    ∃ s', (Process.onNative x >>= Rust.bind : Prog (Process core) Empty Reply) s
        = (.returns (.bound s.vars.next), s') ∧ Valid lost leaked items s' := by
  obtain ⟨p, e, m, hrun, hs, hl, hend⟩ := new_ends (ε := Empty) hbody h.sound hpre
  have hvalue : x s.native = (.returns (newResult (p, e)), m) := by
    rw [hx, Prog.bind_of_returns hrun]
    rfl
  exact ⟨_, Prog.bind_of_returns (Prog.within_run Process.nativePart hvalue) Rust.bind,
    h.new hs hl hend⟩

theorem ScriptPubkey.new_runs (alloc : Nat → Bool) (raw : Bytes) (h : Valid lost leaked items s) :
    ∃ s', (Op.newScriptPubkey alloc raw).run s = (.returns (.bound s.vars.next), s') ∧
      Valid lost leaked items s' :=
  Rust.new_runs (.scriptPubkey alloc raw) h trivial rfl

theorem TransactionOutput.new_runs (alloc : Nat → Bool) (amount : Int64) {n : Nat}
    {script : CScript} (hp : s.native.value? (.object n : Ptr .scriptPubkey) = some script)
    (h : Valid lost leaked items s) :
    ∃ s', (Process.onNative (TransactionOutput.new core alloc amount (some (.object n))) >>=
        Rust.bind : Prog (Process core) Empty Reply) s = (.returns (.bound s.vars.next), s') ∧
      Valid lost leaked items s' :=
  Rust.new_runs (.transactionOutput alloc amount (.object n) script) h hp rfl

theorem Transaction.new_runs (htx : ∀ raw u, core.tx.unserialize raw ≠ .faults u)
    (alloc : Nat → Bool) (raw : Bytes) (h : Valid lost leaked items s) :
    ∃ s', (Op.newTransaction alloc raw).run s = (.returns (.bound s.vars.next), s') ∧
      Valid lost leaked items s' :=
  Rust.new_runs (.transaction htx alloc raw) h trivial rfl

theorem Block.new_runs (hblock : ∀ raw u, core.block.unserialize raw ≠ .faults u)
    (alloc : Nat → Bool) (raw : Bytes) (h : Valid lost leaked items s) :
    ∃ s', (Op.newBlock alloc raw).run s = (.returns (.bound s.vars.next), s') ∧
      Valid lost leaked items s' :=
  Rust.new_runs (.block hblock alloc raw) h trivial rfl

/-- A function that reads through a pointer first faults when the object is gone. -/
theorem faults_of_dead {α : Type} {k : Kind} {p : Ptr k} {v : Btck.Value core k} (hp : Seen m p v)
    (hs : Sound m) (hd : ¬ m.Alive p) (f : CppType core k → Prog (Native core) ε α) :
    ((native core).get (some p) >>= f) m = (.faults .undefined, m) :=
  Prog.bind_of_faults (hp.get_of_dead hs hd) f

theorem amount_runs {p : Ptr .transactionOutput} {v : CTxOut} (hp : Seen m p v) (hs : Sound m) :
    (m.Alive p → (TransactionOutput.amount core (some p) : Prog _ ε _) m
      = (.returns v.nValue, m)) ∧
    (¬ m.Alive p → (TransactionOutput.amount core (some p) : Prog _ ε _) m
      = (.faults .undefined, m)) := by
  refine ⟨fun ha => ?_, fun hd => faults_of_dead hp hs hd _⟩
  have hstands : Stands m (some p) (some v) := hp.value hs ha
  exact Prog.bind_of_returns (get_output hstands) _

theorem outputs_runs (self : Nat) {p : Ptr .transaction} {v : core.CTransaction}
    (hp : Seen m p v) (hs : Sound m) :
    (m.Alive p → (Transaction.outputs core self (some p) : Prog _ ε _) m
      = (.returns (.iterator .outputs self 0 (UInt64.ofNat (core.vout v).size)), m)) ∧
    (¬ m.Alive p → (Transaction.outputs core self (some p) : Prog _ ε _) m
      = (.faults .undefined, m)) := by
  refine ⟨fun ha => ?_, fun hd => ?_⟩
  · have hstands : Stands m (some p) (some v) := hp.value hs ha
    exact Prog.bind_of_returns (Prog.bind_of_returns (transaction_value hstands) _) _
  · exact Prog.bind_of_faults (Prog.bind_of_faults (faults_of_dead hp hs hd _) _) _

theorem transactions_runs (self : Nat) {n : Nat} {v : core.CBlock}
    (hp : m.value? (.object n : Ptr .block) = some v) (hs : Sound m) :
    (Block.transactions core self (some (.object n)) : Prog _ ε _) m
      = (.returns (.iterator .transactions self 0 (UInt64.ofNat (core.vtx v).size)), m) := by
  obtain ⟨stored, hn, rfl, hload⟩ := stored_of_stands (ε := ε) (show Stands m _ (some v) from hp)
  rw [← hs.vtx_length hn]
  exact Prog.bind_of_returns (Prog.bind_of_returns hload _) _

/-- What an iterator yields is an item that is good as long as its transaction is there. -/
theorem next_output_runs {p : Ptr .transaction} {v : core.CTransaction} {idx : UInt64}
    (hidx : idx.toNat < (core.vout v).size) (hp : Seen m p v) (hs : Sound m) :
    (m.Alive p → ∃ t out, Seen m (.vout t idx.toNat) out ∧
      (TransactionOutputs.next core (some p) idx : Prog _ ε _) m
        = (.returns (some (.object (some (.vout t idx.toNat)))), m)) ∧
    (¬ m.Alive p → (TransactionOutputs.next core (some p) idx : Prog _ ε _) m
      = (.faults .undefined, m)) := by
  refine ⟨fun ha => ?_, fun hd => Prog.bind_of_faults (faults_of_dead hp hs hd _) _⟩
  have hstands : Stands m (some p) (some v) := hp.value hs ha
  obtain ⟨t, hget, -, ht⟩ := get_of_stands (ε := ε) hstands
  obtain ⟨object, hobject, rfl⟩ := Option.map_eq_some_iff.mp ht
  obtain ⟨out, hout⟩ : ∃ out, (core.vout object.value).toList[idx.toNat]? = some out :=
    ⟨_, List.getElem?_eq_getElem hidx⟩
  refine ⟨t, out, .now ?_, ?_⟩
  · rw [Native.value?, Native.read?, hobject, Option.bind_some, hout]
    rfl
  · have hitem : (Runtime.Transaction.getOutput (native core) (some p) idx : Prog _ ε _) m
        = (.returns (some (.vout t idx.toNat)), m) := by
      rw [Runtime.Transaction.getOutput, Prog.bind_of_returns hget,
        Prog.bind_of_returns (deref_of_live hobject)]
      refine Prog.bind_of_returns (a := out) ?_ _
      rw [Prog.lift_run, Vec.get, hout]
    rw [TransactionOutputs.next, Prog.bind_of_returns hitem]
    rfl

theorem next_transaction_runs {n : Nat} {v : core.CBlock} {idx : UInt64}
    (hidx : idx.toNat < (core.vtx v).size) (hp : m.value? (.object n : Ptr .block) = some v)
    (hs : Sound m) :
    ∃ tx : core.CTransaction, Seen m (.vtx n idx.toNat) tx ∧
      (BlockTransactions.next core (some (.object n)) idx : Prog _ ε _) m
        = (.returns (some (.object (some (.vtx n idx.toNat)))), m) := by
  obtain ⟨stored, hn, rfl, hload⟩ := stored_of_stands (ε := ε) (show Stands m _ (some v) from hp)
  have hlt : idx.toNat < stored.vtx.length := by rwa [hs.vtx_length hn]
  have ht : stored.vtx[idx.toNat]? = some stored.vtx[idx.toNat] := List.getElem?_eq_getElem hlt
  obtain ⟨object, hobject⟩ := hs.transaction_live hn (List.getElem_mem hlt)
  refine ⟨object.value, .now ?_, ?_⟩
  · rw [Native.value?, Native.read?, hn, Option.bind_some, Object.as?_mk, Option.bind_some, ht,
      Option.bind_some, Native.whole, hobject]
    rfl
  · have hitem : (Runtime.Block.getTransaction (native core) (some (.object n)) idx : Prog _ ε _) m
        = (.returns (some (.vtx n idx.toNat)), m) := by
      rw [Runtime.Block.getTransaction, Prog.bind_of_returns hload]
      refine Prog.bind_of_returns (a := stored.vtx[idx.toNat]) ?_ _
      rw [Prog.lift_run, Runtime.subscript, ht]
    rw [BlockTransactions.next, Prog.bind_of_returns hitem]
    rfl

/-- What `Display` makes of a report. -/
def display (r : Report) : String :=
  "[" ++ lossy r.domain ++ ":" ++ toString r.code.toInt ++ "] " ++ lossy r.message

theorem fmt_runs {h : Memory} {p : ErrorPtr} {r : Report} (hp : Record h p r) :
    (Error.fmt p : Prog Memory ε _) h = (.returns (display r), h) := by
  obtain ⟨domain, message, hcode, hdomain, hmessage, hds, hms⟩ := hp.getters
  have hfirst : (Btck.Error.domain p >>= CharPtr.str : Prog Memory ε _) h
      = (.returns r.domain, h) := (Prog.bind_of_returns hdomain _).trans hds
  have hlast : (Btck.Error.message p >>= CharPtr.str : Prog Memory ε _) h
      = (.returns r.message, h) := (Prog.bind_of_returns hmessage _).trans hms
  rw [Error.fmt, Prog.bind_of_returns hfirst, Prog.bind_of_returns hcode,
    Prog.bind_of_returns hlast]
  rfl

theorem display_utf8 (code : Int32) (domain message : String) :
    display ⟨code, utf8 domain, utf8 message⟩
      = "[" ++ domain ++ ":" ++ toString code.toInt ++ "] " ++ message := by
  rw [display, lossy_utf8, lossy_utf8]

/-- An error of the library's own is shown with its code and its text. -/
theorem fmt_verification {h : Memory} {p : ErrorPtr} {error : VerificationError}
    (hp : Record h p error.exception.report) :
    (Error.fmt p : Prog Memory ε _) h = (.returns ("[VerificationError:"
      ++ toString (Int32.ofNat error.value.toNat).toInt ++ "] "
      ++ VerificationError.message error.value), h) := by
  have htext : display error.exception.report = "[" ++ "VerificationError" ++ ":"
      ++ toString (Int32.ofNat error.value.toNat).toInt ++ "] "
      ++ VerificationError.message error.value := display_utf8 _ _ _
  rw [fmt_runs hp, htext]
  rfl

end

/-! ## One step -/

def Op.forgets : Op → Bool
  | .forget _ => true
  | _ => false

def Op.iterates : Op → Bool
  | .next _ => true
  | _ => false

/-- How a step ends. Only `forget` loses anything, and only `next` makes items. -/
inductive StepEnd (lost leaked : Multiset Nat) (items : Prop) (s : Process core) (op : Op) :
    Outcome Empty Reply × Process core → Prop where
  | returns {reply : Reply} {s' : Process core} {lost' leaked' : Multiset Nat} {items' : Prop}
      (hgood : ¬ Misuses s op) (hvalid : Valid lost' leaked' items' s')
      (hkept : op.forgets = false → lost' = lost ∧ leaked' = leaked)
      (hitems : op.iterates = false → items' = items) :
      StepEnd lost leaked items s op (.returns reply, s')
  | faults {s' : Process core} (hbad : Misuses s op) :
      StepEnd lost leaked items s op (.faults .undefined, s')

section

variable {lost leaked : Multiset Nat} {items : Prop} {s s' : Process core} {op : Op} {x : Nat}
  {v : Value}

theorem misuses_iff (hon : op.on = some x) (hx : s.vars.cell x = some v) :
    Misuses s op ↔ op.Misused s v := by
  constructor
  · rintro ⟨y, w, hy, hw, h⟩
    obtain rfl := Option.some.inj (hon.symm.trans hy)
    obtain rfl := Option.some.inj (hx.symm.trans hw)
    exact h
  · exact fun h => ⟨x, v, hon, hx, h⟩

/-- A step that leaves what is lost as it was. -/
theorem StepEnd.same {reply : Reply} (hgood : ¬ Misuses s op) (h : Valid lost leaked items s') :
    StepEnd lost leaked items s op (.returns reply, s') :=
  .returns hgood h (fun _ => ⟨rfl, rfl⟩) fun _ => rfl

/-- A value that owns nothing is bound. -/
theorem Valid.bind_plain (h : Valid lost leaked items s) (hv : Means items s v)
    (hobjects : v.handles = 0) (hrecords : v.blocks s.native.errors = 0) :
    Valid lost leaked items { s with vars := s.vars.alloc v } := by
  refine Valid.bind ?_ hv
  rwa [hobjects, hrecords, zero_add, zero_add]

theorem amount_ends (h : Valid lost leaked items s) (hx : s.vars.cell x = some v) :
    StepEnd lost leaked items s (.amount x) ((Op.amount x).use core s v s) := by
  have hmisuse := misuses_iff (show (Op.amount x).on = some x from rfl) hx
  have hread : ∀ (p : Ptr .transactionOutput) (out : CTxOut), v = .object (some p) →
      Seen s.native p out →
      StepEnd lost leaked items s (.amount x) ((Op.amount x).use core s v s) := by
    rintro p out rfl hp
    obtain ⟨halive, hdead⟩ := amount_runs (ε := Empty) hp h.sound
    by_cases ha : s.native.Alive p
    · have hrun := Prog.within_run Process.nativePart (halive ha)
      rw [Op.use, Process.onNative, Prog.bind_of_returns hrun]
      exact .same (hmisuse.not.mpr fun hd => hd ha) h
    · have hrun := Prog.within_run Process.nativePart (hdead ha)
      rw [Op.use, Process.onNative, Prog.bind_of_faults hrun]
      exact .faults (hmisuse.mpr ha)
  cases h.means x v hx with
  | @own k n w hn hp =>
    cases k with
    | transactionOutput => exact hread _ _ rfl hp
    | _ => exact .same (hmisuse.not.mpr id) h
  | output _ hp => exact hread _ _ rfl hp
  | _ => exact .same (hmisuse.not.mpr id) h

theorem outputs_ends (h : Valid lost leaked items s) (hx : s.vars.cell x = some v) :
    StepEnd lost leaked items s (.outputs x) ((Op.outputs x).use core s v s) := by
  have hmisuse := misuses_iff (show (Op.outputs x).on = some x from rfl) hx
  have hread : ∀ (p : Ptr .transaction) (tx : core.CTransaction), v = .object (some p) →
      Seen s.native p tx →
      StepEnd lost leaked items s (.outputs x) ((Op.outputs x).use core s v s) := by
    rintro p tx rfl hp
    obtain ⟨halive, hdead⟩ := outputs_runs (ε := Empty) x hp h.sound
    by_cases ha : s.native.Alive p
    · have hrun := Prog.within_run Process.nativePart (halive ha)
      rw [Op.use, Process.onNative, Prog.bind_of_returns hrun]
      refine .same (hmisuse.not.mpr fun hd => hd ha) (h.bind_plain ?_ rfl rfl)
      have hsize : (UInt64.ofNat (core.vout tx).size).toNat ≤ (core.vout tx).size := by
        rw [UInt64.toNat_ofNat']
        exact Nat.mod_le _ _
      exact .iterator hx hp hsize
    · have hrun := Prog.within_run Process.nativePart (hdead ha)
      rw [Op.use, Process.onNative, Prog.bind_of_faults hrun]
      exact .faults (hmisuse.mpr ha)
  cases h.means x v hx with
  | @own k n w hn hp =>
    cases k with
    | transaction => exact hread _ _ rfl hp
    | _ => exact .same (hmisuse.not.mpr id) h
  | transaction _ hp => exact hread _ _ rfl hp
  | _ => exact .same (hmisuse.not.mpr id) h

theorem transactions_ends (h : Valid lost leaked items s) (hx : s.vars.cell x = some v) :
    StepEnd lost leaked items s (.transactions x) ((Op.transactions x).use core s v s) := by
  have hgood : ¬ Misuses s (.transactions x) := (misuses_iff rfl hx).not.mpr id
  cases h.means x v hx with
  | @own k n w hn hp =>
    cases k with
    | block =>
      have hrun := Prog.within_run Process.nativePart
        (transactions_runs (ε := Empty) x (hp.value h.sound hn) h.sound)
      rw [Op.use, Process.onNative, Prog.bind_of_returns hrun]
      refine .same hgood (h.bind_plain ?_ rfl rfl)
      have hsize : (UInt64.ofNat (core.vtx w).size).toNat ≤ (core.vtx w).size := by
        rw [UInt64.toNat_ofNat']
        exact Nat.mod_le _ _
      exact .iterator hx hp hsize
    | _ => exact .same hgood h
  | _ => exact .same hgood h

theorem newTransactionOutput_ends (alloc : Nat → Bool) (amount : Int64)
    (h : Valid lost leaked items s) (hx : s.vars.cell x = some v) :
    StepEnd lost leaked items s (.newTransactionOutput alloc amount x)
      ((Op.newTransactionOutput alloc amount x).use core s v s) := by
  have hgood : ¬ Misuses s (.newTransactionOutput alloc amount x) := (misuses_iff rfl hx).not.mpr id
  cases h.means x v hx with
  | @own k n w hn hp =>
    cases k with
    | scriptPubkey =>
      obtain ⟨s', hrun, hvalid⟩ :=
        TransactionOutput.new_runs alloc amount (hp.value h.sound hn) h
      rw [Op.use, hrun]
      exact .same hgood hvalid
    | _ => exact .same hgood h
  | _ => exact .same hgood h

theorem fmt_ends (h : Valid lost leaked items s) (hx : s.vars.cell x = some v) :
    StepEnd lost leaked items s (.fmt x) ((Op.fmt x).use core s v s) := by
  have hgood : ¬ Misuses s (.fmt x) := (misuses_iff rfl hx).not.mpr id
  cases h.means x v hx with
  | error hp =>
    have hrun := Prog.within_run Process.nativePart
      (Prog.within_run (native core).errors (fmt_runs (ε := Empty) hp))
    rw [Op.use, Process.onNative, Prog.bind_of_returns hrun]
    exact .same hgood h
  | _ => exact .same hgood h

/-- An iterator has gone on, and what it has yielded is bound. -/
theorem next_bound {what : Over} {source : Nat} {idx count : UInt64} (idx' : UInt64)
    {item : Value} (h : Valid lost leaked items s)
    (hx : s.vars.cell x = some (.iterator what source idx count))
    (hitem : Means items s item) (hobjects : item.handles = 0)
    (hrecords : item.blocks s.native.errors = 0) :
    ∃ s', ((do
        Prog.within Process.varsPart (Heap.write x (.iterator what source idx' count))
        Rust.bind item : Prog (Process core) Empty Reply)) s
          = (.returns (.bound s.vars.next), s') ∧ Valid lost leaked items s' := by
  have hl : (s.vars.cell x).isSome := by rw [hx]; rfl
  have hwrite := Prog.within_run (ε := Empty) Process.varsPart
    (Heap.write_of_live (.iterator what source idx' count) hl)
  refine ⟨_, (Prog.bind_of_returns hwrite _).trans rfl, ?_⟩
  refine (h.advance hx hl).bind_plain ?_ hobjects hrecords
  refine hitem.change (refl_of _ _) (fun _ => hitem.live) (fun _ _ => rfl)
    fun _ y _ _ _ _ _ hy => ?_
  rw [Heap.cell_set, if_neg]
  · exact hy
  · rintro rfl
    cases hx.symm.trans hy

theorem next_ends (h : Valid lost leaked items s) (hx : s.vars.cell x = some v) :
    StepEnd lost leaked items s (.next x) ((Op.next x).use core s v s) := by
  have hmisuse := misuses_iff (show (Op.next x).on = some x from rfl) hx
  cases h.means x v hx with
  | @iterator what source idx count p w hsource hp hcount =>
    rw [Op.use, hsource]
    by_cases hidx : idx < count
    · have hlt : idx.toNat < what.size core w :=
        Nat.lt_of_lt_of_le (UInt64.lt_iff_toNat_lt.mp hidx) hcount
      cases what with
      | outputs =>
        obtain ⟨halive, hdead⟩ := next_output_runs (ε := Empty) hlt hp h.sound
        by_cases ha : s.native.Alive p
        · obtain ⟨t, out, hout, hnext⟩ := halive ha
          obtain ⟨s', hrun, hvalid⟩ :=
            next_bound (idx + 1) h.weaken hx (.output trivial hout) rfl rfl
          have hend : (Rust.next core x .outputs (some (.object (some p))) idx count source :
              Prog _ Empty Reply) s = (.returns (.bound s.vars.next), s') := by
            rw [Rust.next, if_pos hidx]
            exact (Prog.bind_of_returns (Prog.within_run Process.nativePart hnext) _).trans hrun
          rw [hend]
          refine .returns (hmisuse.not.mpr ?_) hvalid (fun _ => ⟨rfl, rfl⟩) nofun
          rintro ⟨-, p', hp', hd⟩
          cases hsource.symm.trans hp'
          exact hd ha
        · have hend : (Rust.next core x .outputs (some (.object (some p))) idx count source :
              Prog _ Empty Reply) s = (.faults .undefined, s) := by
            rw [Rust.next, if_pos hidx]
            exact Prog.bind_of_faults (Prog.within_run Process.nativePart (hdead ha)) _
          rw [hend]
          exact .faults (hmisuse.mpr ⟨hidx, p, hsource, ha⟩)
      | transactions =>
        obtain ⟨n⟩ := p
        cases h.means source _ hsource with
        | own hn =>
          obtain ⟨tx, htx, hnext⟩ :=
            next_transaction_runs (ε := Empty) hlt (hp.value h.sound hn) h.sound
          obtain ⟨s', hrun, hvalid⟩ :=
            next_bound (idx + 1) h.weaken hx (.transaction trivial htx) rfl rfl
          have hend : (Rust.next core x .transactions
              (some (.object (some (.object n : Ptr Over.transactions.source)))) idx count source :
                Prog _ Empty Reply) s = (.returns (.bound s.vars.next), s') := by
            rw [Rust.next, if_pos hidx]
            exact (Prog.bind_of_returns (Prog.within_run Process.nativePart hnext) _).trans hrun
          rw [hend]
          exact .returns (hmisuse.not.mpr id) hvalid (fun _ => ⟨rfl, rfl⟩) nofun
    · rw [Rust.next, if_neg hidx]
      refine .same (hmisuse.not.mpr fun hbad => ?_) h
      cases what with
      | outputs => exact hidx hbad.1
      | transactions => exact hbad
  | _ => exact .same (hmisuse.not.mpr id) h

theorem misused_drop : Op.Misused s (.drop x) v ↔
    s.borrowed x = false ∧ ∃ k, ∃ p : Ptr k, v = .object (some p) ∧ ∀ n, p ≠ .object n := by
  constructor
  · intro h
    cases v with
    | object ptr =>
      cases ptr with
      | none => exact h.elim
      | some p => exact ⟨h.1, _, p, rfl, h.2⟩
    | error => exact h.elim
    | iterator => exact h.elim
  · rintro ⟨hb, k, p, rfl, hp⟩
    exact ⟨hb, hp⟩

theorem drop_ends (h : Valid lost leaked items s) (hx : s.vars.cell x = some v) :
    StepEnd lost leaked items s (.drop x) ((Op.drop x).use core s v s) := by
  have hmisuse : Misuses s (.drop x) ↔ _ := (misuses_iff rfl hx).trans misused_drop
  have hl : (s.vars.cell x).isSome := by rw [hx]; rfl
  rw [Op.use]
  cases hb : s.borrowed x with
  | true => exact .same (hmisuse.not.mpr fun hbad => Bool.false_ne_true (hbad.1.symm.trans hb)) h
  | false =>
    rw [if_neg Bool.false_ne_true]
    by_cases hitem : ∃ k, ∃ p : Ptr k, v = .object (some p) ∧ ∀ n, p ≠ .object n
    · have hfault : (v.drop core : Prog _ Empty Unit) s.native
          = (.faults .undefined, s.native) := by
        obtain ⟨k, p, rfl, hp⟩ := hitem
        cases p with
        | object n => exact absurd rfl (hp n)
        | vtx => rfl
        | vout => rfl
        | scriptPubKey => rfl
      rw [Process.onNative, Prog.bind_of_faults (Prog.within_run Process.nativePart hfault)]
      exact .faults (hmisuse.mpr ⟨hb, hitem⟩)
    · have hown : ∀ k (p : Ptr k), v = .object (some p) → ∃ n, p = .object n := by
        intro k p hv
        by_contra hp
        exact hitem ⟨k, p, hv, fun n hn => hp ⟨n, hn⟩⟩
      obtain ⟨m, hrun, hvalid⟩ := h.drop hx hb hl hown
      have hfree : (Prog.within Process.varsPart (Heap.free x) : Prog (Process core) Empty Unit)
          { s with native := m } = (.returns (), { vars := s.vars.drop x hl, native := m }) :=
        Prog.within_run Process.varsPart (Heap.free_of_live hl)
      have hdone : (do
            Process.onNative (v.drop core)
            Prog.within Process.varsPart (Heap.free x)
            return Reply.done : Prog (Process core) Empty Reply) s
          = (.returns .done, { vars := s.vars.drop x hl, native := m }) :=
        (Prog.bind_of_returns (Prog.within_run Process.nativePart hrun) _).trans
          (Prog.bind_of_returns hfree _)
      rw [hdone]
      exact .same (hmisuse.not.mpr fun hbad => hitem hbad.2) hvalid

theorem forget_ends (h : Valid lost leaked items s) (hx : s.vars.cell x = some v) :
    StepEnd lost leaked items s (.forget x) ((Op.forget x).use core s v s) := by
  have hgood : ¬ Misuses s (.forget x) := (misuses_iff rfl hx).not.mpr id
  have hl : (s.vars.cell x).isSome := by rw [hx]; rfl
  rw [Op.use]
  cases hb : s.borrowed x with
  | true => exact .same hgood h
  | false =>
    have hfree := Prog.within_run (ε := Empty) Process.varsPart (Heap.free_of_live hl)
    rw [if_neg Bool.false_ne_true, Prog.bind_of_returns hfree]
    exact .returns hgood (h.unbind hx hb hl) nofun fun _ => rfl

/-- An operation on a variable does what it does with the value, if the variable is in scope. -/
theorem ends_of_use (hon : op.on = some x) (h : Valid lost leaked items s)
    (huse : ∀ v, s.vars.cell x = some v → StepEnd lost leaked items s op (op.use core s v s)) :
    StepEnd lost leaked items s op (op.run s) := by
  have hrun : op.run s = op.useAt x s := by cases op <;> cases hon <;> rfl
  rw [hrun, Op.useAt]
  cases hx : s.vars.cell x with
  | some v => exact huse v hx
  | none =>
    refine .same ?_ h
    rintro ⟨y, w, hy, hw, -⟩
    obtain rfl := Option.some.inj (hon.symm.trans hy)
    cases hx.symm.trans hw

/-- It is with an item that things go wrong. -/
theorem item_of_misuses (h : Misuses s op) : ∃ y k, ∃ p : Ptr k,
    s.vars.cell y = some (.object (some p)) ∧ (¬ s.native.Alive p ∨ ∀ n, p ≠ .object n) := by
  obtain ⟨x, v, -, hx, hbad⟩ := h
  unfold Op.Misused at hbad
  split at hbad
  · exact ⟨x, _, _, hx, .inl hbad⟩
  · exact ⟨x, _, _, hx, .inl hbad⟩
  · obtain ⟨-, p, hp, hd⟩ := hbad
    exact ⟨_, _, p, hp, .inl hd⟩
  · exact ⟨x, _, _, hx, .inr hbad.2⟩
  · exact hbad.elim

/-- Where there are no items, nothing can go wrong. -/
theorem Valid.not_misuses (h : Valid lost leaked False s) : ¬ Misuses s op := by
  intro hbad
  obtain ⟨y, k, p, hy, hp⟩ := item_of_misuses hbad
  cases h.means y _ hy with
  | own hn =>
    rcases hp with hd | hp
    · exact hd hn
    · exact hp _ rfl
  | output hitems => exact hitems
  | transaction hitems => exact hitems

/-- An operation on no variable cannot go wrong. -/
theorem not_misuses (hon : op.on = none) : ¬ Misuses s op := by
  rintro ⟨x, v, hx, -⟩
  cases hon.symm.trans hx

theorem Op.run_ends (htx : ∀ raw u, core.tx.unserialize raw ≠ .faults u)
    (hblock : ∀ raw u, core.block.unserialize raw ≠ .faults u) (h : Valid lost leaked items s)
    (op : Op) : StepEnd lost leaked items s op (op.run s) := by
  cases op with
  | newScriptPubkey alloc raw =>
    obtain ⟨s', hrun, hvalid⟩ := ScriptPubkey.new_runs alloc raw h
    rw [hrun]
    exact .same (not_misuses rfl) hvalid
  | newTransaction alloc raw =>
    obtain ⟨s', hrun, hvalid⟩ := Transaction.new_runs htx alloc raw h
    rw [hrun]
    exact .same (not_misuses rfl) hvalid
  | newBlock alloc raw =>
    obtain ⟨s', hrun, hvalid⟩ := Block.new_runs hblock alloc raw h
    rw [hrun]
    exact .same (not_misuses rfl) hvalid
  | newTransactionOutput alloc amount x =>
    exact ends_of_use rfl h fun v => newTransactionOutput_ends alloc amount h
  | amount x => exact ends_of_use rfl h fun v => amount_ends h
  | outputs x => exact ends_of_use rfl h fun v => outputs_ends h
  | transactions x => exact ends_of_use rfl h fun v => transactions_ends h
  | next x => exact ends_of_use rfl h fun v => next_ends h
  | fmt x => exact ends_of_use rfl h fun v => fmt_ends h
  | drop x => exact ends_of_use rfl h fun v => drop_ends h
  | forget x => exact ends_of_use rfl h fun v => forget_ends h

end

/-! ## Programs -/

section

variable {ops : List Op} {replies : List Reply} {s s' : Process core} {schedule : List Bool}
  {lost leaked : Multiset Nat} {items : Prop}

/-- A program goes well as long as its steps do. -/
theorem runAll_returns (htx : ∀ raw u, core.tx.unserialize raw ≠ .faults u)
    (hblock : ∀ raw u, core.block.unserialize raw ≠ .faults u) : ∀ (ops : List Op)
    {lost leaked : Multiset Nat} {items : Prop} {s : Process core}, Valid lost leaked items s →
    ((∃ replies s', runAll ops s = (.returns replies, s')) ↔
      ∀ before op after replies s', ops = before ++ op :: after →
        runAll before s = (.returns replies, s') → ¬ Misuses s' op) := by
  intro ops
  induction ops with
  | nil =>
    intro lost leaked items s _
    refine iff_of_true ⟨[], s, rfl⟩ fun before op after replies s' hops => ?_
    exact absurd hops.symm (by simp)
  | cons op ops ih =>
    intro lost leaked items s h
    have hstep := Op.run_ends htx hblock h op
    rcases hrun : op.run s with ⟨out, s₁⟩
    rw [hrun] at hstep
    cases hstep with
    | @returns reply s₁ lost' leaked' items' hgood hvalid hkept hitems =>
      have hrest : ∀ {rest : List Op} {replies : List Reply} {s' : Process core},
          runAll rest s₁ = (.returns replies, s') →
            runAll (op :: rest) s = (.returns (reply :: replies), s') := by
        intro rest replies s' hr
        rw [runAll, Prog.bind_of_returns hrun, Prog.bind_of_returns hr]
        rfl
      constructor
      · rintro ⟨replies, s', hall⟩
        rw [runAll, Prog.bind_of_returns hrun] at hall
        obtain ⟨replies', s₂, hall, -⟩ := Prog.bind_eq_returns.mp hall
        have hgoods := (ih hvalid).mp ⟨replies', s₂, hall⟩
        rintro (_ | ⟨op', before⟩) op'' after replies'' s'' hops hbefore
        · obtain ⟨rfl, -⟩ := List.cons.inj hops
          cases hbefore
          exact hgood
        · obtain ⟨rfl, hafter⟩ := List.cons.inj hops
          rw [runAll, Prog.bind_of_returns hrun] at hbefore
          obtain ⟨replies₁, s₃, hbefore, hlast⟩ := Prog.bind_eq_returns.mp hbefore
          cases hlast
          exact hgoods before op'' after replies₁ s'' hafter hbefore
      · intro hall
        obtain ⟨replies, s', hr⟩ := (ih hvalid).mpr fun before op' after replies s' hops hb =>
          hall (op :: before) op' after _ s' (by rw [hops]; rfl) (hrest hb)
        exact ⟨_, s', hrest hr⟩
    | faults hbad =>
      refine iff_of_false ?_ fun hall => hall [] op ops [] s rfl rfl hbad
      rintro ⟨replies, s', hall⟩
      rw [runAll, Prog.bind_of_faults hrun] at hall
      cases hall

/-- What holds at the end of a program. -/
theorem runAll_valid (htx : ∀ raw u, core.tx.unserialize raw ≠ .faults u)
    (hblock : ∀ raw u, core.block.unserialize raw ≠ .faults u) : ∀ {ops : List Op}
    {replies : List Reply} {lost leaked : Multiset Nat} {items : Prop} {s s' : Process core},
    Valid lost leaked items s → runAll ops s = (.returns replies, s') →
    ∃ lost' leaked' items', Valid lost' leaked' items' s' ∧
      ((∀ op ∈ ops, op.forgets = false) → lost' = lost ∧ leaked' = leaked) ∧
      ((∀ op ∈ ops, op.iterates = false) → items' = items) := by
  intro ops
  induction ops with
  | nil =>
    intro replies lost leaked items s s' h hrun
    cases hrun
    exact ⟨lost, leaked, items, h, fun _ => ⟨rfl, rfl⟩, fun _ => rfl⟩
  | cons op ops ih =>
    intro replies lost leaked items s s' h hall
    have hstep := Op.run_ends htx hblock h op
    obtain ⟨reply, s₁, hrun, hrest⟩ := Prog.bind_eq_returns.mp hall
    obtain ⟨replies', s₂, hrest, hlast⟩ := Prog.bind_eq_returns.mp hrest
    cases hlast
    rw [hrun] at hstep
    cases hstep with
    | returns hgood hvalid hkept hitems =>
      obtain ⟨lost', leaked', items', hvalid', hkept', hitems'⟩ := ih hvalid hrest
      refine ⟨lost', leaked', items', hvalid', fun hall => ?_, fun hall => ?_⟩
      · obtain ⟨hfirst, hothers⟩ := List.forall_mem_cons.mp hall
        obtain ⟨rfl, rfl⟩ := hkept hfirst
        exact hkept' hothers
      · obtain ⟨hfirst, hothers⟩ := List.forall_mem_cons.mp hall
        exact (hitems' hothers).trans (hitems hfirst)

/--
**Exactly when a program of safe code is defined.** It comes to its end unless, at some step, it
uses an item after what the item is a part of is gone, or an item goes out of scope.
-/
theorem runAll_returns_iff (htx : ∀ raw u, core.tx.unserialize raw ≠ .faults u)
    (hblock : ∀ raw u, core.block.unserialize raw ≠ .faults u) (ops : List Op)
    (schedule : List Bool) :
    (∃ replies s, runAll ops (Process.empty (Heap.empty schedule) : Process core)
        = (.returns replies, s)) ↔
      ∀ before op after replies s, ops = before ++ op :: after →
        runAll before (Process.empty (Heap.empty schedule) : Process core)
          = (.returns replies, s) → ¬ Misuses s op :=
  runAll_returns htx hblock ops (Valid.empty schedule)

/-- A transaction with one output is read, and a loop prints the amounts of its outputs. -/
def printAmounts : List Op :=
  [.newTransaction (fun _ => true) MinimalTx.spend.encoding, .outputs 0, .next 1, .amount 2,
    .drop 2, .next 1]

theorem runAll_returns_iff_printAmounts : ¬ ∃ replies s,
    runAll printAmounts (Process.empty (Heap.empty []) : Process minimalCore)
      = (.returns replies, s) := by
  rw [runAll_returns_iff (minimalCore_throws _ _) (minimalCore_throws _ _)]
  refine fun h => h (printAmounts.take 4) (.drop 2) [.next 1] _ _ rfl rfl ?_
  exact ⟨2, _, rfl, rfl, rfl, nofun⟩

/-- **Without the iterators, safe code is safe.** -/
theorem runAll_of_plain (htx : ∀ raw u, core.tx.unserialize raw ≠ .faults u)
    (hblock : ∀ raw u, core.block.unserialize raw ≠ .faults u) {ops : List Op}
    (schedule : List Bool) (hplain : ∀ op ∈ ops, op.iterates = false) :
    ∃ replies s, runAll ops (Process.empty (Heap.empty schedule) : Process core)
      = (.returns replies, s) := by
  refine (runAll_returns htx hblock ops (Valid.empty schedule)).mpr ?_
  rintro before op after replies s rfl hrun
  obtain ⟨lost, leaked, items, hvalid, -, hitems⟩ :=
    runAll_valid htx hblock (Valid.empty schedule) hrun
  rw [hitems fun op' hop => hplain op' (List.mem_append_left _ hop)] at hvalid
  exact hvalid.not_misuses

theorem runAll_of_plain_count : ∃ replies s,
    runAll [.newTransaction (fun _ => true) MinimalTx.spend.encoding, .outputs 0, .drop 0, .drop 1,
      .drop 0] (Process.empty (Heap.empty []) : Process minimalCore) = (.returns replies, s) :=
  runAll_of_plain (minimalCore_throws _ _) (minimalCore_throws _ _) [] (by decide)

/--
**Nothing is lost.** In the course of a program that forgets nothing, each object and each block of
an error record is owned by one variable. When all variables are out of scope, everything that was
ever made has been freed exactly once.
-/
theorem nothing_lost (htx : ∀ raw u, core.tx.unserialize raw ≠ .faults u)
    (hblock : ∀ raw u, core.block.unserialize raw ≠ .faults u) {ops : List Op}
    {schedule : List Bool} {replies : List Reply} {s : Process core}
    (hrun : runAll ops (Process.empty (Heap.empty schedule)) = (.returns replies, s))
    (hforgets : ∀ op ∈ ops, op.forgets = false) :
    HeldOnce (s.vars.total Value.handles) s.native.objects ∧
      HeldOnce (s.vars.total (Value.blocks s.native.errors)) s.native.errors ∧
      ((∀ x, s.vars.cell x = none) →
        (∀ n < s.native.objects.next, s.native.objects.freed.count n = 1) ∧
        (∀ t < s.native.transactions.next, s.native.transactions.freed.count t = 1) ∧
        ∀ n < s.native.errors.next, s.native.errors.freed.count n = 1) := by
  obtain ⟨lost, leaked, items, hvalid, hkept, -⟩ :=
    runAll_valid htx hblock (Valid.empty schedule) hrun
  obtain ⟨rfl, rfl⟩ := hkept hforgets
  have hobjects := hvalid.objects
  have hrecords := hvalid.records
  rw [zero_add] at hobjects hrecords
  refine ⟨hobjects, hrecords, fun hscope => ?_⟩
  rw [Heap.total_of_drained _ hscope] at hobjects hrecords
  refine ⟨fun n => hobjects.freed, hvalid.sound.transactions_gone fun n => ?_,
    fun n => hrecords.freed⟩
  refine Option.not_isSome_iff_eq_none.mp fun hlive => ?_
  exact Multiset.notMem_zero n (hobjects.mem_iff.mpr hlive)

/-- A transaction is read, and it is tried to read another one. -/
def readTwice : List Op :=
  [.newTransaction (fun _ => true) MinimalTx.spend.encoding,
    .newTransaction (fun _ => true) [], .fmt 1, .drop 1, .drop 0]

def readTwiceEnd : Process minimalCore := (runAll readTwice (Process.empty (Heap.empty []))).2

theorem readTwiceEnd_vars : ∀ x, readTwiceEnd.vars.cell x = none
  | 0 => rfl
  | 1 => rfl
  | x + 2 => readTwiceEnd.vars.unused (x + 2) (Nat.le_add_left 2 x)

theorem nothing_lost_readTwice : readTwiceEnd.native.objects.freed.count 0 = 1 ∧
    readTwiceEnd.native.transactions.freed.count 0 = 1 ∧
    readTwiceEnd.native.errors.freed.count 2 = 1 := by
  have hrun : runAll readTwice (Process.empty (Heap.empty []))
      = (.returns [.bound 0, .bound 1, .text _, .done, .done], readTwiceEnd) := rfl
  obtain ⟨-, -, hgone⟩ :=
    nothing_lost (minimalCore_throws _ _) (minimalCore_throws _ _) hrun (by decide)
  obtain ⟨hobjects, htransactions, herrors⟩ := hgone readTwiceEnd_vars
  exact ⟨hobjects 0 Nat.one_pos, htransactions 0 Nat.one_pos, herrors 2 (by decide)⟩

end

end Btck.Rust
