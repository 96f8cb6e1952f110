import Btck.Properties.Calls
import Btck.Properties.HeldRecords

/-!
# What a client has to know

A client of the library has pointers, and what it can say about memory is what it was told. This is
enough: a pointer that was once good reads the same or is gone, a `New` function leaves a new object
or a new record, and a `Free` function takes one object away.

* `Seen` — what a pointer has been to
* `NewBody`, `new_ends`, `free_ends` — the functions that make and free
-/

namespace Btck

open Infra

variable {core : BitcoinCore} {ε : Type}

/-! ## Pointers from before -/

/-- At some time before, the pointer was to the object. -/
def Seen (m : Native core) {k : Kind} (p : Ptr k) (v : Value core k) : Prop :=
  ∃ m₀ : Native core, m₀.Later m ∧ m₀.value? p = some v

namespace Seen

variable {m m' : Native core} {k : Kind} {p : Ptr k} {v : Value core k}

theorem now (h : m.value? p = some v) : Seen m p v := ⟨m, refl_of _ m, h⟩

theorem later (h : Seen m p v) (hl : m.Later m') : Seen m' p v := by
  obtain ⟨m₀, hl₀, hv⟩ := h
  exact ⟨m₀, trans_of _ hl₀ hl, hv⟩

theorem value (h : Seen m p v) (hs : Sound m) (ha : m.Alive p) : m.value? p = some v := by
  obtain ⟨m₀, hl₀, hv⟩ := h
  exact value?_later hl₀ hs hv ha

/-- There is an object of the right type behind a pointer to one that was not freed. -/
theorem object {n : Nat} {v : Value core k} (h : Seen m (.object n) v) (hs : Sound m)
    (ha : (m.objects.cell n).isSome) :
    ∃ x : CppType core k, m.objects.cell n = some ⟨k, x⟩ := by
  obtain ⟨x, hread, -⟩ := Option.bind_eq_some_iff.mp (h.value hs ha)
  obtain ⟨o, ho, hdata⟩ := Option.bind_eq_some_iff.mp hread
  obtain rfl := Object.as?_eq_some.mp hdata
  exact ⟨x, ho⟩

/-- A pointer that was once good is to an object that was made before. -/
theorem lt_next {n : Nat} {v : Value core k} (h : Seen m (.object n) v) : n < m.objects.next := by
  obtain ⟨m₀, hlater, hvalue⟩ := h
  obtain ⟨x, hread, -⟩ := Option.bind_eq_some_iff.mp hvalue
  obtain ⟨o, ho, -⟩ := Option.bind_eq_some_iff.mp hread
  exact (Heap.lt_next_of_isSome (by rw [ho]; rfl)).trans_le hlater.objects.next_le

/-- To read through a pointer whose object is gone is undefined. -/
theorem get_of_dead (h : Seen m p v) (hs : Sound m) (hd : ¬ m.Alive p) :
    ((native core).get (some p) : Prog _ ε _) m = (.faults .undefined, m) := by
  obtain ⟨m₀, hl₀, hv⟩ := h
  obtain ⟨c, hc⟩ := hs
  obtain ⟨x, hx, -⟩ := Option.bind_eq_some_iff.mp hv
  rw [Runtime.get, load_run, (read?_later hl₀ hc p hx).2 hd]
  rfl

end Seen

/-- With the last object the last transaction is gone. -/
theorem Sound.transactions_gone {m : Native core} (hs : Sound m)
    (hobjects : ∀ n, m.objects.cell n = none) :
    ∀ t < m.transactions.next, m.transactions.freed.count t = 1 := by
  obtain ⟨c, hc⟩ := hs
  refine fun t ht => Heap.freed_of_none ht (Option.not_isSome_iff_eq_none.mp fun hlive => ?_)
  rw [hc.counts.live_iff, zero_add, mem_objectRefs] at hlive
  obtain ⟨n, o, hn, -⟩ := hlive
  cases hn.symm.trans (hobjects n)

/-! ## The functions that make and free -/

/-- What a `New` function has made of memory, and what it returns. -/
inductive NewEnd (k : Kind) (m m' : Native core) : Option (Ptr k) → Option ErrorPtr → Prop where
  | created {y : CppType core k} {v : Value core k}
      (hobjects : m'.objects = m.objects.alloc ⟨k, y⟩)
      (hvalue : m'.value? (.object m.objects.next : Ptr k) = some v)
      (herrors : m'.errors = m.errors) : NewEnd k m m' (some (.object m.objects.next)) none
  | failed {p : ErrorPtr} {r : Report} (hobjects : m'.objects = m.objects)
      (hrecord : Record m'.errors p r)
      (hkeep : ∀ n, (m.errors.cell n).isSome → m'.errors.cell n = m.errors.cell n)
      (hheld : ∀ holders, HeldOnce holders m.errors →
        HeldOnce (p.blocks m'.errors + holders) m'.errors) : NewEnd k m m' none (some p)

/-- The body of a `New` or `Copy` function, for a call where `P` holds. On values it is `z`. -/
structure NewBody {k : Kind} (P : Native core → Prop)
    (body : Prog (Native core) Exception (Option (Ptr k)))
    (z : Outcome Exception (Option (Value core k))) : Prop where
  creates : Creates body
  values : OnValues P body (Prog.lift z) fun m => Stands m
  later : Advances Native.Later body
  defined : ∀ u, z ≠ .faults u

theorem allocate_ne_faults {α β : Type} (ok : Bool) (x : α) {f : α → Outcome Exception β}
    (hf : ∀ a u, f a ≠ .faults u) (u : Fault) : (allocate ok x >>= f) ≠ .faults u := by
  cases ok with
  | false => nofun
  | true => exact hf x u

theorem create_ne_faults {α : Type} (ok : Bool) (x : α) (u : Fault) :
    Api.create ok x ≠ .faults u := by
  cases ok <;> simp [Api.create]

/-- What is read is defined when the reader is. -/
theorem read_ne_faults {α β : Type} {x : Outcome Exception α} {f : α → Outcome Exception β}
    (hx : ∀ u, x ≠ .faults u) (hf : ∀ a u, f a ≠ .faults u) (u : Fault) :
    (x >>= f) ≠ .faults u := by
  cases hread : x with
  | returns r => exact hf r u
  | throws e => nofun
  | faults u' => exact absurd hread (hx u')

theorem minimalCore_throws {T : Type} (table : List T) (encoding : T → Bytes) (raw : Bytes)
    (u : Fault) : (tableCodec table encoding).unserialize raw ≠ .faults u := by
  simp only [tableCodec]
  split <;> simp

namespace NewBody

theorem scriptPubkey (alloc : Nat → Bool) (raw : Bytes) :
    NewBody (fun _ => True) (Runtime.ScriptPubkey.newBody (native core) alloc raw)
      (ScriptPubkey.newBody alloc raw) where
  creates := .scriptPubkeyNewBody alloc raw
  values := .scriptPubkeyNew alloc raw
  later := Native.Later.native_within.create (alloc 0) .scriptPubkey raw
  defined := create_ne_faults _ _

theorem transactionOutput (alloc : Nat → Bool) (amount : Int64) (p : Ptr .scriptPubkey)
    (script : CScript) :
    NewBody (fun m : Native core => m.value? p = some script)
      (Runtime.TransactionOutput.newBody (native core) alloc amount (some p))
      (TransactionOutput.newBody alloc amount (some script)) where
  creates := .transactionOutputNewBody alloc amount (some p)
  values := show OnValues (fun m => Stands m (some p) (some script)) _ _ _ from
    .transactionOutputNew alloc amount
  later := (Native.Later.native_within.get _).bind fun script =>
    Native.Later.native_within.create (alloc 0) .transactionOutput (CTxOut.mk amount script)
  defined := create_ne_faults (alloc 0) (CTxOut.mk amount script)

theorem transaction (htx : ∀ raw u, core.tx.unserialize raw ≠ .faults u) (alloc : Nat → Bool)
    (raw : Bytes) :
    NewBody (fun _ => True) (Runtime.Transaction.newBody (native core) alloc raw)
      (Transaction.newBody core alloc raw) where
  creates := .transactionNewBody alloc raw
  values := .transactionNew alloc raw
  later := Native.Later.native_within.congruent.transactionNew alloc raw
  defined := allocate_ne_faults _ _ fun _ => allocate_ne_faults _ _ fun _ =>
    read_ne_faults (htx _) fun _ => create_ne_faults _ _

theorem block (hblock : ∀ raw u, core.block.unserialize raw ≠ .faults u) (alloc : Nat → Bool)
    (raw : Bytes) :
    NewBody (fun _ => True) (Runtime.Block.newBody (native core) alloc raw)
      (Block.newBody core alloc raw) where
  creates := .blockNewBody alloc raw
  values := .blockNew alloc raw
  later := (Advances.lift _).bind fun block =>
    Native.Later.native_within.createMoved (alloc 1) block
  defined := allocate_ne_faults _ _ fun _ =>
    read_ne_faults (hblock _) fun _ => create_ne_faults _ _

theorem copy (ok : Bool) {k : Kind} (p : Ptr k) (v : Value core k) :
    NewBody (fun m : Native core => m.value? p = some v) ((native core).copyBody ok (some p))
      (Api.copyBody ok (some v)) where
  creates := .copyBody ok (some p)
  values := show OnValues (fun m => Stands m (some p) (some v)) _ _ _ from .copyBody ok
  later := Native.Later.native_within.copyBody ok (some p)
  defined := create_ne_faults ok v

end NewBody

/-- A `New` function leaves a new object, or a new record. -/
theorem new_ends {k : Kind} {P : Native core → Prop}
    {body : Prog (Native core) Exception (Option (Ptr k))}
    {z : Outcome Exception (Option (Value core k))} (hbody : NewBody P body z) {m : Native core}
    (hs : Sound m) (hpre : P m) :
    ∃ p e m', ((native core).wrapFn true body : Prog _ ε _) m = (.returns (p, e), m') ∧
      Sound m' ∧ m.Later m' ∧ NewEnd k m m' p e := by
  obtain ⟨hcreates, hvalues, hlater, hz⟩ := hbody
  have hlater' : m.Later _ :=
    Native.Later.native_within.congruent.wrapFn (ε := ε) (y := body) true hlater m
  have hnull : ∀ m : Native core, Stands m (none : Option (Ptr k)) none := fun _ => trivial
  have hwrap := (hvalues.wrapFn (ε := ε) true hnull) m m.errors ⟨⟨hs, rfl⟩, hpre⟩
  rcases hrun : ((native core).wrapFn true body : Prog _ ε _) m with ⟨out, m'⟩
  rw [hrun] at hwrap hlater'
  cases hend : z with
  | faults u => exact absurd hend (hz u)
  | returns r =>
    rw [hend, wrapFn_returns] at hwrap
    cases out with
    | throws e => exact hwrap.elim
    | faults u => exact hwrap.elim
    | returns pe =>
      obtain ⟨p, e⟩ := pe
      obtain ⟨⟨hs', herrors⟩, hstands, he⟩ := hwrap
      obtain rfl : e = none := he
      obtain ⟨y, rfl, -, hobjects⟩ | ⟨-, he, -⟩ := hcreates.wrapFn hrun
      · cases r with
        | none => exact hstands.elim
        | some v => exact ⟨_, _, m', rfl, hs', hlater', .created hobjects hstands herrors⟩
      · cases he
  | throws ex =>
    rw [hend] at hwrap
    obtain ⟨q, h', htranslate, hrecord, hkeep, hheld⟩ := translateException_record m.errors ex
    have hvalue : (Btck.wrapFn true (.throws ex : Outcome Exception (Option (Value core k))) :
        Prog Memory ε _) m.errors = (.returns (none, some q), h') := by
      show ((translateException ex : Prog Memory ε _) >>= _) m.errors = _
      rw [Prog.bind_of_returns htranslate]
      rfl
    rw [hvalue] at hwrap
    cases out with
    | throws e => exact hwrap.elim
    | faults u => exact hwrap.elim
    | returns pe =>
      obtain ⟨p, e⟩ := pe
      obtain ⟨⟨hs', rfl⟩, hstands, he⟩ := hwrap
      obtain rfl : e = some q := he
      obtain ⟨y, rfl, he, -⟩ | ⟨rfl, -, hobjects⟩ := hcreates.wrapFn hrun
      · cases he
      · exact ⟨_, _, m', rfl, hs', hlater', .failed hobjects hrecord hkeep hheld⟩

/-- A `Free` function takes the object away, and nothing else. -/
theorem free_ends {k : Kind} {i : Nat} {x : CppType core k} {m : Native core} (hs : Sound m)
    (hi : m.objects.cell i = some ⟨k, x⟩) :
    ∃ m', ((native core).free (some (.object i : Ptr k)) : Prog _ ε Unit) m = (.returns (), m') ∧
      Sound m' ∧ m.Later m' ∧ m'.errors = m.errors ∧ ∃ hl, m'.objects = m.objects.drop i hl := by
  have hend := (OnValues.free (ε := ε)) m m.errors ⟨⟨hs, rfl⟩, hi⟩
  have hlater : m.Later _ :=
    (Native.Later.native_within.free (some (.object i : Ptr k)) : Advances _ (_ : Prog _ ε Unit)) m
  rcases hrun : ((native core).free (some (.object i : Ptr k)) : Prog _ ε Unit) m with ⟨out, m'⟩
  rw [hrun] at hend hlater
  cases out with
  | returns u => exact ⟨m', rfl, hend.1.1, hlater, hend.1.2, objects_of_free hrun⟩
  | throws e => exact hend.elim
  | faults u => exact hend.elim

end Btck
