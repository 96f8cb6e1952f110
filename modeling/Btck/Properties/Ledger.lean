import Btck.Infra.Ledger
import Btck.Properties.Session
import Btck.Properties.Types

/-!
# What a call gives back

A call of the module acquires buffers, arrays, error records and handles. At its end the object that
it returns may own a handle; everything else should have been given back.

* `ledger`, `Balanced` — what should be left
* `run_settles` — what is left, for every call that obtains no buffer and converts nothing
* `balanced_iff` — and for those that do
-/

namespace Btck.Python

open Infra

variable {core : BitcoinCore}

/-! ## The ledger of a call -/

/-- What an event enters into the ledger. -/
def Event.posting? : Event → Option (Posting Resource)
  | .acquired r => some (.acquire r)
  | .released r => some (.release r)
  | _ => none

def ledger (s : State) : List (Posting Resource) := s.events.filterMap Event.posting?

/-- The handle that an object owns. -/
def PyObj.handles (o : PyObj core) : Multiset Resource := if o.hasHandle then {.handle} else 0

section

variable {α β : Type} {m : Multiset Resource} {s : State}

end

/-! ## The methods -/

section

variable (env : Env)

end

/-! ## Temporary lists -/

/-- What a list has of an item: everything, when nobody else holds it. -/
def itemHandles (item : PyObj core × Bool) : Multiset Resource :=
  if item.2 then 0 else item.1.handles

def listHandles : List (PyObj core × Bool) → Multiset Resource
  | [] => 0
  | item :: items => itemHandles item + listHandles items

section

variable {m : Multiset Resource} {s : State}

end

/-- A list is made, with what it has to give back, or nothing of it is left. -/
def Makes (x : Prog State PyErr (List (PyObj core × Bool))) : Prop := ∀ m, Triple (Held ledger m) x
  ⟨fun seq => Held ledger (listHandles seq + m), fun _ => Held ledger m, fun _ _ => True⟩

/-- The array of `spent_outputs`, if there is to be one. -/
def arrayOf : Option (SpentOutputs core) → Multiset Resource
  | none => 0
  | some (.object .none) => 0
  | some _ => {.array}

section

variable (env : Env)

end

/-! ## Calls that keep something -/

/-- The arguments of `verify` up to the spent outputs are read, and these make an array. -/
structure VerifyArgs.Converts (args : VerifyArgs core) (env : Env) (items : Int → Env) (s : State) :
    Prop where
  amount : ∃ amount, parseLongLong args.amount = .returns amount
  txTo : ∃ txTo, parseTransaction args.txTo = .returns txTo
  memory : env.object 1 = true
  outputs : ∃ obj seq s', args.spentOutputs = some obj ∧
    sequenceFast env items obj s = (.returns seq, s') ∧
    ∀ item ∈ seq, Layout.transactionOutput.impl? item.1 ≠ none

/-- What the result of a call owns. -/
def owned : Outcome PyErr (PyObj core) → Multiset Resource
  | .returns o => o.handles
  | _ => 0

/-- At the end of a call nothing is left but what its result owns. -/
def Balanced (run : Outcome PyErr (PyObj core) × State) : Prop := Held ledger (owned run.1) run.2

theorem count_ledger (m : Memory) (es : List Event) (r : Resource) :
    (ledger ⟨m, es⟩).count (.acquire r) = es.count (.acquired r) ∧
    (ledger ⟨m, es⟩).count (.release r) = es.count (.released r) := by
  unfold ledger
  induction es with
  | nil => exact ⟨rfl, rfl⟩
  | cons e es ih =>
    cases e <;> simp [Event.posting?, List.filterMap_cons, List.count_cons, ih]

/-- What was acquired has been released as often, but for the handle of the result. -/
theorem Balanced.count {run : Outcome PyErr (PyObj core) × State} (h : Balanced run)
    (r : Resource) :
    run.2.events.count (.acquired r)
      = (owned run.1).count r + run.2.events.count (.released r) := by
  obtain ⟨hacquired, hreleased⟩ := count_ledger run.2.memory run.2.events r
  have hcount := count_of_settle h r
  rw [Multiset.count_zero, Nat.zero_add] at hcount
  rw [← hacquired, ← hreleased]
  exact hcount

section

variable {env : Env} {items : Int → Env} {args : VerifyArgs core} {impl : Option CScript}
  {s s' : State} {m : Multiset Resource}

/-- The conversion does not fail otherwise than by an exception. -/
theorem convertSequence_ends (env : Env) (seq : List (PyObj core × Bool)) (s : State) :
    (∃ data s', convertSequence env seq s = (.returns data, s') ∧ env.object 1 = true ∧
      ∀ item ∈ seq, Layout.transactionOutput.impl? item.1 ≠ none) ∨
    (∃ e s', convertSequence env seq s = (.throws e, s') ∧ ¬ (env.object 1 = true ∧
      ∀ item ∈ seq, Layout.transactionOutput.impl? item.1 ≠ none)) := by
  cases hmemory : env.object 1 with
  | false =>
    obtain ⟨s', hdrop⟩ := dropAll_run seq s
    refine .inr ⟨noMemory, s', ?_, by simp⟩
    unfold convertSequence
    rw [hmemory]
    exact Prog.bind_of_returns hdrop _
  | true =>
    obtain ⟨s', hrun⟩ := convertSequence_run env seq s hmemory
    rcases storeAll_cases seq 0 with ⟨data, hdata, hall⟩ | ⟨⟨item, hmem, hitem⟩, e, he, -⟩
    · refine .inl ⟨data, s', by rw [hrun, hdata], rfl, fun item hmem => ?_⟩
      obtain ⟨k, hk, rfl⟩ := List.mem_iff_getElem.mp hmem
      obtain ⟨ptr, -, himpl⟩ := storeAll_of_get hdata (List.getElem?_eq_getElem hk)
      exact fun hc => absurd (hc.symm.trans himpl) (by simp)
    · exact .inr ⟨e, s', by rw [hrun, he], fun h => h.2 item hmem hitem⟩

/-- With something to convert, the conversion returns an array. -/
theorem VerifyArgs.Converts.run (h : args.Converts env items s) :
    ∃ data s', optional args.spentOutputs [] (convertTxOutputs env items) s
      = (.returns data, s') ∧ arrayOf args.spentOutputs = {.array} := by
  obtain ⟨obj, seq, s₁, hobj, hseq, houtputs⟩ := h.outputs
  have hconvert := convertTxOutputs_of_seq hseq
  rcases convertSequence_ends env seq s₁ with ⟨data, s', hrun, -⟩ | ⟨e, s', -, hnot⟩
  · refine ⟨data, s', ?_, ?_⟩
    · rw [hobj]
      exact hconvert.trans hrun
    · rw [hobj, arrayOf]
      rintro rfl
      have hnone : (sequenceFast env items (.object (.none : PyObj core)) s).1
          = .throws ⟨.typeError, some "spent_outputs must be a sequence"⟩ := rfl
      rw [hseq] at hnone
      cases hnone
  · exact absurd ⟨h.memory, houtputs⟩ hnot

theorem VerifyArgs.Converts.iterates (h : args.Converts env items s) :
    ∀ obj, args.spentOutputs = some obj → ∀ u s', iterItems items obj s ≠ (.faults u, s') := by
  intro obj hobj u s' hfault
  obtain ⟨obj', seq, s₁, hobj', hseq, -⟩ := h.outputs
  obtain rfl := Option.some.inj (hobj.symm.trans hobj')
  obtain ⟨seq', s₂, hiter, -⟩ := Prog.bind_eq_returns.mp hseq
  rw [hfault] at hiter
  cases hiter

end

/-! ## Every call -/

section

variable (env : Env) (memory : Memory)

end

end Btck.Python
