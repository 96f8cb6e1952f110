import Btck.Infra.RefCount
import Btck.Python.ScriptPubkey

/-!
# References to the spent outputs (`convert_tx_outputs`, one level down)

`Btck.Python.convertTxOutputs` says of every pointer whether the object that it belongs to outlives
the conversion. Here the objects are on a heap and count their references, and this comes out of
what the code does with them: `PySequence_Fast` makes a list or uses the one that was given, the
loop takes pointers and no references, and `Py_DECREF` gives up the list.

* `Effect`, `Action`, `Iterator` — what an iterator does, as far as references go
* `Refs.convertTxOutputs` — the conversion
* `Refs.verifyPointers` — the pointers with which `BtcK_ScriptPubkey_Verify` is called
* `Caller` — a caller whose references are in order
-/

namespace Btck.Python

open Infra

variable {core : BitcoinCore}

/--
The objects, and the references to them that are held elsewhere in the program: by variables, by
containers, by the frame of a generator.
-/
structure RefState (core : BitcoinCore) where
  heap : Heap (Counted (PyObj core))
  others : Multiset Nat

namespace RefState

variable {ε α : Type}

def onHeap (x : Prog (Heap (Counted (PyObj core))) ε α) : Prog (RefState core) ε α := fun s =>
  ((x s.heap).1, { s with heap := (x s.heap).2 })

theorem onHeap_run {x : Prog (Heap (Counted (PyObj core))) ε α} {s : RefState core}
    {out : Outcome ε α} {h' : Heap (Counted (PyObj core))} (h : x s.heap = (out, h')) :
    onHeap x s = (out, { s with heap := h' }) := by
  rw [onHeap, h]

/-- The object, if it is there. -/
def value? (s : RefState core) (n : Nat) : Option (PyObj core) := (s.heap.cell n).map (·.value)

end RefState

open RefState

/-! ## Iterators -/

/--
What a piece of code does to the objects. A reference that it has may be held by a frame, or by
anything else that it can reach.
-/
inductive Effect (core : BitcoinCore) where
  /-- Make an object. -/
  | create (o : PyObj core)
  /-- Take another reference to an object. -/
  | retain (n : Nat)
  /-- Give up a reference. -/
  | drop (n : Nat)

/-- Without a reference to the object, there is nothing that could be done with it. -/
def Effect.run {ε : Type} : Effect core → Prog (RefState core) ε Unit
  | create o => fun s =>
    (.returns (), { heap := s.heap.alloc (.fresh o), others := s.heap.next ::ₘ s.others })
  | retain n => fun s =>
    if n ∈ s.others then onHeap (Counted.incref n) { s with others := n ::ₘ s.others }
    else (.returns (), s)
  | drop n => fun s =>
    if n ∈ s.others then onHeap (Counted.decref n) { s with others := s.others.erase n }
    else (.returns (), s)

def runEffects {ε : Type} : List (Effect core) → Prog (RefState core) ε Unit
  | [] => return ()
  | effect :: effects => do
    effect.run
    runEffects effects

/-- A step of the code behind an iterator. -/
inductive Action (core : BitcoinCore) where
  | effect (effect : Effect core)
  /-- Hand a reference over as the next item. -/
  | yield (n : Nat)

def Action.run : Action core → Prog (RefState core) PyErr (List Nat)
  | effect e => do
    e.run
    return []
  | yield n => fun s =>
    if n ∈ s.others then (.returns [n], { s with others := s.others.erase n })
    else (.returns [], s)

theorem Action.run_yield {n : Nat} {s : RefState core} (hn : n ∈ s.others) :
    (Action.yield n : Action core).run s
      = (.returns [n], { s with others := s.others.erase n }) := if_pos hn

/-- The items that the steps of an iterator yield. The references are the consumer's. -/
def iterate : List (Action core) → Prog (RefState core) PyErr (List Nat)
  | [] => return []
  | action :: actions => do
    let item ← action.run
    let items ← iterate actions
    return item ++ items

/--
An iterator: its steps, the exception at the end, if there is one, and what becomes of it when the
consumer has given it up. The references that only the iterator holds go then, if nobody else has
the iterator.
-/
structure Iterator (core : BitcoinCore) where
  actions : List (Action core)
  exc : Option PyErr
  dealloc : List (Effect core)

/-- All items, from an iterator that is given up when it has yielded them. -/
def Iterator.consume (it : Iterator core) : Prog (RefState core) PyErr (List Nat) := do
  let items ← iterate it.actions
  runEffects it.dealloc
  return items

/-! ## `convert_tx_outputs` -/

/-- An object that is given for `spent_outputs`. -/
inductive SpentRefs (core : BitcoinCore) where
  | none
  /-- A list or a tuple, with the references that it holds. -/
  | sequence (items : List Nat)
  /-- Any other iterable. -/
  | iterable (it : Iterator core)

/-- What iterating over a view does: `sq_item` makes an object, and keeps no reference to it. -/
def viewActions : Nat → List (PyObj core) → List (Action core)
  | _, [] => []
  | next, o :: os => .effect (.create o) :: .yield next :: viewActions (next + 1) os

/-- The iterator of a view holds the view, and none of the items. -/
def viewIterator (next : Nat) (os : List (PyObj core)) (exc : Option PyErr) : Iterator core where
  actions := viewActions next os
  exc := exc
  dealloc := []

/-- A pointer in a `TxOutputArray`, and the object whose field it was. -/
structure OutputPtr where
  owner : Nat
  impl : Option CTxOut
  deriving DecidableEq, Repr

namespace Refs

/--
`Py_DECREF` of what `PySequence_Fast` returned. The list or tuple that was given is still held by
the caller; a new list goes, with its references.
-/
def dropSequence (obj : SpentRefs core) (items : List Nat) : Prog (RefState core) Empty Unit :=
  match obj with
  | .iterable _ => onHeap (Counted.decrefAll items)
  | _ => return ()

/--
`PySequence_Fast`. The iterator is given up with the last item, and also when there is no list of
the items in the end.
-/
def sequenceFast (env : Env) : SpentRefs core → Prog (RefState core) PyErr (List Nat)
  | .none => Prog.throw ⟨.typeError, some "spent_outputs must be a sequence"⟩
  | .sequence items => return items
  | .iterable it => do
    let items ← iterate it.actions
    match it.exc with
    | some exc => do
      onHeap (Counted.decrefAll items)
      runEffects it.dealloc
      Prog.throw exc
    | .none =>
      if env.object 0 then do
        runEffects it.dealloc
        return items
      else do
        onHeap (Counted.decrefAll items)
        runEffects it.dealloc
        Prog.throw noMemory

/-- The loop of `convert_tx_outputs`. The references are borrowed. -/
def storeAll : List Nat → Nat → Prog (RefState core) PyErr (List OutputPtr)
  | [], _ => return []
  | item :: items, idx => do
    let object ← onHeap (Heap.read item)
    match object.value with
    | .transactionOutput impl => do
      let data ← storeAll items (idx + 1)
      return { owner := item, impl := impl } :: data
    | _ =>
      Prog.throw
        ⟨.typeError, some ("spent_outputs[" ++ Nat.repr idx ++ "] is not a TransactionOutput")⟩

/-- `convert_tx_outputs`. Every way out leads over `Py_DECREF(seq)`. -/
def convertTxOutputs (env : Env) : SpentRefs core → Prog (RefState core) PyErr (List OutputPtr)
  | .none => return []
  | obj => do
    let seq ← sequenceFast env obj
    Prog.andFinally (if !env.object 1 then Prog.throw noMemory else storeAll seq 0)
      (dropSequence obj seq)

/-- `spent_outputs`, which need not be given. -/
def convertSpent (env : Env) : Option (SpentRefs core) →
    Prog (RefState core) PyErr (List OutputPtr)
  | none => return []
  | some obj => convertTxOutputs env obj

/-- An argument behind `|` in the format. -/
def argument {α β : Type} (arg : Option α) (value : β) (parse : α → Outcome PyErr β) :
    Outcome PyErr β :=
  match arg with
  | none => .returns value
  | some a => parse a

/--
`verify` up to the call of `BtcK_ScriptPubkey_Verify`, with the pointers that it gets. The parser
runs no code of the program for the arguments behind `spent_outputs`.
-/
def verifyPointers (env : Env) (args : VerifyArgs core) (spent : Option (SpentRefs core)) :
    Prog (RefState core) PyErr (List OutputPtr) := do
  let _amount ← Prog.lift (parseLongLong args.amount)
  let _txTo ← Prog.lift (parseTransaction args.txTo)
  let spentOutputs ← convertSpent env spent
  let _inputIndex ← Prog.lift (argument args.inputIndex 0 parseUnsignedInt)
  let _flags ← Prog.lift (argument args.flags none fun obj => some <$> parseFlags obj)
  return spentOutputs

end Refs

/-- The caller of `verify`. It holds the list or tuple that it gives, if it gives one. -/
structure Caller (core : BitcoinCore) where
  state : RefState core
  counts : Counts state.heap state.others
  spent : Option (SpentRefs core)
  held : ∀ items, spent = some (.sequence items) → ∀ n ∈ items, n ∈ state.others

end Btck.Python
