import Btck.Infra.Links
import Btck.Native
import Btck.Python.Module

/-!
# Python objects in memory (`bindings/python/src`, one level down)

`Btck.Python.Object` takes the objects of the module for values, and its sessions keep them all.
Here they are counted objects on a heap of their own, beside the memory of the library. An object
has a pointer to an object of the library, and frees it when its last reference is dropped; a
`_Slice` has a reference to the object that it is a view of, and drops it. The counts of other
objects are not kept here: an argument `raw` gets one more with the `Py_buffer`, which no
constructor gives back.

* `Self`, `Process` — the objects, and the memory of a process
* `decref` — `Py_DECREF`, with the `dealloc` functions
* `selfNew`, …, `newScriptPubkey` — the functions of the module
* `Op`, `Scope`, `runAll` — programs that take and drop references
-/

namespace Btck.Python

open Infra

variable {core : BitcoinCore} {ε α : Type}

/-! ## Objects -/

/-- `struct Self`, behind the header. -/
inductive Self where
  /-- An object of one of the four types with a field `impl`. -/
  | object (k : Kind) (impl : Option (Ptr k))
  /-- A `_Slice`. The reference to `obj` is its own. -/
  | slice (obj : Nat) (words : SliceWords)

/-- The memory of a process. -/
structure Process (core : BitcoinCore) where
  objects : Heap (Counted Self)
  native : Native core

/-- What a call returns: a new reference to an object of the module, or an object of CPython's. -/
inductive Ref (core : BitcoinCore) where
  | self (n : Nat)
  | plain (o : PyObj core)

namespace Process

def empty (errors : Memory) : Process core where
  objects := Heap.empty []
  native := Native.empty errors

def objectsPart : Part (Process core) (Heap (Counted Self)) where
  get s := s.objects
  set s objects := { s with objects := objects }

def nativePart : Part (Process core) (Native core) where
  get s := s.native
  set s native := { s with native := native }

/-- Code that works on the objects of the module. -/
def onObjects (x : Prog (Heap (Counted Self)) ε α) : Prog (Process core) ε α :=
  Prog.within objectsPart x

/-- A call of the library. -/
def onNative (x : Prog (Native core) ε α) : Prog (Process core) ε α := Prog.within nativePart x

/-! ## References -/

/--
`Py_DECREF`. An object whose count gets to zero is deallocated: `dealloc` frees the handle or drops
the reference, and then gives back the memory. What a view refers to is older than the view, so
`depth` need not be more than the number of objects.
-/
def decref : Nat → Nat → Prog (Process core) ε Unit
  | 0, _ => Prog.fault .undefined
  | depth + 1, n => do
    let object ← onObjects (Heap.read n)
    onObjects (Heap.write n { object with refcnt := object.refcnt - 1 })
    if object.refcnt ≤ 1 then do
      (match object.value with
        | .object _ impl => onNative ((Btck.native core).free impl)
        | .slice obj _ => decref depth obj)
      onObjects (Heap.free n)
    else return ()

/-- `return SetError(error);` -/
def raise (error : ErrorPtr) : Prog (Process core) PyErr α := do
  let exc ← onNative (Prog.within (Btck.native core).errors (setError error))
  Prog.throw exc

/-! ## Building objects -/

variable (env : Env)

/-- `Block_New`, `Transaction_New`, `TransactionOutput_New` and `ScriptPubkey_New` -/
def selfNew (k : Kind) (impl : Option (Ptr k)) : Prog (Process core) PyErr Nat :=
  if env.object 0 then onObjects (Heap.place (Counted.fresh (.object k impl)))
  else do
    onNative ((Btck.native core).free impl)
    Prog.throw noMemory

/-- The end of `Slice_New` and of `subscript`. -/
def sliceNew (obj : Nat) (words : SliceWords) : Prog (Process core) PyErr Nat :=
  if env.object 0 then do
    onObjects (Counted.incref obj)
    onObjects (Heap.place (Counted.fresh (.slice obj words)))
  else Prog.throw noMemory

/-- An error is raised. Without one, the handle gets its object. -/
def finish (k : Kind) : Option (Ptr k) × Option ErrorPtr → Prog (Process core) PyErr Nat
  | (_, some err) => raise err
  | (ptr, none) => selfNew env k ptr

/-- A `Copy` function, and what the module does with its result. -/
def copyNew {k : Kind} (self : Option (Ptr k)) : Prog (Process core) PyErr Nat := do
  let result ← onNative ((Btck.native core).copy (env.native 0) self true)
  finish env k result

/-! ## `transaction_output.c`, `transaction.c` and `block.c` -/

/-- `get_script_pubkey` -/
def getScriptPubkey (impl : Option (Ptr .transactionOutput)) : Prog (Process core) PyErr Nat := do
  let script ← onNative (Runtime.TransactionOutput.getScriptPubkey (Btck.native core) impl)
  copyNew env script

/-- `outputs_item` -/
def outputsItem (impl : Option (Ptr .transaction)) (idx : Int) :
    Prog (Process core) PyErr Nat := do
  let output ←
    onNative (Runtime.Transaction.getOutput (Btck.native core) impl (Int64.ofInt idx).toUInt64)
  copyNew env output

/-- `get_outputs` -/
def getOutputs (self : Nat) (impl : Option (Ptr .transaction)) :
    Prog (Process core) PyErr Nat := do
  let length ← onNative (Runtime.Transaction.countOutputs (Btck.native core) impl)
  sliceNew env self { env.words with length := length.toInt64.toInt, item := .outputsItem }

/-- `transactions_item` -/
def transactionsItem (impl : Option (Ptr .block)) (idx : Int) : Prog (Process core) PyErr Nat := do
  let tx ←
    onNative (Runtime.Block.getTransaction (Btck.native core) impl (Int64.ofInt idx).toUInt64)
  copyNew env tx

/-- `get_transactions` -/
def getTransactions (self : Nat) (impl : Option (Ptr .block)) : Prog (Process core) PyErr Nat := do
  let length ← onNative (Runtime.Block.countTransactions (Btck.native core) impl)
  sliceNew env self { env.words with length := length.toInt64.toInt, item := .transactionsItem }

/-! ## `_slice.c` -/

/-- `self->item(self->obj, idx)` -/
def callItem (fn : ItemFn) (obj : Nat) (idx : Int) : Prog (Process core) PyErr Nat := do
  let object ← onObjects (Heap.read obj)
  match fn, object.value with
  | .outputsItem, .object .transaction impl => outputsItem env impl idx
  | .transactionsItem, .object .block impl => transactionsItem env impl idx
  | _, _ => Prog.fault .undefined

/-- `item`, with a bound for the number of views below each other. -/
def item : Nat → Nat → Int → Prog (Process core) PyErr Nat
  | 0, _, _ => Prog.fault .undefined
  | depth + 1, self, idx => do
    let object ← onObjects (Heap.read self)
    match object.value with
    | .slice obj words =>
      if idx < 0 ∨ idx ≥ words.length then
        Prog.throw ⟨.indexError, some "index out of range"⟩
      else if words.item ≠ .null then callItem env words.item obj idx
      else do
        let offset ← Prog.lift (ssize (idx * words.step))
        let idx ← Prog.lift (ssize (words.start + offset))
        item depth obj idx
    | .object _ _ => Prog.fault .nullDeref

/-- `sq_item` of a view: there are no more views below each other than objects. -/
def sqItem (self : Nat) (idx : Int) : Prog (Process core) PyErr Nat := fun s =>
  item env s.objects.next self idx s

/-- The branch of `subscript` for an integer. -/
def subscriptIndex (self : Nat) (words : SliceWords) (k : Int) : Prog (Process core) PyErr Nat := do
  let idx ← Prog.lift (PyNumber.asSsize_t k)
  let idx ← if idx < 0 then Prog.lift (ssize (idx + words.length)) else pure idx
  sqItem env self idx

/-- The branch of `subscript` for a slice object. It leaves `item` as it was. -/
def subscriptSlice (self : Nat) (words : SliceWords) (s : Btck.Python.Slice) :
    Prog (Process core) PyErr Nat := do
  let u ← Prog.lift (PySlice.unpack s)
  let (start, _, count) := PySlice.adjustIndices words.length u
  sliceNew env self { env.words with length := count, start := start, step := u.step }

/-- `subscript` -/
def subscript (self : Nat) (words : SliceWords) (arg : PyObj core) :
    Prog (Process core) PyErr Nat :=
  match arg.index?, arg with
  | some k, _ => subscriptIndex env self words k
  | none, .sliceObject s => subscriptSlice env self words s
  | none, _ =>
    Prog.throw ⟨.typeError, some ("indices must be integers or slices, not " ++ arg.typeName)⟩

/-! ## Constructors -/

/--
The constructors of `Block` and `Transaction`. The C function gets no place for an error. The buffer
of `raw` is read; the reference that it has to `raw` is of an object that is not on the heap.
-/
def newBlock (raw : PyObj core) : Prog (Process core) PyErr Nat :=
  match raw.buffer? with
  | some b => do
    let (block, _) ← onNative (Runtime.Block.new (Btck.native core) env.native b false)
    selfNew env .block block
  | none => Prog.throw ⟨.typeError, none⟩

def newTransaction (raw : PyObj core) : Prog (Process core) PyErr Nat :=
  match raw.buffer? with
  | some b => do
    let (tx, _) ← onNative (Runtime.Transaction.new (Btck.native core) env.native b false)
    selfNew env .transaction tx
  | none => Prog.throw ⟨.typeError, none⟩

/-- The constructor of `ScriptPubkey` -/
def newScriptPubkey (raw : PyObj core) : Prog (Process core) PyErr Nat :=
  match raw.buffer? with
  | some b => do
    let result ← onNative (Runtime.ScriptPubkey.new (Btck.native core) env.native b true)
    finish env .scriptPubkey result
  | none => Prog.throw ⟨.typeError, none⟩

/-! ## Methods -/

/-- The `bytes` functions. -/
def bytes : Self → Prog (Process core) PyErr (PyObj core)
  | .object .block impl => do
    let block ← onNative (Runtime.Block.value (Btck.native core) impl)
    Prog.lift (toBytes env (Btck.Block.toBytes core (some block)))
  | .object .transaction impl => do
    let tx ← onNative (Runtime.Transaction.value (Btck.native core) impl)
    Prog.lift (toBytes env (Btck.Transaction.toBytes core (some tx)))
  | .object .scriptPubkey impl => do
    let script ← onNative ((Btck.native core).get impl)
    Prog.lift (toBytes env (Btck.ScriptPubkey.toBytes (some script)))
  | _ => Prog.throw Call.noAttribute

/-- The `str` functions. -/
def str : Self → Prog (Process core) PyErr (PyObj core)
  | .object .block impl => do
    let block ← onNative (Runtime.Block.value (Btck.native core) impl)
    let text ← Prog.lift
      (toString (env.object 0) env.chars (Btck.Block.toString core (some block)))
    return .str text
  | .object .transaction impl => do
    let tx ← onNative (Runtime.Transaction.value (Btck.native core) impl)
    let text ← Prog.lift
      (toString (env.object 0) env.chars (Btck.Transaction.toString core (some tx)))
    return .str text
  | .object .transactionOutput impl => do
    let out ← onNative ((Btck.native core).get impl)
    let text ← Prog.lift
      (toString (env.object 0) env.chars (Btck.TransactionOutput.toString core (some out)))
    return .str text
  | _ => Prog.throw Call.noAttribute

/-- An object of CPython's. -/
def plainNew (o : PyObj core) : Prog (Process core) PyErr (Ref core) :=
  if env.object 0 then return .plain o else Prog.throw noMemory

/-- The getters. -/
def getAttr (n : Nat) : Self → Attribute → Prog (Process core) PyErr (Ref core)
  | .object .block impl, .hash => do
    let hash ← onNative (Runtime.Block.getHash (Btck.native core) impl)
    plainNew env (.blockHash hash)
  | .object .block impl, .transactions => .self <$> getTransactions env n impl
  | .object .transaction impl, .outputs => .self <$> getOutputs env n impl
  | .object .transactionOutput impl, .amount => do
    let amount ← onNative (Runtime.TransactionOutput.getAmount (Btck.native core) impl)
    plainNew env (.int amount.toInt)
  | .object .transactionOutput impl, .scriptPubkey => .self <$> getScriptPubkey env impl
  | _, _ => Prog.throw Call.noAttribute

end Process

/-! ## Programs -/

open Process

/-- What can be done with an object of the module, but for comparisons and `verify`. -/
inductive Method (core : BitcoinCore) where
  | bytes
  | str
  | getAttr (name : Attribute)
  | len
  | subscript (arg : PyObj core)
  /-- A step of an iterator. -/
  | next (idx : Nat)

/-- The call, for an object that is taken for a value. -/
def Method.call (o : PyObj core) : Method core → Call core
  | bytes => .bytes o
  | str => .str o
  | getAttr name => .getAttr o name
  | len => .len o
  | subscript arg => .subscript o arg
  | next idx => .next o idx

def Method.run (env : Env) (n : Nat) (self : Self) :
    Method core → Prog (Process core) PyErr (Ref core)
  | bytes => .plain <$> Process.bytes env self
  | str => .plain <$> Process.str env self
  | getAttr name => Process.getAttr env n self name
  | len =>
    match self with
    | .slice _ words => plainNew env (.int words.length)
    | .object _ _ => Prog.throw Call.noAttribute
  | subscript arg =>
    match self with
    | .slice _ words => .self <$> Process.subscript env n words arg
    | .object _ _ => Prog.throw Call.noAttribute
  | next idx =>
    match self with
    | .slice _ _ => .self <$> sqItem env n idx
    | .object _ _ => Prog.throw Call.noAttribute

/--
What a program does: it makes objects, uses them, and takes and drops references to them. Outputs
are made as items of `outputs` only, and hashes are plain bytes.
-/
inductive Op (core : BitcoinCore) where
  | newBlock (raw : PyObj core)
  | newTransaction (raw : PyObj core)
  | newScriptPubkey (raw : PyObj core)
  | method (n : Nat) (m : Method core)
  | incref (n : Nat)
  | decref (n : Nat)

/-- A program with the references that it has. -/
structure Scope (core : BitcoinCore) where
  process : Process core
  held : Multiset Nat

namespace Scope

def empty (errors : Memory) : Scope core where
  process := Process.empty errors
  held := 0

/-- A call. The program gets the reference that it returns, and catches the exception. -/
def call (x : Prog (Process core) PyErr (Ref core)) : Prog (Scope core) Empty Unit := fun s =>
  match x s.process with
  | (.returns (.self n), p) => (.returns (), { process := p, held := n ::ₘ s.held })
  | (.returns (.plain _), p) => (.returns (), { s with process := p })
  | (.throws _, p) => (.returns (), { s with process := p })
  | (.faults u, p) => (.faults u, { s with process := p })

end Scope

/-- Without a reference to an object, there is nothing that a program could do with it. -/
def Op.run (env : Env) : Op core → Prog (Scope core) Empty Unit
  | newBlock raw => Scope.call (.self <$> Process.newBlock env raw)
  | newTransaction raw => Scope.call (.self <$> Process.newTransaction env raw)
  | newScriptPubkey raw => Scope.call (.self <$> Process.newScriptPubkey env raw)
  | method n m => fun s =>
    if n ∈ s.held then
      (Scope.call do
        let object ← onObjects (Heap.read n)
        m.run env n object.value : Prog (Scope core) Empty Unit) s
    else (.returns (), s)
  | incref n => fun s =>
    if n ∈ s.held then
      (Scope.call do
        onObjects (Counted.incref n)
        return .self n : Prog (Scope core) Empty Unit) s
    else (.returns (), s)
  | decref n => fun s =>
    if n ∈ s.held then
      (Scope.call do
        Process.decref s.process.objects.next n
        return .plain .none : Prog (Scope core) Empty Unit) { s with held := s.held.erase n }
    else (.returns (), s)

/-- A program, with what the world decides in each step. -/
def runAll : List (Env × Op core) → Prog (Scope core) Empty Unit
  | [] => return ()
  | (env, op) :: ops => do
    op.run env
    runAll ops

end Btck.Python
