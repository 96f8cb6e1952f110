import Btck.Object
import Btck.Python.Index

/-!
# Objects and calls of the Python module

Python objects are values here: none of the module's objects changes after it was built. An
object of the module holds the handle that it was built around, null or not.

A call works on the C library's memory and leaves a trace. `Env` is what the world decides in the
course of a call: which allocations succeed, and what new memory holds.

* `PyObj` — the objects, with `SliceWords` for the fields of a `_Slice`
* `State`, `Event` — memory and trace
* `callNative`, `create`, `setErr` — how the functions of the module call the C library, and how
  they report its errors
* `blockNew`, …, `sliceNew` — the functions that build an object
-/

namespace Btck.Python

open Infra

/-! ## Objects -/

/-- A `ssizeargfunc`, or whatever else the word in the `item` field of a `_Slice` is. -/
inductive ItemFn where
  | null
  /-- `outputs_item` of `transaction.c` -/
  | outputsItem
  /-- `transactions_item` of `block.c` -/
  | transactionsItem
  | other (word : Nat)
  deriving DecidableEq, Repr

/-- The fields of a `_Slice` behind `obj`. -/
structure SliceWords where
  length : Int
  start : Int
  step : Int
  item : ItemFn
  deriving DecidableEq, Repr

/-- A type that is neither the module's nor one of CPython's that are listed in `PyObj`. -/
structure ForeignType where
  name : String
  /-- What the `__repr__` of its metaclass does, which may be anybody's code. -/
  repr : Except PyErr String

/-- A Python object. -/
inductive PyObj (core : BitcoinCore) where
  | block (impl : Option core.CBlock)
  | transaction (impl : Option core.CTransaction)
  | transactionOutput (impl : Option CTxOut)
  | scriptPubkey (impl : Option CScript)
  | blockHash (impl : Bytes)
  | verificationFlags (impl : UInt32)
  /-- A `_Slice` -/
  | slice (obj : PyObj core) (words : SliceWords)
  | none
  | bool (b : Bool)
  | int (n : Int)
  | bytes (b : Bytes)
  | str (s : Bytes)
  /-- A slice object, the argument of a subscription. -/
  | sliceObject (s : Slice)
  | other (type : ForeignType)

namespace PyObj

variable {core : BitcoinCore}

/-- `Py_TYPE(object)->tp_name` -/
def typeName : PyObj core → String
  | block _ => "btck.Block"
  | transaction _ => "btck.Transaction"
  | transactionOutput _ => "btck.TransactionOutput"
  | scriptPubkey _ => "btck.ScriptPubkey"
  | blockHash _ => "btck.BlockHash"
  | verificationFlags _ => "btck.VerificationFlags"
  | slice _ _ => "btck._Slice"
  | none => "NoneType"
  | bool _ => "bool"
  | int _ => "int"
  | bytes _ => "bytes"
  | str _ => "str"
  | sliceObject _ => "slice"
  | other type => type.name

/-- `repr(Py_TYPE(object))` -/
def typeRepr : PyObj core → Outcome PyErr String
  | other type =>
    match type.repr with
    | .ok text => .returns text
    | .error e => .throws e
  | o => .returns ("<class '" ++ o.typeName ++ "'>")

/-- The integer of an object for which `PyIndex_Check` holds. -/
def index? : PyObj core → Option Int
  | int n => some n
  | bool b => some (if b then 1 else 0)
  | _ => Option.none

/-- The bytes of an object with a buffer. -/
def buffer? : PyObj core → Option Bytes
  | bytes b => some b
  | blockHash h => some h
  | _ => Option.none

end PyObj

/-! ## Memory and trace -/

/-- What a call has to give back. -/
inductive Resource where
  /-- A `Py_buffer` -/
  | buffer
  /-- The array of `convert_tx_outputs` -/
  | array
  /-- A `BtcK_Error` -/
  | error
  /-- An object handle that no Python object owns yet -/
  | handle
  deriving DecidableEq, Repr

/-- What a call does that others can see. -/
inductive Event where
  /-- A handle is passed to the C library. -/
  | passed (null : Bool)
  /-- A `New` or `Copy` of the C library has returned. -/
  | created (failed : Bool)
  | acquired (r : Resource)
  | released (r : Resource)
  deriving DecidableEq, Repr

structure State where
  memory : Memory
  events : List Event

/-- What the world decides in the course of a call. -/
structure Env where
  /-- The allocations of the C library. -/
  native : Nat → Bool
  /-- The allocations of CPython. -/
  object : Nat → Bool
  /-- The growing of a `PyBytesWriter`. -/
  grow : Nat → Bool
  /-- The characters of a new string. -/
  chars : Nat → UInt8
  /-- The fields of a new `_Slice`: `PyObject_New` sets the header only. -/
  words : SliceWords

variable {ε α : Type}

/-- A call of the C library that works on its memory. -/
def onMemory (x : Prog Memory ε α) : Prog State ε α := fun s =>
  ((x s.memory).1, { s with memory := (x s.memory).2 })

def record (e : Event) : Prog State ε Unit := fun s =>
  (.returns (), { s with events := s.events ++ [e] })

theorem record_run (e : Event) (s : State) :
    (record e : Prog State ε Unit) s = (.returns (), { s with events := s.events ++ [e] }) := rfl

/-- Pass a handle to the C library. -/
def pass (impl : Option α) : Prog State ε Unit := record (.passed impl.isNone)

theorem pass_run (impl : Option α) (s : State) :
    (pass impl : Prog State ε Unit) s
      = (.returns (), { s with events := s.events ++ [.passed impl.isNone] }) := rfl

/-- Call a function of the C library that may store an error. -/
def callNative (call : Prog Memory ε (α × Option ErrorPtr)) : Prog State ε (α × Option ErrorPtr) :=
  do
    let (result, err) ← onMemory call
    if err.isSome then record (.acquired .error)
    return (result, err)

/-- Call a `New` or `Copy` function of the C library. -/
def create (call : Prog Memory ε (Option α × Option ErrorPtr)) :
    Prog State ε (Option α × Option ErrorPtr) := do
  let (ptr, err) ← callNative call
  record (.created ptr.isNone)
  if ptr.isSome then record (.acquired .handle)
  return (ptr, err)

/-- `return SetError(error);` -/
def setErr (error : ErrorPtr) : Prog State PyErr α := do
  let exc ← onMemory (setError error)
  record (.released .error)
  Prog.throw exc

/-- `PyErr_NoMemory` -/
def noMemory : PyErr := ⟨.memoryError, none⟩

/-! ## Building objects -/

section

variable {core : BitcoinCore}

/-- `PyObject_New`, and what is done with the handle. -/
def newObject (env : Env) (wrap : Option α → PyObj core) (impl : Option α) :
    Prog State PyErr (PyObj core) :=
  if env.object 0 then return wrap impl
  else do
    if impl.isSome then record (.released .handle)
    Prog.throw noMemory

/-- `Block_New` -/
def blockNew (env : Env) : Option core.CBlock → Prog State PyErr (PyObj core) :=
  newObject env .block

/-- `Transaction_New` -/
def transactionNew (env : Env) : Option core.CTransaction → Prog State PyErr (PyObj core) :=
  newObject env .transaction

/-- `TransactionOutput_New` -/
def transactionOutputNew (env : Env) : Option CTxOut → Prog State PyErr (PyObj core) :=
  newObject env .transactionOutput

/-- `ScriptPubkey_New` -/
def scriptPubkeyNew (env : Env) : Option CScript → Prog State PyErr (PyObj core) :=
  newObject env .scriptPubkey

/-- The object has a handle, which its `dealloc` gives to a `Free` function. -/
def PyObj.hasHandle : PyObj core → Bool
  | .block impl => impl.isSome
  | .transaction impl => impl.isSome
  | .transactionOutput impl => impl.isSome
  | .scriptPubkey impl => impl.isSome
  | _ => false

/-- `dealloc`: the last reference to the object has been dropped. -/
def dealloc (o : PyObj core) : Prog State ε Unit :=
  if o.hasHandle then record (.released .handle) else return ()

/-- An object of CPython's, or one without a handle. -/
def newValue (env : Env) (o : PyObj core) : Prog State PyErr (PyObj core) :=
  if env.object 0 then return o else Prog.throw noMemory

/-- `BlockHash_New` -/
def blockHashNew (env : Env) (hash : Bytes) : Prog State PyErr (PyObj core) :=
  newValue env (.blockHash hash)

/-- `VerificationFlags_New` -/
def verificationFlagsNew (env : Env) (value : UInt32) : Prog State PyErr (PyObj core) :=
  newValue env (.verificationFlags value)

/-- `Slice_New`. It leaves `start` and `step` as they were. -/
def sliceNew (env : Env) (obj : PyObj core) (length : Int) (item : ItemFn) :
    Prog State PyErr (PyObj core) :=
  newValue env (.slice obj { env.words with length := length, item := item })

/-! ## Arguments -/

/-- The format unit `y*`. -/
def parseBuffer (raw : PyObj core) : Prog State PyErr Bytes :=
  match raw.buffer? with
  | some b => do
    record (.acquired .buffer)
    return b
  | none => Prog.throw ⟨.typeError, none⟩

/-- The format unit `L`: a `long long`. -/
def parseLongLong (arg : PyObj core) : Outcome PyErr Int64 :=
  match arg.index? with
  | some n => if IsSsize n then .returns (Int64.ofInt n) else .throws ⟨.overflowError, none⟩
  | none => .throws ⟨.typeError, none⟩

/-- The format unit `I`: an `unsigned int`. What does not fit is cut off. -/
def parseUnsignedInt (arg : PyObj core) : Outcome PyErr UInt32 :=
  match arg.index? with
  | some n => .returns (UInt32.ofInt n)
  | none => .throws ⟨.typeError, none⟩

end

/-! ## Comparison -/

/-- The operator of a rich comparison. -/
inductive CompareOp where
  | lt | le | eq | ne | gt | ge
  deriving DecidableEq, Repr

/-- `opstrings` -/
def CompareOp.string : CompareOp → String
  | lt => "<"
  | le => "<="
  | eq => "=="
  | ne => "!="
  | gt => ">"
  | ge => ">="

/-- `cmp_not_implemented`. To raise the exception the types are asked for their `repr`. -/
def cmpNotImplemented {core : BitcoinCore} {α : Type} (left right : PyObj core) (op : CompareOp) :
    Outcome PyErr α := do
  let l ← left.typeRepr
  let r ← right.typeRepr
  .throws ⟨.typeError, some ("'" ++ op.string ++ "' is not supported between instances of " ++ l
    ++ " and " ++ r)⟩

end Btck.Python
