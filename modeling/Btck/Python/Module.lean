import Btck.Infra.Run
import Btck.Python.ScriptPubkey

/-!
# The module (`bindings/python/btck.c` and `btck.pyi`)

A program uses the module by calling it: constructors, methods, attributes and operators, on
objects that it got from earlier calls and on any object of CPython's. A `Session` is what such a
program has done so far. Objects stay to its end: nothing is deallocated, which would call a `Free`
function, and these accept null.

* `Call`, `Call.run` — the calls
* `Session`, `Step` — sessions, one call after the other
-/

namespace Btck.Python

open Infra

/-- An attribute that is computed by a getter. -/
inductive Attribute where
  | hash
  | transactions
  | outputs
  | amount
  | scriptPubkey
  deriving DecidableEq, Repr

/-- An operator of `as_number`. -/
inductive BinaryOp where
  | or | and | xor
  deriving DecidableEq, Repr

/-- A call of the module. -/
inductive Call (core : BitcoinCore) where
  | newBlock (raw : PyObj core)
  | newTransaction (raw : PyObj core)
  | newTransactionOutput (amount scriptPubkey : PyObj core)
  | newScriptPubkey (raw : PyObj core)
  | newBlockHash (raw : PyObj core)
  | newChain
  | bytes (self : PyObj core)
  | str (self : PyObj core)
  | getAttr (self : PyObj core) (name : Attribute)
  | len (self : PyObj core)
  | subscript (self arg : PyObj core)
  /-- A step of an iterator over `self`. -/
  | next (self : PyObj core) (idx : Nat)
  | compare (self other : PyObj core) (op : CompareOp)
  | binary (op : BinaryOp) (left right : PyObj core)
  | invert (self : PyObj core)
  | verify (self : PyObj core) (args : VerifyArgs core) (items : Int → Env)

namespace Call

variable {core : BitcoinCore}

/-- The type has no such attribute or operator. -/
def noAttribute : PyErr := ⟨.attributeError, none⟩

def runBytes (env : Env) : PyObj core → Prog State PyErr (PyObj core)
  | .block impl => Block.bytes core env impl
  | .transaction impl => Transaction.bytes core env impl
  | .scriptPubkey impl => ScriptPubkey.bytes env impl
  | .blockHash impl => BlockHash.bytes core env impl
  | _ => Prog.throw noAttribute

def runStr (env : Env) : PyObj core → Prog State PyErr (PyObj core)
  | .block impl => Block.str core env impl
  | .transaction impl => Transaction.str core env impl
  | .transactionOutput impl => TransactionOutput.str core env impl
  | .verificationFlags impl => VerificationFlags.str env impl
  | _ => Prog.throw noAttribute

def runGetAttr (env : Env) : PyObj core → Attribute → Prog State PyErr (PyObj core)
  | .block impl, .hash => Block.getHash core env impl
  | .block impl, .transactions => Block.getTransactions core env impl
  | .transaction impl, .outputs => Transaction.getOutputs core env impl
  | .transactionOutput impl, .amount => TransactionOutput.getAmount core env impl
  | .transactionOutput impl, .scriptPubkey => TransactionOutput.getScriptPubkey core env impl
  | _, _ => Prog.throw noAttribute

def isFlags : PyObj core → Bool
  | .verificationFlags _ => true
  | _ => false

/-- The number slot is called as soon as one of the operands is of the type. -/
def runBinary (env : Env) (op : BinaryOp) (left right : PyObj core) :
    Prog State PyErr (PyObj core) :=
  if isFlags left || isFlags right then
    match op with
    | .or => VerificationFlags.nbOr env left right
    | .and => VerificationFlags.nbAnd env left right
    | .xor => VerificationFlags.nbXor env left right
  else Prog.throw noAttribute

/-- What a call does. `Chain()` returns NULL and sets no exception. -/
def run (env : Env) : Call core → Prog State PyErr (PyObj core)
  | newBlock raw => Block.new core env raw
  | newTransaction raw => Transaction.new core env raw
  | newTransactionOutput amount _ => TransactionOutput.new core amount
  | newScriptPubkey raw => ScriptPubkey.new env raw
  | newBlockHash raw => BlockHash.new core env raw
  | newChain => Prog.throw ⟨.systemError, none⟩
  | bytes self => runBytes env self
  | str self => runStr env self
  | getAttr self name => runGetAttr env self name
  | len (.slice obj words) => newValue env (.int (Slice.length (.slice obj words)))
  | len _ => Prog.throw noAttribute
  | subscript (.slice obj words) arg => Slice.subscript env (.slice obj words) arg
  | subscript _ _ => Prog.throw noAttribute
  | next (.slice obj words) idx => Slice.item env (.slice obj words) idx
  | next _ _ => Prog.throw noAttribute
  | compare (.scriptPubkey impl) other op => ScriptPubkey.richcmp impl other op
  | compare (.verificationFlags impl) other op =>
    Prog.lift (VerificationFlags.richcmp impl other op)
  | compare _ _ _ => Prog.throw noAttribute
  | binary op left right => runBinary env op left right
  | invert (.verificationFlags impl) => VerificationFlags.nbInvert env impl
  | invert _ => Prog.throw noAttribute
  | verify (.scriptPubkey impl) args items => ScriptPubkey.verify env items impl args
  | verify _ _ _ => Prog.throw noAttribute

/-- The objects in an argument for `spent_outputs`. -/
def spentObjects : SpentOutputs core → List (PyObj core)
  | .object o => [o]
  | .sequence items => items
  | .iterable items _ => items.map Prod.fst

/-- The objects that a call is given. -/
def objects : Call core → List (PyObj core)
  | newBlock raw | newTransaction raw | newScriptPubkey raw | newBlockHash raw => [raw]
  | newTransactionOutput amount script => [amount, script]
  | newChain => []
  | bytes self | str self | getAttr self _ | len self | next self _ | invert self => [self]
  | subscript self arg => [self, arg]
  | compare self other _ => [self, other]
  | binary _ left right => [left, right]
  | verify self args _ =>
    [self, args.amount, args.txTo] ++ (args.spentOutputs.map spentObjects).getD []
      ++ args.inputIndex.toList ++ args.flags.toList

end Call

/-! ## Sessions -/

/-- Anybody can make such an object: it has no handle. -/
def PyObj.isPlain {core : BitcoinCore} : PyObj core → Bool
  | block _ | transaction _ | transactionOutput _ | scriptPubkey _ | slice _ _ => false
  | _ => true

/-- What has been seen of a call. -/
structure Entry where
  events : List Event
  raised : Bool
  deriving DecidableEq, Repr

/-- A program that uses the module. -/
structure Session (core : BitcoinCore) where
  memory : Memory
  /-- The objects that the calls returned. -/
  objects : List (PyObj core)
  entries : List Entry
  /-- A call left the defined behaviour of C; there is no next one. -/
  fault : Option Fault

namespace Session

variable {core : BitcoinCore}

def start (memory : Memory) : Session core where
  memory := memory
  objects := []
  entries := []
  fault := none

/-- The session after a call. -/
def after (session : Session core) (env : Env) (call : Call core) : Session core :=
  match call.run env { memory := session.memory, events := [] } with
  | (.returns o, s) =>
    { memory := s.memory
      objects := session.objects ++ [o]
      entries := session.entries ++ [{ events := s.events, raised := false }]
      fault := none }
  | (.throws _, s) =>
    { session with
      memory := s.memory
      entries := session.entries ++ [{ events := s.events, raised := true }] }
  | (.faults u, s) =>
    { session with
      memory := s.memory
      entries := session.entries ++ [{ events := s.events, raised := false }]
      fault := some u }

/-- One call with objects that the program has. -/
structure Step (session : Session core) (label : Env × Call core) (session' : Session core) :
    Prop where
  running : session.fault = none
  known : ∀ o ∈ label.2.objects, o ∈ session.objects ∨ o.isPlain = true
  result : session' = session.after label.1 label.2

end Session

end Btck.Python
