import Btck.Native

/-!
# The Rust crate (`bindings/rust/src`)

Each struct of the crate is a raw pointer, and its `Drop` hands the pointer to the library's `Free`.
The iterators over the outputs of a transaction and the transactions of a block borrow what they
iterate over; what they yield are structs like any other.

A program has variables. What the compiler does not let through is no program: it is rejected here
when it comes to it, and does nothing.

* `Value` — what a variable has
* `ScriptPubkey.new`, …, `BlockTransactions.next` — the functions of the crate
* `Op`, `Op.run`, `runAll` — programs
-/

namespace Btck.Rust

open Infra

/-! ## Values -/

/-- What an iterator goes over: `TransactionOutputs` or `BlockTransactions`. -/
inductive Over where
  | outputs
  | transactions
  deriving DecidableEq, Repr

/-- The struct that the iterator borrows. -/
def Over.source : Over → Kind
  | outputs => .transaction
  | transactions => .block

inductive Value where
  /-- `ScriptPubkey`, `TransactionOutput`, `Transaction` or `Block` -/
  | object {k : Kind} (ptr : Option (Ptr k))
  | error (err : ErrorPtr)
  /-- `TransactionOutputs` or `BlockTransactions`, with a reference to a variable. -/
  | iterator (what : Over) (source : Nat) (idx count : UInt64)

section

variable {core : BitcoinCore} {ε : Type}

/-- How the `new` functions end: `Err` when the library has stored an error, `Ok` otherwise. -/
def newResult {k : Kind} : Option (Ptr k) × Option ErrorPtr → Value
  | (ptr, none) => .object ptr
  | (ptr, some .null) => .object ptr
  | (_, some err) => .error err

/-! ## `script_pubkey.rs`, `transaction_output.rs`, `transaction.rs`, `block.rs` -/

def ScriptPubkey.new (core : BitcoinCore) (alloc : Nat → Bool) (raw : Bytes) :
    Prog (Native core) ε Value := do
  let result ← Runtime.ScriptPubkey.new (native core) alloc raw true
  return newResult result

def TransactionOutput.new (core : BitcoinCore) (alloc : Nat → Bool) (amount : Int64)
    (scriptPubkey : Option (Ptr .scriptPubkey)) : Prog (Native core) ε Value := do
  let result ← Runtime.TransactionOutput.new (native core) alloc amount scriptPubkey true
  return newResult result

def TransactionOutput.amount (core : BitcoinCore) (ptr : Option (Ptr .transactionOutput)) :
    Prog (Native core) ε Int64 :=
  Runtime.TransactionOutput.getAmount (native core) ptr

def Transaction.new (core : BitcoinCore) (alloc : Nat → Bool) (raw : Bytes) :
    Prog (Native core) ε Value := do
  let result ← Runtime.Transaction.new (native core) alloc raw true
  return newResult result

def Block.new (core : BitcoinCore) (alloc : Nat → Bool) (raw : Bytes) :
    Prog (Native core) ε Value := do
  let result ← Runtime.Block.new (native core) alloc raw true
  return newResult result

/-- `outputs`, for the transaction in the variable `self`. -/
def Transaction.outputs (core : BitcoinCore) (self : Nat) (ptr : Option (Ptr .transaction)) :
    Prog (Native core) ε Value := do
  let count ← Runtime.Transaction.countOutputs (native core) ptr
  return .iterator .outputs self 0 count

/-- `transactions`, for the block in the variable `self`. -/
def Block.transactions (core : BitcoinCore) (self : Nat) (ptr : Option (Ptr .block)) :
    Prog (Native core) ε Value := do
  let count ← Runtime.Block.countTransactions (native core) ptr
  return .iterator .transactions self 0 count

/-- The end of the `next` functions: an item is made of any pointer that is not null. -/
def item {k : Kind} : Option (Ptr k) → Option Value
  | none => none
  | some ptr => some (.object (some ptr))

/-- `next` of `TransactionOutputs`, for an iterator that is not at its end. -/
def TransactionOutputs.next (core : BitcoinCore) (tx : Option (Ptr .transaction)) (idx : UInt64) :
    Prog (Native core) ε (Option Value) := do
  let ptr ← Runtime.Transaction.getOutput (native core) tx idx
  return item ptr

/-- `next` of `BlockTransactions`, for an iterator that is not at its end. -/
def BlockTransactions.next (core : BitcoinCore) (block : Option (Ptr .block)) (idx : UInt64) :
    Prog (Native core) ε (Option Value) := do
  let ptr ← Runtime.Block.getTransaction (native core) block idx
  return item ptr

/-! ## `error.rs` -/

/-- `fmt` of `Display` -/
def Error.fmt (err : ErrorPtr) : Prog Memory ε String := do
  let domain ← Btck.Error.domain err >>= CharPtr.str
  let code ← Btck.Error.code err
  let message ← Btck.Error.message err >>= CharPtr.str
  return "[" ++ lossy domain ++ ":" ++ toString code.toInt ++ "] " ++ lossy message

/-- `drop` -/
def Value.drop (core : BitcoinCore) : Value → Prog (Native core) ε Unit
  | .object ptr => (native core).free ptr
  | .error err => Prog.within (native core).errors (Btck.Error.free err)
  | .iterator .. => return ()

end

/-! ## Programs -/

/-- The variables in scope, by the number in which they were bound, and the library's memory. -/
structure Process (core : BitcoinCore) where
  vars : Heap Value
  native : Native core

namespace Process

variable {core : BitcoinCore} {ε α : Type}

def empty (errors : Memory) : Process core where
  vars := Heap.empty []
  native := .empty errors

def varsPart : Part (Process core) (Heap Value) where
  get s := s.vars
  set s vars := { s with vars := vars }

def nativePart : Part (Process core) (Native core) where
  get s := s.native
  set s native := { s with native := native }

/-- Code of the crate that works on the library's memory. -/
def onNative (x : Prog (Native core) ε α) : Prog (Process core) ε α := Prog.within nativePart x

/-- An iterator in scope refers to the variable. -/
def borrowed (s : Process core) (x : Nat) : Bool :=
  (List.range s.vars.next).any fun y =>
    match s.vars.cell y with
    | some (.iterator _ source _ _) => source == x
    | _ => false

end Process

/--
What a program does in a step. `to_string` of a `Transaction` is none of the steps: `ffi.rs`
declares the C function with other parameters, and to call it is undefined. Nor is `as_bytes`: the
library has no such function.
-/
inductive Op where
  | newScriptPubkey (alloc : Nat → Bool) (raw : Bytes)
  | newTransactionOutput (alloc : Nat → Bool) (amount : Int64) (scriptPubkey : Nat)
  | newTransaction (alloc : Nat → Bool) (raw : Bytes)
  | newBlock (alloc : Nat → Bool) (raw : Bytes)
  | amount (x : Nat)
  | outputs (x : Nat)
  | transactions (x : Nat)
  | next (x : Nat)
  | fmt (x : Nat)
  /-- The variable goes out of scope. That of an iterator does so with its last use. -/
  | drop (x : Nat)
  /-- `std::mem::forget` -/
  | forget (x : Nat)

/-- What a program learns. -/
inductive Reply where
  /-- A value, in a variable. -/
  | bound (x : Nat)
  /-- `None` -/
  | none
  | amount (n : Int64)
  | text (s : String)
  | done
  | rejected
  deriving DecidableEq, Repr

open Process

section

variable {core : BitcoinCore} {ε : Type}

/-- A value is bound to a new variable. -/
def bind (v : Value) : Prog (Process core) ε Reply := do
  let x ← Prog.within varsPart (Heap.place v)
  return .bound x

/-- `next`, for the iterator in the variable `x` over what the variable `source` has. -/
def next (core : BitcoinCore) (x : Nat) (what : Over) (source : Option Value) (idx count : UInt64)
    (self : Nat) : Prog (Process core) ε Reply :=
  if idx < count then do
    let item ←
      match what, source with
      | .outputs, some (@Value.object .transaction ptr) =>
        onNative (TransactionOutputs.next core ptr idx)
      | .transactions, some (@Value.object .block ptr) =>
        onNative (BlockTransactions.next core ptr idx)
      | _, _ => Prog.fault .undefined
    Prog.within varsPart (Heap.write x (.iterator what self (idx + 1) count))
    match item with
    | some v => bind v
    | none => return .none
  else return .none

/-- An operation on a variable that has the value. -/
def Op.use (core : BitcoinCore) (s : Process core) : Op → Value → Prog (Process core) ε Reply
  | .newTransactionOutput alloc n _, @Value.object .scriptPubkey ptr => do
    let v ← onNative (TransactionOutput.new core alloc n ptr)
    bind v
  | .amount _, @Value.object .transactionOutput ptr => do
    let n ← onNative (TransactionOutput.amount core ptr)
    return .amount n
  | .outputs x, @Value.object .transaction ptr => do
    let v ← onNative (Transaction.outputs core x ptr)
    bind v
  | .transactions x, @Value.object .block ptr => do
    let v ← onNative (Block.transactions core x ptr)
    bind v
  | .next x, .iterator what source idx count =>
    Rust.next core x what (s.vars.cell source) idx count source
  | .fmt _, .error err => do
    let text ← onNative (Prog.within (native core).errors (Error.fmt err))
    return .text text
  | .drop x, v =>
    if s.borrowed x then return .rejected
    else do
      onNative (v.drop core)
      Prog.within varsPart (Heap.free x)
      return .done
  | .forget x, _ =>
    if s.borrowed x then return .rejected
    else do
      Prog.within varsPart (Heap.free x)
      return .done
  | _, _ => return .rejected

end

/-- The variable that an operation is on. -/
def Op.on : Op → Option Nat
  | .newScriptPubkey .. | .newTransaction .. | .newBlock .. => none
  | .newTransactionOutput _ _ x | .amount x | .outputs x | .transactions x | .next x | .fmt x
  | .drop x | .forget x => some x

variable {core : BitcoinCore}

/-- An operation on a variable, which has to be in scope. -/
def Op.useAt (op : Op) (x : Nat) : Prog (Process core) Empty Reply := fun s =>
  match s.vars.cell x with
  | some v => op.use core s v s
  | none => (.returns .rejected, s)

def Op.run (op : Op) : Prog (Process core) Empty Reply :=
  match op with
  | .newScriptPubkey alloc raw => do
    let v ← onNative (ScriptPubkey.new core alloc raw)
    bind v
  | .newTransaction alloc raw => do
    let v ← onNative (Transaction.new core alloc raw)
    bind v
  | .newBlock alloc raw => do
    let v ← onNative (Block.new core alloc raw)
    bind v
  | .newTransactionOutput _ _ x | .amount x | .outputs x | .transactions x | .next x | .fmt x
  | .drop x | .forget x => op.useAt x

/-- A program. -/
def runAll : List Op → Prog (Process core) Empty (List Reply)
  | [] => return []
  | op :: ops => do
    let reply ← op.run
    let replies ← runAll ops
    return reply :: replies

end Btck.Rust
