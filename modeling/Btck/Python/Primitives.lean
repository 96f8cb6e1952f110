import Btck.Python.ToBytes
import Btck.Python.ToString

/-!
# Blocks, transactions and outputs (`block.c`, `block_hash.c`, `transaction.c`,
`transaction_output.c` of `bindings/python/src`)

A method gets the `impl` field of its object. Where it also keeps a reference to the object, the
object is built again from the field.
-/

namespace Btck.Python

open Infra

section

variable (core : BitcoinCore)

/-! ## `btck.TransactionOutput` -/

namespace TransactionOutput

/--
`new`. For `O!` the type object itself is passed, not its address. The parser reads the argument as
a pointer, which is undefined; what follows in the source is never reached.
-/
def new (amount : PyObj core) : Prog State PyErr (PyObj core) := do
  let _amount ← Prog.lift (parseLongLong amount)
  Prog.fault .undefined

/-- `str` -/
def str (env : Env) (impl : Option CTxOut) : Prog State PyErr (PyObj core) := do
  pass impl
  let text ← Prog.lift
    (toString (env.object 0) env.chars (Btck.TransactionOutput.toString core impl))
  return .str text

/-- `get_amount` -/
def getAmount (env : Env) (impl : Option CTxOut) : Prog State PyErr (PyObj core) := do
  pass impl
  let amount ← Prog.lift (Btck.TransactionOutput.getAmount impl)
  newValue env (.int amount.toInt)

/-- `get_script_pubkey` -/
def getScriptPubkey (env : Env) (impl : Option CTxOut) : Prog State PyErr (PyObj core) := do
  pass impl
  let script ← Prog.lift (Btck.TransactionOutput.getScriptPubkey impl)
  pass script
  let (ptr, err) ← create (Btck.ScriptPubkey.copy (env.native 0) script true)
  match err with
  | some err => setErr err
  | none => scriptPubkeyNew env ptr

end TransactionOutput

/-! ## `btck.Transaction` -/

namespace Transaction

/-- `new`. The C function gets no place for an error. -/
def new (env : Env) (raw : PyObj core) : Prog State PyErr (PyObj core) := do
  let buffer ← parseBuffer raw
  let (tx, _) ← create (Btck.Transaction.new core env.native buffer false)
  transactionNew env tx

/-- `bytes` -/
def bytes (env : Env) (impl : Option core.CTransaction) : Prog State PyErr (PyObj core) := do
  pass impl
  Prog.lift (toBytes env (Btck.Transaction.toBytes core impl))

/-- `str` -/
def str (env : Env) (impl : Option core.CTransaction) : Prog State PyErr (PyObj core) := do
  pass impl
  let text ← Prog.lift (toString (env.object 0) env.chars (Btck.Transaction.toString core impl))
  return .str text

/-- `outputs_item`. The index becomes a `size_t`. -/
def outputsItem (env : Env) (impl : Option core.CTransaction) (idx : Int) :
    Prog State PyErr (PyObj core) := do
  pass impl
  let output ← Prog.lift (Btck.Transaction.getOutput core impl (Int64.ofInt idx).toUInt64)
  pass output
  let (ptr, err) ← create (Btck.TransactionOutput.copy (env.native 0) output true)
  match err with
  | some err => setErr err
  | none => transactionOutputNew env ptr

/-- `get_outputs` -/
def getOutputs (env : Env) (impl : Option core.CTransaction) : Prog State PyErr (PyObj core) := do
  pass impl
  let length ← Prog.lift (Btck.Transaction.countOutputs core impl)
  sliceNew env (.transaction impl) length.toInt64.toInt .outputsItem

end Transaction

/-! ## `btck.BlockHash` -/

namespace BlockHash

/-- `new` -/
def new (env : Env) (raw : PyObj core) : Prog State PyErr (PyObj core) := do
  let raw ← parseBuffer raw
  if raw.length ≠ 32 then Prog.throw ⟨.valueError, some "Invalid block hash length"⟩
  else blockHashNew env raw

/-- `bytes` -/
def bytes (env : Env) (impl : Bytes) : Prog State PyErr (PyObj core) :=
  newValue env (.bytes impl)

end BlockHash

/-! ## `btck.Block` -/

namespace Block

/-- `new`. The C function gets no place for an error. -/
def new (env : Env) (raw : PyObj core) : Prog State PyErr (PyObj core) := do
  let raw ← parseBuffer raw
  let (block, _) ← create (Btck.Block.new core env.native raw false)
  blockNew env block

/-- `bytes` -/
def bytes (env : Env) (impl : Option core.CBlock) : Prog State PyErr (PyObj core) := do
  pass impl
  Prog.lift (toBytes env (Btck.Block.toBytes core impl))

/-- `str` -/
def str (env : Env) (impl : Option core.CBlock) : Prog State PyErr (PyObj core) := do
  pass impl
  let text ← Prog.lift (toString (env.object 0) env.chars (Btck.Block.toString core impl))
  return .str text

/-- `get_hash` -/
def getHash (env : Env) (impl : Option core.CBlock) : Prog State PyErr (PyObj core) := do
  pass impl
  let hash ← Prog.lift (Btck.Block.getHash core impl)
  blockHashNew env hash

/-- `transactions_item`. The index becomes a `size_t`. -/
def transactionsItem (env : Env) (impl : Option core.CBlock) (idx : Int) :
    Prog State PyErr (PyObj core) := do
  pass impl
  let tx ← Prog.lift (Btck.Block.getTransaction core impl (Int64.ofInt idx).toUInt64)
  pass tx
  let (ptr, err) ← create (Btck.Transaction.copy core (env.native 0) tx true)
  match err with
  | some err => setErr err
  | none => transactionNew env ptr

/-- `get_transactions` -/
def getTransactions (env : Env) (impl : Option core.CBlock) : Prog State PyErr (PyObj core) := do
  pass impl
  let length ← Prog.lift (Btck.Block.countTransactions core impl)
  sliceNew env (.block impl) length.toInt64.toInt .transactionsItem

end Block

end

end Btck.Python
