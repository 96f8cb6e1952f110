import Btck.Chain
import Btck.Infra.Shared
import Btck.Infra.Simulation
import Btck.ToString
import Btck.ToBytes
import Btck.Verify

/-!
# Objects in memory (`src/util/type_mapping.hpp`, `src/util/api.hpp`)

`Btck.Object` takes a handle for the object behind it. Here it is the pointer that it is in the
source. A `New` or `Copy` function returns a pointer to an object of its own; a `Get` function
returns a pointer into an object that belongs to somebody else. `BtcK_Transaction` stands for
`CTransactionRef`, a `std::shared_ptr`, so that to copy a transaction or a block copies
references, and the transactions go with the last of them.

* `Ptr`, `CppType` — the pointers, and what is behind them
* `Runtime` — what C++ does with memory
* `Runtime.get`, …, `Runtime.free` — `api.hpp`; then the `BtcK_` functions, over any runtime
* `Native`, `native` — the runtime that counts references
-/

namespace Btck

open Infra

/-! ## Types and pointers -/

/-- The C types of `type_mapping.hpp`. -/
inductive Kind where
  | block
  | transaction
  | transactionOutput
  | scriptPubkey
  deriving DecidableEq, Repr

/-- A pointer to an object of a C type. -/
inductive Ptr : Kind → Type where
  /-- A block of memory that `api::create` allocated. -/
  | object {k : Kind} (n : Nat) : Ptr k
  /-- `&block->vtx[i]` -/
  | vtx (block i : Nat) : Ptr .transaction
  /-- `&tx->vout[i]` -/
  | vout (tx i : Nat) : Ptr .transactionOutput
  /-- `&out->scriptPubKey` -/
  | scriptPubKey (out : Ptr .transactionOutput) : Ptr .scriptPubkey

/--
A `CBlock` in memory. Its `vtx` is a vector of references; the transactions that `block` is said to
have are those that they refer to.
-/
structure StoredBlock (core : BitcoinCore) where
  block : core.CBlock
  vtx : List Nat

/-- `api::cpp_type_t`. A `CTransactionRef` is the number of the transaction. -/
@[reducible] def CppType (core : BitcoinCore) : Kind → Type
  | .block => StoredBlock core
  | .transaction => Nat
  | .transactionOutput => CTxOut
  | .scriptPubkey => CScript

/-- An object of one of the C++ types. -/
structure Object (core : BitcoinCore) where
  kind : Kind
  data : CppType core kind

namespace Object

variable {core : BitcoinCore}

/-- The references to transactions that are part of an object. -/
def refs : Object core → List Nat
  | ⟨.block, block⟩ => StoredBlock.vtx block
  | ⟨.transaction, tx⟩ => [(tx : Nat)]
  | ⟨.transactionOutput, _⟩ => []
  | ⟨.scriptPubkey, _⟩ => []

/-- The object, if it has the type that it is taken for. -/
def as? (k : Kind) (o : Object core) : Option (CppType core k) :=
  if h : o.kind = k then some (h ▸ o.data) else none

@[simp] theorem as?_mk (k : Kind) (x : CppType core k) : as? k ⟨k, x⟩ = some x :=
  dif_pos rfl

theorem as?_eq_some {k : Kind} {o : Object core} {x : CppType core k} :
    as? k o = some x ↔ o = ⟨k, x⟩ := by
  obtain ⟨k', y⟩ := o
  constructor
  · intro h
    by_cases hk : k' = k
    · subst hk
      rw [as?_mk, Option.some.injEq] at h
      rw [h]
    · have hnone : as? k ⟨k', y⟩ = none := dif_neg hk
      rw [hnone] at h
      cases h
  · intro h
    rw [h, as?_mk]

end Object

/-! ## What C++ does with memory -/

/-- `new`, `delete` and `std::shared_ptr`, over a state that has the error records as a part. -/
structure Runtime (core : BitcoinCore) (σ : Type) where
  /-- A new object, in memory that could be had. -/
  new : {ε : Type} → Object core → Prog σ ε Nat
  read : {ε : Type} → Nat → Prog σ ε (Object core)
  /-- The memory of an object whose destructor has run. -/
  delete : {ε : Type} → Nat → Prog σ ε Unit
  /-- `std::make_shared<CTransaction>`, where there is memory -/
  makeShared : {ε : Type} → core.CTransaction → Prog σ ε Nat
  /-- What a `CTransactionRef` refers to. -/
  deref : {ε : Type} → Nat → Prog σ ε core.CTransaction
  /-- The copy constructor of `CTransactionRef` -/
  share : {ε : Type} → Nat → Prog σ ε Unit
  /-- The destructor of `CTransactionRef` -/
  release : {ε : Type} → Nat → Prog σ ε Unit
  errors : Part σ Memory

namespace Runtime

variable {core : BitcoinCore} {σ ε : Type} (rt : Runtime core σ)

/-- The elements of a `std::vector<CTransactionRef>` are copied from the front. -/
def shareAll : List Nat → Prog σ ε Unit
  | [] => return ()
  | t :: ts => do
    rt.share t
    shareAll ts

/-- The elements of a `std::vector<CTransactionRef>` are destroyed from the front. -/
def releaseAll : List Nat → Prog σ ε Unit
  | [] => return ()
  | t :: ts => do
    rt.release t
    releaseAll ts

/-- The transactions of a block that is read. -/
def makeAll : List core.CTransaction → Prog σ ε (List Nat)
  | [] => return []
  | tx :: txs => do
    let t ← rt.makeShared tx
    let ts ← makeAll txs
    return t :: ts

/-- Visit what the elements of a `std::vector<CTransactionRef>` refer to. -/
def derefAll : List Nat → Prog σ ε Unit
  | [] => return ()
  | t :: ts => do
    let _ ← rt.deref t
    derefAll ts

/-- `util::WrapFn`, for a body that works on memory. -/
def wrapFn {Ret : Type} [Inhabited Ret] (err : Bool) (function : Prog σ Exception Ret) :
    Prog σ ε (Ret × Option ErrorPtr) :=
  Prog.catchAll
    (do
      let r ← function
      return (r, none))
    fun e =>
      if err then do
        let p ← Prog.within rt.errors (translateException e)
        return (default, some p)
      else
        return (default, none)

/-- Code that works on something else, such as the user data of a callback. -/
def onOther {τ α : Type} (x : Prog τ ε α) (other : τ) : Prog σ ε (α × τ) := fun s =>
  match x other with
  | (.returns a, other') => (.returns (a, other'), s)
  | (.throws e, _) => (.throws e, s)
  | (.faults u, _) => (.faults u, s)

/-! ## `api.hpp` -/

/-- `v[i]`, which is undefined outside the vector. -/
def subscript {α : Type} (v : List α) (i : Nat) : Outcome ε α :=
  match v[i]? with
  | some a => .returns a
  | none => .faults .undefined

/-- The object in a block of memory. -/
def loadObject (k : Kind) (n : Nat) : Prog σ ε (CppType core k) := do
  match (← rt.read n).as? k with
  | some x => return x
  | none => Prog.fault .undefined

/-- The object behind a pointer. -/
def load : {k : Kind} → Ptr k → Prog σ ε (CppType core k)
  | k, .object n => rt.loadObject k n
  | _, .vtx block i => do
    let stored ← rt.loadObject .block block
    Prog.lift (subscript (StoredBlock.vtx stored) i)
  | _, .vout tx i => do
    let value ← rt.deref tx
    Prog.lift ((core.vout value).get i)
  | _, .scriptPubKey out => do
    let value ← load out
    return CTxOut.scriptPubKey value

/-- `api::get` -/
def get {k : Kind} : Option (Ptr k) → Prog σ ε (CppType core k)
  | none => Prog.fault .nullDeref
  | some p => rt.load p

/-- `api::create`, with what it is given moved into the new object. -/
def create (ok : Bool) (k : Kind) (x : CppType core k) : Prog σ Exception (Option (Ptr k)) := do
  Prog.lift (allocate ok ())
  let n ← rt.new ⟨k, x⟩
  return some (.object n)

/-- The body of `api::copy`. The copy constructor comes after the allocation. -/
def copyBody (ok : Bool) {k : Kind} (self : Option (Ptr k)) :
    Prog σ Exception (Option (Ptr k)) := do
  let x ← rt.get self
  Prog.lift (allocate ok ())
  rt.shareAll (Object.refs ⟨k, x⟩)
  let n ← rt.new ⟨k, x⟩
  return some (.object n)

/-- `api::copy` -/
def copy (ok : Bool) {k : Kind} (self : Option (Ptr k)) (err : Bool) :
    Prog σ ε (Option (Ptr k) × Option ErrorPtr) :=
  rt.wrapFn err (rt.copyBody ok self)

/-- `api::free`. Only `delete` of what `new` returned is defined. -/
def free {k : Kind} : Option (Ptr k) → Prog σ ε Unit
  | none => return ()
  | some (.object n) => do
    let x ← rt.loadObject k n
    rt.releaseAll (Object.refs ⟨k, x⟩)
    rt.delete n
  | some _ => Prog.fault .undefined

/-! ## `btck_script_pubkey.cpp` -/

namespace ScriptPubkey

/-- The body of `BtcK_ScriptPubkey_New`. -/
def newBody (alloc : Nat → Bool) (raw : Bytes) :
    Prog σ Exception (Option (Ptr .scriptPubkey)) :=
  rt.create (alloc 0) .scriptPubkey raw

/-- `BtcK_ScriptPubkey_New` -/
def new (alloc : Nat → Bool) (raw : Bytes) (err : Bool) :
    Prog σ ε (Option (Ptr .scriptPubkey) × Option ErrorPtr) :=
  rt.wrapFn err (newBody rt alloc raw)

/-- `BtcK_ScriptPubkey_Equal` -/
def equal (left right : Option (Ptr .scriptPubkey)) : Prog σ ε Int32 := do
  let l ← rt.get left
  let r ← rt.get right
  Prog.lift (Btck.ScriptPubkey.equal (some l) (some r))

/-- `BtcK_ScriptPubkey_ToBytes` -/
def toBytes {υ : Type} (self : Option (Ptr .scriptPubkey)) (write : Callback Bytes υ)
    (userdata : υ) : Prog σ ε (Int32 × υ) := do
  let script ← rt.get self
  onOther (Btck.ScriptPubkey.toBytes (some script) write) userdata

/-- The vector of the spent outputs. -/
def getAll : List (Option (Ptr .transactionOutput)) → Prog σ ε (List CTxOut)
  | [] => return []
  | p :: ps => do
    let out ← rt.get p
    let outs ← getAll ps
    return out :: outs

/-- The body of `BtcK_ScriptPubkey_Verify`. -/
def verifyBody (alloc : Nat → Bool) (scriptPubkey : Option (Ptr .scriptPubkey)) (amount : Int64)
    (tx : Option (Ptr .transaction)) (spentOutputs : List (Option (Ptr .transactionOutput)))
    (inputIndex : UInt32) (flags : UInt32) : Prog σ Exception Int32 := do
  let script ← rt.get scriptPubkey
  let ref ← rt.get tx
  let txTo ← rt.deref ref
  let outputs ← getAll rt spentOutputs
  Prog.lift (Btck.ScriptPubkey.verifyBody core alloc (some script) amount (some txTo)
    (outputs.map some) inputIndex flags)

/-- `BtcK_ScriptPubkey_Verify` -/
def verify (alloc : Nat → Bool) (scriptPubkey : Option (Ptr .scriptPubkey)) (amount : Int64)
    (tx : Option (Ptr .transaction)) (spentOutputs : List (Option (Ptr .transactionOutput)))
    (inputIndex : UInt32) (flags : UInt32) (err : Bool) : Prog σ ε (Int32 × Option ErrorPtr) :=
  rt.wrapFn err (verifyBody rt alloc scriptPubkey amount tx spentOutputs inputIndex flags)

end ScriptPubkey

/-! ## `btck_transaction_output.cpp` -/

namespace TransactionOutput

/-- The body of `BtcK_TransactionOutput_New`. -/
def newBody (alloc : Nat → Bool) (amount : Int64) (scriptPubkey : Option (Ptr .scriptPubkey)) :
    Prog σ Exception (Option (Ptr .transactionOutput)) := do
  let script ← rt.get scriptPubkey
  rt.create (alloc 0) .transactionOutput (CTxOut.mk amount script)

/-- `BtcK_TransactionOutput_New` -/
def new (alloc : Nat → Bool) (amount : Int64) (scriptPubkey : Option (Ptr .scriptPubkey))
    (err : Bool) : Prog σ ε (Option (Ptr .transactionOutput) × Option ErrorPtr) :=
  rt.wrapFn err (newBody rt alloc amount scriptPubkey)

/-- `BtcK_TransactionOutput_GetAmount` -/
def getAmount (self : Option (Ptr .transactionOutput)) : Prog σ ε Int64 := do
  let out ← rt.get self
  return CTxOut.nValue out

/-- `BtcK_TransactionOutput_GetScriptPubkey` -/
def getScriptPubkey : Option (Ptr .transactionOutput) → Prog σ ε (Option (Ptr .scriptPubkey))
  | none => Prog.fault .nullDeref
  | some out => do
    let _ ← rt.load out
    return some (.scriptPubKey out)

/-- `BtcK_TransactionOutput_ToString` -/
def toString (self : Option (Ptr .transactionOutput)) (buf : Option Nat) (len : Nat)
    (buffer : Buffer) : Prog σ ε (Int32 × Buffer) := do
  let out ← rt.get self
  onOther (Btck.TransactionOutput.toString core (some out) buf len) buffer

end TransactionOutput

/-! ## `btck_transaction.cpp` -/

namespace Transaction

/-- `BtcK_Transaction_New` up to the transaction that it reads. -/
def deserialize (core : BitcoinCore) (alloc : Nat → Bool) (raw : Bytes) :
    Outcome Exception core.CTransaction := do
  let stream ← allocate (alloc 0) raw
  allocate (alloc 1) ()
  let (tx, _) ← core.tx.unserialize stream
  return tx

/-- The body of `BtcK_Transaction_New`. Until it is moved, `tx` has a destructor. -/
def newBody (alloc : Nat → Bool) (raw : Bytes) :
    Prog σ Exception (Option (Ptr .transaction)) := do
  let value ← Prog.lift (deserialize core alloc raw)
  let tx ← rt.makeShared value
  Prog.onThrow (rt.create (alloc 2) .transaction tx) (rt.release tx)

/-- `BtcK_Transaction_New` -/
def new (alloc : Nat → Bool) (raw : Bytes) (err : Bool) :
    Prog σ ε (Option (Ptr .transaction) × Option ErrorPtr) :=
  rt.wrapFn err (newBody rt alloc raw)

/-- The `CTransaction` of a handle. -/
def value (self : Option (Ptr .transaction)) : Prog σ ε core.CTransaction := do
  let tx ← rt.get self
  rt.deref tx

/-- `BtcK_Transaction_CountOutputs` -/
def countOutputs (self : Option (Ptr .transaction)) : Prog σ ε UInt64 := do
  let tx ← value rt self
  return UInt64.ofNat (core.vout tx).size

/-- `BtcK_Transaction_GetOutput` -/
def getOutput (self : Option (Ptr .transaction)) (idx : UInt64) :
    Prog σ ε (Option (Ptr .transactionOutput)) := do
  let tx ← rt.get self
  let value ← rt.deref tx
  let _ ← Prog.lift ((core.vout value).get idx.toNat)
  return some (.vout tx idx.toNat)

/-- `BtcK_Transaction_ToBytes` -/
def toBytes {υ : Type} (self : Option (Ptr .transaction)) (write : Callback Bytes υ)
    (userdata : υ) : Prog σ ε (Int32 × υ) := do
  let tx ← value rt self
  onOther (Btck.Transaction.toBytes core (some tx) write) userdata

/-- `BtcK_Transaction_ToString` -/
def toString (self : Option (Ptr .transaction)) (buf : Option Nat) (len : Nat)
    (buffer : Buffer) : Prog σ ε (Int32 × Buffer) := do
  let tx ← value rt self
  onOther (Btck.Transaction.toString core (some tx) buf len) buffer

end Transaction

/-! ## `btck_block.cpp` and `chain.cpp` -/

namespace Block

/-- A local `CBlock` is moved into a new object. Until then it has a destructor. -/
def createMoved (ok : Bool) (block : core.CBlock) : Prog σ Exception (Option (Ptr .block)) := do
  let vtx ← rt.makeAll (core.vtx block).toList
  Prog.onThrow (rt.create ok .block (StoredBlock.mk block vtx)) (rt.releaseAll vtx)

/-- `BtcK_Block_New` up to the block that it reads. -/
def deserialize (core : BitcoinCore) (alloc : Nat → Bool) (raw : Bytes) :
    Outcome Exception core.CBlock := do
  let stream ← allocate (alloc 0) raw
  let (block, _) ← core.block.unserialize stream
  return block

/-- The body of `BtcK_Block_New`. -/
def newBody (alloc : Nat → Bool) (raw : Bytes) : Prog σ Exception (Option (Ptr .block)) := do
  let block ← Prog.lift (deserialize core alloc raw)
  createMoved rt (alloc 1) block

/-- `BtcK_Block_New` -/
def new (alloc : Nat → Bool) (raw : Bytes) (err : Bool) :
    Prog σ ε (Option (Ptr .block) × Option ErrorPtr) :=
  rt.wrapFn err (newBody rt alloc raw)

/-- `BtcK_Block_GetHash` -/
def getHash (self : Option (Ptr .block)) : Prog σ ε Bytes := do
  let stored ← rt.get self
  return core.getHash (StoredBlock.block stored)

/-- `BtcK_Block_CountTransactions` -/
def countTransactions (self : Option (Ptr .block)) : Prog σ ε UInt64 := do
  let stored ← rt.get self
  return UInt64.ofNat (StoredBlock.vtx stored).length

/-- `BtcK_Block_GetTransaction` -/
def getTransaction : Option (Ptr .block) → UInt64 → Prog σ ε (Option (Ptr .transaction))
  | none, _ => Prog.fault .nullDeref
  | some (.object n), idx => do
    let stored ← rt.loadObject .block n
    let _ ← Prog.lift (subscript (StoredBlock.vtx stored) idx.toNat)
    return some (.vtx n idx.toNat)

/-- The block with its transactions, which `Serialize` and `ToString` visit. -/
def value (self : Option (Ptr .block)) : Prog σ ε core.CBlock := do
  let stored ← rt.get self
  rt.derefAll (StoredBlock.vtx stored)
  return StoredBlock.block stored

/-- `BtcK_Block_ToBytes` -/
def toBytes {υ : Type} (self : Option (Ptr .block)) (write : Callback Bytes υ) (userdata : υ) :
    Prog σ ε (Int32 × υ) := do
  let block ← value rt self
  onOther (Btck.Block.toBytes core (some block) write) userdata

/-- `BtcK_Block_ToString` -/
def toString (self : Option (Ptr .block)) (buf : Option Nat) (len : Nat) (buffer : Buffer) :
    Prog σ ε (Int32 × Buffer) := do
  let block ← value rt self
  onOther (Btck.Block.toString core (some block) buf len) buffer

end Block

namespace Chain

/-- `BtcK_Chain_GetBlock` up to the block that it reads. -/
def readBlock (self : ChainstateManager core) (idx : UInt64) : Outcome Exception core.CBlock :=
  match self.activeChain idx.toUInt32.toInt32 with
  | none => .faults .nullDeref
  | some bi =>
    match self.readBlock bi with
    | none => .throws (.exception (utf8 "Failed to read block."))
    | some block => .returns block

/-- The body of `BtcK_Chain_GetBlock`. -/
def getBlockBody (self : ChainstateManager core) (alloc : Nat → Bool) (idx : UInt64) :
    Prog σ Exception (Option (Ptr .block)) := do
  let block ← Prog.lift (readBlock self idx)
  Block.createMoved rt (alloc 0) block

/-- `BtcK_Chain_GetBlock` -/
def getBlock (self : ChainstateManager core) (alloc : Nat → Bool) (idx : UInt64) (err : Bool) :
    Prog σ ε (Option (Ptr .block) × Option ErrorPtr) :=
  rt.wrapFn err (getBlockBody rt self alloc idx)

end Chain

end Runtime

/-! ## The runtime that counts references -/

/-- The memory of the library. -/
structure Native (core : BitcoinCore) where
  objects : Heap (Object core)
  transactions : Heap (Counted core.CTransaction)
  errors : Memory

namespace Native

variable {core : BitcoinCore}

/-- Memory from which nothing was taken yet. -/
def empty (errors : Memory) : Native core where
  objects := Heap.empty []
  transactions := Heap.empty []
  errors := errors

def objectsPart : Part (Native core) (Heap (Object core)) where
  get m := m.objects
  set m objects := { m with objects := objects }

def transactionsPart : Part (Native core) (Heap (Counted core.CTransaction)) where
  get m := m.transactions
  set m transactions := { m with transactions := transactions }

end Native

/-- What `new`, `delete` and `std::shared_ptr` do. -/
def native (core : BitcoinCore) : Runtime core (Native core) where
  new x := Prog.within Native.objectsPart (Heap.place x)
  read n := Prog.within Native.objectsPart (Heap.read n)
  delete n := Prog.within Native.objectsPart (Heap.free n)
  makeShared tx := Prog.within Native.transactionsPart (Heap.place (Counted.fresh tx))
  deref t := do
    let object ← Prog.within Native.transactionsPart (Heap.read t)
    return object.value
  share t := Prog.within Native.transactionsPart (Counted.incref t)
  release t := Prog.within Native.transactionsPart (Counted.decref t)
  errors :=
    { get m := m.errors
      set m errors := { m with errors := errors } }

end Btck
