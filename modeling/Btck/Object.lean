import Btck.Core

/-!
# Objects (`src/util/api.hpp`, `btck_block.cpp`, `btck_script_pubkey.cpp`, `btck_transaction.cpp`,
`btck_transaction_output.cpp`)

An object handle is an opaque pointer to a Bitcoin Core object. Here it is an `Option`: the null
pointer, or the object that it points to.

Each function that can fail is a body under `wrapFn`. The body is a definition of its own, so
that "the body threw" can be said of it. `alloc k` tells whether the `k`-th allocation of the
call succeeds.
-/

namespace Btck

open Infra

variable {ε : Type} {α : Type}

namespace Api

/-- `api::get`: the object behind a handle. -/
def get (self : Option α) : Outcome ε α :=
  match self with
  | some x => .returns x
  | none => .faults .nullDeref

/-- `api::create`: a new object, and the handle that owns it. -/
def create (ok : Bool) (x : α) : Outcome Exception (Option α) := do
  let p ← allocate ok x
  return some p

/-- The body of `api::copy`. -/
def copyBody (ok : Bool) (self : Option α) : Outcome Exception (Option α) := do
  create ok (← get self)

/-- `api::copy` -/
def copy (ok : Bool) (self : Option α) (err : Bool) :
    Prog Memory ε (Option α × Option ErrorPtr) :=
  wrapFn err (copyBody ok self)

theorem create_eq_returns {ok : Bool} {x : α} {p : Option α} :
    create ok x = .returns p ↔ ok = true ∧ p = some x := by
  cases ok <;> simp [create, eq_comm]

theorem copyBody_eq_returns {ok : Bool} {self p : Option α} :
    copyBody ok self = .returns p ↔ ok = true ∧ p = self ∧ self ≠ none := by
  cases self with
  | none => simp [copyBody, get]
  | some x =>
    show create ok x = .returns p ↔ _
    simp [create_eq_returns]

end Api

/-! ## `BtcK_ScriptPubkey` -/

namespace ScriptPubkey

/-- The body of `BtcK_ScriptPubkey_New`. -/
def newBody (alloc : Nat → Bool) (raw : Bytes) : Outcome Exception (Option CScript) :=
  Api.create (alloc 0) raw

/-- `BtcK_ScriptPubkey_New` -/
def new (alloc : Nat → Bool) (raw : Bytes) (err : Bool) :
    Prog Memory ε (Option CScript × Option ErrorPtr) :=
  wrapFn err (newBody alloc raw)

/-- `BtcK_ScriptPubkey_Copy` -/
def copy (ok : Bool) (self : Option CScript) (err : Bool) :
    Prog Memory ε (Option CScript × Option ErrorPtr) :=
  Api.copy ok self err

/-- `BtcK_ScriptPubkey_Equal` -/
def equal (left right : Option CScript) : Outcome ε Int32 := do
  let l ← Api.get left
  let r ← Api.get right
  return if l = r then 1 else 0

end ScriptPubkey

/-! ## `BtcK_TransactionOutput` -/

namespace TransactionOutput

/-- The body of `BtcK_TransactionOutput_New`. -/
def newBody (alloc : Nat → Bool) (amount : Int64) (scriptPubkey : Option CScript) :
    Outcome Exception (Option CTxOut) := do
  let script ← Api.get scriptPubkey
  Api.create (alloc 0) { nValue := amount, scriptPubKey := script }

/-- `BtcK_TransactionOutput_New` -/
def new (alloc : Nat → Bool) (amount : Int64) (scriptPubkey : Option CScript) (err : Bool) :
    Prog Memory ε (Option CTxOut × Option ErrorPtr) :=
  wrapFn err (newBody alloc amount scriptPubkey)

/-- `BtcK_TransactionOutput_Copy` -/
def copy (ok : Bool) (self : Option CTxOut) (err : Bool) :
    Prog Memory ε (Option CTxOut × Option ErrorPtr) :=
  Api.copy ok self err

/-- `BtcK_TransactionOutput_GetAmount` -/
def getAmount (self : Option CTxOut) : Outcome ε Int64 := do
  return (← Api.get self).nValue

/-- `BtcK_TransactionOutput_GetScriptPubkey` -/
def getScriptPubkey (self : Option CTxOut) : Outcome ε (Option CScript) := do
  return some (← Api.get self).scriptPubKey

end TransactionOutput

/-! ## `BtcK_Transaction` -/

namespace Transaction

variable (core : BitcoinCore)

/-- The body of `BtcK_Transaction_New`. What is left in the stream is not looked at. -/
def newBody (alloc : Nat → Bool) (raw : Bytes) : Outcome Exception (Option core.CTransaction) := do
  let stream ← allocate (alloc 0) raw
  allocate (alloc 1) ()
  let (tx, _) ← core.tx.unserialize stream
  Api.create (alloc 2) tx

/-- `BtcK_Transaction_New` -/
def new (alloc : Nat → Bool) (raw : Bytes) (err : Bool) :
    Prog Memory ε (Option core.CTransaction × Option ErrorPtr) :=
  wrapFn err (newBody core alloc raw)

/-- `BtcK_Transaction_Copy` -/
def copy (ok : Bool) (self : Option core.CTransaction) (err : Bool) :
    Prog Memory ε (Option core.CTransaction × Option ErrorPtr) :=
  Api.copy ok self err

/-- `BtcK_Transaction_CountOutputs` -/
def countOutputs (self : Option core.CTransaction) : Outcome ε UInt64 := do
  return UInt64.ofNat (core.vout (← Api.get self)).size

/-- `BtcK_Transaction_GetOutput` -/
def getOutput (self : Option core.CTransaction) (idx : UInt64) : Outcome ε (Option CTxOut) := do
  let out ← (core.vout (← Api.get self)).get idx.toNat
  return some out

end Transaction

/-! ## `BtcK_Block` -/

namespace Block

variable (core : BitcoinCore)

/-- The body of `BtcK_Block_New`. What is left in the stream is not looked at. -/
def newBody (alloc : Nat → Bool) (raw : Bytes) : Outcome Exception (Option core.CBlock) := do
  let stream ← allocate (alloc 0) raw
  let (block, _) ← core.block.unserialize stream
  Api.create (alloc 1) block

/-- `BtcK_Block_New` -/
def new (alloc : Nat → Bool) (raw : Bytes) (err : Bool) :
    Prog Memory ε (Option core.CBlock × Option ErrorPtr) :=
  wrapFn err (newBody core alloc raw)

/-- `BtcK_Block_Copy` -/
def copy (ok : Bool) (self : Option core.CBlock) (err : Bool) :
    Prog Memory ε (Option core.CBlock × Option ErrorPtr) :=
  Api.copy ok self err

/-- `BtcK_Block_GetHash` -/
def getHash (self : Option core.CBlock) : Outcome ε Bytes := do
  return core.getHash (← Api.get self)

/-- `BtcK_Block_CountTransactions` -/
def countTransactions (self : Option core.CBlock) : Outcome ε UInt64 := do
  return UInt64.ofNat (core.vtx (← Api.get self)).size

/-- `BtcK_Block_GetTransaction` -/
def getTransaction (self : Option core.CBlock) (idx : UInt64) :
    Outcome ε (Option core.CTransaction) := do
  let tx ← (core.vtx (← Api.get self)).get idx.toNat
  return some tx

end Block

/-! ## When the constructors succeed -/

theorem ScriptPubkey.newBody_eq_returns {alloc : Nat → Bool} {raw : Bytes} {p : Option CScript} :
    ScriptPubkey.newBody alloc raw = .returns p ↔ alloc 0 = true ∧ p = some raw :=
  Api.create_eq_returns

theorem Transaction.newBody_eq_returns {core : BitcoinCore} {alloc : Nat → Bool} {raw : Bytes}
    {p : Option core.CTransaction} :
    Transaction.newBody core alloc raw = .returns p ↔
      (alloc 0 = true ∧ alloc 1 = true ∧ alloc 2 = true) ∧
        ∃ tx rest, core.tx.unserialize raw = .returns (tx, rest) ∧ p = some tx := by
  simp only [newBody, Outcome.bind_eq_returns, allocate_eq_returns, Api.create_eq_returns,
    Prod.exists]
  constructor
  · rintro ⟨_, ⟨h0, rfl⟩, _, ⟨h1, _⟩, tx, rest, hu, h2, rfl⟩
    exact ⟨⟨h0, h1, h2⟩, tx, rest, hu, rfl⟩
  · rintro ⟨⟨h0, h1, h2⟩, tx, rest, hu, rfl⟩
    exact ⟨raw, ⟨h0, rfl⟩, (), ⟨h1, trivial⟩, tx, rest, hu, h2, rfl⟩

theorem Block.newBody_eq_returns {core : BitcoinCore} {alloc : Nat → Bool} {raw : Bytes}
    {p : Option core.CBlock} :
    Block.newBody core alloc raw = .returns p ↔
      (alloc 0 = true ∧ alloc 1 = true) ∧
        ∃ block rest, core.block.unserialize raw = .returns (block, rest) ∧ p = some block := by
  simp only [newBody, Outcome.bind_eq_returns, allocate_eq_returns, Api.create_eq_returns,
    Prod.exists]
  constructor
  · rintro ⟨_, ⟨h0, rfl⟩, block, rest, hu, h1, rfl⟩
    exact ⟨⟨h0, h1⟩, block, rest, hu, rfl⟩
  · rintro ⟨⟨h0, h1⟩, block, rest, hu, rfl⟩
    exact ⟨raw, ⟨h0, rfl⟩, block, rest, hu, h1, rfl⟩

end Btck
