import Btck.Flags
import Btck.Object

/-!
# Script verification (`src/btck_script_pubkey.cpp`)

`verify` checks its arguments, prepares the call of Bitcoin Core's `VerifyScript` and makes it.
The part in front of the call is `prepare`, so that "`VerifyScript` is reached" can be said:
it is when `prepare` returns.
-/

namespace Btck

open Infra

/-! ## Bitcoin Core's side of the call -/

/--
`PrecomputedTransactionData::Init` for a transaction with `inputs` inputs, as far as the spent
outputs go, with its two assertions.
-/
def PrecomputedTransactionData.init (self : PrecomputedTransactionData) (inputs : Nat)
    (spentOutputs : List CTxOut) : Outcome Exception PrecomputedTransactionData :=
  if self.spentOutputsReady then .faults .assertion
  else if spentOutputs.isEmpty then .returns { self with spentOutputs := spentOutputs }
  else if spentOutputs.length = inputs then
    .returns { spentOutputs := spentOutputs, spentOutputsReady := true }
  else .faults .assertion

/-- The constructor of `PrecomputedTransactionData`: an `Init` without spent outputs. -/
def PrecomputedTransactionData.new (inputs : Nat) : Outcome Exception PrecomputedTransactionData :=
  PrecomputedTransactionData.init { spentOutputs := [], spentOutputsReady := false } inputs []

/--
`VerifyScript`. Its assertions about the flags come in the course of the evaluation; here they
are asked for in advance, which is more than the real function asks for.
-/
def verifyScript (core : BitcoinCore) (call : ScriptCall core.CTransaction) :
    Outcome Exception Bool :=
  if call.flags &&& SCRIPT_VERIFY_CLEANSTACK ≠ 0 ∧
      ¬ (call.flags &&& SCRIPT_VERIFY_P2SH ≠ 0 ∧ call.flags &&& SCRIPT_VERIFY_WITNESS ≠ 0) then
    .faults .assertion
  else if call.flags &&& SCRIPT_VERIFY_WITNESS ≠ 0 ∧ call.flags &&& SCRIPT_VERIFY_P2SH = 0 then
    .faults .assertion
  else core.evalScript call

/-! ## The library's side -/

section

variable (core : BitcoinCore)

/-- `verify`, up to the arguments of `VerifyScript`. -/
def prepare (scriptPubkey : CScript) (amount : Int64) (tx : core.CTransaction)
    (spentOutputs : List CTxOut) (inputIndex : UInt32) (flags : UInt32) :
    Outcome Exception (ScriptCall core.CTransaction) :=
  let cleanstack : Bool := flags &&& SCRIPT_VERIFY_CLEANSTACK ≠ 0
  let p2sh : Bool := flags &&& SCRIPT_VERIFY_P2SH ≠ 0
  let witness : Bool := flags &&& SCRIPT_VERIFY_WITNESS ≠ 0
  let taproot : Bool := flags &&& SCRIPT_VERIFY_TAPROOT ≠ 0
  if flags &&& ~~~VerificationFlags.ALL ≠ 0 then .throws VerificationError.invalidFlags.exception
  else if (cleanstack && !p2sh && !witness) || (witness && !p2sh) then
    .throws VerificationError.invalidFlagsCombination.exception
  else if taproot && spentOutputs.isEmpty then
    .throws VerificationError.spentOutputsRequired.exception
  else if !spentOutputs.isEmpty && spentOutputs.length ≠ (core.vin tx).size then
    .throws VerificationError.spentOutputsMismatch.exception
  else if inputIndex.toNat ≥ (core.vin tx).size then
    .throws VerificationError.txInputIndex.exception
  else do
    let txdata ← PrecomputedTransactionData.new (core.vin tx).size
    let txdata ←
      if taproot then txdata.init (core.vin tx).size spentOutputs else .returns txdata
    let input ← (core.vin tx).get inputIndex.toNat
    return {
      scriptSig := core.scriptSig input
      scriptPubKey := scriptPubkey
      witness := core.scriptWitness input
      flags := flags
      checker := { txTo := tx, nIn := inputIndex, amount := amount, txdata := txdata } }

/-- `verify` -/
def verify (scriptPubkey : CScript) (amount : Int64) (tx : core.CTransaction)
    (spentOutputs : List CTxOut) (inputIndex : UInt32) (flags : UInt32) :
    Outcome Exception Bool := do
  verifyScript core (← prepare core scriptPubkey amount tx spentOutputs inputIndex flags)

/-- `std::vector` from a view that dereferences every handle. -/
def getAll {α : Type} : List (Option α) → Outcome Exception (List α)
  | [] => .returns []
  | p :: ps => do
    let x ← Api.get p
    let xs ← getAll ps
    return x :: xs

/-- The body of `BtcK_ScriptPubkey_Verify`. -/
def ScriptPubkey.verifyBody (alloc : Nat → Bool) (scriptPubkey : Option CScript) (amount : Int64)
    (tx : Option core.CTransaction) (spentOutputs : List (Option CTxOut)) (inputIndex : UInt32)
    (flags : UInt32) : Outcome Exception Int32 := do
  let script ← Api.get scriptPubkey
  let txTo ← Api.get tx
  let outputs ← getAll spentOutputs
  let outputs ← allocate (alloc 0) outputs
  let result ← Btck.verify core script amount txTo outputs inputIndex flags
  return if result then 1 else 0

/-- `BtcK_ScriptPubkey_Verify` -/
def ScriptPubkey.verify {ε : Type} (alloc : Nat → Bool) (scriptPubkey : Option CScript)
    (amount : Int64) (tx : Option core.CTransaction) (spentOutputs : List (Option CTxOut))
    (inputIndex : UInt32) (flags : UInt32) (err : Bool) :
    Prog Memory ε (Int32 × Option ErrorPtr) :=
  wrapFn err (verifyBody core alloc scriptPubkey amount tx spentOutputs inputIndex flags)

end

theorem getAll_some {α : Type} : ∀ xs : List α, getAll (xs.map some) = .returns xs
  | [] => rfl
  | x :: xs => by
    show (getAll (xs.map some) >>= fun ys => Outcome.returns (x :: ys)) = _
    rw [getAll_some xs]
    rfl

end Btck
