import Btck.Native

/-!
# Programs that use the library (`include/btck/btck.h`)

A program calls one function of the header after the other, with pointers that it got from earlier
calls, and with any others. A program that decides what to do by what it has seen runs as one of
these lists.

* `Call`, `Call.run` — the calls
* `run` — a program
-/

namespace Btck

open Infra

/--
A call of a function of the header. `υ` is the type of the user data of a callback. Not among them
are `BtcK_Error_New`, the getters of an error record, and the texts of flags and of error codes.
-/
inductive Call (core : BitcoinCore) (υ : Type) where
  | scriptPubkeyNew (alloc : Nat → Bool) (raw : Bytes) (err : Bool)
  | scriptPubkeyEqual (left right : Option (Ptr .scriptPubkey))
  | scriptPubkeyToBytes (self : Option (Ptr .scriptPubkey)) (write : Callback Bytes υ)
      (userdata : υ)
  | scriptPubkeyVerify (alloc : Nat → Bool) (scriptPubkey : Option (Ptr .scriptPubkey))
      (amount : Int64) (tx : Option (Ptr .transaction))
      (spentOutputs : List (Option (Ptr .transactionOutput))) (inputIndex flags : UInt32)
      (err : Bool)
  | transactionOutputNew (alloc : Nat → Bool) (amount : Int64)
      (scriptPubkey : Option (Ptr .scriptPubkey)) (err : Bool)
  | transactionOutputGetAmount (self : Option (Ptr .transactionOutput))
  | transactionOutputGetScriptPubkey (self : Option (Ptr .transactionOutput))
  | transactionOutputToString (self : Option (Ptr .transactionOutput)) (buf : Option Nat)
      (len : Nat) (buffer : Buffer)
  | transactionNew (alloc : Nat → Bool) (raw : Bytes) (err : Bool)
  | transactionCountOutputs (self : Option (Ptr .transaction))
  | transactionGetOutput (self : Option (Ptr .transaction)) (idx : UInt64)
  | transactionToBytes (self : Option (Ptr .transaction)) (write : Callback Bytes υ)
      (userdata : υ)
  | transactionToString (self : Option (Ptr .transaction)) (buf : Option Nat) (len : Nat)
      (buffer : Buffer)
  | blockNew (alloc : Nat → Bool) (raw : Bytes) (err : Bool)
  | blockGetHash (self : Option (Ptr .block))
  | blockCountTransactions (self : Option (Ptr .block))
  | blockGetTransaction (self : Option (Ptr .block)) (idx : UInt64)
  | blockToBytes (self : Option (Ptr .block)) (write : Callback Bytes υ) (userdata : υ)
  | blockToString (self : Option (Ptr .block)) (buf : Option Nat) (len : Nat) (buffer : Buffer)
  | chainGetBlock (self : ChainstateManager core) (alloc : Nat → Bool) (idx : UInt64) (err : Bool)
  /-- One of the four `Copy` functions. -/
  | copy (ok : Bool) {k : Kind} (self : Option (Ptr k)) (err : Bool)
  /-- One of the four `Free` functions. -/
  | free {k : Kind} (self : Option (Ptr k))
  | errorFree (error : ErrorPtr)

/--
What a call returns, and what it leaves in what it was given. `P` is what stands for the handles: in
memory they are pointers.
-/
inductive Reply (P : Kind → Type) (υ : Type) where
  | created (k : Kind) (p : Option (P k)) (err : Option ErrorPtr)
  | borrowed (k : Kind) (p : Option (P k))
  | int (n : Int32)
  | verdict (n : Int32) (err : Option ErrorPtr)
  | amount (n : Int64)
  | count (n : UInt64)
  | hash (b : Bytes)
  | written (n : Int32) (userdata : υ)
  | text (n : Int32) (buffer : Buffer)
  | done

section

variable {core : BitcoinCore} {σ υ : Type} (rt : Runtime core σ)

/-- What a call does. -/
def Call.run : Call core υ → Prog σ Empty (Reply Ptr υ)
  | scriptPubkeyNew alloc raw err => do
    let (p, e) ← Runtime.ScriptPubkey.new rt alloc raw err
    return .created .scriptPubkey p e
  | scriptPubkeyEqual left right => do
    let n ← Runtime.ScriptPubkey.equal rt left right
    return .int n
  | scriptPubkeyToBytes self write userdata => do
    let (n, u) ← Runtime.ScriptPubkey.toBytes rt self write userdata
    return .written n u
  | scriptPubkeyVerify alloc scriptPubkey amount tx spentOutputs inputIndex flags err => do
    let (n, e) ← Runtime.ScriptPubkey.verify rt alloc scriptPubkey amount tx spentOutputs
      inputIndex flags err
    return .verdict n e
  | transactionOutputNew alloc amount scriptPubkey err => do
    let (p, e) ← Runtime.TransactionOutput.new rt alloc amount scriptPubkey err
    return .created .transactionOutput p e
  | transactionOutputGetAmount self => do
    let n ← Runtime.TransactionOutput.getAmount rt self
    return .amount n
  | transactionOutputGetScriptPubkey self => do
    let p ← Runtime.TransactionOutput.getScriptPubkey rt self
    return .borrowed .scriptPubkey p
  | transactionOutputToString self buf len buffer => do
    let (n, b) ← Runtime.TransactionOutput.toString rt self buf len buffer
    return .text n b
  | transactionNew alloc raw err => do
    let (p, e) ← Runtime.Transaction.new rt alloc raw err
    return .created .transaction p e
  | transactionCountOutputs self => do
    let n ← Runtime.Transaction.countOutputs rt self
    return .count n
  | transactionGetOutput self idx => do
    let p ← Runtime.Transaction.getOutput rt self idx
    return .borrowed .transactionOutput p
  | transactionToBytes self write userdata => do
    let (n, u) ← Runtime.Transaction.toBytes rt self write userdata
    return .written n u
  | transactionToString self buf len buffer => do
    let (n, b) ← Runtime.Transaction.toString rt self buf len buffer
    return .text n b
  | blockNew alloc raw err => do
    let (p, e) ← Runtime.Block.new rt alloc raw err
    return .created .block p e
  | blockGetHash self => do
    let b ← Runtime.Block.getHash rt self
    return .hash b
  | blockCountTransactions self => do
    let n ← Runtime.Block.countTransactions rt self
    return .count n
  | blockGetTransaction self idx => do
    let p ← Runtime.Block.getTransaction rt self idx
    return .borrowed .transaction p
  | blockToBytes self write userdata => do
    let (n, u) ← Runtime.Block.toBytes rt self write userdata
    return .written n u
  | blockToString self buf len buffer => do
    let (n, b) ← Runtime.Block.toString rt self buf len buffer
    return .text n b
  | chainGetBlock self alloc idx err => do
    let (p, e) ← Runtime.Chain.getBlock rt self alloc idx err
    return .created .block p e
  | copy ok (k := k) self err => do
    let (p, e) ← rt.copy ok self err
    return .created k p e
  | free self => do
    rt.free self
    return .done
  | errorFree error => do
    Prog.within rt.errors (Error.free error)
    return .done

/-- A program: one call after the other. -/
def run : List (Call core υ) → Prog σ Empty (List (Reply Ptr υ))
  | [] => return []
  | call :: calls => do
    let reply ← call.run rt
    let replies ← run calls
    return reply :: replies

end

end Btck
