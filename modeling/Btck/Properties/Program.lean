import Btck.Program

/-!
# From the parts of a program to the program

What the results about memory say of a program, they say because of what the functions of `api.hpp`
do; the functions of the header only put these together. `Congruent` is a relation between programs
over two runtimes for which this is so.

* `Congruent` — the relation
* `Congruent.call`, `Congruent.run` — it holds of every call and of every program
-/

namespace Btck

open Infra

variable {core : BitcoinCore} {σ τ : Type}

/--
A relation that is kept by sequences and handlers, and that holds between what the two runtimes make
of the functions that work on memory.
-/
structure Congruent (rt : Runtime core σ) (rt' : Runtime core τ)
    (P : ∀ {ε α : Type}, Prog σ ε α → Prog τ ε α → Prop) : Prop where
  pure : ∀ {ε α : Type} (a : α), P (pure a : Prog σ ε α) (pure a)
  lift : ∀ {ε α : Type} (x : Outcome ε α), P (Prog.lift x) (Prog.lift x)
  bind : ∀ {ε α β : Type} {x : Prog σ ε α} {y : Prog τ ε α} {f : α → Prog σ ε β}
    {g : α → Prog τ ε β}, P x y → (∀ a, P (f a) (g a)) → P (x >>= f) (y >>= g)
  catchAll : ∀ {ε ε' α : Type} {x : Prog σ ε α} {y : Prog τ ε α} {f : ε → Prog σ ε' α}
    {g : ε → Prog τ ε' α}, P x y → (∀ e, P (f e) (g e)) → P (Prog.catchAll x f) (Prog.catchAll y g)
  onOther : ∀ {ε α υ : Type} (x : Prog υ ε α) (other : υ),
    P (Runtime.onOther x other) (Runtime.onOther x other)
  onErrors : ∀ {ε α : Type} (x : Prog Memory ε α),
    P (Prog.within rt.errors x) (Prog.within rt'.errors x)
  deref : ∀ {ε : Type} (t : Nat),
    P (rt.deref t : Prog σ ε core.CTransaction) (rt'.deref t)
  load : ∀ {ε : Type} {k : Kind} (p : Ptr k), P (rt.load p : Prog σ ε (CppType core k)) (rt'.load p)
  createScript : ∀ (ok : Bool) (script : CScript),
    P (rt.create ok .scriptPubkey script) (rt'.create ok .scriptPubkey script)
  createOutput : ∀ (ok : Bool) (out : CTxOut),
    P (rt.create ok .transactionOutput out) (rt'.create ok .transactionOutput out)
  transactionNew : ∀ (alloc : Nat → Bool) (raw : Bytes),
    P (Runtime.Transaction.newBody rt alloc raw) (Runtime.Transaction.newBody rt' alloc raw)
  createMoved : ∀ (ok : Bool) (block : core.CBlock),
    P (Runtime.Block.createMoved rt ok block) (Runtime.Block.createMoved rt' ok block)
  copyBody : ∀ (ok : Bool) {k : Kind} (self : Option (Ptr k)),
    P (rt.copyBody ok self) (rt'.copyBody ok self)
  free : ∀ {ε : Type} {k : Kind} (self : Option (Ptr k)),
    P (rt.free self : Prog σ ε Unit) (rt'.free self)

namespace Congruent

variable {rt : Runtime core σ} {rt' : Runtime core τ}
  {P : ∀ {ε α : Type}, Prog σ ε α → Prog τ ε α → Prop} {ε : Type}

theorem wrapFn {Ret : Type} [Inhabited Ret] (h : Congruent rt rt' P) (err : Bool)
    {x : Prog σ Exception Ret} {y : Prog τ Exception Ret} (hxy : P x y) :
    P (rt.wrapFn err x : Prog σ ε (Ret × Option ErrorPtr)) (rt'.wrapFn err y) := by
  refine h.catchAll (h.bind hxy fun r => h.pure (r, none)) fun e => ?_
  cases err with
  | false => exact h.pure (default, none)
  | true => exact h.bind (h.onErrors (translateException e)) fun p => h.pure (default, some p)

theorem get (h : Congruent rt rt' P) {k : Kind} (self : Option (Ptr k)) :
    P (rt.get self : Prog σ ε (CppType core k)) (rt'.get self) := by
  cases self with
  | none => exact h.lift (.faults .nullDeref)
  | some p => exact h.load p

theorem derefAll (h : Congruent rt rt' P) :
    ∀ ts : List Nat, P (rt.derefAll ts : Prog σ ε Unit) (rt'.derefAll ts) := by
  intro ts
  induction ts with
  | nil => exact h.pure ()
  | cons t ts ih => exact h.bind (h.deref t) fun _ => ih

theorem getAll (h : Congruent rt rt' P) : ∀ ps : List (Option (Ptr .transactionOutput)),
    P (Runtime.ScriptPubkey.getAll rt ps : Prog σ ε (List CTxOut))
      (Runtime.ScriptPubkey.getAll rt' ps) := by
  intro ps
  induction ps with
  | nil => exact h.pure []
  | cons p ps ih => exact h.bind (h.get p) fun out => h.bind ih fun outs => h.pure (out :: outs)

theorem transactionValue (h : Congruent rt rt' P) (self : Option (Ptr .transaction)) :
    P (Runtime.Transaction.value rt self : Prog σ ε core.CTransaction)
      (Runtime.Transaction.value rt' self) :=
  h.bind (h.get self) h.deref

theorem blockValue (h : Congruent rt rt' P) (self : Option (Ptr .block)) :
    P (Runtime.Block.value rt self : Prog σ ε core.CBlock) (Runtime.Block.value rt' self) :=
  h.bind (h.get self) fun stored => h.bind (h.derefAll stored.vtx) fun _ => h.pure stored.block

theorem verifyBody (h : Congruent rt rt' P) (alloc : Nat → Bool)
    (scriptPubkey : Option (Ptr .scriptPubkey)) (amount : Int64) (tx : Option (Ptr .transaction))
    (spentOutputs : List (Option (Ptr .transactionOutput))) (inputIndex flags : UInt32) :
    P (Runtime.ScriptPubkey.verifyBody rt alloc scriptPubkey amount tx spentOutputs inputIndex flags)
      (Runtime.ScriptPubkey.verifyBody rt' alloc scriptPubkey amount tx spentOutputs inputIndex
        flags) :=
  h.bind (h.get scriptPubkey) fun _ => h.bind (h.get tx) fun ref => h.bind (h.deref ref) fun _ =>
    h.bind (h.getAll spentOutputs) fun _ => h.lift _

theorem getScriptPubkey (h : Congruent rt rt' P) (self : Option (Ptr .transactionOutput)) :
    P (Runtime.TransactionOutput.getScriptPubkey rt self : Prog σ ε _)
      (Runtime.TransactionOutput.getScriptPubkey rt' self) := by
  cases self with
  | none => exact h.lift (.faults .nullDeref)
  | some out => exact h.bind (h.load out) fun _ => h.pure _

theorem getOutput (h : Congruent rt rt' P) (self : Option (Ptr .transaction)) (idx : UInt64) :
    P (Runtime.Transaction.getOutput rt self idx : Prog σ ε _)
      (Runtime.Transaction.getOutput rt' self idx) :=
  h.bind (h.get self) fun tx => h.bind (h.deref tx) fun _ => h.bind (h.lift _) fun _ => h.pure _

theorem getTransaction (h : Congruent rt rt' P) (self : Option (Ptr .block)) (idx : UInt64) :
    P (Runtime.Block.getTransaction rt self idx : Prog σ ε _)
      (Runtime.Block.getTransaction rt' self idx) := by
  rcases self with _ | p
  · exact h.lift (.faults .nullDeref)
  · obtain ⟨n⟩ := p
    exact h.bind (h.load (.object n : Ptr .block)) fun _ => h.bind (h.lift _) fun _ => h.pure _

variable {υ : Type}

/-- It holds of every call. -/
theorem call (h : Congruent rt rt' P) (call : Call core υ) : P (call.run rt) (call.run rt') := by
  cases call with
  | scriptPubkeyNew alloc raw err =>
    exact h.bind (h.wrapFn err (h.createScript (alloc 0) raw)) fun _ => h.pure _
  | scriptPubkeyEqual left right =>
    exact h.bind (h.bind (h.get left) fun _ => h.bind (h.get right) fun _ => h.lift _) fun _ =>
      h.pure _
  | scriptPubkeyToBytes self write userdata =>
    exact h.bind (h.bind (h.get self) fun _ => h.onOther _ userdata) fun _ => h.pure _
  | scriptPubkeyVerify alloc scriptPubkey amount tx spentOutputs inputIndex flags err =>
    exact h.bind (h.wrapFn err (h.verifyBody alloc scriptPubkey amount tx spentOutputs inputIndex
      flags)) fun _ => h.pure _
  | transactionOutputNew alloc amount scriptPubkey err =>
    exact h.bind (h.wrapFn err (h.bind (h.get scriptPubkey) fun script =>
      h.createOutput (alloc 0) (CTxOut.mk amount script))) fun _ => h.pure _
  | transactionOutputGetAmount self =>
    exact h.bind (h.bind (h.get self) fun _ => h.pure _) fun _ => h.pure _
  | transactionOutputGetScriptPubkey self => exact h.bind (h.getScriptPubkey self) fun _ => h.pure _
  | transactionOutputToString self buf len buffer =>
    exact h.bind (h.bind (h.get self) fun _ => h.onOther _ buffer) fun _ => h.pure _
  | transactionNew alloc raw err =>
    exact h.bind (h.wrapFn err (h.transactionNew alloc raw)) fun _ => h.pure _
  | transactionCountOutputs self =>
    exact h.bind (h.bind (h.transactionValue self) fun _ => h.pure _) fun _ => h.pure _
  | transactionGetOutput self idx => exact h.bind (h.getOutput self idx) fun _ => h.pure _
  | transactionToBytes self write userdata =>
    exact h.bind (h.bind (h.transactionValue self) fun _ => h.onOther _ userdata) fun _ => h.pure _
  | transactionToString self buf len buffer =>
    exact h.bind (h.bind (h.transactionValue self) fun _ => h.onOther _ buffer) fun _ => h.pure _
  | blockNew alloc raw err =>
    exact h.bind (h.wrapFn err (h.bind (h.lift _) (h.createMoved (alloc 1)))) fun _ => h.pure _
  | blockGetHash self => exact h.bind (h.bind (h.get self) fun _ => h.pure _) fun _ => h.pure _
  | blockCountTransactions self =>
    exact h.bind (h.bind (h.get self) fun _ => h.pure _) fun _ => h.pure _
  | blockGetTransaction self idx => exact h.bind (h.getTransaction self idx) fun _ => h.pure _
  | blockToBytes self write userdata =>
    exact h.bind (h.bind (h.blockValue self) fun _ => h.onOther _ userdata) fun _ => h.pure _
  | blockToString self buf len buffer =>
    exact h.bind (h.bind (h.blockValue self) fun _ => h.onOther _ buffer) fun _ => h.pure _
  | chainGetBlock self alloc idx err =>
    exact h.bind (h.wrapFn err (h.bind (h.lift _) (h.createMoved (alloc 0)))) fun _ => h.pure _
  | copy ok self err => exact h.bind (h.wrapFn err (h.copyBody ok self)) fun _ => h.pure _
  | free self => exact h.bind (h.free self) fun _ => h.pure _
  | errorFree error => exact h.bind (h.onErrors (Error.free error)) fun _ => h.pure _

/-- It holds of every program. -/
theorem run (h : Congruent rt rt' P) :
    ∀ calls : List (Call core υ), P (Btck.run rt calls) (Btck.run rt' calls) := by
  intro calls
  induction calls with
  | nil => exact h.pure []
  | cons c calls ih => exact h.bind (h.call c) fun reply => h.bind ih fun replies => h.pure _

end Congruent

end Btck
