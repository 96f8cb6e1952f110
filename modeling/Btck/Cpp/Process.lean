import Btck.Cpp.Invoke
import Btck.Cpp.Wrapper
import Btck.Native

/-!
# Wrappers over the library (`include/btck/btck.hpp`)

`Btck.Cpp.Wrapper` takes a handle for a number that somebody hands out. Here a wrapper has the
pointer that a function of the library returned, and what copies and frees it are the functions of
the library.

A program has objects, at addresses. What the compiler does not let through is no program: here it
does nothing.

* `invoke`, `copyPtr`, `freePtr` — `detail::invoke` and the two policies
* `Action`, `Action.run`, `runAll` — programs
-/

namespace Btck.Cpp

open Infra

/-- `wrapper<Api, Policy>`. The `Api` is known by its C type. -/
structure WrapperObject where
  kind : Kind
  policy : Policy
  ptr_ : Option (Ptr kind)

/-- The wrapper objects, by address, and the library's memory. -/
structure Process (core : BitcoinCore) where
  wrappers : Nat → Option WrapperObject
  native : Native core

namespace Process

variable {core : BitcoinCore} {ε α : Type}

def empty (errors : Memory) : Process core where
  wrappers := fun _ => none
  native := .empty errors

def put (s : Process core) (i : Nat) (w : Option WrapperObject) : Process core :=
  { s with wrappers := Function.update s.wrappers i w }

def nativePart : Part (Process core) (Native core) where
  get s := s.native
  set s native := { s with native := native }

/-- Code that works on the library's memory. -/
def onNative (x : Prog (Native core) ε α) : Prog (Process core) ε α := Prog.within nativePart x

/-- From now on the object at `i` is `w`. -/
def place (i : Nat) (w : WrapperObject) : Prog (Process core) ε Unit := fun s =>
  (.returns (), s.put i (some w))

/-- There is no object at `i` any more. -/
def vacate (i : Nat) : Prog (Process core) ε Unit := fun s => (.returns (), s.put i none)

/-- Code for the object at `i`. -/
def withWrapper (i : Nat) (f : WrapperObject → Prog (Process core) ε Unit) :
    Prog (Process core) ε Unit := fun s =>
  match s.wrappers i with
  | some w => f w s
  | none => (.returns (), s)

/--
`detail::invoke`. As in `Btck.Cpp.invoke`, the destructor of `err` runs however the scope is left.
-/
def invoke {Ret : Type}
    (function : Bool → Prog (Native core) Thrown (Ret × Option ErrorPtr)) :
    Prog (Native core) Thrown Ret := do
  let (result, raw) ← function true
  let err := raw.getD .null
  Prog.within (Btck.native core).errors
    (Prog.andFinally (if err ≠ .null then translateError err else pure result) (Error.free err))

/-- `ownership_traits::copy` -/
def copyPtr (ok : Bool) {k : Kind} (policy : Policy) (ptr : Option (Ptr k)) :
    Prog (Native core) Thrown (Option (Ptr k)) :=
  match policy with
  | .owned => invoke fun err => (Btck.native core).copy ok ptr err
  | .unowned => return ptr

/-- `ownership_traits::free` -/
def freePtr {k : Kind} (policy : Policy) (ptr : Option (Ptr k)) : Prog (Native core) ε Unit :=
  match policy with
  | .owned => (Btck.native core).free ptr
  | .unowned => return ()

end Process

/-! ## Programs -/

/-- What a program does with wrappers. `i` is the address of the object that it is done to. -/
inductive Action where
  /-- The constructors of `script_pubkey`, `transaction_output`, `transaction` and `block` -/
  | newScriptPubkey (i : Nat) (alloc : Nat → Bool) (raw : Bytes)
  | newTransactionOutput (i : Nat) (alloc : Nat → Bool) (amount : Int64) (scriptPubkey : Nat)
  | newTransaction (i : Nat) (alloc : Nat → Bool) (raw : Bytes)
  | newBlock (i : Nat) (alloc : Nat → Bool) (raw : Bytes)
  /-- The constructors from a `const&`, of the same policy or of the other one. -/
  | copy (i j : Nat) (policy : Policy) (ok : Bool)
  /-- `wrapper(wrapper&&)` -/
  | moveConstruct (i j : Nat)
  /-- `operator=(wrapper&&)` -/
  | moveAssign (i j : Nat)
  /-- `~wrapper()` -/
  | destroy (i : Nat)

open Process

variable {core : BitcoinCore}

/-- `wrapper(internal, invoke(New, ..))` -/
def construct (i : Nat) {k : Kind}
    (new : Bool → Prog (Native core) Thrown (Option (Ptr k) × Option ErrorPtr)) :
    Prog (Process core) Thrown Unit := do
  let ptr ← onNative (Process.invoke new)
  place i { kind := k, policy := .owned, ptr_ := ptr }

def Action.run : Action → Prog (Process core) Thrown Unit
  | .newScriptPubkey i alloc raw => construct i (Runtime.ScriptPubkey.new (native core) alloc raw)
  | .newTransactionOutput i alloc amount j => withWrapper j fun
    | { kind := .scriptPubkey, policy := .owned, ptr_ } =>
      construct i (Runtime.TransactionOutput.new (native core) alloc amount ptr_)
    | _ => return ()
  | .newTransaction i alloc raw => construct i (Runtime.Transaction.new (native core) alloc raw)
  | .newBlock i alloc raw => construct i (Runtime.Block.new (native core) alloc raw)
  | .copy i j policy ok => withWrapper j fun other => do
    let ptr ← onNative (copyPtr ok policy other.ptr_)
    place i { kind := other.kind, policy := policy, ptr_ := ptr }
  | .moveConstruct i j => withWrapper j fun other => do
    place i other
    place j { other with ptr_ := none }
  | .moveAssign i j => withWrapper i fun self => do
    onNative (freePtr self.policy self.ptr_)
    withWrapper j fun other =>
      -- Both are of one type, so that what goes to `i` is all that there was at `j`.
      if self.kind = other.kind ∧ self.policy = other.policy then do
        place j { other with ptr_ := none }
        place i other
      else return ()
  | .destroy i => withWrapper i fun self => do
    onNative (freePtr self.policy self.ptr_)
    vacate i

/-- `try` around an action: what was thrown, if anything was. -/
def Action.attempt (action : Action) : Prog (Process core) Empty (Option Thrown) :=
  Prog.catchAll (action.run >>= fun _ => pure none) fun e => pure (some e)

/-- A program, which catches what its actions throw. -/
def runAll : List Action → Prog (Process core) Empty (List (Option Thrown))
  | [] => return []
  | action :: actions => do
    let thrown ← action.attempt
    let others ← runAll actions
    return thrown :: others

/-! ## Good behaviour -/

/-- The object at `i` has a pointer, and what it points to is there. -/
def Process.Usable (s : Process core) (i : Nat) : Prop :=
  ∃ w n, s.wrappers i = some w ∧ w.ptr_ = some (.object n) ∧ (s.native.objects.cell n).isSome

/--
What a well-behaved program does: a moved-from wrapper is only assigned to or destroyed, an unowned
wrapper is not used after its owner is gone, and no owned wrapper is moved to itself.
-/
def Action.Allowed (s : Process core) : Action → Prop
  | .newScriptPubkey i _ _ | .newTransaction i _ _ | .newBlock i _ _ => s.wrappers i = none
  | .newTransactionOutput i _ _ j => s.wrappers i = none ∧ s.Usable j
  | .copy i j _ _ | .moveConstruct i j => s.wrappers i = none ∧ s.Usable j
  | .moveAssign i j => (i = j → ∀ w, s.wrappers i = some w → w.policy = .unowned) ∧ s.Usable j ∧
      ∃ self other, s.wrappers i = some self ∧ s.wrappers j = some other ∧
        self.kind = other.kind ∧ self.policy = other.policy
  | .destroy i => (s.wrappers i).isSome

/-- Each action is one of a well-behaved program, when it comes to it. -/
def WellBehaved : List Action → Process core → Prop
  | [], _ => True
  | action :: actions, s => action.Allowed s ∧ WellBehaved actions (action.run s).2

end Btck.Cpp
