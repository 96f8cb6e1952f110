import Btck.Python.Slice
import Btck.Python.VerificationFlags
import Btck.Verify

/-!
# Scripts (`bindings/python/src/script_pubkey.c`)

`verify` takes the spent outputs from any iterable. What it keeps of each is the native pointer;
whether the object that owns the pointer is still there when the pointer is used depends on who
else holds a reference.

* `SpentOutputs` — the kinds of iterables
* `convertTxOutputs`
* `VerifyArgs.parse`, `callVerify`, `verify`
-/

namespace Btck.Python

open Infra

section

variable {core : BitcoinCore}

/-- An object that is given for `spent_outputs`. -/
inductive SpentOutputs (core : BitcoinCore) where
  /-- An object of the module or of CPython that is neither of the following. -/
  | object (o : PyObj core)
  /-- A list or a tuple. It holds references to its items. -/
  | sequence (items : List (PyObj core))
  /--
  Any other iterable: its items, whether somebody else holds a reference to them when its iterator
  has been given up, and the exception that it raises at the end, if it does.
  -/
  | iterable (items : List (PyObj core × Bool)) (exc : Option PyErr)

/--
An item goes into a new list. With the only reference to an object, the list also gets its handle.
-/
def takeItem (item : PyObj core × Bool) : Prog State PyErr Unit :=
  if !item.2 && item.1.hasHandle then record (.acquired .handle) else return ()

def takeAll : List (PyObj core × Bool) → Prog State PyErr Unit
  | [] => return ()
  | item :: items => do
    takeItem item
    takeAll items

/-- `Py_DECREF` of an item: it is deallocated when nobody else holds it. -/
def dropItem (item : PyObj core × Bool) : Prog State PyErr Unit :=
  if item.2 then return () else dealloc item.1

/-- The references of a list are dropped from the last item on. -/
def dropAll : List (PyObj core × Bool) → Prog State PyErr Unit
  | [] => return ()
  | item :: items => do
    dropAll items
    dropItem item

/-- What an iterator yields, and whether anybody else holds it. -/
def iterItems (items : Int → Env) : SpentOutputs core → Prog State PyErr (List (PyObj core × Bool))
  | .sequence objs => return objs.map fun o => (o, true)
  | .iterable objs none => do
    takeAll objs
    return objs
  | .iterable objs (some exc) => do
    takeAll objs
    dropAll objs
    Prog.throw exc
  | .object (.slice obj words) => do
    let objs ← Slice.toList items (.slice obj words) 0
    return objs.map fun o => (o, false)
  | .object (.bytes b) => return b.map fun c => (.int c.toNat, true)
  | .object (.str s) => return s.map fun c => (.str [c], true)
  | .object _ => Prog.throw ⟨.typeError, some "spent_outputs must be a sequence"⟩

/-- `PySequence_Fast`: a list or a tuple itself, and otherwise a new list of the items. -/
def sequenceFast (env : Env) (items : Int → Env) (obj : SpentOutputs core) :
    Prog State PyErr (List (PyObj core × Bool)) := do
  let seq ← iterItems items obj
  match obj with
  | .sequence _ => return seq
  | _ =>
    if env.object 0 then return seq
    else do
      dropAll seq
      Prog.throw noMemory

/-- A pointer in a `TxOutputArray`. -/
structure TxOutputPtr where
  impl : Option CTxOut
  /-- The object that owns the pointer outlives the conversion. -/
  owned : Bool
  deriving DecidableEq, Repr

/-- The loop of `convert_tx_outputs`. -/
def storeAll : List (PyObj core × Bool) → Nat → Outcome PyErr (List TxOutputPtr)
  | [], _ => .returns []
  | (.transactionOutput impl, owned) :: items, idx => do
    let data ← storeAll items (idx + 1)
    return { impl := impl, owned := owned } :: data
  | _ :: _, idx => .throws
      ⟨.typeError, some ("spent_outputs[" ++ Nat.repr idx ++ "] is not a TransactionOutput")⟩

/--
`convert_tx_outputs` from the call of `PyMem_New` on. `Py_DECREF(seq)` drops the items of a list
that nobody else has; those of the list or tuple that was given stay.
-/
def convertSequence (env : Env) (seq : List (PyObj core × Bool)) :
    Prog State PyErr (List TxOutputPtr) :=
  if !env.object 1 then do
    dropAll seq
    Prog.throw noMemory
  else do
    record (.acquired .array)
    match storeAll seq 0 with
    | .returns data => do
      dropAll seq
      return data
    | .throws e => do
      record (.released .array)
      dropAll seq
      Prog.throw e
    | .faults u => Prog.fault u

/-- `convert_tx_outputs` -/
def convertTxOutputs (env : Env) (items : Int → Env) :
    SpentOutputs core → Prog State PyErr (List TxOutputPtr)
  | .object .none => return []
  | obj => do
    let seq ← sequenceFast env items obj
    convertSequence env seq

/-- `None` is not a sequence. -/
theorem convertTxOutputs_of_seq {env : Env} {items : Int → Env} {obj : SpentOutputs core}
    {s s' : State} {seq : List (PyObj core × Bool)}
    (h : sequenceFast env items obj s = (.returns seq, s')) :
    convertTxOutputs env items obj s = convertSequence env seq s' := by
  unfold convertTxOutputs
  split
  · have hthrow : (sequenceFast env items (.object (.none : PyObj core)) s).1
        = .throws ⟨.typeError, some "spent_outputs must be a sequence"⟩ := rfl
    rw [h] at hthrow
    cases hthrow
  · rw [Prog.bind_of_returns h]

/-- The arguments of `verify`. -/
structure VerifyArgs (core : BitcoinCore) where
  amount : PyObj core
  txTo : PyObj core
  spentOutputs : Option (SpentOutputs core)
  inputIndex : Option (PyObj core)
  flags : Option (PyObj core)

/-- The format unit `O!` with `Transaction_Type`, and `Transaction_GetImpl`. -/
def parseTransaction : PyObj core → Outcome PyErr (Option core.CTransaction)
  | .transaction impl => .returns impl
  | _ => .throws ⟨.typeError, none⟩

/-- The format unit `O!` with `VerificationFlags_Type`. -/
def parseFlags : PyObj core → Outcome PyErr UInt32
  | .verificationFlags impl => .returns impl
  | _ => .throws ⟨.typeError, none⟩

/-- An argument behind `|` in the format: without it, the variable keeps its value. -/
def optional {α β : Type} (arg : Option α) (value : β) (parse : α → Prog State PyErr β) :
    Prog State PyErr β :=
  match arg with
  | none => return value
  | some a => parse a

/-- The variables of `verify` that hold what the arguments were read as. -/
structure VerifyVars (core : BitcoinCore) where
  amount : Int64
  txTo : Option core.CTransaction
  spentOutputs : List TxOutputPtr
  inputIndex : UInt32
  flags : Option UInt32

/-- The call of `PyArg_ParseTupleAndKeywords` in `verify`. -/
def VerifyArgs.parse (args : VerifyArgs core) (env : Env) (items : Int → Env) :
    Prog State PyErr (VerifyVars core) := do
  let amount ← Prog.lift (parseLongLong args.amount)
  let txTo ← Prog.lift (parseTransaction args.txTo)
  let spentOutputs ← optional args.spentOutputs [] (convertTxOutputs env items)
  let inputIndex ← optional args.inputIndex 0 fun obj => Prog.lift (parseUnsignedInt obj)
  let flags ← optional args.flags none fun obj => some <$> Prog.lift (parseFlags obj)
  return { amount, txTo, spentOutputs, inputIndex, flags }

/-- What was read, when the arguments could be parsed. The state is that after `spent_outputs`. -/
structure VerifyArgs.Parses (args : VerifyArgs core) (env : Env) (items : Int → Env) (s : State)
    (vars : VerifyVars core) (s' : State) : Prop where
  amount : parseLongLong args.amount = .returns vars.amount
  txTo : parseTransaction args.txTo = .returns vars.txTo
  spentOutputs : optional args.spentOutputs [] (convertTxOutputs env items) s
    = (.returns vars.spentOutputs, s')
  inputIndex : optional args.inputIndex 0 (fun obj => Prog.lift (parseUnsignedInt obj)) s'
    = (.returns vars.inputIndex, s')
  flagsArg : optional args.flags none (fun obj => some <$> Prog.lift (parseFlags obj)) s'
    = (.returns vars.flags, s')

theorem optional_state {α β : Type} {arg : Option α} {value b : β} {parse : α → Prog State PyErr β}
    {s s' : State} (hparse : ∀ a b s s', parse a s = (.returns b, s') → s' = s)
    (h : optional arg value parse s = (.returns b, s')) : s' = s := by
  cases arg with
  | none => exact (congrArg Prod.snd h).symm
  | some a => exact hparse a b s s' h

theorem parse_eq_returns {args : VerifyArgs core} {env : Env} {items : Int → Env} {s s' : State}
    {vars : VerifyVars core} :
    args.parse env items s = (.returns vars, s') ↔ args.Parses env items s vars s' := by
  constructor
  · intro h
    obtain ⟨amount, s₁, hamount, h⟩ := Prog.bind_eq_returns.mp h
    obtain ⟨txTo, s₂, htxTo, h⟩ := Prog.bind_eq_returns.mp h
    obtain ⟨spentOutputs, s₃, hspent, h⟩ := Prog.bind_eq_returns.mp h
    obtain ⟨inputIndex, s₄, hindex, h⟩ := Prog.bind_eq_returns.mp h
    obtain ⟨flags, s₅, hflags, hvars⟩ := Prog.bind_eq_returns.mp h
    obtain ⟨hout, rfl⟩ := Prod.mk.inj hvars
    obtain rfl := Outcome.returns.inj hout
    obtain ⟨hread, rfl⟩ := Prod.mk.inj hamount
    obtain ⟨hread', rfl⟩ := Prod.mk.inj htxTo
    obtain rfl : s₄ = s₃ := optional_state (fun _ _ _ _ h => (congrArg Prod.snd h).symm) hindex
    obtain rfl : s₅ = s₄ := by
      refine optional_state (fun obj _ _ _ h => ?_) hflags
      obtain ⟨_, _, hread, hvalue⟩ := Prog.bind_eq_returns.mp h
      exact (congrArg Prod.snd hvalue).symm.trans (congrArg Prod.snd hread).symm
    exact ⟨hread, hread', hspent, hindex, hflags⟩
  · rintro ⟨hamount, htxTo, hspent, hindex, hflags⟩
    unfold VerifyArgs.parse
    rw [hamount, Prog.bind_of_returns (Prog.lift_run _ s), htxTo,
      Prog.bind_of_returns (Prog.lift_run _ s), Prog.bind_of_returns hspent,
      Prog.bind_of_returns hindex, Prog.bind_of_returns hflags]
    rfl

/-- Pass every handle of an array to the C library. -/
def passAll : List TxOutputPtr → Prog State PyErr Unit
  | [] => return ()
  | ptr :: ptrs => do
    pass ptr.impl
    passAll ptrs

end

namespace ScriptPubkey

variable {core : BitcoinCore}

/-- `new` -/
def new (env : Env) (raw : PyObj core) : Prog State PyErr (PyObj core) := do
  let buffer ← parseBuffer raw
  let (impl, error) ← create (Btck.ScriptPubkey.new env.native buffer true)
  match error with
  | some error => setErr error
  | none => scriptPubkeyNew env impl

/-- `richcmp` -/
def richcmp (impl : Option CScript) (other : PyObj core) (op : CompareOp) :
    Prog State PyErr (PyObj core) :=
  match other with
  | .scriptPubkey impl' =>
    if op = .eq ∨ op = .ne then do
      pass impl
      pass impl'
      let result ← Prog.lift (Btck.ScriptPubkey.equal impl impl')
      return .bool (decide (op = .eq) == decide (result ≠ 0))
    else Prog.lift (cmpNotImplemented (.scriptPubkey impl) other op)
  | _ => Prog.lift (cmpNotImplemented (.scriptPubkey impl) other op)

/-- `bytes` -/
def bytes (env : Env) (impl : Option CScript) : Prog State PyErr (PyObj core) := do
  pass impl
  Prog.lift (toBytes env (Btck.ScriptPubkey.toBytes impl))

/-- The rest of `verify`, from the call of `BtcK_ScriptPubkey_Verify` on. -/
def callVerify (env : Env) (impl : Option CScript) (vars : VerifyVars core) :
    Prog State PyErr (PyObj core) := do
  pass impl
  pass vars.txTo
  passAll vars.spentOutputs
  -- the C library reads through every pointer of the array
  if vars.spentOutputs.any fun ptr => !ptr.owned then Prog.fault .undefined
  else
    let (result, error) ← callNative
      (Btck.ScriptPubkey.verify core env.native impl vars.amount vars.txTo
        (vars.spentOutputs.map (·.impl)) vars.inputIndex
        (VerificationFlags.getImpl vars.flags) true)
    match error with
    | some error => setErr error
    | none => return .bool (result ≠ 0)

/-- `verify`. The array of pointers is not freed. -/
def verify (env : Env) (items : Int → Env) (impl : Option CScript) (args : VerifyArgs core) :
    Prog State PyErr (PyObj core) := do
  let vars ← args.parse env items
  callVerify env impl vars

end ScriptPubkey

end Btck.Python
