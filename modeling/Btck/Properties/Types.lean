import Btck.Properties.View
import Btck.Python.Module

/-!
# Whose field is read

Behind every method that is given another Python object there is a cast to the `struct Self` of a
type. It is good if the object is of that type. Who sees to that differs: the method itself, the
argument parser, or nobody — an operator is dispatched when one of the two operands is of the type.

* `Layout` — the types, and the field of their objects
* `EntryPoint` — the places where an object comes in
* `Sound` — what should be done with it
* `sound_iff` — all do it, but for the operators, and but for a comparison whose `TypeError` cannot
  be raised
-/

namespace Btck.Python

open Infra

variable {core : BitcoinCore}

/-! ## Layouts -/

/-- A type whose `struct Self` another object is cast to. -/
inductive Layout where
  | verificationFlags
  | scriptPubkey
  | transaction
  | transactionOutput
  deriving DecidableEq, Repr

namespace Layout

/-- The type of the field `impl`. -/
def Impl (core : BitcoinCore) : Layout → Type
  | verificationFlags => UInt32
  | scriptPubkey => Option CScript
  | transaction => Option core.CTransaction
  | transactionOutput => Option CTxOut

/-- The field `impl` of an object, if it is of the type. -/
def impl? : (layout : Layout) → PyObj core → Option (layout.Impl core)
  | verificationFlags, .verificationFlags impl => some impl
  | scriptPubkey, .scriptPubkey impl => some impl
  | transaction, .transaction impl => some impl
  | transactionOutput, .transactionOutput impl => some impl
  | _, _ => none

/-- `((struct Self*)object)->impl` -/
def read {ε : Type} (layout : Layout) (o : PyObj core) : Outcome ε (layout.Impl core) :=
  match layout.impl? o with
  | some impl => .returns impl
  | none => .faults .undefined

theorem read_of_impl {ε : Type} {layout : Layout} {o : PyObj core} {v : layout.Impl core}
    (h : layout.impl? o = some v) : (layout.read o : Outcome ε _) = .returns v := by
  rw [read, h]

theorem read_of_foreign {ε : Type} {layout : Layout} {o : PyObj core}
    (h : layout.impl? o = none) : (layout.read o : Outcome ε _) = .faults .undefined := by
  rw [read, h]

end Layout

/-- The operators cast what they get. -/
theorem cast_eq_read (o : PyObj core) :
    VerificationFlags.cast o = Layout.verificationFlags.read o := by
  cases o <;> rfl

/-! ## The checks -/

/-- The parser checks the type before the field is read. -/
theorem parseTransaction_eq (o : PyObj core) : parseTransaction o =
    if (Layout.transaction.impl? o).isSome then Layout.transaction.read o
    else .throws ⟨.typeError, none⟩ := by
  cases o <;> rfl

theorem parseFlags_eq (o : PyObj core) : parseFlags o =
    if (Layout.verificationFlags.impl? o).isSome then Layout.verificationFlags.read o
    else .throws ⟨.typeError, none⟩ := by
  cases o <;> rfl

/-- The end of the loop of `convert_tx_outputs`: every item is an output, and its handle is stored,
or the first one that is not is reported. -/
theorem storeAll_cases : ∀ (seq : List (PyObj core × Bool)) (idx : Nat),
    (∃ data, storeAll seq idx = .returns data ∧
      List.Forall₂ (fun item ptr => Layout.transactionOutput.impl? item.1 = some ptr.impl ∧
        ptr.owned = item.2) seq data) ∨
    ((∃ item ∈ seq, Layout.transactionOutput.impl? item.1 = none) ∧
      ∃ e, storeAll seq idx = .throws e ∧ e.type = .typeError) := by
  intro seq
  induction seq with
  | nil => intro _; exact .inl ⟨[], rfl, .nil⟩
  | cons item seq ih =>
    intro idx
    obtain ⟨o, owned⟩ := item
    cases o with
    | transactionOutput impl =>
      rcases ih (idx + 1) with ⟨data, hdata, hall⟩ | ⟨⟨item, hmem, hitem⟩, e, he, htype⟩
      · refine .inl ⟨{ impl := impl, owned := owned } :: data, ?_, .cons ⟨rfl, rfl⟩ hall⟩
        rw [storeAll, hdata]
        rfl
      · refine .inr ⟨⟨item, List.mem_cons_of_mem _ hmem, hitem⟩, e, ?_, htype⟩
        rw [storeAll, he]
        rfl
    | _ => exact .inr ⟨⟨_, List.mem_cons_self, rfl⟩, _, rfl, rfl⟩

/-! ## The text of a `TypeError` -/

/-- To ask the type of the object for its `repr` raises something that is no `TypeError`. -/
def ReprFails (o : PyObj core) : Prop := ∃ e, o.typeRepr = .throws e ∧ e.type ≠ .typeError

theorem typeRepr_cases (o : PyObj core) :
    (∃ text, o.typeRepr = .returns text) ∨ ∃ e, o.typeRepr = .throws e := by
  cases o with
  | other type =>
    rw [PyObj.typeRepr]
    cases type.repr with
    | ok text => exact .inl ⟨text, rfl⟩
    | error e => exact .inr ⟨e, rfl⟩
  | _ => exact .inl ⟨_, rfl⟩

theorem repr_flags (impl : UInt32) : (.verificationFlags impl : PyObj core).typeRepr
    = .returns "<class 'btck.VerificationFlags'>" := rfl

theorem repr_script (impl : Option CScript) : (.scriptPubkey impl : PyObj core).typeRepr
    = .returns "<class 'btck.ScriptPubkey'>" := rfl

/-- A comparison raises the `TypeError`, or what asking for its text raises. -/
theorem cmpNotImplemented_iff (α : Type) {left : PyObj core} {text : String}
    (hleft : left.typeRepr = .returns text) (right : PyObj core) (op : CompareOp) :
    (∃ e, (cmpNotImplemented left right op : Outcome PyErr α) = .throws e ∧ e.type = .typeError) ↔
      ¬ ReprFails right := by
  unfold cmpNotImplemented ReprFails
  rw [hleft]
  rcases typeRepr_cases right with ⟨text', hright⟩ | ⟨e, hright⟩ <;> simp [hright]

/-! ## Entry points -/

/-- The result of an operator on two words. -/
def BinaryOp.word : BinaryOp → UInt32 → UInt32 → UInt32
  | or, l, r => l ||| r
  | and, l, r => l &&& r
  | xor, l, r => l ^^^ r

/-- A place where an object comes in, with everything else that the call is given. -/
inductive EntryPoint (core : BitcoinCore) where
  /-- The right operand, with flags on the left. -/
  | right (op : BinaryOp) (impl : UInt32)
  /-- The left operand, with flags on the right. -/
  | left (op : BinaryOp) (impl : UInt32)
  | compareFlags (impl : UInt32) (op : CompareOp)
  | compareScript (impl : Option CScript) (op : CompareOp)
  | txTo (self : Option CScript) (args : VerifyArgs core) (items : Int → Env)
  /-- What an iteration over `spent_outputs` yields at an index. -/
  | spentOutput (self : Option CScript) (args : VerifyArgs core) (items : Int → Env)
      (spentOutputs : SpentOutputs core) (idx : Nat)
  | flags (self : Option CScript) (args : VerifyArgs core) (items : Int → Env)

namespace EntryPoint

/-- The type whose layout is used. -/
def layout : EntryPoint core → Layout
  | right _ _ | left _ _ | compareFlags _ _ | flags _ _ _ => .verificationFlags
  | compareScript _ _ => .scriptPubkey
  | txTo _ _ _ => .transaction
  | spentOutput _ _ _ _ _ => .transactionOutput

/-- It is an operator that gets the object. -/
def isOperator : EntryPoint core → Bool
  | right _ _ | left _ _ => true
  | _ => false

/-- It is a rich comparison with the object. -/
def isComparison : EntryPoint core → Bool
  | compareFlags _ _ | compareScript _ _ => true
  | _ => false

/-- The call that the object is given to. -/
def call : EntryPoint core → PyObj core → Call core
  | right op impl, o => .binary op (.verificationFlags impl) o
  | left op impl, o => .binary op o (.verificationFlags impl)
  | compareFlags impl op, o => .compare (.verificationFlags impl) o op
  | compareScript impl op, o => .compare (.scriptPubkey impl) o op
  | txTo self args items, o => .verify (.scriptPubkey self) { args with txTo := o } items
  | spentOutput self args items spentOutputs _, _ =>
    .verify (.scriptPubkey self) { args with spentOutputs := some spentOutputs } items
  | flags self args items, o => .verify (.scriptPubkey self) { args with flags := some o } items

variable (env : Env) (s : State)

/-- The call has come as far as the object: what stands before it is in order. -/
def Reached : EntryPoint core → PyObj core → Prop
  | txTo _ args _, _ => ∃ amount, parseLongLong args.amount = .returns amount
  | spentOutput _ args items spentOutputs idx, o =>
    (∃ amount, parseLongLong args.amount = .returns amount) ∧
    (∃ tx, parseTransaction args.txTo = .returns tx) ∧ env.object 1 = true ∧
    ∃ seq held s', sequenceFast env items spentOutputs s = (.returns seq, s') ∧
      seq[idx]? = some (o, held)
  | flags _ args items, _ =>
    ∃ vars s', { args with flags := none }.parse env items s = (.returns vars, s')
  | _, _ => True

/-- What the call does with the field of the object. `verify` goes on with `callVerify`. -/
def Reads : (entry : EntryPoint core) → PyObj core → entry.layout.Impl core → Prop
  | right op impl, o, v =>
    ((right op impl).call o).run env s = verificationFlagsNew env (op.word impl v) s
  | left op impl, o, v =>
    ((left op impl).call o).run env s = verificationFlagsNew env (op.word v impl) s
  | compareFlags impl op, o, (v : UInt32) => ((compareFlags impl op).call o).run env s =
    if op = .eq ∨ op = .ne then
      (.returns (.bool (decide (op = .eq) == decide (impl = v))), s)
    else (cmpNotImplemented (.verificationFlags impl) o op, s)
  | compareScript impl op, o, v => ((compareScript impl op).call o).run env s =
    if op = .eq ∨ op = .ne then (do
      pass impl
      pass v
      let result ← Prog.lift (Btck.ScriptPubkey.equal impl v)
      return .bool (decide (op = .eq) == decide (result ≠ 0)) : Prog State PyErr (PyObj core)) s
    else (cmpNotImplemented (.scriptPubkey impl) o op, s)
  | txTo _ args items, o, v => ∀ vars s',
    { args with txTo := o }.parse env items s = (.returns vars, s') → vars.txTo = v
  | spentOutput self args items spentOutputs idx, o, v =>
    (spentOutput self args items spentOutputs idx).Reached env s o → ∀ vars s',
      { args with spentOutputs := some spentOutputs }.parse env items s = (.returns vars, s') →
        (vars.spentOutputs[idx]?).map (·.impl) = some v
  | flags _ args items, o, v => ∀ vars s',
    { args with flags := some o }.parse env items s = (.returns vars, s') → vars.flags = some v

/-- The field of an object of the right type is read, and every other object is a `TypeError`. -/
structure Sound (entry : EntryPoint core) (o : PyObj core) : Prop where
  right : ∀ v, entry.layout.impl? o = some v → entry.Reads env s o v
  wrong : entry.layout.impl? o = none → entry.Reached env s o →
    ∃ e, (((entry.call o).run env s).1 = .throws e) ∧ e.type = .typeError

end EntryPoint

/-! ## The operators -/

/-- Both operands are cast, whichever of them is the one for which the slot is called. -/
theorem runBinary_eq (env : Env) (op : BinaryOp) {left right : PyObj core}
    (hflags : (Call.isFlags left || Call.isFlags right) = true) :
    Call.runBinary env op left right = (do
      let l : UInt32 ← Prog.lift (Layout.verificationFlags.read left)
      let r : UInt32 ← Prog.lift (Layout.verificationFlags.read right)
      verificationFlagsNew env (op.word l r) : Prog State PyErr (PyObj core)) := by
  unfold Call.runBinary
  rw [if_pos hflags, ← cast_eq_read, ← cast_eq_read]
  cases op <;> rfl

theorem runBinary_flags (env : Env) (op : BinaryOp) (l r : UInt32) :
    (Call.runBinary env op (.verificationFlags l) (.verificationFlags r) :
      Prog State PyErr (PyObj core)) = verificationFlagsNew env (op.word l r) :=
  runBinary_eq env op rfl

/-- Nobody checks the right operand, when the left one has flags. -/
theorem runBinary_right (env : Env) (s : State) (op : BinaryOp) (l : UInt32) {o : PyObj core}
    (ho : Layout.verificationFlags.impl? o = none) :
    Call.runBinary env op (.verificationFlags l) o s = (.faults .undefined, s) := by
  rw [runBinary_eq env op rfl, Layout.read_of_foreign ho]
  rfl

theorem runBinary_left (env : Env) (s : State) (op : BinaryOp) (r : UInt32) {o : PyObj core}
    (ho : Layout.verificationFlags.impl? o = none) :
    Call.runBinary env op o (.verificationFlags r) s = (.faults .undefined, s) := by
  rw [runBinary_eq env op (by rw [Bool.or_comm]; rfl), Layout.read_of_foreign ho]
  rfl

/-! ## The arguments of `verify` -/

section

variable {env : Env} {items : Int → Env} {args : VerifyArgs core} {s s' : State}
  {spentOutputs : SpentOutputs core} {seq : List (PyObj core × Bool)}

theorem parseTransaction_of_impl {o : PyObj core} {v : Option core.CTransaction}
    (h : Layout.transaction.impl? o = some v) : parseTransaction o = .returns v := by
  rw [parseTransaction_eq, Layout.read_of_impl h, h]
  rfl

theorem parseTransaction_of_foreign {o : PyObj core} (h : Layout.transaction.impl? o = none) :
    parseTransaction o = .throws ⟨.typeError, none⟩ := by
  rw [parseTransaction_eq, h]
  rfl

theorem parseFlags_of_impl {o : PyObj core} {v : UInt32}
    (h : Layout.verificationFlags.impl? o = some v) : parseFlags o = .returns v := by
  rw [parseFlags_eq, Layout.read_of_impl h, h]
  rfl

theorem parseFlags_of_foreign {o : PyObj core} (h : Layout.verificationFlags.impl? o = none) :
    parseFlags o = .throws ⟨.typeError, none⟩ := by
  rw [parseFlags_eq, h]
  rfl

theorem dropAll_run (seq : List (PyObj core × Bool)) (s : State) :
    ∃ s', dropAll seq s = (.returns (), s') := by
  induction seq with
  | nil => exact ⟨s, rfl⟩
  | cons item seq ih =>
    obtain ⟨s', hs'⟩ := ih
    rw [dropAll, Prog.bind_of_returns hs']
    unfold dropItem dealloc
    split
    · exact ⟨s', rfl⟩
    · split
      · exact ⟨_, rfl⟩
      · exact ⟨s', rfl⟩

theorem takeAll_run (seq : List (PyObj core × Bool)) :
    ∀ s : State, ∃ s', takeAll seq s = (.returns (), s') := by
  induction seq with
  | nil => intro s; exact ⟨s, rfl⟩
  | cons item seq ih =>
    intro s
    obtain ⟨s₁, hitem⟩ : ∃ s₁, takeItem item s = (.returns (), s₁) := by
      unfold takeItem
      split
      · exact ⟨_, rfl⟩
      · exact ⟨s, rfl⟩
    obtain ⟨s₂, htake⟩ := ih s₁
    exact ⟨s₂, (Prog.bind_of_returns hitem _).trans htake⟩

/-- A list of the items of an iterator, if the iterator comes to its end and there is memory. -/
theorem sequenceFast_iterable (env : Env) (items : Int → Env) (objs : List (PyObj core × Bool))
    (exc : Option PyErr) (s : State) :
    ∃ s', sequenceFast env items (.iterable objs exc) s = (match exc with
      | some exc => .throws exc
      | none => if env.object 0 then .returns objs else .throws noMemory, s') := by
  obtain ⟨s₁, htake⟩ := takeAll_run objs s
  obtain ⟨s₂, hdrop⟩ := dropAll_run objs s₁
  cases exc with
  | some exc =>
    have hiter : iterItems items (.iterable objs (some exc)) s = (.throws exc, s₂) :=
      (Prog.bind_of_returns htake _).trans (Prog.bind_of_returns hdrop _)
    exact ⟨s₂, Prog.bind_of_throws hiter _⟩
  | none =>
    have hiter : iterItems items (.iterable objs none) s = (.returns objs, s₁) :=
      Prog.bind_of_returns htake _
    unfold sequenceFast
    rw [Prog.bind_of_returns hiter]
    cases hmemory : env.object 0 with
    | true => exact ⟨s₁, by simp⟩
    | false =>
      simp only [Bool.false_eq_true, if_false]
      exact ⟨s₂, Prog.bind_of_returns hdrop _⟩

/-- The loop decides how the conversion ends, once there is an array. -/
theorem convertSequence_run (env : Env) (seq : List (PyObj core × Bool)) (s : State)
    (hmemory : env.object 1 = true) : ∃ s', convertSequence env seq s = (storeAll seq 0, s') := by
  unfold convertSequence
  rw [hmemory]
  show ∃ s', ((record (.acquired .array) >>= _ : Prog State PyErr _) s) = _
  rw [Prog.bind_of_returns (record_run _ s)]
  rcases hstore : storeAll seq 0 with data | e | u
  · obtain ⟨s₁, hdrop⟩ := dropAll_run seq { s with events := s.events ++ [.acquired .array] }
    exact ⟨s₁, Prog.bind_of_returns hdrop _⟩
  · obtain ⟨s₁, hdrop⟩ := dropAll_run seq
      { s with events := s.events ++ [.acquired .array] ++ [.released .array] }
    refine ⟨s₁, ?_⟩
    show (record (.released .array) >>= _ : Prog State PyErr _) _ = _
    rw [Prog.bind_of_returns (record_run _ _), Prog.bind_of_returns hdrop]
    rfl
  · exact ⟨_, rfl⟩

theorem convertSequence_fst (env : Env) (seq : List (PyObj core × Bool)) (s : State) :
    (convertSequence env seq s).1
      = if env.object 1 then storeAll seq 0 else .throws noMemory := by
  cases hmemory : env.object 1 with
  | true =>
    obtain ⟨s', hrun⟩ := convertSequence_run env seq s hmemory
    rw [hrun]
    rfl
  | false =>
    obtain ⟨s', hdrop⟩ := dropAll_run seq s
    unfold convertSequence
    rw [hmemory]
    exact congrArg Prod.fst (Prog.bind_of_returns hdrop _)

/-- `verify` raises what the parser raises. -/
theorem verify_of_parse_throws {self : Option CScript} {e : PyErr}
    (h : args.parse env items s = (.throws e, s')) :
    (ScriptPubkey.verify env items self args s).1 = .throws e := by
  rw [ScriptPubkey.verify, Prog.bind_of_throws h]

theorem parse_txTo_throws {amount : Int64} (hamount : parseLongLong args.amount = .returns amount)
    {o : PyObj core} (ho : Layout.transaction.impl? o = none) :
    ({ args with txTo := o } : VerifyArgs core).parse env items s
      = (.throws ⟨.typeError, none⟩, s) := by
  unfold VerifyArgs.parse
  rw [hamount, Prog.bind_of_returns (Prog.lift_run _ s), parseTransaction_of_foreign ho]
  rfl

theorem parse_spentOutputs_throws {amount : Int64} {tx : Option core.CTransaction}
    (hamount : parseLongLong args.amount = .returns amount)
    (htx : parseTransaction args.txTo = .returns tx) {e : PyErr}
    (hconvert : convertTxOutputs env items spentOutputs s = (.throws e, s')) :
    ({ args with spentOutputs := some spentOutputs } : VerifyArgs core).parse env items s
      = (.throws e, s') := by
  have hoptional : optional (some spentOutputs) [] (convertTxOutputs env items) s
      = (.throws e, s') := hconvert
  unfold VerifyArgs.parse
  rw [hamount, Prog.bind_of_returns (Prog.lift_run _ s), htx,
    Prog.bind_of_returns (Prog.lift_run _ s), Prog.bind_of_throws hoptional]

theorem parse_flags_throws {vars : VerifyVars core}
    (hparse : ({ args with flags := none } : VerifyArgs core).parse env items s
      = (.returns vars, s')) {o : PyObj core} (ho : Layout.verificationFlags.impl? o = none) :
    ({ args with flags := some o } : VerifyArgs core).parse env items s
      = (.throws ⟨.typeError, none⟩, s') := by
  obtain ⟨hamount, htx, hspent, hindex, -⟩ := parse_eq_returns.mp hparse
  have hflags : optional (some o) none (fun obj => some <$> Prog.lift (parseFlags obj)) s'
      = (.throws ⟨.typeError, none⟩, s') := by
    show (some <$> Prog.lift (parseFlags o) : Prog State PyErr _) s' = _
    rw [parseFlags_of_foreign ho]
    rfl
  unfold VerifyArgs.parse
  rw [hamount, Prog.bind_of_returns (Prog.lift_run _ s), htx,
    Prog.bind_of_returns (Prog.lift_run _ s), Prog.bind_of_returns hspent,
    Prog.bind_of_returns hindex, Prog.bind_of_throws hflags]

/-- What the loop has stored for an item. -/
theorem storeAll_of_get {data : List TxOutputPtr} (hstore : storeAll seq 0 = .returns data)
    {idx : Nat} {o : PyObj core} {held : Bool} (hget : seq[idx]? = some (o, held)) :
    ∃ ptr, data[idx]? = some ptr ∧ Layout.transactionOutput.impl? o = some ptr.impl := by
  rcases storeAll_cases seq 0 with ⟨data', hdata', hall⟩ | ⟨-, e, he, -⟩
  · obtain rfl := Outcome.returns.inj (hstore.symm.trans hdata')
    obtain ⟨hlt, hitem⟩ := List.getElem?_eq_some_iff.mp hget
    have hlt' : idx < data.length := hall.length_eq ▸ hlt
    have hptr := (List.forall₂_iff_get.mp hall).2 idx hlt hlt'
    refine ⟨_, List.getElem?_eq_getElem hlt', ?_⟩
    rw [List.get_eq_getElem, hitem] at hptr
    exact hptr.1
  · rw [he] at hstore
    simp at hstore

end

/-! ## Every entry point -/

section

variable (env : Env) (s : State)

theorem flags_of_impl {o : PyObj core} {v : UInt32}
    (h : Layout.verificationFlags.impl? o = some v) : o = .verificationFlags v := by
  cases o with
  | verificationFlags impl => exact congrArg PyObj.verificationFlags (Option.some.inj h)
  | _ => cases h

theorem script_of_impl {o : PyObj core} {v : Option CScript}
    (h : Layout.scriptPubkey.impl? o = some v) : o = .scriptPubkey v := by
  cases o with
  | scriptPubkey impl => exact congrArg PyObj.scriptPubkey (Option.some.inj h)
  | _ => cases h

theorem compareFlags_sound_iff (impl : UInt32) (op : CompareOp) (o : PyObj core) :
    (EntryPoint.compareFlags impl op).Sound env s o ↔
      ¬ (Layout.verificationFlags.impl? o = none ∧ ReprFails o) := by
  rw [not_and, ← cmpNotImplemented_iff (PyObj core) (repr_flags impl) o op]
  have hwrong : Layout.verificationFlags.impl? o = none →
      ((EntryPoint.compareFlags impl op).call o).run env s
        = (cmpNotImplemented (.verificationFlags impl) o op, s) := by
    intro ho
    cases o with
    | verificationFlags v => cases ho
    | _ => rfl
  constructor
  · intro h ho
    obtain ⟨e, he, htype⟩ := h.wrong ho trivial
    rw [hwrong ho] at he
    exact ⟨e, he, htype⟩
  · intro h
    constructor
    case right =>
      intro (v : UInt32) hv
      obtain rfl := flags_of_impl hv
      show Prog.lift (VerificationFlags.richcmp impl (.verificationFlags v) op) s = _
      by_cases hop : op = .eq ∨ op = .ne
      · rw [VerificationFlags.richcmp, if_pos hop, if_pos hop]
        rfl
      · rw [VerificationFlags.richcmp, if_neg hop, if_neg hop]
        rfl
    case wrong =>
      intro ho _
      rw [hwrong ho]
      exact h ho

theorem compareScript_sound_iff (impl : Option CScript) (op : CompareOp) (o : PyObj core) :
    (EntryPoint.compareScript impl op).Sound env s o ↔
      ¬ (Layout.scriptPubkey.impl? o = none ∧ ReprFails o) := by
  rw [not_and, ← cmpNotImplemented_iff (PyObj core) (repr_script impl) o op]
  have hwrong : Layout.scriptPubkey.impl? o = none →
      ((EntryPoint.compareScript impl op).call o).run env s
        = (cmpNotImplemented (.scriptPubkey impl) o op, s) := by
    intro ho
    cases o with
    | scriptPubkey v => cases ho
    | _ => rfl
  constructor
  · intro h ho
    obtain ⟨e, he, htype⟩ := h.wrong ho trivial
    rw [hwrong ho] at he
    exact ⟨e, he, htype⟩
  · intro h
    constructor
    case right =>
      intro (v : Option CScript) hv
      obtain rfl := script_of_impl hv
      show ScriptPubkey.richcmp impl (.scriptPubkey v) op s = _
      by_cases hop : op = .eq ∨ op = .ne
      · rw [ScriptPubkey.richcmp, if_pos hop, if_pos hop]
      · rw [ScriptPubkey.richcmp, if_neg hop, if_neg hop]
        rfl
    case wrong =>
      intro ho _
      rw [hwrong ho]
      exact h ho

theorem txTo_sound (self : Option CScript) (args : VerifyArgs core) (items : Int → Env)
    (o : PyObj core) : (EntryPoint.txTo self args items).Sound env s o where
  right := by
    intro v hv vars s' hparse
    have hread := (parse_eq_returns.mp hparse).txTo
    exact (Outcome.returns.inj ((parseTransaction_of_impl hv).symm.trans hread)).symm
  wrong := by
    rintro ho ⟨amount, hamount⟩
    exact ⟨_, verify_of_parse_throws (parse_txTo_throws hamount ho), rfl⟩

theorem spentOutput_sound (self : Option CScript) (args : VerifyArgs core) (items : Int → Env)
    (spentOutputs : SpentOutputs core) (idx : Nat) (o : PyObj core) :
    (EntryPoint.spentOutput self args items spentOutputs idx).Sound env s o where
  right := by
    rintro v hv ⟨-, -, hmemory, seq, held, s₁, hseq, hget⟩ vars s' hparse
    have hconvert : convertTxOutputs env items spentOutputs s = (.returns vars.spentOutputs, s') :=
      (parse_eq_returns.mp hparse).spentOutputs
    obtain ⟨s₂, hrun⟩ := convertSequence_run env seq s₁ hmemory
    rw [convertTxOutputs_of_seq hseq, hrun] at hconvert
    obtain ⟨ptr, hptr, himpl⟩ := storeAll_of_get (congrArg Prod.fst hconvert) hget
    rw [hptr]
    exact himpl.symm.trans hv
  wrong := by
    rintro ho ⟨⟨amount, hamount⟩, ⟨tx, htx⟩, hmemory, seq, held, s₁, hseq, hget⟩
    obtain ⟨s₂, hrun⟩ := convertSequence_run env seq s₁ hmemory
    rw [← convertTxOutputs_of_seq hseq] at hrun
    rcases storeAll_cases seq 0 with ⟨data, hstore, -⟩ | ⟨-, e, hstore, htype⟩
    · -- all items would be outputs, and so would this one
      obtain ⟨ptr, -, himpl⟩ := storeAll_of_get hstore hget
      exact absurd (ho.symm.trans himpl) (by simp)
    · rw [hstore] at hrun
      exact ⟨e, verify_of_parse_throws (parse_spentOutputs_throws hamount htx hrun), htype⟩

theorem flags_sound (self : Option CScript) (args : VerifyArgs core) (items : Int → Env)
    (o : PyObj core) : (EntryPoint.flags self args items).Sound env s o where
  right := by
    intro v hv vars s' hparse
    have hread : (some <$> Prog.lift (parseFlags o) : Prog State PyErr _) s'
        = (.returns vars.flags, s') := (parse_eq_returns.mp hparse).flagsArg
    rw [parseFlags_of_impl hv] at hread
    exact (Outcome.returns.inj (congrArg Prod.fst hread)).symm
  wrong := by
    rintro ho ⟨vars, s', hparse⟩
    exact ⟨_, verify_of_parse_throws (parse_flags_throws hparse ho), rfl⟩

/-- An operator is sound exactly when the other operand has the field. -/
theorem operator_sound_iff {entry : EntryPoint core} (hentry : entry.isOperator = true)
    (o : PyObj core) : entry.Sound env s o ↔ entry.layout.impl? o ≠ none := by
  cases entry with
  | right op impl =>
    constructor
    · intro h ho
      obtain ⟨e, he, -⟩ := h.wrong ho trivial
      have hrun := runBinary_right env s op impl ho
      exact absurd ((congrArg Prod.fst hrun).symm.trans he) (by simp)
    · intro ho
      refine ⟨fun v hv => ?_, fun hc => absurd hc ho⟩
      obtain rfl := flags_of_impl hv
      exact congrFun (runBinary_flags env op impl v) s
  | left op impl =>
    constructor
    · intro h ho
      obtain ⟨e, he, -⟩ := h.wrong ho trivial
      have hrun := runBinary_left env s op impl ho
      exact absurd ((congrArg Prod.fst hrun).symm.trans he) (by simp)
    · intro ho
      refine ⟨fun v hv => ?_, fun hc => absurd hc ho⟩
      obtain rfl := flags_of_impl hv
      exact congrFun (runBinary_flags env op v impl) s
  | _ => cases hentry

/-- A comparison checks the type, and is sound if the `TypeError` can be raised. -/
theorem comparison_sound_iff {entry : EntryPoint core} (hentry : entry.isComparison = true)
    (o : PyObj core) :
    entry.Sound env s o ↔ ¬ (entry.layout.impl? o = none ∧ ReprFails o) := by
  cases entry with
  | compareFlags impl op => exact compareFlags_sound_iff env s impl op o
  | compareScript impl op => exact compareScript_sound_iff env s impl op o
  | _ => cases hentry

/-- Everywhere else the type is checked first. -/
theorem checked_sound {entry : EntryPoint core} (hoperator : entry.isOperator = false)
    (hcomparison : entry.isComparison = false) (o : PyObj core) : entry.Sound env s o := by
  cases entry with
  | txTo self args items => exact txTo_sound env s self args items o
  | spentOutput self args items spentOutputs idx =>
    exact spentOutput_sound env s self args items spentOutputs idx o
  | flags self args items => exact flags_sound env s self args items o
  | compareFlags | compareScript => cases hcomparison
  | _ => cases hoperator

/--
**An object is treated soundly if and only if** it is no foreign operand of `|`, `&` or `^`, and no
foreign operand of a comparison whose type raises another exception when it is asked for its `repr`.
-/
theorem sound_iff (entry : EntryPoint core) (o : PyObj core) :
    entry.Sound env s o ↔ ¬ (entry.layout.impl? o = none ∧
      (entry.isOperator = true ∨ entry.isComparison = true ∧ ReprFails o)) := by
  cases hoperator : entry.isOperator with
  | true =>
    rw [operator_sound_iff env s hoperator]
    simp
  | false =>
    cases hcomparison : entry.isComparison with
    | true =>
      rw [comparison_sound_iff env s hcomparison]
      simp
    | false => simpa using checked_sound env s hoperator hcomparison o

end

/-- `VerificationFlags.ALL | 1` reads a field that an integer does not have. -/
theorem or_reads_integer :
    (Call.binary .or (.verificationFlags Btck.VerificationFlags.ALL) (.int 1) :
      Call minimalCore).run (.leaving .null) ⟨Heap.empty [], []⟩
        = (.faults .undefined, ⟨Heap.empty [], []⟩) ∧
    ¬ (EntryPoint.right .or Btck.VerificationFlags.ALL : EntryPoint minimalCore).Sound
      (.leaving .null) ⟨Heap.empty [], []⟩ (.int 1) := by
  have hrun : (Call.binary .or (.verificationFlags Btck.VerificationFlags.ALL) (.int 1) :
      Call minimalCore).run (.leaving .null) ⟨Heap.empty [], []⟩
        = (.faults .undefined, ⟨Heap.empty [], []⟩) := rfl
  refine ⟨hrun, fun h => ?_⟩
  obtain ⟨e, he, -⟩ := h.wrong rfl trivial
  rw [EntryPoint.call, hrun] at he
  cases he

end Btck.Python
