import Btck.Infra.Advance
import Btck.Properties.Ledger

/-!
# Error records do not outlive a call

The C library allocates a record for an error, with two strings. The functions of the module turn it
into an exception. Whatever a call does and however it ends, the records that it caused are gone.

* `Frees` — the records before and after, with one lemma for each function
* `records_freed` — every record of a session has been freed once
-/

namespace Btck.Python

open Infra

variable {core : BitcoinCore}

/-- No block is left of the records that were allocated meanwhile. -/
def Frees (s s' : State) : Prop := Heap.Restored s.memory s'.memory

instance : IsPreorder State Frees where
  refl s := refl_of Heap.Restored s.memory
  trans _ _ _ h₁ h₂ := trans_of Heap.Restored h₁ h₂

namespace Frees

/-! ## Steps -/

section

variable {α β : Type}

/-- The memory of the library is not touched. -/
theorem of_same {s s' : State} (h : s'.memory = s.memory) : Frees s s' := by
  show Heap.Restored s.memory s'.memory
  rw [h]
  exact refl_of _ _

theorem record (e : Event) : Advances Frees (Python.record e : Prog State PyErr Unit) :=
  fun _ => of_same rfl

theorem newObject (env : Env) (wrap : Option α → PyObj core) (impl : Option α) :
    Advances Frees (Python.newObject env wrap impl) := by
  unfold Python.newObject
  split
  · exact Advances.pure _
  · split
    · exact (record _).bind fun _ => Advances.throw _
    · exact Advances.throw _

theorem newValue (env : Env) (o : PyObj core) : Advances Frees (Python.newValue env o) := by
  unfold Python.newValue
  split
  · exact Advances.pure _
  · exact Advances.throw _

theorem parseBuffer (raw : PyObj core) : Advances Frees (Python.parseBuffer raw) := by
  unfold Python.parseBuffer
  split
  · exact (record _).bind fun _ => Advances.pure _
  · exact Advances.throw _

/-- A record is made for the error, and `SetError` frees it. -/
theorem callNative {Ret : Type} [Inhabited Ret] {body : Outcome Exception Ret}
    {f : Ret × Option ErrorPtr → Prog State PyErr β} (hok : ∀ r, Advances Frees (f (r, none)))
    (herr : ∀ p s, ∃ events, f (default, some p) s = setErr p ⟨s.memory, events⟩) :
    Advances Frees (Python.callNative (wrapFn true body) >>= f) := by
  intro s
  cases body with
  | returns r => exact hok r s
  | faults u => exact refl_of _ s
  | throws e =>
    obtain ⟨p, h, h', hrun, hset, hrestored⟩ := @setError_wrapFn_throws Ret _ PyErr s.memory e
    have hcall : (Python.callNative (wrapFn true (.throws e : Outcome Exception Ret)) :
        Prog State PyErr _) s
          = (.returns (default, some p), ⟨h, s.events ++ [.acquired .error]⟩) := by
      have hmem : (onMemory (wrapFn true (.throws e : Outcome Exception Ret)) :
          Prog State PyErr _) s = (.returns (default, some p), { s with memory := h }) := by
        rw [onMemory, hrun]
      unfold Python.callNative
      rw [Prog.bind_of_returns hmem]
      rfl
    obtain ⟨events, hraise⟩ := herr p ⟨h, s.events ++ [.acquired .error]⟩
    have hexc : ∃ exc, (onMemory (setError p) : Prog State PyErr PyErr) ⟨h, events⟩
        = (.returns exc, ⟨h', events⟩) := ⟨_, by rw [onMemory, hset]⟩
    obtain ⟨exc, hexc⟩ := hexc
    rw [Prog.bind_of_returns hcall, hraise, setErr, Prog.bind_of_returns hexc]
    exact hrestored

/-- The same of a `New` or `Copy` function. -/
theorem create {body : Outcome Exception (Option α)}
    {f : Option α × Option ErrorPtr → Prog State PyErr β}
    (hok : ∀ ptr, Advances Frees (f (ptr, none))) (herr : ∀ p, f (none, some p) = setErr p) :
    Advances Frees (Python.create (wrapFn true body) >>= f) := by
  unfold Python.create
  rw [Prog.bind_assoc]
  refine callNative (fun ptr => ?_) fun p s => ?_
  · cases ptr with
    | none => exact (record _).bind fun _ => hok none
    | some x => exact (record _).bind fun _ => (record _).bind fun _ => hok (some x)
  · exact ⟨s.events ++ [.created true], by rw [← herr]; rfl⟩

/-- Without a place for the error, there is no record. -/
theorem create_null {body : Outcome Exception (Option α)}
    {f : Option α × Option ErrorPtr → Prog State PyErr β} (hf : ∀ r, Advances Frees (f r)) :
    Advances Frees (Python.create (wrapFn false body) >>= f) := by
  refine Advances.bind (fun s => ?_) hf
  cases body with
  | returns ptr => cases ptr <;> exact of_same rfl
  | throws e => exact of_same rfl
  | faults u => exact of_same rfl

theorem pass (impl : Option α) : Advances Frees (Python.pass impl : Prog State PyErr Unit) :=
  record _

/-- A method that reads something first. -/
theorem reading (impl : Option α) {γ : Type} (x : Outcome PyErr γ) {f : γ → Prog State PyErr β}
    (hf : ∀ c, Advances Frees (f c)) :
    Advances Frees (do Python.pass impl; let c ← Prog.lift x; f c) :=
  (pass impl).bind fun _ => (Advances.lift x).bind hf

/-- A copy of a handle, in an object of its own. -/
theorem copy {env : Env} {ok : Bool} {impl : Option α} {wrap : Option α → PyObj core}
    {f : Option α × Option ErrorPtr → Prog State PyErr (PyObj core)}
    (hok : ∀ ptr, f (ptr, none) = Python.newObject env wrap ptr)
    (herr : ∀ p, f (none, some p) = setErr p) :
    Advances Frees (do Python.pass impl; Python.create (Api.copy ok impl true) >>= f) :=
  (pass impl).bind fun _ => create (fun ptr => by rw [hok]; exact newObject env wrap ptr) herr

end

/-! ## The methods -/

section

variable (env : Env)

theorem getScriptPubkey (impl : Option CTxOut) :
    Advances Frees (TransactionOutput.getScriptPubkey core env impl) :=
  reading impl _ fun _ => copy (fun _ => rfl) fun _ => rfl

theorem outputsItem (impl : Option core.CTransaction) (idx : Int) :
    Advances Frees (Transaction.outputsItem core env impl idx) :=
  reading impl _ fun _ => copy (fun _ => rfl) fun _ => rfl

theorem transactionsItem (impl : Option core.CBlock) (idx : Int) :
    Advances Frees (Block.transactionsItem core env impl idx) :=
  reading impl _ fun _ => copy (fun _ => rfl) fun _ => rfl

theorem bytes (self : PyObj core) : Advances Frees (Call.runBytes env self) := by
  cases self with
  | block impl => exact (pass impl).bind fun _ => Advances.lift _
  | transaction impl => exact (pass impl).bind fun _ => Advances.lift _
  | scriptPubkey impl => exact (pass impl).bind fun _ => Advances.lift _
  | blockHash impl => exact newValue env _
  | _ => exact Advances.throw _

theorem str (self : PyObj core) : Advances Frees (Call.runStr env self) := by
  cases self with
  | block impl => exact reading impl _ fun _ => Advances.pure _
  | transaction impl => exact reading impl _ fun _ => Advances.pure _
  | transactionOutput impl => exact reading impl _ fun _ => Advances.pure _
  | verificationFlags impl => exact (Advances.lift _).bind fun _ => Advances.pure _
  | _ => exact Advances.throw _

theorem getAttr (self : PyObj core) (name : Attribute) :
    Advances Frees (Call.runGetAttr env self name) := by
  unfold Call.runGetAttr
  split
  · exact reading _ _ fun _ => newValue env _
  · exact reading _ _ fun _ => newValue env _
  · exact reading _ _ fun _ => newValue env _
  · exact reading _ _ fun _ => newValue env _
  · exact getScriptPubkey env _
  · exact Advances.throw _

theorem richcmp (impl : Option CScript) (other : PyObj core) (op : CompareOp) :
    Advances Frees (ScriptPubkey.richcmp impl other op) := by
  unfold ScriptPubkey.richcmp
  split
  · split
    · exact (pass _).bind fun _ => reading _ _ fun _ => Advances.pure _
    · exact Advances.lift _
  · exact Advances.lift _

theorem binary (op : BinaryOp) (left right : PyObj core) :
    Advances Frees (Call.runBinary env op left right) := by
  unfold Call.runBinary
  split
  · cases op <;>
      exact (Advances.lift _).bind fun _ => (Advances.lift _).bind fun _ => newValue env _
  · exact Advances.throw _

/-! ## Views -/

theorem item (self : PyObj core) (idx : Int) : Advances Frees (Slice.item env self idx) := by
  induction self generalizing idx with
  | slice obj words ih =>
    unfold Slice.item
    split
    · exact Advances.throw _
    · split
      · unfold Slice.callItem
        split
        · exact outputsItem env _ idx
        · exact transactionsItem env _ idx
        · exact Advances.fault _
      · exact (Advances.lift _).bind fun offset => (Advances.lift _).bind fun i => ih i
  | _ => exact Advances.fault _

theorem subscript (self arg : PyObj core) : Advances Frees (Slice.subscript env self arg) := by
  unfold Slice.subscript
  split
  · refine (Advances.lift _).bind fun idx => ?_
    split
    · exact (Advances.lift _).bind fun i => item env self i
    · exact item env self idx
  · exact (Advances.lift _).bind fun u => newValue env _
  · exact Advances.throw _

end

/-! ## Temporary lists -/

theorem dealloc (o : PyObj core) : Advances Frees (Python.dealloc o : Prog State PyErr Unit) := by
  unfold Python.dealloc
  split
  · exact record _
  · exact Advances.pure _

theorem dropAll (seq : List (PyObj core × Bool)) : Advances Frees (Python.dropAll seq) := by
  induction seq with
  | nil => exact Advances.pure _
  | cons item seq ih =>
    refine ih.bind fun _ => ?_
    unfold dropItem
    split
    · exact Advances.pure _
    · exact dealloc item.1

theorem takeAll (seq : List (PyObj core × Bool)) : Advances Frees (Python.takeAll seq) := by
  induction seq with
  | nil => exact Advances.pure _
  | cons item seq ih =>
    refine Advances.bind ?_ fun _ => ih
    unfold takeItem
    split
    · exact record _
    · exact Advances.pure _

/-- The items come one after the other. The last step raises the exception that ends the loop. -/
theorem toList (items : Int → Env) (self : PyObj core) (idx : Int) :
    Advances Frees (Slice.toList items self idx) := by
  intro s
  have hitem : Frees s _ := item (items idx) self idx s
  rw [Slice.toList]
  split
  · rename_i o s' hrun
    rw [hrun] at hitem
    have hlt := Slice.lt_length_of_item hrun
    have hrest := trans_of Frees hitem (toList items self (idx + 1) s')
    rcases hos : Slice.toList items self (idx + 1) s' with ⟨out, s''⟩
    rw [hos] at hrest
    cases out with
    | returns os => exact hrest
    | throws e =>
      exact trans_of Frees hrest (((dealloc o).bind fun _ => Advances.throw e :
        Advances Frees (do Python.dealloc o; Prog.throw e : Prog State PyErr (List (PyObj core)))) s'')
    | faults u => exact hrest
  · rename_i e s' hrun
    rw [hrun] at hitem
    split <;> exact hitem
  · rename_i u s' hrun
    rw [hrun] at hitem
    exact hitem
termination_by (Slice.length self - idx).toNat
decreasing_by omega

/-! ## The conversion -/

theorem iterItems (items : Int → Env) (arg : SpentOutputs core) :
    Advances Frees (Python.iterItems items arg) := by
  cases arg with
  | sequence objs => exact Advances.pure _
  | iterable objs exc =>
    cases exc with
    | none => exact (takeAll objs).bind fun _ => Advances.pure _
    | some exc => exact (takeAll objs).bind fun _ => (dropAll objs).bind fun _ => Advances.throw _
  | object o =>
    cases o with
    | slice obj words => exact (toList items _ 0).bind fun _ => Advances.pure _
    | bytes b => exact Advances.pure _
    | str b => exact Advances.pure _
    | _ => exact Advances.throw _

theorem sequenceFast (env : Env) (items : Int → Env) (arg : SpentOutputs core) :
    Advances Frees (Python.sequenceFast env items arg) := by
  refine (iterItems items arg).bind fun seq => ?_
  split
  · exact Advances.pure _
  · split
    · exact Advances.pure _
    · exact (dropAll seq).bind fun _ => Advances.throw _

theorem convertSequence (env : Env) (seq : List (PyObj core × Bool)) :
    Advances Frees (Python.convertSequence env seq) := by
  unfold Python.convertSequence
  split
  · exact (dropAll seq).bind fun _ => Advances.throw _
  · refine (record _).bind fun _ => ?_
    split
    · exact (dropAll seq).bind fun _ => Advances.pure _
    · exact (record _).bind fun _ => (dropAll seq).bind fun _ => Advances.throw _
    · exact Advances.fault _

theorem convertTxOutputs (env : Env) (items : Int → Env) (arg : SpentOutputs core) :
    Advances Frees (Python.convertTxOutputs env items arg) := by
  unfold Python.convertTxOutputs
  split
  · exact Advances.pure _
  · exact (sequenceFast env items _).bind fun seq => convertSequence env seq

/-! ## `verify` -/

theorem optional {α β : Type} (arg : Option α) (value : β) {parse : α → Prog State PyErr β}
    (hparse : ∀ a, Advances Frees (parse a)) :
    Advances Frees (Python.optional arg value parse) := by
  cases arg with
  | none => exact Advances.pure _
  | some a => exact hparse a

theorem passAll (ptrs : List TxOutputPtr) : Advances Frees (Python.passAll ptrs) := by
  induction ptrs with
  | nil => exact Advances.pure _
  | cons ptr ptrs ih => exact (pass ptr.impl).bind fun _ => ih

theorem callVerify (env : Env) (impl : Option CScript) (vars : VerifyVars core) :
    Advances Frees (ScriptPubkey.callVerify env impl vars) := by
  refine (pass impl).bind fun _ => (pass vars.txTo).bind fun _ => ?_
  refine (passAll vars.spentOutputs).bind fun _ => ?_
  split
  · exact Advances.fault _
  · exact callNative (fun r => Advances.pure _) fun p s => ⟨s.events, rfl⟩

theorem verify (env : Env) (items : Int → Env) (impl : Option CScript) (args : VerifyArgs core) :
    Advances Frees (ScriptPubkey.verify env items impl args) := by
  rw [ScriptPubkey.verify]
  refine Advances.bind ?_ fun vars => callVerify env impl vars
  refine (Advances.lift _).bind fun amount => (Advances.lift _).bind fun txTo => ?_
  refine (optional _ _ fun obj => convertTxOutputs env items obj).bind fun spentOutputs => ?_
  refine (optional _ _ fun obj => Advances.lift _).bind fun inputIndex => ?_
  refine (optional _ _ fun obj => ?_).bind fun flags => Advances.pure _
  exact (Advances.lift _).bind fun _ => Advances.pure _

end Frees

/-! ## Calls and sessions -/

/-- **Whatever a call does, the error records that it caused are gone at its end.** -/
theorem Call.run_frees (env : Env) (call : Call core) : Advances Frees (call.run env) := by
  cases call with
  | newBlock raw =>
    exact (Frees.parseBuffer raw).bind fun b => Frees.create_null fun r => Frees.newObject env _ _
  | newTransaction raw =>
    exact (Frees.parseBuffer raw).bind fun b => Frees.create_null fun r => Frees.newObject env _ _
  | newScriptPubkey raw =>
    exact (Frees.parseBuffer raw).bind fun b =>
      Frees.create (fun ptr => Frees.newObject env _ _) fun _ => rfl
  | newBlockHash raw =>
    refine (Frees.parseBuffer raw).bind fun b => ?_
    split
    · exact Advances.throw _
    · exact Frees.newValue env _
  | newTransactionOutput amount script =>
    exact (Advances.lift _).bind fun _ => Advances.fault _
  | newChain => exact Advances.throw _
  | bytes self => exact Frees.bytes env self
  | str self => exact Frees.str env self
  | getAttr self name => exact Frees.getAttr env self name
  | len self => cases self <;> first | exact Frees.newValue env _ | exact Advances.throw _
  | subscript self arg =>
    cases self <;> first | exact Frees.subscript env _ _ | exact Advances.throw _
  | next self idx => cases self <;> first | exact Frees.item env _ _ | exact Advances.throw _
  | compare self other op =>
    cases self <;> first | exact Frees.richcmp _ other op | exact Advances.lift _
  | binary op left right => exact Frees.binary env op left right
  | invert self => cases self <;> first | exact Frees.newValue env _ | exact Advances.throw _
  | verify self args items =>
    cases self <;> first | exact Frees.verify env items _ args | exact Advances.throw _

/-- What the library allocated in a session for errors is gone. -/
def Restores (memory : Memory) (session : Session core) : Prop :=
  Heap.Restored memory session.memory

theorem Restores.step {memory : Memory} (session : Session core) (label : Env × Call core)
    (session' : Session core) (h : Restores memory session) (hstep : session.Step label session') :
    Restores memory session' := by
  obtain ⟨env, call⟩ := label
  obtain ⟨-, -, rfl⟩ := hstep
  have hfrees : Frees ⟨session.memory, []⟩ _ := call.run_frees env ⟨session.memory, []⟩
  rcases hrun : call.run env ⟨session.memory, []⟩ with ⟨out, s⟩
  rw [hrun] at hfrees
  have hafter : (session.after env call).memory = s.memory := by
    rw [Session.after, hrun]
    cases out <;> rfl
  rw [Restores, hafter]
  exact trans_of _ h hfrees

/--
**Every error record is freed once.** At any time in a session the library has the memory that it
had before, whichever allocations fail, and what it allocated meanwhile has been freed exactly once.
-/
theorem records_freed (memory : Memory) {labels : List (Env × Call core)} {session : Session core}
    (hrun : Run Session.Step (Session.start memory) labels session) :
    session.memory.cell = memory.cell ∧
    ∀ n, memory.next ≤ n → n < session.memory.next → session.memory.freed.count n = 1 := by
  have hrestored : Restores memory session := hrun.invariant Restores.step (refl_of _ memory)
  exact ⟨hrestored.cell_eq, fun n => Heap.freed_once hrestored⟩

/-- Nothing can be allocated for the object behind a script. -/
def noNative : Env where
  native _ := false
  object _ := true
  grow _ := true
  chars _ := 0
  words := ⟨0, 0, 0, .null⟩

theorem records_freed_script : ∃ session : Session minimalCore,
    Run Session.Step (Session.start (Heap.empty [])) [(noNative, .newScriptPubkey (.bytes []))]
      session ∧ session.memory.next = 3 ∧ session.memory.cell = (Heap.empty [] : Memory).cell ∧
      ∀ n, (Heap.empty [] : Memory).next ≤ n → n < session.memory.next →
        session.memory.freed.count n = 1 := by
  have hstep : Session.Step (Session.start (Heap.empty []) : Session minimalCore)
      (noNative, .newScriptPubkey (.bytes []))
      ((Session.start (Heap.empty [])).after noNative (.newScriptPubkey (.bytes []))) :=
    ⟨rfl, fun o ho => .inr (by rw [List.mem_singleton.mp ho]; rfl), rfl⟩
  exact ⟨_, .single hstep, rfl, records_freed (Heap.empty []) (.single hstep)⟩

end Btck.Python
