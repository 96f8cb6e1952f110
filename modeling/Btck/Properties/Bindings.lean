import Btck.Cpp.ScriptPubkey
import Btck.Infra.Advance
import Btck.Properties.ErrorBoundary
import Btck.Properties.InputIndex

/-!
# The same call in two languages

C++ and Python reach the interpreter by different ways: C++ checks types before the program runs and
throws what it makes of the error record, Python checks them in the call and raises what it makes of
it. The two have no code in common but the C function in the middle.

* `Corresponds` — one exception of the library, as C++ and as Python have it
* `corresponds_report` — the two decoders of its record
* `callArgs_parse` — what Python makes of the arguments of a C++ call
* `verify_bindings` — the two calls
-/

namespace Btck

open Infra

/-! ## Exceptions -/

/--
An exception of the library, as C++ and as Python have it, when its record was complete or not. The
text is the one that the library gave it, but for two things: a `std::system_error` composes its
own, and Python raises a text that it cannot read as a `UnicodeDecodeError`.
-/
inductive Corresponds (e : Exception) : Bool → Cpp.Thrown → Python.PyErr → Prop where
  | unrecorded : Corresponds e false .badAlloc ⟨.memoryError, none⟩
  | memory (hdomain : e.report.domain = utf8 "Memory") :
      Corresponds e true .badAlloc ⟨.memoryError, none⟩
  /-- For the library's own errors, the composed text is the text of the error. -/
  | verification (error : VerificationError) (he : e = error.exception)
      (hwhat : ∀ std, (Cpp.Thrown.systemError e.report.code .verificationError).what std
        = utf8 (VerificationError.message error.value)) :
      Corresponds e true (.systemError e.report.code .verificationError)
        ⟨.verificationError, some (VerificationError.message error.value)⟩
  | system {category : ErrorCategory} (hcategory : category = .generic ∨ category = .system)
      (hdomain : e.report.domain = category.name) :
      Corresponds e true (.systemError e.report.code category)
        (Python.setString .runtimeError e.report.message)
  | runtime (hdomain : e.report.domain ∉
        [utf8 "Memory", utf8 "generic", utf8 "system", utf8 "VerificationError"]) :
      Corresponds e true (.runtimeError e.report.message)
        (Python.setString .runtimeError e.report.message)

/-- The library's own error category is used for its own errors. -/
def OwnCategory (e : Exception) : Prop :=
  e.report.domain = utf8 "VerificationError" → ∃ error : VerificationError, e = error.exception

theorem what_verification (std : ErrorCategory → Int32 → Bytes) (error : VerificationError) :
    (Cpp.Thrown.systemError error.exception.report.code .verificationError).what std
      = utf8 (VerificationError.message error.value) := by
  cases error <;> rfl

theorem corresponds_report {e : Exception} (he : OwnCategory e) (recorded : Bool) :
    Corresponds e recorded (Cpp.decode (if recorded then e.report else oomReport))
      (Python.decode (if recorded then e.report else oomReport)) := by
  cases recorded with
  | false => exact .unrecorded
  | true =>
    show Corresponds e true (Cpp.decode e.report) (Python.decode e.report)
    by_cases hverification : e.report.domain = utf8 "VerificationError"
    · obtain ⟨error, rfl⟩ := he hverification
      have hcpp : Cpp.decode error.exception.report
          = .systemError error.exception.report.code .verificationError := by
        simp [Cpp.decode, hverification, ErrorCategory.name]
      have hpython : Python.decode error.exception.report
          = ⟨.verificationError, some (VerificationError.message error.value)⟩ := by
        simp [Python.decode, VerificationError.exception, Exception.report, ErrorCategory.name]
      rw [hcpp, hpython]
      exact .verification error rfl fun std => what_verification std error
    unfold Cpp.decode Python.decode
    by_cases hmemory : e.report.domain = utf8 "Memory"
    · rw [if_pos hmemory, if_pos hmemory]
      exact .memory hmemory
    rw [if_neg hmemory, if_neg hmemory, if_neg hverification]
    by_cases hgeneric : e.report.domain = ErrorCategory.generic.name
    · rw [if_pos hgeneric]
      exact .system (.inl rfl) hgeneric
    rw [if_neg hgeneric]
    by_cases hsystem : e.report.domain = ErrorCategory.system.name
    · rw [if_pos hsystem]
      exact .system (.inr rfl) hsystem
    rw [if_neg hsystem, if_neg (show ¬ e.report.domain = ErrorCategory.verificationError.name from
      hverification)]
    have hgeneric' : e.report.domain ≠ utf8 "generic" := hgeneric
    have hsystem' : e.report.domain ≠ utf8 "system" := hsystem
    exact .runtime (by simp [hmemory, hgeneric', hsystem', hverification])

section

variable {core : BitcoinCore}

/-- What the library throws has one of its own codes, or comes from somewhere else. -/
theorem verifyBody_throws {alloc : Nat → Bool} {script : CScript} {amount : Int64}
    {tx : core.CTransaction} {outputs : List CTxOut} {inputIndex flags : UInt32} {e : Exception}
    (heval : ∀ call e, core.evalScript call = .throws e → OwnCategory e)
    (h : ScriptPubkey.verifyBody core alloc (some script) amount (some tx) (outputs.map some)
      inputIndex flags = .throws e) : OwnCategory e := by
  cases halloc : alloc 0 with
  | false =>
    unfold ScriptPubkey.verifyBody at h
    rw [getAll_some] at h
    simp only [Api.get, Outcome.returns_bind, halloc, allocate_false, Outcome.throws_bind,
      Outcome.throws.injEq] at h
    subst h
    intro hdomain
    exact absurd hdomain (by decide)
  | true =>
    rw [verifyBody_eq halloc] at h
    rcases prepare_cases script amount tx outputs inputIndex flags with
      ⟨ha, input, hinput, hprepare⟩ | ⟨error, -, hprepare⟩
    · rw [verify, hprepare, Outcome.returns_bind,
        verifyScript_of_guarded (guarded_expectedCall script amount ha hinput)] at h
      cases hverdict : core.evalScript (expectedCall core script amount tx outputs inputIndex
          flags input) with
      | returns verdict =>
        rw [hverdict] at h
        cases h
      | throws e' =>
        rw [hverdict] at h
        obtain rfl : e' = e := Outcome.throws.inj h
        exact heval _ _ hverdict
      | faults u =>
        rw [hverdict] at h
        cases h
    · rw [verify, hprepare] at h
      obtain rfl : error.exception = e := Outcome.throws.inj h
      exact fun _ => ⟨error, rfl⟩

end

/-! ## The arguments -/

namespace Python

variable {core : BitcoinCore}

/-- The arguments of a C++ call, as a Python program passes them. -/
def callArgs (amount : Int64) (txTo : core.CTransaction) (spentOutputs : List CTxOut)
    (inputIndex flags : UInt32) : VerifyArgs core where
  amount := .int amount.toInt
  txTo := .transaction (some txTo)
  spentOutputs := some (.sequence (spentOutputs.map fun output => .transactionOutput (some output)))
  inputIndex := some (.int inputIndex.toNat)
  flags := some (.verificationFlags flags)

/-- The items of the list, which holds references to them. -/
def outputItems (outputs : List CTxOut) : List (PyObj core × Bool) :=
  outputs.map fun output => (.transactionOutput (some output), true)

theorem storeAll_outputs : ∀ (outputs : List CTxOut) (idx : Nat),
    storeAll (outputItems outputs : List (PyObj core × Bool)) idx = .returns (outputPtrs outputs)
  | [], _ => rfl
  | output :: outputs, idx => by
    show (storeAll (outputItems outputs) (idx + 1) >>= _) = _
    rw [storeAll_outputs outputs (idx + 1)]
    rfl

/-- What is in the list stays there. -/
theorem dropAll_outputs : ∀ (outputs : List CTxOut) (s : State),
    dropAll (outputItems outputs : List (PyObj core × Bool)) s = (.returns (), s)
  | [], _ => rfl
  | output :: outputs, s => by
    show (dropAll (outputItems outputs) >>= _ : Prog State PyErr Unit) s = _
    rw [Prog.bind_of_returns (dropAll_outputs outputs s)]
    rfl

theorem parseLongLong_amount (amount : Int64) :
    parseLongLong (.int amount.toInt : PyObj core) = .returns amount := by
  have hsize : IsSsize amount.toInt := ⟨amount.le_toInt, amount.toInt_le⟩
  show (if IsSsize amount.toInt then .returns (Int64.ofInt amount.toInt)
    else .throws ⟨.overflowError, none⟩ : Outcome PyErr Int64) = _
  rw [if_pos hsize, Int64.ofInt_toInt]

theorem callArgs_parse (env : Env) (items : Int → Env) (harray : env.object 1 = true)
    (amount : Int64) (txTo : core.CTransaction) (spentOutputs : List CTxOut)
    (inputIndex flags : UInt32) (s : State) :
    (callArgs amount txTo spentOutputs inputIndex flags).Parses env items s
      ⟨amount, some txTo, outputPtrs spentOutputs, inputIndex, some flags⟩
      { s with events := s.events ++ [.acquired .array] } where
  amount := parseLongLong_amount amount
  txTo := rfl
  spentOutputs := by
    have hseq : sequenceFast env items (.sequence
        (spentOutputs.map fun output => (.transactionOutput (some output) : PyObj core))) s
          = (.returns (outputItems spentOutputs), s) := by
      unfold sequenceFast iterItems
      show ((Outcome.returns ((spentOutputs.map _).map _), s) : Outcome PyErr _ × State) = _
      rw [List.map_map]
      rfl
    have hconvert := convertTxOutputs_of_seq hseq
    refine hconvert.trans ?_
    unfold convertSequence
    rw [harray]
    show (record (.acquired .array) >>= _ : Prog State PyErr _) s = _
    rw [Prog.bind_of_returns (record_run _ s), storeAll_outputs]
    exact Prog.bind_of_returns (dropAll_outputs spentOutputs _) _
  inputIndex := by
    have hindex : UInt32.ofInt inputIndex.toNat = inputIndex := by
      have hvalue := toNat_index32 inputIndex.toNat
      have hlt := inputIndex.toNat_lt
      exact UInt32.toNat_inj.mp (by omega)
    show (Outcome.returns (UInt32.ofInt inputIndex.toNat), _) = _
    rw [hindex]
  flagsArg := rfl

/-- To pass a handle on says nothing to the error records. -/
theorem pass_advances {α : Type} (impl : Option α) :
    Advances (Same State.memory) (pass impl : Prog State PyErr Unit) := fun _ => rfl

theorem passAll_advances : ∀ ptrs : List TxOutputPtr,
    Advances (Same State.memory) (passAll ptrs : Prog State PyErr Unit)
  | [] => Advances.pure ()
  | ptr :: ptrs => (pass_advances ptr.impl).bind fun _ => passAll_advances ptrs

/-- How a method ends that calls the C library and has a value to return, from how the body ends. -/
theorem callNative_end {Ret : Type} [Inhabited Ret] (body : Outcome Exception Ret)
    (value : Ret → PyObj core) (s : State) :
    ∃ t, (do
        let (result, error) ← callNative (wrapFn true body)
        match error with
        | some error => setErr error
        | none => return value result : Prog State PyErr (PyObj core)) s
      = ((match body with
        | .returns r => .returns (value r)
        | .throws e => .throws
          (Python.decode (if complete s.memory.schedule then e.report else oomReport))
        | .faults u => .faults u), t) ∧
      Heap.Restored s.memory t.memory := by
  cases body with
  | returns r => exact ⟨s, rfl, refl_of _ s.memory⟩
  | faults u => exact ⟨s, rfl, refl_of _ s.memory⟩
  | throws e =>
    obtain ⟨p, h₁, h₂, hrun, hset, hrestored⟩ :=
      setError_wrapFn_throws (ε := PyErr) Ret s.memory e
    have hcall : (callNative (wrapFn true (.throws e : Outcome Exception Ret)) :
        Prog State PyErr _) s = (.returns (default, some p),
          { memory := h₁, events := s.events ++ [.acquired .error] }) := by
      have hmemory : (onMemory (wrapFn true (.throws e : Outcome Exception Ret)) :
          Prog State PyErr _) s
            = (.returns (default, some p), { memory := h₁, events := s.events }) := by
        rw [onMemory, hrun]
      unfold callNative
      rw [Prog.bind_of_returns hmemory]
      rfl
    have hset' : (onMemory (setError p) : Prog State PyErr _)
        { memory := h₁, events := s.events ++ [.acquired .error] }
          = (.returns (Python.decode (if complete s.memory.schedule then e.report else oomReport)),
            { memory := h₂, events := s.events ++ [.acquired .error] }) := by
      rw [onMemory, hset]
    refine ⟨⟨h₂, s.events ++ [.acquired .error] ++ [.released .error]⟩, ?_, hrestored⟩
    rw [Prog.bind_of_returns hcall]
    show (setErr p : Prog State PyErr (PyObj core)) _ = _
    unfold setErr
    rw [Prog.bind_of_returns hset']
    rfl

theorem callVerify_memory (env : Env) (script : CScript) (amount : Int64) (txTo : core.CTransaction)
    (spentOutputs : List CTxOut) (inputIndex flags : UInt32) (s : State) :
    ∃ s', s'.memory = s.memory ∧ ScriptPubkey.callVerify env (some script)
        (⟨amount, some txTo, outputPtrs spentOutputs, inputIndex, some flags⟩ : VerifyVars core) s
      = (do
          let (result, error) ← callNative (Btck.ScriptPubkey.verify core env.native (some script)
            amount (some txTo) (spentOutputs.map some) inputIndex flags true)
          match error with
          | some error => setErr error
          | none => return .bool (result ≠ 0) : Prog State PyErr (PyObj core)) s' := by
  obtain ⟨s', hall⟩ := passAll_run (outputPtrs spentOutputs)
    { s with events := s.events ++ [.passed false] ++ [.passed false] }
  have hmemory := passAll_advances (outputPtrs spentOutputs)
    { s with events := s.events ++ [.passed false] ++ [.passed false] }
  rw [hall] at hmemory
  have howned : ((outputPtrs spentOutputs).any fun ptr => !ptr.owned) = false := by
    simp [outputPtrs]
  have himpls : (outputPtrs spentOutputs).map (·.impl) = spentOutputs.map some := by
    simp [outputPtrs, Function.comp_def]
  refine ⟨s', hmemory, ?_⟩
  unfold ScriptPubkey.callVerify
  rw [Prog.bind_of_returns (pass_run (some script) s),
    Prog.bind_of_returns (pass_run (some txTo) _)]
  refine (Prog.bind_of_returns hall _).trans ?_
  rw [howned, himpls]
  rfl

end Python

/-! ## The two calls -/

/--
Two ends of one call, in C++ and in Python, and the end of the library's function that both call.
They leave the error records as they were.
-/
inductive SameEnd {core : BitcoinCore} (h : Memory) : Outcome Exception Int32 →
    Outcome Cpp.Thrown Bool × Memory → Outcome Python.PyErr (Python.PyObj core) × Python.State →
    Prop where
  | verdict (r : Int32) {h' : Memory} {t : Python.State} (hh : Heap.Restored h h')
      (ht : Heap.Restored h t.memory) :
      SameEnd h (.returns r) (.returns (r ≠ 0), h') (.returns (.bool (r ≠ 0)), t)
  | exception {e : Exception} {thrown : Cpp.Thrown} {exc : Python.PyErr} {h' : Memory}
      {t : Python.State} (hexc : Corresponds e (complete h.schedule) thrown exc)
      (hh : Heap.Restored h h') (ht : Heap.Restored h t.memory) :
      SameEnd h (.throws e) (.throws thrown, h') (.throws exc, t)
  | fault (u : Fault) {h' : Memory} {t : Python.State} :
      SameEnd h (.faults u) (.faults u, h') (.faults u, t)

section

variable {core : BitcoinCore}

theorem cpp_verify_end (alloc : Nat → Bool) (script : CScript) (amount : Int64)
    (txTo : core.CTransaction) (spentOutputs : List CTxOut) (inputIndex flags : UInt32)
    (h : Memory) :
    ∃ h', Cpp.ScriptPubkey.verify core alloc (some script) amount (some txTo)
        (spentOutputs.map some) inputIndex flags h
      = ((match ScriptPubkey.verifyBody core alloc (some script) amount (some txTo)
            (spentOutputs.map some) inputIndex flags with
        | .returns r => .returns (r ≠ 0)
        | .throws e => .throws
          (Cpp.decode (if complete h.schedule then e.report else oomReport))
        | .faults u => .faults u), h') ∧
      Heap.Restored h h' := by
  unfold Cpp.ScriptPubkey.verify ScriptPubkey.verify
  cases hbody : ScriptPubkey.verifyBody core alloc (some script) amount (some txTo)
      (spentOutputs.map some) inputIndex flags with
  | returns r => exact ⟨h, rfl, refl_of _ h⟩
  | faults u => exact ⟨h, rfl, refl_of _ h⟩
  | throws e =>
    obtain ⟨h', hrun, hrestored⟩ := invoke_wrapFn_throws Int32 h e
    exact ⟨h', Prog.bind_of_throws hrun _, hrestored⟩

/--
**A call of `verify` is the same call in C++ and in Python.** For all arguments, whatever the
interpreter does with them and whatever memory there is for the error record, the two come to the
verdict of the library's function, or to what corresponds to its exception, and give back the memory
of the record.
-/
theorem verify_bindings (env : Python.Env) (items : Int → Python.Env)
    (harray : env.object 1 = true)
    (heval : ∀ call e, core.evalScript call = .throws e → OwnCategory e)
    (script : CScript) (amount : Int64) (txTo : core.CTransaction) (spentOutputs : List CTxOut)
    (inputIndex flags : UInt32) (s : Python.State) :
    SameEnd s.memory
      (ScriptPubkey.verifyBody core env.native (some script) amount (some txTo)
        (spentOutputs.map some) inputIndex flags)
      (Cpp.ScriptPubkey.verify core env.native (some script) amount (some txTo)
        (spentOutputs.map some) inputIndex flags s.memory)
      (Python.ScriptPubkey.verify env items (some script)
        (Python.callArgs amount txTo spentOutputs inputIndex flags) s) := by
  have hparse := Python.callArgs_parse env items harray amount txTo spentOutputs inputIndex flags s
  obtain ⟨s', hmemory, hcall⟩ := Python.callVerify_memory env script amount txTo spentOutputs
    inputIndex flags { s with events := s.events ++ [.acquired .array] }
  obtain ⟨t, hpython, ht⟩ := Python.callNative_end
    (ScriptPubkey.verifyBody core env.native (some script) amount (some txTo)
      (spentOutputs.map some) inputIndex flags)
    (fun r => (.bool (r ≠ 0) : Python.PyObj core)) s'
  obtain ⟨h', hcpp, hh⟩ := cpp_verify_end env.native script amount txTo spentOutputs inputIndex
    flags s.memory
  rw [Python.ScriptPubkey.verify, Prog.bind_of_returns (Python.parse_eq_returns.mpr hparse),
    hcall, hcpp]
  refine (congrArg (SameEnd s.memory _ _) hpython).mpr ?_
  rw [hmemory] at ht ⊢
  cases hbody : ScriptPubkey.verifyBody core env.native (some script) amount (some txTo)
      (spentOutputs.map some) inputIndex flags with
  | returns r => exact .verdict r hh ht
  | throws e => exact .exception (corresponds_report (verifyBody_throws heval hbody) _) hh ht
  | faults u => exact .fault u

end

/-- A flag that is not known. -/
theorem verify_bindings_unknown :
    @SameEnd minimalCore (Heap.empty [])
      (ScriptPubkey.verifyBody minimalCore (Python.Env.leaving .null).native (some [0x51]) 0
        (some MinimalTx.spend) ([].map some) 0 2)
      (Cpp.ScriptPubkey.verify minimalCore (Python.Env.leaving .null).native (some [0x51]) 0
        (some MinimalTx.spend) ([].map some) 0 2 (Heap.empty []))
      (Python.ScriptPubkey.verify (.leaving .null) (fun _ => .leaving .null) (some [0x51])
        (Python.callArgs 0 .spend [] 0 2) ⟨Heap.empty [], []⟩) :=
  @verify_bindings minimalCore (.leaving .null) (fun _ => .leaving .null) rfl
    (fun call e (h : Outcome.returns _ = .throws e) => by cases h) [0x51] 0 .spend [] 0 2
    ⟨Heap.empty [], []⟩

end Btck
