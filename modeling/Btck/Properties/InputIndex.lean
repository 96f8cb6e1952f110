import Btck.Properties.Session
import Btck.Properties.Verify

/-!
# The input that `verify` verifies

Python's integers are unbounded and the format unit `I` keeps their low 32 bits, without a word. The
check that the index is one of the inputs comes later, in the C library, and sees what was kept.

* `Valid` — the other arguments, and what they are read as
* `verify_run` — the call is one of the C library's, with the index modulo `2^32`
* `VerifiesInput` — what the caller asked for
* `verifiesInput_iff` — for which integers it is done
-/

namespace Btck.Python

open Infra

variable {core : BitcoinCore}

/-! ## The other arguments -/

/--
The arguments of `verify` besides `input_index` are in order: they are read as the values given
here, every pointer is good, and the C library has nothing to object to.
-/
structure Valid (env : Env) (items : Int → Env) (args : VerifyArgs core) (s : State)
    (tx : core.CTransaction) (amount : Int64) (outputs : List CTxOut) (flags : UInt32) : Prop
    extends Coherent core tx outputs flags where
  amount : parseLongLong args.amount = .returns amount
  txTo : args.txTo = .transaction (some tx)
  spentOutputs : ∃ s', optional args.spentOutputs [] (convertTxOutputs env items) s
    = (.returns (outputs.map fun output => { impl := some output, owned := true }), s')
  flagsArg : args.flags = none ∧ flags = Btck.VerificationFlags.NONE ∨
    args.flags = some (.verificationFlags flags)
  memory : env.native 0 = true

/-- The call of the C library with the values that the other arguments are read as. -/
def nativeVerify (env : Env) (script : CScript) (tx : core.CTransaction) (amount : Int64)
    (outputs : List CTxOut) (flags : UInt32) (inputIndex : UInt32) {ε : Type} :
    Prog Memory ε (Int32 × Option ErrorPtr) :=
  Btck.ScriptPubkey.verify core env.native (some script) amount (some tx) (outputs.map some)
    inputIndex flags true

section

variable {env : Env} {items : Int → Env} {args : VerifyArgs core} {s : State}
  {tx : core.CTransaction} {amount : Int64} {outputs : List CTxOut} {flags : UInt32}
  {script : CScript}

/-- The pointers to the outputs, which are all good. -/
def outputPtrs (outputs : List CTxOut) : List TxOutputPtr :=
  outputs.map fun output => { impl := some output, owned := true }

/-- The arguments are read as the values, and the index as what is left of it. -/
theorem Valid.parses (hv : Valid env items args s tx amount outputs flags) (k : Int) :
    ∃ s' arg, VerifyArgs.Parses { args with inputIndex := some (.int k) } env items s
        ⟨amount, some tx, outputPtrs outputs, UInt32.ofInt k, arg⟩ s' ∧
      VerificationFlags.getImpl arg = flags := by
  obtain ⟨s', hspent⟩ := hv.spentOutputs
  obtain ⟨arg, hflags, hvalue⟩ : ∃ arg,
      (optional args.flags none fun obj => some <$> Prog.lift (parseFlags obj)) s'
        = (.returns arg, s') ∧ VerificationFlags.getImpl arg = flags := by
    rcases hv.flagsArg with ⟨hnone, rfl⟩ | hsome
    · exact ⟨none, by rw [hnone]; rfl, rfl⟩
    · exact ⟨some flags, by rw [hsome]; rfl, rfl⟩
  have htx : parseTransaction args.txTo = .returns (some tx) := by
    rw [hv.txTo]
    rfl
  exact ⟨s', arg, ⟨hv.amount, htx, hspent, rfl, hflags⟩, hvalue⟩

theorem passAll_run (ptrs : List TxOutputPtr) :
    ∀ s : State, ∃ s', passAll ptrs s = (.returns (), s') := by
  induction ptrs with
  | nil => intro s; exact ⟨s, rfl⟩
  | cons ptr ptrs ih =>
    intro s
    obtain ⟨s', hs'⟩ := ih { s with events := s.events ++ [.passed ptr.impl.isNone] }
    refine ⟨s', ?_⟩
    rw [passAll, Prog.bind_of_returns (pass_run ptr.impl s)]
    exact hs'

/-- Good pointers are passed on, and nothing faults. -/
theorem callVerify_run (script : CScript) {arg : Option UInt32} {inputIndex : UInt32}
    (harg : VerificationFlags.getImpl arg = flags) (s : State) :
    ∃ s', ScriptPubkey.callVerify env (some script)
        (⟨amount, some tx, outputPtrs outputs, inputIndex, arg⟩ : VerifyVars core) s
      = (do
          let (result, error) ← callNative
            (nativeVerify env script tx amount outputs flags inputIndex)
          match error with
          | some error => setErr error
          | none => return .bool (result ≠ 0) : Prog State PyErr (PyObj core)) s' := by
  obtain ⟨s₁, hself⟩ :
      ∃ s₁, pass (some script) s = ((.returns (), s₁) : Outcome PyErr _ × State) :=
    ⟨_, pass_run (some script) s⟩
  obtain ⟨s₂, htx⟩ : ∃ s₂, pass (some tx) s₁ = ((.returns (), s₂) : Outcome PyErr _ × State) :=
    ⟨_, pass_run (some tx) s₁⟩
  obtain ⟨s₃, hall⟩ := passAll_run (outputPtrs outputs) s₂
  have howned : ((outputPtrs outputs).any fun ptr => !ptr.owned) = false := by
    simp [outputPtrs]
  have himpls : (outputPtrs outputs).map (·.impl) = outputs.map some := by
    simp [outputPtrs, Function.comp_def]
  refine ⟨s₃, ?_⟩
  unfold ScriptPubkey.callVerify
  rw [Prog.bind_of_returns hself, Prog.bind_of_returns htx, Prog.bind_of_returns hall, howned,
    himpls, harg]
  rfl

/-- **`verify` is a call of the C library**, with the index modulo `2^32`. -/
theorem verify_run (script : CScript) (hv : Valid env items args s tx amount outputs flags)
    (k : Int) :
    ∃ s', ScriptPubkey.verify env items (some script) { args with inputIndex := some (.int k) } s
      = (do
          let (result, error) ← callNative
            (nativeVerify env script tx amount outputs flags (UInt32.ofInt k))
          match error with
          | some error => setErr error
          | none => return .bool (result ≠ 0) : Prog State PyErr (PyObj core)) s' := by
  obtain ⟨s₁, arg, hparses, hvalue⟩ := hv.parses k
  obtain ⟨s', hcall⟩ := callVerify_run script hvalue s₁
  refine ⟨s', ?_⟩
  rw [ScriptPubkey.verify, Prog.bind_of_returns (parse_eq_returns.mpr hparses)]
  exact hcall

/-! ## The C library's answer -/

theorem native_of_lt (script : CScript) (hv : Valid env items args s tx amount outputs flags)
    (heval : ∀ call, ∃ verdict, core.evalScript call = .returns verdict) {idx : UInt32}
    (hidx : idx.toNat < (core.vin tx).size) :
    ∃ verdict : Bool, ∀ {ε : Type} (h : Memory),
      (nativeVerify env script tx amount outputs flags idx : Prog Memory ε _) h
        = (.returns (if verdict then 1 else 0, none), h) := by
  rcases prepare_cases script amount tx outputs idx flags with ⟨ha, input, hinput, hp⟩ | ⟨e, hr, -⟩
  · have hg := guarded_expectedCall script amount ha hinput
    obtain ⟨verdict, hverdict⟩ := heval (expectedCall core script amount tx outputs idx flags input)
    refine ⟨verdict, ?_⟩
    intro ε h
    rw [nativeVerify, Btck.ScriptPubkey.verify, verifyBody_eq hv.memory, Btck.verify, hp,
      Outcome.returns_bind, verifyScript_of_guarded hg, hverdict]
    rfl
  · exact absurd ⟨hv.toCoherent, hidx⟩ hr.not_admitted

theorem native_of_ge (script : CScript) (hv : Valid env items args s tx amount outputs flags)
    {idx : UInt32}
    (hidx : (core.vin tx).size ≤ idx.toNat) :
    ∃ e, Btck.ScriptPubkey.verifyBody core env.native (some script) amount (some tx)
      (outputs.map some) idx flags = .throws e := by
  rcases prepare_cases script amount tx outputs idx flags with ⟨ha, -⟩ | ⟨e, -, hp⟩
  · exact absurd ha.index (Nat.not_lt.mpr hidx)
  · refine ⟨e.exception, ?_⟩
    rw [verifyBody_eq hv.memory, Btck.verify, hp]
    rfl

/-! ## What Python gets -/

/-- The result is that of the C library for the input `k`, and there is an exception where there is
no such input. -/
structure VerifiesInput (env : Env) (items : Int → Env) (script : CScript) (args : VerifyArgs core)
    (s : State) (tx : core.CTransaction) (amount : Int64) (outputs : List CTxOut) (flags : UInt32)
    (k : Int) : Prop where
  inside : 0 ≤ k → k < (core.vin tx).size → ∃ (idx : UInt32) (verdict : Bool),
    (idx.toNat : Int) = k ∧
    (∀ {ε : Type} (h : Memory), (nativeVerify env script tx amount outputs flags idx :
      Prog Memory ε _) h = (.returns (if verdict then 1 else 0, none), h)) ∧
    (ScriptPubkey.verify env items (some script) { args with inputIndex := some (.int k) } s).1
      = .returns (.bool verdict)
  outside : ¬ (0 ≤ k ∧ k < (core.vin tx).size) → ∃ e,
    (ScriptPubkey.verify env items (some script) { args with inputIndex := some (.int k) } s).1
      = .throws e

theorem verify_of_verdict (hv : Valid env items args s tx amount outputs flags) {k : Int}
    {verdict : Bool} (hnative : ∀ {ε : Type} (h : Memory),
      (nativeVerify env script tx amount outputs flags (UInt32.ofInt k) : Prog Memory ε _) h
        = (.returns (if verdict then 1 else 0, none), h)) :
    (ScriptPubkey.verify env items (some script) { args with inputIndex := some (.int k) } s).1
      = .returns (.bool verdict) := by
  obtain ⟨s', hrun⟩ := verify_run script hv k
  have hcall : callNative (nativeVerify env script tx amount outputs flags (UInt32.ofInt k)) s'
      = ((.returns (if verdict then 1 else 0, none), s') : Outcome PyErr _ × State) := by
    unfold callNative
    have hmem : (onMemory (nativeVerify env script tx amount outputs flags (UInt32.ofInt k)) :
        Prog State PyErr _) s' = (.returns (if verdict then 1 else 0, none), s') := by
      rw [onMemory, hnative]
    rw [Prog.bind_of_returns hmem]
    rfl
  rw [hrun, Prog.bind_of_returns hcall]
  cases verdict <;> rfl

theorem verify_of_error (hv : Valid env items args s tx amount outputs flags) {k : Int}
    {e : Exception}
    (hbody : Btck.ScriptPubkey.verifyBody core env.native (some script) amount (some tx)
      (outputs.map some) (UInt32.ofInt k) flags = .throws e) : ∃ exc,
    (ScriptPubkey.verify env items (some script) { args with inputIndex := some (.int k) } s).1
      = .throws exc := by
  obtain ⟨s', hrun⟩ := verify_run script hv k
  obtain ⟨p, m, hcall, hset⟩ := Reports.callNative_throws Int32 (PyObj core) e s'
  obtain ⟨exc, m', -, hraise⟩ := hset (s'.events ++ [.acquired .error])
  refine ⟨exc, ?_⟩
  rw [hrun, nativeVerify, Btck.ScriptPubkey.verify, hbody, Prog.bind_of_returns hcall]
  exact congrArg Prod.fst hraise

theorem toNat_index32 (k : Int) : ((UInt32.ofInt k).toNat : Int) = k % 4294967296 := by
  have hnat : (UInt32.ofInt k).toNat = (k % 2 ^ 32).toNat % 2 ^ 32 := rfl
  rw [hnat]
  omega

/-- **`verify` verifies the input it was asked for if and only if** the integer fits into an
`unsigned int`, or what is left of it is no index of an input either. -/
theorem verifiesInput_iff (heval : ∀ call, ∃ verdict, core.evalScript call = .returns verdict)
    (script : CScript) (hv : Valid env items args s tx amount outputs flags) (k : Int) :
    VerifiesInput env items script args s tx amount outputs flags k ↔
      (0 ≤ k ∧ k < 4294967296) ∨ ((core.vin tx).size : Int) ≤ k % 4294967296 := by
  have hindex := toNat_index32 k
  rcases Nat.lt_or_ge (UInt32.ofInt k).toNat (core.vin tx).size with hlt | hge
  · -- an input is verified, and it is the right one if nothing was cut off
    obtain ⟨verdict, hnative⟩ := native_of_lt script hv heval hlt
    have hrun := verify_of_verdict hv hnative
    constructor
    · intro h
      by_contra hc
      by_cases hin : 0 ≤ k ∧ k < (core.vin tx).size
      · obtain ⟨idx, -, heq, -⟩ := h.inside hin.1 hin.2
        have hbound := idx.toNat_lt
        omega
      · obtain ⟨e, he⟩ := h.outside hin
        rw [hrun] at he
        simp at he
    · intro hc
      refine ⟨fun _ _ => ⟨UInt32.ofInt k, verdict, by omega, hnative, hrun⟩, fun hout => ?_⟩
      omega
  · obtain ⟨e, hbody⟩ := native_of_ge script hv hge
    refine ⟨fun _ => .inr (by omega), fun _ => ⟨fun h0 hk => ?_, fun _ => verify_of_error hv hbody⟩⟩
    -- an integer below the size would have been kept, or left less than the size
    omega

end

/-! ## One input -/

/-- The arguments that verify the one input of `MinimalTx.spend`. -/
def spendArgs : VerifyArgs minimalCore where
  amount := .int 0
  txTo := .transaction (some .spend)
  spentOutputs := none
  inputIndex := none
  flags := none

theorem valid_spendArgs (items : Int → Env) :
    Valid (.leaving .null) items spendArgs ⟨Heap.empty [], []⟩ .spend 0 []
      Btck.VerificationFlags.NONE where
  amount := rfl
  txTo := rfl
  spentOutputs := ⟨_, rfl⟩
  flagsArg := .inl ⟨rfl, rfl⟩
  known := known_iff.mp rfl
  witness := by decide
  taproot := by decide
  spent := .inl rfl
  memory := rfl

/-- The only input is verified, and the one behind it is not there. -/
theorem verifiesInput_spend :
    VerifiesInput (.leaving .null) (fun _ => .leaving .null) [0x51] spendArgs ⟨Heap.empty [], []⟩
      .spend 0 [] Btck.VerificationFlags.NONE 0 ∧
    VerifiesInput (.leaving .null) (fun _ => .leaving .null) [0x51] spendArgs ⟨Heap.empty [], []⟩
      .spend 0 [] Btck.VerificationFlags.NONE (-1) := by
  have hiff := verifiesInput_iff (fun call => ⟨_, rfl⟩) [0x51]
    (valid_spendArgs fun _ => .leaving .null)
  exact ⟨(hiff 0).mpr (.inl (by decide)), (hiff (-1)).mpr (.inr (by decide))⟩

/-- The input with the index `2^32`, which is not there, is said to be valid: the verdict is that of
the input 0. -/
theorem verifies_first_input :
    (ScriptPubkey.verify (.leaving .null) (fun _ => .leaving .null) (some [0x51])
      { spendArgs with inputIndex := some (.int 4294967296) } ⟨Heap.empty [], []⟩).1
        = .returns (.bool true) ∧
    ¬ VerifiesInput (.leaving .null) (fun _ => .leaving .null) [0x51] spendArgs ⟨Heap.empty [], []⟩
      .spend 0 [] Btck.VerificationFlags.NONE 4294967296 := by
  have hrun : (ScriptPubkey.verify (.leaving .null) (fun _ => .leaving .null) (some [0x51])
      { spendArgs with inputIndex := some (.int 4294967296) } ⟨Heap.empty [], []⟩).1
        = .returns (.bool true) := rfl
  refine ⟨hrun, fun h => ?_⟩
  obtain ⟨e, he⟩ := h.outside (by decide)
  rw [hrun] at he
  simp at he

end Btck.Python
