import Btck.Minimal
import Btck.Verify
import Btck.Properties.ErrorRecord

/-!
# The guard in front of the interpreter

`prepare_cases` lists the ends of `prepare`: the arguments are admitted and the call is the
expected one, or exactly one check rejects them. The rest is read off it.

* `Admitted`, `Rejected` — the two sides of the guard, in terms of bits and counts
* `Guarded` — what holds of a call that reaches `VerifyScript`, and which call it is
* `verify_guarded` — the whole of `BtcK_ScriptPubkey_Verify`
-/

namespace Btck

open Infra

/-! ## The guard -/

/-- Every set flag is a known one. -/
def Known (flags : UInt32) : Prop := ∀ k, Has flags k → k ∈ VerificationFlags.positions

theorem known_iff {flags : UInt32} : flags &&& ~~~VerificationFlags.ALL = 0 ↔ Known flags := by
  rw [and_not_eq_zero_iff]
  exact forall_congr' fun k => imp_congr_right fun _ => VerificationFlags.has_ALL k

theorem Known.not_cleanstack {flags : UInt32} (h : Known flags) : ¬ Has flags 8 := by
  intro h8
  exact absurd (h 8 h8) (by decide)

section

variable (core : BitcoinCore)

/-- The flags, the spent outputs and the transaction go together. -/
structure Coherent (tx : core.CTransaction) (spentOutputs : List CTxOut) (flags : UInt32) :
    Prop where
  known : Known flags
  /-- `WITNESS` implies `P2SH`. -/
  witness : Has flags 11 → Has flags 0
  /-- `TAPROOT` implies that spent outputs were given. -/
  taproot : Has flags 17 → spentOutputs ≠ []
  spent : spentOutputs.length = 0 ∨ spentOutputs.length = (core.vin tx).size

/-- The arguments for which the interpreter may be run. -/
structure Admitted (tx : core.CTransaction) (spentOutputs : List CTxOut) (inputIndex : UInt32)
    (flags : UInt32) : Prop extends Coherent core tx spentOutputs flags where
  index : inputIndex.toNat < (core.vin tx).size

/-- The first check that the arguments fail, with the error that says so. -/
inductive Rejected (tx : core.CTransaction) (spentOutputs : List CTxOut) (inputIndex : UInt32)
    (flags : UInt32) : VerificationError → Prop where
  | invalidFlags : ¬ Known flags → Rejected tx spentOutputs inputIndex flags .invalidFlags
  | invalidFlagsCombination : Known flags → ¬ (Has flags 11 → Has flags 0) →
      Rejected tx spentOutputs inputIndex flags .invalidFlagsCombination
  | spentOutputsRequired : Known flags → (Has flags 11 → Has flags 0) →
      ¬ (Has flags 17 → spentOutputs ≠ []) →
      Rejected tx spentOutputs inputIndex flags .spentOutputsRequired
  | spentOutputsMismatch : Known flags → (Has flags 11 → Has flags 0) →
      (Has flags 17 → spentOutputs ≠ []) →
      ¬ (spentOutputs.length = 0 ∨ spentOutputs.length = (core.vin tx).size) →
      Rejected tx spentOutputs inputIndex flags .spentOutputsMismatch
  | txInputIndex : Known flags → (Has flags 11 → Has flags 0) →
      (Has flags 17 → spentOutputs ≠ []) →
      (spentOutputs.length = 0 ∨ spentOutputs.length = (core.vin tx).size) →
      ¬ inputIndex.toNat < (core.vin tx).size →
      Rejected tx spentOutputs inputIndex flags .txInputIndex

variable {core} {tx : core.CTransaction} {spentOutputs : List CTxOut} {inputIndex flags : UInt32}

theorem Rejected.not_admitted {e : VerificationError}
    (h : Rejected core tx spentOutputs inputIndex flags e) :
    ¬ Admitted core tx spentOutputs inputIndex flags := by
  intro ha
  cases h with
  | invalidFlags h => exact h ha.known
  | invalidFlagsCombination _ h => exact h ha.witness
  | spentOutputsRequired _ _ h => exact h ha.taproot
  | spentOutputsMismatch _ _ _ h => exact h ha.spent
  | txInputIndex _ _ _ _ h => exact h ha.index

/-! ## `PrecomputedTransactionData` -/

theorem new_txdata (inputs : Nat) : PrecomputedTransactionData.new inputs
    = .returns { spentOutputs := [], spentOutputsReady := false } := rfl

theorem init_txdata {inputs : Nat} (hne : spentOutputs ≠ []) (hlen : spentOutputs.length = inputs) :
    PrecomputedTransactionData.init { spentOutputs := [], spentOutputsReady := false } inputs
      spentOutputs = .returns { spentOutputs := spentOutputs, spentOutputsReady := true } := by
  have hempty : spentOutputs.isEmpty = false := by simpa using hne
  simp [PrecomputedTransactionData.init, hempty, hlen]

/-! ## The ends of `prepare` -/

/-- The call that the arguments ask for, with the input at `inputIndex`. -/
def expectedCall (core : BitcoinCore) (scriptPubkey : CScript) (amount : Int64)
    (tx : core.CTransaction) (spentOutputs : List CTxOut) (inputIndex flags : UInt32)
    (input : core.CTxIn) : ScriptCall core.CTransaction where
  scriptSig := core.scriptSig input
  scriptPubKey := scriptPubkey
  witness := core.scriptWitness input
  flags := flags
  checker :=
    { txTo := tx
      nIn := inputIndex
      amount := amount
      txdata :=
        if Has flags 17 then { spentOutputs := spentOutputs, spentOutputsReady := true }
        else { spentOutputs := [], spentOutputsReady := false } }

/-- The check of the flag combination, once the flags are known. -/
theorem combination_iff (hknown : Known flags) :
    ((decide (Has flags 8) && !decide (Has flags 0) && !decide (Has flags 11)) ||
      (decide (Has flags 11) && !decide (Has flags 0))) = true ↔
      ¬ (Has flags 11 → Has flags 0) := by
  have h8 := hknown.not_cleanstack
  by_cases h11 : Has flags 11 <;> by_cases h0 : Has flags 0 <;> simp [h8, h11, h0]

theorem prepare_cases (script : CScript) (amount : Int64) (tx : core.CTransaction)
    (spentOutputs : List CTxOut) (inputIndex flags : UInt32) :
    (Admitted core tx spentOutputs inputIndex flags ∧
      ∃ input, (core.vin tx).toList[inputIndex.toNat]? = some input ∧
        prepare core script amount tx spentOutputs inputIndex flags
          = .returns (expectedCall core script amount tx spentOutputs inputIndex flags input)) ∨
    ∃ e, Rejected core tx spentOutputs inputIndex flags e ∧
      prepare core script amount tx spentOutputs inputIndex flags = .throws e.exception := by
  simp only [prepare, and_cleanstack, and_p2sh, and_witness, and_taproot]
  -- the checks in the order of the source; each one may rely on those before it
  by_cases hknown : Known flags
  case neg =>
    refine .inr ⟨.invalidFlags, .invalidFlags hknown, ?_⟩
    rw [if_pos (fun hz => hknown (known_iff.mp hz))]
  rw [if_neg (not_not.mpr (known_iff.mpr hknown))]
  by_cases hw : Has flags 11 → Has flags 0
  case neg =>
    refine .inr ⟨.invalidFlagsCombination, .invalidFlagsCombination hknown hw, ?_⟩
    rw [if_pos ((combination_iff hknown).mpr hw)]
  rw [if_neg (fun hc => (combination_iff hknown).mp hc hw)]
  by_cases ht : Has flags 17 → spentOutputs ≠ []
  case neg =>
    refine .inr ⟨.spentOutputsRequired, .spentOutputsRequired hknown hw ht, ?_⟩
    rw [if_pos (by simpa using ht)]
  rw [if_neg (by simpa using ht)]
  by_cases hs : spentOutputs.length = 0 ∨ spentOutputs.length = (core.vin tx).size
  case neg =>
    refine .inr ⟨.spentOutputsMismatch, .spentOutputsMismatch hknown hw ht hs, ?_⟩
    rw [if_pos (by simpa [not_or] using hs)]
  rw [if_neg (by simpa [or_iff_not_imp_left] using hs)]
  by_cases hi : inputIndex.toNat < (core.vin tx).size
  case neg =>
    refine .inr ⟨.txInputIndex, .txInputIndex hknown hw ht hs hi, ?_⟩
    rw [if_pos (Nat.le_of_not_lt hi)]
  rw [if_neg (Nat.not_le.mpr hi)]
  refine .inl ⟨⟨⟨hknown, hw, ht, hs⟩, hi⟩, (core.vin tx).toList.get ⟨_, hi⟩,
    List.getElem?_eq_getElem hi, ?_⟩
  rw [new_txdata, Vec.get_of_lt hi]
  -- the outputs are read only with TAPROOT, and then there are as many as inputs
  by_cases h17 : Has flags 17
  · have hne := ht h17
    have hlen : spentOutputs.length = (core.vin tx).size :=
      hs.resolve_left fun h0 => hne (List.eq_nil_of_length_eq_zero h0)
    simp [expectedCall, h17, init_txdata hne hlen]
  · simp [expectedCall, h17]

/-! ## What reaches the interpreter -/

/-- What holds of a call that reaches `VerifyScript` when the caller gave these arguments. -/
structure Guarded (core : BitcoinCore) (script : CScript) (amount : Int64) (tx : core.CTransaction)
    (spentOutputs : List CTxOut) (inputIndex flags : UInt32)
    (call : ScriptCall core.CTransaction) : Prop where
  /-- It is the call that was asked for: these flags, this script, and the input at `inputIndex`. -/
  asked : ∃ input, (core.vin tx).toList[inputIndex.toNat]? = some input ∧
    call = expectedCall core script amount tx spentOutputs inputIndex flags input
  cleanstack : ¬ Has call.flags 8
  witness : Has call.flags 11 → Has call.flags 0
  /-- The input that is read is one of the transaction's. -/
  input : call.checker.txTo = tx ∧ call.checker.nIn.toNat < (core.vin tx).size ∧
    ∃ input, (core.vin tx).toList[call.checker.nIn.toNat]? = some input ∧
      call.scriptSig = core.scriptSig input ∧ call.witness = core.scriptWitness input
  /-- With `TAPROOT`, there is one spent output for each input. -/
  taproot : Has call.flags 17 → call.checker.txdata.spentOutputsReady = true ∧
    call.checker.txdata.spentOutputs = spentOutputs ∧ spentOutputs.length = (core.vin tx).size

theorem guarded_expectedCall (script : CScript) (amount : Int64) {input : core.CTxIn}
    (ha : Admitted core tx spentOutputs inputIndex flags)
    (hinput : (core.vin tx).toList[inputIndex.toNat]? = some input) :
    Guarded core script amount tx spentOutputs inputIndex flags
      (expectedCall core script amount tx spentOutputs inputIndex flags input) where
  asked := ⟨input, hinput, rfl⟩
  cleanstack := ha.known.not_cleanstack
  witness := ha.witness
  input := ⟨rfl, ha.index, input, hinput, rfl, rfl⟩
  taproot := by
    intro h17
    have h17 : Has flags 17 := h17
    have hlen := ha.spent.resolve_left fun h0 =>
      ha.taproot h17 (List.eq_nil_of_length_eq_zero h0)
    simp [expectedCall, h17, hlen]

/-- No assertion of `VerifyScript` fails on a guarded call. -/
theorem verifyScript_of_guarded {script : CScript} {amount : Int64}
    {call : ScriptCall core.CTransaction}
    (hg : Guarded core script amount tx spentOutputs inputIndex flags call) :
    verifyScript core call = core.evalScript call := by
  have hclean : ¬ call.flags &&& SCRIPT_VERIFY_CLEANSTACK ≠ 0 := fun h =>
    hg.cleanstack (and_cleanstack.mp h)
  rw [verifyScript, if_neg (fun h => hclean h.1), if_neg]
  rintro ⟨hw, hp⟩
  exact and_p2sh.mpr (hg.witness (and_witness.mp hw)) hp

/-! ## `BtcK_ScriptPubkey_Verify` -/

theorem verifyBody_eq {alloc : Nat → Bool} (halloc : alloc 0 = true) (script : CScript)
    (amount : Int64) (tx : core.CTransaction) (spentOutputs : List CTxOut)
    (inputIndex flags : UInt32) :
    ScriptPubkey.verifyBody core alloc (some script) amount (some tx) (spentOutputs.map some)
        inputIndex flags
      = (fun result => if result then 1 else 0) <$>
        verify core script amount tx spentOutputs inputIndex flags := by
  unfold ScriptPubkey.verifyBody
  rw [getAll_some]
  simp only [Api.get, Outcome.returns_bind, halloc, allocate_true]
  cases verify core script amount tx spentOutputs inputIndex flags <;> rfl

/-- The record that reports a rejection. -/
def VerificationError.report (e : VerificationError) : Report where
  code := Int32.ofNat e.value.toNat
  domain := utf8 "VerificationError"
  message := utf8 (VerificationError.message e.value)

end

/--
**The interpreter runs only inside its own preconditions, and every other input is reported.**
`VerifyScript` is reached exactly for admitted arguments, with a guarded call that is the one they
ask for, and its verdict is returned; for all others the call returns 0 and `*err` names the first
check that failed.
-/
theorem verify_guarded (core : BitcoinCore) (alloc : Nat → Bool) (h : Memory)
    (halloc : ∀ k, alloc k = true) (hrecord : complete h.schedule = true)
    (heval : ∀ call, ∃ verdict, core.evalScript call = .returns verdict)
    (script : CScript) (amount : Int64) (tx : core.CTransaction) (spentOutputs : List CTxOut)
    (inputIndex flags : UInt32) :
    ((∃ call, prepare core script amount tx spentOutputs inputIndex flags = .returns call) ↔
      Admitted core tx spentOutputs inputIndex flags) ∧
    (∀ call, prepare core script amount tx spentOutputs inputIndex flags = .returns call →
      Guarded core script amount tx spentOutputs inputIndex flags call ∧
        ∃ verdict, core.evalScript call = .returns verdict ∧
          ∀ {ε : Type}, (ScriptPubkey.verify core alloc (some script) amount (some tx)
            (spentOutputs.map some) inputIndex flags true : Prog Memory ε _) h
              = (.returns (if verdict then 1 else 0, none), h)) ∧
    (¬ Admitted core tx spentOutputs inputIndex flags →
      ∃ e p h', Rejected core tx spentOutputs inputIndex flags e ∧
        (∀ {ε : Type}, (ScriptPubkey.verify core alloc (some script) amount (some tx)
          (spentOutputs.map some) inputIndex flags true : Prog Memory ε _) h
            = (.returns (0, some p), h')) ∧
        Holds h h' p e.report) := by
  have hbody := verifyBody_eq (halloc 0) script amount tx spentOutputs inputIndex flags
  rcases prepare_cases script amount tx spentOutputs inputIndex flags with
    ⟨ha, input, hinput, hp⟩ | ⟨e, hr, hp⟩
  · have hg := guarded_expectedCall script amount ha hinput
    refine ⟨⟨fun _ => ha, fun _ => ⟨_, hp⟩⟩, ?_, fun hna => absurd ha hna⟩
    intro call hcall
    obtain rfl : _ = call := Outcome.returns.inj (hp.symm.trans hcall)
    obtain ⟨verdict, hv⟩ := heval (expectedCall core script amount tx spentOutputs inputIndex
      flags input)
    refine ⟨hg, verdict, hv, ?_⟩
    intro ε
    rw [ScriptPubkey.verify, hbody, verify, hp, Outcome.returns_bind, verifyScript_of_guarded hg,
      hv]
    rfl
  · refine ⟨⟨?_, fun ha => absurd ha hr.not_admitted⟩, ?_, fun _ => ?_⟩
    · rintro ⟨call, hcall⟩
      rw [hp] at hcall
      simp at hcall
    · intro call hcall
      rw [hp] at hcall
      simp at hcall
    · obtain ⟨p, h', hrun, hholds⟩ := wrapFn_throws Int32 h e.exception
      rw [hrecord] at hholds
      refine ⟨e, p, h', hr, ?_, hholds⟩
      intro ε
      rw [ScriptPubkey.verify, hbody, verify, hp]
      exact hrun

/--
All flags and the one spent output, for a script that is `OP_TRUE`, reach the interpreter; the
unknown flag 2 does not.
-/
theorem verify_guarded_opTrue :
    (∃ call, prepare minimalCore [0x51] 0 .spend [{ nValue := 0, scriptPubKey := [] }] 0
        VerificationFlags.ALL = .returns call ∧
      Guarded minimalCore [0x51] 0 .spend [{ nValue := 0, scriptPubKey := [] }] 0
        VerificationFlags.ALL call) ∧
    ∃ e p h', Rejected minimalCore .spend [] 0 2 e ∧
      (ScriptPubkey.verify minimalCore (fun _ => true) (some [0x51]) 0 (some .spend) [] 0 2 true :
        Prog Memory Exception _) (Heap.empty []) = (.returns (0, some p), h') ∧
      Holds (Heap.empty []) h' p e.report := by
  have hall := verify_guarded minimalCore (fun _ => true) (Heap.empty []) (fun _ => rfl) rfl
    (fun call => ⟨_, rfl⟩) [0x51] 0 .spend
  constructor
  · obtain ⟨-, hreach, -⟩ := hall [{ nValue := 0, scriptPubKey := [] }] 0 VerificationFlags.ALL
    exact ⟨_, rfl, (hreach _ rfl).1⟩
  · obtain ⟨-, -, hreject⟩ := hall [] 0 2
    have hna : ¬ Admitted minimalCore .spend [] 0 2 := by
      intro ha
      exact absurd (ha.known 1 (by decide)) (by decide)
    obtain ⟨e, p, h', hr, hrun, hp⟩ := hreject hna
    exact ⟨e, p, h', hr, hrun, hp⟩

end Btck
