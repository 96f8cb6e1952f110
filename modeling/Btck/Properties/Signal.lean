import Btck.Properties.Chain
import Btck.Properties.Verify

/-!
# Telling failure from success without an error object

A caller may pass a null `err` and go by the returned value alone. That works when the value
of a failing call is never the value of a successful one. `util::WrapFn` answers every failure
with the default value of the return type, so the question is whether a success can return it.

* `ErrorFunction` — the functions that take a `BtcK_Error**`
* `Signals` — the value alone tells how the call ended
* `signals_iff` — all of them signal, but `BtcK_ScriptPubkey_Verify` only with an interpreter that
  never rejects
-/

namespace Btck

open Infra

/-- A function that is a body under `util::WrapFn`. -/
structure Fallible where
  Input : Type
  Ret : Type
  inhabited : Inhabited Ret
  body : Input → Outcome Exception Ret
  call : Input → Bool → Prog Memory Empty (Ret × Option ErrorPtr)
  call_eq : ∀ input err, call input err = wrapFn err (body input)

instance (f : Fallible) : Inhabited f.Ret := f.inhabited

/-- What the value of a call says. -/
structure Signals (f : Fallible) : Prop where
  /-- The value is the same with and without an error object. -/
  same : ∀ input h, (∀ u, f.body input ≠ .faults u) → ∃ value e h',
    f.call input true h = (.returns (value, e), h') ∧
    f.call input false h = (.returns (value, none), h)
  /-- The value of a failing call is not the value of a successful one. -/
  distinct : ∀ bad good exc r, f.body bad = .throws exc → f.body good = .returns r →
    ∀ err h value e h', f.call bad err h = (.returns (value, e), h') → value ≠ r

/-- A failing call returns the default value, so it is enough to know the values of success. -/
theorem signals_iff_default (f : Fallible) : Signals f ↔
    ∀ bad good exc, f.body bad = .throws exc → f.body good ≠ .returns default := by
  have hfail : ∀ {bad exc}, f.body bad = .throws exc → ∀ err h, ∃ e h',
      f.call bad err h = (.returns (default, e), h') := by
    intro bad exc hbad err h
    obtain ⟨e, h', hrun, -⟩ := wrapFn_value (ε := Empty) err h
      (show ∀ u, f.body bad ≠ .faults u by simp [hbad])
    rw [hbad] at hrun
    refine ⟨e, h', ?_⟩
    rw [f.call_eq, hbad]
    exact hrun
  constructor
  · intro hs bad good exc hbad hgood
    obtain ⟨e, h', hrun⟩ := hfail hbad false (Heap.empty [])
    exact hs.distinct bad good exc _ hbad hgood false _ _ e h' hrun rfl
  · intro hne
    refine ⟨?_, ?_⟩
    · intro input h hbody
      obtain ⟨e, h', hrun, -⟩ := wrapFn_value (ε := Empty) true h hbody
      obtain ⟨e₀, h₀, hrun₀, hnone⟩ := wrapFn_value (ε := Empty) false h hbody
      refine ⟨_, e, h', by rw [f.call_eq]; exact hrun, ?_⟩
      rw [f.call_eq]
      cases hb : f.body input with
      | returns r => rfl
      | throws exc => rfl
      | faults u => exact absurd hb (hbody u)
    · -- both calls would return the default
      rintro bad good exc r hbad hgood err h value e h' hrun rfl
      obtain ⟨e', h'', hdef⟩ := hfail hbad err h
      obtain rfl : value = default :=
        congrArg Prod.fst (Outcome.returns.inj (congrArg Prod.fst (hrun.symm.trans hdef)))
      exact hne bad good exc hbad hgood

/-! ## The functions -/

/-- The arguments of `BtcK_ScriptPubkey_Verify`, with the allocations it makes. -/
structure VerifyArgs (core : BitcoinCore) where
  alloc : Nat → Bool
  scriptPubkey : Option CScript
  amount : Int64
  tx : Option core.CTransaction
  spentOutputs : List (Option CTxOut)
  inputIndex : UInt32
  flags : UInt32

/-- The functions that take a `BtcK_Error**`. -/
inductive ErrorFunction where
  | scriptPubkeyNew
  | transactionOutputNew
  | transactionNew
  | blockNew
  | scriptPubkeyCopy
  | transactionOutputCopy
  | transactionCopy
  | blockCopy
  | chainGetBlock
  | scriptPubkeyVerify
  deriving DecidableEq, Repr

section

variable (core : BitcoinCore) (chain : ChainstateManager core)

/-- Each function with its body, over the chain state that `GetBlock` reads. -/
def ErrorFunction.fallible : ErrorFunction → Fallible
  | scriptPubkeyNew =>
    { Input := (Nat → Bool) × Bytes, Ret := Option CScript, inhabited := ⟨none⟩
      body := fun (alloc, raw) => ScriptPubkey.newBody alloc raw
      call := fun (alloc, raw) err => ScriptPubkey.new alloc raw err
      call_eq := fun _ _ => rfl }
  | transactionOutputNew =>
    { Input := (Nat → Bool) × Int64 × Option CScript, Ret := Option CTxOut, inhabited := ⟨none⟩
      body := fun (alloc, amount, script) => TransactionOutput.newBody alloc amount script
      call := fun (alloc, amount, script) err => TransactionOutput.new alloc amount script err
      call_eq := fun _ _ => rfl }
  | transactionNew =>
    { Input := (Nat → Bool) × Bytes, Ret := Option core.CTransaction, inhabited := ⟨none⟩
      body := fun (alloc, raw) => Transaction.newBody core alloc raw
      call := fun (alloc, raw) err => Transaction.new core alloc raw err
      call_eq := fun _ _ => rfl }
  | blockNew =>
    { Input := (Nat → Bool) × Bytes, Ret := Option core.CBlock, inhabited := ⟨none⟩
      body := fun (alloc, raw) => Block.newBody core alloc raw
      call := fun (alloc, raw) err => Block.new core alloc raw err
      call_eq := fun _ _ => rfl }
  | scriptPubkeyCopy =>
    { Input := Bool × Option CScript, Ret := Option CScript, inhabited := ⟨none⟩
      body := fun (ok, self) => Api.copyBody ok self
      call := fun (ok, self) err => ScriptPubkey.copy ok self err
      call_eq := fun _ _ => rfl }
  | transactionOutputCopy =>
    { Input := Bool × Option CTxOut, Ret := Option CTxOut, inhabited := ⟨none⟩
      body := fun (ok, self) => Api.copyBody ok self
      call := fun (ok, self) err => TransactionOutput.copy ok self err
      call_eq := fun _ _ => rfl }
  | transactionCopy =>
    { Input := Bool × Option core.CTransaction, Ret := Option core.CTransaction
      inhabited := ⟨none⟩
      body := fun (ok, self) => Api.copyBody ok self
      call := fun (ok, self) err => Transaction.copy core ok self err
      call_eq := fun _ _ => rfl }
  | blockCopy =>
    { Input := Bool × Option core.CBlock, Ret := Option core.CBlock, inhabited := ⟨none⟩
      body := fun (ok, self) => Api.copyBody ok self
      call := fun (ok, self) err => Block.copy core ok self err
      call_eq := fun _ _ => rfl }
  | chainGetBlock =>
    { Input := (Nat → Bool) × UInt64, Ret := Option core.CBlock, inhabited := ⟨none⟩
      body := fun (alloc, idx) => Chain.getBlockBody chain alloc idx
      call := fun (alloc, idx) err => Chain.getBlock chain alloc idx err
      call_eq := fun _ _ => rfl }
  | scriptPubkeyVerify =>
    { Input := VerifyArgs core, Ret := Int32, inhabited := ⟨0⟩
      body := fun a => ScriptPubkey.verifyBody core a.alloc a.scriptPubkey a.amount a.tx
        a.spentOutputs a.inputIndex a.flags
      call := fun a err => ScriptPubkey.verify core a.alloc a.scriptPubkey a.amount a.tx
        a.spentOutputs a.inputIndex a.flags err
      call_eq := fun _ _ => rfl }

/-! ## What success returns -/

variable {core chain}

theorem newBody_ne_null (alloc : Nat → Bool) (amount : Int64) (script : Option CScript) :
    TransactionOutput.newBody alloc amount script ≠ .returns none := by
  cases script with
  | none => simp [TransactionOutput.newBody, Api.get]
  | some s =>
    intro h
    obtain ⟨-, hp⟩ := Api.create_eq_returns.mp h
    simp at hp

theorem copyBody_ne_null {α : Type} (ok : Bool) (self : Option α) :
    Api.copyBody ok self ≠ .returns none := by
  intro h
  obtain ⟨-, hp, hself⟩ := Api.copyBody_eq_returns.mp h
  exact hself hp.symm

theorem getBlockBody_ne_null (alloc : Nat → Bool) (idx : UInt64) :
    Chain.getBlockBody chain alloc idx ≠ .returns none := by
  unfold Chain.getBlockBody
  split
  · simp
  · split
    · simp
    · intro h
      obtain ⟨-, hp⟩ := Api.create_eq_returns.mp h
      simp at hp

/-- A pointer that a successful call returns is not null. -/
theorem ErrorFunction.success_ne_null {f : ErrorFunction} (hf : f ≠ scriptPubkeyVerify)
    (good : (f.fallible core chain).Input) :
    (f.fallible core chain).body good ≠ .returns default := by
  cases f with
  | scriptPubkeyVerify => exact absurd rfl hf
  | scriptPubkeyNew =>
    intro h
    obtain ⟨-, hp⟩ := ScriptPubkey.newBody_eq_returns.mp h
    exact Option.some_ne_none _ hp.symm
  | transactionOutputNew => exact newBody_ne_null _ _ _
  | transactionNew =>
    intro h
    obtain ⟨-, tx, rest, -, hp⟩ := Transaction.newBody_eq_returns.mp h
    exact Option.some_ne_none _ hp.symm
  | blockNew =>
    intro h
    obtain ⟨-, block, rest, -, hp⟩ := Block.newBody_eq_returns.mp h
    exact Option.some_ne_none _ hp.symm
  | scriptPubkeyCopy => exact copyBody_ne_null _ _
  | transactionOutputCopy => exact copyBody_ne_null _ _
  | transactionCopy => exact copyBody_ne_null _ _
  | blockCopy => exact copyBody_ne_null _ _
  | chainGetBlock => exact getBlockBody_ne_null _ _

/-! ## `BtcK_ScriptPubkey_Verify` -/

/-- The arguments pass the guard, and the interpreter rejects the script. -/
def RejectedByScript (core : BitcoinCore) (a : VerifyArgs core) : Prop :=
  ∃ script tx spentOutputs input, a.alloc 0 = true ∧ a.scriptPubkey = some script ∧
    a.tx = some tx ∧ a.spentOutputs = spentOutputs.map some ∧
    Admitted core tx spentOutputs a.inputIndex a.flags ∧
    (core.vin tx).toList[a.inputIndex.toNat]? = some input ∧
    core.evalScript
      (expectedCall core script a.amount tx spentOutputs a.inputIndex a.flags input)
        = .returns false

theorem getAll_eq_returns {α : Type} : ∀ {ps : List (Option α)} {xs : List α},
    getAll ps = .returns xs → ps = xs.map some
  | [], xs, h => by
    obtain rfl : [] = xs := by simpa [getAll] using h
    rfl
  | none :: ps, xs, h => by simp [getAll, Api.get] at h
  | some p :: ps, xs, h => by
    obtain ⟨ys, hys, hxs⟩ := Outcome.bind_eq_returns.mp
      (show (getAll ps >>= fun ys => Outcome.returns (p :: ys)) = .returns xs from h)
    obtain rfl : p :: ys = xs := by simpa using hxs
    rw [getAll_eq_returns hys, List.map_cons]

/-- What a successful call has found out on the way. -/
theorem verifyBody_eq_returns {a : VerifyArgs core} {r : Int32}
    (h : ScriptPubkey.verifyBody core a.alloc a.scriptPubkey a.amount a.tx a.spentOutputs
      a.inputIndex a.flags = .returns r) :
    ∃ script tx spentOutputs verdict, a.alloc 0 = true ∧ a.scriptPubkey = some script ∧
      a.tx = some tx ∧ a.spentOutputs = spentOutputs.map some ∧
      verify core script a.amount tx spentOutputs a.inputIndex a.flags = .returns verdict ∧
      r = if verdict then 1 else 0 := by
  unfold ScriptPubkey.verifyBody at h
  simp only [Outcome.bind_eq_returns, allocate_eq_returns] at h
  obtain ⟨script, hs, tx, ht, outputs, ho, _, ⟨hok, rfl⟩, verdict, hv, hr⟩ := h
  refine ⟨script, tx, outputs, verdict, hok, ?_, ?_, getAll_eq_returns ho, hv, ?_⟩
  · cases hsp : a.scriptPubkey <;> simp [hsp, Api.get] at hs ⊢
    exact hs
  · cases htx : a.tx <;> simp [htx, Api.get] at ht ⊢
    exact ht
  · exact (Outcome.returns.inj hr).symm

theorem verifyBody_eq_zero_iff {a : VerifyArgs core} :
    ScriptPubkey.verifyBody core a.alloc a.scriptPubkey a.amount a.tx a.spentOutputs
      a.inputIndex a.flags = .returns 0 ↔ RejectedByScript core a := by
  constructor
  · intro h
    obtain ⟨script, tx, spent, verdict, hok, hs, ht, ho, hv, hr⟩ := verifyBody_eq_returns h
    rcases prepare_cases script a.amount tx spent a.inputIndex a.flags with
      ⟨ha, input, hinput, hp⟩ | ⟨e, -, hp⟩
    · rw [verify, hp, Outcome.returns_bind,
        verifyScript_of_guarded (guarded_expectedCall script a.amount ha hinput)] at hv
      cases verdict with
      | true => exact absurd hr (by decide)
      | false => exact ⟨script, tx, spent, input, hok, hs, ht, ho, ha, hinput, hv⟩
    · -- a failed check throws, and that is no value of the body
      rw [verify, hp] at hv
      simp at hv
  · rintro ⟨script, tx, spent, input, hok, hs, ht, ho, ha, hinput, hv⟩
    rcases prepare_cases script a.amount tx spent a.inputIndex a.flags with
      ⟨-, input', hinput', hp⟩ | ⟨e, hr, -⟩
    · obtain rfl : input' = input := Option.some.inj (hinput'.symm.trans hinput)
      rw [hs, ht, ho, verifyBody_eq hok, verify, hp, Outcome.returns_bind,
        verifyScript_of_guarded (guarded_expectedCall script a.amount ha hinput), hv]
      rfl
    · exact absurd ha hr.not_admitted

/-- Whatever the other arguments are, an unknown flag makes the call fail. -/
theorem verifyBody_of_not_known {alloc : Nat → Bool} (hok : alloc 0 = true) (script : CScript)
    (amount : Int64) (tx : core.CTransaction) (spentOutputs : List CTxOut)
    (inputIndex flags : UInt32) (hflags : ¬ Known flags) :
    ScriptPubkey.verifyBody core alloc (some script) amount (some tx) (spentOutputs.map some)
      inputIndex flags = .throws VerificationError.invalidFlags.exception := by
  rw [verifyBody_eq hok, verify, prepare]
  simp only [if_pos (fun hz => hflags (known_iff.mp hz))]
  rfl

end

/--
**A failing call is told from a successful one by its value, except for
`BtcK_ScriptPubkey_Verify`**, which returns 0 for a call that failed and for a script that the
interpreter rejects.
-/
theorem signals_iff (core : BitcoinCore) (chain : ChainstateManager core) (f : ErrorFunction) :
    Signals (f.fallible core chain) ↔
      ¬ (f = .scriptPubkeyVerify ∧ ∃ a, RejectedByScript core a) := by
  rw [signals_iff_default]
  constructor
  · rintro hs ⟨rfl, a, hrej⟩
    have hzero := verifyBody_eq_zero_iff.mpr hrej
    obtain ⟨script, tx, spent, input, hok, hsp, htx, ho, -⟩ := hrej
    have hbad := verifyBody_of_not_known hok script a.amount tx spent a.inputIndex 2
      (fun hk => absurd (hk 1 (by decide)) (by decide))
    rw [← hsp, ← htx, ← ho] at hbad
    exact hs { a with flags := 2 } a _ hbad hzero
  · intro hcond bad good exc _ hgood
    by_cases hf : f = .scriptPubkeyVerify
    · subst hf
      exact hcond ⟨rfl, good, verifyBody_eq_zero_iff.mp hgood⟩
    · exact ErrorFunction.success_ne_null hf good hgood

/--
**Zero for both**: the empty script is rejected, and the unknown flag 2 is an error; without an
error object the two calls look the same.
-/
theorem verify_zero_for_both :
    (ScriptPubkey.verify minimalCore (fun _ => true) (some []) 0 (some .spend) [] 0 0 false :
      Prog Memory Empty _) (Heap.empty []) = (.returns (0, none), Heap.empty []) ∧
    (ScriptPubkey.verify minimalCore (fun _ => true) (some []) 0 (some .spend) [] 0 2 false :
      Prog Memory Empty _) (Heap.empty []) = (.returns (0, none), Heap.empty []) ∧
    ScriptPubkey.verifyBody minimalCore (fun _ => true) (some []) 0 (some .spend) [] 0 2
      = .throws VerificationError.invalidFlags.exception ∧
    ¬ Signals (ErrorFunction.scriptPubkeyVerify.fallible minimalCore soleBlock) := by
  refine ⟨rfl, rfl, rfl, ?_⟩
  intro hs
  exact hs.distinct ⟨fun _ => true, some [], 0, some .spend, [], 0, 2⟩
    ⟨fun _ => true, some [], 0, some .spend, [], 0, 0⟩ _ (0 : Int32) rfl rfl false
    (Heap.empty []) (0 : Int32) none (Heap.empty []) rfl rfl

end Btck
