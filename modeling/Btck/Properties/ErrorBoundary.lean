import Btck.Cpp.Invoke
import Btck.Python.Error
import Btck.Properties.ErrorRecord

/-!
# Errors across the C boundary

An exception is encoded as a record by the library and decoded by the client, and the two sides
share nothing but three values. This module follows every exception through every failure point.

* `translateError_of_reads`, `setError_of_holds` — the two decoders, from what the record reads as
* `errors_cross_boundary` — encoder and decoder together, with the ledger of the heap
-/

namespace Btck

open Infra Cpp

/-! ## The decoders as functions of the report -/

/-- The exception that `translate_error` makes of a report. -/
def Cpp.decode (r : Report) : Thrown :=
  if r.domain = utf8 "Memory" then .badAlloc
  else if r.domain = ErrorCategory.generic.name then .systemError r.code .generic
  else if r.domain = ErrorCategory.system.name then .systemError r.code .system
  else if r.domain = ErrorCategory.verificationError.name then
    .systemError r.code .verificationError
  else .runtimeError r.message

/-- The exception that `SetError` makes of a report. -/
def Python.decode (r : Report) : Python.PyErr :=
  if r.domain = utf8 "Memory" then ⟨.memoryError, none⟩
  else if r.domain = utf8 "VerificationError" then setString .verificationError r.message
  else setString .runtimeError r.message

section

variable {h h' : Memory} {p : ErrorPtr} {r : Report}

theorem readDomain_of_reads {ε : Type} (hp : Reads h p r) :
    (readDomain p : Prog Memory ε _) h = (.returns r.domain, h) := by
  obtain ⟨domain, message, -, hd, -, hds, -⟩ := hp
  rw [readDomain, Prog.bind_of_returns hd, hds]

theorem throwDomain_of_reads (hp : Reads h p r) (domain : ErrorCategory) :
    throwDomain p domain h =
      if r.domain = domain.name then (.throws (.systemError r.code domain), h)
      else (.returns (), h) := by
  rw [throwDomain, Prog.bind_of_returns (readDomain_of_reads hp)]
  obtain ⟨-, -, hc, -, -, -, -⟩ := hp
  by_cases hn : r.domain = domain.name
  · rw [if_pos hn, if_pos hn, Prog.bind_of_returns hc]
    rfl
  · rw [if_neg hn, if_neg hn]
    rfl

theorem translateError_of_reads {α : Type} (hp : Reads h p r) :
    (translateError p : Prog Memory Thrown α) h = (.throws (Cpp.decode r), h) := by
  rw [translateError, Prog.bind_of_returns (readDomain_of_reads hp), Cpp.decode]
  by_cases hm : r.domain = utf8 "Memory"
  · rw [if_pos hm, if_pos hm]
    rfl
  rw [if_neg hm, if_neg hm]
  have hthrow := throwDomain_of_reads hp
  by_cases hg : r.domain = ErrorCategory.generic.name
  · rw [if_pos hg, Prog.bind_of_throws (by rw [hthrow, if_pos hg])]
  rw [if_neg hg, Prog.bind_of_returns (by rw [hthrow, if_neg hg])]
  by_cases hs : r.domain = ErrorCategory.system.name
  · rw [if_pos hs, Prog.bind_of_throws (by rw [hthrow, if_pos hs])]
  rw [if_neg hs, Prog.bind_of_returns (by rw [hthrow, if_neg hs])]
  by_cases hv : r.domain = ErrorCategory.verificationError.name
  · rw [if_pos hv, Prog.bind_of_throws (by rw [hthrow, if_pos hv])]
  rw [if_neg hv, Prog.bind_of_returns (by rw [hthrow, if_neg hv])]
  obtain ⟨domain, message, -, -, hmp, -, hms⟩ := hp
  have hread : (Error.message p >>= CharPtr.str : Prog Memory Thrown _) h
      = (.returns r.message, h) := by
    rw [Prog.bind_of_returns hmp, hms]
  rw [Prog.bind_of_returns hread]
  rfl

theorem setError_of_holds {ε : Type} (hp : Holds h h' p r) :
    ∃ h'', (Python.setError p : Prog Memory ε _) h' = (.returns (Python.decode r), h'') ∧
      Heap.Restored h h'' := by
  obtain ⟨domain, message, hc, hd, hmp, hds, hms⟩ := hp.getters
  obtain ⟨h'', hfree, hr⟩ := hp.free
  have hend : ∀ exc : Python.PyErr,
      (do Error.free p; pure exc : Prog Memory ε Python.PyErr) h' = (.returns exc, h'') := by
    intro exc
    rw [Prog.bind_of_returns hfree]
    rfl
  refine ⟨h'', ?_, hr⟩
  rw [Python.setError, Prog.bind_of_returns hc, Prog.bind_of_returns hd, Prog.bind_of_returns hmp,
    Prog.bind_of_returns hds, Python.decode]
  by_cases hm : r.domain = utf8 "Memory"
  · rw [if_pos hm, if_pos hm]
    exact hend _
  rw [if_neg hm, if_neg hm]
  by_cases hv : r.domain = utf8 "VerificationError"
  · rw [if_pos hv, if_pos hv]
    exact (Prog.bind_of_returns hms _).trans (hend _)
  · rw [if_neg hv, if_neg hv]
    exact (Prog.bind_of_returns hms _).trans (hend _)

end

/-! ## `detail::invoke` around `util::WrapFn` -/

section

variable (Ret : Type) [Inhabited Ret]

theorem invoke_wrapFn_returns (h : Memory) (r : Ret) :
    invoke (fun err => wrapFn err (.returns r)) h = (.returns r, h) := rfl

theorem invoke_wrapFn_throws (h : Memory) (e : Exception) :
    ∃ h', invoke (fun err => wrapFn err (.throws e : Outcome Exception Ret)) h =
        (.throws (Cpp.decode (if complete h.schedule then e.report else oomReport)), h') ∧
      Heap.Restored h h' := by
  obtain ⟨p, h1, hrun, hp⟩ := wrapFn_throws Ret h e
  obtain ⟨h2, hfree, hr⟩ := hp.free
  refine ⟨h2, ?_, hr⟩
  rw [invoke, Prog.bind_of_returns hrun]
  refine Prog.andFinally_of_throws ?_ hfree
  show (if p ≠ .null then translateError p else pure default : Prog Memory Thrown Ret) h1 = _
  rw [if_pos hp.not_null]
  exact translateError_of_reads hp.getters

/-- The call that a Python method makes: the C function, then `SetError` on what it stored. -/
theorem setError_wrapFn_throws {ε : Type} (h : Memory) (e : Exception) :
    ∃ p h1 h2, (wrapFn true (.throws e : Outcome Exception Ret) : Prog Memory ε _) h
        = (.returns (default, some p), h1) ∧
      (Python.setError p : Prog Memory ε _) h1 =
        (.returns (Python.decode (if complete h.schedule then e.report else oomReport)), h2) ∧
      Heap.Restored h h2 := by
  obtain ⟨p, h1, hrun, hp⟩ := wrapFn_throws Ret h e
  obtain ⟨h2, hset, hr⟩ := setError_of_holds (ε := ε) hp
  exact ⟨p, h1, h2, hrun, hset, hr⟩

end

/-! ## What the client should see -/

/--
The exception that leaves `invoke` when the body threw. `recorded` says whether the record
could be allocated. The three known categories come back as they are. Any other category is
known to the decoder by its name alone, and its name may be taken.
-/
def Cpp.expected (recorded : Bool) (e : Exception) : Thrown :=
  if recorded then
    match e with
    | .badAlloc _ => .badAlloc
    | .systemError value .generic _ => .systemError value .generic
    | .systemError value .system _ => .systemError value .system
    | .systemError value .verificationError _ => .systemError value .verificationError
    | .systemError value (.other _ name) what =>
      if name = utf8 "Memory" then .badAlloc
      else if name = utf8 "generic" then .systemError value .generic
      else if name = utf8 "system" then .systemError value .system
      else if name = utf8 "VerificationError" then .systemError value .verificationError
      else .runtimeError what
    | .exception what => .runtimeError what
    | .unknown => .runtimeError (utf8 "Unknown exception")
  else .badAlloc

/-- The same, with categories told apart by identity: every other one is "every other case". -/
def Cpp.expectedByIdentity (recorded : Bool) (e : Exception) : Thrown :=
  match recorded, e with
  | true, .systemError _ (.other _ _) what => .runtimeError what
  | recorded, e => Cpp.expected recorded e

/--
The Python exception for the record of what the body threw. A text that is not valid UTF-8 is raised
as a `UnicodeDecodeError`.
-/
def Python.expected (recorded : Bool) (e : Exception) : Python.PyErr :=
  if recorded then
    match e with
    | .badAlloc _ => ⟨.memoryError, none⟩
    | .systemError _ category what =>
      if category.name = utf8 "Memory" then ⟨.memoryError, none⟩
      else if category.name = utf8 "VerificationError" then setString .verificationError what
      else setString .runtimeError what
    | .exception what => setString .runtimeError what
    | .unknown => ⟨.runtimeError, some "Unknown exception"⟩
  else ⟨.memoryError, none⟩

theorem Cpp.decode_report (recorded : Bool) (e : Exception) :
    Cpp.decode (if recorded then e.report else oomReport) = Cpp.expected recorded e := by
  cases recorded with
  | false => simp [Cpp.decode, Cpp.expected, oomReport]
  | true =>
    cases e with
    | systemError value category what =>
      cases category <;>
        simp [Cpp.decode, Cpp.expected, Exception.report, ErrorCategory.name]
    | badAlloc what => simp [Cpp.decode, Cpp.expected, Exception.report]
    | exception what => simp [Cpp.decode, Cpp.expected, Exception.report, ErrorCategory.name]
    | unknown => simp [Cpp.decode, Cpp.expected, Exception.report, ErrorCategory.name]

theorem Python.decode_report (recorded : Bool) (e : Exception) :
    Python.decode (if recorded then e.report else oomReport) = Python.expected recorded e := by
  cases recorded with
  | false => simp [Python.decode, Python.expected, oomReport]
  | true => cases e <;> simp [Python.decode, Python.expected, Exception.report]

/-! ## The ledger -/

/--
Everything that was allocated between `h` and `h'` has been freed exactly once, and no older
block was touched.
-/
structure Released (h h' : Memory) : Prop where
  live : h'.cell = h.cell
  once : ∀ n, h.next ≤ n → n < h'.next → h'.freed.count n = 1
  older : ∀ n, n < h.next → h'.freed.count n = h.freed.count n

theorem released_of_restored {h h' : Memory} (hr : Heap.Restored h h') : Released h h' where
  live := hr.cell_eq
  once := fun _ h1 h2 => Heap.freed_once hr h1 h2
  older := fun _ h1 => Heap.freed_before hr h1

/--
The exception `e` of a body comes out of `invoke` as `thrown` and out of `SetError` as `raised`,
and both leave a clean ledger. Neither faults: no null string is read, nothing is freed twice
and the static record is not freed at all.
-/
structure Survives (Ret : Type) [Inhabited Ret] (h : Memory) (e : Exception) (thrown : Thrown)
    (raised : Python.PyErr) : Prop where
  invoke : ∃ h', Cpp.invoke (fun err => wrapFn err (.throws e : Outcome Exception Ret)) h
    = (.throws thrown, h') ∧ Released h h'
  setError : ∃ p h1 h2, (wrapFn true (.throws e : Outcome Exception Ret) : Prog Memory Empty _) h
      = (.returns (default, some p), h1) ∧
    (Python.setError p : Prog Memory Empty _) h1 = (.returns raised, h2) ∧ Released h h2

/--
**Errors survive the C boundary.** A value that the body returns comes back as it is. An
exception comes back as `Cpp.expected` and `Python.expected` say, for every schedule of
allocation failures, and the ledger is clean.
-/
theorem errors_cross_boundary (Ret : Type) [Inhabited Ret] (h : Memory) :
    (∀ r : Ret, Cpp.invoke (fun err => wrapFn err (.returns r)) h = (.returns r, h)) ∧
    ∀ e, Survives Ret h e (Cpp.expected (complete h.schedule) e)
      (Python.expected (complete h.schedule) e) := by
  refine ⟨fun r => invoke_wrapFn_returns Ret h r, fun e => ⟨?_, ?_⟩⟩
  · obtain ⟨h', hrun, hr⟩ := invoke_wrapFn_throws Ret h e
    rw [Cpp.decode_report] at hrun
    exact ⟨h', hrun, released_of_restored hr⟩
  · obtain ⟨p, h1, h2, hrun, hset, hr⟩ := setError_wrapFn_throws Ret (ε := Empty) h e
    rw [Python.decode_report] at hset
    exact ⟨p, h1, h2, hrun, hset, released_of_restored hr⟩

/-- What `SetError` raises is determined. -/
theorem Survives.raised_eq {Ret : Type} [Inhabited Ret] {h : Memory} {e : Exception}
    {thrown : Thrown} {raised : Python.PyErr} (hs : Survives Ret h e thrown raised) :
    raised = Python.expected (complete h.schedule) e := by
  obtain ⟨p, h1, h2, hrun, hset, -⟩ := hs.setError
  obtain ⟨p', h1', h2', hrun', hset', -⟩ := setError_wrapFn_throws Ret (ε := Empty) h e
  obtain ⟨hout, rfl⟩ := Prod.mk.inj (hrun.symm.trans hrun')
  obtain rfl : p = p' := by simpa using hout
  rw [hset, Python.decode_report] at hset'
  exact Outcome.returns.inj (congrArg Prod.fst hset')

theorem Survives.thrown_eq {Ret : Type} [Inhabited Ret] {h : Memory} {e : Exception}
    {thrown : Thrown} {raised : Python.PyErr} (hs : Survives Ret h e thrown raised) :
    thrown = Cpp.expected (complete h.schedule) e := by
  obtain ⟨h', hrun, -⟩ := hs.invoke
  obtain ⟨h2, hrun2, -⟩ := invoke_wrapFn_throws Ret h e
  rw [hrun, Cpp.decode_report] at hrun2
  exact Outcome.throws.inj (congrArg Prod.fst hrun2)

/--
Two errors do not survive. A category named `Memory` that is not one of the three comes back as
`bad_alloc`, and Python cannot read a message that is not UTF-8.
-/
theorem two_errors_lost :
    ¬ Survives Int32 (Heap.empty []) (.systemError 5 (.other 0 (utf8 "Memory")) (utf8 "disk"))
      (Cpp.expectedByIdentity true (.systemError 5 (.other 0 (utf8 "Memory")) (utf8 "disk")))
      (Python.expected true (.systemError 5 (.other 0 (utf8 "Memory")) (utf8 "disk"))) ∧
    ∀ message, ¬ Survives Int32 (Heap.empty []) (.exception [0xE4]) (.runtimeError [0xE4])
      ⟨.runtimeError, message⟩ := by
  constructor
  · intro hs
    have hthrown := hs.thrown_eq
    rw [show complete (Heap.empty [] : Memory).schedule = true from rfl] at hthrown
    simp [Cpp.expected, Cpp.expectedByIdentity] at hthrown
  · intro message hs
    have hraised := congrArg Python.PyErr.type hs.raised_eq
    have htype : (Python.expected true (.exception [0xE4])).type = .unicodeDecodeError := by decide
    rw [show complete (Heap.empty [] : Memory).schedule = true from rfl, htype] at hraised
    cases hraised

end Btck
