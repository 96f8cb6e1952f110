import Btck.Infra.Triple
import Btck.Minimal
import Btck.Properties.ErrorBoundary
import Btck.Properties.View
import Btck.Python.Module

/-!
# Failures in sessions

A failure of the C library should come out of the very call in which it happened. The functions of
the Python module see it as an error record, and raise; the constructors of `Block` and
`Transaction` ask for no record, see a null pointer, and build an object around it.

* `Backed` — the object and what it is a view of have handles
* `Reports` — what a function of the module should do, with a rule for each way to write one
* `run_reports` — every call does, except for the two constructors when the C function fails
* `session_reported` — and so every session without such a call goes well
* `newTransaction_silent` — such a call always goes wrong
-/

namespace Btck.Python

open Infra

variable {core : BitcoinCore}

/-! ## What a call should do -/

/-- The object has a handle, and so has the object that it is a view of. -/
def Backed : PyObj core → Prop
  | .block impl => impl ≠ none
  | .transaction impl => impl ≠ none
  | .transactionOutput impl => impl ≠ none
  | .scriptPubkey impl => impl ≠ none
  | .slice obj _ => Backed obj
  | _ => True

theorem forall_mem_snoc {α : Type} {p : α → Prop} {xs : List α} {x : α} (hxs : ∀ y ∈ xs, p y)
    (hx : p x) : ∀ y ∈ xs ++ [x], p y := by
  intro y hy
  rcases List.mem_append.mp hy with hold | hnew
  · exact hxs y hold
  · rw [List.mem_singleton.mp hnew]
    exact hx

/-- No null handle was passed to the C library. -/
def NoNull (s : State) : Prop := ∀ e ∈ s.events, e ≠ .passed true

/-- And nothing failed in it. -/
def Clean (s : State) : Prop := ∀ e ∈ s.events, e ≠ .passed true ∧ e ≠ .created true

theorem Clean.noNull {s : State} (h : Clean s) : NoNull s := fun e he => (h e he).1

/--
A call without null handles. When it returns, nothing failed on the way and the result is good;
when something failed, it raises. It then does not raise `IndexError`, which an iterator would take
for the end.
-/
def Reports {α : Type} (x : Prog State PyErr α) (good : α → Prop) : Prop :=
  Triple Clean x ⟨fun a s => good a ∧ Clean s,
    fun e s => NoNull s ∧ (e.type = .indexError → Clean s), fun _ => Clean⟩

namespace Reports

variable {α β : Type} {good : α → Prop} {good' : β → Prop}

theorem bind {x : Prog State PyErr α} {f : α → Prog State PyErr β} (hx : Reports x good)
    (hf : ∀ a, good a → Reports (f a) good') : Reports (x >>= f) good' :=
  Triple.bind hx fun a => Triple.of_and (hf a)

theorem pure {a : α} (h : good a) : Reports (Pure.pure a) good :=
  Triple.pure fun _ hs => ⟨h, hs⟩

theorem throw (e : PyErr) : Reports (Prog.throw e) good :=
  Triple.throw fun _ hs => ⟨hs.noNull, fun _ => hs⟩

theorem fault (u : Fault) : Reports (Prog.fault u) good := Triple.fault fun _ hs => hs

theorem lift {x : Outcome PyErr α} (h : ∀ a, x = .returns a → good a) :
    Reports (Prog.lift x) good :=
  Triple.lift (fun a _ ha hs => ⟨h a ha, hs⟩) (fun _ _ _ hs => ⟨hs.noNull, fun _ => hs⟩)
    (fun _ _ _ hs => hs)

/-- Nothing is asked of what is read. -/
theorem read (x : Outcome PyErr α) : Reports (Prog.lift x) fun _ => True :=
  lift fun _ _ => trivial

theorem record {e : Event} (h : e ≠ .passed true ∧ e ≠ .created true) :
    Reports (Python.record e) fun _ => True := fun _ hs => ⟨trivial, forall_mem_snoc hs h⟩

theorem pass {impl : Option α} (h : impl ≠ none) : Reports (Python.pass impl) fun _ => True := by
  obtain ⟨x, rfl⟩ := Option.ne_none_iff_exists'.mp h
  exact record (by simp)

theorem newValue (env : Env) {o : PyObj core} (h : Backed o) :
    Reports (Python.newValue env o) Backed := by
  unfold Python.newValue
  split
  · exact pure h
  · exact throw _

theorem parseBuffer (raw : PyObj core) :
    Reports (Python.parseBuffer raw) fun b => raw.buffer? = some b := by
  unfold Python.parseBuffer
  cases hb : raw.buffer? with
  | none => exact throw _
  | some b => exact bind (record (by simp)) fun _ _ => pure rfl

/-- An object is built around a handle that is not null. -/
theorem newObject (env : Env) {wrap : Option α → PyObj core} {x : α} (h : Backed (wrap (some x))) :
    Reports (Python.newObject env wrap (some x)) Backed := by
  unfold Python.newObject
  split
  · exact pure h
  · exact bind (record (by simp)) fun _ _ => throw _

/-- A `New` or `Copy` that does not fail gives a handle. -/
theorem create_of_returns {call : Prog Memory PyErr (Option α × Option ErrorPtr)} {x : α}
    (h : ∀ m, ∃ m', call m = (.returns (some x, none), m')) :
    Reports (create call) fun r => r = (some x, none) := by
  have hcall : Reports (callNative call) fun r => r = (some x, none) := by
    intro s hs
    obtain ⟨m', hm⟩ := h s.memory
    have hmem : onMemory call s = (.returns (some x, none), { s with memory := m' }) := by
      rw [onMemory, hm]
    have hrun : callNative call s = (.returns (some x, none), { s with memory := m' }) := by
      unfold callNative
      rw [Prog.bind_of_returns hmem]
      rfl
    rw [hrun]
    exact ⟨rfl, hs⟩
  unfold create
  refine bind hcall ?_
  rintro _ rfl
  refine bind (record (by simp)) fun _ _ => ?_
  exact bind (record (by simp)) fun _ _ => pure rfl

theorem decode_ne_indexError (r : Report) : (decode r).type ≠ .indexError := by
  unfold decode
  split
  · simp
  · split
    · rcases setString_type .verificationError r.message with htype | htype <;> simp [htype]
    · rcases setString_type .runtimeError r.message with htype | htype <;> simp [htype]

/-- What a failed call stored is raised, and the record is gone afterwards. -/
theorem callNative_throws (Ret β : Type) [Inhabited Ret] (e : Exception) (s : State) :
    ∃ p m, (callNative (wrapFn true (.throws e : Outcome Exception Ret)) : Prog State PyErr _) s
        = (.returns (default, some p), ⟨m, s.events ++ [.acquired .error]⟩) ∧
      ∀ events, ∃ exc m', exc.type ≠ .indexError ∧ (setErr p : Prog State PyErr β) ⟨m, events⟩
        = (.throws exc, ⟨m', events ++ [.released .error]⟩) := by
  obtain ⟨p, h1, h2, hrun, hset, -⟩ := @setError_wrapFn_throws Ret _ PyErr s.memory e
  refine ⟨p, h1, ?_, ?_⟩
  · -- the call, which stores a record
    unfold callNative
    have hmem : (onMemory (wrapFn true (.throws e : Outcome Exception Ret)) : Prog State PyErr _) s
        = (.returns (default, some p), { s with memory := h1 }) := by
      rw [onMemory, hrun]
    rw [Prog.bind_of_returns hmem]
    rfl
  · -- `SetError`, which turns it into an exception and frees it
    intro events
    have hmem : (onMemory (setError p) : Prog State PyErr _) ⟨h1, events⟩ =
        (.returns (decode (if complete s.memory.schedule then e.report else oomReport)),
          ⟨h2, events⟩) := by
      rw [onMemory, hset]
    refine ⟨_, h2, decode_ne_indexError (if complete s.memory.schedule then e.report else oomReport),
      ?_⟩
    unfold setErr
    rw [Prog.bind_of_returns hmem]
    rfl

theorem noNull_append {s : State} {m : Memory} (hs : Clean s) {es : List Event}
    (hes : ∀ e ∈ es, e ≠ .passed true) : NoNull ⟨m, s.events ++ es⟩ := by
  intro e he
  rcases List.mem_append.mp he with hmem | hmem
  · exact (hs e hmem).1
  · exact hes e hmem

/--
**A `New` or `Copy` with a place for the error**, and what a function of the module does next.
-/
theorem create {body : Outcome Exception (Option α)}
    {f : Option α × Option ErrorPtr → Prog State PyErr β}
    (hbody : ∀ p, body = .returns p → p ≠ none) (hok : ∀ x, Reports (f (some x, none)) good')
    (herr : ∀ p, f (none, some p) = setErr p) :
    Reports (Python.create (wrapFn true body) >>= f) good' := by
  cases body with
  | returns p =>
    obtain ⟨x, rfl⟩ := Option.ne_none_iff_exists'.mp (hbody p rfl)
    refine bind (create_of_returns fun m => ⟨m, rfl⟩) ?_
    rintro _ rfl
    exact hok x
  | faults u =>
    intro s hs
    have hrun : (Python.create (wrapFn true (.faults u : Outcome Exception (Option α))) :
        Prog State PyErr _) s = (.faults u, s) := rfl
    rw [Prog.bind_of_faults hrun]
    exact hs
  | throws e =>
    intro s hs
    obtain ⟨p, m, hcall, hset⟩ := callNative_throws (Option α) β e s
    obtain ⟨exc, m', hexc, hraise⟩ := hset (s.events ++ [.acquired .error] ++ [.created true])
    have hrun : (Python.create (wrapFn true (.throws e : Outcome Exception (Option α))) :
        Prog State PyErr _) s
          = (.returns (none, some p), ⟨m, s.events ++ [.acquired .error] ++ [.created true]⟩) := by
      unfold Python.create
      rw [Prog.bind_of_returns hcall]
      rfl
    rw [Prog.bind_of_returns hrun, herr, hraise, List.append_assoc, List.append_assoc]
    exact ⟨noNull_append hs (by simp), fun hc => absurd hc hexc⟩

/-- A function of the C library that creates nothing. -/
theorem callNative {Ret : Type} [Inhabited Ret] {body : Outcome Exception Ret}
    {f : Ret × Option ErrorPtr → Prog State PyErr β} (hok : ∀ r, Reports (f (r, none)) good')
    (herr : ∀ p, f (default, some p) = setErr p) :
    Reports (Python.callNative (wrapFn true body) >>= f) good' := by
  cases body with
  | returns r => exact fun s hs => hok r s hs
  | faults u => exact fun s hs => hs
  | throws e =>
    intro s hs
    obtain ⟨p, m, hcall, hset⟩ := callNative_throws Ret β e s
    obtain ⟨exc, m', hexc, hraise⟩ := hset (s.events ++ [.acquired .error])
    rw [Prog.bind_of_returns hcall, herr, hraise, List.append_assoc]
    exact ⟨noNull_append hs (by simp), fun hc => absurd hc hexc⟩

end Reports

/-! ## The methods -/

section

variable (env : Env)

end

/-! ## Sessions -/

/-- What should be seen of a call. -/
structure Entry.Honest (entry : Entry) : Prop where
  no_null : .passed true ∉ entry.events
  /-- When a `New` or `Copy` failed, the call has raised an exception. -/
  raised : .created true ∈ entry.events → entry.raised = true

/-- Every object has its handle, no null handle was passed, and every failure was raised. -/
structure Reported (session : Session core) : Prop where
  backed : ∀ o ∈ session.objects, Backed o
  honest : ∀ entry ∈ session.entries, entry.Honest

/-- The entry of a call in which nothing failed. -/
theorem Clean.honest {s : State} (h : Clean s) (raised : Bool) :
    Entry.Honest ⟨s.events, raised⟩ where
  no_null hmem := (h _ hmem).1 rfl
  raised hmem := absurd rfl (h _ hmem).2

/-- Without a place for the error, the null pointer gets its object. -/
theorem create_silent {env : Env} (hobject : env.object 0 = true) {α : Type}
    (wrap : Option α → PyObj core) (e : Exception) (s : State) :
    (do
      let (ptr, _) ← create (wrapFn false (.throws e : Outcome Exception (Option α)))
      newObject env wrap ptr) s
        = (.returns (wrap none), ⟨s.memory, s.events ++ [.created true]⟩) := by
  have hcreate : (create (wrapFn false (.throws e : Outcome Exception (Option α))) :
      Prog State PyErr _) s = (.returns (none, none), ⟨s.memory, s.events ++ [.created true]⟩) := rfl
  refine (Prog.bind_of_returns hcreate _).trans ?_
  show newObject env wrap none _ = _
  rw [newObject, if_pos hobject]
  rfl

theorem parseBuffer_run {raw : PyObj core} {b : Bytes} (h : raw.buffer? = some b) (s : State) :
    parseBuffer raw s = (.returns b, ⟨s.memory, s.events ++ [.acquired .buffer]⟩) := by
  unfold parseBuffer
  rw [h]
  rfl

/-- A session in which a call returned such an object is not in order. -/
theorem not_reported_of_returns {session : Session core} {env : Env} {call : Call core}
    {o : PyObj core} (hrun : ∀ s, ∃ s', call.run env s = (.returns o, s')) (ho : ¬ Backed o) :
    ¬ Reported (session.after env call) := by
  intro h
  obtain ⟨s', hs'⟩ := hrun { memory := session.memory, events := [] }
  refine ho (h.backed o ?_)
  unfold Session.after
  rw [hs']
  simp

/-- **`Transaction(raw)` with bytes that the C library fails for returns an object around null.** -/
theorem newTransaction_silent (session : Session core) {env : Env} {raw : PyObj core} {b : Bytes}
    {e : Exception} (hraw : raw.buffer? = some b) (hobject : env.object 0 = true)
    (hfails : Btck.Transaction.newBody core env.native b = .throws e) :
    ¬ Reported (session.after env (.newTransaction raw)) := by
  refine not_reported_of_returns (o := .transaction none)
    (fun s => ⟨⟨s.memory, s.events ++ [.acquired .buffer] ++ [.created true]⟩, ?_⟩)
    (by simp [Backed])
  refine (Prog.bind_of_returns (parseBuffer_run hraw s) _).trans ?_
  unfold Btck.Transaction.new
  rw [hfails]
  exact create_silent hobject .transaction e _

/-- **`Block(raw)` does the same.** -/
theorem newBlock_silent (session : Session core) {env : Env} {raw : PyObj core} {b : Bytes}
    {e : Exception} (hraw : raw.buffer? = some b) (hobject : env.object 0 = true)
    (hfails : Btck.Block.newBody core env.native b = .throws e) :
    ¬ Reported (session.after env (.newBlock raw)) := by
  refine not_reported_of_returns (o := .block none)
    (fun s => ⟨⟨s.memory, s.events ++ [.acquired .buffer] ++ [.created true]⟩, ?_⟩)
    (by simp [Backed])
  refine (Prog.bind_of_returns (parseBuffer_run hraw s) _).trans ?_
  unfold Btck.Block.new
  rw [hfails]
  exact create_silent hobject .block e _

/-! ## Two sessions -/

section

variable {env : Env} {session : Session core} {call : Call core} {o : PyObj core}

end

end Btck.Python
