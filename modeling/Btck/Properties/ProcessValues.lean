import Btck.Properties.ErrorRecord
import Btck.Properties.Process

/-!
# What Python objects stand for

The functions of the module do to objects in memory what `Btck.Python.Object` and the modules after
it say of values: they come to the same end, raise the same exception, or fault in the same way.

* `wrap`, `Is` — the value that a Python object is
* `Related`, `Makes` — memory and values side by side
* `method_simulates` — the methods of an object
-/

namespace Btck.Python

open Infra

variable {core : BitcoinCore}

/-! ## The value of an object -/

/-- The Python object around an object of the library. -/
def wrap : (k : Kind) → Option (Value core k) → PyObj core
  | .block, v => .block v
  | .transaction, v => .transaction v
  | .transactionOutput, v => .transactionOutput v
  | .scriptPubkey, v => .scriptPubkey v

namespace Process

/-- The value that an object is, with what it refers to. -/
inductive Is (s : Process core) : Nat → PyObj core → Prop where
  | object {n refcnt : Nat} {k : Kind} {impl : Option (Ptr k)} {v : Option (Value core k)}
      {o : PyObj core} (hn : s.objects.cell n = some ⟨.object k impl, refcnt⟩)
      (h : Stands s.native impl v) (ho : o = wrap k v) : Is s n o
  | slice {n refcnt obj : Nat} {words : SliceWords} {o : PyObj core}
      (hn : s.objects.cell n = some ⟨.slice obj words, refcnt⟩) (h : Is s obj o) :
      Is s n (.slice o words)

variable {held own : Multiset Nat} {s s' : Process core}

theorem stands_later {m m' : Native core} (hl : m.Later m') (hs : Btck.Sound m') {k : Kind}
    {impl : Option (Ptr k)} {v : Option (Value core k)} (h : Stands m impl v)
    (himpl : m'.Owned impl) : Stands m' impl v := by
  rcases impl with _ | p <;> rcases v with _ | v
  · trivial
  · exact h.elim
  · exact h.elim
  · obtain ⟨i, x, rfl, hi⟩ := himpl p rfl
    have halive : m'.Alive (.object i : Ptr k) := by
      show (m'.objects.cell i).isSome
      rw [hi]
      rfl
    exact value?_later hl hs h halive

/-- An object that is still there is what it was. -/
theorem Is.later {n : Nat} {o : PyObj core} (h : Is s n o) (hl : Later s s')
    (hs : Owned held own ∅ s') : (s'.objects.cell n).isSome → Is s' n o := by
  have hvalue : ∀ {n : Nat} {object : Counted Self}, s.objects.cell n = some object →
      (s'.objects.cell n).isSome → ∃ refcnt, s'.objects.cell n = some ⟨object.value, refcnt⟩ := by
    intro n object hn hlive
    have hsame := hl.objects.same n (Heap.lt_next_of_isSome (by rw [hn]; rfl)) hlive
    obtain ⟨⟨value, refcnt⟩, hobject'⟩ := Option.isSome_iff_exists.mp hlive
    rw [hn, hobject', Option.map_some, Option.map_some, Option.some.injEq] at hsame
    simp only at hsame
    rw [← hsame]
    exact ⟨refcnt, hobject'⟩
  have hcount : ∀ {n : Nat} {object : Counted Self}, s'.objects.cell n = some object →
      object.refcnt ≠ 0 := fun hn h0 =>
    absurd ((hs.linked.dying_iff hn).mp h0) (Finset.notMem_empty _)
  induction h with
  | @object n refcnt k impl v o hn h ho =>
    intro hlive
    obtain ⟨refcnt', hn'⟩ := hvalue hn hlive
    exact .object hn' (stands_later hl.native hs.sound h (hs.impl hn' (hcount hn') rfl)) ho
  | @slice n refcnt obj words o hn h ih =>
    intro hlive
    obtain ⟨refcnt', hn'⟩ := hvalue hn hlive
    refine .slice hn' (ih (hs.linked.live obj (Multiset.mem_add.mpr (.inr ?_))))
    exact Counted.mem_holds.mpr ⟨n, _, hn', hcount hn', Multiset.mem_singleton_self obj⟩

/-- Every object is some value. -/
theorem exists_is (hs : Owned held own ∅ s) : ∀ {n : Nat}, (s.objects.cell n).isSome →
    ∃ o, Is s n o := by
  intro n
  induction n using Nat.strong_induction_on with
  | _ n ih =>
    intro hlive
    obtain ⟨⟨value, refcnt⟩, hn⟩ := Option.isSome_iff_exists.mp hlive
    have hcount : refcnt ≠ 0 := fun h0 =>
      absurd ((hs.linked.dying_iff hn).mp h0) (Finset.notMem_empty _)
    cases value with
    | object k impl =>
      cases impl with
      | none => exact ⟨_, .object (v := none) hn trivial rfl⟩
      | some p =>
        obtain ⟨i, x, rfl, hi⟩ := hs.impl hn hcount rfl p rfl
        have hread : s.native.read? (.object i) = some x := by
          rw [Native.read?, hi, Option.bind_some, Object.as?_mk]
        obtain ⟨v, hv⟩ := hs.sound.whole_isSome hread
        have hstands : Stands s.native (some (.object i : Ptr k)) (some v) := by
          show (s.native.read? (.object i)).bind s.native.whole = some v
          rw [hread, Option.bind_some, hv]
        exact ⟨_, .object hn hstands rfl⟩
    | slice obj words =>
      have hheld : obj ∈ held + Counted.holds Self.links s.objects :=
        Multiset.mem_add.mpr (.inr (Counted.mem_holds.mpr
          ⟨n, _, hn, hcount, Multiset.mem_singleton_self obj⟩))
      obtain ⟨o, ho⟩ := ih obj (hs.older hn obj (Multiset.mem_singleton_self obj))
        (hs.linked.live obj hheld)
      exact ⟨_, .slice hn ho⟩

/-! ## Memory and values side by side -/

/-- Both have the same error records, and memory is in order. It is later than `s₀`. -/
structure Related (s₀ : Process core) (held own : Multiset Nat) (s : Process core) (t : State) :
    Prop where
  owned : Owned held own ∅ s
  later : Later s₀ s
  errors : s.native.errors = t.memory

/-- Both come to the same end. With a new object, which is the value that the other one returns. -/
def Makes (s₀ : Process core) (held : Multiset Nat) : Both (Process core) State PyErr Nat (PyObj core)
    where
  returns n o s t := Related s₀ (n ::ₘ held) 0 s t ∧ Is s n o
  throws _ s t := Related s₀ held 0 s t

/-- Both come to the same end. Memory is in order as before. -/
def Reads {α β : Type} (s₀ : Process core) (held : Multiset Nat) (post : Process core → α → β → Prop) :
    Both (Process core) State PyErr α β where
  returns a b s t := Related s₀ held 0 s t ∧ post s a b
  throws _ s t := Related s₀ held 0 s t

section

variable {s₀ : Process core} {α β : Type} {pre : Process core → Prop}

/-- What happens to the error records, and to memory. -/
theorem Related.set {s : Process core} {t : State} (h : Related s₀ held own s t) {s' : Process core}
    {held' own' : Multiset Nat} {memory : Memory} {events : List Event}
    (howned : Owned held' own' ∅ s') (hlater : Later s s') (herrors : s'.native.errors = memory) :
    Related s₀ held' own' s' ⟨memory, events⟩ :=
  ⟨howned, trans_of _ h.later hlater, herrors⟩

/-- What is recorded does not matter. -/
theorem skip {x : Prog (Process core) PyErr α} (e : Event) {f : Unit → Prog State PyErr β}
    {ends : Both (Process core) State PyErr α β}
    (hx : Simulation (fun s t => Related s₀ held own s t ∧ pre s) x (f ()) ends) :
    Simulation (fun s t => Related s₀ held own s t ∧ pre s) x (record e >>= f) ends := by
  rintro s t ⟨h, hpre⟩
  exact hx s ⟨t.memory, t.events ++ [e]⟩ ⟨⟨h.owned, h.later, h.errors⟩, hpre⟩

/-- What does not touch the state is the same on both sides. -/
theorem step {γ : Type} {z : Outcome PyErr γ} {f : γ → Prog (Process core) PyErr α}
    {g : γ → Prog State PyErr β} {returned : α → β → Process core → State → Prop}
    (hf : ∀ c, Simulation (fun s t => Related s₀ held 0 s t ∧ pre s) (f c) (g c)
      ⟨returned, fun _ s t => Related s₀ held 0 s t⟩) :
    Simulation (fun s t => Related s₀ held 0 s t ∧ pre s) (Prog.lift z >>= f) (Prog.lift z >>= g)
      ⟨returned, fun _ s t => Related s₀ held 0 s t⟩ := by
  rintro s t ⟨h, hpre⟩
  cases z with
  | returns c => exact hf c s t ⟨h, hpre⟩
  | throws e => exact ⟨rfl, h⟩
  | faults u => rfl

/-- A function of the library that reads. -/
theorem read_simulates {preN : Native core → Prop} {x : Prog (Native core) PyErr α}
    {z : Outcome PyErr β} {post : Native core → α → β → Prop}
    (hx : OnValues preN x (Prog.lift z) post) (hsame : Advances (Same id) x)
    (hpre : ∀ s, pre s → preN s.native) :
    Simulation (fun s t => Related s₀ held 0 s t ∧ pre s) (onNative x) (Prog.lift z)
      (Reads s₀ held fun s a b => post s.native a b ∧ pre s) := by
  rintro s t ⟨h, hs⟩
  have hend := hx s.native t.memory ⟨⟨h.owned.sound, h.errors⟩, hpre s hs⟩
  have hmem : (x s.native).2 = s.native := hsame s.native
  rcases hrun : x s.native with ⟨out, m⟩
  rw [hrun] at hend hmem
  obtain rfl : m = s.native := hmem
  have hnative : (onNative x : Prog (Process core) PyErr α) s = (out, s) :=
    Prog.within_run nativePart hrun
  rw [hnative]
  rw [Prog.lift_run] at hend ⊢
  cases out <;> cases z <;> first
    | exact hend.elim
    | exact ⟨h, hend.2, hs⟩
    | exact ⟨hend.1, h⟩
    | exact hend

/-- What `create` does, but for what it records. -/
theorem create_run {p : Option β} {e : Option ErrorPtr} {memory : Memory} {t : State}
    {call : Prog Memory PyErr (Option β × Option ErrorPtr)}
    (hcall : call t.memory = (.returns (p, e), memory)) :
    ∃ events, create call t = (.returns (p, e), ⟨memory, events⟩) := by
  have hmem : onMemory call t = (.returns (p, e), ⟨memory, t.events⟩) := by rw [onMemory, hcall]
  obtain ⟨events, hnative⟩ : ∃ events, callNative call t = (.returns (p, e), ⟨memory, events⟩) := by
    unfold callNative
    rw [Prog.bind_of_returns hmem]
    cases e <;> exact ⟨_, rfl⟩
  unfold create
  rw [Prog.bind_of_returns hnative]
  cases p <;> exact ⟨_, rfl⟩

theorem create_of_faults {u : Fault} {memory : Memory} {t : State}
    {call : Prog Memory PyErr (Option β × Option ErrorPtr)}
    (hcall : call t.memory = (.faults u, memory)) :
    create call t = (.faults u, ⟨memory, t.events⟩) := by
  have hmem : onMemory call t = (.faults u, ⟨memory, t.events⟩) := by rw [onMemory, hcall]
  unfold create callNative
  exact Prog.bind_of_faults (Prog.bind_of_faults hmem _) _

/-! ## Building objects -/

theorem wrapFn_ne_throws {Ret : Type} [Inhabited Ret] (err : Bool) (z : Outcome Exception Ret)
    (memory : Memory) (e : PyErr) :
    ((Btck.wrapFn err z : Prog Memory PyErr _) memory).1 ≠ .throws e := by
  cases z with
  | returns r => exact nofun
  | throws ex =>
    cases err with
    | false => exact nofun
    | true =>
      obtain ⟨p, memory', hrun, -⟩ := translateException_holds memory ex
      have hwrap : (Btck.wrapFn true (.throws ex) : Prog Memory PyErr (Ret × _)) memory
          = (.returns (default, some p), memory') := Prog.bind_of_returns hrun _
      rw [hwrap]
      exact nofun
  | faults u => exact nofun

/-- What a `New` or `Copy` function leaves, with its result. -/
def Created (s₀ : Process core) (held : Multiset Nat) (k : Kind) : Both (Process core) State PyErr
    (Option (Ptr k) × Option ErrorPtr) (Option (Value core k) × Option ErrorPtr) where
  returns r r' s t := Related s₀ held (Self.object k r.1).handles s t ∧ s.native.Owned r.1 ∧
    Stands s.native r.1 r'.1 ∧ r.2 = r'.2 ∧ (r.2.isSome → r.1 = none)
  throws _ s t := Related s₀ held 0 s t

theorem create_simulates {preN : Native core → Prop} {k : Kind}
    {x : Prog (Native core) Exception (Option (Ptr k))}
    {z : Outcome Exception (Option (Value core k))}
    (hx : OnValues preN x (Prog.lift z) fun m => Stands m) (hcreates : Creates x)
    (hlater : Advances Native.Later x) (err : Bool) :
    Simulation (fun s t => Related s₀ held 0 s t ∧ preN s.native)
      (onNative ((Btck.native core).wrapFn err x)) (create (Btck.wrapFn err z))
      (Created s₀ held k) := by
  rintro s t ⟨h, hpre⟩
  have hnull : ∀ m : Native core, Stands m (none : Option (Ptr k)) none := fun _ => trivial
  have hend := (hx.wrapFn (ε := PyErr) err hnull) s.native t.memory
    ⟨⟨h.owned.sound, h.errors⟩, hpre⟩
  have hadvance : s.native.Later _ :=
    Native.Later.native_within.congruent.wrapFn (ε := PyErr) (y := x) err hlater s.native
  rcases hrun : ((Btck.native core).wrapFn err x : Prog _ PyErr _) s.native with ⟨out, m⟩
  rcases hvalue : (Btck.wrapFn err z : Prog Memory PyErr _) t.memory with ⟨out', memory⟩
  rw [hrun] at hadvance
  rw [hrun, hvalue] at hend
  have hnative : (onNative ((Btck.native core).wrapFn err x) : Prog (Process core) PyErr _) s
      = (out, { s with native := m }) := Prog.within_run nativePart hrun
  rw [hnative]
  cases out with
  | returns r =>
    cases out' with
    | returns r' =>
      obtain ⟨p, e⟩ := r
      obtain ⟨v, e'⟩ := r'
      obtain ⟨⟨hsound, herrors⟩, hstands, rfl⟩ := hend
      obtain ⟨events, hcreate⟩ := create_run hvalue
      rw [hcreate]
      have hlater' : Later s { s with native := m } := ⟨refl_of _ _, hadvance⟩
      obtain ⟨y, rfl, rfl, hobjects⟩ | ⟨rfl, -, hobjects⟩ := hcreates.wrapFn hrun
      · have howned := h.owned.alloc_native hsound hobjects
        refine ⟨h.set howned hlater' herrors, ?_, hstands, rfl, fun he => by cases he⟩
        rintro q ⟨⟩
        refine ⟨_, y, rfl, ?_⟩
        show m.objects.cell _ = _
        rw [hobjects]
        exact Function.update_self ..
      · exact ⟨h.set (h.owned.same_native hsound hobjects) hlater' herrors, nofun, hstands, rfl,
          fun _ => rfl⟩
    | throws _ => exact hend.elim
    | faults _ => exact hend.elim
  | throws e =>
    cases out' with
    | returns _ => exact hend.elim
    | throws e' => exact absurd (congrArg Prod.fst hvalue) (wrapFn_ne_throws err z t.memory e')
    | faults _ => exact hend.elim
  | faults u =>
    cases out' with
    | returns _ => exact hend.elim
    | throws _ => exact hend.elim
    | faults u' =>
      rw [create_of_faults hvalue]
      exact hend

/-- A handle gets its object, or is freed. -/
theorem selfNew_simulates (env : Env) {k : Kind} {impl : Option (Ptr k)}
    {v : Option (Value core k)} :
    Simulation (fun s t => Related s₀ held (Self.object k impl).handles s t ∧
        s.native.Owned impl ∧ Stands s.native impl v)
      (selfNew env k impl) (newObject env (wrap k) v) (Makes s₀ held) := by
  rintro s t ⟨h, himpl, hstands⟩
  cases hobject : env.object 0 with
  | true =>
    have howned : Owned ((Self.object k impl).links + held)
        ((Self.object k impl).handles + 0) ∅ s := by
      have hnull : (Self.object k impl).links + held = held := zero_add held
      rw [hnull, add_zero]
      exact h.owned
    have hlater : Later s
        { s with objects := s.objects.alloc (Counted.fresh (.object k impl)) } :=
      ⟨Heap.Later.alloc s.objects _, refl_of _ _⟩
    rw [selfNew, newObject, if_pos hobject, if_pos hobject]
    refine ⟨h.set (howned.place nofun ?_) hlater h.errors,
      .object (Function.update_self ..) hstands rfl⟩
    rintro k' impl' ⟨⟩
    exact himpl
  | false =>
    have howned : Owned held ((Self.object k impl).handles + 0) ∅ s := by
      rw [add_zero]
      exact h.owned
    obtain ⟨m, hrun, hfreed, hadvance, herrors⟩ := howned.free_impl (ε := PyErr) himpl
    have hrelated : ∀ events, Related s₀ held 0 { s with native := m } ⟨t.memory, events⟩ :=
      fun events => h.set hfreed ⟨refl_of _ _, hadvance⟩ (herrors.trans h.errors)
    have hno : ¬ env.object 0 = true := by rw [hobject]; exact Bool.false_ne_true
    rw [selfNew, newObject, if_neg hno, if_neg hno, Prog.bind_of_returns hrun]
    cases v with
    | none => exact ⟨rfl, hrelated t.events⟩
    | some _ => exact ⟨rfl, hrelated _⟩

/-- An error is raised, and its record freed. -/
theorem raise_simulates (error : ErrorPtr) {α β : Type}
    {returned : α → β → Process core → State → Prop} :
    Simulation (fun s t => Related s₀ held 0 s t) (raise error) (setErr error)
      ⟨returned, fun _ s t => Related s₀ held 0 s t⟩ := by
  rintro s t h
  rcases hrun : (setError error : Prog Memory PyErr _) t.memory with ⟨out, memory⟩
  have hrun' : (setError error : Prog Memory PyErr _) s.native.errors = (out, memory) := by
    rw [h.errors, hrun]
  have hnative : (onNative (Prog.within (Btck.native core).errors (setError error)) :
      Prog (Process core) PyErr _) s
        = (out, { s with native := (Btck.native core).errors.set s.native memory }) :=
    Prog.within_run nativePart (Prog.within_run (Btck.native core).errors hrun')
  have hvalue : (onMemory (setError error) : Prog State PyErr _) t
      = (out, { t with memory := memory }) := by rw [onMemory, hrun]
  have hrelated : ∀ events, Related s₀ held 0
      { s with native := (Btck.native core).errors.set s.native memory } ⟨memory, events⟩ :=
    fun events => h.set (h.owned.same_native (h.owned.sound.set_errors memory) rfl)
      ⟨refl_of _ _, ⟨refl_of _ _, refl_of _ _⟩⟩ rfl
  cases out with
  | returns exc =>
    rw [raise, setErr, Prog.bind_of_returns hnative, Prog.bind_of_returns hvalue]
    exact ⟨rfl, hrelated _⟩
  | throws e =>
    rw [raise, setErr, Prog.bind_of_throws hnative, Prog.bind_of_throws hvalue]
    exact ⟨rfl, hrelated _⟩
  | faults u =>
    rw [raise, setErr, Prog.bind_of_faults hnative, Prog.bind_of_faults hvalue]
    rfl

/-- What the module does with the result of a `Copy` or `New` function. -/
theorem finish_simulates (env : Env) {k : Kind} {r : Option (Ptr k) × Option ErrorPtr}
    {r' : Option (Value core k) × Option ErrorPtr} :
    Simulation (fun s t => (Created s₀ held k).returns r r' s t) (finish env k r)
      (match r'.2 with
        | some err => setErr err
        | none => newObject env (wrap k) r'.1) (Makes s₀ held) := by
  rintro s t ⟨h, himpl, hstands, herr, hnull⟩
  obtain ⟨p, e⟩ := r
  obtain ⟨v, e'⟩ := r'
  obtain rfl : e = e' := herr
  cases e with
  | none => exact selfNew_simulates env s t ⟨h, himpl, hstands⟩
  | some err =>
    obtain rfl : p = none := hnull rfl
    exact raise_simulates err s t h

/-- An object is copied, and the copy gets a Python object. -/
theorem copyNew_simulates (env : Env) {k : Kind} {self : Option (Ptr k)}
    {v : Option (Value core k)} {copy : Prog State PyErr (PyObj core)}
    (hcopy : copy = create (Api.copy (env.native 0) v true) >>= fun r =>
      match r.2 with
      | some err => setErr err
      | none => newObject env (wrap k) r.1) :
    Simulation (fun s t => Related s₀ held 0 s t ∧ Stands s.native self v) (copyNew env self) copy
      (Makes s₀ held) := by
  rw [hcopy]
  exact Simulation.bind (create_simulates (OnValues.copyBody (env.native 0))
    (Creates.copyBody _ self) (Native.Later.native_within.copyBody _ self) true)
    fun _ _ => finish_simulates env

/-! ## `transaction_output.c`, `transaction.c` and `block.c` -/

/-- A pointer into an object is got, and what it points to is copied. -/
theorem borrow_simulates (env : Env) {k k' : Kind} {impl : Option (Ptr k)} {v : Option (Value core k)}
    {x : Prog (Native core) PyErr (Option (Ptr k'))} {z : Outcome PyErr (Option (Value core k'))}
    (hx : OnValues (fun m => Stands m impl v) x (Prog.lift z) fun m => Stands m)
    (hsame : Advances (Same id) x) {y : Prog State PyErr (PyObj core)}
    (hy : y = pass v >>= fun _ => Prog.lift z >>= fun w => pass w >>= fun _ =>
      create (Api.copy (env.native 0) w true) >>= fun r =>
      match r.2 with
      | some err => setErr err
      | none => newObject env (wrap k') r.1) :
    Simulation (fun s t => Related s₀ held 0 s t ∧ Stands s.native impl v)
      (onNative x >>= copyNew env) y (Makes s₀ held) := by
  rw [hy]
  refine skip _ (Simulation.bind (read_simulates hx hsame fun _ h => h) fun p w => ?_)
  refine skip _ ?_
  rintro s t ⟨h, hstands, -⟩
  exact copyNew_simulates env rfl s t ⟨h, hstands⟩

theorem native_read_same (n : Nat) :
    Advances (Same id) ((Btck.native core).read n : Prog _ PyErr _) := by
  intro m
  rw [read_run]
  rfl

theorem native_deref_same (t : Nat) :
    Advances (Same id) ((Btck.native core).deref t : Prog _ PyErr _) := by
  intro m
  rw [deref_run]
  rfl

theorem native_get_same {k : Kind} (impl : Option (Ptr k)) :
    Advances (Same id) ((Btck.native core).get impl : Prog _ PyErr _) :=
  get_advances native_read_same native_deref_same impl

theorem getScriptPubkey_simulates (env : Env) {impl : Option (Ptr .transactionOutput)}
    {v : Option CTxOut} :
    Simulation (fun s t => Related s₀ held 0 s t ∧ Stands s.native impl v)
      (getScriptPubkey env impl) (TransactionOutput.getScriptPubkey core env v) (Makes s₀ held) := by
  refine borrow_simulates env OnValues.getScriptPubkey ?_ rfl
  cases impl with
  | none => exact Advances.fault .nullDeref
  | some p => exact (native_get_same (some p)).bind fun _ => Advances.pure _

theorem outputsItem_simulates (env : Env) (idx : Int) {impl : Option (Ptr .transaction)}
    {v : Option core.CTransaction} :
    Simulation (fun s t => Related s₀ held 0 s t ∧ Stands s.native impl v)
      (outputsItem env impl idx) (Transaction.outputsItem core env v idx) (Makes s₀ held) :=
  borrow_simulates env (OnValues.getOutput _) ((native_get_same impl).bind fun _ =>
    (native_deref_same _).bind fun _ => (Advances.lift _).bind fun _ => Advances.pure _) rfl

theorem transactionsItem_simulates (env : Env) (idx : Int) {impl : Option (Ptr .block)}
    {v : Option core.CBlock} :
    Simulation (fun s t => Related s₀ held 0 s t ∧ Stands s.native impl v)
      (transactionsItem env impl idx) (Block.transactionsItem core env v idx) (Makes s₀ held) := by
  refine borrow_simulates env (OnValues.getTransaction _) ?_ rfl
  rcases impl with _ | p
  · exact Advances.fault .nullDeref
  · obtain ⟨n⟩ := p
    exact (native_get_same (some (.object n : Ptr .block))).bind fun _ =>
      (Advances.lift _).bind fun _ => Advances.pure _

/-! ## Views -/

/-- A view takes a reference to what it is a view of. -/
theorem sliceNew_simulates (env : Env) {obj : Nat} {words : SliceWords} {o : PyObj core}
    (hobj : obj ∈ held) :
    Simulation (fun s t => Related s₀ held 0 s t ∧ Is s obj o) (sliceNew env obj words)
      (newValue env (.slice o words)) (Makes s₀ held) := by
  rintro s t ⟨h, his⟩
  cases hobject : env.object 0 with
  | true =>
    obtain ⟨objects, hrun, hnext, howned, hlater⟩ := h.owned.incref (ε := PyErr) hobj
    rw [sliceNew, newValue, if_pos hobject, if_pos hobject, Prog.bind_of_returns hrun]
    have hlinks : (Self.slice obj words).links + held = obj ::ₘ held :=
      Multiset.singleton_add obj held
    have hhandles : (Self.slice obj words).handles + 0 = 0 := zero_add 0
    have howned' : Owned ((Self.slice obj words).links + held)
        ((Self.slice obj words).handles + 0) ∅ { s with objects := objects } := by
      rw [hlinks, hhandles]
      exact howned
    have hlive : (objects.cell obj).isSome :=
      howned.linked.live obj (Multiset.mem_add.mpr (.inl (Multiset.mem_cons_self obj held)))
    have hplaced := howned'.place (fun m hm => by
      rw [Multiset.mem_singleton.mp hm]
      exact Heap.lt_next_of_isSome hlive) nofun
    have hlater' : Later s
        { s with objects := objects.alloc (Counted.fresh (.slice obj words)) } :=
      ⟨trans_of _ hlater (Heap.Later.alloc objects _), refl_of _ _⟩
    refine ⟨h.set hplaced hlater' h.errors, .slice (Function.update_self ..) ?_⟩
    exact his.later hlater' hplaced (hplaced.linked.live obj (Multiset.mem_add.mpr
      (.inl (Multiset.mem_cons_of_mem hobj))))
  | false =>
    have hno : ¬ env.object 0 = true := by rw [hobject]; exact Bool.false_ne_true
    rw [sliceNew, newValue, if_neg hno, if_neg hno]
    exact ⟨rfl, h⟩

/-- The length of a view is got, and the view made. -/
theorem view_simulates (env : Env) {n : Nat} (hn : n ∈ held) {k : Kind} {impl : Option (Ptr k)}
    {v : Option (Value core k)} {x : Prog (Native core) PyErr UInt64} {z : Outcome PyErr UInt64}
    (hx : OnValues (fun m => Stands m impl v) x (Prog.lift z) fun _ a b => a = b)
    (hsame : Advances (Same id) x) (fn : ItemFn) :
    Simulation (fun s t => Related s₀ held 0 s t ∧ Stands s.native impl v ∧ Is s n (wrap k v))
      (onNative x >>= fun length =>
        sliceNew env n { env.words with length := length.toInt64.toInt, item := fn })
      (pass v >>= fun _ => Prog.lift z >>= fun length =>
        Python.sliceNew env (wrap k v) length.toInt64.toInt fn) (Makes s₀ held) := by
  refine skip _ (Simulation.bind (read_simulates hx hsame fun _ h => h.1) fun length length' => ?_)
  rintro s t ⟨h, rfl, -, his⟩
  exact sliceNew_simulates env hn s t ⟨h, his⟩

theorem getOutputs_simulates (env : Env) {n : Nat} (hn : n ∈ held)
    {impl : Option (Ptr .transaction)} {v : Option core.CTransaction} :
    Simulation
      (fun s t => Related s₀ held 0 s t ∧ Stands s.native impl v ∧ Is s n (.transaction v))
      (getOutputs env n impl) (Transaction.getOutputs core env v) (Makes s₀ held) :=
  view_simulates env hn (k := .transaction)
    (OnValues.workOut (v := v) (OnValues.transactionValue fun _ h => h)
      fun tx => UInt64.ofNat (core.vout tx).size)
    (((native_get_same impl).bind native_deref_same).bind fun _ => Advances.pure _) .outputsItem

theorem getTransactions_simulates (env : Env) {n : Nat} (hn : n ∈ held)
    {impl : Option (Ptr .block)} {v : Option core.CBlock} :
    Simulation (fun s t => Related s₀ held 0 s t ∧ Stands s.native impl v ∧ Is s n (.block v))
      (getTransactions env n impl) (Block.getTransactions core env v) (Makes s₀ held) :=
  view_simulates env hn (k := .block) OnValues.countTransactions
    ((native_get_same impl).bind fun _ => Advances.pure _) .transactionsItem

/-- `item` is called with the right kind of object, or it is not defined what happens. -/
theorem callItem_simulates (env : Env) (fn : ItemFn) (obj : Nat) (idx : Int) {o : PyObj core} :
    Simulation (fun s t => Related s₀ held 0 s t ∧ Is s obj o) (callItem env fn obj idx)
      (Slice.callItem env fn o idx) (Makes s₀ held) := by
  rintro s t ⟨h, his⟩
  have hread : ∀ {object : Counted Self}, s.objects.cell obj = some object →
      (onObjects (Heap.read obj) : Prog (Process core) PyErr _) s = (.returns object, s) :=
    fun hobject => Prog.within_run objectsPart (Heap.read_of_live hobject)
  cases his with
  | @object n refcnt k impl v o hn hstands ho =>
    subst ho
    rw [callItem, Prog.bind_of_returns (hread hn)]
    cases fn with
    | outputsItem =>
      cases k with
      | transaction => exact outputsItem_simulates env idx s t ⟨h, hstands⟩
      | _ => exact rfl
    | transactionsItem =>
      cases k with
      | block => exact transactionsItem_simulates env idx s t ⟨h, hstands⟩
      | _ => exact rfl
    | null => cases k <;> exact rfl
    | other word => cases k <;> exact rfl
  | @slice n refcnt obj' words o hn his =>
    rw [callItem, Prog.bind_of_returns (hread hn)]
    cases fn <;> exact rfl

/-- `sq_item`, down through the views to the object that they are views of. -/
theorem item_simulates (env : Env) : ∀ (depth : Nat) {n : Nat} (idx : Int) {o : PyObj core},
    n < depth → Simulation (fun s t => Related s₀ held 0 s t ∧ Is s n o) (item env depth n idx)
      (Slice.item env o idx) (Makes s₀ held) := by
  intro depth
  induction depth with
  | zero =>
    intro n idx o hn
    exact absurd hn (Nat.not_lt_zero n)
  | succ depth ih =>
    rintro n idx o hn s t ⟨h, his⟩
    have hread : ∀ {object : Counted Self}, s.objects.cell n = some object →
        (onObjects (Heap.read n) : Prog (Process core) PyErr _) s = (.returns object, s) :=
      fun hobject => Prog.within_run objectsPart (Heap.read_of_live hobject)
    cases his with
    | @object n refcnt k impl v o hcell hstands ho =>
      subst ho
      rw [item, Prog.bind_of_returns (hread hcell)]
      cases k <;> exact rfl
    | @slice n refcnt obj words o hcell his =>
      rw [item, Prog.bind_of_returns (hread hcell), Slice.item]
      dsimp only
      by_cases hout : idx < 0 ∨ idx ≥ words.length
      · rw [if_pos hout, if_pos hout]
        exact ⟨rfl, h⟩
      · rw [if_neg hout, if_neg hout]
        by_cases hitem : words.item ≠ .null
        · rw [if_pos hitem, if_pos hitem]
          exact callItem_simulates env words.item obj idx s t ⟨h, his⟩
        · rw [if_neg hitem, if_neg hitem]
          have hobj : obj < depth :=
            Nat.lt_of_lt_of_le (h.owned.older hcell obj (Multiset.mem_singleton_self obj))
              (Nat.le_of_lt_succ hn)
          exact step (fun offset => step fun idx => ih idx hobj) s t ⟨h, his⟩

theorem sqItem_simulates (env : Env) {n : Nat} (hn : n ∈ held) (idx : Int) {o : PyObj core} :
    Simulation (fun s t => Related s₀ held 0 s t ∧ Is s n o) (sqItem env n idx)
      (Slice.item env o idx) (Makes s₀ held) := by
  rintro s t ⟨h, his⟩
  have hlive := h.owned.linked.live n (Multiset.mem_add.mpr (.inl hn))
  exact item_simulates env s.objects.next idx (Heap.lt_next_of_isSome hlive) s t ⟨h, his⟩

theorem subscriptIndex_simulates (env : Env) {n : Nat} (hn : n ∈ held) {words : SliceWords}
    {o : PyObj core} (k : Int) :
    Simulation (fun s t => Related s₀ held 0 s t ∧ Is s n (.slice o words))
      (subscriptIndex env n words k) (Slice.subscriptIndex env (.slice o words) k)
      (Makes s₀ held) := by
  unfold subscriptIndex Slice.subscriptIndex
  refine step fun idx => ?_
  by_cases hneg : idx < 0
  · rw [if_pos hneg, if_pos hneg]
    exact step fun idx => sqItem_simulates env hn idx
  · rw [if_neg hneg, if_neg hneg]
    exact sqItem_simulates env hn idx

theorem subscript_simulates (env : Env) {n : Nat} (hn : n ∈ held) {words : SliceWords}
    {o : PyObj core} (arg : PyObj core) :
    Simulation (fun s t => Related s₀ held 0 s t ∧ Is s n (.slice o words))
      (subscript env n words arg) (Slice.subscript env (.slice o words) arg) (Makes s₀ held) := by
  cases arg with
  | int k => exact subscriptIndex_simulates env hn k
  | bool b => exact subscriptIndex_simulates env hn (if b then 1 else 0)
  | sliceObject s => exact step fun u => sliceNew_simulates env hn
  | _ =>
    rintro s t ⟨h, -⟩
    exact ⟨rfl, h⟩

/-! ## Constructors -/

/-- The argument is parsed in the same way. -/
theorem construct_simulates {raw : PyObj core} {x : Bytes → Prog (Process core) PyErr Nat}
    {y : Bytes → Prog State PyErr (PyObj core)}
    (hxy : ∀ b, Simulation (Related s₀ held 0) (x b) (y b) (Makes s₀ held)) :
    Simulation (Related s₀ held 0)
      (match raw.buffer? with
        | some b => x b
        | none => Prog.throw ⟨.typeError, none⟩)
      (parseBuffer raw >>= y) (Makes s₀ held) := by
  intro s t h
  unfold parseBuffer
  cases raw.buffer? with
  | none => exact ⟨rfl, h⟩
  | some b => exact hxy b s ⟨t.memory, t.events ++ [.acquired .buffer]⟩ ⟨h.owned, h.later, h.errors⟩

/-- A `New` function asks nothing of memory. -/
theorem new_simulates {k : Kind} {x : Prog (Native core) Exception (Option (Ptr k))}
    {z : Outcome Exception (Option (Value core k))}
    (hx : OnValues (fun _ => True) x (Prog.lift z) fun m => Stands m) (hcreates : Creates x)
    (hlater : Advances Native.Later x) (err : Bool) :
    Simulation (Related s₀ held 0) (onNative ((Btck.native core).wrapFn err x))
      (create (Btck.wrapFn err z)) (Created s₀ held k) :=
  fun s t h => create_simulates hx hcreates hlater err s t ⟨h, trivial⟩

theorem newBlock_simulates (env : Env) (raw : PyObj core) :
    Simulation (Related s₀ held 0) (newBlock env raw) (Block.new core env raw) (Makes s₀ held) := by
  have hlater : ∀ b, Advances Native.Later (Runtime.Block.newBody (Btck.native core) env.native b) :=
    fun b => (Advances.lift _).bind fun block =>
      Native.Later.native_within.createMoved (env.native 1) block
  refine construct_simulates fun b => Simulation.bind (new_simulates (OnValues.blockNew env.native b)
    (Creates.blockNewBody env.native b) (hlater b) false) fun r r' => ?_
  rintro s t ⟨h, himpl, hstands, -⟩
  exact selfNew_simulates env s t ⟨h, himpl, hstands⟩

theorem newTransaction_simulates (env : Env) (raw : PyObj core) :
    Simulation (Related s₀ held 0) (newTransaction env raw) (Transaction.new core env raw)
      (Makes s₀ held) := by
  refine construct_simulates fun b => Simulation.bind (new_simulates
    (OnValues.transactionNew env.native b) (Creates.transactionNewBody env.native b)
    (Native.Later.native_within.congruent.transactionNew env.native b) false) fun r r' => ?_
  rintro s t ⟨h, himpl, hstands, -⟩
  exact selfNew_simulates env s t ⟨h, himpl, hstands⟩

theorem newScriptPubkey_simulates (env : Env) (raw : PyObj core) :
    Simulation (Related s₀ held 0) (newScriptPubkey env raw) (ScriptPubkey.new env raw)
      (Makes s₀ held) :=
  construct_simulates fun b => Simulation.bind (new_simulates
    (OnValues.scriptPubkeyNew env.native b) (Creates.scriptPubkeyNewBody env.native b)
    (Native.Later.native_within.create (env.native 0) .scriptPubkey b) true)
    fun _ _ => finish_simulates env

/-! ## Methods -/

/-- Both come to the same end, with the same value, or with a new object that is the value. -/
def Replies (s₀ : Process core) (held : Multiset Nat) :
    Both (Process core) State PyErr (Ref core) (PyObj core) where
  returns r o s t :=
    match r with
    | .self n => Related s₀ (n ::ₘ held) 0 s t ∧ Is s n o
    | .plain o' => Related s₀ held 0 s t ∧ o' = o
  throws _ s t := Related s₀ held 0 s t

theorem self_replies {P : Process core → State → Prop} {x : Prog (Process core) PyErr Nat}
    {y : Prog State PyErr (PyObj core)} (hxy : Simulation P x y (Makes s₀ held)) :
    Simulation P (Ref.self <$> x) y (Replies s₀ held) :=
  (show Simulation P x y ⟨fun n => (Replies s₀ held).returns (.self n), _⟩ from hxy).map

theorem plain_replies {P : Process core → State → Prop} {x : Prog (Process core) PyErr (PyObj core)}
    {y : Prog State PyErr (PyObj core)}
    (hxy : Simulation P x y (Reads s₀ held fun _ a b => a = b)) :
    Simulation P (Ref.plain <$> x) y (Replies s₀ held) :=
  (show Simulation P x y ⟨fun o => (Replies s₀ held).returns (.plain o), _⟩ from hxy).map

theorem plainNew_simulates (env : Env) (o : PyObj core) :
    Simulation (Related s₀ held 0) (plainNew env o) (newValue env o) (Replies s₀ held) := by
  intro s t h
  unfold plainNew newValue
  split
  · exact ⟨h, rfl⟩
  · exact ⟨rfl, h⟩

/-- A method that works something out of the object behind the handle. -/
theorem workOut_simulates {k : Kind} {impl : Option (Ptr k)} {v : Option (Value core k)} {γ : Type}
    {x : Prog (Native core) PyErr (Value core k)}
    (hx : OnValues (fun m => Stands m impl v) x (Prog.lift (Api.get v))
      fun m a b => a = b ∧ Stands m impl v)
    (hsame : Advances (Same id) x) (f : Option (Value core k) → Outcome PyErr γ)
    (hnull : f none = .faults .nullDeref) :
    Simulation (fun s t => Related s₀ held 0 s t ∧ Stands s.native impl v)
      (onNative x >>= fun a => Prog.lift (f (some a))) (pass v >>= fun _ => Prog.lift (f v))
      (Reads s₀ held fun _ a b => a = b) := by
  have hvalue : (Prog.lift (f v) : Prog State PyErr γ)
      = Prog.lift (Api.get v) >>= fun a => Prog.lift (f (some a)) := by
    cases v with
    | none =>
      rw [hnull]
      rfl
    | some a => rfl
  rw [hvalue]
  refine skip _ (Simulation.bind (read_simulates hx hsame fun _ h => h) fun a b => ?_)
  rintro s t ⟨h, ⟨rfl, -⟩, -⟩
  exact Simulation.lift (fun _ _ _ _ h => ⟨h, rfl⟩) (fun _ _ _ _ h => h) s t h

theorem derefAll_same : ∀ ts : List Nat,
    Advances (Same id) ((Btck.native core).derefAll ts : Prog _ PyErr Unit) := by
  intro ts
  induction ts with
  | nil => exact Advances.pure ()
  | cons t ts ih => exact (native_deref_same t).bind fun _ => ih

theorem blockValue_same (impl : Option (Ptr .block)) :
    Advances (Same id) (Runtime.Block.value (Btck.native core) impl : Prog _ PyErr _) :=
  (native_get_same impl).bind fun _ => (derefAll_same _).bind fun _ => Advances.pure _

/-- Without an object there are no bytes of it. -/
theorem toBytes_null (env : Env)
    {writefn : Callback Bytes BytesWriter → Prog BytesWriter PyErr Int32}
    (h : ∀ write writer, writefn write writer = (.faults .nullDeref, writer)) :
    (toBytes env writefn : Outcome PyErr (PyObj core)) = .faults .nullDeref := by
  unfold toBytes
  split
  · rfl
  · rw [h]

theorem bytes_simulates (env : Env) {k : Kind} {impl : Option (Ptr k)} {v : Option (Value core k)} :
    Simulation (fun s t => Related s₀ held 0 s t ∧ Stands s.native impl v)
      (bytes env (.object k impl)) (Call.runBytes env (wrap k v))
      (Reads s₀ held fun _ a b => a = b) := by
  cases k with
  | block =>
    exact workOut_simulates (OnValues.blockValue fun _ h => h) (blockValue_same impl)
      (fun v => toBytes env (Btck.Block.toBytes core v)) (toBytes_null env fun _ _ => rfl)
  | transaction =>
    exact workOut_simulates (OnValues.transactionValue fun _ h => h)
      ((native_get_same impl).bind native_deref_same)
      (fun v => toBytes env (Btck.Transaction.toBytes core v)) (toBytes_null env fun _ _ => rfl)
  | transactionOutput =>
    rintro s t ⟨h, -⟩
    exact ⟨rfl, h⟩
  | scriptPubkey =>
    exact workOut_simulates (OnValues.getScript fun _ h => h) (native_get_same impl)
      (fun v => toBytes env (Btck.ScriptPubkey.toBytes v)) (toBytes_null env fun _ _ => rfl)

/-- The text is made into a string. -/
theorem text_simulates {x : Prog (Process core) PyErr α} {f : α → Prog (Process core) PyErr Bytes}
    {y : Prog State PyErr β} {g : β → Prog State PyErr Bytes}
    (hxy : Simulation (fun s t => Related s₀ held 0 s t ∧ pre s) (x >>= f) (y >>= g)
      (Reads s₀ held fun _ a b => a = b)) :
    Simulation (fun s t => Related s₀ held 0 s t ∧ pre s)
      (x >>= fun a => f a >>= fun text => pure (.str text))
      (y >>= fun b => g b >>= fun text => pure (PyObj.str text))
      (Reads s₀ held fun _ (a b : PyObj core) => a = b) := by
  rw [← Prog.bind_assoc, ← Prog.bind_assoc]
  refine Simulation.bind hxy fun a b => Simulation.pure ?_
  rintro s t ⟨h, rfl⟩
  exact ⟨h, rfl⟩

theorem str_simulates (env : Env) {k : Kind} {impl : Option (Ptr k)} {v : Option (Value core k)} :
    Simulation (fun s t => Related s₀ held 0 s t ∧ Stands s.native impl v)
      (str env (.object k impl)) (Call.runStr env (wrap k v))
      (Reads s₀ held fun _ a b => a = b) := by
  cases k with
  | block =>
    exact text_simulates (workOut_simulates (OnValues.blockValue fun _ h => h) (blockValue_same impl)
      (fun v => toString (env.object 0) env.chars (Btck.Block.toString core v)) rfl)
  | transaction =>
    exact text_simulates (workOut_simulates (OnValues.transactionValue fun _ h => h)
      ((native_get_same impl).bind native_deref_same)
      (fun v => toString (env.object 0) env.chars (Btck.Transaction.toString core v)) rfl)
  | transactionOutput =>
    exact text_simulates (workOut_simulates (OnValues.getOut fun _ h => h) (native_get_same impl)
      (fun v => toString (env.object 0) env.chars (Btck.TransactionOutput.toString core v)) rfl)
  | scriptPubkey =>
    rintro s t ⟨h, -⟩
    exact ⟨rfl, h⟩

/-- A getter that returns an object of CPython's. -/
theorem plain_simulates (env : Env) {k : Kind} {impl : Option (Ptr k)} {v : Option (Value core k)}
    {x : Prog (Native core) PyErr α} {z : Outcome PyErr α}
    (hx : OnValues (fun m => Stands m impl v) x (Prog.lift z) fun _ a b => a = b)
    (hsame : Advances (Same id) x) (f : α → PyObj core) :
    Simulation (fun s t => Related s₀ held 0 s t ∧ Stands s.native impl v)
      (onNative x >>= fun a => plainNew env (f a))
      (pass v >>= fun _ => Prog.lift z >>= fun a => newValue env (f a)) (Replies s₀ held) := by
  refine skip _ (Simulation.bind (read_simulates hx hsame fun _ h => h) fun a b => ?_)
  rintro s t ⟨h, rfl, -⟩
  exact plainNew_simulates env (f a) s t h

theorem getAttr_simulates (env : Env) {n : Nat} (hn : n ∈ held) (name : Attribute) {k : Kind}
    {impl : Option (Ptr k)} {v : Option (Value core k)} :
    Simulation (fun s t => Related s₀ held 0 s t ∧ Stands s.native impl v ∧ Is s n (wrap k v))
      (getAttr env n (.object k impl) name) (Call.runGetAttr env (wrap k v) name)
      (Replies s₀ held) := by
  have hno : Simulation
      (fun s t => Related s₀ held 0 s t ∧ Stands s.native impl v ∧ Is s n (wrap k v))
      (Prog.throw Call.noAttribute) (Prog.throw Call.noAttribute) (Replies s₀ held) :=
    fun s t h => ⟨rfl, h.1⟩
  have hdrop : ∀ {x : Prog (Process core) PyErr (Ref core)} {y : Prog State PyErr (PyObj core)},
      Simulation (fun s t => Related s₀ held 0 s t ∧ Stands s.native impl v) x y (Replies s₀ held) →
      Simulation (fun s t => Related s₀ held 0 s t ∧ Stands s.native impl v ∧ Is s n (wrap k v))
        x y (Replies s₀ held) := fun hxy s t h => hxy s t ⟨h.1, h.2.1⟩
  cases k with
  | block =>
    cases name with
    | hash =>
      exact hdrop (plain_simulates env OnValues.getHash
        ((native_get_same impl).bind fun _ => Advances.pure _) .blockHash)
    | transactions => exact self_replies (getTransactions_simulates env hn)
    | outputs => exact hno
    | amount => exact hno
    | scriptPubkey => exact hno
  | transaction =>
    cases name with
    | outputs => exact self_replies (getOutputs_simulates env hn)
    | hash => exact hno
    | transactions => exact hno
    | amount => exact hno
    | scriptPubkey => exact hno
  | transactionOutput =>
    cases name with
    | amount =>
      exact hdrop (plain_simulates env (OnValues.workOut (OnValues.getOut fun _ h => h) CTxOut.nValue)
        ((native_get_same impl).bind fun _ => Advances.pure _) fun amount => .int amount.toInt)
    | scriptPubkey => exact hdrop (self_replies (getScriptPubkey_simulates env))
    | hash => exact hno
    | transactions => exact hno
    | outputs => exact hno
  | scriptPubkey => cases name <;> exact hno

/-- **The methods of an object do what is said of its value.** -/
theorem method_simulates (env : Env) {n : Nat} (hn : n ∈ held) (m : Method core) {o : PyObj core} :
    Simulation (fun s t => Related s₀ held 0 s t ∧ Is s n o)
      (onObjects (Heap.read n) >>= fun object => m.run env n object.value) ((m.call o).run env)
      (Replies s₀ held) := by
  rintro s t ⟨h, his⟩
  have hread : ∀ {object : Counted Self}, s.objects.cell n = some object →
      (onObjects (Heap.read n) : Prog (Process core) PyErr _) s = (.returns object, s) :=
    fun hobject => Prog.within_run objectsPart (Heap.read_of_live hobject)
  have hview := his
  cases his with
  | @object n refcnt k impl v o hcell hstands ho =>
    subst ho
    rw [Prog.bind_of_returns (hread hcell)]
    cases m with
    | bytes => exact plain_replies (bytes_simulates env) s t ⟨h, hstands⟩
    | str => exact plain_replies (str_simulates env) s t ⟨h, hstands⟩
    | getAttr name => exact getAttr_simulates env hn name s t ⟨h, hstands, hview⟩
    | len => cases k <;> exact ⟨rfl, h⟩
    | subscript arg => cases k <;> exact ⟨rfl, h⟩
    | next idx => cases k <;> exact ⟨rfl, h⟩
  | @slice n refcnt obj words o hcell his =>
    rw [Prog.bind_of_returns (hread hcell)]
    cases m with
    | bytes => exact ⟨rfl, h⟩
    | str => exact ⟨rfl, h⟩
    | getAttr name => cases name <;> exact ⟨rfl, h⟩
    | len => exact plainNew_simulates env (.int words.length) s t h
    | subscript arg => exact self_replies (subscript_simulates env hn arg) s t ⟨h, hview⟩
    | next idx => exact self_replies (sqItem_simulates env hn idx) s t ⟨h, hview⟩

end

end Process

end Btck.Python
