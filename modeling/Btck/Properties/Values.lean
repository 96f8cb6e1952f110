import Btck.Properties.Pointers

/-!
# A handle can be taken for what is behind it

`Btck.Object` says of a handle that it is null or an object. In memory it is a pointer, and the
object is spread over several pieces of memory. `Native.value?` puts it together. As long as the
pointers are good, the functions of the library do to the pieces what those of `Btck.Object` say of
the object.

* `Value`, `Native.value?`, `Stands` — what a pointer stands for
* `Sound` — memory in the course of a program
* `OnValues` — a function does what is said of values, with one lemma for each function
-/

namespace Btck

open Infra

variable {core : BitcoinCore}

/-! ## What a pointer stands for -/

/-- The object of Bitcoin Core that a C type stands for. -/
@[reducible] def Value (core : BitcoinCore) : Kind → Type
  | .block => core.CBlock
  | .transaction => core.CTransaction
  | .transactionOutput => CTxOut
  | .scriptPubkey => CScript

/-- The object that a piece of memory belongs to, with what it refers to. -/
def Native.whole (m : Native core) : {k : Kind} → CppType core k → Option (Value core k)
  | .block, stored => some (StoredBlock.block stored)
  | .transaction, t => (m.transactions.cell t).map (·.value)
  | .transactionOutput, out => some out
  | .scriptPubkey, script => some script

/-- The object behind a pointer, if the pointer is good. -/
def Native.value? (m : Native core) {k : Kind} (p : Ptr k) : Option (Value core k) :=
  (m.read? p).bind m.whole

/-- A handle is null on both sides, or it points to the object. -/
def Stands (m : Native core) {k : Kind} : Option (Ptr k) → Option (Value core k) → Prop
  | none, none => True
  | some p, some v => m.value? p = some v
  | _, _ => False

/-- Memory in the course of a program. -/
def Sound (m : Native core) : Prop := ∃ c, Agree 0 m c

namespace Sound

variable {m : Native core}

theorem transaction_live (h : Sound m) {n : Nat} {o : Object core} (hn : m.objects.cell n = some o)
    {t : Nat} (ht : t ∈ o.refs) : ∃ object, m.transactions.cell t = some object := by
  obtain ⟨c, hc⟩ := h
  refine Option.isSome_iff_exists.mp ((hc.counts.live_iff t).mpr ?_)
  rw [zero_add]
  exact mem_objectRefs.mpr ⟨n, o, hn, ht⟩

/-- The error records are none of its business. -/
theorem set_errors (h : Sound m) (errors : Memory) : Sound ((native core).errors.set m errors) := by
  obtain ⟨c, hc⟩ := h
  exact ⟨(collected core).errors.set c errors, hc.objects, rfl, hc.next, hc.counts, hc.value,
    hc.coherent⟩

/-- The transactions of a block are those that its references are to. -/
theorem vtx_eq (h : Sound m) {n : Nat} {stored : StoredBlock core}
    (hn : m.objects.cell n = some ⟨.block, stored⟩) :
    stored.vtx.map (fun t => (m.transactions.cell t).map (·.value))
      = (core.vtx stored.block).toList.map some := by
  have hlive : ∀ t ∈ stored.vtx, ∃ object, m.transactions.cell t = some object := fun t ht =>
    h.transaction_live hn ht
  obtain ⟨c, hc⟩ := h
  have hrefer : Refer c.transactions stored.vtx (core.vtx stored.block).toList := hc.coherent hn
  rw [← hrefer]
  refine List.map_congr_left fun t ht => ?_
  obtain ⟨object, hobject⟩ := hlive t ht
  rw [hobject, hc.value hobject, Option.map_some]

theorem vtx_length (h : Sound m) {n : Nat} {stored : StoredBlock core}
    (hn : m.objects.cell n = some ⟨.block, stored⟩) :
    stored.vtx.length = (core.vtx stored.block).size := by
  have hlength := congrArg List.length (h.vtx_eq hn)
  rwa [List.length_map, List.length_map] at hlength

/-- What is read can be put together. -/
theorem whole_isSome (h : Sound m) {k : Kind} {p : Ptr k} {x : CppType core k}
    (hx : m.read? p = some x) : ∃ v, m.whole x = some v := by
  cases p with
  | object n =>
    obtain ⟨o, ho, hox⟩ := Option.bind_eq_some_iff.mp hx
    obtain rfl := Object.as?_eq_some.mp hox
    cases k with
    | block => exact ⟨_, rfl⟩
    | transaction =>
      obtain ⟨object, hobject⟩ := h.transaction_live ho (List.mem_singleton_self (x : Nat))
      exact ⟨object.value, by rw [Native.whole, hobject]; rfl⟩
    | transactionOutput => exact ⟨_, rfl⟩
    | scriptPubkey => exact ⟨_, rfl⟩
  | vtx block i =>
    obtain ⟨stored, hstored, hi⟩ := Option.bind_eq_some_iff.mp hx
    obtain ⟨o, ho, hos⟩ := Option.bind_eq_some_iff.mp hstored
    obtain rfl := Object.as?_eq_some.mp hos
    obtain ⟨object, hobject⟩ := h.transaction_live ho (List.mem_of_getElem? hi)
    exact ⟨object.value, by rw [Native.whole, hobject]; rfl⟩
  | vout tx i => exact ⟨_, rfl⟩
  | scriptPubKey out => exact ⟨_, rfl⟩

end Sound

/-! ## Reading -/

section

variable {ε : Type} {m : Native core} {k : Kind}

/-- What is read through a handle that stands for an object. -/
theorem get_of_stands {p : Ptr k} {v : Value core k} (h : Stands m (some p) (some v)) :
    ∃ x, ((native core).get (some p) : Prog _ ε _) m = (.returns x, m) ∧ m.read? p = some x ∧
      m.whole x = some v := by
  obtain ⟨x, hx, hv⟩ := Option.bind_eq_some_iff.mp h
  refine ⟨x, ?_, hx, hv⟩
  rw [Runtime.get, load_run, hx]
  rfl

theorem get_output {self : Option (Ptr .transactionOutput)} {v : Option CTxOut}
    (h : Stands m self v) : ((native core).get self : Prog _ ε CTxOut) m = (Api.get v, m) := by
  rcases self with _ | p <;> rcases v with _ | v
  · rfl
  · exact h.elim
  · exact h.elim
  · obtain ⟨x, hget, -, hx⟩ := @get_of_stands _ ε _ _ _ _ h
    rw [hget, Option.some.inj hx]
    rfl

theorem get_script {self : Option (Ptr .scriptPubkey)} {v : Option CScript}
    (h : Stands m self v) : ((native core).get self : Prog _ ε CScript) m = (Api.get v, m) := by
  rcases self with _ | p <;> rcases v with _ | v
  · rfl
  · exact h.elim
  · exact h.elim
  · obtain ⟨x, hget, -, hx⟩ := @get_of_stands _ ε _ _ _ _ h
    rw [hget, Option.some.inj hx]
    rfl

theorem deref_of_live {t : Nat} {object : Counted core.CTransaction}
    (ht : m.transactions.cell t = some object) :
    ((native core).deref t : Prog _ ε _) m = (.returns object.value, m) := by
  rw [deref_run, ht]

theorem transaction_value {self : Option (Ptr .transaction)} {v : Option core.CTransaction}
    (h : Stands m self v) :
    (Runtime.Transaction.value (native core) self : Prog _ ε _) m = (Api.get v, m) := by
  rcases self with _ | p <;> rcases v with _ | v
  · rfl
  · exact h.elim
  · exact h.elim
  · obtain ⟨t, hget, -, ht⟩ := @get_of_stands _ ε _ _ _ _ h
    obtain ⟨object, hobject, rfl⟩ := Option.map_eq_some_iff.mp ht
    rw [Runtime.Transaction.value, Prog.bind_of_returns hget, deref_of_live hobject]
    rfl

theorem derefAll_run : ∀ {ts : List Nat}, (∀ t ∈ ts, ∃ object, m.transactions.cell t = some object) →
    ((native core).derefAll ts : Prog _ ε Unit) m = (.returns (), m) := by
  intro ts
  induction ts with
  | nil => intro _; rfl
  | cons t ts ih =>
    intro hlive
    obtain ⟨object, hobject⟩ := hlive t (by simp)
    rw [Runtime.derefAll, Prog.bind_of_returns (deref_of_live hobject)]
    exact ih fun u hu => hlive u (List.mem_cons_of_mem t hu)

/-- A block handle that stands for a block points to it. -/
theorem stored_of_stands {n : Nat} {block : core.CBlock}
    (h : Stands m (some (.object n : Ptr .block)) (some block)) :
    ∃ stored, m.objects.cell n = some ⟨.block, stored⟩ ∧ stored.block = block ∧
      ((native core).loadObject .block n : Prog _ ε _) m = (.returns stored, m) := by
  obtain ⟨stored, hget, hread, hblock⟩ := @get_of_stands _ ε _ _ _ _ h
  obtain ⟨o, ho, hos⟩ := Option.bind_eq_some_iff.mp hread
  obtain rfl := Object.as?_eq_some.mp hos
  exact ⟨stored, ho, Option.some.inj hblock, hget⟩

theorem block_value (hs : Sound m) {self : Option (Ptr .block)} {v : Option core.CBlock}
    (h : Stands m self v) :
    (Runtime.Block.value (native core) self : Prog _ ε _) m = (Api.get v, m) := by
  rcases self with _ | p <;> rcases v with _ | v
  · rfl
  · exact h.elim
  · exact h.elim
  · obtain ⟨n⟩ := p
    obtain ⟨stored, hn, rfl, hload⟩ := @stored_of_stands _ ε _ _ _ h
    have hderef : ((native core).derefAll stored.vtx : Prog _ ε Unit) m = (.returns (), m) :=
      derefAll_run fun t ht => hs.transaction_live hn ht
    have hget : ((native core).get (some (.object n : Ptr .block)) : Prog _ ε _) m
        = (.returns stored, m) := hload
    rw [Runtime.Block.value, Prog.bind_of_returns hget, Prog.bind_of_returns hderef]
    rfl

theorem getAll_run : ∀ {ps : List (Option (Ptr .transactionOutput))} {vs : List (Option CTxOut)},
    List.Forall₂ (Stands m) ps vs →
    (Runtime.ScriptPubkey.getAll (native core) ps : Prog _ Exception _) m = (getAll vs, m) := by
  intro ps vs h
  induction h with
  | nil => rfl
  | @cons p v ps vs hp _ ih =>
    have hget := @get_output _ Exception _ _ _ hp
    rw [Runtime.ScriptPubkey.getAll, getAll]
    cases v with
    | none => exact Prog.bind_of_faults hget _
    | some out =>
      rw [Prog.bind_of_returns hget]
      show ((Runtime.ScriptPubkey.getAll (native core) ps : Prog _ Exception _) >>=
        fun outs => pure (out :: outs)) m = (getAll vs >>= fun xs => .returns (out :: xs), m)
      cases hvs : getAll vs with
      | returns outs =>
        rw [hvs] at ih
        exact Prog.bind_of_returns ih _
      | throws e =>
        rw [hvs] at ih
        exact Prog.bind_of_throws ih _
      | faults u =>
        rw [hvs] at ih
        exact Prog.bind_of_faults ih _

end

/-! ## Functions over memory and functions over objects -/

/--
`x` works on memory in which `pre` holds, and `y` on objects. They come to the same end, with
results that are related, and they do the same to the error records.
-/
def OnValues {ε α β : Type} (pre : Native core → Prop) (x : Prog (Native core) ε α)
    (y : Prog Memory ε β) (post : Native core → α → β → Prop) : Prop :=
  Simulation (fun m e => (Sound m ∧ m.errors = e) ∧ pre m) x y
    ⟨fun a b m e => (Sound m ∧ m.errors = e) ∧ post m a b, fun _ m e => Sound m ∧ m.errors = e⟩

namespace OnValues

variable {ε α β : Type} {pre : Native core → Prop} {x : Prog (Native core) ε α}
  {y : Prog Memory ε β} {post : Native core → α → β → Prop}

/-- A function that reads. -/
theorem of_read {z : Outcome ε β} (hx : ∀ m, Sound m → pre m → ∃ out, x m = (out, m) ∧
    out.Related (post m) z) : OnValues pre x (Prog.lift z) post := by
  rintro m e ⟨⟨hs, he⟩, hpre⟩
  obtain ⟨out, hrun, hout⟩ := hx m hs hpre
  rw [hrun, Prog.lift_run]
  cases out <;> cases z <;> first
    | exact ⟨⟨hs, he⟩, hout⟩
    | exact ⟨hout, hs, he⟩
    | exact hout

/-- A function that reads, and comes to the same end. -/
theorem of_eq {x : Prog (Native core) ε α} {z : Outcome ε α}
    (hx : ∀ m, Sound m → pre m → x m = (z, m)) :
    OnValues pre x (Prog.lift z) fun m a b => a = b ∧ pre m := by
  refine of_read fun m hs hpre => ⟨z, hx m hs hpre, ?_⟩
  cases z with
  | returns a => exact ⟨rfl, hpre⟩
  | throws e => rfl
  | faults u => rfl

theorem bind {γ δ : Type} {mid : Native core → α → β → Prop} {f : α → Prog (Native core) ε γ}
    {g : β → Prog Memory ε δ} {post : Native core → γ → δ → Prop} (hx : OnValues pre x y mid)
    (hf : ∀ a b, OnValues (fun m => mid m a b) (f a) (g b) post) :
    OnValues pre (x >>= f) (y >>= g) post :=
  Simulation.bind hx hf

/-- What comes after a function that reads. -/
theorem bind_eq {γ δ : Type} {x : Prog (Native core) ε α} {y : Prog Memory ε α}
    {f : α → Prog (Native core) ε γ} {g : α → Prog Memory ε δ} {post : Native core → γ → δ → Prop}
    (hx : OnValues pre x y fun m a b => a = b ∧ pre m) (hf : ∀ a, OnValues pre (f a) (g a) post) :
    OnValues pre (x >>= f) (y >>= g) post := by
  refine hx.bind fun a b m e => ?_
  rintro ⟨hs, rfl, hpre⟩
  exact hf a m e ⟨hs, hpre⟩

/-- The same code on both sides that does not touch memory. -/
theorem lift (z : Outcome ε α) :
    OnValues pre (Prog.lift z) (Prog.lift z) fun m a b => a = b ∧ pre m :=
  of_eq fun _ _ _ => rfl

/-- The same code on both sides that works on something else. -/
theorem onOther {υ : Type} (x : Prog υ ε α) (other : υ) :
    OnValues pre (Runtime.onOther x other) (Runtime.onOther x other)
      fun m a b => a = b ∧ pre m := by
  rintro m e ⟨hs, hpre⟩
  unfold Runtime.onOther
  rcases x other with ⟨out, other'⟩
  cases out with
  | returns a => exact ⟨hs, rfl, hpre⟩
  | throws ex => exact ⟨rfl, hs⟩
  | faults u => rfl

theorem pure {a : α} {b : β} (h : ∀ m, pre m → post m a b) :
    OnValues pre (Pure.pure a : Prog (Native core) ε α) (Pure.pure b) post :=
  Simulation.pure fun m _ hm => ⟨hm.1, h m hm.2⟩

theorem imp {pre' : Native core → Prop} {post' : Native core → α → β → Prop}
    (h : OnValues pre x y post) (hpre : ∀ m, pre' m → pre m)
    (hpost : ∀ m a b, post m a b → post' m a b) : OnValues pre' x y post' :=
  Simulation.imp h (fun m _ hm => ⟨hm.1, hpre m hm.2⟩) (fun a b m _ hm => ⟨hm.1, hpost m a b hm.2⟩)
    fun _ _ _ hm => hm

/-- The error records are the same on both sides. -/
theorem onErrors (t : Prog Memory ε β) :
    OnValues pre (Prog.within (native core).errors t) t fun _ a b => a = b := by
  rintro m e ⟨⟨hs, rfl⟩, -⟩
  have hsound := hs.set_errors
  rcases hrun : t m.errors with ⟨out, errors⟩
  rw [Prog.within_run (native core).errors hrun]
  cases out with
  | returns a => exact ⟨⟨hsound errors, rfl⟩, rfl⟩
  | throws ex => exact ⟨rfl, hsound errors, rfl⟩
  | faults u => rfl

/-- `WrapFn` does the same on both sides. -/
theorem wrapFn {Ret Ret' : Type} [Inhabited Ret] [Inhabited Ret'] (err : Bool)
    {x : Prog (Native core) Exception Ret} {z : Outcome Exception Ret'}
    {post : Native core → Ret → Ret' → Prop} (hx : OnValues pre x (Prog.lift z) post)
    (hdefault : ∀ m, post m default default) :
    OnValues pre ((native core).wrapFn err x : Prog _ ε _) (Btck.wrapFn err z)
      (fun m a b => post m a.1 b.1 ∧ a.2 = b.2) := by
  have hwrap : (Btck.wrapFn err z : Prog Memory ε (Ret' × Option ErrorPtr))
      = Prog.catchAll (Prog.lift z >>= fun r => Pure.pure (r, none)) fun e =>
        if err then translateException e >>= fun p => Pure.pure (default, some p)
        else Pure.pure (default, none) := by
    funext e
    cases z <;> rfl
  rw [hwrap]
  refine Simulation.catchAll (hx.bind fun a b => pure fun m hm => ⟨hm, rfl⟩) fun e => ?_
  have hhandler : OnValues (fun _ => True)
      (if err then Prog.within (native core).errors (translateException e) >>= fun p =>
        Pure.pure (default, some p) else Pure.pure (default, none) :
          Prog (Native core) ε (Ret × Option ErrorPtr))
      (if err then translateException e >>= fun p => Pure.pure (default, some p)
        else Pure.pure (default, none)) fun m a b => post m a.1 b.1 ∧ a.2 = b.2 := by
    cases err with
    | false => exact pure fun m _ => ⟨hdefault m, rfl⟩
    | true =>
      exact (onErrors (translateException e)).bind fun a b => pure fun m hab =>
        ⟨hdefault m, congrArg some hab⟩
  exact fun m e h => hhandler m e ⟨h, trivial⟩

end OnValues

/-! ## Creating -/

/-- `Native.whole`, where nothing is counted. -/
def Collected.whole (c : Collected core) : {k : Kind} → CppType core k → Option (Value core k)
  | .block, stored => some (StoredBlock.block stored)
  | .transaction, t => c.transactions[(t : Nat)]?
  | .transactionOutput, out => some out
  | .scriptPubkey, script => some script

/-- On memory that is collected, a new object was made, or none. The error records are the same. -/
def Makes {k : Kind} (c : Collected core) (z : Outcome Exception (Option (Value core k)))
    (run : Outcome Exception (Option (Ptr k)) × Collected core) : Prop :=
  match z with
  | .returns v => ∃ n x, run.1 = .returns (some (.object n)) ∧ run.2.errors = c.errors ∧
      run.2.objects.cell n = some ⟨k, x⟩ ∧ run.2.whole x = v ∧ v ≠ none
  | .throws e => run.1 = .throws e ∧ run.2.errors = c.errors
  | .faults u => run.1 = .faults u

section

variable {m : Native core} {c : Collected core} {k : Kind}

theorem whole_eq (h : Agree 0 m c) {n : Nat} {x : CppType core k}
    (hn : c.objects.cell n = some ⟨k, x⟩) : m.whole x = c.whole x := by
  cases k with
  | block => rfl
  | transaction =>
    have hn' : m.objects.cell n = some ⟨.transaction, x⟩ := h.objects ▸ hn
    have hsound : Sound m := ⟨c, h⟩
    obtain ⟨object, hobject⟩ := hsound.transaction_live hn' (List.mem_singleton_self (x : Nat))
    show (m.transactions.cell x).map (·.value) = c.transactions[(x : Nat)]?
    rw [hobject, h.value hobject, Option.map_some]
  | transactionOutput => rfl
  | scriptPubkey => rfl

/-- What can be put together where references are counted, can be where they are not. -/
theorem collected_whole (h : Agree 0 m c) {x : CppType core k} {v : Value core k}
    (hx : m.whole x = some v) : c.whole x = some v := by
  cases k with
  | block => exact hx
  | transaction =>
    obtain ⟨object, hobject, rfl⟩ := Option.map_eq_some_iff.mp hx
    exact h.value hobject
  | transactionOutput => exact hx
  | scriptPubkey => exact hx

theorem stands_of_agree (h : Agree 0 m c) {n : Nat} {x : CppType core k} {v : Value core k}
    (hn : c.objects.cell n = some ⟨k, x⟩) (hx : c.whole x = some v) :
    Stands m (some (.object n)) (some v) := by
  have hn' : m.objects.cell n = some ⟨k, x⟩ := h.objects ▸ hn
  show (m.read? (.object n)).bind m.whole = some v
  rw [Native.read?, hn', Option.bind_some, Object.as?_mk, Option.bind_some, whole_eq h hn, hx]

/-- What a function does to memory that is collected says what it does on values. -/
theorem OnValues.of_makes {pre : Native core → Prop}
    {x : Prog (Native core) Exception (Option (Ptr k))}
    {y : Prog (Collected core) Exception (Option (Ptr k))} (hxy : Alike x y)
    {z : Outcome Exception (Option (Value core k))}
    (hy : ∀ m c, Agree 0 m c → pre m → Makes c z (y c)) :
    OnValues pre x (Prog.lift z) fun m => Stands m := by
  rintro m e ⟨⟨⟨c, hc⟩, rfl⟩, hpre⟩
  have hmakes := hy m c hc hpre
  have hend := hxy m c hc
  rcases hrun : x m with ⟨out, m'⟩
  rcases hrun' : y c with ⟨out', c'⟩
  rw [hrun, hrun'] at hend
  rw [hrun'] at hmakes
  rw [Prog.lift_run]
  cases z with
  | returns v =>
    obtain ⟨n, data, rfl, herrors, hn, hv, hne⟩ := hmakes
    obtain ⟨v, rfl⟩ := Option.ne_none_iff_exists'.mp hne
    cases out with
    | returns p =>
      obtain ⟨rfl, hc'⟩ := hend
      have hm : m'.errors = m.errors := by rw [hc'.errors, herrors, hc.errors]
      exact ⟨⟨⟨c', hc'⟩, hm⟩, stands_of_agree hc' hn hv⟩
    | throws _ => exact hend.elim
    | faults _ => exact hend.elim
  | throws ex =>
    obtain ⟨rfl, herrors⟩ := hmakes
    cases out with
    | returns _ => exact hend.elim
    | throws ex' =>
      obtain ⟨rfl, hc'⟩ := hend
      have hm : m'.errors = m.errors := by rw [hc'.errors, herrors, hc.errors]
      exact ⟨rfl, ⟨c', hc'⟩, hm⟩
    | faults _ => exact hend.elim
  | faults u =>
    have hfault : out' = .faults u := hmakes
    subst hfault
    cases out with
    | returns _ => exact hend.elim
    | throws _ => exact hend.elim
    | faults _ => exact hend

/-- A new object in memory that is collected. -/
theorem create_makes (ok : Bool) (x : CppType core k) {c₁ : Collected core}
    (herrors : c₁.errors = c.errors) {v : Value core k} (hx : c₁.whole x = some v) :
    Makes c (Api.create ok v) ((collected core).create ok k x c₁) := by
  cases ok with
  | false => exact ⟨rfl, herrors⟩
  | true =>
    refine ⟨c₁.objects.next, x, rfl, herrors, Function.update_self .., ?_, Option.some_ne_none v⟩
    rw [← hx]
    cases k <;> rfl

/-- To read is the same on both sides, and changes nothing. -/
theorem collected_get {ε : Type} (h : Agree 0 m c) {self : Option (Ptr k)} {x : CppType core k}
    (hrun : ((native core).get self : Prog _ ε _) m = (.returns x, m)) :
    ((collected core).get self : Prog _ ε _) c = (.returns x, c) := by
  have hread : ∀ n, Advances (Same id) ((collected core).read n : Prog _ ε _) := by
    intro n c
    show (Prog.within Collected.objectsPart (Heap.read n : Prog _ ε _) c).2 = c
    cases hn : c.objects.cell n with
    | none => rw [Prog.within_run Collected.objectsPart (Heap.read_of_dead hn)]; rfl
    | some o => rw [Prog.within_run Collected.objectsPart (Heap.read_of_live hn)]; rfl
  have hderef : ∀ t, Advances (Same id) ((collected core).deref t : Prog _ ε _) := by
    intro t c
    simp only [Same, id, collected]
    split <;> rfl
  have hsame : ((collected core).get self c).2 = c := get_advances hread hderef self c
  obtain ⟨c', hrun', -⟩ := (get_loads self).alike.agree h hrun
  rw [hrun'] at hsame ⊢
  rw [show c' = c from hsame]

theorem collected_makeAll {ε : Type} : ∀ (txs : List core.CTransaction) (c : Collected core),
    ∃ ts, ((collected core).makeAll txs : Prog _ ε _) c
      = (.returns ts, { c with transactions := c.transactions ++ txs }) := by
  intro txs
  induction txs with
  | nil =>
    intro c
    refine ⟨[], ?_⟩
    rw [List.append_nil]
    rfl
  | cons tx txs ih =>
    intro c
    obtain ⟨ts, hrun⟩ := ih { c with transactions := c.transactions ++ [tx] }
    refine ⟨c.transactions.length :: ts, ?_⟩
    have hfirst : ((collected core).makeShared tx : Prog _ ε _) c
        = (.returns c.transactions.length, { c with transactions := c.transactions ++ [tx] }) := rfl
    rw [Runtime.makeAll, Prog.bind_of_returns hfirst, Prog.bind_of_returns hrun]
    simp

/-- A local block that is moved into a new object. -/
theorem createMoved_makes (ok : Bool) (block : core.CBlock) :
    Makes c (Api.create ok block) (Runtime.Block.createMoved (collected core) ok block c) := by
  obtain ⟨ts, hmake⟩ := collected_makeAll (ε := Exception) (core.vtx block).toList c
  rw [Runtime.Block.createMoved, Prog.bind_of_returns hmake]
  have hcreate : Makes c (Api.create ok block) ((collected core).create ok .block ⟨block, ts⟩
      { c with transactions := c.transactions ++ (core.vtx block).toList }) :=
    create_makes ok _ rfl rfl
  cases ok with
  | false =>
    have hthrow : (collected core).create false .block ⟨block, ts⟩
        { c with transactions := c.transactions ++ (core.vtx block).toList } = (.throws _, _) := rfl
    rw [Prog.onThrow_of_throws hthrow (collected_releaseAll ts _)]
    exact ⟨rfl, rfl⟩
  | true =>
    have hreturn : (collected core).create true .block ⟨block, ts⟩
        { c with transactions := c.transactions ++ (core.vtx block).toList } = (.returns _, _) := rfl
    rw [hreturn] at hcreate
    rw [Prog.onThrow_of_returns hreturn]
    exact hcreate

/-- A local transaction that is moved into a new object. -/
theorem transaction_makes (ok : Bool) (tx : core.CTransaction) :
    Makes c (Api.create ok tx)
      (((collected core).makeShared tx >>= fun t =>
        Prog.onThrow ((collected core).create ok .transaction t) ((collected core).release t)) c) := by
  have htx : (c.transactions ++ [tx])[c.transactions.length]? = some tx := by
    rw [List.getElem?_append_right le_rfl, Nat.sub_self]
    rfl
  have hcreate : Makes c (Api.create ok tx) ((collected core).create ok .transaction
      c.transactions.length { c with transactions := c.transactions ++ [tx] }) :=
    create_makes ok _ rfl htx
  cases ok with
  | false => exact ⟨rfl, rfl⟩
  | true => exact hcreate

/-- What comes before the object is made is the same on both sides. -/
theorem Makes.lift_bind {α : Type} {d : Outcome Exception α}
    {f : α → Prog (Collected core) Exception (Option (Ptr k))}
    {g : α → Outcome Exception (Option (Value core k))} (hf : ∀ a, Makes c (g a) (f a c)) :
    Makes c (d >>= g) ((Prog.lift d >>= f) c) := by
  cases d with
  | returns a => exact hf a
  | throws e => exact ⟨rfl, rfl⟩
  | faults u => exact rfl

end

/-! ## The functions that create -/

theorem transaction_newBody_eq (alloc : Nat → Bool) (raw : Bytes) :
    Transaction.newBody core alloc raw
      = Runtime.Transaction.deserialize core alloc raw >>= Api.create (alloc 2) := by
  unfold Transaction.newBody Runtime.Transaction.deserialize
  cases alloc 0 with
  | false => rfl
  | true =>
    cases alloc 1 with
    | false => rfl
    | true =>
      simp only [allocate_true, Outcome.returns_bind]
      cases core.tx.unserialize raw <;> rfl

theorem block_newBody_eq (alloc : Nat → Bool) (raw : Bytes) :
    Block.newBody core alloc raw
      = Runtime.Block.deserialize core alloc raw >>= Api.create (alloc 1) := by
  unfold Block.newBody Runtime.Block.deserialize
  cases alloc 0 with
  | false => rfl
  | true =>
    simp only [allocate_true, Outcome.returns_bind]
    cases core.block.unserialize raw <;> rfl

theorem getBlockBody_eq (self : ChainstateManager core) (alloc : Nat → Bool) (idx : UInt64) :
    Chain.getBlockBody self alloc idx
      = Runtime.Chain.readBlock self idx >>= Api.create (alloc 0) := by
  unfold Chain.getBlockBody Runtime.Chain.readBlock
  cases self.activeChain idx.toUInt32.toInt32 with
  | none => rfl
  | some bi =>
    dsimp only
    cases self.readBlock bi <;> rfl

namespace OnValues

variable {pre : Native core → Prop}

theorem scriptPubkeyNew (alloc : Nat → Bool) (raw : Bytes) :
    OnValues pre (Runtime.ScriptPubkey.newBody (native core) alloc raw)
      (Prog.lift (ScriptPubkey.newBody alloc raw)) fun m => Stands m :=
  of_makes (congruent_alike.createScript (alloc 0) raw) fun _ _ _ _ =>
    create_makes (alloc 0) _ rfl rfl

theorem transactionNew (alloc : Nat → Bool) (raw : Bytes) :
    OnValues pre (Runtime.Transaction.newBody (native core) alloc raw)
      (Prog.lift (Transaction.newBody core alloc raw)) fun m => Stands m := by
  rw [transaction_newBody_eq]
  exact of_makes (transactionNewBody_alike alloc raw) fun _ _ _ _ =>
    Makes.lift_bind fun tx => transaction_makes (alloc 2) tx

theorem blockNew (alloc : Nat → Bool) (raw : Bytes) :
    OnValues pre (Runtime.Block.newBody (native core) alloc raw)
      (Prog.lift (Block.newBody core alloc raw)) fun m => Stands m := by
  rw [block_newBody_eq]
  exact of_makes ((Alike.lift _).bind (createMoved_alike (alloc 1))) fun _ _ _ _ =>
    Makes.lift_bind fun block => createMoved_makes (alloc 1) block

theorem getBlock (self : ChainstateManager core) (alloc : Nat → Bool) (idx : UInt64) :
    OnValues pre (Runtime.Chain.getBlockBody (native core) self alloc idx)
      (Prog.lift (Chain.getBlockBody self alloc idx)) fun m => Stands m := by
  rw [getBlockBody_eq]
  exact of_makes ((Alike.lift _).bind (createMoved_alike (alloc 0))) fun _ _ _ _ =>
    Makes.lift_bind fun block => createMoved_makes (alloc 0) block

theorem transactionOutputNew (alloc : Nat → Bool) (amount : Int64)
    {scriptPubkey : Option (Ptr .scriptPubkey)} {v : Option CScript} :
    OnValues (fun m => Stands m scriptPubkey v)
      (Runtime.TransactionOutput.newBody (native core) alloc amount scriptPubkey)
      (Prog.lift (TransactionOutput.newBody alloc amount v)) fun m => Stands m := by
  have halike : Alike (Runtime.TransactionOutput.newBody (native core) alloc amount scriptPubkey)
      (Runtime.TransactionOutput.newBody (collected core) alloc amount scriptPubkey) :=
    (congruent_alike.get scriptPubkey).bind fun script => congruent_alike.createOutput _ _
  refine of_makes halike fun m c h hstands => ?_
  have hget := @get_script _ Exception _ _ _ hstands
  cases v with
  | none =>
    rcases scriptPubkey with _ | p
    · exact rfl
    · exact hstands.elim
  | some script =>
    rw [Runtime.TransactionOutput.newBody, Prog.bind_of_returns (collected_get h hget)]
    exact create_makes (alloc 0) _ rfl rfl

/-- A copy stands for what its original stands for. -/
theorem copyBody (ok : Bool) {k : Kind} {self : Option (Ptr k)} {v : Option (Value core k)} :
    OnValues (fun m => Stands m self v) ((native core).copyBody ok self)
      (Prog.lift (Api.copyBody ok v)) fun m => Stands m := by
  refine of_makes (copyBody_alike ok self) fun m c h hstands => ?_
  rcases self with _ | p <;> rcases v with _ | v
  · exact rfl
  · exact hstands.elim
  · exact hstands.elim
  · obtain ⟨x, hget, -, hx⟩ := @get_of_stands _ Exception _ _ _ _ hstands
    have hwhole : c.whole x = some v := collected_whole h hx
    have hcreate : Makes c (Api.create ok v) ((collected core).create ok k x c) :=
      create_makes ok x rfl hwhole
    show Makes c (Api.create ok v) _
    rw [Runtime.copyBody, Prog.bind_of_returns (collected_get h hget)]
    cases ok with
    | false => exact hcreate
    | true =>
      have hok : (Prog.lift (allocate true ()) : Prog (Collected core) Exception Unit) c
          = (.returns (), c) := rfl
      rw [Prog.bind_of_returns hok, Prog.bind_of_returns (collected_shareAll _ c)]
      exact hcreate

end OnValues

/-! ## The functions that read -/

namespace OnValues

variable {ε υ : Type} {pre : Native core → Prop}

theorem getScript {self : Option (Ptr .scriptPubkey)} {v : Option CScript}
    (h : ∀ m, pre m → Stands m self v) :
    OnValues pre ((native core).get self : Prog _ ε CScript) (Prog.lift (Api.get v))
      fun m a b => a = b ∧ pre m :=
  of_eq fun m _ hpre => get_script (h m hpre)

theorem getOut {self : Option (Ptr .transactionOutput)} {v : Option CTxOut}
    (h : ∀ m, pre m → Stands m self v) :
    OnValues pre ((native core).get self : Prog _ ε CTxOut) (Prog.lift (Api.get v))
      fun m a b => a = b ∧ pre m :=
  of_eq fun m _ hpre => get_output (h m hpre)

theorem transactionValue {self : Option (Ptr .transaction)} {v : Option core.CTransaction}
    (h : ∀ m, pre m → Stands m self v) :
    OnValues pre (Runtime.Transaction.value (native core) self : Prog _ ε _)
      (Prog.lift (Api.get v)) fun m a b => a = b ∧ pre m :=
  of_eq fun m _ hpre => transaction_value (h m hpre)

theorem blockValue {self : Option (Ptr .block)} {v : Option core.CBlock}
    (h : ∀ m, pre m → Stands m self v) :
    OnValues pre (Runtime.Block.value (native core) self : Prog _ ε _) (Prog.lift (Api.get v))
      fun m a b => a = b ∧ pre m :=
  of_eq fun m hs hpre => block_value hs (h m hpre)

theorem equal {left right : Option (Ptr .scriptPubkey)} {l r : Option CScript} :
    OnValues (fun m => Stands m left l ∧ Stands m right r)
      (Runtime.ScriptPubkey.equal (native core) left right : Prog _ ε _)
      (Prog.lift (ScriptPubkey.equal l r)) fun _ a b => a = b := by
  have hvalues : (Prog.lift (ScriptPubkey.equal l r) : Prog Memory ε Int32)
      = Prog.lift (Api.get l) >>= fun a => Prog.lift (Api.get r) >>= fun b =>
        Prog.lift (ScriptPubkey.equal (some a) (some b)) := by
    cases l <;> cases r <;> rfl
  rw [hvalues]
  exact bind_eq (getScript fun _ h => h.1) fun a => bind_eq (getScript fun _ h => h.2) fun b =>
    (lift _).imp (fun _ h => h) fun _ _ _ h => h.1

/-- A function that hands the object on, such as to a callback. -/
theorem handOn {α β τ : Type} {x : Prog (Native core) ε α} {v : Option α}
    (hx : OnValues pre x (Prog.lift (Api.get v)) fun m a b => a = b ∧ pre m)
    (f : Option α → Prog τ ε β) (other : τ) (hnull : f none other = (.faults .nullDeref, other)) :
    OnValues pre (x >>= fun a => Runtime.onOther (f (some a)) other)
      (Runtime.onOther (f v) other) fun _ a b => a = b := by
  have hvalues : (Runtime.onOther (f v) other : Prog Memory ε _)
      = Prog.lift (Api.get v) >>= fun a => Runtime.onOther (f (some a)) other := by
    cases v with
    | none =>
      funext e
      simp only [Runtime.onOther, hnull]
      rfl
    | some a => rfl
  rw [hvalues]
  exact bind_eq hx fun a => (onOther _ _).imp (fun _ h => h) fun _ _ _ h => h.1

/-- A function that works out something of the object. -/
theorem workOut {α β : Type} {x : Prog (Native core) ε α} {v : Option α}
    (hx : OnValues pre x (Prog.lift (Api.get v)) fun m a b => a = b ∧ pre m) (f : α → β) :
    OnValues pre (x >>= fun a => Pure.pure (f a))
      (Prog.lift (Api.get v >>= fun a => Outcome.returns (f a))) fun _ a b => a = b := by
  rw [Prog.lift_bind]
  exact bind_eq hx fun a => pure fun _ _ => rfl

theorem getHash {self : Option (Ptr .block)} {v : Option core.CBlock} :
    OnValues (fun m => Stands m self v) (Runtime.Block.getHash (native core) self : Prog _ ε _)
      (Prog.lift (Block.getHash core v)) fun _ a b => a = b := by
  refine of_read fun m _ hstands => ?_
  rcases self with _ | p <;> rcases v with _ | block
  · exact ⟨_, rfl, rfl⟩
  · exact hstands.elim
  · exact hstands.elim
  · obtain ⟨n⟩ := p
    obtain ⟨stored, -, rfl, hload⟩ := @stored_of_stands _ ε _ _ _ hstands
    exact ⟨_, Prog.bind_of_returns hload _, rfl⟩

theorem countTransactions {self : Option (Ptr .block)} {v : Option core.CBlock} :
    OnValues (fun m => Stands m self v)
      (Runtime.Block.countTransactions (native core) self : Prog _ ε _)
      (Prog.lift (Block.countTransactions core v)) fun _ a b => a = b := by
  refine of_read fun m hs hstands => ?_
  rcases self with _ | p <;> rcases v with _ | block
  · exact ⟨_, rfl, rfl⟩
  · exact hstands.elim
  · exact hstands.elim
  · obtain ⟨n⟩ := p
    obtain ⟨stored, hn, rfl, hload⟩ := @stored_of_stands _ ε _ _ _ hstands
    exact ⟨_, Prog.bind_of_returns hload _, congrArg UInt64.ofNat (hs.vtx_length hn)⟩

theorem verifyBody (alloc : Nat → Bool) (amount : Int64) (inputIndex flags : UInt32)
    {scriptPubkey : Option (Ptr .scriptPubkey)} {script : Option CScript}
    {tx : Option (Ptr .transaction)} {txTo : Option core.CTransaction}
    {spentOutputs : List (Option (Ptr .transactionOutput))} {outputs : List (Option CTxOut)} :
    OnValues (fun m => Stands m scriptPubkey script ∧ Stands m tx txTo ∧
        List.Forall₂ (Stands m) spentOutputs outputs)
      (Runtime.ScriptPubkey.verifyBody (native core) alloc scriptPubkey amount tx spentOutputs
        inputIndex flags)
      (Prog.lift (ScriptPubkey.verifyBody core alloc script amount txTo outputs inputIndex flags))
      fun _ a b => a = b := by
  have hvalues : ScriptPubkey.verifyBody core alloc script amount txTo outputs inputIndex flags
      = Api.get script >>= fun s => Api.get txTo >>= fun t => Btck.getAll outputs >>= fun outs =>
        ScriptPubkey.verifyBody core alloc (some s) amount (some t) (outs.map some) inputIndex
          flags := by
    unfold ScriptPubkey.verifyBody
    simp only [getAll_some]
    rfl
  rw [hvalues, Prog.lift_bind]
  refine bind_eq (getScript fun _ h => h.1) fun s => ?_
  show OnValues _ ((native core).get tx >>= fun ref => (native core).deref ref >>= _) _ _
  rw [← Prog.bind_assoc, Prog.lift_bind]
  refine bind_eq (transactionValue fun _ h => h.2.1) fun t => ?_
  rw [Prog.lift_bind]
  refine bind_eq (of_eq fun m _ h => getAll_run h.2.2) fun outs => ?_
  exact (lift _).imp (fun _ h => h) fun _ _ _ h => h.1

/-! ### The functions that return a pointer into an object -/

theorem getScriptPubkey {self : Option (Ptr .transactionOutput)} {v : Option CTxOut} :
    OnValues (fun m => Stands m self v)
      (Runtime.TransactionOutput.getScriptPubkey (native core) self : Prog _ ε _)
      (Prog.lift (TransactionOutput.getScriptPubkey v)) fun m => Stands m := by
  refine of_read fun m _ hstands => ?_
  rcases self with _ | p <;> rcases v with _ | out
  · exact ⟨_, rfl, rfl⟩
  · exact hstands.elim
  · exact hstands.elim
  · obtain ⟨x, hget, hread, hx⟩ := @get_of_stands _ ε _ _ _ _ hstands
    have hscript : m.value? (.scriptPubKey p) = some out.scriptPubKey := by
      rw [Native.value?, Native.read?, hread, Option.map_some, Option.bind_some,
        Option.some.inj hx]
      rfl
    exact ⟨_, Prog.bind_of_returns hget _, hscript⟩

theorem getOutput {self : Option (Ptr .transaction)} {v : Option core.CTransaction} (idx : UInt64) :
    OnValues (fun m => Stands m self v)
      (Runtime.Transaction.getOutput (native core) self idx : Prog _ ε _)
      (Prog.lift (Transaction.getOutput core v idx)) fun m => Stands m := by
  refine of_read fun m _ hstands => ?_
  rcases self with _ | p <;> rcases v with _ | tx
  · exact ⟨_, rfl, rfl⟩
  · exact hstands.elim
  · exact hstands.elim
  · obtain ⟨t, hget, -, ht⟩ := @get_of_stands _ ε _ _ _ _ hstands
    obtain ⟨object, hobject, rfl⟩ := Option.map_eq_some_iff.mp ht
    rw [Runtime.Transaction.getOutput, Prog.bind_of_returns hget,
      Prog.bind_of_returns (deref_of_live hobject)]
    show ∃ out, ((Prog.lift ((core.vout object.value).get idx.toNat) : Prog _ ε CTxOut) >>= fun _ =>
        Pure.pure (some (Ptr.vout t idx.toNat))) m = (out, m) ∧
      out.Related (Stands m) ((core.vout object.value).get idx.toNat >>= fun out => .returns (some out))
    unfold Vec.get
    cases hout : (core.vout object.value).toList[idx.toNat]? with
    | none => exact ⟨_, rfl, rfl⟩
    | some out =>
      have hvalue : m.value? (.vout t idx.toNat) = some out := by
        rw [Native.value?, Native.read?, hobject, Option.bind_some, hout]
        rfl
      exact ⟨_, rfl, hvalue⟩

theorem getTransaction {self : Option (Ptr .block)} {v : Option core.CBlock} (idx : UInt64) :
    OnValues (fun m => Stands m self v)
      (Runtime.Block.getTransaction (native core) self idx : Prog _ ε _)
      (Prog.lift (Block.getTransaction core v idx)) fun m => Stands m := by
  refine of_read fun m hs hstands => ?_
  rcases self with _ | p <;> rcases v with _ | block
  · exact ⟨_, rfl, rfl⟩
  · exact hstands.elim
  · exact hstands.elim
  · obtain ⟨n⟩ := p
    obtain ⟨stored, hn, rfl, hload⟩ := @stored_of_stands _ ε _ _ _ hstands
    have hvtx := congrArg (·[idx.toNat]?) (hs.vtx_eq hn)
    simp only [List.getElem?_map] at hvtx
    rw [Runtime.Block.getTransaction, Prog.bind_of_returns hload]
    show ∃ out, ((Prog.lift (Runtime.subscript stored.vtx idx.toNat) : Prog _ ε Nat) >>= fun _ =>
        Pure.pure (some (Ptr.vtx n idx.toNat))) m = (out, m) ∧
      out.Related (Stands m) ((core.vtx stored.block).get idx.toNat >>= fun tx => .returns (some tx))
    unfold Vec.get Runtime.subscript
    cases htx : (core.vtx stored.block).toList[idx.toNat]? with
    | none =>
      rw [htx] at hvtx
      rw [Option.map_eq_none_iff.mp hvtx]
      exact ⟨_, rfl, rfl⟩
    | some tx =>
      rw [htx] at hvtx
      obtain ⟨t, ht, hvalue⟩ := Option.map_eq_some_iff.mp hvtx
      rw [ht]
      refine ⟨_, rfl, ?_⟩
      show (m.read? (.vtx n idx.toNat)).bind m.whole = some tx
      rw [Native.read?, hn, Option.bind_some, Object.as?_mk, Option.bind_some, ht]
      exact hvalue

/-! ### The functions that free -/

/-- An object of the program's own can be freed. -/
theorem free {k : Kind} {n : Nat} {x : CppType core k} :
    OnValues (fun m => m.objects.cell n = some ⟨k, x⟩)
      ((native core).free (some (.object n : Ptr k)) : Prog _ ε Unit) (Pure.pure ())
      fun _ _ _ => True := by
  rintro m e ⟨⟨⟨c, hc⟩, rfl⟩, hn⟩
  have hlive : (c.objects.cell n).isSome := by rw [← hc.objects, hn]; rfl
  have hread : m.read? (.object n) = some x := by
    rw [Native.read?, hn, Option.bind_some, Object.as?_mk]
  have hload : ((native core).get (some (.object n : Ptr k)) : Prog _ ε _) m = (.returns x, m) := by
    rw [Runtime.get, load_run, hread]
    rfl
  -- where references are not counted, to free an object is to drop it
  have hfree : ∃ c', ((collected core).free (some (.object n : Ptr k)) : Prog _ ε Unit) c
      = (.returns (), c') ∧ c'.errors = c.errors := by
    have hload' : ((collected core).loadObject k n : Prog _ ε _) c = (.returns x, c) :=
      collected_get hc hload
    rw [Runtime.free, Prog.bind_of_returns hload', Prog.bind_of_returns (collected_releaseAll _ c)]
    exact ⟨_, Prog.within_run Collected.objectsPart (Heap.free_of_live hlive), rfl⟩
  obtain ⟨c', hrun', herrors⟩ := hfree
  have hend := @free_alike _ ε _ (some (.object n : Ptr k)) m c hc
  rw [hrun'] at hend
  rcases hrun : ((native core).free (some (.object n : Ptr k)) : Prog _ ε Unit) m with ⟨out, m'⟩
  rw [hrun] at hend
  cases out with
  | returns u =>
    obtain ⟨-, hc'⟩ := hend
    exact ⟨⟨⟨c', hc'⟩, by rw [hc'.errors, herrors, hc.errors]⟩, trivial⟩
  | throws e => exact hend.elim
  | faults u => exact hend.elim

end OnValues

end Btck
