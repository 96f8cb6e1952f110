import Btck.Error

/-!
# What an error record says, and that it can be given back

`BtcK_Error_New` has four ends: the record is complete, or one of the three allocations failed
and the static record is returned. `new_holds` covers all four with one statement, `Holds`:
the record reads as some report, and freeing it restores the blocks there were before the call.
-/

namespace Btck

open Infra

/-! ## What the static and the allocated record have in common -/

/-- The code, domain and message of an error, as its reader sees them. -/
structure Report where
  code : Int32
  domain : Bytes
  message : Bytes
  deriving DecidableEq, Repr

/-- The report that `TranslateException` makes of an exception. -/
def Exception.report : Exception → Report
  | .badAlloc what => ⟨-1, utf8 "Memory", what⟩
  | .systemError value category what => ⟨value, category.name, what⟩
  | .exception what => ⟨-1, utf8 "Unknown", what⟩
  | .unknown => ⟨-1, utf8 "Unknown", utf8 "Unknown exception"⟩

/-- The report that `OOM_ERROR` makes. -/
def oomReport : Report := ⟨-1, utf8 "Memory", utf8 "Out of memory"⟩

/-- Do the three allocations of `BtcK_Error_New` succeed? -/
def complete (schedule : List Bool) : Bool :=
  schedule.headD true && schedule.tail.headD true && schedule.tail.tail.headD true

/-- The three getters of `p` give `r`, with the strings read through the pointers they give. -/
def Reads (h : Memory) (p : ErrorPtr) (r : Report) : Prop :=
  ∃ domain message : CharPtr,
    (∀ {ε : Type}, (Error.code p : Prog Memory ε _) h = (.returns r.code, h)) ∧
    (∀ {ε : Type}, (Error.domain p : Prog Memory ε _) h = (.returns domain, h)) ∧
    (∀ {ε : Type}, (Error.message p : Prog Memory ε _) h = (.returns message, h)) ∧
    (∀ {ε : Type}, (domain.str : Prog Memory ε _) h = (.returns r.domain, h)) ∧
    (∀ {ε : Type}, (message.str : Prog Memory ε _) h = (.returns r.message, h))

/--
`p` is an error record that reads as `r` in memory `h'`, and freeing it brings back the blocks
of `h`. This is all that the code which receives the record relies on.
-/
structure Holds (h h' : Memory) (p : ErrorPtr) (r : Report) : Prop where
  not_null : p ≠ .null
  reads : ∃ e : ErrorRecord,
    (∀ {ε : Type}, (Error.deref p : Prog Memory ε _) h' = (.returns e, h')) ∧ e.code = r.code ∧
    (∀ {ε : Type}, (e.domain.str : Prog Memory ε _) h' = (.returns r.domain, h')) ∧
    (∀ {ε : Type}, (e.message.str : Prog Memory ε _) h' = (.returns r.message, h'))
  free : ∃ h'', (∀ {ε : Type}, (Error.free p : Prog Memory ε _) h' = (.returns (), h'')) ∧
    Heap.Restored h h''

namespace Holds

variable {h h' : Memory} {p : ErrorPtr} {r : Report}

theorem getters (hp : Holds h h' p r) : Reads h' p r := by
  obtain ⟨e, hd, hc, hdom, hmsg⟩ := hp.reads
  refine ⟨e.domain, e.message, ?_, ?_, ?_, hdom, hmsg⟩
  · intro ε
    rw [Error.code, Prog.bind_of_returns hd, hc]
    rfl
  · intro ε
    rw [Error.domain, Prog.bind_of_returns hd]
    rfl
  · intro ε
    rw [Error.message, Prog.bind_of_returns hd]
    rfl

end Holds

theorem holds_oomError {h h' : Memory} (hr : Heap.Restored h h') :
    Holds h h' .oomError oomReport where
  not_null := by simp
  reads := ⟨oomError, rfl, rfl, rfl, rfl⟩
  free := ⟨h', rfl, hr⟩

/-! ## Freeing a record -/

/-- `free` of a pointer that is null or a live block takes just that block away. -/
theorem charPtr_free {h : Memory} {p : CharPtr} (hout : ∀ s, p ≠ .outside s)
    (hlive : ∀ k, p = .block k → (h.cell k).isSome) :
    ∃ h', (∀ {ε : Type}, (CharPtr.free p : Prog Memory ε _) h = (.returns (), h')) ∧
      h'.next = h.next ∧ ∀ k, h'.cell k = if p = .block k then none else h.cell k := by
  cases p with
  | null => exact ⟨h, rfl, rfl, by simp⟩
  | outside s => exact absurd rfl (hout s)
  | block n =>
    have hl := hlive n rfl
    refine ⟨h.drop n hl, fun {ε} => Heap.free_of_live hl, rfl, ?_⟩
    intro k
    show Function.update h.cell n none k = _
    by_cases hk : k = n
    · subst hk; simp
    · rw [Function.update_of_ne hk, if_neg (by simpa using Ne.symm hk)]

/--
Freeing a record frees its two strings, where they were allocated, and then the record itself.
`h` is the memory before the record was made: it differs only in these blocks.
-/
theorem error_free {h h' : Memory} {n : Nat} {e : ErrorRecord}
    (hn : h'.cell n = some (.error e))
    (hd : ∀ s, e.domain ≠ .outside s) (hm : ∀ s, e.message ≠ .outside s)
    (hdl : ∀ k, e.domain = .block k → (h'.cell k).isSome ∧ k ≠ n ∧ h.cell k = none)
    (hml : ∀ k, e.message = .block k → (h'.cell k).isSome ∧ k ≠ n ∧ h.cell k = none)
    (hdm : ∀ k, e.domain = .block k → e.message ≠ .block k)
    (hcell : ∀ k, k ≠ n → e.domain ≠ .block k → e.message ≠ .block k → h'.cell k = h.cell k)
    (h0 : h.cell n = none) (hle : h.next ≤ h'.next) :
    ∃ h'', (∀ {ε : Type}, (Error.free (.block n) : Prog Memory ε _) h' = (.returns (), h'')) ∧
      Heap.Restored h h'' := by
  obtain ⟨h1, hf1, hn1, hc1⟩ := charPtr_free hd (fun k hk => (hdl k hk).1)
  have hlive1 : ∀ k, e.message = .block k → (h1.cell k).isSome := by
    intro k hk
    rw [hc1, if_neg (fun hc => hdm k hc hk)]
    exact (hml k hk).1
  obtain ⟨h2, hf2, hn2, hc2⟩ := charPtr_free hm hlive1
  have hlive2 : (h2.cell n).isSome := by
    rw [hc2, if_neg (fun hc => (hml n hc).2.1 rfl), hc1, if_neg (fun hc => (hdl n hc).2.1 rfl), hn]
    rfl
  refine ⟨h2.drop n hlive2, ?_, ?_, ?_⟩
  · intro ε
    have hderef : (Error.deref (.block n) : Prog Memory ε _) h' = (.returns e, h') := by
      rw [Error.deref, Prog.bind_of_returns (Heap.read_of_live hn)]
      rfl
    rw [Error.free, Prog.bind_of_returns hderef, Prog.bind_of_returns hf1,
      Prog.bind_of_returns hf2]
    exact Heap.free_of_live hlive2
  · -- the record and its strings were not there before, and nothing else was touched
    funext k
    show Function.update h2.cell n none k = _
    by_cases hkn : k = n
    · subst hkn; rw [Function.update_self, h0]
    · rw [Function.update_of_ne hkn, hc2, hc1]
      by_cases hkm : e.message = .block k
      · rw [if_pos hkm, (hml k hkm).2.2]
      · rw [if_neg hkm]
        by_cases hkd : e.domain = .block k
        · rw [if_pos hkd, (hdl k hkd).2.2]
        · rw [if_neg hkd]
          exact hcell k hkn hkd hkm
  · show h.next ≤ h2.next
    rw [hn2, hn1]
    exact hle

/-- A record whose two strings are blocks of their own reads as these strings. -/
theorem holds_block {h h' : Memory} {n d m : Nat} {c : Int32} {ds ms : Bytes}
    (hn : h'.cell n = some (.error ⟨c, .block d, .block m⟩))
    (hd : h'.cell d = some (.chars ds)) (hm : h'.cell m = some (.chars ms))
    (hfree : ∃ h'', (∀ {ε : Type}, (Error.free (.block n) : Prog Memory ε _) h'
      = (.returns (), h'')) ∧ Heap.Restored h h'') :
    Holds h h' (.block n) ⟨c, ds, ms⟩ := by
  have hderef : ∀ {ε : Type}, (Error.deref (.block n) : Prog Memory ε _) h'
      = (.returns ⟨c, .block d, .block m⟩, h') := by
    intro ε
    rw [Error.deref, Prog.bind_of_returns (Heap.read_of_live hn)]
    rfl
  have hstr : ∀ {ε : Type} {k : Nat} {s : Bytes}, h'.cell k = some (.chars s) →
      (CharPtr.str (.block k) : Prog Memory ε _) h' = (.returns s, h') := by
    intro ε k s hk
    rw [CharPtr.str, Prog.bind_of_returns (Heap.read_of_live hk)]
    rfl
  exact ⟨by simp, ⟨_, hderef, rfl, hstr hd, hstr hm⟩, hfree⟩

/-! ## `BtcK_Error_New` -/

/-- What `strdup` gives and leaves: a new block with the string, or the null pointer. -/
def duplicated (h : Memory) (s : Bytes) : CharPtr × Memory :=
  if h.schedule.headD true then (.block h.next, h.alloc (.chars s)) else (.null, h.refuse)

theorem strdup_run {ε : Type} (h : Memory) (s : Bytes) :
    (CharPtr.strdup (.outside s) : Prog Memory ε _) h
      = (.returns (duplicated h s).1, (duplicated h s).2) := by
  show ((Heap.malloc (.chars s) : Prog Memory ε _) >>= _) h = _
  unfold duplicated
  by_cases hs : h.schedule.headD true = true
  · rw [Prog.bind_of_returns (Heap.malloc_of_true hs _), if_pos hs]
    rfl
  · rw [Prog.bind_of_returns (Heap.malloc_of_false (by simpa using hs) _), if_neg hs]
    rfl

theorem duplicated_schedule (h : Memory) (s : Bytes) :
    (duplicated h s).2.schedule = h.schedule.tail := by
  unfold duplicated
  split <;> rfl

theorem duplicated_isNull (h : Memory) (s : Bytes) :
    (duplicated h s).1.isNull = !h.schedule.headD true := by
  unfold duplicated
  split
  · next hs => rw [hs]; rfl
  · next hs => rw [Bool.not_eq_true] at hs; rw [hs]; rfl

/--
The pointer is not foreign, and where it is a block, it is the next one with the string in it.
-/
theorem duplicated_block (h : Memory) (s : Bytes) :
    (∀ t, (duplicated h s).1 ≠ .outside t) ∧
      ∀ k, (duplicated h s).1 = .block k →
        k = h.next ∧ (duplicated h s).2.cell k = some (.chars s) := by
  unfold duplicated
  split
  · refine ⟨by simp, ?_⟩
    intro k hk
    obtain rfl : h.next = k := by simpa using hk
    exact ⟨rfl, Function.update_self ..⟩
  · simp

/-- Every other block is as it was. -/
theorem duplicated_frame (h : Memory) (s : Bytes) :
    (h.next ≤ (duplicated h s).2.next) ∧
      ∀ k, (duplicated h s).1 ≠ .block k → (duplicated h s).2.cell k = h.cell k := by
  unfold duplicated
  split
  · refine ⟨Nat.le_succ _, ?_⟩
    intro k hk
    exact Function.update_of_ne (fun hc => hk (by rw [hc])) _ _
  · exact ⟨Nat.le_refl _, fun _ _ => rfl⟩

/--
Memory `m` after the block of the record and its two strings were asked for, with what came
back for the strings. `h` is the memory before.
-/
structure Asked (h m : Memory) (domain message : CharPtr) (ds ms : Bytes) : Prop where
  domain_inside : ∀ t, domain ≠ .outside t
  message_inside : ∀ t, message ≠ .outside t
  domain_block : ∀ k, domain = .block k → h.next < k ∧ m.cell k = some (.chars ds)
  message_block : ∀ k, message = .block k → h.next < k ∧ m.cell k = some (.chars ms)
  disjoint : ∀ k, domain = .block k → message ≠ .block k
  record : m.cell h.next = some .raw
  frame : ∀ k, k ≠ h.next → domain ≠ .block k → message ≠ .block k → m.cell k = h.cell k
  next_le : h.next ≤ m.next

theorem Asked.domain_eq_block {h m : Memory} {domain message : CharPtr} {ds ms : Bytes}
    (ha : Asked h m domain message ds ms) (hn : domain.isNull = false) :
    ∃ k, domain = .block k := by
  cases hc : domain with
  | null => rw [hc] at hn; simp [CharPtr.isNull] at hn
  | outside t => exact absurd hc (ha.domain_inside t)
  | block k => exact ⟨k, rfl⟩

theorem Asked.message_eq_block {h m : Memory} {domain message : CharPtr} {ds ms : Bytes}
    (ha : Asked h m domain message ds ms) (hn : message.isNull = false) :
    ∃ k, message = .block k := by
  cases hc : message with
  | null => rw [hc] at hn; simp [CharPtr.isNull] at hn
  | outside t => exact absurd hc (ha.message_inside t)
  | block k => exact ⟨k, rfl⟩

theorem asked_duplicated (h : Memory) (ds ms : Bytes) :
    Asked h (duplicated (duplicated (h.alloc .raw) ds).2 ms).2 (duplicated (h.alloc .raw) ds).1
      (duplicated (duplicated (h.alloc .raw) ds).2 ms).1 ds ms := by
  have hraw : (h.alloc .raw).cell h.next = some .raw := Function.update_self ..
  have hcell : ∀ k, k ≠ h.next → (h.alloc .raw).cell k = h.cell k := fun k hk =>
    Function.update_of_ne hk _ _
  have hnext : (h.alloc .raw).next = h.next + 1 := rfl
  generalize h.alloc .raw = h1 at hraw hcell hnext ⊢
  obtain ⟨hdo, hdb⟩ := duplicated_block h1 ds
  obtain ⟨hdn, hdf⟩ := duplicated_frame h1 ds
  generalize duplicated h1 ds = d at hdo hdb hdn hdf ⊢
  obtain ⟨hmo, hmb⟩ := duplicated_block d.2 ms
  obtain ⟨hmn, hmf⟩ := duplicated_frame d.2 ms
  generalize duplicated d.2 ms = m at hmo hmb hmn hmf ⊢
  have hdlt : ∀ k, d.1 = .block k → h.next < k := fun k hk => by have := (hdb k hk).1; omega
  have hmlt : ∀ k, m.1 = .block k → h.next < k := fun k hk => by have := (hmb k hk).1; omega
  -- the second copy is in a block that was still free when the first one was made
  have hdm : ∀ k, d.1 = .block k → m.1 ≠ .block k := by
    intro k hk hk'
    have hlive := (hdb k hk).2
    rw [d.2.unused k (by have := (hmb k hk').1; omega)] at hlive
    simp at hlive
  refine ⟨hdo, hmo, ?_, fun k hk => ⟨hmlt k hk, (hmb k hk).2⟩, hdm, ?_, ?_, by omega⟩
  · intro k hk
    exact ⟨hdlt k hk, by rw [hmf k (hdm k hk), (hdb k hk).2]⟩
  · rw [hmf _ (fun hc => Nat.lt_irrefl _ (hmlt _ hc)),
      hdf _ (fun hc => Nat.lt_irrefl _ (hdlt _ hc)), hraw]
  · intro k hk hkd hkm
    rw [hmf k hkm, hdf k hkd, hcell k hk]

/-- The record with the strings filled in can be freed, whichever of them are there. -/
theorem Asked.free {h m : Memory} {domain message : CharPtr} {ds ms : Bytes}
    (ha : Asked h m domain message ds ms) (c : Int32) (hlive : (m.cell h.next).isSome) :
    ∃ h'', (∀ {ε : Type}, (Error.free (.block h.next) : Prog Memory ε _)
        (m.set h.next (.error ⟨c, domain, message⟩) hlive) = (.returns (), h'')) ∧
      Heap.Restored h h'' := by
  have hset : ∀ k, k ≠ h.next →
      (m.set h.next (.error ⟨c, domain, message⟩) hlive).cell k = m.cell k := fun k hk =>
    Function.update_of_ne hk _ _
  refine error_free (Function.update_self ..) ha.domain_inside ha.message_inside ?_ ?_ ha.disjoint
    ?_ (h.unused _ (Nat.le_refl _)) ha.next_le
  · intro k hk
    obtain ⟨hlt, hc⟩ := ha.domain_block k hk
    exact ⟨by rw [hset k (by omega), hc]; rfl, by omega, h.unused k (by omega)⟩
  · intro k hk
    obtain ⟨hlt, hc⟩ := ha.message_block k hk
    exact ⟨by rw [hset k (by omega), hc]; rfl, by omega, h.unused k (by omega)⟩
  · intro k hk hkd hkm
    rw [hset k hk, ha.frame k hk hkd hkm]

/-- `BtcK_Error_New` once its first allocation succeeded: what is left is to look at the strings. -/
theorem new_of_malloc {ε : Type} {h : Memory} (hs : h.schedule.headD true = true) (c : Int32)
    (ds ms : Bytes) {d m : CharPtr × Memory} (hd : duplicated (h.alloc .raw) ds = d)
    (hm : duplicated d.2 ms = m) (hlive : (m.2.cell h.next).isSome) :
    (Error.new c (.outside ds) (.outside ms) : Prog Memory ε _) h =
      (if d.1.isNull || m.1.isNull then
        (do Error.free (.block h.next); pure .oomError : Prog Memory ε _)
      else pure (.block h.next)) (m.2.set h.next (.error ⟨c, d.1, m.1⟩) hlive) := by
  rw [Error.new, Prog.bind_of_returns (Heap.malloc_of_true hs _)]
  show ((CharPtr.strdup (.outside ds) : Prog Memory ε _) >>= _) (h.alloc .raw) = _
  rw [Prog.bind_of_returns (strdup_run _ ds), hd]
  show ((CharPtr.strdup (.outside ms) : Prog Memory ε _) >>= _) d.2 = _
  rw [Prog.bind_of_returns (strdup_run _ ms), hm]
  show ((Heap.write h.next _ : Prog Memory ε _) >>= _) m.2 = _
  rw [Prog.bind_of_returns (Heap.write_of_live _ hlive)]
  rfl

/--
**Every end of `BtcK_Error_New`.** With three successful allocations the record reads as it was
asked for; otherwise the static record is returned and what had been allocated is gone.
-/
theorem new_holds (h : Memory) (c : Int32) (ds ms : Bytes) :
    ∃ p h', (∀ {ε : Type}, (Error.new c (.outside ds) (.outside ms) : Prog Memory ε _) h
        = (.returns p, h')) ∧
      Holds h h' p (if complete h.schedule then ⟨c, ds, ms⟩ else oomReport) := by
  by_cases hs : h.schedule.headD true = true
  · have ha := asked_duplicated h ds ms
    have hdn := duplicated_isNull (h.alloc .raw) ds
    have hmn := duplicated_isNull (duplicated (h.alloc .raw) ds).2 ms
    rw [duplicated_schedule] at hmn
    generalize hd : duplicated (h.alloc .raw) ds = d at ha hdn hmn
    generalize hm : duplicated d.2 ms = m at ha hmn
    have hlive : (m.2.cell h.next).isSome := by rw [ha.record]; rfl
    obtain ⟨h'', hf, hr⟩ := ha.free c hlive
    have hcomplete : complete h.schedule = !(d.1.isNull || m.1.isNull) := by
      rw [complete, hs, hdn, hmn]
      show _ = !(!h.schedule.tail.headD true || !h.schedule.tail.tail.headD true)
      simp
    by_cases hnull : (d.1.isNull || m.1.isNull) = true
    · -- a copy failed: what is there of the record is freed
      refine ⟨.oomError, h'', ?_, ?_⟩
      · intro ε
        rw [new_of_malloc hs c ds ms hd hm hlive, if_pos hnull, Prog.bind_of_returns hf]
        rfl
      · rw [hcomplete, hnull]
        exact holds_oomError hr
    · -- both copies are there
      rw [Bool.not_eq_true] at hnull
      refine ⟨.block h.next, m.2.set h.next (.error ⟨c, d.1, m.1⟩) hlive, ?_, ?_⟩
      · intro ε
        rw [new_of_malloc hs c ds ms hd hm hlive, hnull]
        rfl
      · rw [hcomplete, hnull]
        rw [Bool.or_eq_false_iff] at hnull
        obtain ⟨kd, hkd⟩ := ha.domain_eq_block hnull.1
        obtain ⟨km, hkm⟩ := ha.message_eq_block hnull.2
        obtain ⟨hd1, hd2⟩ := ha.domain_block kd hkd
        obtain ⟨hm1, hm2⟩ := ha.message_block km hkm
        have hset : ∀ k, k ≠ h.next →
            (m.2.set h.next (.error ⟨c, d.1, m.1⟩) hlive).cell k = m.2.cell k := fun k hk =>
          Function.update_of_ne hk _ _
        refine holds_block (d := kd) (m := km) ?_ ?_ ?_ ⟨h'', hf, hr⟩
        · rw [← hkd, ← hkm]; exact Function.update_self ..
        · rw [hset kd (by omega), hd2]
        · rw [hset km (by omega), hm2]
  · -- not even the record could be allocated, and nothing else was tried
    have hs' : h.schedule.headD true = false := by simpa using hs
    refine ⟨.oomError, h.refuse, ?_, ?_⟩
    · intro ε
      rw [Error.new, Prog.bind_of_returns (Heap.malloc_of_false hs' _)]
      rfl
    · rw [complete, hs']
      exact holds_oomError ⟨rfl, Nat.le_refl _⟩

/-- The record of an exception reads as its report, or as the report of the static record. -/
theorem translateException_holds (h : Memory) (e : Exception) :
    ∃ p h', (∀ {ε : Type}, (translateException e : Prog Memory ε _) h = (.returns p, h')) ∧
      Holds h h' p (if complete h.schedule then e.report else oomReport) := by
  cases e with
  | badAlloc what => exact new_holds h _ _ _
  | systemError value category what => exact new_holds h _ _ _
  | exception what => exact new_holds h _ _ _
  | unknown => exact new_holds h _ _ _

/-- `wrapFn` with an error slot, when the body throws: the slot holds the record. -/
theorem wrapFn_throws (Ret : Type) [Inhabited Ret] (h : Memory) (e : Exception) :
    ∃ p h', (∀ {ε : Type}, (wrapFn true (.throws e : Outcome Exception Ret) : Prog Memory ε _) h
        = (.returns (default, some p), h')) ∧
      Holds h h' p (if complete h.schedule then e.report else oomReport) := by
  obtain ⟨p, h', hrun, hp⟩ := translateException_holds h e
  refine ⟨p, h', ?_, hp⟩
  intro ε
  show ((translateException e : Prog Memory ε _) >>= _) h = _
  rw [Prog.bind_of_returns hrun]
  rfl

/--
What a caller of `wrapFn` gets, for every end of the body that is not a fault: the body's value,
or the default of its type, and a record when there was an exception and a place to put it.
-/
theorem wrapFn_value {ε : Type} {Ret : Type} [Inhabited Ret] (err : Bool)
    {body : Outcome Exception Ret} (h : Memory) (hbody : ∀ u, body ≠ .faults u) :
    ∃ e h', (wrapFn err body : Prog Memory ε _) h = (.returns (body.value?.getD default, e), h') ∧
      (e.isSome ↔ err = true ∧ body.value? = none) := by
  cases body with
  | returns r => exact ⟨none, h, rfl, by simp⟩
  | faults u => exact absurd rfl (hbody u)
  | throws exc =>
    cases err with
    | false => exact ⟨none, h, rfl, by simp⟩
    | true =>
      obtain ⟨p, h', hrun, -⟩ := wrapFn_throws Ret h exc
      exact ⟨some p, h', hrun, by simp⟩

/-- A non-null pointer out of `wrapFn` is what the body returned. -/
theorem wrapFn_eq_some {ε : Type} {α : Type} {err : Bool} {body : Outcome Exception (Option α)}
    {h h' : Memory} {x : α} {e : Option ErrorPtr}
    (hrun : (wrapFn err body : Prog Memory ε _) h = (.returns (some x, e), h')) :
    body = .returns (some x) := by
  have hbody : ∀ u, body ≠ .faults u := by
    rintro u rfl
    simp at hrun
  obtain ⟨e', h'', hval, -⟩ := wrapFn_value (ε := ε) err h hbody
  rw [hrun] at hval
  simp only [Prod.mk.injEq, Outcome.returns.injEq] at hval
  cases body with
  | returns r => rw [← show r = some x from hval.1.1.symm]
  | throws exc => simp [Outcome.value?] at hval
  | faults u => exact absurd rfl (hbody u)

end Btck
