import Btck.Cpp.Process
import Btck.Properties.Clients
import Btck.Properties.ErrorBoundary
import Btck.Properties.Ownership

/-!
# Programs with wrappers, and the library that they own objects of

`Btck.Properties.Ownership` is about handles and a store that says which are live. Here the handles
are what the library's functions return, and a handle is live when its object is in memory. A
well-behaved program does to memory what the operations do to the store, so that what was shown of
the store is so of memory.

* `Matches` — memory and objects of a program, and a store
* `runAll_refines` — a well-behaved program does what operations of a store do
* `runAll_accounted` — what this says about the library's memory
* `selfMove_faults` — what becomes of an owned wrapper that is moved to itself
-/

namespace Btck.Cpp

open Infra Process

variable {core : BitcoinCore}

/-! ## Memory and store -/

/-- A wrapper object is what a wrapper of the store says. -/
structure Fits (m : Native core) (w : WrapperObject) (v : Wrapper) : Prop where
  policy : v.policy = w.policy
  ptr : w.ptr_ = v.ptr_.map .object
  seen : ∀ n, v.ptr_ = some n → ∃ x : Value core w.kind, Seen m (.object n) x
  usable : v.status = .usable ↔ ∃ n, v.ptr_ = some n ∧ (m.objects.cell n).isSome

/-- A state of a program is what a store says, but for one object that is being worked on. -/
structure Matches (hole : Option Nat) (s : Process core) (store : Store) : Prop where
  sound : Btck.Sound s.native
  /-- Nobody keeps an error record. -/
  records : HeldOnce 0 s.native.errors
  live : ∀ n, store.live n = (s.native.objects.cell n).isSome
  wrappers : ∀ k, hole ≠ some k → Option.Rel (Fits s.native) (s.wrappers k) (store.wrappers k)

namespace Fits

variable {m m' : Native core} {w : WrapperObject} {v : Wrapper}

theorem change (h : Fits m w v) (hlater : m.Later m')
    (hcell : ∀ n, v.ptr_ = some n → (m'.objects.cell n).isSome = (m.objects.cell n).isSome) :
    Fits m' w v where
  policy := h.policy
  ptr := h.ptr
  seen n hn := by
    obtain ⟨x, hx⟩ := h.seen n hn
    exact ⟨x, hx.later hlater⟩
  usable := by
    rw [h.usable]
    refine exists_congr fun n => and_congr_right fun hn => ?_
    rw [hcell n hn]

/-- What is moved from has no pointer any more. -/
theorem movedFrom (h : Fits m w v) :
    Fits m { w with ptr_ := none } { v with ptr_ := none, status := .movedFrom } where
  policy := h.policy
  ptr := rfl
  seen := nofun
  usable := iff_of_false nofun (by simp)

theorem ptr_eq (h : Fits m w v) {n : Nat} (hn : w.ptr_ = some (.object n)) : v.ptr_ = some n := by
  have hptr := h.ptr
  rw [hn] at hptr
  obtain ⟨n', hn', hsame⟩ := Option.map_eq_some_iff.mp hptr.symm
  obtain rfl : n' = n := by cases hsame; rfl
  exact hn'

/-- Who did not own what is gone may not read it any more. To the others nothing has changed. -/
theorem expire (h : Fits m w v) (hlater : m.Later m') {n : Nat} (hgone : m'.objects.cell n = none)
    (hcell : ∀ n', n' ≠ n → (m'.objects.cell n').isSome = (m.objects.cell n').isSome)
    (hown : v.policy = .owned → v.ptr_ ≠ some n) : Fits m' w (Store.expire n v) := by
  by_cases hexpires : v.policy = .unowned ∧ v.ptr_ = some n
  · rw [Store.expire, if_pos hexpires]
    refine ⟨h.policy, h.ptr, fun n' hn' => ?_, iff_of_false (by simp) ?_⟩
    · obtain ⟨x, hx⟩ := h.seen n' hn'
      exact ⟨x, hx.later hlater⟩
    · rintro ⟨n', hn', hlive⟩
      obtain rfl : n = n' := Option.some.inj (hexpires.2.symm.trans hn')
      rw [hgone] at hlive
      cases hlive
  · rw [Store.expire, if_neg hexpires]
    refine h.change hlater fun n' hn' => hcell n' ?_
    rintro rfl
    cases hpolicy : v.policy with
    | owned => exact hown hpolicy hn'
    | unowned => exact hexpires ⟨hpolicy, hn'⟩

/-- What is at an address goes on being what the store says, when wrappers do. -/
theorem map {f : Wrapper → Wrapper} {a : Option WrapperObject} {b : Option Wrapper}
    (h : Option.Rel (Fits m) a b) (hfits : ∀ w v, b = some v → Fits m w v → Fits m' w (f v)) :
    Option.Rel (Fits m') a (b.map f) := by
  cases h with
  | some hw => exact .some (hfits _ _ rfl hw)
  | none => exact .none

end Fits

namespace Matches

variable {hole : Option Nat} {s : Process core} {store : Store} {i j : Nat} {w : WrapperObject}
  {v : Wrapper} {m : Native core}

theorem empty (schedule : List Bool) :
    Matches none (Process.empty (Heap.empty schedule) : Process core) .empty where
  sound := ⟨_, Agree.empty _⟩
  records := HeldOnce.empty schedule
  live _ := rfl
  wrappers _ _ := .none

theorem wrapper (h : Matches hole s store) (hi : s.wrappers i = some w) (hhole : hole ≠ some i) :
    ∃ v, store.wrappers i = some v ∧ Fits s.native w v := by
  have hrel := h.wrappers i hhole
  rw [hi] at hrel
  cases hv : store.wrappers i with
  | none => rw [hv] at hrel; cases hrel
  | some v =>
    rw [hv] at hrel
    cases hrel with
    | some hfits => exact ⟨v, rfl, hfits⟩

theorem vacant (h : Matches none s store) (hi : s.wrappers i = none) : store.wrappers i = none := by
  have hrel := h.wrappers i nofun
  rw [hi] at hrel
  cases hv : store.wrappers i with
  | none => rfl
  | some v => rw [hv] at hrel; cases hrel

theorem usable (h : Matches none s store) (hj : s.Usable j) : ∃ w v n, s.wrappers j = some w ∧
    store.wrappers j = some v ∧ Fits s.native w v ∧ v.status = .usable ∧
    w.ptr_ = some (.object n) ∧ v.ptr_ = some n ∧ (s.native.objects.cell n).isSome := by
  obtain ⟨w, n, hj, hn, hlive⟩ := hj
  obtain ⟨v, hv, hfits⟩ := h.wrapper hj nofun
  have hn' := hfits.ptr_eq hn
  exact ⟨w, v, n, hj, hv, hfits, hfits.usable.mpr ⟨n, hn', hlive⟩, hn, hn', hlive⟩

/-! ### Objects -/

/-- What is at one address is replaced. -/
theorem update (h : Matches hole s store) {hole' : Option Nat} {a : Option WrapperObject}
    {b : Option Wrapper} (hab : Option.Rel (Fits s.native) a b)
    (hhole : ∀ k, k ≠ i → hole' ≠ some k → hole ≠ some k) :
    Matches hole' (s.put i a) { store with wrappers := Function.update store.wrappers i b } where
  sound := h.sound
  records := h.records
  live := h.live
  wrappers k hk := by
    show Option.Rel _ (Function.update s.wrappers i a k) (Function.update store.wrappers i b k)
    by_cases hki : k = i
    · rw [hki, Function.update_self, Function.update_self]
      exact hab
    · rw [Function.update_of_ne hki, Function.update_of_ne hki]
      exact h.wrappers k (hhole k hki hk)

theorem put (h : Matches hole s store) (hw : Fits s.native w v) :
    Matches hole (s.put i (some w)) (store.put i v) :=
  h.update (.some hw) fun _ _ => id

/-- The object that is being worked on gets its value. -/
theorem fill (h : Matches (some i) s store) (hw : Fits s.native w v) :
    Matches none (s.put i (some w)) (store.put i v) :=
  h.update (.some hw) fun _ hk _ hc => hk (Option.some.inj hc).symm

theorem remove (h : Matches (some i) s store) : Matches none (s.put i none) (store.remove i) :=
  h.update .none fun _ hk _ hc => hk (Option.some.inj hc).symm

/-- There is work on an object. -/
theorem opened (h : Matches none s store) (i : Nat) : Matches (some i) s store :=
  ⟨h.sound, h.records, h.live, fun k _ => h.wrappers k nofun⟩

/-! ### Memory -/

/-- To wrappers, memory is the same when the objects are there that were there. -/
theorem kept (h : Matches none s store) (hlater : s.native.Later m)
    (hcell : ∀ n < s.native.objects.next,
      (m.objects.cell n).isSome = (s.native.objects.cell n).isSome) (k : Nat) :
    Option.Rel (Fits m) (s.wrappers k) (store.wrappers k) := by
  have hmap : Option.Rel (Fits m) (s.wrappers k) ((store.wrappers k).map id) :=
    Fits.map (h.wrappers k nofun) fun w v _ hfits => hfits.change hlater fun n hn => by
      obtain ⟨x, hseen⟩ := hfits.seen n hn
      exact hcell n hseen.lt_next
  rwa [Option.map_id] at hmap

/-- `New` and `Copy` make a new handle live. -/
theorem create (h : Matches none s store) {o : Object core} (hs : Btck.Sound m)
    (hlater : s.native.Later m) (hobjects : m.objects = s.native.objects.alloc o)
    (herrors : m.errors = s.native.errors) :
    Matches none { s with native := m } (store.create s.native.objects.next) where
  sound := hs
  records := by
    show HeldOnce 0 m.errors
    rw [herrors]
    exact h.records
  live n := by
    show Function.update store.live s.native.objects.next true n = (m.objects.cell n).isSome
    rw [Function.update_apply, hobjects, Heap.cell_alloc, h.live]
    split <;> rfl
  wrappers k _ := by
    refine h.kept hlater (fun n hn => ?_) k
    rw [hobjects, Heap.cell_alloc, if_neg hn.ne]

/-- Nothing was made, and no record is left. -/
theorem failed (h : Matches none s store) (hs : Btck.Sound m) (hlater : s.native.Later m)
    (hobjects : m.objects = s.native.objects) (hrecords : HeldOnce 0 m.errors) :
    Matches none { s with native := m } store where
  sound := hs
  records := hrecords
  live n := by
    rw [h.live]
    show _ = (m.objects.cell n).isSome
    rw [hobjects]
  wrappers k _ := h.kept hlater (fun n _ => by rw [hobjects]) k

/-- A handle is freed whose one owner is being worked on. -/
theorem drop (h : Matches none s store) {n : Nat} (hs : Btck.Sound m) (hlater : s.native.Later m)
    (hl : (s.native.objects.cell n).isSome) (hobjects : m.objects = s.native.objects.drop n hl)
    (herrors : m.errors = s.native.errors)
    (hown : ∀ k v, k ≠ i → store.wrappers k = some v → v.policy = .owned → v.ptr_ ≠ some n) :
    Matches (some i) { s with native := m } (store.nativeFree (some n)) := by
  rw [nativeFree_of_live (by rw [h.live, hl])]
  have hcell : ∀ n', n' ≠ n → (m.objects.cell n').isSome
      = (s.native.objects.cell n').isSome := fun n' hn' => by
    rw [hobjects, Heap.cell_drop, if_neg hn']
  have hgone : m.objects.cell n = none := by
    rw [hobjects, Heap.cell_drop, if_pos rfl]
  refine ⟨hs, ?_, fun n' => ?_, fun k hk => ?_⟩
  · show HeldOnce 0 m.errors
    rw [herrors]
    exact h.records
  · show Function.update store.live n false n' = (m.objects.cell n').isSome
    by_cases hn' : n' = n
    · rw [hn', Function.update_self, hgone]
      rfl
    · rw [Function.update_of_ne hn', hcell n' hn', h.live]
  · show Option.Rel (Fits m) (s.wrappers k) ((store.wrappers k).map (Store.expire n))
    have hki : k ≠ i := fun hc => hk (congrArg some hc.symm)
    exact Fits.map (h.wrappers k (by simp)) fun w v hv hfits =>
      hfits.expire hlater hgone hcell (hown k v hki hv)

end Matches

/-! ## The functions of a wrapper -/

/-- How a `New` or `Copy` function ends, behind `detail::invoke`. -/
inductive InvokeEnd (k : Kind) (m : Native core) :
    Outcome Thrown (Option (Ptr k)) × Native core → Prop where
  | created {m' : Native core} {y : CppType core k} {x : Value core k} (hs : Btck.Sound m')
      (hlater : m.Later m') (hobjects : m'.objects = m.objects.alloc ⟨k, y⟩)
      (hvalue : m'.value? (.object m.objects.next : Ptr k) = some x)
      (herrors : m'.errors = m.errors) :
      InvokeEnd k m (.returns (some (.object m.objects.next)), m')
  | failed {m' : Native core} {e : Thrown} (hs : Btck.Sound m') (hlater : m.Later m')
      (hobjects : m'.objects = m.objects) (hrecords : HeldOnce 0 m'.errors) :
      InvokeEnd k m (.throws e, m')

theorem invoke_ends {k : Kind} {P : Native core → Prop}
    {body : Prog (Native core) Exception (Option (Ptr k))}
    {z : Outcome Exception (Option (Value core k))} (hbody : NewBody P body z) {m : Native core}
    (hs : Btck.Sound m) (hrecords : HeldOnce 0 m.errors) (hpre : P m) :
    InvokeEnd k m (Process.invoke (fun err => (Btck.native core).wrapFn err body) m) := by
  obtain ⟨p, e, m', hrun, hs', hl, hend⟩ := new_ends (ε := Thrown) hbody hs hpre
  rw [Process.invoke, Prog.bind_of_returns hrun]
  cases hend with
  | created hobjects hvalue herrors => exact .created hs' hl hobjects hvalue herrors
  | @failed p r hobjects hrecord hkeep hheld =>
    obtain ⟨h', hfree, hfreed, -⟩ := free_record hrecord (hheld 0 hrecords)
    have htranslate : (if p ≠ .null then translateError p else pure none :
        Prog Memory Thrown (Option (Ptr k))) m'.errors = (.throws (decode r), m'.errors) := by
      rw [if_pos hrecord.not_null]
      exact translateError_of_reads hrecord.getters
    have hthrown := Prog.within_run (Btck.native core).errors
      (Prog.andFinally_of_throws htranslate hfree)
    have hgone : m'.Later ((Btck.native core).errors.set m' h') :=
      Native.Later.native_within.errors m' h'
    have hfailed : InvokeEnd k m (.throws (decode r), (Btck.native core).errors.set m' h') :=
      .failed (hs'.set_errors h') (trans_of _ hl hgone) hobjects hfreed
    rw [← hthrown] at hfailed
    exact hfailed

section

variable {s : Process core} {store : Store} {i j : Nat} {w : WrapperObject} {v : Wrapper}

theorem withWrapper_run {ε : Type} {f : WrapperObject → Prog (Process core) ε Unit}
    (hi : s.wrappers i = some w) : withWrapper i f s = f w s := by
  rw [withWrapper, hi]

/-- `ownership_traits::free` takes away what the wrapper owns. -/
theorem free_matches {ε : Type} (h : Matches none s store) (hsound : Sound store)
    (hv : store.wrappers i = some v) (hfits : Fits s.native w v) :
    ∃ m, (onNative (freePtr w.policy w.ptr_) : Prog (Process core) ε Unit) s
        = (.returns (), { s with native := m }) ∧ s.native.Later m ∧
      Matches (some i) { s with native := m } (store.free v.policy v.ptr_) := by
  cases hpolicy : v.policy with
  | unowned =>
    rw [← hfits.policy, hpolicy]
    exact ⟨s.native, rfl, refl_of _ _, h.opened i⟩
  | owned =>
    rw [← hfits.policy, hpolicy, hfits.ptr]
    cases hptr : v.ptr_ with
    | none => exact ⟨s.native, rfl, refl_of _ _, h.opened i⟩
    | some n =>
      have hown : store.owns i = some n := by simp [Store.owns, ownOf, hv, hpolicy, hptr]
      have hl := hsound.exclusive.live_of_owns hown
      rw [h.live] at hl
      obtain ⟨x, hseen⟩ := hfits.seen n hptr
      obtain ⟨data, ho⟩ := hseen.object h.sound hl
      obtain ⟨m, hrun, hs, hlater, herrors, hl', hdrop⟩ := free_ends (ε := ε) h.sound ho
      refine ⟨m, Prog.within_run nativePart hrun, hlater, h.drop hs hlater hl' hdrop herrors ?_⟩
      intro k u hki hu howned hn
      refine hki (hsound.exclusive.unique k i n ?_ hown)
      simp [Store.owns, ownOf, hu, howned, hn]

/-! ## One action -/

/-- How an action ends: an operation of the store was done, or none. -/
inductive ActionEnd (store : Store) : Outcome Thrown Unit × Process core → Prop where
  | done {s' : Process core} {op : Op} {store' : Store}
      (hstep : Restrict Step NotSelfMove store op store') (h : Matches none s' store') :
      ActionEnd store (.returns (), s')
  | same {out : Outcome Thrown Unit} {s' : Process core} (hout : ∀ u, out ≠ .faults u)
      (h : Matches none s' store) : ActionEnd store (out, s')

/-- A new object is owned by a new wrapper. -/
theorem place_ends {k : Kind} {x : Prog (Native core) Thrown (Option (Ptr k))} {o : Op}
    (h : Matches none s store) (hx : InvokeEnd k s.native (x s.native))
    (hstep : store.live s.native.objects.next = false → Restrict Step NotSelfMove store o
      ((store.create s.native.objects.next).put i
        { policy := .owned, ptr_ := some s.native.objects.next, status := .usable })) :
    ActionEnd store
      ((onNative x >>= fun ptr => place i { kind := k, policy := .owned, ptr_ := ptr }) s) := by
  rcases hrun : x s.native with ⟨out, m⟩
  rw [hrun] at hx
  have hnative := Prog.within_run nativePart (s := s) hrun
  cases hx with
  | created hs hlater hobjects hvalue herrors =>
    have hfresh : store.live s.native.objects.next = false := by
      rw [h.live, s.native.objects.unused _ le_rfl]
      rfl
    have hthere : (m.objects.cell s.native.objects.next).isSome := by
      rw [hobjects, Heap.cell_alloc, if_pos rfl]
      rfl
    rw [onNative, Prog.bind_of_returns hnative]
    refine .done (hstep hfresh) ((h.create hs hlater hobjects herrors).put ?_)
    refine ⟨rfl, rfl, fun n hn => ?_, iff_of_true rfl ⟨_, rfl, hthere⟩⟩
    obtain rfl := Option.some.inj hn
    exact ⟨_, .now hvalue⟩
  | failed hs hlater hobjects hrecords =>
    rw [onNative, Prog.bind_of_throws hnative]
    exact .same nofun (h.failed hs hlater hobjects hrecords)

theorem construct_ends {k : Kind} {P : Native core → Prop}
    {body : Prog (Native core) Exception (Option (Ptr k))}
    {z : Outcome Exception (Option (Value core k))} (hbody : NewBody P body z)
    (h : Matches none s store) (hpre : P s.native) (hi : s.wrappers i = none) :
    ActionEnd store (construct i (fun err => (Btck.native core).wrapFn err body) s) := by
  refine place_ends (o := .construct i s.native.objects.next) h
    (invoke_ends hbody h.sound h.records hpre) fun hfresh => ?_
  exact ⟨trivial, ⟨h.vacant hi, hfresh⟩, rfl⟩

theorem copy_ends (policy : Policy) (ok : Bool) (h : Matches none s store)
    (hi : s.wrappers i = none) (hj : s.Usable j) :
    ActionEnd store ((Action.copy i j policy ok).run s) := by
  obtain ⟨w, v, n, hw, hv, hfits, husable, hptr, hptr', hlive⟩ := h.usable hj
  have hvacant := h.vacant hi
  rw [Action.run, withWrapper_run hw]
  cases policy with
  | unowned =>
    have hstep : Restrict Step NotSelfMove store (.copy i j .unowned none)
        (store.put i { policy := .unowned, ptr_ := v.ptr_, status := .usable }) := by
      refine ⟨trivial, ⟨hvacant, ⟨v, hv, husable⟩, nofun⟩, ?_⟩
      simp only [exec, hv]
    refine .done hstep (h.put ⟨rfl, hfits.ptr, hfits.seen, ?_⟩)
    exact iff_of_true rfl ⟨n, hptr', hlive⟩
  | owned =>
    obtain ⟨x, hseen⟩ := hfits.seen n hptr'
    have hcopy := invoke_ends (.copy ok (.object n) x) h.sound h.records (hseen.value h.sound hlive)
    rw [← hptr] at hcopy
    refine place_ends (o := .copy i j .owned (some s.native.objects.next)) h hcopy fun hfresh => ?_
    refine ⟨trivial, ⟨hvacant, ⟨v, hv, husable⟩, fun p hp => ?_⟩, ?_⟩
    · obtain rfl := Option.some.inj hp
      exact hfresh
    · simp only [exec, hv]

theorem moveConstruct_ends (h : Matches none s store) (hi : s.wrappers i = none)
    (hj : s.Usable j) : ActionEnd store ((Action.moveConstruct i j).run s) := by
  obtain ⟨w, v, n, hw, hv, hfits, husable, hptr, hptr', hlive⟩ := h.usable hj
  rw [Action.run, withWrapper_run hw]
  have hstep : Restrict Step NotSelfMove store (.moveConstruct i j)
      ((store.put i { policy := v.policy, ptr_ := v.ptr_, status := .usable }).put j
        { v with ptr_ := none, status := .movedFrom }) := by
    refine ⟨trivial, ⟨h.vacant hi, v, hv, husable⟩, ?_⟩
    simp only [exec, hv]
  have hnew : Fits s.native w { policy := v.policy, ptr_ := v.ptr_, status := .usable } :=
    ⟨hfits.policy, hfits.ptr, hfits.seen, iff_of_true rfl ⟨n, hptr', hlive⟩⟩
  exact .done hstep ((h.put hnew).put hfits.movedFrom)

theorem moveAssign_ends (h : Matches none s store) (hsound : Sound store) (hij : i ≠ j)
    (hj : s.Usable j) (htypes : ∃ self other, s.wrappers i = some self ∧
      s.wrappers j = some other ∧ self.kind = other.kind ∧ self.policy = other.policy) :
    ActionEnd store ((Action.moveAssign i j).run s) := by
  obtain ⟨self, other, hself, hother, hkind, hpolicy⟩ := htypes
  obtain ⟨w, v, n, hw, hv, hfits, husable, hptr, hptr', hlive⟩ := h.usable hj
  obtain rfl : w = other := Option.some.inj (hw.symm.trans hother)
  obtain ⟨u, hu, hfits'⟩ := h.wrapper hself nofun
  have hpolicies : u.policy = v.policy := by rw [hfits'.policy, hpolicy, hfits.policy]
  obtain ⟨m, hrun, -, hmatches⟩ := free_matches (ε := Thrown) h hsound hu hfits'
  -- What is moved from is as it was, since it is not what was freed.
  have hafter : (store.free u.policy u.ptr_).wrappers j = some v := free_wrappers hv hpolicies
  obtain ⟨v', hv', hkept⟩ := hmatches.wrapper hw fun hc => hij (Option.some.inj hc)
  obtain rfl : v' = v := Option.some.inj (hv'.symm.trans hafter)
  have hstep : Restrict Step NotSelfMove store (.moveAssign i j)
      (((store.free u.policy u.ptr_).put j { v' with ptr_ := none, status := .movedFrom }).put i
        { u with ptr_ := v'.ptr_, status := .usable }) := by
    refine ⟨fun h => absurd h hij, ⟨⟨v', hv, husable⟩, u, v', hu, hv, hpolicies⟩, ?_⟩
    simp only [exec, hu, hafter]
  rw [Action.run, withWrapper_run hself, Prog.bind_of_returns hrun,
    withWrapper_run (s := { s with native := m }) hw, if_pos ⟨hkind, hpolicy⟩]
  have hnew : Fits m w { u with ptr_ := v'.ptr_, status := .usable } :=
    ⟨hpolicies.trans hkept.policy, hkept.ptr, hkept.seen, iff_of_true rfl (hkept.usable.mp husable)⟩
  exact .done hstep ((hmatches.put hkept.movedFrom).fill hnew)

/-- An unowned wrapper frees nothing, and is what it was. -/
theorem selfMove_unowned_ends (h : Matches none s store) (hi : s.Usable i)
    (hunowned : ∀ w, s.wrappers i = some w → w.policy = .unowned) :
    ActionEnd store ((Action.moveAssign i i).run s) := by
  obtain ⟨w, v, n, hw, hv, hfits, husable, hptr, hptr', hlive⟩ := h.usable hi
  have hpolicy : w.policy = .unowned := hunowned w hw
  have hpolicy' : v.policy = .unowned := hfits.policy.trans hpolicy
  have hrun : (onNative (freePtr w.policy w.ptr_) : Prog (Process core) Thrown Unit) s
      = (.returns (), s) := by
    rw [hpolicy]
    rfl
  have hfree : store.free v.policy v.ptr_ = store := by rw [hpolicy', Store.free]
  have hstep : Restrict Step NotSelfMove store (.moveAssign i i)
      ((store.put i { v with ptr_ := none, status := .movedFrom }).put i
        { v with ptr_ := v.ptr_, status := .usable }) := by
    refine ⟨fun _ u hu => ?_, ⟨⟨v, hv, husable⟩, v, v, hv, hv, rfl⟩, ?_⟩
    · obtain rfl : v = u := Option.some.inj (hv.symm.trans hu)
      exact hpolicy'
    · simp only [exec, hv, hfree]
  rw [Action.run, withWrapper_run hw, Prog.bind_of_returns hrun, withWrapper_run hw,
    if_pos ⟨rfl, rfl⟩]
  have hnew : Fits s.native w { v with ptr_ := v.ptr_, status := .usable } :=
    ⟨hfits.policy, hfits.ptr, hfits.seen, iff_of_true rfl ⟨n, hptr', hlive⟩⟩
  exact .done hstep ((h.put hfits.movedFrom).put hnew)

theorem destroy_ends (h : Matches none s store) (hsound : Sound store)
    (hi : (s.wrappers i).isSome) : ActionEnd store ((Action.destroy i).run s) := by
  obtain ⟨w, hw⟩ := Option.isSome_iff_exists.mp hi
  obtain ⟨v, hv, hfits⟩ := h.wrapper hw nofun
  obtain ⟨m, hrun, -, hmatches⟩ := free_matches (ε := Thrown) h hsound hv hfits
  rw [Action.run, withWrapper_run hw, Prog.bind_of_returns hrun]
  have hstep : Restrict Step NotSelfMove store (.destroy i)
      ((store.free v.policy v.ptr_).remove i) := by
    refine ⟨trivial, ⟨v, hv⟩, ?_⟩
    simp only [exec, hv]
  exact .done hstep hmatches.remove

/-- A wrapper that is not one of an owned script is not given to a transaction output. -/
theorem newTransactionOutput_ends (alloc : Nat → Bool) (amount : Int64) (h : Matches none s store)
    (hi : s.wrappers i = none) (hj : s.Usable j) :
    ActionEnd store ((Action.newTransactionOutput i alloc amount j).run s) := by
  obtain ⟨⟨k, policy, ptr⟩, v, n, hw, hv, hfits, husable, hptr, hptr', hlive⟩ := h.usable hj
  rw [Action.run, withWrapper_run hw]
  by_cases htype : k = .scriptPubkey ∧ policy = .owned
  · obtain ⟨rfl, rfl⟩ := htype
    obtain rfl : ptr = some (.object n) := hptr
    obtain ⟨x, hseen⟩ := hfits.seen n hptr'
    exact construct_ends (.transactionOutput alloc amount (.object n) x) h
      (hseen.value h.sound hlive) hi
  · cases k <;> cases policy <;> first | exact .same nofun h | exact absurd ⟨rfl, rfl⟩ htype

theorem Action.run_ends (htx : ∀ raw u, core.tx.unserialize raw ≠ .faults u)
    (hblock : ∀ raw u, core.block.unserialize raw ≠ .faults u) (h : Matches none s store)
    (hsound : Sound store) (action : Action) (hallowed : action.Allowed s) :
    ActionEnd store (action.run s) := by
  cases action with
  | newScriptPubkey i alloc raw => exact construct_ends (.scriptPubkey alloc raw) h trivial hallowed
  | newTransactionOutput i alloc amount j =>
    exact newTransactionOutput_ends alloc amount h hallowed.1 hallowed.2
  | newTransaction i alloc raw =>
    exact construct_ends (.transaction htx alloc raw) h trivial hallowed
  | newBlock i alloc raw => exact construct_ends (.block hblock alloc raw) h trivial hallowed
  | copy i j policy ok => exact copy_ends policy ok h hallowed.1 hallowed.2
  | moveConstruct i j => exact moveConstruct_ends h hallowed.1 hallowed.2
  | moveAssign i j =>
    obtain ⟨hself, husable, htypes⟩ := hallowed
    by_cases hij : i = j
    · subst hij
      exact selfMove_unowned_ends h husable (hself rfl)
    · exact moveAssign_ends h hsound hij husable htypes
  | destroy i => exact destroy_ends h hsound hallowed

end

/-! ## Programs -/

section

variable {s s' : Process core} {action : Action}

theorem attempt_of_returns (h : action.run s = (.returns (), s')) :
    action.attempt s = (.returns none, s') := by
  rw [Action.attempt, Prog.catchAll, Prog.bind_of_returns h]
  rfl

theorem attempt_of_throws {e : Thrown} (h : action.run s = (.throws e, s')) :
    action.attempt s = (.returns (some e), s') := by
  rw [Action.attempt, Prog.catchAll, Prog.bind_of_throws h]
  rfl

theorem attempt_of_faults {u : Fault} (h : action.run s = (.faults u, s')) :
    action.attempt s = (.faults u, s') := by
  rw [Action.attempt, Prog.catchAll, Prog.bind_of_faults h]

/-- What has been done is a run of the store, and the rest of the program goes on with it. -/
theorem runAll_matches (htx : ∀ raw u, core.tx.unserialize raw ≠ .faults u)
    (hblock : ∀ raw u, core.block.unserialize raw ≠ .faults u) : ∀ {actions : List Action}
    {s : Process core} {ops : List Op} {store : Store},
    Run (Restrict Step NotSelfMove) .empty ops store → Matches none s store →
    WellBehaved actions s → ∃ thrown s' ops' store', runAll actions s = (.returns thrown, s') ∧
      Run (Restrict Step NotSelfMove) .empty ops' store' ∧ Matches none s' store' := by
  intro actions
  induction actions with
  | nil => exact fun {s ops store} hops h _ => ⟨[], s, ops, store, rfl, hops, h⟩
  | cons action actions ih =>
    intro s ops store hops h hwell
    obtain ⟨hallowed, hwell⟩ := hwell
    have hend := Action.run_ends htx hblock h (sound_of_run hops) action hallowed
    rcases hrun : action.run s with ⟨out, s₁⟩
    rw [hrun] at hend hwell
    obtain ⟨thrown, ops₁, store₁, hattempt, hops₁, h₁⟩ : ∃ thrown ops₁ store₁,
        action.attempt s = (.returns thrown, s₁) ∧
          Run (Restrict Step NotSelfMove) .empty ops₁ store₁ ∧ Matches none s₁ store₁ := by
      cases hend with
      | done hstep h₁ => exact ⟨none, _, _, attempt_of_returns hrun, hops.snoc hstep, h₁⟩
      | same hout h₁ =>
        cases out with
        | returns u => exact ⟨none, ops, store, attempt_of_returns hrun, hops, h₁⟩
        | throws e => exact ⟨some e, ops, store, attempt_of_throws hrun, hops, h₁⟩
        | faults u => exact absurd rfl (hout u)
    obtain ⟨others, s₂, ops₂, store₂, hall, hops₂, h₂⟩ := ih hops₁ h₁ hwell
    refine ⟨thrown :: others, s₂, ops₂, store₂, ?_, hops₂, h₂⟩
    rw [runAll, Prog.bind_of_returns hattempt, Prog.bind_of_returns hall]
    rfl

/--
**A well-behaved program does what operations of a store do.** It is defined, and there is a run of
the store, with no self-move of an owned wrapper, that ends in a store that says what memory and
objects are.
-/
theorem runAll_refines (htx : ∀ raw u, core.tx.unserialize raw ≠ .faults u)
    (hblock : ∀ raw u, core.block.unserialize raw ≠ .faults u) {actions : List Action}
    {schedule : List Bool}
    (hwell : WellBehaved actions (Process.empty (Heap.empty schedule) : Process core)) :
    ∃ thrown s ops store,
      runAll actions (Process.empty (Heap.empty schedule) : Process core) = (.returns thrown, s) ∧
        Run (Restrict Step NotSelfMove) .empty ops store ∧ Matches none s store :=
  runAll_matches htx hblock (.nil Store.empty) (.empty schedule) hwell

/-- A script is copied, the copy is moved over the original, and both go out of scope. -/
def copyOver : List Action :=
  [.newScriptPubkey 0 (fun _ => true) [0x51], .copy 1 0 .owned true, .moveAssign 0 1, .destroy 1,
    .destroy 0]

theorem copyOver_wellBehaved :
    WellBehaved copyOver (Process.empty (Heap.empty []) : Process minimalCore) :=
  ⟨rfl, ⟨rfl, _, 0, rfl, rfl, rfl⟩,
    ⟨fun h => absurd h Nat.zero_ne_one, ⟨_, 1, rfl, rfl, rfl⟩, _, _, rfl, rfl, rfl, rfl⟩,
    rfl, rfl, trivial⟩

theorem runAll_refines_copyOver : ∃ thrown s ops store,
    runAll copyOver (Process.empty (Heap.empty []) : Process minimalCore) = (.returns thrown, s) ∧
      Run (Restrict Step NotSelfMove) .empty ops store ∧ Matches none s store :=
  runAll_refines (minimalCore_throws _ _) (minimalCore_throws _ _) copyOver_wellBehaved

/-! ## What becomes of the library's objects -/

/-- The wrapper at `i` owns the object. -/
def Process.Owns (s : Process core) (i n : Nat) : Prop :=
  ∃ w, s.wrappers i = some w ∧ w.policy = .owned ∧ w.ptr_ = some (.object n)

/-- What a program relies on, in terms of the library's memory. -/
structure Process.Accounted (s : Process core) : Prop where
  /-- What is in memory has exactly one owner. -/
  owner : ∀ n, (s.native.objects.cell n).isSome → ∃! i, s.Owns i n
  /-- What an owned wrapper points to, if it has a pointer, is in memory. -/
  there : ∀ i w p, s.wrappers i = some w → w.policy = .owned → w.ptr_ = some p →
    ∃ n, p = .object n ∧ (s.native.objects.cell n).isSome
  /-- All error records have been freed, once. -/
  records : ∀ n < s.native.errors.next, s.native.errors.freed.count n = 1
  /-- When no owned wrapper is left, everything has been freed, once. -/
  drained : (∀ i w, s.wrappers i = some w → w.policy = .unowned) →
    (∀ n < s.native.objects.next, s.native.objects.freed.count n = 1) ∧
      ∀ t < s.native.transactions.next, s.native.transactions.freed.count t = 1

theorem Matches.owns_iff {store : Store} (h : Matches none s store) {i n : Nat} :
    s.Owns i n ↔ store.owns i = some n := by
  constructor
  · rintro ⟨w, hw, howned, hn⟩
    obtain ⟨v, hv, hfits⟩ := h.wrapper hw nofun
    simp [Store.owns, ownOf, hv, hfits.policy, howned, hfits.ptr_eq hn]
  · intro hown
    have hrel := h.wrappers i nofun
    rw [Store.owns] at hown
    cases hv : store.wrappers i with
    | none => rw [hv] at hown; cases hown
    | some v =>
      rw [hv, ownOf] at hown
      split at hown
      · next howned =>
        rw [hv] at hrel
        generalize hw : s.wrappers i = a at hrel
        cases hrel with
        | some hfits =>
          exact ⟨_, hw, hfits.policy ▸ howned, by rw [hfits.ptr, hown]; rfl⟩
      · cases hown

theorem Matches.accounted {store : Store} (h : Matches none s store) (hsound : Sound store) :
    s.Accounted where
  owner n hlive := by
    rw [← h.live n] at hlive
    obtain ⟨i, hi⟩ := (hsound.exclusive.live_iff n).mp hlive
    refine ⟨i, h.owns_iff.mpr hi, fun j hj => ?_⟩
    exact hsound.exclusive.unique j i n (h.owns_iff.mp hj) hi
  there i w p hw howned hp := by
    obtain ⟨v, hv, hfits⟩ := h.wrapper hw nofun
    obtain ⟨n, hn, rfl⟩ := Option.map_eq_some_iff.mp (hfits.ptr.symm.trans hp)
    refine ⟨n, rfl, ?_⟩
    rw [← h.live n]
    exact hsound.exclusive.live_of_owns (h.owns_iff.mp ⟨w, hw, howned, hp⟩)
  records n := h.records.freed
  drained hall := by
    have hgone : ∀ n, s.native.objects.cell n = none := by
      refine fun n => Option.not_isSome_iff_eq_none.mp fun hlive => ?_
      rw [← h.live] at hlive
      obtain ⟨i, hi⟩ := (hsound.exclusive.live_iff n).mp hlive
      obtain ⟨w, hw, howned, -⟩ := h.owns_iff.mpr hi
      cases howned.symm.trans (hall i w hw)
    exact ⟨fun n hn => Heap.freed_of_none hn (hgone n), h.sound.transactions_gone hgone⟩

/--
**A well-behaved program gives back what it takes.** It is defined, and wherever it stops each
object of the library has exactly one owner, and no error record is left.
-/
theorem runAll_accounted (htx : ∀ raw u, core.tx.unserialize raw ≠ .faults u)
    (hblock : ∀ raw u, core.block.unserialize raw ≠ .faults u) {actions : List Action}
    {schedule : List Bool}
    (hwell : WellBehaved actions (Process.empty (Heap.empty schedule) : Process core)) :
    ∃ thrown s,
      runAll actions (Process.empty (Heap.empty schedule) : Process core) = (.returns thrown, s) ∧
        s.Accounted := by
  obtain ⟨thrown, s, ops, store, hrun, hops, h⟩ :=
    runAll_matches htx hblock (.nil Store.empty) (.empty schedule) hwell
  exact ⟨thrown, s, hrun, h.accounted (sound_of_run hops)⟩

/-- The end of `copyOver`. -/
def copyOverEnd : Process minimalCore := (runAll copyOver (Process.empty (Heap.empty []))).2

theorem copyOverEnd_wrappers : ∀ i, copyOverEnd.wrappers i = none
  | 0 => rfl
  | 1 => rfl
  | _ + 2 => rfl

theorem runAll_accounted_copyOver : copyOverEnd.native.objects.freed.count 0 = 1 ∧
    copyOverEnd.native.objects.freed.count 1 = 1 := by
  obtain ⟨thrown, s, hrun, hacc⟩ :=
    runAll_accounted (minimalCore_throws _ _) (minimalCore_throws _ _) copyOver_wellBehaved
  obtain rfl : copyOverEnd = s := congrArg Prod.snd hrun
  obtain ⟨hobjects, -⟩ := hacc.drained fun i w hw => by
    rw [copyOverEnd_wrappers] at hw
    cases hw
  exact ⟨hobjects 0 (by decide), hobjects 1 (by decide)⟩

/-! ## The self-move -/

/-- The wrapper keeps the pointer that it has freed, and frees it again. -/
theorem selfMove_ends {store : Store} (h : Matches none s store) (hsound : Sound store) {i : Nat}
    {w : WrapperObject} (hw : s.wrappers i = some w) (howned : w.policy = .owned)
    (hi : s.Usable i) :
    ∃ n s', w.ptr_ = some (.object n) ∧ (Action.moveAssign i i).run s = (.returns (), s') ∧
      s'.wrappers i = some w ∧ s'.native.objects.cell n = none ∧
      (Action.destroy i).run s' = (.faults .undefined, s') := by
  obtain ⟨w', v, n, hw', hv, hfits, husable, hptr, hptr', hlive⟩ := h.usable hi
  obtain rfl : w = w' := Option.some.inj (hw.symm.trans hw')
  obtain ⟨m, hrun, hlater, hmatches⟩ := free_matches (ε := Thrown) h hsound hv hfits
  obtain ⟨x, hseen⟩ := hfits.seen n hptr'
  have hdead : ¬ (m.objects.cell n).isSome := by
    have hlive' : store.live n = true := by rw [h.live, hlive]
    have hfreed := hmatches.live n
    rw [hfits.policy, howned, hptr', Store.free, nativeFree_of_live hlive'] at hfreed
    rw [← hfreed]
    simp
  obtain ⟨s', hmoved, hback, rfl⟩ : ∃ s', (Action.moveAssign i i).run s = (.returns (), s') ∧
      s'.wrappers i = some w ∧ s'.native = m := by
    rw [Action.run, withWrapper_run hw, Prog.bind_of_returns hrun,
      withWrapper_run (s := { s with native := m }) hw, if_pos ⟨rfl, rfl⟩]
    exact ⟨_, rfl, Function.update_self .., rfl⟩
  have hfree : (freePtr w.policy w.ptr_ : Prog (Native core) Thrown Unit) s'.native
      = (.faults .undefined, s'.native) := by
    rw [howned, hptr]
    exact Prog.bind_of_faults ((hseen.later hlater).get_of_dead hmatches.sound hdead) _
  refine ⟨n, s', hptr, hmoved, hback, Option.not_isSome_iff_eq_none.mp hdead, ?_⟩
  rw [Action.run, withWrapper_run hback]
  exact Prog.bind_of_faults (Prog.within_run nativePart hfree) _

/--
**An owned wrapper that is moved to itself cannot be destroyed.** Whatever a well-behaved program
has done before, the move returns and leaves the wrapper its pointer, whose object is gone. The
destructor makes the library free it again.
-/
theorem selfMove_faults (htx : ∀ raw u, core.tx.unserialize raw ≠ .faults u)
    (hblock : ∀ raw u, core.block.unserialize raw ≠ .faults u) {actions : List Action}
    {schedule : List Bool} {thrown : List (Option Thrown)}
    (hwell : WellBehaved actions (Process.empty (Heap.empty schedule) : Process core))
    (hrun : runAll actions (Process.empty (Heap.empty schedule)) = (.returns thrown, s)) {i : Nat}
    {w : WrapperObject} (hw : s.wrappers i = some w) (howned : w.policy = .owned)
    (hi : s.Usable i) :
    ∃ n s', w.ptr_ = some (.object n) ∧ runAll [.moveAssign i i] s = (.returns [none], s') ∧
      s'.wrappers i = some w ∧ s'.native.objects.cell n = none ∧
      runAll [.destroy i] s' = (.faults .undefined, s') ∧
      runAll [.moveAssign i i, .destroy i] s = (.faults .undefined, s') := by
  obtain ⟨thrown', s₁, ops, store, hrun', hops, h⟩ :=
    runAll_matches htx hblock (.nil Store.empty) (.empty schedule) hwell
  obtain rfl : s = s₁ := congrArg Prod.snd (hrun.symm.trans hrun')
  obtain ⟨n, s₂, hptr, hmove, hback, hgone, hdestroy⟩ :=
    selfMove_ends h (sound_of_run hops) hw howned hi
  have hmoved := attempt_of_returns hmove
  have hfault : runAll [.destroy i] s₂ = (.faults .undefined, s₂) := by
    rw [runAll]
    exact Prog.bind_of_faults (attempt_of_faults hdestroy) _
  refine ⟨n, s₂, hptr, ?_, hback, hgone, hfault, ?_⟩
  · rw [runAll, Prog.bind_of_returns hmoved]
    rfl
  · rw [runAll, Prog.bind_of_returns hmoved]
    exact Prog.bind_of_faults hfault _

/-- A script was made. -/
def scriptMade : Process minimalCore :=
  (runAll [.newScriptPubkey 0 (fun _ => true) [0x51]] (Process.empty (Heap.empty []))).2

theorem selfMove_faults_script :
    ∃ s', runAll [.moveAssign 0 0, .destroy 0] scriptMade = (.faults .undefined, s') := by
  have hwell : WellBehaved [.newScriptPubkey 0 (fun _ => true) [0x51]]
      (Process.empty (Heap.empty []) : Process minimalCore) := ⟨rfl, trivial⟩
  have husable : scriptMade.Usable 0 := ⟨_, 0, rfl, rfl, rfl⟩
  obtain ⟨n, s', -, -, -, -, -, hfaults⟩ :=
    selfMove_faults (s := scriptMade) (minimalCore_throws _ _) (minimalCore_throws _ _) hwell rfl
      rfl rfl husable
  exact ⟨s', hfaults⟩

end

end Btck.Cpp
