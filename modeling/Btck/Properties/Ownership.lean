import Btck.Cpp.Wrapper
import Btck.Infra.Ownership

/-!
# Who owns a native handle

The handles that the owned wrappers hold are exactly the live ones, and no two wrappers hold the
same. `Sound` says so and is kept by every operation except one: an owned wrapper that is
move-assigned to itself frees its handle and then takes it back.

* `Accounted` — what a program relies on
* `sound_step` — the operations keep `Sound`
* `run_accounted` — every run in which no owned wrapper is moved to itself is accounted for
* `selfMove_breaks` — such an assignment always leaves a freed handle behind
-/

namespace Btck.Cpp

open Infra

/-! ## The invariant -/

/-- The handle that an object owns. -/
def ownOf : Option Wrapper → Option Handle
  | some w => if w.policy = .owned then w.ptr_ else none
  | none => none

/-- The handle that the object at `i` owns. -/
def Store.owns (s : Store) (i : Nat) : Option Handle := ownOf (s.wrappers i)

/-- What may be said of an object when `live` says which handles are live. -/
structure Wrapper.Ok (live : Handle → Bool) (w : Wrapper) : Prop where
  usable : w.status = .usable → ∃ p, w.ptr_ = some p ∧ live p = true
  movedFrom : w.status = .movedFrom → w.ptr_ = none
  expired : w.status = .expired → w.policy = .unowned

/-- The invariant. -/
structure Sound (s : Store) : Prop where
  exclusive : Exclusive s.live s.owns
  wrappers : ∀ i w, s.wrappers i = some w → w.Ok s.live
  noBadFree : s.badFrees = 0

/-- What a program relies on. -/
structure Accounted (s : Store) : Prop where
  /-- Every live handle is held by exactly one owned wrapper. -/
  owner : ∀ p, s.live p = true → ∃! i, s.owns i = some p
  /-- No wrapper that may be read holds a freed or null handle. -/
  usable : ∀ i w, s.wrappers i = some w → w.status = .usable →
    ∃ p, w.ptr_ = some p ∧ s.live p = true
  /-- Owned wrappers may be read unless they were moved from. -/
  owned : ∀ i w, s.wrappers i = some w → w.policy = .owned → w.status ≠ .expired
  /-- `Free` was never called on a handle that is not live. -/
  noBadFree : s.badFrees = 0
  /-- When no owned wrapper is left, no handle is live. -/
  drained : (∀ i w, s.wrappers i = some w → w.policy = .unowned) → ∀ p, s.live p = false

theorem Sound.accounted {s : Store} (hs : Sound s) : Accounted s where
  owner := by
    intro p hp
    obtain ⟨i, hi⟩ := (hs.exclusive.live_iff p).mp hp
    exact ⟨i, hi, fun j hj => hs.exclusive.unique j i p hj hi⟩
  usable := fun i w hw => (hs.wrappers i w hw).usable
  owned := by
    intro i w hw hpolicy hexp
    rw [(hs.wrappers i w hw).expired hexp] at hpolicy
    simp at hpolicy
  noBadFree := hs.noBadFree
  drained := by
    intro hall p
    by_contra hp
    obtain ⟨i, hi⟩ := (hs.exclusive.live_iff p).mp (by simpa using hp)
    cases hw : s.wrappers i with
    | none => simp [Store.owns, ownOf, hw] at hi
    | some w => simp [Store.owns, ownOf, hw, hall i w hw] at hi

theorem sound_empty : Sound .empty where
  exclusive := .empty
  wrappers := by simp [Store.empty]
  noBadFree := rfl

/-! ## The parts of an operation -/

section

variable {s : Store} {i j : Nat} {w : Wrapper} {p : Handle}

theorem owns_put (s : Store) (i : Nat) (w : Wrapper) :
    (s.put i w).owns = Function.update s.owns i (ownOf (some w)) :=
  Function.comp_update ownOf s.wrappers i (some w)

theorem owns_remove (s : Store) (i : Nat) :
    (s.remove i).owns = Function.update s.owns i none :=
  Function.comp_update ownOf s.wrappers i none

theorem owns_of_none (hi : s.wrappers i = none) : s.owns i = none := by
  rw [Store.owns, hi]
  rfl

/-- To change one object, look at that object only. -/
theorem ok_put {live : Handle → Bool} (hall : ∀ k v, s.wrappers k = some v → v.Ok live)
    (hw : w.Ok live) : ∀ k v, (s.put i w).wrappers k = some v → v.Ok live := by
  intro k v hk
  by_cases hki : k = i
  · rw [hki, Store.put_self] at hk
    obtain rfl := Option.some.inj hk
    exact hw
  · rw [s.put_of_ne w hki] at hk
    exact hall k v hk

theorem Wrapper.Ok.mono {live live' : Handle → Bool} (hw : w.Ok live)
    (hle : ∀ p, live p = true → live' p = true) : w.Ok live' where
  usable := by
    intro hu
    obtain ⟨p, hp, hl⟩ := hw.usable hu
    exact ⟨p, hp, hle p hl⟩
  movedFrom := hw.movedFrom
  expired := hw.expired

theorem ok_create (hs : Sound s) (p : Handle) :
    ∀ k v, (s.create p).wrappers k = some v → v.Ok (s.create p).live := by
  intro k v hk
  refine (hs.wrappers k v hk).mono fun q hq => ?_
  change Function.update s.live p true q = true
  by_cases hqp : q = p
  · rw [hqp, Function.update_self]
  · rw [Function.update_of_ne hqp, hq]

/-- A new owned wrapper around a fresh handle. -/
theorem sound_create (hs : Sound s) (hi : s.wrappers i = none) (hp : s.live p = false) :
    Sound ((s.create p).put i { policy := .owned, ptr_ := some p, status := .usable }) where
  exclusive := by
    rw [owns_put]
    exact hs.exclusive.acquire (owns_of_none hi) hp
  wrappers := ok_put (ok_create hs p)
    ⟨fun _ => ⟨p, rfl, Function.update_self ..⟩, by simp, by simp⟩
  noBadFree := hs.noBadFree

/-- An unowned wrapper owns nothing, whatever it points to. -/
theorem sound_put_unowned (hs : Sound s) (hi : s.owns i = none) (hpolicy : w.policy = .unowned)
    (hw : w.Ok s.live) : Sound (s.put i w) where
  exclusive := by
    have hown : ownOf (some w) = s.owns i := by simp [ownOf, hpolicy, hi]
    rw [owns_put, hown, Function.update_eq_self]
    exact hs.exclusive
  wrappers := ok_put hs.wrappers hw
  noBadFree := hs.noBadFree

/-! ## Freeing -/

theorem ownOf_expire (o : Option Wrapper) : ownOf (o.map (Store.expire p)) = ownOf o := by
  cases o with
  | none => rfl
  | some w =>
    by_cases hw : w.policy = .unowned ∧ w.ptr_ = some p
    · simp [ownOf, Store.expire, hw]
    · simp [Store.expire, hw]

/--
What the `free` of the wrapper at `i` leaves behind: its handle is nobody's and not live, and
the other objects are in order.
-/
structure Freed (s s' : Store) (i : Nat) : Prop where
  exclusive : Exclusive s'.live (Function.update s.owns i none)
  owns_eq : s'.owns = s.owns
  noBadFree : s'.badFrees = 0
  ok : ∀ k v, k ≠ i → s'.wrappers k = some v → v.Ok s'.live

/-- A wrapper that owns nothing frees nothing. -/
theorem Freed.refl (hs : Sound s) (hi : s.owns i = none) : Freed s s i where
  exclusive := by
    rw [← hi, Function.update_eq_self]
    exact hs.exclusive
  owns_eq := rfl
  noBadFree := hs.noBadFree
  ok := fun k v _ hk => hs.wrappers k v hk

theorem nativeFree_of_live (hp : s.live p = true) : s.nativeFree (some p) =
    { s with
      live := Function.update s.live p false
      wrappers := fun i => (s.wrappers i).map (Store.expire p) } := by
  rw [Store.nativeFree, if_pos hp]

/-- Whoever does not own the freed handle is in order afterwards. -/
theorem ok_expire {v : Wrapper} (hv : v.Ok s.live) (hown : ownOf (some v) ≠ some p) :
    (Store.expire p v).Ok (Function.update s.live p false) := by
  by_cases hw : v.policy = .unowned ∧ v.ptr_ = some p
  · rw [Store.expire, if_pos hw]
    exact ⟨by simp, by simp, fun _ => hw.1⟩
  · rw [Store.expire, if_neg hw]
    refine ⟨?_, hv.movedFrom, hv.expired⟩
    intro hu
    obtain ⟨q, hq, hlive⟩ := hv.usable hu
    refine ⟨q, hq, ?_⟩
    have hqp : q ≠ p := by
      rintro rfl
      have howned : v.policy = .owned := by
        cases hpol : v.policy with
        | owned => rfl
        | unowned => exact absurd ⟨hpol, hq⟩ hw
      exact hown (by simp [ownOf, howned, hq])
    rw [Function.update_of_ne hqp, hlive]

theorem freed_free (hs : Sound s) (hw : s.wrappers i = some w) :
    Freed s (s.free w.policy w.ptr_) i := by
  cases hpolicy : w.policy with
  | unowned => exact .refl hs (by simp [Store.owns, ownOf, hw, hpolicy])
  | owned =>
    have hown : s.owns i = w.ptr_ := by simp [Store.owns, ownOf, hw, hpolicy]
    cases hptr : w.ptr_ with
    | none => exact .refl hs (by rw [hown, hptr])
    | some p =>
      rw [hptr] at hown
      have hlive := hs.exclusive.live_of_owns hown
      rw [Store.free, nativeFree_of_live hlive]
      refine ⟨hs.exclusive.release hown, ?_, hs.noBadFree, ?_⟩
      · funext k
        exact ownOf_expire (s.wrappers k)
      · intro k v hki hk
        obtain ⟨u, hu, rfl⟩ := Option.map_eq_some_iff.mp hk
        refine ok_expire (hs.wrappers k u hu) fun hc => hki ?_
        exact hs.exclusive.unique k i p (by rw [Store.owns, hu, hc]) hown

/-- Freeing does not change a wrapper of the same policy. -/
theorem free_wrappers {v : Wrapper} (hv : s.wrappers j = some v) (hpolicy : w.policy = v.policy) :
    (s.free w.policy w.ptr_).wrappers j = some v := by
  cases hown : v.policy with
  | unowned =>
    rw [hpolicy, hown]
    exact hv
  | owned =>
    rw [hpolicy, hown]
    show (s.nativeFree w.ptr_).wrappers j = some v
    cases w.ptr_ with
    | none => exact hv
    | some p =>
      rw [Store.nativeFree]
      split
      · show (s.wrappers j).map (Store.expire p) = some v
        rw [hv, Option.map_some, Store.expire, if_neg (by simp [hown])]
      · exact hv

/-! ## One operation -/

theorem sound_copy (hs : Sound s) {policy : Policy} {result : Option Handle}
    (hl : Legal s (.copy i j policy result)) : Sound (exec s (.copy i j policy result)) := by
  obtain ⟨hi, ⟨other, hj, hu⟩, hfresh⟩ := hl
  simp only [exec, hj]
  cases policy with
  | unowned =>
    obtain ⟨p, hp, hlive⟩ := (hs.wrappers j other hj).usable hu
    exact sound_put_unowned hs (owns_of_none hi) rfl ⟨fun _ => ⟨p, hp, hlive⟩, by simp, by simp⟩
  | owned =>
    cases result with
    | none => exact hs
    | some p => exact sound_create hs hi (hfresh p rfl)

theorem sound_moveConstruct (hs : Sound s) (hl : Legal s (.moveConstruct i j)) :
    Sound (exec s (.moveConstruct i j)) := by
  obtain ⟨hi, other, hj, hu⟩ := hl
  -- the new object is no object yet, so it cannot be the one that is moved from
  have hij : i ≠ j := by
    rintro rfl
    rw [hi] at hj
    simp at hj
  have hnew : ownOf (some { policy := other.policy, ptr_ := other.ptr_, status := .usable })
      = s.owns j := by
    rw [Store.owns, hj]
    rfl
  have hold : ownOf (some { other with ptr_ := none, status := .movedFrom }) = none := by
    simp [ownOf]
  simp only [exec, hj]
  refine ⟨?_, ?_, hs.noBadFree⟩
  · rw [owns_put, owns_put, hnew, hold, Function.update_comm hij]
    exact hs.exclusive.transfer hij (owns_of_none hi)
  · refine ok_put (ok_put hs.wrappers ?_) ⟨by simp, fun _ => rfl, by simp⟩
    exact ⟨fun _ => (hs.wrappers j other hj).usable hu, by simp, by simp⟩

theorem sound_moveAssign (hs : Sound s) (hl : Legal s (.moveAssign i j)) (hij : i ≠ j) :
    Sound (exec s (.moveAssign i j)) := by
  obtain ⟨⟨other, hj, hu⟩, self, other', hi, hj', hpolicy⟩ := hl
  obtain rfl : other' = other := Option.some.inj (hj'.symm.trans hj)
  -- `self` gives its handle back first; `other` still has its own
  have hf := freed_free hs hi
  have hj' := free_wrappers (w := self) hj hpolicy
  simp only [exec, hi]
  generalize s.free self.policy self.ptr_ = s' at hf hj' ⊢
  have hok := hf.ok j other' (Ne.symm hij) hj'
  have hnew : ownOf (some { self with ptr_ := other'.ptr_, status := .usable })
      = Function.update s.owns i none j := by
    rw [Function.update_of_ne (Ne.symm hij), Store.owns, hj, ownOf, ownOf, hpolicy]
  have hold : ownOf (some { other' with ptr_ := none, status := .movedFrom }) = none := by
    simp [ownOf]
  simp only [hj']
  refine ⟨?_, ?_, hf.noBadFree⟩
  · have htransfer := hf.exclusive.transfer hij (Function.update_self ..)
    rw [owns_put, owns_put, hnew, hold, hf.owns_eq]
    -- What was at `i` before does not matter: it is written over.
    rw [Function.update_comm hij, Function.update_idem] at htransfer
    exact htransfer
  · intro k v hk
    by_cases hki : k = i
    · rw [hki, Store.put_self] at hk
      obtain rfl := Option.some.inj hk
      exact ⟨fun _ => hok.usable hu, by simp, by simp⟩
    · rw [Store.put_of_ne _ _ hki] at hk
      by_cases hkj : k = j
      · rw [hkj, Store.put_self] at hk
        obtain rfl := Option.some.inj hk
        exact ⟨by simp, fun _ => rfl, by simp⟩
      · rw [Store.put_of_ne _ _ hkj] at hk
        exact hf.ok k v hki hk

/-- An unowned wrapper that is moved to itself stays what it is. -/
theorem sound_selfMove_unowned (hs : Sound s) (hl : Legal s (.moveAssign i i))
    (hunowned : ∀ w, s.wrappers i = some w → w.policy = .unowned) :
    Sound (exec s (.moveAssign i i)) := by
  obtain ⟨⟨w, hi, hu⟩, -⟩ := hl
  have hpolicy : w.policy = .unowned := hunowned w hi
  have hfree : s.free w.policy w.ptr_ = s := by rw [hpolicy, Store.free]
  have howns : s.owns i = none := by simp [Store.owns, ownOf, hi, hpolicy]
  have hmoved : Sound (s.put i { w with ptr_ := none, status := .movedFrom }) :=
    sound_put_unowned hs howns hpolicy ⟨by simp, fun _ => rfl, by simp⟩
  simp only [exec, hi, hfree]
  refine sound_put_unowned hmoved (by simp [Store.owns, ownOf]) hpolicy ?_
  exact ⟨fun _ => (hs.wrappers i w hi).usable hu, by simp, by simp⟩

theorem sound_destroy (hs : Sound s) (hl : Legal s (.destroy i)) :
    Sound (exec s (.destroy i)) := by
  obtain ⟨self, hi⟩ := hl
  have hf := freed_free hs hi
  simp only [exec, hi]
  refine ⟨?_, ?_, hf.noBadFree⟩
  · rw [owns_remove, hf.owns_eq]
    exact hf.exclusive
  · intro k v hk
    by_cases hki : k = i
    · rw [hki, Store.remove_self] at hk
      simp at hk
    · rw [Store.remove_of_ne _ hki] at hk
      exact hf.ok k v hki hk

end

/-- Not the move assignment of an owned wrapper to itself. -/
def NotSelfMove (s : Store) : Op → Prop
  | .moveAssign i j => i = j → ∀ w, s.wrappers i = some w → w.policy = .unowned
  | _ => True

/-- **Every operation but the self-move of an owned wrapper keeps the invariant.** -/
theorem sound_step {s s' : Store} {op : Op} (hs : Sound s)
    (hstep : Restrict Step NotSelfMove s op s') : Sound s' := by
  obtain ⟨hself, hl, rfl⟩ := hstep
  cases op with
  | construct i p => exact sound_create hs hl.1 hl.2
  | copy i j policy result => exact sound_copy hs hl
  | moveConstruct i j => exact sound_moveConstruct hs hl
  | moveAssign i j =>
    by_cases hij : i = j
    · subst hij
      exact sound_selfMove_unowned hs hl (hself rfl)
    · exact sound_moveAssign hs hl hij
  | destroy i => exact sound_destroy hs hl

theorem sound_of_run {ops : List Op} {s : Store}
    (hrun : Run (Restrict Step NotSelfMove) .empty ops s) : Sound s :=
  Run.invariant (fun _ _ _ hs hstep => sound_step hs hstep) hrun sound_empty

/--
**In every run in which no owned wrapper is moved to itself, all handles are accounted for**, in
every state that is reached.
-/
theorem run_accounted {ops : List Op} {s : Store}
    (hrun : Run (Restrict Step NotSelfMove) .empty ops s) : Accounted s := by
  have hs : Sound s := sound_of_run hrun
  exact hs.accounted

/-- A copy is made and moved over the original, and both handles are accounted for. -/
theorem run_accounted_copy : Accounted
    (exec (exec (exec .empty (.construct 0 7)) (.copy 1 0 .owned (some 8))) (.moveAssign 0 1)) := by
  have hmade : Run (Restrict Step NotSelfMove) .empty [.construct 0 7]
      (exec .empty (.construct 0 7)) :=
    .single ⟨trivial, ⟨rfl, rfl⟩, rfl⟩
  have hcopied : Run (Restrict Step NotSelfMove) .empty
      [.construct 0 7, .copy 1 0 .owned (some 8)]
      (exec (exec .empty (.construct 0 7)) (.copy 1 0 .owned (some 8))) := by
    refine hmade.snoc ⟨trivial, ⟨rfl, ⟨_, rfl, rfl⟩, ?_⟩, rfl⟩
    intro p hp
    obtain rfl : 8 = p := by simpa using hp
    rfl
  have hmoved : Restrict Step NotSelfMove
      (exec (exec .empty (.construct 0 7)) (.copy 1 0 .owned (some 8))) (.moveAssign 0 1) _ :=
    ⟨fun h => absurd h Nat.zero_ne_one, ⟨⟨_, rfl, rfl⟩, _, _, rfl, rfl, rfl⟩, rfl⟩
  exact run_accounted (hcopied.snoc hmoved)

/-! ## The self-move -/

/--
**The self-move of an owned wrapper always breaks the account**: it keeps the handle that it freed.
-/
theorem selfMove_breaks {s : Store} {i : Nat} {w : Wrapper} (hs : Sound s)
    (hi : s.wrappers i = some w) (howned : w.policy = .owned) (hu : w.status = .usable) :
    ¬ Accounted (exec s (.moveAssign i i)) := by
  intro hacc
  obtain ⟨p, hp, hlive⟩ := (hs.wrappers i w hi).usable hu
  have hfree : (s.free w.policy w.ptr_).wrappers i = some w := free_wrappers hi rfl
  have hdead : (s.free w.policy w.ptr_).live p = false := by
    rw [howned, hp, Store.free, nativeFree_of_live hlive]
    exact Function.update_self ..
  have hexec : exec s (.moveAssign i i) =
      ((s.free w.policy w.ptr_).put i { w with ptr_ := none, status := .movedFrom }).put i
        { w with ptr_ := w.ptr_, status := .usable } := by
    simp only [exec, hi, hfree]
  rw [hexec] at hacc
  obtain ⟨q, hq, hql⟩ := hacc.usable i _ (Function.update_self ..) rfl
  obtain rfl : p = q := Option.some.inj (hp.symm.trans hq)
  change (s.free w.policy w.ptr_).live p = true at hql
  rw [hdead] at hql
  simp at hql

/-- **Made, moved to itself, destroyed**: the handle is freed twice. -/
theorem selfMove_frees_twice : ∃ dangling gone,
    Run Step .empty [.construct 0 7, .moveAssign 0 0] dangling ∧ ¬ Accounted dangling ∧
    Step dangling (.destroy 0) gone ∧ gone.badFrees = 1 := by
  have hmade : Run Step .empty [.construct 0 7] (exec .empty (.construct 0 7)) :=
    .single ⟨⟨rfl, rfl⟩, rfl⟩
  refine ⟨_, _, .snoc hmade ⟨⟨⟨_, rfl, rfl⟩, _, _, rfl, rfl, rfl⟩, rfl⟩, ?_,
    ⟨⟨_, rfl⟩, rfl⟩, rfl⟩
  intro hacc
  obtain ⟨p, hp, hlive⟩ := hacc.usable 0 _ rfl rfl
  obtain rfl : 7 = p := Option.some.inj hp
  exact absurd hlive (by decide)

end Btck.Cpp
