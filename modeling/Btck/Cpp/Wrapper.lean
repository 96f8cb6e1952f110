import Btck.Infra.Run
import Mathlib.Logic.Function.Basic

/-!
# Owned and unowned wrappers (`include/btck/btck.hpp`, `btck::detail::wrapper`)

A wrapper holds a native handle. The owned policy copies and frees it through the C interface,
the unowned policy copies the pointer and frees nothing. A program is a sequence of operations on
any number of wrapper objects; the store says which handles are live.
-/

namespace Btck.Cpp

open Infra

/-- The address of a native object. It can be handed out again once the object was freed. -/
abbrev Handle := Nat

/-- `owned_policy` and `unowned_policy` -/
inductive Policy where
  | owned
  | unowned
  deriving DecidableEq, Repr

/--
How the program stands to a wrapper object. This is not part of the object: it is what the
program has to keep in mind.
-/
inductive Status where
  | usable
  /-- It was moved from and not assigned to since. -/
  | movedFrom
  /-- It does not own its handle, and the handle was freed. -/
  | expired
  deriving DecidableEq, Repr

/-- `wrapper<Api, Policy>` -/
structure Wrapper where
  policy : Policy
  ptr_ : Option Handle
  status : Status
  deriving DecidableEq, Repr

/-- The native handles and the wrapper objects, by address. -/
structure Store where
  live : Handle → Bool
  wrappers : Nat → Option Wrapper
  /-- How often `Free` was called on a handle that was not live. -/
  badFrees : Nat

namespace Store

/-- Nothing was made yet. -/
def empty : Store where
  live := fun _ => false
  wrappers := fun _ => none
  badFrees := 0

/-- `New` and `Copy` make `p` live. -/
def create (s : Store) (p : Handle) : Store := { s with live := Function.update s.live p true }

/-- The object at `i` is now `w`. -/
def put (s : Store) (i : Nat) (w : Wrapper) : Store :=
  { s with wrappers := Function.update s.wrappers i (some w) }

/-- The object at `i` is gone. -/
def remove (s : Store) (i : Nat) : Store :=
  { s with wrappers := Function.update s.wrappers i none }

@[simp] theorem put_self (s : Store) (i : Nat) (w : Wrapper) : (s.put i w).wrappers i = some w :=
  Function.update_self ..

theorem put_of_ne (s : Store) {i k : Nat} (w : Wrapper) (h : k ≠ i) :
    (s.put i w).wrappers k = s.wrappers k :=
  Function.update_of_ne h ..

@[simp] theorem remove_self (s : Store) (i : Nat) : (s.remove i).wrappers i = none :=
  Function.update_self ..

theorem remove_of_ne (s : Store) {i k : Nat} (h : k ≠ i) :
    (s.remove i).wrappers k = s.wrappers k :=
  Function.update_of_ne h ..

/-- Wrappers that point to `p` without owning it have expired. -/
def expire (p : Handle) (w : Wrapper) : Wrapper :=
  if w.policy = .unowned ∧ w.ptr_ = some p then { w with status := .expired } else w

/-- The native `Free`. Free of null does nothing. -/
def nativeFree (s : Store) : Option Handle → Store
  | none => s
  | some p =>
    if s.live p then
      { s with
        live := Function.update s.live p false
        wrappers := fun i => (s.wrappers i).map (expire p) }
    else { s with badFrees := s.badFrees + 1 }

/-- `ownership_traits::free` -/
def free (s : Store) (policy : Policy) (ptr : Option Handle) : Store :=
  match policy with
  | .owned => s.nativeFree ptr
  | .unowned => s

end Store

/-! ## Operations -/

/-- What a program does with wrappers. -/
inductive Op where
  /-- `wrapper(internal, New(..))`, where `New` returned `p`. -/
  | construct (i : Nat) (p : Handle)
  /--
  The constructors from a `const&`, of the same policy or of the other one. `result` is what the
  native `Copy` returned, if it is called; it can fail, and the constructor then throws.
  -/
  | copy (i j : Nat) (policy : Policy) (result : Option Handle)
  /-- `wrapper(wrapper&&)` -/
  | moveConstruct (i j : Nat)
  /-- `operator=(wrapper&&)` -/
  | moveAssign (i j : Nat)
  /-- `~wrapper()` -/
  | destroy (i : Nat)
  deriving DecidableEq, Repr

/-- The effect of an operation on the store, statement by statement. -/
def exec (s : Store) : Op → Store
  | .construct i p => (s.create p).put i { policy := .owned, ptr_ := some p, status := .usable }
  | .copy i j policy result =>
    match s.wrappers j, policy, result with
    | some other, .unowned, _ =>
      s.put i { policy := .unowned, ptr_ := other.ptr_, status := .usable }
    | some _, .owned, some p =>
      (s.create p).put i { policy := .owned, ptr_ := some p, status := .usable }
    | _, _, _ => s
  | .moveConstruct i j =>
    match s.wrappers j with
    | some other =>
      -- ptr_(other.ptr_), then other.ptr_ = nullptr
      let s := s.put i { policy := other.policy, ptr_ := other.ptr_, status := .usable }
      s.put j { other with ptr_ := none, status := .movedFrom }
    | none => s
  | .moveAssign i j =>
    match s.wrappers i with
    | some self =>
      let s := s.free self.policy self.ptr_
      match s.wrappers j with
      | some other =>
        -- ptr_ = std::exchange(other.ptr_, nullptr): null goes in before the old value comes out
        let s := s.put j { other with ptr_ := none, status := .movedFrom }
        s.put i { self with ptr_ := other.ptr_, status := .usable }
      | none => s
    | none => s
  | .destroy i =>
    match s.wrappers i with
    | some self => (s.free self.policy self.ptr_).remove i
    | none => s

/-- The wrapper at `i` may be read. -/
def Usable (s : Store) (i : Nat) : Prop := ∃ w, s.wrappers i = some w ∧ w.status = .usable

/--
What a well-behaved program does: a moved-from wrapper is only assigned to or destroyed, an
unowned wrapper is not used after its owner is gone, and a fresh handle is not a live one.
-/
def Legal (s : Store) : Op → Prop
  | .construct i p => s.wrappers i = none ∧ s.live p = false
  | .copy i j _ result => s.wrappers i = none ∧ Usable s j ∧ ∀ p ∈ result, s.live p = false
  | .moveConstruct i j => s.wrappers i = none ∧ Usable s j
  | .moveAssign i j => Usable s j ∧ ∃ self other, s.wrappers i = some self ∧
      s.wrappers j = some other ∧ self.policy = other.policy
  | .destroy i => ∃ w, s.wrappers i = some w

/-- One operation of a well-behaved program. -/
def Step (s : Store) (op : Op) (s' : Store) : Prop := Legal s op ∧ s' = exec s op

end Btck.Cpp
