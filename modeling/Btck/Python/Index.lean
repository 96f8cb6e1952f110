import Btck.Infra.Progression
import Btck.Python.Error

/-!
# Indices and slices, as CPython computes them

The module leaves the work on indices to CPython, which is not part of the repository. Its
integers are unbounded, and a `Py_ssize_t` has 64 bits.

* `PySlice.unpack`, `PySlice.adjustIndices`, `PyNumber.asSsize_t` — the C functions that the
  module calls, on clipped numbers
* `PyList.indices`, `PyList.getSlice`, `PyList.getItem` — what subscripts of a list mean, on
  integers of any size
-/

namespace Btck.Python

open Infra

/-- `PY_SSIZE_T_MAX` -/
def ssizeMax : Int := 0x7fffffffffffffff

/-- `PY_SSIZE_T_MIN` -/
def ssizeMin : Int := -0x8000000000000000

/-- The value is a `Py_ssize_t`. -/
def IsSsize (n : Int) : Prop := ssizeMin ≤ n ∧ n ≤ ssizeMax

instance (n : Int) : Decidable (IsSsize n) := inferInstanceAs (Decidable (_ ∧ _))

/-- One of the three values of a slice object. -/
inductive Bound where
  | none
  | index (k : Int)
  /-- An object that is neither `None` nor an integer. -/
  | other
  deriving DecidableEq, Repr

/-- A slice object. -/
structure Slice where
  start : Bound
  stop : Bound
  step : Bound
  deriving DecidableEq, Repr

def zeroStep : PyErr := ⟨.valueError, some "slice step cannot be zero"⟩

def noIndex : PyErr :=
  ⟨.typeError, some "slice indices must be integers or None or have an __index__ method"⟩

/-! ## The C functions -/

/-- `PyNumber_AsSsize_t(k, PyExc_IndexError)` -/
def PyNumber.asSsize_t (k : Int) : Outcome PyErr Int :=
  if IsSsize k then .returns k
  else .throws ⟨.indexError, some "cannot fit 'int' into an index-sized integer"⟩

namespace PySlice

/-- An integer that does not fit is replaced by the nearest one that does. -/
def clip (k : Int) : Int := if k < ssizeMin then ssizeMin else if ssizeMax < k then ssizeMax else k

/-- `_PyEval_SliceIndex`, and the default for `None`. -/
def sliceIndex (b : Bound) (default : Int) : Outcome PyErr Int :=
  match b with
  | .none => .returns default
  | .index k => .returns (clip k)
  | .other => .throws noIndex

/-- What `PySlice_Unpack` stores. -/
structure Unpacked where
  start : Int
  stop : Int
  step : Int
  deriving DecidableEq, Repr

/-- `PySlice_Unpack` -/
def unpack (s : Slice) : Outcome PyErr Unpacked := do
  let step ← sliceIndex s.step 1
  if step = 0 then .throws zeroStep
  else
    -- so that `-step` can be computed
    let step := if step < -ssizeMax then -ssizeMax else step
    let start ← sliceIndex s.start (if step < 0 then ssizeMax else 0)
    let stop ← sliceIndex s.stop (if step < 0 then ssizeMin else ssizeMax)
    return { start := start, stop := stop, step := step }

/-- One end of the slice, for a sequence of the given length. -/
def adjust (length step k : Int) : Int :=
  if k < 0 then
    if k + length < 0 then (if step < 0 then -1 else 0) else k + length
  else if k ≥ length then (if step < 0 then length - 1 else length)
  else k

/-- `PySlice_AdjustIndices`: the new start and stop, and the length of the slice. -/
def adjustIndices (length : Int) (u : Unpacked) : Int × Int × Int :=
  let start := adjust length u.step u.start
  let stop := adjust length u.step u.stop
  let count :=
    if u.step < 0 then
      if stop < start then (start - stop - 1).tdiv (-u.step) + 1 else 0
    else
      if start < stop then (stop - start - 1).tdiv u.step + 1 else 0
  (start, stop, count)

end PySlice

/-! ## Lists -/

namespace PyList

/--
One end of a slice. A negative number counts from the end of the list; what is outside is moved
to the nearest place where a walk can start or stop.
-/
def place (lower upper length : Int) (b : Bound) (default : Int) : Outcome PyErr Int :=
  match b with
  | .none => .returns default
  | .index k => .returns (max lower (min upper (if k < 0 then k + length else k)))
  | .other => .throws noIndex

/-- `slice.indices(length)`: start, stop and step. -/
def indices (length : Int) (s : Slice) : Outcome PyErr (Int × Int × Int) := do
  let step ←
    match s.step with
    | .none => .returns 1
    | .index k => .returns k
    | .other => .throws noIndex
  if step = 0 then .throws zeroStep
  else
    let lower := if step < 0 then -1 else 0
    let upper := if step < 0 then length - 1 else length
    let start ← place lower upper length s.start (if step < 0 then upper else lower)
    let stop ← place lower upper length s.stop (if step < 0 then lower else upper)
    return (start, stop, step)

variable {α : Type}

/-- `xs[start:stop:step]` -/
def getSlice (xs : List α) (s : Slice) : Outcome PyErr (List α) := do
  let (start, stop, step) ← indices xs.length s
  return (Progression.members start stop step).filterMap fun i => xs[i.toNat]?

/-- `xs[k]` -/
def getItem (xs : List α) (k : Int) : Outcome PyErr α :=
  let i := if k < 0 then k + xs.length else k
  match if i < 0 then none else xs[i.toNat]? with
  | some x => .returns x
  | none => .throws ⟨.indexError, some "list index out of range"⟩

/-- Subscription by one slice object after the other. -/
def getSlices (xs : List α) : List Slice → Outcome PyErr (List α)
  | [] => .returns xs
  | s :: ss => do
    let ys ← getSlice xs s
    getSlices ys ss

end PyList

end Btck.Python
