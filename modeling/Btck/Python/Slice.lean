import Btck.Python.Primitives

/-!
# Views (`bindings/python/src/_slice.c`)

A `_Slice` is a view of the outputs of a transaction, of the transactions of a block, or of a part
of another view. `Slice_New` makes the first two: it sets `item`, and leaves `start` and `step` as
it found them. A subscription by a slice object makes the third: it sets `start` and `step`, and
leaves `item` as it found it.

* `item`, `length`, `subscript` — the methods
* `iterate` — what CPython does with `sq_item` when the view is iterated over
* `toList` — the same, for a new list of the items
-/

namespace Btck.Python

open Infra

variable {core : BitcoinCore}

/-- The result of arithmetic on `Py_ssize_t`. An overflow is undefined. -/
def ssize {ε : Type} (n : Int) : Outcome ε Int :=
  if IsSsize n then .returns n else .faults .undefined

namespace Slice

/-- `self->item(self->obj, idx)`: only with the right kind of object the call is defined. -/
def callItem (env : Env) (fn : ItemFn) (obj : PyObj core) (idx : Int) :
    Prog State PyErr (PyObj core) :=
  match fn, obj with
  | .outputsItem, .transaction impl => Transaction.outputsItem core env impl idx
  | .transactionsItem, .block impl => Block.transactionsItem core env impl idx
  | _, _ => Prog.fault .undefined

/-- `item`. An object that is not a `_Slice` has no `sq_item`. -/
def item (env : Env) : PyObj core → Int → Prog State PyErr (PyObj core)
  | .slice obj words, idx =>
    if idx < 0 ∨ idx ≥ words.length then
      Prog.throw ⟨.indexError, some "index out of range"⟩
    else if words.item ≠ .null then callItem env words.item obj idx
    else do
      let offset ← Prog.lift (ssize (idx * words.step))
      let idx ← Prog.lift (ssize (words.start + offset))
      item env obj idx
  | _, _ => Prog.fault .nullDeref

/-- `length` -/
def length : PyObj core → Int
  | .slice _ words => words.length
  | _ => 0

/-- The branch of `subscript` for an integer. -/
def subscriptIndex (env : Env) (self : PyObj core) (k : Int) : Prog State PyErr (PyObj core) := do
  let idx ← Prog.lift (PyNumber.asSsize_t k)
  let idx ← if idx < 0 then Prog.lift (ssize (idx + length self)) else pure idx
  item env self idx

/-- The branch of `subscript` for a slice object. It leaves `item` as it was. -/
def subscriptSlice (env : Env) (self : PyObj core) (s : Btck.Python.Slice) :
    Prog State PyErr (PyObj core) := do
  let u ← Prog.lift (PySlice.unpack s)
  let (start, _, count) := PySlice.adjustIndices (length self) u
  newValue env
    (.slice self { env.words with length := count, start := start, step := u.step })

/-- `subscript` -/
def subscript (env : Env) (self arg : PyObj core) : Prog State PyErr (PyObj core) :=
  match arg.index?, arg with
  | some k, _ => subscriptIndex env self k
  | none, .sliceObject s => subscriptSlice env self s
  | none, _ =>
    Prog.throw ⟨.typeError, some ("indices must be integers or slices, not " ++ arg.typeName)⟩

/-- Subscription by one slice object after the other, each in its own environment. -/
def subscripts (self : PyObj core) : List (Env × Btck.Python.Slice) → Prog State PyErr (PyObj core)
  | [] => return self
  | (env, s) :: ss => do
    let view ← subscript env self (.sliceObject s)
    subscripts view ss

/-! ## Iteration -/

/-- An index for which `item` returns an element is below the length. -/
theorem lt_length_of_item {env : Env} {self o : PyObj core} {idx : Int} {s s' : State}
    (h : item env self idx s = (.returns o, s')) : 0 ≤ idx ∧ idx < length self := by
  cases self with
  | slice obj words =>
    by_cases hout : idx < 0 ∨ idx ≥ words.length
    · rw [item, if_pos hout] at h
      simp at h
    · show 0 ≤ idx ∧ idx < words.length
      omega
  | _ => simp [item] at h

/-- The iterator of a sequence: `sq_item` from `idx` on, up to the first `IndexError`. -/
def iterate (env : Int → Env) (self : PyObj core) (idx : Int) :
    Prog State PyErr (List (PyObj core)) := fun s =>
  match _h : item (env idx) self idx s with
  | (.returns o, s') =>
    match iterate env self (idx + 1) s' with
    | (.returns os, s'') => (.returns (o :: os), s'')
    | (.throws e, s'') => (.throws e, s'')
    | (.faults u, s'') => (.faults u, s'')
  | (.throws e, s') => if e.type = .indexError then (.returns [], s') else (.throws e, s')
  | (.faults u, s') => (.faults u, s')
termination_by (length self - idx).toNat
decreasing_by
  have hlt := lt_length_of_item _h
  omega

/--
`PySequence_List`: the items of the iterator in a new list, which holds the only references to them.
When the iterator raises, the list is dropped with what it has, from the last item on.
-/
def toList (env : Int → Env) (self : PyObj core) (idx : Int) :
    Prog State PyErr (List (PyObj core)) := fun s =>
  match _h : item (env idx) self idx s with
  | (.returns o, s') =>
    match toList env self (idx + 1) s' with
    | (.returns os, s'') => (.returns (o :: os), s'')
    | (.throws e, s'') => (do dealloc o; Prog.throw e : Prog State PyErr _) s''
    | (.faults u, s'') => (.faults u, s'')
  | (.throws e, s') => if e.type = .indexError then (.returns [], s') else (.throws e, s')
  | (.faults u, s') => (.faults u, s')
termination_by (length self - idx).toNat
decreasing_by
  have hlt := lt_length_of_item _h
  omega

end Slice

end Btck.Python
