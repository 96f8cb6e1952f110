import Btck.ToBytes

/-!
# `btck::detail::to_bytes_` (`src/btck.cpp`)
-/

namespace Btck.Cpp

open Infra

/--
`closure_t`. `calls` counts the insertions that were tried; it is there to say which of them
throws.
-/
structure Closure where
  bytes : Bytes
  exception : Option Exception
  calls : Nat
  deriving DecidableEq, Repr

/--
The `write` lambda of `to_bytes_`. `fails k` is what the `k`-th `insert` throws, if it throws;
`insert` then leaves the vector as it was.
-/
def write (fails : Nat → Option Exception) : Callback Bytes Closure := fun buf closure =>
  match fails closure.calls with
  | none => (0, { closure with bytes := closure.bytes ++ buf, calls := closure.calls + 1 })
  | some e => (-1, { closure with exception := some e, calls := closure.calls + 1 })

/-- `detail::to_bytes_`. To rethrow an empty `exception_ptr` is undefined. -/
def toBytes_ (fails : Nat → Option Exception)
    (writefn : Callback Bytes Closure → Prog Closure Exception Int32) : Outcome Exception Bytes :=
  match writefn (write fails) { bytes := [], exception := none, calls := 0 } with
  | (.returns result, closure) =>
    if result ≠ 0 then
      match closure.exception with
      | some e => .throws e
      | none => .faults .undefined
    else .returns closure.bytes
  | (.throws e, _) => .throws e
  | (.faults u, _) => .faults u

variable {fails : Nat → Option Exception}
  {writefn : Callback Bytes Closure → Prog Closure Exception Int32} {closure : Closure}

theorem toBytes_of_zero
    (h : writefn (write fails) { bytes := [], exception := none, calls := 0 }
      = (.returns 0, closure)) : toBytes_ fails writefn = .returns closure.bytes := by
  unfold toBytes_
  rw [h]
  rfl

theorem toBytes_of_ne_zero {result : Int32} {e : Exception}
    (h : writefn (write fails) { bytes := [], exception := none, calls := 0 }
      = (.returns result, closure)) (hr : result ≠ 0) (he : closure.exception = some e) :
    toBytes_ fails writefn = .throws e := by
  unfold toBytes_
  rw [h]
  simp [hr, he]

end Btck.Cpp
