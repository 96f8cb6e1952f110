import Btck.Python.Object
import Btck.ToBytes

/-!
# `to_bytes` (`bindings/python/src/_util.c`, `_bytes_writer.c`)
-/

namespace Btck.Python

open Infra

/--
A `PyBytesWriter`. How it grows is not modelled, only that it can fail to. `error` is the Python
exception that is set then.
-/
structure BytesWriter where
  bytes : Bytes
  error : Option PyErr
  calls : Nat
  deriving DecidableEq, Repr

/-- `write_bytes` -/
def writeBytes (grow : Nat → Bool) : Callback Bytes BytesWriter := fun bytes writer =>
  if grow writer.calls then
    (0, { writer with bytes := writer.bytes ++ bytes, calls := writer.calls + 1 })
  else (-1, { writer with error := some noMemory, calls := writer.calls + 1 })

/--
`to_bytes`. The result of `PyBytesWriter_Create` is not looked at: without memory it is null, and
`write_bytes` or `PyBytesWriter_Finish` read through it.
-/
def toBytes {core : BitcoinCore} (env : Env)
    (writefn : Callback Bytes BytesWriter → Prog BytesWriter PyErr Int32) :
    Outcome PyErr (PyObj core) :=
  if !env.object 0 then .faults .nullDeref
  else
    match writefn (writeBytes env.grow) { bytes := [], error := none, calls := 0 } with
    | (.returns result, writer) =>
      if result ≠ 0 then
        match writer.error with
        | some e => .throws e
        -- the interpreter's answer to a NULL without an exception
        | none => .throws ⟨.systemError, none⟩
      else if env.object 1 then .returns (.bytes writer.bytes)
      else .throws noMemory
    | (.throws e, _) => .throws e
    | (.faults u, _) => .faults u

end Btck.Python
