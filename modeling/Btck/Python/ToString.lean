import Btck.Python.Error
import Btck.ToString

/-!
# `to_string` (`bindings/python/src/_util.c`)
-/

namespace Btck.Python

open Infra

/--
`to_string`. `PyUnicode_New` stores the terminator and leaves the characters as it found them; it
can also fail.
-/
def toString (alloc : Bool) (memory : Nat → UInt8)
    (printfn : Option Nat → Nat → Prog Buffer PyErr Int32) : Outcome PyErr Bytes := do
  let length ← (printfn none 0 []).1
  if length < 0 then .throws ⟨.valueError, none⟩
  else if !alloc then .throws ⟨.memoryError, none⟩
  else
    let data := fresh memory (asSize length) ++ [0]
    let filled := printfn (some 0) (asSize (length + 1)) data
    let _ ← filled.1
    return filled.2.take (asSize length)

end Btck.Python
