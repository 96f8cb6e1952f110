import Btck.Cpp.Invoke
import Btck.ToString

/-!
# `btck::detail::to_string_` (`src/btck.cpp`)
-/

namespace Btck.Cpp

open Infra

/--
`detail::to_string_`. The first call measures; the second one fills a string of that many NULs.
Behind the characters of a `std::string` there is a terminator that may be written over with a
NUL.
-/
def toString_ (printfn : Option Nat → Nat → Prog Buffer Thrown Int32) : Outcome Thrown Bytes := do
  let len ← (printfn none 0 []).1
  if len < 0 then .throws (.runtimeError (utf8 "to_string failed"))
  else
    let filled := printfn (some 0) (asSize (len + 1)) (List.replicate (asSize len + 1) 0)
    let _ ← filled.1
    return filled.2.take (asSize len)

end Btck.Cpp
