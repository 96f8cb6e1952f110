import Btck.Flags

/-!
# Errors on the C++ side (`src/btck.cpp`, `include/btck/btck.hpp`)

`detail::invoke` calls a C function with an out-parameter for the error, and turns the record
it receives back into an exception.
-/

namespace Btck.Cpp

open Infra

/-- What `translate_error` throws. A `std::system_error` is made of a value and a category. -/
inductive Thrown where
  | badAlloc
  | systemError (value : Int32) (category : ErrorCategory)
  | runtimeError (message : Bytes)
  deriving DecidableEq, Repr

/--
`std::error_category::message`. `std` is what the categories of the standard library, and those of
the program, have to say.
-/
def message (std : ErrorCategory → Int32 → Bytes) : ErrorCategory → Int32 → Bytes
  | .verificationError, ev => utf8 (VerificationError.message ev.toUInt32.toUInt8)
  | category, ev => std category ev

/-- `what()`. The text of a `std::system_error` is composed anew; what the record said is gone. -/
def Thrown.what (std : ErrorCategory → Int32 → Bytes) : Thrown → Bytes
  | badAlloc => utf8 "std::bad_alloc"
  | systemError value category => message std category value
  | runtimeError message => message

/-- The string that `err.domain()` points to. -/
def readDomain {ε : Type} (err : ErrorPtr) : Prog Memory ε Bytes :=
  Error.domain err >>= CharPtr.str

/-- `throw_domain` -/
def throwDomain (err : ErrorPtr) (domain : ErrorCategory) : Prog Memory Thrown Unit := do
  let name ← readDomain err
  if name = domain.name then
    let code ← Error.code err
    Prog.throw (.systemError code domain)
  else
    pure ()

/-- `detail::translate_error`, which never returns. -/
def translateError {α : Type} (err : ErrorPtr) : Prog Memory Thrown α := do
  let name ← readDomain err
  if name = utf8 "Memory" then
    Prog.throw .badAlloc
  else
    throwDomain err .generic
    throwDomain err .system
    throwDomain err .verificationError
    let message ← Error.message err >>= CharPtr.str
    Prog.throw (.runtimeError message)

/--
`detail::invoke`. `function` is the C function with its arguments, waiting to be told that `err`
is not null. `~out_ptr` moves what was stored into `err`, and the destructor of `err` runs
however the scope is left.
-/
def invoke {Ret : Type} (function : Bool → Prog Memory Thrown (Ret × Option ErrorPtr)) :
    Prog Memory Thrown Ret := do
  let (result, raw) ← function true
  let err := raw.getD .null
  Prog.andFinally (if err ≠ .null then translateError err else pure result) (Error.free err)

end Btck.Cpp
