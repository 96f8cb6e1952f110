import Btck.Infra.Heap
import Btck.Infra.Utf8
import Mathlib.Tactic.Common

/-!
# Error records (`src/util/error.c`, `src/util/error.cpp`, `src/util/error.hpp`)

An error leaves the library as a `BtcK_Error`: a code, a domain and a message. The record is a
heap block that owns two more blocks with copies of the strings. When one of the three
allocations fails, a static record stands in for it.

A `char const*` is read as the bytes in front of the NUL. They need not be valid UTF-8.

The heap is `Infra.Heap`, so a double free, a read of freed memory or a `free` of something that
is not on the heap makes the model fault.
-/

namespace Btck

open Infra

abbrev Bytes := List UInt8

/-! ## C++ exceptions -/

/-- A `std::error_category`. Categories are compared by identity, and each has a name. -/
inductive ErrorCategory where
  | generic
  | system
  | verificationError
  /-- Any other category, also one whose name is already taken. -/
  | other (id : Nat) (name : Bytes)
  deriving DecidableEq, Repr

/-- `std::error_category::name`. -/
def ErrorCategory.name : ErrorCategory → Bytes
  | generic => utf8 "generic"
  | system => utf8 "system"
  | verificationError => utf8 "VerificationError"
  | other _ name => name

/-- What C++ code under `util::WrapFn` can throw, with the text of its `what()`. -/
inductive Exception where
  | badAlloc (what : Bytes)
  | systemError (value : Int32) (category : ErrorCategory) (what : Bytes)
  /-- Another class derived from `std::exception`. -/
  | exception (what : Bytes)
  /-- Anything that is not a `std::exception`. -/
  | unknown
  deriving DecidableEq, Repr

/-! ## Memory -/

/-- A `char const*`. -/
inductive CharPtr where
  | null
  /-- A literal, or a string that its owner keeps for as long as it is read. -/
  | outside (s : Bytes)
  | block (n : Nat)
  deriving DecidableEq, Repr

/-- `struct BtcK_Error`. -/
structure ErrorRecord where
  code : Int32
  domain : CharPtr
  message : CharPtr
  deriving DecidableEq, Repr

/-- A `struct BtcK_Error*`. -/
inductive ErrorPtr where
  | null
  /-- `&OOM_ERROR` -/
  | oomError
  | block (n : Nat)
  deriving DecidableEq, Repr

/-- What a heap block holds. -/
inductive Cell where
  | raw
  | error (e : ErrorRecord)
  | chars (s : Bytes)
  deriving DecidableEq, Repr

abbrev Memory := Heap Cell

/-- `OOM_ERROR`, the static record. -/
def oomError : ErrorRecord where
  code := -1
  domain := .outside (utf8 "Memory")
  message := .outside (utf8 "Out of memory")

variable {ε : Type}

namespace CharPtr

def isNull : CharPtr → Bool
  | null => true
  | _ => false

/-- Read the string behind the pointer. -/
def str : CharPtr → Prog Memory ε Bytes
  | null => Prog.fault .nullDeref
  | outside s => pure s
  | block n => do
    match ← Heap.read n with
    | .chars s => pure s
    | _ => Prog.fault .undefined

/-- `free(p)`. -/
def free : CharPtr → Prog Memory ε Unit
  | null => pure ()
  | outside _ => Prog.fault .undefined
  | block n => Heap.free n

/-- `strdup(p)`. -/
def strdup (p : CharPtr) : Prog Memory ε CharPtr := do
  let s ← p.str
  match ← Heap.malloc (.chars s) with
  | none => pure null
  | some n => pure (block n)

end CharPtr

namespace Error

/-- Read `*error`. -/
def deref : ErrorPtr → Prog Memory ε ErrorRecord
  | .null => Prog.fault .nullDeref
  | .oomError => pure oomError
  | .block n => do
    match ← Heap.read n with
    | .error e => pure e
    | _ => Prog.fault .undefined

/-- `BtcK_Error_Free` -/
def free : ErrorPtr → Prog Memory ε Unit
  | .null => pure ()
  | .oomError => pure ()
  | .block n => do
    let error ← deref (.block n)
    error.domain.free
    error.message.free
    Heap.free n

/-- `BtcK_Error_New` -/
def new (code : Int32) (domain message : CharPtr) : Prog Memory ε ErrorPtr := do
  match ← Heap.malloc .raw with
  | none => pure .oomError
  | some err =>
    let domain' ← if domain.isNull then pure .null else domain.strdup
    let message' ← if message.isNull then pure .null else message.strdup
    Heap.write err (.error { code := code, domain := domain', message := message' })
    if (!domain.isNull && domain'.isNull) || (!message.isNull && message'.isNull) then
      free (.block err)
      pure .oomError
    else
      pure (.block err)

/-- `BtcK_Error_Code` -/
def code (error : ErrorPtr) : Prog Memory ε Int32 := do
  return (← deref error).code

/-- `BtcK_Error_Domain` -/
def domain (error : ErrorPtr) : Prog Memory ε CharPtr := do
  return (← deref error).domain

/-- `BtcK_Error_Message` -/
def message (error : ErrorPtr) : Prog Memory ε CharPtr := do
  return (← deref error).message

end Error

/-! ## `util::TranslateException` and `util::WrapFn` -/

/-- `util::TranslateException`: the handlers are tried in this order. -/
def translateException : Exception → Prog Memory ε ErrorPtr
  | .badAlloc what => Error.new (-1) (.outside (utf8 "Memory")) (.outside what)
  | .systemError value category what => Error.new value (.outside category.name) (.outside what)
  | .exception what => Error.new (-1) (.outside (utf8 "Unknown")) (.outside what)
  | .unknown => Error.new (-1) (.outside (utf8 "Unknown")) (.outside (utf8 "Unknown exception"))

/--
`util::WrapFn`. The first argument says whether `err` is a non-null pointer. The result is the
returned value together with what was stored in `*err`, if anything was.
-/
def wrapFn {Ret : Type} [Inhabited Ret] (err : Bool) (function : Outcome Exception Ret) :
    Prog Memory ε (Ret × Option ErrorPtr) :=
  match function with
  | .returns r => pure (r, none)
  | .throws e =>
    if err then do
      let p ← translateException e
      pure (default, some p)
    else
      pure (default, none)
  | .faults u => Prog.fault u

/-! ## What `wrapFn` does, by the end of the body -/

section

variable {Ret : Type} [Inhabited Ret]

@[simp] theorem wrapFn_returns (err : Bool) (r : Ret) (h : Memory) :
    (wrapFn err (.returns r) : Prog Memory ε _) h = (.returns (r, none), h) := rfl

@[simp] theorem wrapFn_throws_null (e : Exception) (h : Memory) :
    (wrapFn false (.throws e : Outcome Exception Ret) : Prog Memory ε _) h
      = (.returns (default, none), h) := rfl

@[simp] theorem wrapFn_faults (err : Bool) (u : Fault) (h : Memory) :
    (wrapFn err (.faults u : Outcome Exception Ret) : Prog Memory ε _) h = (.faults u, h) := rfl

end

end Btck
