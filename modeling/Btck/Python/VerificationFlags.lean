import Btck.Python.Object
import Btck.Python.ToString

/-!
# Flags (`bindings/python/src/verification_flags.c`)
-/

namespace Btck.Python.VerificationFlags

open Infra

variable {core : BitcoinCore}

/-- `((struct Self*)object)->impl`: another object has no such field. -/
def cast : PyObj core → Outcome PyErr UInt32
  | .verificationFlags impl => .returns impl
  | _ => .faults .undefined

/-- `VerificationFlags_GetImpl` -/
def getImpl : Option UInt32 → UInt32
  | none => Btck.VerificationFlags.NONE
  | some impl => impl

/-- `str` -/
def str (env : Env) (impl : UInt32) : Prog State PyErr (PyObj core) := do
  let text ← Prog.lift
    (toString (env.object 0) env.chars (Btck.VerificationFlags.toString (some impl)))
  return .str text

/-- `richcmp` -/
def richcmp (impl : UInt32) (other : PyObj core) (op : CompareOp) : Outcome PyErr (PyObj core) :=
  match other with
  | .verificationFlags impl' =>
    if op = .eq ∨ op = .ne then .returns (.bool (decide (op = .eq) == decide (impl = impl')))
    else cmpNotImplemented (.verificationFlags impl) other op
  | _ => cmpNotImplemented (.verificationFlags impl) other op

/-- `nb_or` -/
def nbOr (env : Env) (left right : PyObj core) : Prog State PyErr (PyObj core) := do
  let l ← Prog.lift (cast left)
  let r ← Prog.lift (cast right)
  verificationFlagsNew env (l ||| r)

/-- `nb_and` -/
def nbAnd (env : Env) (left right : PyObj core) : Prog State PyErr (PyObj core) := do
  let l ← Prog.lift (cast left)
  let r ← Prog.lift (cast right)
  verificationFlagsNew env (l &&& r)

/-- `nb_xor` -/
def nbXor (env : Env) (left right : PyObj core) : Prog State PyErr (PyObj core) := do
  let l ← Prog.lift (cast left)
  let r ← Prog.lift (cast right)
  verificationFlagsNew env (l ^^^ r)

/-- `nb_invert` -/
def nbInvert (env : Env) (impl : UInt32) : Prog State PyErr (PyObj core) :=
  verificationFlagsNew env (~~~impl)

end Btck.Python.VerificationFlags
