import Btck.ToString

/-!
# `TransactionProtocol.description` (`bindings/swift/transaction.swift`)
-/

namespace Btck.Swift

open Infra

/--
`description`. The buffer is not initialised; `String(cString:)` reads it up to the first NUL. An
`Int` of Swift has 64 bits, so one more than a C `int` fits.
-/
def description (core : BitcoinCore) (memory : Nat → UInt8) (ptr : Option core.CTransaction) :
    Outcome Empty Bytes := do
  let len ← (Transaction.toString core ptr none 0 []).1
  if ¬ len > 0 then return []
  else
    let capacity := (len.toInt + 1).toNat
    let filled := Transaction.toString core ptr (some 0) capacity (fresh memory capacity)
    let written ← filled.1
    if ¬ written ≥ 0 then return [] else cString filled.2

end Btck.Swift
