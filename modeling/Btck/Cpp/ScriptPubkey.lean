import Btck.Cpp.Invoke
import Btck.Verify

/-!
# Scripts in C++ (`include/btck/btck.hpp`)
-/

namespace Btck.Cpp.ScriptPubkey

open Infra

/-- `script_pubkey_api::verify`. An empty span is passed as a null pointer and a zero. -/
def verify (core : BitcoinCore) (alloc : Nat → Bool) (impl : Option CScript) (amount : Int64)
    (txTo : Option core.CTransaction) (spentOutputs : List (Option CTxOut)) (inputIndex : UInt32)
    (flags : UInt32) : Prog Memory Thrown Bool := do
  let result ← invoke (Btck.ScriptPubkey.verify core alloc impl amount txTo spentOutputs
    inputIndex flags)
  return result ≠ 0

end Btck.Cpp.ScriptPubkey
