import Btck.Flags
import Btck.Infra.Buffer
import Btck.Infra.Words
import Btck.Object

/-!
# Texts (`src/verification_flags.c` and the `ToString` functions)

A `ToString` function writes into the caller's buffer and returns the length of the whole text.
The flags are printed with `snprintf`, piece by piece; the other three texts are made as a
`std::string` and copied out of it.
-/

namespace Btck

open Infra

variable {ε : Type}

/-! ## `BtcK_VerificationFlags_ToString` -/

namespace VerificationFlags

/-- `struct PrintContext` -/
structure PrintContext where
  buffer : Option Nat
  bufsz : Nat
  num : Int32
  deriving DecidableEq, Repr

/-- `print`, for a text that is already composed. -/
def print (ctx : PrintContext) (text : Bytes) : Prog Buffer ε (Int32 × PrintContext) := do
  let retval ← snprintf ctx.buffer ctx.bufsz text
  if retval < 0 then
    pure (retval, ctx)
  else
    let size := asSize retval
    let ctx :=
      { buffer := ctx.buffer.map (· + size)
        bufsz := if size < ctx.bufsz then ctx.bufsz - size else 0
        num := ctx.num + retval }
    pure (ctx.num, ctx)

/-- `struct Entry` -/
structure Entry where
  flag : UInt32
  name : String
  deriving DecidableEq, Repr

/-- `flag_table` -/
def flagTable : List Entry :=
  [ ⟨P2SH, "P2SH"⟩, ⟨DERSIG, "DERSIG"⟩, ⟨NULLDUMMY, "NULLDUMMY"⟩,
    ⟨CHECKLOCKTIMEVERIFY, "CHECKLOCKTIMEVERIFY"⟩, ⟨CHECKSEQUENCEVERIFY, "CHECKSEQUENCEVERIFY"⟩,
    ⟨WITNESS, "WITNESS"⟩, ⟨TAPROOT, "TAPROOT"⟩ ]

/-- The loop over the table. -/
def printAll (flags : UInt32) : List Entry → Bool → PrintContext → Prog Buffer ε Int32
  | [], _, ctx => pure ctx.num
  | entry :: entries, first, ctx =>
    if flags &&& entry.flag ≠ 0 then do
      let (retval, ctx) ← print ctx (utf8 (if first then "" else " | ") ++ utf8 entry.name)
      if retval < 0 then pure retval else printAll flags entries false ctx
    else printAll flags entries first ctx

/-- `BtcK_VerificationFlags_ToString` -/
def toString (flags : Option UInt32) (buf : Option Nat) (len : Nat) : Prog Buffer ε Int32 :=
  match flags with
  | none => Prog.fault .assertion
  | some flags =>
    if flags = ALL then snprintf buf len (utf8 "ALL")
    else if flags = NONE then snprintf buf len (utf8 "NONE")
    else if flags &&& ~~~ALL ≠ 0 then pure (-1)
    else printAll flags flagTable true { buffer := buf, bufsz := len, num := 0 }

end VerificationFlags

/-! ## The texts that Bitcoin Core composes -/

/-- `str.copy(buf, len)`, and the size of the string. -/
def copyOut (str : Bytes) (buf : Option Nat) (len : Nat) : Prog Buffer ε Int32 := do
  copyTo buf len str
  pure (Int32.ofNat str.length)

/-- `BtcK_TransactionOutput_ToString` -/
def TransactionOutput.toString (core : BitcoinCore) (self : Option CTxOut) (buf : Option Nat)
    (len : Nat) : Prog Buffer ε Int32 := do
  let out ← Prog.lift (Api.get self)
  copyOut (core.txOutToString out) buf len

/-- `BtcK_Transaction_ToString` -/
def Transaction.toString (core : BitcoinCore) (self : Option core.CTransaction)
    (buf : Option Nat) (len : Nat) : Prog Buffer ε Int32 := do
  let tx ← Prog.lift (Api.get self)
  copyOut (core.transactionToString tx) buf len

/-- `BtcK_Block_ToString` -/
def Block.toString (core : BitcoinCore) (self : Option core.CBlock) (buf : Option Nat)
    (len : Nat) : Prog Buffer ε Int32 := do
  let block ← Prog.lift (Api.get self)
  copyOut (core.blockToString block) buf len

theorem copyOut_of_room {b : Buffer} {buf : Option Nat} {len : Nat} (str : Bytes)
    (h : Room b buf len) : (copyOut str buf len : Prog Buffer ε _) b
      = (.returns (Int32.ofNat str.length), stored b buf (str.take len)) := by
  rw [copyOut, Prog.bind_of_returns (copyTo_of_room str h), Prog.pure_run]

end Btck
