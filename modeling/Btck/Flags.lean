import Btck.Error
import Btck.Infra.Bits

/-!
# Verification flags and errors (`include/btck/btck.h`, `verification_error.c`, `btck_error.cpp`)
-/

namespace Btck

open Infra

namespace VerificationFlags

def NONE : UInt32 := 0
def P2SH : UInt32 := (1 : UInt32) <<< 0
def DERSIG : UInt32 := (1 : UInt32) <<< 2
def NULLDUMMY : UInt32 := (1 : UInt32) <<< 4
def CHECKLOCKTIMEVERIFY : UInt32 := (1 : UInt32) <<< 9
def CHECKSEQUENCEVERIFY : UInt32 := (1 : UInt32) <<< 10
def WITNESS : UInt32 := (1 : UInt32) <<< 11
def TAPROOT : UInt32 := (1 : UInt32) <<< 17

def ALL : UInt32 :=
  P2SH ||| DERSIG ||| NULLDUMMY ||| CHECKLOCKTIMEVERIFY ||| CHECKSEQUENCEVERIFY ||| WITNESS |||
    TAPROOT

/-- The positions of the known flags. -/
def positions : List Nat := [0, 2, 4, 9, 10, 11, 17]

theorem has_ALL (k : Nat) : Has ALL k ↔ k ∈ positions :=
  has_iff_of_lt (p := (· ∈ positions)) (by decide) (by decide) k

end VerificationFlags

/-! ## The flags of Bitcoin Core's interpreter that the code names -/

def SCRIPT_VERIFY_P2SH : UInt32 := (1 : UInt32) <<< 0
def SCRIPT_VERIFY_CLEANSTACK : UInt32 := (1 : UInt32) <<< 8
def SCRIPT_VERIFY_WITNESS : UInt32 := (1 : UInt32) <<< 11
def SCRIPT_VERIFY_TAPROOT : UInt32 := (1 : UInt32) <<< 17

theorem and_p2sh {w : UInt32} : w &&& SCRIPT_VERIFY_P2SH ≠ 0 ↔ Has w 0 :=
  and_ne_zero_iff (has_iff_of_lt (p := (· = 0)) (by omega) (by decide))

theorem and_cleanstack {w : UInt32} : w &&& SCRIPT_VERIFY_CLEANSTACK ≠ 0 ↔ Has w 8 :=
  and_ne_zero_iff (has_iff_of_lt (p := (· = 8)) (by omega) (by decide))

theorem and_witness {w : UInt32} : w &&& SCRIPT_VERIFY_WITNESS ≠ 0 ↔ Has w 11 :=
  and_ne_zero_iff (has_iff_of_lt (p := (· = 11)) (by omega) (by decide))

theorem and_taproot {w : UInt32} : w &&& SCRIPT_VERIFY_TAPROOT ≠ 0 ↔ Has w 17 :=
  and_ne_zero_iff (has_iff_of_lt (p := (· = 17)) (by omega) (by decide))

/-! ## Errors -/

/-- `btck::verification_error` -/
inductive VerificationError where
  | txInputIndex
  | invalidFlags
  | invalidFlagsCombination
  | spentOutputsRequired
  | spentOutputsMismatch
  deriving DecidableEq, Repr

namespace VerificationError

/-- The value of the enumerator. -/
def value : VerificationError → UInt8
  | txInputIndex => 1
  | invalidFlags => 2
  | invalidFlagsCombination => 3
  | spentOutputsRequired => 4
  | spentOutputsMismatch => 5

/-- `BtcK_VerificationError_Message` -/
def message (error : UInt8) : String :=
  if error = 1 then
    "The provided input index is out of range of the actual number of inputs of the transaction."
  else if error = 2 then "The provided bitfield for the flags was invalid."
  else if error = 3 then "The flags very combined in an invalid way."
  else if error = 4 then "The taproot flag was set, so valid spent_outputs have to be provided."
  else if error = 5 then "The number of spent outputs does not match the number of inputs of the tx."
  else "(unrecognized error)"

/-- `std::system_error(error)`. The category composes the text. -/
def exception (error : VerificationError) : Exception :=
  .systemError (Int32.ofNat error.value.toNat) .verificationError (utf8 (message error.value))

/-- Each error has a number of its own, and a text. -/
theorem value_injective : Function.Injective value := by
  intro a b h
  cases a <;> cases b <;> first | rfl | exact absurd h (by decide)

theorem message_recognized (error : VerificationError) :
    message error.value ≠ "(unrecognized error)" := by
  cases error <;> decide

end VerificationError

end Btck
