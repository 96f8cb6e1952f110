import Btck.Cpp.ToString
import Btck.Python.ToString
import Btck.Swift.Transaction
import Btck.Properties.FlagsText

/-!
# Size, then fill

A client asks for the length, makes a buffer of one more and has it filled. The producers differ
in the last byte: `snprintf` ends the text with a NUL, `std::string::copy` leaves the byte behind
it alone. C++ and Python know the length and do not look at that byte. Swift reads to the first
NUL.

* `Renders` — what both kinds of producers do
* `toString_of_renders`, `python_toString_of_renders` — enough for C++ and Python
* `text_delivered_iff` — all clients, and when Swift gets the text
-/

namespace Btck

open Infra

/-- A `ToString` function with its object. -/
abbrev PrintFn := ∀ ε : Type, Option Nat → Nat → Prog Buffer ε Int32

/--
The function measures `s`, and fills a buffer of one byte more with `s` and some last byte.
-/
structure Renders (printfn : PrintFn) (s : Bytes) : Prop where
  measure : ∀ ε, printfn ε none 0 [] = (.returns (Int32.ofNat s.length), [])
  fill : ∀ ε (b : Buffer), b.length = s.length + 1 → ∃ last,
    printfn ε (some 0) (s.length + 1) b = (.returns (Int32.ofNat s.length), s ++ [last])

/-! ## The clients that know the length -/

section

variable {printfn : PrintFn} {s : Bytes}

/-- One more than the length is still an `int`. -/
theorem asSize_succ (h : s.length < 2147483647) :
    asSize (Int32.ofNat s.length + 1) = s.length + 1 := by
  have hsum : Int32.ofNat s.length + 1 = Int32.ofNat (s.length + 1) := (Int32.ofNat_add ..).symm
  rw [hsum, asSize_ofNat (by omega)]

theorem toString_of_renders (hr : Renders printfn s) (h : s.length < 2147483647) :
    Cpp.toString_ (printfn _) = .returns s := by
  obtain ⟨last, hfill⟩ := hr.fill Cpp.Thrown (List.replicate (s.length + 1) 0) (by simp)
  unfold Cpp.toString_
  rw [hr.measure, Outcome.returns_bind, if_neg (ofNat_not_neg (by omega)), asSize_succ h,
    asSize_ofNat (by omega), hfill]
  simp

theorem python_toString_of_renders (hr : Renders printfn s) (h : s.length < 2147483647)
    (memory : Nat → UInt8) : Python.toString true memory (printfn _) = .returns s := by
  obtain ⟨last, hfill⟩ := hr.fill Python.PyErr (fresh memory s.length ++ [0]) (by simp)
  unfold Python.toString
  rw [hr.measure, Outcome.returns_bind, if_neg (ofNat_not_neg (by omega)), asSize_succ h,
    asSize_ofNat (by omega), if_neg (by simp)]
  dsimp only
  rw [hfill]
  simp

end

/-! ## The producers -/

theorem room_all (b : Buffer) : Room b (some 0) b.length := .inr ⟨0, rfl, by omega⟩

/-- What `str.copy` leaves in a buffer of one byte more. -/
theorem copyOut_fill {ε : Type} {b : Buffer} {s : Bytes} (hb : b.length = s.length + 1) :
    (copyOut s (some 0) (s.length + 1) : Prog Buffer ε _) b
      = (.returns (Int32.ofNat s.length), s ++ b.drop s.length) := by
  have hroom := room_all b
  rw [hb] at hroom
  rw [copyOut_of_room s hroom, List.take_of_length_le (by omega)]
  simp [stored, Buffer.overwrite]

theorem copyOut_renders (s : Bytes) : Renders (fun _ => copyOut s) s where
  measure := by
    intro ε
    have hroom : Room [] none 0 := .inl rfl
    rw [copyOut_of_room s hroom]
    rfl
  fill := by
    intro ε b hb
    obtain ⟨last, hlast⟩ : ∃ last, b.drop s.length = [last] :=
      List.length_eq_one_iff.mp (by simp; omega)
    exact ⟨last, by rw [copyOut_fill hb, hlast]⟩

theorem flags_renders {flags : UInt32} (hknown : Known flags) :
    Renders (fun _ => VerificationFlags.toString (some flags)) (VerificationFlags.text flags) where
  measure := by
    intro ε
    have hroom : Room [] none 0 := .inl rfl
    rw [VerificationFlags.toString_run hroom hknown]
    rfl
  fill := by
    intro ε b hb
    have hroom := room_all b
    rw [hb] at hroom
    refine ⟨0, ?_⟩
    rw [VerificationFlags.toString_run hroom hknown]
    have hprinted : printed ((VerificationFlags.text flags).length + 1)
        (VerificationFlags.text flags) = VerificationFlags.text flags ++ [0] := by
      rw [printed, if_neg (by omega), List.take_of_length_le (by omega)]
    rw [hprinted]
    simp only [stored]
    rw [Buffer.overwrite_all (by simp [hb])]

/-! ## The client that looks for the NUL -/

theorem cString_append {s : Bytes} (hs : ∀ c ∈ s, c ≠ 0) (last : UInt8) :
    (cString (s ++ [last]) : Outcome Empty _) =
      if last = 0 then .returns s else .faults .undefined := by
  have htake : (s ++ [last]).takeWhile (· ≠ 0) = s ++ [last].takeWhile (· ≠ 0) :=
    List.takeWhile_append_of_pos (by simpa using hs)
  unfold cString
  by_cases hlast : last = 0
  · rw [if_pos hlast, if_pos (by simp [hlast]), htake, hlast]
    simp
  · have hnone : ¬ (0 : UInt8) ∈ s ++ [last] := by
      intro hmem
      rcases List.mem_append.mp hmem with hmem | hmem
      · exact hs 0 hmem rfl
      · exact hlast (List.mem_singleton.mp hmem).symm
    rw [if_neg hlast, if_neg hnone]

/-- What `description` does: it is right when the byte behind the text happens to be a NUL. -/
theorem description_eq (core : BitcoinCore) (memory : Nat → UInt8) (tx : core.CTransaction)
    (hs : ∀ c ∈ core.transactionToString tx, c ≠ 0)
    (h : (core.transactionToString tx).length < 2147483647) :
    Swift.description core memory (some tx) =
      if core.transactionToString tx = [] ∨ memory (core.transactionToString tx).length = 0 then
        .returns (core.transactionToString tx)
      else .faults .undefined := by
  have hcall : ∀ {ε : Type} buf len, (Transaction.toString core (some tx) buf len :
      Prog Buffer ε _) = copyOut (core.transactionToString tx) buf len := fun _ _ => rfl
  generalize core.transactionToString tx = s at hs h hcall ⊢
  unfold Swift.description
  have hmeasure : (copyOut s none 0 : Prog Buffer Empty _) []
      = (.returns (Int32.ofNat s.length), []) := (copyOut_renders s).measure Empty
  have hint : (Int32.ofNat s.length).toInt = s.length := Int32.toInt_ofNat_of_lt (by omega)
  rw [hcall, hmeasure, Outcome.returns_bind]
  by_cases hempty : s = []
  · -- `description` returns before it allocates
    subst hempty
    rw [if_pos (by decide), if_pos (.inl rfl)]
    rfl
  · have hpos := List.length_pos_iff.mpr hempty
    have hgt : Int32.ofNat s.length > 0 := by
      rw [gt_iff_lt, Int32.lt_iff_toInt_lt, hint]
      show (0 : Int) < s.length
      omega
    have hge : Int32.ofNat s.length ≥ 0 := by
      rw [ge_iff_le, Int32.le_iff_toInt_le, hint]
      show (0 : Int) ≤ s.length
      omega
    have hcap : ((Int32.ofNat s.length).toInt + 1).toNat = s.length + 1 := by
      rw [hint]
      omega
    have hfill := copyOut_fill (ε := Empty) (length_fresh memory (s.length + 1))
    -- the copy leaves the last byte of the buffer as it was
    have hlast : (fresh memory (s.length + 1)).drop s.length = [memory s.length] := by
      rw [fresh_succ, List.drop_append_of_le_length (by simp), List.drop_of_length_le (by simp)]
      rfl
    rw [hlast] at hfill
    rw [if_neg (not_not.mpr hgt), hcap]
    dsimp only
    rw [hcall, hfill, Outcome.returns_bind, if_neg (not_not.mpr hge), cString_append hs]
    simp only [hempty, false_or]

/-! ## All clients -/

/-- An object with a `ToString` function. -/
inductive Printable (core : BitcoinCore) where
  | flags (flags : UInt32)
  | output (out : CTxOut)
  | transaction (tx : core.CTransaction)
  | block (block : core.CBlock)

namespace Printable

variable {core : BitcoinCore}

def printfn : Printable core → PrintFn
  | flags w => fun _ => VerificationFlags.toString (some w)
  | output out => fun _ => TransactionOutput.toString core (some out)
  | transaction tx => fun _ => Transaction.toString core (some tx)
  | block b => fun _ => Block.toString core (some b)

/-- The full string. -/
def text : Printable core → Bytes
  | flags w => VerificationFlags.text w
  | output out => core.txOutToString out
  | transaction tx => core.transactionToString tx
  | block b => core.blockToString b

/-- Only words of known flags have a text. -/
def HasText : Printable core → Prop
  | flags w => Known w
  | _ => True

theorem renders (o : Printable core) (h : o.HasText) : Renders o.printfn o.text := by
  cases o with
  | flags w => exact flags_renders h
  | output out => exact copyOut_renders _
  | transaction tx => exact copyOut_renders _
  | block b => exact copyOut_renders _

end Printable

/-- Every client gets the full string. -/
structure TextDelivered {core : BitcoinCore} (o : Printable core) (memory : Nat → UInt8) :
    Prop where
  cpp : Cpp.toString_ (o.printfn _) = .returns o.text
  python : Python.toString true memory (o.printfn _) = .returns o.text
  swift : ∀ tx, o = .transaction tx → Swift.description core memory (some tx) = .returns o.text

/--
**C++ and Python always get the whole text. Swift gets it exactly when the byte behind the text
in its fresh buffer happens to be a NUL.**
-/
theorem text_delivered_iff {core : BitcoinCore} (o : Printable core) (memory : Nat → UInt8)
    (hvalid : o.HasText) (hascii : ∀ c ∈ o.text, 0 < c ∧ c < 128)
    (hlen : o.text.length < 2147483647) :
    TextDelivered o memory ↔
      ∀ tx, o = .transaction tx → o.text = [] ∨ memory o.text.length = 0 := by
  have hnul : ∀ c ∈ o.text, c ≠ 0 := by
    rintro c hc rfl
    exact absurd (hascii 0 hc).1 (by decide)
  constructor
  · rintro hd tx rfl
    have hswift := hd.swift tx rfl
    rw [description_eq core memory tx hnul hlen] at hswift
    by_contra hc
    have hc : ¬ (core.transactionToString tx = [] ∨
        memory (core.transactionToString tx).length = 0) := hc
    rw [if_neg hc] at hswift
    simp at hswift
  · intro hlast
    refine ⟨toString_of_renders (o.renders hvalid) hlen,
      python_toString_of_renders (o.renders hvalid) hlen memory, ?_⟩
    rintro tx rfl
    have hc : core.transactionToString tx = [] ∨
        memory (core.transactionToString tx).length = 0 := hlast tx rfl
    rw [description_eq core memory tx hnul hlen, if_pos hc]
    rfl

theorem minimal_text_ascii : ∀ c ∈ MinimalTx.empty.text, 0 < c ∧ c < 128 := by decide +kernel

theorem minimal_text_short : MinimalTx.empty.text.length < 2147483647 := by decide +kernel

/-- With zeroed memory, the text of a transaction reaches all clients. -/
theorem text_delivered_zeroed :
    TextDelivered (Printable.transaction .empty : Printable minimalCore) (fun _ => 0) :=
  (text_delivered_iff (Printable.transaction .empty : Printable minimalCore) (fun _ => 0) trivial
    minimal_text_ascii minimal_text_short).mpr fun _ _ => .inr rfl

/-- **With an `A` behind the text, Swift reads past the end of its buffer.** -/
theorem text_runs_on : Swift.description minimalCore (fun _ => 65) (some MinimalTx.empty)
      = .faults .undefined ∧
    ¬ TextDelivered (Printable.transaction .empty : Printable minimalCore) (fun _ => 65) := by
  have hnul : ∀ c ∈ MinimalTx.empty.text, c ≠ 0 := by
    rintro c hc rfl
    exact absurd (minimal_text_ascii 0 hc).1 (by decide)
  have hrun : Swift.description minimalCore (fun _ => 65) (some MinimalTx.empty)
      = .faults .undefined := by
    rw [description_eq minimalCore (fun _ => 65) MinimalTx.empty hnul minimal_text_short]
    rfl
  refine ⟨hrun, ?_⟩
  intro hd
  have hswift := hd.swift MinimalTx.empty rfl
  rw [hrun] at hswift
  simp at hswift

end Btck
