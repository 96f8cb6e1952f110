import Btck.Error

/-!
# Bitcoin Core, as the library uses it

Bitcoin Core is not part of the repository. What the library calls is a parameter: a
`BitcoinCore` is a choice of the types and functions below. What the code relies on is stated
where it is used, as a hypothesis about them (`Codec.Lossless`).

* `Vec` — `std::vector`, whose size fits a `std::ptrdiff_t`
* `Codec` — `Serialize` and `Unserialize` under `TX_WITH_WITNESS`
* `BitcoinCore` — the primitives and the script interpreter
-/

namespace Btck

open Infra

/-- `CScript` is a vector of bytes. -/
abbrev CScript := Bytes

/-- The largest `std::ptrdiff_t`. -/
def ptrdiffMax : Nat := 0x7fffffffffffffff

/-- A `std::vector`. Its `max_size()` is below the largest `std::ptrdiff_t`. -/
structure Vec (α : Type) where
  toList : List α
  size_lt : toList.length < ptrdiffMax

namespace Vec

variable {α : Type}

def size (v : Vec α) : Nat := v.toList.length

def empty : Vec α := ⟨[], (by decide : 0 < ptrdiffMax)⟩

/-- `v[i]`, which is undefined outside the vector. -/
def get {ε : Type} (v : Vec α) (i : Nat) : Outcome ε α :=
  match v.toList[i]? with
  | some a => .returns a
  | none => .faults .undefined

theorem get_of_lt {ε : Type} {v : Vec α} {i : Nat} (h : i < v.size) :
    (v.get i : Outcome ε α) = .returns (v.toList.get ⟨i, h⟩) := by
  rw [get, List.getElem?_eq_getElem h]
  rfl

end Vec

/-! ## Serialization -/

/-- How a type is read from a stream and written to one. -/
structure Codec (T : Type) where
  /-- Read an object from the front of the bytes. What is left in the stream comes with it. -/
  unserialize : Bytes → Outcome Exception (T × Bytes)
  /-- The chunks that `Serialize` hands to the stream's `write`, in order. -/
  chunks : T → List Bytes

/-- The encoding of an object. -/
def Codec.encode {T : Type} (c : Codec T) (x : T) : Bytes := (c.chunks x).flatten

/-- What was read is the encoding of the object that came out of it. -/
def Codec.Lossless {T : Type} (c : Codec T) : Prop :=
  ∀ b x rest, c.unserialize b = .returns (x, rest) → b = c.encode x ++ rest

/-! ## Primitives and interpreter -/

structure CTxOut where
  nValue : Int64
  scriptPubKey : CScript
  deriving DecidableEq, Repr

/-- `PrecomputedTransactionData`, as far as the spent outputs go. -/
structure PrecomputedTransactionData where
  spentOutputs : List CTxOut
  spentOutputsReady : Bool
  deriving DecidableEq, Repr

/-- What a `TransactionSignatureChecker` is made of. -/
structure SignatureChecker (CTransaction : Type) where
  txTo : CTransaction
  nIn : UInt32
  amount : Int64
  txdata : PrecomputedTransactionData

/-- The arguments of `VerifyScript`. -/
structure ScriptCall (CTransaction : Type) where
  scriptSig : CScript
  scriptPubKey : CScript
  witness : List Bytes
  flags : UInt32
  checker : SignatureChecker CTransaction

/-- The types and functions of Bitcoin Core that the library uses. -/
structure BitcoinCore where
  CTxIn : Type
  CTransaction : Type
  CBlock : Type
  scriptSig : CTxIn → CScript
  scriptWitness : CTxIn → List Bytes
  vin : CTransaction → Vec CTxIn
  vout : CTransaction → Vec CTxOut
  vtx : CBlock → Vec CTransaction
  getHash : CBlock → Bytes
  tx : Codec CTransaction
  block : Codec CBlock
  txOutToString : CTxOut → Bytes
  transactionToString : CTransaction → Bytes
  blockToString : CBlock → Bytes
  /-- `VerifyScript`, once its assertions have been passed. -/
  evalScript : ScriptCall CTransaction → Outcome Exception Bool

/-! ## Allocation -/

/-- `operator new`, or a container that grows. -/
def allocate {α : Type} (ok : Bool) (a : α) : Outcome Exception α :=
  if ok then .returns a else .throws (.badAlloc (utf8 "std::bad_alloc"))

@[simp] theorem allocate_true {α : Type} (a : α) : allocate true a = .returns a := rfl

@[simp] theorem allocate_false {α : Type} (a : α) :
    allocate false a = .throws (.badAlloc (utf8 "std::bad_alloc")) := rfl

theorem allocate_eq_returns {α : Type} {ok : Bool} {a b : α} :
    allocate ok a = .returns b ↔ ok = true ∧ a = b := by
  cases ok <;> simp

end Btck
