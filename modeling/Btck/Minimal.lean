import Btck.Core

/-!
# A small Bitcoin Core

The results about Bitcoin Core take what they need as hypotheses. `minimalCore` has two
transactions and one block, with the encodings, hashes and texts that they really have, and it
meets these hypotheses.

* `tableCodec` — the codec of finitely many objects, with `tableCodec_lossless`
* `minimalCore`
-/

namespace Btck

open Infra

/-- Read the first object of the table whose encoding the bytes start with. -/
def tableCodec {T : Type} (table : List T) (encoding : T → Bytes) : Codec T where
  unserialize b :=
    match table.find? (fun x => encoding x <+: b) with
    | some x => .returns (x, b.drop (encoding x).length)
    | none => .throws (.systemError 1 (.other 0 (utf8 "iostream"))
        (utf8 "DataStream::read(): end of data: iostream error"))
  chunks x := [encoding x]

theorem tableCodec_encode {T : Type} (table : List T) (encoding : T → Bytes) (x : T) :
    (tableCodec table encoding).encode x = encoding x :=
  List.flatten_singleton

theorem tableCodec_lossless {T : Type} (table : List T) (encoding : T → Bytes) :
    (tableCodec table encoding).Lossless := by
  intro b x rest h
  rw [tableCodec_encode]
  simp only [tableCodec] at h
  cases hf : table.find? (fun x => encoding x <+: b) with
  | none => rw [hf] at h; simp at h
  | some y =>
    rw [hf] at h
    obtain ⟨rfl, rfl⟩ : y = x ∧ _ = rest := by simpa using h
    obtain ⟨t, rfl⟩ : encoding y <+: b := by simpa using List.find?_some hf
    simp

/-- A transaction without inputs and outputs, and one with one input and one output. -/
inductive MinimalTx where
  | empty
  | spend
  deriving DecidableEq, Repr

/-- The encoding under `TX_WITH_WITNESS`; every field that is not a count is zero. -/
def MinimalTx.encoding : MinimalTx → Bytes
  | empty => List.replicate 10 0
  | spend => List.replicate 4 0 ++ [1] ++ List.replicate 41 0 ++ [1] ++ List.replicate 13 0

/-- The one input of `MinimalTx.spend`, with an empty `scriptSig` and no witness. -/
def MinimalTx.vin : MinimalTx → Vec Unit
  | empty => .empty
  | spend => ⟨[()], by decide⟩

/-- Its one output: nothing, to nobody. -/
def MinimalTx.vout : MinimalTx → Vec CTxOut
  | empty => .empty
  | spend => ⟨[{ nValue := 0, scriptPubKey := [] }], by decide⟩

def MinimalTx.text : MinimalTx → Bytes
  | empty => utf8
      "CTransaction(hash=f702453dd0, ver=0, vin.size=0, vout.size=0, nLockTime=0)\n"
  | spend => utf8
      "CTransaction(hash=dbaa7efca1, ver=0, vin.size=1, vout.size=1, nLockTime=0)\n"
      ++ utf8 "    CTxIn(COutPoint(0000000000, 0), scriptSig=, nSequence=0)\n"
      ++ utf8 "    CScriptWitness()\n"
      ++ utf8 "    CTxOut(nValue=0.00000000, scriptPubKey=)\n"

/-- A Bitcoin Core with these transactions and the block that holds none of them. -/
def minimalCore : BitcoinCore where
  CTxIn := Unit
  CTransaction := MinimalTx
  CBlock := Unit
  scriptSig _ := []
  scriptWitness _ := []
  vin := MinimalTx.vin
  vout := MinimalTx.vout
  vtx _ := .empty
  getHash _ :=
    [75, 231, 87, 14, 143, 112, 235, 9, 54, 64, 200, 70, 130, 116, 186, 117,
      151, 69, 167, 170, 43, 125, 37, 171, 30, 4, 33, 178, 89, 132, 80, 20]
  tx := tableCodec [.empty, .spend] MinimalTx.encoding
  block := tableCodec [()] fun _ => List.replicate 81 0
  txOutToString _ := utf8 "CTxOut(nValue=0.00000000, scriptPubKey=)"
  transactionToString := MinimalTx.text
  blockToString _ :=
    let zeros := "0000000000000000000000000000000000000000000000000000000000000000"
    utf8 "CBlock(hash=14508459b221041eab257d2baaa7459775ba748246c8403609eb708f0e57e74b, "
      ++ utf8 "ver=0x00000000, hashPrevBlock=" ++ utf8 zeros ++ utf8 ", hashMerkleRoot="
      ++ utf8 zeros ++ utf8 ", nTime=0, nBits=00000000, nNonce=0, vtx=0)\n"
  -- An empty script leaves an empty stack, and OP_TRUE leaves a true one.
  evalScript call := .returns (call.scriptPubKey = [0x51])

end Btck
