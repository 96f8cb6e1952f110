import Btck.Object

/-!
# The active chain (`src/chain.cpp`)

Bitcoin Core's chain state is a parameter: the active chain by height, the block index and the
block files. The three functions convert between `int`, `size_t` and `ptrdiff_t` on the way.
-/

namespace Btck

open Infra

/-- The part of `ChainstateManager` that the library uses. -/
structure ChainstateManager (core : BitcoinCore) where
  CBlockIndex : Type
  nHeight : CBlockIndex → Int32
  blockHash : CBlockIndex → Bytes
  /-- `ActiveChain().Height()` -/
  height : Int32
  /-- `ActiveChain()[i]` -/
  activeChain : Int32 → Option CBlockIndex
  /-- `ActiveChain().Contains` -/
  contains : CBlockIndex → Bool
  /-- `m_blockman.LookupBlockIndex` -/
  lookupBlockIndex : Bytes → Option CBlockIndex
  /-- `m_blockman.ReadBlock`, which says whether it could read the block. -/
  readBlock : CBlockIndex → Option core.CBlock

namespace Chain

variable {core : BitcoinCore} {ε : Type}

/-- `BtcK_Chain_CountBlocks`: an `int` is returned as a `size_t`. -/
def countBlocks (self : ChainstateManager core) : UInt64 :=
  self.height.toInt64.toUInt64

/-- The body of `BtcK_Chain_GetBlock`. The index is cut to an `int`, and what it finds is
dereferenced. -/
def getBlockBody (self : ChainstateManager core) (alloc : Nat → Bool) (idx : UInt64) :
    Outcome Exception (Option core.CBlock) :=
  match self.activeChain idx.toUInt32.toInt32 with
  | none => .faults .nullDeref
  | some bi =>
    match self.readBlock bi with
    | none => .throws (.exception (utf8 "Failed to read block."))
    | some block => Api.create (alloc 0) block

/-- `BtcK_Chain_GetBlock` -/
def getBlock (self : ChainstateManager core) (alloc : Nat → Bool) (idx : UInt64) (err : Bool) :
    Prog Memory ε (Option core.CBlock × Option ErrorPtr) :=
  wrapFn err (getBlockBody self alloc idx)

/-- `BtcK_Chain_FindBlock` -/
def findBlock (self : ChainstateManager core) (blockHash : Bytes) : Int64 :=
  match self.lookupBlockIndex blockHash with
  | none => (-1 : Int32).toInt64
  | some bi => (if self.contains bi then self.nHeight bi else -1).toInt64

end Chain

end Btck
