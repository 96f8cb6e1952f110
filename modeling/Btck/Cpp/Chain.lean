import Btck.Chain
import Btck.Cpp.Invoke
import Btck.Cpp.Range

/-!
# `btck::Chain` (`include/btck/btck.hpp`)

The wrapper is a range over one chain object, so the address of the range is `()`.
-/

namespace Btck.Cpp.Chain

open Infra

variable {core : BitcoinCore}

/-- `Chain::size` -/
def size (self : ChainstateManager core) : UInt64 := Btck.Chain.countBlocks self

/-- `Chain::operator[]`: the handle of the block. -/
def subscript (self : ChainstateManager core) (alloc : Nat → Bool) (height : UInt64) :
    Prog Memory Thrown (Option core.CBlock) :=
  invoke (fun err => Btck.Chain.getBlock self alloc height err)

/-- `range::begin` -/
def begin_ : RangeIterator Unit := { range_ := some (), idx_ := 0 }

/-- `range::end` -/
def end_ (self : ChainstateManager core) : RangeIterator Unit :=
  { range_ := some (), idx_ := size self }

/-- `Chain::find` -/
def find (self : ChainstateManager core) (blockHash : Bytes) : RangeIterator Unit :=
  let idx := Btck.Chain.findBlock self blockHash
  if idx = -1 then end_ self else begin_.add idx

/-- A loop from `begin()` to `end()`: the handles it visits. -/
def loop (self : ChainstateManager core) (alloc : Nat → Bool) :
    Prog Memory Thrown (List (Option core.CBlock)) :=
  traverse (fun _ => subscript self alloc) (end_ self) begin_

end Btck.Cpp.Chain
