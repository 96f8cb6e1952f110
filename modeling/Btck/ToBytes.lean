import Btck.Object
import Btck.Infra.Sink

/-!
# Byte streams (`src/util/writer_stream.hpp` and the `ToBytes` functions)

A transaction and a block are written through `util::WriterStream`, which turns a refusal of
the callback into an exception; the `ToBytes` function turns the exception into `-1`. A script
is handed to the callback directly, and its answer is returned as it is.
-/

namespace Btck

open Infra

variable {σ ε : Type}

/-- What `std::system_error(std::make_error_code(std::errc::io_error))` is. -/
def ioError : Exception := .systemError 5 .generic (utf8 "Input/output error")

/-- `util::WriterStream::write` -/
def WriterStream.write (write : Callback Bytes σ) (buffer : Bytes) : Prog σ Exception Unit :=
  offer write ioError buffer

/-- `Serialize` to a stream: every chunk goes to the stream's `write`, and exceptions pass. -/
def Codec.serialize {T : Type} (c : Codec T) (write : Bytes → Prog σ Exception Unit) (x : T) :
    Prog σ Exception Unit :=
  forEach write (c.chunks x)

/-- `BtcK_ScriptPubkey_ToBytes` -/
def ScriptPubkey.toBytes (self : Option CScript) (write : Callback Bytes σ) : Prog σ ε Int32 :=
  do
    let bytes ← Prog.lift (Api.get self)
    fun userdata =>
      let (answer, userdata') := write bytes userdata
      (.returns answer, userdata')

/-- `BtcK_Transaction_ToBytes` -/
def Transaction.toBytes (core : BitcoinCore) (self : Option core.CTransaction)
    (write : Callback Bytes σ) : Prog σ ε Int32 :=
  Prog.catchAll
    (do
      let tx ← Prog.lift (Api.get self)
      core.tx.serialize (WriterStream.write write) tx
      pure 0)
    fun _ => pure (-1)

/-- `BtcK_Block_ToBytes` -/
def Block.toBytes (core : BitcoinCore) (self : Option core.CBlock) (write : Callback Bytes σ) :
    Prog σ ε Int32 :=
  Prog.catchAll
    (do
      let block ← Prog.lift (Api.get self)
      core.block.serialize (WriterStream.write write) block
      pure 0)
    fun _ => pure (-1)

end Btck
