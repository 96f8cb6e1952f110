import Btck.Infra.Buffer
import Btck.Python.ToBytes

/-!
# The writer, byte by byte (`bindings/python/src/_bytes_writer.c`, `_util.c`)

`Btck.Python.ToBytes` takes a writer for the list of what was written. Here it is the struct that it
is in the source, with 256 bytes of its own. When they do not suffice, the data moves to a `bytes`
object, which grows by more than is needed at the moment, and in the end shrinks to what was needed.

* `PyBytesWriter` — the struct, and the functions on it
* `Util.writeBytes`, `Util.toBytes` — the functions that use it
-/

namespace Btck.Python

open Infra

/-! ## Memory -/

/-- `struct PyBytesWriter` -/
structure PyBytesWriter where
  smallBuffer : Buffer
  /-- The block of a `bytes` object, or null. -/
  obj : Option Nat
  size : Int
  length_smallBuffer : smallBuffer.length = 256

/-- A block of memory: a writer, or a `bytes` object with its characters. -/
inductive WriterBlock where
  | writer (self : PyBytesWriter)
  | bytes (b : Buffer)

abbrev WriterMemory := Heap WriterBlock

/-- What an object takes besides its characters: `PyBytesObject_SIZE`. -/
def bytesObjectSize : Int := 33

namespace PyBytesWriter

/-- The writer behind a pointer. -/
def load (writer : Nat) : Prog WriterMemory PyErr PyBytesWriter := do
  match ← Heap.read writer with
  | .writer self => return self
  | .bytes _ => Prog.fault .undefined

def store (writer : Nat) (self : PyBytesWriter) : Prog WriterMemory PyErr Unit :=
  Heap.write writer (.writer self)

/-- The characters of a `bytes` object. -/
def loadBytes (obj : Nat) : Prog WriterMemory PyErr Buffer := do
  match ← Heap.read obj with
  | .bytes b => return b
  | .writer _ => Prog.fault .undefined

/-- `memcpy` of `bytes` to the place `pos` of a buffer. -/
def copied (b : Buffer) (pos : Int) (bytes : Bytes) : Outcome PyErr Buffer :=
  if 0 ≤ pos ∧ pos.toNat + bytes.length ≤ b.length then .returns (b.overwrite pos.toNat bytes)
  else .faults .undefined

/-! ## What CPython does -/

section

-- what the memory of a block holds before anything was written to it
variable (junk : Nat → Nat → UInt8)

/-- `PyBytes_FromStringAndSize(NULL, size)`, for a size above zero. -/
def fromSize (size : Int) : Prog WriterMemory PyErr Nat := fun h =>
  if size > ssizeMax - bytesObjectSize then
    (.throws ⟨.overflowError, some "byte string is too large"⟩, h)
  else (do
    match ← Heap.malloc (.bytes (fresh (junk h.next) size.toNat)) with
    | some obj => return obj
    | none => Prog.throw noMemory : Prog WriterMemory PyErr Nat) h

/--
`_PyBytes_Resize`, with what it leaves in the variable. When there is no memory, the object is freed
and the variable is null.
-/
def resizeBytes (obj : Nat) (size : Int) : Prog WriterMemory PyErr (Option Nat) := fun h =>
  (do
    let b ← loadBytes obj
    if (b.length : Int) = size then return some obj
    else if size > ssizeMax - bytesObjectSize then do
      Heap.free obj
      return none
    else do
      let result ← Heap.malloc (.bytes ((b ++ fresh (junk h.next) size.toNat).take size.toNat))
      Heap.free obj
      return result : Prog WriterMemory PyErr (Option Nat)) h

/-! ## `_bytes_writer.c` -/

/-- `byteswriter_allocated` -/
def allocated (writer : Nat) : Prog WriterMemory PyErr Int := do
  match (← load writer).obj with
  | none => return 256
  | some obj => return (← loadBytes obj).length

/-- What is asked for, with `OVERALLOCATE_FACTOR` 4, if it can be had. -/
def overallocated (size : Int) : Int :=
  if size ≤ ssizeMax - size / 4 then size + size / 4 else size

/-- `byteswriter_resize` -/
def resize (writer : Nat) (size : Int) (overallocate : Bool) : Prog WriterMemory PyErr Unit := do
  if size < 0 then Prog.fault .assertion
  else if size ≤ (← allocated writer) then return ()
  else do
    let size := if overallocate then overallocated size else size
    let self ← load writer
    match self.obj with
    | some obj => do
      let obj ← resizeBytes junk obj size
      store writer { self with obj := obj }
      if obj.isNone then Prog.throw noMemory else return ()
    | none => do
      let obj ← fromSize junk size
      store writer { self with obj := some obj }
      if size ≤ 256 then Prog.fault .assertion
      else do
        let b ← Prog.lift (copied (← loadBytes obj) 0 self.smallBuffer)
        Heap.write obj (.bytes b)

/-- `byteswriter_grow` -/
def grow (writer : Nat) (size : Int) : Prog WriterMemory PyErr Unit := do
  let self ← load writer
  if size < 0 ∧ self.size + size < 0 then Prog.throw ⟨.valueError, some "invalid size"⟩
  else if size > ssizeMax - self.size then Prog.throw noMemory
  else do
    let size := self.size + size
    resize junk writer size true
    store writer { (← load writer) with size := size }

/-- `PyBytesWriter_Discard` -/
def discard : Option Nat → Prog WriterMemory PyErr Unit
  | none => return ()
  | some writer => do
    match (← load writer).obj with
    | some obj => Heap.free obj
    | none => pure ()
    Heap.free writer

/-- `PyBytesWriter_Create` -/
def create (size : Int) : Prog WriterMemory PyErr Nat := fun h =>
  if size < 0 then (.throws ⟨.valueError, some "size must be >= 0"⟩, h)
  else (do
    let self : PyBytesWriter :=
      { smallBuffer := fresh (junk h.next) 256, obj := none, size := 0,
        length_smallBuffer := length_fresh _ _ }
    match ← Heap.malloc (.writer self) with
    | none => Prog.throw noMemory
    | some writer =>
      if size ≥ 1 then do
        Prog.catchAll (resize junk writer size false) fun e => do
          discard (some writer)
          Prog.throw e
        store writer { (← load writer) with size := size }
        return writer
      else return writer : Prog WriterMemory PyErr Nat) h

/-- Copy `bytes` to the place `pos` of the data. -/
def writeData (writer : Nat) (pos : Int) (bytes : Bytes) : Prog WriterMemory PyErr Unit := do
  let self ← load writer
  match self.obj with
  | some obj => do
    let b ← Prog.lift (copied (← loadBytes obj) pos bytes)
    Heap.write obj (.bytes b)
  | none =>
    if h : 0 ≤ pos ∧ pos.toNat + bytes.length ≤ self.smallBuffer.length then
      store writer
        { self with
          smallBuffer := self.smallBuffer.overwrite pos.toNat bytes
          length_smallBuffer := (Buffer.length_overwrite h.2).trans self.length_smallBuffer }
    else Prog.fault .undefined

/-- The length of a NUL-terminated string. -/
def stringLength (bytes : Bytes) : Prog WriterMemory PyErr Int := do
  let s ← Prog.lift (cString bytes)
  if (s.length : Int) > ssizeMax then Prog.throw noMemory else return s.length

/-- `PyBytesWriter_WriteBytes`. There are no bytes behind those of `bytes`. -/
def writeBytes (writer : Nat) (bytes : Bytes) (size : Int) : Prog WriterMemory PyErr Unit := do
  let size ← if size < 0 then stringLength bytes else pure size
  let pos := (← load writer).size
  grow junk writer size
  if size.toNat ≤ bytes.length then writeData writer pos (bytes.take size.toNat)
  else Prog.fault .undefined

/-- The object that a writer leaves: its own, or the empty object, which all share. -/
inductive Result where
  | empty
  | obj (n : Nat)
  deriving DecidableEq, Repr

/-- `PyBytesWriter_Finish` -/
def finish (writer : Nat) : Prog WriterMemory PyErr Result := do
  let self ← load writer
  if self.size = 0 then do
    discard (some writer)
    return .empty
  else
    match self.obj with
    | some obj => do
      let result ← resizeBytes junk obj self.size
      match result with
      | none => do
        store writer { self with obj := none }
        discard (some writer)
        Prog.throw noMemory
      | some obj => do
        store writer { self with obj := none }
        discard (some writer)
        return .obj obj
    | none => do
      let result ← Prog.catchAll (some <$> fromSize junk self.size) fun _ => return none
      match result with
      | none => do
        discard (some writer)
        Prog.throw noMemory
      | some obj => do
        let b ← Prog.lift (copied (← loadBytes obj) 0 (self.smallBuffer.take self.size.toNat))
        Heap.write obj (.bytes b)
        discard (some writer)
        return .obj obj

end

end PyBytesWriter

/-! ## `_util.c` -/

/--
The user data of `write_bytes`: memory, and the exception that is set. A fault is kept, since after
it nothing counts.
-/
structure Writing where
  memory : WriterMemory
  error : Option PyErr
  fault : Option Fault

namespace Util

variable (junk : Nat → Nat → UInt8)

/-- `write_bytes` -/
def writeBytes (writer : Option Nat) : Callback Bytes Writing := fun bytes s =>
  let call : Prog WriterMemory PyErr Unit :=
    match writer with
    | some writer =>
      PyBytesWriter.writeBytes junk writer bytes (Int64.ofNat bytes.length).toInt
    | none => Prog.fault .nullDeref
  match call s.memory with
  | (.returns (), memory) => (0, { s with memory := memory })
  | (.throws e, memory) => (-1, { s with memory := memory, error := some e })
  | (.faults u, memory) => (-1, { s with memory := memory, fault := s.fault.or (some u) })

/-- `to_bytes`. The result of `PyBytesWriter_Create` is not looked at. -/
def toBytes (writefn : Callback Bytes Writing → Prog Writing PyErr Int32) :
    Prog WriterMemory PyErr PyBytesWriter.Result := fun h =>
  let (writer, error, h) : Option Nat × Option PyErr × WriterMemory :=
    match PyBytesWriter.create junk 0 h with
    | (.returns writer, h) => (some writer, none, h)
    | (.throws e, h) => (none, some e, h)
    | (.faults _, h) => (none, none, h)
  match writefn (writeBytes junk writer) { memory := h, error := error, fault := none } with
  | (.returns result, s) =>
    match s.fault with
    | some u => (.faults u, s.memory)
    | none =>
      if result ≠ 0 then (do
        PyBytesWriter.discard writer
        -- the interpreter's answer to a NULL without an exception
        Prog.throw (s.error.getD ⟨.systemError, none⟩) :
          Prog WriterMemory PyErr PyBytesWriter.Result) s.memory
      else
        match writer with
        | some writer => PyBytesWriter.finish junk writer s.memory
        | none => (.faults .nullDeref, s.memory)
  | (.throws e, s) => (.throws e, s.memory)
  | (.faults u, s) => (.faults u, s.memory)

end Util

end Btck.Python
