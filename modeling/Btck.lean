import Btck.Chain
import Btck.Core
import Btck.Cpp.Chain
import Btck.Cpp.Invoke
import Btck.Cpp.Process
import Btck.Cpp.Range
import Btck.Cpp.ScriptPubkey
import Btck.Cpp.ToBytes
import Btck.Cpp.ToString
import Btck.Cpp.Wrapper
import Btck.Error
import Btck.Flags
import Btck.Infra.Advance
import Btck.Infra.Bits
import Btck.Infra.Buffer
import Btck.Infra.Heap
import Btck.Infra.HeldOnce
import Btck.Infra.Ledger
import Btck.Infra.Links
import Btck.Infra.Outcome
import Btck.Infra.Ownership
import Btck.Infra.Progression
import Btck.Infra.RefCount
import Btck.Infra.Run
import Btck.Infra.Shared
import Btck.Infra.Simulation
import Btck.Infra.Sink
import Btck.Infra.Triple
import Btck.Infra.Utf8
import Btck.Infra.Words
import Btck.Minimal
import Btck.Native
import Btck.Object
import Btck.Program
import Btck.Properties.Address
import Btck.Properties.Bindings
import Btck.Properties.BytesWriter
import Btck.Properties.Calls
import Btck.Properties.Chain
import Btck.Properties.Clients
import Btck.Properties.CppPrograms
import Btck.Properties.ErrorBoundary
import Btck.Properties.ErrorRecord
import Btck.Properties.FlagsText
import Btck.Properties.HeldRecords
import Btck.Properties.Index
import Btck.Properties.InputIndex
import Btck.Properties.Iterator
import Btck.Properties.Ledger
import Btck.Properties.Lifetime
import Btck.Properties.Ownership
import Btck.Properties.Pointers
import Btck.Properties.Process
import Btck.Properties.ProcessValues
import Btck.Properties.Program
import Btck.Properties.PythonPrograms
import Btck.Properties.Records
import Btck.Properties.RoundTrip
import Btck.Properties.RustPrograms
import Btck.Properties.Session
import Btck.Properties.Sharing
import Btck.Properties.Signal
import Btck.Properties.Streaming
import Btck.Properties.Text
import Btck.Properties.Types
import Btck.Properties.Values
import Btck.Properties.Verify
import Btck.Properties.View
import Btck.Python.BytesWriter
import Btck.Python.Error
import Btck.Python.Index
import Btck.Python.Module
import Btck.Python.Object
import Btck.Python.Primitives
import Btck.Python.Process
import Btck.Python.References
import Btck.Python.ScriptPubkey
import Btck.Python.Slice
import Btck.Python.ToBytes
import Btck.Python.ToString
import Btck.Python.VerificationFlags
import Btck.Rust.Crate
import Btck.Swift.Transaction
import Btck.ToBytes
import Btck.ToString
import Btck.Verify
