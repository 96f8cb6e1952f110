import Btck.Error

/-!
# Errors on the Python side (`bindings/python/src/_error.c`)
-/

namespace Btck.Python

open Infra

/--
The exception classes that the module, or the interpreter in its place, raises. Another class counts
as the one of these that it is derived from.
-/
inductive ExcType where
  | memoryError
  | verificationError
  | runtimeError
  | indexError
  | unicodeDecodeError
  | valueError
  | typeError
  | overflowError
  | attributeError
  | systemError
  /-- A class that is derived from none of these. -/
  | other (name : String)
  deriving DecidableEq, Repr

/--
A Python exception: its class, and its text where the module gives one. There is memory for the
exception and its text.
-/
structure PyErr where
  type : ExcType
  message : Option String
  deriving DecidableEq, Repr

/-- `PyErr_SetString`: the exception that it sets. A text that is not valid UTF-8 is one itself. -/
def setString (type : ExcType) (text : Bytes) : PyErr :=
  match decodeUtf8 text with
  | some message => ⟨type, some message⟩
  | none => ⟨.unicodeDecodeError, none⟩

@[simp] theorem setString_utf8 (type : ExcType) (message : String) :
    setString type (utf8 message) = ⟨type, some message⟩ := by
  rw [setString, decodeUtf8_utf8]

theorem setString_type (type : ExcType) (text : Bytes) :
    (setString type text).type = type ∨ (setString type text).type = .unicodeDecodeError := by
  unfold setString
  split
  · exact .inl rfl
  · exact .inr rfl

/-- `SetError`: the exception it sets. It frees the record in every case. -/
def setError {ε : Type} (error : ErrorPtr) : Prog Memory ε PyErr := do
  let _code ← Error.code error
  let domain ← Error.domain error
  let message ← Error.message error
  let name ← domain.str
  let exc ←
    if name = utf8 "Memory" then
      pure ⟨.memoryError, none⟩
    else if name = utf8 "VerificationError" then do
      let text ← message.str
      pure (setString .verificationError text)
    else do
      let text ← message.str
      pure (setString .runtimeError text)
  Error.free error
  pure exc

end Btck.Python
