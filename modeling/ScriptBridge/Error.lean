/-
  ScriptBridge/Error.lean
  =======================
  **What can go wrong on the bridge, and how it is told.**

  A `MarshalError` concerns one value, a `BridgeError` one operation, and a
  `HostError` is what a host method reports about itself.  Each error is its
  cause; the wording is in one function per type.
-/
import ScriptBridge.Number.Word
import ScriptBridge.Value.Basic

namespace ScriptBridge

/-- A value that cannot cross or does not fit. -/
inductive MarshalError where
  | unsupported (kind : String)
  | tooDeep (limit : Nat)
  | kindMismatch (expected found : String)
  | missingArgument (index : Nat)
deriving DecidableEq, Repr

/-- A number in a message. -/
def natText (n : Nat) : String := String.ofList (Nat.toDigits 10 n)

def MarshalError.message : MarshalError → String
  | .unsupported kind => "Unsupported " ++ kind ++ " value cannot cross the bridge."
  | .tooDeep limit =>
    "Value nesting exceeds " ++ natText limit ++ " levels; cyclic values are refused."
  | .kindMismatch expected found => "Expected " ++ expected ++ " but found " ++ found ++ "."
  | .missingArgument index => "Missing argument at position " ++ natText index ++ "."

/-- An operation of the bridge that failed. -/
inductive BridgeError where
  | marshal (error : MarshalError)
  | methodNotFound (className method : String) (arity : Nat)
  | invocation (className method message : String)
  | staleHandle (handle : ObjectHandle)
  | io (path message : String)
  | unknownWidget (id : WidgetId)
  | descriptor (message : String)
  | eval (message : String)
deriving DecidableEq, Repr

namespace BridgeError

def message : BridgeError → String
  | .marshal error => error.message
  | .methodNotFound className method arity =>
    "No method \"" ++ method ++ "\" taking " ++ natText arity ++ " argument(s) on " ++ className ++ "."
  | .invocation className method message =>
    "Call to " ++ className ++ "." ++ method ++ " failed: " ++ message
  | .staleHandle handle => "Object handle " ++ natText handle.number ++ " is no longer valid."
  | .io path message => "Could not read \"" ++ path ++ "\": " ++ message
  | .unknownWidget id => "Widget " ++ Word.text id ++ " is not registered."
  | .descriptor message => "Invalid UI descriptor: " ++ message
  | .eval message => "Evaluation failed: " ++ message

/-- The name of the error, as scripts see it. -/
def kind : BridgeError → String
  | .marshal _ => "MarshalError"
  | .methodNotFound .. => "MethodNotFoundError"
  | .invocation .. => "InvocationError"
  | .staleHandle _ => "StaleHandleError"
  | .io .. => "IOError"
  | .unknownWidget _ => "UnknownWidgetError"
  | .descriptor _ => "DescriptorError"
  | .eval _ => "EvalError"

def code : BridgeError → String
  | .marshal _ => "BRIDGE_MARSHAL"
  | .methodNotFound .. => "BRIDGE_METHOD_NOT_FOUND"
  | .invocation .. => "BRIDGE_INVOCATION"
  | .staleHandle _ => "BRIDGE_STALE_HANDLE"
  | .io .. => "BRIDGE_IO"
  | .unknownWidget _ => "BRIDGE_UNKNOWN_WIDGET"
  | .descriptor _ => "BRIDGE_DESCRIPTOR"
  | .eval _ => "BRIDGE_EVAL"

end BridgeError

/-- A failure that a host method reports. -/
inductive HostError where
  | marshal (error : MarshalError)
  | bridge (error : BridgeError)
  | failed (message : String)
deriving DecidableEq, Repr

def HostError.message : HostError → String
  | .marshal error => error.message
  | .bridge error => error.message
  | .failed message => message

end ScriptBridge
