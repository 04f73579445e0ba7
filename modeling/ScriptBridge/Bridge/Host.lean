/-
  ScriptBridge/Bridge/Host.lean
  =============================
  **The application on the other side of the bridge.**

  A host has classes `κ`, objects of them, and a state `η`.  A method that runs
  may use the bridge again: it may evaluate a program, fire a widget, or call
  another object.  It ends with a value or an object, with an error, or by
  panicking.
-/
import ScriptBridge.Class.Registry
import ScriptBridge.Interaction
import ScriptBridge.Value.Program

namespace ScriptBridge

/-- How an evaluation ended. -/
inductive Status where
  | ok
  /-- The octets of the program are no text. -/
  | badProgram
  | parseError
  /-- An error that nothing caught. -/
  | runtimeError
deriving DecidableEq, Repr

def Status.code : Status → Int64
  | .ok => 0
  | .badProgram => 1
  | .parseError => 2
  | .runtimeError => 3

/-- A class that the bridge can see: its own, or one of the host's. -/
inductive ClassKey (κ : Type) where
  | system
  | host (k : κ)
deriving DecidableEq, Repr

/-- An object that the bridge can reach: its own, or a numbered one of a host class. -/
inductive ObjectRef (κ : Type) where
  | system
  | host (k : κ) (number : Nat)
deriving DecidableEq, Repr

def ObjectRef.classKey {κ : Type} : ObjectRef κ → ClassKey κ
  | .system => .system
  | .host k _ => .host k

/-- What a host hands over: plain data, or an object that scripts receive as a handle. -/
inductive HostValue (κ : Type) where
  | value (v : Value)
  | object (o : ObjectRef κ)
deriving DecidableEq, Repr

/-- How a host method or field ended. -/
inductive Completion (α : Type) where
  | returned (a : α)
  | failed (e : HostError)
  /-- It panicked, with a text or without one. -/
  | panicked (text : Option String)
deriving Repr

/-- A panic is an ordinary failure to the caller. -/
def Completion.toExcept {α : Type} : Completion α → Except HostError α
  | .returned a => .ok a
  | .failed e => .error e
  | .panicked (some text) => .error (.failed ("panicked: " ++ text))
  | .panicked none => .error (.failed "panicked")

/-- What a host method asks while it runs. -/
inductive HostRequest (η κ : Type) where
  | getState
  | setState (s : η)
  | evaluate (program : Program) (bindings : List (String × HostValue κ))
  | dispatch (id : WidgetId) (event : Value)
  | destroy (id : WidgetId)
  | invoke (handle : ObjectHandle) (method : String) (args : List Value)
  | retain (handle : ObjectHandle)
  | release (handle : ObjectHandle)

abbrev HostRequest.Reply {η κ : Type} : HostRequest η κ → Type
  | .getState => η
  | .setState _ => Unit
  | .evaluate _ _ => Status
  | .dispatch _ _ => Option Status
  | .destroy _ => Except BridgeError Unit
  | .invoke _ _ _ => Except BridgeError Value
  | .retain _ => Bool
  | .release _ => Bool

/-- A running host method. -/
abbrev HostMethod (η κ : Type) :=
  Interaction (HostRequest η κ) HostRequest.Reply (Completion (HostValue κ))

/-- The classes of a host and what their methods and fields do. -/
structure Host (η κ : Type) where
  classes : ClassFamily κ
  /-- Runs the method at a position of a class on an object. -/
  run : κ → Nat → Nat → Args → HostMethod η κ
  /-- Reads the field at a position of a class of an object. -/
  read : κ → Nat → Nat → η → Completion Value

end ScriptBridge
