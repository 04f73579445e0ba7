/-
  ScriptBridge/Value/Args.lean
  ============================
  **The positional arguments of a host method.**

  An accessor reads the argument at a position as one kind; it tells a missing
  argument from one of another kind.
-/
import ScriptBridge.Error

namespace ScriptBridge

/-- The arguments that a host method receives. -/
structure Args where
  values : List Value
deriving DecidableEq, Repr

namespace Args

def length (args : Args) : Nat := args.values.length

def value (args : Args) (index : Nat) : Except MarshalError Value :=
  match args.values[index]? with
  | some v => .ok v
  | none => .error (.missingArgument index)

/-- The argument at a position, read by a partial view that covers the values of one kind. -/
def view {α : Type} (args : Args) (index : Nat) (expected : String) (f : Value → Option α) :
    Except MarshalError α :=
  match args.value index with
  | .error e => .error e
  | .ok v =>
    match f v with
    | some a => .ok a
    | none => .error (.kindMismatch expected v.typeName)

def int (args : Args) (index : Nat) : Except MarshalError Int64 :=
  args.view index "integer" Value.asInt?

def float (args : Args) (index : Nat) : Except MarshalError Double :=
  args.view index "float" Value.asFloat?

def string (args : Args) (index : Nat) : Except MarshalError String :=
  args.view index "string" Value.asString?

/-- Text that may be left out: a missing argument and nil read as none. -/
def string? (args : Args) (index : Nat) : Except MarshalError (Option String) :=
  match args.values[index]? with
  | none | some .nil => .ok none
  | some (.string s) => .ok (some s)
  | some v => .error (.kindMismatch "string" v.typeName)

def list (args : Args) (index : Nat) : Except MarshalError (List Value) :=
  args.view index "list" Value.asList?

def map (args : Args) (index : Nat) : Except MarshalError (List (String × Value)) :=
  args.view index "map" Value.asMap?

def object (args : Args) (index : Nat) : Except MarshalError ObjectHandle :=
  args.view index "object" Value.asObject?

/-- One of the accessors. -/
inductive Reading where
  | value
  | int
  | float
  | string
  /-- Text that may be left out. -/
  | optionalString
  | list
  | map
  | object
deriving DecidableEq, Repr

/-- What an accessor finds at a position, as a value again. -/
def read (args : Args) (index : Nat) : Reading → Except MarshalError Value
  | .value => args.value index
  | .int => (args.int index).map .int
  | .float => (args.float index).map .float
  | .string => (args.string index).map .string
  | .optionalString => (args.string? index).map fun s => (s.map Value.string).getD .nil
  | .list => (args.list index).map .list
  | .map => (args.map index).map .map
  | .object => (args.object index).map .object

end Args
end ScriptBridge
