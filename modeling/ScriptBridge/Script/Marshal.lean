/-
  ScriptBridge/Script/Marshal.lean
  ================================
  **Values crossing between the bridge and a script.**

  Both directions refuse a part that lies inside more than 64 lists and maps.
  On the way out of a script a character becomes a text, a shared value counts
  as what it wraps, and a kind that the bridge does not know is refused.
-/
import ScriptBridge.Error
import ScriptBridge.Script.Data

namespace ScriptBridge

/-- The largest number of lists and maps around a part of a value that crosses. -/
def nestingLimit : Nat := 64

namespace Value

mutual

/-- The script value of a part that lies inside `depth` lists and maps. -/
def marshalAt (depth : Nat) (v : Value) : Except MarshalError Data :=
  if nestingLimit < depth then .error (.tooDeep nestingLimit)
  else
    match v with
    | .nil => .ok .unit
    | .bool b => .ok (.bool b)
    | .int n => .ok (.int n)
    | .float d => .ok (.float d)
    | .string s => .ok (.string s)
    | .bytes octets => .ok (.blob octets)
    | .object h => .ok (.handle h)
    | .list items => (marshalItems (depth + 1) items).map .array
    | .map entries => (marshalEntries (depth + 1) entries).map .map

def marshalItems (depth : Nat) : List Value → Except MarshalError (List Data)
  | [] => .ok []
  | v :: rest =>
    match marshalAt depth v with
    | .error e => .error e
    | .ok d =>
      match marshalItems depth rest with
      | .error e => .error e
      | .ok ds => .ok (d :: ds)

def marshalEntries (depth : Nat) : List (String × Value) → Except MarshalError (List (String × Data))
  | [] => .ok []
  | (k, v) :: rest =>
    match marshalAt depth v with
    | .error e => .error e
    | .ok d =>
      match marshalEntries depth rest with
      | .error e => .error e
      | .ok ds => .ok ((k, d) :: ds)

end

/-- The script value of a value. -/
def marshal (v : Value) : Except MarshalError Data := marshalAt 0 v

end Value

namespace Data

mutual

/-- The value of a part that lies inside `depth` arrays and maps. -/
def unmarshalAt (depth : Nat) (d : Data) : Except MarshalError Value :=
  if nestingLimit < depth then .error (.tooDeep nestingLimit)
  else
    match d with
    | .unit => .ok .nil
    | .bool b => .ok (.bool b)
    | .int n => .ok (.int n)
    | .float x => .ok (.float x)
    | .char c => .ok (.string (String.singleton c))
    | .string s => .ok (.string s)
    | .blob octets => .ok (.bytes octets)
    | .handle h => .ok (.object h)
    | .array items => (unmarshalItems (depth + 1) items).map .list
    | .map entries => (unmarshalEntries (depth + 1) entries).map .map
    | .shared inner => unmarshalAt depth inner
    | .foreign f => .error (.unsupported f.kindName)

def unmarshalItems (depth : Nat) : List Data → Except MarshalError (List Value)
  | [] => .ok []
  | d :: rest =>
    match unmarshalAt depth d with
    | .error e => .error e
    | .ok v =>
      match unmarshalItems depth rest with
      | .error e => .error e
      | .ok vs => .ok (v :: vs)

def unmarshalEntries (depth : Nat) :
    List (String × Data) → Except MarshalError (List (String × Value))
  | [] => .ok []
  | (k, d) :: rest =>
    match unmarshalAt depth d with
    | .error e => .error e
    | .ok v =>
      match unmarshalEntries depth rest with
      | .error e => .error e
      | .ok vs => .ok ((k, v) :: vs)

end

/-- The value of a script value. -/
def unmarshal (d : Data) : Except MarshalError Value := unmarshalAt 0 d

/-- The values of several script values; the first fault wins. -/
def unmarshalAll : List Data → Except MarshalError (List Value)
  | [] => .ok []
  | d :: rest =>
    match d.unmarshal with
    | .error e => .error e
    | .ok v =>
      match unmarshalAll rest with
      | .error e => .error e
      | .ok vs => .ok (v :: vs)

end Data

/-- A failed operation as a script sees it: a map of kind, code and message. -/
def BridgeError.toData (e : BridgeError) : Data :=
  .map [("code", .string e.code), ("kind", .string e.kind), ("message", .string e.message)]

end ScriptBridge
