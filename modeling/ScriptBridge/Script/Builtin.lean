/-
  ScriptBridge/Script/Builtin.lean
  ================================
  **The functions of the script language itself.**

  A function called like a method may change its first argument; of these
  functions only `push` does.  `none` stands for an error of the language.
-/
import ScriptBridge.Script.Operator

namespace ScriptBridge.Builtin

/-- A result, and the first argument if it was changed. -/
structure Answer where
  result : Data
  changed : Option Data

/-- A result that leaves the arguments alone. -/
def pure (d : Data) : Option Answer := some ⟨d, none⟩

/-- One of some values equals a value. -/
def holdsItem (d : Data) : List Data → Option Bool
  | [] => some false
  | item :: rest =>
    match item.equal? d with
    | none => none
    | some true => some true
    | some false => holdsItem d rest

/-- How many elements or characters a value has. -/
def size? : Data → Option Nat
  | .string s => some s.length
  | .array items => some items.length
  | .map entries => some entries.length
  | .blob octets => some octets.length
  | _ => none

def count (n : Nat) : Data := .int (Int64.ofInt n)

def call? (name : String) (args : List Data) : Option Answer :=
  match args with
  | [] =>
    if name = "blob" then pure (.blob [])
    else if name = "timestamp" then pure (.foreign .timestamp)
    else none
  | [d] =>
    if name = "type_of" then pure (.string d.typeName)
    else if name = "len" then (size? d).bind fun n => pure (count n)
    else
      match d with
      | .map entries =>
        if name = "keys" then pure (.array (entries.map fun e => .string e.1)) else none
      | .int n => if name = "blob" then pure (.blob (List.replicate n.toInt.toNat 0)) else none
      | _ => none
  | [.array items, d] =>
    if name = "push" then some ⟨.unit, some (.array (items ++ [d]))⟩
    else if name = "contains" then (holdsItem d items).bind fun b => pure (.bool b)
    else none
  | [.blob octets, .int n] =>
    if name = "push" then some ⟨.unit, some (.blob (octets ++ [Data.octetOf n]))⟩
    else if name = "contains" then pure (.bool (octets.contains (Data.octetOf n)))
    else none
  | [.map entries, .string key] =>
    if name = "contains" then pure (.bool (Assoc.contains key entries)) else none
  | [.string s, d] =>
    match d.letters? with
    | none => none
    | some t =>
      if name = "contains" then pure (.bool (Text.holds t.toList s.toList))
      else if name = "split" then pure (.array ((Text.split t s).map .string))
      else none
  | [.int n, .int octet] =>
    if name = "blob" then
      pure (.blob (List.replicate n.toInt.toNat (Data.octetOf octet)))
    else none
  | _ => none

end ScriptBridge.Builtin
