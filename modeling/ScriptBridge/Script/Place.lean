/-
  ScriptBridge/Script/Place.lean
  ==============================
  **Reading and assigning parts of values.**

  An element or property of a variable has a place, and what is written there
  changes the variable at once.  Anything that was computed has none: changing
  it is allowed and forgotten.
-/
import ScriptBridge.Script.Eval

namespace ScriptBridge

/-- An access in a chain whose arguments have their values. -/
inductive Access where
  | property (name : String)
  | index (d : Data)
  | method (name : String) (args : List Data)

namespace Eval

/-! ### Parts of values -/

/-- An element, or a property of a map, and where it is; what a map does not have reads as nothing. -/
def element (place : Option Place) (d key : Data) : Eval (Data × Option Place) := do
  match d.unshare, key.unshare with
  | .map entries, .string name =>
    match Assoc.find? name entries with
    | some d => return (d, place.map (·.within fun d => .map (Assoc.insert name d entries)))
    | none => return (.unit, none)
  | .array items, .int n =>
    let i ← orFault (Data.position? items.length n)
    let d ← orFault items[i]?
    return (d, place.map (·.within fun d => .array (items.set i d)))
  | .string text, .int n =>
    let i ← orFault (Data.position? text.length n)
    let c ← orFault text.toList[i]?
    return (.char c, none)
  | .blob octets, .int n =>
    let i ← orFault (Data.position? octets.length n)
    let octet ← orFault octets[i]?
    return (.int (Int64.ofNat octet.toNat), none)
  | .int n, .int i => return (.bool (← orFault (Data.bit? n i)), none)
  | _, _ => fault

/-- A property of a value that is no map. -/
def property (s : Surroundings) (d : Data) (name : String) : Eval Data := do
  match d.unshare with
  | .handle h =>
    let native ← orFault (s.natives.selectField name)
    callNative native [.handle h]
  | .map _ => fault
  | d =>
    if name = "len" then
      let n ← orFault (Builtin.size? d)
      return Builtin.count n
    else fault

/-- The new value of a place: the value itself, or an operation on the old one and the value. -/
def updated (s : Surroundings) (op : Option BinaryOp) (old d : Data) : Eval Data :=
  match op with
  | none => pure d
  | some op => updateBy s op old d

/-- Assigns to a part of a value.  A map has the property from then on, even when the operation
    fails. -/
def assignElement (s : Surroundings) (place : Option Place) (target key : Data)
    (op : Option BinaryOp) (d : Data) : Eval Unit := do
  match target.unshare, key.unshare with
  | .map entries, .string name =>
    let old := (Assoc.find? name entries).getD .unit
    write place (.map (Assoc.insert name old entries))
    let d ← updated s op old d
    write place (.map (Assoc.insert name d entries))
  | .array items, .int n =>
    let i ← orFault (Data.position? items.length n)
    let old ← orFault items[i]?
    let d ← updated s op old d
    write place (.array (items.set i d))
  | .string text, .int n =>
    let i ← orFault (Data.position? text.length n)
    let old ← orFault text.toList[i]?
    match ← updated s op (.char old) d with
    | .char c => write place (.string (String.ofList (text.toList.set i c)))
    | _ => fault
  | .blob octets, .int n =>
    let i ← orFault (Data.position? octets.length n)
    let old ← orFault octets[i]?
    match ← updated s op (.int (Int64.ofNat old.toNat)) d with
    | .int n => write place (.blob (octets.set i (Data.octetOf n)))
    | _ => fault
  | .int n, .int i =>
    let old ← orFault (Data.bit? n i)
    match ← updated s op (.bool old) d with
    | .bool bit => write place (.int (← orFault (Data.withBit? n i bit)))
    | _ => fault
  | _, _ => fault

/-- Assigns to the part of a value that an access means. -/
def assignAccess (s : Surroundings) (place : Option Place) (target : Data) (access : Access)
    (op : Option BinaryOp) (d : Data) : Eval Unit :=
  match access, target.unshare with
  | .property name, .map entries => assignElement s place (.map entries) (.string name) op d
  | .index key, target => assignElement s place target key op d
  | _, _ => fault

end Eval
end ScriptBridge
