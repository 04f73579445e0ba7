/-
  ScriptBridge/Json/Record.lean
  =============================
  **Records in documents.**

  A record is an object with members of known names, or an array with the
  members in their declared order, where the last ones may be left out.  Unknown
  members of an object are ignored; a known one must not occur twice.
-/
import ScriptBridge.Json.Value

namespace ScriptBridge.Json

/-- The members of an object that have known names; none if one of them occurs twice. -/
def knownMembers : List String → List (String × Json) → Option (List (String × Json))
  | [], _ => some []
  | name :: names, all =>
    match members name all, knownMembers names all with
    | [], some rest => some rest
    | [j], some rest => some ((name, j) :: rest)
    | _, _ => none

/-- Names the items of an array in order; none if there are more items than names. -/
def nameItems : List String → List Json → Option (List (String × Json))
  | _, [] => some []
  | [], _ :: _ => none
  | name :: names, j :: rest => (nameItems names rest).map ((name, j) :: ·)

/-- The members of a record. -/
def record? (names : List String) : Json → Option (List (String × Json))
  | .object all => knownMembers names all
  | .array items => nameItems names items
  | _ => none

/-- The tag of a record and its other members. -/
def tagged? (tag : String) : Json → Option (String × Json)
  | .object all =>
    match members tag all with
    | [.string kind] => some (kind, .object (all.filter fun m => m.1 ≠ tag))
    | _ => none
  | .array (.string kind :: items) => some (kind, .array items)
  | _ => none

/-! ### Required and optional members -/

def word? (name : String) (record : List (String × Json)) : Option Int64 :=
  match Assoc.find? name record with
  | some (.number n) => n.toWord?
  | _ => none

def text? (name : String) (record : List (String × Json)) : Option String :=
  match Assoc.find? name record with
  | some (.string s) => some s
  | _ => none

def flag? (name : String) (record : List (String × Json)) : Option Bool :=
  match Assoc.find? name record with
  | some (.bool b) => some b
  | _ => none

def items? (name : String) (record : List (String × Json)) : Option (List Json) :=
  match Assoc.find? name record with
  | some (.array items) => some items
  | _ => none

/-- A text that may be left out or null. -/
def optionalText? (name : String) (record : List (String × Json)) : Option (Option String) :=
  match Assoc.find? name record with
  | none | some .null => some none
  | some (.string s) => some (some s)
  | _ => none

/-- A text that may be left out, but not null. -/
def textOr? (standard name : String) (record : List (String × Json)) : Option String :=
  match Assoc.find? name record with
  | none => some standard
  | some (.string s) => some s
  | _ => none

/-- An array that may be left out, but not null. -/
def itemsOr? (name : String) (record : List (String × Json)) : Option (List Json) :=
  match Assoc.find? name record with
  | none => some []
  | some (.array items) => some items
  | _ => none

end ScriptBridge.Json
