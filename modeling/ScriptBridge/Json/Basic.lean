/-
  ScriptBridge/Json/Basic.lean
  ============================
  **Documents.**

  A document is a tree of JSON nodes.  Members of an object stay in the order
  and with the repetitions of the text.  A number is its literal (`Numeral`):
  what it means, and whether it is in range, is decided where it is used.  So is
  whether a string is one that no text stands for (`illFormed`).
-/

namespace ScriptBridge

/-- A number literal, taken apart.  All parts are decimal digits. -/
structure Numeral where
  negative : Bool
  whole : List Char
  /-- The digits after the point; empty when there is no point. -/
  fraction : List Char
  /-- The sign character, if any, and the digits of the exponent. -/
  exponent : Option (Option Char × List Char)
deriving DecidableEq, Repr

/-- A JSON document. -/
inductive Json where
  | null
  | bool (b : Bool)
  | number (n : Numeral)
  | string (s : String)
  | array (items : List Json)
  | object (members : List (String × Json))
  /-- A string with half of a surrogate pair in it, or an object with such a key. -/
  | illFormed
deriving Repr, Inhabited

namespace Json

mutual

/-- The largest number of arrays and objects that enclose one another, the node itself included. -/
def nesting : Json → Nat
  | .array items => nestingItems items + 1
  | .object members => nestingMembers members + 1
  | _ => 0

def nestingItems : List Json → Nat
  | [] => 0
  | j :: rest => max (nesting j) (nestingItems rest)

def nestingMembers : List (String × Json) → Nat
  | [] => 0
  | (_, j) :: rest => max (nesting j) (nestingMembers rest)

end

/-- Every member under a name, in order. -/
def members (name : String) : List (String × Json) → List Json
  | [] => []
  | (k, j) :: rest => if k = name then j :: members name rest else members name rest

end Json
end ScriptBridge
