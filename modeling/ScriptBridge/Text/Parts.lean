/-
  ScriptBridge/Text/Parts.lean
  ============================
  **Texts joined and taken apart.**

  A text is split where a separator stands, scanned from the left, so that
  separators never overlap.  Its lines end at a newline, which a carriage return
  may precede; a newline at the end of the text starts no further line.
-/

namespace ScriptBridge.Text

/-- The texts of some parts with a separator between each two. -/
def join (separator : String) : List String → String
  | [] => ""
  | [s] => s
  | s :: rest => s ++ separator ++ join separator rest

/-- The parts of a text between the places where a separator, not empty, stands; the fuel covers
    every character, and the part that is being read comes in reverse. -/
def splitFrom (separator : List Char) : Nat → List Char → List Char → List (List Char)
  | 0, part, cs => [part.reverse ++ cs]
  | _ + 1, part, [] => [part.reverse]
  | fuel + 1, part, c :: cs =>
    if separator.isPrefixOf (c :: cs) then
      part.reverse :: splitFrom separator fuel [] ((c :: cs).drop separator.length)
    else splitFrom separator fuel (c :: part) cs

/-- The parts of a text between the places where a separator, not empty, stands. -/
def splitAt (separator cs : List Char) : List (List Char) :=
  splitFrom separator (cs.length + 1) [] cs

/-- The parts of a text; an empty separator stands around every character. -/
def split (separator text : String) : List String :=
  let cs := text.toList
  let parts :=
    if separator.isEmpty then [[]] ++ cs.map ([·]) ++ [[]] else splitAt separator.toList cs
  parts.map String.ofList

/-- The text without the places where a part stands. -/
def without (part text : String) : String :=
  if part.isEmpty then text else String.ofList (splitAt part.toList text.toList).flatten

/-- A list holds a character sequence somewhere. -/
def holds (inner : List Char) : List Char → Bool
  | [] => inner.isEmpty
  | c :: cs => inner.isPrefixOf (c :: cs) || holds inner cs

/-- The lines of a text; the line that is being read comes in reverse. -/
def linesFrom : List Char → List Char → List (List Char)
  | [], [] => []
  | line, [] => [line.reverse]
  | line, c :: cs =>
    if c = '\n' then
      match line with
      | '\r' :: line => line.reverse :: linesFrom [] cs
      | line => line.reverse :: linesFrom [] cs
    else linesFrom (c :: line) cs

def lines (text : String) : List String := (linesFrom [] text.toList).map String.ofList

end ScriptBridge.Text
