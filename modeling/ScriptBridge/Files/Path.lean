/-
  ScriptBridge/Files/Path.lean
  ============================
  **Paths as text and as components.**

  A slash separates the segments of a path.  An empty segment and a dot say
  nothing, except that a path may start with a dot or, when it is absolute, with
  the root.
-/
import ScriptBridge.Text.Parts

namespace ScriptBridge.Path

inductive Component where
  | root
  | current
  | parent
  | named (name : String)
deriving DecidableEq, Repr

/-- The segments between slashes; there is always one. -/
def split : List Char → List (List Char)
  | [] => [[]]
  | c :: cs =>
    if c = '/' then [] :: split cs
    else
      match split cs with
      | [] => [[c]]
      | segment :: rest => (c :: segment) :: rest

def segments (path : String) : List String := (split path.toList).map String.ofList

def isAbsolute (path : String) : Bool := path.toList.head? == some '/'

/-- The component of a segment that is not the first one. -/
def Component.ofSegment (segment : String) : List Component :=
  if segment = "" then [] else if segment = "." then [] else if segment = ".." then [.parent]
  else [.named segment]

def components (path : String) : List Component :=
  match segments path with
  | [] => []
  | first :: rest =>
    let head : List Component :=
      if isAbsolute path then [.root] else if first = "." then [.current]
      else Component.ofSegment first
    head ++ rest.flatMap Component.ofSegment

/-- A path read from a directory; an absolute path stands for itself. -/
def join (base path : String) : String :=
  if isAbsolute path then path
  else if base = "" then path
  else if base.toList.getLast? = some '/' then base ++ path
  else base ++ "/" ++ path

/-- The names to follow from the root to where some segments lead. -/
def lexical (segments : List String) : List String :=
  segments.foldl
    (fun acc s => if s = "" ∨ s = "." then acc else if s = ".." then acc.dropLast else acc ++ [s]) []

/-- Drops the last segments that say nothing. -/
def dropSilent : List String → List String
  | [] => []
  | segment :: rest =>
    match dropSilent rest with
    | [] => if segment = "" ∨ segment = "." then [] else [segment]
    | kept => segment :: kept

/-- The directory of a path: the path without its last component. -/
def parent (path : String) : String :=
  let kept := dropSilent (dropSilent (segments path)).dropLast
  let text := Text.join "/" kept
  if isAbsolute path && text == "" then "/" else text

end ScriptBridge.Path
