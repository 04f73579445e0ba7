/-
  ScriptBridge/Descriptor/Basic.lean
  ==================================
  **Descriptions of user interfaces.**

  A description is a tree.  A leaf is one platform widget with its attributes, a
  container stacks its children and has at most a name.  What is wrong with a
  part of a description is a `DescriptorError`; in a part below the root it only
  makes a `Warning`, and the part is left out.
-/
import ScriptBridge.Error
import ScriptBridge.Layout.Stack
import ScriptBridge.Text.Parts
import ScriptBridge.Value.Program
import ScriptBridge.Widget.Lifecycle

namespace ScriptBridge

/-- The tag of a node: a widget or a container. -/
inductive Tag where
  | leaf (kind : WidgetKind)
  | container (axis : Axis)
deriving DecidableEq, Repr

namespace Tag

def name : Tag → String
  | .leaf kind => kind.name
  | .container .vertical => "vertical"
  | .container .horizontal => "horizontal"

def all : List Tag :=
  [.container .vertical, .container .horizontal, .leaf .button, .leaf .label, .leaf .input,
    .leaf .table]

def ofName? (name : String) : Option Tag := all.find? fun t => t.name == name

end Tag

/-- What a description says about a widget. -/
structure Attributes where
  name : Option String
  text : Option String
  image : Option String
  logic : Option Program
  list : Option (List Value)
deriving DecidableEq, Repr

def Attributes.none : Attributes := ⟨.none, .none, .none, .none, .none⟩

/-- A description of a user interface. -/
inductive Descriptor where
  | leaf (kind : WidgetKind) (attributes : Attributes)
  | container (axis : Axis) (name : Option String) (children : List Descriptor)
deriving Repr

def Descriptor.tag : Descriptor → Tag
  | .leaf kind _ => .leaf kind
  | .container axis _ _ => .container axis

/-- A part of a description that cannot be used. -/
inductive DescriptorError where
  | notAList (found : String)
  | empty
  | tagNotString (found : String)
  | unknownTag (name : String)
  | badAttribute (name expected found : String)
  | unknownAttribute (name : String)
  | leafChildren (tag : Tag)
  | containerAttribute (tag : Tag) (name : String)
  | unexpectedElement (found : String)
deriving DecidableEq, Repr

def quoted (s : String) : String := "\"" ++ s ++ "\""

def DescriptorError.message : DescriptorError → String
  | .notAList found => "descriptor must be a list, found " ++ found
  | .empty => "descriptor is empty"
  | .tagNotString found => "descriptor tag must be a string, found " ++ found
  | .unknownTag name => "unknown tag " ++ quoted name
  | .badAttribute name expected found =>
    "attribute " ++ quoted name ++ " expects " ++ expected ++ ", found " ++ found
  | .unknownAttribute name => "unknown attribute " ++ quoted name
  | .leafChildren tag => "leaf " ++ quoted tag.name ++ " cannot have children"
  | .containerAttribute tag name =>
    "container " ++ quoted tag.name ++ " ignores attribute " ++ quoted name
  | .unexpectedElement found => "unexpected " ++ found ++ " element"

/-- A part that was left out: the tags from the root down to its node, its position in the node if it
    is an element, and what is wrong with it. -/
structure Warning where
  path : List Tag
  index : Option Nat
  error : DescriptorError
deriving DecidableEq, Repr

def Warning.message (w : Warning) : String :=
  let path := Text.join "/" (w.path.map Tag.name)
  let place :=
    match w.index with
    | some i => path ++ "[" ++ natText i ++ "]"
    | none => path
  place ++ ": " ++ w.error.message

end ScriptBridge
