/-
  ScriptBridge/Platform/Event.lean
  ================================
  **What happened on a platform, and its document form.**

  An event is an object whose member `kind` tells what happened; the text and
  the image of a button are left out when there is none.
-/
import ScriptBridge.Json.Value
import ScriptBridge.Layout.Geometry

namespace ScriptBridge

/-- One thing that happened on a platform. -/
inductive PlatformEvent where
  | window (size : Size)
  | read (path : String) (found : Bool)
  | button (id : WidgetId) (frame : Frame) (text image : Option String)
  | label (id : WidgetId) (origin : Point) (text : String)
  | input (id : WidgetId) (origin : Point)
  | table (id : WidgetId) (frame : Frame) (values : List Value)
  | place (id : WidgetId) (frame : Frame)
  | setText (id : WidgetId) (text : String)
  | print (text : String)
deriving DecidableEq, Repr

namespace PlatformEvent

/-- The widget that the event is about. -/
def widget? : PlatformEvent → Option WidgetId
  | .button id .. => some id
  | .label id .. => some id
  | .input id _ => some id
  | .table id .. => some id
  | .place id _ => some id
  | .setText id _ => some id
  | _ => none

/-- The event about another widget. -/
def withWidget (id : WidgetId) : PlatformEvent → PlatformEvent
  | .button _ frame text image => .button id frame text image
  | .label _ origin text => .label id origin text
  | .input _ origin => .input id origin
  | .table _ frame values => .table id frame values
  | .place _ frame => .place id frame
  | .setText _ text => .setText id text
  | e => e

def creates : PlatformEvent → Bool
  | .button .. | .label .. | .input .. | .table .. => true
  | _ => false

/-- Events agree when they are alike, floats compared as numbers. -/
def agrees : PlatformEvent → PlatformEvent → Bool
  | .table id frame values, .table id' frame' values' =>
    id == id' && frame == frame' && Value.agrees (.list values) (.list values')
  | a, b => a == b

/-! ### Writing -/

def wordJson (n : Int64) : Json := .number (Numeral.ofInt n.toInt)

def frameMembers (f : Frame) : List (String × Json) :=
  [("x", wordJson f.x), ("y", wordJson f.y), ("width", wordJson f.width),
    ("height", wordJson f.height)]

/-- A member that is left out when there is nothing to say. -/
def optionalMember (name : String) : Option String → List (String × Json)
  | some s => [(name, .string s)]
  | none => []

def kindName : PlatformEvent → String
  | .window _ => "window"
  | .read .. => "read"
  | .button .. => "button"
  | .label .. => "label"
  | .input .. => "input"
  | .table .. => "table"
  | .place .. => "place"
  | .setText .. => "set_text"
  | .print _ => "print"

/-- The members of an event other than its kind; `values` writes the items of a table. -/
def membersWith (values : List Value → Json) : PlatformEvent → List (String × Json)
  | .window size => [("width", wordJson size.width), ("height", wordJson size.height)]
  | .read path found => [("path", .string path), ("found", .bool found)]
  | .button id frame text image =>
    ("id", wordJson id) :: (frameMembers frame ++ optionalMember "text" text ++
      optionalMember "image" image)
  | .label id origin text =>
    [("id", wordJson id), ("x", wordJson origin.x), ("y", wordJson origin.y), ("text", .string text)]
  | .input id origin => [("id", wordJson id), ("x", wordJson origin.x), ("y", wordJson origin.y)]
  | .table id frame items =>
    ("id", wordJson id) :: (frameMembers frame ++ [("values", values items)])
  | .place id frame => ("id", wordJson id) :: frameMembers frame
  | .setText id text => [("id", wordJson id), ("text", .string text)]
  | .print text => [("text", .string text)]

def toJson (e : PlatformEvent) : Json :=
  .object (("kind", .string e.kindName) :: e.membersWith fun items => .array (Value.toJsonItems items))

end PlatformEvent
end ScriptBridge
