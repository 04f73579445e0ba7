/-
  ScriptBridge/Platform/Recorder.lean
  ===================================
  **A platform without a screen, which records what is asked of it.**

  Every successful call and every read becomes an event.  Text is measured by
  its characters.  Assets come from memory or from a directory that no asset
  path leaves.
-/
import ScriptBridge.Platform.Basic
import ScriptBridge.Platform.Event

namespace ScriptBridge

/-- Where assets come from. -/
inductive Assets where
  | memory (entries : List (String × String))
  | directory (path : String)
deriving DecidableEq, Repr

/-- The state of a recording platform. -/
structure Recorder where
  window : Size
  assets : Assets
  /-- The widgets created so far. -/
  created : List WidgetId
  /-- The events since they were last taken. -/
  events : List PlatformEvent
deriving DecidableEq, Repr

namespace Recorder

/-- A recorder with the usual window and no assets. -/
def standard : Recorder := ⟨⟨600, 800⟩, .memory [], [], []⟩

/-- Adds an asset in memory; an assets directory is given up. -/
def withAsset (r : Recorder) (path content : String) : Recorder :=
  match r.assets with
  | .memory entries => { r with assets := .memory (Assoc.insert path content entries) }
  | .directory _ => { r with assets := .memory [(path, content)] }

/-- The events recorded so far, which are no longer held. -/
def takeEvents (r : Recorder) : List PlatformEvent × Recorder := (r.events, { r with events := [] })

def record (r : Recorder) (e : PlatformEvent) : Recorder := { r with events := r.events ++ [e] }

/-- Records the creation of a widget. -/
def recordCreation (r : Recorder) (id : WidgetId) (e : PlatformEvent) : Recorder :=
  { r with created := id :: r.created, events := r.events ++ [e] }

/-! ### Assets -/

/-- The path of an asset in its directory. -/
def resolve (directory path : String) : Except ReadError String :=
  if Path.isAbsolute path || (Path.components path).contains .parent then .error (.outside path)
  else .ok (Path.join directory path)

def load (files : FileTree) (assets : Assets) (path : String) : Except ReadError String :=
  match assets with
  | .memory entries =>
    match Assoc.find? path entries with
    | some content => .ok content
    | none => .error (.noAsset path)
  | .directory directory =>
    match resolve directory path with
    | .ok path => files.readText path
    | .error e => .error e

def hasAsset (files : FileTree) (assets : Assets) (path : String) : Bool :=
  match assets with
  | .memory entries => Assoc.contains path entries
  | .directory directory =>
    match resolve directory path with
    | .ok path => files.holdsFile path
    | .error _ => false

/-! ### Measures -/

/-- Borders and insets around a widget's content. -/
def border : Int := 30

def charWidth : Int := 8

def lineHeight : Int := 16

def rowHeight : Int := 24

def imageEdge : Int := 48

/-- The size of a widget that shows a text. -/
def textSize (text : String) : Size :=
  Size.clamped (Int64.ofInt (text.length * charWidth + border)) (Int64.ofInt (lineHeight + border))

/-- The size of a widget that shows an image. -/
def imageSize : Size :=
  Size.clamped (Int64.ofInt (imageEdge + border)) (Int64.ofInt (imageEdge + border))

/-- A side as asked for, or its natural length when nothing is asked for. -/
def measured (hint natural : Int64) : Int64 := if 0 < hint then hint else natural

def halfWindow (r : Recorder) : Int64 := Int64.ofInt (r.window.width.toInt.tdiv 2)

def buttonSize (text image : Option String) : Size :=
  match text, image with
  | some text, _ => textSize text
  | none, some _ => imageSize
  | none, none => textSize ""

/-! ### Operations -/

/-- Creates a widget; only a button with an unknown image is refused. -/
def create (files : FileTree) (id : WidgetId) (plan : Blueprint) (r : Recorder) :
    Except PlatformError Size × Recorder :=
  match plan with
  | .button frame text image =>
    match image.filter fun path => !hasAsset files r.assets path with
    | some path => (.error ⟨"button", "image " ++ path ++ " not found"⟩, r)
    | none =>
      let natural := buttonSize text image
      let size := Size.clamped (measured frame.width natural.width) (measured frame.height natural.height)
      (.ok size, r.recordCreation id (.button id (Frame.of frame.origin size) text image))
  | .label origin text => (.ok (textSize text), r.recordCreation id (.label id origin text))
  | .input origin =>
    (.ok (Size.clamped r.halfWindow (Int64.ofInt (lineHeight + border))),
      r.recordCreation id (.input id origin))
  | .table frame values =>
    let size := Size.clamped (measured frame.width r.halfWindow)
      (measured frame.height (Int64.ofInt (values.length * rowHeight)))
    (.ok size, r.recordCreation id (.table id (Frame.of frame.origin size) values))

/-- Runs an operation on a widget, which must have been created. -/
def onWidget (operation : String) (id : WidgetId) (e : PlatformEvent) (r : Recorder) :
    Except PlatformError Unit × Recorder :=
  if r.created.contains id then (.ok (), r.record e)
  else (.error ⟨operation, "no widget " ++ Word.text id⟩, r)

/-- The recording platform over a tree of files. -/
def platform (files : FileTree) : Platform Recorder where
  read path r :=
    let result := load files r.assets path
    (result, r.record (.read path result.toBool))
  window _ _ r := (r.window, r.record (.window r.window))
  create := create files
  place id frame := onWidget "place" id (.place id frame)
  setText id text := onWidget "set_text" id (.setText id text)
  print text r := r.record (.print text)

end Recorder
end ScriptBridge
