/-
  ScriptBridge/Platform/EventReader.lean
  ======================================
  **Reading events from documents.**

  Every number of the document must be in range, also where it is not used.
-/
import ScriptBridge.Json.Record
import ScriptBridge.Platform.Event

namespace ScriptBridge.PlatformEvent

def frame? (m : List (String × Json)) : Option Frame := do
  let x ← Json.word? "x" m
  let y ← Json.word? "y" m
  let width ← Json.word? "width" m
  let height ← Json.word? "height" m
  some ⟨x, y, width, height⟩

def point? (m : List (String × Json)) : Option Point := do
  let x ← Json.word? "x" m
  let y ← Json.word? "y" m
  some ⟨x, y⟩

/-- The names of the members of each kind of event, in their declared order. -/
def memberNames (kind : String) : List String :=
  if kind = "window" then ["width", "height"]
  else if kind = "read" then ["path", "found"]
  else if kind = "button" then ["id", "x", "y", "width", "height", "text", "image"]
  else if kind = "label" then ["id", "x", "y", "text"]
  else if kind = "input" then ["id", "x", "y"]
  else if kind = "table" then ["id", "x", "y", "width", "height", "values"]
  else if kind = "place" then ["id", "x", "y", "width", "height"]
  else if kind = "set_text" then ["id", "text"]
  else ["text"]

/-- The event of a kind with the given members. -/
def ofMembers? (kind : String) (m : List (String × Json)) : Option PlatformEvent :=
  if kind = "window" then do
    let width ← Json.word? "width" m
    let height ← Json.word? "height" m
    some (.window ⟨width, height⟩)
  else if kind = "read" then do
    let path ← Json.text? "path" m
    let found ← Json.flag? "found" m
    some (.read path found)
  else if kind = "button" then do
    let id ← Json.word? "id" m
    let frame ← frame? m
    let text ← Json.optionalText? "text" m
    let image ← Json.optionalText? "image" m
    some (.button id frame text image)
  else if kind = "label" then do
    let id ← Json.word? "id" m
    let origin ← point? m
    let text ← Json.text? "text" m
    some (.label id origin text)
  else if kind = "input" then do
    let id ← Json.word? "id" m
    let origin ← point? m
    some (.input id origin)
  else if kind = "table" then do
    let id ← Json.word? "id" m
    let frame ← frame? m
    let items ← Json.items? "values" m
    let values ← Json.toValueItems? items
    some (.table id frame values)
  else if kind = "place" then do
    let id ← Json.word? "id" m
    let frame ← frame? m
    some (.place id frame)
  else if kind = "set_text" then do
    let id ← Json.word? "id" m
    let text ← Json.text? "text" m
    some (.setText id text)
  else if kind = "print" then do
    let text ← Json.text? "text" m
    some (.print text)
  else none

def ofJson? (j : Json) : Option PlatformEvent := do
  let _ ← j.toValue?
  let (kind, body) ← j.tagged? "kind"
  let m ← body.record? (memberNames kind)
  ofMembers? kind m

def ofJsonAll? : List Json → Option (List PlatformEvent)
  | [] => some []
  | j :: rest => do
    let e ← ofJson? j
    let es ← ofJsonAll? rest
    some (e :: es)

end ScriptBridge.PlatformEvent
