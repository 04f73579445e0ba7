/-
  ScriptBridge/Descriptor/Reader.lean
  ===================================
  **Reading a description from a value.**

  A description is a list: a tag, then maps of attributes and, in a container,
  the descriptions of the children.  Later attributes override earlier ones, and
  a blank logic takes an earlier one back.  Only the root can make reading fail;
  below it every fault becomes a warning.
-/
import ScriptBridge.Descriptor.Basic
import ScriptBridge.Value.Text

namespace ScriptBridge

namespace Attributes

/-- The attributes with one of them read from a value. -/
def set (a : Attributes) (key : String) (v : Value) : Except DescriptorError Attributes :=
  let bad (expected : String) : DescriptorError := .badAttribute key expected v.typeName
  if key = "name" then
    match v with
    | .string s => .ok { a with name := some s }
    | _ => .error (bad "string")
  else if key = "text" then
    match v with
    | .string s => .ok { a with text := some s }
    | .int n => .ok { a with text := some (Value.int n).text }
    | .float d => .ok { a with text := some (Value.float d).text }
    | .bool b => .ok { a with text := some (Value.bool b).text }
    | _ => .error (bad "string")
  else if key = "image" then
    match v with
    | .string s => .ok { a with image := some s }
    | _ => .error (bad "string")
  else if key = "logic" then
    match Program.Logic.ofValue v with
    | .absent => .ok { a with logic := Option.none }
    | .present program => .ok { a with logic := some program }
    | .unreadable _ => .error (bad "string or bytes")
  else if key = "list" then
    match v with
    | .list items => .ok { a with list := some items }
    | _ => .error (bad "list")
  else .error (.unknownAttribute key)

/-- The attributes after all entries of a map, and the faults of the entries left out. -/
def setAll (a : Attributes) : List (String × Value) → Attributes × List DescriptorError
  | [] => (a, [])
  | (key, v) :: rest =>
    match a.set key v with
    | .ok a => a.setAll rest
    | .error e =>
      let (a, faults) := a.setAll rest
      (a, e :: faults)

/-- The names of the attributes that a container has no use for. -/
def unusedByContainer (a : Attributes) : List String :=
  (if a.text.isSome then ["text"] else []) ++ (if a.image.isSome then ["image"] else []) ++
    (if a.logic.isSome then ["logic"] else []) ++ (if a.list.isSome then ["list"] else [])

end Attributes

namespace Descriptor

/-- What the elements after the tag amount to. -/
structure Body where
  attributes : Attributes
  children : List Descriptor
  warnings : List Warning

/-- The node of a tag and its elements. -/
def Body.toNode (path : List Tag) (body : Body) : Tag → Descriptor × List Warning
  | .leaf kind => (.leaf kind body.attributes, body.warnings)
  | .container axis =>
    (.container axis body.attributes.name body.children,
      body.warnings ++ body.attributes.unusedByContainer.map fun name =>
        ⟨path, none, .containerAttribute (.container axis) name⟩)

mutual

/-- Reads a node below the given tags. -/
def readNode (above : List Tag) : Value → Except DescriptorError (Descriptor × List Warning)
  | .list (.string name :: items) =>
    match Tag.ofName? name with
    | some tag =>
      let path := above ++ [tag]
      .ok ((readItems path tag 1 Attributes.none items).toNode path tag)
    | none => .error (.unknownTag name)
  | .list (v :: _) => .error (.tagNotString v.typeName)
  | .list [] => .error .empty
  | v => .error (.notAList v.typeName)

/-- Reads the elements of a node from a position on. -/
def readItems (path : List Tag) (tag : Tag) : Nat → Attributes → List Value → Body
  | _, a, [] => ⟨a, [], []⟩
  | index, a, item :: rest =>
    match item with
    | .map entries =>
      let (a, faults) := a.setAll entries
      let body := readItems path tag (index + 1) a rest
      { body with warnings := faults.map (fun e => ⟨path, none, e⟩) ++ body.warnings }
    | .list _ =>
      let body := readItems path tag (index + 1) a rest
      match tag with
      | .leaf _ => { body with warnings := ⟨path, some index, .leafChildren tag⟩ :: body.warnings }
      | .container _ =>
        match readNode path item with
        | .ok (child, warnings) =>
          { body with children := child :: body.children, warnings := warnings ++ body.warnings }
        | .error e => { body with warnings := ⟨path, some index, e⟩ :: body.warnings }
    | v =>
      let body := readItems path tag (index + 1) a rest
      { body with warnings := ⟨path, some index, .unexpectedElement v.typeName⟩ :: body.warnings }

end

/-- Reads a description; the warnings tell what was left out, in order. -/
def ofValue (v : Value) : Except DescriptorError (Descriptor × List Warning) := readNode [] v

end Descriptor
end ScriptBridge
