/-
  ScriptBridge/Rehearsal/Logic.lean
  =================================
  **A tiny language for the logic of widgets.**

  A text is commands between semicolons.  They register, remove and fire
  bindings, so that what happens to the registry while a binding runs can be
  tried out without a script.  Every run is noted before what it fires.
-/
import ScriptBridge.Callback.Registry
import ScriptBridge.Number.Word
import ScriptBridge.Text.Parts

namespace ScriptBridge.Rehearsal

/-- The registry, and the runs so far with the binding and event of each. -/
structure Firing where
  registry : CallbackRegistry
  runs : List (CallbackBinding × Value)

/-- The words of a command. -/
def wordsOf (cs : List Char) : List (List Char) :=
  cs.foldr
    (fun c acc =>
      if Text.isBlankChar c then [] :: acc
      else
        match acc with
        | [] => [[c]]
        | word :: rest => (c :: word) :: rest)
    [[]] |>.filter fun word => !word.isEmpty

/-- The commands of a text. -/
def commands (text : String) : List (List String) :=
  let parts := text.toList.foldr
    (fun c acc =>
      if c = ';' then [] :: acc
      else
        match acc with
        | [] => [[c]]
        | part :: rest => (c :: part) :: rest)
    [[]]
  parts.map fun part => (wordsOf part).map String.ofList

/-- The logic that a command gives to a new binding. -/
def logicText (words : List String) : String :=
  String.ofList ((Text.join " " words).toList.map fun c => if c = ',' then ';' else c)

/-- Follows one command of a running binding; `fire` runs another binding. -/
def follow (fire : WidgetId → Value → Firing → Option Int64 × Firing) (binding : CallbackBinding)
    (event : Value) (command : List String) (status : Int64) (f : Firing) : Int64 × Firing :=
  match command with
  | "reg" :: n :: rest =>
    match Word.ofText? n with
    | some id =>
      let new := { binding with widget := id, logic := .source (logicText rest) }
      (status, { f with registry := f.registry.register new })
    | none => (status, f)
  | "rm" :: n :: _ =>
    match Word.ofText? n with
    | some id => (status, { f with registry := f.registry.remove id })
    | none => (status, f)
  | "ret" :: n :: _ => ((Word.ofText? n).getD status, f)
  | "fire" :: n :: _ =>
    match Word.ofText? n with
    | some id =>
      let (result, f) := fire id event f
      (result.getD (-1), f)
    | none => (status, f)
  | _ => (status, f)

/-- Fires a widget; the fuel bounds how deeply bindings fire each other. -/
def fire : Nat → WidgetId → Value → Firing → Option Int64 × Firing
  | 0, _, _, f => (none, f)
  | fuel + 1, id, event, f =>
    match f.registry.fire id event fun binding event => (binding, event) with
    | none => (none, f)
    | some (binding, event) =>
      let f := { f with runs := f.runs ++ [(binding, event)] }
      match binding.logic.decode with
      | .error _ => (some 1, f)
      | .ok text =>
        let (status, f) := (commands text).foldl
          (fun (status, f) command => follow (fire fuel) binding event command status f) (0, f)
        (some status, f)

end ScriptBridge.Rehearsal
