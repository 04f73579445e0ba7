/-
  ScriptBridge/Case/Basic.lean
  ============================
  **Recorded cases and their documents.**

  A case names a script, the actions to replay after it, and what a run is
  expected to show.  Most members of its document may be left out.  Every
  member that a case has must be well formed and not nested too deeply; members
  that it does not have are not looked at.
-/
import ScriptBridge.Bridge.Api
import ScriptBridge.Json.Printer
import ScriptBridge.Json.Reader
import ScriptBridge.Platform.EventReader

namespace ScriptBridge

/-- The schema that is read. -/
def caseSchema : String := "hb-tool-case.v1"

/-- An action on a named widget. -/
inductive CaseAction where
  | click (name : String)
  | event (name : String) (payload : Value)
deriving DecidableEq, Repr

namespace CaseAction

def target : CaseAction → String
  | .click name => name
  | .event name _ => name

/-- What the widget's logic is told; a click has nothing to tell. -/
def payload : CaseAction → Value
  | .click _ => .nil
  | .event _ payload => payload

end CaseAction

/-- A recorded case. -/
structure TestCase where
  schema : String
  script : String
  callbackName : String
  actions : List CaseAction
  expectedStatus : Int64
  expectedEvents : List PlatformEvent
  /-- The arguments of every call of the callback object, when the case expects any in particular. -/
  expectedCallbacks : Option (List (List Value))
deriving DecidableEq, Repr

/-- What a run of a case showed. -/
structure RunReport where
  status : Status
  events : List PlatformEvent
  callbacks : List (List Value)
  /-- How many actions were replayed. -/
  consumed : Nat
deriving DecidableEq, Repr

/-! ### Documents -/

/-- Reads every document of a list. -/
def readAll {α : Type} (read : Json → Option α) : List Json → Option (List α)
  | [] => some []
  | j :: rest =>
    match read j, readAll read rest with
    | some a, some as => some (a :: as)
    | _, _ => none

def CaseAction.ofJson? (j : Json) : Option CaseAction := do
  let _ ← j.toValue?
  let (kind, body) ← j.tagged? "kind"
  if kind = "click" then
    let m ← body.record? ["name"]
    let name ← Json.text? "name" m
    some (.click name)
  else if kind = "event" then
    let m ← body.record? ["name", "payload"]
    let name ← Json.text? "name" m
    let payload ←
      match Assoc.find? "payload" m with
      | some p => p.toValue?
      | none => some .nil
    some (.event name payload)
  else none

def valuesOf? : Json → Option (List Value)
  | .array items => Json.toValueItems? items
  | _ => none

/-- The call lists of a case; null is the same as none. -/
def callbacks? (m : List (String × Json)) : Option (Option (List (List Value))) :=
  match Assoc.find? "expectedCallbacks" m with
  | none | some .null => some none
  | some (.array items) => (readAll valuesOf? items).map some
  | _ => none

/-- A status of 32 bits, which may be left out. -/
def status? (m : List (String × Json)) : Option Int64 :=
  match Assoc.find? "expectedStatus" m with
  | none => some 0
  | some (.number n) => n.toWord?.filter fun w => decide (-2147483648 ≤ w) && decide (w ≤ 2147483647)
  | _ => none

namespace TestCase

/-- The members of a case in their declared order. -/
def memberNames : List String :=
  ["schemaVersion", "script", "callbackName", "actions", "expectedStatus", "expectedEvents",
    "expectedCallbacks"]

def ofJson? (j : Json) : Option TestCase := do
  let m ← j.record? memberNames
  if m.any fun e => decide (Json.nestingLimit < e.2.nesting + 1) then none
  else
    let schema ← Json.text? "schemaVersion" m
    let script ← Json.textOr? "main.rhai" "script" m
    let callbackName ← Json.textOr? "tc" "callbackName" m
    let actions ← (Json.itemsOr? "actions" m).bind (readAll CaseAction.ofJson?)
    let expectedStatus ← status? m
    let expectedEvents ← (Json.itemsOr? "expectedEvents" m).bind PlatformEvent.ofJsonAll?
    let expectedCallbacks ← callbacks? m
    some ⟨schema, script, callbackName, actions, expectedStatus, expectedEvents, expectedCallbacks⟩

end TestCase
end ScriptBridge
