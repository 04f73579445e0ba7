/-
  ScriptBridge/Case/Error.lean
  ============================
  **What can go wrong with a recorded case.**

  Some errors are about the files of the case, some about replaying its actions,
  and some say how the run differs from what was expected.
-/
import ScriptBridge.Case.Basic

namespace ScriptBridge

/-- Why a case did not pass. -/
inductive CaseError where
  | unreadable (path : String) (e : ReadError)
  | malformed (path : String)
  | otherSchema (found : String)
  | noCases (path : String)
  | bridge (e : ApiError)
  | unknownWidget (action : Nat) (name : String)
  /-- The widget of an action has no logic. -/
  | unbound (action : Nat) (name : String)
  | actionFailed (action : Nat) (name : String) (status : Status)
  | otherStatus (expected : Int64) (actual : Status)
  | otherCount (expected : Nat) (actual : List PlatformEvent)
  | otherEvent (index : Nat) (expected actual : PlatformEvent)
  | otherCallbacks (expected actual : List (List Value))
deriving DecidableEq, Repr

namespace CaseError

/-- The document of a list of calls. -/
def callsJson (calls : List (List Value)) : Json :=
  .array (calls.map fun call => .array (Value.toJsonItems call))

def message : CaseError → String
  | .unreadable path e => "Failed to read file " ++ path ++ ": " ++ e.message
  | .malformed path => "Failed to parse testcase " ++ path
  | .otherSchema found =>
    "Invalid testcase schema version " ++ quoted found ++ ", expected " ++ quoted caseSchema ++ "."
  | .noCases path => "No testcase.json files under " ++ path ++ "."
  | .bridge e => "Bridge error: " ++ e.message
  | .unknownWidget action name =>
    "Action " ++ natText action ++ ": no widget named \"" ++ name ++ "\"."
  | .unbound action name =>
    "Action " ++ natText action ++ ": widget \"" ++ name ++ "\" has no logic bound."
  | .actionFailed action name status =>
    "Action " ++ natText action ++ ": logic of \"" ++ name ++ "\" finished with status " ++
      Word.text status.code ++ "."
  | .otherStatus expected actual =>
    "Expected status " ++ Word.text expected ++ ", actual " ++ Word.text actual.code ++ "."
  | .otherCount expected actual =>
    "Expected event count " ++ natText expected ++ ", actual " ++ natText actual.length ++
      ". observed=" ++ (Json.array (actual.map PlatformEvent.toJson)).prettyText
  | .otherEvent index expected actual =>
    "Event mismatch at index " ++ natText index ++ ". expected=" ++ expected.toJson.text ++
      " actual=" ++ actual.toJson.text
  | .otherCallbacks expected actual =>
    "Callback calls differ. expected=" ++ (callsJson expected).text ++ " actual=" ++
      (callsJson actual).text

def code : CaseError → String
  | .unreadable .. => "TOOL_READ_FILE"
  | .malformed _ => "TOOL_PARSE_CASE"
  | .otherSchema _ => "TOOL_SCHEMA_VERSION"
  | .noCases _ => "TOOL_CASES_EMPTY"
  | .bridge e => e.code
  | .unknownWidget .. => "TOOL_UNKNOWN_WIDGET"
  | .unbound .. => "TOOL_ACTION_UNBOUND"
  | .actionFailed .. => "TOOL_ACTION_FAILED"
  | .otherStatus .. => "TOOL_STATUS_MISMATCH"
  | .otherCount .. => "TOOL_EVENT_COUNT"
  | .otherEvent .. => "TOOL_EVENT_MISMATCH"
  | .otherCallbacks .. => "TOOL_CALLBACK_MISMATCH"

end CaseError
end ScriptBridge
