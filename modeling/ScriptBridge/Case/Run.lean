/-
  ScriptBridge/Case/Run.lean
  ==========================
  **Finding, reading, replaying and checking recorded cases.**

  A run evaluates the script of the case on a recording platform with the
  listening host, replays the actions, and reports the events with their widgets
  numbered by first appearance.  The first difference from what was expected is
  the one that is told.
-/
import ScriptBridge.Bridge.Echo
import ScriptBridge.Case.Error
import ScriptBridge.Platform.Normal
import ScriptBridge.Platform.Recorder

namespace ScriptBridge

def caseFileName : String := "testcase.json"

/-- The paths of all cases below a directory, in order. -/
def discoverCases (files : FileTree) (root : String) : Except CaseError (List String) :=
  let found :=
    match files.find root with
    | .ok node => node.filesNamed caseFileName root
    | .error _ => []
  if found.isEmpty then .error (.noCases root) else .ok found

def readCase (files : FileTree) (path : String) : Except CaseError TestCase :=
  match files.readText path with
  | .error e => .error (.unreadable path e)
  | .ok text =>
    match (Json.read text).bind TestCase.ofJson? with
    | none => .error (.malformed path)
    | some c => if c.schema = caseSchema then .ok c else .error (.otherSchema c.schema)

/-- The bridge that a case runs on. -/
abbrev RecordingBridge := Bridge Recorder (List (List Value)) EchoClass

/-- A bridge over a recording platform with assets from a directory, and the listening object under
    a name. -/
def recordingBridge (files : FileTree) (engine : Engine) (layout : LayoutConfig) (assets name : String)
    (counters : Counters) : Except ApiError RecordingBridge :=
  Bridge.start (Recorder.platform files) echoHost engine layout (some echoObject) (some name)
    { Recorder.standard with assets := .directory assets } [] counters

namespace TestCase

def replay (index : Nat) (action : CaseAction) (bridge : RecordingBridge) :
    Except CaseError RecordingBridge :=
  match bridge.findWidget action.target with
  | none => .error (.unknownWidget index action.target)
  | some widget =>
    match bridge.dispatch widget.id action.payload with
    | (none, _) => .error (.unbound index action.target)
    | (some .ok, bridge) => .ok bridge
    | (some status, _) => .error (.actionFailed index action.target status)

/-- Replays actions up to the first that fails. -/
def replayAll (index : Nat) : List CaseAction → RecordingBridge → Except CaseError RecordingBridge
  | [], bridge => .ok bridge
  | action :: rest, bridge =>
    match replay index action bridge with
    | .ok bridge => replayAll (index + 1) rest bridge
    | .error e => .error e

/-- Runs a case; the actions are replayed also when its script failed. -/
def run (files : FileTree) (engine : Engine) (counters : Counters) (directory : String) (c : TestCase) :
    Except CaseError RunReport :=
  let path := Path.join directory c.script
  match files.read path with
  | .error e => .error (.unreadable path e)
  | .ok source =>
    match recordingBridge files engine .standard directory c.callbackName counters with
    | .error e => .error (.bridge e)
    | .ok bridge =>
      let (status, bridge) := bridge.evaluate (.bytes source) []
      match replayAll 0 c.actions bridge with
      | .error e => .error e
      | .ok bridge =>
        let recorder := bridge.state.platform
        .ok ⟨status, normalizeWidgets recorder.events, bridge.state.host, c.actions.length⟩

/-- The first event that differs from the expected one, with its position. -/
def firstDifference (index : Nat) :
    List PlatformEvent → List PlatformEvent → Option (Nat × PlatformEvent × PlatformEvent)
  | expected :: es, actual :: as =>
    if expected.agrees actual then firstDifference (index + 1) es as
    else some (index, expected, actual)
  | _, _ => none

def callsAgree (a b : List (List Value)) : Bool :=
  Value.agrees (.list (a.map Value.list)) (.list (b.map Value.list))

/-- Compares a report with what the case expects. -/
def check (c : TestCase) (report : RunReport) : Except CaseError Unit :=
  if report.status.code ≠ c.expectedStatus then .error (.otherStatus c.expectedStatus report.status)
  else if report.events.length ≠ c.expectedEvents.length then
    .error (.otherCount c.expectedEvents.length report.events)
  else
    match firstDifference 0 c.expectedEvents report.events with
    | some (index, expected, actual) => .error (.otherEvent index expected actual)
    | none =>
      match c.expectedCallbacks with
      | none => .ok ()
      | some expected =>
        if callsAgree expected report.callbacks then .ok ()
        else .error (.otherCallbacks expected report.callbacks)

end TestCase

def runCase (files : FileTree) (engine : Engine) (counters : Counters) (directory path : String) :
    Except CaseError RunReport := do
  let c ← readCase files path
  c.run files engine counters directory

/-- Reads the case at a path, runs it in a directory and checks the report. -/
def assertCase (files : FileTree) (engine : Engine) (counters : Counters) (directory path : String) :
    Except CaseError RunReport := do
  let c ← readCase files path
  let report ← c.run files engine counters directory
  c.check report
  return report

end ScriptBridge
