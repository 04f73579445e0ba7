/-
  ScriptBridge/CommandLine/Run.lean
  =================================
  **The transcript of a run.**

  A run evaluates a script and then clicks widgets by name.  After each
  evaluation the transcript has the events and the calls that were seen, and a
  line about the evaluation itself.  It ends with the result.
-/
import ScriptBridge.Case.Run
import ScriptBridge.CommandLine.Arguments
import ScriptBridge.Text.Parts

namespace ScriptBridge.CommandLine

/-- A line of the transcript. -/
inductive Line where
  | event (e : PlatformEvent)
  | callback (call : List Value)
  /-- The script ended. -/
  | status (s : Status)
  /-- A widget was clicked; it may have no logic. -/
  | click (name : String) (outcome : Option Status)
  | success
  | failure
  | errorCode (code : String)
  | errorMessage (message : String)
deriving DecidableEq, Repr

def Line.text : Line → String
  | .event e => "EVENT:" ++ e.toJson.text
  | .callback call => "CALLBACK:" ++ (Json.array (Value.toJsonItems call)).text
  | .status s => "STATUS:" ++ Word.text s.code
  | .click name (some s) => "CLICK:" ++ name ++ ":" ++ Word.text s.code
  | .click name none => "CLICK:" ++ name ++ ":unbound"
  | .success => "RESULT:OK"
  | .failure => "RESULT:ERROR"
  | .errorCode code => "ERROR_CODE:" ++ code
  | .errorMessage message => "ERROR_MSG_JSON:" ++ (Json.string message).text

/-- Why a run did not succeed. -/
inductive RunError where
  | missing (path : String)
  | notFile (path : String)
  | unreadable (e : ReadError)
  | bridge (e : ApiError)
  | status (s : Status)
  | unknownWidget (name : String)
deriving DecidableEq, Repr

namespace RunError

def code : RunError → String
  | .missing _ => "CLI_SCRIPT_NOT_FOUND"
  | .notFile _ => "CLI_SCRIPT_NOT_FILE"
  | .unreadable _ => "CLI_SCRIPT_READ"
  | .bridge e => e.code
  | .status _ => "CLI_SCRIPT_STATUS"
  | .unknownWidget _ => "CLI_CLICK_UNKNOWN"

def message : RunError → String
  | .missing path => "script does not exist: " ++ path
  | .notFile path => "script is not a file: " ++ path
  | .unreadable e => e.message
  | .bridge e => e.message
  | .status s => "script finished with status " ++ Word.text s.code
  | .unknownWidget name => "No widget named \"" ++ name ++ "\"."

end RunError

/-- The events and calls since they were last taken, as lines, and the bridge without them. -/
def takeLines (bridge : RecordingBridge) : List Line × RecordingBridge :=
  let (events, recorder) := bridge.state.platform.takeEvents
  (events.map Line.event ++ bridge.state.host.map Line.callback,
    { bridge with state := { bridge.state with platform := recorder, host := [] } })

/-- Clicks widgets up to the first that is unknown or whose logic fails. -/
def clickAll : List String → RecordingBridge → List Line × Except RunError Unit
  | [], _ => ([], .ok ())
  | name :: rest, bridge =>
    match bridge.findWidget name with
    | none => ([], .error (.unknownWidget name))
    | some widget =>
      match bridge.dispatch widget.id .nil with
      | (none, bridge) =>
        let (lines, result) := clickAll rest bridge
        (.click name none :: lines, result)
      | (some status, bridge) =>
        let (seen, bridge) := takeLines bridge
        let block := seen ++ [.click name (some status)]
        if status = .ok then
          let (lines, result) := clickAll rest bridge
          (block ++ lines, result)
        else (block, .error (.status status))

/-- Evaluates a script and clicks widgets. -/
def play (source : Program) (clicks : List String) (bridge : RecordingBridge) :
    List Line × Except RunError Unit :=
  let (status, bridge) := bridge.evaluate source []
  let (seen, bridge) := takeLines bridge
  let block := seen ++ [.status status]
  if status = .ok then
    let (lines, result) := clickAll clicks bridge
    (block ++ lines, result)
  else (block, .error (.status status))

def readScript (files : FileTree) (path : String) : Except RunError (List UInt8) :=
  if !files.holds path then .error (.missing path)
  else if !files.holdsFile path then .error (.notFile path)
  else (files.read path).mapError .unreadable

/-- The distances that the arguments ask for. -/
def Arguments.layout (a : Arguments) : LayoutConfig :=
  ⟨a.spacing.getD LayoutConfig.standard.spacing, a.padding.getD LayoutConfig.standard.padding⟩

/-- The path of the script, from the working directory. -/
def Arguments.scriptPath (a : Arguments) (directory : String) : String := Path.join directory a.script

/-- The assets directory: by default the one that the script lies in. -/
def Arguments.assetsPath (a : Arguments) (directory : String) : String :=
  match a.assets with
  | some path => Path.join directory path
  | none => Path.parent (a.scriptPath directory)

/-- Runs what the arguments say. -/
def Arguments.run (a : Arguments) (files : FileTree) (engine : Engine) (counters : Counters)
    (directory : String) : List Line × Except RunError Unit :=
  match readScript files (a.scriptPath directory) with
  | .error e => ([], .error e)
  | .ok source =>
    match recordingBridge files engine a.layout (a.assetsPath directory) a.callbackName counters with
    | .error e => ([], .error (.bridge e))
    | .ok bridge => play (.bytes source) a.clicks bridge

/-- The last lines of a transcript. -/
def resultLines : Except RunError Unit → List Line
  | .ok () => [.success]
  | .error e => [.failure, .errorCode e.code, .errorMessage e.message]

/-- What a program run leaves behind. -/
structure Transcript where
  code : UInt32
  lines : List Line
deriving DecidableEq, Repr

/-- The lines that a reader of the transcript sees: a name that was clicked can hold line breaks. -/
def Transcript.textLines (t : Transcript) : List String :=
  Text.lines (String.join (t.lines.map fun line => line.text ++ "\n"))

def transcript (files : FileTree) (engine : Engine) (counters : Counters) (directory : String)
    (args : List String) : Transcript :=
  match Arguments.read args with
  | .error .help => ⟨0, []⟩
  | .error .misuse => ⟨2, []⟩
  | .ok a =>
    let (lines, result) := a.run files engine counters directory
    ⟨if result.toBool then 0 else 1, lines ++ resultLines result⟩

end ScriptBridge.CommandLine
