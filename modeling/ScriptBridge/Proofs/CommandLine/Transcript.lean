/-
  ScriptBridge/Proofs/CommandLine/Transcript.lean
  ===============================================
  **A transcript has everything that was recorded.**

  A run takes what was recorded after each evaluation and prints it as a block.
  What there is to print is defined without any taking: `Runs` lets the script
  and the clicks run on a bridge that keeps all its events and calls, and says
  for each evaluation what it added.

  The two runs go side by side.  The bridge of the second still holds what the
  first has printed already (`Pairing.holding`), and each evaluation adds the
  same to both.
-/
import Mathlib.Data.List.Basic
import ScriptBridge.Proofs.Bridge.Comparison
import ScriptBridge.Proofs.CommandLine.Line

namespace ScriptBridge.CommandLine

/-! ### What there is to print -/

/-- What the last line of a block tells of. -/
inductive Ending where
  | script (s : Status)
  | click (name : String) (outcome : Option Status)

def Ending.line : Ending → Line
  | .script s => .status s
  | .click name outcome => .click name outcome

/-- The lines of one evaluation, or of a click on a widget without logic. -/
structure Block where
  events : List PlatformEvent
  calls : List (List Value)
  ending : Ending

def Block.lines (k : Block) : List Line :=
  k.events.map Line.event ++ k.calls.map Line.callback ++ [k.ending.line]

/-- What a bridge has recorded since an earlier time. -/
structure Recorded (events : List PlatformEvent) (calls : List (List Value)) (b b' : RecordingBridge) :
    Prop where
  events : b'.state.platform.events = b.state.platform.events ++ events
  calls : b'.state.host = b.state.host ++ calls

/-- Clicks in their order, up to the first name that is unknown or whose logic fails. -/
inductive Clicks : RecordingBridge → List String → List Block → RecordingBridge → Except RunError Unit →
    Prop where
  | all (b : RecordingBridge) : Clicks b [] [] b (.ok ())
  | unknown {b : RecordingBridge} {name : String} {rest : List String}
      (hname : b.findWidget name = none) :
      Clicks b (name :: rest) [] b (.error (.unknownWidget name))
  | unbound {b last : RecordingBridge} {name : String} {rest : List String} {widget : WidgetHandle}
      {blocks : List Block} {result : Except RunError Unit} (hname : b.findWidget name = some widget)
      (hdispatch : b.dispatch widget.id .nil = (none, b)) (hrest : Clicks b rest blocks last result) :
      Clicks b (name :: rest) (⟨[], [], .click name none⟩ :: blocks) last result
  | fired {b b' last : RecordingBridge} {name : String} {rest : List String} {widget : WidgetHandle}
      {events : List PlatformEvent} {calls : List (List Value)} {blocks : List Block}
      {result : Except RunError Unit} (hname : b.findWidget name = some widget)
      (hdispatch : b.dispatch widget.id .nil = (some .ok, b')) (hrecorded : Recorded events calls b b')
      (hrest : Clicks b' rest blocks last result) :
      Clicks b (name :: rest) (⟨events, calls, .click name (some .ok)⟩ :: blocks) last result
  | failed {b b' : RecordingBridge} {name : String} {rest : List String} {widget : WidgetHandle}
      {status : Status} {events : List PlatformEvent} {calls : List (List Value)}
      (hname : b.findWidget name = some widget)
      (hdispatch : b.dispatch widget.id .nil = (some status, b')) (hstatus : status ≠ .ok)
      (hrecorded : Recorded events calls b b') :
      Clicks b (name :: rest) [⟨events, calls, .click name (some status)⟩] b' (.error (.status status))

/-- A script and then clicks, unless the script fails. -/
inductive Plays (source : Program) (clicks : List String) (b : RecordingBridge) : List Block →
    RecordingBridge → Except RunError Unit → Prop where
  | failed {b' : RecordingBridge} {status : Status} {events : List PlatformEvent}
      {calls : List (List Value)} (hscript : b.evaluate source [] = (status, b')) (hstatus : status ≠ .ok)
      (hrecorded : Recorded events calls b b') :
      Plays source clicks b [⟨events, calls, .script status⟩] b' (.error (.status status))
  | clicked {b' last : RecordingBridge} {events : List PlatformEvent} {calls : List (List Value)}
      {blocks : List Block} {result : Except RunError Unit}
      (hscript : b.evaluate source [] = (.ok, b')) (hrecorded : Recorded events calls b b')
      (hclicks : Clicks b' clicks blocks last result) :
      Plays source clicks b (⟨events, calls, .script .ok⟩ :: blocks) last result

/-- What a run records in all, block by block, and how it ends. -/
inductive Arguments.Runs (a : Arguments) (files : FileTree) (engine : Engine) (counters : Counters)
    (directory : String) : List Block → List PlatformEvent → List (List Value) → Except RunError Unit →
    Prop where
  | unreadable {e : RunError} (hscript : readScript files (a.scriptPath directory) = .error e) :
      Runs a files engine counters directory [] [] [] (.error e)
  | refused {source : List UInt8} {e : ApiError}
      (hscript : readScript files (a.scriptPath directory) = .ok source)
      (hbridge : recordingBridge files engine a.layout (a.assetsPath directory) a.callbackName counters =
        .error e) : Runs a files engine counters directory [] [] [] (.error (.bridge e))
  | played {source : List UInt8} {b last : RecordingBridge} {blocks : List Block}
      {result : Except RunError Unit}
      (hscript : readScript files (a.scriptPath directory) = .ok source)
      (hbridge : recordingBridge files engine a.layout (a.assetsPath directory) a.callbackName counters =
        .ok b) (hplays : Plays (.bytes source) a.clicks b blocks last result) :
      Runs a files engine counters directory blocks last.state.platform.events last.state.host result

/-! ### The blocks have it all -/

variable {files : FileTree} {a : Arguments} {engine : Engine} {counters : Counters} {directory : String}
  {x y b last : RecordingBridge} {blocks : List Block} {events : List PlatformEvent}
  {calls : List (List Value)} {result : Except RunError Unit}

theorem Recorded.refl (b : RecordingBridge) : Recorded [] [] b b :=
  ⟨(List.append_nil _).symm, (List.append_nil _).symm⟩

theorem Recorded.append {events' : List PlatformEvent} {calls' : List (List Value)}
    {b' b'' : RecordingBridge} (h : Recorded events calls b b') (h' : Recorded events' calls' b' b'') :
    Recorded (events ++ events') (calls ++ calls') b b'' := by
  constructor
  · rw [h'.events, h.events, List.append_assoc]
  · rw [h'.calls, h.calls, List.append_assoc]

/-- Nothing that clicks record is outside their blocks. -/
theorem Clicks.recorded {names : List String} (h : Clicks b names blocks last result) :
    Recorded (blocks.flatMap Block.events) (blocks.flatMap Block.calls) b last := by
  induction h with
  | all b => exact .refl b
  | unknown _ => exact .refl _
  | unbound _ _ _ ih => exact (Recorded.refl _).append ih
  | fired _ _ hrecorded _ ih => exact hrecorded.append ih
  | failed _ _ _ hrecorded => exact hrecorded.append (.refl _)

theorem Plays.recorded {source : Program} {clicks : List String}
    (h : Plays source clicks b blocks last result) :
    Recorded (blocks.flatMap Block.events) (blocks.flatMap Block.calls) b last := by
  cases h with
  | failed _ _ hrecorded => exact hrecorded.append (.refl _)
  | clicked _ hrecorded hclicks => exact hrecorded.append hclicks.recorded

/-! ### The bridge that prints follows the one that keeps -/

/-- The first bridge is the second without what that has recorded. -/
structure Follows (files : FileTree) (x y : RecordingBridge) : Prop where
  bridges : (Pairing.holding y.state.platform.events y.state.host).Bridges files x y

/-- What a use added is taken from the first bridge, and the two are a pair again. -/
theorem Follows.take {y' : RecordingBridge}
    (h : (Pairing.holding y.state.platform.events y.state.host).Bridges files x y') :
    Recorded x.state.platform.events x.state.host y y' ∧ Follows files (takeLines x).2 y' := by
  refine ⟨⟨h.events_holding, h.host_holding⟩, ⟨h.setting, h.records, ?_⟩⟩
  exact {
    platform := { h.states.platform with events := (List.append_nil _).symm }
    host := (List.append_nil _).symm
    handles := h.states.handles
    classes := h.states.classes
    widget := h.states.widget
    handle := h.states.handle
    widgets := h.states.widgets
    callbacks := fun id => by
      have hbindings := h.states.callbacks id
      rw [Pairing.holding_move] at hbindings
      rw [Pairing.holding_move]
      change Option.Rel _ (x.state.callbacks.find? id) _
      generalize x.state.callbacks.find? id = u, y'.state.callbacks.find? id = v at hbindings
      cases hbindings with
      | none => exact .none
      | some huv => exact .some ⟨huv.context, huv.logic, huv.names⟩ }

section Clicking

variable {x' : RecordingBridge} {id : WidgetId} {event : Value} {name : String} {rest : List String}
  {widget : WidgetHandle}

/-- A click on a widget without logic leaves everything as it is. -/
theorem dispatch_none (h : x.dispatch id event = (none, x')) : x' = x := by
  rw [Bridge.dispatch, Setting.dispatchBy, CallbackRegistry.fire] at h
  cases hbound : x.state.callbacks.find? id with
  | none =>
    simp only [hbound, Option.map_none] at h
    exact (congrArg Prod.snd h).symm
  | some binding => simp [hbound] at h

theorem clickAll_unknown (hname : x.findWidget name = none) :
    clickAll (name :: rest) x = ([], .error (.unknownWidget name)) := by
  simp only [clickAll, hname]

theorem clickAll_unbound (hname : x.findWidget name = some widget)
    (hdispatch : x.dispatch widget.id .nil = (none, x')) :
    clickAll (name :: rest) x = (.click name none :: (clickAll rest x').1, (clickAll rest x').2) := by
  simp only [clickAll, hname, hdispatch]

theorem clickAll_fired (hname : x.findWidget name = some widget)
    (hdispatch : x.dispatch widget.id .nil = (some .ok, x')) :
    clickAll (name :: rest) x =
      ((Block.mk x'.state.platform.events x'.state.host (.click name (some .ok))).lines ++
        (clickAll rest (takeLines x').2).1, (clickAll rest (takeLines x').2).2) := by
  simp only [clickAll, hname, hdispatch]
  rfl

theorem clickAll_failed {status : Status} (hname : x.findWidget name = some widget)
    (hdispatch : x.dispatch widget.id .nil = (some status, x')) (hstatus : status ≠ .ok) :
    clickAll (name :: rest) x =
      ((Block.mk x'.state.platform.events x'.state.host (.click name (some status))).lines,
        .error (.status status)) := by
  simp only [clickAll, hname, hdispatch, hstatus, if_false]
  rfl

end Clicking

theorem Follows.clickAll (h : Follows files x y) (names : List String) :
    ∃ blocks last, Clicks y names blocks last (clickAll names x).2 ∧
      (clickAll names x).1 = blocks.flatMap Block.lines := by
  induction names generalizing x y with
  | nil => exact ⟨[], y, .all y, rfl⟩
  | cons name rest ih =>
    have hfind := h.bridges.findWidget_holding name
    cases hx : x.findWidget name with
    | none =>
      rw [clickAll_unknown hx]
      exact ⟨[], y, .unknown (hfind.trans hx), rfl⟩
    | some widget =>
      have hname := hfind.trans hx
      have hdispatched := h.bridges.dispatch_holding widget.id .nil
      rcases hx' : x.dispatch widget.id .nil with ⟨outcome, x'⟩
      rcases hy' : y.dispatch widget.id .nil with ⟨outcome', y'⟩
      rw [hx', hy'] at hdispatched
      obtain ⟨rfl, hbridges⟩ : outcome' = outcome ∧ _ := hdispatched
      cases outcome' with
      | none =>
        rw [dispatch_none hy'] at hy'
        obtain ⟨blocks, last, hclicks, hlines⟩ := ih h
        rw [clickAll_unbound hx hx', dispatch_none hx', hlines]
        exact ⟨_, last, .unbound hname hy' hclicks, rfl⟩
      | some status =>
        obtain ⟨hrecorded, hfollows⟩ := Follows.take hbridges
        by_cases hstatus : status = .ok
        · cases hstatus
          obtain ⟨blocks, last, hclicks, hlines⟩ := ih hfollows
          rw [clickAll_fired hx hx', hlines]
          exact ⟨_, last, .fired hname hy' hrecorded hclicks, rfl⟩
        · rw [clickAll_failed hx hx' hstatus]
          exact ⟨_, y', .failed hname hy' hstatus hrecorded, (List.append_nil _).symm⟩

theorem play_clicked {x' : RecordingBridge} {source : Program} {clicks : List String}
    (hscript : x.evaluate source [] = (.ok, x')) :
    play source clicks x =
      ((Block.mk x'.state.platform.events x'.state.host (.script .ok)).lines ++
        (clickAll clicks (takeLines x').2).1, (clickAll clicks (takeLines x').2).2) := by
  simp only [play, hscript]
  rfl

theorem play_failed {x' : RecordingBridge} {source : Program} {clicks : List String} {status : Status}
    (hscript : x.evaluate source [] = (status, x')) (hstatus : status ≠ .ok) :
    play source clicks x =
      ((Block.mk x'.state.platform.events x'.state.host (.script status)).lines,
        .error (.status status)) := by
  simp only [play, hscript, hstatus, if_false]
  rfl

theorem Follows.play (h : Follows files x y) (source : Program) (clicks : List String) :
    ∃ blocks last, Plays source clicks y blocks last (play source clicks x).2 ∧
      (play source clicks x).1 = blocks.flatMap Block.lines := by
  have hevaluated := h.bridges.evaluate_holding source
  rcases hx : x.evaluate source [] with ⟨status, x'⟩
  rcases hy : y.evaluate source [] with ⟨status', y'⟩
  rw [hx, hy] at hevaluated
  obtain ⟨rfl, hbridges⟩ : status' = status ∧ _ := hevaluated
  obtain ⟨hrecorded, hfollows⟩ := Follows.take hbridges
  by_cases hstatus : status' = .ok
  · cases hstatus
    obtain ⟨blocks, last, hclicks, hlines⟩ := hfollows.clickAll clicks
    rw [play_clicked hx, hlines]
    exact ⟨_, last, .clicked hy hrecorded hclicks, rfl⟩
  · rw [play_failed hx hstatus]
    exact ⟨_, y', .failed hy hstatus hrecorded, (List.append_nil _).symm⟩

/-! ### A whole run -/

theorem Follows.start {layout : LayoutConfig} {assets name : String}
    (h : recordingBridge files engine layout assets name counters = .ok x) :
    Follows files x x ∧ x.state.platform.events = [] ∧ x.state.host = [] := by
  have hempty : x.state.platform.events = [] ∧ x.state.host = [] := by
    unfold recordingBridge Bridge.start at h
    dsimp only [Option.getD_some] at h
    cases hname : checkExposedName name with
    | error e =>
      rw [hname] at h
      cases h
    | ok _ =>
      rw [hname] at h
      cases h
      exact ⟨rfl, rfl⟩
  refine ⟨⟨?_⟩, hempty⟩
  have hstart : Outcomes Eq ((Pairing.holding [] []).Bridges files) _ _ :=
    Pairing.Bridges.start rfl rfl engine layout assets name counters
  rw [Pairing.holding_move] at hstart
  rw [hempty.1, hempty.2]
  change Outcomes Eq _ _ (recordingBridge files engine layout assets name counters) at hstart
  rw [h] at hstart
  cases hstart with
  | ok hbridges => exact hbridges

theorem Arguments.runs (a : Arguments) (files : FileTree) (engine : Engine) (counters : Counters)
    (directory : String) :
    ∃ blocks events calls,
      a.Runs files engine counters directory blocks events calls
        (a.run files engine counters directory).2 ∧
      (a.run files engine counters directory).1 = blocks.flatMap Block.lines := by
  rw [run]
  cases hscript : readScript files (a.scriptPath directory) with
  | error e => exact ⟨[], [], [], .unreadable hscript, rfl⟩
  | ok source =>
    dsimp only
    cases hbridge : recordingBridge files engine a.layout (a.assetsPath directory) a.callbackName
        counters with
    | error e => exact ⟨[], [], [], .refused hscript hbridge, rfl⟩
    | ok x =>
      obtain ⟨blocks, last, hplays, hlines⟩ := (Follows.start hbridge).1.play (.bytes source) a.clicks
      exact ⟨blocks, _, _, .played hscript hbridge hplays, hlines⟩

/-- The blocks of a run have each event and each call that it recorded, once and in order. -/
theorem Arguments.Runs.recorded
    (h : a.Runs files engine counters directory blocks events calls result) :
    blocks.flatMap Block.events = events ∧ blocks.flatMap Block.calls = calls := by
  cases h with
  | unreadable _ => exact ⟨rfl, rfl⟩
  | refused _ _ => exact ⟨rfl, rfl⟩
  | played _ hbridge hplays =>
    obtain ⟨-, hevents, hcalls⟩ := Follows.start hbridge
    have hrecorded := hplays.recorded
    constructor
    · rw [hrecorded.events, hevents, List.nil_append]
    · rw [hrecorded.calls, hcalls, List.nil_append]

/-! ### Its text -/

theorem Clicks.plain {names : List String} (h : Clicks b names blocks last result)
    (hnames : ∀ name ∈ names, '\n' ∉ name.toList) : ∀ k ∈ blocks, k.ending.line.Plain := by
  induction h with
  | all _ => exact List.forall_mem_nil _
  | unknown _ => exact List.forall_mem_nil _
  | unbound _ _ _ ih =>
    exact List.forall_mem_cons.mpr ⟨hnames _ List.mem_cons_self, ih fun name hname =>
      hnames name (List.mem_cons_of_mem _ hname)⟩
  | fired _ _ _ _ ih =>
    exact List.forall_mem_cons.mpr ⟨hnames _ List.mem_cons_self, ih fun name hname =>
      hnames name (List.mem_cons_of_mem _ hname)⟩
  | failed _ _ _ _ =>
    exact List.forall_mem_cons.mpr ⟨hnames _ List.mem_cons_self, List.forall_mem_nil _⟩

theorem Arguments.Runs.plain
    (h : a.Runs files engine counters directory blocks events calls result)
    (hnames : ∀ name ∈ a.clicks, '\n' ∉ name.toList) : ∀ k ∈ blocks, k.ending.line.Plain := by
  cases h with
  | unreadable _ => exact List.forall_mem_nil _
  | refused _ _ => exact List.forall_mem_nil _
  | played _ _ hplays =>
    cases hplays with
    | failed _ _ _ => exact List.forall_mem_cons.mpr ⟨trivial, List.forall_mem_nil _⟩
    | clicked _ _ hclicks => exact List.forall_mem_cons.mpr ⟨trivial, hclicks.plain hnames⟩

theorem plain_resultLines (result : Except RunError Unit) : ∀ l ∈ resultLines result, l.Plain := by
  cases result with
  | ok _ => exact List.forall_mem_singleton.mpr trivial
  | error e =>
    have hcode : Text.unbroken e.code.toList = true := by
      cases e with
      | bridge e => cases e <;> (dsimp only [RunError.code, ApiError.code]; decide)
      | _ => dsimp only [RunError.code]; decide
    simp [resultLines, Line.Plain, hcode]

theorem plain_lines (h : ∀ k ∈ blocks, k.ending.line.Plain)
    (result : Except RunError Unit) : ∀ l ∈ blocks.flatMap Block.lines ++ resultLines result, l.Plain := by
  intro l hl
  rcases List.mem_append.mp hl with hblock | hresult
  · obtain ⟨k, hk, hl⟩ := List.mem_flatMap.mp hblock
    rcases List.mem_append.mp hl with hseen | hending
    · rcases List.mem_append.mp hseen with hevent | hcall
      · obtain ⟨e, -, rfl⟩ := List.mem_map.mp hevent
        trivial
      · obtain ⟨call, -, rfl⟩ := List.mem_map.mp hcall
        trivial
    · rw [List.mem_singleton.mp hending]
      exact h k hk
  · exact plain_resultLines result l hresult

/-- A reader sees the lines of the blocks and of the result. -/
theorem Transcript.textLines_eq {t : Transcript}
    (hlines : t.lines = blocks.flatMap Block.lines ++ resultLines result)
    (hplain : ∀ k ∈ blocks, k.ending.line.Plain) :
    t.textLines = (blocks.flatMap Block.lines ++ resultLines result).map Line.text := by
  have hlined : ∀ s ∈ t.lines.map Line.text, Text.IsLine s := by
    intro s hs
    obtain ⟨l, hl, rfl⟩ := List.mem_map.mp hs
    rw [hlines] at hl
    exact Line.isLine_text (plain_lines hplain result l hl)
  have hjoined := Text.lines_join hlined
  rw [List.map_map] at hjoined
  rw [textLines, ← hlines]
  exact hjoined

theorem filter_map_text {front : String} (hfront : front ∈ Line.labels) (lines : List Line) :
    (lines.map Line.text).filter (Text.begins front) =
      (lines.filter fun l => l.label == front).map Line.text := by
  rw [List.filter_map, Function.comp_def, funext (Line.begins_text hfront)]

theorem Block.filter_lines (k : Block) :
    k.lines.filter (fun l => l.label == "EVENT:") = k.events.map Line.event ∧
      k.lines.filter (fun l => l.label == "CALLBACK:") = k.calls.map Line.callback ∧
      k.lines.filter (fun l => l.label == "RESULT:") = [] := by
  have hending : k.ending.line.label = "STATUS:" ∨ k.ending.line.label = "CLICK:" := by
    cases k.ending <;> simp [Ending.line, Line.label]
  rcases hending with h | h <;>
    simp [lines, List.filter_map, Function.comp_def, List.filter_true, List.filter_false, h]

theorem filter_resultLines (result : Except RunError Unit) :
    (resultLines result).filter (fun l => l.label == "EVENT:") = [] ∧
      (resultLines result).filter (fun l => l.label == "CALLBACK:") = [] ∧
      (resultLines result).filter (fun l => l.label == "RESULT:") =
        [if result.toBool then .success else .failure] := by
  cases result <;> exact ⟨rfl, rfl, rfl⟩

/-- The events, the calls and the result are what a reader finds by the labels. -/
theorem filter_run (blocks : List Block) (result : Except RunError Unit) :
    let lines := blocks.flatMap Block.lines ++ resultLines result
    lines.filter (fun l => l.label == "EVENT:") = (blocks.flatMap Block.events).map Line.event ∧
      lines.filter (fun l => l.label == "CALLBACK:") = (blocks.flatMap Block.calls).map Line.callback ∧
      lines.filter (fun l => l.label == "RESULT:") = [if result.toBool then .success else .failure] := by
  obtain ⟨hevent, hcall, hresult⟩ := filter_resultLines result
  simp [List.filter_append, List.filter_flatMap, Block.filter_lines, hevent, hcall, hresult,
    List.map_flatMap]

/-- What a reader of the text finds out about the run. -/
structure Transcript.Shows (t : Transcript) (blocks : List Block) (events : List PlatformEvent)
    (calls : List (List Value)) (result : Except RunError Unit) : Prop where
  lines : t.textLines = (blocks.flatMap Block.lines ++ resultLines result).map Line.text
  events : t.textLines.filter (Text.begins "EVENT:") =
    events.map fun e => "EVENT:" ++ e.toJson.text
  calls : t.textLines.filter (Text.begins "CALLBACK:") =
    calls.map fun call => "CALLBACK:" ++ (Json.array (Value.toJsonItems call)).text
  result : t.textLines.filter (Text.begins "RESULT:") =
    [if result.toBool then "RESULT:OK" else "RESULT:ERROR"]
  code : t.code = if "RESULT:OK" ∈ t.textLines then 0 else 1

theorem Transcript.shows {t : Transcript}
    (htext : t.textLines = (blocks.flatMap Block.lines ++ resultLines result).map Line.text)
    (hcode : t.code = if result.toBool then 0 else 1) (hevents : blocks.flatMap Block.events = events)
    (hcalls : blocks.flatMap Block.calls = calls) : t.Shows blocks events calls result := by
  obtain ⟨hevent, hcall, hended⟩ := filter_run blocks result
  have hresult : t.textLines.filter (Text.begins "RESULT:") =
      [if result.toBool then "RESULT:OK" else "RESULT:ERROR"] := by
    rw [htext, filter_map_text (by decide), hended]
    cases result <;> rfl
  have hsuccess : "RESULT:OK" ∈ t.textLines ↔ result.toBool = true := by
    have hfiltered : "RESULT:OK" ∈ t.textLines ↔
        "RESULT:OK" ∈ t.textLines.filter (Text.begins "RESULT:") := by
      rw [List.mem_filter, and_iff_left (by decide)]
    rw [hfiltered, hresult, List.mem_singleton]
    cases result.toBool <;> decide
  constructor
  · exact htext
  · rw [htext, filter_map_text (by decide), hevent, hevents, List.map_map]
    rfl
  · rw [htext, filter_map_text (by decide), hcall, hcalls, List.map_map]
    rfl
  · exact hresult
  · simp only [hcode, hsuccess]

/-- A label without logic, and a button whose logic fails after a call. -/
def failingScript : String :=
  "ui(tc, [\"label\", #\x7bname: \"t\"\x7d]); " ++
    "ui(tc, [\"button\", #\x7bname: \"b\", logic: \"tc.callback(7); throw 1;\"\x7d]);"

def failingFiles : FileTree := .directory [("main.rhai", .file (Utf8.octets failingScript))]

def failingArgs : List String :=
  ["run", "--script", "main.rhai", "--click", "t", "--click=b", "--click", "t"]

/-- Whatever the script and its outcome, the transcript has each event and each call of the run once
    and in order, in a block for each evaluation, and ends with the result that the code tells. -/
theorem transcript_complete (files : FileTree) (engine : Engine) (counters : Counters)
    (directory : String) {args : List String} {a : Arguments} (hread : Arguments.read args = .ok a)
    (hnames : ∀ name ∈ a.clicks, '\n' ∉ name.toList) :
    ∃ blocks events calls result, a.Runs files engine counters directory blocks events calls result ∧
      (transcript files engine counters directory args).Shows blocks events calls result := by
  obtain ⟨blocks, events, calls, hruns, hlines⟩ := a.runs files engine counters directory
  obtain ⟨hevents, hcalls⟩ := hruns.recorded
  refine ⟨blocks, events, calls, _, hruns, Transcript.shows ?_ ?_ hevents hcalls⟩
  · apply Transcript.textLines_eq _ (hruns.plain hnames)
    simp only [transcript, hread, hlines]
  · simp only [transcript, hread]

/-- The click on the label does not end the run and the one on the button does, after the call that
    its logic made. -/
theorem transcript_complete_failing :
    ∃ a, Arguments.read failingArgs = .ok a ∧ (∀ name ∈ a.clicks, '\n' ∉ name.toList) ∧
      (∃ blocks events calls result,
        a.Runs failingFiles scriptLanguage .first "" blocks events calls result ∧
          (transcript failingFiles scriptLanguage .first "" failingArgs).Shows blocks events calls
            result) ∧
      (transcript failingFiles scriptLanguage .first "" failingArgs).lines.drop 4 =
        [.status .ok, .click "t" none, .callback [.int 7], .click "b" (some .runtimeError), .failure,
          .errorCode "CLI_SCRIPT_STATUS", .errorMessage "script finished with status 3"] := by
  have hread : Arguments.read failingArgs =
      .ok ⟨"main.rhai", none, ["t", "b", "t"], none, none, "tc"⟩ := by
    decide +kernel
  have hnames : ∀ name ∈ ["t", "b", "t"], '\n' ∉ name.toList := by decide
  exact ⟨_, hread, hnames,
    transcript_complete failingFiles scriptLanguage .first "" hread hnames, by decide +kernel⟩

end ScriptBridge.CommandLine
