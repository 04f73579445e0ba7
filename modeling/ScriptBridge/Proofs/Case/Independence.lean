/-
  ScriptBridge/Proofs/Case/Independence.lean
  ==========================================
  **What a recorded case shows wherever the counters of its process stand.**

  Widget ids and handles are counted through the whole process, so a case gets
  others when something ran before it.  A report has its events renumbered, but
  nothing else: an id that a script hands on as data shows as it is
  (`leaking_differs`).

  A case whose script and logic treat ids and handles as opaque ends the same
  from everywhere (`independent_of_start`).  Opaque is a property of the run from
  one start: each request on the way is the corresponding one on every bridge in a
  corresponding state.  The two runs are compared action by action.  A replay that
  stops early still leaves a bridge, so `course` follows a replay to where it
  stops and keeps what it fires.
-/
import ScriptBridge.Proofs.Bridge.Comparison
import ScriptBridge.Script.Run

namespace ScriptBridge

/-- From the start in one state of the counters to the start in another. -/
def Shift.between (counters later : Counters) : Shift :=
  ⟨counters.widget, later.widget, later.handle - counters.handle⟩

def Contexts.pairing {s : Shift} (contexts : Contexts s) : Pairing := { s, contexts with held := [], heard := [] }

/-- Of the contexts, those without handles correspond when they are the same, and those that are a
    handle when the handles do. -/
def Contexts.simple (s : Shift) : Contexts s where
  contexts u v := (v = u ∧ u.handles = []) ∨ ∃ h, u = .object h ∧ v = .object (s.moveObject h)
  handles_eq huv := by
    rcases huv with ⟨rfl, hnone⟩ | ⟨h, rfl, rfl⟩
    · rw [hnone]
      rfl
    · rfl
  depth_le_iff huv := by
    rcases huv with ⟨rfl, -⟩ | ⟨h, rfl, rfl⟩ <;> exact Iff.rfl

namespace TestCase

/-! ### The course of a case -/

/-- A binding that an action fires. -/
structure Firing where
  state : RecordingState
  binding : CallbackBinding
  event : Value

/-- What a replay does up to the first action that fails. -/
structure Course where
  fired : List Firing
  bridge : RecordingBridge

def course : List CaseAction → RecordingBridge → Course
  | [], bridge => ⟨[], bridge⟩
  | action :: rest, bridge =>
    match bridge.findWidget action.target with
    | none => ⟨[], bridge⟩
    | some widget =>
      let fired := (bridge.state.callbacks.find? widget.id).toList.map fun x =>
        ⟨bridge.state, x, action.payload⟩
      let (status, bridge) := bridge.dispatch widget.id action.payload
      let later : Course := if status = some .ok then course rest bridge else ⟨[], bridge⟩
      ⟨fired ++ later.fired, later.bridge⟩

/-- The script of a case could be read and a bridge be made for it. -/
structure Opens (c : TestCase) (files : FileTree) (engine : Engine) (counters : Counters)
    (directory : String) (source : List UInt8) (bridge : RecordingBridge) : Prop where
  read : files.read (Path.join directory c.script) = .ok source
  start : recordingBridge files engine .standard directory c.callbackName counters = .ok bridge

def courseFrom (c : TestCase) (source : List UInt8) (bridge : RecordingBridge) : Course :=
  course c.actions (bridge.evaluate (.bytes source) []).2

/-- A logic that is fired treats ids and handles as opaque, with every binding that corresponds. -/
def Firing.Opaque (P : Pairing) (s : Setting Recorder (List (List Value)) EchoClass) (f : Firing) : Prop :=
  ∀ y, P.Bindings f.binding y → P.Starts s f.binding.logic (logicEntries f.binding f.event)
    (logicEntries y f.event) f.state

/-- The script of a case, and all logic that it fires, treats ids and handles as opaque. -/
structure OpaqueFrom (c : TestCase) (P : Pairing) (source : List UInt8) (bridge : RecordingBridge) :
    Prop where
  script : P.Starts bridge.setting (.bytes source) [] [] bridge.state
  logic : ∀ f ∈ (c.courseFrom source bridge).fired, f.Opaque P bridge.setting

variable (c : TestCase) (files : FileTree) (engine : Engine) (directory : String)

/-- A case does the same from two states of the counters up to ids and handles. -/
def Opaque {counters later : Counters} (contexts : Contexts (.between counters later)) : Prop :=
  ∀ source bridge, c.Opens files engine counters directory source bridge →
    c.OpaqueFrom contexts.pairing source bridge

/-- The widget ids of a case do not overflow. -/
def CountsUp (counters : Counters) : Prop :=
  ∀ source bridge, c.Opens files engine counters directory source bridge →
    (c.courseFrom source bridge).bridge.state.widgets.From counters.widget

/-! ### Two replays -/

theorem keepsBorn_dispatch (bridge : RecordingBridge) (id : WidgetId) (event : Value) :
    bridge.state.KeepsBorn (bridge.dispatch id event).2.state :=
  (bridge.setting.bindsOnce_use Setting.maxLevels [] (.dispatch id event) bridge.state).kept

theorem course_cons {action : CaseAction} {rest : List CaseAction} {bridge : RecordingBridge}
    {widget : WidgetHandle} (hfound : bridge.findWidget action.target = some widget) :
    course (action :: rest) bridge =
      let fired := (bridge.state.callbacks.find? widget.id).toList.map fun x =>
        (⟨bridge.state, x, action.payload⟩ : Firing)
      let dispatched := bridge.dispatch widget.id action.payload
      let later : Course :=
        if dispatched.1 = some .ok then course rest dispatched.2 else ⟨[], dispatched.2⟩
      ⟨fired ++ later.fired, later.bridge⟩ := by
  rw [course, hfound]

theorem keepsBorn_course (actions : List CaseAction) (bridge : RecordingBridge) :
    bridge.state.KeepsBorn (course actions bridge).bridge.state := by
  induction actions generalizing bridge with
  | nil => exact fun _ h => h
  | cons action rest ih =>
    cases hfound : bridge.findWidget action.target with
    | none =>
      rw [course, hfound]
      exact fun _ h => h
    | some widget =>
      rw [course_cons hfound]
      intro id h
      have hdispatched := keepsBorn_dispatch bridge widget.id action.payload id h
      dsimp only
      split
      · exact ih _ id hdispatched
      · exact hdispatched

/-- What was there after the first action of a replay is there at its end. -/
theorem keepsBorn_course_cons {action : CaseAction} (rest : List CaseAction) {bridge : RecordingBridge}
    {widget : WidgetHandle} (hfound : bridge.findWidget action.target = some widget) :
    (bridge.dispatch widget.id action.payload).2.state.KeepsBorn
      (course (action :: rest) bridge).bridge.state := by
  rw [course_cons hfound]
  dsimp only
  split
  · exact keepsBorn_course rest _
  · exact fun _ h => h

section Replays

variable {c files engine directory} {P : Pairing} {x y : RecordingBridge}

theorem replay_alike (index : Nat) {action : CaseAction} {widget : WidgetHandle}
    (hfound : x.findWidget action.target = some widget)
    (hfound' : y.findWidget action.target = some (P.moveHandle widget))
    (hstatus : (y.dispatch (P.move widget.id) action.payload).1 =
      (x.dispatch widget.id action.payload).1) :
    Outcomes Eq (fun x' y' => x.dispatch widget.id action.payload = (some .ok, x') ∧
        y.dispatch (P.move widget.id) action.payload = (some .ok, y'))
      (replay index action x) (replay index action y) := by
  have hmoved : (P.moveHandle widget).id = P.move widget.id := rfl
  rw [replay, replay, hfound, hfound']
  dsimp only
  rw [hmoved]
  revert hstatus
  generalize x.dispatch widget.id action.payload = dispatched
  generalize y.dispatch (P.move widget.id) action.payload = dispatched'
  obtain ⟨status, x'⟩ := dispatched
  obtain ⟨status', y'⟩ := dispatched'
  rintro rfl
  cases status' with
  | none => exact .error rfl
  | some status =>
    cases status with
    | ok => exact .ok ⟨rfl, rfl⟩
    | _ => exact .error rfl

/-- Two replays in which all logic treats ids and handles as opaque end alike. -/
theorem replayAll_alike (h : P.Bridges files x y) (index : Nat) (actions : List CaseAction)
    (hlogic : ∀ f ∈ (course actions x).fired, f.Opaque P x.setting)
    (hend : P.Counted (course actions x).bridge.state (course actions y).bridge.state) :
    Outcomes Eq (P.Bridges files) (replayAll index actions x) (replayAll index actions y) := by
  induction actions generalizing x y index with
  | nil => exact .ok h
  | cons action rest ih =>
    have hcounted : P.Counted x.state y.state :=
      hend.of_kept (keepsBorn_course _ x) (keepsBorn_course _ y)
    have hfind := h.findWidget hcounted action.target
    cases hfound : x.findWidget action.target with
    | none =>
      rw [hfound] at hfind
      rw [replayAll, replayAll, replay, replay, hfound, hfind]
      exact .error rfl
    | some widget =>
      have hfound' : y.findWidget action.target = some (P.moveHandle widget) := by rw [hfind, hfound]; rfl
      have hfired : ∀ u v, x.state.callbacks.find? widget.id = some u → P.Bindings u v →
          P.Starts x.setting u.logic (logicEntries u action.payload) (logicEntries v action.payload)
            x.state :=
        fun u v hu huv =>
          hlogic ⟨x.state, u, action.payload⟩ (by simp [course_cons hfound, hu]) v huv
      obtain ⟨hstatus, hbridges⟩ := h.dispatch hfired
        (hend.of_kept (keepsBorn_course_cons rest hfound) (keepsBorn_course_cons rest hfound'))
      rw [course_cons hfound, course_cons hfound'] at hend
      rw [course_cons hfound] at hlogic
      have hreplayed := replay_alike index hfound hfound' hstatus
      rw [replayAll, replayAll]
      revert hreplayed
      generalize replay index action x = replayed
      generalize replay index action y = replayed'
      rintro (⟨hx, hy⟩ | rfl)
      · -- The rest is only replayed when both dispatches went well.
        have hmoved : (P.moveHandle widget).id = P.move widget.id := rfl
        have hsetting : x.setting = _ := congrArg (fun dispatched => dispatched.2.setting) hx
        simp only [hmoved, hx, hy, if_true] at hend hlogic hbridges
        rw [hsetting] at hlogic
        exact ih hbridges (index + 1)
          (fun f hf => hlogic f (List.mem_append_right _ hf)) hend
      · exact .error rfl

theorem outcome_alike (h : P.Bridges files x y) {source : List UInt8} (htreats : c.OpaqueFrom P source x)
    (hend : P.Counted (c.courseFrom source x).bridge.state (c.courseFrom source y).bridge.state) :
    (y.evaluate (.bytes source) []).1 = (x.evaluate (.bytes source) []).1 ∧
      Outcomes Eq (P.Bridges files) (replayAll 0 c.actions (x.evaluate (.bytes source) []).2)
        (replayAll 0 c.actions (y.evaluate (.bytes source) []).2) := by
  obtain ⟨hstatus, hbridges⟩ := h.evaluate htreats.script
    (hend.of_kept (keepsBorn_course _ _) (keepsBorn_course _ _))
  exact ⟨hstatus, replayAll_alike hbridges 0 c.actions htreats.logic hend⟩

end Replays

/-! ### Two runs of a case -/

variable {c files engine directory}

theorem run_alike {counters later : Counters} (hlater : counters.handle ≤ later.handle)
    (contexts : Contexts (.between counters later)) (htreats : c.Opaque files engine directory contexts)
    (hcounts : c.CountsUp files engine directory counters)
    (hcounts' : c.CountsUp files engine directory later) :
    c.run files engine later directory = c.run files engine counters directory := by
  have hopened : Outcomes Eq (contexts.pairing.Bridges files)
      (recordingBridge files engine .standard directory c.callbackName counters)
      (recordingBridge files engine .standard directory c.callbackName later) := by
    have hstart : Outcomes Eq (contexts.pairing.Bridges files) _ _ :=
      Pairing.Bridges.start rfl rfl engine .standard directory c.callbackName counters
    have hwidget : contexts.pairing.move counters.widget = later.widget := Shift.move_first _
    have hhandle : counters.handle + contexts.pairing.ahead = later.handle := Nat.add_sub_of_le hlater
    rwa [hwidget, hhandle] at hstart
  unfold run
  dsimp only
  cases hread : files.read (Path.join directory c.script) with
  | error e => rfl
  | ok source =>
    dsimp only
    revert hopened
    generalize hx : recordingBridge files engine .standard directory c.callbackName counters = opened
    generalize hy : recordingBridge files engine .standard directory c.callbackName later = opened'
    rintro (h | rfl)
    · rename_i x y
      have hend : contexts.pairing.Counted (c.courseFrom source x).bridge.state
          (c.courseFrom source y).bridge.state :=
        ⟨hcounts source x ⟨hread, hx⟩, hcounts' source y ⟨hread, hy⟩⟩
      obtain ⟨hstatus, hreplayed⟩ := outcome_alike h (htreats source x ⟨hread, hx⟩) hend
      dsimp only
      rw [hstatus]
      revert hreplayed
      generalize replayAll 0 c.actions (x.evaluate (.bytes source) []).2 = replayed
      generalize replayAll 0 c.actions (y.evaluate (.bytes source) []).2 = replayed'
      rintro (hbridges | rfl)
      · dsimp only
        rw [hbridges.states.platform.events, hbridges.states.host]
        have hheld : contexts.pairing.held = [] := rfl
        have hheard : contexts.pairing.heard = [] := rfl
        rw [hheld, hheard, List.nil_append, List.nil_append, Shift.normalizeWidgets_map_moveEvent]
      · rfl
    · rfl

/-! ### A case with a button -/

/-- Makes a button that changes its own text, and tells the callback object what an asset holds. -/
def buttonScript : String :=
  "ui(tc, [\"button\", #\x7bname: \"a\", logic: \"ui_set(a, 1)\"\x7d]); " ++
    "tc.callback(sys.read(\"a.txt\"), 7);"

def buttonLogic : String := "ui_set(a, 1)"

def buttonData : Data :=
  .array [.string "button", .map [("logic", .string buttonLogic), ("name", .string "a")]]

def unlessThrown (next : Data → Script) : Except Data Data → Script
  | .error _ => .done false
  | .ok d => next d

def buttonShown (scope : Scope) : Script :=
  match Assoc.last? "tc" scope, Assoc.last? "sys" scope with
  | some (.handle tc), some (.handle sys) =>
    .ask (.call .ui [.handle tc, buttonData]) <| unlessThrown fun _ =>
      .ask (.call (.method "read") [.handle sys, .string "a.txt"]) <| unlessThrown fun text =>
        .ask (.call (.method "callback") [.handle tc, text, .int 7]) <| unlessThrown fun _ =>
          .done true
  | _, _ => .done false

def buttonPressed (scope : Scope) : Script :=
  match Assoc.last? "a" scope with
  | some button => .ask (.call .uiSet [button, .int 1]) <| unlessThrown fun _ => .done true
  | none => .done false

/-- What the script language does with the script of the case and the logic of its button. -/
def buttonEngine : Engine where
  start _ scope source :=
    if source = buttonScript then some (buttonShown scope)
    else if source = buttonLogic then some (buttonPressed scope)
    else none

def buttonCase : TestCase := ⟨caseSchema, "main.rhai", "tc", [.click "a"], 0, [], none⟩

def buttonFiles : FileTree :=
  .directory [("c", .directory
    [("a.txt", .file (Utf8.octets "hello")), ("main.rhai", .file (Utf8.octets buttonScript))])]

section Button

variable {P : Pairing} {s : Setting Recorder (List (List Value)) EchoClass} (hs : s.Records files)

/-- Two scripts that both stop at an error are alike if they are so after values. -/
theorem alike_unlessThrown {serve : (r : ScriptRequest) → RecordingState → ScriptRequest.Reply r × RecordingState}
    {purpose : Purpose} {b c : RecordingState} {args : List Data} {r r' : Except Data Data}
    (hr : P.Replies purpose b args r r') {x y : Data → Script}
    (h : ∀ d d', r = .ok d → r' = .ok d' → P.Alike serve c (x d) (y d')) :
    P.Alike serve c (unlessThrown x r) (unlessThrown y r') := by
  rcases hr.ok_or_error with ⟨d, d', rfl, rfl⟩ | ⟨_, _, rfl, rfl⟩
  · exact h d d' rfl rfl
  · exact .done c false

include hs

theorem buttonShown_alike (hcallback : s.callback = some ("tc", echoObject))
    (hcontexts : ∀ h, P.contexts (.object h) (.object (P.moveObject h))) {n : Nat} {b : RecordingState}
    (hlive : ((s.serveProgram (.call .ui [.handle ⟨n + 1⟩, buttonData]) b).2.handles.find?
      ⟨n⟩).isSome) :
    P.Alike s.serveProgram b (buttonShown (s.objectScope n))
      (buttonShown (s.objectScope (n + P.ahead))) := by
  have hobjects : ∀ n, Assoc.last? "tc" (s.objectScope n) = some (.handle ⟨n + 1⟩) ∧
      Assoc.last? "sys" (s.objectScope n) = some (.handle ⟨n⟩) := by
    intro n
    rw [Setting.objectScope, hcallback]
    exact ⟨rfl, rfl⟩
  have hmoved : P.moveObject ⟨n + 1⟩ = ⟨n + P.ahead + 1⟩ := by rw [Shift.moveObject, Nat.add_right_comm]
  have hsys : P.moveObject ⟨n⟩ = ⟨n + P.ahead⟩ := rfl
  unfold buttonShown
  rw [(hobjects n).1, (hobjects n).2, (hobjects _).1, (hobjects _).2, ← hmoved, ← hsys]
  have hui : P.Requests .tree .ui [.handle ⟨n + 1⟩, buttonData]
      [.handle (P.moveObject ⟨n + 1⟩), buttonData] := .ui (.cons (.ok (hcontexts _)) [buttonData])
  refine .ask (.call hui) fun b' h hcounted => ?_
  refine alike_unlessThrown (h.answers hs hcounted hui).reply fun _ _ _ _ => ?_
  have hread : P.Requests .other (.method "read") [.handle ⟨n⟩, .string "a.txt"]
      [.handle (P.moveObject ⟨n⟩), .string "a.txt"] := .same rfl ⟨n⟩ _
  refine .ask (.call hread) fun b' h hcounted => ?_
  have hreply := (h.answers hs hcounted hread).reply
  refine alike_unlessThrown hreply fun d d' hd hd' => ?_
  -- The asset is the same in both runs, since `sys` is live.
  have hsame := hreply.eq_of_live fun handle rest hargs => by
    cases hargs
    exact hlive
  obtain rfl : d' = d := Except.ok.inj (hd'.symm.trans (hsame.trans hd))
  have htold : P.Requests .other (.method "callback") [.handle ⟨n + 1⟩, d', .int 7]
      [.handle (P.moveObject ⟨n + 1⟩), d', .int 7] := .same rfl ⟨n + 1⟩ _
  refine .ask (.call htold) fun b' h hcounted => ?_
  exact alike_unlessThrown (h.answers hs hcounted htold).reply fun _ _ _ _ => .done _ true

theorem buttonPressed_alike (hcallback : s.callback = some ("tc", echoObject))
    {x y : CallbackBinding} (hxy : P.Bindings x y) (event : Value) (n : Nat) (b : RecordingState) :
    P.Alike s.serveProgram b (buttonPressed (Setting.scopeWith x event (s.objectScope n)))
      (buttonPressed (Setting.scopeWith y event (s.objectScope (n + P.ahead)))) := by
  have hshown : ∀ (z : CallbackBinding) n,
      Assoc.last? "a" (Setting.scopeWith z event (s.objectScope n)) =
        (Assoc.last? "a" z.names.entries).map fun h => h.toValue.transcript := by
    intro z n
    rw [Setting.last?_scopeWith, last?_logicEntries, Setting.objectScope, hcallback]
    simp [Assoc.last?, Assoc.find?, Function.comp_def]
  have hnames : Assoc.last? "a" y.names.entries =
      (Assoc.last? "a" x.names.entries).map P.moveHandle := by
    rw [hxy.names]
    exact Assoc.last?_map_snd ..
  unfold buttonPressed
  rw [hshown, hshown, hnames]
  cases Assoc.last? "a" x.names.entries with
  | none => exact .done b false
  | some handle =>
    have htarget : P.Heads .target handle.toValue (P.moveHandle handle).toValue :=
      .inr ⟨handle.id, handle.widgetId?_toValue, (P.moveHandle handle).widgetId?_toValue⟩
    have hset : P.Requests .target .uiSet [handle.toValue.transcript, .int 1]
        [(P.moveHandle handle).toValue.transcript, .int 1] := .uiSet (.cons (.ok htarget) [.int 1])
    refine .ask (.call hset) fun b' h hcounted => ?_
    exact alike_unlessThrown (h.answers hs hcounted hset).reply fun _ _ _ _ => .done _ true

end Button

def buttonBridge (counters : Counters) : RecordingBridge :=
  ⟨⟨Recorder.platform buttonFiles, echoHost, buttonEngine, .standard, some ("tc", echoObject)⟩,
    .initial { Recorder.standard with assets := .directory "c" } [] counters⟩

theorem button_opens {counters : Counters} {source : List UInt8} {bridge : RecordingBridge}
    (h : buttonCase.Opens buttonFiles buttonEngine counters "c" source bridge) :
    source = Utf8.octets buttonScript ∧ bridge = buttonBridge counters := by
  obtain ⟨hread, hstart⟩ := h
  have hfile : buttonFiles.read (Path.join "c" buttonCase.script) = .ok (Utf8.octets buttonScript) := by
    decide +kernel
  rw [hfile] at hread
  have hname : checkExposedName "tc" = .ok () := by decide
  simp only [recordingBridge, Bridge.start, Option.getD_some, buttonCase, hname] at hstart
  exact ⟨(Except.ok.inj hread).symm, (Except.ok.inj hstart).symm⟩

theorem buttonEngine_script (natives : Natives) (scope : Scope) :
    buttonEngine.start natives scope buttonScript = some (buttonShown scope) := by
  simp only [buttonEngine, if_pos]

theorem buttonEngine_logic (natives : Natives) (scope : Scope) :
    buttonEngine.start natives scope buttonLogic = some (buttonPressed scope) := by
  have hother : buttonLogic ≠ buttonScript := by decide
  simp only [buttonEngine, if_neg hother, if_pos]

/-- The button has the logic, and the ids count up. -/
theorem button_course :
    let course := buttonCase.courseFrom (Utf8.octets buttonScript) (buttonBridge .first)
    (∀ f ∈ course.fired, f.binding.logic = .source buttonLogic) ∧
      ∀ e ∈ course.bridge.state.widgets.records, 1001 ≤ e.1 := by
  decide +kernel

/-- The system object is live when the asset is read. -/
theorem button_live :
    let s := (buttonBridge .first).setting
    let b := (s.bindScope s.fixedBindings (buttonBridge .first).state.openScope.2).2
    ((s.serveProgram (.call .ui [.handle ⟨2⟩, buttonData]) b).2.handles.find? ⟨1⟩).isSome := by
  decide +kernel

theorem button_opaque :
    buttonCase.Opaque buttonFiles buttonEngine "c" (.simple (.between .first ⟨2001, 8⟩)) := by
  intro source bridge hopens
  obtain ⟨hsource, hbridge⟩ := button_opens hopens
  have hrecords : (buttonBridge .first).setting.Records buttonFiles := ⟨rfl, rfl⟩
  have hengine : (buttonBridge .first).setting.engine = buttonEngine := rfl
  rw [hsource, hbridge]
  constructor
  · intro source scope scope' c b' c' hdecode h hscope hscope'
    have hmain : (Program.bytes (Utf8.octets buttonScript)).decode = .ok buttonScript := by
      decide +kernel
    obtain rfl : source = buttonScript := Except.ok.inj (hdecode.symm.trans hmain)
    obtain ⟨rfl, rfl⟩ := Setting.eq_of_programScope hscope
    obtain ⟨rfl, rfl⟩ := Setting.eq_of_programScope hscope'
    rw [h.handle, hengine, buttonEngine_script, buttonEngine_script, List.map_nil, List.nil_append,
      List.nil_append]
    exact .some (buttonShown_alike hrecords rfl (fun h => Or.inr ⟨h, rfl, rfl⟩) button_live)
  · intro f hfired y hxy source scope scope' c b' c' hdecode h hscope hscope'
    rw [button_course.1 f hfired] at hdecode
    obtain rfl : buttonLogic = source := Except.ok.inj hdecode
    obtain ⟨rfl, rfl⟩ := Setting.eq_of_programScope hscope
    obtain ⟨rfl, rfl⟩ := Setting.eq_of_programScope hscope'
    rw [h.handle, hengine, buttonEngine_logic, buttonEngine_logic]
    exact .some (buttonPressed_alike hrecords rfl hxy f.event _ _)

theorem button_countsUp {counters : Counters}
    (hfrom : ∀ e ∈ (buttonCase.courseFrom (Utf8.octets buttonScript)
      (buttonBridge counters)).bridge.state.widgets.records, counters.widget ≤ e.1) :
    buttonCase.CountsUp buttonFiles buttonEngine "c" counters := by
  intro source bridge hopens
  obtain ⟨hsource, hbridge⟩ := button_opens hopens
  rw [hsource, hbridge]
  exact WidgetTable.from_of_records hfrom

/-! ### Independence -/

/-- A case whose script and logic treat ids and handles as opaque ends the same from any two states of
    the counters, as long as no widget id overflows; so does its check. -/
theorem independent_of_start (files : FileTree) (engine : Engine) (c : TestCase) (directory : String)
    {counters later : Counters} (hlater : counters.handle ≤ later.handle)
    (contexts : Contexts (.between counters later)) (htreats : c.Opaque files engine directory contexts)
    (hcounts : c.CountsUp files engine directory counters)
    (hcounts' : c.CountsUp files engine directory later) :
    c.run files engine later directory = c.run files engine counters directory ∧
      ∀ path, readCase files path = .ok c →
        runCase files engine later directory path = runCase files engine counters directory path ∧
        assertCase files engine later directory path =
          assertCase files engine counters directory path := by
  have hrun := run_alike hlater contexts htreats hcounts hcounts'
  refine ⟨hrun, fun path hread => ⟨?_, ?_⟩⟩
  · simp only [runCase, hread, bind, Except.bind, hrun]
  · simp only [assertCase, hread, bind, Except.bind, hrun]

/-- The case does the same after others as in a new process, namely what the script language does, and
    shows the text that it read. -/
theorem independent_of_start_button :
    buttonCase.run buttonFiles buttonEngine ⟨2001, 8⟩ "c" =
        buttonCase.run buttonFiles buttonEngine .first "c" ∧
      buttonCase.run buttonFiles scriptLanguage .first "c" =
        buttonCase.run buttonFiles buttonEngine .first "c" ∧
      (buttonCase.run buttonFiles scriptLanguage .first "c").map RunReport.callbacks =
        .ok [[.string "hello", .int 7]] := by
  refine ⟨?_, by decide +kernel, by decide +kernel⟩
  exact (independent_of_start buttonFiles buttonEngine buttonCase "c" (by decide)
    (.simple (.between .first ⟨2001, 8⟩)) button_opaque
    (button_countsUp button_course.2) (button_countsUp (by decide +kernel))).1

/-- A case whose script hands the id of a label on to the callback object. -/
def leaking : TestCase :=
  ⟨caseSchema, "main.rhai", "tc", [], 0, [.label 1 ⟨0, 0⟩ "a", .place 1 ⟨0, 0, 38, 46⟩],
    some [[.int 1001]]⟩

def leakingFiles : FileTree :=
  .directory [("c", .directory
    [("main.rhai", .file (Utf8.octets "tc.callback(sys.label((), 0, 0, \"a\")[0]);"))])]

/-- The events are renumbered, the id in the call is not, so that the case fails when something ran
    before it. -/
theorem leaking_differs :
    let report (id : WidgetId) : RunReport :=
      ⟨.ok, [.label 1 ⟨0, 0⟩ "a", .place 1 ⟨0, 0, 38, 46⟩], [[.int id]], 0⟩
    leaking.run leakingFiles scriptLanguage ⟨1001, 1⟩ "c" = .ok (report 1001) ∧
      leaking.run leakingFiles scriptLanguage ⟨2001, 1⟩ "c" = .ok (report 2001) ∧
      leaking.check (report 1001) = .ok () ∧
      leaking.check (report 2001) = .error (.otherCallbacks [[.int 1001]] [[.int 2001]]) := by
  decide +kernel
end TestCase
end ScriptBridge
