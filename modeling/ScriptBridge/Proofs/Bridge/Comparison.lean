/-
  ScriptBridge/Proofs/Bridge/Comparison.lean
  ==========================================
  **Two bridges that are used side by side.**

  Two recording bridges are compared as their owner uses them.  They begin in
  related states wherever the counters of the process stand, and as long as what
  runs on them treats ids and handles as opaque, every use answers alike and
  leaves them in related states.

  When both start at the same counters, any script is alike to itself.  So a
  bridge does the same whether or not it still holds what was recorded before:
  this is the pairing `holding`.
-/
import ScriptBridge.Case.Run
import ScriptBridge.Proofs.Bridge.Alike

namespace ScriptBridge
namespace Pairing

/-- Two bridges that differ at most in where they started. -/
structure Bridges (P : Pairing) (files : FileTree) (x y : RecordingBridge) : Prop where
  setting : y.setting = x.setting
  records : x.setting.Records files
  states : P.States x.state y.state

namespace Bridges

variable {P : Pairing} {files : FileTree}

/-- Two bridges that nothing has happened on. -/
theorem start (hheld : P.held = []) (hheard : P.heard = []) (engine : Engine) (layout : LayoutConfig)
    (assets name : String) (counters : Counters) :
    Outcomes Eq (P.Bridges files) (recordingBridge files engine layout assets name counters)
      (recordingBridge files engine layout assets name
        ⟨P.move counters.widget, counters.handle + P.ahead⟩) := by
  unfold recordingBridge Bridge.start
  dsimp only [Option.getD_some]
  cases checkExposedName name with
  | error e => exact .error rfl
  | ok _ =>
    refine .ok ⟨rfl, ⟨rfl, rfl⟩, ?_⟩
    exact {
      platform := ⟨rfl, rfl, rfl, by rw [hheld]; rfl⟩
      host := by rw [hheard]; rfl
      handles := rfl
      classes := rfl
      widget := rfl
      handle := rfl
      widgets := .empty
      callbacks := fun _ => .none }

variable {x y : RecordingBridge} (h : P.Bridges files x y)

include h

/-- A program that treats ids as opaque. -/
theorem evaluate {program : Program} (hstarts : P.Starts x.setting program [] [] x.state)
    (hend : P.Counted (x.evaluate program []).2.state (y.evaluate program []).2.state) :
    (y.evaluate program []).1 = (x.evaluate program []).1 ∧
      P.Bridges files (x.evaluate program []).2 (y.evaluate program []).2 := by
  revert hend
  unfold Bridge.evaluate
  rw [h.setting]
  intro hend
  obtain ⟨hstatus, hstates⟩ := h.states.evaluate h.records .nil hstarts hend
  exact ⟨hstatus, rfl, h.records, hstates⟩

theorem findWidget (hcounted : P.Counted x.state y.state) (name : String) :
    y.findWidget name = (x.findWidget name).map P.moveHandle := by
  rw [Bridge.findWidget, Bridge.findWidget, h.states.findNamed?_eq hcounted, Option.map_map,
    Option.map_map]
  rfl

/-- A widget whose logic treats ids as opaque. -/
theorem dispatch {id : WidgetId} {event : Value}
    (hstarts : ∀ u v, x.state.callbacks.find? id = some u → P.Bindings u v →
      P.Starts x.setting u.logic (logicEntries u event) (logicEntries v event) x.state)
    (hend : P.Counted (x.dispatch id event).2.state (y.dispatch (P.move id) event).2.state) :
    (y.dispatch (P.move id) event).1 = (x.dispatch id event).1 ∧
      P.Bridges files (x.dispatch id event).2 (y.dispatch (P.move id) event).2 := by
  revert hend
  unfold Bridge.dispatch
  rw [h.setting]
  intro hend
  obtain ⟨hstatus, hstates⟩ := h.states.dispatch h.records id event hstarts hend
  exact ⟨hstatus, rfl, h.records, hstates⟩

end Bridges

/-! ### A bridge that still holds what was recorded -/

/-- The same run on two bridges, of which the second holds some events and calls from before. -/
def holding (held : List PlatformEvent) (heard : List (List Value)) : Pairing where
  first := Int64.minValue
  second := Int64.minValue
  ahead := 0
  contexts := Eq
  handles_eq h := by
    rw [h]
    exact (List.map_id _).symm
  depth_le_iff h := by rw [h]
  held := held
  heard := heard

section Holding

variable {held : List PlatformEvent} {heard : List (List Value)}

@[simp] theorem holding_move (id : WidgetId) : (holding held heard).move id = id :=
  Shift.move_eq_self _ rfl id

@[simp] theorem holding_moveObject (h : ObjectHandle) : (holding held heard).moveObject h = h := rfl

@[simp] theorem holding_moveHandle (h : WidgetHandle) : (holding held heard).moveHandle h = h := by
  simp [Shift.moveHandle]

@[simp] theorem holding_moveNames (t : NameTable) : (holding held heard).moveNames t = t := by
  simp [Shift.moveNames]

@[simp] theorem holding_moveOutput (o : RenderOutput) : (holding held heard).moveOutput o = o := by
  cases o <;> simp [Shift.moveOutput]

theorem holding_moveData (d : Data) : (holding held heard).moveData d = d := by
  cases d <;> rfl

theorem counted_holding (b b' : RecordingState) : (holding held heard).Counted b b' :=
  ⟨fun id _ => Int64.minValue_le id, fun id _ => Int64.minValue_le id⟩

variable {purpose : Purpose}

theorem heads_holding (purpose : Purpose) (v : Value) : (holding held heard).Heads purpose v v := by
  cases purpose with
  | target =>
    cases hid : v.widgetId? with
    | none => exact .inl ⟨rfl, hid⟩
    | some id => exact .inr ⟨id, hid, by rw [holding_move, hid]⟩
  | _ => exact rfl

theorem arguments_holding (purpose : Purpose) (args : List Data) :
    (holding held heard).Arguments purpose args args := by
  cases args with
  | nil => exact .nil
  | cons d rest =>
    refine .cons ?_ rest
    cases d.unmarshal with
    | ok v => exact .ok (heads_holding purpose v)
    | error e => exact .error rfl

variable (held heard) in
theorem requests_holding (native : Native) (args : List Data) :
    ∃ purpose, (holding held heard).Requests purpose native args args := by
  cases hcall : native.methodCall? args with
  | some call => exact ⟨_, .method hcall hcall (arguments_holding _ call.2.2)⟩
  | none =>
    have hsame : args.map (holding held heard).moveData = args := by
      rw [funext holding_moveData, List.map_id']
    have hother (h : native.purpose args = .other) :
        (holding held heard).Requests .other native args args := by
      have hrequest : (holding held heard).Requests .other native args _ := .other hcall h
      rwa [hsame] at hrequest
    cases native with
    | ui => exact ⟨_, .ui (arguments_holding _ args)⟩
    | uiSet => exact ⟨_, .uiSet (arguments_holding _ args)⟩
    | _ => exact ⟨_, hother (by simp [Native.purpose, hcall])⟩

theorem errors_holding {e e' : BridgeError} (h : (holding held heard).Errors e e') : e' = e := by
  cases h <;> simp

theorem replies_holding {b : RecordingState} {args : List Data} {r r' : Except Data Data}
    (h : (holding held heard).Replies purpose b args r r') : r' = r := by
  cases h with
  | stale hargs hgone => rw [holding_moveObject]
  | answered houtcomes =>
    cases houtcomes with
    | ok huv =>
      cases purpose with
      | widget =>
        obtain ⟨handle, rfl, rfl⟩ := huv
        rw [holding_moveHandle]
      | tree =>
        obtain ⟨output, rfl, rfl⟩ := huv
        rw [holding_moveOutput]
      | target | other => rw [show _ = _ from huv]
    | error he =>
      cases purpose with
      | other => rw [show _ = _ from he]
      | _ => rw [errors_holding he]

variable {files : FileTree} {s : Setting Recorder (List (List Value)) EchoClass} (hs : s.Records files)

include hs

/-- Any request is answered the same. -/
theorem served_holding {b b' : RecordingState} (h : (holding held heard).States b b')
    (inner : Reentry Recorder (List (List Value)) EchoClass) (running : List (ObjectRef EchoClass))
    (r : ScriptRequest) :
    (s.serveScript inner running r b').1 = (s.serveScript inner running r b).1 := by
  cases r with
  | print line => rfl
  | call native args =>
    obtain ⟨purpose, hrequest⟩ := requests_holding held heard native args
    exact replies_holding (h.callNative hs (counted_holding b b') hrequest).reply

/-- Any script does the same. -/
theorem alike_holding (inner : Reentry Recorder (List (List Value)) EchoClass)
    (running : List (ObjectRef EchoClass)) (x : Script) (b : RecordingState) :
    (holding held heard).Alike (s.serveScript inner running) b x x := by
  induction x generalizing b with
  | done completed => exact .done b completed
  | ask r next ih =>
    have hasks : (holding held heard).Asks r r := by
      cases r with
      | print line => exact .print line
      | call native args =>
        obtain ⟨purpose, hrequest⟩ := requests_holding held heard native args
        exact .call hrequest
    refine .ask hasks fun b' h _ => ?_
    rw [served_holding hs h inner running r]
    exact ih _ _

theorem starts_holding (program : Program) (entries : List (String × Value)) (b : RecordingState) :
    (holding held heard).Starts s program entries entries b := by
  intro source scope scope' c b' c' _ h hscope hscope'
  obtain ⟨rfl, rfl⟩ := Setting.eq_of_programScope hscope
  obtain ⟨rfl, rfl⟩ := Setting.eq_of_programScope hscope'
  have hhandle : b'.counters.handle = b.counters.handle := h.handle
  rw [hhandle, (h.openScope.bindScope_fixed (s := s)).classes]
  cases s.engine.start _ _ source with
  | none => exact .none
  | some script => exact .some (alike_holding hs _ _ script _)

omit hs

variable {x y : RecordingBridge} (h : (holding held heard).Bridges files x y)

include h

theorem Bridges.events_holding : y.state.platform.events = held ++ x.state.platform.events := by
  rw [h.states.platform.events, funext (Shift.moveEvent_eq_self _ rfl), List.map_id']
  rfl

theorem Bridges.host_holding : y.state.host = heard ++ x.state.host := h.states.host

theorem Bridges.findWidget_holding (name : String) : y.findWidget name = x.findWidget name := by
  rw [h.findWidget (counted_holding _ _), funext holding_moveHandle, Option.map_id']

theorem Bridges.evaluate_holding (program : Program) :
    (y.evaluate program []).1 = (x.evaluate program []).1 ∧
      (holding held heard).Bridges files (x.evaluate program []).2 (y.evaluate program []).2 :=
  h.evaluate (starts_holding h.records _ _ _) (counted_holding _ _)

theorem Bridges.dispatch_holding (id : WidgetId) (event : Value) :
    (y.dispatch id event).1 = (x.dispatch id event).1 ∧
      (holding held heard).Bridges files (x.dispatch id event).2 (y.dispatch id event).2 := by
  have hstarts : ∀ u v, x.state.callbacks.find? id = some u → (holding held heard).Bindings u v →
      (holding held heard).Starts x.setting u.logic (logicEntries u event) (logicEntries v event)
        x.state := by
    intro u v _ huv
    have hentries : logicEntries v event = logicEntries u event := by
      rw [logicEntries, logicEntries, huv.names, holding_moveNames, huv.context]
    rw [hentries]
    exact starts_holding h.records _ _ _
  have hdispatched := h.dispatch hstarts (counted_holding _ _)
  rwa [holding_move] at hdispatched

end Holding
end Pairing
end ScriptBridge
