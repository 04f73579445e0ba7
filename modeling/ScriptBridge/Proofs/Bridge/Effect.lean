/-
  ScriptBridge/Proofs/Bridge/Effect.lean
  ======================================
  **What one action does to the records and to the log of a recording platform.**

  The bridge writes its records and the platform its events, in separate steps.
  Seen from outside an action has one of five effects: it touches no widget, it
  builds one, or it moves, changes or destroys a live one.  `affects_act` says so
  of every action on a bridge over a recording platform, given that the next id
  is fresh.  What relates records and events is then shown once for each effect.
-/
import ScriptBridge.Proofs.Bridge.Build
import ScriptBridge.Proofs.Bridge.Chronicle
import ScriptBridge.Proofs.Platform.Recorder

namespace ScriptBridge

variable {η κ : Type}

/-- How the records change, and the events that come with it. -/
inductive Effect (t : WidgetTable) : WidgetTable → List PlatformEvent → Prop where
  /-- No widget is touched. -/
  | quiet {new : List PlatformEvent} (hnew : ∀ e ∈ new, e.widget? = none) : Effect t t new
  /-- A widget without a record is created and placed. -/
  | build {t' : WidgetTable} {id : WidgetId} {e : PlatformEvent} {w : WidgetRecord}
      (hnone : t.find? id = none) (he : e.created? = some (id, w.kind))
      (ht : ∀ id', t'.find? id' = if id = id' then some w else t.find? id') :
      Effect t t' [e, .place id w.frame]
  | place {id : WidgetId} {w : WidgetRecord} (hw : t.find? id = some w)
      (hlive : w.state.isLive = true) (frame : Frame) :
      Effect t (t.set id { w with state := .placed, frame := frame }) [.place id frame]
  | setText {id : WidgetId} {w : WidgetRecord} (hw : t.find? id = some w)
      (hlive : w.state.isLive = true) (htext : w.kind.supportsText = true) (text : String) :
      Effect t t [.setText id text]
  | destroy {id : WidgetId} {w : WidgetRecord} (hw : t.find? id = some w)
      (hlive : w.state.isLive = true) : Effect t (t.set id { w with state := .destroyed }) []

namespace Effect

variable {t t' : WidgetTable} {new : List PlatformEvent}

/-- Every event is about a widget that was live, or had no record and has one now. -/
theorem widget_of_mem (h : Effect t t' new) {e : PlatformEvent} (he : e ∈ new) {id : WidgetId}
    (hid : e.widget? = some id) : t.Live id ∨ t.find? id = none := by
  cases h with
  | quiet hnew =>
    rw [hnew e he] at hid
    cases hid
  | build hnone hcreated ht =>
    right
    rcases List.mem_cons.mp he with rfl | he
    · rw [PlatformEvent.widget?_of_created? hcreated] at hid
      cases hid
      exact hnone
    · rw [List.mem_singleton.mp he] at hid
      cases hid
      exact hnone
  | place hw hlive frame =>
    rw [List.mem_singleton.mp he] at hid
    cases hid
    exact Or.inl ⟨_, hw, hlive⟩
  | setText hw hlive htext text =>
    rw [List.mem_singleton.mp he] at hid
    cases hid
    exact Or.inl ⟨_, hw, hlive⟩
  | destroy hw hlive => cases he

/-- A text is only ever set on a live widget that shows one. -/
theorem text_of_mem (h : Effect t t' new) {id : WidgetId} {text : String}
    (he : .setText id text ∈ new) :
    ∃ w, t.find? id = some w ∧ w.state.isLive = true ∧ w.kind.supportsText = true := by
  cases h with
  | quiet hnew => cases hnew _ he
  | build hnone hcreated ht =>
    rcases List.mem_cons.mp he with rfl | he
    · cases hcreated
    · cases List.mem_singleton.mp he
  | place hw hlive frame => cases List.mem_singleton.mp he
  | setText hw hlive htext text' =>
    cases List.mem_singleton.mp he
    exact ⟨_, hw, hlive, htext⟩
  | destroy hw hlive => cases he

end Effect

/-! ### The effects of operations -/

/-- The records and the log of the later state follow from the earlier one by an effect. -/
def BridgeState.Affects (b b' : BridgeState Recorder η κ) : Prop :=
  ∃ new, b'.platform.events = b.platform.events ++ new ∧ Effect b.widgets b'.widgets new

namespace BridgeState.Affects

variable {b b' : BridgeState Recorder η κ}

theorem of_eq (hplatform : b'.platform = b.platform) (hwidgets : b'.widgets = b.widgets) :
    b.Affects b' :=
  ⟨[], by rw [hplatform, List.append_nil], hwidgets ▸ .quiet fun _ he => absurd he List.not_mem_nil⟩

/-- One event that is about no widget. -/
theorem of_event {e : PlatformEvent} (he : e.widget? = none) :
    b.Affects { b with platform := b.platform.record e } :=
  ⟨[e], rfl, .quiet fun e' he' => by rwa [List.mem_singleton.mp he']⟩

theorem place (files : FileTree) (id : WidgetId) (frame : Frame) (b : BridgeState Recorder η κ) :
    b.Affects (b.place (Recorder.platform files) id frame).2 := by
  rcases b.place_cases (Recorder.platform files) id frame with
    ⟨_, e, heq⟩ | ⟨e, _, hanswer, heq⟩ | ⟨w, hw, hlive, hanswer, heq⟩
  · rw [heq]
    exact .of_eq rfl rfl
  · have hanswered : Recorder.onWidget "place" id (.place id frame) b.platform =
        (.error e, ((Recorder.platform files).place id frame b.platform).2) := Prod.ext hanswer rfl
    rw [heq]
    rcases Recorder.onWidget_cases "place" id (.place id frame) b.platform with ⟨_, hrefused⟩ | hdone
    · refine .of_eq ?_ rfl
      rw [hrefused] at hanswered
      exact (Prod.mk.inj hanswered).2.symm
    · rw [hdone] at hanswered
      cases (Prod.mk.inj hanswered).1
  · have hanswered : Recorder.onWidget "place" id (.place id frame) b.platform =
        (.ok (), ((Recorder.platform files).place id frame b.platform).2) := Prod.ext hanswer rfl
    rw [heq]
    rcases Recorder.onWidget_cases "place" id (.place id frame) b.platform with ⟨_, hrefused⟩ | hdone
    · rw [hrefused] at hanswered
      cases (Prod.mk.inj hanswered).1
    · rw [hdone] at hanswered
      refine ⟨[.place id frame], ?_, .place hw hlive frame⟩
      exact congrArg Recorder.events (Prod.mk.inj hanswered).2.symm

/-- A widget that the platform knows is placed. -/
theorem place_of_created (files : FileTree) {id : WidgetId} {w : WidgetRecord}
    (hw : b.widgets.find? id = some w) (hlive : w.state.isLive = true)
    (hknown : b.platform.created.contains id = true) (frame : Frame) :
    (b.place (Recorder.platform files) id frame).2 =
      { b with
        platform := b.platform.record (.place id frame)
        widgets := b.widgets.set id { w with state := .placed, frame := frame } } := by
  have hdone : (Recorder.platform files).place id frame b.platform =
      (.ok (), b.platform.record (.place id frame)) := Recorder.onWidget_of_created hknown "place" _
  rcases b.place_cases (Recorder.platform files) id frame with
    ⟨hdead, _⟩ | ⟨e, _, hanswer, _⟩ | ⟨w', hw', _, _, heq⟩
  · exact absurd ⟨w, hw, hlive⟩ hdead
  · rw [hdone] at hanswer
    cases hanswer
  · rw [hw] at hw'
    cases hw'
    rw [heq, BridgeState.afterPlacement, hdone]

theorem build (files : FileTree) (context : Value) (plan : WidgetPlan) (r : Rendering)
    {b : BridgeState Recorder η κ} (hfresh : b.widgets.find? b.counters.widget = none) :
    b.Affects (b.build (Recorder.platform files) context plan r).2.2 := by
  have hrecorder := Recorder.create_cases files b.counters.widget plan.blueprint b.platform
  rcases b.create_cases (Recorder.platform files) context r.names plan with
    ⟨fault, hanswer, heq⟩ | ⟨size, fault, _, hborn, _⟩ | ⟨size, hanswer, _, heq⟩
  · rw [BridgeState.build_of_create_error heq]
    rcases hrecorder with ⟨_, hrefused⟩ | ⟨_, _, hdone, _⟩
    · exact .of_eq (congrArg Prod.snd hrefused) rfl
    · cases hanswer.symm.trans (congrArg Prod.fst hdone)
  · exact absurd (WidgetTable.stateOf_of_find?_none hfresh) hborn
  · rcases hrecorder with ⟨_, hrefused⟩ | ⟨_, e, hdone, hcreated⟩
    · cases hanswer.symm.trans (congrArg Prod.fst hrefused)
    rw [BridgeState.build_of_create_ok heq]
    -- the state between the creation and the placement
    generalize hmiddle : (b.afterCreation (Recorder.platform files) context r.names plan size).shareNames
      (r.add plan ⟨b.counters.widget, size.width, size.height⟩) = b'
    have hplatform : b'.platform = b.platform.recordCreation b.counters.widget e := by
      rw [← hmiddle]
      exact (BridgeState.bindLogic_platform ..).trans (congrArg Prod.snd hdone)
    have hwidgets : b'.widgets = b.widgets.set b.counters.widget (plan.record size) := by
      rw [← hmiddle]
      exact BridgeState.bindLogic_widgets ..
    have hw : b'.widgets.find? b.counters.widget = some (plan.record size) := by
      rw [hwidgets, WidgetTable.find?_set, if_pos rfl]
    have hknown : b'.platform.created.contains b.counters.widget = true := by
      rw [hplatform]
      simp [Recorder.recordCreation]
    refine ⟨[e, .place b.counters.widget (plan.frame ⟨b.counters.widget, size.width, size.height⟩)],
      ?_, ?_⟩
    · rw [place_of_created files hw rfl hknown, hplatform]
      simp [Recorder.record, Recorder.recordCreation]
    · rw [place_of_created files hw rfl hknown, hwidgets]
      refine .build (w := { plan.record size with state := .placed, frame := _ }) hfresh hcreated ?_
      intro id
      rw [WidgetTable.find?_set, WidgetTable.find?_set]
      split <;> rfl

theorem setText (files : FileTree) (target text : Value) (b : BridgeState Recorder η κ) :
    b.Affects (b.setText (Recorder.platform files) target text) := by
  unfold BridgeState.setText
  split
  · exact .of_eq rfl rfl
  · next id _ =>
    split
    · exact .of_eq rfl rfl
    · next w hw =>
      split
      · next hcan =>
        obtain ⟨hlive, htext⟩ := Bool.and_eq_true_iff.mp hcan
        rcases Recorder.onWidget_cases "set_text" id (.setText id text.text) b.platform with
          ⟨_, hrefused⟩ | hdone
        · exact .of_eq (congrArg Prod.snd hrefused) rfl
        · refine ⟨[.setText id text.text], ?_, .setText hw hlive htext text.text⟩
          exact congrArg (fun x => x.2.events) hdone
      · exact .of_eq rfl rfl

theorem destroyWidget (id : WidgetId) (b : BridgeState Recorder η κ) :
    b.Affects (b.destroyWidget id).2 := by
  rcases b.destroyWidget_cases id with ⟨e, heq⟩ | ⟨w, hw, hlive, heq⟩
  · rw [heq]
    exact .of_eq rfl rfl
  · rw [heq]
    exact ⟨[], (List.append_nil _).symm, .destroy hw hlive⟩

end BridgeState.Affects

/-! ### The effect of an action -/

theorem Setting.affects_act [DecidableEq κ] {s : Setting Recorder η κ} {files : FileTree}
    (hs : s.platform = Recorder.platform files) (a : Action η κ) (c : Chronicle Recorder η κ)
    (hfresh : 0 < a.widgets → c.state.widgets.find? c.state.counters.widget = none) :
    c.state.Affects (s.act a c).state := by
  cases a with
  | closeScope =>
    simp only [act]
    split
    · exact .of_eq rfl rfl
    · exact .of_eq rfl rfl
  | build context plan r =>
    simp only [act, hs]
    exact .build files context plan r (hfresh Nat.one_pos)
  | put target frame =>
    simp only [act, BridgeState.put, hs]
    split
    · exact .of_eq rfl rfl
    · next id _ => exact .place files id frame c.state
  | setText target text =>
    simp only [act, hs]
    exact .setText files target text c.state
  | destroy id => exact .destroyWidget id c.state
  | read path =>
    simp only [act, hs]
    exact .of_event (e := .read path _) rfl
  | window width height =>
    simp only [act, hs]
    exact .of_event (e := .window c.state.platform.window) rfl
  | print line =>
    simp only [act, hs]
    exact .of_event (e := .print line) rfl
  | _ => exact .of_eq rfl rfl

end ScriptBridge
