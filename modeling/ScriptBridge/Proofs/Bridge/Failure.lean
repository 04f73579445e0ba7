/-
  ScriptBridge/Proofs/Bridge/Failure.lean
  =======================================
  **How making and moving widgets can fail.**

  A render fails by the form of the description, before anything is done, or
  because the platform refuses the single widget that the description is
  (`RenderFault`).  Moving a widget fails by its target, before the platform is
  asked, or because the platform refuses (`PutFault`).

  The code checks more than that: it refuses a new widget under an id that has a
  record, and a placement of a widget that was never born.  Neither comes to
  pass, since the next id has no record and every record is that of a widget
  which was created.
-/
import ScriptBridge.Proofs.Bridge.Arrangement
import ScriptBridge.Proofs.Bridge.FreshBuild
import ScriptBridge.Proofs.Bridge.Trace
import ScriptBridge.Proofs.Descriptor.Canonical

namespace ScriptBridge

variable {σ η κ : Type}

namespace Answer

theorem outcome_eq_error_iff {answer : Answer} {id : WidgetId} {e : BridgeError} :
    answer.outcome id = .error e ↔ ∃ refusal, answer.refusal? = some refusal ∧ e = refusal.toBridge := by
  cases answer with
  | refused refusal => simp [outcome, refusal?, eq_comm]
  | unplaced size refusal => simp [outcome, refusal?, eq_comm]
  | placed size => simp [outcome, refusal?]

end Answer

namespace BridgeState

variable {platform : Platform σ} {b : BridgeState σ η κ}

/-! ### Rendering -/

/-- Why a render fails, with the error. -/
inductive RenderFault (platform : Platform σ) (layout : LayoutConfig) (description : Value)
    (b : BridgeState σ η κ) : BridgeError → Prop where
  | malformed {fault : DescriptorError} (hread : Descriptor.ofValue description = .error fault) :
      RenderFault platform layout description b (.descriptor fault.message)
  | refused {kind : WidgetKind} {a : Attributes} {warnings : List Warning} {refusal : PlatformError}
      (hread : Descriptor.ofValue description = .ok (.leaf kind a, warnings))
      (hrefusal : (b.answer platform (.ofLeaf kind a layout.rootOrigin)).refusal? = some refusal) :
      RenderFault platform layout description b
        (.invocation "hal" refusal.operation refusal.message)

/-- A description without the form of a node is refused before anything is done. -/
theorem render_of_formless {description : Value} (h : Descriptor.Formless description)
    (platform : Platform σ) (layout : LayoutConfig) (context : Value) (b : BridgeState σ η κ) :
    ∃ fault : DescriptorError, b.render platform layout context description =
      (.error (.descriptor fault.message), b) := by
  obtain ⟨fault, hread⟩ := Descriptor.readNode_error_iff.mpr h
  refine ⟨fault, ?_⟩
  rw [render, Descriptor.ofValue, hread]

theorem render_eq_error_iff (hroom : b.Room 1) (layout : LayoutConfig) (context description : Value)
    (e : BridgeError) :
    (b.render platform layout context description).1 = .error e ↔
      RenderFault platform layout description b e := by
  constructor
  · intro herror
    unfold render at herror
    cases hread : Descriptor.ofValue description with
    | error fault =>
      rw [hread] at herror
      cases herror
      exact .malformed hread
    | ok read =>
      obtain ⟨d, warnings⟩ := read
      rw [hread] at herror
      cases d with
      | container axis name children => cases herror
      | leaf kind a =>
        have hbuild : (b.buildAlone platform context (.ofLeaf kind a layout.rootOrigin)).1 =
            .error e := by
          simp only [renderTree] at herror
          cases hresult : (b.buildAlone platform context (.ofLeaf kind a layout.rootOrigin)).1 with
          | error e' =>
            rw [hresult] at herror
            cases herror
            rfl
          | ok handle =>
            rw [hresult] at herror
            cases herror
        have houtcome := (build_fst (hroom.unborn Nat.one_pos) context .empty).symm.trans hbuild
        obtain ⟨refusal, hrefusal, rfl⟩ := Answer.outcome_eq_error_iff.mp houtcome
        exact .refused hread hrefusal
  · intro hfault
    cases hfault with
    | malformed hread => rw [render, hread]
    | @refused kind a warnings refusal hread hrefusal =>
      have hbuild : (b.buildAlone platform context (.ofLeaf kind a layout.rootOrigin)).1 =
          .error refusal.toBridge := by
        refine (build_fst (hroom.unborn Nat.one_pos) context .empty).trans ?_
        exact Answer.outcome_eq_error_iff.mpr ⟨refusal, hrefusal, rfl⟩
      simp only [render, hread, renderTree, hbuild]
      rfl

/-! ### Moving -/

/-- Why moving a widget fails, with the error. -/
inductive PutFault (platform : Platform σ) (target : Value) (frame : Frame)
    (b : BridgeState σ η κ) : BridgeError → Prop where
  | noWidget (htarget : b.target? target = none) :
      PutFault platform target frame b (.marshal (.kindMismatch "widget" target.typeName))
  | unknown {id : WidgetId} (htarget : b.target? target = some id)
      (hunknown : b.widgets.find? id = none) :
      PutFault platform target frame b (.unknownWidget id)
  | destroyed {id : WidgetId} {w : WidgetRecord} (htarget : b.target? target = some id)
      (hw : b.widgets.find? id = some w) (hstate : w.state = .destroyed) :
      PutFault platform target frame b (.eval ("widget " ++ Word.text id ++ " was destroyed"))
  | refused {id : WidgetId} {refusal : PlatformError} (htarget : b.target? target = some id)
      (hlive : b.widgets.Live id) (hrefusal : (platform.place id frame b.platform).1 = .error refusal) :
      PutFault platform target frame b (.invocation "hal" refusal.operation refusal.message)

theorem place_of_unknown {id : WidgetId} (h : b.widgets.find? id = none) (frame : Frame) :
    b.place platform id frame = (.error (.unknownWidget id), b) := by
  simp only [place, h]

theorem place_of_destroyed {id : WidgetId} {w : WidgetRecord} (hw : b.widgets.find? id = some w)
    (hstate : w.state = .destroyed) (frame : Frame) :
    b.place platform id frame =
      (.error (.eval ("widget " ++ Word.text id ++ " was destroyed")), b) := by
  have hdead : w.state.isLive = false := by rw [hstate]; rfl
  simp only [place, hw, hdead]
  rfl

theorem put_of_target {target : Value} {id : WidgetId} (htarget : b.target? target = some id)
    (platform : Platform σ) (frame : Frame) :
    b.put platform target frame = b.place platform id frame := by
  rw [put, htarget]

/-- Without a live widget for its target, a move changes nothing. -/
theorem put_of_not_live {target : Value}
    (h : ∀ id, b.target? target = some id → ¬ b.widgets.Live id) (frame : Frame) :
    (b.put platform target frame).2 = b := by
  cases htarget : b.target? target with
  | none => rw [put, htarget]
  | some id =>
    rw [put_of_target htarget]
    rcases place_cases platform id frame b with
      ⟨-, e, heq⟩ | ⟨e, hlive, -, -⟩ | ⟨w, hw, hlive, -, -⟩
    · rw [heq]
    · exact absurd hlive (h id htarget)
    · exact absurd ⟨w, hw, hlive⟩ (h id htarget)

/-- With a live widget for its target, a move asks the platform once. -/
theorem calls_put_of_live {target : Value} {id : WidgetId} (htarget : b.target? target = some id)
    (hlive : b.widgets.Live id) (frame : Frame) :
    (b.traced.put platform.traced target frame).2.calls =
      [.place id frame (platform.place id frame b.platform).1] := by
  have hmove : b.traced.put platform.traced target frame = b.traced.place platform.traced id frame :=
    put_of_target (b := b.traced) htarget platform.traced frame
  rw [hmove]
  rcases place_cases platform.traced id frame b.traced with
    ⟨hdead, -⟩ | ⟨e, -, -, heq⟩ | ⟨w, -, -, -, heq⟩
  · exact absurd hlive hdead
  · rw [heq]
    rfl
  · rw [heq]
    rfl

/-- A move that fails changes no record. -/
theorem widgets_put_of_error {target : Value} {frame : Frame} {e : BridgeError}
    (h : (b.put platform target frame).1 = .error e) :
    (b.put platform target frame).2.widgets = b.widgets := by
  cases htarget : b.target? target with
  | none => rw [put, htarget]
  | some id =>
    rw [put_of_target htarget] at h ⊢
    rcases place_cases platform id frame b with ⟨-, e, heq⟩ | ⟨e, -, -, heq⟩ | ⟨w, -, -, -, heq⟩
    · rw [heq]
    · rw [heq]
    · rw [heq] at h
      cases h

/-- A placement of a live widget that the platform accepts gets through. -/
theorem place_of_accepted {id : WidgetId} {frame : Frame} (hlive : b.widgets.Live id)
    (haccepted : (platform.place id frame b.platform).1 = .ok ()) :
    (b.place platform id frame).1 = .ok () ∧
      (b.place platform id frame).2.widgets.Placed id frame := by
  rcases place_cases platform id frame b with
    ⟨hdead, -⟩ | ⟨e, -, hrefused, -⟩ | ⟨w, -, -, -, heq⟩
  · exact absurd hlive hdead
  · rw [haccepted] at hrefused
    cases hrefused
  · rw [heq]
    refine ⟨rfl, { w with state := .placed, frame := frame }, ?_, rfl, rfl⟩
    rw [afterPlacement, WidgetTable.find?_set, if_pos rfl]

theorem put_eq_error_iff (hborn : ∀ id w, b.widgets.find? id = some w → w.state ≠ .unborn)
    (target : Value) (frame : Frame) (e : BridgeError) :
    (b.put platform target frame).1 = .error e ↔ PutFault platform target frame b e := by
  constructor
  · intro herror
    cases htarget : b.target? target with
    | none =>
      rw [put, htarget] at herror
      cases herror
      exact .noWidget htarget
    | some id =>
      rw [put_of_target htarget] at herror
      rcases place_cases platform id frame b with
        ⟨hdead, -⟩ | ⟨refusal, hlive, hrefusal, heq⟩ | ⟨w, -, -, -, heq⟩
      · cases hw : b.widgets.find? id with
        | none =>
          rw [place_of_unknown hw] at herror
          cases herror
          exact .unknown htarget hw
        | some w =>
          have hstate : w.state = .destroyed := by
            have hunlive : ¬ w.state.isLive = true := fun hlive => hdead ⟨w, hw, hlive⟩
            have hborn := hborn id w hw
            cases hstate : w.state <;> simp_all [WidgetState.isLive]
          rw [place_of_destroyed hw hstate] at herror
          cases herror
          exact .destroyed htarget hw hstate
      · rw [heq] at herror
        cases herror
        exact .refused htarget hlive hrefusal
      · rw [heq] at herror
        cases herror
  · intro hfault
    cases hfault with
    | noWidget htarget => rw [put, htarget]
    | unknown htarget hunknown => rw [put_of_target htarget, place_of_unknown hunknown]
    | destroyed htarget hw hstate => rw [put_of_target htarget, place_of_destroyed hw hstate]
    | @refused id refusal htarget hlive hrefusal =>
      rw [put_of_target htarget]
      rcases place_cases platform id frame b with
        ⟨hdead, -⟩ | ⟨refusal', -, hrefusal', heq⟩ | ⟨w, -, -, haccepted, -⟩
      · exact absurd hlive hdead
      · obtain rfl : refusal = refusal' := Except.error.inj (hrefusal.symm.trans hrefusal')
        rw [heq]
        rfl
      · rw [hrefusal] at haccepted
        cases haccepted

end BridgeState

namespace Setting

variable [DecidableEq κ] (s : Setting σ η κ)

/-- In every state that a bridge can get into before the ids run out, whatever the platform answers.
    A render with a container at its root hands back its names.  A description without the form of a
    node, and only that, is a descriptor error; then the platform is not asked and nothing changes.
    Otherwise a render fails only for a single widget that the platform refuses.  Moving a widget
    fails in four cases and in no other.  A move that fails leaves all records as they were.  Without
    a live widget for its target the platform is not asked and nothing changes; with one it is asked
    once, and if it accepts, the move gets through. -/
theorem construction_errors {b : BridgeState σ η κ} (hb : s.Arises 1 b)
    (context description target : Value) (frame : Frame) :
    let drawn := b.render s.platform s.layout context description
    let moved := b.put s.platform target frame
    let watchedDraw := b.traced.render s.platform.traced s.layout context description
    let watchedMove := b.traced.put s.platform.traced target frame
    (drawn = (watchedDraw.1, watchedDraw.2.untraced) ∧
      moved = (watchedMove.1, watchedMove.2.untraced)) ∧
    (∀ axis name children warnings,
      Descriptor.ofValue description = .ok (.container axis name children, warnings) →
        ∃ table, drawn.1 = .ok (.names table)) ∧
    ((∃ message, drawn.1 = .error (.descriptor message)) ↔ Descriptor.Formless description) ∧
    (Descriptor.Formless description → drawn.2 = b ∧ watchedDraw.2.calls = []) ∧
    (∀ e, drawn.1 = .error e ↔ BridgeState.RenderFault s.platform s.layout description b e) ∧
    (∀ e, moved.1 = .error e ↔ BridgeState.PutFault s.platform target frame b e) ∧
    (∀ e, moved.1 = .error e → moved.2.widgets = b.widgets) ∧
    ((∀ id, b.target? target = some id → ¬ b.widgets.Live id) →
      moved.2 = b ∧ watchedMove.2.calls = []) ∧
    (∀ id, b.target? target = some id → b.widgets.Live id →
      watchedMove.2.calls = [.place id frame (s.platform.place id frame b.platform).1] ∧
      ((s.platform.place id frame b.platform).1 = .ok () →
        moved.1 = .ok () ∧ moved.2.widgets.Placed id frame)) := by
  intro drawn moved watchedDraw watchedMove
  have hdraw : ∀ e, drawn.1 = .error e ↔
      BridgeState.RenderFault s.platform s.layout description b e :=
    BridgeState.render_eq_error_iff hb.room s.layout context description
  refine ⟨⟨BridgeState.untraces_render s.platform s.layout context description b.traced,
    BridgeState.untraces_put s.platform target frame b.traced⟩, ?_, ?_, ?_, hdraw,
    BridgeState.put_eq_error_iff (fun _ _ => hb.born) target frame,
    fun _ => BridgeState.widgets_put_of_error, ?_, ?_⟩
  · intro axis name children warnings hread
    simp only [drawn, BridgeState.render, hread, BridgeState.renderTree]
    exact ⟨_, rfl⟩
  · constructor
    · rintro ⟨message, herror⟩
      cases (hdraw _).mp herror with
      | malformed hread => exact Descriptor.readNode_error_iff.mp ⟨_, hread⟩
    · intro hformless
      obtain ⟨fault, heq⟩ := BridgeState.render_of_formless hformless s.platform s.layout context b
      exact ⟨fault.message, congrArg Prod.fst heq⟩
  · intro hformless
    obtain ⟨fault, heq⟩ := BridgeState.render_of_formless hformless s.platform s.layout context b
    obtain ⟨fault', heq'⟩ := BridgeState.render_of_formless hformless s.platform.traced s.layout
      context b.traced
    refine ⟨congrArg Prod.snd heq, ?_⟩
    simp only [watchedDraw, heq']
    rfl
  · intro hdead
    refine ⟨BridgeState.put_of_not_live hdead frame, ?_⟩
    have hsame : watchedMove.2 = b.traced := BridgeState.put_of_not_live (b := b.traced) hdead frame
    rw [hsame, BridgeState.calls_traced]
  · intro id htarget hlive
    refine ⟨BridgeState.calls_put_of_live htarget hlive frame, ?_⟩
    intro haccepted
    have hmove : moved = b.place s.platform id frame :=
      BridgeState.put_of_target htarget s.platform frame
    rw [hmove]
    exact BridgeState.place_of_accepted hlive haccepted

/-- A label is built and destroyed; moving it fails, with the error of a destroyed widget, and
    leaves its record. -/
theorem construction_errors_destroyedLabel :
    let label : WidgetPlan := ⟨.label ⟨0, 0⟩ "gone", none, none⟩
    let b : BridgeState Recorder (List (List Value)) EchoClass :=
      (rehearsal.actAll [.build .nil label .empty, .destroy 1001] (.initial .standard [] .first)).state
    let moved := b.put rehearsal.platform (.int 1001) ⟨1, 2, 3, 4⟩
    rehearsal.Arises 1 b ∧ moved.2.widgets = b.widgets ∧
      BridgeState.PutFault rehearsal.platform (.int 1001) ⟨1, 2, 3, 4⟩ b
        (.eval "widget 1001 was destroyed") := by
  intro label b moved
  have hb : rehearsal.Arises 1 b :=
    ⟨.standard, [], .first, [.build .nil label .empty, .destroy 1001], rfl, by decide⟩
  have herror : moved.1 = .error (.eval "widget 1001 was destroyed") := by decide +kernel
  obtain ⟨-, -, -, -, -, hmove, hkept, -, -⟩ :=
    rehearsal.construction_errors hb .nil .nil (.int 1001) ⟨1, 2, 3, 4⟩
  exact ⟨hb, hkept _ herror, (hmove _).mp herror⟩

end Setting
end ScriptBridge
