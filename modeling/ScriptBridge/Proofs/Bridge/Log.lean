/-
  ScriptBridge/Proofs/Bridge/Log.lean
  ===================================
  **A bridge over a recording platform, with its complete event history.**

  The owner takes the events of the platform from time to time, and the platform
  then forgets them.  A log keeps what was taken, so that its history is complete.
  After any number of actions and takes the records mirror the history, texts
  were only set on live widgets that show one, and a destroyed widget is never
  mentioned again.
-/
import ScriptBridge.Proofs.Bridge.Mirror

namespace ScriptBridge

variable {η κ : Type}

/-- A chronicle of a bridge over a recording platform, and the events that its owner took. -/
structure Log (η κ : Type) where
  chronicle : Chronicle Recorder η κ
  taken : List PlatformEvent

/-- An action, or the owner taking the events. -/
inductive LogStep (η κ : Type) where
  | act (a : Action η κ)
  | take

/-- The number of widget ids that the step uses up. -/
def LogStep.widgets : LogStep η κ → Nat
  | .act a => a.widgets
  | .take => 0

/-- The number of widget ids that some steps use up together. -/
def LogStep.total : List (LogStep η κ) → Nat
  | [] => 0
  | x :: steps => x.widgets + total steps

theorem LogStep.total_append (first second : List (LogStep η κ)) :
    total (first ++ second) = total first + total second := by
  induction first with
  | nil => exact (Nat.zero_add _).symm
  | cons x first ih =>
    rw [List.cons_append, total, total, ih, Nat.add_assoc]

namespace Log

/-- The log of a new bridge, whose platform nobody has used. -/
def initial (window : Size) (assets : Assets) (host : η) (counters : Counters) : Log η κ :=
  ⟨.initial ⟨window, assets, [], []⟩ host counters, []⟩

def state (l : Log η κ) : BridgeState Recorder η κ := l.chronicle.state

/-- The events taken so far, and those still held. -/
def history (l : Log η κ) : List PlatformEvent := l.taken ++ l.state.platform.events

/-- The owner takes the events. -/
def take (l : Log η κ) : Log η κ :=
  let (events, recorder) := l.state.platform.takeEvents
  { chronicle := { l.chronicle with state := { l.state with platform := recorder } }
    taken := l.taken ++ events }

@[simp] theorem history_take (l : Log η κ) : l.take.history = l.history := List.append_nil _

end Log

namespace Setting

variable [DecidableEq κ] (s : Setting Recorder η κ)

/-- Takes one step. -/
def observe (x : LogStep η κ) (l : Log η κ) : Log η κ :=
  match x with
  | .act a => { l with chronicle := s.act a l.chronicle }
  | .take => l.take

/-- Takes some steps one after the other. -/
def observeAll (steps : List (LogStep η κ)) (l : Log η κ) : Log η κ :=
  steps.foldl (fun l x => s.observe x l) l

@[simp] theorem observeAll_cons (x : LogStep η κ) (steps : List (LogStep η κ)) (l : Log η κ) :
    s.observeAll (x :: steps) l = s.observeAll steps (s.observe x l) := rfl

theorem observeAll_append (first second : List (LogStep η κ)) (l : Log η κ) :
    s.observeAll (first ++ second) l = s.observeAll second (s.observeAll first l) :=
  List.foldl_append

end Setting

/-! ### The invariant -/

/-- The log of a bridge that used up so many ids from a start. -/
structure Log.Faithful (l : Log η κ) (start : WidgetId) (used : Nat) : Prop where
  orderly : l.chronicle.Orderly
  numbered : l.state.widgets.Numbered l.state.counters.widget start used
  mirror : Mirror l.history l.state.widgets

theorem Log.faithful_initial (window : Size) (assets : Assets) (host : η) (counters : Counters) :
    (Log.initial window assets host counters : Log η κ).Faithful counters.widget 0 where
  orderly := Chronicle.orderly_initial _ host counters
  numbered := .initial counters.widget
  mirror := .empty

namespace Setting

variable [DecidableEq κ] {s : Setting Recorder η κ} {files : FileTree}
  (hs : s.platform = Recorder.platform files) {l : Log η κ} {start : WidgetId} {used : Nat}

include hs

/-- The events of one step, with the change of the records. -/
theorem effect_observe (h : l.Faithful start used) (x : LogStep η κ)
    (hused : used + x.widgets ≤ Int64.size) :
    ∃ new, (s.observe x l).history = l.history ++ new ∧
      Effect l.state.widgets (s.observe x l).state.widgets new := by
  cases x with
  | take =>
    refine ⟨[], ?_, .quiet fun _ he => absurd he List.not_mem_nil⟩
    rw [List.append_nil]
    exact l.history_take
  | act a =>
    have hfresh : 0 < a.widgets → l.state.widgets.find? l.state.counters.widget = none :=
      fun hpos => h.numbered.find?_next (Nat.lt_of_lt_of_le (Nat.lt_add_of_pos_right hpos) hused)
    obtain ⟨new, hevents, heffect⟩ := affects_act hs a l.chronicle hfresh
    refine ⟨new, ?_, heffect⟩
    exact (congrArg (l.taken ++ ·) hevents).trans (List.append_assoc ..).symm

theorem faithful_observe (h : l.Faithful start used) (x : LogStep η κ)
    (hused : used + x.widgets ≤ Int64.size) : (s.observe x l).Faithful start (used + x.widgets) := by
  obtain ⟨new, hhistory, heffect⟩ := effect_observe hs h x hused
  have hmirror : Mirror (s.observe x l).history (s.observe x l).state.widgets := by
    rw [hhistory]
    exact h.mirror.append heffect
  cases x with
  | take => exact ⟨h.orderly, h.numbered, hmirror⟩
  | act a => exact ⟨s.orderly_act a _ h.orderly, s.numbered_act a h.numbered, hmirror⟩

theorem faithful_observeAll (h : l.Faithful start used) (steps : List (LogStep η κ))
    (hused : used + LogStep.total steps ≤ Int64.size) :
    (s.observeAll steps l).Faithful start (used + LogStep.total steps) := by
  induction steps generalizing l used with
  | nil => exact h
  | cons x rest ih =>
    rw [LogStep.total, ← Nat.add_assoc] at hused ⊢
    exact ih (faithful_observe hs h x (by omega)) hused

/-- A step sets texts only on widgets that are live before it and show one. -/
theorem texts_observe (h : l.Faithful start used) (x : LogStep η κ)
    (hused : used + x.widgets ≤ Int64.size) :
    ∃ new, (s.observe x l).history = l.history ++ new ∧
      ∀ id text, .setText id text ∈ new →
        ∃ w, l.state.widgets.find? id = some w ∧ w.state.isLive = true ∧
          (w.kind = .button ∨ w.kind = .label ∨ w.kind = .input) := by
  obtain ⟨new, hhistory, heffect⟩ := effect_observe hs h x hused
  refine ⟨new, hhistory, fun id text he => ?_⟩
  obtain ⟨w, hw, hlive, htext⟩ := heffect.text_of_mem he
  refine ⟨w, hw, hlive, ?_⟩
  cases hkind : w.kind with
  | button => exact Or.inl rfl
  | label => exact Or.inr (Or.inl rfl)
  | input => exact Or.inr (Or.inr rfl)
  | table =>
    rw [hkind] at htext
    cases htext

/-! ### Destroyed widgets -/

/-- A step mentions no widget that was destroyed before. -/
theorem silent_observe (h : l.Faithful start used) {id : WidgetId} (hid : id ∈ l.chronicle.destroyed)
    (x : LogStep η κ) (hused : used + x.widgets ≤ Int64.size) :
    ∃ new, (s.observe x l).history = l.history ++ new ∧ ∀ e ∈ new, e.widget? ≠ some id := by
  obtain ⟨new, hhistory, heffect⟩ := effect_observe hs h x hused
  refine ⟨new, hhistory, fun e he hmentions => ?_⟩
  -- Its record is there and not live, and an effect is about a live widget or one without a record.
  obtain ⟨w, hw, hstate⟩ := (h.orderly.gone id).mp hid
  rcases heffect.widget_of_mem he hmentions with ⟨w', hw', hlive⟩ | hnone
  · rw [show l.state.widgets.find? id = some w from hw] at hw'
    cases hw'
    rw [hstate] at hlive
    cases hlive
  · rw [show l.state.widgets.find? id = some w from hw] at hnone
    cases hnone

theorem silent_observeAll (h : l.Faithful start used) {id : WidgetId}
    (hid : id ∈ l.chronicle.destroyed) (steps : List (LogStep η κ))
    (hused : used + LogStep.total steps ≤ Int64.size) :
    ∃ new, (s.observeAll steps l).history = l.history ++ new ∧ ∀ e ∈ new, e.widget? ≠ some id := by
  induction steps generalizing l used with
  | nil => exact ⟨[], (List.append_nil _).symm, fun _ he => absurd he List.not_mem_nil⟩
  | cons x rest ih =>
    rw [LogStep.total, ← Nat.add_assoc] at hused
    have hfirst : used + x.widgets ≤ Int64.size := by omega
    obtain ⟨first, hfirsthistory, hfirstsilent⟩ := silent_observe hs h hid x hfirst
    have hstill : id ∈ (s.observe x l).chronicle.destroyed := by
      cases x with
      | take => exact hid
      | act a => exact (s.destroyed_act a l.chronicle).mem hid
    obtain ⟨later, hhistory, hsilent⟩ := ih (faithful_observe hs h x hfirst) hstill hused
    refine ⟨first ++ later, ?_, fun e he => ?_⟩
    · rw [observeAll_cons, hhistory, hfirsthistory, List.append_assoc]
    · exact (List.mem_append.mp he).elim (hfirstsilent e) (hsilent e)

/-- From the destruction of a widget on, no event mentions it. -/
theorem silent_from_destroy (h : l.Faithful start used) {id : WidgetId}
    (hok : (l.state.destroyWidget id).1 = .ok ()) (rest : List (LogStep η κ))
    (hused : used + LogStep.total rest ≤ Int64.size) :
    ∃ new, (s.observeAll rest (s.observe (.act (.destroy id)) l)).history = l.history ++ new ∧
      ∀ e ∈ new, e.widget? ≠ some id := by
  have hafter := faithful_observe hs h (.act (.destroy id)) (Nat.le_of_add_right_le hused)
  have hgone : id ∈ (s.observe (.act (.destroy id)) l).chronicle.destroyed := by
    have hok' : (l.chronicle.state.destroyWidget id).1 = .ok () := hok
    simp only [observe, act, hok']
    exact List.mem_cons_self
  -- The destruction itself leaves no event.
  have hsame : (s.observe (.act (.destroy id)) l).history = l.history :=
    congrArg (fun r : Recorder => l.taken ++ r.events) (BridgeState.destroyWidget_platform id)
  obtain ⟨new, hhistory, hsilent⟩ := silent_observeAll hs hafter hgone rest hused
  exact ⟨new, by rw [hhistory, hsame], hsilent⟩

/-! ### Whole histories -/

/-- The log of a bridge over a recording platform that only it drives, while no more than 2 ^ 64
    widget ids are used up.  The widgets with a record are those with a creation event, of the same
    kind.  Every creation event is followed at once by a placement, and a record has the frame of the
    last one.  A text was only set on a widget that was live then and shows one, and no event mentions
    a widget after its destruction.  Every run of uses adds to the log by actions. -/
theorem records_mirror_log (window : Size) (assets : Assets) (host : η) (counters : Counters)
    (steps : List (LogStep η κ)) (hused : LogStep.total steps ≤ Int64.size) :
    let start := Log.initial window assets host counters
    let l := s.observeAll steps start
    (∀ id kind, (∃ w, l.state.widgets.find? id = some w ∧ w.kind = kind) ↔
      ∃ e ∈ l.history, e.created? = some (id, kind)) ∧
    (∀ i e id kind, l.history[i]? = some e → e.created? = some (id, kind) →
      ∃ frame, l.history[i + 1]? = some (.place id frame)) ∧
    (∀ id w, l.state.widgets.find? id = some w →
      PlatformEvent.lastFrame? id l.history = some w.frame) ∧
    (∀ done x rest, steps = done ++ x :: rest →
      let before := s.observeAll done start
      ∃ new, (s.observe x before).history = before.history ++ new ∧
        ∀ id text, .setText id text ∈ new →
          ∃ w, before.state.widgets.find? id = some w ∧ w.state.isLive = true ∧
            (w.kind = .button ∨ w.kind = .label ∨ w.kind = .input)) ∧
    (∀ done id rest, steps = done ++ .act (.destroy id) :: rest →
      let before := s.observeAll done start
      (before.state.destroyWidget id).1 = .ok () →
      ∃ new, l.history = before.history ++ new ∧ ∀ e ∈ new, e.widget? ≠ some id) ∧
    (∀ n running uses, s.Leads l.state (s.useAll n running uses l.state)) := by
  intro start l
  have hstart : start.Faithful counters.widget 0 := Log.faithful_initial window assets host counters
  have hl := faithful_observeAll hs hstart steps (by rwa [Nat.zero_add])
  refine ⟨hl.mirror.created_iff, hl.mirror.followed, hl.mirror.frames, ?_, ?_, ?_⟩
  · intro done x rest hsplit before
    rw [hsplit, LogStep.total_append, LogStep.total] at hused
    have hbefore := faithful_observeAll hs hstart done (by omega)
    exact texts_observe hs hbefore x (by omega)
  · intro done id rest hsplit before hok
    have hl : l = s.observeAll rest (s.observe (.act (.destroy id)) before) := by
      rw [← observeAll_cons, ← observeAll_append, ← hsplit]
    rw [hsplit, LogStep.total_append, LogStep.total] at hused
    have hbefore := faithful_observeAll hs hstart done (by omega)
    rw [hl]
    exact silent_from_destroy hs hbefore hok rest (by omega)
  · exact fun n running uses => s.leads_useAll n running uses l.state

end Setting

/-! ### A run -/

namespace Setting

/-- A label that is made, gets another text, and is destroyed after its events were taken. -/
def labelLife : List (LogStep (List (List Value)) EchoClass) :=
  [.act (.build .nil ⟨.label ⟨10, 10⟩ "hello", some "greeting", none⟩ .empty),
    .act (.setText (.string "greeting") (.string "goodbye")), .take, .act (.destroy 1001)]

/-- Its record outlives it, and so does its creation event. -/
theorem records_mirror_log_labelLife :
    let l := rehearsal.observeAll labelLife (.initial ⟨600, 800⟩ (.memory []) [] .first)
    rehearsal.platform = Recorder.platform .emptyDirectory ∧
    LogStep.total labelLife ≤ Int64.size ∧
    ∃ e ∈ l.history, e.created? = some (1001, .label) := by
  intro l
  have hplatform : rehearsal.platform = Recorder.platform .emptyDirectory := rfl
  have hused : LogStep.total labelLife ≤ Int64.size := by decide
  have hrecord : ∃ w, l.state.widgets.find? 1001 = some w ∧ w.kind = .label :=
    ⟨⟨.label, .destroyed, .of ⟨10, 10⟩ (Recorder.textSize "hello"), some "greeting"⟩,
      by decide +kernel, rfl⟩
  have hmirror :=
    records_mirror_log hplatform ⟨600, 800⟩ (.memory []) [] .first labelLife hused
  exact ⟨hplatform, hused, (hmirror.1 1001 .label).mp hrecord⟩

end Setting
end ScriptBridge
