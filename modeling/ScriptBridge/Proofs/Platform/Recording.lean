/-
  ScriptBridge/Proofs/Platform/Recording.lean
  ===========================================
  **What a recording platform has written down after any calls.**

  The owner may take the events at any time, and the platform then forgets them.
  The history of a session is what was taken and what is still held.  Which event
  a call leaves can be told from the call and its answer alone (`event?`), so the
  history can be told from the calls and their answers.  The widgets that the
  platform knows are those created in the history, which taking does not change.
-/
import ScriptBridge.Proofs.Layout.Stack
import ScriptBridge.Proofs.Platform.Recorder

namespace ScriptBridge

namespace Size

/-- No side is negative. -/
def NonNegative (size : Size) : Prop := 0 ≤ size.width ∧ 0 ≤ size.height

theorem nonNegative_clamped (width height : Int64) : (clamped width height).NonNegative := by
  simp only [NonNegative, clamped, Int64.le_iff_toInt_le, Word.toInt_max]
  exact ⟨Int.le_max_right _ _, Int.le_max_right _ _⟩

end Size

namespace Recorder

/-- A call on a recording platform; `take` is its owner taking the events. -/
inductive Call where
  | read (path : String)
  | window (width height : Int64)
  | create (id : WidgetId) (plan : Blueprint)
  | place (id : WidgetId) (frame : Frame)
  | setText (id : WidgetId) (text : String)
  | print (text : String)
  | take

/-- What a call returns. -/
inductive Answer where
  | content (result : Except ReadError String)
  | window (size : Size)
  | created (result : Except PlatformError Size)
  | changed (result : Except PlatformError Unit)
  | printed
  | events (taken : List PlatformEvent)

/-- The platform refused the call. -/
def Answer.refused : Answer → Bool
  | .created (.error _) | .changed (.error _) => true
  | _ => false

/-- The events that the owner gets. -/
def Answer.taken : Answer → List PlatformEvent
  | .events taken => taken
  | _ => []

/-- The answer to a call, and the recorder after it. -/
def Call.perform (files : FileTree) (r : Recorder) : Call → Answer × Recorder
  | .read path => ((platform files).read path r).map .content id
  | .window width height => ((platform files).window width height r).map .window id
  | .create widget plan => ((platform files).create widget plan r).map .created id
  | .place widget frame => ((platform files).place widget frame r).map .changed id
  | .setText widget text => ((platform files).setText widget text r).map .changed id
  | .print text => (.printed, (platform files).print text r)
  | .take => r.takeEvents.map .events id

/-! ### The event of a call -/

/-- The event of a widget that was created with a size. -/
def creation (id : WidgetId) (size : Size) : Blueprint → PlatformEvent
  | .button frame text image => .button id (Frame.of frame.origin size) text image
  | .label origin text => .label id origin text
  | .input origin => .input id origin
  | .table frame values => .table id (Frame.of frame.origin size) values

/-- The event that a call leaves, told from its answer. -/
def event? : Call → Answer → Option PlatformEvent
  | .read path, .content result => some (.read path result.toBool)
  | .window _ _, .window size => some (.window size)
  | .create id plan, .created (.ok size) => some (creation id size plan)
  | .place id frame, .changed (.ok _) => some (.place id frame)
  | .setText id text, .changed (.ok _) => some (.setText id text)
  | .print text, .printed => some (.print text)
  | _, _ => none

/-- The size that the event of a widget tells. -/
def sizeOf? : PlatformEvent → Option Size
  | .button _ frame _ _ => some frame.size
  | .table _ frame _ => some frame.size
  | _ => none

theorem sizeOf?_creation (id : WidgetId) (size : Size) {plan : Blueprint}
    (h : plan.kind = .button ∨ plan.kind = .table) : sizeOf? (creation id size plan) = some size := by
  cases plan <;> simp_all [Blueprint.kind, creation, sizeOf?, Frame.of, Frame.size]

theorem created?_creation (id : WidgetId) (size : Size) (plan : Blueprint) :
    (creation id size plan).created? = some (id, plan.kind) := by
  cases plan <;> rfl

theorem create_answers (files : FileTree) (id : WidgetId) (plan : Blueprint) (r : Recorder) :
    (∃ e, create files id plan r = (.error e, r)) ∨
    (∃ width height, create files id plan r =
      (.ok (.clamped width height), r.recordCreation id (creation id (.clamped width height) plan))) := by
  cases plan with
  | button frame text image =>
    simp only [create]
    cases image.filter fun path => !hasAsset files r.assets path with
    | some path => exact .inl ⟨_, rfl⟩
    | none => exact .inr ⟨_, _, rfl⟩
  | label origin text => exact .inr ⟨_, _, rfl⟩
  | input origin => exact .inr ⟨_, _, rfl⟩
  | table frame values => exact .inr ⟨_, _, rfl⟩

/-! ### One call -/

/-- Every way in which a call ends. -/
inductive Ends (r : Recorder) : Call → Answer → Recorder → Prop
  | refused {call : Call} {answer : Answer} (hrefused : answer.refused = true) : Ends r call answer r
  | created (id : WidgetId) (plan : Blueprint) (width height : Int64) :
      Ends r (.create id plan) (.created (.ok (.clamped width height)))
        (r.recordCreation id (creation id (.clamped width height) plan))
  | recorded {call : Call} {answer : Answer} {e : PlatformEvent} (he : event? call answer = some e)
      (hcreates : e.created? = none) (htaken : answer.taken = [])
      (hknown : ∀ id, e.widget? = some id → r.created.contains id = true) :
      Ends r call answer (r.record e)
  | taken : Ends r .take (.events r.events) { r with events := [] }

theorem ends_perform (files : FileTree) (r : Recorder) (call : Call) :
    Ends r call (call.perform files r).1 (call.perform files r).2 := by
  cases call with
  | read path => exact .recorded rfl rfl rfl (fun _ h => by cases h)
  | window width height => exact .recorded rfl rfl rfl (fun _ h => by cases h)
  | create id plan =>
    simp only [Call.perform, platform]
    rcases create_answers files id plan r with ⟨e, h⟩ | ⟨width, height, h⟩
    · rw [h]
      exact .refused rfl
    · rw [h]
      exact .created id plan width height
  | place id frame =>
    simp only [Call.perform, platform, onWidget]
    split
    · next hknown => exact .recorded rfl rfl rfl (fun _ h => Option.some.inj h ▸ hknown)
    · exact .refused rfl
  | setText id text =>
    simp only [Call.perform, platform, onWidget]
    split
    · next hknown => exact .recorded rfl rfl rfl (fun _ h => Option.some.inj h ▸ hknown)
    · exact .refused rfl
  | print text => exact .recorded rfl rfl rfl (fun _ h => by cases h)
  | take => exact .taken

theorem event?_of_refused (call : Call) {answer : Answer} (h : answer.refused = true) :
    event? call answer = none := by
  cases answer with
  | created result => cases result <;> cases call <;> first | rfl | cases h
  | changed result => cases result <;> cases call <;> first | rfl | cases h
  | _ => cases h

theorem taken_of_refused {answer : Answer} (h : answer.refused = true) : answer.taken = [] := by
  cases answer <;> first | rfl | cases h

namespace Ends

variable {r r' : Recorder} {call : Call} {answer : Answer}

/-- What a call leaves in the history is its event. -/
theorem history (h : Ends r call answer r') :
    answer.taken ++ r'.events = r.events ++ (event? call answer).toList := by
  cases h with
  | refused hrefused => simp [taken_of_refused hrefused, event?_of_refused call hrefused]
  | created id plan width height => simp [Answer.taken, event?, recordCreation]
  | recorded he _ htaken _ => simp [he, htaken, record]
  | taken => simp [Answer.taken, event?]

theorem eq_of_refused (h : Ends r call answer r') (hrefused : answer.refused = true) : r' = r := by
  cases h with
  | refused => rfl
  | created => cases hrefused
  | recorded he => rw [event?_of_refused call hrefused] at he; cases he
  | taken => cases hrefused

theorem window_eq (h : Ends r call answer r') : r'.window = r.window := by
  cases h <;> rfl

end Ends

/-- An operation on a widget is refused unless the widget is known. -/
theorem refused_onWidget (operation : String) (id : WidgetId) (e : PlatformEvent) (r : Recorder) :
    (Answer.changed (onWidget operation id e r).1).refused = true ↔ ¬ r.created.contains id = true := by
  unfold onWidget
  split <;> simp_all [Answer.refused]

/-- The answer to a creation is the size of its event, and no side of it is negative. -/
theorem size_of_created {files : FileTree} {r : Recorder} {id : WidgetId} {plan : Blueprint}
    {size : Size} (h : ((Call.create id plan).perform files r).1 = .created (.ok size)) :
    size.NonNegative := by
  simp only [Call.perform, platform] at h
  rcases create_answers files id plan r with ⟨e, hrefused⟩ | ⟨width, height, hdone⟩
  · rw [hrefused] at h
    cases h
  · rw [hdone] at h
    cases h
    exact Size.nonNegative_clamped width height

theorem size_of_window {files : FileTree} {r : Recorder} {call : Call} {size : Size}
    (h : (call.perform files r).1 = .window size) : size = r.window := by
  cases call with
  | window => exact (Answer.window.inj h).symm
  | _ => cases h

/-! ### Histories -/

/-- The history has the creation of the widget. -/
def Creates (history : List PlatformEvent) (id : WidgetId) : Prop :=
  ∃ e ∈ history, ∃ kind, e.created? = some (id, kind)

/-- Every event about a widget comes after the creation of the widget, or is it. -/
def Preceded (history : List PlatformEvent) : Prop :=
  ∀ before e after, history = before ++ e :: after →
    ∀ id, e.widget? = some id → e.created? = none → Creates before id

theorem creates_append {history new : List PlatformEvent} {id : WidgetId} :
    Creates (history ++ new) id ↔ Creates history id ∨ Creates new id := by
  simp only [Creates, List.mem_append, or_and_right, exists_or]

theorem preceded_nil : Preceded [] := by
  intro before e after h
  exact absurd h.symm (List.append_ne_nil_of_right_ne_nil _ (List.cons_ne_nil _ _))

theorem Preceded.concat {history : List PlatformEvent} {e : PlatformEvent} (h : Preceded history)
    (he : ∀ id, e.widget? = some id → e.created? = none → Creates history id) :
    Preceded (history ++ [e]) := by
  intro before e' after heq
  rcases List.eq_nil_or_concat after with rfl | ⟨after, last, rfl⟩
  · obtain ⟨rfl, hlast⟩ := List.append_inj' heq rfl
    cases hlast
    exact he
  · rw [List.concat_eq_append, ← List.cons_append, ← List.append_assoc] at heq
    exact h before e' after (List.append_inj' heq rfl).1

/-- What holds of a recorder and the history so far, taken events included. -/
structure Sound (history : List PlatformEvent) (r : Recorder) : Prop where
  known : ∀ id, r.created.contains id = true ↔ Creates history id
  preceded : Preceded history

theorem Sound.ends {history : List PlatformEvent} {r r' : Recorder} {call : Call} {answer : Answer}
    (h : Sound history r) (hends : Ends r call answer r') :
    Sound (history ++ (event? call answer).toList) r' := by
  cases hends with
  | refused hrefused =>
    rw [event?_of_refused call hrefused, Option.toList_none, List.append_nil]
    exact h
  | created id plan width height =>
    have hcreated := created?_creation id (.clamped width height) plan
    refine ⟨fun id' => ?_, h.preceded.concat fun _ _ hnone => ?_⟩
    · have hnew : Creates [creation id (.clamped width height) plan] id' ↔ id' = id := by
        simp [Creates, hcreated, eq_comm]
      simp only [event?, Option.toList_some, creates_append, hnew, recordCreation, List.contains_cons,
        Bool.or_eq_true, beq_iff_eq, h.known, or_comm]
    · rw [hcreated] at hnone
      cases hnone
  | @recorded call answer e he hcreates htaken hknown =>
    rw [he, Option.toList_some]
    refine ⟨fun id => ?_, h.preceded.concat fun id hid _ => (h.known id).mp (hknown id hid)⟩
    have hnew : ¬ Creates [e] id := by simp [Creates, hcreates]
    simp only [creates_append, hnew, or_false, record]
    exact h.known id
  | taken =>
    have hnone : event? .take (.events r.events) = none := rfl
    rw [hnone, Option.toList_none, List.append_nil]
    exact ⟨h.known, h.preceded⟩

/-! ### Any number of calls -/

/-- The answers to calls, one after the other; each call finds a tree of files of its own. -/
def answers (r : Recorder) : List (FileTree × Call) → List Answer
  | [] => []
  | (files, call) :: rest => (call.perform files r).1 :: answers (call.perform files r).2 rest

/-- The recorder after calls. -/
def afterCalls (r : Recorder) (calls : List (FileTree × Call)) : Recorder :=
  calls.foldl (fun r c => (c.2.perform c.1 r).2) r

/-- All events: those that the owner got from the calls, and those still held. -/
def historyOf (r : Recorder) (calls : List (FileTree × Call)) : List PlatformEvent :=
  (r.answers calls).flatMap Answer.taken ++ (r.afterCalls calls).events

/-- The events of calls, told from their answers. -/
def eventsOf (calls : List (FileTree × Call)) (given : List Answer) : List PlatformEvent :=
  (calls.zip given).filterMap fun x => event? x.1.2 x.2

/-- A recorder that nobody has used. -/
def unused (window : Size) (assets : Assets) : Recorder := ⟨window, assets, [], []⟩

theorem answers_append (r : Recorder) (calls more : List (FileTree × Call)) :
    r.answers (calls ++ more) = r.answers calls ++ (r.afterCalls calls).answers more := by
  induction calls generalizing r with
  | nil => rfl
  | cons c rest ih => exact congrArg ((c.2.perform c.1 r).1 :: ·) (ih _)

theorem afterCalls_append (r : Recorder) (calls more : List (FileTree × Call)) :
    r.afterCalls (calls ++ more) = (r.afterCalls calls).afterCalls more := List.foldl_append

theorem eventsOf_cons (files : FileTree) (call : Call) (rest : List (FileTree × Call)) (answer : Answer)
    (given : List Answer) :
    eventsOf ((files, call) :: rest) (answer :: given) =
      (event? call answer).toList ++ eventsOf rest given := by
  rw [eventsOf, List.zip_cons_cons, List.filterMap_cons]
  cases event? call answer <;> rfl

theorem historyOf_eq (r : Recorder) (calls : List (FileTree × Call)) :
    r.historyOf calls = r.events ++ eventsOf calls (r.answers calls) := by
  induction calls generalizing r with
  | nil => exact (List.append_nil _).symm
  | cons c rest ih =>
    obtain ⟨files, call⟩ := c
    have hstep := (ends_perform files r call).history
    calc r.historyOf ((files, call) :: rest)
        = (call.perform files r).1.taken ++ (call.perform files r).2.historyOf rest := by
          simp only [historyOf, answers, List.flatMap_cons, List.append_assoc]
          rfl
      _ = r.events ++ (event? call (call.perform files r).1).toList ++
            eventsOf rest ((call.perform files r).2.answers rest) := by
          rw [ih, ← List.append_assoc, hstep]
      _ = r.events ++ eventsOf ((files, call) :: rest) (r.answers ((files, call) :: rest)) := by
          rw [answers, eventsOf_cons, List.append_assoc]

theorem sound_afterCalls {history : List PlatformEvent} {r : Recorder} (h : Sound history r)
    (calls : List (FileTree × Call)) :
    Sound (history ++ eventsOf calls (r.answers calls)) (r.afterCalls calls) := by
  induction calls generalizing history r with
  | nil => exact (List.append_nil history).symm ▸ h
  | cons c rest ih =>
    obtain ⟨files, call⟩ := c
    rw [answers, eventsOf_cons, ← List.append_assoc]
    exact ih (h.ends (ends_perform files r call))

theorem length_answers (r : Recorder) (calls : List (FileTree × Call)) :
    (r.answers calls).length = calls.length := by
  induction calls generalizing r with
  | nil => rfl
  | cons c rest ih => exact congrArg Nat.succ (ih _)

theorem window_afterCalls (r : Recorder) (calls : List (FileTree × Call)) :
    (r.afterCalls calls).window = r.window := by
  induction calls generalizing r with
  | nil => rfl
  | cons c rest ih => exact (ih _).trans (ends_perform c.1 r c.2).window_eq

/-- A call has no event when it is refused, and when it takes the events. -/
theorem event?_perform_eq_none_iff (files : FileTree) (r : Recorder) (call : Call) :
    event? call (call.perform files r).1 = none ↔
      (call.perform files r).1.refused = true ∨ call = .take := by
  constructor
  · intro hnone
    have hends := ends_perform files r call
    generalize (call.perform files r).1 = answer, (call.perform files r).2 = r' at hends hnone ⊢
    cases hends with
    | refused hrefused => exact .inl hrefused
    | created => cases hnone
    | recorded he =>
      rw [he] at hnone
      cases hnone
    | taken => exact .inr rfl
  · rintro (hrefused | rfl)
    · exact event?_of_refused call hrefused
    · rfl

/-- A refused call might as well not have been made. -/
theorem without_refused (r : Recorder) (past later : List (FileTree × Call)) (files : FileTree)
    (call : Call) (hrefused : (call.perform files (r.afterCalls past)).1.refused = true) :
    r.answers (past ++ (files, call) :: later) =
      r.answers past ++ (call.perform files (r.afterCalls past)).1 :: (r.afterCalls past).answers later ∧
    r.answers (past ++ later) = r.answers past ++ (r.afterCalls past).answers later ∧
    r.historyOf (past ++ (files, call) :: later) = r.historyOf (past ++ later) := by
  have hsame := (ends_perform files (r.afterCalls past) call).eq_of_refused hrefused
  have hwith : r.answers (past ++ (files, call) :: later) =
      r.answers past ++ (call.perform files (r.afterCalls past)).1 :: (r.afterCalls past).answers later := by
    rw [answers_append, answers, hsame]
  refine ⟨hwith, answers_append r past later, ?_⟩
  have hlast : r.afterCalls (past ++ (files, call) :: later) = r.afterCalls (past ++ later) := by
    rw [afterCalls_append, afterCalls_append]
    exact congrArg (afterCalls · later) hsame
  rw [historyOf, historyOf, hwith, hlast, answers_append, List.flatMap_append, List.flatMap_append,
    List.flatMap_cons, taken_of_refused hrefused, List.nil_append]

/-- After any calls to a recorder that nobody had used, whatever its window and its assets, and
    whenever its events were taken: widgets are created before anything else is told of them, and the
    history has the events of the calls in their order.  A further call has an event unless it is
    refused or takes the events.  If it is refused, the calls that follow are answered as if it had not
    been made, and they leave the same history. -/
theorem recorded_history (window : Size) (assets : Assets) (past later : List (FileTree × Call))
    (files : FileTree) (call : Call) :
    let start := unused window assets
    let r := start.afterCalls past
    let answer := (call.perform files r).1
    Preceded (start.historyOf past) ∧
    (start.historyOf past = eventsOf past (start.answers past) ∧
      (start.answers past).length = past.length) ∧
    (event? call answer = none ↔ answer.refused = true ∨ call = .take) ∧
    (answer.refused = true →
      start.answers (past ++ (files, call) :: later) =
        start.answers past ++ answer :: r.answers later ∧
      start.answers (past ++ later) = start.answers past ++ r.answers later ∧
      start.historyOf (past ++ (files, call) :: later) = start.historyOf (past ++ later)) ∧
    (∀ id frame, call = .place id frame →
      (answer.refused = true ↔ ¬ Creates (start.historyOf past) id)) ∧
    (∀ id text, call = .setText id text →
      (answer.refused = true ↔ ¬ Creates (start.historyOf past) id)) ∧
    (∀ id plan size, call = .create id plan → answer = .created (.ok size) →
      size.NonNegative ∧
      ∃ e, event? call answer = some e ∧ e.created? = some (id, plan.kind) ∧
        (plan.kind = .button ∨ plan.kind = .table → sizeOf? e = some size)) ∧
    (∀ size, answer = .window size →
      size = window ∧ ((∃ width height, window = .clamped width height) → size.NonNegative)) := by
  intro start r answer
  have hunused : Sound [] start := ⟨fun id => by simp [start, unused, Creates], preceded_nil⟩
  have hhistory : start.historyOf past = eventsOf past (start.answers past) := historyOf_eq start past
  have hsound : Sound (start.historyOf past) r := by
    rw [hhistory]
    exact sound_afterCalls hunused past
  refine ⟨hsound.preceded, ⟨hhistory, length_answers start past⟩,
    event?_perform_eq_none_iff files r call, without_refused start past later files call, ?_, ?_, ?_, ?_⟩
  · rintro id frame rfl
    rw [← hsound.known id]
    exact refused_onWidget "place" id (.place id frame) r
  · rintro id text rfl
    rw [← hsound.known id]
    exact refused_onWidget "set_text" id (.setText id text) r
  · rintro id plan size rfl hanswer
    refine ⟨size_of_created hanswer, creation id size plan, ?_, created?_creation id size plan,
      sizeOf?_creation id size⟩
    rw [hanswer]
    rfl
  · intro size hanswer
    have hsize : size = window := (size_of_window hanswer).trans (window_afterCalls start past)
    refine ⟨hsize, ?_⟩
    rintro ⟨width, height, rfl⟩
    exact hsize ▸ Size.nonNegative_clamped width height

end Recorder
end ScriptBridge
