/-
  ScriptBridge/Proofs/Bridge/Trace.lean
  =====================================
  **What a bridge asks of its platform.**

  Any platform can be watched: `Platform.traced` goes on as the platform does,
  and writes down each call with the answer to it.  A bridge over a watched
  platform does what it does over the platform itself, so the calls that it
  leaves are those that the bridge makes.
-/
import ScriptBridge.Proofs.Bridge.Build

namespace ScriptBridge

variable {σ η κ : Type}

/-- A call of a platform and the answer to it. -/
inductive PlatformCall where
  | read (path : String) (answer : Except ReadError String)
  | window (width height : Int64) (answer : Size)
  | create (id : WidgetId) (blueprint : Blueprint) (answer : Except PlatformError Size)
  | place (id : WidgetId) (frame : Frame) (answer : Except PlatformError Unit)
  | setText (id : WidgetId) (text : String) (answer : Except PlatformError Unit)
  | print (line : String)

/-- The platform, with the calls so far in its state. -/
def Platform.traced (platform : Platform σ) : Platform (σ × List PlatformCall) where
  read path s :=
    let (answer, p) := platform.read path s.1
    (answer, p, s.2 ++ [.read path answer])
  window width height s :=
    let (answer, p) := platform.window width height s.1
    (answer, p, s.2 ++ [.window width height answer])
  create id blueprint s :=
    let (answer, p) := platform.create id blueprint s.1
    (answer, p, s.2 ++ [.create id blueprint answer])
  place id frame s :=
    let (answer, p) := platform.place id frame s.1
    (answer, p, s.2 ++ [.place id frame answer])
  setText id text s :=
    let (answer, p) := platform.setText id text s.1
    (answer, p, s.2 ++ [.setText id text answer])
  print line s := (platform.print line s.1, s.2 ++ [.print line])

namespace BridgeState

/-- The bridge over the watched platform, of which nothing was asked yet. -/
def traced (b : BridgeState σ η κ) : BridgeState (σ × List PlatformCall) η κ :=
  ⟨(b.platform, []), b.host, b.handles, b.classes, b.callbacks, b.widgets, b.counters⟩

/-- The bridge over the platform itself. -/
def untraced (b : BridgeState (σ × List PlatformCall) η κ) : BridgeState σ η κ :=
  ⟨b.platform.1, b.host, b.handles, b.classes, b.callbacks, b.widgets, b.counters⟩

/-- The calls that a watched bridge has made. -/
def calls (b : BridgeState (σ × List PlatformCall) η κ) : List PlatformCall := b.platform.2

variable {platform : Platform σ} {b : BridgeState (σ × List PlatformCall) η κ}

@[simp] theorem calls_traced (b : BridgeState σ η κ) : b.traced.calls = [] := rfl

@[simp] theorem untraced_platform : b.untraced.platform = b.platform.1 := rfl

@[simp] theorem untraced_widgets : b.untraced.widgets = b.widgets := rfl

@[simp] theorem untraced_counters : b.untraced.counters = b.counters := rfl

theorem untraced_registerBinding (binding : CallbackBinding) :
    (b.registerBinding binding).untraced = b.untraced.registerBinding binding := by
  rw [registerBinding_eq, registerBinding_eq]
  rfl

theorem untraced_bindLogic (context : Value) (names : NameTable) (id : WidgetId)
    (logic : Option Program) :
    (b.bindLogic context names id logic).untraced =
      b.untraced.bindLogic context names id logic := by
  cases logic with
  | none => rfl
  | some program => exact untraced_registerBinding _

/-! ### Watched and unwatched runs -/

/-- A watched operation ends as the unwatched one does, in the same state of the bridge. -/
def Untraces {α : Type} (watched : α × BridgeState (σ × List PlatformCall) η κ)
    (unwatched : α × BridgeState σ η κ) : Prop :=
  unwatched = (watched.1, watched.2.untraced)

theorem untraces_create (platform : Platform σ) (context : Value) (names : NameTable) (plan : WidgetPlan)
    (b : BridgeState (σ × List PlatformCall) η κ) :
    Untraces (b.create platform.traced context names plan)
      (b.untraced.create platform context names plan) := by
  simp only [Untraces, create, freshWidget, Platform.traced, untraced_platform, untraced_widgets,
    untraced_counters]
  cases (platform.create b.counters.widget plan.blueprint b.platform.1).1 with
  | error e => rfl
  | ok size =>
    dsimp only
    cases b.widgets.create b.counters.widget plan.blueprint.kind
        (.of plan.blueprint.origin size) plan.name with
    | error e => rfl
    | ok widgets =>
      simp only [untraced_bindLogic]
      rfl

theorem untraces_place (platform : Platform σ) (id : WidgetId) (frame : Frame)
    (b : BridgeState (σ × List PlatformCall) η κ) :
    Untraces (b.place platform.traced id frame) (b.untraced.place platform id frame) := by
  simp only [Untraces, place, Platform.traced, untraced_widgets]
  cases b.widgets.find? id with
  | none => rfl
  | some w =>
    dsimp only
    split
    · simp only [untraced]
      cases (platform.place id frame b.platform.1).1 with
      | error e => rfl
      | ok u =>
        dsimp only
        cases b.widgets.place id frame with
        | error e => rfl
        | ok widgets => rfl
    · rfl

theorem untraces_put (platform : Platform σ) (target : Value) (frame : Frame)
    (b : BridgeState (σ × List PlatformCall) η κ) :
    Untraces (b.put platform.traced target frame) (b.untraced.put platform target frame) := by
  have htarget : b.untraced.target? target = b.target? target := rfl
  unfold put
  rw [htarget]
  cases b.target? target with
  | none => rfl
  | some id => exact untraces_place platform id frame b

theorem untraced_build (platform : Platform σ) (context : Value) (plan : WidgetPlan) (r : Rendering)
    (b : BridgeState (σ × List PlatformCall) η κ) :
    b.untraced.build platform context plan r =
      ((b.build platform.traced context plan r).1, (b.build platform.traced context plan r).2.1,
        (b.build platform.traced context plan r).2.2.untraced) := by
  have hcreate := untraces_create platform context r.names plan b
  unfold Untraces at hcreate
  rcases h : b.create platform.traced context r.names plan with ⟨result, b'⟩
  rw [h] at hcreate
  cases result with
  | error e => simp only [build, h, hcreate]
  | ok handle =>
    have hplace := untraces_place platform handle.id
      (.of plan.blueprint.origin (Size.clamped handle.width handle.height))
      (b'.shareNames (r.add plan handle))
    have hshare : b'.untraced.shareNames (r.add plan handle) =
        (b'.shareNames (r.add plan handle)).untraced := rfl
    unfold Untraces at hplace
    rcases hplaced : (b'.shareNames (r.add plan handle)).place platform.traced handle.id
      (.of plan.blueprint.origin (Size.clamped handle.width handle.height)) with ⟨answer, b''⟩
    rw [hplaced] at hplace
    simp only [build, h, hcreate, hshare, hplace, hplaced]
    cases answer with
    | error e => rfl
    | ok u => rfl

/-- Along a walk. -/
theorem untraced_renderChildren (platform : Platform σ) (layout : LayoutConfig) (context : Value)
    (cursor : StackCursor) (children : List Descriptor) (r : Rendering)
    (b : BridgeState (σ × List PlatformCall) η κ) :
    b.untraced.renderChildren platform layout context cursor children r =
      ((b.renderChildren platform.traced layout context cursor children r).1,
        (b.renderChildren platform.traced layout context cursor children r).2.1,
        (b.renderChildren platform.traced layout context cursor children r).2.2.untraced) := by
  induction cursor, children, r, b
    using BridgeState.renderChildren.induct platform.traced layout context fun cursor d r b =>
      b.untraced.renderChild platform layout context cursor d r =
        ((b.renderChild platform.traced layout context cursor d r).1,
          (b.renderChild platform.traced layout context cursor d r).2.1,
          (b.renderChild platform.traced layout context cursor d r).2.2.untraced) with
  | case1 cursor r b kind a handle r' b' hbuild =>
    simp only [renderChild, untraced_build, hbuild]
  | case2 cursor r b kind a e r' b' hbuild =>
    simp only [renderChild, untraced_build, hbuild]
  | case3 cursor r b axis name children inner r' b' hinner ih =>
    simp only [renderChild, ih, hinner]
  | case4 cursor r b => simp only [renderChildren]
  | case5 cursor r b d rest cursor' r' b' hchild ihchild ih =>
    simp only [renderChildren, ihchild, hchild, ih]

theorem untraces_render (platform : Platform σ) (layout : LayoutConfig) (context description : Value)
    (b : BridgeState (σ × List PlatformCall) η κ) :
    Untraces (b.render platform.traced layout context description)
      (b.untraced.render platform layout context description) := by
  unfold Untraces render
  cases Descriptor.ofValue description with
  | error e => rfl
  | ok read =>
    obtain ⟨d, warnings⟩ := read
    cases d with
    | leaf kind a => simp only [renderTree, buildAlone, untraced_build]
    | container axis name children => simp only [renderTree, untraced_renderChildren]

/-! ### The calls of a build -/

theorem calls_afterRequest (plan : WidgetPlan) :
    (b.afterRequest platform.traced plan).calls =
      b.calls ++ [.create b.counters.widget plan.blueprint (b.creationAnswer platform.traced plan)] :=
  rfl

/-- What is written down once a created widget was to be placed. -/
theorem calls_place_afterRequest {plan : WidgetPlan} {size : Size}
    {answer : Except PlatformError Unit} (frame : Frame)
    (hcreated : b.creationAnswer platform.traced plan = .ok size)
    (hplaced : (platform.traced.place b.counters.widget frame
      (b.afterRequest platform.traced plan).platform).1 = answer) :
    (platform.traced.place b.counters.widget frame
      (b.afterRequest platform.traced plan).platform).2.2 =
      b.calls ++ [.create b.counters.widget plan.blueprint (.ok size),
        .place b.counters.widget frame answer] := by
  have hcalls : (platform.traced.place b.counters.widget frame
      (b.afterRequest platform.traced plan).platform).2.2 =
      (b.afterRequest platform.traced plan).calls ++ [.place b.counters.widget frame
        (platform.traced.place b.counters.widget frame
          (b.afterRequest platform.traced plan).platform).1] := rfl
  rw [hcalls, hplaced, calls_afterRequest, hcreated, List.append_assoc]
  rfl

end BridgeState
end ScriptBridge
