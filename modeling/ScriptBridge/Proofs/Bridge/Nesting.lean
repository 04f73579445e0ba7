/-
  ScriptBridge/Proofs/Bridge/Nesting.lean
  =======================================
  **What is asked in the course of an evaluation.**

  A script calls a host method, the method asks the bridge to evaluate, to fire a
  widget or to call another object, and so evaluations nest.  `Demands` says in
  which states something is asked for in the course of a task, on every level of
  nesting: the scripts call functions of the bridge, and the host methods have
  requests.  So a statement about a whole evaluation can point at one of them.

  Only what a host method asks for can take a handle away, since a script cannot
  release a handle or destroy a widget.  `Serves` is about these requests alone.
-/
import ScriptBridge.Bridge.Evaluate

namespace ScriptBridge

/-! ### Requests of one computation -/

namespace Interaction

variable {Request : Type} {Reply : Request → Type} {α σ : Type}

/-- The computation, run from the first state, asks a request in the second. -/
inductive Asks (serve : (r : Request) → σ → Reply r × σ) :
    Interaction Request Reply α → σ → Request → σ → Prop where
  | now (r : Request) (next : Reply r → Interaction Request Reply α) (s : σ) :
      Asks serve (.ask r next) s r s
  | later {r r' : Request} {next : Reply r → Interaction Request Reply α} {s s' : σ}
      (h : Asks serve (next (serve r s).1) (serve r s).2 r' s') : Asks serve (.ask r next) s r' s'

section Relation

variable {serve : (r : Request) → σ → Reply r × σ} {R : σ → σ → Prop} (hrefl : ∀ s, R s s)
  (htrans : ∀ {s s' s''}, R s s' → R s' s'' → R s s'')

include hrefl htrans

/-- What relates the states around every request that is asked relates those around the whole. -/
theorem relates_run (x : Interaction Request Reply α) (s : σ)
    (hserve : ∀ r s', x.Asks serve s r s' → R s' (serve r s').2) : R s (x.run serve s).2 := by
  induction x generalizing s with
  | done a => exact hrefl s
  | ask r next ih =>
    have hfirst := hserve r s (.now r next s)
    exact htrans hfirst (ih _ _ fun r' s' h => hserve r' s' (.later h))

/-- It also relates the start to the state of any request. -/
theorem relates_asked {x : Interaction Request Reply α} {s s' : σ} {r : Request}
    (h : x.Asks serve s r s') (hserve : ∀ r s', x.Asks serve s r s' → R s' (serve r s').2) :
    R s s' := by
  induction h with
  | now r next s => exact hrefl s
  | @later r r' next s s' h ih =>
    have hfirst := hserve r s (.now r next s)
    exact htrans hfirst (ih fun r' s' h => hserve r' s' (.later h))

end Relation
end Interaction

/-! ### Requests of nested computations -/

/-- The handle, the method and the arguments of a function that calls a method. -/
def Native.methodCall? : Native → List Data → Option (ObjectHandle × String × List Data)
  | .method name, .handle h :: rest => some (h, name, rest)
  | .invoke, [.handle h, .string name, .array rest] => some (h, name, rest)
  | _, _ => none

/-- The context that a function hands on to a render. -/
def Native.context? : Native → List Data → Option Data
  | .ui, [context, _] => some context
  | _, _ => none

/-- Something that runs scripts or host methods, or a request of a host method. -/
inductive Task (η κ : Type) where
  | evaluate (program : Program) (bindings : List (String × HostValue κ))
  | invoke (handle : ObjectHandle) (method : String) (args : List Value)
  | request (r : HostRequest η κ)

/-- What is asked of a bridge: by a host method, or by a script that calls a function. -/
inductive Demand (η κ : Type) where
  | request (r : HostRequest η κ)
  | call (native : Native) (args : List Data)

namespace Setting

variable {σ η κ : Type} [DecidableEq κ] (s : Setting σ η κ)

/-- The script of an evaluation over a level, started from the first state, calls a method of a handle
    in the second. -/
inductive Calls (n : Nat) (running : List (ObjectRef κ)) (program : Program)
    (bindings : List (String × HostValue κ)) (b : BridgeState σ η κ) :
    ObjectHandle → String → List Value → BridgeState σ η κ → Prop where
  | intro {source : String} {scope : Scope} {script : Script} {native : Native}
      {args rest : List Data} {values : List Value} {handle : ObjectHandle} {method : String}
      {b₁ b₂ : BridgeState σ η κ} (hdecode : program.decode = .ok source)
      (hbind : s.bindScope (bindings ++ s.fixedBindings) b.openScope.2 = (some scope, b₁))
      (hstart : s.engine.start ⟨b₁.classes.all⟩ scope source = some script)
      (hasks : script.Asks (s.serveScript (s.level n) running) b₁ (.call native args) b₂)
      (hcall : native.methodCall? args = some (handle, method, rest))
      (hargs : Data.unmarshalAll rest = .ok values) :
      Calls n running program bindings b handle method values b₂

/-- In the course of a task, started from the first state, something is asked for in the second. -/
inductive Demands : Nat → List (ObjectRef κ) → Task η κ → BridgeState σ η κ → Demand η κ →
    BridgeState σ η κ → Prop where
  | request (n : Nat) (running : List (ObjectRef κ)) (r : HostRequest η κ) (b : BridgeState σ η κ) :
      Demands n running (.request r) b (.request r) b
  | call {n : Nat} {running : List (ObjectRef κ)} {program : Program}
      {bindings : List (String × HostValue κ)} {source : String} {scope : Scope} {script : Script}
      {native : Native} {args : List Data} {b b₁ b₂ : BridgeState σ η κ}
      (hdecode : program.decode = .ok source)
      (hbind : s.bindScope (bindings ++ s.fixedBindings) b.openScope.2 = (some scope, b₁))
      (hstart : s.engine.start ⟨b₁.classes.all⟩ scope source = some script)
      (hasks : script.Asks (s.serveScript (s.level n) running) b₁ (.call native args) b₂) :
      Demands (n + 1) running (.evaluate program bindings) b (.call native args) b₂
  | evaluate {n : Nat} {running : List (ObjectRef κ)} {program : Program}
      {bindings : List (String × HostValue κ)} {d : Demand η κ} {b b' : BridgeState σ η κ}
      (h : Demands n running (.evaluate program bindings) b d b') :
      Demands n running (.request (.evaluate program bindings)) b d b'
  | dispatch {n : Nat} {running : List (ObjectRef κ)} {id : WidgetId} {event : Value}
      {binding : CallbackBinding} {d : Demand η κ} {b b' : BridgeState σ η κ}
      (hbound : b.callbacks.find? id = some binding)
      (h : Demands n running (.evaluate binding.logic (dispatchScope binding event)) b d b') :
      Demands n running (.request (.dispatch id event)) b d b'
  | invoke {n : Nat} {running : List (ObjectRef κ)} {handle : ObjectHandle} {method : String}
      {args : List Value} {d : Demand η κ} {b b' : BridgeState σ η κ}
      (h : Demands n running (.invoke handle method args) b d b') :
      Demands n running (.request (.invoke handle method args)) b d b'
  | script {n : Nat} {running : List (ObjectRef κ)} {program : Program}
      {bindings : List (String × HostValue κ)} {handle : ObjectHandle} {method : String}
      {args : List Value} {d : Demand η κ} {b b₁ b' : BridgeState σ η κ}
      (hcall : s.Calls n running program bindings b handle method args b₁)
      (h : Demands (n + 1) running (.invoke handle method args) b₁ d b') :
      Demands (n + 1) running (.evaluate program bindings) b d b'
  | method {n : Nat} {running : List (ObjectRef κ)} {handle : ObjectHandle} {method : String}
      {args : List Value} {k : κ} {number index : Nat} {bound : Args} {r : HostRequest η κ}
      {d : Demand η κ} {b b₁ b' : BridgeState σ η κ}
      (hobject : b.handles.find? handle = some (.host k number))
      (hselect : (s.tableOf (.host k number)).select method args = .ok (index, bound))
      (hidle : running.contains (.host k number) = false)
      (hasks : (s.host.run k number index bound).Asks
        (serveHost (s.level n) (.host k number :: running)) b r b₁)
      (h : Demands n (.host k number :: running) (.request r) b₁ d b') :
      Demands (n + 1) running (.invoke handle method args) b d b'

/-- In the course of a task, started from the first state, a request of a host method is served in
    the second. -/
def Serves (n : Nat) (running : List (ObjectRef κ)) (task : Task η κ) (b : BridgeState σ η κ)
    (r : HostRequest η κ) (b' : BridgeState σ η κ) : Prop :=
  s.Demands n running task b (.request r) b'

end Setting
end ScriptBridge
