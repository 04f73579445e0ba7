/-
  ScriptBridge/Rehearsal/Host.lean
  ================================
  **A host for trying out scripts.**

  Its classes are the listening class, one planned class, counters, and a class
  of the planned kind under another name.  What the objects do is kept in one
  state: the calls that were to be kept, the total, and the count of each
  counter.
-/
import ScriptBridge.Bridge.Echo
import ScriptBridge.Rehearsal.Class

namespace ScriptBridge.Rehearsal

/-- The classes of the host. -/
inductive Role where
  | echo
  | planned
  | counter
  /-- A class with the plan of another and a name of its own. -/
  | taker
deriving DecidableEq, Repr

/-- What the objects of the host did. -/
structure HostState where
  calls : List (List Value)
  total : Int64
  /-- The count of every counter, by number. -/
  counters : List Int64
deriving DecidableEq, Repr

namespace HostState

def initial : HostState := ⟨[], 0, []⟩

def addCounter (count : Int64) (s : HostState) : ObjectRef Role × HostState :=
  (.host .counter s.counters.length, { s with counters := s.counters ++ [count] })

def keep (call : List Value) (s : HostState) : HostState := { s with calls := s.calls ++ [call] }

/-- The calls kept so far, which are no longer held. -/
def takeCalls (s : HostState) : List (List Value) × HostState := (s.calls, { s with calls := [] })

def count (number : Nat) (s : HostState) : Int64 := s.counters[number]?.getD 0

end HostState

/-! ### Counters -/

def counterTable : MethodTable := ⟨"Counter", [⟨"bump", [], none⟩], ["count"]⟩

/-- Adds one to a counter and returns the count. -/
def bump (number : Nat) : HostMethod HostState Role :=
  .ask .getState fun s =>
    let count := s.count number + 1
    .ask (.setState { s with counters := s.counters.set number count }) fun _ =>
      Echo.returns (.int count)

/-! ### The planned class -/

/-- Goes on with what an accessor found, or ends with its fault. -/
def onArg {α : Type} (arg : Except MarshalError α) (next : α → HostMethod HostState Role) :
    HostMethod HostState Role :=
  match arg with
  | .ok a => next a
  | .error e => Echo.refuses e

def perform (act : Act) (args : Args) : HostMethod HostState Role :=
  match act with
  | .listArguments => Echo.returns (.list args.values)
  | .answer v => Echo.returns v
  | .keep => Echo.keeps (HostState.keep args.values) .nil
  | .add =>
    onArg (args.int 0) fun n =>
      .ask .getState fun s =>
        let total := s.total + n
        .ask (.setState { s with total := total }) fun _ => Echo.returns (.int total)
  | .read reading index => onArg (args.read index reading) Echo.returns
  | .fail message => .done (.failed (.failed message))
  | .raise e => .done (.failed (.bridge e))
  | .panic text => .done (.panicked text)
  | .spawn =>
    onArg (args.int 0) fun n =>
      .ask .getState fun s =>
        let (counter, s) := s.addCounter n
        .ask (.setState s) fun _ => .done (.returned (.object counter))
  | .evaluate program =>
    .ask (.evaluate program []) fun status => Echo.returns (.int status.code)
  | .dispatch =>
    onArg (args.value 0) fun target =>
      match target.widgetId? with
      | none => Echo.returns .nil
      | some id =>
        .ask (.dispatch id .nil) fun
          | some status => Echo.returns (.int status.code)
          | none => Echo.returns .nil

def FieldAct.read (act : FieldAct) (s : HostState) : Completion Value :=
  match act with
  | .answer v => .returned v
  | .total => .returned (.int s.total)
  | .panic text => .panicked text

/-! ### The host -/

/-- The description of each class. -/
def describe (plan : ClassPlan) : Role → ClassDescription Role
  | .echo => ⟨Echo.table, []⟩
  | .planned => ⟨plan.table, if plan.returnsCounter then [.counter] else []⟩
  | .counter => ⟨counterTable, []⟩
  | .taker => ⟨{ plan.table with name := "Taker" }, []⟩

/-- The host with a planned class. -/
def host (plan : ClassPlan) : Host HostState Role where
  classes :=
    { all := [.echo, .planned, .counter, .taker]
      describe := describe plan
      mem_all := fun k => by cases k <;> simp }
  run
    | .echo, _, index, args => Echo.run HostState.keep index args
    | .counter, number, _, _ => bump number
    | _, _, index, args =>
      match plan.methods[index]? with
      | some (_, act) => perform act args
      | none => .done (.failed (.failed "no such method"))
  read
    | .echo, _, _, _ => Echo.read
    | .counter, number, _, s => .returned (.int (s.count number))
    | _, _, index, s =>
      match plan.fields[index]? with
      | some (_, act) => act.read s
      | none => .failed (.failed "no such field")

end ScriptBridge.Rehearsal
