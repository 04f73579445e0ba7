/-
  ScriptBridge/Rehearsal/Class.lean
  =================================
  **Classes that are described, not written.**

  A script can be tried out before the application exists: each field and each
  method of a planned class says what it is to do.
-/
import ScriptBridge.Bridge.Host

namespace ScriptBridge.Rehearsal

/-- What a planned method does. -/
inductive Act where
  /-- Returns its arguments as a list. -/
  | listArguments
  | answer (v : Value)
  | keep
  /-- Adds its first argument to the total and returns the total. -/
  | add
  /-- Returns what an accessor finds at a position. -/
  | read (reading : Args.Reading) (index : Nat)
  | fail (message : String)
  | raise (e : BridgeError)
  | panic (text : Option String)
  /-- Returns a new counter that starts at the first argument. -/
  | spawn
  /-- Runs a program on the same bridge and returns its status. -/
  | evaluate (program : Program)
  /-- Fires the widget that its first argument refers to and returns the status. -/
  | dispatch
deriving DecidableEq, Repr

/-- What a planned field reads as. -/
inductive FieldAct where
  | answer (v : Value)
  | total
  | panic (text : Option String)
deriving DecidableEq, Repr

/-- A planned class. -/
structure ClassPlan where
  fields : List (String × FieldAct)
  methods : List (MethodDecl × Act)
  /-- Its methods are declared to return counters. -/
  returnsCounter : Bool
deriving DecidableEq, Repr

/-- The plan of a class with nothing in it. -/
def ClassPlan.empty : ClassPlan := ⟨[], [], false⟩

def ClassPlan.table (plan : ClassPlan) : MethodTable :=
  ⟨"Spec", plan.methods.map Prod.fst, plan.fields.map Prod.fst⟩

end ScriptBridge.Rehearsal
