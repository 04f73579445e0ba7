/-
  ScriptBridge/Bridge/Echo.lean
  =============================
  **The host that only listens.**

  Recorded runs and the command line give a script one callback object.  It
  keeps the arguments of every call of `callback`, in order, and answers the
  other calls with fixed results.
-/
import ScriptBridge.Bridge.Host

namespace ScriptBridge

/-- A method of the listening class. -/
inductive EchoMethod where
  | y
  | z
  /-- Keeps its arguments. -/
  | callback
deriving DecidableEq, Repr

namespace EchoMethod

def all : List EchoMethod := [.y, .z, .callback]

def declaration : EchoMethod → MethodDecl
  | .y => ⟨"y", [.any, .any], none⟩
  | .z => ⟨"z", [.list, .map], none⟩
  | .callback => ⟨"callback", [], some .any⟩

end EchoMethod

namespace Echo

def table : MethodTable := ⟨"EchoHost", EchoMethod.all.map EchoMethod.declaration, ["x"]⟩

variable {η κ : Type}

/-- Ends a method with a value. -/
def returns (v : Value) : HostMethod η κ := .done (.returned (.value v))

/-- Ends a method with a fault of its arguments. -/
def refuses (e : MarshalError) : HostMethod η κ := .done (.failed (.marshal e))

/-- Changes the state of the host, then ends a method with a value. -/
def keeps (change : η → η) (v : Value) : HostMethod η κ :=
  .ask .getState fun h => .ask (.setState (change h)) fun _ => returns v

def runMethod (keep : List Value → η → η) (method : EchoMethod) (args : Args) : HostMethod η κ :=
  match method with
  | .y => returns (.int 99)
  | .z =>
    match args.list 0 with
    | .ok items => returns (.int (Int64.ofNat items.length))
    | .error e => refuses e
  | .callback =>
    match args.list 0 with
    | .ok items => keeps (keep items) .nil
    | .error e => refuses e

def run (keep : List Value → η → η) (index : Nat) (args : Args) : HostMethod η κ :=
  match EchoMethod.all[index]? with
  | some method => runMethod keep method args
  | none => .done (.failed (.failed "no such method"))

/-- Reads the only field. -/
def read : Completion Value := .returned (.int 6)

end Echo

/-- The class of the listening object. -/
inductive EchoClass where
  | echo
deriving DecidableEq, Repr

/-- The host with the listening class; its state is the calls that it heard. -/
def echoHost : Host (List (List Value)) EchoClass where
  classes := { all := [.echo], describe := fun _ => ⟨Echo.table, []⟩, mem_all := fun k => by cases k; simp }
  run _ _ := Echo.run fun call calls => calls ++ [call]
  read _ _ _ _ := Echo.read

def echoObject : ObjectRef EchoClass := .host .echo 0

end ScriptBridge
