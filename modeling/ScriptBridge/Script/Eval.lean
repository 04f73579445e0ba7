/-
  ScriptBridge/Script/Eval.lean
  =============================
  **A running script from inside.**

  A statement has a value or ends early: a value is thrown, the language finds a
  fault, a function returns, or the script may not go on at all.  Variables are
  a stack, so that a later one hides an earlier one of its name.  A call that
  the script does not define itself means a function of the bridge first and one
  of the language second.
-/
import ScriptBridge.Script.Builtin
import ScriptBridge.Script.Engine
import ScriptBridge.Script.Vocabulary

namespace ScriptBridge

/-- Why a statement does not run to its end. -/
inductive Signal where
  /-- A value was thrown; it may have come out of a function of the script. -/
  | thrown (d : Data) (fromFunction : Bool)
  /-- An error of the language. -/
  | fault
  | returned (d : Data)
  /-- An end that cannot be caught. -/
  | fatal

/-- The variables in scope, the innermost first. -/
abbrev Variables := List (String × Data)

/-- A piece of a running script. -/
abbrev Eval :=
  ExceptT Signal (StateT Variables (Interaction ScriptRequest ScriptRequest.Reply))

/-- What a running script knows besides its variables. -/
structure Surroundings where
  natives : Natives
  functions : List Function
  /-- How many functions are being called. -/
  level : Nat

def Surroundings.function? (s : Surroundings) (name : String) (arity : Nat) : Option Function :=
  s.functions.find? fun f => f.name == name && f.params.length == arity

/-- How many functions of a script can be inside each other. -/
def maxCallLevel : Nat := 64

/-- A part of a variable: how the variable follows from the part. -/
structure Place where
  name : String
  rebuild : Data → Data

/-- A part of the part. -/
def Place.within (p : Place) (rebuild : Data → Data) : Place := ⟨p.name, p.rebuild ∘ rebuild⟩

namespace Eval

/-! ### Signals and variables -/

def fault {α : Type} : Eval α := throw .fault

/-- The value, or a fault when there is none. -/
def orFault {α : Type} : Option α → Eval α
  | some a => pure a
  | none => fault

/-- Runs a piece and hands over how it ended. -/
def observe {α : Type} (x : Eval α) : Eval (Except Signal α) :=
  ExceptT.mk (ExceptT.run x >>= fun r => pure (.ok r))

def ask (r : ScriptRequest) : Eval (ScriptRequest.Reply r) :=
  ExceptT.lift (StateT.lift (Interaction.request r))

def readVariable (name : String) : Eval Data := do
  orFault (Assoc.find? name (← get))

/-- Adds a variable, which hides others of its name. -/
def declare (name : String) (d : Data) : Eval Unit := modify ((name, d) :: ·)

/-- Changes the innermost variable of a name. -/
def assign (name : String) (d : Data) : Variables → Variables
  | [] => []
  | (x, old) :: rest => if x = name then (x, d) :: rest else (x, old) :: assign name d rest

/-- Changes the variable that a place is a part of; a place of no variable is forgotten. -/
def write (place : Option Place) (d : Data) : Eval Unit :=
  match place with
  | some p => modify (assign p.name (p.rebuild d))
  | none => pure ()

/-- Runs a piece and drops the variables that it declared, however it ends. -/
def inScope {α : Type} (x : Eval α) : Eval α := do
  let before := (← get).length
  let result ← observe x
  modify fun vars => vars.drop (vars.length - before)
  match result with
  | .ok a => return a
  | .error signal => throw signal

/-! ### Calls outside the script -/

/-- Calls a function of the bridge; an error that it reports is thrown. -/
def callNative (native : Native) (args : List Data) : Eval Data := do
  match ← ask (.call native args) with
  | .ok d => return d
  | .error d => throw (.thrown d false)

/-- The text that a function of a class or of the bridge has for a handle. -/
def handleText (s : Surroundings) (name : String) (h : ObjectHandle) : Eval String := do
  match s.natives.select name [.handle h] with
  | none => return ObjectHandle.text
  | some native =>
    match ← ask (.call native [.handle h]) with
    | .ok (.string text) => return text
    | .ok d => return d.typeName
    | .error _ => return (Data.handle h).typeName

/-- The text of a value as a part of another one; a class may describe its objects itself. -/
def partText (s : Surroundings) (d : Data) : Eval String := d.partText (handleText s "to_debug")

/-- The text of a value for printing; a class may describe its objects itself, and differently inside
    another value. -/
def displayText (s : Surroundings) (d : Data) : Eval String :=
  match d.unshare with
  | .handle h => handleText s "to_string" h
  | d => d.wholeText (handleText s "to_debug")

/-- What a text takes up of a value. -/
def joinedText (s : Surroundings) (d : Data) : Eval String :=
  match d.unshare with
  | .handle h => handleText s "to_string" h
  | d => d.joinedText (handleText s "to_debug")

/-- Applies an operation to two values; a text takes up what is added to it. -/
def applyOp (s : Surroundings) (op : BinaryOp) (a b : Data) : Eval Data := do
  match op, a.unshare, b.unshare with
  | .add, .string t, b => return .string (t ++ (← joinedText s b))
  | .add, a, .string t => return .string ((← joinedText s a) ++ t)
  | op, a, b => orFault (op.perform? a b)

/-- Applies an operation to a value in its own place. -/
def updateBy (s : Surroundings) (op : BinaryOp) (old d : Data) : Eval Data :=
  match op, Data.grow? old.unshare d.unshare with
  | .add, some grown => pure grown
  | op, _ => applyOp s op old d

/-- The function of a name; a word or sign of the language is none and cannot be caught. -/
def functionOf (name : String) : Eval Data :=
  if Vocabulary.isFunctionName name then pure (.foreign (.function name))
  else if Vocabulary.isKept name then throw .fatal
  else fault

def printLine (line : String) : Eval Data := do
  ask (.print line)
  return .unit

/-- Calls a function that the script does not define; what it changes of its first argument is
    written to the place of that argument. -/
def callOutside (s : Surroundings) (name : String) (args : List Data) (place : Option Place) :
    Eval Data := do
  match name, args with
  | "type_of", [d] => return .string d.typeName
  | name, args =>
    match s.natives.select name args with
    | some native =>
      let d ← callNative native args
      if name = "print" ∨ name = "debug" then
        match d with
        | .string line => if name = "print" then printLine line else return .unit
        | _ => fault
      else return d
    | none =>
      match name, args with
      | "print", [] => printLine ""
      | "print", [d] => printLine (← displayText s d)
      | "to_string", [d] => return .string (← displayText s d)
      | "debug", [] => return .unit
      | "debug", [d] =>
        let _ ← partText s d
        return .unit
      | "Fn", [.string name] => functionOf name
      | name, args =>
        let answer ← orFault (Builtin.call? name args)
        match answer.changed with
        | some d => write place d
        | none => pure ()
        return answer.result

/-- A value that must be true or false. -/
def truth (d : Data) : Eval Bool :=
  match d.unshare with
  | .bool b => pure b
  | _ => fault

end Eval
end ScriptBridge
