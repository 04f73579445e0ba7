/-
  ScriptBridge/Class/Method.lean
  ==============================
  **Methods of host classes: which one a call means, and what it receives.**

  A call means the first declared method of its name that takes its number of
  arguments.  Each argument is coerced to the kind of its parameter, from left
  to right; the surplus arguments of a variadic method arrive as one list.
-/
import ScriptBridge.Value.Args
import ScriptBridge.Value.Kind

namespace ScriptBridge

/-- A declared method. -/
structure MethodDecl where
  name : String
  params : List ParamKind
  /-- The kind of every surplus argument of a variadic method. -/
  rest : Option ParamKind
deriving DecidableEq, Repr

namespace MethodDecl

/-- The method takes this number of arguments. -/
def accepts (m : MethodDecl) (arity : Nat) : Bool :=
  match m.rest with
  | none => arity == m.params.length
  | some _ => m.params.length ≤ arity

/-- Coerces one argument to each parameter, and returns the arguments left over. -/
def bindParams : Nat → List ParamKind → List Value → Except MarshalError (List Value × List Value)
  | _, [], values => .ok ([], values)
  | index, _ :: _, [] => .error (.missingArgument index)
  | index, kind :: kinds, v :: values =>
    match kind.coerce v with
    | .error e => .error e
    | .ok bound =>
      match bindParams (index + 1) kinds values with
      | .error e => .error e
      | .ok (others, left) => .ok (bound :: others, left)

def coerceAll (kind : ParamKind) : List Value → Except MarshalError (List Value)
  | [] => .ok []
  | v :: values =>
    match kind.coerce v with
    | .error e => .error e
    | .ok bound =>
      match coerceAll kind values with
      | .error e => .error e
      | .ok others => .ok (bound :: others)

/-- What the method receives for some arguments. -/
def bind (m : MethodDecl) (values : List Value) : Except MarshalError Args :=
  match bindParams 0 m.params values with
  | .error e => .error e
  | .ok (bound, left) =>
    match m.rest with
    | none => .ok ⟨bound⟩
    | some kind =>
      match coerceAll kind left with
      | .error e => .error e
      | .ok others => .ok ⟨bound ++ [.list others]⟩

end MethodDecl

/-- What a class offers: its methods and fields, in the order of declaration. -/
structure MethodTable where
  name : String
  methods : List MethodDecl
  fields : List String
deriving DecidableEq, Repr

/-- Adds a number to an increasing list of numbers. -/
def insertNumber (n : Nat) : List Nat → List Nat
  | [] => [n]
  | m :: rest => if n = m then m :: rest else if n < m then n :: m :: rest else m :: insertNumber n rest

namespace MethodTable

/-- The method that a call means, with its position. -/
def resolve? (t : MethodTable) (method : String) (arity : Nat) : Option (MethodDecl × Nat) :=
  t.methods.zipIdx.find? fun e => e.1.name == method && e.1.accepts arity

def fieldIndex? (t : MethodTable) (field : String) : Option Nat :=
  (t.fields.zipIdx.find? fun e => e.1 == field).map Prod.snd

/-- The argument counts of one declaration that scripts may use; those of a variadic method are
    listed up to `cap`. -/
def declaredArities (cap : Nat) (m : MethodDecl) : List Nat :=
  match m.rest with
  | none => [m.params.length]
  | some _ => (List.range (max cap m.params.length + 1)).filter fun n => decide (m.params.length ≤ n)

/-- For every declared name, the argument counts that scripts may use, increasing. -/
def scriptArities (t : MethodTable) (cap : Nat) : List (String × List Nat) :=
  t.methods.foldl
    (fun acc m =>
      let known := (Assoc.find? m.name acc).getD []
      Assoc.insert m.name ((declaredArities cap m).foldl (fun ns n => insertNumber n ns) known) acc)
    []

/-- The method that a call means and what it receives. -/
def select (t : MethodTable) (method : String) (values : List Value) :
    Except BridgeError (Nat × Args) :=
  match t.resolve? method values.length with
  | none => .error (.methodNotFound t.name method values.length)
  | some (m, index) =>
    match m.bind values with
    | .error e => .error (.marshal e)
    | .ok args => .ok (index, args)

/-- How the bridge reports a failure of a host method. -/
def failure (t : MethodTable) (method : String) : HostError → BridgeError
  | .marshal e => .marshal e
  | .bridge e => e
  | .failed message => .invocation t.name method message

/-- Calls a method by an adapter that runs the method at a position; nothing runs unless the call
    resolves and every argument fits. -/
def call {σ α : Type} (t : MethodTable) (method : String) (values : List Value)
    (run : Nat → Args → σ → Except HostError α × σ) (s : σ) : Except BridgeError α × σ :=
  match t.select method values with
  | .error e => (.error e, s)
  | .ok (index, args) =>
    match run index args s with
    | (.ok a, s) => (.ok a, s)
    | (.error e, s) => (.error (t.failure method e), s)

end MethodTable
end ScriptBridge
