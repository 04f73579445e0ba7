/-
  ScriptBridge/Script/Run.lean
  ============================
  **Running scripts.**

  A script is simplified before it runs.  Operands are evaluated from the left to
  the right, but the arguments of a chain come before the value that it starts
  with, and a variable that is the first argument of a call is read after the
  others.  Throws and faults can be caught.  A function of a script sees its
  parameters and nothing else, and a call inside 64 others is the end of the
  script.
-/
import ScriptBridge.Script.Place
import ScriptBridge.Script.Simplify
import ScriptBridge.Script.Source

namespace ScriptBridge.Eval

mutual

def expr : Nat → Surroundings → Expr → Eval Data
  | 0, _, _ => throw .fatal
  | fuel + 1, s, e => do
    match e with
    | .literal d => return d
    | .variable x => readVariable x
    | .function x => return .foreign (.function x)
    | .array items => return .array (← exprs fuel s items)
    | .map parts => return .map (← entries fuel s parts)
    | .negate e => orFault (← expr fuel s e).unshare.negate?
    | .plus e => orFault (← expr fuel s e).unshare.plus?
    | .not e => return .bool (!(← truth (← expr fuel s e)))
    | .binary op a b =>
      let a ← expr fuel s a
      let b ← expr fuel s b
      applyOp s op a b
    | .both a b =>
      if ← truth (← expr fuel s a) then return .bool (← truth (← expr fuel s b))
      else return .bool false
    | .either a b =>
      if ← truth (← expr fuel s a) then return .bool true
      else return .bool (← truth (← expr fuel s b))
    | .call name args => call fuel s name args
    | .chain start parts =>
      let accesses ← links fuel s parts
      match start with
      | .variable x => follow fuel s (some ⟨x, id⟩) (← readVariable x) accesses
      | start => follow fuel s none (← expr fuel s start) accesses
    | .block body => block fuel s body

def exprs : Nat → Surroundings → List Expr → Eval (List Data)
  | 0, _, _ => throw .fatal
  | _ + 1, _, [] => return []
  | fuel + 1, s, e :: rest => do
    let d ← expr fuel s e
    return d :: (← exprs fuel s rest)

/-- The entries of a map; no two have the same key. -/
def entries : Nat → Surroundings → List (String × Expr) → Eval (List (String × Data))
  | 0, _, _ => throw .fatal
  | _ + 1, _, [] => return []
  | fuel + 1, s, (key, e) :: rest => do
    let d ← expr fuel s e
    return Assoc.insert key d (← entries fuel s rest)

/-- A call.  A variable as the first argument is read last, and can be changed. -/
def call : Nat → Surroundings → String → List Expr → Eval Data
  | 0, _, _, _ => throw .fatal
  | fuel + 1, s, name, args => do
    match args with
    | .variable x :: rest =>
      let rest ← exprs fuel s rest
      let first ← readVariable x
      callOrOutside fuel s name (rest.length + 1) (first :: rest) (first :: rest) (some ⟨x, id⟩)
    | args =>
      let args ← exprs fuel s args
      callOrOutside fuel s name args.length args args none

/-- Calls a function of the script with its own arguments if there is one of this arity, and any
    other function with all arguments. -/
def callOrOutside : Nat → Surroundings → String → Nat → List Data → List Data → Option Place →
    Eval Data
  | 0, _, _, _, _, _, _ => throw .fatal
  | fuel + 1, s, name, arity, own, all, place => do
    match s.function? name arity with
    | none => callOutside s name all place
    | some f =>
      if maxCallLevel ≤ s.level then throw .fatal
      let outer ← get
      set (f.params.zip own).reverse
      let result ← observe (stmts fuel { s with level := s.level + 1 } f.body)
      set outer
      match result with
      | .ok d => return d
      | .error (.returned d) => return d
      | .error (.thrown d _) => throw (.thrown d true)
      | .error signal => throw signal

/-- The accesses of a chain with the values of their arguments. -/
def links : Nat → Surroundings → List Link → Eval (List Access)
  | 0, _, _ => throw .fatal
  | _ + 1, _, [] => return []
  | fuel + 1, s, link :: rest => do
    let access ←
      match link with
      | .property name => pure (Access.property name)
      | .index e => pure (Access.index (← expr fuel s e))
      | .method name args => pure (Access.method name (← exprs fuel s args))
    return access :: (← links fuel s rest)

/-- One access to a value that has a place. -/
def step : Nat → Surroundings → Option Place → Data → Access → Eval (Data × Option Place)
  | 0, _, _, _, _ => throw .fatal
  | fuel + 1, s, place, d, access => do
    match access, d.unshare with
    | .property name, .map entries => element place (.map entries) (.string name)
    | .property name, d => return (← property s d name, none)
    | .index key, d => element place d key
    | .method name args, _ =>
      return (← callOrOutside fuel s name args.length args (d :: args) place, none)

/-- Accesses one after the other. -/
def follow : Nat → Surroundings → Option Place → Data → List Access → Eval Data
  | 0, _, _, _, _ => throw .fatal
  | _ + 1, _, _, d, [] => return d
  | fuel + 1, s, place, d, access :: rest => do
    let (d, place) ← step fuel s place d access
    follow fuel s place d rest

/-- Assigns to the end of a chain. -/
def assignChain : Nat → Surroundings → Option Place → Data → List Access → Option BinaryOp → Data →
    Eval Unit
  | 0, _, _, _, _, _, _ => throw .fatal
  | _ + 1, _, _, _, [], _, _ => fault
  | _ + 1, s, place, target, [access], op, d => assignAccess s place target access op d
  | fuel + 1, s, place, target, access :: rest, op, d => do
    let (target, place) ← step fuel s place target access
    assignChain fuel s place target rest op d

def block : Nat → Surroundings → List Stmt → Eval Data
  | 0, _, _ => throw .fatal
  | fuel + 1, s, body => inScope (stmts fuel s body)

/-- Statements one after the other; the value is that of the last one. -/
def stmts : Nat → Surroundings → List Stmt → Eval Data
  | 0, _, _ => throw .fatal
  | _ + 1, _, [] => return .unit
  | fuel + 1, s, [last] => stmt fuel s last
  | fuel + 1, s, first :: rest => do
    let _ ← stmt fuel s first
    stmts fuel s rest

def stmt : Nat → Surroundings → Stmt → Eval Data
  | 0, _, _ => throw .fatal
  | fuel + 1, s, statement => do
    match statement with
    | .nothing => return .unit
    | .expr e => expr fuel s e
    | .block body => block fuel s body
    | .choose condition yes no =>
      if ← truth (← expr fuel s condition) then block fuel s yes else block fuel s no
    | .declare x e =>
      declare x (← expr fuel s e)
      return .unit
    | .assign x [] op e =>
      let d ← expr fuel s e
      let old ← readVariable x
      write (some ⟨x, id⟩) (← updated s op old d)
      return .unit
    | .assign x parts op e =>
      let d ← expr fuel s e
      let accesses ← links fuel s parts
      let target ← readVariable x
      assignChain fuel s (some ⟨x, id⟩) target accesses op d
      return .unit
    | .whileLoop condition body => whileLoop fuel s condition body
    | .forLoop x (.binary .range a b) body =>
      let a ← expr fuel s a
      let b ← expr fuel s b
      match a.unshare, b.unshare with
      | .int first, .int stop => countLoop fuel s x first stop body
      | _, _ => fault
    | .forLoop x source body =>
      match (← expr fuel s source).unshare with
      | .array items => itemLoop fuel s x items body
      | .string text => itemLoop fuel s x (text.toList.map .char) body
      | .blob octets => itemLoop fuel s x (octets.map fun o => .int (Int64.ofNat o.toNat)) body
      | _ => fault
    | .attempt body x handler =>
      match ← observe (block fuel s body) with
      | .ok d => return d
      | .error (.thrown d fromFunction) => handle fuel s (.thrown d fromFunction) d x handler
      | .error .fault => handle fuel s .fault (.map []) x handler
      | .error signal => throw signal
    | .raise e => throw (.thrown (← expr fuel s e) false)
    | .giveBack e => throw (.returned (← expr fuel s e))

/-- Handles what was caught.  A handler that throws nothing throws what it caught. -/
def handle : Nat → Surroundings → Signal → Data → Option String → List Stmt → Eval Data
  | 0, _, _, _, _, _ => throw .fatal
  | fuel + 1, s, signal, d, x, handler => do
    let body : Eval Data := do
      match x with
      | some x => declare x d
      | none => pure ()
      stmts fuel s handler
    match ← observe (inScope body) with
    | .ok _ => return .unit
    | .error (.thrown .unit false) => throw signal
    | .error other => throw other

def whileLoop : Nat → Surroundings → Expr → List Stmt → Eval Data
  | 0, _, _, _ => throw .fatal
  | fuel + 1, s, condition, body => do
    if ← truth (← expr fuel s condition) then
      let _ ← block fuel s body
      whileLoop fuel s condition body
    else return .unit

/-- Runs a body for the numbers from one up to, and without, another. -/
def countLoop : Nat → Surroundings → String → Int64 → Int64 → List Stmt → Eval Data
  | 0, _, _, _, _, _ => throw .fatal
  | fuel + 1, s, x, n, stop, body => do
    if n < stop then
      let _ ← inScope do
        declare x (.int n)
        stmts fuel s body
      countLoop fuel s x (n + 1) stop body
    else return .unit

/-- Runs a body for every item. -/
def itemLoop : Nat → Surroundings → String → List Data → List Stmt → Eval Data
  | 0, _, _, _, _ => throw .fatal
  | _ + 1, _, _, [], _ => return .unit
  | fuel + 1, s, x, d :: rest, body => do
    let _ ← inScope do
      declare x d
      stmts fuel s body
    itemLoop fuel s x rest body

end

/-- How many steps a script may take inside each other or in a loop. -/
def maxSteps : Nat := Nat.pow 2 40

end ScriptBridge.Eval

namespace ScriptBridge

/-- Runs a parsed script; a return at its top completes it. -/
def Source.run (source : Source) (natives : Natives) (scope : Scope) : Script := do
  let (result, _) ←
    (Eval.stmts Eval.maxSteps ⟨natives, source.functions, 0⟩ source.body).run.run scope.reverse
  match result with
  | .ok _ => return true
  | .error (.returned _) => return true
  | .error _ => return false

/-- The script language. -/
def scriptLanguage : Engine where
  start natives scope text := do
    let source ← Source.ofText (scope.map Prod.fst) text
    return source.simplify.run natives scope

end ScriptBridge
