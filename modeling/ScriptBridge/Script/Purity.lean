/-
  ScriptBridge/Script/Purity.lean
  ===============================
  **Parts of a script that only have a value.**

  A constant is made of literals alone.  A pure part reads variables besides, and
  joins what it reads in arrays, maps and truth values; running it changes
  nothing.  A loop over something pure is pure, since it ends.
-/
import ScriptBridge.Data.Assoc
import ScriptBridge.Script.Tree

namespace ScriptBridge

/-! ### Constants -/

namespace Expr

mutual

/-- The value of an expression that is made of literals. -/
def constant? : Expr → Option Data
  | .literal d => some d
  | .array items => (constants? items).map .array
  | .map entries => (constantEntries? entries).map fun entries => .map (Assoc.ofList entries)
  | _ => none

def constants? : List Expr → Option (List Data)
  | [] => some []
  | e :: rest =>
    match constant? e, constants? rest with
    | some d, some ds => some (d :: ds)
    | _, _ => none

def constantEntries? : List (String × Expr) → Option (List (String × Data))
  | [] => some []
  | (key, e) :: rest =>
    match constant? e, constantEntries? rest with
    | some d, some entries => some ((key, d) :: entries)
    | _, _ => none

end


mutual

/-- Nothing but literals, and ranges between literals. -/
def isConstant : Expr → Bool
  | .literal _ => true
  | .array items => areConstant items
  | .map entries => areConstantEntries entries
  | .binary .range (.literal (.int _)) (.literal (.int _)) => true
  | _ => false

def areConstant : List Expr → Bool
  | [] => true
  | e :: rest => isConstant e && areConstant rest

def areConstantEntries : List (String × Expr) → Bool
  | [] => true
  | (_, e) :: rest => isConstant e && areConstantEntries rest

end

end Expr

/-! ### Pure parts -/

mutual

/-- Evaluating the expression changes nothing. -/
def Expr.isPure : Expr → Bool
  | .literal _ => true
  | .variable _ => true
  | .function _ => true
  | .array items => Expr.arePure items
  | .map entries => Expr.arePureEntries entries
  | .both a b => a.isPure && b.isPure
  | .either a b => a.isPure && b.isPure
  | .block body => Stmt.arePure body
  | .binary .range (.literal (.int _)) (.literal (.int _)) => true
  | _ => false

def Expr.arePure : List Expr → Bool
  | [] => true
  | e :: rest => e.isPure && Expr.arePure rest

def Expr.arePureEntries : List (String × Expr) → Bool
  | [] => true
  | (_, e) :: rest => e.isPure && Expr.arePureEntries rest

/-- Running the statement changes nothing, and declares no variable. -/
def Stmt.isPure : Stmt → Bool
  | .nothing => true
  | .expr e => e.isPure
  | .block body => Stmt.arePure body
  | .choose condition yes no => condition.isPure && Stmt.arePure yes && Stmt.arePure no
  | .forLoop _ source body => source.isPure && Stmt.arePure body
  | .attempt body _ handler => Stmt.arePure body && Stmt.arePure handler
  | _ => false

def Stmt.arePure : List Stmt → Bool
  | [] => true
  | s :: rest => s.isPure && Stmt.arePure rest

end

namespace Stmt

/-- The statement adds a variable to its block. -/
def declares : Stmt → Bool
  | .declare .. => true
  | _ => false

/-- The statement has a value that a block can end with. -/
def hasValue : Stmt → Bool
  | .expr _ | .block _ | .choose .. => true
  | _ => false

/-- No statement after it is reached. -/
def exits : Stmt → Bool
  | .raise _ | .giveBack _ => true
  | _ => false

end Stmt
end ScriptBridge
