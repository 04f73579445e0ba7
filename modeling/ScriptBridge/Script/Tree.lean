/-
  ScriptBridge/Script/Tree.lean
  =============================
  **Parsed scripts.**

  A chain is a value with accesses after it: properties, indices and method
  calls.  Only the first element of a chain that is assigned to can be a
  variable, so an assignment holds the variable's name.  A choice is a statement;
  where a value is wanted it stands alone in a block.
-/
import ScriptBridge.Data.Comparison
import ScriptBridge.Script.Data

namespace ScriptBridge

/-- An operation on two values. -/
inductive BinaryOp where
  | add
  | sub
  | mul
  | div
  | rem
  | compare (c : Comparison)
  /-- The numbers from the first up to, and without, the second. -/
  | range
deriving DecidableEq, Repr

/-- The operation is one of those on numbers. -/
def BinaryOp.isArithmetic : BinaryOp → Bool
  | .add | .sub | .mul | .div | .rem => true
  | _ => false

mutual

inductive Expr where
  | literal (d : Data)
  | variable (name : String)
  /-- The function of a name, as a value. -/
  | function (name : String)
  | array (items : List Expr)
  | map (entries : List (String × Expr))
  | negate (e : Expr)
  | plus (e : Expr)
  | not (e : Expr)
  | binary (op : BinaryOp) (a b : Expr)
  /-- True when both are; the second is looked at only if the first is true. -/
  | both (a b : Expr)
  /-- True when one is; the second is looked at only if the first is false. -/
  | either (a b : Expr)
  | call (function : String) (args : List Expr)
  | chain (start : Expr) (links : List Link)
  | block (body : List Stmt)

/-- An access in a chain. -/
inductive Link where
  | property (name : String)
  | index (e : Expr)
  | method (name : String) (args : List Expr)

inductive Stmt where
  | nothing
  | expr (e : Expr)
  | declare (name : String) (e : Expr)
  | assign (name : String) (links : List Link) (op : Option BinaryOp) (e : Expr)
  | block (body : List Stmt)
  | choose (condition : Expr) (yes no : List Stmt)
  | whileLoop (condition : Expr) (body : List Stmt)
  | forLoop (name : String) (source : Expr) (body : List Stmt)
  | attempt (body : List Stmt) (name : Option String) (handler : List Stmt)
  | raise (e : Expr)
  | giveBack (e : Expr)

end

/-- A function of a script. -/
structure Function where
  name : String
  params : List String
  body : List Stmt

/-- A parsed script. -/
structure Source where
  functions : List Function
  body : List Stmt

end ScriptBridge
