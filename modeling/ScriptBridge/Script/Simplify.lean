/-
  ScriptBridge/Script/Simplify.lean
  =================================
  **Scripts without what has no effect.**

  Before a script runs, operations on literals are replaced by their results,
  choices between literals by the chosen side, and statements that only have a
  value that nobody looks at are dropped.  So an error that such a part would
  have met does not arise.  An empty choice only evaluates its condition, of
  whatever kind it is.  A variable that is assigned an operation on itself is
  changed in its own place.
-/
import ScriptBridge.Script.Operator
import ScriptBridge.Script.Purity
import ScriptBridge.Script.Vocabulary

namespace ScriptBridge

/-! ### Operations on literals -/

/-- The result of an operation on two literals, where the operation is one of the language's own. -/
def BinaryOp.fold? (op : BinaryOp) (a b : Data) : Option Data :=
  match op, a, b with
  | _, .array _, .array _ => none
  | _, .map _, .map _ => none
  | .add, .string s, .string t => some (.string (s ++ t))
  | .add, .string s, .char c => some (.string (s.push c))
  | .add, .char c, .string s => some (.string (String.singleton c ++ s))
  | .add, .string s, .unit => some (.string s)
  | .add, .unit, .string s => some (.string s)
  | op, a, b => op.perform? a b

namespace Expr

/-- An operation on two simplified operands. -/
def folded (op : BinaryOp) (a b : Expr) : Expr :=
  match a.constant?, b.constant? with
  | some x, some y =>
    match op.fold? x y with
    | some d => .literal d
    | none => .binary op a b
  | _, _ => .binary op a b

/-- Both of two simplified conditions; a literal decides or is dropped. -/
def foldedBoth (a b : Expr) : Expr :=
  match a, b with
  | .literal (.bool true), b => b
  | .literal (.bool false), _ => .literal (.bool false)
  | a, .literal (.bool true) => a
  | a, .literal (.bool false) =>
    if a.isPure then .literal (.bool false) else .both a (.literal (.bool false))
  | a, b => .both a b

/-- One of two simplified conditions; a literal decides or is dropped. -/
def foldedEither (a b : Expr) : Expr :=
  match a, b with
  | .literal (.bool false), b => b
  | .literal (.bool true), _ => .literal (.bool true)
  | a, .literal (.bool false) => a
  | a, .literal (.bool true) =>
    if a.isPure then .literal (.bool true) else .either a (.literal (.bool true))
  | a, b => .either a b

/-- A call with simplified arguments. -/
def foldedCall (function : String) (args : List Expr) : Expr :=
  match function, args with
  | "type_of", [e] =>
    match e.constant? with
    | some d => .literal (.string d.typeName)
    | none => .call function args
  | "Fn", [.literal (.string name)] =>
    if Vocabulary.isFunctionName name then .literal (.foreign (.function name))
    else .call function args
  | function, args => .call function args

/-- The part of a literal that a single access means, when everything in the literal is pure. -/
def foldedAccess? (start : Expr) (link : Link) : Option Expr :=
  match start, link with
  | .array items, .index (.literal (.int n)) =>
    if arePure items then (Data.position? items.length n).bind (items[·]?) else none
  | .map entries, .property name | .map entries, .index (.literal (.string name)) =>
    if arePureEntries entries then some ((Assoc.find? name entries).getD (.literal .unit)) else none
  | .literal (.string s), .index (.literal (.int n)) =>
    ((Data.position? s.length n).bind (s.toList[·]?)).map fun c => .literal (.char c)
  | .literal (.int n), .index (.literal (.int i)) => (Data.bit? n i).map fun b => .literal (.bool b)
  | start, .method "type_of" [] => start.constant?.map fun d => .literal (.string d.typeName)
  | _, _ => none

/-- A chain of simplified parts. -/
def foldedChain (start : Expr) (links : List Link) : Expr :=
  match links with
  | [link] => (foldedAccess? start link).getD (.chain start [link])
  | links => .chain start links

/-- A block of simplified statements as a value. -/
def ofBlock : List Stmt → Expr
  | [] => .literal .unit
  | [.expr e] => e
  | body => .block body

end Expr

/-! ### Lists of statements -/

namespace Stmt

mutual

/-- The statements of a block that declares nothing, which needs no scope of its own. -/
def opened : Stmt → List Stmt
  | .block body => if body.any declares then [.block body] else openedAll body
  | s => [s]

def openedAll : List Stmt → List Stmt
  | [] => []
  | s :: rest => s.opened ++ openedAll rest

end

/-- Nothing is missed without the statement when nothing after it matters; in an inner block that
    holds of a variable too. -/
def isSilent (inner : Bool) (s : Stmt) : Bool :=
  s.isPure ||
    match s with
    | .declare _ e => inner && e.isPure
    | _ => false

/-- The statement keeps the variables before it. -/
def anchors (inner : Bool) (s : Stmt) : Bool :=
  !s.isSilent inner ||
    match s with
    | .declare _ e => e.isConstant
    | .expr e => !e.isConstant
    | _ => false

/-- The statements that are reached. -/
def reached : List Stmt → List Stmt
  | [] => []
  | s :: rest => if s.exits then [s] else s :: reached rest

/-- Drops silent statements, except the last one when the list has a value. -/
def pruned (inner keep : Bool) : List Stmt → List Stmt
  | [] => []
  | [last] => if !keep && last.isSilent inner then [] else [last]
  | s :: rest =>
    if s.isPure || (s.isSilent inner && !rest.any (anchors inner)) then pruned inner keep rest
    else s :: pruned inner keep rest

/-- Drops silent statements without a value from the end of a list that has one; the list comes in
    reverse.  The value of the statement before them stays hidden. -/
def trimmed (inner : Bool) : List Stmt → List Stmt
  | [] => []
  | [s] => if !s.hasValue && s.isSilent inner then [] else [s]
  | last :: before :: rest =>
    if !last.hasValue && last.isSilent inner then
      if before.hasValue then .nothing :: before :: rest else trimmed inner (before :: rest)
    else last :: before :: rest

/-- Drops silent statements from the end of a list, which comes in reverse. -/
def trimmedAll (inner : Bool) (body : List Stmt) : List Stmt := body.dropWhile (isSilent inner)

/-- One round of dropping statements. -/
def thinned (inner keep : Bool) (body : List Stmt) : List Stmt :=
  let body := (pruned inner keep (reached body)).reverse
  (if keep then trimmed inner body else trimmedAll inner body).reverse

/-- Rounds of dropping statements as long as they drop any; the fuel covers every statement. -/
def settled (inner keep : Bool) : Nat → List Stmt → List Stmt
  | 0, body => body
  | fuel + 1, body =>
    let next := thinned inner keep body
    if next.length < body.length then settled inner keep fuel next else next

/-- The simplified statements of an inner block; `keep` says that the block has a value. -/
def tidied (keep : Bool) (body : List Stmt) : List Stmt :=
  let body := openedAll body
  settled true keep (body.length + 1) body

/-- A block of simplified statements. -/
def ofBlock : List Stmt → Stmt
  | [] => .nothing
  | [.declare x e] => .block [.declare x e]
  | [s] => s
  | body => .block body

/-- A simplified expression as a statement. -/
def ofExpr (keep : Bool) : Expr → Stmt
  | .block body => ofBlock (tidied keep body)
  | e => .expr e

/-- A choice of simplified parts. -/
def ofChoice (keep : Bool) (condition : Expr) (yes no : List Stmt) : Stmt :=
  match yes, no with
  | [], [] =>
    if keep then ofBlock (tidied keep [ofExpr keep condition, .nothing]) else ofExpr keep condition
  | yes, no =>
    match condition with
    | .literal (.bool true) => ofBlock yes
    | .literal (.bool false) => ofBlock no
    | condition => .choose condition yes no

/-- An assignment of simplified parts. -/
def ofAssignment (name : String) (links : List Link) (op : Option BinaryOp) (e : Expr) : Stmt :=
  match links, op, e with
  | [], none, .binary op (.variable x) d =>
    if x = name ∧ op.isArithmetic then .assign name [] (some op) d
    else .assign name [] none (.binary op (.variable x) d)
  | links, op, e => .assign name links op e

end Stmt

/-! ### Scripts -/

mutual

def Expr.simplify : Expr → Expr
  | .literal d => .literal d
  | .variable x => .variable x
  | .function x => .function x
  | .array items => .array (Expr.simplifyAll items)
  | .map entries => .map (Expr.simplifyEntries entries)
  | .negate e => .negate e.simplify
  | .plus e => .plus e.simplify
  | .not e => .not e.simplify
  | .binary op a b => .folded op a.simplify b.simplify
  | .both a b => .foldedBoth a.simplify b.simplify
  | .either a b => .foldedEither a.simplify b.simplify
  | .call function args => .foldedCall function (Expr.simplifyAll args)
  | .chain start links => .foldedChain start.simplify (Link.simplifyAll links)
  | .block body => .ofBlock (Stmt.tidied true (Stmt.simplifyAll true body))

def Expr.simplifyAll : List Expr → List Expr
  | [] => []
  | e :: rest => e.simplify :: Expr.simplifyAll rest

def Expr.simplifyEntries : List (String × Expr) → List (String × Expr)
  | [] => []
  | (key, e) :: rest => (key, e.simplify) :: Expr.simplifyEntries rest

def Link.simplify : Link → Link
  | .property name => .property name
  | .index e => .index e.simplify
  | .method name args => .method name (Expr.simplifyAll args)

def Link.simplifyAll : List Link → List Link
  | [] => []
  | link :: rest => link.simplify :: Link.simplifyAll rest

/-- The statement without what has no effect; `keep` says that its value may be looked at. -/
def Stmt.simplify (keep : Bool) : Stmt → Stmt
  | .nothing => .nothing
  | .expr e => .ofExpr keep e.simplify
  | .declare x e => .declare x e.simplify
  | .assign x links op e => .ofAssignment x (Link.simplifyAll links) op e.simplify
  | .block body => .ofBlock (Stmt.tidied keep (Stmt.simplifyAll keep body))
  | .choose condition yes no =>
    .ofChoice keep condition.simplify (Stmt.tidied keep (Stmt.simplifyAll keep yes))
      (Stmt.tidied keep (Stmt.simplifyAll keep no))
  | .whileLoop condition body =>
    match condition.simplify with
    | .literal (.bool false) => .nothing
    | condition => .whileLoop condition (Stmt.tidied false (Stmt.simplifyAll false body))
  | .forLoop x source body =>
    .forLoop x source.simplify (Stmt.tidied false (Stmt.simplifyAll false body))
  | .attempt body x handler =>
    match Stmt.tidied false (Stmt.simplifyAll false body) with
    | [] => .nothing
    | body => .attempt body x (Stmt.tidied false (Stmt.simplifyAll false handler))
  | .raise e => .raise e.simplify
  | .giveBack e => .giveBack e.simplify

def Stmt.simplifyAll (keep : Bool) : List Stmt → List Stmt
  | [] => []
  | s :: rest => s.simplify keep :: Stmt.simplifyAll keep rest

end

/-- The simplified statements of a whole script or of a function, whose last one is its value. -/
def Stmt.simplifyBody (body : List Stmt) : List Stmt :=
  let body := Stmt.simplifyAll true (Stmt.openedAll body)
  Stmt.settled false true (body.length + 1) body

/-- The script without what has no effect. -/
def Source.simplify (source : Source) : Source :=
  ⟨source.functions.map fun f => { f with body := Stmt.simplifyBody f.body },
    Stmt.simplifyBody source.body⟩

end ScriptBridge
