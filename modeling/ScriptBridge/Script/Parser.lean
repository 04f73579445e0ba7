/-
  ScriptBridge/Script/Parser.lean
  ===============================
  **Parsers of scripts.**

  A parser takes tokens from the front and fails without saying why.  It knows
  where it stands: the variables in scope, and how deep it lies inside other
  parts, which has a limit.  Some places refuse a literal that can never be what
  they ask for.
-/
import ScriptBridge.Data.Assoc
import ScriptBridge.Script.Token
import ScriptBridge.Script.Tree

namespace ScriptBridge

/-- What is left to parse, the functions found so far, and the names of all functions. -/
structure ParseState where
  tokens : List Token
  functions : List Function
  functionNames : List String

/-- A parser; it fails without saying why. -/
abbrev Parse := StateT ParseState Option

namespace Parse

/-! ### Tokens -/

def peek : Parse (Option Token) := do
  return (← get).tokens.head?

def advance : Parse Token := do
  let s ← get
  match s.tokens with
  | t :: rest =>
    set { s with tokens := rest }
    return t
  | [] => failure

/-- The next token is the sign. -/
def atSymbol (sign : String) : Parse Bool := do
  match ← peek with
  | some (.symbol s) => return s == sign
  | _ => return false

/-- Takes the sign if it is next. -/
def accept (sign : String) : Parse Bool := do
  if ← atSymbol sign then
    let _ ← advance
    return true
  else return false

/-- Takes the sign, which must be next. -/
def expect (sign : String) : Parse Unit := do
  if ← accept sign then return () else failure

/-- Takes the word if it is next. -/
def acceptWord (word : String) : Parse Bool := do
  match ← peek with
  | some (.word w) =>
    if w = word then
      let _ ← advance
      return true
    else return false
  | _ => return false

def expectWord (word : String) : Parse Unit := do
  if ← acceptWord word then return () else failure

/-- Takes a word that is free to name something. -/
def freeWord : Parse String := do
  match ← advance with
  | .word w => if Vocabulary.isFree w then return w else failure
  | _ => failure

/-! ### Operations -/

/-- How the parts around a sign are joined. -/
inductive Joint where
  | op (op : BinaryOp)
  | both
  | either

/-- The operations on two operands with how tightly they bind. -/
def joints : List (String × Nat × Joint) :=
  [("||", 30, .either), ("&&", 60, .both), ("==", 90, .op (.compare .equal)),
    ("!=", 90, .op (.compare .notEqual)), ("<", 130, .op (.compare .less)),
    ("<=", 130, .op (.compare .atMost)), (">", 130, .op (.compare .greater)),
    (">=", 130, .op (.compare .atLeast)), ("..", 140, .op .range), ("+", 150, .op .add),
    ("-", 150, .op .sub), ("*", 180, .op .mul), ("/", 180, .op .div), ("%", 180, .op .rem)]

/-- The signs of assignments, with the operation that each applies. -/
def assignments : List (String × Option BinaryOp) :=
  [("=", none), ("+=", some .add), ("-=", some .sub), ("*=", some .mul), ("/=", some .div),
    ("%=", some .rem)]

/-- The operation that comes next, if it binds more tightly than a limit. -/
def nextJoint (limit : Nat) : Parse (Option (Nat × Joint)) := do
  match ← peek with
  | some (.symbol s) =>
    match Assoc.find? s joints with
    | some (strength, joint) =>
      if limit < strength then
        let _ ← advance
        return some (strength, joint)
      else return none
    | none => return none
  | _ => return none

/-- The assignment that comes next, if any. -/
def nextAssignment : Parse (Option (Option BinaryOp)) := do
  match ← peek with
  | some (.symbol s) =>
    match Assoc.find? s assignments with
    | some op =>
      let _ ← advance
      return some op
    | none => return none
  | _ => return none

/-! ### Depth -/

/-- Where a part of a script stands: the variables in scope, those of the script itself and those from
    outside, how deep it lies inside other parts, and how deep it may lie. -/
structure Site where
  scope : List String
  outer : List String
  level : Nat
  limit : Nat

/-- The deepest level of the script itself and of the body of a function. -/
def Site.scriptLimit : Nat := 64

def Site.functionLimit : Nat := 32

/-- The site some levels further down; there is none below the limit. -/
def deeper (n : Nat) (site : Site) : Parse Site :=
  if site.level + n ≤ site.limit then return { site with level := site.level + n } else failure

/-- The site with a further variable. -/
def Site.declaring (x : String) (site : Site) : Site := { site with scope := x :: site.scope }

/-- What a name means: a variable of the script first, then a function, which hides a variable from
    outside.  Only functions found before can be meant. -/
def nameAt (site : Site) (name : String) : Parse Expr := do
  if site.scope.contains name then return .variable name
  else
    let s ← get
    if site.outer.contains name || s.functions.any (·.name == name) then
      return if s.functionNames.contains name then .function name else .variable name
    else failure

/-! ### What a place asks for -/

def require (condition : Bool) : Parse Unit := if condition then return () else failure

/-- The expression may be true or false. -/
def mayBeTrue : Expr → Bool
  | .literal (.bool _) => true
  | .literal _ | .array _ | .map _ => false
  | _ => true

/-- The expression may have items. -/
def mayHaveItems : Expr → Bool
  | .literal (.string _) => true
  | .literal _ | .map _ => false
  | _ => true

/-- The expression may be a position. -/
def mayBePosition : Expr → Bool
  | .literal (.int _) => true
  | .literal _ | .both .. | .either .. => false
  | _ => true

/-- The expression may be a key. -/
def mayBeKey : Expr → Bool
  | .literal (.string _) => true
  | .literal _ | .both .. | .either .. => false
  | _ => true

/-- The expression may have the first access of a chain. -/
def mayHave (start : Expr) (links : List Link) : Bool :=
  match start, links with
  | .map _, .index e :: _ => mayBeKey e
  | .array _, .index e :: _ => mayBePosition e
  | .literal (.string _), .index e :: _ => mayBePosition e
  | .literal (.int _), .index e :: _ => mayBePosition e
  | _, _ => true

/-- The last link of a chain can be assigned to, and no link of it is a call. -/
def isPlace (links : List Link) : Bool :=
  links.all fun
    | .method .. => false
    | _ => true

/-- What an assignment to an expression changes. -/
def placeOf : Expr → Option (String × List Link)
  | .variable x => some (x, [])
  | .chain (.variable x) links => if isPlace links then some (x, links) else none
  | _ => none

/-- An expression with accesses after it; a chain in parentheses goes on. -/
def chainOf (start : Expr) (links : List Link) : Expr :=
  match start, links with
  | start, [] => start
  | .chain start first, links => .chain start (first ++ links)
  | start, links => .chain start links

/-- The opposite of an expression; that of the least word is a float. -/
def negated : Expr → Expr
  | .literal (.int n) =>
    match Word.ofInt? (-n.toInt) with
    | some n => .literal (.int n)
    | none => .literal (.float (Double.ofInt (-n.toInt)))
  | .literal (.float d) => .literal (.float d.neg)
  | e => .negate e

/-- An expression with a plus sign before it. -/
def signed : Expr → Expr
  | .literal (.int n) => .literal (.int n)
  | .literal (.float d) => .literal (.float d)
  | e => .plus e

/-- Two expressions joined by a sign. -/
def joined (joint : Joint) (a b : Expr) : Parse Expr :=
  match joint with
  | .op f => return .binary f a b
  | .both => do
    require (mayBeTrue a && mayBeTrue b)
    return .both a b
  | .either => do
    require (mayBeTrue a && mayBeTrue b)
    return .either a b

/-- Declares a function; no other has its name and its number of parameters. -/
def declareFunction (f : Function) : Parse Unit := do
  let s ← get
  require (!s.functions.any fun g => g.name == f.name && g.params.length == f.params.length)
  set { s with functions := s.functions ++ [f] }

/-- How arguments begin. -/
inductive Opening where
  /-- There are none. -/
  | empty
  | list

/-- Takes what arguments begin with, if it is next. -/
def acceptOpening : Parse (Option Opening) := do
  match ← peek with
  | some (.literal .unit) =>
    let _ ← advance
    return some .empty
  | _ => if ← accept "(" then return some .list else return none

end Parse
end ScriptBridge
