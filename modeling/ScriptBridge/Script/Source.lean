/-
  ScriptBridge/Script/Source.lean
  ===============================
  **Scripts from their texts.**

  A script is refused as a whole before anything of it runs: for a syntax error,
  for any use of a variable that is not in scope where it stands, for a literal
  that can never be what its place asks for, and for parts too deep inside each
  other.  The body of a function sees its parameters and nothing else.  A
  statement that ends with a block needs no semicolon, nor does the last statement
  of a block.
-/
import ScriptBridge.Script.Parser

namespace ScriptBridge

namespace Parse

/-- A statement as parsed: whether it ends with a block; the variables after it. -/
structure Parsed where
  statement : Stmt
  ended : Bool
  scope : List String

/-! ### Expressions and statements -/

mutual

def parseExpr : Nat → Site → Parse Expr
  | 0, _ => failure
  | fuel + 1, site => do
    let first ← parseUnary fuel site
    parseJoints fuel site 0 first

/-- Operations that bind more tightly than a limit, from the left; each lies a level deeper than the
    one before. -/
def parseJoints : Nat → Site → Nat → Expr → Parse Expr
  | 0, _, _, _ => failure
  | fuel + 1, site, limit, left => do
    match ← nextJoint limit with
    | none => return left
    | some (strength, joint) =>
      let right ← parseUnary fuel site
      let right ← parseJoints fuel site strength right
      let e ← joined joint left right
      parseJoints fuel (← deeper 1 site) limit e

def parseUnary : Nat → Site → Parse Expr
  | 0, _ => failure
  | fuel + 1, site => do
    if ← accept "-" then return negated (← parseUnary fuel (← deeper 1 site))
    else if ← accept "+" then return signed (← parseUnary fuel (← deeper 1 site))
    else if ← accept "!" then return .not (← parseUnary fuel (← deeper 1 site))
    else
      let start ← parsePrimary fuel site
      let links ← parseLinks fuel site 0
      require (mayHave start links)
      return chainOf start links

def parsePrimary : Nat → Site → Parse Expr
  | 0, _ => failure
  | fuel + 1, site => do
    match ← advance with
    | .literal d => return .literal d
    | .symbol s =>
      if s = "(" then
        let e ← parseExpr fuel (← deeper 2 site)
        expect ")"
        return e
      else if s = "[" then return .array (← parseList fuel (← deeper 2 site) 1 "]")
      else if s = "#\x7b" then return .map (← parseEntries fuel (← deeper 2 site) [])
      else if s = "\x7b" then return .block (← parseBody fuel (← deeper 2 site))
      else failure
    | .word w =>
      if w = "true" then return .literal (.bool true)
      else if w = "false" then return .literal (.bool false)
      else if w = "if" then return .block [← parseChoice fuel (← deeper 2 site)]
      else
        require (Vocabulary.isFree w || Vocabulary.callableWords.contains w)
        match ← acceptOpening with
        | some opening => return .call w (← parseArgs fuel site opening)
        | none =>
          require (Vocabulary.isFree w)
          nameAt site w

/-- The arguments of a call at a site. -/
def parseArgs : Nat → Site → Opening → Parse (List Expr)
  | 0, _, _ => failure
  | _ + 1, _, .empty => return []
  | fuel + 1, site, .list => parseList fuel site 2 ")"

/-- Items up to a closing sign, each some levels down; a comma may follow the last one. -/
def parseList : Nat → Site → Nat → String → Parse (List Expr)
  | 0, _, _, _ => failure
  | fuel + 1, site, down, closer => do
    if ← accept closer then return []
    else
      let e ← parseExpr fuel (← deeper down site)
      if ← accept "," then return e :: (← parseList fuel site down closer)
      else
        expect closer
        return [e]

/-- Entries up to the end of a map; no key comes twice. -/
def parseEntries : Nat → Site → List String → Parse (List (String × Expr))
  | 0, _, _ => failure
  | fuel + 1, site, seen => do
    if ← accept "\x7d" then return []
    else
      let key ←
        match ← advance with
        | .word w => if Vocabulary.isFree w then pure w else failure
        | .literal (.string s) => pure s
        | _ => failure
      require (!seen.contains key)
      expect ":"
      let e ← parseExpr fuel (← deeper 1 site)
      if ← accept "," then return (key, e) :: (← parseEntries fuel site (key :: seen))
      else
        expect "\x7d"
        return [(key, e)]

/-- Accesses, after some indices one after the other.  A property or call lies a level deeper than what
    comes before it. -/
def parseLinks : Nat → Site → Nat → Parse (List Link)
  | 0, _, _ => failure
  | fuel + 1, site, indices => do
    if ← accept "." then
      let site ← deeper 1 site
      match ← advance with
      | .word w =>
        match ← acceptOpening with
        | some opening =>
          require (Vocabulary.isFree w || Vocabulary.methodWords.contains w)
          let args ← parseArgs fuel site opening
          return .method w args :: (← parseLinks fuel site 0)
        | none =>
          require (Vocabulary.isFree w)
          return .property w :: (← parseLinks fuel site 0)
      | _ => failure
    else if ← accept "[" then
      let e ← parseExpr fuel (← deeper (indices + 3) site)
      expect "]"
      return .index e :: (← parseLinks fuel site (indices + 1))
    else return []

/-- A condition; it does not begin with a block. -/
def parseCondition : Nat → Site → Parse Expr
  | 0, _ => failure
  | fuel + 1, site => do
    require (!(← atSymbol "\x7b"))
    let e ← parseExpr fuel site
    require (mayBeTrue e)
    return e

/-- A choice, after its first word. -/
def parseChoice : Nat → Site → Parse Stmt
  | 0, _ => failure
  | fuel + 1, site => do
    let inner ← deeper 1 site
    let condition ← parseCondition fuel inner
    let yes ← parseBlock fuel inner
    if ← acceptWord "else" then
      if ← acceptWord "if" then return .choose condition yes [← parseChoice fuel inner]
      else return .choose condition yes (← parseBlock fuel inner)
    else return .choose condition yes []

def parseBlock : Nat → Site → Parse (List Stmt)
  | 0, _ => failure
  | fuel + 1, site => do
    expect "\x7b"
    parseBody fuel site

def parseBody : Nat → Site → Parse (List Stmt)
  | 0, _ => failure
  | fuel + 1, site => do
    if ← accept "\x7d" then return []
    else if ← accept ";" then parseBody fuel site
    else
      let p ← parseStmt fuel site
      let closed ← atSymbol "\x7d"
      if !closed && !p.ended then expect ";"
      let rest ← parseBody fuel { site with scope := p.scope }
      return p.statement :: rest

def parseStmt : Nat → Site → Parse Parsed
  | 0, _ => failure
  | fuel + 1, site => do
    if ← accept "\x7b" then
      return ⟨.block (← parseBody fuel (← deeper 2 site)), true, site.scope⟩
    else if ← acceptWord "if" then
      return ⟨← parseChoice fuel (← deeper 2 site), true, site.scope⟩
    else if ← acceptWord "while" then
      let inner ← deeper 3 site
      let condition ← parseCondition fuel inner
      return ⟨.whileLoop condition (← parseBlock fuel inner), true, site.scope⟩
    else if ← acceptWord "for" then
      let inner ← deeper 3 site
      let x ← freeWord
      expectWord "in"
      require (!(← atSymbol "\x7b"))
      let source ← parseExpr fuel inner
      require (mayHaveItems source)
      return ⟨.forLoop x source (← parseBlock fuel (inner.declaring x)), true, site.scope⟩
    else if ← acceptWord "try" then
      let inner ← deeper 3 site
      let body ← parseBlock fuel inner
      expectWord "catch"
      if ← accept "(" then
        let x ← freeWord
        expect ")"
        return ⟨.attempt body (some x) (← parseBlock fuel (inner.declaring x)), true, site.scope⟩
      else return ⟨.attempt body none (← parseBlock fuel inner), true, site.scope⟩
    else if ← acceptWord "let" then
      let inner ← deeper 2 site
      let x ← freeWord
      let e ← if ← accept "=" then parseExpr fuel (← deeper 1 inner) else pure (.literal .unit)
      return ⟨.declare x e, false, x :: site.scope⟩
    else if ← acceptWord "throw" then
      return ⟨.raise (← parseResult fuel site), false, site.scope⟩
    else if ← acceptWord "return" then
      return ⟨.giveBack (← parseResult fuel site), false, site.scope⟩
    else
      let inner ← deeper 2 site
      let e ← parseExpr fuel inner
      match ← nextAssignment with
      | none => return ⟨.expr e, false, site.scope⟩
      | some op =>
        match placeOf e with
        | none => failure
        | some (x, links) =>
          return ⟨.assign x links op (← parseExpr fuel inner), false, site.scope⟩

/-- What is thrown or returned; nothing is the empty value. -/
def parseResult : Nat → Site → Parse Expr
  | 0, _ => failure
  | fuel + 1, site => do
    match ← peek with
    | none => return .literal .unit
    | some (.symbol s) =>
      if s = ";" || s = "\x7d" then return .literal .unit
      else parseExpr fuel (← deeper 2 site)
    | some _ => parseExpr fuel (← deeper 2 site)

end

/-! ### Functions and scripts -/

/-- Parameters up to the closing parenthesis, all different. -/
def parseParams : Nat → List String → Parse (List String)
  | 0, _ => failure
  | fuel + 1, seen => do
    if ← accept ")" then return []
    else
      let x ← freeWord
      require (!seen.contains x)
      if ← accept "," then return x :: (← parseParams fuel (x :: seen))
      else
        expect ")"
        return [x]

/-- A function, after its first word.  Its body lies two levels below nothing. -/
def parseFunction (fuel : Nat) : Parse Unit := do
  let name ← freeWord
  let params ←
    match ← acceptOpening with
    | some .empty => pure []
    | some .list => parseParams fuel []
    | none => failure
  let body ← parseBlock fuel ⟨params, [], 2, Site.functionLimit⟩
  declareFunction ⟨name, params, body⟩

/-- The statements and functions of a whole script. -/
def parseScript : Nat → Site → Parse (List Stmt)
  | 0, _ => failure
  | fuel + 1, site => do
    match ← peek with
    | none => return []
    | some _ =>
      if ← accept ";" then parseScript fuel site
      else if ← acceptWord "fn" then
        parseFunction fuel
        parseScript fuel site
      else
        let p ← parseStmt fuel site
        match ← peek with
        | none => pure ()
        | some _ => if !p.ended then expect ";"
        let rest ← parseScript fuel { site with scope := p.scope }
        return p.statement :: rest

end Parse

/-- The names after the word that declares a function. -/
def Source.functionNames : List Token → List String
  | .word "fn" :: .word name :: rest => name :: functionNames rest
  | _ :: rest => functionNames rest
  | [] => []

/-- Parses a script with the given variables in scope.  No rule is entered more than twelve times
    without a token being taken, so the fuel suffices. -/
def Source.ofText (scope : List String) (text : String) : Option Source := do
  let tokens ← Token.ofText text
  let site : Parse.Site := ⟨[], scope, 0, Parse.Site.scriptLimit⟩
  let start : ParseState := ⟨tokens, [], functionNames tokens⟩
  let (body, s) ← (Parse.parseScript (12 * (tokens.length + 2)) site).run start
  return ⟨s.functions, body⟩

end ScriptBridge
