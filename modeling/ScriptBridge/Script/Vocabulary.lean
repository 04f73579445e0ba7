/-
  ScriptBridge/Script/Vocabulary.lean
  ===================================
  **The words and signs of the script language.**

  A word names something when it is not kept for the language.  Words of the
  grammar and words kept for later never do; a few words are functions of the
  language and can only be called.
-/
import ScriptBridge.Text.Blank

namespace ScriptBridge.Vocabulary

/-! ### Words -/

def isWordStart (c : Char) : Bool := Text.isLetter c || c == '_'

def isWordPart (c : Char) : Bool := Text.isLetter c || Text.isDigit c || c == '_'

/-- A word has a letter, and no digit comes before its first letter. -/
def isName (cs : List Char) : Bool :=
  match cs.dropWhile (· == '_') with
  | c :: _ => Text.isLetter c && cs.all isWordPart
  | [] => false

/-- The words with a place in the grammar. -/
def keywords : List String :=
  ["let", "const", "if", "else", "switch", "do", "while", "until", "loop", "for", "in", "continue",
    "break", "return", "throw", "try", "catch", "fn", "private", "import", "export", "as", "true",
    "false"]

/-- The reserved words that are called like functions. -/
def callableWords : List String :=
  ["print", "debug", "eval", "Fn", "call", "curry", "type_of", "is_shared", "is_def_var", "is_def_fn"]

/-- The reserved words that are called like methods. -/
def methodWords : List String := ["type_of", "call", "curry", "is_shared"]

/-- The words that are kept for later. -/
def futureWords : List String :=
  ["this", "var", "static", "shared", "goto", "match", "case", "default", "void", "null", "nil",
    "spawn", "thread", "go", "sync", "async", "await", "yield", "super", "public", "protected", "new",
    "use", "with", "is", "module", "package"]

/-- The words after which an operand must follow. -/
def operandWords : List String := ["if", "while", "until", "in", "return", "throw"]

/-- The word is kept for the language. -/
def isReserved (word : String) : Bool :=
  keywords.contains word || callableWords.contains word || futureWords.contains word

/-- The word may name a variable, a function, a property or a key. -/
def isFree (word : String) : Bool := !isReserved word

/-! ### Signs -/

/-- The signs with a meaning, longer ones first. -/
def signs : List String :=
  ["#\x7b", "+=", "-=", "*=", "/=", "%=", "==", "!=", "<=", ">=", "&&", "||", "..",
    ";", ",", ".", ":", "(", ")", "\x7b", "\x7d", "[", "]", "=", "!", "<", ">", "+", "-", "*", "/", "%"]

/-- Sequences of signs that no script may hold. -/
def refusedSigns : List String := ["--", "++", "<-"]

/-- The signs that end an operand. -/
def closers : List String := [")", "]", "\x7d"]

/-- Further signs that are kept for the language. -/
def futureSigns : List String :=
  ["()", "**", "<<", ">>", "&", "|", "^", "**=", "<<=", ">>=", "&=", "|=", "^=", "..=", "...", "::",
    "::<", "=>", "->", ":=", "===", "!==", ":;", "?", "??", "?.", "?[", "!in", "~", "@", "$", "#", "#!", "!.",
    "<|", "|>", "(*", "*)", "//", "/*", "*/"]

/-! ### Names of functions -/

/-- The text is a name that a function may have. -/
def isFunctionName (name : String) : Bool := isName name.toList && isFree name

/-- The text is a word or a sign of the language itself. -/
def isKept (name : String) : Bool :=
  isReserved name || signs.contains name || refusedSigns.contains name || futureSigns.contains name

end ScriptBridge.Vocabulary
