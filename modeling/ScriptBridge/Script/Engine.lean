/-
  ScriptBridge/Script/Engine.lean
  ===============================
  **What the bridge needs of a script language.**

  An engine takes the functions of the bridge, the variables in scope and a
  source text.  It refuses the text or starts a script: an interaction that
  calls functions of the bridge and prints, and that completes or ends with an
  error that nothing caught.
-/
import ScriptBridge.Interaction
import ScriptBridge.Script.Native

namespace ScriptBridge

/-- What a script asks of the bridge. -/
inductive ScriptRequest where
  | call (native : Native) (args : List Data)
  | print (line : String)

/-- The reply to a request: a call returns a value or throws one. -/
abbrev ScriptRequest.Reply : ScriptRequest → Type
  | .call _ _ => Except Data Data
  | .print _ => Unit

/-- A running script; its result says whether it completed. -/
abbrev Script := Interaction ScriptRequest ScriptRequest.Reply Bool

/-- The variables that a script starts with; of two of one name the later one is meant. -/
abbrev Scope := List (String × Data)

/-- A script language. -/
structure Engine where
  /-- Starts a source text; `none` when it does not parse. -/
  start : Natives → Scope → String → Option Script

end ScriptBridge
