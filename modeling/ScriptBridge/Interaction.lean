/-
  ScriptBridge/Interaction.lean
  =============================
  **Computations that ask their surroundings.**

  A script asks the bridge, and so does a host method.  Both are trees: a node
  is a request, its branches are what happens after each possible reply.  The
  same tree runs against any surroundings, and what holds of every tree holds of
  every script.
-/

namespace ScriptBridge

/-- A computation that asks requests, is given a reply to each, and ends with a result. -/
inductive Interaction (Request : Type) (Reply : Request → Type) (Result : Type) where
  | done (result : Result)
  | ask (request : Request) (next : Reply request → Interaction Request Reply Result)

namespace Interaction

variable {Request : Type} {Reply : Request → Type} {α β σ : Type}

/-- Goes on with the result of a computation. -/
def bind (x : Interaction Request Reply α) (f : α → Interaction Request Reply β) :
    Interaction Request Reply β :=
  match x with
  | .done a => f a
  | .ask r next => .ask r fun reply => (next reply).bind f

instance : Monad (Interaction Request Reply) where
  pure := .done
  bind := bind

/-- Asks one request and returns the reply. -/
def request (r : Request) : Interaction Request Reply (Reply r) := .ask r .done

/-- Runs a computation in surroundings that have a state. -/
def run (serve : (r : Request) → σ → Reply r × σ) : Interaction Request Reply α → σ → α × σ
  | .done a, s => (a, s)
  | .ask r next, s =>
    let (reply, s) := serve r s
    (next reply).run serve s

end Interaction
end ScriptBridge
