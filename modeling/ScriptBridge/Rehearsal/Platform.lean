/-
  ScriptBridge/Rehearsal/Platform.lean
  ====================================
  **A platform with planned refusals and sizes.**

  An operation that is to fail is refused before the platform hears of it.  The
  size that an operation returns can be replaced by any other, while the
  platform goes on with its own.
-/
import ScriptBridge.Platform.Basic

namespace ScriptBridge.Rehearsal

/-- What is planned for each operation, by its name. -/
structure PlatformPlan where
  refusals : List (String × String)
  sizes : List (String × Size)

namespace PlatformPlan

variable {σ : Type}

/-- The planned size of an operation, or another. -/
def sizeOr (plan : PlatformPlan) (operation : String) (size : Size) : Size :=
  (Assoc.find? operation plan.sizes).getD size

/-- Refuses an operation, or goes on with it. -/
def guard {α : Type} (plan : PlatformPlan) (operation : String)
    (go : σ → Except PlatformError α × σ) (s : σ) : Except PlatformError α × σ :=
  match Assoc.find? operation plan.refusals with
  | some message => (.error ⟨operation, message⟩, s)
  | none => go s

/-- A platform that follows the plan. -/
def apply (plan : PlatformPlan) (p : Platform σ) : Platform σ where
  read path s :=
    match Assoc.find? "read" plan.refusals with
    | some _ => (.error (.noAsset path), s)
    | none => p.read path s
  window width height s :=
    let (size, s) := p.window width height s
    (plan.sizeOr "window" size, s)
  create id blueprint := plan.guard blueprint.kind.name fun s =>
    let (answer, s) := p.create id blueprint s
    (answer.map (plan.sizeOr blueprint.kind.name), s)
  place id frame := plan.guard "place" (p.place id frame)
  setText id text := plan.guard "set_text" (p.setText id text)
  print := p.print

end PlatformPlan
end ScriptBridge.Rehearsal
