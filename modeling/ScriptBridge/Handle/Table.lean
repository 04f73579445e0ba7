/-
  ScriptBridge/Handle/Table.lean
  ==============================
  **The host objects that scripts can reach.**

  A handle is adopted in the innermost open scope.  Closing a scope drops the
  handles adopted in it or in a scope inside it, except those that are pinned:
  they stay until their last pin goes.  Outside any scope a handle stays until it
  is released.
-/
import ScriptBridge.Value.Basic

namespace ScriptBridge

/-- One host object that scripts can reach. -/
structure HandleEntry (α : Type) where
  object : α
  /-- The number of scopes that were open when it was adopted. -/
  scope : Nat
  pins : Nat
  /-- Its scope has ended. -/
  closed : Bool
deriving DecidableEq, Repr

/-- Stands for an open scope. -/
structure ScopeToken where
  depth : Nat
deriving DecidableEq, Repr

/-- The handles of one bridge, in the order in which they were adopted. -/
structure HandleTable (α : Type) where
  /-- The number of open scopes. -/
  depth : Nat
  entries : List (ObjectHandle × HandleEntry α)
deriving DecidableEq, Repr

namespace HandleTable

variable {α : Type}

def empty : HandleTable α := ⟨0, []⟩

def get? (t : HandleTable α) (h : ObjectHandle) : Option (HandleEntry α) := Assoc.find? h t.entries

/-- The object of a handle. -/
def find? (t : HandleTable α) (h : ObjectHandle) : Option α := (t.get? h).map HandleEntry.object

def size (t : HandleTable α) : Nat := t.entries.length

def openScope (t : HandleTable α) : ScopeToken × HandleTable α :=
  (⟨t.depth + 1⟩, { t with depth := t.depth + 1 })

/-- What becomes of an entry when a scope ends. -/
def endScope (token : ScopeToken) (e : HandleEntry α) : HandleEntry α :=
  if e.scope < token.depth then e else { e with closed := true }

/-- Ends a scope and every scope opened after it; returns how many handles were dropped. -/
def closeScope (t : HandleTable α) (token : ScopeToken) : Nat × HandleTable α :=
  let kept := (t.entries.map fun e => (e.1, endScope token e.2)).filter fun e =>
    decide (e.2.scope < token.depth) || decide (0 < e.2.pins)
  (t.entries.length - kept.length, ⟨token.depth - 1, kept⟩)

/-- Puts an object under a handle, in the innermost open scope. -/
def adopt (t : HandleTable α) (h : ObjectHandle) (object : α) : HandleTable α :=
  { t with entries := Assoc.insert h ⟨object, t.depth, 0, false⟩ t.entries }

/-- Pins a handle; false if it is unknown. -/
def retain (t : HandleTable α) (h : ObjectHandle) : Bool × HandleTable α :=
  ((t.get? h).isSome,
    { t with entries := Assoc.modify h (fun e => { e with pins := e.pins + 1 }) t.entries })

/-- Takes one pin away; the handle goes with its last pin once its scope has ended. -/
def unpin (t : HandleTable α) (h : ObjectHandle) : HandleTable α :=
  match t.get? h with
  | none => t
  | some e =>
    if e.pins - 1 = 0 ∧ e.closed = true then { t with entries := Assoc.erase h t.entries }
    else { t with entries := Assoc.modify h (fun e => { e with pins := e.pins - 1 }) t.entries }

/-- Drops a handle at once; false if it is unknown. -/
def release (t : HandleTable α) (h : ObjectHandle) : Bool × HandleTable α :=
  ((t.get? h).isSome, { t with entries := Assoc.erase h t.entries })

def retainAll (t : HandleTable α) (hs : List ObjectHandle) : HandleTable α :=
  hs.foldl (fun t h => (t.retain h).2) t

def unpinAll (t : HandleTable α) (hs : List ObjectHandle) : HandleTable α := hs.foldl unpin t

end HandleTable
end ScriptBridge
