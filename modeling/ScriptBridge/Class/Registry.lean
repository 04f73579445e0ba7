/-
  ScriptBridge/Class/Registry.lean
  ================================
  **The host classes that a bridge has seen.**

  A class is described once, when one of its objects is first seen or when a
  described class declares that its methods return it.  The classes still to be
  described grow fewer with every description, so discovery ends also when the
  declarations form cycles.
-/
import ScriptBridge.Class.Method

namespace ScriptBridge

/-- A class and the classes that its methods return. -/
structure ClassDescription (κ : Type) where
  table : MethodTable
  returns : List κ

/-- Finitely many classes, each with its description. -/
structure ClassFamily (κ : Type) where
  all : List κ
  describe : κ → ClassDescription κ
  mem_all : ∀ k, k ∈ all

/-- The classes described so far, in the order of description. -/
structure ClassRegistry (κ : Type) where
  tables : List (κ × MethodTable)

namespace ClassFamily

variable {κ : Type} [DecidableEq κ]

/-- The classes of a list other than one. -/
def without (k : κ) (l : List κ) : List κ := l.filter fun c => c ≠ k

theorem length_without_lt {k : κ} {l : List κ} (h : k ∈ l) : (without k l).length < l.length := by
  unfold without
  rw [List.length_filter_lt_length_iff_exists]
  exact ⟨k, h, by simp⟩

/-- The classes that are described for some pending ones, out of those that remain: a class comes
    before the classes that it returns. -/
def discover (family : ClassFamily κ) (remaining pending : List κ) : List κ :=
  match _h : pending.find? (fun k => decide (k ∈ remaining)) with
  | none => []
  | some k =>
    k :: family.discover (without k remaining) ((family.describe k).returns ++ pending)
termination_by remaining.length
decreasing_by exact length_without_lt (by simpa using List.find?_some _h)

end ClassFamily

namespace ClassRegistry

variable {κ : Type} [DecidableEq κ]

def empty : ClassRegistry κ := ⟨[]⟩

def find? (r : ClassRegistry κ) (k : κ) : Option MethodTable := Assoc.find? k r.tables

/-- The registry after a class was seen. -/
def see (r : ClassRegistry κ) (family : ClassFamily κ) (k : κ) : ClassRegistry κ :=
  let remaining := family.all.filter fun c => (r.find? c).isNone
  ⟨r.tables ++ (family.discover remaining [k]).map fun c => (c, (family.describe c).table)⟩

/-- The table of a class, which is now seen. -/
def tableFor (r : ClassRegistry κ) (family : ClassFamily κ) (k : κ) :
    MethodTable × ClassRegistry κ :=
  match r.find? k with
  | some t => (t, r)
  | none => ((family.describe k).table, r.see family k)

def all (r : ClassRegistry κ) : List MethodTable := r.tables.map Prod.snd

def size (r : ClassRegistry κ) : Nat := r.tables.length

end ClassRegistry
end ScriptBridge
