/-
  ScriptBridge/Layout/Stack.lean
  ==============================
  **Stacking children along an axis.**

  A cursor holds the distance from the container's origin to the next child: all
  extents so far and one spacing after each.  Sums stop at the ends of the word
  range.  The extent of the whole leaves the last spacing out.
-/
import ScriptBridge.Layout.Geometry
import ScriptBridge.Number.Word

namespace ScriptBridge

/-- The direction in which a container stacks its children. -/
inductive Axis where
  | vertical
  | horizontal
deriving DecidableEq, Repr

namespace Axis

/-- The side of a size along the axis. -/
def extent : Axis → Size → Int64
  | .vertical, s => s.height
  | .horizontal, s => s.width

/-- The side of a size across the axis. -/
def crossExtent : Axis → Size → Int64
  | .vertical, s => s.width
  | .horizontal, s => s.height

end Axis

/-- The running state of a container that is being laid out. -/
structure StackCursor where
  axis : Axis
  base : Point
  spacing : Int64
  /-- The distance along the axis from the base to the next child. -/
  offset : Int64
  /-- How many children were placed. -/
  placed : Nat
  /-- The largest extent across the axis. -/
  cross : Int64
deriving DecidableEq, Repr

namespace StackCursor

def start (axis : Axis) (base : Point) (spacing : Int64) : StackCursor := ⟨axis, base, spacing, 0, 0, 0⟩

/-- Where the next child goes. -/
def next (c : StackCursor) : Point :=
  match c.axis with
  | .vertical => ⟨c.base.x, Word.add c.base.y c.offset⟩
  | .horizontal => ⟨Word.add c.base.x c.offset, c.base.y⟩

/-- The cursor after a child of the given size. -/
def advance (c : StackCursor) (size : Size) : StackCursor :=
  { c with
    offset := Word.add (Word.add c.offset (c.axis.extent size)) c.spacing
    cross := max c.cross (c.axis.crossExtent size)
    placed := c.placed + 1 }

/-- The size of everything placed, without the spacing after the last child. -/
def finish (c : StackCursor) : Size :=
  let along := if c.placed = 0 then 0 else Word.sub c.offset c.spacing
  match c.axis with
  | .vertical => Size.clamped c.cross along
  | .horizontal => Size.clamped along c.cross

/-- The cursor after children of the given sizes. -/
def advanceAll (c : StackCursor) (sizes : List Size) : StackCursor := sizes.foldl advance c

/-- The origins of children of the given sizes. -/
def origins (c : StackCursor) : List Size → List Point
  | [] => []
  | size :: rest => c.next :: origins (c.advance size) rest

end StackCursor

/-- The offsets along the axis of children of the given extents; a negative extent counts as zero. -/
def stackOffsets (base : Int64) (extents : List Int64) (spacing : Int64) : List Int64 :=
  ((StackCursor.start .vertical ⟨0, base⟩ spacing).origins (extents.map (Size.clamped 0))).map Point.y

end ScriptBridge
