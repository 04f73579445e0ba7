/-
  ScriptBridge/Layout/Geometry.lean
  =================================
  **Points, sizes and frames in words.**

  A frame is an origin and a size hint: zero asks the platform to measure that
  side.  A size that the bridge computes has no negative side (`Size.clamped`).
-/

namespace ScriptBridge

structure Point where
  x : Int64
  y : Int64
deriving DecidableEq, Repr, Inhabited

structure Size where
  width : Int64
  height : Int64
deriving DecidableEq, Repr, Inhabited

/-- The size with negative sides raised to zero. -/
def Size.clamped (width height : Int64) : Size := ⟨max width 0, max height 0⟩

/-- A position and a size hint. -/
structure Frame where
  x : Int64
  y : Int64
  width : Int64
  height : Int64
deriving DecidableEq, Repr, Inhabited

namespace Frame

def of (origin : Point) (size : Size) : Frame := ⟨origin.x, origin.y, size.width, size.height⟩

/-- The frame at a point that leaves its size to the platform. -/
def unsized (origin : Point) : Frame := of origin ⟨0, 0⟩

def origin (f : Frame) : Point := ⟨f.x, f.y⟩

def size (f : Frame) : Size := ⟨f.width, f.height⟩

end Frame

/-- The two distances of the layout: between siblings, and from the window's edges. -/
structure LayoutConfig where
  spacing : Int64
  padding : Int64
deriving DecidableEq, Repr

namespace LayoutConfig

/-- The distances of a bridge that is not told others. -/
def standard : LayoutConfig := ⟨10, 8⟩

/-- Where the root of a tree stands. -/
def rootOrigin (layout : LayoutConfig) : Point := ⟨layout.padding, layout.padding⟩

end LayoutConfig
end ScriptBridge
