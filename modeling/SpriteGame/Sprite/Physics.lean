import SpriteGame.Geometry
/-!
# Physics

How a sprite moves: on the grid in whole steps, or continuously, by integrating a
velocity. Distances between sprites are measured the way they move.
-/
namespace SpriteGame

/-- The parameters of continuous movement. -/
structure Dynamics where
  /-- The share of the velocity lost in a tick. -/
  friction : Float32
  /-- The velocity gained downwards in a tick, in blocks. -/
  gravity : Float32
  mass : Float32
  maxSpeed : Option Float32
  deriving DecidableEq

/-- A way to move. -/
inductive Physics where
  | grid
  | continuous (dynamics : Dynamics)
  deriving DecidableEq, Inhabited

namespace Physics

/-- Continuous movement without gravity. -/
def drifting : Dynamics := ⟨0, 0, 1, none⟩

/-- Continuous movement with a quarter of a block of gravity. -/
def falling : Dynamics := ⟨0, Float32.ofBits 0x3E800000, 1, none⟩

def ofKeyword? (s : List Char) : Option Physics :=
  if Text.readsAs "GRID" s then some grid
  else if Text.readsAs "CONT" s || Text.readsAs "CONTINUOUS" s then some (continuous drifting)
  else if Text.readsAs "GRAV" s || Text.readsAs "GRAVITY" s then some (continuous falling)
  else none

def isGrid : Physics → Bool
  | grid => true
  | continuous _ => false

/-- The distance of two rectangles by their corners: the sum of the offsets on the
grid, the straight line otherwise. -/
def distance (p : Physics) (a b : Rect) : Float :=
  let dx := Single.widen (a.x - b.x)
  let dy := Single.widen (a.y - b.y)
  match p with
  | grid => dx.abs + dy.abs
  | continuous _ => (dx * dx + dy * dy).sqrt

end Physics

end SpriteGame
