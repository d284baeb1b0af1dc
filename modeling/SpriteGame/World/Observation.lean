import SpriteGame.World.Basic
/-!
# Observations

What an agent sees of a world: the live sprites of a role, one list for each type
that has any, sorted by their distance to a point of reference.
-/
namespace SpriteGame

/-- A live sprite as an agent sees it. -/
structure Observation where
  type : TypeId
  id : Nat
  position : Vec
  rect : Rect
  /-- The squared distance to the point of reference; zero without one. -/
  distanceSq : Float32
  deriving DecidableEq

namespace Observation

def ofSprite (reference : Option Vec) (s : Sprite) : Observation where
  type := s.type
  id := s.id
  position := s.rect.topLeft
  rect := s.rect
  distanceSq := match reference with
    | some p => s.rect.topLeft.distanceSq p
    | none => 0

/-- The rank of a distance: that of the number, NaN last. -/
def rank (x : Float32) : Int :=
  let n : Int := (x.toBits &&& 0x7FFFFFFF).toNat
  if Single.isNegative x then -n - 1 else n

/-- Whether one is at most as far as another. -/
def closer (a b : Observation) : Bool := rank a.distanceSq ≤ rank b.distanceSq

end Observation

namespace World

/-- The observations of a type, the closest first and of equals the older first. -/
def observe (w : World) (reference : Option Vec) (type : TypeId) : List Observation :=
  ((w.liveOf type).map fun (_, s) => .ofSprite reference s).mergeSort Observation.closer

/-- The observations of a role: one list for each type that has any, in type order. -/
def positionsByRole (w : World) (role : Role) (reference : Option Vec) :
    List (List Observation) :=
  (((List.range w.groups.size).filter (w.rules.hasRole · role)).map (w.observe reference)).filter
    fun l => !l.isEmpty

end World

end SpriteGame
