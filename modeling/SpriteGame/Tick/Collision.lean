import SpriteGame.World.Basic
/-!
# Collisions

The collisions of a tick, in the order of the dispatch table and of the sprites: live
sprites whose rectangles overlap, and sprites that are not wholly on the screen.
-/
namespace SpriteGame

/-- A collision for an entry of the dispatch table. -/
structure Collision where
  /-- The index of the entry. -/
  pairing : Nat
  first : Key
  /-- The sprite met, or nothing for the screen edge. -/
  second : Option Key
  deriving DecidableEq

namespace World

/-- The sprites of a type that are not wholly on the screen. -/
def outside (w : World) (type : TypeId) : List (Key × Sprite) :=
  (w.liveOf type).filter fun (_, s) => !w.bounds.contains s.rect

/-- The other sprites that one of them overlaps with. -/
def overlapping (key : Key) (s : Sprite) (others : List (Key × Sprite)) : List (Key × Sprite) :=
  others.filter fun (k, o) => k ≠ key && s.rect.intersects o.rect

/-- The collisions for an entry of the dispatch table. -/
def collisionsOf (w : World) (index : Nat) (p : Pairing) : List Collision :=
  if p.second = Registry.edge then (w.outside p.first).map fun (k, _) => ⟨index, k, none⟩
  else
    let seconds := w.liveOf p.second
    (w.liveOf p.first).flatMap fun (k, s) =>
      (overlapping k s seconds).map fun (other, _) => ⟨index, k, some other⟩

def detect (w : World) : List Collision :=
  w.rules.dispatch.toList.zipIdx.flatMap fun (p, i) => w.collisionsOf i p

end World

end SpriteGame
