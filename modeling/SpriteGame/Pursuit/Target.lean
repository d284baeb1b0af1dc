import SpriteGame.World.Basic
/-!
# Targets

A hunter goes after the closest live sprites of the type that it is after, measured
by its own physics. It steps towards, or away from, any of them.
-/
namespace SpriteGame

namespace Pursuit

/-! ## The closest targets -/

/-- The rectangles of the possible targets within reach, with their distances: all
live sprites of the type that it is after but the hunter itself. -/
def inReach (w : World) (key : Key) (rect : Rect) (t : Template) : List (Float × Rect) :=
  match t.target with
  | none => []
  | some type =>
    (((w.liveIn type).filter (·.1 ≠ key)).map fun (_, s) =>
      (t.physics.distance rect s.rect, s.rect)).filter
        fun (d, _) => !t.maxDistance.any (· < d)

/-- The least of some distances; infinity without any. -/
def least (ds : List Float) : Float := ds.foldl (fun best d => if d < best then d else best) (1 / 0)

/-- The rectangles of the closest targets, in the order of types and of age. -/
def closestTargets (w : World) (key : Key) (rect : Rect) (t : Template) : List Rect :=
  let near := inReach w key rect t
  let best := least (near.map (·.1))
  (near.filter fun (d, _) => d == best).map (·.2)

/-! ## Chasing and fleeing -/

/-- Whether a change of distance serves a hunter, or one who flees. -/
def serves (flees : Bool) (current next : Float) : Bool :=
  if flees then current < next else next < current

/-- The headings in which a step of one block serves with respect to a target. -/
def headings (p : Physics) (block : Float32) (rect : Rect) (flees : Bool) (target : Rect) :
    List Heading :=
  Heading.all.filter fun h =>
    serves flees (p.distance rect target)
      (p.distance (rect.translate (h.toVec.scale block)) target)

/-- A heading that serves with respect to a closest target, drawn from all of them. -/
def chase (w : World) (key : Key) (rect : Rect) (t : Template) (flees : Bool) (rng : Random) :
    Option (Heading × Random) :=
  match (closestTargets w key rect t).flatMap (headings t.physics w.blockSize rect flees) with
  | [] => none
  | h :: hs => some (rng.pick h hs)

end Pursuit

end SpriteGame
