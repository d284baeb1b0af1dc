import SpriteGame.Pursuit.Target
import Std.Data.HashMap
import Std.Data.HashSet
/-!
# Shortest paths

A path leads from cell to cell through the level and around the static sprites; only
the goal may be blocked. The search goes on from one cell after the other, in the order
in which they have been reached, and notes for each where it was reached from. From the
goal the notes lead back to the first step.
-/
namespace SpriteGame

/-- What a path is searched in. -/
structure Terrain where
  cols : Int
  rows : Int
  blocked : Std.HashSet Cell
  goal : Cell

/-- A search under way. -/
structure Search where
  /-- The cells to go on from, in the order in which they have been reached. -/
  queue : List Cell
  /-- For each cell that has been reached, where it was reached from. -/
  origins : Std.HashMap Cell Cell

namespace Terrain

/-- Whether a path can enter a cell. -/
def isOpen (t : Terrain) (c : Cell) : Bool :=
  0 ≤ c.col && c.col < t.cols && 0 ≤ c.row && c.row < t.rows &&
    (c == t.goal || !t.blocked.contains c)

/-- Reach the next cell in a heading, unless it is closed or has been reached before. -/
def reach (t : Terrain) (start c : Cell) (s : Search) (h : Heading) : Search :=
  let next := c.toward h
  if t.isOpen next && next ≠ start && !s.origins.contains next then
    ⟨s.queue ++ [next], s.origins.insert next c⟩
  else s

/-- Go on from a cell. -/
def expand (t : Terrain) (start c : Cell) (s : Search) : Search := Heading.all.foldl (t.reach start c) s

/-- Go on from the cells of the queue until none is left or the goal comes. -/
def search (t : Terrain) (start : Cell) : Nat → Search → Search
  | 0, s => s
  | fuel + 1, s =>
    match s.queue with
    | [] => s
    | c :: rest => if c = t.goal then s else t.search start fuel (t.expand start c ⟨rest, s.origins⟩)

/-- The cell next to the start on the way by which a cell was reached. -/
def walkBack (start : Cell) (origins : Std.HashMap Cell Cell) : Nat → Cell → Option Cell
  | 0, _ => none
  | fuel + 1, c =>
    match origins[c]? with
    | none => none
    | some previous => if previous = start then some c else walkBack start origins fuel previous

/-- The first heading of a shortest path, if one is found with a limit on the steps forth
and back. -/
def headingWithin (t : Terrain) (fuel : Nat) (start : Cell) : Option Heading :=
  if start = t.goal then none
  else
    let s := t.search start fuel ⟨[start], ∅⟩
    if s.queue.head? = some t.goal then do
      let next ← walkBack start s.origins fuel t.goal
      Heading.all.find? fun h => start.toward h = next
    else none

/-- A number of steps that is enough: the cells of the level and the start. -/
def depth (t : Terrain) : Nat := t.cols.toNat * t.rows.toNat + 1

/-- The first heading of a shortest path from a cell to the goal. Without a path, or
on the goal, there is none. -/
def firstHeading (t : Terrain) (start : Cell) : Option Heading := t.headingWithin t.depth start

end Terrain

namespace Pursuit

/-- The cells of the live static sprites. -/
def staticCells (w : World) : List Cell :=
  (w.liveWithRole .static).map fun (_, s) => s.rect.cell w.blockSize

def terrain (w : World) (goal : Cell) : Terrain where
  cols := Single.round (w.bounds.w / w.blockSize)
  rows := Single.round (w.bounds.h / w.blockSize)
  blocked := .ofList (staticCells w)
  goal

/-- The first step of a shortest path to the closest target: zero if there is no path
or the target is in the same cell, nothing without a target. -/
def pathStep (w : World) (key : Key) (rect : Rect) (t : Template) : Option Vec :=
  (closestTargets w key rect t).head?.map fun target =>
    let ground := terrain w (target.cell w.blockSize)
    match ground.firstHeading (rect.cell w.blockSize) with
    | some h => h.toVec
    | none => .zero

end Pursuit

end SpriteGame
