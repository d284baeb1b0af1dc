import SpriteGame.Number.Single
import SpriteGame.Text.Case
/-!
# Plane geometry

Vectors and axis-parallel rectangles in pixels, `y` growing downwards, and the
four headings of grid movement. All arithmetic is single precision, one rounding
per operation.
-/
namespace SpriteGame

/-! ## Vectors -/

structure Vec where
  x : Float32
  y : Float32
  deriving DecidableEq

namespace Vec

def zero : Vec := ⟨0, 0⟩

instance : Inhabited Vec := ⟨zero⟩

instance : Add Vec := ⟨fun v w => ⟨v.x + w.x, v.y + w.y⟩⟩

instance : Sub Vec := ⟨fun v w => ⟨v.x - w.x, v.y - w.y⟩⟩

instance : Neg Vec := ⟨fun v => ⟨-v.x, -v.y⟩⟩

def scale (v : Vec) (r : Float32) : Vec := ⟨v.x * r, v.y * r⟩

/-- Whether both components are zero, of either sign. -/
def isZero (v : Vec) : Bool := v.x == 0 && v.y == 0

def lengthSq (v : Vec) : Float32 := v.x * v.x + v.y * v.y

def length (v : Vec) : Float32 := v.lengthSq.sqrt

def distanceSq (v w : Vec) : Float32 := (v - w).lengthSq

/-- The vector of length one in the same direction, where the reciprocal of the
length is finite and positive. -/
def unit? (v : Vec) : Option Vec :=
  let r := 1 / v.length
  if r.isFinite && 0 < r then some (v.scale r) else none

/-- The vector, shortened to length `cap` if it is longer. -/
def shorten (v : Vec) (cap : Float32) : Vec :=
  if cap * cap < v.lengthSq then
    let root := v.lengthSq.sqrt
    ⟨cap * (v.x / root), cap * (v.y / root)⟩
  else v

end Vec

/-! ## Headings -/

/-- The directions of grid movement, in the order in which they are tried. -/
inductive Heading where
  | up
  | left
  | down
  | right
  deriving DecidableEq, Repr

namespace Heading

def all : List Heading := [up, left, down, right]

def dx : Heading → Int
  | left => -1
  | right => 1
  | up | down => 0

def dy : Heading → Int
  | up => -1
  | down => 1
  | left | right => 0

def toVec : Heading → Vec
  | up => ⟨0, -1⟩
  | left => ⟨-1, 0⟩
  | down => ⟨0, 1⟩
  | right => ⟨1, 0⟩

end Heading

/-- Read a direction keyword: a heading, or no direction. -/
def Vec.ofKeyword? (s : List Char) : Option Vec :=
  if Text.readsAs "UP" s then some Heading.up.toVec
  else if Text.readsAs "DOWN" s then some Heading.down.toVec
  else if Text.readsAs "LEFT" s then some Heading.left.toVec
  else if Text.readsAs "RIGHT" s then some Heading.right.toVec
  else if Text.readsAs "NONE" s || Text.readsAs "NIL" s then some Vec.zero
  else none

/-- The axis direction closest to a vector; the horizontal one if both are. -/
def Vec.snap (v : Vec) : Vec :=
  if v.isZero then Vec.zero
  else if v.y.abs ≤ v.x.abs then ⟨Single.sign v.x, 0⟩
  else ⟨0, Single.sign v.y⟩

/-! ## Rectangles -/

/-- An axis-parallel rectangle, given by its top left corner and its size. -/
structure Rect where
  x : Float32
  y : Float32
  w : Float32
  h : Float32
  deriving DecidableEq

/-- A cell of the level grid. -/
structure Cell where
  col : Int
  row : Int
  deriving DecidableEq, Hashable, Repr

def Cell.toward (c : Cell) (h : Heading) : Cell := ⟨c.col + h.dx, c.row + h.dy⟩

namespace Rect

instance : Inhabited Rect := ⟨⟨0, 0, 0, 0⟩⟩

def right (r : Rect) : Float32 := r.x + r.w

def bottom (r : Rect) : Float32 := r.y + r.h

def topLeft (r : Rect) : Vec := ⟨r.x, r.y⟩

def center (r : Rect) : Vec := ⟨r.x + r.w / 2, r.y + r.h / 2⟩

/-- Whether two rectangles overlap; sharing an edge is not enough. -/
def intersects (r s : Rect) : Bool :=
  r.x < s.right && s.x < r.right && r.y < s.bottom && s.y < r.bottom

/-- Whether `s` lies inside `r`. -/
def contains (r s : Rect) : Bool :=
  r.x ≤ s.x && r.y ≤ s.y && s.right ≤ r.right && s.bottom ≤ r.bottom

def translate (r : Rect) (delta : Vec) : Rect :=
  { r with x := r.x + delta.x, y := r.y + delta.y }

/-- The square of side `size` around a centre. -/
def around (center : Vec) (size : Float32) : Rect :=
  ⟨center.x - size / 2, center.y - size / 2, size, size⟩

/-- The cell that holds the top left corner, for cells of side `block`. -/
def cell (r : Rect) (block : Float32) : Cell :=
  ⟨Single.floor (r.x / block), Single.floor (r.y / block)⟩

end Rect

end SpriteGame
