import SpriteGame.Text.Blank
import SpriteGame.World.Commit
/-!
# Levels

A level is a text with a row of cells on each line. A blank leaves a cell empty
unless it is mapped; every other character has to be mapped to the sprites that it
places. Every unmapped character is a problem, reported where it first occurs.
-/
namespace SpriteGame

/-! ## The cells of a level -/

namespace Level

/-- A line without the carriage returns at its end. -/
def dropReturns (line : List Char) : List Char :=
  (line.reverse.dropWhile (· = '\r')).reverse

/-- The rows of a level; blank ones at the end are dropped. -/
def rows (level : List Char) : List (List Char) :=
  (((Text.lines level).map dropReturns).reverse.dropWhile (·.all Text.isBlank)).reverse

/-- The width of the longest row. -/
def width (rows : List (List Char)) : Nat := rows.foldl (fun n row => max n row.length) 0

def center (block : Float32) (col row : Nat) : Vec :=
  ⟨(Float32.ofNat col + 0.5) * block, (Float32.ofNat row + 0.5) * block⟩

/-- The characters of a level with the centres of their cells, row by row. -/
def cells (block : Float32) (rows : List (List Char)) : List (Char × Vec) :=
  rows.zipIdx.flatMap fun (row, y) => row.zipIdx.map fun (c, x) => (c, center block x y)

def bounds (block : Float32) (rows : List (List Char)) : Rect :=
  ⟨0, 0, Float32.ofNat (width rows) * block, Float32.ofNat rows.length * block⟩

/-- The characters that are neither blank nor mapped, each once. -/
def undefinedSymbols (r : Ruleset) (rows : List (List Char)) : List Char :=
  (rows.flatten.filter fun c => c ≠ ' ' ∧ !r.levelMapping.contains c).eraseDups

/-- The sprites that a level asks for, cell by cell. -/
def requests (r : Ruleset) (rows : List (List Char)) : List SpawnRequest :=
  (cells r.blockSize rows).flatMap fun (c, center) =>
    ((r.levelMapping.get? c).getD []).map fun type => .plain type center

end Level

/-! ## Building -/

namespace World

/-- The world without sprites on a level. -/
def bare (rules : Ruleset) (seed : UInt64) (bounds : Rect) : World where
  rules
  groups := Array.replicate rules.registry.size #[]
  rng := .ofSeed seed
  seed
  score := 0
  pendingScore := 0
  tick := 0
  outcome := .ongoing
  spawns := []
  bounds
  nextId := 1
  avatarActions := []

/-- The template of the placed avatar, or else of the first declared one. -/
def actingTemplate? (w : World) : Option Template :=
  (w.avatar?.bind fun s => w.rules.template? s.type) <|> w.rules.avatarTemplate?

/-- The world with the actions of its avatar fixed. -/
def withActions (w : World) : World :=
  { w with
    avatarActions := match w.actingTemplate? with
      | some t => t.cls.actions
      | none => [] }

def build (rules : Ruleset) (level : String) (seed : UInt64) : Except (List Problem) World :=
  let rows := Level.rows level.toList
  match Level.undefinedSymbols rules rows with
  | [] =>
    let start := bare rules seed (Level.bounds rules.blockSize rows)
    .ok ((Level.requests rules rows).foldl instantiate start).withActions
  | symbols => .error (symbols.map .undefinedSymbol)

end World

end SpriteGame
