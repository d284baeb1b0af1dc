import SpriteGame.Game.Description
/-!
# Outlines

An outline is a list of sprite definitions with their indentation. It stands for a
forest: a definition is nested in the nearest one before it that is indented less.
-/
namespace SpriteGame

structure Indented where
  indent : Nat
  sprite : SpriteDef

namespace Outline

/-- Put a definition before the trees of the definitions after it: the leading trees
that are indented more become its children. -/
def nest (entry : Indented) (later : List Indented) : List Indented :=
  let inside := later.takeWhile (entry.indent < ·.indent)
  { entry with sprite := { entry.sprite with children := inside.map (·.sprite) } }
    :: later.dropWhile (entry.indent < ·.indent)

def trees (outline : List Indented) : List Indented :=
  outline.foldr nest []

/-- The forest that an outline stands for. -/
def forest (outline : List Indented) : List SpriteDef :=
  (trees outline).map (·.sprite)

end Outline

end SpriteGame
