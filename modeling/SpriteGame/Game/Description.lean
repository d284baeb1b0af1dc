import SpriteGame.SortedMap
/-!
# Game descriptions

A game as it is written down: names are not resolved and parameters are raw text.
Sprites form a forest, since a sprite inherits from the one that it is nested in.
-/
namespace SpriteGame

/-- Raw `key=value` parameters. -/
abbrev Params := SortedMap String String

/-- The name of the screen edge, which stands second in an interaction. -/
def edgeName : String := "EOS"

/-- A sprite definition and the definitions nested in it. -/
structure SpriteDef where
  name : String
  /-- The class keyword; without one the class of the enclosing sprite. -/
  keyword : Option String
  params : Params
  children : List SpriteDef
  line : Nat

instance : Inhabited SpriteDef := ⟨⟨"", none, .empty, [], 0⟩⟩

/-- The rule that `effect` happens to `first` when it meets `second`. -/
structure InteractionDef where
  first : String
  second : String
  effect : String
  params : Params
  line : Nat
  deriving DecidableEq

/-- A condition that ends the game. -/
structure TerminationDef where
  kind : String
  params : Params
  line : Nat
  deriving DecidableEq

structure Description where
  gameParams : Params
  /-- The sprites that are not nested, in declaration order. -/
  sprites : List SpriteDef
  interactions : List InteractionDef
  terminations : List TerminationDef
  /-- The sprites that a level character places on its cell. -/
  levelMapping : SortedMap Char (List String)
  placeholders : Params

namespace Description

def empty : Description := ⟨.empty, [], [], [], .empty, .empty⟩

instance : Inhabited Description := ⟨empty⟩

end Description

/-! ## Walking the sprites -/

mutual

/-- A definition and all nested in it, each before its children and together with
the definition that encloses it. -/
def SpriteDef.walk (parent : Option SpriteDef) : SpriteDef → List (SpriteDef × Option SpriteDef)
  | ⟨name, keyword, params, children, line⟩ =>
    let self : SpriteDef := ⟨name, keyword, params, children, line⟩
    (self, parent) :: SpriteDef.walkAll (some self) children

def SpriteDef.walkAll (parent : Option SpriteDef) :
    List SpriteDef → List (SpriteDef × Option SpriteDef)
  | [] => []
  | d :: ds => SpriteDef.walk parent d ++ SpriteDef.walkAll parent ds

end

/-- All sprite definitions, each before its children and together with the
definition that encloses it. -/
def Description.walk (d : Description) : List (SpriteDef × Option SpriteDef) :=
  SpriteDef.walkAll none d.sprites

end SpriteGame
