import SpriteGame.Geometry
/-!
# Actions and outcomes

What an avatar can be told to do in a tick, and how an episode can stand.
-/
namespace SpriteGame

/-- The avatar's input for one tick. -/
inductive Action where
  | idle
  | up
  | down
  | left
  | right
  | use
  deriving DecidableEq, Repr, Inhabited

namespace Action

/-- The direction of a movement; zero for the other actions. -/
def direction : Action → Vec
  | up => Heading.up.toVec
  | down => Heading.down.toVec
  | left => Heading.left.toVec
  | right => Heading.right.toVec
  | idle | use => Vec.zero

def name : Action → String
  | idle => "Nil"
  | up => "Up"
  | down => "Down"
  | left => "Left"
  | right => "Right"
  | use => "Use"

def all : List Action := [idle, up, down, left, right, use]

def ofName? (s : String) : Option Action := all.find? fun a => a.name = s

end Action

/-- How an episode stands. -/
inductive Outcome where
  | ongoing
  | playerWins
  | playerLoses
  /-- Ended by the limit on ticks and not by a rule. -/
  | noWinner
  deriving DecidableEq, Repr, Inhabited

namespace Outcome

def isOver (o : Outcome) : Bool := o ≠ ongoing

def name : Outcome → String
  | ongoing => "Ongoing"
  | playerWins => "PlayerWins"
  | playerLoses => "PlayerLoses"
  | noWinner => "NoWinner"

end Outcome

/-- A world whose episode has ended takes no further action. -/
structure GameOver where
  outcome : Outcome
  deriving DecidableEq

def GameOver.message (e : GameOver) : String := s!"game is already over ({e.outcome.name})"

end SpriteGame
