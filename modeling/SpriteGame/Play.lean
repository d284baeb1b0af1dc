import SpriteGame.Tick.Advance
/-!
# Playthroughs

An agent chooses an action by looking at the world, and can remember what it likes
from one choice to the next. A playthrough is the list of the actions taken and the
world that they lead to.
-/
namespace SpriteGame

/-- A way to choose actions, with a memory of type `μ`. -/
def Agent (μ : Type) : Type := World → μ → Action × μ

/-- The actions taken in a run, and the world at its end. -/
structure Playthrough where
  actions : List Action
  world : World

/-- Let an agent play until the episode ends, or for a number of steps. -/
def play {μ : Type} (agent : Agent μ) : Nat → World → μ → Playthrough
  | 0, w, _ => ⟨[], w⟩
  | steps + 1, w, memory =>
    if w.outcome.isOver then ⟨[], w⟩
    else
      let (action, memory) := agent w memory
      match w.advance action with
      | .error _ => ⟨[], w⟩
      | .ok next =>
        let rest := play agent steps next memory
        ⟨action :: rest.actions, rest.world⟩

end SpriteGame
