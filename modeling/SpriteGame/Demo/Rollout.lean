import SpriteGame.Play
/-!
# The rollout agent

The agent of the demo tries every action on copies of the world, goes on at random
for a few ticks, and takes the first action with the best mean value.
-/
namespace SpriteGame.Demo

/-- The number of copies for each action. -/
def rollouts : Nat := 6

/-- The random ticks after the action. -/
def rolloutDepth : Nat := 12

/-- The value of a world: its score, with a large bonus for a win. -/
def value (w : World) : Float :=
  let bonus : Float := match w.outcome with
    | .playerWins => 1000
    | .playerLoses => -1000
    | .ongoing | .noWinner => 0
  Float.ofInt w.score + bonus

/-- Advance at random until the episode ends, or for a number of ticks. -/
def wander (actions : List Action) : Nat → World → Random → World × Random
  | 0, w, rng => (w, rng)
  | ticks + 1, w, rng =>
    if w.outcome.isOver then (w, rng)
    else
      let (action, rng) := rng.pick .idle actions
      match w.advance action with
      | .error _ => (w, rng)
      | .ok next => wander actions ticks next rng

def rollout (w : World) (action : Action) (rng : Random) : Float × Random :=
  match w.advance action with
  | .error _ => (value w, rng)
  | .ok next =>
    let (final, rng) := wander w.avatarActions rolloutDepth next rng
    (value final, rng)

/-- Add up the values of some rollouts of an action. -/
def total (w : World) (action : Action) : Nat → Float → Random → Float × Random
  | 0, sum, rng => (sum, rng)
  | n + 1, sum, rng =>
    let (v, rng) := rollout w action rng
    total w action n (sum + v) rng

/-- The lowest finite value, which every mean exceeds. -/
def lowest : Float := Float.ofBits 0xFFEFFFFFFFFFFFFF

/-- The first of some actions with the best mean value above `bar`, or else `best`. -/
def bestOf (w : World) : List Action → Action → Float → Random → Action × Random
  | [], best, _, rng => (best, rng)
  | action :: rest, best, bar, rng =>
    let (sum, rng) := total w action rollouts 0 rng
    let mean := sum / Float.ofNat rollouts
    if bar < mean then bestOf w rest action mean rng else bestOf w rest best bar rng

/-- The agent of the demo; it remembers its generator. -/
def agent : Agent Random := fun w rng =>
  bestOf w (w.availableActions true) .idle lowest rng

end SpriteGame.Demo
