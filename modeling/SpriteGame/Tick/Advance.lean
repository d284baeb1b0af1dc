import SpriteGame.Tick.Collision
import SpriteGame.Tick.Command
import SpriteGame.Tick.Effect
import SpriteGame.World.Commit
/-!
# Ticks

A tick has fixed phases: all sprites decide, the decisions are carried out, collisions
are found, their rules fire one after the other, the tick is brought to its end, and
the terminations are judged. A world whose episode has ended takes no tick.
-/
namespace SpriteGame

/-! ## Rules -/

/-- Whether all sides of a collision are still there. -/
def Collision.holds (c : Collision) (w : World) : Bool := w.isAlive c.first && c.second.all w.isAlive

namespace World

/-- Let chance decide on a rule, and apply its effect. Its score counts if the effect
comes about. -/
def applyRule (w : World) (c : Collision) (r : Interaction) : World :=
  let (happens, rng) := w.rng.chance r.prob
  let w := { w with rng }
  if happens then
    let (done, w) := r.effect.apply w (some c.first) c.second
    if done then { w with pendingScore := w.pendingScore + r.score } else w
  else w

/-- Fire a rule for a collision, unless a side is gone. -/
def fireRule (c : Collision) (w : World) (r : Interaction) : World :=
  if c.holds w then w.applyRule c r else w

/-- The rules for a collision, in declaration order. -/
def rulesFor (w : World) (c : Collision) : List Interaction :=
  match w.rules.dispatch[c.pairing]? with
  | some p => p.rules.filterMap (w.rules.interactions[·]?)
  | none => []

def fire (w : World) (c : Collision) : World := (w.rulesFor c).foldl (fireRule c) w

/-- Fire the rules for collisions, one after the other. -/
def fireAll (w : World) (cs : List Collision) : World := cs.foldl fire w

/-! ## The end of the episode -/

def decisive? (w : World) : Option Termination :=
  Termination.decisive? w.rules.terminations w.countLive w.tick

/-- Settle the outcome: the first satisfied termination decides, and after it the limit
on ticks. -/
def judge (w : World) : World :=
  match w.decisive? with
  | some t => { w with outcome := t.outcome, score := w.score + t.score }
  | none => if w.rules.maxTicks.any (· ≤ w.tick) then { w with outcome := .noWinner } else w

/-! ## Ticks -/

/-- The world when the orders of a tick have been carried out. -/
def moved (w : World) (action : Action) : World :=
  let (orders, rng) := w.orders action
  { w with tick := w.tick + 1, rng }.carryOut orders

/-- The world when the rules of a tick have fired. -/
def resolved (w : World) (action : Action) : World :=
  let w := w.moved action
  w.fireAll w.detect

def step (w : World) (action : Action) : World := (w.resolved action).commit.judge

/-- Advance by one tick with an action of the player. -/
def advance (w : World) (action : Action) : Except GameOver World :=
  if w.outcome.isOver then .error ⟨w.outcome⟩ else .ok (w.step action)

def replay (w : World) (actions : List Action) : Except GameOver World := actions.foldlM advance w

end World

end SpriteGame
