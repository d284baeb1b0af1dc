import SpriteGame.Rule.Effect
/-!
# Interactions and dispatch

An interaction says what happens to a sprite of one type that meets a sprite of
another, or the screen edge. It covers the types that inherit from those it names.
The dispatch table lists the pairs of types that some rule covers, each with all
rules that cover it: a pair stands where the first of its rules brings it in.
-/
namespace SpriteGame

structure Interaction where
  first : TypeId
  /-- The type met, or the screen edge. -/
  second : TypeId
  effect : Effect
  score : Int
  prob : Float
  /-- What was written, with its parameters decorated. -/
  definition : InteractionDef
  deriving DecidableEq

namespace Interaction

/-- Whether its outcome is counted as random. -/
def isStochastic (r : Interaction) : Bool := r.prob < 1 || r.effect.isStochastic

/-! ## Reading -/

/-- Read an interaction between two types; without one a problem has been reported. -/
def readBetween (registry : Registry) (d : InteractionDef) (place : Place)
    (first second : TypeId) : Checked (Option Interaction) := do
  let some effect ← Effect.read? d.params place registry d.effect | pure none
  let score ← d.params.long place "scoreChange" 0
  let prob ← d.params.prob place
  if second = Registry.edge ∧ effect.needsSecond then
    Checked.warn (.idleAtEdge d.effect place)
  pure (some ⟨first, second, effect, score, prob, d⟩)

/-- Read an interaction; without one a problem has been reported. -/
def read? (registry : Registry) (placeholders : Params) (d : InteractionDef) :
    Checked (Option Interaction) :=
  let place := Place.interaction d.first d.second d.effect d.line
  match registry.resolve d.first place, registry.resolve d.second place with
  | .ok first, .ok second =>
    if first = Registry.edge then ⟨none, [.badLine d.line .edgeFirst], []⟩
    else
      readBetween registry { d with params := d.params.decorate placeholders } place first second
  | .error p, .ok _ => ⟨none, [p], []⟩
  | .ok _, .error q => ⟨none, [q], []⟩
  | .error p, .error q => ⟨none, [p, q], []⟩

/-! ## Coverage -/

/-- The types that it covers as the second of a pair. The screen edge stands for
itself alone. -/
def seconds (registry : Registry) (r : Interaction) : List TypeId :=
  if r.second = Registry.edge then [Registry.edge] else registry.descendants r.second

/-- The pairs of types that it covers, ascending. -/
def pairs (registry : Registry) (r : Interaction) : List (TypeId × TypeId) :=
  (registry.descendants r.first).flatMap fun a => (r.seconds registry).map fun b => (a, b)

end Interaction

/-! ## Dispatch -/

/-- The rules for an ordered pair of types, in declaration order. -/
structure Pairing where
  first : TypeId
  second : TypeId
  rules : List Nat
  deriving DecidableEq

namespace Pairing

/-- Note a rule for a pair of types: in the entry of the pair, or in a new one at the end. -/
def note (rule : Nat) (pair : TypeId × TypeId) : List Pairing → List Pairing
  | [] => [⟨pair.1, pair.2, [rule]⟩]
  | p :: table =>
    if p.first = pair.1 ∧ p.second = pair.2 then { p with rules := p.rules ++ [rule] } :: table
    else p :: note rule pair table

/-- Note a rule for all pairs that it covers. -/
def noteAll (registry : Registry) (table : List Pairing) (r : Interaction × Nat) : List Pairing :=
  (r.1.pairs registry).foldl (fun table pair => note r.2 pair table) table

/-- The dispatch table of a list of rules. -/
def table (registry : Registry) (rules : List Interaction) : List Pairing :=
  rules.zipIdx.foldl (noteAll registry) []

end Pairing

end SpriteGame
