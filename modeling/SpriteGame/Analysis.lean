import SpriteGame.Ruleset
/-!
# Analysis

Questions about a game that can be answered without playing it: which sprites it
has, which rules apply to a pair, how it can end. Answers name types and do not
number them.
-/
namespace SpriteGame

/-- What there is to say of a sprite type. -/
structure SpriteSummary where
  name : String
  cls : SpriteClass
  /-- The sprites that its definition names. -/
  sprites : List String
  /-- The types it inherits from, the nearest first. -/
  parents : List String
  role : Role
  singleton : Bool
  params : Params
  deriving DecidableEq

structure InteractionSummary where
  effect : String
  score : Int
  prob : Float
  sprites : List String
  params : Params
  deriving DecidableEq

structure TerminationSummary where
  kind : String
  /-- The sprites that it counts. -/
  sprites : List String
  limit : Int
  win : Bool
  score : Int
  deriving DecidableEq

/-- The types that a condition counts. -/
def Condition.types : Condition → List TypeId
  | .spriteCounter type => [type]
  | .multiSpriteCounter types => types
  | .timeout => []

namespace Ruleset

def names (r : Ruleset) (types : List TypeId) : List String := types.map r.registry.name

/-! ## Sprites -/

def summarize (r : Ruleset) (t : Template) : SpriteSummary where
  name := t.name
  cls := t.cls
  sprites := t.dependencies
  parents := r.names t.ancestors
  role := t.role
  singleton := t.singleton
  params := t.params

def spritesByRole (r : Ruleset) (role : Role) : List SpriteSummary :=
  (r.templates.toList.filter fun t => t.id ≠ Registry.edge ∧ t.role = role).map r.summarize

def allSprites (r : Ruleset) : List SpriteSummary := Role.all.flatMap r.spritesByRole

/-! ## Rules -/

def summarizeRule (r : Ruleset) (rule : Interaction) : InteractionSummary where
  effect := rule.definition.effect
  score := rule.score
  prob := rule.prob
  sprites := r.names rule.effect.referencedTypes
  params := rule.definition.params

/-- The rules for two sprites that meet, with those written for the sprites that they
inherit from; the second can be the screen edge. -/
def interactionsBetween (r : Ruleset) (first second : String) : List InteractionSummary :=
  match r.registry.resolve? first, r.registry.resolve? second with
  | some a, some b =>
    match r.pair? a b with
    | some p => (p.rules.filterMap (r.interactions[·]?)).map r.summarizeRule
    | none => []
  | _, _ => []

def summarizeTermination (r : Ruleset) (t : Termination) : TerminationSummary where
  kind := t.definition.kind
  sprites := r.names t.condition.types
  limit := t.limit
  win := t.win
  score := t.score

/-! ## Levels and actions -/

def mappingNames (r : Ruleset) : SortedMap Char (List String) :=
  r.levelMapping.mapValues fun _ types => r.names types

/-- The actions of the first declared avatar, after idling if that is included. -/
def actions (r : Ruleset) (includeIdle : Bool) : List Action :=
  (if includeIdle then [.idle] else []) ++
    match r.avatarTemplate? with
    | some t => t.cls.actions
    | none => []

end Ruleset

end SpriteGame
