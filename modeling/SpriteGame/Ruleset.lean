import SpriteGame.Rule.Interaction
import SpriteGame.Rule.Termination
import SpriteGame.Settings.Basic
import SpriteGame.Sprite.Template
/-!
# Rule sets

A rule set is a game description with every name resolved. It is made once for a
game, whatever problems the description has: the offending parts are left out, and
the problems are listed in the order sprites, templates, interactions, terminations,
level mapping.
-/
namespace SpriteGame

/-- The resolved rules of a game. -/
structure Ruleset where
  registry : Registry
  /-- The templates by type; the screen edge has one that does nothing. -/
  templates : Array Template
  /-- The interactions in declaration order. -/
  interactions : Array Interaction
  dispatch : Array Pairing
  terminations : List Termination
  /-- The types that a level character places on its cell. -/
  levelMapping : SortedMap Char (List TypeId)
  /-- The side of a level cell in pixels. -/
  blockSize : Float32
  maxTicks : Option Nat

namespace Ruleset

/-! ## Sprites -/

/-- Give a type to every definition of a walk. A name that has one is a problem, and
its definition is left out. -/
def declare (r : Registry) : List (SpriteDef × Option SpriteDef) →
    Checked (Registry × List (TypeId × SpriteDef))
  | [] => pure (r, [])
  | (d, parent) :: rest =>
    match r.resolve? d.name with
    | some _ => do
      Checked.report (.duplicateSprite d.name)
      declare r rest
    | none => do
      let (id, r) := r.register d.name (parent.bind fun p => r.resolve? p.name)
      let (r, declared) ← declare r rest
      pure (r, (id, d) :: declared)

/-- The template of the screen edge. -/
def edgeTemplate (registry : Registry) : Template :=
  (Template.build Registry.edge none .empty none registry).value

/-- Build the templates of definitions, in the order of their types. Those of the types
before them are at hand; nothing is inherited from the screen edge. -/
def buildTemplates (registry : Registry) (placeholders : Params) :
    List (TypeId × SpriteDef) → Array Template → Checked (Array Template)
  | [], templates => pure templates
  | (id, d) :: rest, templates => do
    let parent := ((registry.parent? id).filter (· ≠ Registry.edge)).bind (templates[·]?)
    let template ← Template.build id d.keyword (d.params.decorate placeholders) parent registry
    buildTemplates registry placeholders rest (templates.push template)

/-! ## Level mapping -/

/-- Resolve the names that a level character stands for. -/
def resolveNames (registry : Registry) (symbol : Char) (names : List String) :
    Checked (List TypeId) :=
  .keepEach (fun name => .ofExcept (registry.resolve name (.mapping symbol))) names

def resolveMapping (registry : Registry) (mapping : SortedMap Char (List String)) :
    Checked (SortedMap Char (List TypeId)) := do
  let entries ← Checked.forEach (fun (symbol, names) => do
    pure (symbol, ← resolveNames registry symbol names)) mapping.entries
  pure (.ofList entries)

/-- The characters that are mapped by default, each to the sprite of a name. -/
def defaultSymbols : List (Char × String) := [('A', "avatar"), ('w', "wall")]

/-- Map a character to a sprite if it has no mapping and the sprite exists. -/
def addDefault (registry : Registry) (mapping : SortedMap Char (List TypeId))
    (entry : Char × String) : SortedMap Char (List TypeId) :=
  if mapping.contains entry.1 then mapping
  else
    match registry.resolve? entry.2 with
    | some id => mapping.insert entry.1 [id]
    | none => mapping

/-! ## Compilation -/

def compile (d : Description) (settings : Settings) : Checked Ruleset := do
  let (registry, declared) ← declare .new d.walk
  let templates ← buildTemplates registry d.placeholders declared #[edgeTemplate registry]
  let interactions ← Checked.keepEach (Interaction.read? registry d.placeholders) d.interactions
  let terminations ← Checked.keepEach (Termination.read? registry) d.terminations
  let mapping ← resolveMapping registry d.levelMapping
  pure {
    registry
    templates
    interactions := interactions.toArray
    dispatch := (Pairing.table registry interactions).toArray
    terminations
    levelMapping := defaultSymbols.foldl (addDefault registry) mapping
    blockSize := settings.blockSize.toFloat32
    maxTicks := settings.maxTicks.map (·.toNat) }

/-! ## Look-ups -/

def template? (r : Ruleset) (type : TypeId) : Option Template := r.templates[type]?

def hasRole (r : Ruleset) (type : TypeId) (role : Role) : Bool :=
  (r.template? type).any (·.role = role)

/-- The rules for an ordered pair of types. -/
def pair? (r : Ruleset) (first second : TypeId) : Option Pairing :=
  r.dispatch.find? fun p => p.first = first && p.second = second

/-- The template of the first avatar, in declaration order. -/
def avatarTemplate? (r : Ruleset) : Option Template := r.templates.find? (·.role = .avatar)

/-- The most of a resource that a sprite can hold: the limit of the type where it is a
resource, the largest number otherwise. -/
def resourceLimit (r : Ruleset) (type : TypeId) : Int :=
  match r.template? type with
  | some t => if t.role = .resource then t.resourceLimit else Numeral.intMax
  | none => Numeral.intMax

end Ruleset

end SpriteGame
