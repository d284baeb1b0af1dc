import SpriteGame.Game.Parameter
import SpriteGame.Sprite.Class
import SpriteGame.Sprite.Physics
/-!
# Sprite templates

The template of a sprite type is everything that its definition says, resolved and
typed: the parameters written for it over those of the type it inherits from.
-/
namespace SpriteGame

/-- The resolved definition of a sprite type. -/
structure Template where
  id : TypeId
  name : String
  cls : SpriteClass
  /-- The types it inherits from, the nearest first. -/
  ancestors : List TypeId
  /-- Blocks per move; under continuous physics the commanded acceleration. -/
  speed : Float32
  /-- The least number of ticks from one move to the next. -/
  cooldown : Nat
  facing : Vec
  physics : Physics
  /-- Whether there is at most one live instance. -/
  singleton : Bool
  /-- The amount of one unit of a resource. -/
  resourceValue : Int
  /-- The most of a resource that a sprite can hold. -/
  resourceLimit : Int
  health : Int
  maxHealth : Int
  /-- The side of an instance as a part of a block. -/
  footprint : Float32
  /-- The type that is chased, spawned or led to. -/
  target : Option TypeId
  /-- The resource spent on a shot. -/
  ammo : Option TypeId
  /-- The probability to spawn when it is time. -/
  prob : Float
  /-- The number of spawns after which a spawn point vanishes; zero for no end. -/
  total : Nat
  /-- The age at which a flicker vanishes. -/
  lifetime : Nat
  /-- How many more times a random direction is repeated. -/
  repeats : Nat
  /-- The distance beyond which targets are ignored. -/
  maxDistance : Option Float
  params : Params
  deriving DecidableEq

namespace Template

def role (t : Template) : Role := t.cls.role

/-- The sprites that the definition names. -/
def dependencies (t : Template) : List String :=
  ["stype", "ammo"].filterMap t.params.get?

def defaultResourceLimit : Int := 2

def defaultMaxHealth : Int := 1000

def readPhysics (params : Params) (place : Place) : Checked Physics := do
  match ← params.parsed place Physics.ofKeyword? "physicstype" .grid with
  | .grid => pure .grid
  | .continuous d => do
    let friction ← params.single place "friction" d.friction
    let gravity ← params.single place "gravity" d.gravity
    let mass ← params.single place "mass" d.mass
    let maxSpeed ←
      if params.contains "maxSpeed" then some <$> params.single place "maxSpeed" 0
      else pure d.maxSpeed
    pure (.continuous ⟨friction, gravity, mass, maxSpeed⟩)

/-- Find the class: that of the keyword, or else the inherited one. -/
def readClass (name : String) (keyword : Option String) (inherited : SpriteClass) :
    Checked SpriteClass :=
  match keyword with
  | none => pure inherited
  | some k =>
    match SpriteClass.ofKeyword? k with
    | some c => pure c
    | none => ⟨inherited, [.unknownClass name k], []⟩

/-- Read the template of a class from its merged parameters. -/
def read (id : TypeId) (cls : SpriteClass) (params : Params) (registry : Registry) :
    Checked Template := do
  let name := registry.name id
  let place := Place.sprite name
  let physics ← readPhysics params place
  let healthCap ← params.int place "limitHealthPoints" defaultMaxHealth
  let maxHealth ← params.int place "maxHealthPoints" healthCap
  let speed ← params.single place "speed" cls.defaultSpeed
  let cooldown ← params.count place "cooldown" 0
  let facing ← params.direction place "orientation" cls.defaultFacing
  let singleton ← params.flag place "singleton" false
  let resourceValue ← params.int place "value" 1
  let resourceLimit ←
    if cls = .flicker then pure defaultResourceLimit
    else params.int place "limit" defaultResourceLimit
  let health ← params.int place "healthPoints" 0
  let footprint ← params.single place "shrinkfactor" 1
  let target ← params.sprite? place registry "stype"
  let ammo ← params.sprite? place registry "ammo"
  let prob ← params.prob place
  let total ← params.count place "total" 0
  let lifetime ← if cls = .flicker then params.count place "limit" 1 else pure 0
  let repeats ← params.count place "cons" 0
  let maxDistance ←
    if params.contains "maxDistance" then some <$> params.double place "maxDistance" (-1)
    else pure none
  if cls.needsTarget && !params.contains "stype" then
    Checked.report (.missingParameter "stype" place)
  pure {
    id
    name
    cls
    ancestors := registry.ancestors id
    speed := Single.max speed 0
    cooldown
    facing
    physics
    singleton
    resourceValue
    resourceLimit
    health
    maxHealth
    footprint := Single.clamp footprint 0.05 1
    target
    ammo
    prob
    total
    lifetime
    repeats
    maxDistance := maxDistance.filter (0 ≤ ·)
    params }

/-- Build the template of a definition whose own parameters are `own`: what they leave
out comes from the template of the type it inherits from. -/
def build (id : TypeId) (keyword : Option String) (own : Params) (parent : Option Template)
    (registry : Registry) : Checked Template := do
  let name := registry.name id
  let inherited := match parent with
    | some p => p.cls
    | none => .immovable
  let cls ← readClass name keyword inherited
  Checked.reportAll ((own.keys.filter fun k => !cls.accepts k).map fun k =>
    .unknownParameter k (.sprite name))
  let params := match parent with
    | some p => p.params.override own
    | none => own
  read id cls params registry

end Template

end SpriteGame
