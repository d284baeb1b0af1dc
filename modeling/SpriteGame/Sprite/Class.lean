import SpriteGame.Action
/-!
# Sprite classes

The closed set of behaviours that a sprite can have, with what follows from the
class alone: its role, its defaults, the parameters that it takes and, for avatars,
the actions that it reacts to.
-/
namespace SpriteGame

/-- What a sprite is to an observer. -/
inductive Role where
  | avatar
  | npc
  | portal
  | resource
  | static
  | moving
  deriving DecidableEq, Repr, Inhabited

namespace Role

def name : Role → String
  | avatar => "Avatar"
  | npc => "Npc"
  | portal => "Portal"
  | resource => "Resource"
  | static => "Static"
  | moving => "Moving"

/-- All roles, in the order in which sprites are listed. -/
def all : List Role := [avatar, npc, resource, static, portal, moving]

def ofName? (s : String) : Option Role := all.find? fun r => r.name = s

end Role

/-- The behaviour of a sprite. -/
inductive SpriteClass where
  | immovable
  | passive
  | resource
  | portal
  | door
  | missile
  | randomMissile
  | flicker
  | spawnPoint
  | randomNpc
  | chaser
  | fleeing
  | pathChaser
  | movingAvatar
  | horizontalAvatar
  | orientedAvatar
  | ongoingAvatar
  | shootAvatar
  deriving DecidableEq, Repr, Inhabited

namespace SpriteClass

def all : List SpriteClass :=
  [immovable, passive, resource, portal, door, missile, randomMissile, flicker, spawnPoint,
    randomNpc, chaser, fleeing, pathChaser, movingAvatar, horizontalAvatar, orientedAvatar,
    ongoingAvatar, shootAvatar]

def keyword : SpriteClass → String
  | immovable => "Immovable"
  | passive => "Passive"
  | resource => "Resource"
  | portal => "Portal"
  | door => "Door"
  | missile => "Missile"
  | randomMissile => "RandomMissile"
  | flicker => "Flicker"
  | spawnPoint => "SpawnPoint"
  | randomNpc => "RandomNPC"
  | chaser => "Chaser"
  | fleeing => "Fleeing"
  | pathChaser => "PathChaser"
  | movingAvatar => "MovingAvatar"
  | horizontalAvatar => "HorizontalAvatar"
  | orientedAvatar => "OrientedAvatar"
  | ongoingAvatar => "OngoingAvatar"
  | shootAvatar => "ShootAvatar"

def ofKeyword? (s : String) : Option SpriteClass := all.find? fun c => c.keyword = s

def role : SpriteClass → Role
  | movingAvatar | horizontalAvatar | orientedAvatar | ongoingAvatar | shootAvatar => .avatar
  | randomNpc | chaser | fleeing | pathChaser => .npc
  | portal | door | spawnPoint => .portal
  | resource => .resource
  | immovable => .static
  | passive | missile | randomMissile | flicker => .moving

/-- Whether the player controls it. -/
def isAvatar (c : SpriteClass) : Bool := c.role = .avatar

/-- Whether it faces somewhere and travels there under grid physics. -/
def isOriented : SpriteClass → Bool
  | missile | randomMissile | orientedAvatar | ongoingAvatar | shootAvatar => true
  | _ => false

/-- Whether it keeps travelling in the direction that it faces. -/
def drifts : SpriteClass → Bool
  | missile | randomMissile | ongoingAvatar => true
  | _ => false

/-- The speed without a parameter. -/
def defaultSpeed : SpriteClass → Float32
  | immovable | passive | resource | portal | door | flicker | spawnPoint => 0
  | _ => 1

/-- The direction faced without a parameter. -/
def defaultFacing : SpriteClass → Vec
  | missile | orientedAvatar | ongoingAvatar | shootAvatar => Heading.right.toVec
  | _ => Vec.zero

/-- Whether it acts on the type named by `stype` and so needs one. -/
def needsTarget : SpriteClass → Bool
  | chaser | fleeing | pathChaser | spawnPoint => true
  | _ => false

/-! ## Parameters -/

/-- The parameters that every class takes. -/
def commonParams : List String :=
  ["speed", "cooldown", "orientation", "singleton", "physicstype", "friction", "gravity",
    "mass", "maxSpeed", "healthPoints", "maxHealthPoints", "limitHealthPoints", "shrinkfactor"]

/-- The parameters that concern presentation only; every class takes them. -/
def displayParams : List String :=
  ["img", "color", "hidden", "invisible", "autotiling", "randomtiling", "frameRate",
    "rotateInPlace"]

/-- The parameters of a class of its own. -/
def ownParams : SpriteClass → List String
  | resource => ["value", "limit"]
  | portal => ["stype"]
  | flicker => ["limit"]
  | spawnPoint => ["stype", "prob", "total"]
  | randomNpc => ["cons"]
  | chaser | fleeing | pathChaser => ["stype", "maxDistance", "cons"]
  | shootAvatar => ["stype", "ammo"]
  | _ => []

def accepts (c : SpriteClass) (key : String) : Bool :=
  commonParams.contains key || displayParams.contains key || c.ownParams.contains key

/-! ## Actions -/

/-- The actions that an avatar reacts to. -/
def actions : SpriteClass → List Action
  | horizontalAvatar => [.left, .right]
  | movingAvatar | orientedAvatar | ongoingAvatar => [.up, .down, .left, .right]
  | shootAvatar => [.use, .up, .down, .left, .right]
  | _ => []

end SpriteClass

end SpriteGame
