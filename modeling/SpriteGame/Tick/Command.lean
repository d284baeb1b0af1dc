import SpriteGame.Pursuit.Path
/-!
# Commands

At the start of a tick every live sprite decides what to do by looking at the world
as it is then, and all decisions are taken before the first is carried out. So no
sprite sees the move of another one in the same tick.
-/
namespace SpriteGame

/-- What a sprite will do in a tick. -/
structure Command where
  /-- The direction to turn to before moving. -/
  facing : Option Vec
  /-- Whether to move on as the physics have it. -/
  coasts : Bool
  /-- The direction to move in; zero for none. -/
  drive : Vec
  spawn : Option SpawnRequest
  /-- The resource spent on the spawn. -/
  spend : Option TypeId
  remove : Bool
  counter : Option Nat
  lastCommand : Option Vec
  deriving DecidableEq

namespace Command

/-- To move on as the physics have it, and nothing else. -/
def rest : Command := ⟨none, true, .zero, none, none, false, none, none⟩

/-- To do nothing but what an avatar is told. Under grid physics it does not move on
by itself. -/
def steered (p : Physics) : Command := { rest with coasts := !p.isGrid }

/-! ## Deciding -/

def randomHeading (rng : Random) : Heading × Random := rng.pick .up [.left, .down, .right]

/-- Turn somewhere if facing nowhere. -/
def turnRandomly (s : Sprite) (rng : Random) : Command × Random :=
  if s.facing.isZero then
    let (h, rng) := randomHeading rng
    ({ rest with facing := some h.toVec }, rng)
  else (rest, rng)

/-- Go on in the last direction while there are repeats left, then draw a new one. -/
def wander (s : Sprite) (t : Template) (rng : Random) : Command × Random :=
  if s.counter > 0 && !s.lastCommand.isZero then
    ({ rest with
      drive := s.lastCommand
      counter := some (s.counter - 1)
      lastCommand := some s.lastCommand }, rng)
  else
    let (h, rng) := randomHeading rng
    ({ rest with
      drive := h.toVec
      counter := some t.repeats
      lastCommand := some h.toVec }, rng)

/-- Step towards, or away from, a closest target; wander if no step serves. -/
def hunt (w : World) (key : Key) (s : Sprite) (t : Template) (flees : Bool) (rng : Random) :
    Command × Random :=
  match Pursuit.chase w key s.rect t flees rng with
  | some (h, rng) => ({ rest with drive := h.toVec }, rng)
  | none => wander s t rng

/-- Take a shortest path to the closest target; wander without a target. -/
def follow (w : World) (key : Key) (s : Sprite) (t : Template) (rng : Random) :
    Command × Random :=
  match Pursuit.pathStep w key s.rect t with
  | some dir => ({ rest with drive := dir }, rng)
  | none => wander s t rng

/-- Whether a number of spawns is all that a spawn point makes. -/
def exhausted (t : Template) (spawned : Nat) : Bool := t.total > 0 && t.total ≤ spawned

/-- Spawn when it is time and chance will have it; vanish after the last spawn. -/
def emit (s : Sprite) (t : Template) (rng : Random) : Command × Random :=
  if exhausted t s.counter then ({ rest with remove := true }, rng)
  else
    match t.target with
    | none => (rest, rng)
    | some type =>
      if s.age % max t.cooldown 1 ≠ 0 then (rest, rng)
      else
        let (happens, rng) := rng.chance t.prob
        if happens then
          ({ rest with
            spawn := some (.facingTo type s.rect.center t.facing)
            counter := some (s.counter + 1)
            remove := exhausted t (s.counter + 1) }, rng)
        else (rest, rng)

/-- Turn and move as told; under continuous physics only move. -/
def turnAndMove (p : Physics) (action : Action) : Command :=
  let dir := action.direction
  if dir.isZero then steered p
  else { steered p with facing := if p.isGrid then some dir else none, drive := dir }

/-- The direction of a shot: that faced, to the nearest axis, or else up. -/
def aim (facing : Vec) : Vec :=
  let dir := facing.snap
  if dir.isZero then Heading.up.toVec else dir

/-- Shoot at the next block, if there is something to shoot and ammunition left. -/
def shoot (s : Sprite) (t : Template) (block : Float32) : Command :=
  match t.target with
  | none => steered t.physics
  | some type =>
    if t.ammo.any (s.resource · < 1) then steered t.physics
    else
      let dir := aim s.facing
      { steered t.physics with
        spawn := some (.facingTo type (s.rect.center + dir.scale block) dir)
        spend := t.ammo }

/-- What a sprite decides to do, for an action of the player. -/
def plan (w : World) (key : Key) (s : Sprite) (t : Template) (action : Action) (rng : Random) :
    Command × Random :=
  match t.cls with
  | .immovable | .passive | .resource | .portal | .door | .missile => (rest, rng)
  | .randomMissile => turnRandomly s rng
  | .flicker => ({ rest with remove := t.lifetime ≤ s.age }, rng)
  | .spawnPoint => emit s t rng
  | .randomNpc => wander s t rng
  | .chaser => hunt w key s t false rng
  | .fleeing => hunt w key s t true rng
  | .pathChaser => follow w key s t rng
  | .movingAvatar => ({ steered t.physics with drive := action.direction }, rng)
  | .horizontalAvatar =>
    if action = .left ∨ action = .right then
      ({ steered t.physics with drive := action.direction }, rng)
    else (steered t.physics, rng)
  | .orientedAvatar => (turnAndMove t.physics action, rng)
  | .ongoingAvatar =>
    let dir := action.direction
    ({ rest with facing := if dir.isZero then none else some dir }, rng)
  | .shootAvatar =>
    if action = .use then (shoot s t w.blockSize, rng) else (turnAndMove t.physics action, rng)

/-! ## Carrying out -/

/-- The changes to the sprite itself, in their order. -/
def changes (c : Command) (s : Sprite) (t : Template) (block : Float32) : List Sprite.Change :=
  (c.spend.map fun r => .gain r (-1) Numeral.intMax).toList
    ++ (c.counter.map .setCounter).toList
    ++ (c.lastCommand.map .setLastCommand).toList
    ++ (c.facing.map .face).toList
    ++ (if c.coasts && s.canCoast t.physics then [.coast t.physics t.cooldown block] else [])
    ++ (if c.drive.isZero then [] else [.drive t.physics c.drive none t.cooldown block])

/-- The edits that a command of a sprite amounts to. A spawn is asked for even by a
sprite that vanishes; nothing else is. -/
def edits (c : Command) (key : Key) (s : Sprite) (t : Template) (block : Float32) : List Edit :=
  (c.spawn.map .spawn).toList ++
    if c.remove then [.kill key]
    else
      match c.changes s t block with
      | [] => []
      | cs => [.change key cs]

end Command

structure Order where
  key : Key
  sprite : Sprite
  template : Template
  command : Command
  deriving DecidableEq

def Order.edits (o : Order) (block : Float32) : List Edit :=
  o.command.edits o.key o.sprite o.template block

namespace World

/-- The orders of some sprites, decided one after the other with one generator. -/
def ordersOf (w : World) (action : Action) : List (Key × Sprite) → Random → List Order × Random
  | [], rng => ([], rng)
  | (key, s) :: rest, rng =>
    match w.rules.template? key.type with
    | none => w.ordersOf action rest rng
    | some t =>
      let (c, rng) := Command.plan w key s t action rng
      let (orders, rng) := w.ordersOf action rest rng
      (⟨key, s, t, c⟩ :: orders, rng)

/-- The orders of a tick, and the generator that is left. -/
def orders (w : World) (action : Action) : List Order × Random :=
  w.ordersOf action w.live w.rng

/-- Let every sprite start its tick. -/
def startTick (w : World) : World := { w with groups := w.groups.map (·.map Sprite.startTick) }

theorem group_startTick (w : World) (type : TypeId) :
    w.startTick.group type = (w.group type).map Sprite.startTick := by
  unfold group startTick
  cases h : w.groups[type]? <;> simp [h]

/-- Carry out the orders of a tick. -/
def carryOut (w : World) (orders : List Order) : World :=
  w.startTick.edits (orders.flatMap (·.edits w.blockSize))

end World

end SpriteGame
