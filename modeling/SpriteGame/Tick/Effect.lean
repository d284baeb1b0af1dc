import SpriteGame.World.Basic
/-!
# What effects do

An effect either does not come about, and then it changes nothing, or it answers with
edits of the world and the generator that is left. It never adds or drops a sprite at
once: sprites are marked as removed, and new ones are asked for.
-/
namespace SpriteGame

namespace Effect

/-! ## Parts -/

/-- The edits of an effect that comes about without a draw. -/
def certain (w : World) (es : List Edit) : Option (List Edit × Random) := some (es, w.rng)

/-- The edits of an effect that comes about on a condition. -/
def provided (w : World) (condition : Bool) (es : List Edit) : Option (List Edit × Random) :=
  if condition then certain w es else none

/-- The removal of the second side, if there is one and it is asked for. -/
def killOther (asked : Bool) (second : Option Key) : List Edit :=
  if asked then (second.map .kill).toList else []

/-- Whether the other side came down on the sprite from above its middle. -/
def comesFromAbove (s other : Sprite) : Bool :=
  other.lastRect.y + other.rect.h / 2 < s.lastRect.y && other.lastRect.y < other.rect.y

/-- The place where a rectangle that left the screen comes in again. -/
def wrapped (bounds rect : Rect) : Vec where
  x :=
    if rect.x < bounds.x then bounds.right - rect.w
    else if bounds.right < rect.right then bounds.x
    else rect.x
  y :=
    if rect.y < bounds.y then bounds.bottom - rect.h
    else if bounds.bottom < rect.bottom then bounds.y
    else rect.y

/-- The place of a rectangle of the size of `rect` around a centre. -/
def centered (rect : Rect) (center : Vec) : Vec :=
  ⟨center.x - rect.w / 2, center.y - rect.h / 2⟩

/-- The changes that turn a sprite to where another one faces, in line with it. -/
def align (dir : Vec) (other : Rect) (s : Sprite) : Sprite.Change :=
  if dir.x != 0 then .place s.rect.x other.y else .place other.x s.rect.y

/-- The request for a sprite in place of another one, which takes over what it holds. -/
def successor (type : TypeId) (s : Sprite) : SpawnRequest :=
  { SpawnRequest.facingTo type s.rect.center s.facing with
    resources := some s.resources
    health := if 0 < s.health then some s.health else none }

/-! ## Effects on one side -/

/-- What an effect does that can do without the second side. -/
def alone (w : World) (key : Key) (s : Sprite) (second : Option Key) :
    Effect → Option (List Edit × Random)
  | killSprite => certain w [.kill key]
  | killBoth => certain w (.kill key :: killOther true second)
  | killAll type => certain w ((w.liveIn type).map fun (k, _) => .kill k)
  | killIfHasMore resource limit => provided w (limit ≤ s.resource resource) [.kill key]
  | killIfHasLess resource limit => provided w (s.resource resource ≤ limit) [.kill key]
  | stepBack => certain w [.change key [.stepBack]]
  | undoAll except =>
    certain w ((w.live.filter fun (k, _) => !except.contains k.type).map fun (k, _) =>
      .change k [.stepBack])
  | spawn type => certain w [.spawn (.plain type s.rect.center)]
  | spawnIfHasMore resource limit type =>
    provided w (limit ≤ s.resource resource) [.spawn (.plain type s.rect.center)]
  | cloneSprite => certain w [.spawn (.facingTo s.type s.rect.center s.facing)]
  | transformTo type killSecond =>
    certain w ([.kill key, .spawn (successor type s)] ++ killOther killSecond second)
  | changeResource resource value killResource =>
    certain w
      (.change key [.gain resource value (w.rules.resourceLimit resource)]
        :: killOther killResource second)
  | addHealthPoints value =>
    certain w [.change key [.setHealth (min (s.health + value) s.maxHealth)]]
  | addHealthPointsToMax value =>
    certain w [.change key
      [.setHealth (s.health + value), .setMaxHealth (max s.maxHealth (s.health + value))]]
  | subtractHealthPoints value =>
    certain w
      (.change key [.setHealth (s.health - value)]
        :: if s.health - value ≤ 0 then [.kill key] else [])
  | reverseDirection => certain w [.change key [.face (-s.facing)]]
  | flipDirection =>
    let (h, rng) := w.rng.pick Heading.up [.left, .down, .right]
    some ([.change key [.face h.toVec]], rng)
  | turnAround =>
    let fall := (Heading.down.toVec.scale w.blockSize).scale (Single.max s.speed 1)
    certain w [.change key [.stepBack, .shift fall, .face (-s.facing)]]
  | speedToAll type value change =>
    certain w ((w.liveIn type).map fun (k, o) =>
      .change k [.setSpeed (change.apply o.speed value)])
  | wrapAround =>
    let place := wrapped w.bounds s.rect
    certain w [.change key [.place place.x place.y, .settle]]
  | killIfOtherHasMore .. | killIfFromAbove | spawnBehind _ | teleportToExit
  | collectResource _ | attractGaze _ | bounceForward | pullWithIt => none

/-! ## Effects between two sides -/

/-- What an effect does that needs both sides. -/
def between (w : World) (key : Key) (s : Sprite) (otherKey : Key) (other : Sprite) :
    Effect → Option (List Edit × Random)
  | killIfOtherHasMore resource limit => provided w (limit ≤ other.resource resource) [.kill key]
  | killIfFromAbove => provided w (comesFromAbove s other) [.kill key]
  | spawnBehind type => certain w [.spawn (.plain type other.lastRect.center)]
  | teleportToExit =>
    match ((w.rules.template? otherKey.type).bind (·.target)).map w.liveIn with
    | some ((_, e) :: es) =>
      let (exit, rng) := w.rng.pick e.rect (es.map (·.2.rect))
      let place := centered s.rect exit.center
      some ([.change key [.place place.x place.y, .settle]], rng)
    | _ => none
  | collectResource killResource =>
    match w.rules.template? key.type with
    | none => none
    | some t =>
      provided w
        (t.role = .resource && other.resource key.type + t.resourceValue ≤ t.resourceLimit)
        (.change otherKey [.gain key.type t.resourceValue t.resourceLimit]
          :: if killResource then [.kill key] else [])
  | attractGaze align =>
    provided w (s.oriented && other.oriented)
      [.change key (.face other.facing
        :: if align then [Effect.align other.facing other.rect s] else [])]
  | bounceForward =>
    let dir := other.displacement.snap
    match w.rules.template? key.type with
    | none => none
    | some t =>
      provided w (!dir.isZero)
        [.change key [.drive t.physics dir (some (Single.max other.speed 1)) 0 w.blockSize]]
  | pullWithIt => certain w [.change key [.shift other.displacement]]
  | _ => none

/-! ## Application -/

/-- What an effect does to a pair of sides. -/
def edits? (e : Effect) (w : World) (first second : Option Key) : Option (List Edit × Random) := do
  let key ← first
  let s ← w.sprite? key
  if e.needsSecond then
    let otherKey ← second
    e.between w key s otherKey (← w.sprite? otherKey)
  else e.alone w key s second

/-- Apply an effect to a pair of sides; says whether it came about. -/
def apply (e : Effect) (w : World) (first second : Option Key) : Bool × World :=
  match e.edits? w first second with
  | none => (false, w)
  | some (es, rng) => (true, { w with rng }.edits es)

end Effect

end SpriteGame
