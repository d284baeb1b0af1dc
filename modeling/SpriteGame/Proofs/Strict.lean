import SpriteGame.Tick.Advance
/-!
# Strict ticks

A tick that stops at every operation that has no answer: an index past the end, a draw
from an empty range, a clamp to bounds in the wrong order, a division by zero. Elsewhere
these have some answer, so that a tick always comes to its end; here they are faults. What
has no such operation is taken as it is. Of a type that is registered a tick looks up the
name, the template, the group and the types below it; those above it are not looked up.
-/
namespace SpriteGame

/-- An operation without an answer. -/
inductive Fault where
  | index
  | emptyRange
  | bounds
  | zeroDivisor
  deriving DecidableEq, Repr

namespace Strict

/-! ## Operations -/

def get {α : Type} (a : Array α) (i : Nat) : Except Fault α :=
  match a[i]? with
  | some x => .ok x
  | none => .error .index

/-- Draw a number from the range of those below `n`. -/
def below (n : Nat) (rng : Random) : Except Fault (Nat × Random) :=
  if n = 0 then .error .emptyRange else .ok (rng.below n)

def pick {α : Type} (l : List α) (rng : Random) : Except Fault (α × Random) := do
  let (i, rng) ← below l.length rng
  let x ← get l.toArray i
  .ok (x, rng)

def clamp (low high n : Int) : Except Fault Int :=
  if high < low then .error .bounds else .ok (max low (min high n))

def remainder (n divisor : Nat) : Except Fault Nat :=
  if divisor = 0 then .error .zeroDivisor else .ok (n % divisor)

/-! ## Look-ups -/

def name (w : World) (type : TypeId) : Except Fault String := do
  let e ← get w.rules.registry.entries type
  .ok e.name

def descendants (w : World) (type : TypeId) : Except Fault (List TypeId) := do
  let e ← get w.rules.registry.entries type
  .ok e.descendants

def template (w : World) (type : TypeId) : Except Fault Template := get w.rules.templates type

def sprite (w : World) (key : Key) : Except Fault Sprite := do
  let group ← get w.groups key.type
  get group key.index

def liveIn (w : World) (type : TypeId) : Except Fault (List (Key × Sprite)) := do
  let types ← descendants w type
  .ok (types.flatMap w.liveOf)

def countLive (w : World) (type : TypeId) : Except Fault Nat := do
  let live ← liveIn w type
  .ok live.length

def resourceLimit (w : World) (type : TypeId) : Except Fault Int := do
  let t ← template w type
  .ok (if t.role = .resource then t.resourceLimit else Numeral.intMax)

/-! ## Edits -/

def change (s : Sprite) : Sprite.Change → Except Fault Sprite
  | .gain r delta limit => do
    let amount ← clamp 0 (max limit 0) (s.resource r + delta)
    .ok { s with resources := s.resources.insert r amount }
  | c => .ok (s.change c)

def changes (s : Sprite) (cs : List Sprite.Change) : Except Fault Sprite := cs.foldlM change s

/-- A removal is logged with the name of the type. -/
def edit (w : World) : Edit → Except Fault World
  | .kill key => do
    let s ← sprite w key
    let _ ← name w key.type
    .ok (w.modify key fun _ => s.remove)
  | .change key cs => do
    let s ← sprite w key
    let s ← changes s cs
    .ok (w.modify key fun _ => s)
  | .spawn r => .ok (w.request r)

def edits (w : World) (es : List Edit) : Except Fault World := es.foldlM edit w

/-! ## Deciding -/

def closestTargets (w : World) (key : Key) (rect : Rect) (t : Template) : Except Fault (List Rect) :=
  match t.target with
  | none => .ok []
  | some type => do
    let live ← liveIn w type
    let near := ((live.filter (·.1 ≠ key)).map fun (_, s) => (t.physics.distance rect s.rect, s.rect)).filter
      fun (d, _) => !t.maxDistance.any (· < d)
    let best := Pursuit.least (near.map (·.1))
    .ok ((near.filter fun (d, _) => d == best).map (·.2))

def chase (w : World) (key : Key) (rect : Rect) (t : Template) (flees : Bool) (rng : Random) :
    Except Fault (Option (Heading × Random)) := do
  let targets ← closestTargets w key rect t
  match targets.flatMap (Pursuit.headings t.physics w.blockSize rect flees) with
  | [] => .ok none
  | hs => do
    let drawn ← pick hs rng
    .ok (some drawn)

/-- Those of some types whose sprites are static. -/
def staticTypes (w : World) : List TypeId → Except Fault (List TypeId)
  | [] => .ok []
  | type :: types => do
    let t ← template w type
    let rest ← staticTypes w types
    .ok (if t.role = .static then type :: rest else rest)

def pathStep (w : World) (key : Key) (rect : Rect) (t : Template) : Except Fault (Option Vec) := do
  let targets ← closestTargets w key rect t
  match targets.head? with
  | none => .ok none
  | some target => do
    let static ← staticTypes w (.range w.rules.templates.size)
    let cells := (static.flatMap w.liveOf).map fun (_, s) => s.rect.cell w.blockSize
    let ground := { Pursuit.terrain w (target.cell w.blockSize) with blocked := .ofList cells }
    .ok (some (match ground.firstHeading (rect.cell w.blockSize) with
      | some h => h.toVec
      | none => .zero))

def turnRandomly (s : Sprite) (rng : Random) : Except Fault (Command × Random) :=
  if s.facing.isZero then do
    let (h, rng) ← pick Heading.all rng
    .ok ({ Command.rest with facing := some h.toVec }, rng)
  else .ok (.rest, rng)

def wander (s : Sprite) (t : Template) (rng : Random) : Except Fault (Command × Random) :=
  if s.counter > 0 && !s.lastCommand.isZero then
    .ok ({ Command.rest with
      drive := s.lastCommand
      counter := some (s.counter - 1)
      lastCommand := some s.lastCommand }, rng)
  else do
    let (h, rng) ← pick Heading.all rng
    .ok ({ Command.rest with
      drive := h.toVec
      counter := some t.repeats
      lastCommand := some h.toVec }, rng)

def hunt (w : World) (key : Key) (s : Sprite) (t : Template) (flees : Bool) (rng : Random) :
    Except Fault (Command × Random) := do
  match ← chase w key s.rect t flees rng with
  | some (h, rng) => .ok ({ Command.rest with drive := h.toVec }, rng)
  | none => wander s t rng

def follow (w : World) (key : Key) (s : Sprite) (t : Template) (rng : Random) :
    Except Fault (Command × Random) := do
  match ← pathStep w key s.rect t with
  | some dir => .ok ({ Command.rest with drive := dir }, rng)
  | none => wander s t rng

def emit (s : Sprite) (t : Template) (rng : Random) : Except Fault (Command × Random) :=
  if Command.exhausted t s.counter then .ok ({ Command.rest with remove := true }, rng)
  else
    match t.target with
    | none => .ok (.rest, rng)
    | some type => do
      let late ← remainder s.age (max t.cooldown 1)
      if late ≠ 0 then .ok (.rest, rng)
      else
        let (happens, rng) := rng.chance t.prob
        .ok (if happens then
          ({ Command.rest with
            spawn := some (.facingTo type s.rect.center t.facing)
            counter := some (s.counter + 1)
            remove := Command.exhausted t (s.counter + 1) }, rng)
        else (.rest, rng))

/-- The order of the sprite that a key finds. -/
def order (w : World) (action : Action) (key : Key) (rng : Random) : Except Fault (Order × Random) := do
  let s ← sprite w key
  let t ← template w key.type
  let (c, rng) ←
    match t.cls with
    | .randomMissile => turnRandomly s rng
    | .spawnPoint => emit s t rng
    | .randomNpc => wander s t rng
    | .chaser => hunt w key s t false rng
    | .fleeing => hunt w key s t true rng
    | .pathChaser => follow w key s t rng
    | _ => .ok (Command.plan w key s t action rng)
  .ok (⟨key, s, t, c⟩, rng)

def orders (w : World) (action : Action) : List Key → Random → Except Fault (List Order × Random)
  | [], rng => .ok ([], rng)
  | key :: keys, rng => do
    let (o, rng) ← order w action key rng
    let (os, rng) ← orders w action keys rng
    .ok (o :: os, rng)

/-! ## Carrying out -/

/-- Carry out an order. A sprite that stays is looked up, with its template, even if the
order changes nothing about it. -/
def carryOut (w : World) (o : Order) : Except Fault World := do
  let w := o.command.spawn.elim w w.request
  if o.command.remove then edit w (.kill o.key)
  else do
    let t ← template w o.key.type
    edit w (.change o.key (o.command.changes o.sprite t w.blockSize))

def moved (w : World) (action : Action) : Except Fault World := do
  let (os, rng) ← orders w action (w.live.map (·.1)) w.rng
  os.foldlM carryOut ({ w with tick := w.tick + 1, rng } : World).startTick

/-! ## Effects -/

/-- What an effect does that can do without the second side. Those that look nothing up
besides the sides and draw nothing are taken as they are. -/
def alone (w : World) (key : Key) (s : Sprite) (second : Option Key) :
    Effect → Except Fault (Option (List Edit × Random))
  | .killAll type => do
    let live ← liveIn w type
    .ok (Effect.certain w (live.map fun (k, _) => .kill k))
  | .changeResource resource value killResource => do
    let limit ← resourceLimit w resource
    .ok (Effect.certain w
      (.change key [.gain resource value limit] :: Effect.killOther killResource second))
  | .flipDirection => do
    let (h, rng) ← pick Heading.all w.rng
    .ok (some ([.change key [.face h.toVec]], rng))
  | .speedToAll type value change => do
    let live ← liveIn w type
    .ok (Effect.certain w (live.map fun (k, o) => .change k [.setSpeed (change.apply o.speed value)]))
  | e => .ok (e.alone w key s second)

/-- What an effect does that needs both sides. -/
def between (w : World) (key : Key) (s : Sprite) (otherKey : Key) (other : Sprite) :
    Effect → Except Fault (Option (List Edit × Random))
  | .teleportToExit => do
    let t ← template w otherKey.type
    match t.target with
    | none => .ok none
    | some type => do
      let exits ← liveIn w type
      if exits.isEmpty then .ok none
      else do
        let (exit, rng) ← pick (exits.map (·.2.rect)) w.rng
        let place := Effect.centered s.rect exit.center
        .ok (some ([.change key [.place place.x place.y, .settle]], rng))
  | .collectResource killResource => do
    let t ← template w key.type
    .ok (Effect.provided w
      (t.role = .resource && other.resource key.type + t.resourceValue ≤ t.resourceLimit)
      (.change otherKey [.gain key.type t.resourceValue t.resourceLimit]
        :: if killResource then [.kill key] else []))
  | .bounceForward => do
    let dir := other.displacement.snap
    let t ← template w key.type
    .ok (Effect.provided w (!dir.isZero)
      [.change key [.drive t.physics dir (some (Single.max other.speed 1)) 0 w.blockSize]])
  | e => .ok (e.between w key s otherKey other)

def edits? (e : Effect) (w : World) (first second : Option Key) :
    Except Fault (Option (List Edit × Random)) :=
  match first with
  | none => .ok none
  | some key => do
    let s ← sprite w key
    if e.needsSecond then
      match second with
      | none => .ok none
      | some otherKey => do
        let other ← sprite w otherKey
        between w key s otherKey other e
    else alone w key s second e

def apply (e : Effect) (w : World) (first second : Option Key) : Except Fault (Bool × World) := do
  match ← edits? e w first second with
  | none => .ok (false, w)
  | some (es, rng) => do
    let w ← edits { w with rng } es
    .ok (true, w)

/-! ## Rules -/

def applyRule (w : World) (c : Collision) (r : Interaction) : Except Fault World :=
  let (happens, rng) := w.rng.chance r.prob
  let w := { w with rng }
  if happens then do
    let (done, w) ← apply r.effect w (some c.first) c.second
    .ok (if done then { w with pendingScore := w.pendingScore + r.score } else w)
  else .ok w

def fireRule (c : Collision) (w : World) (i : Nat) : Except Fault World :=
  if c.holds w then do
    let r ← get w.rules.interactions i
    applyRule w c r
  else .ok w

def fire (w : World) (c : Collision) : Except Fault World := do
  let p ← get w.rules.dispatch c.pairing
  p.rules.foldlM (fireRule c) w

def resolved (w : World) (action : Action) : Except Fault World := do
  let w ← moved w action
  w.detect.foldlM fire w

/-! ## The end of a tick -/

def instantiate (w : World) (r : SpawnRequest) : Except Fault World := do
  let t ← template w r.type
  if w.admits t r.type then do
    let _ ← get w.groups r.type
    .ok (w.create r.type (r.make w.nextId w.blockSize t))
  else .ok w

def commit (w : World) : Except Fault World := w.spawns.foldlM instantiate w.settle

def isSatisfied (w : World) (t : Termination) : Except Fault Bool :=
  match t.condition with
  | .spriteCounter type => do
    let n ← countLive w type
    .ok ((n : Int) ≤ t.limit)
  | .multiSpriteCounter types => do
    let n ← types.foldlM (fun n type => do
      let more ← countLive w type
      .ok (n + more)) 0
    .ok ((n : Int) = t.limit)
  | .timeout => .ok (t.limit ≤ w.tick)

def decisive? (w : World) : List Termination → Except Fault (Option Termination)
  | [] => .ok none
  | t :: ts => do
    if ← isSatisfied w t then .ok (some t) else decisive? w ts

def judge (w : World) : Except Fault World := do
  match ← decisive? w w.rules.terminations with
  | some t => .ok { w with outcome := t.outcome, score := w.score + t.score }
  | none => .ok (if w.rules.maxTicks.any (· ≤ w.tick) then { w with outcome := .noWinner } else w)

def step (w : World) (action : Action) : Except Fault World := do
  let w ← resolved w action
  let w ← commit w
  judge w

/-- Advance by one tick. A fault is no refusal: that an episode is over is an answer. -/
def advance (w : World) (action : Action) : Except Fault (Except GameOver World) :=
  if w.outcome.isOver then .ok (.error ⟨w.outcome⟩)
  else do
    let w ← step w action
    .ok (.ok w)

end Strict

end SpriteGame
