import SpriteGame.Sprite.Template
/-!
# Sprites

A sprite is a placed instance of a template, with all of the state that changes in
the course of an episode. Sprites never refer to each other: whatever does refer to
one does so by its key, its type and its position in the group of that type.
-/
namespace SpriteGame

/-- Where a sprite is found in the world; good until the end of a tick. -/
structure Key where
  type : TypeId
  index : Nat
  deriving DecidableEq, Repr

/-- An instance of a template. -/
structure Sprite where
  id : Nat
  type : TypeId
  rect : Rect
  /-- The rectangle at the start of the tick. -/
  lastRect : Rect
  facing : Vec
  speed : Float32
  /-- Blocks per tick, under continuous physics. -/
  velocity : Vec
  oriented : Bool
  drifts : Bool
  resources : SortedMap TypeId Int
  health : Int
  maxHealth : Int
  /-- Removed sprites stay in their group until the end of the tick. -/
  alive : Bool
  /-- The ticks since the last move. -/
  sinceMove : Nat
  /-- The ticks since it came into being. -/
  age : Nat
  /-- The moves to repeat, or the spawns so far. -/
  counter : Nat
  /-- The direction to repeat. -/
  lastCommand : Vec
  deriving DecidableEq

namespace Sprite

/-- A new instance of a template. -/
def ofTemplate (id : Nat) (t : Template) (rect : Rect) : Sprite where
  id
  type := t.id
  rect
  lastRect := rect
  facing := t.facing
  speed := t.speed
  velocity := if t.cls.drifts && !t.physics.isGrid then t.facing.scale t.speed else .zero
  oriented := t.cls.isOriented
  drifts := t.cls.drifts
  resources := .empty
  health := t.health
  maxHealth := t.maxHealth
  alive := true
  sinceMove := 0
  age := 0
  counter := 0
  lastCommand := .zero

/-- Turn to a direction and carry the velocity over to it; a drifting sprite at rest
sets off at its own speed. -/
def face (dir : Vec) (s : Sprite) : Sprite :=
  let magnitude := s.velocity.length
  { s with
    facing := dir
    velocity :=
      if 0 < magnitude then dir.scale magnitude
      else if s.drifts then dir.scale s.speed
      else .zero }

/-- Mark as removed. -/
def remove (s : Sprite) : Sprite := { s with alive := false }

/-- The amount held of a resource. -/
def resource (s : Sprite) (r : TypeId) : Int := (s.resources.get? r).getD 0

/-- Add to the amount held of a resource, within zero and the limit. -/
def gain (r : TypeId) (delta limit : Int) (s : Sprite) : Sprite :=
  { s with resources := s.resources.insert r (max 0 (min (max limit 0) (s.resource r + delta))) }

/-- The movement in this tick so far. -/
def displacement (s : Sprite) : Vec := s.rect.topLeft - s.lastRect.topLeft

/-- Go back to where the tick started. -/
def stepBack (s : Sprite) : Sprite := { s with rect := s.lastRect }

/-- The largest value of a counter of ticks. -/
def maxTicks : Nat := UInt32.size - 1

def startTick (s : Sprite) : Sprite :=
  { s with
    lastRect := s.rect
    sinceMove := min maxTicks (s.sinceMove + 1)
    age := min maxTicks (s.age + 1) }

/-! ## Movement -/

/-- Move by `pixels` in a direction if the cooldown has passed and there is a way to
go; says whether it moved. -/
def step (dir : Vec) (pixels : Float32) (cooldown : Nat) (s : Sprite) : Bool × Sprite :=
  if s.sinceMove < cooldown || dir.isZero || pixels == 0 then (false, s)
  else (true, { s with rect := s.rect.translate (dir.scale pixels), sinceMove := 0 })

/-- Take a velocity; the sprite faces where it goes, unless it rests. -/
def setVelocity (v : Vec) (s : Sprite) : Sprite :=
  { s with velocity := v, facing := v.unit?.getD s.facing }

/-- The velocity, cut to the speed limit. -/
def limitSpeed (maxSpeed : Option Float32) (v : Vec) : Vec :=
  match maxSpeed with
  | none => v
  | some cap => v.shorten cap

/-- Whether it can move without a command: on the grid only if it is oriented. -/
def canCoast (s : Sprite) (p : Physics) : Bool := !p.isGrid || s.oriented

/-- The movement of a tick without a command; says whether it moved. Under continuous
physics the velocity first moves the sprite and is then brought up to date. -/
def coast (p : Physics) (cooldown : Nat) (block : Float32) (s : Sprite) : Bool × Sprite :=
  match p with
  | .grid =>
    if s.oriented && s.speed != 0 then s.step s.facing (s.speed * block) cooldown
    else (false, s)
  | .continuous d =>
    if s.sinceMove < cooldown then (false, s)
    else
      let v := s.velocity
      let (moved, s) := s.step (v.unit?.getD .zero) (v.length * block) cooldown
      let next := (Vec.mk v.x (v.y + d.gravity)).scale (1 - d.friction)
      (moved, s.setVelocity (limitSpeed d.maxSpeed next))

/-- The movement commanded in a direction, at a speed in place of the sprite's own if
there is one and it is not zero; says whether it moved or accelerated. -/
def drive (p : Physics) (dir : Vec) (speed : Option Float32) (cooldown : Nat) (block : Float32)
    (s : Sprite) : Bool × Sprite :=
  let speed := (speed.filter (· != 0)).getD s.speed
  if dir.isZero || speed == 0 then (false, s)
  else
    match p with
    | .grid => s.step dir (speed * block) cooldown
    | .continuous d =>
      let v := s.velocity + dir.scale (speed / Single.max d.mass Single.epsilon)
      (true, s.setVelocity (limitSpeed d.maxSpeed v))

/-! ## Changes -/

/-- A change to one sprite in the course of a tick. -/
inductive Change where
  | stepBack
  | face (dir : Vec)
  | gain (resource : TypeId) (delta limit : Int)
  | coast (physics : Physics) (cooldown : Nat) (block : Float32)
  | drive (physics : Physics) (dir : Vec) (speed : Option Float32) (cooldown : Nat)
      (block : Float32)
  /-- Move away by a vector. -/
  | shift (delta : Vec)
  /-- Put the top left corner somewhere. -/
  | place (x y : Float32)
  /-- Count the place as that of the start of the tick. -/
  | settle
  | setHealth (health : Int)
  | setMaxHealth (maxHealth : Int)
  | setSpeed (speed : Float32)
  | setCounter (counter : Nat)
  | setLastCommand (dir : Vec)
  deriving DecidableEq

def change (s : Sprite) : Change → Sprite
  | .stepBack => s.stepBack
  | .face dir => s.face dir
  | .gain r delta limit => s.gain r delta limit
  | .coast p cooldown block => (s.coast p cooldown block).2
  | .drive p dir speed cooldown block => (s.drive p dir speed cooldown block).2
  | .shift delta => { s with rect := s.rect.translate delta }
  | .place x y => { s with rect := { s.rect with x, y } }
  | .settle => { s with lastRect := s.rect }
  | .setHealth health => { s with health }
  | .setMaxHealth maxHealth => { s with maxHealth }
  | .setSpeed speed => { s with speed }
  | .setCounter counter => { s with counter }
  | .setLastCommand dir => { s with lastCommand := dir }

def changes (s : Sprite) (cs : List Change) : Sprite := cs.foldl change s

@[simp] theorem changes_nil (s : Sprite) : s.changes [] = s := rfl

@[simp] theorem changes_cons (s : Sprite) (c : Change) (cs : List Change) :
    s.changes (c :: cs) = (s.change c).changes cs := rfl

theorem changes_append (s : Sprite) (cs ds : List Change) :
    s.changes (cs ++ ds) = (s.changes cs).changes ds := List.foldl_append

/-! ## What changes leave alone -/

/-- What a sprite is, whatever happens to it: its id, its type, and whether it is
still there. -/
def identity (s : Sprite) : Nat × TypeId × Bool := (s.id, s.type, s.alive)

/-- A step writes the place and its time. -/
theorem step_eq (s : Sprite) (dir : Vec) (pixels : Float32) (cooldown : Nat) :
    ∃ rect sinceMove, (s.step dir pixels cooldown).2 = { s with rect, sinceMove } := by
  unfold step
  split
  · exact ⟨s.rect, s.sinceMove, rfl⟩
  · exact ⟨_, _, rfl⟩

/-- Coasting writes the place and the velocity. -/
theorem coast_eq (s : Sprite) (p : Physics) (cooldown : Nat) (block : Float32) :
    ∃ rect sinceMove facing velocity,
      (s.coast p cooldown block).2 = { s with rect, sinceMove, facing, velocity } := by
  unfold coast
  split
  · split
    · obtain ⟨rect, sinceMove, h⟩ := step_eq s s.facing (s.speed * block) cooldown
      exact ⟨rect, sinceMove, s.facing, s.velocity, h⟩
    · exact ⟨s.rect, s.sinceMove, s.facing, s.velocity, rfl⟩
  · split
    · exact ⟨s.rect, s.sinceMove, s.facing, s.velocity, rfl⟩
    · obtain ⟨rect, sinceMove, h⟩ := step_eq s (s.velocity.unit?.getD .zero) (s.velocity.length * block) cooldown
      dsimp only
      rw [h]
      exact ⟨rect, sinceMove, _, _, rfl⟩

/-- A drive writes the place or the velocity. -/
theorem drive_eq (s : Sprite) (p : Physics) (dir : Vec) (speed : Option Float32) (cooldown : Nat)
    (block : Float32) :
    ∃ rect sinceMove facing velocity,
      (s.drive p dir speed cooldown block).2 = { s with rect, sinceMove, facing, velocity } := by
  unfold drive
  dsimp only
  split
  · exact ⟨s.rect, s.sinceMove, s.facing, s.velocity, rfl⟩
  · split
    · obtain ⟨rect, sinceMove, h⟩ := step_eq s dir ((speed.filter (· != 0)).getD s.speed * block) cooldown
      exact ⟨rect, sinceMove, s.facing, s.velocity, h⟩
    · exact ⟨s.rect, s.sinceMove, _, _, rfl⟩

/-- What movement does not write no movement changes. -/
theorem frame_coast {α : Type} {f : Sprite → α}
    (hf : ∀ s rect sinceMove facing velocity, f { s with rect, sinceMove, facing, velocity } = f s)
    (s : Sprite) (p : Physics) (cooldown : Nat) (block : Float32) :
    f (s.coast p cooldown block).2 = f s := by
  obtain ⟨rect, sinceMove, facing, velocity, h⟩ := coast_eq s p cooldown block
  rw [h, hf]

theorem frame_drive {α : Type} {f : Sprite → α}
    (hf : ∀ s rect sinceMove facing velocity, f { s with rect, sinceMove, facing, velocity } = f s)
    (s : Sprite) (p : Physics) (dir : Vec) (speed : Option Float32) (cooldown : Nat) (block : Float32) :
    f (s.drive p dir speed cooldown block).2 = f s := by
  obtain ⟨rect, sinceMove, facing, velocity, h⟩ := drive_eq s p dir speed cooldown block
  rw [h, hf]

theorem frame_changes {α : Type} {f : Sprite → α} {cs : List Change} (h : ∀ c ∈ cs, ∀ s, f (s.change c) = f s)
    (s : Sprite) : f (s.changes cs) = f s := by
  induction cs generalizing s with
  | nil => rfl
  | cons c cs ih =>
    obtain ⟨hc, hcs⟩ := List.forall_mem_cons.1 h
    rw [changes_cons, ih hcs, hc]

theorem identity_change (s : Sprite) (c : Change) : (s.change c).identity = s.identity := by
  cases c with
  | coast => exact frame_coast (fun _ _ _ _ _ => rfl) ..
  | drive => exact frame_drive (fun _ _ _ _ _ => rfl) ..
  | _ => rfl

/-- No change takes a sprite away, brings it back, or makes it another one. -/
theorem identity_changes (s : Sprite) (cs : List Change) :
    (s.changes cs).identity = s.identity :=
  frame_changes (fun c _ s => identity_change s c) s

/-- A sprite that cannot coast stays as it is. -/
theorem coast_of_canCoast_eq_false {s : Sprite} {p : Physics} (h : s.canCoast p = false)
    (cooldown : Nat) (block : Float32) : (s.coast p cooldown block).2 = s := by
  cases p with
  | grid => simp_all [canCoast, coast, Physics.isGrid]
  | continuous d => simp [canCoast, Physics.isGrid] at h

end Sprite

end SpriteGame
