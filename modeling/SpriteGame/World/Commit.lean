import SpriteGame.World.Basic
/-!
# The end of a tick

At the end of a tick the removed sprites are dropped, the requested ones are created
in the order of the requests, and the score of the tick is banked. Of a singleton
type no second live sprite is created.
-/
namespace SpriteGame

/-- The sprite that a request makes. -/
def SpawnRequest.make (r : SpawnRequest) (id : Nat) (block : Float32) (t : Template) : Sprite :=
  let s := Sprite.ofTemplate id t (.around r.center (block * t.footprint))
  let s := match r.facing with
    | some dir => s.face dir
    | none => s
  { s with
    resources := r.resources.getD s.resources
    health := r.health.getD s.health }

namespace World

/-- Whether a type can have one more sprite. -/
def admits (w : World) (t : Template) (type : TypeId) : Bool :=
  !(t.singleton && (w.group type).any (·.alive))

/-- Add a sprite to the group of a type; the next one gets another id. -/
def create (w : World) (type : TypeId) (s : Sprite) : World :=
  { w with
    groups := w.groups.modify type (·.push s)
    nextId := w.nextId + 1 }

theorem size_create (w : World) (type : TypeId) (s : Sprite) :
    (w.create type s).groups.size = w.groups.size :=
  Array.size_modify

theorem group_create (w : World) {type : TypeId} (h : type < w.groups.size) (s : Sprite)
    (other : TypeId) :
    (w.create type s).group other =
      if other = type then w.group other ++ [s] else w.group other := by
  unfold group create
  dsimp only
  rw [Array.getElem?_modify]
  by_cases ho : other = type
  · subst ho
    simp [Array.getElem?_eq_getElem h]
  · simp [ho, Ne.symm ho]

def instantiate (w : World) (r : SpawnRequest) : World :=
  match w.rules.template? r.type with
  | none => w
  | some t =>
    if w.admits t r.type then w.create r.type (r.make w.nextId w.blockSize t) else w

/-- A request either makes its sprite or is passed over. -/
theorem instantiate_cases (w : World) (r : SpawnRequest) :
    w.instantiate r = w ∨
      ∃ t, w.rules.template? r.type = some t ∧
        w.instantiate r = w.create r.type (r.make w.nextId w.blockSize t) := by
  unfold instantiate
  cases h : w.rules.template? r.type with
  | none => exact .inl rfl
  | some t =>
    dsimp only
    split
    · exact .inr ⟨t, rfl, rfl⟩
    · exact .inl rfl

/-- Drop what has been removed and bank the score. -/
def settle (w : World) : World :=
  { w with
    groups := w.groups.map (·.filter (·.alive))
    score := w.score + w.pendingScore
    pendingScore := 0
    spawns := [] }

theorem group_settle (w : World) (type : TypeId) :
    w.settle.group type = (w.group type).filter (·.alive) := by
  unfold group settle
  cases h : w.groups[type]? <;> simp [h]

/-- Bring a tick to its end. -/
def commit (w : World) : World := w.spawns.foldl instantiate w.settle

end World

end SpriteGame
