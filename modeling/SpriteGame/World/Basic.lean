import SpriteGame.Random
import SpriteGame.Ruleset
import SpriteGame.Sprite.Instance
/-!
# Worlds

A world is one live episode: the rules, the sprites in a group for each type, and
the counters. The groups are seen through `World.group`, a list for each type. In the
course of a tick groups do not change in length or order, so a key keeps finding the
same sprite; what is to be created or dropped waits for the end of the tick.
-/
namespace SpriteGame

/-- A sprite that is to be created at the end of the tick. -/
structure SpawnRequest where
  type : TypeId
  /-- The centre of its rectangle. -/
  center : Vec
  /-- The direction to face, if not that of the type. -/
  facing : Option Vec
  /-- The resources to hold, if taken over from another sprite. -/
  resources : Option (SortedMap TypeId Int)
  /-- The health to have, if taken over from another sprite. -/
  health : Option Int
  deriving DecidableEq

namespace SpawnRequest

/-- A request for a sprite like its template. -/
def plain (type : TypeId) (center : Vec) : SpawnRequest := ⟨type, center, none, none, none⟩

/-- A request for a sprite that faces a direction; zero leaves that of the type. -/
def facingTo (type : TypeId) (center dir : Vec) : SpawnRequest :=
  { plain type center with facing := if dir.isZero then none else some dir }

end SpawnRequest

/-- A live episode. -/
structure World where
  rules : Ruleset
  /-- The sprites of each type, in the order in which they came into being. -/
  groups : Array (Array Sprite)
  rng : Random
  /-- The seed that the generator started from. -/
  seed : UInt64
  score : Int
  /-- What the current tick adds to the score at its end. -/
  pendingScore : Int
  tick : Nat
  outcome : Outcome
  /-- The sprites to create at the end of the tick, in order. -/
  spawns : List SpawnRequest
  /-- The screen in pixels. -/
  bounds : Rect
  /-- The id of the next sprite. -/
  nextId : Nat
  /-- The actions that the avatar reacts to, fixed at the start. -/
  avatarActions : List Action

namespace World

/-! ## Looking sprites up -/

def blockSize (w : World) : Float32 := w.rules.blockSize

/-- The sprites of exactly a type, removed ones included. -/
def group (w : World) (type : TypeId) : List Sprite := (w.groups[type]?.getD #[]).toList

def sprite? (w : World) (key : Key) : Option Sprite :=
  (w.groups[key.type]?.getD #[])[key.index]?

theorem sprite?_eq (w : World) (key : Key) : w.sprite? key = (w.group key.type)[key.index]? :=
  Array.getElem?_toList.symm

/-- Worlds whose groups agree one by one have the same groups. -/
theorem groups_eq {v w : World} (hsize : v.groups.size = w.groups.size)
    (h : ∀ type, v.group type = w.group type) : v.groups = w.groups := by
  refine Array.ext hsize fun i hv hw => ?_
  have hi := h i
  simp only [group, Array.getElem?_eq_getElem hv, Array.getElem?_eq_getElem hw,
    Option.getD_some] at hi
  exact Array.toList_inj.1 hi

/-- Whether a key finds a sprite that has not been removed. -/
def isAlive (w : World) (key : Key) : Bool := (w.sprite? key).any (·.alive)

/-- The live sprites of exactly a type. -/
def liveOf (w : World) (type : TypeId) : List (Key × Sprite) :=
  ((w.group type).zipIdx.filter (·.1.alive)).map fun (s, i) => (⟨type, i⟩, s)

/-- The live sprites of a type and of all that inherit from it. -/
def liveIn (w : World) (type : TypeId) : List (Key × Sprite) :=
  (w.rules.registry.descendants type).flatMap w.liveOf

/-- The number of live sprites of a type and of all that inherit from it. -/
def countLive (w : World) (type : TypeId) : Nat := (w.liveIn type).length

def live (w : World) : List (Key × Sprite) := (List.range w.groups.size).flatMap w.liveOf

def liveWithRole (w : World) (role : Role) : List (Key × Sprite) :=
  w.live.filter fun (k, _) => w.rules.hasRole k.type role

def avatar? (w : World) : Option Sprite := (w.liveWithRole .avatar).head?.map (·.2)

/-- The actions to choose from, idling first if that is included. -/
def availableActions (w : World) (includeIdle : Bool) : List Action :=
  (if includeIdle then [.idle] else []) ++ w.avatarActions

/-! ## Changing sprites -/

def modify (w : World) (key : Key) (f : Sprite → Sprite) : World :=
  { w with groups := w.groups.modify key.type fun g => g.modify key.index f }

theorem groups_size_modify (w : World) (key : Key) (f : Sprite → Sprite) :
    (w.modify key f).groups.size = w.groups.size :=
  Array.size_modify

theorem group_modify (w : World) (key : Key) (f : Sprite → Sprite) (type : TypeId) :
    (w.modify key f).group type =
      if key.type = type then (w.group type).modify key.index f else w.group type := by
  unfold group modify
  dsimp only
  rw [Array.getElem?_modify]
  split
  · cases w.groups[type]? <;> simp
  · cases w.groups[type]? <;> simp

/-- A change of one sprite changes no other one. -/
theorem sprite?_modify (w : World) (key other : Key) (f : Sprite → Sprite) :
    (w.modify key f).sprite? other =
      if key = other then (w.sprite? other).map f else w.sprite? other := by
  obtain ⟨type, index⟩ := key
  obtain ⟨type', index'⟩ := other
  simp only [sprite?_eq, group_modify, Key.mk.injEq]
  by_cases ht : type = type'
  · simp only [ht, if_true, true_and, List.getElem?_modify]
    split <;> simp
  · simp [ht]

/-- It matters only what becomes of the sprite that the key finds. -/
theorem modify_congr {w : World} {key : Key} {f g : Sprite → Sprite}
    (h : ∀ s, w.sprite? key = some s → f s = g s) : w.modify key f = w.modify key g := by
  have hgroups : (w.modify key f).groups = (w.modify key g).groups := by
    refine groups_eq ((groups_size_modify ..).trans (groups_size_modify ..).symm) fun type => ?_
    rw [group_modify, group_modify]
    split
    · next htype =>
      refine List.ext_getElem? fun i => ?_
      rw [List.getElem?_modify, List.getElem?_modify]
      split
      · next hi =>
        rw [← htype, ← hi, ← sprite?_eq]
        exact Option.map_congr h
      · rfl
    · rfl
  exact congrArg (fun groups => ({ w with groups } : World)) hgroups

/-- Two changes of one sprite are one. -/
theorem modify_modify (w : World) (key : Key) (f g : Sprite → Sprite) :
    (w.modify key f).modify key g = w.modify key (g ∘ f) := by
  have hgroups : ((w.modify key f).modify key g).groups = (w.modify key (g ∘ f)).groups := by
    refine groups_eq (by simp only [groups_size_modify]) fun type => ?_
    simp only [group_modify]
    split
    · rw [List.modify_modify_eq]
    · rfl
  exact congrArg (fun groups => ({ w with groups } : World)) hgroups

def kill (w : World) (key : Key) : World := w.modify key Sprite.remove

def request (w : World) (r : SpawnRequest) : World := { w with spawns := w.spawns ++ [r] }

end World

/-- A step of what a tick does to the world. -/
inductive Edit where
  | kill (key : Key)
  | change (key : Key) (changes : List Sprite.Change)
  | spawn (request : SpawnRequest)
  deriving DecidableEq

namespace World

def edit (w : World) : Edit → World
  | .kill key => w.kill key
  | .change key cs => w.modify key (·.changes cs)
  | .spawn r => w.request r

@[simp] theorem edit_change_nil (w : World) (key : Key) : w.edit (.change key []) = w := by
  have hgroups : (w.modify key (·.changes [])).groups = w.groups := by
    refine groups_eq (groups_size_modify ..) fun type => ?_
    rw [group_modify]
    split
    · exact List.modify_id ..
    · rfl
  exact congrArg (fun groups => ({ w with groups } : World)) hgroups

def edits (w : World) (es : List Edit) : World := es.foldl edit w

@[simp] theorem edits_nil (w : World) : w.edits [] = w := rfl

@[simp] theorem edits_cons (w : World) (e : Edit) (es : List Edit) :
    w.edits (e :: es) = (w.edit e).edits es := rfl

theorem edits_append (w : World) (es fs : List Edit) :
    w.edits (es ++ fs) = (w.edits es).edits fs := List.foldl_append

end World

end SpriteGame
