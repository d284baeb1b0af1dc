import SpriteGame.Problem
import SpriteGame.Game.Description
/-!
# Sprite types

Every sprite name has a type: a number, given in the order in which names are
registered. The registry keeps the lineage of every type and, to match rules for a
type against all that inherit from it, the types that descend from it.
-/
namespace SpriteGame

/-- The number of a sprite type. -/
abbrev TypeId := Nat

/-- What is known of one type. -/
structure TypeEntry where
  name : String
  /-- The types it inherits from, the nearest first. -/
  ancestors : List TypeId
  /-- The type itself and all that inherit from it, ascending. -/
  descendants : List TypeId
  deriving DecidableEq

structure Registry where
  entries : Array TypeEntry
  deriving DecidableEq

namespace Registry

/-- The type of the screen edge, registered first. -/
def edge : TypeId := 0

/-- The registry that holds the screen edge only. -/
def new : Registry := ⟨#[⟨edgeName, [], [edge]⟩]⟩

instance : Inhabited Registry := ⟨new⟩

/-! ## Look-ups -/

def size (r : Registry) : Nat := r.entries.size

def isEmpty (r : Registry) : Bool := r.entries.isEmpty

def resolve? (r : Registry) (name : String) : Option TypeId :=
  r.entries.findIdx? fun e => e.name = name

/-- The type of a name; an unknown one is a problem of the place that names it. -/
def resolve (r : Registry) (name : String) (place : Place) : Except Problem TypeId :=
  match r.resolve? name with
  | some id => .ok id
  | none => .error (.unknownSprite name place)

def name (r : Registry) (id : TypeId) : String :=
  match r.entries[id]? with
  | some e => e.name
  | none => ""

/-- The types that a type inherits from, the nearest first. -/
def ancestors (r : Registry) (id : TypeId) : List TypeId :=
  match r.entries[id]? with
  | some e => e.ancestors
  | none => []

/-- The type that a type inherits from directly. -/
def parent? (r : Registry) (id : TypeId) : Option TypeId := (r.ancestors id).head?

/-- A type and all that inherit from it, ascending. -/
def descendants (r : Registry) (id : TypeId) : List TypeId :=
  match r.entries[id]? with
  | some e => e.descendants
  | none => []

/-- Whether `id` is `ancestor` or inherits from it. -/
def isA (r : Registry) (id ancestor : TypeId) : Bool := (r.descendants ancestor).contains id

/-! ## Registration -/

/-- Count a new type among the descendants of an entry. -/
def TypeEntry.adopt (id : TypeId) (e : TypeEntry) : TypeEntry :=
  { e with descendants := e.descendants ++ [id] }

/-- The ancestors of a type that is registered under `parent`. -/
def lineage (r : Registry) : Option TypeId → List TypeId
  | none => []
  | some p => p :: r.ancestors p

/-- The type of a name, registered under `parent` unless the name is known. -/
def register (r : Registry) (name : String) (parent : Option TypeId) : TypeId × Registry :=
  match r.resolve? name with
  | some id => (id, r)
  | none =>
    let id := r.size
    let lineage := r.lineage parent
    let entries := lineage.foldl (fun es a => es.modify a (TypeEntry.adopt id)) r.entries
    (id, ⟨entries.push ⟨name, lineage, [id]⟩⟩)

end Registry

end SpriteGame
