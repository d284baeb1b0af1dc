import SpriteGame.Registry
import SpriteGame.Geometry
import SpriteGame.Number.Numeral
import SpriteGame.Text.Blank
/-!
# Typed parameters

A parameter is read as a number, a flag, a direction or the name of a sprite. A
missing one takes a default; so does a malformed one, which is reported. A value can
list one entry per player, separated by commas: the first is read.

`decorate` replaces the entries that name a placeholder by its value.
-/
namespace SpriteGame.Params

open Text

/-! ## Placeholders -/

/-- An entry, or the value of the placeholder that it names. -/
def substitute (placeholders : Params) (entry : List Char) : List Char :=
  match placeholders.get? (String.ofList entry) with
  | some value => value.toList
  | none => entry

/-- A value with every entry substituted. -/
def decorateValue (placeholders : Params) (value : String) : String :=
  String.ofList (joinWith ',' ((splitAll ',' value.toList).map (substitute placeholders)))

def decorate (params placeholders : Params) : Params :=
  params.mapValues fun _ value => decorateValue placeholders value

/-! ## Single values -/

def firstEntry (value : String) : List Char := value.toList.takeWhile (· ≠ ',')

def raw? (params : Params) (key : String) : Option (List Char) :=
  (params.get? key).map firstEntry

def parsed {α : Type} (params : Params) (place : Place) (read : List Char → Option α)
    (key : String) (default : α) : Checked α :=
  match params.raw? key with
  | none => pure default
  | some entry =>
    match read entry with
    | some a => pure a
    | none => ⟨default, [.malformedParameter key (String.ofList entry) place], []⟩

/-- Read a signed number of 32 bits. -/
def int (params : Params) (place : Place) (key : String) (default : Int) : Checked Int :=
  params.parsed place (Numeral.signed? Numeral.intMax) key default

/-- Read a signed number of 64 bits. -/
def long (params : Params) (place : Place) (key : String) (default : Int) : Checked Int :=
  params.parsed place (Numeral.signed? Numeral.longMax) key default

/-- Read an unsigned number of 32 bits. -/
def count (params : Params) (place : Place) (key : String) (default : Nat) : Checked Nat :=
  params.parsed place (Numeral.unsigned? Numeral.wordMax) key default

def single (params : Params) (place : Place) (key : String) (default : Float32) :
    Checked Float32 :=
  params.parsed place (fun s => (Numeral.Decimal.read? s).map (·.toSingle)) key default

def double (params : Params) (place : Place) (key : String) (default : Float) : Checked Float :=
  params.parsed place (fun s => (Numeral.Decimal.read? s).map (·.toDouble)) key default

def direction (params : Params) (place : Place) (key : String) (default : Vec) : Checked Vec :=
  params.parsed place Vec.ofKeyword? key default

/-- The flag that a text in lower case is. -/
def flag? (s : List Char) : Option Bool :=
  if s = "true".toList then some true
  else if s = "false".toList then some false
  else none

/-- Read a flag in any case; a malformed one is reported in lower case. -/
def flag (params : Params) (place : Place) (key : String) (default : Bool) : Checked Bool :=
  match params.raw? key with
  | none => pure default
  | some entry =>
    let entry := lower entry
    match flag? entry with
    | some b => pure b
    | none => ⟨default, [.malformedParameter key (String.ofList entry) place], []⟩

/-- A probability brought into `[0, 1]`; NaN stays. -/
def clampProb (p : Float) : Float := if p < 0 then 0 else if 1 < p then 1 else p

/-- Read a probability, by default 1. -/
def prob (params : Params) (place : Place) : Checked Float := do
  pure (clampProb (← params.double place "prob" 1))

/-! ## Sprite names -/

def sprite? (params : Params) (place : Place) (registry : Registry) (key : String) :
    Checked (Option TypeId) :=
  match params.raw? key with
  | none => pure none
  | some entry => .ofExcept (registry.resolve (String.ofList entry) place)

/-- Read the name of a sprite that has to be there. -/
def requiredSprite? (params : Params) (place : Place) (registry : Registry) (key : String) :
    Checked (Option TypeId) :=
  match params.raw? key with
  | none => ⟨none, [.missingParameter key place], []⟩
  | some entry => .ofExcept (registry.resolve (String.ofList entry) place)

/-- Read every entry as the name of a sprite; blank ones are skipped. -/
def spriteList (params : Params) (place : Place) (registry : Registry) (key : String) :
    Checked (List TypeId) :=
  match params.get? key with
  | none => pure []
  | some value =>
    let names := ((splitAll ',' value.toList).map trim).filter fun n => !n.isEmpty
    .keepEach (fun n => .ofExcept (registry.resolve (String.ofList n) place)) names

end SpriteGame.Params
