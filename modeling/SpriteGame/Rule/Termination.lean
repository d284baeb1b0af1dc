import SpriteGame.Action
import SpriteGame.Game.Parameter
/-!
# Terminations

The conditions that end an episode: they look at the number of live sprites of each
type and at the tick. A malformed parameter makes the whole condition unusable.
-/
namespace SpriteGame

/-- The kinds of conditions. -/
inductive TerminationKind where
  | spriteCounter
  | multiSpriteCounter
  | timeout
  deriving DecidableEq, Repr

namespace TerminationKind

def all : List TerminationKind := [spriteCounter, multiSpriteCounter, timeout]

def keyword : TerminationKind → String
  | spriteCounter => "SpriteCounter"
  | multiSpriteCounter => "MultiSpriteCounter"
  | timeout => "Timeout"

def ofKeyword? (s : String) : Option TerminationKind := all.find? fun k => k.keyword = s

theorem keyword_of_ofKeyword? {s : String} {k : TerminationKind} (h : ofKeyword? s = some k) : k.keyword = s := by
  simpa using List.find?_some h

/-- What follows `stype` in the name of a parameter. -/
def numbering? (key : String) : Option (List Char) :=
  let start := "stype".toList
  if start.isPrefixOf key.toList then some (key.toList.drop start.length) else none

/-- The parameters that every kind takes. -/
def commonParams : List String := ["limit", "win", "scoreChange"]

def accepts (k : TerminationKind) (key : String) : Bool :=
  commonParams.contains key ||
    match k with
    | spriteCounter => key == "stype"
    | multiSpriteCounter => (numbering? key).isSome
    | timeout => false

end TerminationKind

/-- What has to hold of the number of sprites or ticks, for a limit given with it. -/
inductive Condition where
  /-- At most the limit of a type are left. -/
  | spriteCounter (type : TypeId)
  /-- The numbers of all listed types add up to the limit. -/
  | multiSpriteCounter (types : List TypeId)
  /-- The tick has come to the limit. -/
  | timeout
  deriving DecidableEq

structure Termination where
  condition : Condition
  limit : Int
  /-- Whether the player wins by it. -/
  win : Bool
  /-- Added to the score when it ends the episode. -/
  score : Int
  definition : TerminationDef
  deriving DecidableEq

namespace Termination

def kind (t : Termination) : TerminationKind :=
  match t.condition with
  | .spriteCounter _ => .spriteCounter
  | .multiSpriteCounter _ => .multiSpriteCounter
  | .timeout => .timeout

/-! ## Judging -/

/-- Whether the condition holds for the numbers of live sprites and the tick. -/
def isSatisfied (t : Termination) (count : TypeId → Nat) (tick : Nat) : Bool :=
  match t.condition with
  | .spriteCounter type => (count type : Int) ≤ t.limit
  | .multiSpriteCounter types => (types.foldl (fun n type => n + count type) 0 : Nat) = t.limit
  | .timeout => t.limit ≤ tick

/-- The outcome that it decides. -/
def outcome (t : Termination) : Outcome := if t.win then .playerWins else .playerLoses

/-! ## Reading -/

section

variable (params : Params) (place : Place) (registry : Registry)

/-- Read a parameter that makes the whole unusable if it is malformed. -/
def readStrict {α : Type} (read : List Char → Option α) (key : String) (entry : Option (List Char))
    (default : α) : Checked (Option α) :=
  match entry with
  | none => pure (some default)
  | some entry =>
    match read entry with
    | some a => pure (some a)
    | none => ⟨none, [.malformedParameter key (String.ofList entry) place], []⟩

def readNumber (key : String) : Checked (Option Int) :=
  readStrict place (Numeral.signed? Numeral.longMax) key (params.raw? key) 0

def readFlag (key : String) : Checked (Option Bool) :=
  readStrict place Params.flag? key ((params.raw? key).map Text.lower) false

/-- Resolve names up to the first unknown one. -/
def resolveAll : List String → Checked (Option (List TypeId))
  | [] => pure (some [])
  | name :: names => do
    let some type ← Checked.ofExcept (registry.resolve name place) | pure none
    let some types ← resolveAll names | pure none
    pure (some (type :: types))

/-- The parameters `stype1`, `stype2`, …, by their numbers. -/
def numberedTypes : List String :=
  let numbered := params.keys.filterMap fun key =>
    ((TerminationKind.numbering? key).bind (Numeral.unsigned? Numeral.wordMax)).map (·, key)
  (numbered.mergeSort fun a b => a.1 ≤ b.1).map (·.2)

/-- Read the condition of a kind; without one a problem has been reported. -/
def readCondition : TerminationKind → Checked (Option Condition)
  | .spriteCounter => do
    let some type ← params.requiredSprite? place registry "stype" | pure none
    pure (some (.spriteCounter type))
  | .multiSpriteCounter => do
    let names := (numberedTypes params).filterMap params.raw?
    let some types ← resolveAll place registry (names.map String.ofList) | pure none
    if types.isEmpty then
      Checked.report (.missingParameter "stype1" place)
      pure none
    else pure (some (.multiSpriteCounter types))
  | .timeout => pure (some .timeout)

end

/-- Read a termination; without one a problem has been reported. -/
def read? (registry : Registry) (d : TerminationDef) : Checked (Option Termination) := do
  let place := Place.termination d.kind d.line
  let kind := TerminationKind.ofKeyword? d.kind
  if let some kind := kind then
    Checked.reportAll ((d.params.keys.filter fun k => !kind.accepts k).map fun k =>
      .unknownParameter k place)
  let some limit ← readNumber d.params place "limit" | pure none
  let some score ← readNumber d.params place "scoreChange" | pure none
  let some win ← readFlag d.params place "win" | pure none
  match kind with
  | none =>
    Checked.report (.unknownTermination d.kind)
    pure none
  | some kind =>
    let some condition ← readCondition d.params place registry kind | pure none
    pure (some ⟨condition, limit, win, score, d⟩)

/-- The first satisfied termination. -/
def decisive? (ts : List Termination) (count : TypeId → Nat) (tick : Nat) : Option Termination :=
  ts.find? fun t => t.isSatisfied count tick

end Termination

end SpriteGame
