import SpriteGame.Game.Reader
import SpriteGame.World.Level
/-!
# Building and validation

From a description and a level to a world, with every problem of the rules, or else
of the level, in one answer. Candidate rules and candidate levels can be tried
against a game before they become part of it.
-/
namespace SpriteGame

namespace Description

def build (d : Description) (level : String) (seed : UInt64) (settings : Settings) :
    Except (List Problem) World :=
  let rules := Ruleset.compile d settings
  if rules.problems.isEmpty then World.build rules.value level seed else .error rules.problems

/-! ## Candidate rules -/

/-- Read candidate lines, numbered from 1. -/
def readCandidates {α : Type} (read : Nat → List Char → Except Problem α) (lines : List String) :
    Checked (List α) :=
  .keepEach (fun (line, i) => .ofExcept (read (i + 1) line.toList)) lines.zipIdx

/-- The description with its rules replaced by candidate lines. -/
def withRules (d : Description) (interactions terminations : List String) :
    Checked Description := do
  let interactions ← readCandidates Reader.readInteraction interactions
  let terminations ← readCandidates Reader.readTermination terminations
  pure { d with interactions := interactions.flatten, terminations }

/-- The problems of a game with candidate rules; without any the rules can be used. A level
without a cell shows whether they make a world at all. -/
def checkRules (d : Description) (interactions terminations : List String) : List Problem :=
  let rules : Checked Ruleset := do Ruleset.compile (← d.withRules interactions terminations) .default
  rules.problems ++
    match World.build rules.value "" 0 with
    | .ok _ => []
    | .error problems => problems

end Description

/-! ## Candidate levels -/

/-- Build the world of a candidate level, with a level mapping in place of that of the
game if there is one. -/
def Ruleset.tryLevel (r : Ruleset) (level : String)
    (mapping : Option (SortedMap Char (List String))) (seed : UInt64) :
    Except (List Problem) World :=
  match mapping with
  | none => World.build r level seed
  | some names =>
    let resolved := resolveMapping r.registry names
    if resolved.problems.isEmpty then
      World.build { r with levelMapping := resolved.value } level seed
    else .error resolved.problems

end SpriteGame
