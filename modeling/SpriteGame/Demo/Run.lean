import SpriteGame.Analysis
import SpriteGame.Demo.Dungeon
import SpriteGame.Demo.Rollout
import SpriteGame.Validation
/-!
# The demo

The demo reads settings, a game and a level, and lets the rollout agent play. The
settings are read first, then the game, then the level; the first fault ends it.
-/
namespace SpriteGame.Demo

/-! ## Arguments -/

def defaultSettings : String := "vgdl-settings.json"

/-- The command line, read. -/
structure Arguments where
  settings : String
  /-- The files of the game and of the level. -/
  source : Option (String × String)
  deriving DecidableEq

/-- Read a command line; `settings` and `files` are what has been read so far. -/
def Arguments.read? (settings : Option String) (files : List String) :
    List String → Option Arguments
  | [] =>
    match files with
    | [] => some ⟨settings.getD defaultSettings, none⟩
    | [game, level] => some ⟨settings.getD defaultSettings, some (game, level)⟩
    | _ => none
  | option :: rest =>
    if option = "-s" ∨ option = "--settings" then
      match settings, rest with
      | none, file :: rest => read? (some file) files rest
      | _, _ => none
    else if option.toList.head? = some '-' then none
    else read? settings (files ++ [option]) rest

/-! ## Failures -/

inductive FileContent where
  | missing
  | unreadable
  | text (content : String)
  deriving DecidableEq

/-- Why the demo cannot play. -/
inductive Failure where
  | settings (path : String)
  | file (path : String)
  | description (problems : List Problem)
  | game (problems : List Problem)
  deriving DecidableEq

def listing (problems : List Problem) : String :=
  String.join (problems.map fun p => "\n  " ++ p.message)

def Failure.message : Failure → String
  | settings path => s!"loading {path}"
  | file path => s!"reading {path}"
  | description problems =>
    s!"game description has {problems.length} error(s):{listing problems}"
  | game problems => s!"game cannot be built, {problems.length} error(s):{listing problems}"

/-! ## Playing -/

/-- What the demo tells of a run. -/
structure Report where
  /-- A line for each avatar class. -/
  avatars : List String
  result : String
  deriving DecidableEq

/-- The settings of a file; a missing one stands for the defaults. -/
def loadSettings (path : String) : FileContent → Except Failure Settings
  | .missing => .ok .default
  | .unreadable => .error (.settings path)
  | .text content =>
    match Settings.read? content.toList with
    | some s => .ok s
    | none => .error (.settings path)

def loadText (path : String) : FileContent → Except Failure String
  | .text content => .ok content
  | .missing | .unreadable => .error (.file path)

/-- The texts of the game and of the level, by default those of the dungeon. -/
def loadSource (source : Option ((String × FileContent) × String × FileContent)) :
    Except Failure (String × String) :=
  match source with
  | none => .ok (dungeonGame, dungeonLevel)
  | some ((gamePath, game), levelPath, level) => do
    let game ← loadText gamePath game
    let level ← loadText levelPath level
    pure (game, level)

def avatarLines (r : Ruleset) : List String :=
  let actions := ", ".intercalate ((r.actions false).map (·.name))
  (r.spritesByRole .avatar).map fun s =>
    s!"avatar `{s.name}` ({s.cls.keyword}) acts with [{actions}]"

/-- The seed of the agent, which is not that of the game. -/
def agentSeed (settings : Settings) : UInt64 := settings.seed ^^^ 0x5eed

/-- The number of steps without a limit in the settings. -/
def defaultSteps : Nat := 2000

def resultLine (w : World) : String :=
  s!"{w.outcome.name} after {w.tick} ticks with score {w.score}"

def playGame (settings : Settings) (game level : String) : Except Failure Report :=
  let read := Description.read game.toList
  if !read.problems.isEmpty then .error (.description read.problems)
  else
    match read.value.build level settings.seed settings with
    | .error problems => .error (.game problems)
    | .ok w =>
      let steps := (settings.maxTicks.map (·.toNat)).getD defaultSteps
      let run := play agent steps w (.ofSeed (agentSeed settings))
      .ok ⟨avatarLines w.rules, resultLine run.world⟩

def run (settingsPath : String) (settings : FileContent)
    (source : Option ((String × FileContent) × String × FileContent)) : Except Failure Report := do
  let settings ← loadSettings settingsPath settings
  let (game, level) ← loadSource source
  playGame settings game level

end SpriteGame.Demo
