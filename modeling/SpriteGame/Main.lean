import SpriteGame.Demo.Run
/-!
# The command line

`[-s FILE] [GAME LEVEL]` plays a game with the rollout agent, by default the bundled
dungeon. A fault in the arguments ends with code 2, any other one with code 1.
-/
namespace SpriteGame.Demo

def readContent (path : String) : IO FileContent := do
  try
    pure (.text (← IO.FS.readFile path))
  catch
    | .noFileOrDirectory .. => pure .missing
    | _ => pure .unreadable

def readSource (source : Option (String × String)) :
    IO (Option ((String × FileContent) × String × FileContent)) := do
  match source with
  | none => pure none
  | some (game, level) =>
    pure (some ((game, ← readContent game), level, ← readContent level))

end SpriteGame.Demo

open SpriteGame.Demo

/-- Run the demo and tell of it. -/
def main (args : List String) : IO UInt32 := do
  let some args := Arguments.read? none [] args
    | IO.eprintln "usage: [-s FILE] [GAME LEVEL]"
      pure 2
  let settings ← readContent args.settings
  match SpriteGame.Demo.run args.settings settings (← readSource args.source) with
  | .error failure =>
    IO.eprintln s!"Error: {failure.message}"
    pure 1
  | .ok report =>
    for line in report.avatars do
      IO.eprintln line
    IO.eprintln report.result
    pure 0
