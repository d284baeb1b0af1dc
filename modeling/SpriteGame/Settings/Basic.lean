import SpriteGame.Settings.Json
/-!
# Settings

The engine's settings and their JSON text. Reading is lenient about what is missing,
which takes its default, and about unknown keys, but not about anything else: a
known key twice or a value of another type fails. What is written reads back.
-/
namespace SpriteGame

structure Settings where
  /-- The side of a level cell in pixels. -/
  blockSize : UInt32
  /-- The tick that ends a game with no winner. -/
  maxTicks : Option UInt64
  /-- The seed of an episode that is given none. -/
  seed : UInt64
  deriving DecidableEq

namespace Settings

/-- The block size in place of a missing one or of zero. -/
def defaultBlockSize : UInt32 := 10

/-- The settings in place of missing ones. -/
def default : Settings := ⟨defaultBlockSize, some 2000, 0⟩

instance : Inhabited Settings := ⟨default⟩

/-! ## Reading -/

inductive Key where
  | blockSize
  | maxTicks
  | seed
  deriving DecidableEq

def Key.text : Key → String
  | blockSize => "block_size"
  | maxTicks => "max_ticks"
  | seed => "seed"

/-- The names in the order in which an array gives the settings. -/
def Key.all : List Key := [blockSize, maxTicks, seed]

def Key.ofText? (s : List Char) : Option Key := all.find? fun k => k.text.toList = s

/-- A natural number below `bound`. -/
def natural? (bound : Nat) : Json.Value → Option Nat
  | .number (some n) => if n < bound then some n else none
  | _ => none

def set? (s : Settings) (key : Key) (v : Json.Value) : Option Settings :=
  match key with
  | .blockSize => (natural? UInt32.size v).map fun n => { s with blockSize := UInt32.ofNat n }
  | .maxTicks =>
    match v with
    | .null => some { s with maxTicks := none }
    | v => (natural? UInt64.size v).map fun n => { s with maxTicks := some (UInt64.ofNat n) }
  | .seed => (natural? UInt64.size v).map fun n => { s with seed := UInt64.ofNat n }

/-- Write the members of an object; `seen` are the settings written so far. -/
def setMembers? (s : Settings) (seen : List Key) :
    List (Option (List Char) × Json.Value) → Option Settings
  | [] => some s
  | (none, _) :: _ => none
  | (some name, v) :: rest =>
    match Key.ofText? name with
    | none => setMembers? s seen rest
    | some key =>
      if key ∈ seen then none
      else (set? s key v).bind fun s => setMembers? s (key :: seen) rest

/-- Write the items of an array to the settings in order. -/
def setItems? (s : Settings) : List Key → List Json.Value → Option Settings
  | _, [] => some s
  | [], _ :: _ => none
  | key :: keys, v :: rest => (set? s key v).bind fun s => setItems? s keys rest

/-- The settings with a block size that is not zero. -/
def withBlock (s : Settings) : Settings :=
  if s.blockSize = 0 then { s with blockSize := defaultBlockSize } else s

def read? (text : List Char) : Option Settings :=
  match Json.read? text with
  | some (.object members) => (setMembers? default [] members).map withBlock
  | some (.array items) => (setItems? default Key.all items).map withBlock
  | _ => none

/-- The settings of a file, which may be missing. -/
def load? (file : Option (List Char)) : Option Settings :=
  match file with
  | none => some default
  | some text => read? text

/-! ## Writing -/

/-- The text of the settings: one member a line, indented by two blanks. -/
def render (s : Settings) : List Char :=
  let number (n : Nat) : List Char := (toString n).toList
  let ticks := match s.maxTicks with
    | none => "null".toList
    | some n => number n.toNat
  "\x7b\n  \"block_size\": ".toList ++ number s.blockSize.toNat
    ++ ",\n  \"max_ticks\": ".toList ++ ticks
    ++ ",\n  \"seed\": ".toList ++ number s.seed.toNat
    ++ "\n\x7d".toList

end Settings

end SpriteGame
