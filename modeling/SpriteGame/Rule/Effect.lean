import SpriteGame.Game.Parameter
/-!
# Effects

What can happen to a sprite that meets another one, or the edge of the screen, with
all parameters resolved. An effect is written as a keyword with parameters; the same
effect can have several keywords, one for each of its variants.
-/
namespace SpriteGame

/-! ## Keywords -/

inductive EffectKind where
  | killSprite
  | killBoth
  | killAll
  | killIfHasMore
  | killIfHasLess
  | killIfOtherHasMore
  | killIfFromAbove
  | stepBack
  | undoAll
  | spawn
  | spawnBehind
  | spawnIfHasMore
  | cloneSprite
  | transformTo
  | teleportToExit
  | collectResource
  | changeResource
  | addHealthPoints
  | addHealthPointsToMax
  | subtractHealthPoints
  | reverseDirection
  | flipDirection
  | turnAround
  | attractGaze
  | increaseSpeedToAll
  | decreaseSpeedToAll
  | setSpeedForAll
  | wrapAround
  | bounceForward
  | pullWithIt
  deriving DecidableEq, Repr

namespace EffectKind

def all : List EffectKind :=
  [killSprite, killBoth, killAll, killIfHasMore, killIfHasLess, killIfOtherHasMore,
    killIfFromAbove, stepBack, undoAll, spawn, spawnBehind, spawnIfHasMore, cloneSprite,
    transformTo, teleportToExit, collectResource, changeResource, addHealthPoints,
    addHealthPointsToMax, subtractHealthPoints, reverseDirection, flipDirection, turnAround,
    attractGaze, increaseSpeedToAll, decreaseSpeedToAll, setSpeedForAll, wrapAround,
    bounceForward, pullWithIt]

def keyword : EffectKind → String
  | killSprite => "killSprite"
  | killBoth => "killBoth"
  | killAll => "killAll"
  | killIfHasMore => "killIfHasMore"
  | killIfHasLess => "killIfHasLess"
  | killIfOtherHasMore => "killIfOtherHasMore"
  | killIfFromAbove => "killIfFromAbove"
  | stepBack => "stepBack"
  | undoAll => "undoAll"
  | spawn => "spawn"
  | spawnBehind => "spawnBehind"
  | spawnIfHasMore => "spawnIfHasMore"
  | cloneSprite => "cloneSprite"
  | transformTo => "transformTo"
  | teleportToExit => "teleportToExit"
  | collectResource => "collectResource"
  | changeResource => "changeResource"
  | addHealthPoints => "addHealthPoints"
  | addHealthPointsToMax => "addHealthPointsToMax"
  | subtractHealthPoints => "subtractHealthPoints"
  | reverseDirection => "reverseDirection"
  | flipDirection => "flipDirection"
  | turnAround => "turnAround"
  | attractGaze => "attractGaze"
  | increaseSpeedToAll => "increaseSpeedToAll"
  | decreaseSpeedToAll => "decreaseSpeedToAll"
  | setSpeedForAll => "setSpeedForAll"
  | wrapAround => "wrapAround"
  | bounceForward => "bounceForward"
  | pullWithIt => "pullWithIt"

def ofKeyword? (s : String) : Option EffectKind := all.find? fun k => k.keyword = s

theorem ofKeyword?_keyword (k : EffectKind) : ofKeyword? k.keyword = some k := by
  cases k <;> decide

theorem keyword_of_ofKeyword? {s : String} {k : EffectKind} (h : ofKeyword? s = some k) :
    k.keyword = s := by
  simpa using List.find?_some h

/-- The parameters of a keyword of its own. -/
def ownParams : EffectKind → List String
  | killAll | spawn | spawnBehind => ["stype"]
  | killIfHasMore | killIfHasLess | killIfOtherHasMore => ["resource", "limit"]
  | undoAll => ["notStype"]
  | spawnIfHasMore => ["resource", "limit", "stype"]
  | transformTo => ["stype", "killSecond"]
  | collectResource => ["killResource"]
  | changeResource => ["resource", "value", "killResource"]
  | addHealthPoints | addHealthPointsToMax | subtractHealthPoints => ["value"]
  | attractGaze => ["align"]
  | increaseSpeedToAll | decreaseSpeedToAll | setSpeedForAll => ["stype", "value"]
  | killSprite | killBoth | killIfFromAbove | stepBack | cloneSprite | teleportToExit
  | reverseDirection | flipDirection | turnAround | wrapAround | bounceForward | pullWithIt => []

/-- The parameters that belong to the rule and go with every keyword. -/
def commonParams : List String := ["scoreChange", "prob"]

def accepts (k : EffectKind) (key : String) : Bool :=
  k.ownParams.contains key || commonParams.contains key

end EffectKind

/-! ## Effects -/

inductive SpeedChange where
  | increase
  | decrease
  | set
  deriving DecidableEq, Repr

/-- The speed after a change by `value`; never below zero. -/
def SpeedChange.apply (c : SpeedChange) (speed value : Float32) : Float32 :=
  let next := match c with
    | increase => speed + value
    | decrease => speed - value
    | set => value
  Single.max next 0

/-- What happens to the first sprite of a pair that meets, or around it. -/
inductive Effect where
  | killSprite
  | killBoth
  | killAll (type : TypeId)
  | killIfHasMore (resource : TypeId) (limit : Int)
  | killIfHasLess (resource : TypeId) (limit : Int)
  | killIfOtherHasMore (resource : TypeId) (limit : Int)
  | killIfFromAbove
  | stepBack
  | undoAll (except : List TypeId)
  | spawn (type : TypeId)
  | spawnBehind (type : TypeId)
  | spawnIfHasMore (resource : TypeId) (limit : Int) (type : TypeId)
  | cloneSprite
  | transformTo (type : TypeId) (killSecond : Bool)
  | teleportToExit
  | collectResource (killResource : Bool)
  | changeResource (resource : TypeId) (value : Int) (killResource : Bool)
  | addHealthPoints (value : Int)
  | addHealthPointsToMax (value : Int)
  | subtractHealthPoints (value : Int)
  | reverseDirection
  | flipDirection
  | turnAround
  | attractGaze (align : Bool)
  | speedToAll (type : TypeId) (value : Float32) (change : SpeedChange)
  | wrapAround
  | bounceForward
  | pullWithIt
  deriving DecidableEq

namespace Effect

def kind : Effect → EffectKind
  | killSprite => .killSprite
  | killBoth => .killBoth
  | killAll _ => .killAll
  | killIfHasMore .. => .killIfHasMore
  | killIfHasLess .. => .killIfHasLess
  | killIfOtherHasMore .. => .killIfOtherHasMore
  | killIfFromAbove => .killIfFromAbove
  | stepBack => .stepBack
  | undoAll _ => .undoAll
  | spawn _ => .spawn
  | spawnBehind _ => .spawnBehind
  | spawnIfHasMore .. => .spawnIfHasMore
  | cloneSprite => .cloneSprite
  | transformTo .. => .transformTo
  | teleportToExit => .teleportToExit
  | collectResource _ => .collectResource
  | changeResource .. => .changeResource
  | addHealthPoints _ => .addHealthPoints
  | addHealthPointsToMax _ => .addHealthPointsToMax
  | subtractHealthPoints _ => .subtractHealthPoints
  | reverseDirection => .reverseDirection
  | flipDirection => .flipDirection
  | turnAround => .turnAround
  | attractGaze _ => .attractGaze
  | speedToAll _ _ .increase => .increaseSpeedToAll
  | speedToAll _ _ .decrease => .decreaseSpeedToAll
  | speedToAll _ _ .set => .setSpeedForAll
  | wrapAround => .wrapAround
  | bounceForward => .bounceForward
  | pullWithIt => .pullWithIt

/-- Whether nothing happens without a second sprite, that is at the screen edge. -/
def needsSecond : Effect → Bool
  | killIfOtherHasMore .. | killIfFromAbove | spawnBehind _ | teleportToExit
  | collectResource _ | attractGaze _ | bounceForward | pullWithIt => true
  | _ => false

/-- Whether the outcome is counted as random. Turning a gaze is, since it serves only
in rules with a probability. -/
def isStochastic : Effect → Bool
  | flipDirection | teleportToExit | attractGaze _ => true
  | _ => false

/-- The types that an effect concerns besides those of the pair. -/
def referencedTypes : Effect → List TypeId
  | killAll type | spawn type | spawnBehind type | speedToAll type _ _ | transformTo type _ => [type]
  | killIfHasMore resource _ | killIfHasLess resource _ | killIfOtherHasMore resource _
  | changeResource resource _ _ => [resource]
  | spawnIfHasMore resource _ type => [resource, type]
  | undoAll except => except
  | _ => []

/-! ## Reading -/

section

variable (params : Params) (place : Place) (registry : Registry)

def readType (make : TypeId → Effect) : Checked (Option Effect) := do
  let some type ← params.requiredSprite? place registry "stype" | pure none
  pure (some (make type))

def readLimit (make : TypeId → Int → Effect) : Checked (Option Effect) := do
  let some resource ← params.requiredSprite? place registry "resource" | pure none
  let limit ← params.int place "limit" 0
  pure (some (make resource limit))

def readPoints (make : Int → Effect) : Checked (Option Effect) := do
  let value ← params.int place "value" 1
  pure (some (make value))

def readSpeed (change : SpeedChange) : Checked (Option Effect) := do
  let some type ← params.requiredSprite? place registry "stype" | pure none
  let value ← params.single place "value" 0.1
  pure (some (speedToAll type value change))

/-- Read the parameters of a keyword; without an effect a problem has been reported. -/
def readParams : EffectKind → Checked (Option Effect)
  | .killSprite => pure (some killSprite)
  | .killBoth => pure (some killBoth)
  | .killAll => readType params place registry killAll
  | .killIfHasMore => readLimit params place registry killIfHasMore
  | .killIfHasLess => readLimit params place registry killIfHasLess
  | .killIfOtherHasMore => readLimit params place registry killIfOtherHasMore
  | .killIfFromAbove => pure (some killIfFromAbove)
  | .stepBack => pure (some stepBack)
  | .undoAll => do
    let except ← params.spriteList place registry "notStype"
    pure (some (undoAll (except.flatMap registry.descendants)))
  | .spawn => readType params place registry spawn
  | .spawnBehind => readType params place registry spawnBehind
  | .spawnIfHasMore => do
    let some resource ← params.requiredSprite? place registry "resource" | pure none
    let limit ← params.int place "limit" 0
    let some type ← params.requiredSprite? place registry "stype" | pure none
    pure (some (spawnIfHasMore resource limit type))
  | .cloneSprite => pure (some cloneSprite)
  | .transformTo => do
    let some type ← params.requiredSprite? place registry "stype" | pure none
    let killSecond ← params.flag place "killSecond" false
    pure (some (transformTo type killSecond))
  | .teleportToExit => pure (some teleportToExit)
  | .collectResource => do
    let killResource ← params.flag place "killResource" true
    pure (some (collectResource killResource))
  | .changeResource => do
    let some resource ← params.requiredSprite? place registry "resource" | pure none
    let value ← params.int place "value" 1
    let killResource ← params.flag place "killResource" false
    pure (some (changeResource resource value killResource))
  | .addHealthPoints => readPoints params place addHealthPoints
  | .addHealthPointsToMax => readPoints params place addHealthPointsToMax
  | .subtractHealthPoints => readPoints params place subtractHealthPoints
  | .reverseDirection => pure (some reverseDirection)
  | .flipDirection => pure (some flipDirection)
  | .turnAround => pure (some turnAround)
  | .attractGaze => do
    let align ← params.flag place "align" false
    pure (some (attractGaze align))
  | .increaseSpeedToAll => readSpeed params place registry .increase
  | .decreaseSpeedToAll => readSpeed params place registry .decrease
  | .setSpeedForAll => readSpeed params place registry .set
  | .wrapAround => pure (some wrapAround)
  | .bounceForward => pure (some bounceForward)
  | .pullWithIt => pure (some pullWithIt)

/-- Read an effect from its keyword and parameters; without an effect a problem has
been reported. -/
def read? (keyword : String) : Checked (Option Effect) :=
  match EffectKind.ofKeyword? keyword with
  | none => ⟨none, [.unknownEffect keyword], []⟩
  | some kind => do
    Checked.reportAll ((params.keys.filter fun k => !kind.accepts k).map fun k =>
      .unknownParameter k place)
    readParams params place registry kind

end

end Effect

end SpriteGame
