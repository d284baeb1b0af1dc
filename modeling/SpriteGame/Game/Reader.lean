import SpriteGame.Game.Outline
import SpriteGame.Problem
import SpriteGame.Text.Blank
/-!
# Reading a description

A description is text in indented lines. A line that cannot be read is reported and
has no other effect: reading a line gives an item or a problem, the description is
put together from the items alone, and a problem leaves the place in the text, the
open section, as it was.
-/
namespace SpriteGame

open Text

/-! ## Parts of a line -/

namespace Reader

def dropComment (s : List Char) : List Char := s.takeWhile (· ≠ '#')

/-- The width of the leading blanks; a tab counts as four columns. -/
def indentOf (s : List Char) : Nat :=
  (s.takeWhile isBlank).foldl (fun n c => n + if c = '\t' then 4 else 1) 0

/-- The key and the value of a token, split at its first `=`. -/
def keyValue? (token : List Char) : Option (String × String) :=
  match splitFirst '=' token with
  | some (k :: key, value) => some (String.ofList (k :: key), String.ofList value)
  | _ => none

/-- Read `key=value` tokens; the first that is none is reported. -/
def readParams (line : Nat) (tokens : List (List Char)) : Except Problem Params :=
  tokens.foldlM (fun params token =>
    match keyValue? token with
    | some (key, value) => .ok (params.insert key value)
    | none => .error (.badLine line (.notKeyValue (String.ofList token)))) SortedMap.empty

/-- Read `first second … > effect params`: one rule for every second sprite. -/
def readInteraction (line : Nat) (text : List Char) : Except Problem (List InteractionDef) :=
  match splitFirst '>' (dropComment text) with
  | none => .error (.badLine line .noInteractionArrow)
  | some (lhs, rhs) =>
    match words lhs with
    | first :: second :: others =>
      match words rhs with
      | [] => .error (.badLine line .noEffect)
      | effect :: tokens => do
        let params ← readParams line tokens
        pure ((second :: others).map fun name =>
          ⟨String.ofList first, String.ofList name, String.ofList effect, params, line⟩)
    | _ => .error (.badLine line .tooFewNames)

/-- Read `Kind params`. -/
def readTermination (line : Nat) (text : List Char) : Except Problem TerminationDef :=
  match words (dropComment text) with
  | [] => .error (.badLine line .emptyTermination)
  | kind :: tokens => do
    let params ← readParams line tokens
    pure ⟨String.ofList kind, params, line⟩

/-- Read `name > Class params`; a first token with `=` is a parameter already. -/
def readSprite (line : Nat) (text : List Char) : Except Problem SpriteDef :=
  match splitFirst '>' text with
  | none => .error (.badLine line .noSpriteArrow)
  | some (lhs, rhs) =>
    let name := trim lhs
    if name.isEmpty || name.any isBlank then
      .error (.badLine line (.badSpriteName (String.ofList name)))
    else
      let tokens := words rhs
      let (keyword, tokens) :=
        match tokens with
        | t :: ts => if t.contains '=' then (none, t :: ts) else (some (String.ofList t), ts)
        | [] => (none, [])
      do
        let params ← readParams line tokens
        pure ⟨String.ofList name, keyword, params, [], line⟩

/-- Read `c > names`. -/
def readMapping (line : Nat) (text : List Char) : Except Problem (Char × List String) :=
  match splitFirst '>' text with
  | some (lhs, rhs) =>
    match trim lhs with
    | [c] => .ok (c, (words rhs).map String.ofList)
    | _ => .error (.badLine line (.badMapping (String.ofList text)))
  | none => .error (.badLine line (.badMapping (String.ofList text)))

/-- Read `name > value=text`. -/
def readPlaceholder (line : Nat) (text : List Char) : Except Problem (String × String) :=
  match splitFirst '>' text with
  | none => .error (.badLine line (.badParameter (String.ofList text)))
  | some (lhs, rhs) => do
    let name := String.ofList (trim lhs)
    let params ← readParams line (words rhs)
    match params.get? "value" with
    | some value => pure (name, value)
    | none => .error (.missingParameter "value" (.placeholder name))

/-! ## Sections and items -/

inductive Section where
  | sprites
  | interactions
  | terminations
  | mapping
  | placeholders
  deriving DecidableEq

def Section.ofHeader? (s : List Char) : Option Section :=
  if s = "SpriteSet".toList then some sprites
  else if s = "InteractionSet".toList then some interactions
  else if s = "TerminationSet".toList then some terminations
  else if s = "LevelMapping".toList then some mapping
  else if s = "ParameterSet".toList then some placeholders
  else none

inductive Item where
  | game (params : Params)
  | header (sec : Section)
  | sprite (indent : Nat) (sprite : SpriteDef)
  | interactions (rules : List InteractionDef)
  | termination (rule : TerminationDef)
  | mapping (symbol : Char) (names : List String)
  | placeholder (name value : String)

/-- Where the reader stands: whether a line was seen, and the open section with the
indentation of its header. -/
structure Position where
  started : Bool
  opened : Option (Section × Nat)

def readItem (sec : Section) (line indent : Nat) (text : List Char) : Except Problem Item :=
  match sec with
  | .sprites => (readSprite line text).map (.sprite indent)
  | .interactions => (readInteraction line text).map .interactions
  | .terminations => (readTermination line text).map .termination
  | .mapping => (readMapping line text).map fun p => .mapping p.1 p.2
  | .placeholders => (readPlaceholder line text).map fun p => .placeholder p.1 p.2

/-- Read a line that is not the game's own: a header opens its section at any
indentation, and every other line has to be indented more than the open header. -/
def readBody (opened : Option (Section × Nat)) (line indent : Nat) (text : List Char) :
    Option (Section × Nat) × Except Problem Item :=
  match Section.ofHeader? text with
  | some sec => (some (sec, indent), .ok (.header sec))
  | none =>
    match opened with
    | some (sec, base) =>
      if indent ≤ base then (opened, .error (.badLine line (.outsideSection (String.ofList text))))
      else (opened, readItem sec line indent text)
    | none => (opened, .error (.badLine line (.outsideSection (String.ofList text))))

/-- Read one line; a line that is blank apart from a comment gives nothing. -/
def readLine (pos : Position) (line : Nat) (raw : List Char) :
    Position × Option (Except Problem Item) :=
  let content := dropComment raw
  let text := trim content
  if text.isEmpty then (pos, none)
  else
    match pos.started, words text with
    | false, ['B', 'a', 's', 'i', 'c', 'G', 'a', 'm', 'e'] :: tokens =>
      ({ pos with started := true }, some ((readParams line tokens).map .game))
    | _, _ =>
      let (opened, result) := readBody pos.opened line (indentOf content) text
      (⟨true, opened⟩, some result)

def readLines (pos : Position) (line : Nat) : List (List Char) → List (Except Problem Item)
  | [] => []
  | raw :: rest =>
    let (pos, result) := readLine pos line raw
    result.toList ++ readLines pos (line + 1) rest

/-! ## The description of a list of items -/

/-- The outlines of the sprite sections: every header starts a new one. -/
def outlines : List Item → List (List Indented)
  | [] => [[]]
  | item :: items =>
    match item, outlines items with
    | .header _, later => [] :: later
    | .sprite indent sprite, [] => [[⟨indent, sprite⟩]]
    | .sprite indent sprite, current :: later => (⟨indent, sprite⟩ :: current) :: later
    | _, later => later

/-- Add what an item says apart from sprites. -/
def addItem (d : Description) : Item → Description
  | .game params => { d with gameParams := params }
  | .header _ | .sprite .. => d
  | .interactions rules => { d with interactions := d.interactions ++ rules }
  | .termination rule => { d with terminations := d.terminations ++ [rule] }
  | .mapping c names => { d with levelMapping := d.levelMapping.insert c names }
  | .placeholder name value => { d with placeholders := d.placeholders.insert name value }

def assemble (items : List Item) : Description :=
  { items.foldl addItem .empty with sprites := (outlines items).flatMap Outline.forest }

end Reader

/-- Read a description; problems of single lines are recorded, and the lines skipped. -/
def Description.read (text : List Char) : Checked Description :=
  let results := Reader.readLines ⟨false, none⟩ 1 (lines text)
  { value := Reader.assemble (results.filterMap fun r => r.toOption)
    problems := results.filterMap fun
      | .ok _ => none
      | .error p => some p
    warnings := [] }

end SpriteGame
