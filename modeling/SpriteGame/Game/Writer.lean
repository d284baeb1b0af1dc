import SpriteGame.Game.Reader
/-!
# Writing a description

The canonical text of a description: the line of the game, and then every section under its
header, with one item on a line and nested sprites indented more than the one that they are
nested in. A description that is `Writable` can be read back from it, up to the numbers of
its lines.
-/
namespace SpriteGame

open Text

/-! ## Lines -/

/-- What the header of a section says. -/
def Reader.Section.keyword : Reader.Section → String
  | sprites => "SpriteSet"
  | interactions => "InteractionSet"
  | terminations => "TerminationSet"
  | mapping => "LevelMapping"
  | placeholders => "ParameterSet"

namespace Writer

/-- An indented line of words. -/
def line (indent : Nat) (ws : List (List Char)) : List Char := List.replicate indent ' ' ++ joinWith ' ' ws

/-- The words for parameters. -/
def params (p : Params) : List (List Char) := p.entries.map fun e => e.1.toList ++ '=' :: e.2.toList

def header (sec : Reader.Section) : List Char := line 4 [sec.keyword.toList]

def interaction (d : InteractionDef) : List Char :=
  line 8 (d.first.toList :: d.second.toList :: ['>'] :: d.effect.toList :: params d.params)

def termination (d : TerminationDef) : List Char := line 8 (d.kind.toList :: params d.params)

def mapping (entry : Char × List String) : List Char :=
  line 8 ([entry.1] :: ['>'] :: entry.2.map String.toList)

def placeholder (entry : String × String) : List Char :=
  line 8 [entry.1.toList, ['>'], "value=".toList ++ entry.2.toList]

mutual

/-- The lines of a definition and of all nested in it, each level four columns deeper. -/
def sprite (indent : Nat) : SpriteDef → List (List Char)
  | ⟨name, keyword, own, children, _⟩ =>
    line indent (name.toList :: ['>'] :: (keyword.toList.map String.toList ++ params own))
      :: sprites (indent + 4) children

def sprites (indent : Nat) : List SpriteDef → List (List Char)
  | [] => []
  | d :: ds => sprite indent d ++ sprites indent ds

end

/-- The lines of a description. -/
def script (d : Description) : List (List Char) :=
  [line 0 ("BasicGame".toList :: params d.gameParams)]
    ++ header .sprites :: sprites 8 d.sprites
    ++ header .placeholders :: d.placeholders.entries.map placeholder
    ++ header .interactions :: d.interactions.map interaction
    ++ header .terminations :: d.terminations.map termination
    ++ header .mapping :: d.levelMapping.entries.map mapping

end Writer

/-- The canonical text of a description. -/
def Description.write (d : Description) : List Char := (Writer.script d).flatMap (· ++ ['\n'])

/-! ## Line numbers -/

mutual

/-- A definition without the numbers of the lines that it is from. -/
def SpriteDef.unnumbered : SpriteDef → SpriteDef
  | ⟨name, keyword, params, children, _⟩ => ⟨name, keyword, params, SpriteDef.unnumberedAll children, 0⟩

def SpriteDef.unnumberedAll : List SpriteDef → List SpriteDef
  | [] => []
  | d :: ds => d.unnumbered :: SpriteDef.unnumberedAll ds

end

/-- A description without the numbers of the lines that it is from. -/
def Description.unnumbered (d : Description) : Description :=
  { d with
    sprites := SpriteDef.unnumberedAll d.sprites
    interactions := d.interactions.map ({ · with line := 0 })
    terminations := d.terminations.map ({ · with line := 0 }) }

/-! ## What can be written -/

/-- A text has no blanks and starts no comment. -/
def Text.Clean (s : List Char) : Prop := ∀ c ∈ s, isBlank c = false ∧ c ≠ '#'

-- by a walk of the text, not of all characters there are
instance (s : List Char) : Decidable (Text.Clean s) :=
  List.decidableBAll (fun c => isBlank c = false ∧ c ≠ '#') s

/-- A text is a word of its own. -/
def Text.Token (s : List Char) : Prop := s ≠ [] ∧ Clean s

instance (s : List Char) : Decidable (Text.Token s) := inferInstanceAs (Decidable (s ≠ [] ∧ Clean s))

def Params.Writable (p : Params) : Prop :=
  ∀ e ∈ p.entries, Token e.1.toList ∧ '=' ∉ e.1.toList ∧ Clean e.2.toList

instance (p : Params) : Decidable p.Writable :=
  inferInstanceAs (Decidable (∀ e ∈ p.entries, Token e.1.toList ∧ '=' ∉ e.1.toList ∧ Clean e.2.toList))

/-- A text can be the name of a sprite, in front of an arrow. -/
def Text.Name (s : List Char) : Prop := Token s ∧ '>' ∉ s

instance (s : List Char) : Decidable (Text.Name s) := inferInstanceAs (Decidable (Token s ∧ '>' ∉ s))

/-- The line of a definition can be told apart from others; nothing is said of its children. -/
def SpriteDef.Writable (d : SpriteDef) : Prop :=
  Name d.name.toList ∧ (∀ k ∈ d.keyword, Token k.toList ∧ '=' ∉ k.toList) ∧ d.params.Writable

instance (d : SpriteDef) : Decidable d.Writable :=
  inferInstanceAs (Decidable (_ ∧ (∀ k ∈ d.keyword, Token k.toList ∧ '=' ∉ k.toList) ∧ _))

def InteractionDef.Writable (d : InteractionDef) : Prop :=
  Name d.first.toList ∧ Name d.second.toList ∧ Token d.effect.toList ∧ d.params.Writable

instance (d : InteractionDef) : Decidable d.Writable := inferInstanceAs (Decidable (_ ∧ _ ∧ _ ∧ _))

/-- A kind on a line of its own must not be the header of a section. -/
def TerminationDef.Writable (d : TerminationDef) : Prop :=
  Token d.kind.toList ∧ d.params.Writable ∧
    (d.params.entries = [] → Reader.Section.ofHeader? d.kind.toList = none)

instance (d : TerminationDef) : Decidable d.Writable := inferInstanceAs (Decidable (_ ∧ _ ∧ (_ → _)))

/-- All that a description names can be told apart in its text. -/
structure Description.Writable (d : Description) : Prop where
  gameParams : d.gameParams.Writable
  sprites : ∀ v ∈ d.walk, v.1.Writable
  interactions : ∀ r ∈ d.interactions, r.Writable
  terminations : ∀ t ∈ d.terminations, t.Writable
  mapping : ∀ e ∈ d.levelMapping.entries, Name [e.1] ∧ ∀ name ∈ e.2, Token name.toList
  placeholders : ∀ e ∈ d.placeholders.entries, Name e.1.toList ∧ Clean e.2.toList

end SpriteGame
