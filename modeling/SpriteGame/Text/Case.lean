import SpriteGame.Text.CaseTable
/-!
# Letter case

Flags are compared in lower case and keywords in upper case. `lower` is the full
Unicode lower-case mapping, with the final form of sigma at the end of a word.
Keywords are ASCII, so for upper case only the characters count whose mapping is
ASCII letters.
-/
namespace SpriteGame.Text

/-! ## Lower case -/

/-- The lower-case form of one character, apart from its neighbours. -/
def lowerChar (c : Char) : List Char :=
  if c.toNat < 0x80 then [c.toLower]
  else if c = 'İ' then ['i', '\u0307']
  else
    match lowerRanges.find? fun r =>
        r.first ≤ c.toNat && c.toNat ≤ r.last && (c.toNat - r.first) % r.step == 0 with
    | none => [c]
    | some r => [Char.ofNat (c.toNat + r.offset).toNat]

/-- Whether the first character that is not ignorable for case is cased. -/
def startsCased (s : List Char) : Bool :=
  match s.dropWhile fun c => inRanges caseIgnorableRanges c.toNat with
  | [] => false
  | c :: _ => inRanges casedRanges c.toNat

/-- The lower-case form of the text after `before`, which is given backwards.
A sigma that ends a word takes its final form. -/
def lowerAfter (before : List Char) : List Char → List Char
  | [] => []
  | c :: s =>
    let mapped :=
      if c = 'Σ' then [if startsCased before && !startsCased s then 'ς' else 'σ']
      else lowerChar c
    mapped ++ lowerAfter (c :: before) s

def lower (s : List Char) : List Char := lowerAfter [] s

/-! ## Upper case -/

/-- The upper-case form of a character where that consists of ASCII letters;
every other character stays as it is, and outside ASCII if it was. -/
def upperChar (c : Char) : List Char :=
  if c.toNat < 0x80 then [c.toUpper]
  else
    match c with
    | 'ı' => ['I']
    | 'ſ' => ['S']
    | 'ß' => ['S', 'S']
    | '\uFB00' => ['F', 'F']
    | '\uFB01' => ['F', 'I']
    | '\uFB02' => ['F', 'L']
    | '\uFB03' => ['F', 'F', 'I']
    | '\uFB04' => ['F', 'F', 'L']
    | '\uFB05' => ['S', 'T']
    | '\uFB06' => ['S', 'T']
    | c => [c]

/-- Whether the upper-case form of a text is `keyword`, which is in ASCII capitals. -/
def readsAs (keyword : String) (s : List Char) : Bool :=
  s.flatMap upperChar == keyword.toList

end SpriteGame.Text
