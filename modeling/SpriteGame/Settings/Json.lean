/-!
# JSON texts

A strict reader of JSON. A text is cut into tokens, and the tokens are read as one
value with nothing after it. Only what the settings need is kept of a number and of
a string: whether a number is a natural one, and the characters of a string unless
its escapes leave half of a surrogate pair alone.
-/
namespace SpriteGame.Json

/-! ## Values -/

inductive Value where
  | null
  | bool (b : Bool)
  /-- The value of a number written with digits alone. -/
  | number (natural : Option Nat)
  /-- The characters of a string whose surrogates are paired. -/
  | text (chars : Option (List Char))
  | array (items : List Value)
  | object (members : List (Option (List Char) × Value))

inductive Token where
  | beginObject
  | endObject
  | beginArray
  | endArray
  | colon
  | comma
  | null
  | bool (b : Bool)
  | number (natural : Option Nat)
  | text (chars : Option (List Char))
  deriving DecidableEq

/-! ## Strings -/

def hexDigit? (c : Char) : Option Nat :=
  if c.isDigit then some (c.toNat - '0'.toNat)
  else if 'a' ≤ c ∧ c ≤ 'f' then some (c.toNat - 'a'.toNat + 10)
  else if 'A' ≤ c ∧ c ≤ 'F' then some (c.toNat - 'A'.toNat + 10)
  else none

/-- The code unit of four hexadecimal digits. -/
def unit? (a b c d : Char) : Option Nat := do
  pure (4096 * (← hexDigit? a) + 256 * (← hexDigit? b) + 16 * (← hexDigit? c) + (← hexDigit? d))

/-- The character of a one-letter escape. -/
def escape? : Char → Option Char
  | '"' => some '"'
  | '\\' => some '\\'
  | '/' => some '/'
  | 'b' => some '\x08'
  | 'f' => some '\x0c'
  | 'n' => some '\n'
  | 'r' => some '\r'
  | 't' => some '\t'
  | _ => none

/-- The code points and surrogates up to the closing quote, and the text after it. -/
def scanString : List Char → Option (List Nat × List Char)
  | [] => none
  | '"' :: s => some ([], s)
  | '\\' :: 'u' :: a :: b :: c :: d :: s => do
    let n ← unit? a b c d
    let (ns, rest) ← scanString s
    pure (n :: ns, rest)
  | '\\' :: e :: s => do
    let c ← escape? e
    let (ns, rest) ← scanString s
    pure (c.toNat :: ns, rest)
  | c :: s =>
    if c.toNat < 0x20 then none
    else do
      let (ns, rest) ← scanString s
      pure (c.toNat :: ns, rest)

/-- The characters of a string, surrogates joined in pairs. -/
def joinPairs? : List Nat → Option (List Char)
  | [] => some []
  | n :: ns =>
    if 0xD800 ≤ n ∧ n < 0xDC00 then
      match ns with
      | m :: ms =>
        if 0xDC00 ≤ m ∧ m < 0xE000 then
          (joinPairs? ms).map (Char.ofNat (0x10000 + (n - 0xD800) * 0x400 + (m - 0xDC00)) :: ·)
        else none
      | [] => none
    else if 0xDC00 ≤ n ∧ n < 0xE000 then none
    else (joinPairs? ns).map (Char.ofNat n :: ·)

/-! ## Numbers -/

/-- The digits at the start of a text, at least one. -/
def scanDigits (s : List Char) : Option (List Char × List Char) :=
  match s.takeWhile Char.isDigit with
  | [] => none
  | digits => some (digits, s.dropWhile Char.isDigit)

/-- The text after an optional fraction, and whether there was one. -/
def scanFraction : List Char → Option (Bool × List Char)
  | '.' :: s => (scanDigits s).map fun p => (true, p.2)
  | s => some (false, s)

/-- The text after an optional exponent, and whether there was one. -/
def scanExponent : List Char → Option (Bool × List Char)
  | c :: s =>
    if c = 'e' ∨ c = 'E' then
      (scanDigits (match s with
        | '+' :: t => t
        | '-' :: t => t
        | t => t)).map fun p => (true, p.2)
    else some (false, c :: s)
  | [] => some (false, [])

def digitsValue (digits : List Char) : Nat :=
  digits.foldl (fun n c => 10 * n + (c.toNat - '0'.toNat)) 0

/-- A number without its sign: no zero may lead other digits. -/
def scanMagnitude (s : List Char) : Option (Option Nat × List Char) := do
  let (digits, s) ← scanDigits s
  if digits.head? = some '0' ∧ digits.length ≠ 1 then none
  else
    let (fractional, s) ← scanFraction s
    let (scaled, s) ← scanExponent s
    pure (if fractional || scaled then none else some (digitsValue digits), s)

/-- A number; with a minus it is not a natural one. -/
def scanNumber : List Char → Option (Option Nat × List Char)
  | '-' :: s => (scanMagnitude s).map fun p => (none, p.2)
  | s => scanMagnitude s

/-! ## Tokens -/

def isBlank (c : Char) : Bool := c == ' ' || c == '\t' || c == '\n' || c == '\r'

/-- The first token of a text that starts with no blank. -/
def token? : List Char → Option (Token × List Char)
  | '\x7b' :: s => some (.beginObject, s)
  | '\x7d' :: s => some (.endObject, s)
  | '[' :: s => some (.beginArray, s)
  | ']' :: s => some (.endArray, s)
  | ':' :: s => some (.colon, s)
  | ',' :: s => some (.comma, s)
  | '"' :: s => (scanString s).map fun p => (.text (joinPairs? p.1), p.2)
  | 'n' :: 'u' :: 'l' :: 'l' :: s => some (.null, s)
  | 't' :: 'r' :: 'u' :: 'e' :: s => some (.bool true, s)
  | 'f' :: 'a' :: 'l' :: 's' :: 'e' :: s => some (.bool false, s)
  | s => (scanNumber s).map fun p => (.number p.1, p.2)

/-- The tokens of a text of at most `bound` characters. -/
def tokensWithin : Nat → List Char → Option (List Token)
  | bound, s =>
    match s.dropWhile isBlank with
    | [] => some []
    | c :: s =>
      match bound with
      | 0 => none
      | bound + 1 => do
        let (t, rest) ← token? (c :: s)
        let ts ← tokensWithin bound rest
        pure (t :: ts)

/-- The tokens of a text; every token takes a character at least. -/
def tokens? (s : List Char) : Option (List Token) := tokensWithin s.length s

/-! ## Reading -/

mutual

/-- Read a value from at most `bound` tokens. -/
def readValue : Nat → List Token → Option (Value × List Token)
  | 0, _ => none
  | _, [] => none
  | bound + 1, t :: ts =>
    match t with
    | .null => some (.null, ts)
    | .bool b => some (.bool b, ts)
    | .number n => some (.number n, ts)
    | .text s => some (.text s, ts)
    | .beginArray =>
      match ts with
      | .endArray :: ts => some (.array [], ts)
      | ts => do
        let (items, rest) ← readItems bound ts
        pure (.array items, rest)
    | .beginObject =>
      match ts with
      | .endObject :: ts => some (.object [], ts)
      | ts => do
        let (members, rest) ← readMembers bound ts
        pure (.object members, rest)
    | .endArray | .endObject | .colon | .comma => none

/-- Read the items of an array up to its end. -/
def readItems : Nat → List Token → Option (List Value × List Token)
  | 0, _ => none
  | bound + 1, ts => do
    let (item, rest) ← readValue bound ts
    match rest with
    | .comma :: ts => do
      let (items, rest) ← readItems bound ts
      pure (item :: items, rest)
    | .endArray :: ts => some ([item], ts)
    | _ => none

/-- Read the members of an object up to its end. -/
def readMembers : Nat → List Token → Option (List (Option (List Char) × Value) × List Token)
  | 0, _ => none
  | bound + 1, ts =>
    match ts with
    | .text key :: .colon :: ts => do
      let (value, rest) ← readValue bound ts
      match rest with
      | .comma :: ts => do
        let (members, rest) ← readMembers bound ts
        pure ((key, value) :: members, rest)
      | .endObject :: ts => some ([(key, value)], ts)
      | _ => none
    | _ => none

end

/-- Read a text as one value. Every step down takes a token or has just taken one, so
twice the number of tokens bounds the depth. -/
def read? (s : List Char) : Option Value := do
  let ts ← tokens? s
  match ← readValue (2 * ts.length) ts with
  | (v, []) => some v
  | _ => none

end SpriteGame.Json
