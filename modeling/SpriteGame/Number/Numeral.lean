/-!
# Numerals

How numbers are written in parameters. An integer is an optional sign and ASCII
digits, and has to fit its type; an unsigned one takes no minus. A decimal is an
optional sign and `inf`, `infinity` or `nan` in any case, or digits with an
optional point and exponent, rounded once to the nearest value of its type.
-/
namespace SpriteGame.Numeral

/-! ## Integers -/

/-- The number that a run of digits continues `acc` to. -/
def digitsFrom (acc : Nat) : List Char → Option Nat
  | [] => some acc
  | c :: s => if c.isDigit then digitsFrom (10 * acc + (c.toNat - '0'.toNat)) s else none

/-- The value of one or more digits. -/
def digits? : List Char → Option Nat
  | [] => none
  | c :: s => digitsFrom 0 (c :: s)

/-- An optional plus and digits, at most `max`. -/
def unsigned? (max : Nat) (s : List Char) : Option Nat :=
  (digits? (match s with
    | '+' :: t => t
    | t => t)).filter (· ≤ max)

/-- An optional sign and digits, from `-max - 1` to `max`. -/
def signed? (max : Nat) (s : List Char) : Option Int :=
  match s with
  | '-' :: t => ((digits? t).filter (· ≤ max + 1)).map fun n => -(n : Int)
  | t => (unsigned? max t).map fun n => (n : Int)

/-- The largest unsigned value of 32 bits. -/
def wordMax : Nat := UInt32.size - 1

def longWordMax : Nat := UInt64.size - 1

def intMax : Nat := 0x7FFFFFFF

def longMax : Nat := 0x7FFFFFFFFFFFFFFF

/-! ## Decimals -/

/-- A decimal as written: `digits * 10 ^ exponent`, or a special value. -/
inductive Decimal where
  | nan
  | infinite (negative : Bool)
  | finite (negative : Bool) (digits : Nat) (exponent : Int)
  deriving DecidableEq

namespace Decimal

/-- The exponent after the digits; absent means zero. -/
def exponent? : List Char → Option Int
  | [] => some 0
  | c :: s =>
    if c = 'e' ∨ c = 'E' then
      match s with
      | '-' :: t => (digits? t).map fun n => -(n : Int)
      | '+' :: t => (digits? t).map fun n => (n : Int)
      | t => (digits? t).map fun n => (n : Int)
    else none

/-- A decimal after its sign. -/
def magnitude? (negative : Bool) (s : List Char) : Option Decimal :=
  let word := s.map Char.toLower
  if word = "inf".toList ∨ word = "infinity".toList then some (.infinite negative)
  else if word = "nan".toList then some .nan
  else
    let whole := s.takeWhile Char.isDigit
    let rest := s.dropWhile Char.isDigit
    let (fraction, tail) :=
      match rest with
      | '.' :: t => (t.takeWhile Char.isDigit, t.dropWhile Char.isDigit)
      | t => ([], t)
    match digits? (whole ++ fraction), exponent? tail with
    | some n, some e => some (.finite negative n (e - fraction.length))
    | _, _ => none

def read? (s : List Char) : Option Decimal :=
  match s with
  | '-' :: t => magnitude? true t
  | '+' :: t => magnitude? false t
  | t => magnitude? false t

/-- The exponent, cut off where every type has long rounded to zero or infinity,
so that no huge power of ten is formed. -/
def boundedExponent (digits : Nat) (exponent : Int) : Int :=
  let places : Int := (Nat.toDigits 10 digits).length
  max (-500 - places) (min (500 - places) exponent)

def toSingle : Decimal → Float32
  | .nan => 0.0 / 0.0
  | .infinite negative => if negative then -1.0 / 0.0 else 1.0 / 0.0
  | .finite negative n e =>
    let e := boundedExponent n e
    let x := Float32.ofScientific n (e < 0) e.natAbs
    if negative then -x else x

def toDouble : Decimal → Float
  | .nan => 0.0 / 0.0
  | .infinite negative => if negative then -1.0 / 0.0 else 1.0 / 0.0
  | .finite negative n e =>
    let e := boundedExponent n e
    let x := Float.ofScientific n (e < 0) e.natAbs
    if negative then -x else x

end Decimal

end SpriteGame.Numeral
