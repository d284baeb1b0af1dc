/-!
# Single-precision values

What the simulation does with single-precision values beyond the arithmetic of
the type: maximum, clamping and sign as IEEE 754 gives them, rounding to an
integer, and widening to double precision. A value is taken apart by its bits.
-/
namespace SpriteGame.Single

/-! ## Parts -/

def isNegative (x : Float32) : Bool := x.toBits >>> 31 != 0

def biasedExponent (x : Float32) : UInt32 := (x.toBits >>> 23) &&& 0xFF

/-- The stored bits of the significand. -/
def fraction (x : Float32) : UInt32 := x.toBits &&& 0x7FFFFF

/-- The integer `m` of a finite value `± m * 2 ^ e`. -/
def significand (x : Float32) : Nat :=
  if biasedExponent x == 0 then (fraction x).toNat else (fraction x).toNat + 0x800000

/-- The exponent `e` of a finite value `± m * 2 ^ e`. -/
def exponent (x : Float32) : Int :=
  if biasedExponent x == 0 then -149 else (biasedExponent x).toNat - 150

/-! ## Comparisons -/

/-- The larger of two values; a NaN gives way to the other. -/
def max (x y : Float32) : Float32 :=
  if x.isNaN then y else if y.isNaN then x else if x < y then y else x

/-- The value brought into `[lo, hi]`; NaN stays. -/
def clamp (x lo hi : Float32) : Float32 :=
  if x < lo then lo else if hi < x then hi else x

/-- One with the sign of `x`; NaN stays. -/
def sign (x : Float32) : Float32 :=
  if x.isNaN then x else if isNegative x then -1 else 1

/-- The distance from 1 to the next larger value, `2 ^ -23`. -/
def epsilon : Float32 := Float32.ofBits 0x34000000

/-! ## Integers -/

/-- The integer brought into the signed range of 32 bits. -/
def saturate (n : Int) : Int := Max.max (-0x80000000) (Min.min 0x7FFFFFFF n)

/-- Turn a finite value into an integer with `near m k`, which says what becomes of
`m / 2 ^ k`; infinities go to the ends of the range and NaN to zero. -/
def toIntBy (near : Int → Nat → Int) (x : Float32) : Int :=
  if x.isNaN then 0
  else if x.isInf then saturate (if isNegative x then -0x80000000 else 0x7FFFFFFF)
  else
    let m : Int := if isNegative x then -(significand x : Int) else significand x
    match exponent x with
    | .ofNat e => saturate (m <<< e)
    | .negSucc k => saturate (near m (k + 1))

/-- The largest integer not above `x`. -/
def floor (x : Float32) : Int := toIntBy (fun m k => m >>> k) x

/-- The nearest integer; a half goes away from zero. -/
def round (x : Float32) : Int :=
  toIntBy (fun m k => m.sign * ((2 * m.natAbs + 1 <<< k : Nat) >>> (k + 1) : Nat)) x

/-! ## Widening -/

/-- The double-precision value equal to `x`. -/
def widen (x : Float32) : Float :=
  let sign : UInt64 := if isNegative x then 0x8000000000000000 else 0
  let e := (biasedExponent x).toUInt64
  let f := (fraction x).toUInt64
  let magnitude : UInt64 :=
    if e == 255 then (0x7FF0000000000000 : UInt64) ||| (f <<< 29)
    else if e != 0 then ((e + 896) <<< 52) ||| (f <<< 29)
    else if f == 0 then 0
    else
      let top := f.log2
      ((top + 874) <<< 52) ||| ((f <<< (52 - top)) &&& (0xFFFFFFFFFFFFF : UInt64))
  Float.ofBits (sign ||| magnitude)

end SpriteGame.Single
