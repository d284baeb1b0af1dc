/-!
# Random numbers

The generator PCG-XSH-RR 64/32: a linear congruential step modulo `2 ^ 64` whose
old state is permuted into 32 bits. Every draw returns the generator for the next
one, so a computation that returns the generator it was given has not drawn.
-/
namespace SpriteGame

/-- The state of a generator and its odd increment. -/
structure Random where
  state : UInt64
  increment : UInt64
  deriving DecidableEq, Inhabited

namespace Random

def multiplier : UInt64 := 6364136223846793005

/-- The 32 bits that a state is permuted into. -/
def permute (s : UInt64) : UInt32 :=
  let x := (((s >>> 18) ^^^ s) >>> 27).toUInt32
  let turn := (s >>> 59).toUInt32
  (x >>> turn) ||| (x <<< ((32 - turn) % 32))

/-- The increment of the generator that spreads a seed over the state. -/
def seedIncrement : UInt64 := 11634580027462260723

/-- The next 32 bits of a spread seed, and what is left of it. -/
def seedWord (s : UInt64) : UInt64 × UInt64 :=
  let s := s * multiplier + seedIncrement
  ((permute s).toUInt64, s)

/-- The generator for a seed. -/
def ofSeed (seed : UInt64) : Random :=
  let (w0, s) := seedWord seed
  let (w1, s) := seedWord s
  let (w2, s) := seedWord s
  let (w3, _) := seedWord s
  let start := w0 ||| (w1 <<< 32)
  let increment := (w2 ||| (w3 <<< 32)) ||| 1
  ⟨(start + increment) * multiplier + increment, increment⟩

/-- Draw 32 bits. -/
def word (r : Random) : UInt32 × Random :=
  (permute r.state, { r with state := r.state * multiplier + r.increment })

/-- Draw a number below `n`, for `0 < n < 2 ^ 32`. The high half of `n` times a word
is the number; where its low half leaves the outcome open, a second word decides. -/
def below (n : Nat) (r : Random) : Nat × Random :=
  let (x, r) := r.word
  let product := x.toNat * n
  let high := product / UInt32.size
  let low := product % UInt32.size
  if low + n > UInt32.size then
    let (y, r) := r.word
    if low + y.toNat * n / UInt32.size ≥ UInt32.size then (high + 1, r) else (high, r)
  else (high, r)

/-- Draw a number from `[0, 1)` with 53 bits. -/
def unit (r : Random) : Float × Random :=
  let (a, r) := r.word
  let (b, r) := r.word
  ((((b.toUInt64 <<< 32) ||| a.toUInt64) >>> 11).toFloat * Float.ofBits 0x3CA0000000000000, r)

/-- Draw one of the elements of a list that has a head. -/
def pick {α : Type} (head : α) (tail : List α) (r : Random) : α × Random :=
  let (i, r) := r.below (tail.length + 1)
  ((head :: tail)[i]?.getD head, r)

/-- Draw whether something of probability `p` happens. What is certain draws nothing. -/
def chance (p : Float) (r : Random) : Bool × Random :=
  if p < 1 then
    let (x, r) := r.unit
    (x < p, r)
  else (true, r)

theorem below_lt {n : Nat} (h : 0 < n) (r : Random) : (r.below n).1 < n := by
  have hsize : UInt32.size = 4294967296 := rfl
  simp only [below, hsize]
  have hx : (r.word).1.toNat < 4294967296 := (r.word).1.toNat_lt
  have hdiv := Nat.div_add_mod ((r.word).1.toNat * n) 4294967296
  have hmul : (r.word).1.toNat * n ≤ (4294967296 - 1) * n := Nat.mul_le_mul_right n (by omega)
  split
  · next hlow =>
    split
    · show _ + 1 < n
      omega
    · show _ < n
      omega
  · show _ < n
    omega

theorem pick_mem {α : Type} (head : α) (tail : List α) (r : Random) :
    (r.pick head tail).1 ∈ head :: tail := by
  have h : (r.below (tail.length + 1)).1 < (head :: tail).length := below_lt (Nat.succ_pos _) r
  show ((head :: tail)[(r.below (tail.length + 1)).1]?.getD head) ∈ head :: tail
  rw [List.getElem?_eq_getElem h]
  exact List.getElem_mem h

theorem chance_of_not_lt {p : Float} (h : ¬ p < 1) (r : Random) : r.chance p = (true, r) :=
  if_neg h

end Random

end SpriteGame
