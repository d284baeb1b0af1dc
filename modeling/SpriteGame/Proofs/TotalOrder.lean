import Mathlib.Algebra.Order.Monoid.Prod
import SpriteGame.Proofs.Comparison
import SpriteGame.World.Observation
/-!
# The total order of single-precision values

Observations are sorted by the ranks of their distances, which are read off the bits. That is
the order of all values (`rank_lt_iff`): numbers as they compare, the negative zero before the
other one, and NaN after all numbers. Values of one rank are one value (`rank_injective`).
-/
namespace SpriteGame.Single

open Double (place)
open Float.Model (UnpackedFloat Format)
open Float.Model.UnpackedFloat (Sign unpack unpackExponent unpackMantissa unpackSign)

/-! ## The parts of a value -/

section Parts

variable (b : BitVec 32)

/-- The bits below the sign. -/
def low : Nat := b.toNat % 2147483648

/-- The exponent is the next eight bits below the sign. -/
theorem unpackExponent_eq_iff (e : BitVec 8) :
    @unpackExponent .binary32 b = e ↔ low b / 8388608 = e.toNat := by
  have hexponent : (@unpackExponent .binary32 b).toNat = b.toNat / 8388608 % 256 := by
    simp [unpackExponent, Nat.shiftRight_eq_div_pow]
  rw [← BitVec.toNat_inj, hexponent, low]
  omega

theorem toNat_unpackExponent : (@unpackExponent .binary32 b).toNat = low b / 8388608 :=
  ((unpackExponent_eq_iff b _).1 rfl).symm

theorem toNat_unpackMantissa : (@unpackMantissa .binary32 b).toNat = low b % 8388608 := by
  have hmantissa : (@unpackMantissa .binary32 b).toNat = b.toNat % 8388608 := by
    simp [unpackMantissa]
  rw [hmantissa, low]
  omega

theorem unpackMantissa_eq_zero_iff : @unpackMantissa .binary32 b = 0#23 ↔ low b % 8388608 = 0 := by
  rw [← BitVec.toNat_inj, toNat_unpackMantissa]
  rfl

/-- The significand of a normal number has a bit that is not stored. -/
theorem toNat_one_append_unpackMantissa :
    (1#1 ++ @unpackMantissa .binary32 b).toNat = 8388608 + low b % 8388608 := by
  have hlt : (@unpackMantissa .binary32 b).toNat < 2 ^ 23 := (@unpackMantissa .binary32 b).isLt
  rw [BitVec.toNat_append, ← Nat.shiftLeft_add_eq_or_of_lt hlt, toNat_unpackMantissa]
  rfl

/-- The sign is the highest bit. -/
def signOf : Sign := if b.toNat < 2147483648 then .positive else .negative

theorem ofBitVec_unpackSign : Sign.ofBitVec (@unpackSign .binary32 b) = signOf b := by
  have htop : (@unpackSign .binary32 b).toNat = b.toNat / 2147483648 := by
    have := b.isLt
    have hshift : (@unpackSign .binary32 b).toNat = (b.toNat >>> 31) % 2 := rfl
    rw [hshift, Nat.shiftRight_eq_div_pow]
    omega
  have hzero : @unpackSign .binary32 b = 0#1 ↔ b.toNat < 2147483648 := by
    rw [← BitVec.toNat_inj, htop]
    show _ = 0 ↔ _
    omega
  simp only [Sign.ofBitVec, hzero, signOf]

end Parts

/-! ## Places -/

/-- The place of a positive value with these bits below the sign. -/
def magnitude (a : Nat) : Int ×ₗ Int ×ₗ Int :=
  if a / 8388608 = 255 then toLex (2, toLex (0, 0))
  else if a / 8388608 = 0 then
    if a % 8388608 = 0 then toLex (0, toLex (0, 0)) else toLex (1, toLex (-149, (a % 8388608 : Nat)))
  else toLex (1, toLex ((a / 8388608 : Nat) - 150, (8388608 + a % 8388608 : Nat)))

/-- The bits of positive values up to infinity are in the order of their places. -/
theorem magnitude_lt {a b : Nat} (h : a < b) (hb : b ≤ 0x7F800000) : magnitude a < magnitude b := by
  unfold magnitude
  split_ifs <;> simp only [Prod.Lex.toLex_lt_toLex, true_and, lt_self_iff_false, false_or, Int.ofNat_lt] <;> omega

theorem magnitude_lt_iff {a b : Nat} (ha : a ≤ 0x7F800000) (hb : b ≤ 0x7F800000) :
    magnitude a < magnitude b ↔ a < b := by
  refine ⟨fun h => not_le.1 fun hle => ?_, fun h => magnitude_lt h hb⟩
  rcases hle.eq_or_lt with rfl | hlt
  · exact lt_irrefl _ h
  · exact lt_asymm h (magnitude_lt hlt ha)

theorem magnitude_zero_le {a : Nat} (ha : a ≤ 0x7F800000) : magnitude 0 ≤ magnitude a :=
  not_lt.1 fun h => Nat.not_lt_zero _ ((magnitude_lt_iff ha (Nat.zero_le _)).1 h)

/-- What is not positive comes no later than what is not negative. -/
theorem neg_magnitude_le {a b : Nat} (ha : a ≤ 0x7F800000) (hb : b ≤ 0x7F800000) : -magnitude a ≤ magnitude b := by
  have hzero : -magnitude 0 = magnitude 0 := rfl
  calc -magnitude a ≤ -magnitude 0 := neg_le_neg_iff.2 (magnitude_zero_le ha)
    _ = magnitude 0 := hzero
    _ ≤ magnitude b := magnitude_zero_le hb

/-- The place of a value of either sign. -/
def signed : Sign → Int ×ₗ Int ×ₗ Int → Int ×ₗ Int ×ₗ Int
  | .positive, p => p
  | .negative, p => -p

theorem place_infinity (s : Sign) : place (.infinity s) = signed s (toLex (2, toLex (0, 0))) := by
  cases s <;> rfl

theorem place_zero (s : Sign) : place (.zero s) = signed s (toLex (0, toLex (0, 0))) := by
  cases s <;> rfl

theorem place_finite (s : Sign) (m : Nat) (e : Int) (hm : 0 < m) :
    place (.finite s m e hm) = signed s (toLex (1, toLex (e, (m : Int)))) := by
  cases s <;> rfl

/-- What is unpacked is NaN, or a number with the place of its bits below the sign, which is turned
around for a negative one. -/
theorem unpack_cases (b : BitVec 32) :
    (@unpackExponent .binary32 b = -1#8 ∧ @unpackMantissa .binary32 b ≠ 0#23 ∧
      (unpack Format.binary32 b).isNaN = true) ∨
    (low b ≤ 0x7F800000 ∧ (unpack Format.binary32 b).isNaN = false ∧
      place (unpack Format.binary32 b) = signed (signOf b) (magnitude (low b))) := by
  have hlow : low b < 2147483648 := Nat.mod_lt _ (by decide)
  have hones : @unpackExponent .binary32 b = -1#8 ↔ low b / 8388608 = 255 := unpackExponent_eq_iff b _
  have hzeros : @unpackExponent .binary32 b = 0#8 ↔ low b / 8388608 = 0 := unpackExponent_eq_iff b _
  unfold unpack
  dsimp only
  rw [ofBitVec_unpackSign]
  unfold magnitude
  by_cases h255 : low b / 8388608 = 255
  · rw [if_pos (hones.2 h255), if_pos h255]
    by_cases hm : low b % 8388608 = 0
    · rw [if_pos ((unpackMantissa_eq_zero_iff b).2 hm), place_infinity]
      exact .inr ⟨by omega, rfl, rfl⟩
    · have hmantissa := mt (unpackMantissa_eq_zero_iff b).1 hm
      rw [if_neg hmantissa]
      exact .inl ⟨hones.2 h255, hmantissa, rfl⟩
  · rw [if_neg (mt hones.1 h255), if_neg h255]
    refine .inr ⟨by omega, ?_⟩
    by_cases h0 : low b / 8388608 = 0
    · rw [if_pos (hzeros.2 h0), if_pos h0]
      by_cases hm : low b % 8388608 = 0
      · rw [dif_pos ((unpackMantissa_eq_zero_iff b).2 hm), if_pos hm, place_zero]
        exact ⟨rfl, rfl⟩
      · rw [dif_neg (mt (unpackMantissa_eq_zero_iff b).1 hm), if_neg hm]
        refine ⟨rfl, ?_⟩
        rw [place_finite, toNat_unpackMantissa, toNat_unpackExponent, h0]
        rfl
    · rw [if_neg (mt hzeros.1 h0), if_neg h0]
      refine ⟨rfl, ?_⟩
      rw [place_finite, toNat_one_append_unpackMantissa, toNat_unpackExponent]
      rfl

/-! ## The order of all values -/

variable {x y : Float32}

/-- There is one value that is not a number. -/
theorem toBits_of_isNaN (hx : x.isNaN = true) : x.toBits.toBitVec = 0x7FC00000#32 := by
  rcases unpack_cases x.toBits.toBitVec with ⟨hexponent, hmantissa, -⟩ | ⟨-, hnumber, -⟩
  · exact x.toModel.valid.eq_packedNaN hexponent hmantissa
  · exact absurd (hnumber.symm.trans hx) (by decide)

theorem place_of_number (hx : x.isNaN = false) :
    low x.toBits.toBitVec ≤ 0x7F800000 ∧
      place x.toModel.unpack = signed (signOf x.toBits.toBitVec) (magnitude (low x.toBits.toBitVec)) := by
  rcases unpack_cases x.toBits.toBitVec with ⟨-, -, hnan⟩ | ⟨hlow, -, hplace⟩
  · exact absurd (hx.symm.trans hnan) (by decide)
  · exact ⟨hlow, hplace⟩

/-- The rank of a value with a sign and these bits below it. -/
def rankOf : Sign → Nat → Int
  | .positive, a => a
  | .negative, a => -a - 1

theorem isNegative_iff (x : Float32) : isNegative x = true ↔ signOf x.toBits.toBitVec = .negative := by
  have hbound : x.toBits.toNat < 4294967296 := x.toBits.toNat_lt
  have htop : (x.toBits >>> 31).toNat = x.toBits.toNat / 2147483648 := by
    simp [Nat.shiftRight_eq_div_pow]
  have hnegative : x.toBits >>> 31 ≠ 0 ↔ ¬x.toBits.toNat < 2147483648 := by
    rw [Ne, ← UInt32.toNat_inj, htop]
    show ¬_ = 0 ↔ _
    omega
  rw [isNegative, bne_iff_ne, hnegative, signOf, UInt32.toNat_toBitVec]
  split <;> simp_all

theorem rank_eq (x : Float32) :
    Observation.rank x = rankOf (signOf x.toBits.toBitVec) (low x.toBits.toBitVec) := by
  have hlow : (x.toBits &&& 0x7FFFFFFF).toNat = low x.toBits.toBitVec := by
    rw [UInt32.toNat_and]
    exact Nat.and_two_pow_sub_one_eq_mod _ 31
  unfold Observation.rank
  rw [hlow]
  cases hsign : signOf x.toBits.toBitVec with
  | positive =>
    have hnot : ¬isNegative x = true := by simp [isNegative_iff, hsign]
    exact if_neg hnot
  | negative => exact if_pos ((isNegative_iff x).2 hsign)

/-- Ranks are in the order of places; where two values have one place, the negative zero comes first. -/
theorem rankOf_lt_iff {s t : Sign} {a b : Nat} (ha : a ≤ 0x7F800000) (hb : b ≤ 0x7F800000) :
    rankOf s a < rankOf t b ↔
      signed s (magnitude a) < signed t (magnitude b) ∨
        signed s (magnitude a) = signed t (magnitude b) ∧ s = .negative ∧ t = .positive := by
  cases s <;> cases t
  case positive.positive => simp [rankOf, signed, magnitude_lt_iff ha hb]
  case negative.negative => simp [rankOf, signed, magnitude_lt_iff hb ha]
  case positive.negative =>
    have hrank : ¬rankOf .positive a < rankOf .negative b := by
      simp only [rankOf]
      omega
    simp [hrank, signed, not_lt.2 (neg_magnitude_le hb ha)]
  case negative.positive =>
    have hrank : rankOf .negative a < rankOf .positive b := by
      simp only [rankOf]
      omega
    simp [hrank, signed, (neg_magnitude_le ha hb).lt_or_eq]

theorem lt_iff (hx : x.isNaN = false) (hy : y.isNaN = false) :
    x < y ↔ place x.toModel.unpack < place y.toModel.unpack := by
  show decide (x.toModel < y.toModel) = true ↔ _
  rw [decide_eq_true_eq]
  exact Double.compare_lt_iff hx hy

theorem beq_iff (hx : x.isNaN = false) (hy : y.isNaN = false) :
    (x == y) = true ↔ place x.toModel.unpack = place y.toModel.unpack := Double.compare_beq_iff hx hy

/-- A number comes before a larger one, the negative zero before the other one, and NaN after
all numbers. -/
def Precedes (x y : Float32) : Prop :=
  x < y ∨ (x == y) = true ∧ isNegative x = true ∧ isNegative y = false ∨ x.isNaN = false ∧ y.isNaN = true

instance (x y : Float32) : Decidable (Precedes x y) := inferInstanceAs (Decidable (_ ∨ _))

/-- What compares in some way are numbers. -/
theorem isNaN_of_compare {p q : UnpackedFloat} {o : Ordering} (h : (p.compare q == some o) = true) :
    p.isNaN = false ∧ q.isNaN = false := by
  cases p <;> cases q <;> first | exact ⟨rfl, rfl⟩ | cases h

theorem isNaN_of_lt (h : x < y) : x.isNaN = false ∧ y.isNaN = false :=
  isNaN_of_compare (o := .lt) (of_decide_eq_true h)

theorem isNaN_of_beq (h : (x == y) = true) : x.isNaN = false ∧ y.isNaN = false :=
  isNaN_of_compare (o := .eq) h

theorem rank_of_isNaN (hx : x.isNaN = true) : Observation.rank x = 0x7FC00000 := by
  rw [rank_eq, toBits_of_isNaN hx]
  rfl

theorem rank_le_of_number (hx : x.isNaN = false) : Observation.rank x ≤ 0x7F800000 := by
  obtain ⟨hlow, -⟩ := place_of_number hx
  rw [rank_eq]
  cases signOf x.toBits.toBitVec <;> simp only [rankOf] <;> omega

/-- Nothing comes after NaN. -/
theorem Precedes.isNaN_left (h : Precedes x y) : x.isNaN = false := by
  rcases h with h | ⟨h, -⟩ | ⟨h, -⟩
  · exact (isNaN_of_lt h).1
  · exact (isNaN_of_beq h).1
  · exact h

theorem rank_lt_iff : Observation.rank x < Observation.rank y ↔ Precedes x y := by
  cases hx : x.isNaN with
  | true =>
    have hle : Observation.rank y ≤ Observation.rank x := by
      rw [rank_of_isNaN hx]
      cases hy : y.isNaN with
      | true => exact (rank_of_isNaN hy).le
      | false => exact (rank_le_of_number hy).trans (by decide)
    exact ⟨fun hlt => absurd hlt (not_lt.2 hle), fun h => absurd (hx.symm.trans h.isNaN_left) (by decide)⟩
  | false =>
    cases hy : y.isNaN with
    | true =>
      have hlt : Observation.rank x < Observation.rank y := by
        rw [rank_of_isNaN hy]
        exact (rank_le_of_number hx).trans_lt (by decide)
      exact iff_of_true hlt (.inr (.inr ⟨hx, hy⟩))
    | false =>
      obtain ⟨hxlow, hxplace⟩ := place_of_number hx
      obtain ⟨hylow, hyplace⟩ := place_of_number hy
      have hpositive : isNegative y = false ↔ signOf y.toBits.toBitVec = .positive := by
        rw [← Bool.not_eq_true, isNegative_iff]
        cases signOf y.toBits.toBitVec <;> simp
      have hnumbers : Precedes x y ↔
          x < y ∨ (x == y) = true ∧ isNegative x = true ∧ isNegative y = false := by
        unfold Precedes
        simp only [hy, Bool.false_eq_true, and_false, or_false]
      rw [hnumbers, rank_eq, rank_eq, rankOf_lt_iff hxlow hylow, ← hxplace, ← hyplace, lt_iff hx hy, beq_iff hx hy,
        isNegative_iff, hpositive]

example : Precedes (-1) (Float32.ofBits 0x80000000) ∧ Precedes (Float32.ofBits 0x80000000) 0 ∧
    Precedes (1 / 0) (0 / 0) := by decide

theorem rankOf_inj {s t : Sign} {a b : Nat} (h : rankOf s a = rankOf t b) : s = t ∧ a = b := by
  cases s <;> cases t <;> simp only [rankOf] at h
  case positive.positive => exact ⟨rfl, by omega⟩
  case negative.negative => exact ⟨rfl, by omega⟩
  all_goals omega

theorem rank_injective (h : Observation.rank x = Observation.rank y) : x = y := by
  rw [rank_eq, rank_eq] at h
  obtain ⟨hsign, hlow⟩ := rankOf_inj h
  have hbits : x.toBits = y.toBits := by
    have hx : x.toBits.toNat < 4294967296 := x.toBits.toNat_lt
    have hy : y.toBits.toNat < 4294967296 := y.toBits.toNat_lt
    have htop : x.toBits.toNat < 2147483648 ↔ y.toBits.toNat < 2147483648 := by
      simp only [signOf, UInt32.toNat_toBitVec] at hsign
      split at hsign <;> split at hsign <;> first | omega | cases hsign
    simp only [low, UInt32.toNat_toBitVec] at hlow
    exact UInt32.toNat_inj.1 (by omega)
  have hmodel : ∀ m n : Float32.Model, m.toBits = n.toBits → m = n := by
    rintro ⟨m, hm⟩ ⟨n, hn⟩ rfl
    rfl
  obtain ⟨m⟩ := x
  obtain ⟨n⟩ := y
  exact congrArg Float32.ofModel (hmodel m n hbits)

end SpriteGame.Single
