import Mathlib
import SpriteGame.Number.Numeral
/-!
# Texts that are no number

A numeral is read as NaN only where it spells it: an optional sign and `nan` in any case
(`Numeral.read?_eq_nan_iff`). Digits never come to that, however many there are and whatever
the exponent is, since rounding gives a number and so do the multiplications and divisions by
powers of ten (`Decimal.isNaN_toSingle`, `Decimal.isNaN_toDouble`).
-/
namespace SpriteGame.Numeral

open Float.Model (UnpackedFloat Format)
open Float.Model.UnpackedFloat

/-! ## Values that are numbers -/

section Unpacked

variable {spec : Format}

theorem isNaN_unpack_iff (b : BitVec spec.numBits) :
    (unpack spec b).isNaN = true ↔ unpackExponent b = -1#_ ∧ unpackMantissa b ≠ 0#_ := by
  unfold unpack
  dsimp only
  split
  · next hexponent =>
    split
    · next hmantissa => simp [hmantissa, UnpackedFloat.isNaN]
    · next hmantissa => simp [hexponent, hmantissa, UnpackedFloat.isNaN]
  · next hexponent =>
    refine iff_of_false ?_ fun h => hexponent h.1
    split
    · split <;> simp [UnpackedFloat.isNaN]
    · simp [UnpackedFloat.isNaN]

/-- The exponent that is all ones is that of infinities and NaN only. -/
theorem ofNat_exponent_ne {n : Nat} (h : n + 1 < 2 ^ spec.exponentBits) : BitVec.ofNat spec.exponentBits n ≠ -1#_ := by
  have hvalue : (BitVec.ofNat spec.exponentBits n).toNat = n := by
    rw [BitVec.toNat_ofNat, Nat.mod_eq_of_lt (by omega)]
  have hones : (-1#_ : BitVec spec.exponentBits).toNat = 2 ^ spec.exponentBits - 1 := by
    rw [BitVec.neg_one_eq_allOnes, BitVec.toNat_allOnes]
  intro heq
  rw [← BitVec.toNat_inj, hvalue, hones] at heq
  omega

/-- Packing makes no NaN of a number, also of one that is too large. -/
theorem isNaN_unpack_pack {f : UnpackedFloat} (h : f.isNaN = false) : (unpack spec (pack spec f)).isNaN = false := by
  rw [← Bool.not_eq_true, isNaN_unpack_iff]
  cases f with
  | notANumber => cases h
  | infinity s => simp [pack, packedInfinity]
  | zero s => simp [pack, packedZero]
  | finite s m e hm =>
    unfold pack
    dsimp only
    split
    · simp [packedInfinity]
    · -- What is not too large for the format has an exponent below that of infinities.
      next hsmall =>
      have hzero : (0#_ : BitVec spec.exponentBits) ≠ -1#_ := @ofNat_exponent_ne spec 0 (by omega)
      split
      · simp [ofNat_exponent_ne (Nat.not_le.1 hsmall)]
      · simp [hzero]

theorem isNaN_roundWithAccuracy (s : Sign) (m : Nat) (e : Int) (a : Accuracy) :
    (roundWithAccuracy spec s m e a).isNaN = false := by
  unfold roundWithAccuracy
  dsimp only
  split <;> rfl

theorem isNaN_neg (f : UnpackedFloat) : f.neg.isNaN = f.isNaN := by
  cases f <;> rfl

theorem isNaN_ofNat (n : Nat) : (ofNat spec n).isNaN = false := by
  unfold ofNat ofInt UnpackedFloat.normalize
  split
  · exact isNaN_roundWithAccuracy ..
  · rfl
  · exact isNaN_roundWithAccuracy ..

/-- Whether it is a number other than the zeros and the infinities. -/
def isOrdinary : UnpackedFloat → Bool
  | .finite .. => true
  | _ => false

/-- The product of a number and an ordinary one is a number, and so is the quotient. -/
theorem isNaN_scale {f g : UnpackedFloat} (hf : f.isNaN = false) (hg : isOrdinary g = true) :
    (mul spec f g).isNaN = false ∧ (div spec f g).isNaN = false := by
  cases g with
  | finite s m e hm =>
    cases f with
    | notANumber => cases hf
    | infinity | zero => exact ⟨rfl, rfl⟩
    | finite => exact ⟨isNaN_roundWithAccuracy .., isNaN_roundWithAccuracy ..⟩
  | _ => cases hg

theorem isNaN_ofScientific (m : Nat) (e : Int) : (ofScientific spec m e).isNaN = false := by
  -- Exponents out of reach give zero or infinity at once.
  unfold ofScientific
  split
  · rfl
  · split
    · rfl
    · split
      · rfl
      · split
        · exact (isNaN_scale rfl rfl).1
        · exact (isNaN_scale rfl rfl).2

end Unpacked

/-! ## Values of decimals -/

/-- Few digits are scaled by a power of ten that is stored, which is an ordinary number. -/
theorem isNaN_ofScientific_single (n : Nat) (negative : Bool) (e : Nat) :
    (Float32.ofScientific n negative e).isNaN = false := by
  have hpowers : ∀ i (hi : i < Float32.exactlyRepresentablePowersOfTen.size),
      isOrdinary Float32.exactlyRepresentablePowersOfTen[i].toModel.unpack = true := by decide
  unfold Float32.ofScientific
  split
  · split
    · exact isNaN_unpack_pack (isNaN_scale (isNaN_unpack_pack (isNaN_ofNat _)) (hpowers e _)).2
    · exact isNaN_unpack_pack (isNaN_scale (isNaN_unpack_pack (isNaN_ofNat _)) (hpowers e _)).1
  · exact isNaN_unpack_pack (isNaN_ofScientific ..)

theorem isNaN_ofScientific_double (n : Nat) (negative : Bool) (e : Nat) :
    (Float.ofScientific n negative e).isNaN = false := by
  have hpowers : ∀ i (hi : i < Float.exactlyRepresentablePowersOfTen.size),
      isOrdinary Float.exactlyRepresentablePowersOfTen[i].toModel.unpack = true := by decide
  unfold Float.ofScientific
  split
  · split
    · exact isNaN_unpack_pack (isNaN_scale (isNaN_unpack_pack (isNaN_ofNat _)) (hpowers e _)).2
    · exact isNaN_unpack_pack (isNaN_scale (isNaN_unpack_pack (isNaN_ofNat _)) (hpowers e _)).1
  · exact isNaN_unpack_pack (isNaN_ofScientific ..)

namespace Decimal

theorem isNaN_toSingle (d : Decimal) : d.toSingle.isNaN = true ↔ d = .nan := by
  cases d with
  | nan => exact iff_of_true (by decide) rfl
  | infinite negative => cases negative <;> exact iff_of_false (by decide) nofun
  | finite negative n e =>
    have hmagnitude := isNaN_ofScientific_single n (boundedExponent n e < 0) (boundedExponent n e).natAbs
    refine iff_of_false ?_ nofun
    rw [Bool.not_eq_true, toSingle]
    split
    · exact isNaN_unpack_pack ((isNaN_neg _).trans hmagnitude)
    · exact hmagnitude

theorem isNaN_toDouble (d : Decimal) : d.toDouble.isNaN = true ↔ d = .nan := by
  cases d with
  | nan => exact iff_of_true (by decide) rfl
  | infinite negative => cases negative <;> exact iff_of_false (by decide) nofun
  | finite negative n e =>
    have hmagnitude := isNaN_ofScientific_double n (boundedExponent n e < 0) (boundedExponent n e).natAbs
    refine iff_of_false ?_ nofun
    rw [Bool.not_eq_true, toDouble]
    split
    · exact isNaN_unpack_pack ((isNaN_neg _).trans hmagnitude)
    · exact hmagnitude

end Decimal

/-! ## Texts -/

/-- What follows the sign of a text, if it has one. -/
def afterSign : List Char → List Char
  | '-' :: t => t
  | '+' :: t => t
  | t => t

/-- The text is `nan` in any case, after an optional sign. -/
def SpellsNaN (s : List Char) : Prop := (afterSign s).map Char.toLower = "nan".toList

instance (s : List Char) : Decidable (SpellsNaN s) := inferInstanceAs (Decidable (_ = _))

theorem exists_magnitude? (s : List Char) :
    ∃ negative, Decimal.read? s = Decimal.magnitude? negative (afterSign s) := by
  unfold Decimal.read?
  split
  · exact ⟨true, rfl⟩
  · exact ⟨false, rfl⟩
  · next hminus hplus => exact ⟨false, congrArg _ (afterSign.eq_3 s hminus hplus).symm⟩

theorem magnitude?_eq_nan_iff {negative : Bool} {s : List Char} :
    Decimal.magnitude? negative s = some .nan ↔ s.map Char.toLower = "nan".toList := by
  unfold Decimal.magnitude?
  dsimp only
  split
  · next hinfinity =>
    refine iff_of_false nofun fun hnan => ?_
    rw [hnan] at hinfinity
    exact absurd hinfinity (by decide)
  · split
    · next hnan => exact iff_of_true rfl hnan
    · next hnan =>
      refine iff_of_false ?_ hnan
      split <;> nofun

theorem read?_eq_nan_iff {s : List Char} : Decimal.read? s = some .nan ↔ SpellsNaN s := by
  obtain ⟨negative, hread⟩ := exists_magnitude? s
  rw [hread]
  exact magnitude?_eq_nan_iff

end SpriteGame.Numeral
