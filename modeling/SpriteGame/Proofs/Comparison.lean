import Mathlib.Algebra.Order.Group.Int
import Mathlib.Algebra.Order.Group.Unbundled.Basic
import Mathlib.Data.Int.Order.Basic
import Mathlib.Data.Prod.Lex
/-!
# The order of numbers

Double-precision values that are numbers are compared by their `rank`, which is taken from a
linear order: by sign and kind, then by exponent, then by significand. So on numbers the
comparisons of the type are those of a linear order (`lt_iff`, `beq_iff`), in which the two
zeros have one place and nothing is above infinity (`rank_le_infinity`). A NaN has no place.
-/
namespace SpriteGame.Double

open Float.Model (UnpackedFloat)

/-! ## Orders by two parts -/

section Lex

variable {α β : Type} [LinearOrder α] [LinearOrder β]

theorem cmp_toLex (a c : α) (b d : β) : cmp (toLex (a, b)) (toLex (c, d)) = (cmp a c).then (cmp b d) := by
  rcases lt_trichotomy a c with h | rfl | h
  · rw [(cmp_eq_lt_iff _ _).2 h, (cmp_eq_lt_iff _ _).2 (Prod.Lex.toLex_lt_toLex.2 (.inl h))]
    rfl
  · have hsame : ∀ x y : β, toLex (a, x) < toLex (a, y) ↔ x < y := by simp [Prod.Lex.toLex_lt_toLex]
    rw [cmp_self_eq_eq, Ordering.eq_then]
    simp only [cmp, cmpUsing, hsame]
  · rw [(cmp_eq_gt_iff _ _).2 h, (cmp_eq_gt_iff _ _).2 (Prod.Lex.toLex_lt_toLex.2 (.inl h))]
    rfl

end Lex

theorem cmp_natCast (m n : Nat) : cmp (m : Int) n = compare m n := by
  rw [← cmp_eq_compare]
  simp only [cmp, cmpUsing, Int.ofNat_lt]

theorem cmp_neg (a b : Int) : cmp (-a) (-b) = (cmp a b).swap := by
  rw [cmp_swap]
  simp only [cmp, cmpUsing, neg_lt_neg_iff]

/-! ## Ranks -/

/-- The place of a value in the order of all numbers. -/
def place : UnpackedFloat → Int ×ₗ Int ×ₗ Int
  | .infinity .negative => toLex (-2, toLex (0, 0))
  | .finite .negative m e _ => toLex (-1, toLex (-e, -m))
  | .zero _ | .notANumber => toLex (0, toLex (0, 0))
  | .finite .positive m e _ => toLex (1, toLex (e, m))
  | .infinity .positive => toLex (2, toLex (0, 0))

theorem cmp_place_positive (m n : Nat) (e f : Int) (hm : 0 < m) (hn : 0 < n) :
    cmp (place (.finite .positive m e hm)) (place (.finite .positive n f hn)) =
      (compare e f).then (compare m n) := by
  unfold place
  rw [cmp_toLex, cmp_toLex, cmp_self_eq_eq, Ordering.eq_then, cmp_eq_compare e, cmp_natCast]

theorem cmp_place_negative (m n : Nat) (e f : Int) (hm : 0 < m) (hn : 0 < n) :
    cmp (place (.finite .negative m e hm)) (place (.finite .negative n f hn)) =
      ((compare e f).then (compare m n)).swap := by
  unfold place
  rw [cmp_toLex, cmp_toLex, cmp_self_eq_eq, Ordering.eq_then, cmp_neg, cmp_neg, cmp_eq_compare e, cmp_natCast,
    Ordering.swap_then]

/-- Numbers are compared by their places. -/
theorem compare_eq {x y : UnpackedFloat} (hx : x.isNaN = false) (hy : y.isNaN = false) :
    x.compare y = some (cmp (place x) (place y)) := by
  -- Values of different signs or kinds differ in the first part already.
  cases x with
  | notANumber => cases hx
  | infinity s =>
    cases y with
    | notANumber => cases hy
    | infinity s' | finite s' => cases s <;> cases s' <;> rfl
    | zero => cases s <;> rfl
  | zero =>
    cases y with
    | notANumber => cases hy
    | infinity s' | finite s' => cases s' <;> rfl
    | zero => rfl
  | finite s m e =>
    cases y with
    | notANumber => cases hy
    | infinity s' => cases s <;> cases s' <;> rfl
    | zero => cases s <;> rfl
    | finite s' n f =>
      cases s <;> cases s'
      case positive.positive => rw [cmp_place_positive]; rfl
      case negative.negative => rw [cmp_place_negative]; rfl
      all_goals rfl

theorem compare_lt_iff {x y : UnpackedFloat} (hx : x.isNaN = false) (hy : y.isNaN = false) :
    (x.compare y == some .lt) = true ↔ place x < place y := by
  rw [compare_eq hx hy, beq_iff_eq, Option.some_inj]
  exact cmp_eq_lt_iff _ _

theorem compare_beq_iff {x y : UnpackedFloat} (hx : x.isNaN = false) (hy : y.isNaN = false) :
    (x.compare y == some .eq) = true ↔ place x = place y := by
  rw [compare_eq hx hy, beq_iff_eq, Option.some_inj]
  exact cmp_eq_eq_iff _ _

def rank (x : Float) : Int ×ₗ Int ×ₗ Int := place x.toModel.unpack

section Numbers

variable {x y : Float} (hx : x.isNaN = false) (hy : y.isNaN = false)
include hx hy

theorem lt_iff : x < y ↔ rank x < rank y := by
  show decide (x.toModel < y.toModel) = true ↔ _
  rw [decide_eq_true_eq]
  exact compare_lt_iff hx hy

theorem beq_iff : (x == y) = true ↔ rank x = rank y := compare_beq_iff hx hy

end Numbers

theorem rank_le_infinity (x : Float) : rank x ≤ rank (1 / 0) := by
  have hinfinity : rank (1 / 0) = place (.infinity .positive) := by decide
  rw [hinfinity]
  unfold rank
  cases x.toModel.unpack with
  | infinity s | zero s => cases s <;> decide
  | notANumber => decide
  | finite s m e =>
    have hclass : ∀ c : Int, c < 2 → ∀ size, toLex (c, size) ≤ place (.infinity .positive) := fun c hc size =>
      Prod.Lex.toLex_le_toLex.2 (.inl hc)
    cases s with
    | negative => exact hclass (-1) (by decide) _
    | positive => exact hclass 1 (by decide) _

end SpriteGame.Double
