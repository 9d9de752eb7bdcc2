import Mathlib.Data.Prod.Lex
import Mathlib.Order.Compare
import Mathlib.Algebra.Order.Ring.Int

/-!
# Proofs/FloatOrder — machine numbers in a linear order

Machine numbers are compared case by case: the infinities lie at the ends, the zeros of either sign
in the middle, and between them the other numbers, by their exponents and then their mantissas.
That is the order of triples of integers (`rung`).  What is no number at all compares with nothing,
so the comparisons of two numbers are those of their rungs (`le_iff`, `lt_iff`, `beq_iff`).
-/

namespace Narrative.FloatOrder

open Float.Model

/-! ## Rungs -/

/-- **A rung in the order**: on which side of zero and how far out, then an exponent, then a
mantissa. -/
def Rung := ℤ ×ₗ ℤ ×ₗ ℤ

instance : LinearOrder Rung := inferInstanceAs (LinearOrder (ℤ ×ₗ ℤ ×ₗ ℤ))

/-- The rung of three coordinates. -/
def Rung.at (side exponent mantissa : ℤ) : Rung := toLex (side, toLex (exponent, mantissa))

theorem Rung.compare_at (a b c a' b' c' : ℤ) :
    compare (Rung.at a b c) (Rung.at a' b' c')
      = (compare a a').then ((compare b b').then (compare c c')) := by
  rfl

/-- Where an unpacked number stands. -/
def unpackedRung : UnpackedFloat → Rung
  | .infinity .negative => .at (-2) 0 0
  | .finite .negative mantissa exponent _ => .at (-1) (-exponent) (-mantissa)
  | .zero _ => .at 0 0 0
  | .finite .positive mantissa exponent _ => .at 1 exponent mantissa
  | .infinity .positive => .at 2 0 0
  | .notANumber => .at 0 0 0

theorem compare_neg (a b : ℤ) : compare (-a) (-b) = (compare a b).swap := by
  rcases lt_trichotomy a b with h | rfl | h
  · rw [compare_lt_iff_lt.2 h, compare_gt_iff_gt.2 (neg_lt_neg h)]
    rfl
  · rw [compare_eq_iff_eq.2 rfl, compare_eq_iff_eq.2 rfl]
    rfl
  · rw [compare_gt_iff_gt.2 h, compare_lt_iff_lt.2 (neg_lt_neg h)]
    rfl

theorem compare_natCast (m n : ℕ) : compare (m : ℤ) n = compare m n := by
  rcases lt_trichotomy m n with h | rfl | h
  · rw [compare_lt_iff_lt.2 h, compare_lt_iff_lt.2 (Int.ofNat_lt.2 h)]
  · rw [compare_eq_iff_eq.2 rfl, compare_eq_iff_eq.2 rfl]
  · rw [compare_gt_iff_gt.2 h, compare_gt_iff_gt.2 (Int.ofNat_lt.2 h)]

/-- **Comparing unpacked numbers is comparing their rungs.**  The cases are those of the
comparison. -/
theorem unpacked_compare {a b : UnpackedFloat} (ha : a ≠ .notANumber) (hb : b ≠ .notANumber) :
    a.compare b = some (compare (unpackedRung a) (unpackedRung b)) := by
  -- Only numbers of one sign are told apart by more than their sides.
  rcases a with (_ | _) | _ | _ | ⟨_ | _, m, e, _⟩ <;>
    rcases b with (_ | _) | _ | _ | ⟨_ | _, m', e', _⟩ <;> try first | contradiction | rfl
  · show _ = some (compare (Rung.at (-1) (-e) (-m)) (Rung.at (-1) (-e') (-m')))
    rw [Rung.compare_at, compare_neg e, compare_neg m, compare_natCast, ← Ordering.swap_then]
    rfl
  · show _ = some (compare (Rung.at 1 e m) (Rung.at 1 e' m'))
    rw [Rung.compare_at, compare_natCast]
    rfl

/-! ## Machine numbers -/

/-- **A machine number that is a number.** -/
def IsNumber (x : Float) : Prop := x.toModel.unpack ≠ .notANumber

/-- **Where a machine number stands.** -/
def rung (x : Float) : Rung := unpackedRung x.toModel.unpack

variable {a b : Float}

theorem le_def :
    a ≤ b ↔ (a.toModel.unpack.compare b.toModel.unpack).any Ordering.isLE = true :=
  decide_eq_true_iff

theorem lt_def : a < b ↔ (a.toModel.unpack.compare b.toModel.unpack == some .lt) = true :=
  decide_eq_true_iff

theorem beq_def : (a == b) = (a.toModel.unpack.compare b.toModel.unpack == some .eq) := rfl

theorem le_iff (ha : IsNumber a) (hb : IsNumber b) : a ≤ b ↔ rung a ≤ rung b := by
  rw [le_def, unpacked_compare ha hb, Option.any_some]
  exact Ordering.isLE_iff_ne_gt.trans compare_le_iff_le

theorem lt_iff (ha : IsNumber a) (hb : IsNumber b) : a < b ↔ rung a < rung b := by
  rw [lt_def, unpacked_compare ha hb, beq_iff_eq, Option.some_inj, compare_lt_iff_lt, rung, rung]

theorem beq_iff (ha : IsNumber a) (hb : IsNumber b) : (a == b) = true ↔ rung a = rung b := by
  rw [beq_def, unpacked_compare ha hb, beq_iff_eq, Option.some_inj, compare_eq_iff_eq, rung, rung]

theorem unpacked_compare_none {a b : UnpackedFloat} (h : a = .notANumber ∨ b = .notANumber) :
    a.compare b = none := by
  rcases h with rfl | rfl
  · rfl
  · cases a <;> rfl

/-- **What compares with something is a number.** -/
theorem isNumber_of_le (h : a ≤ b) : IsNumber a ∧ IsNumber b := by
  rw [IsNumber, IsNumber, ← not_or]
  intro hnone
  rw [le_def, unpacked_compare_none hnone] at h
  cases h

/-- What equals something is a number. -/
theorem isNumber_of_beq (h : (a == b) = true) : IsNumber a ∧ IsNumber b := by
  rw [IsNumber, IsNumber, ← not_or]
  intro hnone
  rw [beq_def, unpacked_compare_none hnone] at h
  cases h

/-- What is less than something is a number. -/
theorem isNumber_of_lt (h : a < b) : IsNumber a ∧ IsNumber b := by
  rw [IsNumber, IsNumber, ← not_or]
  intro hnone
  rw [lt_def, unpacked_compare_none hnone] at h
  cases h

theorem lt_of_le_of_lt {c : Float} (h : a ≤ b) (h' : b < c) : a < c := by
  obtain ⟨ha, hb⟩ := isNumber_of_le h
  obtain ⟨-, hc⟩ := isNumber_of_lt h'
  exact (lt_iff ha hc).2 (((le_iff ha hb).1 h).trans_lt ((lt_iff hb hc).1 h'))

end Narrative.FloatOrder
