import DocFlow.Number.Binary64
import DocFlow.Proofs.Order.Lexicographic
import Mathlib

/-!
# The order of doubles

A double that is a number has a place: the side of zero it is on, its exponent and its mantissa, which
count down on the negative side.  Doubles are ordered as their places are (`compare_eq_places`), so the
order of all doubles but NaN is consistent; NaN ties with all.
-/

namespace DocFlow.Number

open Float.Model (UnpackedFloat)

/-! ## Places -/

/-- The place of a double in the order of those that are numbers. -/
def place : UnpackedFloat → Int × Int × Int
  | .notANumber => (0, 0, 0)
  | .infinity .negative => (-2, 0, 0)
  | .finite .negative m e _ => (-1, -e, -m)
  | .zero _ => (0, 0, 0)
  | .finite .positive m e _ => (1, e, m)
  | .infinity .positive => (2, 0, 0)

def comparePlaces (p q : Int × Int × Int) : Ordering :=
  (Ord.compare p.1 q.1).then ((Ord.compare p.2.1 q.2.1).then (Ord.compare p.2.2 q.2.2))

theorem comparePlaces_swap (p q : Int × Int × Int) : (comparePlaces p q).swap = comparePlaces q p := by
  unfold comparePlaces
  rw [Ordering.swap_then, Ordering.swap_then, Int.compare_swap, Int.compare_swap, Int.compare_swap]

theorem consistent_comparePlaces (p q r : Int × Int × Int) :
    Consistent (comparePlaces p q) (comparePlaces q r) (comparePlaces p r) := by
  have hside := Consistent.of_transOrd p.1 q.1 r.1
  have hexponent := Consistent.of_transOrd p.2.1 q.2.1 r.2.1
  have hmantissa := Consistent.of_transOrd p.2.2 q.2.2 r.2.2
  exact hside.lex (hexponent.lex hmantissa)

theorem compare_neg (a b : Int) : Ord.compare (-a) (-b) = (Ord.compare a b).swap := by
  rw [Int.compare_swap, Int.compare_eq_ite_lt, Int.compare_eq_ite_lt]
  simp only [Int.neg_lt_neg_iff]

theorem compare_natCast (m n : Nat) : Ord.compare (m : Int) (n : Int) = Ord.compare m n := by
  rw [Int.compare_eq_ite_lt, Nat.compare_eq_ite_lt]
  simp only [Int.ofNat_lt]

/-- Two doubles that are numbers stand to each other as their places do. -/
theorem compare_unpacked {x y : UnpackedFloat} (hx : x.isNaN = false) (hy : y.isNaN = false) :
    x.compare y = some (comparePlaces (place x) (place y)) := by
  cases x with
  | notANumber => cases hx
  | infinity s =>
    cases y with
    | notANumber => cases hy
    | infinity t => cases s <;> cases t <;> rfl
    | zero t => cases s <;> rfl
    | finite t m e hm => cases s <;> cases t <;> rfl
  | zero s =>
    cases y with
    | notANumber => cases hy
    | infinity t => cases t <;> rfl
    | zero t => rfl
    | finite t m e hm => cases t <;> rfl
  | finite s m e hm =>
    cases y with
    | notANumber => cases hy
    | infinity t => cases s <;> cases t <;> rfl
    | zero t => cases s <;> rfl
    | finite t n f hn =>
      cases s <;> cases t
      · -- both are negative
        simp [UnpackedFloat.compare, comparePlaces, place, compare_neg, compare_natCast,
          Ordering.swap_then]
      · rfl
      · rfl
      · simp [UnpackedFloat.compare, comparePlaces, place, compare_natCast]

/-! ## Doubles -/

variable {a b : Float}

theorem lt_iff : a < b ↔ a.toModel.unpack.compare b.toModel.unpack = some .lt := by
  change decide ((a.toModel.unpack.compare b.toModel.unpack == some .lt) = true) = true ↔ _
  rw [decide_eq_true_iff, beq_iff_eq]

theorem beq_iff : (a == b) = true ↔ a.toModel.unpack.compare b.toModel.unpack = some .eq := by
  change (a.toModel.unpack.compare b.toModel.unpack == some .eq) = true ↔ _
  exact beq_iff_eq

/-- Two doubles that are numbers stand to each other as their places do. -/
theorem compare?_eq_places (ha : a.isNaN = false) (hb : b.isNaN = false) :
    compare? a b = some (comparePlaces (place a.toModel.unpack) (place b.toModel.unpack)) := by
  have hab := compare_unpacked ha hb
  have hba := compare_unpacked hb ha
  rw [← comparePlaces_swap] at hba
  simp only [compare?, lt_iff, beq_iff, hab, hba]
  cases comparePlaces (place a.toModel.unpack) (place b.toModel.unpack) <;> simp

theorem compare_eq_places (ha : a.isNaN = false) (hb : b.isNaN = false) :
    compare a b = comparePlaces (place a.toModel.unpack) (place b.toModel.unpack) := by
  rw [compare, compare?_eq_places ha hb, Option.getD_some]

theorem compare_unpacked_of_isNaN {x y : UnpackedFloat} (h : x.isNaN = true ∨ y.isNaN = true) :
    x.compare y = none := by
  cases x with
  | notANumber => rfl
  | _ =>
    cases y with
    | notANumber => rfl
    | _ => simp [UnpackedFloat.isNaN] at h

/-- NaN stands in no order to any double. -/
theorem compare?_of_isNaN (h : a.isNaN = true ∨ b.isNaN = true) : compare? a b = none := by
  have hab := compare_unpacked_of_isNaN h
  have hba := compare_unpacked_of_isNaN h.symm
  simp [compare?, lt_iff, beq_iff, hab, hba]

/-- NaN ties with all. -/
theorem compare_of_isNaN (h : a.isNaN = true ∨ b.isNaN = true) : compare a b = .eq := by
  rw [compare, compare?_of_isNaN h, Option.getD_none]

theorem compare?_swap (a b : Float) : (compare? a b).map Ordering.swap = compare? b a := by
  by_cases h : a.isNaN = true ∨ b.isNaN = true
  · rw [compare?_of_isNaN h, compare?_of_isNaN h.symm, Option.map_none]
  · obtain ⟨ha, hb⟩ := not_or.1 h
    rw [Bool.not_eq_true] at ha hb
    rw [compare?_eq_places ha hb, compare?_eq_places hb ha, Option.map_some, comparePlaces_swap]

theorem compare_swap (a b : Float) : (compare a b).swap = compare b a := by
  rw [compare, compare, ← compare?_swap a b]
  cases compare? a b <;> rfl

theorem consistent_compare {c : Float} (ha : a.isNaN = false) (hb : b.isNaN = false)
    (hc : c.isNaN = false) : Consistent (compare a b) (compare b c) (compare a c) := by
  rw [compare_eq_places ha hb, compare_eq_places hb hc, compare_eq_places ha hc]
  exact consistent_comparePlaces _ _ _

end DocFlow.Number
