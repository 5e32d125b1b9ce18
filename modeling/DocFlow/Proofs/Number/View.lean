import DocFlow.Proofs.Order.Number
import Mathlib

/-!
# The view of a double

`view` reads a double off its bits; the operations of `Float` work on its unpacked form.  The two are the
same data (`view_eq`), so that equality of doubles is equality of their views, but for the sign of zero
(`beq_iff_view`).  The mantissa and the exponent of a finite double are canonical
(`canonical_of_view`): no number has two views.
-/

namespace DocFlow.Number

open Float.Model (UnpackedFloat Format)
open Float.Model.UnpackedFloat (Sign unpackMantissa unpackExponent unpackSign)

/-! ## Fields of the bits -/

/-- The sign is a minus. -/
def isMinus : Sign → Bool
  | .negative => true
  | .positive => false

section Bits

variable (b : BitVec Format.binary64.numBits)

theorem toNat_unpackMantissa : (unpackMantissa b).toNat = b.toNat % 2 ^ 52 := by
  simp [unpackMantissa, BitVec.extractLsb, BitVec.extractLsb'_toNat]

theorem toNat_unpackExponent : (unpackExponent b).toNat = b.toNat / 2 ^ 52 % 2 ^ 11 := by
  simp [unpackExponent, BitVec.extractLsb, BitVec.extractLsb'_toNat, Nat.shiftRight_eq_div_pow]

theorem toNat_unpackSign : (unpackSign b).toNat = b.toNat / 2 ^ 63 % 2 := by
  simp [unpackSign, BitVec.extractLsb, BitVec.extractLsb'_toNat, Nat.shiftRight_eq_div_pow]

theorem isMinus_unpackSign : isMinus (Sign.ofBitVec (unpackSign b)) = decide (2 ^ 63 ≤ b.toNat) := by
  have hb : b.toNat < 2 ^ 64 := b.isLt
  have hpositive : unpackSign b = 0#1 ↔ ¬ 2 ^ 63 ≤ b.toNat := by
    rw [← BitVec.toNat_inj, toNat_unpackSign]
    show b.toNat / 2 ^ 63 % 2 = 0 ↔ _
    omega
  unfold Sign.ofBitVec
  by_cases h : 2 ^ 63 ≤ b.toNat
  · rw [if_neg fun h0 => hpositive.1 h0 h, decide_eq_true h]
    rfl
  · rw [if_pos (hpositive.2 h), decide_eq_false h]
    rfl

theorem toNat_one_append {w : Nat} (v : BitVec w) : (1#1 ++ v).toNat = 2 ^ w + v.toNat := by
  rw [BitVec.toNat_append, ← Nat.shiftLeft_add_eq_or_of_lt v.isLt]
  simp [Nat.shiftLeft_eq]

end Bits

/-! ## The view and the unpacked form -/

/-- The exact number of an unpacked double. -/
def View.ofUnpacked : UnpackedFloat → View
  | .notANumber => .nan
  | .infinity s => .infinite (isMinus s)
  | .zero s => .finite (isMinus s) 0 (-1074)
  | .finite s m e _ => .finite (isMinus s) m e

theorem view_eq (x : Float) : view x = .ofUnpacked x.toModel.unpack := by
  let b : BitVec Format.binary64.numBits := x.toModel.toBits.toBitVec
  have hunpack : x.toModel.unpack = UnpackedFloat.unpack Format.binary64 b := rfl
  have hbits : x.toBits.toNat = b.toNat := rfl
  have hlast : unpackExponent b = -1#(Format.binary64.exponentBits) ↔ (unpackExponent b).toNat = 2047 :=
    BitVec.toNat_inj.symm
  have hfirst : unpackExponent b = 0#(Format.binary64.exponentBits) ↔ (unpackExponent b).toNat = 0 :=
    BitVec.toNat_inj.symm
  have hnone : unpackMantissa b = 0#(Format.binary64.mantissaBitsWithoutImplicit) ↔
    (unpackMantissa b).toNat = 0 := BitVec.toNat_inj.symm
  rw [hunpack, UnpackedFloat.unpack, view, hbits, ← isMinus_unpackSign]
  simp only [← toNat_unpackMantissa, ← toNat_unpackExponent, ← hlast, ← hfirst, ← hnone]
  by_cases he : unpackExponent b = -1#(Format.binary64.exponentBits)
  · rw [if_pos he, if_pos he]
    split <;> rfl
  · rw [if_neg he, if_neg he]
    by_cases he' : unpackExponent b = 0#(Format.binary64.exponentBits)
    · rw [if_pos he', if_pos he']
      split
      · rename_i hm
        rw [hnone.1 hm]
        rfl
      · rw [he']
        rfl
    · rw [if_neg he', if_neg he', View.ofUnpacked, toNat_one_append]
      rfl

variable {x y : Float}

theorem isNaN_iff_view : x.isNaN = true ↔ view x = .nan := by
  have hx : x.isNaN = x.toModel.unpack.isNaN := rfl
  rw [view_eq, hx]
  cases x.toModel.unpack <;> simp [View.ofUnpacked, UnpackedFloat.isNaN]

theorem isFinite_iff_view : x.isFinite = true ↔ ∃ negative m q, view x = .finite negative m q := by
  have hx : x.isFinite = x.toModel.unpack.isFinite := rfl
  rw [view_eq, hx]
  cases x.toModel.unpack <;> simp [View.ofUnpacked, UnpackedFloat.isFinite]

def View.isZero : View → Bool
  | .finite _ m _ => m = 0
  | _ => false

/-- Numbers at the same place are the same, but for the sign of zero. -/
theorem place_inj {a b : UnpackedFloat} (ha : a.isNaN = false) (hb : b.isNaN = false) :
    place a = place b ↔ View.ofUnpacked a = .ofUnpacked b ∨
      ((View.ofUnpacked a).isZero ∧ (View.ofUnpacked b).isZero) := by
  cases a with
  | notANumber => cases ha
  | infinity s =>
    cases b with
    | notANumber => cases hb
    | _ t => cases s <;> cases t <;> simp [place, View.ofUnpacked, View.isZero, isMinus]
  | zero s =>
    cases b with
    | notANumber => cases hb
    | finite t m e hm =>
      have hm := Nat.ne_of_lt hm
      cases s <;> cases t <;> simp [place, View.ofUnpacked, View.isZero, isMinus, hm, hm.symm]
    | _ t => cases t <;> simp [place, View.ofUnpacked, View.isZero, isMinus]
  | finite s m e hm =>
    have hm := Nat.ne_of_gt hm
    cases b with
    | notANumber => cases hb
    | finite t n f hn =>
      cases s <;> cases t <;>
        simp [place, View.ofUnpacked, View.isZero, isMinus, hm, and_comm]
    | _ t => cases s <;> cases t <;> simp [place, View.ofUnpacked, View.isZero, isMinus, hm]

theorem comparePlaces_eq_iff {p q : Int × Int × Int} : comparePlaces p q = .eq ↔ p = q := by
  simp [comparePlaces, Ordering.then_eq_eq, Prod.ext_iff]

/-- Doubles that are numbers are equal if their views are, and zero has two. -/
theorem beq_iff_view (hx : x.isNaN = false) (hy : y.isNaN = false) :
    (x == y) = true ↔ view x = view y ∨ ((view x).isZero ∧ (view y).isZero) := by
  rw [beq_iff, compare_unpacked hx hy, Option.some_inj, comparePlaces_eq_iff, place_inj hx hy, view_eq,
    view_eq]

/-- Doubles that are numbers tie if they are equal. -/
theorem compare_eq_eq_iff (hx : x.isNaN = false) (hy : y.isNaN = false) :
    compare x y = .eq ↔ (x == y) = true := by
  rw [compare_eq_places hx hy, beq_iff, compare_unpacked hx hy, Option.some_inj]

/-! ## Canonical numbers -/

/-- The mantissa and the exponent of a finite double: all 53 bits of the mantissa are used, but with the
least exponent. -/
structure Canonical (m : Nat) (q : Int) : Prop where
  lt : m < 2 ^ 53
  le : -1074 ≤ q
  full : -1074 < q → 2 ^ 52 ≤ m

theorem canonical_of_view {negative : Bool} {m : Nat} {q : Int} (h : view x = .finite negative m q) :
    Canonical m q := by
  unfold view at h
  dsimp only at h
  split at h
  · split at h <;> cases h
  · split at h
    · obtain ⟨-, rfl, rfl⟩ := View.finite.inj h
      exact ⟨by omega, by omega, by omega⟩
    · obtain ⟨-, rfl, rfl⟩ := View.finite.inj h
      exact ⟨by omega, by omega, by omega⟩

end DocFlow.Number
