import DocFlow.Proofs.Number.Exact

/-!
# Products of doubles

The product of two doubles is the exact product, cut off at the last place that the format has, with two bits for what
has been cut off: one for the half of the last place, and one for anything else (`CutTo`).  The two bits tell on which
side of the half the exact product lies, so that rounding by them gives a number at most half of a place away
(`CutTo.abs_sub_le`).  A mantissa that rounding makes one bit longer is shifted once more; a product with too great an
exponent becomes infinite (`view_mul`).
-/

namespace DocFlow.Number

open Float.Model (Format UnpackedFloat totalExponent)
open Float.Model.UnpackedFloat

variable {m n k : Nat} {q r : Int} {s : Sign} {v : ℚ} {em : ExtendedMantissa}

/-! ## What is cut off -/

/-- The number of the mantissa and the round bit. -/
def kept (em : ExtendedMantissa) : ℚ := em.mantissa + if em.roundBit then 1 / 2 else 0

/-- The number `v` is cut off to a mantissa and a round bit: less than a half of the last place is left, and nothing if the
sticky bit is not set. -/
structure CutTo (v : ℚ) (em : ExtendedMantissa) : Prop where
  le : kept em ≤ v
  ge : v ≤ kept em + 1 / 2
  exact : em.stickyBit = false → v = kept em

theorem cutTo_exact (m : Nat) : CutTo m ⟨m, false, false⟩ := by
  have hkept : kept ⟨m, false, false⟩ = m := add_zero _
  exact ⟨hkept.le, by rw [hkept]; linarith, fun _ => hkept.symm⟩

theorem kept_shiftRightOne (em : ExtendedMantissa) : kept em.shiftRightOne = em.mantissa / 2 := by
  have hsplit : (em.mantissa : ℚ) = 2 * (em.mantissa / 2 : Nat) + (em.mantissa % 2 : Nat) := by
    exact_mod_cast (Nat.div_add_mod em.mantissa 2).symm
  rcases Nat.mod_two_eq_zero_or_one em.mantissa with hbit | hbit <;> rw [hbit] at hsplit <;>
    simp only [kept, ExtendedMantissa.shiftRightOne, hbit, hsplit] <;> norm_num
  ring

/-- The bit that is shifted out becomes the round bit, and the old round bit is one of those that stick. -/
theorem CutTo.shiftRightOne (h : CutTo v em) : CutTo (v / 2) em.shiftRightOne := by
  obtain ⟨hle, hge, hexact⟩ := h
  have hlow : (em.mantissa : ℚ) ≤ v := by
    unfold kept at hle
    split at hle <;> linarith
  have hhigh : v ≤ em.mantissa + 1 := by
    unfold kept at hge
    split at hge <;> linarith
  refine ⟨?_, ?_, fun hsticky => ?_⟩ <;> rw [kept_shiftRightOne]
  · linarith
  · linarith
  · obtain ⟨hround, hsticky⟩ : em.roundBit = false ∧ em.stickyBit = false := by
      simpa [ExtendedMantissa.shiftRightOne] using hsticky
    have hv := hexact hsticky
    rw [kept, hround, if_neg Bool.false_ne_true, add_zero] at hv
    rw [hv]

theorem CutTo.shiftRight (h : CutTo v em) (k : Nat) : CutTo (v / 2 ^ k) (em >>> k) := by
  induction k with
  | zero =>
    rw [pow_zero, div_one]
    exact h
  | succ k ih =>
    rw [pow_succ, ← div_div]
    exact ih.shiftRightOne

/-- Rounding goes to the nearest natural number. -/
theorem CutTo.abs_sub_le (h : CutTo v em) : |(em.roundedMantissa : ℚ) - v| ≤ 1 / 2 := by
  obtain ⟨hle, hge, hexact⟩ := h
  obtain ⟨m, round, sticky⟩ := em
  rw [abs_le]
  cases round with
  | false =>
    have hkept : kept ⟨m, false, sticky⟩ = m := add_zero _
    have hrounded : ExtendedMantissa.roundedMantissa ⟨m, false, sticky⟩ = m := by cases sticky <;> rfl
    rw [hkept] at hle hge
    rw [hrounded]
    constructor <;> linarith
  | true =>
    have hkept : kept ⟨m, true, sticky⟩ = m + 1 / 2 := rfl
    rw [hkept] at hle hge hexact
    cases sticky with
    | false =>
      -- a tie, which goes up or stays
      have hrounded : ExtendedMantissa.roundedMantissa ⟨m, true, false⟩ = m + m % 2 := rfl
      have hparity : ((m % 2 : Nat) : ℚ) ≤ 1 := by exact_mod_cast Nat.le_of_lt_succ (Nat.mod_lt m two_pos)
      have hnonneg : (0 : ℚ) ≤ (m % 2 : Nat) := Nat.cast_nonneg _
      rw [hrounded, hexact rfl, Nat.cast_add]
      constructor <;> linarith
    | true =>
      have hrounded : ExtendedMantissa.roundedMantissa ⟨m, true, true⟩ = m + 1 := rfl
      rw [hrounded, Nat.cast_add, Nat.cast_one]
      constructor <;> linarith

/-! ## Rounding -/

/-- The exponent of the last place that the format has for a number. -/
def lastPlace (m : Nat) (q : Int) : Int := max (m.log2 + q - 52) (-1074)

theorem targetExponent_eq (m : Nat) (q : Int) :
    Format.binary64.targetExponent (totalExponent m q) = lastPlace m q := by
  simp only [Format.targetExponent, totalExponent, Format.mantissaBits, Format.minExponent, lastPlace]
  omega

/-- A mantissa is cut off at the last place. -/
theorem cutTo_shiftToTargetExponent (hq : q ≤ lastPlace m q) :
    ∃ em, shiftToTargetExponent .binary64 m q .exact = (em, lastPlace m q) ∧ CutTo (m * 2 ^ (q - lastPlace m q)) em := by
  have hamount : q + ((lastPlace m q - q).toNat : Int) = lastPlace m q := by omega
  have hscale : (m : ℚ) * 2 ^ (q - lastPlace m q) = m / 2 ^ (lastPlace m q - q).toNat := by
    rw [div_eq_mul_inv, ← zpow_natCast, ← zpow_neg]
    congr 2
    omega
  refine ⟨_, ?_, hscale ▸ (cutTo_exact m).shiftRight (lastPlace m q - q).toNat⟩
  rw [shiftToTargetExponent, targetExponent_eq, shiftToExponent, hamount]
  rfl

/-- A mantissa that is not too long stays. -/
theorem shiftToTargetExponent_of_lt (hm : m < 2 ^ 53) (hq : -1074 ≤ q) :
    shiftToTargetExponent .binary64 m q .exact = (⟨m, false, false⟩, q) := by
  have hlog : m.log2 ≤ 52 := by
    rcases Nat.eq_zero_or_pos m with rfl | hpos
    · decide
    · exact Nat.le_of_lt_succ ((Nat.log2_lt hpos.ne').2 hm)
  have hamount : (lastPlace m q - q).toNat = 0 := by
    unfold lastPlace
    omega
  rw [shiftToTargetExponent, targetExponent_eq, shiftToExponent, hamount]
  exact congrArg (Prod.mk _) (add_zero q)

/-- In units of the last place a number has at most 53 digits, and just so many unless the format has no further place. -/
theorem units_bounds (hm : 0 < m) :
    (m : ℚ) * 2 ^ (q - lastPlace m q) < 2 ^ 53 ∧
    (-1074 < lastPlace m q → (2 : ℚ) ^ 52 ≤ m * 2 ^ (q - lastPlace m q)) := by
  have htop : (m : ℚ) < 2 ^ (m.log2 + 1 : ℤ) := by exact_mod_cast Nat.lt_log2_self
  have hbottom : (2 : ℚ) ^ (m.log2 : ℤ) ≤ m := by exact_mod_cast Nat.log2_self_le hm.ne'
  have hunit : (0 : ℚ) < 2 ^ (q - lastPlace m q) := by positivity
  constructor
  · calc (m : ℚ) * 2 ^ (q - lastPlace m q) < 2 ^ (m.log2 + 1 : ℤ) * 2 ^ (q - lastPlace m q) := by gcongr
      _ = 2 ^ (m.log2 + 1 + (q - lastPlace m q)) := (zpow_add₀ two_ne_zero _ _).symm
      _ ≤ 2 ^ (53 : ℤ) := zpow_le_zpow_right₀ one_le_two (by unfold lastPlace; omega)
      _ = 2 ^ 53 := zpow_natCast 2 53
  · intro hplace
    calc (2 : ℚ) ^ 52 = 2 ^ (52 : ℤ) := (zpow_natCast 2 52).symm
      _ = 2 ^ ((m.log2 : ℤ) + (q - lastPlace m q)) := by
        congr 1
        unfold lastPlace at *
        omega
      _ = 2 ^ (m.log2 : ℤ) * 2 ^ (q - lastPlace m q) := zpow_add₀ two_ne_zero _ _
      _ ≤ m * 2 ^ (q - lastPlace m q) := by gcongr

/-- The double is nearest to the number `v`: at most half of its last place away. -/
structure Nearest (v : ℚ) (m : Nat) (q : Int) : Prop where
  canonical : Canonical m q
  abs_sub_le : |(m : ℚ) * 2 ^ q - v| ≤ 2 ^ q / 2

/-- Cut off at the last place and rounded, a number has at most one digit too many, and is at most half of the place
away. -/
theorem CutTo.rounded_bounds (hm : 0 < m) (h : CutTo (m * 2 ^ (q - lastPlace m q)) em) :
    em.roundedMantissa ≤ 2 ^ 53 ∧ (-1074 < lastPlace m q → 2 ^ 52 ≤ em.roundedMantissa) ∧
      |(em.roundedMantissa : ℚ) * 2 ^ lastPlace m q - m * 2 ^ q| ≤ 2 ^ lastPlace m q / 2 := by
  obtain ⟨htop, hbottom⟩ := units_bounds (q := q) hm
  obtain ⟨hlow, hhigh⟩ := abs_le.1 h.abs_sub_le
  refine ⟨?_, fun hplace => ?_, ?_⟩
  · have hlt : (em.roundedMantissa : ℚ) < (2 ^ 53 + 1 : Nat) := by
      push_cast
      linarith
    exact Nat.le_of_lt_succ (Nat.cast_lt.1 hlt)
  · have hlt : ((2 ^ 52 : Nat) : ℚ) < (em.roundedMantissa + 1 : Nat) := by
      push_cast
      linarith [hbottom hplace]
    exact Nat.le_of_lt_succ (Nat.cast_lt.1 hlt)
  · have hunit : (0 : ℚ) < 2 ^ lastPlace m q := by positivity
    have hvalue : (m : ℚ) * 2 ^ q = m * 2 ^ (q - lastPlace m q) * 2 ^ lastPlace m q := by
      rw [mul_assoc, ← zpow_add₀ two_ne_zero, sub_add_cancel]
    rw [hvalue, ← sub_mul, abs_mul, abs_of_pos hunit, div_eq_inv_mul, ← one_div]
    exact mul_le_mul_of_nonneg_right h.abs_sub_le hunit.le

/-- A mantissa that is one bit too long is the least such, and half of it is full. -/
theorem Nearest.of_long (hn : n = 2 ^ 53) (hq : -1074 ≤ q) (h : |(n : ℚ) * 2 ^ q - v| ≤ 2 ^ q / 2) :
    Nearest v (2 ^ 52) (q + 1) := by
  have hunit : (0 : ℚ) < 2 ^ q := by positivity
  have hdouble : (2 : ℚ) ^ (q + 1) = 2 ^ q * 2 := zpow_add_one₀ two_ne_zero q
  have hsame : ((2 ^ 52 : Nat) : ℚ) * 2 ^ (q + 1) = n * 2 ^ q := by
    rw [hn, hdouble]
    push_cast
    ring
  refine ⟨⟨by decide, by omega, fun _ => le_rfl⟩, ?_⟩
  rw [hsame]
  exact h.trans (by linarith)

/-- A number is rounded to the nearest one, if no place is to be added to it. -/
theorem exists_roundWithAccuracy (s : Sign) (hm : 0 < m) (hq : q ≤ lastPlace m q) :
    ∃ n t, View.ofUnpacked (roundWithAccuracy .binary64 s m q .exact) = .finite (isMinus s) n t ∧
      Nearest (m * 2 ^ q) n t := by
  obtain ⟨em, hshift, hcut⟩ := cutTo_shiftToTargetExponent hq
  obtain ⟨hle, hfull, hnear⟩ := hcut.rounded_bounds hm
  have hplace : -1074 ≤ lastPlace m q := le_max_right _ _
  generalize lastPlace m q = t at *
  rcases Nat.lt_or_ge em.roundedMantissa (2 ^ 53) with hlt | hge
  · refine ⟨em.roundedMantissa, t, ?_, ⟨hlt, hplace, hfull⟩, hnear⟩
    simp only [roundWithAccuracy, hshift, shiftToTargetExponent_of_lt hlt hplace]
    split
    · rename_i hzero
      have ht : t = -1074 := by
        by_contra hne
        have hlong := hfull (lt_of_le_of_ne hplace (Ne.symm hne))
        rw [hzero] at hlong
        exact absurd hlong (by decide)
      rw [hzero, ht]
      rfl
    · rfl
  · -- rounding up has made the mantissa one bit longer
    have hlong : em.roundedMantissa = 2 ^ 53 := Nat.le_antisymm hle hge
    have hagain := shiftToTargetExponent_full (m := 2 ^ 52) ⟨le_rfl, by decide⟩ (show -1074 ≤ t + 1 by omega) 1
    rw [show 2 ^ 52 * 2 ^ 1 = em.roundedMantissa from hlong.symm, Nat.cast_one, add_sub_cancel_right] at hagain
    refine ⟨2 ^ 52, t + 1, ?_, .of_long hlong hplace hnear⟩
    simp only [roundWithAccuracy, hshift, hagain]
    rfl

/-! ## Bits -/

/-- With the least exponent a mantissa need not be full. -/
theorem unpack_pack_subnormal (hpos : 0 < m) (hm : m < 2 ^ 52) :
    (Float.Model.pack (.finite s m (-1074) hpos)).unpack = .finite s m (-1074) hpos := by
  have hlog : ¬ m.log2 + 1 = Format.binary64.mantissaBits := by
    have := (Nat.log2_lt hpos.ne').2 hm
    simp only [Format.mantissaBits]
    omega
  have hbiased : (-1074 + (Format.binary64.exponentBias : Int) + Format.binary64.mantissaBitsWithoutImplicit).toNat = 1 := by
    decide
  have hmantissa : (BitVec.ofNat 52 m).toNat = m := by
    rw [BitVec.toNat_ofNat, Nat.mod_eq_of_lt hm]
  have hne : BitVec.ofNat 52 m ≠ 0#52 := by
    intro hzero
    rw [hzero] at hmantissa
    exact hpos.ne hmantissa
  have hlast : 0#11 ≠ -1#11 := by decide
  have hpack : UnpackedFloat.pack .binary64 (.finite s m (-1074) hpos) =
      packComponents .binary64 s 0#11 (BitVec.ofNat 52 m) := by
    simp only [UnpackedFloat.pack, hbiased, if_neg hlog]
    rfl
  show UnpackedFloat.unpack .binary64 (UnpackedFloat.pack .binary64 (.finite s m (-1074) hpos)) = _
  rw [hpack, UnpackedFloat.unpack]
  simp only [unpackMantissa_packComponents, unpackExponent_packComponents, unpackSign_packComponents,
    Sign.ofBitVec_toBitVec, if_neg hlast, if_true, dif_neg hne, hmantissa]
  rfl

/-- Beyond the greatest exponent there are only the infinities. -/
theorem unpack_pack_overflow (h : Full m) (hq : 971 < q) :
    (Float.Model.pack (.finite s m q h.pos)).unpack = .infinity s := by
  have hbiased : 2 ^ Format.binary64.exponentBits ≤
      (q + Format.binary64.exponentBias + Format.binary64.mantissaBitsWithoutImplicit).toNat + 1 := by
    simp only [Format.exponentBias]
    omega
  have hpack : UnpackedFloat.pack .binary64 (.finite s m q h.pos) = packedInfinity .binary64 s := by
    simp only [UnpackedFloat.pack, if_pos hbiased]
  show UnpackedFloat.unpack .binary64 (UnpackedFloat.pack .binary64 (.finite s m q h.pos)) = _
  rw [hpack]
  cases s <;> rfl

/-- A double comes out of the bits as it has been put in, or as infinity. -/
theorem view_pack {u : UnpackedFloat} {negative : Bool} (hu : View.ofUnpacked u = .finite negative m q)
    (hm : Canonical m q) : View.ofUnpacked (Float.Model.pack u).unpack =
      if 971 < q then .infinite negative else .finite negative m q := by
  cases u with
  | notANumber => cases hu
  | infinity s => cases hu
  | zero s =>
    obtain ⟨rfl, rfl, rfl⟩ := View.finite.inj hu
    cases s <;> rfl
  | finite s n t hpos =>
    obtain ⟨rfl, rfl, rfl⟩ := View.finite.inj hu
    split
    · rename_i hover
      rw [unpack_pack_overflow ⟨hm.full (by omega), hm.lt⟩ hover]
      rfl
    · rename_i hover
      rcases Nat.lt_or_ge n (2 ^ 52) with hsmall | hfull
      · obtain rfl : t = -1074 := by
          have := hm.le
          have := mt hm.full
          omega
        rw [unpack_pack_subnormal hpos hsmall]
        rfl
      · rw [unpack_pack_full ⟨hfull, hm.lt⟩ hm.le (by omega)]
        rfl

/-! ## Products -/

theorem isMinus_mul (s t : Sign) : isMinus (s * t) = (isMinus s ^^ isMinus t) := by
  cases s <;> cases t <;> rfl

/-- A product of mantissas is long enough: no place has to be added to it. -/
theorem le_lastPlace_mul (hm : Canonical m q) (hn : Canonical n r) (hmpos : 0 < m) (hnpos : 0 < n) :
    q + r ≤ lastPlace (m * n) (q + r) := by
  have hle {k : Nat} (hk : 2 ^ 52 ≤ k) (hkn : k ≤ m * n) : q + r ≤ lastPlace (m * n) (q + r) := by
    have hlog := (Nat.le_log2 (Nat.mul_pos hmpos hnpos).ne').2 (hk.trans hkn)
    unfold lastPlace
    omega
  by_cases hq : -1074 < q
  · exact hle (hm.full hq) (Nat.le_mul_of_pos_right m hnpos)
  by_cases hr : -1074 < r
  · exact hle (hn.full hr) (Nat.le_mul_of_pos_left n hmpos)
  · unfold lastPlace
    omega

theorem nearest_zero : Nearest 0 0 (-1074) := by
  refine ⟨⟨by decide, le_rfl, fun h => absurd h (lt_irrefl _)⟩, ?_⟩
  rw [Nat.cast_zero, zero_mul, sub_zero, abs_zero]
  positivity

/-- The product before it is put into bits. -/
theorem exists_mul_unpacked {a b : UnpackedFloat} {negative negative' : Bool}
    (ha : View.ofUnpacked a = .finite negative m q) (hb : View.ofUnpacked b = .finite negative' n r)
    (hm : Canonical m q) (hn : Canonical n r) :
    ∃ k t, Nearest (m * 2 ^ q * (n * 2 ^ r)) k t ∧
      View.ofUnpacked (UnpackedFloat.mul .binary64 a b) = .finite (negative ^^ negative') k t := by
  cases a with
  | notANumber => cases ha
  | infinity s => cases ha
  | zero s =>
    obtain ⟨rfl, rfl, rfl⟩ := View.finite.inj ha
    refine ⟨0, -1074, by simpa using nearest_zero, ?_⟩
    cases b with
    | notANumber => cases hb
    | infinity t => cases hb
    | _ t =>
      obtain ⟨rfl, -, -⟩ := View.finite.inj hb
      exact congrArg (View.finite · 0 (-1074)) (isMinus_mul s t)
  | finite s m' q' hmpos =>
    obtain ⟨rfl, rfl, rfl⟩ := View.finite.inj ha
    cases b with
    | notANumber => cases hb
    | infinity t => cases hb
    | zero t =>
      obtain ⟨rfl, rfl, rfl⟩ := View.finite.inj hb
      exact ⟨0, -1074, by simpa using nearest_zero, congrArg (View.finite · 0 (-1074)) (isMinus_mul s t)⟩
    | finite t n' r' hnpos =>
      obtain ⟨rfl, rfl, rfl⟩ := View.finite.inj hb
      obtain ⟨k, place, hview, hnear⟩ :=
        exists_roundWithAccuracy (s * t) (Nat.mul_pos hmpos hnpos) (le_lastPlace_mul hm hn hmpos hnpos)
      have hvalue : ((m' * n' : Nat) : ℚ) * 2 ^ (q' + r') = m' * 2 ^ q' * (n' * 2 ^ r') := by
        rw [Nat.cast_mul, zpow_add₀ two_ne_zero]
        ring
      rw [isMinus_mul] at hview
      exact ⟨k, place, hvalue ▸ hnear, hview⟩

/-- The product is taken of the unpacked doubles. -/
theorem view_mul_eq (x y : Float) : view (x * y) =
    .ofUnpacked (Float.Model.pack (UnpackedFloat.mul .binary64 x.toModel.unpack y.toModel.unpack)).unpack := view_eq _

/-- **Products.**  The product of two finite doubles is the double nearest to the exact product, or infinite if its
exponent is too great. -/
theorem view_mul {x y : Float} {negative negative' : Bool} (hx : view x = .finite negative m q)
    (hy : view y = .finite negative' n r) :
    ∃ k t, Nearest (m * 2 ^ q * (n * 2 ^ r)) k t ∧
      view (x * y) = if 971 < t then .infinite (negative ^^ negative') else .finite (negative ^^ negative') k t := by
  have hm := canonical_of_view hx
  have hn := canonical_of_view hy
  rw [view_eq] at hx hy
  obtain ⟨k, t, hnear, hproduct⟩ := exists_mul_unpacked hx hy hm hn
  exact ⟨k, t, hnear, (view_mul_eq x y).trans (view_pack hproduct hnear.canonical)⟩

theorem view_mul_nan {x : Float} (hx : view x = .nan) (y : Float) : view (x * y) = .nan := by
  rw [view_eq] at hx
  rw [view_mul_eq]
  generalize x.toModel.unpack = a at *
  cases a with
  | notANumber =>
    have hmul : UnpackedFloat.mul .binary64 .notANumber y.toModel.unpack = .notANumber := by
      cases y.toModel.unpack <;> rfl
    have hunpack : (Float.Model.pack .notANumber).unpack = .notANumber := rfl
    rw [hmul, hunpack, View.ofUnpacked]
  | _ => cases hx

theorem view_mul_infinite {x y : Float} {negative negative' : Bool} (hx : view x = .infinite negative)
    (hy : view y = .finite negative' n r) (hn : 0 < n) : view (x * y) = .infinite (negative ^^ negative') := by
  rw [view_eq] at hx hy
  rw [view_mul_eq]
  generalize x.toModel.unpack = a at *
  generalize y.toModel.unpack = b at *
  cases a with
  | infinity s =>
    obtain rfl := View.infinite.inj hx
    cases b with
    | finite t k place hpos =>
      obtain ⟨rfl, -, -⟩ := View.finite.inj hy
      have hmul : UnpackedFloat.mul .binary64 (.infinity s) (.finite t k place hpos) = .infinity (s * t) := rfl
      have hunpack : (Float.Model.pack (.infinity (s * t))).unpack = .infinity (s * t) := by cases s <;> cases t <;> rfl
      rw [hmul, hunpack, View.ofUnpacked, isMinus_mul]
    | zero t =>
      obtain ⟨-, rfl, -⟩ := View.finite.inj hy
      exact absurd hn (lt_irrefl 0)
    | _ => cases hy
  | _ => cases hx

end DocFlow.Number
