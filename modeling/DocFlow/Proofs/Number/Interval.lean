import DocFlow.Number.Shortest
import DocFlow.Proofs.Number.View
import Mathlib.Algebra.Order.Field.Power
import Mathlib.Algebra.Order.Field.Rat
import Mathlib.Tactic.Linarith
import Mathlib.Tactic.NormNum
import Mathlib.Tactic.Positivity
import Mathlib.Tactic.Ring

/-!
# Numbers that read back as a double

The rational numbers that read back as a double are those of its `Target` (`Target.Contains`).  No number
reads back as two doubles (`eq_of_contains`): the interval of a double ends where the next one begins, and
of two neighbours only one has an even mantissa.  The shortest decimal of a double is one of the numbers
that read back as it (`contains_shortest`), because a grid of seventeen digits is finer than the interval.
-/

namespace DocFlow.Number

def Decimal.value (d : Decimal) : ℚ := d.significand * 10 ^ d.exponent

/-- The number lies in the interval that reads back as the target. -/
def Target.Contains (t : Target) (r : ℚ) : Prop :=
  if t.closed then t.low ≤ r * t.den ∧ r * t.den ≤ t.high else t.low < r * t.den ∧ r * t.den < t.high

theorem zpow_mul_pow_toNat {b : ℚ} (hb : b ≠ 0) (k : ℤ) : b ^ k * b ^ (-k).toNat = b ^ k.toNat := by
  rw [← zpow_natCast, ← zpow_natCast, ← zpow_add₀ hb]
  congr 1
  omega

/-! ## No number reads back as two doubles -/

/-- The distance to the midpoint below, in quarters of the gap above. -/
def quartersBelow (m : Nat) (q : Int) : Nat := if m = 2 ^ 52 ∧ -1074 < q then 1 else 2

theorem quartersBelow_cases (m : Nat) (q : Int) :
    (quartersBelow m q = 1 ∧ m = 2 ^ 52) ∨ (quartersBelow m q = 2 ∧ (-1074 < q → m ≠ 2 ^ 52)) := by
  unfold quartersBelow
  split
  · rename_i h
    exact .inl ⟨rfl, h.1⟩
  · rename_i h
    exact .inr ⟨rfl, fun hq hm => h ⟨hm, hq⟩⟩

variable {m m' : Nat} {q q' : Int} {r : ℚ}

/-- The interval of a double as numbers. -/
theorem contains_ofParts_iff : (Target.ofParts m q).Contains r ↔
    if m % 2 = 0 then
      ((4 * m - quartersBelow m q : Nat) : ℚ) * 2 ^ (q - 2) ≤ r ∧ r ≤ (4 * m + 2 : Nat) * 2 ^ (q - 2)
    else
      ((4 * m - quartersBelow m q : Nat) : ℚ) * 2 ^ (q - 2) < r ∧ r < (4 * m + 2 : Nat) * 2 ^ (q - 2) := by
  have hden : (0 : ℚ) < 2 ^ (2 - q).toNat := by positivity
  have hunit : (2 : ℚ) ^ (q - 2).toNat = 2 ^ (q - 2) * 2 ^ (2 - q).toNat := by
    rw [← zpow_mul_pow_toNat two_ne_zero (q - 2), neg_sub]
  have hle (a : Nat) : ((a * 2 ^ (q - 2).toNat : Nat) : ℚ) = a * 2 ^ (q - 2) * 2 ^ (2 - q).toNat := by
    push_cast
    rw [hunit, mul_assoc]
  have htarget : Target.ofParts m q = ⟨4 * m * 2 ^ (q - 2).toNat,
    (4 * m - quartersBelow m q) * 2 ^ (q - 2).toNat, (4 * m + 2) * 2 ^ (q - 2).toNat,
    2 ^ (2 - q).toNat, m % 2 = 0⟩ := rfl
  rw [htarget, Target.Contains]
  simp only [decide_eq_true_eq, hle, Nat.cast_pow, Nat.cast_ofNat, mul_le_mul_iff_left₀ hden,
    mul_lt_mul_iff_left₀ hden]

/-- The interval of the greater of two doubles begins where that of the smaller one ends, or above. -/
theorem high_le_low (hm : Canonical m q) (hm' : Canonical m' q') (hlt : q < q' ∨ q = q' ∧ m < m') :
    ((4 * m + 2 : Nat) : ℚ) * 2 ^ (q - 2) ≤ (4 * m' - quartersBelow m' q' : Nat) * 2 ^ (q' - 2) ∧
    (m % 2 = 0 → m' % 2 = 0 →
      ((4 * m + 2 : Nat) : ℚ) * 2 ^ (q - 2) < (4 * m' - quartersBelow m' q' : Nat) * 2 ^ (q' - 2)) := by
  have hunit : (0 : ℚ) < 2 ^ (q - 2) := by positivity
  have hbelow := quartersBelow_cases m' q'
  have hleast := hm.le
  rcases hlt with hq | ⟨rfl, hlt⟩
  · -- a greater exponent makes the gap at least twice as wide, and the mantissa has all its bits
    have hfull := hm'.full (by omega)
    have hdouble : (2 : ℚ) * 2 ^ (q - 2) ≤ 2 ^ (q' - 2) := by
      rw [← zpow_one_add₀ two_ne_zero]
      exact zpow_le_zpow_right₀ one_le_two (by omega)
    have hlow : ((2 * (4 * m' - quartersBelow m' q') : Nat) : ℚ) * 2 ^ (q - 2) ≤
        (4 * m' - quartersBelow m' q' : Nat) * 2 ^ (q' - 2) := by
      push_cast
      rw [mul_comm 2, mul_assoc]
      exact mul_le_mul_of_nonneg_left hdouble (Nat.cast_nonneg _)
    have hlt := hm.lt
    constructor
    · refine le_trans ?_ hlow
      rw [mul_le_mul_iff_left₀ hunit, Nat.cast_le]
      omega
    · intro heven _
      refine lt_of_lt_of_le ?_ hlow
      rw [mul_lt_mul_iff_left₀ hunit, Nat.cast_lt]
      omega
  · rw [mul_le_mul_iff_left₀ hunit, mul_lt_mul_iff_left₀ hunit, Nat.cast_le, Nat.cast_lt]
    omega

theorem not_contains_of_lt (hm : Canonical m q) (hm' : Canonical m' q') (hlt : q < q' ∨ q = q' ∧ m < m')
    (hr : (Target.ofParts m q).Contains r) : ¬ (Target.ofParts m' q').Contains r := by
  intro hr'
  obtain ⟨hle, hlt⟩ := high_le_low hm hm' hlt
  rw [contains_ofParts_iff] at hr hr'
  split at hr <;> split at hr'
  · exact absurd (hr'.1.trans hr.2) (not_le.2 (hlt ‹_› ‹_›))
  · exact absurd (hr'.1.trans_le hr.2) (not_lt.2 hle)
  · exact absurd (hr'.1.trans_lt hr.2) (not_lt.2 hle)
  · exact absurd (hr'.1.trans hr.2) (not_lt.2 hle)

/-- No number reads back as two doubles. -/
theorem eq_of_contains (hm : Canonical m q) (hm' : Canonical m' q')
    (hr : (Target.ofParts m q).Contains r) (hr' : (Target.ofParts m' q').Contains r) :
    m = m' ∧ q = q' := by
  rcases lt_trichotomy q q' with hq | rfl | hq
  · exact absurd hr' (not_contains_of_lt hm hm' (.inl hq) hr)
  · rcases lt_trichotomy m m' with hlt | rfl | hlt
    · exact absurd hr' (not_contains_of_lt hm hm' (.inr ⟨rfl, hlt⟩) hr)
    · exact ⟨rfl, rfl⟩
    · exact absurd hr (not_contains_of_lt hm' hm (.inr ⟨rfl, hlt⟩) hr')
  · exact absurd hr (not_contains_of_lt hm' hm (.inl hq) hr')

/-! ## Grids -/

theorem Target.holds_iff {t : Target} {d : Nat} : t.holds d = true ↔
    if t.closed then t.low ≤ d * t.den ∧ d * t.den ≤ t.high else t.low < d * t.den ∧ d * t.den < t.high := by
  unfold holds
  split <;> simp

/-- Scaling moves the interval to the grid of a power of ten. -/
theorem Target.holds_scale (t : Target) (k : Int) (d : Nat) :
    (t.scale k).holds d = true ↔ t.Contains (d * 10 ^ k) := by
  have hup : (0 : ℚ) < 10 ^ (-k).toNat := by positivity
  have hunit := zpow_mul_pow_toNat (b := (10 : ℚ)) (by norm_num) k
  have hd : ((d * (t.den * 10 ^ k.toNat) : Nat) : ℚ) = d * 10 ^ k * t.den * 10 ^ (-k).toNat := by
    push_cast
    rw [← hunit]
    ring
  have ha (a : Nat) : ((a * 10 ^ (-k).toNat : Nat) : ℚ) = a * 10 ^ (-k).toNat := by
    push_cast
    rfl
  have hle (a : Nat) : a * 10 ^ (-k).toNat ≤ d * (t.den * 10 ^ k.toNat) ↔ (a : ℚ) ≤ d * 10 ^ k * t.den := by
    rw [← Nat.cast_le (α := ℚ), hd, ha, mul_le_mul_iff_left₀ hup]
  have hge (a : Nat) : d * (t.den * 10 ^ k.toNat) ≤ a * 10 ^ (-k).toNat ↔ d * 10 ^ k * t.den ≤ (a : ℚ) := by
    rw [← Nat.cast_le (α := ℚ), hd, ha, mul_le_mul_iff_left₀ hup]
  have hlt (a b : Nat) (x y : ℚ) (h : b ≤ a ↔ y ≤ x) : a < b ↔ x < y := by
    rw [← not_le, ← not_le, h]
  rw [holds_iff, Contains]
  simp only [scale, hle, hge, hlt _ _ _ _ (hge _), hlt _ _ _ _ (hle _)]

theorem Target.holds_of_nearest? {t : Target} {d : Nat} (h : t.nearest? = some d) : t.holds d = true := by
  simp only [nearest?] at h
  cases hlow : t.holds (t.value / t.den) <;> cases hhigh : t.holds (t.value / t.den + 1) <;>
    simp only [hlow, hhigh] at h
  · cases h
  · cases h
    exact hhigh
  · cases h
    exact hlow
  · split at h <;> cases h
    · exact hlow
    · exact hhigh

theorem Target.holds_eq_false_of_nearest? {t : Target} (h : t.nearest? = none) :
    t.holds (t.value / t.den) = false ∧ t.holds (t.value / t.den + 1) = false := by
  simp only [nearest?] at h
  cases hlow : t.holds (t.value / t.den) <;> cases hhigh : t.holds (t.value / t.den + 1) <;>
    simp only [hlow, hhigh] at h
  · exact ⟨rfl, rfl⟩
  · cases h
  · cases h
  · split at h <;> cases h

/-! ## Seventeen digits -/

theorem pow_digitCount_le {n : Nat} (hn : 0 < n) : 10 ^ (digitCount n - 1) ≤ n := by
  by_contra hlt
  have hpos : 0 < digitCount n := Nat.length_toDigits_pos
  have h1 : 1 < digitCount n := by
    by_contra h
    have : digitCount n - 1 = 0 := by omega
    rw [this] at hlt
    omega
  have := (Nat.length_toDigits_le_iff (b := 10) (by decide) (by omega)).2 (not_le.1 hlt)
  change digitCount n ≤ digitCount n - 1 at this
  omega

theorem lt_pow_digitCount (n : Nat) : n < 10 ^ digitCount n :=
  (Nat.length_toDigits_le_iff (by decide) Nat.length_toDigits_pos).1 (le_refl (digitCount n))

/-- The value has at least the digits that its magnitude says. -/
theorem Target.magnitude_le {t : Target} (hv : 0 < t.value) :
    (10 : ℚ) ^ (t.magnitude - 1) * t.den ≤ t.value := by
  have hten : (10 : ℚ) ≠ 0 := by norm_num
  let n : Int := (digitCount t.value : Int) - digitCount t.den
  have hmagnitude : t.magnitude =
    if t.value * 10 ^ (-n).toNat < t.den * 10 ^ n.toNat then n else n + 1 := rfl
  rw [hmagnitude]
  split
  · have hvalue : (10 : ℚ) ^ ((digitCount t.value : Int) - 1) ≤ t.value := by
      have h := pow_digitCount_le hv
      have hpos : 0 < digitCount t.value := Nat.length_toDigits_pos
      rw [← Nat.cast_le (α := ℚ)] at h
      push_cast at h
      rwa [← zpow_natCast, Nat.cast_sub hpos, Nat.cast_one] at h
    have hden : (t.den : ℚ) ≤ 10 ^ (digitCount t.den : Int) := by
      have h := (lt_pow_digitCount t.den).le
      rw [← Nat.cast_le (α := ℚ)] at h
      push_cast at h
      rwa [zpow_natCast]
    calc (10 : ℚ) ^ (n - 1) * t.den ≤ 10 ^ (n - 1) * 10 ^ (digitCount t.den : Int) := by gcongr
      _ = 10 ^ ((digitCount t.value : Int) - 1) := by
        rw [← zpow_add₀ hten]
        congr 1
        omega
      _ ≤ t.value := hvalue
  · rename_i h
    have hup : (0 : ℚ) < 10 ^ (-n).toNat := by positivity
    rw [not_lt, ← Nat.cast_le (α := ℚ)] at h
    push_cast at h
    rw [← zpow_mul_pow_toNat hten, ← mul_assoc, mul_le_mul_iff_left₀ hup, mul_comm] at h
    rwa [add_sub_cancel_right]

/-- A grid of which `10 ^ 16` steps are not more than the value has a point in the interval. -/
theorem Target.nearest?_ne_none {m u : Nat} {q : Int} {t : Target} (hm : m < 2 ^ 53) (hpos : 0 < m)
    (hvalue : t.value = 4 * m * u) (hlow : t.low = (4 * m - quartersBelow m q) * u)
    (hhigh : t.high = (4 * m + 2) * u) (hden : 0 < t.den) (hfine : 10 ^ 16 * t.den ≤ t.value) :
    t.nearest? ≠ none := by
  intro hnone
  obtain ⟨hfirst, hsecond⟩ := holds_eq_false_of_nearest? hnone
  rw [← Bool.not_eq_true, holds_iff] at hfirst hsecond
  have hdiv := Nat.div_add_mod t.value t.den
  have hmod := Nat.mod_lt t.value hden
  have hstep : (t.value / t.den + 1) * t.den = t.den * (t.value / t.den) + t.den := by ring
  rw [hstep] at hsecond
  rw [Nat.mul_comm _ t.den] at hfirst
  have hunits : t.value ≤ (2 ^ 55 - 4) * u := by
    rw [hvalue]
    exact Nat.mul_le_mul_right u (by omega)
  have hbelow : t.low + quartersBelow m q * u = t.value := by
    rw [hlow, hvalue, ← Nat.add_mul]
    have := quartersBelow_cases m q
    congr 1
    omega
  have habove : t.high = t.value + 2 * u := by
    rw [hhigh, hvalue]
    ring
  -- half a step of the grid is less than the distance to either midpoint
  have hhalf : 2 * (t.value % t.den) ≤ t.den → t.value % t.den < quartersBelow m q * u := by
    intro hle
    rcases quartersBelow_cases m q with ⟨hbelow, rfl⟩ | ⟨hbelow, -⟩ <;> rw [hbelow] <;> omega
  generalize t.den * (t.value / t.den) = p at *
  split at hfirst <;> split at hsecond <;> omega

/-! ## The shortest decimal -/

variable {t : Target}

/-- If a grid of as many digits as the fuel leaves has a point in the interval, the search finds a number
of the interval. -/
theorem Target.contains_search {magnitude : Int} {digits fuel : Nat}
    (hlast : (t.scale (magnitude - (digits + fuel : Nat))).nearest? ≠ none) :
    t.Contains (t.search magnitude digits (fuel + 1)).value := by
  induction fuel generalizing digits with
  | zero =>
    rw [search]
    split
    · rename_i d hd
      exact (t.holds_scale _ d).1 (holds_of_nearest? hd)
    · rename_i hd
      exact absurd hd hlast
  | succ fuel ih =>
    rw [search]
    split
    · rename_i d hd
      exact (t.holds_scale _ d).1 (holds_of_nearest? hd)
    · refine ih ?_
      rwa [show digits + 1 + fuel = digits + (fuel + 1) by omega]

theorem Decimal.value_strip (d : Decimal) (fuel : Nat) : (d.strip fuel).value = d.value := by
  induction fuel generalizing d with
  | zero => rfl
  | succ fuel ih =>
    rw [strip]
    split
    · rename_i hzero
      have htens : d.significand = d.significand / 10 * 10 := by omega
      rw [ih, value, value, zpow_add_one₀ (by norm_num), htens, Nat.mul_div_cancel _ (by norm_num)]
      push_cast
      ring
    · rfl

/-- The grid of seventeen digits has a point in the interval. -/
theorem nearest?_seventeen (hm : Canonical m q) (hpos : 0 < m) :
    ((Target.ofParts m q).scale ((Target.ofParts m q).magnitude - 17)).nearest? ≠ none := by
  have hten : (10 : ℚ) ≠ 0 := by norm_num
  generalize ht : Target.ofParts m q = t
  have htarget : t = ⟨4 * m * 2 ^ (q - 2).toNat, (4 * m - quartersBelow m q) * 2 ^ (q - 2).toNat,
    (4 * m + 2) * 2 ^ (q - 2).toNat, 2 ^ (2 - q).toNat, m % 2 = 0⟩ := ht.symm
  have hvalue : 0 < t.value := by
    rw [htarget]
    positivity
  generalize hk : t.magnitude - 17 = k
  -- the grid is that of the seventeenth digit, so the value has at least `10 ^ 16` of its steps
  have hfine : 10 ^ 16 * (t.den * 10 ^ k.toNat) ≤ t.value * 10 ^ (-k).toNat := by
    rw [← Nat.cast_le (α := ℚ)]
    push_cast
    calc (10 : ℚ) ^ 16 * (t.den * 10 ^ k.toNat)
        = 10 ^ (16 + k) * t.den * 10 ^ (-k).toNat := by
          rw [← zpow_mul_pow_toNat hten, zpow_add₀ hten]
          push_cast
          ring
      _ = 10 ^ (t.magnitude - 1) * t.den * 10 ^ (-k).toNat := by
          rw [← hk]
          congr 3
          omega
      _ ≤ t.value * 10 ^ (-k).toNat := by
          gcongr
          exact t.magnitude_le hvalue
  have hden : 0 < t.den * 10 ^ k.toNat := by
    rw [htarget]
    positivity
  refine Target.nearest?_ne_none (u := 2 ^ (q - 2).toNat * 10 ^ (-k).toNat) (q := q) hm.lt hpos ?_ ?_ ?_
    hden hfine
  all_goals
    rw [htarget]
    exact Nat.mul_assoc _ _ _

/-- The shortest decimal of a double reads back as it. -/
theorem contains_shortest (hm : Canonical m q) (hpos : 0 < m) :
    (Target.ofParts m q).Contains (shortest m q).value := by
  rw [shortest, if_neg (Nat.ne_of_gt hpos), Decimal.value_strip]
  exact Target.contains_search (nearest?_seventeen hm hpos)

end DocFlow.Number
