import DocFlow.Expr.Eval
import DocFlow.Proofs.Calendar.Range
import DocFlow.Proofs.Number.Product

/-!
# Parts of dates that are numbers

A number of seconds is taken to milliseconds by a product, which is rounded, and the product to the nearest integer of 64
bits.  The rounding of the product does not matter at the ends of the calendar: there the doubles are the integers, and
no number of seconds lies half a millisecond behind an end, as twice that is no multiple of 125 (`natRound_le_iff`).  So a
number is refused exactly if the milliseconds nearest to it are not in the calendar (`Expr.datePart_of_number`).

Only NaN gets through: it is no number of milliseconds, but the nearest integer of 64 bits is taken to be zero
(`Expr.datePart_nan`).
-/

namespace DocFlow

/-! ## Rounding at a bound -/

namespace Number

variable {m k B : Nat} {q t : Int} {v : ℚ}

theorem cast_le_of_lt_succ (h : (k : ℚ) < B + 1) : (k : ℚ) ≤ B := by
  exact_mod_cast Nat.le_of_lt_succ (by exact_mod_cast h)

theorem natRound_le_iff : natRound m q ≤ B ↔ (m : ℚ) * 2 ^ q < B + 1 / 2 := by
  cases q with
  | ofNat e =>
    have hvalue : (m : ℚ) * 2 ^ (Int.ofNat e) = ((m * 2 ^ e : Nat) : ℚ) := by
      push_cast
      rfl
    rw [hvalue]
    show m * 2 ^ e ≤ B ↔ _
    generalize m * 2 ^ e = a
    constructor
    · intro h
      have : (a : ℚ) ≤ B := Nat.cast_le.2 h
      linarith
    · intro h
      exact Nat.cast_le.1 (cast_le_of_lt_succ (by linarith))
  | negSucc e =>
    have hunit : (0 : ℚ) < 2 ^ (e + 1) := by positivity
    have hvalue : (m : ℚ) * 2 ^ (Int.negSucc e) = m / 2 ^ (e + 1) := by
      rw [zpow_negSucc, div_eq_mul_inv]
    rw [hvalue, div_lt_iff₀ hunit]
    show (m + 2 ^ e) / 2 ^ (e + 1) ≤ B ↔ _
    rw [← Nat.lt_succ_iff, Nat.div_lt_iff_lt_mul (Nat.two_pow_pos _), ← @Nat.cast_lt ℚ]
    push_cast
    rw [pow_succ]
    constructor <;> intro h <;> linarith

/-- With places of two or more a double is beyond every bound of 53 bits. -/
theorem Nearest.bound_lt (h : Nearest v k t) (ht : 0 < t) (hB : B + 1 < 2 ^ 53) :
    (B : ℚ) + 1 / 2 ≤ k * 2 ^ t ∧ (B : ℚ) + 1 / 2 ≤ v := by
  have hunit : (2 : ℚ) ≤ 2 ^ t := by
    calc (2 : ℚ) = 2 ^ (1 : ℤ) := (zpow_one 2).symm
      _ ≤ 2 ^ t := zpow_le_zpow_right₀ one_le_two ht
  have hfull : ((2 ^ 52 : Nat) : ℚ) ≤ k := Nat.cast_le.2 (h.canonical.full (by omega))
  have hbound : (B : ℚ) + 2 ≤ 2 ^ 53 := by exact_mod_cast hB
  have hk : ((2 ^ 52 : Nat) : ℚ) * 2 ^ t ≤ k * 2 ^ t := by gcongr
  obtain ⟨hlow, hhigh⟩ := abs_le.1 h.abs_sub_le
  push_cast at hk
  constructor <;> linarith

/-- Where the places are one, rounding to a double and rounding to an integer are the same but for a half; below it all
is within the bound, and above it nothing is. -/
theorem Nearest.natRound_le_iff (h : Nearest v k t) (hlo : 2 ^ 52 ≤ B) (hhi : B + 1 < 2 ^ 53) (htie : v ≠ B + 1 / 2) :
    natRound k t ≤ B ↔ v < B + 1 / 2 := by
  rw [Number.natRound_le_iff]
  obtain ⟨hlow, hhigh⟩ := abs_le.1 h.abs_sub_le
  rcases lt_trichotomy t 0 with ht | rfl | ht
  · have hunit : (2 : ℚ) ^ t ≤ 1 / 2 := by
      calc (2 : ℚ) ^ t ≤ 2 ^ (-1 : ℤ) := zpow_le_zpow_right₀ one_le_two (by omega)
        _ = 1 / 2 := by norm_num
    have hk : (k : ℚ) ≤ 2 ^ 53 := by exact_mod_cast h.canonical.lt.le
    have hbound : (2 : ℚ) ^ 52 ≤ B := by exact_mod_cast hlo
    have hsmall : (k : ℚ) * 2 ^ t ≤ 2 ^ 53 * (1 / 2) := by gcongr
    exact iff_of_true (by linarith) (by linarith)
  · rw [zpow_zero, mul_one] at *
    constructor
    · intro hle
      have hk : (k : ℚ) ≤ B := cast_le_of_lt_succ (by linarith)
      exact lt_of_le_of_ne (by linarith) htie
    · intro hlt
      have hk : (k : ℚ) ≤ B := cast_le_of_lt_succ (by linarith)
      linarith
  · obtain ⟨hk, hv⟩ := h.bound_lt ht hhi
    exact iff_of_false (by linarith) (by linarith)

/-- Twice a number of milliseconds that a double of seconds denotes is a multiple of 125, but for powers of two. -/
theorem thousand_mul_ne (hB : ¬ 125 ∣ 2 * B + 1) : (m : ℚ) * 2 ^ q * 1000 ≠ B + 1 / 2 := by
  intro h
  have hscaled : 2000 * m * 2 ^ q.toNat = (2 * B + 1) * 2 ^ (-q).toNat := by
    have hvalue : (2000 * m * 2 ^ q.toNat : ℚ) = (2 * B + 1) * 2 ^ (-q).toNat := by
      rw [← zpow_mul_pow_toNat two_ne_zero q]
      calc (2000 * m * (2 ^ q * 2 ^ (-q).toNat) : ℚ) = 2 * (m * 2 ^ q * 1000) * 2 ^ (-q).toNat := by ring
        _ = (2 * B + 1) * 2 ^ (-q).toNat := by
          rw [h]
          ring
    exact_mod_cast hvalue
  have hdvd : 125 ∣ (2 * B + 1) * 2 ^ (-q).toNat :=
    hscaled ▸ Dvd.intro (16 * m * 2 ^ q.toNat) (by ring)
  exact hB ((Nat.Coprime.pow_right _ (by decide : Nat.Coprime 125 2)).dvd_of_dvd_mul_right hdvd)

theorem view_thousand : view 1000.0 = .finite false 8796093022208000 (-43) := by decide +kernel

end Number

/-! ## Milliseconds in the calendar -/

open Calendar (Instant)
open Number (View view natRound signed toInt64 Nearest)

/-- The milliseconds nearest to a number of seconds; a half goes away from zero. -/
def millisOf? : View → Option Int
  | .finite negative m q => some (signed negative (natRound (1000 * m) q))
  | _ => none

/-- The number of seconds denotes an instant: the milliseconds nearest to it are in the calendar. -/
def Datable (x : Float) : Prop := ∃ n ∈ millisOf? (view x), Instant.firstMillis ≤ n ∧ n ≤ Instant.lastMillis

instance (x : Float) : Decidable (Datable x) :=
  inferInstanceAs (Decidable (∃ n ∈ millisOf? (view x), Instant.firstMillis ≤ n ∧ n ≤ Instant.lastMillis))

/-- The magnitude of the last millisecond of the calendar on a side of the epoch. -/
def lastMagnitude (negative : Bool) : Nat := if negative then 8334601228800000 else 8210266876799999

theorem signed_in_calendar_iff {negative : Bool} {a : Nat} :
    Instant.firstMillis ≤ signed negative a ∧ signed negative a ≤ Instant.lastMillis ↔ a ≤ lastMagnitude negative := by
  rw [Instant.firstMillis_eq, Instant.lastMillis_eq]
  cases negative <;> simp only [signed, lastMagnitude, if_true, Bool.false_eq_true, if_false] <;> omega

/-- A number of 64 bits is in the calendar if the number before it was brought into the range of 64 bits is. -/
theorem clamped_in_calendar_iff {n : Int} :
    Instant.firstMillis ≤ max Number.minInt64 (min Number.maxInt64 n) ∧
      max Number.minInt64 (min Number.maxInt64 n) ≤ Instant.lastMillis ↔
    Instant.firstMillis ≤ n ∧ n ≤ Instant.lastMillis := by
  have hmin : Number.minInt64 = -9223372036854775808 := rfl
  have hmax : Number.maxInt64 = 9223372036854775807 := rfl
  rw [Instant.firstMillis_eq, Instant.lastMillis_eq, hmin, hmax]
  omega

/-- The end of the calendar is a number of 53 bits, and no number of seconds denotes half a millisecond behind it. -/
theorem lastMagnitude_bounds (negative : Bool) : 2 ^ 52 ≤ lastMagnitude negative ∧ lastMagnitude negative + 1 < 2 ^ 53 ∧
    ¬ 125 ∣ 2 * lastMagnitude negative + 1 := by
  cases negative <;> decide

theorem toInt64_infinite {y : Float} {negative : Bool} (hy : view y = .infinite negative) :
    ¬ (Instant.firstMillis ≤ toInt64 y ∧ toInt64 y ≤ Instant.lastMillis) := by
  rw [toInt64, hy]
  cases negative <;> decide

theorem toInt64_thousand_iff {x : Float} {negative : Bool} {m : Nat} {q : Int} (hx : view x = .finite negative m q) :
    Instant.firstMillis ≤ toInt64 (x * 1000.0) ∧ toInt64 (x * 1000.0) ≤ Instant.lastMillis ↔
      natRound (1000 * m) q ≤ lastMagnitude negative := by
  obtain ⟨hlo, hhi, hodd⟩ := lastMagnitude_bounds negative
  obtain ⟨k, t, hnear, hview⟩ := Number.view_mul hx Number.view_thousand
  have hproduct : (m : ℚ) * 2 ^ q * ((8796093022208000 : Nat) * 2 ^ (-43 : ℤ)) = m * 2 ^ q * 1000 := by norm_num
  have hexact : ((1000 * m : Nat) : ℚ) * 2 ^ q = m * 2 ^ q * 1000 := by
    push_cast
    ring
  rw [hproduct] at hnear
  rw [Bool.xor_false] at hview
  rw [Number.natRound_le_iff, hexact]
  split at hview
  · have hbeyond := (hnear.bound_lt (by omega) hhi).2
    exact iff_of_false (toInt64_infinite hview) hbeyond.not_gt
  · rw [← hnear.natRound_le_iff hlo hhi (Number.thousand_mul_ne hodd), ← signed_in_calendar_iff, toInt64, hview]
    exact clamped_in_calendar_iff

/-- A number of seconds is taken for an instant if it denotes one, or if it is NaN. -/
theorem Expr.exists_instantOfSeconds?_iff {x : Float} :
    (∃ t, Expr.instantOfSeconds? x = some t) ↔ Datable x ∨ x.isNaN = true := by
  rw [Expr.instantOfSeconds?, Instant.exists_ofMillis?_iff, Number.isNaN_iff_view]
  unfold Datable
  cases hx : view x with
  | nan =>
    rw [toInt64, Number.view_mul_nan hx]
    exact iff_of_true (by decide) (.inr rfl)
  | infinite negative =>
    refine iff_of_false (toInt64_infinite (Number.view_mul_infinite hx Number.view_thousand (by decide))) ?_
    rintro (⟨n, hn, -⟩ | h)
    · cases hn
    · cases h
  | finite negative m q => simp [toInt64_thousand_iff hx, millisOf?, signed_in_calendar_iff]

/-! ## The operators -/

namespace Expr

open Calendar (Part Offset)

variable {scope : Scope} {source : Expr} {d : Document} {x : Float}

theorem eval_datePart_of_number (hsource : source.eval d scope = .ok (.number x)) (part : Part) (offset : Offset) :
    (datePart part source offset).eval d scope = (match instantOfSeconds? x with
      | some t => .ok (partAt part offset t)
      | none => .error (scope.evaluation part.operator .timestampOutOfRange)) := by
  rw [eval, hsource]
  rfl

/-- **Numbers that are no instants.**  Where its operand is a number other than NaN, an operator that takes a date apart
fails if the number denotes no instant of the calendar, and only then; else it gives its field of an instant, at any
offset. -/
theorem datePart_of_number (hsource : source.eval d scope = .ok (.number x)) (hx : x.isNaN = false) (part : Part)
    (offset : Offset) :
    ((datePart part source offset).eval d scope = .error (scope.evaluation part.operator .timestampOutOfRange) ↔
      ¬ Datable x) ∧
    (Datable x → ∃ t, t.inRange = true ∧ (datePart part source offset).eval d scope = .ok (partAt part offset t)) := by
  have hiff := exists_instantOfSeconds?_iff (x := x)
  rw [hx, Bool.false_eq_true, or_false] at hiff
  rw [eval_datePart_of_number hsource, ← hiff]
  cases ht : instantOfSeconds? x with
  | none =>
    refine ⟨iff_of_true rfl ?_, ?_⟩ <;> rintro ⟨t, ⟨⟩⟩
  | some t =>
    refine ⟨iff_of_false nofun (not_not_intro ⟨t, rfl⟩), fun _ => ⟨t, ?_, rfl⟩⟩
    exact (Instant.ofMillis?_eq_some_iff.1 ht).2

/-- The calendar ends within the second. -/
theorem datePart_of_number_end :
    let scope : Scope := ⟨.project, "out"⟩
    let source : Expr := .operand (.field ⟨"s", []⟩)
    let d : Document := ⟨[("s", .number 8210266876800)]⟩
    source.eval d scope = .ok (.number 8210266876800) ∧ Float.isNaN 8210266876800 = false ∧
      ¬ Datable 8210266876800 ∧ (datePart .year source .utc).eval d scope =
        .error (.evaluation scope "$year" .timestampOutOfRange) := by
  intro scope source d
  have hsource : source.eval d scope = .ok (.number 8210266876800) := rfl
  have hnone : ¬ Datable 8210266876800 := by decide +kernel
  exact ⟨hsource, by decide, hnone, (datePart_of_number hsource (by decide) .year .utc).1.2 hnone⟩

/-- NaN denotes no instant, and the operators give their field of the epoch. -/
theorem datePart_nan :
    let scope : Scope := ⟨.project, "out"⟩
    let source : Expr := .toNumber (.operand (.field ⟨"s", []⟩))
    let d : Document := ⟨[("s", .string "nan")]⟩
    ∃ x, source.eval d scope = .ok (.number x) ∧ x.isNaN = true ∧ ¬ Datable x ∧
      (datePart .year source .utc).eval d scope = .ok (.number (Float.ofInt 1970)) := by
  intro scope source d
  have hnumeral : Number.ofTrimmed? "nan" = some (0.0 / 0.0) := by
    have htrimmed : Text.trimBlanks "nan".toList = "nan".toList := by
      simp only [Text.trimBlanks, Text.dropBlanks, Text.isBlank_eq]
      decide
    rw [Number.ofTrimmed?, htrimmed]
    rfl
  have hsource : source.eval d scope = .ok (.number (0.0 / 0.0)) := by
    show convertToNumber scope (.string "nan") = _
    rw [convertToNumber, hnumeral]
  have hinstant : instantOfSeconds? (0.0 / 0.0) = some ⟨0, 0⟩ := by decide +kernel
  refine ⟨_, hsource, by decide, by decide +kernel, ?_⟩
  rw [eval_datePart_of_number hsource, hinstant]
  rfl

end Expr

end DocFlow
