import DocFlow.Proofs.Number.Written
import DocFlow.Value.Key

/-!
# Keys of numbers

The key of a number is that of its view (`numberKey_eq`).  The key of a finite number reads back as it: an
integer is written exactly, and any other number by its shortest decimal (`signedWritten?_key`).  No number
reads back as two doubles, so two numbers have one key only if they are the same (`numberKey_eq_iff`), where
the sign of zero does not count and every NaN is the same.
-/

namespace DocFlow.Number

/-- The two are one number, or both are none. -/
def Same (x y : Float) : Prop := (x == y) = true ∨ (x.isNaN = true ∧ y.isNaN = true)

/-- A minus in front of a negative number. -/
def signText (negative : Bool) : List Char := if negative then ['-'] else []

/-- The natural number `m · 2 ^ q`, if it is one below `safeBound`. -/
def safeNat? (m : Nat) (q : Int) : Option Nat := (natOf? m q).filter (· < safeBound)

/-- The key of a finite number. -/
def finiteKey (negative : Bool) (m : Nat) (q : Int) : List Char :=
  match safeNat? m q with
  | some k => intText (signed negative k)
  | none => signText negative ++ (shortest m q).text

/-- The key of the number that a view shows. -/
def View.key : View → List Char
  | .nan => "num:NaN".toList
  | .infinite true => "num:-inf".toList
  | .infinite false => "num:inf".toList
  | .finite negative m q => finiteKey negative m q

theorem natAbs_signed (negative : Bool) (k : Nat) : (signed negative k).natAbs = k := by
  cases negative <;> simp [signed]

theorem toSafeInt?_finite {x : Float} {negative : Bool} {m : Nat} {q : Int}
    (h : view x = .finite negative m q) : toSafeInt? x = (safeNat? m q).map (signed negative) := by
  have hint : toInt? x = (natOf? m q).map (signed negative) := by
    rw [toInt?, h]
  rw [toSafeInt?, hint, safeNat?]
  cases natOf? m q with
  | none => rfl
  | some k => by_cases hk : k < safeBound <;> simp [Option.filter, natAbs_signed, hk]

theorem numberKey_eq (x : Float) : Value.numberKey x = (view x).key := by
  unfold Value.numberKey
  match hview : view x with
  | .nan =>
    have hfinite : ¬ x.isFinite = true := by simp [isFinite_iff_view, hview]
    rw [if_neg hfinite, text, hview]
    rfl
  | .infinite negative =>
    have hfinite : ¬ x.isFinite = true := by simp [isFinite_iff_view, hview]
    rw [if_neg hfinite, text, hview]
    cases negative <;> rfl
  | .finite negative m q =>
    have hfinite : x.isFinite = true := isFinite_iff_view.2 ⟨negative, m, q, hview⟩
    change _ = finiteKey negative m q
    rw [if_pos hfinite, finiteKey, Value.numberToJson, toSafeInt?_finite hview]
    cases safeNat? m q with
    | none => simp [hfinite, Json.chars, JsonNumber.chars, text, hview, finiteText, signText]
    | some k => rfl

/-! ## Numerals with a sign -/

/-- The number that a numeral writes behind its sign, and whether the sign is a minus. -/
def signedWritten? (cs : List Char) : Option (Bool × ℚ) :=
  (written? (takeSign cs).2).map fun r => ((takeSign cs).1, r)

theorem takeSign_of_isDigit {c : Char} (hc : c.isDigit = true) (cs : List Char) :
    takeSign (c :: cs) = (false, c :: cs) := by
  unfold takeSign
  split
  · rename_i h
    cases h
    cases hc
  · rename_i h
    cases h
    cases hc
  · rfl

theorem signedWritten?_signText {c : Char} (hc : c.isDigit = true) (negative : Bool) (cs : List Char) :
    signedWritten? (signText negative ++ c :: cs) = (written? (c :: cs)).map fun r => (negative, r) := by
  cases negative with
  | false => simp [signedWritten?, signText, takeSign_of_isDigit hc]
  | true => rfl

/-- The digits of a number begin with a digit. -/
theorem exists_digits_eq_cons (n : Nat) : ∃ c cs, digits n = c :: cs ∧ c.isDigit = true := by
  obtain ⟨c, cs, h⟩ := List.exists_cons_of_ne_nil (digits_ne_nil n)
  exact ⟨c, cs, h, isDigit_of_mem_digits (h ▸ List.mem_cons_self)⟩

/-- The text of a decimal begins with a digit. -/
theorem exists_text_eq_cons (d : Decimal) : ∃ c cs, d.text = c :: cs ∧ c.isDigit = true := by
  obtain ⟨c, cs, hdigits, hc⟩ := exists_digits_eq_cons d.significand
  unfold Decimal.text
  simp only [hdigits]
  split
  · exact ⟨'0', _, rfl, rfl⟩
  · split
    · unfold positional
      split
      · split
        · exact ⟨c, _, rfl, hc⟩
        · exact ⟨c, _, rfl, hc⟩
      · exact ⟨'0', _, rfl, rfl⟩
    · cases cs with
      | nil => exact ⟨c, _, rfl, hc⟩
      | cons c' cs => exact ⟨c, _, rfl, hc⟩

/-! ## Numbers read back -/

variable {m : Nat} {q : Int} {negative : Bool}

theorem cast_natOf? {k : Nat} (h : natOf? m q = some k) : (k : ℚ) = m * 2 ^ q := by
  unfold natOf? at h
  split at h
  · cases h
    simp
  · rename_i e
    split at h
    · rename_i hmod
      cases h
      have hm := Nat.div_mul_cancel (Nat.dvd_of_mod_eq_zero hmod)
      rw [zpow_negSucc, eq_mul_inv_iff_mul_eq₀ (by positivity)]
      exact_mod_cast hm
    · cases h

/-- A double reads back from the number that it is. -/
theorem contains_self (hm : 0 < m) : (Target.ofParts m q).Contains (m * 2 ^ q) := by
  have hunit : (0 : ℚ) < 2 ^ (q - 2) := by positivity
  have hvalue : (m * 2 ^ q : ℚ) = (4 * m : Nat) * 2 ^ (q - 2) := by
    rw [zpow_sub₀ two_ne_zero]
    push_cast
    ring
  have hbelow := quartersBelow_cases m q
  rw [contains_ofParts_iff, hvalue]
  simp only [mul_le_mul_iff_left₀ hunit, mul_lt_mul_iff_left₀ hunit, Nat.cast_le, Nat.cast_lt]
  split <;> omega

/-- What reads back as a positive double is positive. -/
theorem pos_of_contains {r : ℚ} (hm : 0 < m) (hr : (Target.ofParts m q).Contains r) : 0 < r := by
  have hbelow := quartersBelow_cases m q
  have hlow : (0 : ℚ) < (4 * m - quartersBelow m q : Nat) * 2 ^ (q - 2) := by
    refine mul_pos (Nat.cast_pos.2 (by omega)) (by positivity)
  rw [contains_ofParts_iff] at hr
  split at hr
  · exact hlow.trans_le hr.1
  · exact hlow.trans hr.1

theorem intText_signed {k : Nat} (hk : k ≠ 0) : intText (signed negative k) = signText negative ++ digits k := by
  unfold intText
  rw [natAbs_signed]
  cases negative with
  | false => rfl
  | true =>
    rw [if_pos (show signed true k < 0 by simp [signed]; omega)]
    rfl

/-- The key of a finite number other than zero reads back as the number. -/
theorem signedWritten?_key (negative : Bool) (hm : Canonical m q) (hpos : 0 < m) :
    ∃ r, signedWritten? (finiteKey negative m q) = some (negative, r) ∧ (Target.ofParts m q).Contains r := by
  unfold finiteKey
  split
  · rename_i k hk
    obtain ⟨hk, -⟩ := Option.filter_eq_some_iff.1 hk
    have hvalue := cast_natOf? hk
    have hne : k ≠ 0 := by
      rintro rfl
      have hvalue' : (0 : ℚ) < m * 2 ^ q := by positivity
      simp [← hvalue] at hvalue'
    obtain ⟨c, cs, hdigits, hc⟩ := exists_digits_eq_cons k
    refine ⟨k, ?_, hvalue ▸ contains_self hpos⟩
    rw [intText_signed hne, hdigits, signedWritten?_signText hc, ← hdigits, written?_digits]
    rfl
  · obtain ⟨c, cs, htext, hc⟩ := exists_text_eq_cons (shortest m q)
    refine ⟨_, ?_, contains_shortest hm hpos⟩
    rw [htext, signedWritten?_signText hc, ← htext, written?_text]
    rfl

/-- Zero is written without its sign. -/
theorem finiteKey_zero : finiteKey negative 0 q = ['0'] := by
  have hk : safeNat? 0 q = some 0 := by
    cases q <;> simp [safeNat?, natOf?, Option.filter, safeBound]
  rw [finiteKey, hk]
  cases negative <;> rfl

/-- The key of a finite number begins with a digit or a minus. -/
theorem exists_finiteKey_eq_cons (negative : Bool) (m : Nat) (q : Int) :
    ∃ c cs, finiteKey negative m q = c :: cs ∧ (c.isDigit = true ∨ c = '-') := by
  have hsign {c : Char} (cs : List Char) (hc : c.isDigit = true) :
      ∃ c' cs', signText negative ++ c :: cs = c' :: cs' ∧ (c'.isDigit = true ∨ c' = '-') := by
    cases negative with
    | false => exact ⟨c, cs, rfl, .inl hc⟩
    | true => exact ⟨'-', c :: cs, rfl, .inr rfl⟩
  unfold finiteKey
  split
  · rename_i k hk
    obtain ⟨c, cs, hdigits, hc⟩ := exists_digits_eq_cons k
    by_cases hk : k = 0
    · subst hk
      exact ⟨'0', [], by cases negative <;> rfl, .inl rfl⟩
    · rw [intText_signed hk, hdigits]
      exact hsign cs hc
  · obtain ⟨c, cs, htext, hc⟩ := exists_text_eq_cons (shortest m q)
    rw [htext]
    exact hsign cs hc

/-- Two finite numbers with one key are the same, but for the sign of zero. -/
theorem eq_of_finiteKey {negative' : Bool} {m' : Nat} {q' : Int} (hm : Canonical m q)
    (hm' : Canonical m' q') (h : finiteKey negative m q = finiteKey negative' m' q') :
    (negative = negative' ∧ m = m' ∧ q = q') ∨ (m = 0 ∧ m' = 0) := by
  have hzero {negative : Bool} {q : Int} : signedWritten? (finiteKey negative 0 q) = some (false, 0) := by
    have hkey : finiteKey negative 0 q = digits 0 := finiteKey_zero
    rw [hkey, signedWritten?, show takeSign (digits 0) = (false, digits 0) from rfl, written?_digits]
    simp
  rcases Nat.eq_zero_or_pos m with rfl | hpos <;> rcases Nat.eq_zero_or_pos m' with rfl | hpos'
  · exact .inr ⟨rfl, rfl⟩
  · obtain ⟨r, hr, hcontains⟩ := signedWritten?_key negative' hm' hpos'
    rw [← h, hzero] at hr
    cases hr
    exact absurd (pos_of_contains hpos' hcontains) (lt_irrefl _)
  · obtain ⟨r, hr, hcontains⟩ := signedWritten?_key negative hm hpos
    rw [h, hzero] at hr
    cases hr
    exact absurd (pos_of_contains hpos hcontains) (lt_irrefl _)
  · obtain ⟨r, hr, hcontains⟩ := signedWritten?_key negative hm hpos
    obtain ⟨r', hr', hcontains'⟩ := signedWritten?_key negative' hm' hpos'
    rw [h, hr'] at hr
    obtain ⟨rfl, rfl⟩ := Prod.ext_iff.1 (Option.some.inj hr)
    exact .inl ⟨rfl, eq_of_contains hm hm' hcontains hcontains'⟩

/-! ## Numbers with one key -/

variable {x y : Float}

theorem same_iff_view : Same x y ↔ view x = view y ∨ ((view x).isZero ∧ (view y).isZero) := by
  by_cases hnone : x.isNaN = true ∨ y.isNaN = true
  · have hbeq : ¬ (x == y) = true := by
      rw [beq_iff, compare_unpacked_of_isNaN hnone]
      exact nofun
    rw [Same, or_iff_right hbeq]
    rw [isNaN_iff_view, isNaN_iff_view] at hnone ⊢
    rcases hnone with h | h
    · have hzero : View.isZero .nan = false := rfl
      rw [h, hzero]
      simpa using eq_comm
    · simp [h, View.isZero]
  · obtain ⟨hx, hy⟩ := not_or.1 hnone
    have hnone : ¬ (x.isNaN = true ∧ y.isNaN = true) := fun h => hx h.1
    rw [Bool.not_eq_true] at hx hy
    rw [Same, beq_iff_view hx hy, or_iff_left hnone]

/-- What is no finite number begins with a letter. -/
theorem ne_finiteKey {cs : List Char} (hcs : cs.head? = some 'n') : cs ≠ finiteKey negative m q := by
  rintro rfl
  obtain ⟨c, cs, hkey, hc⟩ := exists_finiteKey_eq_cons negative m q
  rw [hkey] at hcs
  cases hcs
  rcases hc with hc | hc <;> cases hc

theorem head?_key_infinite (negative : Bool) : (View.infinite negative).key.head? = some 'n' := by
  cases negative <;> rfl

/-- Two numbers have one key if and only if they are the same. -/
theorem numberKey_eq_iff : Value.numberKey x = Value.numberKey y ↔ Same x y := by
  rw [numberKey_eq, numberKey_eq, same_iff_view]
  match hx : view x, hy : view y with
  | .finite negative m q, .finite negative' m' q' =>
    constructor
    · intro h
      rcases eq_of_finiteKey (canonical_of_view hx) (canonical_of_view hy) h with ⟨rfl, rfl, rfl⟩ | ⟨rfl, rfl⟩
      · exact .inl rfl
      · exact .inr ⟨rfl, rfl⟩
    · rintro (h | ⟨hm, hm'⟩)
      · exact congrArg View.key h
      · obtain rfl : m = 0 := of_decide_eq_true hm
        obtain rfl : m' = 0 := of_decide_eq_true hm'
        exact finiteKey_zero.trans finiteKey_zero.symm
  | .nan, .finite _ _ _ => exact iff_of_false (ne_finiteKey rfl) (by simp [View.isZero])
  | .finite _ _ _, .nan => exact iff_of_false (ne_finiteKey rfl).symm (by simp [View.isZero])
  | .infinite a, .finite _ _ _ =>
    exact iff_of_false (ne_finiteKey (head?_key_infinite a)) (by simp [View.isZero])
  | .finite _ _ _, .infinite b =>
    exact iff_of_false (ne_finiteKey (head?_key_infinite b)).symm (by simp [View.isZero])
  | .nan, .nan => exact iff_of_true rfl (.inl rfl)
  | .nan, .infinite b => cases b <;> exact iff_of_false (by decide) (by decide)
  | .infinite a, .nan => cases a <;> exact iff_of_false (by decide) (by decide)
  | .infinite a, .infinite b => cases a <;> cases b <;> decide

/-! ## The characters of a key -/

/-- A character of a numeral. -/
def isNumeral (c : Char) : Bool := c.isDigit || c = '.' || c = 'e' || c = '+' || c = '-'

theorem isNumeral_of_isDigit {c : Char} (hc : c.isDigit = true) : isNumeral c = true := by
  simp [isNumeral, hc]

theorem isNumeral_of_mem_digits {n : Nat} {c : Char} (hc : c ∈ digits n) : isNumeral c = true :=
  isNumeral_of_isDigit (isDigit_of_mem_digits hc)

theorem isNumeral_of_mem_zeros {n : Nat} {c : Char} (hc : c ∈ zeros n) : isNumeral c = true :=
  isNumeral_of_isDigit (isDigit_of_mem_zeros hc)

section Digits

variable {ds : List Char} (hds : ∀ c ∈ ds, isNumeral c = true)

include hds

theorem isNumeral_of_mem_positional {point : Int} : ∀ c ∈ positional ds point, isNumeral c = true := by
  have hpoint : isNumeral '.' = true ∧ isNumeral '0' = true := ⟨rfl, rfl⟩
  unfold positional
  split
  · split
    · simp only [List.forall_mem_append, List.forall_mem_cons, hpoint, List.not_mem_nil]
      exact ⟨⟨hds, fun _ => isNumeral_of_mem_zeros⟩, by simp⟩
    · simp only [List.forall_mem_append, List.forall_mem_cons, hpoint, true_and]
      exact ⟨fun c hc => hds c (List.mem_of_mem_take hc), fun c hc => hds c (List.mem_of_mem_drop hc)⟩
  · simp only [List.cons_append, List.forall_mem_append, List.forall_mem_cons, hpoint, true_and]
    exact ⟨fun _ => isNumeral_of_mem_zeros, hds⟩

theorem isNumeral_of_mem_scientific {e : Int} : ∀ c ∈ scientific ds e, isNumeral c = true := by
  have hexponent : ∀ c ∈ 'e' :: exponentText e, isNumeral c = true := by
    have hsign : isNumeral (if e < 0 then '-' else '+') = true := by
      split <;> rfl
    simp only [exponentText, List.forall_mem_cons, hsign, true_and]
    exact ⟨rfl, fun _ => isNumeral_of_mem_digits⟩
  unfold scientific
  split
  · exact List.forall_mem_cons.2 ⟨hds _ (by simp), hexponent⟩
  · obtain ⟨hd, hrest⟩ := List.forall_mem_cons.1 hds
    rw [List.forall_mem_append, List.forall_mem_cons, List.forall_mem_cons]
    exact ⟨⟨hd, rfl, hrest⟩, hexponent⟩
  · exact hds

end Digits

theorem isNumeral_of_mem_text {d : Decimal} : ∀ c ∈ d.text, isNumeral c = true := by
  have hdigits : ∀ c ∈ digits d.significand, isNumeral c = true := fun _ => isNumeral_of_mem_digits
  unfold Decimal.text
  dsimp only
  split
  · exact List.all_eq_true.1 rfl
  · split
    · exact isNumeral_of_mem_positional hdigits
    · exact isNumeral_of_mem_scientific hdigits

theorem isNumeral_of_mem_finiteKey : ∀ c ∈ finiteKey negative m q, isNumeral c = true := by
  have hdigits {n : Nat} : ∀ c ∈ digits n, isNumeral c = true := fun _ => isNumeral_of_mem_digits
  unfold finiteKey
  split
  · unfold intText
    split
    · exact List.forall_mem_cons.2 ⟨rfl, hdigits⟩
    · exact hdigits
  · refine List.forall_mem_append.2 ⟨?_, isNumeral_of_mem_text⟩
    cases negative <;> simp [signText, isNumeral]

end DocFlow.Number
