import DocFlow.Json.Printer
import DocFlow.Number.Numeral
import DocFlow.Proofs.Number.Interval

/-!
# Numerals read back

`written? cs` is the exact number that a whole numeral writes, without a sign, before it is rounded to a
double.  The text of a decimal writes its value (`written?_text`), wherever the point stands and whether or
not there is an exponent, and the digits of a natural number write it (`written?_digits`).
-/

namespace DocFlow.Number

/-- The number that an unsigned numeral writes. -/
def written? (cs : List Char) : Option ℚ :=
  let (whole, cs) := spanDigits cs
  let (fraction, cs) := takeFraction cs
  (exponent? cs).map fun e : Int => (ofDigits (whole ++ fraction) : ℚ) * 10 ^ (e - fraction.length)

/-! ## Digits -/

theorem ofDigits_eq (ds : List Char) : ofDigits ds = Nat.ofDigitChars 10 ds 0 := by
  simp only [ofDigits, Nat.ofDigitChars_eq_foldl, digitValue, Nat.mul_comm]

@[simp] theorem ofDigits_digits (n : Nat) : ofDigits (digits n) = n := by
  rw [ofDigits_eq, digits, Nat.ofDigitChars_ten_toDigits]

theorem ofDigits_append_zeros (ds : List Char) (n : Nat) : ofDigits (ds ++ zeros n) = ofDigits ds * 10 ^ n := by
  rw [ofDigits_eq, ofDigits_eq, zeros, Nat.ofDigitChars_append, Nat.ofDigitChars_replicate_zero, Nat.mul_comm]

theorem ofDigits_zeros_append (n : Nat) (ds : List Char) : ofDigits (zeros n ++ ds) = ofDigits ds := by
  rw [ofDigits_eq, ofDigits_eq, zeros, Nat.ofDigitChars_append, Nat.ofDigitChars_replicate_zero, Nat.mul_zero]

theorem isDigit_of_mem_digits {n : Nat} {c : Char} (hc : c ∈ digits n) : c.isDigit = true :=
  Nat.isDigit_of_mem_toDigits (by decide) (by decide) hc

theorem isDigit_of_mem_zeros {n : Nat} {c : Char} (hc : c ∈ zeros n) : c.isDigit = true := by
  rw [List.eq_of_mem_replicate hc]
  rfl

theorem digits_ne_nil (n : Nat) : digits n ≠ [] := Nat.toDigits_ne_nil

/-! ## Parts of a numeral -/

/-- The leading digits end before anything that is no digit. -/
theorem spanDigits_append {ds cs : List Char} (hds : ∀ c ∈ ds, c.isDigit = true)
    (hcs : ∀ c ∈ cs.head?, c.isDigit = false) : spanDigits (ds ++ cs) = (ds, cs) := by
  rw [spanDigits, List.span_eq_takeWhile_dropWhile, List.takeWhile_append_of_pos hds,
    List.dropWhile_append_of_pos hds]
  cases cs with
  | nil => simp
  | cons c cs => simp [hcs c rfl]

theorem exponent?_exponentText (e : Int) : exponent? ('e' :: exponentText e) = some e := by
  have hspan : spanDigits (digits e.natAbs ++ []) = (digits e.natAbs, []) :=
    spanDigits_append (fun _ => isDigit_of_mem_digits) (by simp)
  obtain ⟨d, ds, hds⟩ := List.exists_cons_of_ne_nil (digits_ne_nil e.natAbs)
  have hvalue := ofDigits_digits e.natAbs
  rw [List.append_nil, hds] at hspan
  rw [hds] at hvalue
  rcases lt_or_ge e 0 with h | h
  · simp only [exponentText, h, if_true, exponent?, takeSign, hds, hspan, hvalue, true_or]
    congr 1
    omega
  · simp only [exponentText, not_lt.2 h, if_false, exponent?, takeSign, hds, hspan, hvalue, true_or]
    simp only [if_true, Bool.false_eq_true, if_false]
    congr 1
    omega

/-- An exponent begins with its letter. -/
theorem head_of_exponent? {cs : List Char} {e : Int} (h : exponent? cs = some e) :
    ∀ c ∈ cs.head?, c = 'e' ∨ c = 'E' := by
  rintro c hc
  cases cs with
  | nil => cases hc
  | cons c' cs =>
    cases hc
    by_contra hne
    simp [exponent?, hne] at h

section Parts

variable {whole fraction cs : List Char} {e : Int}

theorem written?_of_point (hwhole : ∀ c ∈ whole, c.isDigit = true)
    (hfraction : ∀ c ∈ fraction, c.isDigit = true) (he : exponent? cs = some e) :
    written? (whole ++ '.' :: (fraction ++ cs)) =
      some ((ofDigits (whole ++ fraction) : ℚ) * 10 ^ (e - fraction.length)) := by
  have hcs : ∀ c ∈ cs.head?, c.isDigit = false := fun c hc => by
    rcases head_of_exponent? he c hc with rfl | rfl <;> rfl
  have hpoint : ∀ c ∈ ('.' :: (fraction ++ cs)).head?, c.isDigit = false := by simp
  simp only [written?, spanDigits_append hwhole hpoint, takeFraction, spanDigits_append hfraction hcs, he,
    Option.map_some]

theorem written?_of_no_point (hwhole : ∀ c ∈ whole, c.isDigit = true) (he : exponent? cs = some e) :
    written? (whole ++ cs) = some ((ofDigits whole : ℚ) * 10 ^ e) := by
  have hcs : ∀ c ∈ cs.head?, c.isDigit = false := fun c hc => by
    rcases head_of_exponent? he c hc with rfl | rfl <;> rfl
  have hfraction : takeFraction cs = ([], cs) := by
    unfold takeFraction
    split
    · rcases head_of_exponent? he _ rfl with h | h <;> cases h
    · rfl
  simp [written?, spanDigits_append hwhole hcs, hfraction, he]

end Parts

theorem written?_digits (n : Nat) : written? (digits n) = some (n : ℚ) := by
  have h : written? (digits n ++ []) = _ := written?_of_no_point (fun _ => isDigit_of_mem_digits) rfl
  rwa [List.append_nil, ofDigits_digits, zpow_zero, mul_one] at h

/-! ## Decimals -/

theorem written?_fraction {whole fraction : List Char} (hwhole : ∀ c ∈ whole, c.isDigit = true)
    (hfraction : ∀ c ∈ fraction, c.isDigit = true) : written? (whole ++ '.' :: fraction) =
      some ((ofDigits (whole ++ fraction) : ℚ) * 10 ^ (-(fraction.length : Int))) := by
  have h : written? (whole ++ '.' :: (fraction ++ [])) = _ := written?_of_point hwhole hfraction rfl
  rwa [List.append_nil, zero_sub] at h

theorem written?_positional (s : Nat) (point : Int) :
    written? (positional (digits s) point) = some ((s : ℚ) * 10 ^ (point - (digits s).length)) := by
  have hten : (10 : ℚ) ≠ 0 := by norm_num
  have hdigits : ∀ c ∈ digits s, c.isDigit = true := fun _ => isDigit_of_mem_digits
  unfold positional
  split
  · rename_i p
    split
    · rename_i hlength
      -- all digits stand before the point
      generalize hn : p + 1 - (digits s).length = n
      have hwhole : ∀ c ∈ digits s ++ zeros n, c.isDigit = true := fun c hc =>
        (List.mem_append.1 hc).elim isDigit_of_mem_digits isDigit_of_mem_zeros
      have hzeros : digits s ++ zeros n ++ ['0'] = digits s ++ zeros (n + 1) := by
        rw [zeros, zeros, List.replicate_succ', List.append_assoc]
      rw [written?_fraction hwhole (by simp), hzeros, ofDigits_append_zeros, ofDigits_digits]
      push_cast
      rw [mul_assoc, ← zpow_natCast, ← zpow_add₀ hten]
      congr 3
      simp
      omega
    · rename_i hlength
      have hwhole : ∀ c ∈ (digits s).take (p + 1), c.isDigit = true := fun c hc =>
        hdigits c (List.mem_of_mem_take hc)
      have hfraction : ∀ c ∈ (digits s).drop (p + 1), c.isDigit = true := fun c hc =>
        hdigits c (List.mem_of_mem_drop hc)
      rw [written?_fraction hwhole hfraction, List.take_append_drop, ofDigits_digits, List.length_drop]
      congr 3
      simp
      omega
  · rename_i hpoint
    have hnonpos : point ≤ 0 := by
      by_contra hpos
      exact hpoint (point.toNat - 1) (by simp; omega)
    have hfraction : ∀ c ∈ zeros (-point).toNat ++ digits s, c.isDigit = true := fun c hc =>
      (List.mem_append.1 hc).elim isDigit_of_mem_zeros isDigit_of_mem_digits
    have hzeros : ['0'] ++ (zeros (-point).toNat ++ digits s) = zeros ((-point).toNat + 1) ++ digits s := rfl
    show written? (['0'] ++ '.' :: (zeros (-point).toNat ++ digits s)) = _
    rw [written?_fraction (by simp) hfraction, hzeros, ofDigits_zeros_append, ofDigits_digits]
    congr 3
    simp [zeros]
    omega

theorem written?_scientific (s : Nat) (e : Int) :
    written? (scientific (digits s) e) = some ((s : ℚ) * 10 ^ (e + 1 - (digits s).length)) := by
  have hdigits : ∀ c ∈ digits s, c.isDigit = true := fun _ => isDigit_of_mem_digits
  have hvalue := ofDigits_digits s
  match hds : digits s with
  | [] => exact absurd hds (digits_ne_nil s)
  | [d] =>
    rw [hds] at hdigits hvalue
    have h := written?_of_no_point hdigits (exponent?_exponentText e)
    rw [hvalue] at h
    simpa [scientific] using h
  | d :: d' :: rest =>
    rw [hds] at hdigits hvalue
    have hwhole : ∀ c ∈ [d], c.isDigit = true := by simpa using hdigits d (by simp)
    have hfraction : ∀ c ∈ d' :: rest, c.isDigit = true := fun c hc => hdigits c (List.mem_cons_of_mem _ hc)
    have h := written?_of_point hwhole hfraction (exponent?_exponentText e)
    have hall : [d] ++ d' :: rest = d :: d' :: rest := rfl
    rw [hall, hvalue] at h
    refine h.trans ?_
    congr 3
    simp

/-- The text of a decimal writes its value. -/
theorem written?_text (d : Decimal) : written? d.text = some d.value := by
  unfold Decimal.text
  dsimp only
  split
  · rename_i h
    rw [Decimal.value, h]
    have h : written? (['0'] ++ '.' :: ['0']) = _ := written?_fraction (by simp) (by simp)
    refine h.trans ?_
    simp [ofDigits, digitValue]
  · split
    · rw [written?_positional, add_sub_cancel_right]
      rfl
    · rw [written?_scientific, sub_add_cancel, add_sub_cancel_right]
      rfl

end DocFlow.Number
