import DocFlow.Calendar.Instant
import DocFlow.Proofs.Calendar.Wall
import DocFlow.Proofs.Number.Key

/-!
# The text of an instant

The text of an instant shows its date and its time of day: each field ends before the mark behind it, and the
length of the fraction says what its digits stand for.  So two instants with one text are the same
(`chars_inj`), unless one of them is a leap second, which is written like a second of its own.
-/

namespace DocFlow.Calendar

open Number (spanDigits takeSign takeFraction ofDigits)

/-! ## Fields -/

theorem isDigit_of_mem_padded {width n : Nat} : ∀ c ∈ padded width n, c.isDigit = true :=
  List.forall_mem_append.2 ⟨fun _ => Number.isDigit_of_mem_zeros, fun _ => Number.isDigit_of_mem_digits⟩

@[simp] theorem ofDigits_padded (width n : Nat) : ofDigits (padded width n) = n :=
  (Number.ofDigits_zeros_append _ _).trans (Number.ofDigits_digits n)

theorem length_padded {width n : Nat} (hw : 0 < width) (hn : n < 10 ^ width) : (padded width n).length = width := by
  have h : (Nat.toDigits 10 n).length ≤ width := (Nat.length_toDigits_le_iff (by decide) hw).2 hn
  simp only [padded, List.length_append, List.length_replicate]
  omega

/-- A field ends before anything that is no digit. -/
theorem padded_append_inj {width n n' : Nat} {cs cs' : List Char} (hcs : ∀ c ∈ cs.head?, c.isDigit = false)
    (hcs' : ∀ c ∈ cs'.head?, c.isDigit = false) (h : padded width n ++ cs = padded width n' ++ cs') :
    n = n' ∧ cs = cs' := by
  have hspan := congrArg spanDigits h
  rw [Number.spanDigits_append isDigit_of_mem_padded hcs,
    Number.spanDigits_append isDigit_of_mem_padded hcs'] at hspan
  obtain ⟨hn, hrest⟩ := Prod.ext_iff.1 hspan
  have hvalue := congrArg ofDigits hn
  rw [ofDigits_padded, ofDigits_padded] at hvalue
  exact ⟨hvalue, hrest⟩

/-- The sign of a year and its digits. -/
theorem takeSign_yearText (y : Int) (cs : List Char) :
    takeSign (yearText y ++ cs) = (decide (y < 0), padded 4 y.natAbs ++ cs) := by
  unfold yearText
  split
  · rename_i hy
    have habs : y.toNat = y.natAbs := by omega
    have hlength : (padded 4 y.natAbs).length = 4 := length_padded (by decide) (by omega)
    obtain ⟨c, ds, hds⟩ := List.exists_cons_of_length_pos (show 0 < (padded 4 y.natAbs).length by omega)
    have hc := isDigit_of_mem_padded c (show c ∈ padded 4 y.natAbs from hds ▸ List.mem_cons_self)
    rw [habs, hds, List.cons_append, Number.takeSign_of_isDigit hc, decide_eq_false (by omega)]
  · by_cases hy : y < 0 <;> simp [hy, takeSign]

theorem yearText_append_inj {y y' : Int} {cs cs' : List Char} (hcs : ∀ c ∈ cs.head?, c.isDigit = false)
    (hcs' : ∀ c ∈ cs'.head?, c.isDigit = false) (h : yearText y ++ cs = yearText y' ++ cs') :
    y = y' ∧ cs = cs' := by
  have hsign := congrArg takeSign h
  rw [takeSign_yearText, takeSign_yearText] at hsign
  obtain ⟨hsign, habs⟩ := Prod.ext_iff.1 hsign
  obtain ⟨habs, hrest⟩ := padded_append_inj hcs hcs' habs
  have hsign : y < 0 ↔ y' < 0 := decide_eq_decide.1 hsign
  exact ⟨by omega, hrest⟩

/-! ## The fraction of a second -/

/-- The nanoseconds that the digits of a fraction write. -/
def nanosOf (ds : List Char) : Nat := ofDigits ds * 10 ^ (9 - ds.length)

/-- The digits of the fraction write the nanoseconds. -/
theorem nanosOf_takeFraction {nanos : Nat} (hn : nanos < 10 ^ 9) :
    nanosOf (takeFraction (fractionText nanos ++ ['Z'])).1 = nanos := by
  have hread {width n : Nat} (hw : 0 < width) (hn : n < 10 ^ width) :
      nanosOf (takeFraction ('.' :: padded width n ++ ['Z'])).1 = n * 10 ^ (9 - width) := by
    have hspan : spanDigits (padded width n ++ ['Z']) = (padded width n, ['Z']) :=
      Number.spanDigits_append isDigit_of_mem_padded (by simp)
    rw [List.cons_append, takeFraction, hspan, nanosOf, ofDigits_padded, length_padded hw hn]
  unfold fractionText
  split
  · rename_i h
    rw [h]
    rfl
  split
  · rw [hread (by decide) (by omega)]
    omega
  split
  · rw [hread (by decide) (by omega)]
    omega
  · rw [hread (by decide) hn]
    omega

theorem head?_fraction (nanos : Nat) : ∀ c ∈ (fractionText nanos ++ ['Z']).head?, c.isDigit = false := by
  unfold fractionText
  split
  · simp
  · split
    · simp
    · split <;> simp

/-! ## Instants known by their texts -/

/-- An instant is known by its wall-clock time. -/
theorem Instant.toWall_inj {s t : Instant} {o : Offset} (h : s.toWall o = t.toWall o) : s = t := by
  obtain ⟨hdate, hsecond, hnanos⟩ := Wall.mk.injEq .. |>.mp h
  have hdays := congrArg Date.days hdate
  rw [Date.days_ofDays, Date.days_ofDays] at hdays
  have hseconds : s.seconds = t.seconds := by omega
  cases s
  cases t
  simp_all

/-- Two instants that are no leap seconds are the same if their texts are. -/
theorem Instant.chars_inj {s t : Instant} (hs : s.nanos < 1000000000) (ht : t.nanos < 1000000000)
    (h : s.chars = t.chars) : s = t := by
  refine toWall_inj (o := .utc) ?_
  unfold chars at h
  have hs' : (s.toWall .utc).nanos < 1000000000 := hs
  have ht' : (t.toWall .utc).nanos < 1000000000 := ht
  generalize s.toWall .utc = v at *
  generalize t.toWall .utc = w at *
  simp only [Nat.not_le.2 hs', Nat.not_le.2 ht', if_false, List.append_assoc, List.cons_append] at h
  -- the fields are taken off the texts one by one, from the front
  obtain ⟨hyear, h⟩ := yearText_append_inj (by simp) (by simp) h
  obtain ⟨hmonth, h⟩ := padded_append_inj (by simp) (by simp) (List.cons.inj h).2
  obtain ⟨hday, h⟩ := padded_append_inj (by simp) (by simp) (List.cons.inj h).2
  obtain ⟨hhour, h⟩ := padded_append_inj (by simp) (by simp) (List.cons.inj h).2
  obtain ⟨hminute, h⟩ := padded_append_inj (by simp) (by simp) (List.cons.inj h).2
  obtain ⟨hsecond, h⟩ := padded_append_inj (head?_fraction _) (head?_fraction _) (List.cons.inj h).2
  have hdate := Date.ext_ymd hyear hmonth hday
  have hnanos : v.nanos = w.nanos := by
    rw [← nanosOf_takeFraction hs', h, nanosOf_takeFraction ht']
  have hvsecond : v.second = w.second := by
    unfold Wall.hour at hhour
    unfold Wall.minute at hminute
    unfold Wall.secondOfMinute at hsecond
    omega
  cases v
  cases w
  simp_all

end DocFlow.Calendar
