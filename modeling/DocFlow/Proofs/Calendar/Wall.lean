import DocFlow.Calendar.Part
import Mathlib.Algebra.GroupWithZero.Nat

/-!
# Reading a wall-clock time back

A wall-clock time becomes an instant by taking an offset from UTC away, and the offset is added to find it again
(`Wall.toWall_of_toInstant?`): the count of days and the time of day carry into each other alike in both directions.
The fields of a wall-clock time are the only ones that make it up again (`Wall.shows_iff`), where the date of a year,
month and day is the one that has them (`Date.ofYmd?_eq_some_iff`).
-/

namespace DocFlow.Calendar

/-! ## Offsets -/

/-- The wall-clock time of an instant is the one it was made from, at the same offset. -/
theorem Wall.toWall_of_toInstant? {w : Wall} {o : Offset} {t : Instant} (h : w.toInstant? o = some t) :
    t.toWall o = w := by
  obtain ⟨date, second, nanos, hsecond⟩ := w
  unfold toInstant? at h
  obtain ⟨-, h⟩ := Option.ite_none_right_eq_some.1 h
  obtain rfl := Option.some.inj h
  have hcount : date.days * 86400 + second - o.seconds + o.seconds = date.days * 86400 + second := by omega
  have hdays : (date.days * 86400 + second) / 86400 = date.days := by omega
  have htime : ((date.days * 86400 + second) % 86400).toNat = second := by omega
  simp only [Instant.toWall, seconds, hcount, hdays, htime, Date.ofDays_days]

/-! ## Months -/

namespace Date

/-- A day that is reached by whole months and a day of the next one is that day of that month. -/
theorem monthDayFrom_take {month k n len : Nat} {lengths : List Nat} (hlen : lengths[k]? = some len) (hn : 1 ≤ n)
    (hn' : n ≤ len) : monthDayFrom month lengths ((lengths.take k).sum + n) = (month + k, n) := by
  induction lengths generalizing month k with
  | nil => cases hlen
  | cons first rest ih =>
    cases k with
    | zero =>
      obtain rfl : first = len := Option.some.inj hlen
      simp [monthDayFrom, hn']
    | succ k =>
      have hbehind : ¬ first + (rest.take k).sum + n ≤ first := by omega
      have hrest : first + (rest.take k).sum + n - first = (rest.take k).sum + n := by omega
      rw [List.take_succ_cons, List.sum_cons, monthDayFrom, if_neg hbehind, hrest, ih hlen]
      simp only [Nat.add_assoc, Nat.add_comm 1 k]

/-- Each day within some months is reached by whole months and a day of the next one. -/
theorem exists_take_sum {n : Nat} {lengths : List Nat} (hn : 1 ≤ n) (hsum : n ≤ lengths.sum) :
    ∃ k len day, lengths[k]? = some len ∧ 1 ≤ day ∧ day ≤ len ∧ (lengths.take k).sum + day = n := by
  induction lengths generalizing n with
  | nil =>
    rw [List.sum_nil] at hsum
    omega
  | cons first rest ih =>
    by_cases hfirst : n ≤ first
    · exact ⟨0, first, n, rfl, hn, hfirst, by simp⟩
    · rw [List.sum_cons] at hsum
      obtain ⟨k, len, day, hlen, hday, hday', hk⟩ := @ih (n - first) (by omega) (by omega)
      refine ⟨k + 1, len, day, hlen, hday, hday', ?_⟩
      rw [List.take_succ_cons, List.sum_cons]
      omega

theorem sum_monthLengths (y : Int) : (monthLengths y).sum = yearLength y := by
  unfold monthLengths yearLength
  split <;> rfl

variable {y : Int} {m n : Nat} {d : Date}

theorem ofOrdinal?_eq_some_iff : ofOrdinal? y n = some d ↔ d.year = y ∧ d.ordinal = n := by
  unfold ofOrdinal?
  constructor
  · intro h
    split at h
    · obtain rfl := Option.some.inj h
      exact ⟨rfl, rfl⟩
    · cases h
  · rintro ⟨rfl, rfl⟩
    rw [dif_pos ⟨d.one_le, d.le_length⟩]

/-- The month of a date is one of its year, and the day of the month is one of that month. -/
theorem exists_month (d : Date) :
    ∃ k len, (monthLengths d.year)[k]? = some len ∧ d.month = k + 1 ∧ 1 ≤ d.day ∧ d.day ≤ len ∧
      ((monthLengths d.year).take k).sum + d.day = d.ordinal := by
  obtain ⟨k, len, day, hlen, hday, hday', hordinal⟩ :=
    exists_take_sum d.one_le (sum_monthLengths d.year ▸ d.le_length)
  have hmonthDay : d.monthDay = (1 + k, day) := by rw [monthDay, ← hordinal, monthDayFrom_take hlen hday hday']
  have hd : d.day = day := congrArg Prod.snd hmonthDay
  have hmonth : d.month = k + 1 := (congrArg Prod.fst hmonthDay).trans (Nat.add_comm 1 k)
  exact ⟨k, len, hlen, hmonth, hd ▸ hday, hd ▸ hday', hd ▸ hordinal⟩

/-- The date of a year, month and day is the one with this year, month and day. -/
theorem ofYmd?_eq_some_iff : ofYmd? y m n = some d ↔ d.year = y ∧ d.month = m ∧ d.day = n := by
  constructor
  · intro h
    unfold ofYmd? at h
    split at h
    · cases h
    split at h
    · cases h
    split at h
    · rename_i hm len hlen hn
      obtain ⟨rfl, hordinal⟩ := ofOrdinal?_eq_some_iff.1 h
      have hmonthDay : d.monthDay = (1 + (m - 1), n) := by
        rw [monthDay, hordinal, monthDayFrom_take hlen hn.1 hn.2]
      have hm' : 1 + (m - 1) = m := by omega
      rw [hm'] at hmonthDay
      exact ⟨rfl, congrArg Prod.fst hmonthDay, congrArg Prod.snd hmonthDay⟩
    · cases h
  · rintro ⟨rfl, rfl, rfl⟩
    obtain ⟨k, len, hlen, hmonth, hday, hday', hordinal⟩ := exists_month d
    have hmonth_ne : d.month ≠ 0 := by omega
    have hk : k + 1 - 1 = k := rfl
    unfold ofYmd?
    rw [if_neg hmonth_ne, hmonth, hk, hlen]
    simp only [hday, hday', and_self, if_true, hordinal]
    exact ofOrdinal?_eq_some_iff.2 ⟨rfl, rfl⟩

/-- A date is known by its year, month and day. -/
theorem ext_ymd {e : Date} (hy : d.year = e.year) (hm : d.month = e.month) (hd : d.day = e.day) : d = e := by
  have hd' : ofYmd? e.year e.month e.day = some d := ofYmd?_eq_some_iff.2 ⟨hy, hm, hd⟩
  have he' : ofYmd? e.year e.month e.day = some e := ofYmd?_eq_some_iff.2 ⟨rfl, rfl, rfl⟩
  exact Option.some.inj (hd'.symm.trans he')

theorem month_pos (d : Date) : 0 < d.month := by
  obtain ⟨k, -, -, hmonth, -⟩ := exists_month d
  omega

theorem day_pos (d : Date) : 0 < d.day := by
  obtain ⟨-, -, -, -, hday, -⟩ := exists_month d
  exact hday

end Date

/-! ## Fields -/

/-- Numbers for the fields are those that a calendar and a clock show: they make up the date, its weekday, counted from
1970-01-01, a Thursday, the time of day, and the fraction of the second. -/
structure Wall.Shows (w : Wall) (field : Part → Int) : Prop where
  date : 0 < field .month ∧ 0 < field .dayOfMonth ∧
    Date.ofYmd? (field .year) (field .month).toNat (field .dayOfMonth).toNat = some w.date
  ordinal : 0 < field .dayOfYear ∧ Date.ofOrdinal? (field .year) (field .dayOfYear).toNat = some w.date
  weekday : 1 ≤ field .dayOfWeek ∧ field .dayOfWeek ≤ 7 ∧ (w.date.days + 5 - field .dayOfWeek) % 7 = 0
  time : field .hour * 3600 + field .minute * 60 + field .second = w.second
  minute : 0 ≤ field .minute ∧ field .minute < 60
  second : 0 ≤ field .second ∧ field .second < 60
  millisecond : field .millisecond * 1000000 ≤ w.nanos ∧ w.nanos < (field .millisecond + 1) * 1000000

/-- The fields of a wall-clock time are the numbers that a calendar and a clock show at it. -/
theorem Wall.shows_iff {w : Wall} {field : Part → Int} : w.Shows field ↔ ∀ part, field part = part.of w := by
  constructor
  · intro h
    obtain ⟨hmonth, hday, hdate⟩ := h.date
    obtain ⟨hordinal, hofOrdinal⟩ := h.ordinal
    obtain ⟨hyear, hmonth', hday'⟩ := Date.ofYmd?_eq_some_iff.1 hdate
    obtain ⟨-, hordinal'⟩ := Date.ofOrdinal?_eq_some_iff.1 hofOrdinal
    obtain ⟨hweekday, hweekday', hdays⟩ := h.weekday
    have htime := h.time
    have hminute := h.minute
    have hsecond := h.second
    have hmillisecond := h.millisecond
    intro part
    cases part <;> simp only [Part.of, Wall.hour, Wall.minute, Wall.secondOfMinute, Wall.millis, Date.weekday] <;> omega
  · intro h
    obtain rfl : field = fun part => part.of w := funext h
    have hdate : Date.ofYmd? w.date.year w.date.month w.date.day = some w.date :=
      Date.ofYmd?_eq_some_iff.2 ⟨rfl, rfl, rfl⟩
    have hordinal : Date.ofOrdinal? w.date.year w.date.ordinal = some w.date :=
      Date.ofOrdinal?_eq_some_iff.2 ⟨rfl, rfl⟩
    constructor <;> simp only [Part.of, Wall.hour, Wall.minute, Wall.secondOfMinute, Wall.millis, Date.weekday]
    case date => exact ⟨Int.natCast_pos.2 w.date.month_pos, Int.natCast_pos.2 w.date.day_pos, hdate⟩
    case ordinal => exact ⟨Int.natCast_pos.2 w.date.one_le, hordinal⟩
    all_goals omega

end DocFlow.Calendar
