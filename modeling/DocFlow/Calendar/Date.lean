/-!
# Dates

Days of the proleptic Gregorian calendar, for years before and after the common era alike.  A date
is a year with a day of that year; `Date.days` counts days from 1970-01-01 and `Date.ofDays` finds
the date of a count.  The two are inverse (`ofDays_days`, `days_ofDays`).
-/

namespace DocFlow.Calendar

-- The zero of sums is the literal one, also beside a library with a zero of its own.
attribute [local instance (high)] Zero.ofOfNat0

/-- Every fourth year is long, but of the hundredth years only every fourth. -/
def isLeap (y : Int) : Bool := decide (y % 4 = 0 ∧ (y % 100 ≠ 0 ∨ y % 400 = 0))

def yearLength (y : Int) : Nat := if isLeap y then 366 else 365

/-- A day of the calendar: its year and its place in the year, counted from one. -/
structure Date where
  year : Int
  ordinal : Nat
  one_le : 1 ≤ ordinal
  le_length : ordinal ≤ yearLength year
  deriving DecidableEq

namespace Date

/-! ## Counting days -/

/-- The days from 0001-01-01 to the first day of the year `y`. -/
def daysBefore (y : Int) : Int := 365 * (y - 1) + (y - 1) / 4 - (y - 1) / 100 + (y - 1) / 400

/-- The days from 0001-01-01 to 1970-01-01. -/
def epoch : Int := 719162

/-- The days from 1970-01-01 to the date. -/
def days (d : Date) : Int := daysBefore d.year + ((d.ordinal : Int) - 1) - epoch

/-- A day counted from 0001-01-01 within its cycle of 400, 100, 4 and 1 years. -/
structure Cycles where
  quad : Int
  century : Int
  leapGroup : Int
  year : Int
  day : Int

/-- The cycles of a day: the last century of four and the last year of four have one day more. -/
def Cycles.ofDay (n : Int) : Cycles :=
  let quad := n / 146097
  let n := n % 146097
  let century := min 3 (n / 36524)
  let n := n - century * 36524
  let leapGroup := n / 1461
  let n := n % 1461
  let year := min 3 (n / 365)
  ⟨quad, century, leapGroup, year, n - year * 365⟩

def Cycles.toYear (c : Cycles) : Int := 400 * c.quad + 100 * c.century + 4 * c.leapGroup + c.year + 1

/-- What makes cycles those of a day: each is within its bounds, and the long last day of a year
belongs to a long year. -/
structure Cycles.Sound (c : Cycles) : Prop where
  century : 0 ≤ c.century ∧ c.century ≤ 3
  leapGroup : 0 ≤ c.leapGroup ∧ c.leapGroup ≤ 24
  year : 0 ≤ c.year ∧ c.year ≤ 3
  day : 0 ≤ c.day ∧ c.day ≤ 365
  last : c.day = 365 → c.year = 3 ∧ (c.leapGroup = 24 → c.century = 3)

theorem Cycles.sound_ofDay (n : Int) : (Cycles.ofDay n).Sound := by
  constructor <;> simp only [Cycles.ofDay] <;> omega

theorem Cycles.total (n : Int) :
    146097 * (Cycles.ofDay n).quad + 36524 * (Cycles.ofDay n).century + 1461 * (Cycles.ofDay n).leapGroup
      + 365 * (Cycles.ofDay n).year + (Cycles.ofDay n).day = n := by
  simp only [Cycles.ofDay]; omega

theorem Cycles.Sound.day_lt {c : Cycles} (h : c.Sound) : c.day < yearLength c.toYear := by
  obtain ⟨⟨_, _⟩, ⟨_, _⟩, ⟨_, _⟩, ⟨_, _⟩, hl⟩ := h
  by_cases hd : c.day = 365
  · obtain ⟨hy, hc⟩ := hl hd
    have : isLeap c.toYear = true := by
      refine decide_eq_true ?_
      simp only [Cycles.toYear]
      omega
    simp [yearLength, this]; omega
  · unfold yearLength; split <;> omega

theorem Cycles.Sound.daysBefore_toYear {c : Cycles} (h : c.Sound) :
    daysBefore c.toYear = 146097 * c.quad + 36524 * c.century + 1461 * c.leapGroup + 365 * c.year := by
  obtain ⟨⟨_, _⟩, ⟨_, _⟩, ⟨_, _⟩, _, _⟩ := h
  have h₄ : (c.toYear - 1) / 4 = 100 * c.quad + 25 * c.century + c.leapGroup := by
    simp only [Cycles.toYear]; omega
  have h₁₀₀ : (c.toYear - 1) / 100 = 4 * c.quad + c.century := by simp only [Cycles.toYear]; omega
  have h₄₀₀ : (c.toYear - 1) / 400 = c.quad := by simp only [Cycles.toYear]; omega
  simp only [daysBefore, h₄, h₁₀₀, h₄₀₀]
  simp only [Cycles.toYear]
  omega

/-- The date `n` days after 1970-01-01. -/
def ofDays (n : Int) : Date :=
  let c := Cycles.ofDay (n + epoch)
  { year := c.toYear
    ordinal := c.day.toNat + 1
    one_le := Nat.le_add_left 1 _
    le_length := by
      have h := Cycles.sound_ofDay (n + epoch)
      have h₀ := h.day.1
      have h₁ := h.day_lt
      show (Cycles.ofDay (n + epoch)).day.toNat + 1 ≤ yearLength (Cycles.ofDay (n + epoch)).toYear
      omega }

/-! ## Months -/

def monthLengths (y : Int) : List Nat :=
  [31, if isLeap y then 29 else 28, 31, 30, 31, 30, 31, 31, 30, 31, 30, 31]

/-- The month and the day of the month of the day `n` of a year, where `month` is the first of the
months with the given lengths. -/
def monthDayFrom (month : Nat) : (lengths : List Nat) → (n : Nat) → Nat × Nat
  | [], n => (month, n)
  | len :: rest, n => if n ≤ len then (month, n) else monthDayFrom (month + 1) rest (n - len)

/-- The month, from one to twelve, and the day of the month. -/
def monthDay (d : Date) : Nat × Nat := monthDayFrom 1 (monthLengths d.year) d.ordinal

/-- The month, from one to twelve. -/
def month (d : Date) : Nat := d.monthDay.1

def day (d : Date) : Nat := d.monthDay.2

/-- The quarter of the year, from one to four. -/
def quarter (d : Date) : Nat := (d.month - 1) / 3 + 1

def ofOrdinal? (y : Int) (n : Nat) : Option Date :=
  if h : 1 ≤ n ∧ n ≤ yearLength y then some ⟨y, n, h.1, h.2⟩ else none

def ofYmd? (y : Int) (m d : Nat) : Option Date :=
  if m = 0 then none
  else
    match (monthLengths y)[m - 1]? with
    | none => none
    | some len =>
      if 1 ≤ d ∧ d ≤ len then ofOrdinal? y (((monthLengths y).take (m - 1)).sum + d) else none

/-! ## Weeks -/

/-- The day of the week, zero for Monday. -/
def weekday (d : Date) : Nat := ((d.days + 3) % 7).toNat

/-- The days from the last weekday `start` to the date, both counted from Monday. -/
def daysSince (d : Date) (start : Nat) : Nat := (d.weekday + 7 - start) % 7

/-- The week of the year, where weeks start at the weekday `start`; zero is before the first start. -/
def weekFrom (d : Date) (start : Nat) : Nat := (d.ordinal + 6 - d.daysSince start) / 7

/-- The year of the week that holds the date: the year of its Thursday. -/
def isoYear (d : Date) : Int := (ofDays (d.days - d.weekday + 3)).year

/-- The number of the week that holds the date, in the year of its Thursday. -/
def isoWeek (d : Date) : Nat := ((ofDays (d.days - d.weekday + 3)).ordinal - 1) / 7 + 1

/-- The date of a weekday of a week, where week one holds the first Thursday of the year. -/
def ofIsoWeek? (y : Int) (week weekday : Nat) : Option Date :=
  let thursday := ofDays (daysBefore y - epoch - daysBefore y % 7 + 3)
  let first := if thursday.year = y then thursday.days else thursday.days + 7
  let thursday := ofDays (first + 7 * ((week : Int) - 1))
  if week ≠ 0 ∧ thursday.year = y ∧ thursday.isoWeek = week then
    some (ofDays (thursday.days - 3 + weekday))
  else none

/-! ## The two directions are inverse -/

theorem ext_year_ordinal {d e : Date} (hy : d.year = e.year) (ho : d.ordinal = e.ordinal) : d = e := by
  cases d; cases e; simp_all

theorem days_ofDays (n : Int) : (ofDays n).days = n := by
  have h := Cycles.sound_ofDay (n + epoch)
  have ht := Cycles.total (n + epoch)
  have hd := h.day.1
  simp only [days, ofDays, h.daysBefore_toYear]
  omega

/-- Within a year the days are counted one by one, and the next year starts where it ends. -/
theorem daysBefore_succ (y : Int) : daysBefore (y + 1) = daysBefore y + yearLength y := by
  unfold daysBefore yearLength isLeap
  split
  · rename_i h
    simp only [decide_eq_true_eq] at h
    omega
  · rename_i h
    simp only [decide_eq_true_eq] at h
    omega

theorem daysBefore_lt {y z : Int} (h : y < z) : daysBefore y + yearLength y ≤ daysBefore z := by
  rw [← daysBefore_succ]
  unfold daysBefore
  omega

/-- Two dates are the same if they are as many days from the epoch: those of a later year come after
all days of an earlier one. -/
theorem days_inj {d e : Date} (h : d.days = e.days) : d = e := by
  have hd := d.one_le
  have he := e.one_le
  have hd' := d.le_length
  have he' := e.le_length
  simp only [days] at h
  rcases Int.lt_trichotomy d.year e.year with hlt | heq | hgt
  · have := daysBefore_lt hlt
    omega
  · rw [heq] at h
    exact ext_year_ordinal heq (by omega)
  · have := daysBefore_lt hgt
    omega

theorem ofDays_days (d : Date) : ofDays d.days = d := days_inj (days_ofDays d.days)

end Date

end DocFlow.Calendar
