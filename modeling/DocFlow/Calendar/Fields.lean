import DocFlow.Calendar.Instant

/-!
# Dates and times from their fields

A text may give a date by year, month and day, by day of the year, by week and weekday, or by a
count of seconds, and may give more than one of these.  `Fields` holds what was read; `toDate`,
`toTime` and `toWall` find the date and time that the fields determine and check that every further
field agrees with it.
-/

namespace DocFlow.Calendar

-- Powers are those of core, also where a library brings others; for that a literal exponent has its type written out.
attribute [local instance (high)] instPowNat

/-- Why fields determine no date or time. -/
inductive Flaw where
  /-- A field that is needed was not read. -/
  | incomplete
  /-- Two fields disagree. -/
  | conflicting
  /-- A field has no such value. -/
  | outOfRange
  deriving DecidableEq, Repr

/-- The fields that a text has given. -/
structure Fields where
  year : Option Int
  century : Option Int
  yearOfCentury : Option Int
  isoYear : Option Int
  isoCentury : Option Int
  isoYearOfCentury : Option Int
  quarter : Option Int
  month : Option Int
  weekFromSunday : Option Int
  weekFromMonday : Option Int
  isoWeek : Option Int
  /-- The weekday, zero for Monday. -/
  weekday : Option Int
  ordinal : Option Int
  day : Option Int
  /-- Zero for the first half of the day, one for the second. -/
  half : Option Int
  hourOfHalf : Option Int
  minute : Option Int
  second : Option Int
  nanosecond : Option Int
  timestamp : Option Int
  offset : Option Int

namespace Fields

def empty : Fields :=
  ⟨none, none, none, none, none, none, none, none, none, none, none, none, none, none, none, none,
    none, none, none, none, none⟩

/-- The value `v` for a field that holds `old`: one that is there must be the same. -/
def settle (old : Option Int) (v : Int) : Except Flaw (Option Int) :=
  match old with
  | none => pure (some v)
  | some w => if w = v then pure (some v) else throw .conflicting

/-- The value `v` for a field whose values go from `lo` to `hi`. -/
def settleIn (lo hi : Int) (old : Option Int) (v : Int) : Except Flaw (Option Int) :=
  if lo ≤ v ∧ v ≤ hi then settle old v else throw .outOfRange

/-- The greatest year that a text can give, and one less than the negative of the least. -/
def maxYear : Int := 2 ^ (31 : Nat) - 1

/-- The hour of the day, as a half day and an hour of that half. -/
def setHour (f : Fields) (v : Int) : Except Flaw Fields := do
  if 0 ≤ v ∧ v ≤ 23 then
    let half ← settle f.half (v / 12)
    let hour ← settle f.hourOfHalf (v % 12)
    pure { f with half := half, hourOfHalf := hour }
  else throw .outOfRange

/-- The hour of a half day, where twelve comes before one. -/
def setHour12 (f : Fields) (v : Int) : Except Flaw Fields := do
  if 1 ≤ v ∧ v ≤ 12 then
    let hour ← settle f.hourOfHalf (v % 12)
    pure { f with hourOfHalf := hour }
  else throw .outOfRange

def setHalf (f : Fields) (second : Bool) : Except Flaw Fields := do
  let half ← settle f.half (if second then 1 else 0)
  pure { f with half := half }

def setYear (f : Fields) (v : Int) : Except Flaw Fields := do
  let year ← settleIn (-maxYear - 1) maxYear f.year v
  pure { f with year := year }

def setMonth (f : Fields) (v : Int) : Except Flaw Fields := do
  let month ← settleIn 1 12 f.month v
  pure { f with month := month }

/-- The weekday, zero for Monday. -/
def setWeekday (f : Fields) (v : Int) : Except Flaw Fields := do
  let weekday ← settle f.weekday v
  pure { f with weekday := weekday }

def setOrdinal (f : Fields) (v : Int) : Except Flaw Fields := do
  let ordinal ← settleIn 1 366 f.ordinal v
  pure { f with ordinal := ordinal }

def setMinute (f : Fields) (v : Int) : Except Flaw Fields := do
  let minute ← settleIn 0 59 f.minute v
  pure { f with minute := minute }

/-- The second, sixty for a leap second. -/
def setSecond (f : Fields) (v : Int) : Except Flaw Fields := do
  let second ← settleIn 0 60 f.second v
  pure { f with second := second }

def setNanosecond (f : Fields) (v : Int) : Except Flaw Fields := do
  let nanosecond ← settleIn 0 999999999 f.nanosecond v
  pure { f with nanosecond := nanosecond }

def setOffset (f : Fields) (v : Int) : Except Flaw Fields := do
  let offset ← settle f.offset v
  pure { f with offset := offset }

/-! ## The date -/

/-- A year from the year itself, its century and its place in the century. -/
def resolveYear (year century ofCentury : Option Int) : Except Flaw (Option Int) :=
  match year, century, ofCentury with
  | y, none, none => pure y
  | some y, q, r =>
    if y < 0 then throw .conflicting
    else if q.getD (y / 100) = y / 100 ∧ r.getD (y % 100) = y % 100 then pure (some y)
    else throw .conflicting
  | none, some q, some r =>
    let y := q * 100 + r
    if y ≤ maxYear then pure (some y) else throw .outOfRange
  | none, none, some r => pure (some (r + if r < 70 then 2000 else 1900))
  | none, some _, none => throw .incomplete

/-- A field is absent or holds `v`. -/
def agrees (field : Option Int) (v : Int) : Bool := field.all (· = v)

/-- The fields of a year agree with `y`; a year before the common era has no century. -/
def yearAgrees (year century ofCentury : Option Int) (y : Int) : Bool :=
  agrees year y &&
    if 0 ≤ y then agrees century (y / 100) && agrees ofCentury (y % 100)
    else century.isNone && ofCentury.isNone

def ymdAgrees (f : Fields) (d : Date) : Bool :=
  yearAgrees f.year f.century f.yearOfCentury d.year && agrees f.month d.month && agrees f.day d.day

/-- Year and number of the week, and the weekday, agree with the date. -/
def isoWeekAgrees (f : Fields) (d : Date) : Bool :=
  yearAgrees f.isoYear f.isoCentury f.isoYearOfCentury d.isoYear && agrees f.isoWeek d.isoWeek
    && agrees f.weekday d.weekday

/-- The day of the year and the weeks counted within the year agree with the date. -/
def ordinalAgrees (f : Fields) (d : Date) : Bool :=
  agrees f.ordinal d.ordinal && agrees f.weekFromSunday (d.weekFrom 6)
    && agrees f.weekFromMonday (d.weekFrom 0)

/-- The date, if its year is one that is kept. -/
def kept (d : Option Date) : Except Flaw Date :=
  match d with
  | some d =>
    if Instant.minYear ≤ d.year ∧ d.year ≤ Instant.maxYear then pure d else throw .outOfRange
  | none => throw .outOfRange

/-- The date of a weekday in a week of a year, where weeks start at the weekday `start`. -/
def weekDate (y week weekday : Int) (start : Nat) : Except Flaw Date := do
  let first ← kept (Date.ofOrdinal? y 1)
  let firstStart : Int := 1 + ((start : Int) - first.weekday) % 7
  let ordinal := firstStart + (week - 1) * 7 + (weekday - start) % 7
  if ordinal ≤ 0 then throw .conflicting
  else
    match Date.ofOrdinal? y ordinal.toNat with
    | some d => pure d
    | none => throw .conflicting

/-- The date as first determined, and whether the fields not used for it agree. -/
def candidate (f : Fields) (year isoYear : Option Int) : Except Flaw (Bool × Date) :=
  match year, f.month, f.day, f.ordinal with
  | some y, some m, some d, _ => do
    let date ← kept (Date.ofYmd? y m.toNat d.toNat)
    pure (f.isoWeekAgrees date && f.ordinalAgrees date, date)
  | some y, _, _, some n => do
    let date ← kept (Date.ofOrdinal? y n.toNat)
    pure (f.ymdAgrees date && f.isoWeekAgrees date && f.ordinalAgrees date, date)
  | _, _, _, _ =>
    match year, f.weekFromSunday, f.weekFromMonday, f.weekday with
    | some y, some w, _, some wd => do
      let date ← weekDate y w wd 6
      pure (f.ymdAgrees date && f.isoWeekAgrees date && f.ordinalAgrees date, date)
    | some y, _, some w, some wd => do
      let date ← weekDate y w wd 0
      pure (f.ymdAgrees date && f.isoWeekAgrees date && f.ordinalAgrees date, date)
    | _, _, _, _ =>
      match isoYear, f.isoWeek, f.weekday with
      | some y, some w, some wd => do
        let date ← kept (Date.ofIsoWeek? y w.toNat wd.toNat)
        pure (f.ymdAgrees date && f.ordinalAgrees date, date)
      | _, _, _ => throw .incomplete

def toDate (f : Fields) : Except Flaw Date := do
  let year ← resolveYear f.year f.century f.yearOfCentury
  let isoYear ← resolveYear f.isoYear f.isoCentury f.isoYearOfCentury
  let (sound, date) ← f.candidate year isoYear
  if sound && agrees f.quarter date.quarter then pure date else throw .conflicting

/-! ## The time -/

def require (field : Option Int) : Except Flaw Int :=
  match field with
  | some v => pure v
  | none => throw .incomplete

/-- The second of the day and the nanoseconds that the fields determine.  Seconds may be absent, and
then so must their fraction be. -/
def toTime (f : Fields) : Except Flaw (Nat × Nat) := do
  let half ← require f.half
  let hour ← require f.hourOfHalf
  let minute ← require f.minute
  let (second, leap) := if f.second = some 60 then (59, 1000000000) else (f.second.getD 0, 0)
  let nanos ←
    match f.nanosecond with
    | none => pure 0
    | some n => if f.second.isSome then pure n else throw .incomplete
  pure (((half * 12 + hour) * 3600 + minute * 60 + second).toNat, (leap + nanos).toNat)

def wallOf (d : Date) (time : Nat × Nat) : Except Flaw Wall :=
  if h : time.1 < 86400 then pure ⟨d, time.1, time.2, h⟩ else throw .outOfRange

/-! ## Date and time -/

/-- A count of seconds agrees with a date and time; a leap second may count as the next one. -/
def timestampAgrees (f : Fields) (w : Wall) : Bool :=
  f.timestamp.all fun n => n = w.seconds || (1000000000 ≤ w.nanos && n = w.seconds + 1)

/-- The date and time of a count of seconds, checked against the other fields. -/
def ofTimestamp (f : Fields) (n : Int) : Except Flaw Wall := do
  let t : Instant := ⟨n, 0⟩
  if !t.inRange then throw .outOfRange
  let w := t.toWall .utc
  let (f, w) ←
    if f.second = some 60 then
      if w.secondOfMinute = 59 then pure (f, w)
      else if w.secondOfMinute = 0 then pure (f, (⟨n - 1, 0⟩ : Instant).toWall .utc)
      else throw .conflicting
    else do
      let f ← f.setSecond w.secondOfMinute
      pure (f, w)
  let f ← f.setYear w.date.year
  let f ← f.setOrdinal w.date.ordinal
  let f ← f.setHour w.hour
  let f ← f.setMinute w.minute
  let date ← f.toDate
  let time ← f.toTime
  wallOf date time

def toWall (f : Fields) : Except Flaw Wall :=
  match f.toDate, f.toTime with
  | .ok date, .ok time => do
    let w ← wallOf date time
    if f.timestampAgrees w then pure w else throw .conflicting
  | date, time =>
    match f.timestamp with
    | none => throw .incomplete
    | some n =>
      match date, time with
      | .error .outOfRange, _ | .error .conflicting, _ => throw .conflicting
      | _, .error .outOfRange | _, .error .conflicting => throw .conflicting
      | _, _ => f.ofTimestamp n

end Fields

end DocFlow.Calendar
