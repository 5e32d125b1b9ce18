import DocFlow.Calendar.Date

/-!
# Instants and wall-clock times

An instant counts seconds from the epoch, with nanoseconds; a leap second is the second before it
with a thousand million nanoseconds more.  A wall-clock time is a date with a time of day, and a
fixed offset from UTC leads from one to the other (`Wall.toInstant`, `Instant.toWall`).
-/

namespace DocFlow.Calendar

/-- A point in time: seconds from 1970-01-01T00:00:00Z, and nanoseconds. -/
structure Instant where
  seconds : Int
  nanos : Nat
  deriving DecidableEq

/-- A fixed offset from UTC, in seconds, of less than a day. -/
structure Offset where
  seconds : Int
  bounded : -86400 < seconds ∧ seconds < 86400
  deriving DecidableEq

def Offset.ofSeconds? (n : Int) : Option Offset :=
  if h : -86400 < n ∧ n < 86400 then some ⟨n, h⟩ else none

def Offset.utc : Offset := ⟨0, by decide⟩

/-- A date with a time of day, in seconds from midnight and nanoseconds. -/
structure Wall where
  date : Date
  second : Nat
  nanos : Nat
  second_lt : second < 86400
  deriving DecidableEq

def Wall.midnight (d : Date) : Wall := ⟨d, 0, 0, by decide⟩

namespace Instant

/-- The years that instants lie in. -/
def minYear : Int := -262143

@[inherit_doc minYear] def maxYear : Int := 262142

/-- The instant lies in a year that is kept. -/
def inRange (t : Instant) : Bool :=
  let d := Date.ofDays (t.seconds / 86400)
  decide (minYear ≤ d.year ∧ d.year ≤ maxYear)

/-- The instant of a count of milliseconds, if it is in range. -/
def ofMillis? (n : Int) : Option Instant :=
  let t : Instant := ⟨n / 1000, (n % 1000).toNat * 1000000⟩
  if t.inRange then some t else none

def toWall (t : Instant) (o : Offset) : Wall :=
  let n := t.seconds + o.seconds
  ⟨Date.ofDays (n / 86400), (n % 86400).toNat, t.nanos, by omega⟩

def compare (s t : Instant) : Ordering :=
  (Ord.compare s.seconds t.seconds).then (Ord.compare s.nanos t.nanos)

end Instant

namespace Wall

/-- The seconds from the epoch to the wall-clock time, were it in UTC. -/
def seconds (w : Wall) : Int := w.date.days * 86400 + w.second

/-- The instant of a wall-clock time at an offset, if it is in range. -/
def toInstant? (w : Wall) (o : Offset) : Option Instant :=
  let t : Instant := ⟨w.seconds - o.seconds, w.nanos⟩
  if t.inRange then some t else none

def hour (w : Wall) : Nat := w.second / 3600

def minute (w : Wall) : Nat := w.second / 60 % 60

/-- The second of the minute; a leap second shows the second before it. -/
def secondOfMinute (w : Wall) : Nat := w.second % 60

/-- The milliseconds; those of a leap second start at a thousand. -/
def millis (w : Wall) : Nat := w.nanos / 1000000

end Wall

/-! ## The text of an instant -/

/-- The digits of `n`, with zeros in front up to the given width. -/
def padded (width n : Nat) : List Char :=
  let ds := Nat.toDigits 10 n
  List.replicate (width - ds.length) '0' ++ ds

/-- A year: four digits, and with a sign outside of `0000` to `9999`. -/
def yearText (y : Int) : List Char :=
  if 0 ≤ y ∧ y ≤ 9999 then padded 4 y.toNat
  else (if y < 0 then '-' else '+') :: padded 4 y.natAbs

/-- The fraction of a second, in as few of 0, 3, 6 and 9 digits as are exact. -/
def fractionText (nanos : Nat) : List Char :=
  if nanos = 0 then []
  else if nanos % 1000000 = 0 then '.' :: padded 3 (nanos / 1000000)
  else if nanos % 1000 = 0 then '.' :: padded 6 (nanos / 1000)
  else '.' :: padded 9 nanos

/-- The text of an instant in UTC; a leap second is written as the second behind the last. -/
def Instant.chars (t : Instant) : List Char :=
  let w := t.toWall .utc
  let (second, nanos) :=
    if 1000000000 ≤ w.nanos then (w.secondOfMinute + 1, w.nanos - 1000000000)
    else (w.secondOfMinute, w.nanos)
  yearText w.date.year ++ '-' :: padded 2 w.date.month ++ '-' :: padded 2 w.date.day
    ++ 'T' :: padded 2 w.hour ++ ':' :: padded 2 w.minute ++ ':' :: padded 2 second
    ++ fractionText nanos ++ ['Z']

end DocFlow.Calendar
