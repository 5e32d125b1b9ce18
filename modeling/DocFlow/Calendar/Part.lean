import DocFlow.Calendar.Instant

/-!
# Parts of a wall-clock time

The calendar fields that an expression can ask of an instant.
-/

namespace DocFlow.Calendar

/-- A field of a wall-clock time. -/
inductive Part where
  | dayOfYear | dayOfMonth | dayOfWeek | year | month | hour | minute | second | millisecond
  deriving DecidableEq, Repr

namespace Part

/-- The field of a wall-clock time; days of the week count from one for Sunday. -/
def of (w : Wall) : Part → Int
  | dayOfYear => w.date.ordinal
  | dayOfMonth => w.date.day
  | dayOfWeek => (w.date.weekday + 1) % 7 + 1
  | year => w.date.year
  | month => w.date.month
  | hour => w.hour
  | minute => w.minute
  | second => w.secondOfMinute
  | millisecond => w.millis

end Part

end DocFlow.Calendar
