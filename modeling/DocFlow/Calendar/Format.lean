import DocFlow.Text.Blank

/-!
# Formats of dates and times

A format is text in which `%` and a letter stand for a field of a date or time (`%Y-%m-%d`).  It is
read once into a list of items; a specifier that is not known makes the whole format invalid.  How
numbers are padded matters only when a time is written, so padding is checked and then forgotten.
-/

namespace DocFlow.Calendar

inductive NumberField where
  | year | century | yearOfCentury
  | isoYear | isoYearOfCentury
  | quarter | month | day | ordinal
  | weekFromSunday | weekFromMonday | isoWeek
  | daysFromSunday | dayFromMonday
  | hour | hour12 | minute | second | nanosecond
  | timestamp
  deriving DecidableEq, Repr

inductive Item where
  /-- These characters exactly. -/
  | literal (cs : List Char)
  /-- Any number of blanks. -/
  | blanks
  | number (field : NumberField)
  /-- The name of a month; the long form also reads short names. -/
  | monthName (long : Bool)
  /-- The name of a weekday; the long form also reads short names. -/
  | weekdayName (long : Bool)
  /-- `AM` or `PM`. -/
  | halfDay
  /-- A point with a fraction of a second, of any or of a fixed count of digits; may be absent. -/
  | fraction (digits : Option Nat)
  /-- A fraction of a second without a point. -/
  | bareFraction (digits : Nat)
  /-- The name of a time zone, which is skipped. -/
  | zoneName
  /-- An offset from UTC; the lenient form allows `Z` and an absent count of minutes. -/
  | offset (lenient : Bool)
  /-- A date, a time and an offset in one. -/
  | dateTimeOffset
  deriving DecidableEq, Repr

namespace Item

def colon : Item := .literal [':']

def dash : Item := .literal ['-']

def slash : Item := .literal ['/']

def time : List Item := [.number .hour, colon, .number .minute, colon, .number .second]

def shortDate : List Item := [.number .month, slash, .number .day, slash, .number .yearOfCentury]

/-- The items of a specifier of one letter. -/
def ofLetter? : Char → Option (List Item)
  | 'A' => some [.weekdayName true]
  | 'B' => some [.monthName true]
  | 'C' => some [.number .century]
  | 'D' => some shortDate
  | 'F' => some [.number .year, dash, .number .month, dash, .number .day]
  | 'G' => some [.number .isoYear]
  | 'H' => some [.number .hour]
  | 'I' => some [.number .hour12]
  | 'M' => some [.number .minute]
  | 'P' => some [.halfDay]
  | 'R' => some [.number .hour, colon, .number .minute]
  | 'S' => some [.number .second]
  | 'T' => some time
  | 'U' => some [.number .weekFromSunday]
  | 'V' => some [.number .isoWeek]
  | 'W' => some [.number .weekFromMonday]
  | 'X' => some time
  | 'Y' => some [.number .year]
  | 'Z' => some [.zoneName]
  | 'a' => some [.weekdayName false]
  | 'b' => some [.monthName false]
  | 'c' =>
    some ([.weekdayName false, .blanks, .monthName false, .blanks, .number .day, .blanks] ++ time
      ++ [.blanks, .number .year])
  | 'd' => some [.number .day]
  | 'e' => some [.number .day]
  | 'f' => some [.number .nanosecond]
  | 'g' => some [.number .isoYearOfCentury]
  | 'h' => some [.monthName false]
  | 'j' => some [.number .ordinal]
  | 'k' => some [.number .hour]
  | 'l' => some [.number .hour12]
  | 'm' => some [.number .month]
  | 'n' => some [.blanks]
  | 'p' => some [.halfDay]
  | 'q' => some [.number .quarter]
  | 'r' =>
    some [.number .hour12, colon, .number .minute, colon, .number .second, .blanks, .halfDay]
  | 's' => some [.number .timestamp]
  | 't' => some [.blanks]
  | 'u' => some [.number .dayFromMonday]
  | 'v' => some [.number .day, dash, .monthName false, dash, .number .year]
  | 'w' => some [.number .daysFromSunday]
  | 'x' => some shortDate
  | 'y' => some [.number .yearOfCentury]
  | 'z' => some [.offset false]
  | '+' => some [.dateTimeOffset]
  | '%' => some [.literal ['%']]
  | _ => none

/-- The count of digits that a fraction can be fixed to. -/
def fractionDigits? : Char → Option Nat
  | '3' => some 3
  | '6' => some 6
  | '9' => some 9
  | _ => none

/-- The items of a specifier with a mark for its padding, which only a single number can have. -/
def ofPadded? (c : Char) : Option (List Item) :=
  match ofLetter? c with
  | some [.number f] => some [.number f]
  | _ => none

/-- The items of the specifier that stands behind a percent sign, and the count of its characters. -/
def ofSpecifier? : List Char → Option (List Item × Nat)
  | '-' :: c :: _ => (ofPadded? c).map (·, 2)
  | '0' :: c :: _ => (ofPadded? c).map (·, 2)
  | '_' :: c :: _ => (ofPadded? c).map (·, 2)
  | '#' :: 'z' :: _ => some ([.offset true], 2)
  | ':' :: ':' :: ':' :: 'z' :: _ => some ([.offset false], 4)
  | ':' :: ':' :: 'z' :: _ => some ([.offset false], 3)
  | ':' :: 'z' :: _ => some ([.offset false], 2)
  | '.' :: 'f' :: _ => some ([.fraction none], 2)
  | '.' :: d :: 'f' :: _ => (fractionDigits? d).map fun n => ([.fraction (some n)], 3)
  | c :: cs =>
    match fractionDigits? c, cs with
    | some n, 'f' :: _ => some ([.bareFraction n], 2)
    | _, _ => (ofLetter? c).map (·, 1)
  | [] => none

/-- One more character of literal text in front of items. -/
def consLiteral (c : Char) : List Item → List Item
  | .literal cs :: items => .literal (c :: cs) :: items
  | items => .literal [c] :: items

/-- The items of a format, of which the first `skip` characters are read already. -/
def ofChars? : (skip : Nat) → List Char → Option (List Item)
  | _, [] => some []
  | skip + 1, _ :: cs => ofChars? skip cs
  | 0, '%' :: cs =>
    match ofSpecifier? cs with
    | none => none
    | some (items, n) => (ofChars? n cs).map (items ++ ·)
  | 0, c :: cs =>
    (ofChars? 0 cs).map fun items => if Text.isBlank c then .blanks :: items else consLiteral c items

/-- The items of a format, if every specifier is known. -/
def ofFormat? (format : String) : Option (List Item) := ofChars? 0 format.toList

end Item

end DocFlow.Calendar
