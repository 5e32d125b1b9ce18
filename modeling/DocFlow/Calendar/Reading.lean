import DocFlow.Calendar.Format
import DocFlow.Calendar.Fields
import DocFlow.Number.Numeral

/-!
# Reading dates and times

`readWall` reads a text by the items of a format: first as a date and time, then as a date alone,
which stands for its midnight.  An offset from UTC in the text is checked and then left out of
account: the result is what a clock on the wall shows.
-/

namespace DocFlow.Calendar.Reading

-- Powers are those of core, also where a library brings others; for that a literal exponent has its type written out.
attribute [local instance (high)] instPowNat

open DocFlow.Text (isBlank dropBlanks)

/-- What has been read so far, and the rest of the text. -/
structure State where
  fields : Fields
  rest : List Char

/-! ## Pieces of text -/

def maxNumber : Nat := 2 ^ (63 : Nat) - 1

/-- One to `width` digits; as many as there are if no width is given. -/
def number? (width : Option Nat) (cs : List Char) : Option (Int × List Char) :=
  let ds := (match width with | some w => cs.take w | none => cs).takeWhile Char.isDigit
  let n := Number.ofDigits ds
  if ds.isEmpty || maxNumber < n then none else some ((n : Int), cs.drop ds.length)

/-- Exactly `count` digits. -/
def fixedNumber? (count : Nat) (cs : List Char) : Option (Int × List Char) :=
  match number? (some count) cs with
  | some (n, rest) => if rest.length + count = cs.length then some (n, rest) else none
  | none => none

/-- A number that may have a sign, and only then more than `width` digits. -/
def signedNumber? (width : Nat) : List Char → Option (Int × List Char)
  | '-' :: cs => (number? none cs).map fun (n, rest) => (-n, rest)
  | '+' :: cs => number? none cs
  | cs => number? (some width) cs

/-- Nanoseconds from the digits behind a point; digits past the ninth are skipped. -/
def nanoseconds? (cs : List Char) : Option (Int × List Char) :=
  match number? (some 9) cs with
  | none => none
  | some (n, rest) =>
    some (n * 10 ^ (9 - (cs.length - rest.length)), rest.dropWhile Char.isDigit)

def fixedNanoseconds? (count : Nat) (cs : List Char) : Option (Int × List Char) :=
  (fixedNumber? count cs).map fun (n, rest) => (n * 10 ^ (9 - count), rest)

/-- The text behind the word `w`, whose case does not matter. -/
def dropWord? : (w cs : List Char) → Option (List Char)
  | [], cs => some cs
  | _ :: _, [] => none
  | w :: ws, c :: cs => if c.toLower = w then dropWord? ws cs else none

/-- The index of the first word that the text starts with, and the rest. -/
def firstWord? (index : Nat) : List (List Char) → List Char → Option (Nat × List Char)
  | [], _ => none
  | w :: ws, cs =>
    match dropWord? w cs with
    | some rest => some (index, rest)
    | none => firstWord? (index + 1) ws cs

/-- A name that may be cut to its first three letters; the whole name is preferred if it is allowed. -/
def name? (names : List (List Char)) (long : Bool) (cs : List Char) : Option (Nat × List Char) :=
  match firstWord? 0 (names.map (·.take 3)) cs with
  | none => none
  | some (i, rest) =>
    match long, names[i]? with
    | true, some name => some (i, (dropWord? (name.drop 3) rest).getD rest)
    | _, _ => some (i, rest)

def monthNames : List (List Char) :=
  ["january", "february", "march", "april", "may", "june", "july", "august", "september", "october",
    "november", "december"].map String.toList

/-- The days of the week from Monday. -/
def weekdayNames : List (List Char) :=
  ["monday", "tuesday", "wednesday", "thursday", "friday", "saturday", "sunday"].map String.toList

/-- The minutes of an offset, which may be absent if `lenient`. -/
def offsetMinutes? (lenient : Bool) : List Char → Option (Nat × List Char)
  | [] => if lenient then some (0, []) else none
  | a :: b :: cs =>
    if '0' ≤ a ∧ a ≤ '5' ∧ b.isDigit then some (Number.ofDigits [a, b], cs) else none
  | _ => none

/-- The hours and minutes of an offset in seconds, with colons and blanks between them. -/
def offsetSeconds? (lenient : Bool) : List Char → Option (Nat × List Char)
  | a :: b :: cs =>
    if a.isDigit ∧ b.isDigit then
      (offsetMinutes? lenient (cs.dropWhile fun c => c = ':' || isBlank c)).map
        fun (m, rest) => (Number.ofDigits [a, b] * 3600 + m * 60, rest)
    else none
  | _ => none

/-- An offset from UTC: a sign, two digits of hours and two of minutes; `Z` where `zulu` allows it. -/
def offset? (zulu lenient : Bool) : List Char → Option (Int × List Char)
  | [] => none
  | c :: cs =>
    if zulu ∧ (c = 'Z' ∨ c = 'z') then some (0, cs)
    else if c = '+' then (offsetSeconds? lenient cs).map fun (n, rest) => ((n : Int), rest)
    else if c = '-' ∨ c = '−' then (offsetSeconds? lenient cs).map fun (n, rest) => (-(n : Int), rest)
    else none

/-! ## Items -/

/-- The width of a field, if it has one, and whether it may have a sign. -/
def widthOf : NumberField → Option Nat × Bool
  | .year => (some 4, true)
  | .isoYear => (some 4, true)
  | .ordinal => (some 3, false)
  | .quarter => (some 1, false)
  | .daysFromSunday => (some 1, false)
  | .dayFromMonday => (some 1, false)
  | .nanosecond => (some 9, false)
  | .timestamp => (none, false)
  | _ => (some 2, false)

def setField (f : Fields) (field : NumberField) (v : Int) : Except Flaw Fields :=
  match field with
  | .year => f.setYear v
  | .century => do
    let x ← Fields.settleIn 0 Fields.maxYear f.century v
    pure { f with century := x }
  | .yearOfCentury => do
    let x ← Fields.settleIn 0 99 f.yearOfCentury v
    pure { f with yearOfCentury := x }
  | .isoYear => do
    let x ← Fields.settleIn (-Fields.maxYear - 1) Fields.maxYear f.isoYear v
    pure { f with isoYear := x }
  | .isoYearOfCentury => do
    let x ← Fields.settleIn 0 99 f.isoYearOfCentury v
    pure { f with isoYearOfCentury := x }
  | .quarter => do
    let x ← Fields.settleIn 1 4 f.quarter v
    pure { f with quarter := x }
  | .month => f.setMonth v
  | .day => do
    let x ← Fields.settleIn 1 31 f.day v
    pure { f with day := x }
  | .ordinal => f.setOrdinal v
  | .weekFromSunday => do
    let x ← Fields.settleIn 0 53 f.weekFromSunday v
    pure { f with weekFromSunday := x }
  | .weekFromMonday => do
    let x ← Fields.settleIn 0 53 f.weekFromMonday v
    pure { f with weekFromMonday := x }
  | .isoWeek => do
    let x ← Fields.settleIn 1 53 f.isoWeek v
    pure { f with isoWeek := x }
  | .daysFromSunday => if 0 ≤ v ∧ v ≤ 6 then f.setWeekday ((v + 6) % 7) else throw .outOfRange
  | .dayFromMonday => if 1 ≤ v ∧ v ≤ 7 then f.setWeekday (v - 1) else throw .outOfRange
  | .hour => f.setHour v
  | .hour12 => f.setHour12 v
  | .minute => f.setMinute v
  | .second => f.setSecond v
  | .nanosecond => f.setNanosecond v
  | .timestamp => do
    let x ← Fields.settle f.timestamp v
    pure { f with timestamp := x }

/-- The state behind a piece that was read and a field that was set. -/
def advance (set : Except Flaw Fields) (rest : List Char) : Option State :=
  match set with
  | .ok f => some ⟨f, rest⟩
  | .error _ => none

def readNumber (s : State) (field : NumberField) : Option State :=
  let cs := dropBlanks s.rest
  let read :=
    match widthOf field with
    | (some w, true) => signedNumber? w cs
    | (w, _) => number? w cs
  match read with
  | some (v, rest) => advance (setField s.fields field v) rest
  | none => none

def readLiteral (s : State) (cs : List Char) : Option State :=
  if cs.isPrefixOf s.rest then some { s with rest := s.rest.drop cs.length } else none

/-- The state behind a fraction with its point, if there is a point. -/
def readFraction (s : State) (digits : Option Nat) : Option State :=
  match s.rest with
  | '.' :: cs =>
    let read := match digits with | some n => fixedNanoseconds? n cs | none => nanoseconds? cs
    match read with
    | some (v, rest) => advance (s.fields.setNanosecond v) rest
    | none => none
  | _ => some s

def readOffset (s : State) (zulu lenient : Bool) : Option State :=
  match offset? zulu lenient (dropBlanks s.rest) with
  | some (v, rest) => advance (s.fields.setOffset v) rest
  | none => none

/-- The state behind a number and a literal that may have blanks in front. -/
def readNumberThen (s : State) (field : NumberField) (c : Char) : Option State := do
  let s ← readNumber s field
  readLiteral { s with rest := dropBlanks s.rest } [c]

/-- The state behind a date, a `T` or a blank, a time with an optional fraction, and an offset or
`UTC`. -/
def readDateTimeOffset (s : State) : Option State := do
  let s ← readNumberThen s .year '-'
  let s ← readNumberThen s .month '-'
  let s ← readNumber s .day
  let s ←
    match s.rest with
    | c :: rest => if c = 't' ∨ c = 'T' ∨ c = ' ' then some { s with rest := rest } else none
    | [] => none
  let s ← readNumberThen s .hour ':'
  let s ← readNumberThen s .minute ':'
  let s ← readNumber s .second
  let s ← readFraction s none
  let rest := dropBlanks s.rest
  match dropWord? ['u', 't', 'c'] rest with
  | some rest => advance (s.fields.setOffset 0) rest
  | none => readOffset { s with rest := rest } true false

def readItem (s : State) : Item → Option State
  | .literal cs => readLiteral s cs
  | .blanks => some { s with rest := dropBlanks s.rest }
  | .number field => readNumber s field
  | .monthName long =>
    match name? monthNames long s.rest with
    | some (i, rest) => advance (s.fields.setMonth (i + 1)) rest
    | none => none
  | .weekdayName long =>
    match name? weekdayNames long s.rest with
    | some (i, rest) => advance (s.fields.setWeekday i) rest
    | none => none
  | .halfDay =>
    match firstWord? 0 [['a', 'm'], ['p', 'm']] s.rest with
    | some (i, rest) => advance (s.fields.setHalf (i = 1)) rest
    | none => none
  | .fraction digits => readFraction s digits
  | .bareFraction digits =>
    match fixedNanoseconds? digits s.rest with
    | some (v, rest) => advance (s.fields.setNanosecond v) rest
    | none => none
  | .zoneName => some { s with rest := s.rest.dropWhile fun c => !isBlank c }
  | .offset lenient => readOffset s lenient lenient
  | .dateTimeOffset => readDateTimeOffset s

/-- The fields of a text that the items read to its end. -/
def readFields (items : List Item) (cs : List Char) : Option Fields :=
  match items.foldlM readItem (⟨.empty, cs⟩ : State) with
  | some s => if s.rest.isEmpty then some s.fields else none
  | none => none

/-- The wall-clock time that a text gives in a format: a date and time, or a date at midnight. -/
def readWall (items : List Item) (text : String) : Option Wall :=
  match readFields items text.toList with
  | none => none
  | some f =>
    match f.toWall with
    | .ok w => some w
    | .error _ =>
      match f.toDate with
      | .ok d => some (.midnight d)
      | .error _ => none

end DocFlow.Calendar.Reading
