import DocFlow.Calendar.Reading
import DocFlow.Expr.Basic
import DocFlow.Text.Case
import DocFlow.Text.Substring

/-!
# Values of expressions

The value of an expression for a document.  A value that stands for no value passes through most
operators; a value of a kind that the operator cannot work on is an error of its scope.
-/

namespace DocFlow.Expr

/-- A function of texts at a value: what stands for no value stays. -/
def mapText (operator : String) (scope : Scope) (f : String → String) : Value → Except Error Value
  | .string s => .ok (.string (f s))
  | .missing => .ok .missing
  | .null => .ok .null
  | v => .error (scope.evaluation operator (.sourceNotString v.kind))

/-- The group of the first match of a pattern in a text; missing without a match. -/
def extractFrom (pattern : Regex) (group : Nat) (scope : Scope) : Value → Except Error Value
  | .string s =>
    match (pattern.find? s).bind fun m => m.group? group with
    | some found => .ok (.string found)
    | none => .ok .missing
  | .missing => .ok .missing
  | v => .error (scope.evaluation "$extract" (.sourceNotString v.kind))

/-- The instant that a text gives in a format as wall-clock time at an offset. -/
def readTimestamp (format : String) (items : List Calendar.Item) (offset : Calendar.Offset)
    (scope : Scope) : Value → Except Error Value
  | .string s =>
    match Calendar.Reading.readWall items s with
    | none => .error (scope.evaluation "$timestamp" (.formatMismatch s format))
    | some wall =>
      match wall.toInstant? offset with
      | none => .error (scope.evaluation "$timestamp" (.notLocalTime s))
      | some t => .ok (.timestamp t)
  | .missing => .ok .missing
  | .null => .ok .null
  | v => .error (scope.evaluation "$timestamp" (.sourceNotString v.kind))

def calculate (op : Arithmetic) (scope : Scope) (a b : Value) : Except Error Value :=
  if a.isNullish || b.isNullish then .ok .null
  else
    match a.toFloat?, b.toFloat? with
    | some x, some y =>
      match op.apply x y with
      | some z => .ok (.number z)
      | none => .error (scope.evaluation op.name .divisionByZero)
    | _, _ => .error (scope.evaluation op.name (.notNumeric a.kind b.kind))

/-- The number that a value is or that its text writes. -/
def convertToNumber (scope : Scope) : Value → Except Error Value
  | .number x => .ok (.number x)
  | .string s =>
    match Number.ofTrimmed? s with
    | some x => .ok (.number x)
    | none => .error (scope.evaluation "$toNumber" (.notNumeral s))
  | .missing => .ok .missing
  | .null => .ok .null
  | v => .error (scope.evaluation "$toNumber" (.noNumber v.kind))

/-- The instant of a count of seconds from the epoch, to the nearest millisecond. -/
def instantOfSeconds? (x : Float) : Option Calendar.Instant :=
  Calendar.Instant.ofMillis? (Number.toInt64 (x * 1000.0))

def partAt (part : Calendar.Part) (offset : Calendar.Offset) (t : Calendar.Instant) : Value :=
  .number (Float.ofInt (part.of (t.toWall offset)))

/-- A part of the date that a value is: a timestamp, or a number of seconds from the epoch. -/
def takePart (part : Calendar.Part) (offset : Calendar.Offset) (scope : Scope) :
    Value → Except Error Value
  | .timestamp t => .ok (partAt part offset t)
  | .number x =>
    match instantOfSeconds? x with
    | some t => .ok (partAt part offset t)
    | none => .error (scope.evaluation part.operator .timestampOutOfRange)
  | .missing => .ok .missing
  | .null => .ok .null
  | v => .error (scope.evaluation part.operator (.notDate v.kind))

mutual

def eval (d : Document) (scope : Scope) : Expr → Except Error Value
  | operand o => .ok (o.resolve d)
  | value e => eval d scope e
  | extract source pattern group => do extractFrom pattern group scope (← eval d scope source)
  | timestamp source format items offset => do
    readTimestamp format items offset scope (← eval d scope source)
  | arithmetic op left right => do
    let a ← eval d scope left
    let b ← eval d scope right
    calculate op scope a b
  | letterCase true source => do mapText "$toUpper" scope Text.upper (← eval d scope source)
  | letterCase false source => do mapText "$toLower" scope Text.lower (← eval d scope source)
  | toNumber source => do convertToNumber scope (← eval d scope source)
  | concat parts => joinParts d scope "" parts
  | substr source start length => do
    mapText "$substr" scope (Text.take · start length) (← eval d scope source)
  | substring source start stop => do
    mapText "$substring" scope (Text.slice · start stop) (← eval d scope source)
  | datePart part source offset => do takePart part offset scope (← eval d scope source)
  | object fields => do return .document (← evalFields d (fun _ => scope) [] fields)
  | call f => scope.call "$call" (f.run d)

/-- The texts of expressions put behind a text, or null at the first that stands for no value. -/
def joinParts (d : Document) (scope : Scope) (done : String) : List Expr → Except Error Value
  | [] => .ok (.string done)
  | e :: es => do
    match ← eval d scope e with
    | .string s => joinParts d scope (done ++ s) es
    | .missing => .ok .null
    | .null => .ok .null
    | v => .error (scope.evaluation "$concat" (.operandNotString v.kind))

/-- The fields with the values of named expressions added, each evaluated in the scope that belongs
to its name; a missing value is left out. -/
def evalFields (d : Document) (scopeOf : String → Scope) (done : Entries Value) :
    List (String × Expr) → Except Error (Entries Value)
  | [] => .ok done
  | (key, e) :: es => do
    match ← eval d (scopeOf key) e with
    | .missing => evalFields d scopeOf done es
    | v => evalFields d scopeOf (Entries.put key v done) es

end

end DocFlow.Expr
