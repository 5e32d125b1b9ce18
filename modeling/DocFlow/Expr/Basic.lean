import DocFlow.Arithmetic
import DocFlow.Calendar.Format
import DocFlow.Calendar.Part
import DocFlow.Error
import DocFlow.Operand
import DocFlow.Regex.Basic

/-!
# Expressions

An expression computes a value from a document.  An operand is a literal or the value at a path;
every other expression is an operator applied to operands.  `Expr.kinds` says which kinds of values
an expression may give, which is known before any document is seen.
-/

namespace DocFlow

/-! ## Operators that take dates apart -/

/-- The operator that gives a part of a date. -/
def Calendar.Part.operator : Calendar.Part → String
  | dayOfYear => "$dayOfYear"
  | dayOfMonth => "$dayOfMonth"
  | dayOfWeek => "$dayOfWeek"
  | year => "$year"
  | month => "$month"
  | hour => "$hour"
  | minute => "$minute"
  | second => "$second"
  | millisecond => "$millisecond"

def Calendar.Part.named? (name : String) : Option Calendar.Part :=
  [Calendar.Part.dayOfYear, .dayOfMonth, .dayOfWeek, .year, .month, .hour, .minute, .second,
    .millisecond].find? fun part => part.operator = name

/-! ## Expressions -/

inductive Expr where
  | operand (o : Operand)
  /-- The value of another expression. -/
  | value (e : Expr)
  /-- A group of the first match of a pattern. -/
  | extract (source : Expr) (pattern : Regex) (group : Nat)
  /-- The instant that a text gives as wall-clock time. -/
  | timestamp (source : Expr) (format : String) (items : List Calendar.Item)
      (offset : Calendar.Offset)
  | arithmetic (op : Arithmetic) (left right : Expr)
  /-- A text in capital or in small letters. -/
  | letterCase (upper : Bool) (source : Expr)
  | toNumber (source : Expr)
  | concat (parts : List Expr)
  | substr (source : Expr) (start length : Int)
  | substring (source : Expr) (start : Int) (stop : Option Int)
  | datePart (part : Calendar.Part) (source : Expr) (offset : Calendar.Offset)
  /-- A document of named expressions. -/
  | object (fields : List (String × Expr))
  | call (function : Named Projector)

namespace Expr

def name : Expr → String
  | operand _ => "$value"
  | value _ => "$value"
  | extract _ _ _ => "$extract"
  | timestamp _ _ _ _ => "$timestamp"
  | arithmetic op _ _ => op.name
  | letterCase true _ => "$toUpper"
  | letterCase false _ => "$toLower"
  | toNumber _ => "$toNumber"
  | concat _ => "$concat"
  | substr _ _ _ => "$substr"
  | substring _ _ _ => "$substring"
  | datePart part _ _ => part.operator
  | object _ => "$project"
  | call _ => "$call"

/-- The operator of an expression that is more than an operand. -/
def operator? : Expr → Option String
  | operand _ => none
  | e => some e.name

/-! ## Kinds -/

def numeric : KindSet := (KindSet.of [.number]).union .nullish

def textual : KindSet := (KindSet.of [.string]).union .nullish

def temporal : KindSet := (KindSet.of [.timestamp, .number]).union .nullish

/-- The kinds of the values that an expression may give. -/
def kinds : Expr → KindSet
  | operand o => o.kinds
  | value e => e.kinds
  | extract _ _ _ => .of [.string, .missing]
  | timestamp _ _ _ _ => (KindSet.of [.timestamp]).union .nullish
  | arithmetic _ _ _ => .of [.number, .null]
  | letterCase _ _ => textual
  | toNumber _ => numeric
  | concat _ => .of [.string, .null]
  | substr _ _ _ => textual
  | substring _ _ _ => textual
  | datePart _ _ _ => numeric
  | object _ => .of [.document]
  | call _ => .any

/-- The expression, as an operand of an operator that takes values of the kinds `accepted`.  It is
refused if none of the values it may give, but for those that stand for no value, is accepted. -/
def expecting (e : Expr) (accepted : KindSet) (operator : String) (scope : Scope) :
    Except Error Expr :=
  let concrete := e.kinds.diff .nullish
  if concrete.isEmpty || concrete.meets accepted then .ok e
  else .error (scope.invalid operator (.kindMismatch e.operator? e.kinds accepted))

end Expr

end DocFlow
