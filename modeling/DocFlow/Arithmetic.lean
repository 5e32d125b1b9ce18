import DocFlow.Number.Binary64

/-!
# Arithmetic

The operators with two numbers.  A division by zero has no value, and a remainder has the sign of the
divisor.
-/

namespace DocFlow

/-- An operator with two numbers. -/
inductive Arithmetic where
  | add | subtract | multiply | divide | mod
  deriving DecidableEq, Repr

namespace Arithmetic

def name : Arithmetic → String
  | add => "$add"
  | subtract => "$subtract"
  | multiply => "$multiply"
  | divide => "$divide"
  | mod => "$mod"

def named? (name : String) : Option Arithmetic :=
  [add, subtract, multiply, divide, mod].find? fun op => op.name = name

/-- What is left of `a` when `b` is taken away a whole number of times; it has the sign of `b`. -/
def modulo (a b : Float) : Float := a - b * Number.floor (a / b)

/-- The value of an operator; there is none of a division by zero. -/
def apply (a b : Float) : Arithmetic → Option Float
  | add => some (a + b)
  | subtract => some (a - b)
  | multiply => some (a * b)
  | divide => if b == 0.0 then none else some (a / b)
  | mod => if b == 0.0 then none else some (modulo a b)

end Arithmetic

end DocFlow
