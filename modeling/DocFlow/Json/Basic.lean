import DocFlow.Entries
import DocFlow.Number.Binary64

/-!
# JSON values

Specifications and untagged documents are JSON.  Objects keep the order of their members, and an
integer is kept apart from a number with a point or an exponent: where a specification asks for an
integer, `1.0` is none.
-/

namespace DocFlow

-- Powers are those of core, also where a library brings others; for that a literal exponent has its type written out.
attribute [local instance (high)] instPowNat

inductive JsonNumber where
  /-- An integer of 64 bits, signed or unsigned. -/
  | int (n : Int)
  /-- Any other number. -/
  | float (x : Float)
  deriving DecidableEq

inductive Json where
  | null
  | bool (b : Bool)
  | number (n : JsonNumber)
  | string (s : String)
  | array (items : List Json)
  | object (members : List (String × Json))
  deriving Inhabited

/-- The double nearest to the number. -/
def JsonNumber.toFloat : JsonNumber → Float
  | .int n => Float.ofInt n
  | .float x => x

namespace Json

def toFloat? : Json → Option Float
  | number n => some n.toFloat
  | _ => none

/-- The integer of a number that is a signed integer of 64 bits. -/
def toInt? : Json → Option Int
  | number (.int n) => if Number.minInt64 ≤ n ∧ n ≤ Number.maxInt64 then some n else none
  | _ => none

/-- The natural number of a number that is an unsigned integer of 64 bits. -/
def toNat? : Json → Option Nat
  | number (.int n) => if 0 ≤ n ∧ n < 2 ^ (64 : Nat) then some n.toNat else none
  | _ => none

def toString? : Json → Option String
  | string s => some s
  | _ => none

def toArray? : Json → Option (List Json)
  | array items => some items
  | _ => none

def toObject? : Json → Option (List (String × Json))
  | object members => some members
  | _ => none

end Json

end DocFlow
