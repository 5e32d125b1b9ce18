/-!
# Doubles as exact numbers

`view x` reads a double off its bits: NaN, an infinity, or `± mantissa · 2 ^ exponent`.  What the
library asks of a double beyond the operations of `Float` — is it an integer, which integer is
nearest, what is its floor — is computed on the view with exact integers.
-/

namespace DocFlow.Number

-- Powers are those of core, also where a library brings others; for that a literal exponent has its type written out.
attribute [local instance (high)] instPowNat

/-- A double as an exact number. -/
inductive View where
  | nan
  | infinite (negative : Bool)
  | finite (negative : Bool) (mantissa : Nat) (exponent : Int)
  deriving DecidableEq, Repr

/-- The exact number that the bits of `x` stand for. -/
def view (x : Float) : View :=
  let bits := x.toBits.toNat
  let negative := decide (2 ^ (63 : Nat) ≤ bits)
  let biased : Nat := bits / 2 ^ (52 : Nat) % 2 ^ (11 : Nat)
  let fraction : Nat := bits % 2 ^ (52 : Nat)
  if biased = 2047 then
    if fraction = 0 then .infinite negative else .nan
  else if biased = 0 then .finite negative fraction (-1074)
  else .finite negative (2 ^ (52 : Nat) + fraction) ((biased : Int) - 1075)

def signed (negative : Bool) (m : Nat) : Int := if negative then -(m : Int) else m

/-- The natural number `m · 2 ^ e`, if it is one. -/
def natOf? (m : Nat) : Int → Option Nat
  | .ofNat e => some (m * 2 ^ e)
  | .negSucc e => if m % 2 ^ (e + 1) = 0 then some (m / 2 ^ (e + 1)) else none

def toInt? (x : Float) : Option Int :=
  match view x with
  | .finite negative m e => (natOf? m e).map (signed negative)
  | _ => none

/-- Integers of smaller magnitude are all doubles, and each is written without a point. -/
def safeBound : Nat := 2 ^ (53 : Nat)

/-- The integer that `x` is, if its magnitude is below `safeBound`. -/
def toSafeInt? (x : Float) : Option Int := (toInt? x).filter fun n => n.natAbs < safeBound

/-- The greatest natural number not above `m · 2 ^ e`. -/
def natFloor (m : Nat) : Int → Nat
  | .ofNat e => m * 2 ^ e
  | .negSucc e => m / 2 ^ (e + 1)

/-- The natural number nearest to `m · 2 ^ e`; a half goes up. -/
def natRound (m : Nat) : Int → Nat
  | .ofNat e => m * 2 ^ e
  | .negSucc e => (m + 2 ^ e) / 2 ^ (e + 1)

/-- The greatest integer not above `x`, as a double; zero keeps its sign. -/
def floor (x : Float) : Float :=
  match view x with
  | .finite negative m (.negSucc e) =>
    let low := natFloor m (.negSucc e)
    if negative then
      Float.neg (Float.ofNat (if m % 2 ^ (e + 1) = 0 then low else low + 1))
    else Float.ofNat low
  | _ => x

def minInt64 : Int := -2 ^ (63 : Nat)

def maxInt64 : Int := 2 ^ (63 : Nat) - 1

/-- The integer of 64 bits nearest to `x`: a half goes away from zero, NaN is taken as zero, and
what lies outside goes to the end of the range. -/
def toInt64 (x : Float) : Int :=
  match view x with
  | .nan => 0
  | .infinite negative => if negative then minInt64 else maxInt64
  | .finite negative m e => max minInt64 (min maxInt64 (signed negative (natRound m e)))

/-- How two doubles stand to each other; NaN stands in no order to any. -/
def compare? (a b : Float) : Option Ordering :=
  if a < b then some .lt
  else if a == b then some .eq
  else if b < a then some .gt
  else none

/-- The order of doubles in which NaN ties with all. -/
def compare (a b : Float) : Ordering := (compare? a b).getD .eq

end DocFlow.Number
