import DocFlow.Number.Binary64

/-!
# The shortest decimal of a double

Of all decimals `d · 10 ^ k` that read back as a given double, `shortest` finds one with the fewest
digits, and of those the nearest.  A double `m · 2 ^ q` is read back from every number between the
midpoints to its neighbours, the midpoints included if `m` is even.  The search tries one digit,
two digits, … and asks the two points of the decimal grid around the value, in exact arithmetic.
-/

namespace DocFlow.Number

-- Powers are those of core, also where a library brings others; for that a literal exponent has its type written out.
attribute [local instance (high)] instPowNat

/-- The number `significand · 10 ^ exponent`. -/
structure Decimal where
  significand : Nat
  exponent : Int
  deriving DecidableEq, Repr

def digitCount (n : Nat) : Nat := (Nat.toDigits 10 n).length

/-- A value, the ends of the interval that reads back as it, and their common denominator. -/
structure Target where
  value : Nat
  low : Nat
  high : Nat
  den : Nat
  closed : Bool

/-- The target of `m · 2 ^ q`: the gap below a power of two is half the gap above. -/
def Target.ofParts (m : Nat) (q : Int) : Target :=
  let below := if m = 2 ^ (52 : Nat) ∧ -1074 < q then 1 else 2
  let up := 2 ^ (q - 2).toNat
  { value := 4 * m * up, low := (4 * m - below) * up, high := (4 * m + 2) * up,
    den := 2 ^ (2 - q).toNat, closed := m % 2 = 0 }

/-- The target times `10 ^ (-k)`. -/
def Target.scale (t : Target) (k : Int) : Target :=
  let up := 10 ^ (-k).toNat
  { t with value := t.value * up, low := t.low * up, high := t.high * up, den := t.den * 10 ^ k.toNat }

/-- The natural number `d` lies in the interval. -/
def Target.holds (t : Target) (d : Nat) : Bool :=
  if t.closed then decide (t.low ≤ d * t.den ∧ d * t.den ≤ t.high)
  else decide (t.low < d * t.den ∧ d * t.den < t.high)

/-- The natural number in the interval that is nearest to the value; a tie goes to the even one. -/
def Target.nearest? (t : Target) : Option Nat :=
  let d := t.value / t.den
  let rest := t.value % t.den
  match t.holds d, t.holds (d + 1) with
  | true, true =>
    if 2 * rest < t.den ∨ (2 * rest = t.den ∧ d % 2 = 0) then some d else some (d + 1)
  | true, false => some d
  | false, true => some (d + 1)
  | false, false => none

/-- The count of digits before the point of `value / den`, negative for zeros behind the point. -/
def Target.magnitude (t : Target) : Int :=
  let n : Int := (digitCount t.value : Int) - digitCount t.den
  if t.value * 10 ^ (-n).toNat < t.den * 10 ^ n.toNat then n else n + 1

/-- The first grid, from `digits` digits on, with a point in the interval. -/
def Target.search (t : Target) (magnitude : Int) (digits : Nat) : (fuel : Nat) → Decimal
  | 0 =>
    let k := magnitude - digits
    let s := t.scale k
    ⟨s.value / s.den, k⟩
  | fuel + 1 =>
    let k := magnitude - digits
    match (t.scale k).nearest? with
    | some d => ⟨d, k⟩
    | none => t.search magnitude (digits + 1) fuel

/-- The decimal without zeros at the end of its significand. -/
def Decimal.strip (d : Decimal) : (fuel : Nat) → Decimal
  | 0 => d
  | fuel + 1 =>
    if d.significand % 10 = 0 then Decimal.strip ⟨d.significand / 10, d.exponent + 1⟩ fuel else d

/-- The shortest decimal that reads back as `m · 2 ^ q`; seventeen digits always do. -/
def shortest (m : Nat) (q : Int) : Decimal :=
  if m = 0 then ⟨0, 0⟩
  else
    let t := Target.ofParts m q
    (t.search t.magnitude 1 17).strip 17

end DocFlow.Number
