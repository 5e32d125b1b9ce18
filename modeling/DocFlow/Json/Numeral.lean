import DocFlow.Json.Basic
import DocFlow.Number.Numeral

/-!
# Numbers of a JSON text

An integer that fits 64 bits is kept exactly; `-0` and every other number become doubles.  The
double is built from a significand of 64 bits — digits that no longer fit are dropped — by one
multiplication or division with a power of ten, and a number too large for a double is refused.
-/

namespace DocFlow.Json

-- Powers are those of core, also where a library brings others; for that a literal exponent has its type written out.
attribute [local instance (high)] instPowNat

/-- What can be wrong with a JSON text. -/
inductive ReadError where
  | unexpectedEnd
  | unexpected (c : Char)
  | badEscape
  | loneSurrogate
  | controlCharacter
  | numberOutOfRange
  | tooDeep
  | trailing
  deriving DecidableEq, Repr

/-- The parts of a number: its sign, the digits before and behind the point, and its exponent. -/
structure Numeral where
  negative : Bool
  whole : List Char
  fraction : Option (List Char)
  exponent : Option (Bool × List Char)

def maxSignificand : Nat := 2 ^ (64 : Nat) - 1

/-- Digits appended to `n` as long as the significand has room, and the count of those left out. -/
def appendDigits (n : Nat) : List Char → Nat × Nat
  | [] => (n, 0)
  | d :: ds =>
    let n' := n * 10 + Number.digitValue d
    if n' ≤ maxSignificand then appendDigits n' ds else (n, ds.length + 1)

/-- The greatest exponent of ten that is a double. -/
def maxPower : Nat := 308

/-- The double `10 ^ n`, for `n ≤ maxPower`. -/
def power (n : Nat) : Float := Number.ofScientific 1 n

/-- `x` divided by `10 ^ n`, at most `10 ^ maxPower` in one step. -/
def scaleDown (x : Float) (n : Nat) : Float :=
  if n ≤ maxPower then x / power n
  else if x == 0.0 then x
  else scaleDown (x / power maxPower) (n - maxPower)
termination_by n
decreasing_by simp only [maxPower] at *; omega

/-- The significand `n` times `10 ^ e`, unless it is too large for a double. -/
def scale? (n : Nat) (e : Int) : Option Float :=
  let x := Float.ofNat n
  match e with
  | .negSucc k => some (scaleDown x (k + 1))
  | .ofNat k =>
    if k ≤ maxPower then
      let y := x * power k
      if y.isInf then none else some y
    else if n = 0 then some x
    else none

/-- The greatest magnitude of an exponent that is taken into account. -/
def maxExponent : Nat := 2 ^ (31 : Nat) - 1

def Numeral.float? (t : Numeral) : Option Float :=
  let (n, dropped) := appendDigits 0 t.whole
  let fraction := t.fraction.getD []
  let (n, left) := appendDigits n fraction
  let shift : Int := (dropped : Int) - (fraction.length - left : Nat)
  let magnitude :=
    match t.exponent with
    | none => scale? n shift
    | some (down, ds) =>
      let e := Number.ofDigits ds
      if maxExponent < e then
        if n ≠ 0 ∧ !down then none else some 0.0
      else scale? n (if down then shift - e else shift + e)
  magnitude.map fun x => if t.negative then -x else x

def Numeral.number? (t : Numeral) : Option JsonNumber :=
  let n := Number.ofDigits t.whole
  if t.fraction.isNone ∧ t.exponent.isNone ∧ n ≤ maxSignificand then
    if !t.negative then some (.int n)
    else if n = 0 ∨ 2 ^ (63 : Nat) < n then some (.float (-(Float.ofNat n)))
    else some (.int (-n))
  else t.float?.map .float

/-- The digits before the point: one zero, or digits that do not start with zero. -/
def readWhole : List Char → Except ReadError (List Char × List Char)
  | [] => throw .unexpectedEnd
  | '0' :: cs =>
    match cs with
    | c :: _ => if c.isDigit then throw (.unexpected c) else pure (['0'], cs)
    | [] => pure (['0'], [])
  | c :: cs => if c.isDigit then pure (Number.spanDigits (c :: cs)) else throw (.unexpected c)

/-- At least one digit. -/
def readDigits (cs : List Char) : Except ReadError (List Char × List Char) :=
  match Number.spanDigits cs with
  | ([], []) => throw .unexpectedEnd
  | ([], c :: _) => throw (.unexpected c)
  | (ds, rest) => pure (ds, rest)

/-- The digits behind a point, if there is one. -/
def readFraction : List Char → Except ReadError (Option (List Char) × List Char)
  | '.' :: cs => do
    let (ds, rest) ← readDigits cs
    pure (some ds, rest)
  | cs => pure (none, cs)

/-- An exponent, if there is one: whether it is negative, and its digits. -/
def readExponent : List Char → Except ReadError (Option (Bool × List Char) × List Char)
  | [] => pure (none, [])
  | c :: cs =>
    if c = 'e' ∨ c = 'E' then do
      let (negative, cs) := Number.takeSign cs
      let (ds, rest) ← readDigits cs
      pure (some (negative, ds), rest)
    else pure (none, c :: cs)

/-- A number at the start of the text, and what follows it. -/
def readNumber (cs : List Char) : Except ReadError (JsonNumber × List Char) := do
  let (negative, cs) := match cs with
    | '-' :: cs => (true, cs)
    | cs => (false, cs)
  let (whole, cs) ← readWhole cs
  let (fraction, cs) ← readFraction cs
  let (exponent, cs) ← readExponent cs
  match Numeral.number? ⟨negative, whole, fraction, exponent⟩ with
  | some n => pure (n, cs)
  | none => throw .numberOutOfRange

end DocFlow.Json
