import DocFlow.Number.Shortest

/-!
# Numbers as text

A finite double is written with the shortest digits that read back: positionally and always with a
fraction from `10 ^ -5` up to `10 ^ 16`, with a signed exponent elsewhere.  Infinities and NaN have
names.
-/

namespace DocFlow.Number

/-- The least exponent of ten that is written positionally. -/
def plainFrom : Int := -5

/-- The least exponent of ten above those that are written positionally. -/
def plainBelow : Int := 16

def digits (n : Nat) : List Char := Nat.toDigits 10 n

def zeros (count : Nat) : List Char := List.replicate count '0'

/-- Digits with the point behind the first `point` of them, and a digit on each side of it. -/
def positional (ds : List Char) (point : Int) : List Char :=
  match point with
  | .ofNat (p + 1) =>
    if ds.length ≤ p + 1 then ds ++ zeros (p + 1 - ds.length) ++ ['.', '0']
    else ds.take (p + 1) ++ '.' :: ds.drop (p + 1)
  | _ => '0' :: '.' :: zeros (-point).toNat ++ ds

def exponentText (e : Int) : List Char := (if e < 0 then '-' else '+') :: digits e.natAbs

/-- Digits with the point behind the first of them, and the exponent of that first digit. -/
def scientific (ds : List Char) (e : Int) : List Char :=
  match ds with
  | [d] => d :: 'e' :: exponentText e
  | d :: rest => d :: '.' :: rest ++ 'e' :: exponentText e
  | [] => []

def Decimal.text (d : Decimal) : List Char :=
  let ds := digits d.significand
  let point := d.exponent + ds.length
  if d.significand = 0 then ['0', '.', '0']
  else if plainFrom < point ∧ point ≤ plainBelow then positional ds point
  else scientific ds (point - 1)

def finiteText (negative : Bool) (m : Nat) (q : Int) : List Char :=
  (if negative then ['-'] else []) ++ (shortest m q).text

def text (x : Float) : String :=
  match view x with
  | .nan => "NaN"
  | .infinite negative => if negative then "-inf" else "inf"
  | .finite negative m q => String.ofList (finiteText negative m q)

end DocFlow.Number
