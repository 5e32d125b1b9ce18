import DocFlow.Text.Blank

/-!
# Numerals

Reading a number from text: an optional sign, then `inf`, `infinity` or `nan` in any case, or
digits with an optional point (a digit on at least one side) and an optional exponent.  The result
is the double nearest to the number written.
-/

namespace DocFlow.Number

def digitValue (c : Char) : Nat := c.toNat - '0'.toNat

def ofDigits (ds : List Char) : Nat := ds.foldl (fun n d => n * 10 + digitValue d) 0

def spanDigits (cs : List Char) : List Char × List Char := cs.span Char.isDigit

/-- A leading sign: whether it is a minus, and what follows. -/
def takeSign : List Char → Bool × List Char
  | '-' :: cs => (true, cs)
  | '+' :: cs => (false, cs)
  | cs => (false, cs)

/-- The fraction behind a point, if there is a point. -/
def takeFraction : List Char → List Char × List Char
  | '.' :: cs => spanDigits cs
  | cs => ([], cs)

/-- The whole of `cs` as an exponent; the empty text is the exponent zero. -/
def exponent? : List Char → Option Int
  | [] => some 0
  | c :: cs =>
    if c = 'e' ∨ c = 'E' then
      let (negative, cs) := takeSign cs
      match spanDigits cs with
      | ([], _) => none
      | (ds, []) => some (if negative then -(ofDigits ds : Int) else ofDigits ds)
      | _ => none
    else none

/-- The double nearest to `n · 10 ^ e`.  What is beyond all doubles or below half of the least is not
computed. -/
def ofScientific (n : Nat) (e : Int) : Float :=
  let size := (Nat.toDigits 10 n).length + e
  if n = 0 ∨ size < -324 then 0.0
  else if 309 < size then 1.0 / 0.0
  else
    match e with
    | .ofNat k => Float.ofScientific n false k
    | .negSucc k => Float.ofScientific n true (k + 1)

def unsigned? (cs : List Char) : Option Float :=
  let word := String.ofList (cs.map Char.toLower)
  if word = "inf" ∨ word = "infinity" then some (1.0 / 0.0)
  else if word = "nan" then some (0.0 / 0.0)
  else
    let (whole, cs) := spanDigits cs
    let (fraction, cs) := takeFraction cs
    if whole.isEmpty && fraction.isEmpty then none
    else (exponent? cs).map fun e => ofScientific (ofDigits (whole ++ fraction)) (e - fraction.length)

/-- The double that the whole text writes. -/
def ofText? (cs : List Char) : Option Float :=
  let (negative, cs) := takeSign cs
  (unsigned? cs).map fun x => if negative then -x else x

/-- The double that a text writes between blanks. -/
def ofTrimmed? (s : String) : Option Float := ofText? (Text.trimBlanks s.toList)

end DocFlow.Number
