import DocFlow.Arithmetic
import DocFlow.Error
import DocFlow.Number.Numeral
import DocFlow.Operand
import DocFlow.Regex.Basic
import DocFlow.Value.Order

/-!
# Queries

A query accepts or refuses a document.  It combines conditions on fields, and a condition on a field
is a list of tests of the value found there.  Most tests hold of an array if they hold of one of its
items; an equality also holds of the whole array.
-/

namespace DocFlow

/-- The tests of order. -/
inductive Comparison where
  | lt | le | gt | ge
  deriving DecidableEq, Repr

namespace Comparison

def operator : Comparison → String
  | lt => "$lt"
  | le => "$lte"
  | gt => "$gt"
  | ge => "$gte"

def named? (name : String) : Option Comparison :=
  [lt, le, gt, ge].find? fun c => c.operator = name

def accepts (o : Ordering) : Comparison → Bool
  | lt => o = .lt
  | le => o ≠ .gt
  | gt => o = .gt
  | ge => o ≠ .lt

end Comparison

mutual

inductive Query where
  | all (queries : List Query)
  | any (queries : List Query)
  | neither (queries : List Query)
  /-- A predicate of the host program over the whole document. -/
  | call (predicate : Named Matcher)
  /-- Tests of the value at a path. -/
  | field (path : Path) (tests : List Test)

/-- A test of the value found at a path. -/
inductive Test where
  | eq (o : Operand)
  | ne (o : Operand)
  | compare (c : Comparison) (o : Operand)
  | among (o : Operand)
  | notAmong (o : Operand)
  | matching (pattern : Regex)
  | present (expected : Bool)
  | modulo (divisor remainder : Float)
  | containsAll (vs : List Value)
  | size (n : Nat)
  /-- Some item of the array passes the tests. -/
  | item (tests : List Test)
  /-- Some item of the array is a document that the query accepts. -/
  | itemQuery (q : Query)
  | negation (tests : List Test)
  | call (predicate : Named Matcher)

end

/-- The queries together; one alone stands for itself. -/
def Query.together : List Query → Query
  | [q] => q
  | qs => all qs

/-! ## Tests of plain values -/

namespace Test

/-- The value found is the expected one, or an array that has it as an item.  A missing value and
null are the same. -/
def equal (found expected : Value) : Bool :=
  if expected.isNullish then found.isNullish
  else
    found == expected ||
      match found with
      | .array items => items.any (· == expected)
      | _ => false

/-- The value, or some item of it if it is an array, has a property. -/
def anyItem (p : Value → Bool) : Value → Bool
  | .array items => items.any p
  | v => p v

/-- The order of two values of one kind; a text that writes a number is read as one beside a
number. -/
def compareRead? (found target : Value) : Option Ordering :=
  match found, target with
  | .number a, .string b => do Number.compare? a (← Number.ofTrimmed? b)
  | .string a, .number b => do Number.compare? (← Number.ofTrimmed? a) b
  | a, b => a.compare? b

def passes (c : Comparison) (found target : Value) : Bool :=
  match compareRead? found target with
  | some o => c.accepts o
  | none => false

def matchesText (pattern : Regex) : Value → Bool
  | .string s => pattern.isMatch s
  | _ => false

/-- The value is a number that leaves a remainder by a divisor. -/
def leaves (divisor remainder : Float) : Value → Bool
  | .number n => Arithmetic.modulo n divisor == remainder
  | _ => false

def hasSize (n : Nat) : Value → Bool
  | .array items => items.length = n
  | _ => false

/-- Some candidate is equal to the value found; `operator` names the test in the error of candidates
that are no array. -/
def isAmong (operator : String) (scope : Scope) (found candidates : Value) : Except Error Bool :=
  match candidates with
  | .array items => .ok (items.any (equal found))
  | v => .error (scope.evaluation operator (.operandNotArray v.kind))

end Test

/-! ## Answers -/

/-- Some value of the list passes a test that may fail; the first to pass ends the search. -/
def firstPassing (p : Value → Except Error Bool) : List Value → Except Error Bool
  | [] => .ok false
  | v :: vs => do if ← p v then return true else firstPassing p vs

mutual

def Query.accepts (d : Document) : Query → Except Error Bool
  | .all qs => Query.allAccept d qs
  | .any qs => Query.someAccepts d qs
  | .neither qs => do return !(← Query.someAccepts d qs)
  | .call f => Scope.call ⟨.filter, f.name⟩ "$call" (f.run .missing d)
  | .field path tests => Test.allHold d ⟨.filter, path.text⟩ (d.get path) tests

/-- Each query accepts the document; the first to refuse it ends the search. -/
def Query.allAccept (d : Document) : List Query → Except Error Bool
  | [] => .ok true
  | q :: qs => do if ← Query.accepts d q then Query.allAccept d qs else return false

/-- Some query accepts the document; the first to accept it ends the search. -/
def Query.someAccepts (d : Document) : List Query → Except Error Bool
  | [] => .ok false
  | q :: qs => do if ← Query.accepts d q then return true else Query.someAccepts d qs

def Test.holds (d : Document) (scope : Scope) (v : Value) : Test → Except Error Bool
  | .eq o => .ok (Test.equal v (o.resolve d))
  | .ne o => .ok (!Test.equal v (o.resolve d))
  | .compare c o => .ok (Test.anyItem (fun item => Test.passes c item (o.resolve d)) v)
  | .among o => Test.isAmong "$in" scope v (o.resolve d)
  | .notAmong o => do return !(← Test.isAmong "$nin" scope v (o.resolve d))
  | .matching pattern => .ok (Test.anyItem (Test.matchesText pattern) v)
  | .present expected => .ok (!v.isMissing == expected)
  | .modulo divisor remainder => .ok (Test.anyItem (Test.leaves divisor remainder) v)
  | .containsAll vs => .ok (!vs.isEmpty && vs.all (Test.equal v))
  | .size n => .ok (Test.hasSize n v)
  | .item tests =>
    match v with
    | .array items => firstPassing (fun item => Test.allHold d scope item tests) items
    | _ => .ok false
  | .itemQuery q =>
    match v with
    | .array items =>
      firstPassing
        (fun item =>
          match item with
          | .document fields => Query.accepts ⟨fields⟩ q
          | _ => .ok false)
        items
    | _ => .ok false
  | .negation tests => do return !(← Test.allHold d scope v tests)
  | .call f => scope.call "$call" (f.run v d)

/-- Each test holds of a value found in a document; the first that does not ends the search. -/
def Test.allHold (d : Document) (scope : Scope) (v : Value) : List Test → Except Error Bool
  | [] => .ok true
  | t :: ts => do if ← Test.holds d scope v t then Test.allHold d scope v ts else return false

end

end DocFlow
