import DocFlow.Number.Binary64
import DocFlow.Value.Basic

/-!
# The order of values

`Value.compare` orders all values: first by kind, and within a kind by its natural order — arrays
and documents item by item, the shorter first.  `Value.compare?` orders only values of one kind that
has a natural order of its own.
-/

namespace DocFlow.Value

/-- The place of a kind in the order of kinds. -/
def rank : Value → Nat
  | missing => 0
  | null => 1
  | number _ => 2
  | string _ => 3
  | document _ => 4
  | array _ => 5
  | bool _ => 6
  | timestamp _ => 7

def compareText (a b : String) : Ordering := Ord.compare a b

/-- `false` comes before `true`. -/
def compareBool (a b : Bool) : Ordering := Ord.compare a.toNat b.toNat

mutual

def compare : Value → Value → Ordering
  | number a, number b => Number.compare a b
  | string a, string b => compareText a b
  | bool a, bool b => compareBool a b
  | timestamp a, timestamp b => a.compare b
  | array a, array b => compareItems a b
  | document a, document b => compareFields a b
  | a, b => Ord.compare a.rank b.rank

def compareItems : List Value → List Value → Ordering
  | [], [] => .eq
  | [], _ :: _ => .lt
  | _ :: _, [] => .gt
  | a :: as, b :: bs => (compare a b).then (compareItems as bs)

/-- The order of documents: field by field, the key before the value. -/
def compareFields : List (String × Value) → List (String × Value) → Ordering
  | [], [] => .eq
  | [], _ :: _ => .lt
  | _ :: _, [] => .gt
  | (k, a) :: as, (l, b) :: bs =>
    ((compareText k l).then (compare a b)).then (compareFields as bs)

end

/-- How two values of one comparable kind stand to each other. -/
def compare? : Value → Value → Option Ordering
  | number a, number b => Number.compare? a b
  | string a, string b => some (compareText a b)
  | bool a, bool b => some (compareBool a b)
  | timestamp a, timestamp b => some (a.compare b)
  | _, _ => none

end DocFlow.Value
