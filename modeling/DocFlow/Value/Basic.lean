import DocFlow.Calendar.Instant
import DocFlow.Entries
import DocFlow.Value.Kind

/-!
# Values

The values that flow through a pipeline.  `missing` is what reading an absent field gives; it is not
`null`, and it is never part of a document that leaves the pipeline.  Nested documents keep their
fields in insertion order.
-/

namespace DocFlow

inductive Value where
  | missing
  | null
  | bool (b : Bool)
  | number (x : Float)
  | string (s : String)
  | timestamp (t : Calendar.Instant)
  | array (items : List Value)
  | document (fields : List (String × Value))
  deriving Inhabited

namespace Value

def kind : Value → Kind
  | missing => .missing
  | null => .null
  | bool _ => .bool
  | number _ => .number
  | string _ => .string
  | timestamp _ => .timestamp
  | array _ => .array
  | document _ => .document

def isMissing : Value → Bool
  | missing => true
  | _ => false

/-- The value is `missing` or `null`. -/
def isNullish : Value → Bool
  | missing => true
  | null => true
  | _ => false

def toFloat? : Value → Option Float
  | number x => some x
  | _ => none

def toString? : Value → Option String
  | string s => some s
  | _ => none

def toArray? : Value → Option (List Value)
  | array items => some items
  | _ => none

def toDocument? : Value → Option (Entries Value)
  | document fields => some fields
  | _ => none

/-- The value, where `missing` becomes `null`. -/
def orNull : Value → Value
  | missing => null
  | v => v

theorem isMissing_iff {v : Value} : v.isMissing = true ↔ v = missing := by
  cases v <;> simp [isMissing]

theorem isNullish_iff {v : Value} : v.isNullish = true ↔ v = missing ∨ v = null := by
  cases v <;> simp [isNullish]

theorem isMissing_of_isNullish {v : Value} (h : v.isNullish = false) : v.isMissing = false := by
  cases v with
  | missing => cases h
  | _ => rfl

theorem orNull_of_isMissing {v : Value} (h : v.isMissing = false) : v.orNull = v := by
  cases v with
  | missing => cases h
  | _ => rfl

/-! ## Equality

Two documents are equal if they have the same fields in any order.  NaN differs from itself. -/

mutual

def beq : Value → Value → Bool
  | missing, missing => true
  | null, null => true
  | bool a, bool b => a == b
  | number a, number b => a == b
  | string a, string b => a == b
  | timestamp a, timestamp b => a == b
  | array a, array b => beqItems a b
  | document a, document b => a.length == b.length && beqFields a b
  | _, _ => false

def beqItems : List Value → List Value → Bool
  | [], [] => true
  | a :: as, b :: bs => beq a b && beqItems as bs
  | _, _ => false

/-- Each of the fields has an equal one of the same key among `bs`. -/
def beqFields : List (String × Value) → List (String × Value) → Bool
  | [], _ => true
  | (k, a) :: as, bs =>
    (match Entries.get? k bs with | some b => beq a b | none => false) && beqFields as bs

end

instance : BEq Value := ⟨beq⟩

end Value

end DocFlow
