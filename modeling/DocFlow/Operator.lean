import DocFlow.Json.Basic

/-!
# Operators

The names of the operators of each family, and the two shapes by which a specification speaks of
them: a field reference is a text that starts with a dollar sign, and an operator object is an
object whose only key does.
-/

namespace DocFlow

/-- The families of operators; a stage reads its parameters with one of them. -/
inductive Family where
  | query | expression | accumulator
  deriving DecidableEq, Repr

def Family.operators : Family → List String
  | query =>
    ["$eq", "$ne", "$lt", "$lte", "$gt", "$gte", "$in", "$nin", "$regexp", "$regex", "$options",
      "$exists", "$mod", "$all", "$size", "$elemMatch", "$not", "$call", "$and", "$or", "$nor"]
  | expression =>
    ["$value", "$extract", "$timestamp", "$add", "$subtract", "$multiply", "$divide", "$mod",
      "$toLower", "$toUpper", "$toNumber", "$concat", "$substr", "$substring", "$dayOfYear",
      "$dayOfMonth", "$dayOfWeek", "$year", "$month", "$hour", "$minute", "$second", "$millisecond",
      "$call"]
  | accumulator =>
    ["$sum", "$avg", "$min", "$max", "$first", "$last", "$addToSet", "$push", "$concatToSet",
      "$concatToList", "$call"]

def Family.has (f : Family) (name : String) : Bool := f.operators.contains name

def isDollar (s : String) : Bool := s.toList.head? = some '$'

/-- The text behind the dollar sign of a field reference; a lone dollar sign is none. -/
def referenceOf? (s : String) : Option String :=
  match s.toList with
  | '$' :: c :: cs => some (String.ofList (c :: cs))
  | _ => none

/-- The text of the path that a field reference names. -/
def Json.reference? : Json → Option String
  | .string s => referenceOf? s
  | _ => none

/-- The name and the argument of an operator object. -/
def singleOperator? : Entries Json → Option (String × Json)
  | [(name, arg)] => if isDollar name then some (name, arg) else none
  | _ => none

end DocFlow
