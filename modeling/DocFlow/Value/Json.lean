import DocFlow.Json.Printer
import DocFlow.Value.Basic

/-!
# Values and JSON

Reading a value from JSON and turning it back.  On the way to JSON a missing field is left out, a
missing item becomes `null`, an integral number is written as an integer, a number that is not
finite becomes `null`, and a timestamp becomes its text.  `serialize` writes the same JSON without
building it.
-/

namespace DocFlow.Value

mutual

def ofJson : Json → Value
  | .null => null
  | .bool b => bool b
  | .number n => number n.toFloat
  | .string s => string s
  | .array items => array (ofItems items)
  | .object members => document (ofMembers members)

def ofItems : List Json → List Value
  | [] => []
  | j :: js => ofJson j :: ofItems js

def ofMembers : List (String × Json) → List (String × Value)
  | [] => []
  | (k, j) :: js => (k, ofJson j) :: ofMembers js

end

theorem ofItems_eq_map (js : List Json) : ofItems js = js.map ofJson := by
  induction js with
  | nil => rfl
  | cons j js ih => rw [ofItems, ih, List.map_cons]

def numberToJson (x : Float) : Json :=
  match Number.toSafeInt? x with
  | some n => .number (.int n)
  | none => if x.isFinite then .number (.float x) else .null

mutual

def toJson : Value → Json
  | missing => .null
  | null => .null
  | bool b => .bool b
  | number x => numberToJson x
  | string s => .string s
  | timestamp t => .string (String.ofList t.chars)
  | array items => .array (toItems items)
  | document fields => .object (toMembers fields)

def toItems : List Value → List Json
  | [] => []
  | v :: vs => toJson v :: toItems vs

/-- The JSON members of fields that are there. -/
def toMembers : List (String × Value) → List (String × Json)
  | [] => []
  | (_, missing) :: fs => toMembers fs
  | (k, v) :: fs => (k, toJson v) :: toMembers fs

end

/-- The text of a value in a message. -/
def display : Value → String
  | missing => "<missing>"
  | v => v.toJson.text

mutual

/-- The characters of a value, written as JSON in one pass. -/
def serializeChars : Value → List Char
  | missing => "null".toList
  | null => "null".toList
  | bool b => (if b then "true" else "false").toList
  | number x => (numberToJson x).chars
  | string s => Text.quoted s
  | timestamp t => Text.quoted (String.ofList t.chars)
  | array items => '[' :: commaSeparated (serializeItems items) ++ [']']
  | document fields => '\x7b' :: commaSeparated (serializeFields fields) ++ ['\x7d']

def serializeItems : List Value → List (List Char)
  | [] => []
  | v :: vs => serializeChars v :: serializeItems vs

/-- The texts of the fields that are there. -/
def serializeFields : List (String × Value) → List (List Char)
  | [] => []
  | (_, missing) :: fs => serializeFields fs
  | (k, v) :: fs => (Text.quoted k ++ ':' :: serializeChars v) :: serializeFields fs

end

def serialize (v : Value) : String := String.ofList v.serializeChars

end DocFlow.Value
