import DocFlow.Value.Json

/-!
# Canonical keys

The text by which values are put into groups and told apart in sets.  It does not depend on the
order of fields: they are written sorted by key, and a missing field is left out.  A prefix keeps a
timestamp apart from its text, and a number that is not finite apart from `null`.
-/

namespace DocFlow.Value

/-- The order of texts by their characters, as a test. -/
def keyLe (a b : String × List Char) : Bool := !(b.1 < a.1)

def sortedFieldTexts (fields : List (String × List Char)) : List (List Char) :=
  (fields.mergeSort keyLe).map fun (k, text) => Text.quoted k ++ ':' :: text

def numberKey (x : Float) : List Char :=
  if x.isFinite then (numberToJson x).chars else "num:".toList ++ (Number.text x).toList

mutual

/-- The characters of the canonical key. -/
def keyChars : Value → List Char
  | missing => "undefined".toList
  | null => "null".toList
  | bool b => (if b then "true" else "false").toList
  | number x => numberKey x
  | string s => Text.quoted s
  | timestamp t => "ts:".toList ++ t.chars
  | array items => '[' :: commaSeparated (itemKeys items) ++ [']']
  | document fields =>
    '\x7b' :: commaSeparated (sortedFieldTexts (fieldKeys fields)) ++ ['\x7d']

def itemKeys : List Value → List (List Char)
  | [] => []
  | v :: vs => keyChars v :: itemKeys vs

/-- The fields that are there, each with the key of its value. -/
def fieldKeys : List (String × Value) → List (String × List Char)
  | [] => []
  | (_, missing) :: fs => fieldKeys fs
  | (k, v) :: fs => (k, keyChars v) :: fieldKeys fs

end

def key (v : Value) : String := String.ofList v.keyChars

end DocFlow.Value
