import DocFlow.Json.Basic
import DocFlow.Number.Text
import DocFlow.Text.Quoted

/-!
# Writing JSON

The compact text of a JSON value: no blanks, members in order, integers as digits and other numbers
as `Number.text` writes them.
-/

namespace DocFlow

/-- The digits of an integer, with a minus if it is negative. -/
def intText (n : Int) : List Char :=
  if n < 0 then '-' :: Number.digits n.natAbs else Number.digits n.natAbs

def JsonNumber.chars : JsonNumber → List Char
  | .int n => intText n
  | .float x => (Number.text x).toList

def commaSeparated : List (List Char) → List Char
  | [] => []
  | [piece] => piece
  | piece :: pieces => piece ++ ',' :: commaSeparated pieces

namespace Json

mutual

/-- The characters of the compact text. -/
def chars : Json → List Char
  | null => "null".toList
  | bool b => (if b then "true" else "false").toList
  | number n => n.chars
  | string s => Text.quoted s
  | array items => '[' :: commaSeparated (itemChars items) ++ [']']
  | object members => '\x7b' :: commaSeparated (memberChars members) ++ ['\x7d']

def itemChars : List Json → List (List Char)
  | [] => []
  | item :: items => chars item :: itemChars items

def memberChars : List (String × Json) → List (List Char)
  | [] => []
  | (key, value) :: members => (Text.quoted key ++ ':' :: chars value) :: memberChars members

end

def text (j : Json) : String := String.ofList j.chars

end Json

end DocFlow
