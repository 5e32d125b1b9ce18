import DocFlow.Regex.Property

/-!
# Named classes of a pattern

Digits, blanks and word characters, over all of Unicode or over ASCII alone, and the classes that
are written `[:alpha:]` inside brackets.
-/

namespace DocFlow.Regex.Class

open DocFlow.Text

def digits : CharSet := Table.nd

def blanks : CharSet := Table.whiteSpace

/-- Word characters: letters, marks, digits, connecting punctuation and joiners. -/
def words : CharSet :=
  .unions [Table.alphabetic, Property.mark, Table.nd, Table.pc, Table.joinControl]

def asciiDigits : CharSet := .ofHex "0030-0039"

def asciiBlanks : CharSet := .ofHex "0009-000D 0020"

def asciiWords : CharSet := .ofHex "0030-0039 0041-005A 005F 0061-007A"

/-- The set of an escape `\d`, `\s` or `\w`. -/
def escape? (unicode : Bool) (c : Char) : Option CharSet :=
  match c with
  | 'd' => some (if unicode then digits else asciiDigits)
  | 's' => some (if unicode then blanks else asciiBlanks)
  | 'w' => some (if unicode then words else asciiWords)
  | _ => none

/-- The set with the name `[:name:]`. -/
def posix? (name : String) : Option CharSet :=
  match name with
  | "alnum" => some (.ofHex "0030-0039 0041-005A 0061-007A")
  | "alpha" => some (.ofHex "0041-005A 0061-007A")
  | "ascii" => some (.ofHex "0000-007F")
  | "blank" => some (.ofHex "0009 0020")
  | "cntrl" => some (.ofHex "0000-001F 007F")
  | "digit" => some asciiDigits
  | "graph" => some (.ofHex "0021-007E")
  | "lower" => some (.ofHex "0061-007A")
  | "print" => some (.ofHex "0020-007E")
  | "punct" => some (.ofHex "0021-002F 003A-0040 005B-0060 007B-007E")
  | "space" => some asciiBlanks
  | "upper" => some (.ofHex "0041-005A")
  | "word" => some asciiWords
  | "xdigit" => some (.ofHex "0030-0039 0041-0046 0061-0066")
  | _ => none

end DocFlow.Regex.Class
