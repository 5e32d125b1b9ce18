/-!
# Quoted strings

The text of a string in JSON: between quotation marks, with `"` and `\` escaped by a backslash, the
control characters below a blank as `\b \f \n \r \t` or `\u00xx`, and all else as it is.
-/

namespace DocFlow.Text

/-- A hexadecimal digit in small letters. -/
def hexDigit (n : Nat) : Char := Nat.digitChar n

/-- The characters that stand for `c` inside quotation marks. -/
def escape (c : Char) : List Char :=
  if c = '"' then ['\\', '"']
  else if c = '\\' then ['\\', '\\']
  else if c = '\x08' then ['\\', 'b']
  else if c = '\x0c' then ['\\', 'f']
  else if c = '\n' then ['\\', 'n']
  else if c = '\r' then ['\\', 'r']
  else if c = '\t' then ['\\', 't']
  else if c.toNat < 0x20 then ['\\', 'u', '0', '0', hexDigit (c.toNat / 16), hexDigit (c.toNat % 16)]
  else [c]

def quoted (s : String) : List Char := '"' :: s.toList.flatMap escape ++ ['"']

end DocFlow.Text
