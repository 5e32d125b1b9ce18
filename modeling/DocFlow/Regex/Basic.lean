import DocFlow.Regex.Parser
import DocFlow.Regex.Search

/-!
# Regular expressions

A pattern read and compiled.  Of all matches in a text the leftmost is taken, and of those the one
that the pattern prefers.
-/

namespace DocFlow

/-- A compiled pattern with its captured groups. -/
structure Regex where
  program : Regex.Program
  groups : List (Nat × Option String)

namespace Regex

/-- A match in a text: the text, and where groups start and end. -/
structure Match where
  text : List Char
  slots : List (Nat × Nat)

def ofString (flags : Flags) (pattern : String) : Except Fault Regex := do
  let node ← Node.parse flags pattern
  return ⟨node.compile, node.groups⟩

/-- The pattern has a group of its own. -/
def hasGroups (r : Regex) : Bool := !r.groups.isEmpty

def groupNamed? (r : Regex) (name : String) : Option Nat :=
  (r.groups.find? fun g => g.2 = some name).map Prod.fst

def find? (r : Regex) (text : String) : Option Match :=
  (r.program.search? text.toList).map fun t => ⟨text.toList, t.slots⟩

/-- The pattern matches somewhere in the text. -/
def isMatch (r : Regex) (text : String) : Bool := (r.find? text).isSome

/-- The text of a group, zero for the whole match, if it took part. -/
def Match.group? (m : Match) (index : Nat) : Option String := do
  let first ← m.slots.lookup (2 * index)
  let last ← m.slots.lookup (2 * index + 1)
  return String.ofList ((m.text.drop first).take (last - first))

end Regex

end DocFlow
