import DocFlow.Document.Basic
import DocFlow.Operator
import DocFlow.Value.Json

/-!
# Operands

The plain operand of an operator: a literal, or the value that a document has at a path.  A text that
starts with a dollar sign is a reference to the path behind it.
-/

namespace DocFlow

/-- A literal, or the value at a path of the document. -/
inductive Operand where
  | literal (v : Value)
  | field (p : Path)

namespace Operand

/-- A field reference or a literal; an object is a literal. -/
def ofJson (j : Json) : Operand :=
  match j.reference? with
  | some path => .field (.ofString path)
  | none => .literal (.ofJson j)

theorem ofJson_of_reference? {j : Json} (h : j.reference? = none) : ofJson j = .literal (.ofJson j) := by
  simp [ofJson, h]

def resolve (d : Document) : Operand → Value
  | literal v => v
  | field p => d.get p

def kinds : Operand → KindSet
  | literal v => .of [v.kind]
  | field _ => .any

end Operand

end DocFlow
