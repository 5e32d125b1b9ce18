import DocFlow.Error

/-!
# Documents and JSON

A document is read from a JSON object and written as one.
-/

namespace DocFlow.Document

def ofValue (v : Value) : Except Error Document :=
  match ofValue? v with
  | some d => .ok d
  | none => .error (.invalidPipeline (.documentNotObject v.kind))

def ofJson (j : Json) : Except Error Document := ofValue (.ofJson j)

def toJson (d : Document) : Json := d.toValue.toJson

end DocFlow.Document
