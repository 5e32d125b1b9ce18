import DocFlow.Expr.Eval
import DocFlow.Expr.Parser

/-!
# Keys of groups

What a group is made by: an expression, or an array or object of keys.  Documents are in one group
if their keys have the same canonical text.
-/

namespace DocFlow

/-- What a group is made by. -/
inductive GroupKey where
  | computed (e : Expr)
  | object (parts : List (String × GroupKey))
  | array (parts : List GroupKey)

namespace GroupKey

mutual

def parse (scope : Scope) (ctx : Context) : Json → Except Error GroupKey
  | .object members =>
    if (singleOperator? members).isSome then do
      return .computed (← Expr.parseOperator scope ctx members)
    else
      match (Entries.keys members).find? isDollar with
      | some key => .error (scope.invalid key .severalOperators)
      | none => do return .object (← parseMembers scope ctx members)
  | .array items => do return .array (← parseItems scope ctx items)
  | j => .ok (.computed (.operand (.ofJson j)))

def parseMembers (scope : Scope) (ctx : Context) :
    List (String × Json) → Except Error (List (String × GroupKey))
  | [] => .ok []
  | (name, j) :: rest => do
    let key ← parse scope ctx j
    return (name, key) :: (← parseMembers scope ctx rest)

def parseItems (scope : Scope) (ctx : Context) : List Json → Except Error (List GroupKey)
  | [] => .ok []
  | j :: rest => do
    let key ← parse scope ctx j
    return key :: (← parseItems scope ctx rest)

end

mutual

/-- The value of a key for a document; what is missing counts as null. -/
def eval (d : Document) (scope : Scope) : GroupKey → Except Error Value
  | computed e => do return (← e.eval d scope).orNull
  | object parts => do return .document (← evalMembers d scope [] parts)
  | array parts => do return .array (← evalItems d scope parts)

/-- The fields with the values of named keys added. -/
def evalMembers (d : Document) (scope : Scope) (done : Entries Value) :
    List (String × GroupKey) → Except Error (Entries Value)
  | [] => .ok done
  | (name, key) :: rest => do
    let v ← eval d scope key
    evalMembers d scope (Entries.put name v done) rest

def evalItems (d : Document) (scope : Scope) : List GroupKey → Except Error (List Value)
  | [] => .ok []
  | key :: rest => do
    let v ← eval d scope key
    return v :: (← evalItems d scope rest)

end

end GroupKey

end DocFlow
