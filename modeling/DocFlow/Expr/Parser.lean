import DocFlow.Argument
import DocFlow.Context
import DocFlow.Expr.Basic

/-!
# Reading expressions

An expression from its specification.  An operator object has one key, the name of the operator, and
its argument; any other specification is a literal or a field reference.  The field of a projection
may also be a flag that includes it, or an object of nested fields.
-/

namespace DocFlow.Expr

/-! ## Flags -/

/-- The flag that includes a field: true or one. -/
def isIncludeFlag : Json → Bool
  | .bool b => b
  | .number n => n.toFloat == 1.0
  | _ => false

/-- The flag that excludes a field: false or zero. -/
def isExcludeFlag : Json → Bool
  | .bool b => !b
  | .number n => n.toFloat == 0.0
  | _ => false

/-- The field that has the key of the scope. -/
def included (scope : Scope) : Expr := .operand (.field (.ofString scope.key))

/-! ## Arguments -/

/-- The group that an extraction takes: the one named by the last key of the scope, else the first,
else the whole match. -/
def chosenGroup (r : Regex) (scope : Scope) : Nat :=
  match r.groupNamed? (Path.ofString scope.key).last with
  | some index => index
  | none => if r.hasGroups then 1 else 0

/-- A function registered by the host program, named in an argument. -/
def parseCall (scope : Scope) (ctx : Context) (arg : Json) : Except Error Expr := do
  let f ← Argument.function scope .notFunctionName .unknownFunction ctx.registry.projectors arg
  return .call f

/-! ## Operators -/

mutual

/-- An operand: an operator object, a field reference or a literal. -/
def parse (scope : Scope) (ctx : Context) : Json → Except Error Expr
  | .object members =>
    if (singleOperator? members).isSome then parseOperator scope ctx members
    else .ok (.operand (.ofJson (.object members)))
  | j => .ok (.operand (.ofJson j))

def parseOperator (scope : Scope) (ctx : Context) : Entries Json → Except Error Expr
  | [(name, arg)] =>
    if !isDollar name then .error (scope.invalid "$project" .notSingleOperator)
    else
      match Arithmetic.named? name, Calendar.Part.named? name with
      | some op, _ =>
        match arg with
        | .array [left, right] => do
          let left ← parse scope ctx left
          let right ← parse scope ctx right
          let left ← left.expecting numeric name scope
          let right ← right.expecting numeric name scope
          return .arithmetic op left right
        | _ => .error (scope.invalid name (.argumentCount 2 2))
      | none, some part => do
        let source ← parse scope ctx arg
        let source ← source.expecting temporal name scope
        return .datePart part source ctx.offset
      | none, none =>
        match name with
        | "$value" => if isIncludeFlag arg then .ok (.value (included scope)) else do
          return .value (← parse scope ctx arg)
        | "$extract" =>
          match arg with
          | .array [source, pattern] => do
            let source ← parse scope ctx source
            let source ← source.expecting textual name scope
            let pattern ← Argument.text scope name .patternNotString pattern
            let pattern ← Argument.pattern scope name .default pattern
            return .extract source pattern (chosenGroup pattern scope)
          | _ => .error (scope.invalid name (.argumentCount 2 2))
        | "$timestamp" =>
          match arg with
          | .array [source, format] => do
            let source ← parse scope ctx source
            let source ← source.expecting textual name scope
            let format ← Argument.text scope name .formatNotString format
            match Calendar.Item.ofFormat? format with
            | some items => return .timestamp source format items ctx.offset
            | none => throw (scope.invalid name (.badFormat format))
          | _ => .error (scope.invalid name (.argumentCount 2 2))
        | "$toLower" => do
          let source ← parse scope ctx arg
          return .letterCase false (← source.expecting textual name scope)
        | "$toUpper" => do
          let source ← parse scope ctx arg
          return .letterCase true (← source.expecting textual name scope)
        | "$toNumber" => do
          let source ← parse scope ctx arg
          return .toNumber (← source.expecting ((KindSet.of [.number]).union textual) name scope)
        | "$concat" =>
          match arg with
          | .array (part :: parts) => do
            let part ← parse scope ctx part
            let part ← part.expecting textual name scope
            return .concat (part :: (← parseParts scope ctx parts))
          | _ => .error (scope.invalid name .notNonEmptyArray)
        | "$substr" =>
          match arg with
          | .array [source, start, length] => do
            let source ← parse scope ctx source
            let source ← source.expecting textual name scope
            let start ← Argument.integer scope name "start" start
            let length ← Argument.integer scope name "length" length
            return .substr source start length
          | _ => .error (scope.invalid name (.argumentCount 3 3))
        | "$substring" =>
          match arg with
          | .array [source, start] => do
            let source ← parse scope ctx source
            let source ← source.expecting textual name scope
            let start ← Argument.integer scope name "start" start
            return .substring source start none
          | .array [source, start, stop] => do
            let source ← parse scope ctx source
            let source ← source.expecting textual name scope
            let stop ← Argument.integer scope name "end" stop
            let start ← Argument.integer scope name "start" start
            return .substring source start (some stop)
          | _ => .error (scope.invalid name (.argumentCount 2 3))
        | "$call" => parseCall scope ctx arg
        | name => .error (scope.invalid name .unknownExpression)
  | _ => .error (scope.invalid "$project" .notSingleOperator)

def parseParts (scope : Scope) (ctx : Context) : List Json → Except Error (List Expr)
  | [] => .ok []
  | j :: js => do
    let part ← parse scope ctx j
    let part ← part.expecting textual "$concat" scope
    return part :: (← parseParts scope ctx js)

end

def parseOperatorObject (scope : Scope) (ctx : Context) : Json → Except Error Expr
  | .object members => parseOperator scope ctx members
  | _ => .error (scope.invalid "$project" .notSingleOperator)

/-! ## Fields of a projection -/

def nested (scope : Scope) (key : String) : Scope := { scope with key := scope.key ++ "." ++ key }

mutual

/-- The field of a projection whose path is the key of the scope. -/
def parseField (scope : Scope) (ctx : Context) : Json → Except Error Expr
  | .object members =>
    if (singleOperator? members).isSome then parseOperator scope ctx members
    else
      match (Entries.keys members).find? isDollar with
      | some key => .error (scope.invalid key .severalOperators)
      | none =>
        if members.isEmpty then .error (scope.invalid "$project" .emptyNested)
        else do return .object (← parseFields scope ctx members)
  | j => .ok (if isIncludeFlag j then included scope else .operand (.ofJson j))

def parseFields (scope : Scope) (ctx : Context) :
    List (String × Json) → Except Error (List (String × Expr))
  | [] => .ok []
  | (key, j) :: js => do
    let inner := nested scope key
    if isExcludeFlag j then throw (inner.invalid "$project" .nestedExclusion)
    let e ← parseField inner ctx j
    return (key, e) :: (← parseFields scope ctx js)

end

end DocFlow.Expr
