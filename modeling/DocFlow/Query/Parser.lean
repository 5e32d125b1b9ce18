import DocFlow.Argument
import DocFlow.Context
import DocFlow.Query.Basic

/-!
# Reading queries

A query from its specification: an object of which each member is a combination of queries, a
predicate of the host program, or a path with its condition.  A condition is an object of operators,
or a value to be equal to.
-/

namespace DocFlow

def queryScope (key : String) : Scope := ⟨.filter, key⟩

namespace Test

/-! ## Arguments of tests -/

def parseCall (scope : Scope) (ctx : Context) (arg : Json) : Except Error (Named Matcher) :=
  Argument.function scope .notPredicateName .unknownPredicate ctx.registry.matchers arg

/-- A literal that can be compared: a number, a text, a truth value or a timestamp. -/
def isComparable : Kind → Bool
  | .number | .string | .bool | .timestamp => true
  | _ => false

def parseComparison (scope : Scope) (c : Comparison) (arg : Json) : Except Error Test :=
  match Operand.ofJson arg with
  | .literal v =>
    if isComparable v.kind then .ok (.compare c (.literal v))
    else .error (scope.invalid c.operator (.incomparable v.kind))
  | o => .ok (.compare c o)

/-- The candidates of a test, in an array or a field. -/
def parseCandidates (scope : Scope) (operator : String) (arg : Json) : Except Error Operand :=
  match Operand.ofJson arg with
  | .literal (.array items) => .ok (.literal (.array items))
  | .literal _ => .error (scope.invalid operator .notArrayOrReference)
  | o => .ok o

def parseFlags (scope : Scope) (flags : Regex.Flags) : List Char → Except Error Regex.Flags
  | [] => .ok flags
  | 'i' :: cs => parseFlags scope { flags with caseless := true } cs
  | 'm' :: cs => parseFlags scope { flags with lines := true } cs
  | 's' :: cs => parseFlags scope { flags with dotAll := true } cs
  | 'x' :: cs => parseFlags scope { flags with verbose := true } cs
  | c :: _ => .error (scope.invalid "$options" (.badOption c))

/-- A pattern, with the flags that stand beside it in the condition. -/
def parsePattern (scope : Scope) (operator : String) (condition : Entries Json) (arg : Json) :
    Except Error Regex := do
  let pattern ← Argument.text scope operator .patternNotString arg
  let options ←
    match Entries.get? "$options" condition with
    | some options => Argument.text scope "$options" .optionsNotString options
    | none => pure ""
  let flags ← parseFlags scope .default options.toList
  Argument.pattern scope operator flags pattern

def parsePresence (scope : Scope) : Json → Except Error Bool
  | .bool b => .ok b
  | .number n => .ok (!(n.toFloat == 0.0))
  | _ => .error (scope.invalid "$exists" .notBoolean)

/-- A divisor with a remainder. -/
def parseModulo (scope : Scope) : Json → Except Error Test
  | .array [.number divisor, .number remainder] =>
    if divisor.toFloat == 0.0 then .error (scope.invalid "$mod" .zeroDivisor)
    else .ok (.modulo divisor.toFloat remainder.toFloat)
  | _ => .error (scope.invalid "$mod" .notDivisorPair)

/-- The values that an array is to contain. -/
def parseContents (scope : Scope) : Json → Except Error (List Value)
  | .array items => .ok (Value.ofItems items)
  | _ => .error (scope.invalid "$all" .notArray)

def parseSize (scope : Scope) (arg : Json) : Except Error Nat :=
  match arg.toNat? with
  | some n => .ok n
  | none => .error (scope.invalid "$size" .notNaturalNumber)

/-- A test whose argument holds no tests. -/
def parseSimple (scope : Scope) (ctx : Context) (condition : Entries Json) (name : String)
    (arg : Json) : Except Error Test :=
  match Comparison.named? name with
  | some c => parseComparison scope c arg
  | none =>
    match name with
    | "$eq" => .ok (.eq (.ofJson arg))
    | "$ne" => .ok (.ne (.ofJson arg))
    | "$in" => do return .among (← parseCandidates scope name arg)
    | "$nin" => do return .notAmong (← parseCandidates scope name arg)
    | "$regexp" => do return .matching (← parsePattern scope name condition arg)
    | "$regex" => do return .matching (← parsePattern scope name condition arg)
    | "$exists" => do return .present (← parsePresence scope arg)
    | "$mod" => parseModulo scope arg
    | "$all" => do return .containsAll (← parseContents scope arg)
    | "$size" => do return .size (← parseSize scope arg)
    | "$call" => do return .call (← parseCall scope ctx arg)
    | name =>
      .error (scope.invalid name (if Family.query.has name then .notForField else .unknownMatch))

/-- The object is one of tests for an item, not a query of an item. -/
def isItemCondition (members : Entries Json) : Bool :=
  members.all fun member =>
    Family.query.has member.1 && member.1 ≠ "$and" && member.1 ≠ "$or" && member.1 ≠ "$nor"

/-- There are members, and each key is that of an operator. -/
def isCondition (members : Entries Json) : Bool :=
  !members.isEmpty && members.all fun member => isDollar member.1

def hasPattern (condition : Entries Json) : Bool :=
  Entries.hasKey "$regexp" condition || Entries.hasKey "$regex" condition

end Test

/-! ## Queries and conditions -/

mutual

def Query.parseMembers (ctx : Context) : List (String × Json) → Except Error (List Query)
  | [] => .ok []
  | (key, arg) :: rest => do
    let scope := queryScope key
    let q ← (
      match key with
      | "$and" => do return .all (← Query.parseItems ctx key arg)
      | "$or" => do return .any (← Query.parseItems ctx key arg)
      | "$nor" => do return .neither (← Query.parseItems ctx key arg)
      | "$call" => do return .call (← Test.parseCall scope ctx arg)
      | key =>
        if isDollar key then .error (scope.invalid key .unknownTopLevel)
        else do return .field (.ofString key) (← Test.parseCondition ctx scope arg) :
        Except Error Query)
    return q :: (← Query.parseMembers ctx rest)

/-- The queries of the array that a combination is over. -/
def Query.parseItems (ctx : Context) (key : String) : Json → Except Error (List Query)
  | .array (item :: items) => Query.parseList ctx key (item :: items)
  | _ => .error ((queryScope key).invalid key .notSpecList)

/-- The queries of a list, each of which has to be an object. -/
def Query.parseList (ctx : Context) (key : String) : List Json → Except Error (List Query)
  | [] => .ok []
  | .object members :: rest => do
    let qs ← Query.parseMembers ctx members
    return .together qs :: (← Query.parseList ctx key rest)
  | item :: _ => .error ((queryScope key).invalid key (.notSubSpec item))

/-- The tests of the condition of a field: its operators, or an equality. -/
def Test.parseCondition (ctx : Context) (scope : Scope) : Json → Except Error (List Test)
  | .object members =>
    if Test.isCondition members then Test.parseMembers ctx scope members members
    else if members.any fun member => isDollar member.1 then
      .error (scope.invalid "$match" .mixedKeys)
    else .ok [.eq (.ofJson (.object members))]
  | j => .ok [.eq (.ofJson j)]

def Test.parseMembers (ctx : Context) (scope : Scope) (condition : Entries Json) :
    List (String × Json) → Except Error (List Test)
  | [] => .ok []
  | (name, arg) :: rest => do
    match name with
    | "$options" =>
      -- the flags are read with the pattern beside them
      if !Test.hasPattern condition then throw (scope.invalid name .optionsAlone)
      Test.parseMembers ctx scope condition rest
    | "$elemMatch" =>
      match arg with
      | .object (member :: members) =>
        let t ← (
          if Test.isItemCondition (member :: members) then do
            return .item (← Test.parseMembers ctx scope (member :: members) (member :: members))
          else do
            return .itemQuery (.together (← Query.parseMembers ctx (member :: members))) :
          Except Error Test)
        return t :: (← Test.parseMembers ctx scope condition rest)
      | _ => throw (scope.invalid name .notNonEmptyObject)
    | "$not" =>
      match arg with
      | .object members =>
        if !Test.isCondition members then throw (scope.invalid name .notOperatorObject)
        let ts ← Test.parseMembers ctx scope members members
        return .negation ts :: (← Test.parseMembers ctx scope condition rest)
      | _ => throw (scope.invalid name .notOperatorObject)
    | name =>
      let t ← Test.parseSimple scope ctx condition name arg
      return t :: (← Test.parseMembers ctx scope condition rest)

end

def Query.parse (ctx : Context) : Json → Except Error Query
  | .object members => do return .together (← Query.parseMembers ctx members)
  | _ => .error ((queryScope "").invalid "$match" .specNotObject)

end DocFlow
