import DocFlow.Expr.Eval
import DocFlow.Expr.Parser
import DocFlow.Outcome
import DocFlow.Value.Key
import DocFlow.Value.Order

/-!
# Accumulators

An accumulator takes in the documents of a group one by one and gives a value at the end.  A
reduction absorbs the values of one expression; a reducer of the host program makes the next value
itself; an object holds an accumulator for each of its fields.  What is gathered so far is an
`Accumulation`, whose shape has to fit the accumulator.
-/

namespace DocFlow

/-- The ways to gather the values of an expression. -/
inductive Reduction where
  | sum | avg | min | max | first | last | addToSet | push | concatToSet | concatToList
  deriving DecidableEq, Repr

/-- What an accumulator has gathered. -/
inductive Accumulation where
  | sum (total : Float)
  | average (total : Float) (count : Nat)
  /-- The least or greatest value, missing if there is none. -/
  | extremum (best : Value)
  | first (v : Value)
  | last (v : Value)
  /-- Values by their canonical keys. -/
  | set (items : Entries Value)
  | list (items : List Value)
  | call (v : Value)
  | object (parts : List Accumulation)
  deriving Inhabited

namespace Reduction

def operator : Reduction → String
  | sum => "$sum"
  | avg => "$avg"
  | min => "$min"
  | max => "$max"
  | first => "$first"
  | last => "$last"
  | addToSet => "$addToSet"
  | push => "$push"
  | concatToSet => "$concatToSet"
  | concatToList => "$concatToList"

def named? (name : String) : Option Reduction :=
  [sum, avg, min, max, first, last, addToSet, push, concatToSet, concatToList].find? fun r =>
    r.operator = name

def initial : Reduction → Accumulation
  | sum => .sum 0.0
  | avg => .average 0.0 0
  | min => .extremum .missing
  | max => .extremum .missing
  | first => .first .missing
  | last => .last .missing
  | addToSet => .set []
  | push => .list []
  | concatToSet => .set []
  | concatToList => .list []

/-- The accumulation has the shape that the reduction works on. -/
def fits : Reduction → Accumulation → Bool
  | sum, .sum _ => true
  | avg, .average _ _ => true
  | min, .extremum _ => true
  | max, .extremum _ => true
  | first, .first _ => true
  | last, .last _ => true
  | addToSet, .set _ => true
  | push, .list _ => true
  | concatToSet, .set _ => true
  | concatToList, .list _ => true
  | _, _ => false

/-- No further value is looked at: the first value is there. -/
def isSettled : Reduction → Accumulation → Bool
  | first, .first v => !v.isMissing
  | _, _ => false

/-- The better of two values, where what stands for no value is passed over. -/
def keepBest (keep : Ordering) (best candidate : Value) : Value :=
  if candidate.isNullish then best
  else if best.isMissing || candidate.compare best == keep then candidate
  else best

/-- The items of an array; there are none in what stands for no value. -/
def itemsOf : Value → Except EvaluationFault (List Value)
  | .array items => .ok items
  | .missing => .ok []
  | .null => .ok []
  | v => .error (.sourceNotArray v.kind)

def addToItems (items : Entries Value) (v : Value) : Entries Value := Entries.addNew v.key v items

/-- What has been gathered with one more value. -/
def absorb (v : Value) : Reduction → Accumulation → Except EvaluationFault Accumulation
  | sum, .sum total => .ok (match v with | .number x => .sum (total + x) | _ => .sum total)
  | avg, .average total count =>
    .ok (match v with | .number x => .average (total + x) (count + 1) | _ => .average total count)
  | min, .extremum best => .ok (.extremum (keepBest .lt best v))
  | max, .extremum best => .ok (.extremum (keepBest .gt best v))
  | first, .first old => .ok (.first (if old.isMissing then v else old))
  | last, .last old => .ok (.last (if v.isMissing then old else v))
  | addToSet, .set items => .ok (.set (if v.isNullish then items else addToItems items v))
  | push, .list items => .ok (.list (if v.isNullish then items else items ++ [v]))
  | concatToSet, .set items => do return .set ((← itemsOf v).foldl addToItems items)
  | concatToList, .list items => do return .list (items ++ (← itemsOf v))
  | _, _ => .error .stateMismatch

/-- A literal that the reduction cannot use, as a fault. -/
def literalFault? (v : Value) : Reduction → Option OperatorFault
  | sum | avg => if v.kind = .number then none else some (.literalNotNumber v)
  | concatToSet | concatToList => if v.kind = .array then none else some (.literalNotArray v)
  | _ => none

end Reduction

inductive Accumulator where
  | reduce (r : Reduction) (source : Expr)
  | call (reducer : Named Reducer)
  /-- A document of named accumulators. -/
  | object (fields : List (String × Accumulator))

namespace Accumulator

def name : Accumulator → String
  | reduce r _ => r.operator
  | call _ => "$call"
  | object _ => "$group"

/-! ## Reading -/

def parseOperator (scope : Scope) (ctx : Context) (name : String) (arg : Json) :
    Except Error Accumulator :=
  if name = "$call" then do
    let registered := ctx.registry.reducers
    return .call (← Argument.function scope .notReducerName .unknownReducer registered arg)
  else do
    let source ← Expr.parse scope ctx arg
    match Reduction.named? name with
    | none => throw (scope.invalid name .unknownAccumulator)
    | some r =>
      match source with
      | .operand (.literal v) =>
        match r.literalFault? v with
        | some fault => throw (scope.invalid name fault)
        | none => return .reduce r source
      | _ => return .reduce r source

mutual

/-- An accumulator from its specification: an operator object, or an object of accumulators. -/
def parse (scope : Scope) (ctx : Context) : Json → Except Error Accumulator
  | .object members =>
    match singleOperator? members with
    | some (name, arg) => parseOperator scope ctx name arg
    | none =>
      if !members.isEmpty && members.all fun member => !isDollar member.1 then do
        return .object (← parseMembers (fun _ => scope) ctx members)
      else .error (scope.invalid "$group" (.notAccumulator (.object members)))
  | j => .error (scope.invalid "$group" (.notAccumulator j))

/-- The accumulators of the members of an object, each read in the scope that belongs to its key. -/
def parseMembers (scopeOf : String → Scope) (ctx : Context) :
    List (String × Json) → Except Error (List (String × Accumulator))
  | [] => .ok []
  | (key, j) :: rest => do
    let a ← parse (scopeOf key) ctx j
    return (key, a) :: (← parseMembers scopeOf ctx rest)

end

/-! ## Gathering -/

mutual

def initial : Accumulator → Accumulation
  | reduce r _ => r.initial
  | call _ => .call .missing
  | object fields => .object (initialParts fields)

def initialParts : List (String × Accumulator) → List Accumulation
  | [] => []
  | (_, a) :: rest => initial a :: initialParts rest

end

def reduceStep (d : Document) (scope : Scope) (r : Reduction) (source : Expr) (s : Accumulation) :
    Outcome Accumulation Unit :=
  if !r.fits s then .failure s (scope.evaluation r.operator .stateMismatch)
  else if r.isSettled s then .success s ()
  else
    match source.eval d scope with
    | .error e => .failure s e
    | .ok v =>
      match r.absorb v s with
      | .error fault => .failure s (scope.evaluation r.operator fault)
      | .ok s => .success s ()

mutual

/-- The accumulator takes in a document.  In an object the fields before the one that fails have
taken it in. -/
def step (d : Document) (scope : Scope) : Accumulator → Accumulation → Outcome Accumulation Unit
  | reduce r source, s => reduceStep d scope r source s
  | call f, .call v =>
    match scope.call "$call" (f.run v d) with
    | .error e => .failure (.call v) e
    | .ok v => .success (.call v) ()
  | object fields, .object parts => (stepAll d (fun _ => scope) fields parts).within .object
  | a, s => .failure s (scope.evaluation a.name .stateMismatch)

/-- The accumulators of fields take in a document, each in the scope that belongs to its key, up to
one that fails. -/
def stepAll (d : Document) (scopeOf : String → Scope) :
    List (String × Accumulator) → List Accumulation → Outcome (List Accumulation) Unit
  | (key, a) :: fields, s :: parts =>
    let o := step d (scopeOf key) a s
    match o.answer with
    | .error e => .failure (o.state :: parts) e
    | .ok _ => (stepAll d scopeOf fields parts).within (o.state :: ·)
  | _, parts => .success parts ()

end

variable {d : Document} {scopeOf : String → Scope} {key : String} {a : Accumulator} {s : Accumulation}
  {fields : List (String × Accumulator)} {parts : List Accumulation}

theorem step_object (d : Document) (scope : Scope) (fields : List (String × Accumulator)) (parts : List Accumulation) :
    (object fields).step d scope (.object parts) = (stepAll d (fun _ => scope) fields parts).within .object := rfl

theorem stepAll_cons_of_error {e : Error} (h : (a.step d (scopeOf key) s).answer = .error e) :
    stepAll d scopeOf ((key, a) :: fields) (s :: parts) = .failure ((a.step d (scopeOf key) s).state :: parts) e := by
  simp only [stepAll, h]

theorem stepAll_cons_of_ok (h : (a.step d (scopeOf key) s).answer = .ok ()) :
    stepAll d scopeOf ((key, a) :: fields) (s :: parts) =
      (stepAll d scopeOf fields parts).within ((a.step d (scopeOf key) s).state :: ·) := by
  simp only [stepAll, h]

/-! ## The value at the end -/

mutual

/-- The value of what an accumulator has gathered; what is missing becomes null. -/
def finish : Accumulator → Accumulation → Value
  | _, .sum total => .number total
  | _, .average total count => if count = 0 then .null else .number (total / Float.ofNat count)
  | _, .extremum v => v.orNull
  | _, .first v => v.orNull
  | _, .last v => v.orNull
  | _, .call v => v.orNull
  | _, .set items => .array items.values
  | _, .list items => .array items
  | object fields, .object parts => .document (finishParts [] fields parts)
  | _, .object _ => .null

/-- The fields with the values of accumulators added. -/
def finishParts (done : Entries Value) :
    List (String × Accumulator) → List Accumulation → Entries Value
  | (key, a) :: fields, s :: parts => finishParts (Entries.put key (finish a s) done) fields parts
  | _, _ => done

end

end Accumulator

end DocFlow
