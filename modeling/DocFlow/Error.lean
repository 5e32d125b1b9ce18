import DocFlow.Host
import DocFlow.Value.Json

/-!
# Errors

What can go wrong, as causes.  A specification that cannot be read is a construction error, a
document that cannot be worked on is a runtime error; each names the stage, the operator and the
key it stands for.  The wording of every cause is in its function `message`.
-/

namespace DocFlow

inductive StageName where
  | filter | project | group | sort | skip | limit | unwind
  deriving DecidableEq, Repr

def StageName.text : StageName → String
  | filter => "$match"
  | project => "$project"
  | group => "$group"
  | sort => "$sort"
  | skip => "$skip"
  | limit => "$limit"
  | unwind => "$unwind"

/-- The stage and the output key that an operator works for. -/
structure Scope where
  stage : StageName
  key : String
  deriving DecidableEq, Repr

/-! ## Faults of specifications -/

/-- A fault of a whole pipeline, its options or the form of a stage or document. -/
inductive PipelineFault where
  | emptyPipeline
  | pipelineNotArray
  | stageNotObject
  | stageNotSingle
  | documentNotObject (found : Kind)
  | offsetOutOfRange (seconds : Int)
  | bucketCapZero

def PipelineFault.message : PipelineFault → String
  | emptyPipeline => "Pipeline cannot be empty"
  | pipelineNotArray => "Pipeline must be an array"
  | stageNotObject => "Stage must be an object"
  | stageNotSingle => "Each stage must have exactly one operator"
  | documentNotObject found => "document must be an object, got " ++ found.name
  | offsetOutOfRange seconds =>
    "utc offset out of range: " ++ String.ofList (intText seconds) ++ " seconds"
  | bucketCapZero => "max_group_buckets must be positive"

inductive StageFault where
  | unknownStage
  | projectNotObject
  | mixedProjection
  | dollarKey (key : String)
  | badDirection (found : Json)
  | badSortKey (found : Json)
  | sortForm
  | noSortKey
  | notCount (stage : StageName)
  | notFieldReference
  | groupNotObject
  | groupWithoutId

def StageFault.message : StageFault → String
  | unknownStage => "Unknown pipeline stage"
  | projectNotObject => "$project must be a non-empty object"
  | mixedProjection => "cannot mix inclusion and exclusion in one projection"
  | dollarKey key => "output key '" ++ key ++ "' must not start with '$'"
  | badDirection found => "Sort direction must be 1 or -1, got " ++ found.text
  | badSortKey found => "invalid sort key " ++ found.text ++ ", expected [path, direction]"
  | sortForm => "$sort must be an array of [path, direction] pairs or an object"
  | noSortKey => "$sort requires at least one key"
  | notCount stage => stage.text ++ " must be a non-negative integer"
  | notFieldReference => "path must be a field reference starting with '$'"
  | groupNotObject => "specification must be an object"
  | groupWithoutId => "specification must have an \"_id\" field"

inductive OperatorFault where
  | specNotObject
  | notSpecList
  | notSubSpec (found : Json)
  | unknownTopLevel
  | mixedKeys
  | unknownMatch
  | optionsAlone
  | incomparable (found : Kind)
  | notArrayOrReference
  | patternNotString
  | optionsNotString
  | badOption (flag : Char)
  | badRegex (reason : String)
  | notBoolean
  | notDivisorPair
  | zeroDivisor
  | notArray
  | notNaturalNumber
  | notNonEmptyObject
  | notOperatorObject
  | notForField
  | notPredicateName
  | unknownPredicate (name : String)
  | notFunctionName
  | unknownFunction (name : String)
  | notReducerName
  | unknownReducer (name : String)
  | argumentCount (least most : Nat)
  | notInteger (what : String)
  | formatNotString
  | badFormat (format : String)
  | severalOperators
  | emptyNested
  | nestedExclusion
  | notSingleOperator
  | notNonEmptyArray
  | unknownExpression
  | kindMismatch (operator : Option String) (produced accepted : KindSet)
  | notAccumulator (found : Json)
  | literalNotNumber (found : Value)
  | literalNotArray (found : Value)
  | unknownAccumulator

def OperatorFault.message : OperatorFault → String
  | specNotObject => "specification must be an object"
  | notSpecList => "expects a non-empty array of match specifications"
  | notSubSpec found => "sub-specification " ++ found.text ++ " is not an object"
  | unknownTopLevel => "unknown top-level match operator"
  | mixedKeys => "cannot mix operators and plain keys in one condition"
  | unknownMatch => "unknown match operator"
  | optionsAlone => "$options requires $regexp"
  | incomparable found => "cannot compare against " ++ found.name
  | notArrayOrReference => "expects an array or a field reference"
  | patternNotString => "pattern must be a string"
  | optionsNotString => "options must be a string"
  | badOption flag => "unsupported regex option '" ++ flag.toString ++ "'"
  | badRegex reason => "invalid regex: " ++ reason
  | notBoolean => "expects a boolean"
  | notDivisorPair => "expects [divisor, remainder]"
  | zeroDivisor => "divisor must not be zero"
  | notArray => "expects an array"
  | notNaturalNumber => "expects a non-negative integer"
  | notNonEmptyObject => "expects a non-empty object"
  | notOperatorObject => "expects an object of operators"
  | notForField => "operator is not valid on a field"
  | notPredicateName => "expects the name of a registered predicate"
  | unknownPredicate name => "no match predicate registered as '" ++ name ++ "'"
  | notFunctionName => "expects the name of a registered function"
  | unknownFunction name => "no project function registered as '" ++ name ++ "'"
  | notReducerName => "expects the name of a registered reducer"
  | unknownReducer name => "no group reducer registered as '" ++ name ++ "'"
  | argumentCount least most =>
    let count :=
      if least = most then least.repr else least.repr ++ " to " ++ most.repr
    "expects an array of " ++ count ++ " arguments"
  | notInteger what => what ++ " must be an integer"
  | formatNotString => "format must be a string"
  | badFormat format => "invalid format string '" ++ format ++ "'"
  | severalOperators => "an operator object must have exactly one key"
  | emptyNested => "nested projection must not be empty"
  | nestedExclusion => "exclusion is not allowed in a nested projection"
  | notSingleOperator => "expected a single operator object"
  | notNonEmptyArray => "expects a non-empty array"
  | unknownExpression => "unknown expression operator"
  | kindMismatch operator produced accepted =>
    let what :=
      match operator with
      | some name => "operator " ++ name ++ " returns"
      | none => "operand is"
    what ++ " " ++ produced.text ++ ", expected " ++ accepted.text
  | notAccumulator found =>
    "expected an accumulator object such as \x7b\"$sum\": 1\x7d, got " ++ found.text
  | literalNotNumber found => "literal must be a number, got " ++ found.display
  | literalNotArray found => "literal must be an array, got " ++ found.display
  | unknownAccumulator => "unknown accumulator"

/-! ## Faults of documents -/

/-- Why an operator cannot work on a document. -/
inductive EvaluationFault where
  | operandNotArray (found : Kind)
  | sourceNotString (found : Kind)
  | formatMismatch (text format : String)
  | notLocalTime (text : String)
  | notNumeric (left right : Kind)
  | divisionByZero
  | notNumeral (text : String)
  | noNumber (found : Kind)
  | operandNotString (found : Kind)
  | timestampOutOfRange
  | notDate (found : Kind)
  | tooManyBuckets (cap : Nat)
  | notUnwindable (found : Kind)
  | sourceNotArray (found : Kind)
  | stateMismatch

def EvaluationFault.message : EvaluationFault → String
  | operandNotArray found => "operand must be an array, got " ++ found.name
  | sourceNotString found => "source must be a string, got " ++ found.name
  | formatMismatch text format => "'" ++ text ++ "' does not match format '" ++ format ++ "'"
  | notLocalTime text => "'" ++ text ++ "' is not a valid local time"
  | notNumeric left right => "operands must be numeric, got " ++ left.name ++ " and " ++ right.name
  | divisionByZero => "division by zero"
  | notNumeral text => "cannot convert '" ++ text ++ "' to a number"
  | noNumber found => "cannot convert " ++ found.name ++ " to a number"
  | operandNotString found => "operands must be strings, got " ++ found.name
  | timestampOutOfRange => "timestamp out of range"
  | notDate found => "source must be a date or a number, got " ++ found.name
  | tooManyBuckets cap => "more than " ++ cap.repr ++ " distinct groups"
  | notUnwindable found => "value is not an array, got " ++ found.name
  | sourceNotArray found => "source must be an array, got " ++ found.name
  | stateMismatch => "accumulator state does not match its operator"

/-! ## Errors -/

/-- An error of reading a specification or of running a pipeline. -/
inductive Error where
  | invalidPipeline (fault : PipelineFault)
  | invalidStage (stage : String) (fault : StageFault)
  | invalidOperator (scope : Scope) (operator : String) (fault : OperatorFault)
  | evaluation (scope : Scope) (operator : String) (fault : EvaluationFault)
  | host (scope : Scope) (operator : String) (failure : HostFailure)
  | finished
  | serialization (reason : String)

namespace Error

/-- Where an operator stands, in a message. -/
def place (scope : Scope) (operator : String) : String :=
  scope.stage.text ++ ":" ++ operator ++ " key=" ++ scope.key

def message : Error → String
  | invalidPipeline fault => "Invalid pipeline: " ++ fault.message
  | invalidStage stage fault => "Invalid stage " ++ stage ++ ": " ++ fault.message
  | invalidOperator scope operator fault =>
    "Invalid operator " ++ place scope operator ++ ": " ++ fault.message
  | evaluation scope operator fault =>
    "Evaluation failed in " ++ place scope operator ++ ": " ++ fault.message
  | host scope operator failure =>
    "Callback failed in " ++ place scope operator ++ ": " ++ failure.message
  | finished => "Pipeline already produced its result"
  | serialization reason => "Serialization error: " ++ reason

/-- The error was raised while a specification was read. -/
def isConstruction : Error → Bool
  | invalidPipeline _ => true
  | invalidStage _ _ => true
  | invalidOperator _ _ _ => true
  | _ => false

/-- The error was raised by a document. -/
def isRuntime : Error → Bool
  | evaluation _ _ _ => true
  | host _ _ _ => true
  | _ => false

/-- A copy of the error; the causes of a host failure survive only as part of its message. -/
def copy : Error → Error
  | host scope operator failure => host scope operator failure.flatten
  | e => e

def scope? : Error → Option (Scope × String)
  | invalidOperator scope operator _ => some (scope, operator)
  | evaluation scope operator _ => some (scope, operator)
  | host scope operator _ => some (scope, operator)
  | _ => none

end Error

/-- An error about an operator of a specification. -/
def Scope.invalid (scope : Scope) (operator : String) (fault : OperatorFault) : Error :=
  .invalidOperator scope operator fault

/-- An error of an operator about a document. -/
def Scope.evaluation (scope : Scope) (operator : String) (fault : EvaluationFault) : Error :=
  .evaluation scope operator fault

/-- What a host function has answered, with its failure as an error of the operator. -/
def Scope.call {α : Type} (scope : Scope) (operator : String) (answer : Except HostFailure α) :
    Except Error α :=
  match answer with
  | .ok a => .ok a
  | .error failure => .error (.host scope operator failure)

end DocFlow
