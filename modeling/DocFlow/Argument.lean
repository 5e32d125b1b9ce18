import DocFlow.Error
import DocFlow.Regex.Basic

/-!
# Arguments of operators

The plain arguments that an operator takes: a text, an integer, a pattern, the name of a function of
the host program.  An argument of another form is an error of the operator in its scope.
-/

namespace DocFlow.Argument

/-- A text, or the fault `fault`. -/
def text (scope : Scope) (operator : String) (fault : OperatorFault) : Json → Except Error String
  | .string s => .ok s
  | _ => .error (scope.invalid operator fault)

/-- A signed integer of 64 bits; `what` names it in the error. -/
def integer (scope : Scope) (operator what : String) (j : Json) : Except Error Int :=
  match j.toInt? with
  | some n => .ok n
  | none => .error (scope.invalid operator (.notInteger what))

def pattern (scope : Scope) (operator : String) (flags : Regex.Flags) (s : String) :
    Except Error Regex :=
  match Regex.ofString flags s with
  | .ok r => .ok r
  | .error fault => .error (scope.invalid operator (.badRegex fault.message))

/-- A registered function, by its name. -/
def function {F : Type} (scope : Scope) (notName : OperatorFault) (unknown : String → OperatorFault)
    (registered : Entries F) (j : Json) : Except Error (Named F) := do
  let name ← text scope "$call" notName j
  match Registry.find? name registered with
  | some f => .ok f
  | none => .error (scope.invalid "$call" (unknown name))

end DocFlow.Argument
