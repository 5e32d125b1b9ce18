import DocFlow.Argument
import DocFlow.Proofs.Outcome

/-!
# Arguments that cannot be read

The only error of reading a plain argument is the one about its form, in the scope of the operator.
-/

namespace DocFlow.Argument

open DocFlow.Except (FailsOnly)

variable {P : Error → Prop} {scope : Scope} {operator : String}

theorem failsOnly_text {fault : OperatorFault} {j : Json} (h : P (scope.invalid operator fault)) :
    FailsOnly P (text scope operator fault j) := by
  unfold text
  split
  · exact .ok _
  · exact .error h

theorem failsOnly_integer {what : String} {j : Json} (h : P (scope.invalid operator (.notInteger what))) :
    FailsOnly P (integer scope operator what j) := by
  unfold integer
  split
  · exact .ok _
  · exact .error h

theorem failsOnly_pattern {flags : Regex.Flags} {s : String}
    (h : ∀ reason, P (scope.invalid operator (.badRegex reason))) :
    FailsOnly P (pattern scope operator flags s) := by
  unfold pattern
  split
  · exact .ok _
  · exact .error (h _)

theorem failsOnly_function {F : Type} {notName : OperatorFault} {unknown : String → OperatorFault}
    {registered : Entries F} {j : Json} (hname : P (scope.invalid "$call" notName))
    (hunknown : ∀ name, P (scope.invalid "$call" (unknown name))) :
    FailsOnly P (function scope notName unknown registered j) := by
  unfold function
  refine .bind (failsOnly_text hname) fun name _ => ?_
  split
  · exact .ok _
  · exact .error (hunknown name)

end DocFlow.Argument
