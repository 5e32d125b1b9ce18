import DocFlow.Expr.Eval
import DocFlow.Proofs.Error

/-!
# Errors of the values of expressions

An expression is evaluated in the scope of the stage that holds it, and every error is raised there; none says that there
are too many buckets, or that what a group has gathered does not fit (`failsOnly_eval`).
-/

namespace DocFlow.Expr

open DocFlow.Except (FailsOnly)
open DocFlow.Error (RaisedComputing)

variable {scope : Scope} {operator : String} {v : Value}

/-! ## Operators -/

theorem failsOnly_mapText {f : String → String} : FailsOnly (RaisedComputing scope.stage) (mapText operator scope f v) := by
  unfold mapText
  split
  case h_4 => exact .error (.evaluation ..)
  all_goals exact .ok _

theorem failsOnly_extractFrom {pattern : Regex} {group : Nat} :
    FailsOnly (RaisedComputing scope.stage) (extractFrom pattern group scope v) := by
  unfold extractFrom
  split
  · split <;> exact .ok _
  · exact .ok _
  · exact .error (.evaluation ..)

theorem failsOnly_readTimestamp {format : String} {items : List Calendar.Item} {offset : Calendar.Offset} :
    FailsOnly (RaisedComputing scope.stage) (readTimestamp format items offset scope v) := by
  unfold readTimestamp
  split
  · split
    · exact .error (.evaluation ..)
    · split
      · exact .error (.evaluation ..)
      · exact .ok _
  · exact .ok _
  · exact .ok _
  · exact .error (.evaluation ..)

theorem failsOnly_calculate {op : Arithmetic} {a b : Value} :
    FailsOnly (RaisedComputing scope.stage) (calculate op scope a b) := by
  unfold calculate
  split
  · exact .ok _
  · split
    · split
      · exact .ok _
      · exact .error (.evaluation ..)
    · exact .error (.evaluation ..)

theorem failsOnly_convertToNumber : FailsOnly (RaisedComputing scope.stage) (convertToNumber scope v) := by
  unfold convertToNumber
  split
  · exact .ok _
  · split
    · exact .ok _
    · exact .error (.evaluation ..)
  · exact .ok _
  · exact .ok _
  · exact .error (.evaluation ..)

theorem failsOnly_takePart {part : Calendar.Part} {offset : Calendar.Offset} :
    FailsOnly (RaisedComputing scope.stage) (takePart part offset scope v) := by
  unfold takePart
  split
  · exact .ok _
  · split
    · exact .ok _
    · exact .error (.evaluation ..)
  · exact .ok _
  · exact .ok _
  · exact .error (.evaluation ..)

/-! ## Expressions -/

mutual

/-- Every error of evaluating an expression is raised in the stage of the scope. -/
theorem failsOnly_eval (d : Document) (scope : Scope) :
    ∀ e : Expr, FailsOnly (RaisedComputing scope.stage) (e.eval d scope)
  | .operand _ => .ok _
  | .value e => failsOnly_eval d scope e
  | .extract source _ _ => .bind (failsOnly_eval d scope source) fun _ _ => failsOnly_extractFrom
  | .timestamp source _ _ _ => .bind (failsOnly_eval d scope source) fun _ _ => failsOnly_readTimestamp
  | .arithmetic _ left right =>
    .bind (failsOnly_eval d scope left) fun _ _ =>
      .bind (failsOnly_eval d scope right) fun _ _ => failsOnly_calculate
  | .letterCase true source => .bind (failsOnly_eval d scope source) fun _ _ => failsOnly_mapText
  | .letterCase false source => .bind (failsOnly_eval d scope source) fun _ _ => failsOnly_mapText
  | .toNumber source => .bind (failsOnly_eval d scope source) fun _ _ => failsOnly_convertToNumber
  | .concat parts => failsOnly_joinParts d scope "" parts
  | .substr source _ _ => .bind (failsOnly_eval d scope source) fun _ _ => failsOnly_mapText
  | .substring source _ _ => .bind (failsOnly_eval d scope source) fun _ _ => failsOnly_mapText
  | .datePart _ source _ => .bind (failsOnly_eval d scope source) fun _ _ => failsOnly_takePart
  | .object fields => .bind (failsOnly_evalFields d (fun _ => scope) (fun _ => rfl) [] fields) fun _ _ => .ok _
  | .call f => RaisedComputing.failsOnly_call scope "$call" (f.run d)

theorem failsOnly_joinParts (d : Document) (scope : Scope) (done : String) :
    ∀ es : List Expr, FailsOnly (RaisedComputing scope.stage) (joinParts d scope done es)
  | [] => .ok _
  | e :: es => by
    unfold joinParts
    refine .bind (failsOnly_eval d scope e) fun v _ => ?_
    split
    · exact failsOnly_joinParts d scope _ es
    · exact .ok _
    · exact .ok _
    · exact .error (.evaluation ..)

theorem failsOnly_evalFields (d : Document) {stage : StageName} (scopeOf : String → Scope)
    (hscope : ∀ key, (scopeOf key).stage = stage) (done : Entries Value) :
    ∀ fields : List (String × Expr), FailsOnly (RaisedComputing stage) (evalFields d scopeOf done fields)
  | [] => .ok _
  | (key, e) :: fields => by
    unfold evalFields
    refine .bind (hscope key ▸ failsOnly_eval d (scopeOf key) e) fun v _ => ?_
    split
    · exact failsOnly_evalFields d scopeOf hscope _ fields
    · exact failsOnly_evalFields d scopeOf hscope _ fields

end

end DocFlow.Expr
