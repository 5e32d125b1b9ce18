import DocFlow.Proofs.Outcome

/-!
# Kinds of errors

An error is of one of seven variants, and those about an operator name its stage, its key and the operator.  A copy of
an error is of the same variant and names the same (`Alike.copy`): only what the causes of a host failure say is drawn
together, so that they stand behind the message (`message_copy`).

Errors of reading a specification are told from errors about documents, and no error is both
(`isRuntime_of_isConstruction`).  An operator raises the latter in its stage (`RaisedIn`); one of an expression, a key or
an accumulator knows of no cap on the buckets of a group and never says that it is met (`RaisedEvaluating`).  Expressions
and keys have not gathered anything either, and never say that it does not fit (`RaisedComputing`).
-/

namespace DocFlow

/-- The message of a failure with its causes behind it. -/
theorem HostFailure.chain_eq (f : HostFailure) :
    f.chain = f.message ++ String.join (f.causes.map fun cause => ": " ++ cause) := by
  obtain ⟨message, causes⟩ := f
  unfold chain
  induction causes generalizing message with
  | nil => simp
  | cons cause causes ih =>
    rw [String.intercalate_cons_cons, ih]
    simp [String.append_assoc]

namespace Error

inductive Variant where
  | invalidPipeline | invalidStage | invalidOperator | evaluation | host | finished | serialization
  deriving DecidableEq, Repr

def variant : Error → Variant
  | invalidPipeline _ => .invalidPipeline
  | invalidStage _ _ => .invalidStage
  | invalidOperator _ _ _ => .invalidOperator
  | evaluation _ _ _ => .evaluation
  | host _ _ _ => .host
  | finished => .finished
  | serialization _ => .serialization

/-- Two errors are of the same variant and name the same stage, key and operator. -/
structure Alike (e e' : Error) : Prop where
  variant : e.variant = e'.variant
  scope : e.scope? = e'.scope?

theorem Alike.copy (e : Error) : Alike e e.copy := by
  cases e <;> exact ⟨rfl, rfl⟩

/-! ## Copies -/

/-- What caused the failure of a host function, the nearest cause first. -/
def causes : Error → List String
  | host _ _ failure => failure.causes
  | _ => []

/-- The causes of an error, as they are written behind its message. -/
def trail (e : Error) : String := String.join (e.causes.map fun cause => ": " ++ cause)

theorem trail_eq_empty_iff {e : Error} : e.trail = "" ↔ e.causes = [] := by
  cases h : e.causes with
  | nil => simp [trail, h]
  | cons cause causes => simp [trail, h]

theorem message_copy (e : Error) : e.copy.message = e.message ++ e.trail := by
  cases e with
  | host scope operator failure =>
    have hcopy : (host scope operator failure).copy.message =
        "Callback failed in " ++ place scope operator ++ ": " ++ failure.chain := rfl
    rw [hcopy, HostFailure.chain_eq, ← String.append_assoc]
    rfl
  | _ => exact String.append_empty.symm

/-- A copy says the same if the error has no causes, and only then. -/
theorem message_copy_eq_iff {e : Error} : e.copy.message = e.message ↔ e.causes = [] := by
  rw [message_copy]
  exact String.append_eq_left_iff.trans trail_eq_empty_iff

theorem copy_copy (e : Error) : e.copy.copy = e.copy := by
  cases e with
  | host scope operator failure => simp [copy, HostFailure.flatten, HostFailure.chain]
  | _ => rfl

/-! ## Construction and running -/

/-- The error is one of reading a specification. -/
abbrev OfConstruction (e : Error) : Prop := e.isConstruction = true

theorem isRuntime_of_isConstruction {e : Error} (h : e.isConstruction = true) : e.isRuntime = false := by
  cases e with
  | evaluation scope operator fault => cases h
  | host scope operator failure => cases h
  | _ => rfl

/-- The error is about a document, and an operator of the stage has raised it. -/
structure RaisedIn (stage : StageName) (e : Error) : Prop where
  runtime : e.isRuntime = true
  scope : ∃ scope operator, e.scope? = some (scope, operator) ∧ scope.stage = stage

namespace RaisedIn

variable {stage : StageName} {e : Error}

theorem isConstruction (h : RaisedIn stage e) : e.isConstruction = false := by
  by_contra hc
  have := isRuntime_of_isConstruction (Bool.not_eq_false _ ▸ hc)
  exact absurd h.runtime (by simp [this])

theorem evaluation (scope : Scope) (operator : String) (fault : EvaluationFault) :
    RaisedIn scope.stage (scope.evaluation operator fault) := ⟨rfl, scope, operator, rfl, rfl⟩

theorem failsOnly_call {α : Type} (scope : Scope) (operator : String) (answer : Except HostFailure α) :
    Except.FailsOnly (RaisedIn scope.stage) (scope.call operator answer) := by
  unfold Scope.call
  split
  · exact .ok _
  · exact .error ⟨rfl, scope, operator, rfl, rfl⟩

theorem copy (h : RaisedIn stage e) : RaisedIn stage e.copy := by
  cases e with
  | host scope operator failure => exact ⟨rfl, h.scope⟩
  | _ => exact h

end RaisedIn

/-- The error is about a document, and what is evaluated for the stage has raised it; it does not say that there are too
many buckets. -/
structure RaisedEvaluating (stage : StageName) (e : Error) : Prop extends RaisedIn stage e where
  ne_tooManyBuckets : ∀ scope operator cap, e ≠ .evaluation scope operator (.tooManyBuckets cap)

namespace RaisedEvaluating

theorem evaluation (scope : Scope) (operator : String) (fault : EvaluationFault)
    (hfault : ∀ cap, fault ≠ .tooManyBuckets cap := by simp) :
    RaisedEvaluating scope.stage (scope.evaluation operator fault) :=
  ⟨.evaluation scope operator fault, fun _ _ cap h => hfault cap (evaluation.inj h).2.2⟩

theorem failsOnly_call {α : Type} (scope : Scope) (operator : String) (answer : Except HostFailure α) :
    Except.FailsOnly (RaisedEvaluating scope.stage) (scope.call operator answer) := by
  intro e he
  refine ⟨RaisedIn.failsOnly_call scope operator answer e he, ?_⟩
  unfold Scope.call at he
  split at he
  · cases he
  · cases he
    exact nofun

end RaisedEvaluating

/-- The error is about a document, and what is evaluated for the stage has raised it; it says neither that there are too
many buckets nor that what has been gathered does not fit. -/
structure RaisedComputing (stage : StageName) (e : Error) : Prop extends RaisedEvaluating stage e where
  ne_stateMismatch : ∀ scope operator, e ≠ .evaluation scope operator .stateMismatch

namespace RaisedComputing

theorem evaluation (scope : Scope) (operator : String) (fault : EvaluationFault)
    (hcap : ∀ cap, fault ≠ .tooManyBuckets cap := by simp) (hfit : fault ≠ .stateMismatch := by simp) :
    RaisedComputing scope.stage (scope.evaluation operator fault) :=
  ⟨.evaluation scope operator fault hcap, fun _ _ h => hfit (evaluation.inj h).2.2⟩

theorem failsOnly_call {α : Type} (scope : Scope) (operator : String) (answer : Except HostFailure α) :
    Except.FailsOnly (RaisedComputing scope.stage) (scope.call operator answer) := by
  intro e he
  refine ⟨RaisedEvaluating.failsOnly_call scope operator answer e he, ?_⟩
  unfold Scope.call at he
  split at he
  · cases he
  · cases he
    exact nofun

end RaisedComputing

end Error

end DocFlow
