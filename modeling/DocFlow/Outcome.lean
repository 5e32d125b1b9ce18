import DocFlow.Error

/-!
# Outcomes

What a step of a running pipeline leaves behind.  A step that fails may have changed its state before
it failed, and that change is kept; so the new state stands beside the answer and not inside it.
-/

namespace DocFlow

/-- The state after a step, and the answer of the step. -/
structure Outcome (σ α : Type) where
  state : σ
  answer : Except Error α

namespace Outcome

variable {σ τ α : Type}

def success (state : σ) (a : α) : Outcome σ α := ⟨state, .ok a⟩

def failure (state : σ) (e : Error) : Outcome σ α := ⟨state, .error e⟩

/-- The outcome with its state put into a larger one. -/
def within (o : Outcome σ α) (f : σ → τ) : Outcome τ α := ⟨f o.state, o.answer⟩

@[simp] theorem state_success (state : σ) (a : α) : (success state a).state = state := rfl

@[simp] theorem answer_success (state : σ) (a : α) : (success state a).answer = .ok a := rfl

@[simp] theorem state_failure (state : σ) (e : Error) :
    (failure state e : Outcome σ α).state = state := rfl

@[simp] theorem answer_failure (state : σ) (e : Error) :
    (failure state e : Outcome σ α).answer = .error e := rfl

@[simp] theorem state_within (o : Outcome σ α) (f : σ → τ) : (o.within f).state = f o.state := rfl

@[simp] theorem answer_within (o : Outcome σ α) (f : σ → τ) : (o.within f).answer = o.answer := rfl

end Outcome

end DocFlow
