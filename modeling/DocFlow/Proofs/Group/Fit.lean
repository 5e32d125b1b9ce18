import DocFlow.Proofs.Group.Gather
import DocFlow.Proofs.Stage.Raised

/-!
# Accumulations fit their accumulators

What an accumulator works on is a tree of its own beside that of the accumulator.  It fits (`Accumulator.Fits`) if at
every depth an object has an accumulation for each of its fields, and a reduction one of its shape.  What has been
gathered before any document fits, and taking a document in keeps it so, also where it stops at a field that fails
(`Fits.state_step`).

* `Fits.failsOnly_step` — no error says that what has been gathered does not fit;
* `Fits.takes` — a document that does not fail is taken in by all fields, at every depth (`Takes`).
-/

namespace DocFlow

open DocFlow.Except (FailsOnly)
open DocFlow.Error (RaisedComputing)

/-! ## Reductions -/

namespace Reduction

variable {r : Reduction} {v : Value} {s s' : Accumulation}

theorem fits_initial (r : Reduction) : r.fits r.initial = true := by cases r <;> rfl

/-- One more value leaves the shape. -/
theorem fits_absorb (h : r.absorb v s = .ok s') : r.fits s' = true := by
  unfold absorb at h
  split at h
  case h_1 | h_2 =>
    obtain rfl := Except.ok.inj h
    split <;> rfl
  case h_9 | h_10 =>
    obtain ⟨items, -, h⟩ := Except.bind_eq_ok.1 h
    obtain rfl := Except.ok.inj h
    rfl
  case h_11 => cases h
  all_goals
    obtain rfl := Except.ok.inj h
    rfl

/-- Where the shape is the right one, only a value that is no array cannot be absorbed. -/
theorem failsOnly_absorb_of_fits (hs : r.fits s = true) : FailsOnly (· = .sourceNotArray v.kind) (r.absorb v s) := by
  unfold fits at hs
  split at hs
  case h_9 | h_10 => exact .bind failsOnly_itemsOf fun _ _ => .ok _
  case h_11 => cases hs
  all_goals exact .ok _

end Reduction

/-! ## Accumulators -/

namespace Accumulator

mutual

/-- What has been gathered fits the accumulator: it has the shape that a reduction works on, and in an object there is
an accumulation for each field, which fits that field. -/
inductive Fits : Accumulator → Accumulation → Prop
  | reduce {r : Reduction} {source : Expr} {s : Accumulation} (h : r.fits s = true) : Fits (.reduce r source) s
  | call (f : Named Reducer) (v : Value) : Fits (.call f) (.call v)
  | object {fields : List (String × Accumulator)} {parts : List Accumulation} (h : FitsAll fields parts) :
    Fits (.object fields) (.object parts)

/-- What has been gathered fits the accumulators of fields, one by one. -/
inductive FitsAll : List (String × Accumulator) → List Accumulation → Prop
  | nil : FitsAll [] []
  | cons {key : String} {a : Accumulator} {s : Accumulation} {fields : List (String × Accumulator)}
    {parts : List Accumulation} (h : Fits a s) (hrest : FitsAll fields parts) :
    FitsAll ((key, a) :: fields) (s :: parts)

end

variable {d : Document} {scope : Scope}

/-! ### Before any document, and after one more -/

mutual

theorem fits_initial : ∀ a : Accumulator, Fits a a.initial
  | .reduce r _ => .reduce r.fits_initial
  | .call f => .call f .missing
  | .object fields => .object (fitsAll_initialParts fields)

theorem fitsAll_initialParts : ∀ fields : List (String × Accumulator), FitsAll fields (initialParts fields)
  | [] => .nil
  | (_, a) :: fields => .cons (fits_initial a) (fitsAll_initialParts fields)

end

theorem fits_reduceStep {r : Reduction} {source : Expr} {s : Accumulation} (h : r.fits s = true) :
    r.fits (reduceStep d scope r source s).state = true := by
  unfold reduceStep
  split
  · exact h
  split
  · exact h
  split
  · exact h
  split
  · exact h
  · exact Reduction.fits_absorb ‹_›

mutual

/-- A document leaves the shapes at every depth, whether or not it fails. -/
theorem Fits.state_step (d : Document) (scope : Scope) {a : Accumulator} {s : Accumulation} :
    Fits a s → Fits a (a.step d scope s).state
  | .reduce h => .reduce (fits_reduceStep h)
  | .call f v => by
    unfold Accumulator.step
    split <;> exact .call f _
  | .object h => by
    rw [step_object]
    exact .object (h.state_stepAll d _)

theorem FitsAll.state_stepAll (d : Document) (scopeOf : String → Scope) {fields : List (String × Accumulator)}
    {parts : List Accumulation} : FitsAll fields parts → FitsAll fields (stepAll d scopeOf fields parts).state
  | .nil => .nil
  | @FitsAll.cons key a s _ _ h hrest => by
    -- the fields behind one that fails keep what they have
    match hs : (a.step d (scopeOf key) s).answer with
    | .error e =>
      rw [stepAll_cons_of_error hs]
      exact .cons (h.state_step d _) hrest
    | .ok () =>
      rw [stepAll_cons_of_ok hs]
      exact .cons (h.state_step d _) (hrest.state_stepAll d scopeOf)

end

/-! ### Errors -/

theorem failsOnly_reduceStep_of_fits {r : Reduction} {source : Expr} {s : Accumulation} (h : r.fits s = true) :
    FailsOnly (RaisedComputing scope.stage) (reduceStep d scope r source s).answer := by
  unfold reduceStep
  split
  · rename_i hnot
    simp [h] at hnot
  split
  · exact .ok _
  split
  · rename_i e he
    exact .error (Expr.failsOnly_eval d scope source e he)
  split
  · rename_i fault hfault
    obtain rfl := Reduction.failsOnly_absorb_of_fits h fault hfault
    exact .error (.evaluation ..)
  · exact .ok _

mutual

/-- No error says that what has been gathered does not fit. -/
theorem Fits.failsOnly_step (d : Document) (scope : Scope) {a : Accumulator} {s : Accumulation} :
    Fits a s → FailsOnly (RaisedComputing scope.stage) (a.step d scope s).answer
  | .reduce h => failsOnly_reduceStep_of_fits h
  | .call f v => by
    unfold Accumulator.step
    split
    · rename_i e he
      exact .error (RaisedComputing.failsOnly_call scope "$call" (f.run v d) e he)
    · exact .ok _
  | .object h => by
    rw [step_object]
    exact h.failsOnly_stepAll d (fun _ => scope) fun _ => rfl

theorem FitsAll.failsOnly_stepAll (d : Document) {stage : StageName} (scopeOf : String → Scope)
    (hscope : ∀ key, (scopeOf key).stage = stage) {fields : List (String × Accumulator)} {parts : List Accumulation} :
    FitsAll fields parts → FailsOnly (RaisedComputing stage) (stepAll d scopeOf fields parts).answer
  | .nil => .ok _
  | @FitsAll.cons key a s _ _ h hrest => by
    match hs : (a.step d (scopeOf key) s).answer with
    | .error e =>
      rw [stepAll_cons_of_error hs]
      exact .error (hscope key ▸ h.failsOnly_step d (scopeOf key) e hs)
    | .ok () =>
      rw [stepAll_cons_of_ok hs]
      exact hrest.failsOnly_stepAll d scopeOf hscope

end

/-! ### Documents that are taken in -/

mutual

/-- The accumulator takes a document in and goes from one accumulation to another; an object does so in all its
fields. -/
inductive Takes (d : Document) : Scope → Accumulator → Accumulation → Accumulation → Prop
  | reduce {scope : Scope} {r : Reduction} {source : Expr} {s s' : Accumulation}
    (h : reduceStep d scope r source s = .success s' ()) : Takes d scope (.reduce r source) s s'
  | call {scope : Scope} {f : Named Reducer} {v v' : Value} (h : f.run v d = .ok v') :
    Takes d scope (.call f) (.call v) (.call v')
  | object {scope : Scope} {fields : List (String × Accumulator)} {parts parts' : List Accumulation}
    (h : TakesAll d (fun _ => scope) fields parts parts') :
    Takes d scope (.object fields) (.object parts) (.object parts')

/-- The accumulators of all fields take a document in. -/
inductive TakesAll (d : Document) :
    (String → Scope) → List (String × Accumulator) → List Accumulation → List Accumulation → Prop
  | nil {scopeOf : String → Scope} : TakesAll d scopeOf [] [] []
  | cons {scopeOf : String → Scope} {key : String} {a : Accumulator} {fields : List (String × Accumulator)}
    {s s' : Accumulation} {parts parts' : List Accumulation} (h : Takes d (scopeOf key) a s s')
    (hrest : TakesAll d scopeOf fields parts parts') :
    TakesAll d scopeOf ((key, a) :: fields) (s :: parts) (s' :: parts')

end

mutual

/-- Where no field is left without an accumulation, a document that does not fail is taken in by all of them. -/
theorem Fits.takes {scope : Scope} {a : Accumulator} {s : Accumulation} :
    Fits a s → (a.step d scope s).answer = .ok () → Takes d scope a s (a.step d scope s).state
  | .reduce _, hs => .reduce (Outcome.eq_success hs)
  | .call f v, hs => by
    unfold Accumulator.step at hs ⊢
    cases hv : f.run v d with
    | error failure => simp [Scope.call, hv] at hs
    | ok v' => simpa [Scope.call, hv] using Takes.call hv
  | .object h, hs => by
    rw [step_object] at hs ⊢
    exact .object (h.takesAll hs)

theorem FitsAll.takesAll {scopeOf : String → Scope} {fields : List (String × Accumulator)} {parts : List Accumulation} :
    FitsAll fields parts → (stepAll d scopeOf fields parts).answer = .ok () →
      TakesAll d scopeOf fields parts (stepAll d scopeOf fields parts).state
  | .nil, _ => .nil
  | @FitsAll.cons key a s _ _ h hrest, hok => by
    match hs : (a.step d (scopeOf key) s).answer with
    | .error e =>
      rw [stepAll_cons_of_error hs] at hok
      cases hok
    | .ok () =>
      rw [stepAll_cons_of_ok hs] at hok ⊢
      exact .cons (h.takes hs) (hrest.takesAll hok)

end

mutual

theorem step_of_takes {scope : Scope} {a : Accumulator} {s s' : Accumulation} :
    Takes d scope a s s' → a.step d scope s = .success s' ()
  | .reduce h => h
  | .call h => by simp [Accumulator.step, Scope.call, h]
  | .object h => by
    rw [step_object, stepAll_of_takesAll h]
    rfl

theorem stepAll_of_takesAll {scopeOf : String → Scope} {fields : List (String × Accumulator)}
    {parts parts' : List Accumulation} :
    TakesAll d scopeOf fields parts parts' → stepAll d scopeOf fields parts = .success parts' ()
  | .nil => rfl
  | .cons h hrest => by
    have hs := step_of_takes h
    rw [stepAll_cons_of_ok (congrArg Outcome.answer hs), hs, stepAll_of_takesAll hrest]
    rfl

end

theorem FitsAll.stepAll_eq_success_iff {scopeOf : String → Scope} {fields : List (String × Accumulator)}
    {parts parts' : List Accumulation} (h : FitsAll fields parts) :
    stepAll d scopeOf fields parts = .success parts' () ↔ TakesAll d scopeOf fields parts parts' := by
  refine ⟨fun hs => ?_, stepAll_of_takesAll⟩
  have hall := h.takesAll (congrArg Outcome.answer hs)
  rwa [hs] at hall

end Accumulator

end DocFlow
