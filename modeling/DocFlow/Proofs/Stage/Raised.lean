import DocFlow.Group.Basic
import DocFlow.Proofs.Expr.Raised
import DocFlow.Proofs.Stage.Push

/-!
# Errors of a stage

Whatever a stage remembers and whatever document it takes in, an error is about the document and is raised in that very
stage (`Stage.failsOnly_push`): an expression knows the stage that holds it, so an accumulator names the group also
where it evaluates the operators of a projection.  Only of a group can it say that there are too many buckets, or that what
has been gathered does not fit (`Stage.failsOnly_push_of_ne_group`).
-/

namespace DocFlow

open DocFlow.Except (FailsOnly)
open DocFlow.Error (RaisedIn RaisedEvaluating RaisedComputing)

variable {d : Document}

/-! ## Queries -/

theorem Test.failsOnly_isAmong {operator : String} {scope : Scope} {found candidates : Value} :
    FailsOnly (RaisedComputing scope.stage) (isAmong operator scope found candidates) := by
  unfold isAmong
  split
  · exact .ok _
  · exact .error (.evaluation ..)

theorem failsOnly_firstPassing {P : Error → Prop} {p : Value → Except Error Bool} {vs : List Value}
    (h : ∀ v, FailsOnly P (p v)) : FailsOnly P (firstPassing p vs) := by
  induction vs with
  | nil => exact .ok _
  | cons v vs ih =>
    unfold firstPassing
    refine .bind (h v) fun passed _ => ?_
    split
    · exact .ok _
    · exact ih

mutual

theorem Query.failsOnly_accepts (d : Document) : ∀ q : Query, FailsOnly (RaisedComputing .filter) (q.accepts d)
  | .all qs => Query.failsOnly_allAccept d qs
  | .any qs => Query.failsOnly_someAccepts d qs
  | .neither qs => .bind (Query.failsOnly_someAccepts d qs) fun _ _ => .ok _
  | .call f => RaisedComputing.failsOnly_call ⟨.filter, f.name⟩ "$call" (f.run .missing d)
  | .field path tests => Test.failsOnly_allHold d ⟨.filter, path.text⟩ rfl (d.get path) tests

theorem Query.failsOnly_allAccept (d : Document) :
    ∀ qs : List Query, FailsOnly (RaisedComputing .filter) (Query.allAccept d qs)
  | [] => .ok _
  | q :: qs => by
    unfold Query.allAccept
    refine .bind (Query.failsOnly_accepts d q) fun accepted _ => ?_
    split
    · exact Query.failsOnly_allAccept d qs
    · exact .ok _

theorem Query.failsOnly_someAccepts (d : Document) :
    ∀ qs : List Query, FailsOnly (RaisedComputing .filter) (Query.someAccepts d qs)
  | [] => .ok _
  | q :: qs => by
    unfold Query.someAccepts
    refine .bind (Query.failsOnly_accepts d q) fun accepted _ => ?_
    split
    · exact .ok _
    · exact Query.failsOnly_someAccepts d qs

theorem Test.failsOnly_holds (d : Document) (scope : Scope) (hscope : scope.stage = .filter) (v : Value) :
    ∀ t : Test, FailsOnly (RaisedComputing .filter) (t.holds d scope v)
  | .eq _ | .ne _ | .compare _ _ | .matching _ | .present _ | .modulo _ _ | .containsAll _ | .size _ => .ok _
  | .among o => hscope ▸ Test.failsOnly_isAmong
  | .notAmong o => .bind (hscope ▸ Test.failsOnly_isAmong) fun _ _ => .ok _
  | .item tests => by
    unfold Test.holds
    split
    · exact failsOnly_firstPassing fun item => Test.failsOnly_allHold d scope hscope item tests
    · exact .ok _
  | .itemQuery q => by
    unfold Test.holds
    split
    · refine failsOnly_firstPassing fun item => ?_
      split
      · exact Query.failsOnly_accepts _ q
      · exact .ok _
    · exact .ok _
  | .negation tests => .bind (Test.failsOnly_allHold d scope hscope v tests) fun _ _ => .ok _
  | .call f => hscope ▸ RaisedComputing.failsOnly_call scope "$call" (f.run v d)

theorem Test.failsOnly_allHold (d : Document) (scope : Scope) (hscope : scope.stage = .filter) (v : Value) :
    ∀ ts : List Test, FailsOnly (RaisedComputing .filter) (Test.allHold d scope v ts)
  | [] => .ok _
  | t :: ts => by
    unfold Test.allHold
    refine .bind (Test.failsOnly_holds d scope hscope v t) fun holds _ => ?_
    split
    · exact Test.failsOnly_allHold d scope hscope v ts
    · exact .ok _

end

/-! ## Projections -/

theorem Projection.failsOnly_apply : ∀ p : Projection, FailsOnly (RaisedComputing .project) (p.apply d)
  | .compute fields => .bind (Expr.failsOnly_evalFields d scopeOf (fun _ => rfl) [] fields) fun _ _ => .ok _
  | .without _ => .ok _

/-! ## Groups -/

mutual

theorem GroupKey.failsOnly_eval (d : Document) (scope : Scope) :
    ∀ key : GroupKey, FailsOnly (RaisedComputing scope.stage) (key.eval d scope)
  | .computed e => .bind (Expr.failsOnly_eval d scope e) fun _ _ => .ok _
  | .object parts => .bind (GroupKey.failsOnly_evalMembers d scope [] parts) fun _ _ => .ok _
  | .array parts => .bind (GroupKey.failsOnly_evalItems d scope parts) fun _ _ => .ok _

theorem GroupKey.failsOnly_evalMembers (d : Document) (scope : Scope) (done : Entries Value) :
    ∀ parts : List (String × GroupKey), FailsOnly (RaisedComputing scope.stage) (evalMembers d scope done parts)
  | [] => .ok _
  | (_, key) :: parts =>
    .bind (GroupKey.failsOnly_eval d scope key) fun _ _ => GroupKey.failsOnly_evalMembers d scope _ parts

theorem GroupKey.failsOnly_evalItems (d : Document) (scope : Scope) :
    ∀ parts : List GroupKey, FailsOnly (RaisedComputing scope.stage) (evalItems d scope parts)
  | [] => .ok _
  | key :: parts =>
    .bind (GroupKey.failsOnly_eval d scope key) fun _ _ =>
      .bind (GroupKey.failsOnly_evalItems d scope parts) fun _ _ => .ok _

end

theorem Reduction.failsOnly_itemsOf {v : Value} : FailsOnly (· = .sourceNotArray v.kind) (itemsOf v) := by
  unfold itemsOf
  split
  case h_4 => exact .error rfl
  all_goals exact .ok _

theorem Reduction.failsOnly_absorb {v : Value} {r : Reduction} {s : Accumulation} :
    FailsOnly (fun fault => ∀ cap, fault ≠ .tooManyBuckets cap) (r.absorb v s) := by
  unfold absorb
  split
  case h_9 | h_10 =>
    refine .bind (failsOnly_itemsOf.imp ?_) fun _ _ => .ok _
    rintro _ rfl
    exact nofun
  case h_11 => exact .error nofun
  all_goals exact .ok _

theorem Accumulator.failsOnly_reduceStep {scope : Scope} {r : Reduction} {source : Expr} {s : Accumulation} :
    FailsOnly (RaisedEvaluating scope.stage) (reduceStep d scope r source s).answer := by
  unfold reduceStep
  split
  · exact .error (.evaluation ..)
  split
  · exact .ok _
  split
  · rename_i e he
    exact .error (Expr.failsOnly_eval d scope source e he).toRaisedEvaluating
  split
  · rename_i fault hfault
    exact .error (.evaluation scope _ fault (Reduction.failsOnly_absorb fault hfault))
  · exact .ok _

mutual

theorem Accumulator.failsOnly_step (d : Document) (scope : Scope) :
    ∀ (a : Accumulator) (s : Accumulation), FailsOnly (RaisedEvaluating scope.stage) (a.step d scope s).answer
  | .reduce _ _, _ => failsOnly_reduceStep
  | .call f, s => by
    cases s with
    | call v =>
      unfold step
      split
      · exact .error (RaisedEvaluating.failsOnly_call scope "$call" (f.run v d) _ ‹_›)
      · exact .ok _
    | _ => exact .error (.evaluation ..)
  | .object fields, s => by
    cases s with
    | object parts =>
      rw [step_object]
      exact Accumulator.failsOnly_stepAll d (fun _ => scope) (fun _ => rfl) fields parts
    | _ => exact .error (.evaluation ..)

theorem Accumulator.failsOnly_stepAll (d : Document) {stage : StageName} (scopeOf : String → Scope)
    (hscope : ∀ key, (scopeOf key).stage = stage) :
    ∀ (fields : List (String × Accumulator)) (parts : List Accumulation),
      FailsOnly (RaisedEvaluating stage) (stepAll d scopeOf fields parts).answer
  | [], _ => .ok _
  | _ :: _, [] => .ok _
  | (key, a) :: fields, s :: parts => by
    match hs : (a.step d (scopeOf key) s).answer with
    | .error e =>
      rw [stepAll_cons_of_error hs]
      exact .error (hscope key ▸ Accumulator.failsOnly_step d (scopeOf key) a s e hs)
    | .ok () =>
      rw [stepAll_cons_of_ok hs]
      exact Accumulator.failsOnly_stepAll d scopeOf hscope fields parts

end

theorem Grouping.failsOnly_step {g : Grouping} {parts : List Accumulation} :
    FailsOnly (RaisedEvaluating .group) (g.step d parts).answer :=
  Accumulator.failsOnly_stepAll d scopeOf (fun _ => rfl) g.fields parts

theorem Buckets.failsOnly_add {g : Grouping} {cap : Option Nat} {bs : Buckets} :
    FailsOnly (RaisedIn .group) (add g cap d bs).answer := by
  unfold add
  split
  · rename_i e he
    exact .error (GroupKey.failsOnly_eval d (Grouping.scopeOf "_id") g.key e he).toRaisedIn
  · split
    · exact Grouping.failsOnly_step.imp fun _ => (·.toRaisedIn)
    · split
      · exact .error (RaisedIn.evaluation (Grouping.scopeOf "_id") ..)
      · exact Grouping.failsOnly_step.imp fun _ => (·.toRaisedIn)

/-! ## Stages -/

theorem Stage.failsOnly_unwound {path : Path} : FailsOnly (RaisedComputing .unwind) (unwound path d) := by
  unfold unwound
  split
  · exact .ok _
  · exact .ok _
  · exact .error (RaisedComputing.evaluation ⟨.unwind, path.text⟩ ..)

/-- A stage that does not group has neither buckets nor anything gathered. -/
theorem Stage.failsOnly_push_of_ne_group {s : Stage} (hs : ∀ g cap, s ≠ .group g cap) (d : Document) (m : s.Memory) :
    FailsOnly (RaisedComputing s.name) (s.push d m).answer := by
  cases s with
  | filter q => exact .bind (Query.failsOnly_accepts d q) fun _ _ => .ok _
  | project p => exact .bind (Projection.failsOnly_apply p) fun _ _ => .ok _
  | group g cap => exact absurd rfl (hs g cap)
  | sort keys => exact .ok _
  | skip count =>
    rcases Nat.lt_or_ge m count with hm | hm
    · exact push_skip_of_lt hm ▸ .ok _
    · exact push_skip_of_le hm ▸ .ok _
  | limit count =>
    rcases Nat.lt_or_ge m count with hm | hm
    · exact push_limit_of_lt hm ▸ .ok _
    · exact push_limit_of_le hm ▸ .ok _
  | unwind path => exact .bind failsOnly_unwound fun _ _ => .ok _

/-- Every error of a stage is about the document and is raised in that stage. -/
theorem Stage.failsOnly_push (s : Stage) (d : Document) (m : s.Memory) :
    FailsOnly (RaisedIn s.name) (s.push d m).answer := by
  cases s with
  | group g cap => exact .bind Buckets.failsOnly_add fun _ _ => .ok _
  | _ =>
    refine (failsOnly_push_of_ne_group ?_ d m).imp fun _ => (·.toRaisedIn)
    exact nofun

end DocFlow
