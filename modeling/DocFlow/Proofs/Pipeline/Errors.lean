import DocFlow.Proofs.Chain.Raised
import DocFlow.Proofs.Pipeline.Build
import DocFlow.Proofs.Pipeline.Calls
import DocFlow.Proofs.Pipeline.Reading
import DocFlow.Proofs.Stage.Raised

/-!
# Which errors there are

The errors of building a pipeline and those of running it are kept apart (`error_kinds`).  A pipeline that has been
built refuses documents after its result; every other error is about a document and comes from a stage of its chain,
be it fed or drained (`Chain.failsOnly_feed`, `Chain.failsOnly_drain`).
-/

namespace DocFlow

open DocFlow.Except (FailsOnly)

/-! ## Chains -/

namespace Chain

/-- An operator of some stage has raised the error. -/
def Raises (stages : List Stage) (e : Error) : Prop := ∃ s ∈ stages, e.RaisedIn s.name

theorem Raises.copy {stages : List Stage} {e : Error} (h : Raises stages e) : Raises stages e.copy := by
  obtain ⟨s, hs, he⟩ := h
  exact ⟨s, hs, he.copy⟩

theorem failsOnly_feed (stages : List Stage) (d : Document) (state : State stages) :
    FailsOnly (Raises stages) (feed stages d state).answer :=
  failsOnly_feed_of_all (P := fun s _ => s ∈ stages) (fun _ _ _ hs => hs)
    (fun s d station hs e he => ⟨s, hs, s.failsOnly_push d station.memory e he⟩) d (.of_mem (fun _ hs _ => hs) state)

theorem failsOnly_drain (h : HandOut) (stages : List Stage) (state : State stages) :
    FailsOnly (Raises stages) (drain h stages state).answer :=
  failsOnly_drain_of_all (P := fun s _ => s ∈ stages) (fun _ _ _ hs => hs)
    (fun s d station hs e he => ⟨s, hs, s.failsOnly_push d station.memory e he⟩) h (.of_mem (fun _ hs _ => hs) state)

end Chain

/-! ## Pipelines -/

namespace Pipeline

/-- The error is about a document and not about the specification, and names a stage of the pipeline. -/
structure Blames (p : Pipeline) (e : Error) : Prop where
  runtime : e.isRuntime = true
  not_construction : e.isConstruction = false
  stage : ∃ scope operator, e.scope? = some (scope, operator) ∧ scope.stage.text ∈ p.stageNames

theorem blames_of_raises {p : Pipeline} {e : Error} (h : Chain.Raises p.stages e) : p.Blames e := by
  obtain ⟨s, hs, he⟩ := h
  obtain ⟨scope, operator, hscope, hstage⟩ := he.scope
  exact ⟨he.runtime, he.isConstruction, scope, operator, hscope, hstage ▸ List.mem_map_of_mem hs⟩

/-- The chain of a pipeline, and what is known of a result that it keeps. -/
structure KeepsTo (stages : List Stage) (p : Pipeline) : Prop where
  chain : p.stages = stages
  answer : ∀ kept, p.answer = some kept → FailsOnly (Chain.Raises stages) kept

variable {stages : List Stage} {p : Pipeline}

theorem keepsTo_start (stages : List Stage) : KeepsTo stages (start stages) :=
  ⟨rfl, fun _ h => nomatch h⟩

theorem KeepsTo.failsOnly_result (hp : p.KeepsTo stages) (h : HandOut) :
    FailsOnly (Chain.Raises stages) (p.result h).answer := by
  cases ha : p.answer with
  | none =>
    rw [result_of_unanswered ha]
    exact hp.chain ▸ Chain.failsOnly_drain h p.stages p.state
  | some kept =>
    rw [result_of_answered ha]
    exact failsOnly_copyAnswer (fun _ => .copy) (hp.answer kept ha)

theorem KeepsTo.failsOnly_feed (hp : p.KeepsTo stages) (d : Document) :
    FailsOnly (fun e => e = .finished ∧ p.answer.isSome = true ∨ Chain.Raises stages e) (p.feed d).answer :=
  failsOnly_feed_of_chain (hp.chain ▸ Chain.failsOnly_feed p.stages d p.state)

theorem KeepsTo.after (hp : p.KeepsTo stages) (call : Call) : (p.after call).KeepsTo stages := by
  rcases after_cases call with ⟨d, -, h⟩ | ⟨order, rfl⟩ | ⟨-, -, h⟩
  · rw [h]
    exact ⟨(stages_feed p d).trans hp.chain, by rw [answer_feed]; exact hp.answer⟩
  · refine ⟨(stages_result p order).trans hp.chain, ?_⟩
    intro kept hkept
    change (p.result order).state.answer = some kept at hkept
    cases ha : p.answer with
    | none =>
      have hresult := hp.failsOnly_result order
      rw [result_of_unanswered ha] at hkept hresult
      cases hkept
      exact failsOnly_copyAnswer (fun _ => .copy) hresult
    | some first =>
      rw [result_of_answered ha] at hkept
      exact hp.answer kept hkept
  · rw [h]
    exact hp

theorem KeepsTo.afterAll (hp : p.KeepsTo stages) (calls : List Call) : (p.afterAll calls).KeepsTo stages :=
  afterAll_keeps (P := KeepsTo stages) (fun call _ _ hp => hp.after call) hp

/-- **Which errors there are.**  Building a pipeline fails with an error of construction and with no other.  After any
calls of a pipeline that has been built, feeding a document fails because the result has been asked for, or with an
error about the document that names a stage of the pipeline; and the result fails with such an error only. -/
theorem error_kinds (options : Options) (registry : Registry) (spec : Json) :
    ((∃ p, build options registry spec = .ok p) ∨
      ∃ e, build options registry spec = .error e ∧ e.isConstruction = true ∧ e.isRuntime = false) ∧
    ∀ p, build options registry spec = .ok p → ∀ calls,
      (∀ d e, ((p.afterAll calls).feed d).answer = .error e → e = .finished ∧ Asked calls ∨ p.Blames e) ∧
      ∀ h e, ((p.afterAll calls).result h).answer = .error e → p.Blames e := by
  constructor
  · cases hbuild : build options registry spec with
    | ok p => exact .inl ⟨p, rfl⟩
    | error e =>
      have hconstruction := failsOnly_build options registry spec e hbuild
      exact .inr ⟨e, rfl, hconstruction, Error.isRuntime_of_isConstruction hconstruction⟩
  · intro p hp calls
    obtain ⟨stages, rfl, -⟩ := parsed_of_build hp
    have hkeeps := (keepsTo_start stages).afterAll calls
    refine ⟨fun d e he => ?_, fun h e he => blames_of_raises (hkeeps.failsOnly_result h e he)⟩
    rcases hkeeps.failsOnly_feed d e he with ⟨rfl, hanswer⟩ | hraises
    · exact .inl ⟨rfl, by simpa [start] using (isSome_answer_afterAll _ _).1 hanswer⟩
    · exact .inr (blames_of_raises hraises)

/-- In a group, the operator of a projection fails as one of the group. -/
theorem error_kinds_group :
    let bad : Json := .array [.object [("$group", .object [])]]
    let spec : Json := .array [
      .object [("$group", .object [("_id", .null),
        ("all", .object [("$last", .object [("$concat", .array [.string "$a"])])])])],
      .object [("$unwind", .string "$all")]]
    let calls : List Call := [.feed ⟨[("a", .string "x")]⟩]
    let asked : List Call := calls ++ [.result .firstOpened]
    let d : Document := ⟨[("a", .bool true)]⟩
    let feedError : Error := .evaluation ⟨.group, "all"⟩ "$concat" (.operandNotString .bool)
    let resultError : Error := .evaluation ⟨.unwind, "all"⟩ "$unwind" (.notUnwindable .string)
    (∃ e, build .default .empty bad = .error e ∧ e.isConstruction = true ∧ e.isRuntime = false) ∧
    ∃ p, build .default .empty spec = .ok p ∧
      ((p.afterAll calls).feed d).answer = .error feedError ∧ p.Blames feedError ∧
      ((p.afterAll calls).result .firstOpened).answer = .error resultError ∧ p.Blames resultError ∧
      ((p.afterAll asked).feed d).answer = .error .finished ∧ Asked asked := by
  intro bad spec calls asked d feedError resultError
  let stages : List Stage := [
    .group ⟨.computed (.operand (.literal .null)),
      [("all", .reduce .last (.concat [.operand (.field ⟨"a", []⟩)]))]⟩ none,
    .unwind ⟨"all", []⟩]
  have hbad : build .default .empty bad = .error (.invalidStage "$group" .groupWithoutId) := rfl
  have hbuild : build .default .empty spec = .ok (start stages) := rfl
  have hfeed : (((start stages).afterAll calls).feed d).answer = .error feedError := rfl
  have hresult : (((start stages).afterAll calls).result .firstOpened).answer = .error resultError := rfl
  have hfinished : (((start stages).afterAll asked).feed d).answer = .error .finished := rfl
  have hkinds := (error_kinds .default .empty spec).2 _ hbuild
  refine ⟨(error_kinds .default .empty bad).1.resolve_left (by simp [hbad]), _, hbuild, hfeed, ?_, hresult,
    (hkinds calls).2 _ _ hresult, hfinished, ?_⟩
  · exact ((hkinds calls).1 _ _ hfeed).resolve_left nofun
  · exact (((hkinds asked).1 _ _ hfinished).resolve_right fun h => nomatch h.runtime).2

end Pipeline

end DocFlow
