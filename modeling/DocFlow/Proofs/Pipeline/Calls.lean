import DocFlow.Pipeline
import DocFlow.Proofs.Outcome
import Mathlib.Data.List.Induction

/-!
# Uses of a pipeline

A pipeline is used by calls one after the other, in any order (`Call`, `afterAll`).  Each call is one step of a
machine with three phases: the pipeline takes documents in, it has met a limit and leaves documents out, or it has made
its result and refuses documents.

* `limitReached_afterAll` — a limit is met from the first call on that was answered so;
* `isSome_answer_afterAll` — the result is there from the first call on that asked for it.
-/

namespace DocFlow.Pipeline

open DocFlow.Except (FailsOnly)

inductive Call where
  | feed (d : Document)
  | feedJson (j : Json)
  | result (h : HandOut)

def after (p : Pipeline) : Call → Pipeline
  | .feed d => (p.feed d).state
  | .feedJson j => (p.feedJson j).state
  | .result h => (p.result h).state

/-- The pipeline after calls one after the other. -/
def afterAll (p : Pipeline) (calls : List Call) : Pipeline := calls.foldl after p

def Call.document? : Call → Option Document
  | feed d => some d
  | feedJson j => (Document.ofJson j).toOption
  | result _ => none

def documents (calls : List Call) : List Document := calls.filterMap Call.document?

/-- Some call asks for the result. -/
def Asked (calls : List Call) : Prop := ∃ h, .result h ∈ calls

/-- Some call feeds a document and is answered that a limit is met. -/
def MetLimit (p : Pipeline) (calls : List Call) : Prop :=
  ∃ before call behind d, calls = before ++ call :: behind ∧ call.document? = some d ∧
    ((p.afterAll before).feed d).answer = .ok .limit

variable {p : Pipeline} {d : Document} {call : Call} {calls : List Call}

/-! ## What one call does -/

section Step

theorem feed_of_answered (ha : p.answer.isSome = true) (d : Document) : p.feed d = .failure p .finished :=
  if_pos ha

theorem feed_of_met (ha : p.answer = none) (hl : p.limitReached = true) (d : Document) :
    p.feed d = .success p .limit := by
  simp [feed, ha, hl]

theorem feed_of_error {e : Error} (ha : p.answer = none) (hl : p.limitReached = false)
    (he : (Chain.feed p.stages d p.state).answer = .error e) :
    p.feed d = .failure { p with state := (Chain.feed p.stages d p.state).state } e := by
  simp [feed, ha, hl, he]

theorem feed_of_ok {flow : Flow} (ha : p.answer = none) (hl : p.limitReached = false)
    (hflow : (Chain.feed p.stages d p.state).answer = .ok flow) :
    p.feed d = .success { p with
      state := (Chain.feed p.stages d p.state).state, limitReached := flow = .limit } flow := by
  simp [feed, ha, hl, hflow]

theorem result_of_answered {kept : Except Error (List Document)} (ha : p.answer = some kept) (h : HandOut) :
    p.result h = ⟨p, copyAnswer kept⟩ := by
  simp only [result, ha]

theorem result_of_unanswered (ha : p.answer = none) (h : HandOut) :
    p.result h = ⟨{ p with
      state := (Chain.drain h p.stages p.state).state,
      answer := some (copyAnswer (Chain.drain h p.stages p.state).answer) },
      (Chain.drain h p.stages p.state).answer⟩ := by
  simp only [result, ha]

/-- What feeding a document does, in each of the phases. -/
theorem feed_cases (p : Pipeline) (d : Document) :
    (p.answer.isSome = true ∧ p.feed d = .failure p .finished) ∨
    (p.answer = none ∧ p.limitReached = true ∧ p.feed d = .success p .limit) ∨
    (p.answer = none ∧ p.limitReached = false ∧
      ((∃ e, (Chain.feed p.stages d p.state).answer = .error e ∧
        p.feed d = .failure { p with state := (Chain.feed p.stages d p.state).state } e) ∨
      ∃ flow, (Chain.feed p.stages d p.state).answer = .ok flow ∧
        p.feed d = .success { p with
          state := (Chain.feed p.stages d p.state).state, limitReached := flow = .limit } flow)) := by
  by_cases ha : p.answer.isSome = true
  · exact .inl ⟨ha, feed_of_answered ha d⟩
  · have ha : p.answer = none := Option.not_isSome_iff_eq_none.1 ha
    by_cases hl : p.limitReached = true
    · exact .inr (.inl ⟨ha, hl, feed_of_met ha hl d⟩)
    · have hl : p.limitReached = false := Bool.eq_false_iff.2 hl
      refine .inr (.inr ⟨ha, hl, ?_⟩)
      cases ho : (Chain.feed p.stages d p.state).answer with
      | error e => exact .inl ⟨e, rfl, feed_of_error ha hl ho⟩
      | ok flow => exact .inr ⟨flow, rfl, feed_of_ok ha hl ho⟩

@[simp] theorem answer_feed (p : Pipeline) (d : Document) : (p.feed d).state.answer = p.answer := by
  rcases feed_cases p d with ⟨-, h⟩ | ⟨-, -, h⟩ | ⟨-, -, ⟨e, -, h⟩ | ⟨flow, -, h⟩⟩ <;> rw [h] <;> rfl

@[simp] theorem limitReached_feed (p : Pipeline) (d : Document) :
    (p.feed d).state.limitReached = true ↔ p.limitReached = true ∨ (p.feed d).answer = .ok .limit := by
  rcases feed_cases p d with ⟨-, h⟩ | ⟨-, hl, h⟩ | ⟨-, hl, ⟨e, -, h⟩ | ⟨flow, -, h⟩⟩
  · simp [h]
  · simp [h, hl]
  · simp [h, hl]
  · simp [h, hl]

theorem isSome_answer_result (p : Pipeline) (h : HandOut) : (p.result h).state.answer.isSome = true := by
  cases ha : p.answer with
  | none =>
    rw [result_of_unanswered ha]
    rfl
  | some kept =>
    rw [result_of_answered ha]
    simp [ha]

theorem limitReached_result (p : Pipeline) (h : HandOut) :
    (p.result h).state.limitReached = p.limitReached := by
  cases ha : p.answer with
  | none => rw [result_of_unanswered ha]
  | some kept => rw [result_of_answered ha]

theorem stages_feed (p : Pipeline) (d : Document) : (p.feed d).state.stages = p.stages := by
  rcases feed_cases p d with ⟨-, h⟩ | ⟨-, -, h⟩ | ⟨-, -, ⟨e, -, h⟩ | ⟨flow, -, h⟩⟩ <;> rw [h] <;> rfl

theorem stages_result (p : Pipeline) (h : HandOut) : (p.result h).state.stages = p.stages := by
  cases ha : p.answer with
  | none => rw [result_of_unanswered ha]
  | some kept => rw [result_of_answered ha]

end Step

/-- A call feeds a document, asks for the result, or changes nothing. -/
theorem after_cases (call : Call) :
    (∃ d, call.document? = some d ∧ ∀ p : Pipeline, p.after call = (p.feed d).state) ∨
    (∃ h, call = .result h) ∨
    (call.document? = none ∧ (∀ h, call ≠ .result h) ∧ ∀ p : Pipeline, p.after call = p) := by
  cases call with
  | feed d => exact .inl ⟨d, rfl, fun _ => rfl⟩
  | result h => exact .inr (.inl ⟨h, rfl⟩)
  | feedJson j =>
    cases hj : Document.ofJson j with
    | ok d => exact .inl ⟨d, by simp [Call.document?, hj, Except.toOption], fun p => by simp [after, feedJson, hj]⟩
    | error e =>
      exact .inr (.inr ⟨by simp [Call.document?, hj, Except.toOption], nofun, fun p => by simp [after, feedJson, hj]⟩)

theorem limitReached_after (p : Pipeline) (call : Call) :
    (p.after call).limitReached = true ↔
      p.limitReached = true ∨ ∃ d, call.document? = some d ∧ (p.feed d).answer = .ok .limit := by
  rcases after_cases call with ⟨d, hd, h⟩ | ⟨order, rfl⟩ | ⟨hd, -, h⟩
  · simp [h, hd]
  · simp [after, limitReached_result, Call.document?]
  · simp [h, hd]

theorem isSome_answer_after (p : Pipeline) (call : Call) :
    (p.after call).answer.isSome = true ↔ p.answer.isSome = true ∨ ∃ h, call = .result h := by
  rcases after_cases call with ⟨d, hd, h⟩ | ⟨order, rfl⟩ | ⟨-, hr, h⟩
  · have hr : ∀ h, call ≠ .result h := by
      rintro h rfl
      cases hd
    simp [h, hr]
  · simp [after, isSome_answer_result]
  · simp [h, hr]

/-! ## Calls one after the other -/

theorem afterAll_append (p : Pipeline) (calls more : List Call) :
    p.afterAll (calls ++ more) = (p.afterAll calls).afterAll more := List.foldl_append

theorem afterAll_concat (p : Pipeline) (calls : List Call) (call : Call) :
    p.afterAll (calls ++ [call]) = (p.afterAll calls).after call := afterAll_append p calls [call]

/-- What each of the calls keeps, all of them keep. -/
theorem afterAll_keeps {P : Pipeline → Prop} (hcall : ∀ call ∈ calls, ∀ p, P p → P (p.after call)) (hp : P p) :
    P (p.afterAll calls) := by
  induction calls generalizing p with
  | nil => exact hp
  | cons call calls ih =>
    obtain ⟨hfirst, hcalls⟩ := List.forall_mem_cons.1 hcall
    exact ih hcalls (hfirst p hp)

theorem asked_concat : Asked (calls ++ [call]) ↔ Asked calls ∨ ∃ h, call = .result h := by
  simp [Asked, exists_or, eq_comm]

theorem metLimit_concat : p.MetLimit (calls ++ [call]) ↔
    p.MetLimit calls ∨ ∃ d, call.document? = some d ∧ ((p.afterAll calls).feed d).answer = .ok .limit := by
  constructor
  · rintro ⟨before, c, behind, d, hcalls, hd, hlimit⟩
    rcases List.eq_nil_or_concat behind with rfl | ⟨behind, last, rfl⟩
    · obtain ⟨rfl, hc⟩ := List.append_inj' hcalls rfl
      obtain rfl := List.singleton_inj.1 hc
      exact .inr ⟨d, hd, hlimit⟩
    · rw [List.concat_eq_append, ← List.cons_append, ← List.append_assoc] at hcalls
      obtain ⟨rfl, -⟩ := List.append_inj' hcalls rfl
      exact .inl ⟨before, c, behind, d, rfl, hd, hlimit⟩
  · rintro (⟨before, c, behind, d, rfl, hd, hlimit⟩ | ⟨d, hd, hlimit⟩)
    · exact ⟨before, c, behind ++ [call], d, by simp, hd, hlimit⟩
    · exact ⟨calls, call, [], d, rfl, hd, hlimit⟩

/-- A limit is met from the first call on that was answered so. -/
theorem limitReached_afterAll (p : Pipeline) (calls : List Call) :
    (p.afterAll calls).limitReached = true ↔ p.limitReached = true ∨ p.MetLimit calls := by
  induction calls using List.reverseRecOn with
  | nil =>
    have hnone : ¬ p.MetLimit [] := by
      rintro ⟨before, call, behind, d, hcalls, -⟩
      simp at hcalls
    simp [afterAll, hnone]
  | append_singleton calls call ih =>
    rw [afterAll_concat, limitReached_after, ih, metLimit_concat, or_assoc]

/-- The result is there from the first call on that asked for it. -/
theorem isSome_answer_afterAll (p : Pipeline) (calls : List Call) :
    (p.afterAll calls).answer.isSome = true ↔ p.answer.isSome = true ∨ Asked calls := by
  induction calls using List.reverseRecOn with
  | nil => simp [afterAll, Asked]
  | append_singleton calls call ih => rw [afterAll_concat, isSome_answer_after, ih, asked_concat, or_assoc]

/-! ## Errors of the chain -/

/-- A document is refused because the result is there, or with an error of the chain. -/
theorem failsOnly_feed_of_chain {Q : Error → Prop} (h : FailsOnly Q (Chain.feed p.stages d p.state).answer) :
    FailsOnly (fun e => e = .finished ∧ p.answer.isSome = true ∨ Q e) (p.feed d).answer := by
  rcases feed_cases p d with ⟨ha, hf⟩ | ⟨-, -, hf⟩ | ⟨-, -, ⟨e, he, hf⟩ | ⟨flow, -, hf⟩⟩ <;> rw [hf]
  · exact .error (.inl ⟨rfl, ha⟩)
  · exact .ok _
  · exact .error (.inr (h e he))
  · exact .ok _

/-- The answer that is kept is a copy of what draining the chain has answered, after some of the calls. -/
theorem exists_drain_of_answer {kept : Except Error (List Document)} (hp : p.answer = none)
    (h : (p.afterAll calls).answer = some kept) :
    ∃ before order,
      copyAnswer (Chain.drain order (p.afterAll before).stages (p.afterAll before).state).answer = kept := by
  induction calls using List.reverseRecOn with
  | nil =>
    rw [afterAll, List.foldl_nil, hp] at h
    cases h
  | append_singleton calls call ih =>
    rw [afterAll_concat] at h
    rcases after_cases call with ⟨d, -, hafter⟩ | ⟨order, rfl⟩ | ⟨-, -, hafter⟩
    · rw [hafter, answer_feed] at h
      exact ih h
    · change ((p.afterAll calls).result order).state.answer = some kept at h
      cases ha : (p.afterAll calls).answer with
      | none =>
        rw [result_of_unanswered ha] at h
        exact ⟨calls, order, Option.some.inj h⟩
      | some first =>
        rw [result_of_answered ha] at h
        exact ih h
    · rw [hafter] at h
      exact ih h

/-- What copies of errors keep, copies of answers keep. -/
theorem failsOnly_copyAnswer {α : Type} {Q : Error → Prop} {answer : Except Error α} (hcopy : ∀ e, Q e → Q e.copy)
    (h : FailsOnly Q answer) : FailsOnly Q (copyAnswer answer) := by
  cases answer with
  | ok a => exact .ok _
  | error e => exact .error (hcopy e (h e rfl))

end DocFlow.Pipeline
