import DocFlow.Proofs.Pipeline.LifeCycle

/-!
# A failure that is reported again

A pipeline keeps a copy of the error by which its result has failed, and hands out copies of that copy.  A copy says what
the error says, with the causes of a host failure behind it; so the failure is reported again in the same words if it has
no causes, and only then (`result_again`).  Where a host function tells its causes, the second report is longer than the
first (`later_report_longer`).
-/

namespace DocFlow.Pipeline

variable {options : Options} {registry : Registry} {spec : Json} {p : Pipeline} {calls : List Call} {e : Error}

theorem answer_afterAll_of_not_asked (hb : build options registry spec = .ok p) (hasked : ¬ Asked calls) :
    (p.afterAll calls).answer = none := by
  obtain ⟨stages, rfl, -⟩ := parsed_of_build hb
  rw [← Option.not_isSome_iff_eq_none, isSome_answer_afterAll]
  simpa [start] using hasked

/-- **A failure that is reported again.**  If the first result of a pipeline that has been built fails, then every later
one fails, whatever calls come in between: with a copy of the first error, whose message is that of the first error with
its causes behind it.  So the messages are the same if the error has no causes, and only then. -/
theorem result_again (hb : build options registry spec = .ok p) (hasked : ¬ Asked calls) {h : HandOut}
    (he : ((p.afterAll calls).result h).answer = .error e) (more : List Call) (h' : HandOut) :
    ((p.afterAll (calls ++ .result h :: more)).result h').answer = .error e.copy ∧
      e.copy.message = e.message ++ e.trail ∧ (e.copy.message = e.message ↔ e.causes = []) := by
  refine ⟨?_, e.message_copy, Error.message_copy_eq_iff⟩
  have hagain := answer_result_again (answer_afterAll_of_not_asked hb hasked) h h' more
  rw [he] at hagain
  rw [afterAll_append]
  exact hagain

/-- A host function that fails in its own words only, behind a sort. -/
theorem result_again_plain :
    let registry := Registry.empty.withMatcher "refuse" fun _ _ => .error ⟨"refused", []⟩
    let spec : Json := .array [.object [("$sort", .object [("a", .number (.int 1))])],
      .object [("$match", .object [("$call", .string "refuse")])]]
    let calls : List Call := [.feed ⟨[("a", .string "x")]⟩]
    let e : Error := .host ⟨.filter, "refuse"⟩ "$call" ⟨"refused", []⟩
    ∃ p, build .default registry spec = .ok p ∧ ¬ Asked calls ∧
      ((p.afterAll calls).result .firstOpened).answer = .error e ∧
      ((p.afterAll (calls ++ [.result .firstOpened, .feed ⟨[]⟩])).result .firstOpened).answer = .error e.copy ∧
      e.copy.message = e.message := by
  intro registry spec calls e
  have hb : ∃ p, build .default registry spec = .ok p := ⟨_, rfl⟩
  obtain ⟨p, hp⟩ := hb
  have hasked : ¬ Asked calls := by simp [Asked, calls]
  have he : ((p.afterAll calls).result .firstOpened).answer = .error e := by
    obtain rfl := Except.ok.inj hp
    rfl
  obtain ⟨hagain, -, hsame⟩ := result_again hp hasked he [.feed ⟨[]⟩] .firstOpened
  exact ⟨p, hp, hasked, he, hagain, hsame.2 rfl⟩

/-- A host function that tells the cause of its failure: the second report is not in the words of the first. -/
theorem later_report_longer :
    let registry := Registry.empty.withMatcher "chain" fun _ _ => .error ⟨"outer", ["inner"]⟩
    let spec : Json := .array [.object [("$sort", .object [("i", .number (.int 1))])],
      .object [("$match", .object [("$call", .string "chain")])]]
    let calls : List Call := [.feed ⟨[("i", .number 1)]⟩]
    ∃ p first later, build .default registry spec = .ok p ∧
      ((p.afterAll calls).result .firstOpened).answer = .error first ∧
      ((p.afterAll (calls ++ [.result .firstOpened])).result .firstOpened).answer = .error later ∧
      first.message = "Callback failed in $match:$call key=chain: outer" ∧
      later.message = "Callback failed in $match:$call key=chain: outer: inner" ∧ later.message ≠ first.message := by
  refine ⟨_, .host ⟨.filter, "chain"⟩ "$call" ⟨"outer", ["inner"]⟩,
    .host ⟨.filter, "chain"⟩ "$call" ⟨"outer: inner", []⟩, rfl, rfl, ?_, rfl, rfl, by decide⟩
  rfl

end DocFlow.Pipeline
