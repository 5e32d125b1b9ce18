import DocFlow.Proofs.Chain.Limit

/-!
# Documents that fail in a chain

A filter, a projection, a sort and a skip change what they remember only if they keep the document to themselves
(`Stage.Steady`).  In a chain of such stages a document that fails leaves everything as it was, in whatever stage it
fails, and a run over many documents ends as if those that fail had never been fed (`feed_atomic`).
-/

namespace DocFlow

namespace Stage

/-- The stages that change what they remember only if they pass nothing on, and pass on one document at most. -/
def Steady : Stage → Prop
  | filter _ | project _ | sort _ | skip _ => True
  | _ => False

/-- A steady stage fails, keeps the document or passes one on; it only changes if it keeps the document. -/
theorem push_cases {s : Stage} (hs : s.Steady) (d : Document) (m : s.Memory) :
    (∃ e, s.push d m = .failure m e) ∨ (∃ m', s.push d m = .success m' (.pass [])) ∨
      ∃ d', s.push d m = .success m (.pass [d']) := by
  cases s with
  | filter q =>
    cases hq : q.accepts d with
    | error e => exact .inl ⟨e, by simp [push, hq, Outcome.failure]⟩
    | ok accepted =>
      cases accepted with
      | true => exact .inr (.inr ⟨d, by simp [push, hq, Outcome.success]⟩)
      | false => exact .inr (.inl ⟨m, by simp [push, hq, Outcome.success]⟩)
  | project p =>
    cases hp : p.apply d with
    | error e => exact .inl ⟨e, by simp [push, hp, Outcome.failure]⟩
    | ok d' => exact .inr (.inr ⟨d', by simp [push, hp, Outcome.success]⟩)
  | sort keys => exact .inr (.inl ⟨insertSorted keys d m, rfl⟩)
  | skip count =>
    rcases Nat.lt_or_ge m count with hm | hm
    · exact .inr (.inl ⟨_, push_skip_of_lt hm⟩)
    · exact .inr (.inr ⟨d, push_skip_of_le hm⟩)
  | _ => cases hs

end Stage

theorem Station.fed_eq_self {s : Stage} {station : Station s} {d : Document}
    (h : (s.push d station.memory).state = station.memory) : station.fed d = station := by
  rw [fed, h]

namespace Chain

variable {stages : List Stage} {state : State stages} {d : Document} {e : Error}

theorem feedEach_singleton {σ : Type} (step : Document → σ → Outcome σ Flow) (d : Document) (state : σ) :
    feedEach step [d] state = step d state := by
  match ho : (step d state).answer with
  | .error e => exact feedEach_cons_of_error ho
  | .ok .limit => exact feedEach_cons_of_limit ho
  | .ok .more =>
    rw [feedEach_cons_of_more ho]
    exact (Outcome.eq_success ho).symm

/-- A document that fails in a chain of steady stages leaves the chain as it was. -/
theorem state_feed_of_error (hs : ∀ s ∈ stages, s.Steady) (he : (feed stages d state).answer = .error e) :
    (feed stages d state).state = state := by
  induction stages generalizing d with
  | nil => cases he
  | cons s rest ih =>
    obtain ⟨station, state⟩ := state
    obtain ⟨hfirst, hrest⟩ := List.forall_mem_cons.1 hs
    rcases Stage.push_cases hfirst d station.memory with ⟨e', hp⟩ | ⟨m', hp⟩ | ⟨d', hp⟩
    · have hfed : station.fed d = station := Station.fed_eq_self (congrArg Outcome.state hp)
      rw [feed_of_error (congrArg Outcome.answer hp), hfed]
      rfl
    · -- the document goes no further, so nothing can fail
      rw [feed_of_pass (congrArg Outcome.answer hp)] at he
      cases he
    · have hfed : station.fed d = station := Station.fed_eq_self (congrArg Outcome.state hp)
      rw [feed_of_pass (congrArg Outcome.answer hp), feedEach_singleton] at he ⊢
      show (station.fed d, (feed rest d' state).state) = (station, state)
      rw [hfed, ih hrest he]

/-! ## Runs -/

/-- The documents of a list that are taken in without an error, if all are fed one after the other. -/
def taken (stages : List Stage) : List Document → State stages → List Document
  | [], _ => []
  | d :: ds, state =>
    match (feed stages d state).answer with
    | .ok _ => d :: taken stages ds (feed stages d state).state
    | .error _ => taken stages ds (feed stages d state).state

/-- **A document that fails leaves no trace.**  In any state of a chain of filters, projections, sorts and skips, feeding
a document that fails changes nothing: no count, no document held back, no mark of a drained stage and no document at
the end.  So feeding many documents, whatever the answers, is feeding those that do not fail. -/
theorem feed_atomic (hs : ∀ s ∈ stages, s.Steady) (state : State stages) :
    (∀ d e, (feed stages d state).answer = .error e → (feed stages d state).state = state) ∧
    ∀ ds, feedOn stages ds state = feedOn stages (taken stages ds state) state := by
  refine ⟨fun d e => state_feed_of_error hs, fun ds => ?_⟩
  induction ds generalizing state with
  | nil => rfl
  | cons d ds ih =>
    show feedOn stages ds (feed stages d state).state = _
    rw [ih]
    cases ho : (feed stages d state).answer with
    | error e => simp only [taken, ho, state_feed_of_error hs ho]
    | ok flow =>
      simp only [taken, ho]
      rfl

/-- A filter fails behind a skip and a projection that have let the document through. -/
theorem feed_atomic_filter :
    let field (key : String) : Operand := .field ⟨key, []⟩
    let stages : List Stage := [.skip 1,
      .project (.compute [("tag", .operand (field "tag")), ("tags", .operand (field "tags"))]),
      .filter (.field ⟨"tag", []⟩ [.among (field "tags")]), .sort [⟨⟨"tag", []⟩, true⟩]]
    let first : Document := ⟨[("tag", .string "a")]⟩
    let good : Document := ⟨[("tag", .string "a"), ("tags", .array [.string "a"])]⟩
    let bad : Document := ⟨[("tag", .string "b"), ("tags", .string "b")]⟩
    let state := feedOn stages [first, good] (initial stages)
    (∀ s ∈ stages, s.Steady) ∧
    (feed stages bad state).answer = .error (.evaluation ⟨.filter, "tag"⟩ "$in" (.operandNotArray .string)) ∧
    (feed stages bad state).state = state ∧
    feedOn stages [first, bad, good, bad] (initial stages) = state := by
  intro field stages first good bad state
  have hs : ∀ s ∈ stages, s.Steady := by simp [stages, Stage.Steady]
  have hbad : (feed stages bad state).answer =
      .error (.evaluation ⟨.filter, "tag"⟩ "$in" (.operandNotArray .string)) := rfl
  exact ⟨hs, hbad, (feed_atomic hs state).1 bad _ hbad, (feed_atomic hs (initial stages)).2 _⟩

end Chain

end DocFlow
