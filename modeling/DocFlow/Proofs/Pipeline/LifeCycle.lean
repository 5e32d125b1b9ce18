import DocFlow.Proofs.Chain.Limit
import DocFlow.Proofs.Error
import DocFlow.Proofs.Pipeline.Build
import DocFlow.Proofs.Pipeline.Calls

/-!
# The life of a pipeline

A pipeline takes documents in until a limit is met, leaves out all that follow, and refuses them once its result has been
asked for (`life_cycle`).  The result is that of a new chain which is fed the documents up to the limit and is then
drained once, also where documents fail (`answer_result_afterAll`); asked again, it is the same, or a copy of the same
error (`AnswersAlike`).
-/

namespace DocFlow.Pipeline

/-- Feeds documents one by one, whatever the answers. -/
def feedOn (p : Pipeline) (ds : List Document) : Pipeline := ds.foldl (fun p d => (p.feed d).state) p

/-- The documents of a list up to the first that is answered that a limit is met, and that one. -/
def untilLimit (p : Pipeline) : List Document → List Document
  | [] => []
  | d :: ds =>
    match (p.feed d).answer with
    | .ok .limit => [d]
    | _ => d :: (p.feed d).state.untilLimit ds

/-- The same documents, or errors that are alike. -/
def AnswersAlike : Except Error (List Document) → Except Error (List Document) → Prop
  | .ok ds, .ok ds' => ds = ds'
  | .error e, .error e' => e.Alike e'
  | _, _ => False

variable {p : Pipeline} {d : Document} {ds : List Document} {calls : List Call}

/-! ## The result when it is asked for again -/

theorem AnswersAlike.copy (answer : Except Error (List Document)) : AnswersAlike answer (copyAnswer answer) := by
  cases answer with
  | ok ds => exact rfl
  | error e => exact Error.Alike.copy e

theorem copyAnswer_copyAnswer {α : Type} (answer : Except Error α) :
    copyAnswer (copyAnswer answer) = copyAnswer answer := by
  cases answer with
  | ok a => rfl
  | error e => exact congrArg Except.error e.copy_copy

/-- What is kept as the result stays. -/
theorem answer_after_of_answered {kept : Except Error (List Document)} (ha : p.answer = some kept) (call : Call) :
    (p.after call).answer = some kept := by
  rcases after_cases call with ⟨d, -, h⟩ | ⟨order, rfl⟩ | ⟨-, -, h⟩
  · rw [h, answer_feed, ha]
  · exact (congrArg (·.state.answer) (result_of_answered ha order)).trans ha
  · rw [h, ha]

theorem answer_afterAll_of_answered {kept : Except Error (List Document)} (ha : p.answer = some kept)
    (calls : List Call) : (p.afterAll calls).answer = some kept :=
  afterAll_keeps (P := fun p => p.answer = some kept) (fun call _ _ ha => answer_after_of_answered ha call) ha

/-- The result asked for later is a copy of the first one. -/
theorem answer_result_again (ha : p.answer = none) (h h' : HandOut) (calls : List Call) :
    (((p.result h).state.afterAll calls).result h').answer = copyAnswer (p.result h).answer := by
  have hkept : (p.result h).state.answer = some (copyAnswer (p.result h).answer) := by
    rw [result_of_unanswered ha]
  rw [result_of_answered (answer_afterAll_of_answered hkept calls)]
  exact copyAnswer_copyAnswer _

theorem answersAlike_result (ha : p.answer = none) (h h' : HandOut) (calls : List Call) :
    AnswersAlike (p.result h).answer (((p.result h).state.afterAll calls).result h').answer := by
  rw [answer_result_again ha]
  exact .copy _

/-! ## The documents that count -/

theorem feedOn_cons (p : Pipeline) (d : Document) (ds : List Document) :
    p.feedOn (d :: ds) = (p.feed d).state.feedOn ds := rfl

theorem untilLimit_cons_of_limit (hd : (p.feed d).answer = .ok .limit) (ds : List Document) :
    p.untilLimit (d :: ds) = [d] := by
  simp only [untilLimit, hd]

theorem untilLimit_cons_of_ne (hd : (p.feed d).answer ≠ .ok .limit) (ds : List Document) :
    p.untilLimit (d :: ds) = d :: (p.feed d).state.untilLimit ds := by
  rw [untilLimit]
  split
  · next hlimit => exact absurd hlimit hd
  · rfl

/-- Once a limit is met, no document changes anything. -/
theorem feedOn_of_met (ha : p.answer = none) (hl : p.limitReached = true) (ds : List Document) :
    p.feedOn ds = p := by
  induction ds with
  | nil => rfl
  | cons d ds ih => rw [feedOn_cons, feed_of_met ha hl, Outcome.state_success, ih]

/-- Only the documents up to the limit count. -/
theorem feedOn_untilLimit (ha : p.answer = none) (ds : List Document) :
    p.feedOn (p.untilLimit ds) = p.feedOn ds := by
  induction ds generalizing p with
  | nil => rfl
  | cons d ds ih =>
    have hnext : (p.feed d).state.answer = none := by rw [answer_feed, ha]
    by_cases hd : (p.feed d).answer = .ok .limit
    · have hmet : (p.feed d).state.limitReached = true := (limitReached_feed p d).2 (.inr hd)
      rw [untilLimit_cons_of_limit hd, feedOn_cons, feedOn_cons]
      exact (feedOn_of_met hnext hmet ds).symm
    · rw [untilLimit_cons_of_ne hd, feedOn_cons, feedOn_cons, ih hnext]

/-- The documents up to the limit go into the chain one after the other, also those on which a stage fails. -/
theorem exists_feedOn_untilLimit (ha : p.answer = none) (hl : p.limitReached = false) (ds : List Document) :
    ∃ met, p.feedOn (p.untilLimit ds) =
      { p with state := Chain.feedOn p.stages (p.untilLimit ds) p.state, limitReached := met } := by
  induction ds generalizing p with
  | nil => exact ⟨p.limitReached, rfl⟩
  | cons d ds ih =>
    match ho : (Chain.feed p.stages d p.state).answer with
    | .error e =>
      have hfeed := feed_of_error ha hl ho
      rw [untilLimit_cons_of_ne (by simp [hfeed]), feedOn_cons, hfeed]
      exact ih ha hl
    | .ok .more =>
      have hfeed := feed_of_ok ha hl ho
      rw [untilLimit_cons_of_ne (by simp [hfeed]), feedOn_cons, hfeed]
      exact ih ha rfl
    | .ok .limit =>
      have hfeed := feed_of_ok ha hl ho
      rw [untilLimit_cons_of_limit (by simp [hfeed]), feedOn_cons, hfeed]
      exact ⟨true, rfl⟩

/-- Calls that do not ask for the result feed their documents. -/
theorem afterAll_of_not_asked (hasked : ¬ Asked calls) (p : Pipeline) :
    p.afterAll calls = p.feedOn (documents calls) := by
  induction calls generalizing p with
  | nil => rfl
  | cons call calls ih =>
    have hcalls : ¬ Asked calls := fun ⟨h, hmem⟩ => hasked ⟨h, List.mem_cons_of_mem _ hmem⟩
    change (p.after call).afterAll calls = _
    rcases after_cases call with ⟨d, hd, h⟩ | ⟨order, rfl⟩ | ⟨hd, -, h⟩
    · have hdocs : documents (call :: calls) = d :: documents calls := List.filterMap_cons_some hd
      rw [h, ih hcalls, hdocs, feedOn_cons]
    · exact absurd ⟨order, List.mem_cons_self⟩ hasked
    · have hdocs : documents (call :: calls) = documents calls := List.filterMap_cons_none hd
      rw [h, ih hcalls, hdocs]

/-- The result of a pipeline that has not been asked before is that of its chain, fed the documents up to the limit
and then drained. -/
theorem answer_result_afterAll (ha : p.answer = none) (hl : p.limitReached = false) (hasked : ¬ Asked calls)
    (h : HandOut) :
    ((p.afterAll calls).result h).answer =
      (Chain.drain h p.stages (Chain.feedOn p.stages (p.untilLimit (documents calls)) p.state)).answer := by
  obtain ⟨met, hfed⟩ := exists_feedOn_untilLimit ha hl (documents calls)
  rw [afterAll_of_not_asked hasked, ← feedOn_untilLimit ha, hfed, result_of_unanswered]
  exact ha

/-! ## All calls -/

/-- **The life of a pipeline.**  A pipeline that has been built is used by calls in any order.

* A limit is met from the first call on that is answered so.
* From then on, until the result is asked for, documents are answered so and change nothing.
* Once the result has been asked for, documents are refused and change nothing.
* The result asked for later is the same as the first, or an error that is alike.
* The first result is that of the pipeline as it was built, fed the documents up to the limit; and that of its chain,
  fed these and drained once. -/
theorem life_cycle {options : Options} {registry : Registry} {spec : Json} (hb : build options registry spec = .ok p) :
    (∀ calls, (p.afterAll calls).limitReached = true ↔ p.MetLimit calls) ∧
    (∀ calls d, ¬ Asked calls → p.MetLimit calls →
      (p.afterAll calls).feed d = .success (p.afterAll calls) .limit) ∧
    (∀ calls d, Asked calls → (p.afterAll calls).feed d = .failure (p.afterAll calls) .finished) ∧
    (∀ calls more h h', ¬ Asked calls → AnswersAlike ((p.afterAll calls).result h).answer
      ((p.afterAll (calls ++ .result h :: more)).result h').answer) ∧
    ∀ calls h, ¬ Asked calls →
      ((p.afterAll calls).result h).answer =
        ((p.feedOn (p.untilLimit (documents calls))).result h).answer ∧
      ((p.afterAll calls).result h).answer = (Chain.drain h p.stages
        (Chain.feedOn p.stages (p.untilLimit (documents calls)) (Chain.initial p.stages))).answer := by
  obtain ⟨stages, rfl, -⟩ := parsed_of_build hb
  have hunasked {calls : List Call} (hasked : ¬ Asked calls) : ((start stages).afterAll calls).answer = none := by
    rw [← Option.not_isSome_iff_eq_none, isSome_answer_afterAll]
    simpa [start] using hasked
  have hmet (calls : List Call) :
      ((start stages).afterAll calls).limitReached = true ↔ (start stages).MetLimit calls := by
    rw [limitReached_afterAll]
    simp [start]
  refine ⟨hmet, ?_, ?_, ?_, ?_⟩
  · intro calls d hasked hlimit
    exact feed_of_met (hunasked hasked) ((hmet calls).2 hlimit) d
  · intro calls d hasked
    exact feed_of_answered ((isSome_answer_afterAll _ _).2 (.inr hasked)) d
  · intro calls more h h' hasked
    rw [afterAll_append]
    exact answersAlike_result (hunasked hasked) h h' more
  · intro calls h hasked
    refine ⟨?_, answer_result_afterAll rfl rfl hasked h⟩
    rw [afterAll_of_not_asked hasked, feedOn_untilLimit rfl]

/-- The result fails in a stage behind the limit that was met, and stays a failure. -/
theorem life_cycle_failed :
    let spec : Json := .array [.object [("$limit", .number (.int 1))],
      .object [("$group", .object [("_id", .null), ("all", .object [("$first", .string "$a")])])],
      .object [("$unwind", .string "$all")]]
    let x : Document := ⟨[("a", .string "x")]⟩
    let y : Document := ⟨[("a", .string "y")]⟩
    let e : Error := .evaluation ⟨.unwind, "all"⟩ "$unwind" (.notUnwindable .string)
    let calls : List Call := [.feed x, .feed y]
    let asked : List Call := calls ++ [.result .firstOpened, .feed x]
    ∃ p, build .default .empty spec = .ok p ∧ ¬ Asked calls ∧ p.MetLimit calls ∧
      (p.afterAll calls).limitReached = true ∧ (p.afterAll calls).feed x = .success (p.afterAll calls) .limit ∧
      Asked asked ∧ (p.afterAll asked).feed x = .failure (p.afterAll asked) .finished ∧
      ((p.afterAll calls).result .firstOpened).answer = .error e ∧
      AnswersAlike (.error e) ((p.afterAll asked).result .firstOpened).answer ∧
      ((p.feedOn (p.untilLimit (documents calls))).result .firstOpened).answer = .error e := by
  intro spec x y e calls asked
  let stages : List Stage := [.limit 1,
    .group ⟨.computed (.operand (.literal .null)), [("all", .reduce .first (.operand (.field ⟨"a", []⟩)))]⟩ none,
    .unwind ⟨"all", []⟩]
  have hbuild : build .default .empty spec = .ok (start stages) := rfl
  obtain ⟨hmet, hleft, hrefused, hsticky, hfirst⟩ := life_cycle hbuild
  have hunasked : ¬ Asked calls := by simp [Asked, calls]
  have hlimit : (start stages).MetLimit calls := ⟨[.feed x], .feed y, [], y, rfl, rfl, rfl⟩
  have hasked : Asked asked := ⟨.firstOpened, by simp [asked]⟩
  have herror : (((start stages).afterAll calls).result .firstOpened).answer = .error e := rfl
  exact ⟨start stages, hbuild, hunasked, hlimit, (hmet calls).2 hlimit, hleft calls x hunasked hlimit, hasked,
    hrefused asked x hasked, herror, herror ▸ hsticky calls [.feed x] .firstOpened .firstOpened hunasked,
    (hfirst calls .firstOpened hunasked).1.symm.trans herror⟩

end DocFlow.Pipeline
