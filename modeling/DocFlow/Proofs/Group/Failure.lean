import DocFlow.Pipeline
import DocFlow.Proofs.Group.Partition

/-!
# What a document that fails leaves in a group

A document fails in a group by its key, because there is no room for its bucket, or at an accumulator.  In the first two
cases the buckets stay.  In the last the bucket has been opened, and the accumulators before the one that fails have
taken the document in (`Accumulator.FailsAt`); other buckets stay (`Stage.push_group_failed`).  So a document that fails
counts in part, and leaving it out is not the same as never having fed it (`Pipeline.failed_document_counts`).
-/

namespace DocFlow

/-! ## Accumulators -/

namespace Accumulator

mutual

/-- On a document the accumulator fails with `e` and goes from one accumulation to another.  Most accumulators stay as
they were; in an object it is a field that fails. -/
inductive Fails (d : Document) (e : Error) : Scope → Accumulator → Accumulation → Accumulation → Prop
  | stays {scope : Scope} {a : Accumulator} {s : Accumulation} (h : a.step d scope s = .failure s e) :
    Fails d e scope a s s
  | object {scope : Scope} {fields : List (String × Accumulator)} {parts parts' : List Accumulation}
    (h : FailsAt d e (fun _ => scope) fields parts parts') :
    Fails d e scope (.object fields) (.object parts) (.object parts')

/-- On a document some field fails with `e`: the fields before it take the document in, those behind it do not. -/
inductive FailsAt (d : Document) (e : Error) :
    (String → Scope) → List (String × Accumulator) → List Accumulation → List Accumulation → Prop
  | here {scopeOf : String → Scope} {key : String} {a : Accumulator} {fields : List (String × Accumulator)}
    {s s' : Accumulation} {parts : List Accumulation} (h : Fails d e (scopeOf key) a s s') :
    FailsAt d e scopeOf ((key, a) :: fields) (s :: parts) (s' :: parts)
  | later {scopeOf : String → Scope} {key : String} {a : Accumulator} {fields : List (String × Accumulator)}
    {s s' : Accumulation} {parts parts' : List Accumulation} (hs : a.step d (scopeOf key) s = .success s' ())
    (h : FailsAt d e scopeOf fields parts parts') :
    FailsAt d e scopeOf ((key, a) :: fields) (s :: parts) (s' :: parts')

end

variable {d : Document} {e : Error} {scope : Scope}

theorem state_reduceStep {r : Reduction} {source : Expr} {s : Accumulation}
    (h : (reduceStep d scope r source s).answer = .error e) : (reduceStep d scope r source s).state = s := by
  unfold reduceStep at h ⊢
  split
  · rfl
  split
  · rfl
  split
  · rfl
  split
  · rfl
  · simp_all

/-- An accumulator whose accumulation stays. -/
theorem fails_of_state {a : Accumulator} {s : Accumulation} (h : (a.step d scope s).answer = .error e)
    (hs : (a.step d scope s).state = s) : Fails d e scope a s (a.step d scope s).state := by
  have hstep := Outcome.eq_failure h
  rw [hs] at hstep ⊢
  exact .stays hstep

mutual

theorem fails_of_step (d : Document) (scope : Scope) (e : Error) :
    ∀ (a : Accumulator) (s : Accumulation), (a.step d scope s).answer = .error e →
      Fails d e scope a s (a.step d scope s).state
  | .reduce _ _, _, h => fails_of_state h (state_reduceStep h)
  | .call f, s, h => by
    refine fails_of_state h ?_
    cases s with
    | call v =>
      unfold step at h ⊢
      split
      · rfl
      · simp_all
    | _ => rfl
  | .object fields, s, h => by
    cases s with
    | object parts =>
      rw [step_object] at h ⊢
      exact .object (failsAt_of_stepAll d _ e fields parts h)
    | _ => exact fails_of_state h rfl

theorem failsAt_of_stepAll (d : Document) (scopeOf : String → Scope) (e : Error) :
    ∀ (fields : List (String × Accumulator)) (parts : List Accumulation),
      (stepAll d scopeOf fields parts).answer = .error e →
      FailsAt d e scopeOf fields parts (stepAll d scopeOf fields parts).state
  | [], _, h => nomatch h
  | _ :: _, [], h => nomatch h
  | (key, a) :: fields, s :: parts, h => by
    match hs : (a.step d (scopeOf key) s).answer with
    | .error e' =>
      rw [stepAll_cons_of_error hs] at h ⊢
      obtain rfl := Except.error.inj h
      exact .here (fails_of_step d _ e' a s hs)
    | .ok () =>
      rw [stepAll_cons_of_ok hs] at h ⊢
      exact .later (Outcome.eq_success hs) (failsAt_of_stepAll d scopeOf e fields parts h)

end

mutual

theorem step_of_fails {d : Document} {e : Error} {scope : Scope} {a : Accumulator} {s s' : Accumulation} :
    Fails d e scope a s s' → a.step d scope s = .failure s' e
  | .stays h => h
  | .object h => by
    rw [step_object, stepAll_of_failsAt h]
    rfl

theorem stepAll_of_failsAt {d : Document} {e : Error} {scopeOf : String → Scope}
    {fields : List (String × Accumulator)} {parts parts' : List Accumulation} :
    FailsAt d e scopeOf fields parts parts' → stepAll d scopeOf fields parts = .failure parts' e
  | .here h => by
    have hs := step_of_fails h
    rw [stepAll_cons_of_error (congrArg Outcome.answer hs), hs]
    rfl
  | .later hs h => by
    rw [stepAll_cons_of_ok (congrArg Outcome.answer hs), hs, stepAll_of_failsAt h]
    rfl

end

end Accumulator

/-! ## Buckets -/

open Accumulator (FailsAt)

variable {d : Document} {e : Error} {g : Grouping} {cap : Option Nat} {bs : Buckets}

namespace Buckets

/-- The ways in which a document fails in the buckets of a group, and what the buckets are then. -/
inductive Failed (g : Grouping) (cap : Option Nat) (d : Document) (e : Error) (bs : Buckets) : Buckets → Prop
  | key (h : g.keyOf d = .error e) : Failed g cap d e bs bs
  | full {id : Value} (hid : g.keyOf d = .ok id) (hnew : Entries.get? id.key bs = none) (hfull : isFull cap bs = true)
    (he : e = overflow cap) : Failed g cap d e bs bs
  | field {id : Value} {parts : List Accumulation} (hid : g.keyOf d = .ok id)
    (hroom : Entries.get? id.key bs = none → isFull cap bs = false)
    (h : FailsAt d e Grouping.scopeOf g.fields (bucketOf g id bs).parts parts) :
    Failed g cap d e bs (Entries.put id.key { bucketOf g id bs with parts := parts } bs)

theorem failed_of_add (h : (add g cap d bs).answer = .error e) : Failed g cap d e bs (add g cap d bs).state := by
  cases hid : g.keyOf d with
  | error e' =>
    have hadd : add g cap d bs = .failure bs e' := by simp only [add, hid]
    rw [hadd] at h ⊢
    obtain rfl := Except.error.inj h
    exact .key hid
  | ok id =>
    by_cases hroom : Entries.get? id.key bs = none → isFull cap bs = false
    · rw [add_of_keyOf hid hroom] at h ⊢
      exact .field hid hroom (Accumulator.failsAt_of_stepAll d _ e g.fields _ h)
    · obtain ⟨hnew, hfull⟩ := Classical.not_imp.1 hroom
      have hfull : isFull cap bs = true := Bool.of_not_eq_false hfull
      have hadd : add g cap d bs = .failure bs (overflow cap) := by simp only [add, hid, hnew, hfull, if_true]
      rw [hadd] at h ⊢
      exact .full hid hnew hfull (Except.error.inj h).symm

namespace Failed

variable {bs' : Buckets}

/-- The buckets of other keys stay. -/
theorem get?_of_ne (h : Failed g cap d e bs bs') {k : String} (hk : ∀ id, g.keyOf d = .ok id → id.key ≠ k) :
    Entries.get? k bs' = Entries.get? k bs := by
  cases h with
  | key _ | full _ _ _ _ => rfl
  | field hid hroom hparts => exact Entries.get?_put_of_ne (hk _ hid) _ bs

/-- All buckets stay if there is no key, or no room, or if the accumulators before the one that fails stay in a bucket
that was open; and not otherwise. -/
theorem eq_iff (h : Failed g cap d e bs bs') :
    bs' = bs ↔ ∀ id, g.keyOf d = .ok id → Entries.get? id.key bs = none ∧ isFull cap bs = true ∨
      ∃ b, Entries.get? id.key bs = some b ∧ FailsAt d e Grouping.scopeOf g.fields b.parts b.parts := by
  cases h with
  | key herror =>
    refine iff_of_true rfl fun id hid => ?_
    rw [hid] at herror
    cases herror
  | full hid hnew hfull he =>
    refine iff_of_true rfl fun id hid' => .inl ?_
    obtain rfl := Except.ok.inj (hid.symm.trans hid')
    exact ⟨hnew, hfull⟩
  | @field id parts hid hroom hparts =>
    constructor
    · intro hstays id' hid'
      obtain rfl := Except.ok.inj (hid.symm.trans hid')
      have hb : Entries.get? id.key bs = some { bucketOf g id bs with parts := parts } := by
        rw [← Entries.get?_put_self id.key { bucketOf g id bs with parts := parts } bs, hstays]
      have hparts' : (bucketOf g id bs).parts = parts := by
        rw [bucketOf, hb]
        rfl
      exact .inr ⟨_, hb, by rwa [hparts'] at hparts⟩
    · intro hcond
      rcases hcond id hid with ⟨hnew, hfull⟩ | ⟨b, hb, hat⟩
      · simp [hroom hnew] at hfull
      · have hbucket : bucketOf g id bs = b := by rw [bucketOf, hb, Option.getD_some]
        rw [hbucket] at hparts ⊢
        have hsame : parts = b.parts := congrArg Outcome.state
          ((Accumulator.stepAll_of_failsAt hparts).symm.trans (Accumulator.stepAll_of_failsAt hat))
        rw [hsame]
        exact Entries.put_of_get? hb

end Failed

end Buckets

/-! ## Stages -/

/-- **What a document that fails leaves in a group.**  If its key fails or there is no room for its bucket, all buckets
stay.  If an accumulator fails, the bucket of the document is there, the accumulators before it have taken the document
in and those behind it have not; all other buckets stay.  So all buckets stay unless the document has opened its bucket,
or an accumulator before the one that fails has changed. -/
theorem Stage.push_group_failed (h : (push d (group g cap) bs).answer = .error e) :
    Buckets.Failed g cap d e bs (push d (group g cap) bs).state ∧
    (∀ k, (∀ id, g.keyOf d = .ok id → id.key ≠ k) →
      Entries.get? k (push d (group g cap) bs).state = Entries.get? k bs) ∧
    ((push d (group g cap) bs).state = bs ↔ ∀ id, g.keyOf d = .ok id →
      Entries.get? id.key bs = none ∧ Buckets.isFull cap bs = true ∨
      ∃ b, Entries.get? id.key bs = some b ∧ FailsAt d e Grouping.scopeOf g.fields b.parts b.parts) := by
  have hadd : (Buckets.add g cap d bs).answer = .error e := by
    change ((Buckets.add g cap d bs).answer >>= fun _ => pure (Output.pass [])) = .error e at h
    cases ho : (Buckets.add g cap d bs).answer with
    | ok _ =>
      rw [ho] at h
      cases h
    | error e' =>
      rw [ho] at h
      exact congrArg _ (Except.error.inj h)
  have hfailed := Buckets.failed_of_add hadd
  exact ⟨hfailed, fun k hk => hfailed.get?_of_ne hk, hfailed.eq_iff⟩

/-- A list takes in a value before the next one refuses it; the bucket stays open. -/
theorem Stage.push_group_failed_in_part :
    let source : Expr := .operand (.field ⟨"a", []⟩)
    let g : Grouping := ⟨.computed (.operand (.field ⟨"k", []⟩)),
      [("seen", .reduce .push source), ("all", .reduce .concatToList source)]⟩
    let d : Document := ⟨[("k", .string "b"), ("a", .string "x")]⟩
    let e : Error := .evaluation ⟨.group, "all"⟩ "$concatToList" (.sourceNotArray .string)
    let old : Bucket := ⟨.string "a", [.list [], .list []]⟩
    let bs : Buckets := [((Value.string "a").key, old)]
    let bs' : Buckets := bs ++ [((Value.string "b").key, ⟨.string "b", [.list [.string "x"], .list []]⟩)]
    push d (group g none) bs = .failure bs' e ∧ Buckets.Failed g none d e bs bs' ∧
      Entries.get? (Value.string "a").key bs' = some old := by
  intro source g d e old bs bs'
  have hpush : push d (group g none) bs = .failure bs' e := by rfl
  have h : (push d (group g none) bs).answer = .error e := congrArg Outcome.answer hpush
  obtain ⟨hfailed, hothers, -⟩ := push_group_failed h
  refine ⟨hpush, ?_, ?_⟩
  · rwa [hpush] at hfailed
  · have hne : ∀ id, g.keyOf d = .ok id → id.key ≠ (Value.string "a").key := by
      rintro _ ⟨⟩
      decide
    have hother := hothers _ hne
    rwa [hpush] at hother

/-- A document that fails in a group and is left out counts nevertheless: the result is not that of a pipeline which
has never been fed it. -/
theorem Pipeline.failed_document_counts :
    let spec : Json := .array [.object [("$group", .object [("_id", .null),
      ("seen", .object [("$push", .string "$a")]), ("all", .object [("$concatToList", .string "$a")])])]]
    let d : Document := ⟨[("a", .string "x")]⟩
    ∃ p, build .default .empty spec = .ok p ∧
      (p.feed d).answer = .error (.evaluation ⟨.group, "all"⟩ "$concatToList" (.sourceNotArray .string)) ∧
      ((p.feed d).state.result .firstOpened).answer =
        .ok [⟨[("_id", .null), ("seen", .array [.string "x"]), ("all", .array [])]⟩] ∧
      (p.result .firstOpened).answer = .ok [] := by
  exact ⟨_, rfl, rfl, rfl, rfl⟩

end DocFlow
