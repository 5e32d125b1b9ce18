import DocFlow.Proofs.Chain.Batch

/-!
# Building a pipeline and feeding it

Every stage of a pipeline has been read from a part of its specification (`parsed_of_build`), and a stage is
read by its name (`Stage.parse_cases`).  A pipeline that takes in documents feeds them to its chain
(`exists_feedEach_of_feedAll`).
-/

namespace DocFlow

/-! ## Reading -/

/-- What reading a stage gives, by its name. -/
theorem Stage.parse_cases {ctx : Context} {cap : Option Nat} {j : Json} {s : Stage}
    (h : Stage.parse ctx cap j = .ok s) :
    (∃ j q, Query.parse ctx j = .ok q ∧ s = .filter q) ∨
    (∃ j p, Projection.parse ctx j = .ok p ∧ s = .project p) ∨
    (∃ j g, Grouping.parse ctx j = .ok g ∧ s = .group g cap) ∨
    (∃ j keys, SortKey.parse j = .ok keys ∧ s = .sort keys) ∨
    (∃ count, s = .skip count) ∨ (∃ count, s = .limit count) ∨ ∃ path, s = .unwind path := by
  unfold Stage.parse at h
  split at h
  · unfold parseNamed at h
    split at h
    case h_1 =>
      obtain ⟨q, hq, h⟩ := Except.bind_eq_ok.1 h
      exact .inl ⟨_, q, hq, (Except.ok.inj h).symm⟩
    case h_2 =>
      obtain ⟨p, hp, h⟩ := Except.bind_eq_ok.1 h
      exact .inr (.inl ⟨_, p, hp, (Except.ok.inj h).symm⟩)
    case h_3 =>
      obtain ⟨g, hg, h⟩ := Except.bind_eq_ok.1 h
      exact .inr (.inr (.inl ⟨_, g, hg, (Except.ok.inj h).symm⟩))
    case h_4 =>
      obtain ⟨keys, hkeys, h⟩ := Except.bind_eq_ok.1 h
      exact .inr (.inr (.inr (.inl ⟨_, keys, hkeys, (Except.ok.inj h).symm⟩)))
    case h_5 =>
      obtain ⟨n, _, h⟩ := Except.bind_eq_ok.1 h
      exact .inr (.inr (.inr (.inr (.inl ⟨n, (Except.ok.inj h).symm⟩))))
    case h_6 =>
      obtain ⟨n, _, h⟩ := Except.bind_eq_ok.1 h
      exact .inr (.inr (.inr (.inr (.inr (.inl ⟨n, (Except.ok.inj h).symm⟩)))))
    case h_7 =>
      obtain ⟨path, _, h⟩ := Except.bind_eq_ok.1 h
      exact .inr (.inr (.inr (.inr (.inr (.inr ⟨path, (Except.ok.inj h).symm⟩)))))
    case h_8 => cases h
  · cases h
  · cases h

theorem Chain.exists_parse_of_mem {ctx : Context} {cap : Option Nat} {js : List Json} {stages : List Stage}
    (h : Chain.parse ctx cap js = .ok stages) : ∀ s ∈ stages, ∃ j, Stage.parse ctx cap j = .ok s := by
  induction js generalizing stages with
  | nil =>
    obtain rfl := Except.ok.inj h
    exact nofun
  | cons j js ih =>
    obtain ⟨s, hs, h⟩ := Except.bind_eq_ok.1 h
    obtain ⟨rest, hrest, h⟩ := Except.bind_eq_ok.1 h
    obtain rfl := Except.ok.inj h
    exact List.forall_mem_cons.2 ⟨⟨j, hs⟩, ih hrest⟩

namespace Pipeline

/-- A pipeline has been read stage by stage with the functions of the host program. -/
theorem parsed_of_build {options : Options} {registry : Registry} {spec : Json} {p : Pipeline}
    (h : build options registry spec = .ok p) :
    ∃ stages, p = start stages ∧
      ∃ offset, ∀ s ∈ stages, ∃ j, Stage.parse ⟨registry, offset⟩ options.maxBuckets j = .ok s := by
  unfold build at h
  obtain ⟨_, _, h⟩ := Except.bind_eq_ok.1 h
  split at h
  · cases h
  · obtain ⟨offset, _, h⟩ := Except.bind_eq_ok.1 h
    obtain ⟨stages, hstages, h⟩ := Except.bind_eq_ok.1 h
    exact ⟨stages, (Except.ok.inj h).symm, offset, Chain.exists_parse_of_mem hstages⟩
  · cases h

/-! ## Feeding -/

/-- A pipeline that takes in documents without an error feeds them to its chain without an error. -/
theorem exists_feedEach_of_feedAll {p : Pipeline} {ds : List Document} (hp : p.Open)
    (h : (p.feedAll ds).answer = .ok ()) :
    ∃ flow, (Chain.feedEach (Chain.feed p.stages) ds p.state).answer = .ok flow := by
  induction ds generalizing p with
  | nil => exact ⟨.more, rfl⟩
  | cons d ds ih =>
    cases hd : (Chain.feed p.stages d p.state).answer with
    | error e =>
      have hfeed := feed_of_error hp.answer_eq hp.not_limitReached hd
      simp [feedAll, feedEach, hfeed] at h
    | ok flow =>
      have hfeed := feed_of_ok hp.answer_eq hp.not_limitReached hd
      have hanswer : (p.feed d).answer = .ok flow := by
        rw [hfeed]
        rfl
      cases flow with
      | more =>
        rw [feedAll_cons_of_more hanswer, hfeed] at h
        rw [Chain.feedEach_cons_of_more hd]
        refine ih ?_ h
        exact ⟨hp.answer_eq, rfl, hp.undrained.feed⟩
      | limit =>
        rw [Chain.feedEach_cons_of_limit hd]
        exact ⟨.limit, hd⟩

end Pipeline

end DocFlow
