import DocFlow.Proofs.Query.Conjunction
import DocFlow.Proofs.Query.Members

/-!
# Shorthand

Members side by side, in a specification or in a condition, are shorthand for a conjunction, and a value beside a field
is shorthand for an equality.  Written out, a specification answers every document as the shorthand does, and fails
where that fails with the same error (`Query.accepts_longhand`): the conjunction reads its items as the shorthand reads
its members, and both end at the first that does not hold.
-/

namespace DocFlow.Query

variable {ctx : Context} {members ops : Entries Json} {field : String} {items : List Json} {v : Json} {q : Query}
  {qs : List Query}

theorem parse_and (hne : items ≠ []) (h : List.Forall₂ (fun item q => parse ctx item = .ok q) items qs) :
    parse ctx (.object [("$and", .array items)]) = .ok (.all qs) :=
  parse_singleton_iff.2 (.combination .all hne h)

/-! ## Members of a specification -/

/-- The members of a specification, each in a specification of its own, together in a conjunction. -/
theorem exists_parse_and_of_members (hne : members ≠ []) (h : parse ctx (.object members) = .ok q) :
    ∃ q', parse ctx (.object [("$and", .array (members.map fun m => .object [m]))]) = .ok q' ∧
      ∀ d, q'.accepts d = q.accepts d := by
  obtain ⟨qs, hqs, rfl⟩ := parse_object_iff.1 h
  have hitems : List.Forall₂ (fun item q => parse ctx item = .ok q) (members.map fun m => .object [m]) qs := by
    rw [List.forall₂_map_left_iff]
    exact hqs.imp fun m q hm => parse_singleton_iff.2 hm
  refine ⟨.all qs, parse_and (by simpa using hne) hitems, fun d => ?_⟩
  rw [accepts_together]
  rfl

/-! ## Members of a condition -/

/-- Operators can be read as the condition of a field only. -/
theorem exists_tests_of_parse (hops : Test.isCondition ops = true)
    (h : parse ctx (.object [(field, .object ops)]) = .ok q) :
    isDollar field = false ∧ ∃ tss, q = .field (.ofString field) tss.flatten ∧
      List.Forall₂ (Test.Member ctx (queryScope field) ops) ops tss := by
  have hmember : Member ctx (field, .object ops) q := parse_singleton_iff.1 h
  clear h
  cases hmember with
  | call h => cases h
  | field hfield h =>
    rw [Test.parseCondition_of_isCondition hops] at h
    obtain ⟨tss, htss, rfl⟩ := Test.parseMembers_iff.1 h
    exact ⟨hfield, tss, rfl, htss⟩

/-- Without options beside it, an operator is read alone as it is read in the condition. -/
theorem parse_operator {op : String × Json} {ts : List Test} (hfield : isDollar field = false)
    (hops : Test.isCondition ops = true) (hoptions : "$options" ∉ Entries.keys ops) (hop : op ∈ ops)
    (h : Test.Member ctx (queryScope field) ops op ts) :
    parse ctx (.object [(field, .object [op])]) = .ok (.field (.ofString field) ts) := by
  have hname : op.1 ≠ "$options" := by
    intro hname
    exact hoptions (hname ▸ List.mem_map_of_mem hop)
  have hdollar : isDollar op.1 = true := by
    have hall := (Bool.and_eq_true_iff.1 hops).2
    exact List.all_eq_true.1 hall op hop
  have halone : Entries.get? "$options" [op] = Entries.get? "$options" ops := by
    rw [Entries.get?_eq_none_iff.2 hoptions]
    exact Entries.get?_eq_none_iff.2 (by simpa [Entries.keys] using hname.symm)
  have hmember : Test.Member ctx (queryScope field) [op] op ts := h.congr halone fun heq => absurd heq hname
  refine parse_singleton_iff.2 (.field hfield ?_)
  rw [Test.parseCondition_of_isCondition (by simpa [Test.isCondition] using hdollar)]
  exact Test.parseMembers_iff.2 ⟨[ts], .cons hmember .nil, by simp⟩

/-- The operators of a condition, each in a condition of its own, together in a conjunction. -/
theorem exists_parse_and_of_operators (hops : Test.isCondition ops = true) (hoptions : "$options" ∉ Entries.keys ops)
    (h : parse ctx (.object [(field, .object ops)]) = .ok q) :
    ∃ q', parse ctx (.object [("$and", .array (ops.map fun op => .object [(field, .object [op])]))]) = .ok q' ∧
      ∀ d, q'.accepts d = q.accepts d := by
  obtain ⟨hfield, tss, rfl, htss⟩ := exists_tests_of_parse hops h
  have hne : ops ≠ [] := by
    rintro rfl
    cases hops
  have hitems : List.Forall₂ (fun item q => parse ctx item = .ok q)
      (ops.map fun op => .object [(field, .object [op])]) (tss.map (.field (.ofString field))) := by
    rw [List.forall₂_map_left_iff, List.forall₂_map_right_iff]
    have hin := (List.forall₂_and_left ops tss).2 ⟨fun op hop => hop, htss⟩
    exact hin.imp fun op ts ⟨hop, h⟩ => parse_operator hfield hops hoptions hop h
  refine ⟨_, parse_and (by simpa using hne) hitems, fun d => ?_⟩
  show allAccept d (tss.map (.field (.ofString field))) = Test.allHold d _ _ tss.flatten
  rw [allAccept_eq_allM, Test.allHold_eq_allM, Except.allM_flatten]
  refine Except.allM_eq_of_forall₂ ?_
  rw [List.forall₂_map_right_iff, List.forall₂_same]
  intro ts _
  rw [← Test.allHold_eq_allM]
  rfl

/-! ## Values -/

theorem parse_value (hfield : isDollar field = false) (hv : Test.IsValue v) :
    parse ctx (.object [(field, v)]) = .ok (.field (.ofString field) [.eq (.ofJson v)]) :=
  parse_singleton_iff.2 (.field hfield (Test.parseCondition_of_isValue hv))

/-- A condition of one operator whose argument holds no tests. -/
theorem parse_simple {op : String} {arg : Json} {t : Test} (hfield : isDollar field = false) (hop : isDollar op = true)
    (hname : op ∉ ["$options", "$elemMatch", "$not"])
    (h : Test.parseSimple (queryScope field) ctx [(op, arg)] op arg = .ok t) :
    parse ctx (.object [(field, .object [(op, arg)])]) = .ok (.field (.ofString field) [t]) := by
  refine parse_singleton_iff.2 (.field hfield ?_)
  rw [Test.parseCondition_of_isCondition (by simpa [Test.isCondition] using hop)]
  exact Test.parseMembers_iff.2 ⟨[[t]], .cons (.simple hname h) .nil, rfl⟩

theorem parse_eq (hfield : isDollar field = false) :
    parse ctx (.object [(field, .object [("$eq", v)])]) = .ok (.field (.ofString field) [.eq (.ofJson v)]) :=
  parse_simple hfield (by decide) (by decide) rfl

/-! ## Written out -/

/-- A specification of several members is shorthand for the conjunction of its members, a condition of several
operators for the conjunction of its operators on the field, and a value for an equality: what is written out can be
read if the shorthand can, and gives on every document the same answer or error. -/
theorem accepts_longhand (ctx : Context) :
    (∀ members q, members ≠ [] → parse ctx (.object members) = .ok q →
      ∃ q', parse ctx (.object [("$and", .array (members.map fun m => .object [m]))]) = .ok q' ∧
        ∀ d, q'.accepts d = q.accepts d) ∧
    (∀ field ops q, Test.isCondition ops = true → "$options" ∉ Entries.keys ops →
      parse ctx (.object [(field, .object ops)]) = .ok q →
      ∃ q', parse ctx (.object [("$and", .array (ops.map fun op => .object [(field, .object [op])]))]) = .ok q' ∧
        ∀ d, q'.accepts d = q.accepts d) ∧
    ∀ field v, isDollar field = false → Test.IsValue v →
      ∃ q q', parse ctx (.object [(field, v)]) = .ok q ∧ parse ctx (.object [(field, .object [("$eq", v)])]) = .ok q' ∧
        ∀ d, q'.accepts d = q.accepts d := by
  refine ⟨fun members q hne h => ?_, fun field ops q hops hoptions h => ?_, fun field v hfield hv => ?_⟩
  · exact exists_parse_and_of_members hne h
  · exact exists_parse_and_of_operators hops hoptions h
  · exact ⟨_, _, parse_value hfield hv, parse_eq hfield, fun _ => rfl⟩

/-- The second operator calls a function that fails: so does the conjunction, with the same error. -/
theorem accepts_longhand_failing :
    let ctx : Context := ⟨Registry.empty.withMatcher "refuse" fun _ _ => .error ⟨"refused", []⟩, .utc⟩
    let least : Json := .number (.int 2)
    let ops : Entries Json := [("$gte", least), ("$call", .string "refuse")]
    let tag : Json := .object [("name", .string "$a")]
    let members : Entries Json := [("size", .object ops), ("tag", tag)]
    (members ≠ [] ∧ ∃ q q', parse ctx (.object members) = .ok q ∧
      parse ctx (.object [("$and", .array [.object [("size", .object ops)], .object [("tag", tag)]])]) = .ok q' ∧
      ∀ d, q'.accepts d = q.accepts d) ∧
    (Test.isCondition ops = true ∧ "$options" ∉ Entries.keys ops ∧ ∃ q q',
      parse ctx (.object [("size", .object ops)]) = .ok q ∧
      parse ctx (.object [("$and", .array [.object [("size", .object [("$gte", least)])],
        .object [("size", .object [("$call", .string "refuse")])]])]) = .ok q' ∧
      (∀ d, q'.accepts d = q.accepts d) ∧
      q'.accepts ⟨[("size", .number 2)]⟩ = .error (.host ⟨.filter, "size"⟩ "$call" ⟨"refused", []⟩)) ∧
    (isDollar "tag" = false ∧ Test.IsValue tag ∧ ∃ q q', parse ctx (.object [("tag", tag)]) = .ok q ∧
      parse ctx (.object [("tag", .object [("$eq", tag)])]) = .ok q' ∧ ∀ d, q'.accepts d = q.accepts d) := by
  intro ctx least ops tag members
  obtain ⟨hmembers, hoperators, hvalue⟩ := accepts_longhand ctx
  have hops : Test.isCondition ops = true := by simp [ops, Test.isCondition, isDollar]
  have hoptions : "$options" ∉ Entries.keys ops := by simp [ops, Entries.keys]
  have htag : Test.IsValue tag := by
    intro members hmembers m hm
    obtain rfl : [("name", .string "$a")] = members := Json.object.inj hmembers
    obtain rfl := List.mem_singleton.1 hm
    rfl
  refine ⟨⟨List.cons_ne_nil _ _, ?_⟩, ⟨hops, hoptions, ?_⟩, rfl, htag, hvalue "tag" tag rfl htag⟩
  · obtain ⟨q, hq⟩ : ∃ q, parse ctx (.object members) = .ok q := by
      simp only [members, ops, least, tag]
      exact ⟨_, rfl⟩
    obtain ⟨q', hq', hsame⟩ := hmembers members q (List.cons_ne_nil _ _) hq
    exact ⟨q, q', hq, hq', hsame⟩
  · obtain ⟨q, hq, herror⟩ : ∃ q, parse ctx (.object [("size", .object ops)]) = .ok q ∧
        q.accepts ⟨[("size", .number 2)]⟩ = .error (.host ⟨.filter, "size"⟩ "$call" ⟨"refused", []⟩) := by
      simp only [ctx, ops, least]
      exact ⟨_, rfl, rfl⟩
    obtain ⟨q', hq', hsame⟩ := hoperators "size" ops q hops hoptions hq
    exact ⟨q, q', hq, hq', hsame, (hsame _).trans herror⟩

end DocFlow.Query
