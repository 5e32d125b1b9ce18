import DocFlow.Proofs.Query.Shorthand

/-!
# Tests of the items of an array

A comparison with a literal, a pattern and a remainder look at one value.  Of an array they hold if they hold of one of
its items, and an equality holds of it also if the whole array is what it asks for (`Query.answer_array`).  What is null
or missing makes an exception: an equality with null does not look at the items of an array, so that it does not find
the null in one (`Query.null_item_not_found`).
-/

namespace DocFlow

variable {ctx : Context} {scope : Scope} {field op : String} {arg : Json} {condition : Entries Json} {items : List Value}
  {x v e : Value} {t : Test} {q : Query}

namespace Test

def equalities : List String := ["$eq", "$in"]

/-- The operators with a literal whose tests look at one value. -/
def itemwise : List String := equalities ++ ["$lt", "$lte", "$gt", "$gte", "$regexp", "$regex", "$mod"]

/-- The value, as a whole, is what an equality asks for. -/
def Exact (op : String) (arg : Json) (v : Value) : Prop :=
  (op = "$eq" ∧ (v == .ofJson arg) = true) ∨
  (op = "$in" ∧ ∃ candidates, arg = .array candidates ∧ ∃ c ∈ candidates, (v == .ofJson c) = true)

theorem Exact.mem_equalities (h : Exact op arg v) : op ∈ equalities := by
  rcases h with ⟨rfl, -⟩ | ⟨rfl, -⟩ <;> simp [equalities]

/-! ## One value against one -/

theorem equal_of_isNullish (he : e.isNullish = true) : equal v e = v.isNullish := by
  simp [equal, he]

theorem equal_eq_beq (he : e.isNullish = false) (hx : x.kind ≠ .array) : equal x e = (x == e) := by
  cases x with
  | array items => exact absurd rfl hx
  | _ => simp [equal, he]

/-- A value that is there is equal to none that stands for no value. -/
theorem beq_eq_false_of_isNullish (he : e.isNullish = true) (hx : x.isNullish = false) : (x == e) = false := by
  rcases Value.isNullish_iff.1 he with rfl | rfl <;> cases x <;> first | rfl | cases hx

/-- A value that stands for none is equal to no value that is there. -/
theorem beq_eq_false_of_isNullish_left (he : e.isNullish = false) (hx : x.isNullish = true) : (x == e) = false := by
  rcases Value.isNullish_iff.1 hx with rfl | rfl <;> cases e <;> first | rfl | cases he

/-- An array of values that are no arrays is equal to a value if one of its items that is there is equal to it, or the
whole array is the value. -/
theorem equal_array_iff (hflat : ∀ x ∈ items, x.kind ≠ .array) : equal (.array items) e = true ↔
    (∃ x ∈ items, x.isNullish = false ∧ equal x e = true) ∨ (Value.array items == e) = true := by
  cases he : e.isNullish with
  | true =>
    have hwhole : (Value.array items == e) = false := beq_eq_false_of_isNullish he rfl
    have harray : (Value.array items).isNullish = false := rfl
    simp [equal_of_isNullish he, hwhole, harray]
  | false =>
    have hitem : ∀ x ∈ items, (x == e) = true ↔ x.isNullish = false ∧ equal x e = true := by
      intro x hx
      rw [equal_eq_beq he (hflat x hx)]
      cases hn : x.isNullish with
      | true => simp [beq_eq_false_of_isNullish_left he hn]
      | false => simp
    have hany : items.any (· == e) = true ↔ ∃ x ∈ items, x.isNullish = false ∧ equal x e = true := by
      rw [List.any_eq_true]
      exact exists_congr fun x => and_congr_right (hitem x)
    simp only [equal, he, Bool.false_eq_true, if_false, Bool.or_eq_true, hany]
    exact or_comm

theorem anyItem_of_kind (p : Value → Bool) (hx : x.kind ≠ .array) : anyItem p x = p x := by
  cases x with
  | array items => exact absurd rfl hx
  | _ => rfl

theorem anyItem_array_iff {p : Value → Bool} (hflat : ∀ x ∈ items, x.kind ≠ .array) :
    anyItem p (.array items) = true ↔ ∃ x ∈ items, anyItem p x = true := by
  show items.any p = true ↔ _
  rw [List.any_eq_true]
  refine exists_congr fun x => and_congr_right fun hx => ?_
  rw [anyItem_of_kind p (hflat x hx)]

/-! ## Operators with a literal -/

/-- The test gives every value an answer, and an array of values that are no arrays the answer that it gives to its
items; for an equality, items that stand for no value do not count, but the array as a whole does. -/
structure Looks (op : String) (arg : Json) (t : Test) (answer : Value → Bool) : Prop where
  holds : ∀ d scope v, t.holds d scope v = .ok (answer v)
  array : ∀ items, (∀ x ∈ items, x.kind ≠ .array) → (answer (.array items) = true ↔
    (∃ x ∈ items, (op ∈ equalities → x.isNullish = false) ∧ answer x = true) ∨ Exact op arg (.array items))

theorem looks_eq (arg : Json) : Looks "$eq" arg (.eq (.literal (.ofJson arg))) (equal · (.ofJson arg)) where
  holds _ _ _ := rfl
  array items hflat := by
    rw [equal_array_iff hflat]
    simp [Exact, equalities]

theorem looks_among (candidates : List Json) :
    Looks "$in" (.array candidates) (.among (.literal (.array (Value.ofItems candidates))))
      (fun v => (Value.ofItems candidates).any (equal v)) where
  holds _ _ _ := rfl
  array items hflat := by
    simp only [Value.ofItems_eq_map, List.any_map, List.any_eq_true, Function.comp_apply, equal_array_iff hflat]
    constructor
    · rintro ⟨c, hc, ⟨x, hx, hthere, heq⟩ | hwhole⟩
      · exact .inl ⟨x, hx, fun _ => hthere, c, hc, heq⟩
      · exact .inr (.inr ⟨rfl, candidates, rfl, c, hc, hwhole⟩)
    · rintro (⟨x, hx, hthere, c, hc, heq⟩ | ⟨hop, -⟩ | ⟨-, _, ⟨⟩, c, hc, hwhole⟩)
      · exact ⟨c, hc, .inl ⟨x, hx, hthere (by simp [equalities]), heq⟩⟩
      · exact absurd hop (by decide)
      · exact ⟨c, hc, .inr hwhole⟩

/-- A test of any item looks at one value. -/
theorem looks_anyItem {p : Value → Bool} (hop : op ∉ equalities)
    (h : ∀ d scope v, t.holds d scope v = .ok (anyItem p v)) : Looks op arg t (anyItem p) where
  holds := h
  array items hflat := by
    have hexact : ¬ Exact op arg (.array items) := fun hexact => hop hexact.mem_equalities
    rw [anyItem_array_iff hflat]
    simp [hop, hexact]

theorem exists_looks_of_parseComparison {c : Comparison} (hop : op ∉ equalities) (hliteral : arg.reference? = none)
    (h : parseComparison scope c arg = .ok t) : ∃ answer, Looks op arg t answer := by
  simp only [parseComparison, Operand.ofJson_of_reference? hliteral] at h
  split at h
  · obtain rfl := Except.ok.inj h
    exact ⟨_, looks_anyItem (p := fun item => passes c item (.ofJson arg)) hop fun _ _ _ => rfl⟩
  · cases h

theorem exists_looks_of_parseCandidates {o : Operand} (hliteral : arg.reference? = none)
    (h : parseCandidates scope "$in" arg = .ok o) : ∃ answer, Looks "$in" arg (.among o) answer := by
  simp only [parseCandidates, Operand.ofJson_of_reference? hliteral] at h
  cases arg with
  | array candidates =>
    obtain rfl := Except.ok.inj h
    exact ⟨_, looks_among candidates⟩
  | _ => cases h

theorem exists_looks_of_parseModulo (h : parseModulo scope arg = .ok t) : ∃ answer, Looks "$mod" arg t answer := by
  unfold parseModulo at h
  split at h
  · split at h
    · cases h
    · obtain rfl := Except.ok.inj h
      exact ⟨_, looks_anyItem (by decide) fun _ _ _ => rfl⟩
  · cases h

/-- An operator with a literal is read as a test that looks at one value. -/
theorem exists_looks (hop : op ∈ itemwise) (hliteral : arg.reference? = none ∨ op = "$regexp" ∨ op = "$regex")
    (h : parseSimple scope ctx condition op arg = .ok t) : ∃ answer, Looks op arg t answer := by
  have hpattern {name : String} (hname : name ∉ equalities)
      (h : (do return Test.matching (← parsePattern scope name condition arg)) = Except.ok t) :
      ∃ answer, Looks name arg t answer := by
    obtain ⟨pattern, -, h⟩ := Except.bind_eq_ok.1 h
    obtain rfl := Except.ok.inj h
    exact ⟨_, looks_anyItem hname fun _ _ _ => rfl⟩
  have hnone (hop : op ≠ "$regexp" ∧ op ≠ "$regex") : arg.reference? = none := by
    simpa [hop.1, hop.2] using hliteral
  simp only [itemwise, equalities, List.cons_append, List.nil_append, List.mem_cons, List.not_mem_nil, or_false] at hop
  -- the operators in the order of `itemwise`
  rcases hop with rfl | rfl | rfl | rfl | rfl | rfl | rfl | rfl | rfl
  case inl =>
    obtain rfl := Except.ok.inj h
    rw [Operand.ofJson_of_reference? (hnone (by decide))]
    exact ⟨_, looks_eq arg⟩
  case inr.inl =>
    obtain ⟨o, ho, h⟩ := Except.bind_eq_ok.1 h
    obtain rfl := Except.ok.inj h
    exact exists_looks_of_parseCandidates (hnone (by decide)) ho
  · exact exists_looks_of_parseComparison (c := .lt) (by decide) (hnone (by decide)) h
  · exact exists_looks_of_parseComparison (c := .le) (by decide) (hnone (by decide)) h
  · exact exists_looks_of_parseComparison (c := .gt) (by decide) (hnone (by decide)) h
  · exact exists_looks_of_parseComparison (c := .ge) (by decide) (hnone (by decide)) h
  · exact hpattern (by decide) h
  · exact hpattern (by decide) h
  · exact exists_looks_of_parseModulo h

end Test

namespace Query

open Test (itemwise equalities Exact)

/-- The options of a pattern add no test. -/
theorem flatten_of_filter_options {ops ms : Entries Json} {tss : List (List Test)}
    (h : List.Forall₂ (Test.Member ctx scope ops) ms tss) :
    ∃ tss', List.Forall₂ (Test.Member ctx scope ops) (ms.filter (·.1 ≠ "$options")) tss' ∧
      tss'.flatten = tss.flatten := by
  induction h with
  | nil => exact ⟨[], .nil, rfl⟩
  | @cons m ts ms tss hm _ ih =>
    obtain ⟨tss', htss', hflat⟩ := ih
    by_cases hoptions : m.1 = "$options"
    · obtain rfl := hm.eq_nil_of_options hoptions
      rw [List.filter_cons_of_neg (by simpa using hoptions)]
      exact ⟨tss', htss', hflat⟩
    · rw [List.filter_cons_of_pos (by simpa using hoptions)]
      exact ⟨ts :: tss', .cons hm htss', congrArg (ts ++ ·) hflat⟩

/-- A condition of one operator, with options beside it or without, is read as the test of that operator. -/
theorem exists_test_of_parse {ops : Entries Json} (hops : ops.filter (·.1 ≠ "$options") = [(op, arg)])
    (hop : isDollar op = true) (hname : op ∉ ["$options", "$elemMatch", "$not"])
    (h : parse ctx (.object [(field, .object ops)]) = .ok q) :
    ∃ t, q = .field (.ofString field) [t] ∧ Test.parseSimple (queryScope field) ctx ops op arg = .ok t := by
  have hmem : (op, arg) ∈ ops := List.mem_of_mem_filter (by rw [hops]; exact List.mem_singleton.2 rfl)
  have hdollar : ∀ m ∈ ops, isDollar m.1 = true := by
    intro m hm
    by_cases hoptions : m.1 = "$options"
    · rw [hoptions]
      decide
    · have hkept : m ∈ ops.filter (·.1 ≠ "$options") := List.mem_filter.2 ⟨hm, by simpa using hoptions⟩
      rw [hops, List.mem_singleton] at hkept
      rw [hkept]
      exact hop
  have hcondition : Test.isCondition ops = true := by
    simp only [Test.isCondition, Bool.and_eq_true, List.all_eq_true]
    exact ⟨by simpa using List.ne_nil_of_mem hmem, hdollar⟩
  obtain ⟨-, tss, rfl, htss⟩ := exists_tests_of_parse hcondition h
  obtain ⟨tss', htss', hflat⟩ := flatten_of_filter_options htss
  rw [hops] at htss'
  obtain ⟨ts, rest, hts, hrest, rfl⟩ := List.forall₂_cons_left_iff.1 htss'
  obtain rfl := List.forall₂_nil_left_iff.1 hrest
  obtain ⟨t, rfl, ht⟩ := hts.exists_parseSimple hname
  exact ⟨t, congrArg _ hflat.symm, ht⟩

/-- **Tests of the items of an array.**  An operator that looks at one value, with a literal, answers every document by
the value at the field.  Of an array of values that are no arrays it holds if it holds of one of the items alone, or if
it is an equality and the whole array is what it asks for.  For an equality, items that are null or missing do not
count. -/
theorem answer_array (ctx : Context) (field op : String) (arg : Json) (ops : Entries Json) (q : Query)
    (hop : op ∈ itemwise) (hliteral : arg.reference? = none ∨ op = "$regexp" ∨ op = "$regex")
    (hops : ops.filter (·.1 ≠ "$options") = [(op, arg)])
    (h : parse ctx (.object [(field, .object ops)]) = .ok q) :
    ∃ answer : Value → Bool, (∀ d, q.accepts d = .ok (answer (d.get (.ofString field)))) ∧
      ∀ items, (∀ x ∈ items, x.kind ≠ .array) → (answer (.array items) = true ↔
        (∃ x ∈ items, (op ∈ equalities → x.isNullish = false) ∧ answer x = true) ∨ Exact op arg (.array items)) := by
  have hnames : ∀ name ∈ itemwise, isDollar name = true ∧ name ∉ ["$options", "$elemMatch", "$not"] := by decide
  obtain ⟨hdollar, hname⟩ := hnames op hop
  obtain ⟨t, rfl, ht⟩ := exists_test_of_parse hops hdollar hname h
  obtain ⟨answer, hanswer⟩ := Test.exists_looks hop hliteral ht
  refine ⟨answer, fun d => ?_, hanswer.array⟩
  rw [accepts, Test.allHold_singleton, hanswer.holds]

/-- One of null and a text: the text is found in an array, and null is found only by itself. -/
theorem answer_array_among :
    let arg : Json := .array [.null, .string "b"]
    let q : Query := .field (.ofString "f") [.among (.literal (.array [.null, .string "b"]))]
    "$in" ∈ itemwise ∧ arg.reference? = none ∧ parse .default (.object [("f", .object [("$in", arg)])]) = .ok q ∧
      ∃ answer : Value → Bool, (∀ d, q.accepts d = .ok (answer (d.get (.ofString "f")))) ∧ answer .null = true ∧
        answer (.array [.string "a", .string "b"]) = true ∧ answer (.array [.null, .string "a"]) = false := by
  intro arg q
  have hop : "$in" ∈ itemwise := by decide
  have hq : parse .default (.object [("f", .object [("$in", arg)])]) = .ok q := by
    simp only [arg]
    rfl
  obtain ⟨answer, hanswer, harray⟩ := answer_array .default "f" "$in" arg [("$in", arg)] q hop (.inl rfl) rfl hq
  have hvalue (v : Value) {b : Bool} (hb : q.accepts ⟨[("f", v)]⟩ = .ok b) : answer v = b :=
    Except.ok.inj ((hanswer ⟨[("f", v)]⟩).symm.trans hb)
  refine ⟨hop, rfl, hq, answer, hanswer, hvalue .null rfl, ?_, ?_⟩
  · exact (harray _ (by simp [Value.kind])).2 (.inl ⟨.string "b", by simp, fun _ => rfl, hvalue (.string "b") rfl⟩)
  · have hitem : answer (.string "a") = false := hvalue (.string "a") rfl
    have hexact : ¬ Exact "$in" arg (.array [.null, .string "a"]) := by
      rintro (⟨h, -⟩ | ⟨-, candidates, harg, c, hc, hwhole⟩)
      · exact absurd h (by decide)
      · obtain rfl : [.null, .string "b"] = candidates := Json.array.inj harg
        rcases List.mem_pair.1 hc with rfl | rfl <;> cases hwhole
    rw [← Bool.not_eq_true, harray _ (by simp [Value.kind])]
    simp [hitem, hexact, equalities, Value.isNullish]

/-- An array does not match null for an item that is null, though null alone matches. -/
theorem null_item_not_found :
    ¬ ∀ (ctx : Context) (field op : String) (arg : Json) (ops : Entries Json) (q : Query), op ∈ itemwise →
      (arg.reference? = none ∨ op = "$regexp" ∨ op = "$regex") → ops.filter (·.1 ≠ "$options") = [(op, arg)] →
      parse ctx (.object [(field, .object ops)]) = .ok q →
      ∃ answer : Value → Bool, (∀ d, q.accepts d = .ok (answer (d.get (.ofString field)))) ∧
        ∀ items, (∀ x ∈ items, x.kind ≠ .array) →
          (answer (.array items) = true ↔ (∃ x ∈ items, answer x = true) ∨ Exact op arg (.array items)) := by
  intro h
  let q : Query := .field (.ofString "f") [.eq (.literal .null)]
  have hq : parse .default (.object [("f", .object [("$eq", .null)])]) = .ok q := rfl
  obtain ⟨answer, hanswer, harray⟩ := h .default "f" "$eq" .null [("$eq", .null)] q (by decide) (.inl rfl) rfl hq
  have hnull : answer .null = true := Except.ok.inj ((hanswer ⟨[("f", .null)]⟩).symm.trans rfl)
  have hitem : answer (.array [.null]) = false := Except.ok.inj ((hanswer ⟨[("f", .array [.null])]⟩).symm.trans rfl)
  have hfound := (harray [.null] (by simp [Value.kind])).2 (.inl ⟨.null, by simp, hnull⟩)
  rw [hitem] at hfound
  cases hfound

end Query

end DocFlow
