import DocFlow.Proofs.Query.Shorthand

/-!
# Tests of several values

A test of a field against several literal values stands for a combination of equalities of the field, one with each of
the values: to be among them is to be equal to one, not to be among them is to be equal to none, and to contain them all
is to be equal to each (`Query.accepts_expansion`).
-/

namespace DocFlow.Query

variable {ctx : Context} {name : String} {items : List Json} {c : Json}

/-- The operators with several values, each with the combination of equalities that it stands for. -/
def expansions : List (String × String) := [("$in", "$or"), ("$nin", "$nor"), ("$all", "$and")]

/-- The specification of an equality of a field with a value. -/
def equality (name : String) (c : Json) : Json := .object [(name, .object [("$eq", c)])]

/-- The equality of a field with a literal, as it is read. -/
def equals (name : String) (c : Json) : Query := .field (.ofString name) [.eq (.literal (.ofJson c))]

theorem parse_equality (hname : isDollar name = false) (hc : c.reference? = none) :
    parse ctx (equality name c) = .ok (equals name c) := by
  rw [equality, parse_eq hname, Operand.ofJson_of_reference? hc]
  rfl

theorem accepts_equals (d : Document) (name : String) (c : Json) :
    (equals name c).accepts d = .ok (Test.equal (d.get (.ofString name)) (.ofJson c)) := by
  rw [equals, accepts, Test.allHold_singleton]
  rfl

/-! ## Combinations of equalities -/

theorem parse_equalities {key : String} {make : List Query → Query} (hkey : Combines key make)
    (hname : isDollar name = false) (hne : items ≠ []) (hliteral : ∀ c ∈ items, c.reference? = none) :
    parse ctx (.object [(key, .array (items.map (equality name)))]) = .ok (make (items.map (equals name))) := by
  refine parse_singleton_iff.2 (.combination hkey (by simpa using hne) ?_)
  rw [List.forall₂_map_left_iff, List.forall₂_map_right_iff, List.forall₂_same]
  exact fun c hc => parse_equality hname (hliteral c hc)

theorem allAccept_equals (d : Document) : allAccept d (items.map (equals name)) =
    .ok (items.all fun c => Test.equal (d.get (.ofString name)) (.ofJson c)) := by
  rw [allAccept_eq_allM]
  exact Except.allM_map_eq_ok fun c _ => accepts_equals d name c

theorem someAccepts_equals (d : Document) : someAccepts d (items.map (equals name)) =
    .ok (items.any fun c => Test.equal (d.get (.ofString name)) (.ofJson c)) := by
  rw [someAccepts_eq_anyM]
  exact Except.anyM_map_eq_ok fun c _ => accepts_equals d name c

theorem accepts_neither_equals (d : Document) : (neither (items.map (equals name))).accepts d =
    .ok (!items.any fun c => Test.equal (d.get (.ofString name)) (.ofJson c)) := by
  rw [accepts, someAccepts_equals]
  rfl

/-! ## Tests of several values -/

theorem isAmong_ofItems (operator : String) (scope : Scope) (v : Value) :
    Test.isAmong operator scope v (.array (Value.ofItems items)) =
      .ok (items.any fun c => Test.equal v (.ofJson c)) := by
  rw [Test.isAmong, Value.ofItems_eq_map, List.any_map]
  rfl

theorem accepts_among (d : Document) :
    (field (.ofString name) [.among (.literal (.array (Value.ofItems items)))]).accepts d =
      .ok (items.any fun c => Test.equal (d.get (.ofString name)) (.ofJson c)) := by
  rw [accepts, Test.allHold_singleton, Test.holds, Operand.resolve, isAmong_ofItems]

theorem accepts_notAmong (d : Document) :
    (field (.ofString name) [.notAmong (.literal (.array (Value.ofItems items)))]).accepts d =
      .ok (!items.any fun c => Test.equal (d.get (.ofString name)) (.ofJson c)) := by
  rw [accepts, Test.allHold_singleton, Test.holds, Operand.resolve, isAmong_ofItems]
  rfl

theorem accepts_containsAll (d : Document) (hne : items ≠ []) :
    (field (.ofString name) [.containsAll (Value.ofItems items)]).accepts d =
      .ok (items.all fun c => Test.equal (d.get (.ofString name)) (.ofJson c)) := by
  rw [accepts, Test.allHold_singleton, Test.holds, Value.ofItems_eq_map, List.all_map]
  simp [hne, Function.comp_def]

/-- **Tests of several values.**  On every document, a test of a field against several literals gives the answer of the
combination of equalities that it stands for; neither of the two fails. -/
theorem accepts_expansion (ctx : Context) (name : String) (items : List Json) (hname : isDollar name = false)
    (hne : items ≠ []) (hliteral : ∀ c ∈ items, c.reference? = none) :
    ∀ op combination, (op, combination) ∈ expansions →
      ∃ q q', parse ctx (.object [(name, .object [(op, .array items)])]) = .ok q ∧
        parse ctx (.object [(combination, .array (items.map (equality name)))]) = .ok q' ∧
        ∀ d, ∃ b, q.accepts d = .ok b ∧ q'.accepts d = .ok b := by
  intro op combination h
  simp only [expansions, List.mem_cons, Prod.mk.injEq, List.not_mem_nil, or_false] at h
  rcases h with ⟨rfl, rfl⟩ | ⟨rfl, rfl⟩ | ⟨rfl, rfl⟩
  · exact ⟨_, _, parse_simple hname (by decide) (by decide) rfl, parse_equalities .any hname hne hliteral,
      fun d => ⟨_, accepts_among d, someAccepts_equals d⟩⟩
  · exact ⟨_, _, parse_simple hname (by decide) (by decide) rfl, parse_equalities .neither hname hne hliteral,
      fun d => ⟨_, accepts_notAmong d, accepts_neither_equals d⟩⟩
  · exact ⟨_, _, parse_simple hname (by decide) (by decide) rfl, parse_equalities .all hname hne hliteral,
      fun d => ⟨_, accepts_containsAll d hne, allAccept_equals d⟩⟩

/-- Null, an array and a document to be among, at a path through an array. -/
theorem accepts_expansion_nested :
    let items : List Json := [.null, .array [.string "b"], .object [("k", .string "$v")]]
    isDollar "a.f" = false ∧ items ≠ [] ∧ (∀ c ∈ items, c.reference? = none) ∧
      ∃ q q', parse .default (.object [("a.f", .object [("$in", .array items)])]) = .ok q ∧
        parse .default (.object [("$or", .array (items.map (equality "a.f")))]) = .ok q' ∧
        (∀ d, ∃ b, q.accepts d = .ok b ∧ q'.accepts d = .ok b) ∧
        q'.accepts ⟨[("a", .array [.document [("f", .string "b")]])]⟩ = .ok true := by
  intro items
  have hliteral : ∀ c ∈ items, c.reference? = none := by simp [items, Json.reference?]
  obtain ⟨q, q', hq, hq', hsame⟩ := accepts_expansion .default "a.f" items rfl (List.cons_ne_nil _ _) hliteral "$in" "$or"
    (by decide)
  refine ⟨rfl, List.cons_ne_nil _ _, hliteral, q, q', hq, hq', hsame, ?_⟩
  have hread : parse .default (.object [("$or", .array (items.map (equality "a.f")))]) =
      .ok (.any (items.map (equals "a.f"))) := parse_equalities .any rfl (List.cons_ne_nil _ _) hliteral
  obtain rfl := Except.ok.inj (hq'.symm.trans hread)
  rfl

end DocFlow.Query
