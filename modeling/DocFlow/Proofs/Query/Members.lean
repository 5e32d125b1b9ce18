import DocFlow.Proofs.Outcome
import DocFlow.Query.Parser

/-!
# Reading a query member by member

What the members of a specification, the items of a combination and the members of a condition are read as does not
depend on their neighbours, but for the options of a pattern, which stand beside it in the condition.  So a list of
members can be read if each member can, one by one: `Query.Member` and `Test.Member` say what a member is read as, and
`Query.parseMembers_iff` and `Test.parseMembers_iff` that reading a list does no more than that.
-/

namespace DocFlow

open DocFlow.Except (bind_eq_ok)

variable {ctx : Context} {scope : Scope} {condition : Entries Json} {m : String × Json} {ms : List (String × Json)}
  {key : String} {items : List Json} {qs : List Query} {q : Query} {ts : List Test}

/-! ## Queries -/

namespace Query

/-- The keys that combine queries. -/
inductive Combines : String → (List Query → Query) → Prop
  | all : Combines "$and" .all
  | any : Combines "$or" .any
  | neither : Combines "$nor" .neither

/-- What a member of a specification is read as. -/
inductive Member (ctx : Context) : String × Json → Query → Prop
  | combination {key : String} {make : List Query → Query} {items : List Json} {qs : List Query}
    (hk : Combines key make) (hne : items ≠ []) (h : List.Forall₂ (fun item q => parse ctx item = .ok q) items qs) :
    Member ctx (key, .array items) (make qs)
  | call {arg : Json} {f : Named Matcher} (h : Test.parseCall (queryScope "$call") ctx arg = .ok f) :
    Member ctx ("$call", arg) (.call f)
  | field {key : String} {arg : Json} {ts : List Test} (hk : isDollar key = false)
    (h : Test.parseCondition ctx (queryScope key) arg = .ok ts) : Member ctx (key, arg) (.field (.ofString key) ts)

theorem parseList_iff :
    parseList ctx key items = .ok qs ↔ List.Forall₂ (fun item q => parse ctx item = .ok q) items qs := by
  induction items generalizing qs with
  | nil =>
    rw [List.forall₂_nil_left_iff, parseList]
    exact ⟨fun h => (Except.ok.inj h).symm, fun h => congrArg _ h.symm⟩
  | cons item items ih =>
    rw [List.forall₂_cons_left_iff]
    constructor
    · intro h
      unfold parseList at h
      split at h
      · cases ‹_ = []›
      · next members rest heq =>
        obtain ⟨rfl, rfl⟩ := List.cons.inj heq
        obtain ⟨inner, hinner, h⟩ := bind_eq_ok.1 h
        obtain ⟨qs', hqs', h⟩ := bind_eq_ok.1 h
        exact ⟨together inner, qs', bind_eq_ok.2 ⟨inner, hinner, rfl⟩, ih.1 hqs', (Except.ok.inj h).symm⟩
      · cases h
    · rintro ⟨q, qs', hq, hqs', rfl⟩
      cases item with
      | object members =>
        obtain ⟨inner, hinner, hq⟩ := bind_eq_ok.1 hq
        obtain rfl := Except.ok.inj hq
        exact bind_eq_ok.2 ⟨inner, hinner, bind_eq_ok.2 ⟨qs', ih.2 hqs', rfl⟩⟩
      | _ => cases hq

theorem parseItems_iff {arg : Json} : parseItems ctx key arg = .ok qs ↔
    ∃ items, arg = .array items ∧ items ≠ [] ∧ List.Forall₂ (fun item q => parse ctx item = .ok q) items qs := by
  constructor
  · intro h
    unfold parseItems at h
    split at h
    · exact ⟨_, rfl, List.cons_ne_nil _ _, parseList_iff.1 h⟩
    · cases h
  · rintro ⟨items, rfl, hne, h⟩
    obtain ⟨item, items, rfl⟩ := List.exists_cons_of_ne_nil hne
    exact parseList_iff.2 h

theorem parseMembers_cons_iff : parseMembers ctx (m :: ms) = .ok qs ↔
    ∃ q qs', Member ctx m q ∧ parseMembers ctx ms = .ok qs' ∧ qs = q :: qs' := by
  obtain ⟨key, arg⟩ := m
  constructor
  · intro h
    unfold parseMembers at h
    obtain ⟨q, hq, h⟩ := bind_eq_ok.1 h
    obtain ⟨qs', hqs', h⟩ := bind_eq_ok.1 h
    refine ⟨q, qs', ?_, hqs', (Except.ok.inj h).symm⟩
    -- the three combinations read their array in one way
    have hcombined {key : String} {make : List Query → Query} (hk : Combines key make)
        (hmake : (do return make (← parseItems ctx key arg)) = Except.ok q) : Member ctx (key, arg) q := by
      obtain ⟨inner, hinner, hmake⟩ := bind_eq_ok.1 hmake
      obtain rfl := Except.ok.inj hmake
      obtain ⟨items, rfl, hne, hitems⟩ := parseItems_iff.1 hinner
      exact .combination hk hne hitems
    split at hq
    case h_1 => exact hcombined .all hq
    case h_2 => exact hcombined .any hq
    case h_3 => exact hcombined .neither hq
    case h_4 =>
      obtain ⟨f, hf, hq⟩ := bind_eq_ok.1 hq
      obtain rfl := Except.ok.inj hq
      exact .call hf
    case h_5 =>
      split at hq
      · cases hq
      · next hk =>
        obtain ⟨ts, hts, hq⟩ := bind_eq_ok.1 hq
        obtain rfl := Except.ok.inj hq
        exact .field (Bool.eq_false_iff.2 hk) hts
  · rintro ⟨q, qs', hm, hqs', rfl⟩
    unfold parseMembers
    refine bind_eq_ok.2 ⟨q, ?_, bind_eq_ok.2 ⟨qs', hqs', rfl⟩⟩
    cases hm with
    | @combination _ make items qs hk hne h =>
      have hitems : parseItems ctx key (.array items) = .ok qs := parseItems_iff.2 ⟨items, rfl, hne, h⟩
      cases hk <;> exact bind_eq_ok.2 ⟨qs, hitems, rfl⟩
    | call h => exact bind_eq_ok.2 ⟨_, h, rfl⟩
    | field hk h =>
      split
      case h_5 => simp [hk, h]
      all_goals exact absurd hk (by decide)

theorem parseMembers_iff : parseMembers ctx ms = .ok qs ↔ List.Forall₂ (Member ctx) ms qs := by
  induction ms generalizing qs with
  | nil =>
    rw [List.forall₂_nil_left_iff, parseMembers]
    exact ⟨fun h => (Except.ok.inj h).symm, fun h => congrArg _ h.symm⟩
  | cons m ms ih =>
    rw [parseMembers_cons_iff, List.forall₂_cons_left_iff]
    simp only [ih]

theorem parse_object_iff : parse ctx (.object ms) = .ok q ↔
    ∃ qs, List.Forall₂ (Member ctx) ms qs ∧ q = together qs := by
  unfold parse
  simp only [bind_eq_ok, parseMembers_iff]
  exact exists_congr fun qs => and_congr_right fun _ => ⟨fun h => (Except.ok.inj h).symm, fun h => congrArg _ h.symm⟩

/-- A specification with one member is read as that member alone. -/
theorem parse_singleton_iff : parse ctx (.object [m]) = .ok q ↔ Member ctx m q := by
  rw [parse_object_iff]
  constructor
  · rintro ⟨qs, h, rfl⟩
    obtain ⟨q, qs', hq, hnil, rfl⟩ := List.forall₂_cons_left_iff.1 h
    obtain rfl := List.forall₂_nil_left_iff.1 hnil
    exact hq
  · intro hq
    exact ⟨[q], .cons hq .nil, rfl⟩

end Query

/-! ## Conditions -/

namespace Test

/-- What a member of a condition is read as.  The options of a pattern are no test of their own. -/
inductive Member (ctx : Context) (scope : Scope) (condition : Entries Json) : String × Json → List Test → Prop
  | options {arg : Json} (h : hasPattern condition = true) : Member ctx scope condition ("$options", arg) []
  | item {body : Entries Json} {ts : List Test} (hne : body ≠ []) (hb : isItemCondition body = true)
    (h : parseMembers ctx scope body body = .ok ts) :
    Member ctx scope condition ("$elemMatch", .object body) [.item ts]
  | itemQuery {body : Entries Json} {q : Query} (hne : body ≠ []) (hb : isItemCondition body = false)
    (h : Query.parse ctx (.object body) = .ok q) :
    Member ctx scope condition ("$elemMatch", .object body) [.itemQuery q]
  | negation {body : Entries Json} {ts : List Test} (hb : isCondition body = true)
    (h : parseMembers ctx scope body body = .ok ts) :
    Member ctx scope condition ("$not", .object body) [.negation ts]
  | simple {name : String} {arg : Json} {t : Test} (hname : name ∉ ["$options", "$elemMatch", "$not"])
    (h : parseSimple scope ctx condition name arg = .ok t) : Member ctx scope condition (name, arg) [t]

theorem Member.of_not {body : Entries Json} (h : Member ctx scope condition ("$not", .object body) ts) :
    ∃ inner, isCondition body = true ∧ parseMembers ctx scope body body = .ok inner ∧ ts = [.negation inner] := by
  generalize hname : "$not" = name at h
  generalize harg : Json.object body = arg at h
  cases h with
  | negation hc h =>
    cases harg
    exact ⟨_, hc, h, rfl⟩
  | simple hsimple => simp [← hname] at hsimple
  | _ => exact absurd hname (by decide)

theorem Member.of_elemMatch {body : Entries Json} (h : Member ctx scope condition ("$elemMatch", .object body) ts) :
    body ≠ [] ∧
    ((∃ inner, isItemCondition body = true ∧ parseMembers ctx scope body body = .ok inner ∧ ts = [.item inner]) ∨
      ∃ inner, isItemCondition body = false ∧ Query.parse ctx (.object body) = .ok inner ∧ ts = [.itemQuery inner]) := by
  generalize hname : "$elemMatch" = name at h
  generalize harg : Json.object body = arg at h
  cases h with
  | item hne hb h =>
    cases harg
    exact ⟨hne, .inl ⟨_, hb, h, rfl⟩⟩
  | itemQuery hne hb h =>
    cases harg
    exact ⟨hne, .inr ⟨_, hb, h, rfl⟩⟩
  | simple hsimple => simp [← hname] at hsimple
  | _ => exact absurd hname (by decide)

theorem Member.eq_nil_of_options (h : Member ctx scope condition m ts) (hm : m.1 = "$options") : ts = [] := by
  cases h with
  | options h => rfl
  | @simple name arg t hname h =>
    have hm : name = "$options" := hm
    exact absurd (by simp [hm]) hname
  | _ => exact absurd hm (by simp)

theorem Member.exists_parseSimple (h : Member ctx scope condition m ts)
    (hm : m.1 ∉ ["$options", "$elemMatch", "$not"]) :
    ∃ t, ts = [t] ∧ parseSimple scope ctx condition m.1 m.2 = .ok t := by
  cases h with
  | simple hname h => exact ⟨_, rfl, h⟩
  | _ => exact absurd (by simp) hm

/-- Reading a condition reads its first member, and then the others. -/
theorem exists_member_of_parseMembers (h : parseMembers ctx scope condition (m :: ms) = .ok ts) :
    ∃ ts₁ ts₂, Member ctx scope condition m ts₁ ∧ parseMembers ctx scope condition ms = .ok ts₂ ∧ ts = ts₁ ++ ts₂ := by
  obtain ⟨name, arg⟩ := m
  unfold parseMembers at h
  split at h
  case h_1 =>
    split at h
    · cases h
    · next hp => exact ⟨[], ts, .options (by simpa using hp), h, rfl⟩
  case h_2 =>
    split at h
    · next member members =>
      obtain ⟨t, ht, h⟩ := bind_eq_ok.1 h
      obtain ⟨ts₂, hts₂, h⟩ := bind_eq_ok.1 h
      refine ⟨[t], ts₂, ?_, hts₂, (Except.ok.inj h).symm⟩
      split at ht
      · next hb =>
        obtain ⟨inner, hinner, ht⟩ := bind_eq_ok.1 ht
        obtain rfl := Except.ok.inj ht
        exact .item (List.cons_ne_nil _ _) hb hinner
      · next hb =>
        obtain ⟨inner, hinner, ht⟩ := bind_eq_ok.1 ht
        obtain rfl := Except.ok.inj ht
        exact .itemQuery (List.cons_ne_nil _ _) (Bool.eq_false_iff.2 hb) (bind_eq_ok.2 ⟨inner, hinner, rfl⟩)
    · cases h
  case h_3 =>
    split at h
    · split at h
      · cases h
      · next hb =>
        obtain ⟨inner, hinner, h⟩ := bind_eq_ok.1 h
        obtain ⟨ts₂, hts₂, h⟩ := bind_eq_ok.1 h
        exact ⟨[.negation inner], ts₂, .negation (by simpa using hb) hinner, hts₂, (Except.ok.inj h).symm⟩
    · cases h
  case h_4 hoptions hitem hnot =>
    obtain ⟨t, ht, h⟩ := bind_eq_ok.1 h
    obtain ⟨ts₂, hts₂, h⟩ := bind_eq_ok.1 h
    exact ⟨[t], ts₂, .simple (by simpa using ⟨hoptions, hitem, hnot⟩) ht, hts₂, (Except.ok.inj h).symm⟩

theorem Member.parseMembers_cons {ts₁ ts₂ : List Test} (hm : Member ctx scope condition m ts₁)
    (hms : parseMembers ctx scope condition ms = .ok ts₂) :
    parseMembers ctx scope condition (m :: ms) = .ok (ts₁ ++ ts₂) := by
  obtain ⟨name, arg⟩ := m
  unfold parseMembers
  cases hm with
  | options h => simpa [h] using hms
  | item hne hb h =>
    obtain ⟨member, members, rfl⟩ := List.exists_cons_of_ne_nil hne
    simp [hb, h, hms]
  | itemQuery hne hb h =>
    obtain ⟨member, members, rfl⟩ := List.exists_cons_of_ne_nil hne
    obtain ⟨inner, hinner, h⟩ := bind_eq_ok.1 h
    obtain rfl := Except.ok.inj h
    simp [hb, hinner, hms]
  | negation hb h => simp [hb, h, hms]
  | simple hname h =>
    split
    case h_4 => simp [h, hms]
    all_goals exact absurd (by simp) hname

theorem parseMembers_iff : parseMembers ctx scope condition ms = .ok ts ↔
    ∃ tss, List.Forall₂ (Member ctx scope condition) ms tss ∧ ts = tss.flatten := by
  induction ms generalizing ts with
  | nil =>
    simp only [List.forall₂_nil_left_iff, exists_eq_left, parseMembers, List.flatten_nil]
    exact ⟨fun h => (Except.ok.inj h).symm, fun h => congrArg _ h.symm⟩
  | cons m ms ih =>
    constructor
    · intro h
      obtain ⟨ts₁, ts₂, hm, hms, rfl⟩ := exists_member_of_parseMembers h
      obtain ⟨tss, htss, rfl⟩ := ih.1 hms
      exact ⟨ts₁ :: tss, .cons hm htss, rfl⟩
    · rintro ⟨tss, htss, rfl⟩
      obtain ⟨ts₁, rest, hm, hrest, rfl⟩ := List.forall₂_cons_left_iff.1 htss
      exact hm.parseMembers_cons (ih.2 ⟨rest, hrest, rfl⟩)

theorem parseSimple_congr {condition' : Entries Json}
    (h : Entries.get? "$options" condition' = Entries.get? "$options" condition) (name : String) (arg : Json) :
    parseSimple scope ctx condition' name arg = parseSimple scope ctx condition name arg := by
  simp only [parseSimple, parsePattern, h]

/-- Of the condition that a member stands in, only the options count, and to the options only whether there is a
pattern. -/
theorem Member.congr {condition' : Entries Json}
    (hoptions : Entries.get? "$options" condition' = Entries.get? "$options" condition)
    (hpattern : m.1 = "$options" → hasPattern condition' = hasPattern condition)
    (hm : Member ctx scope condition m ts) : Member ctx scope condition' m ts := by
  cases hm with
  | options h => exact .options ((hpattern rfl).trans h)
  | item hne hb h => exact .item hne hb h
  | itemQuery hne hb h => exact .itemQuery hne hb h
  | negation hb h => exact .negation hb h
  | simple hname h => exact .simple hname ((parseSimple_congr hoptions _ _).trans h)

/-- The value is one to be equal to, and no condition: it is no object with an operator as a key. -/
def IsValue (j : Json) : Prop := ∀ members, j = .object members → ∀ m ∈ members, isDollar m.1 = false

theorem parseCondition_of_isCondition {members : Entries Json} (hc : isCondition members = true) :
    parseCondition ctx scope (.object members) = parseMembers ctx scope members members := if_pos hc

theorem parseCondition_of_isValue {j : Json} (hj : IsValue j) : parseCondition ctx scope j = .ok [.eq (.ofJson j)] := by
  cases j with
  | object members =>
    have hplain := hj members rfl
    have hc : isCondition members = false := by
      cases members with
      | nil => rfl
      | cons m members => simp [isCondition, hplain m List.mem_cons_self]
    have hany : members.any (fun m => isDollar m.1) = false := by simpa using fun k j hm => hplain (k, j) hm
    simp [parseCondition, hc, hany]
  | _ => rfl

/-- What can be read as the condition of a field is an object of operators or a value to be equal to. -/
theorem parseCondition_cases {j : Json} (h : parseCondition ctx scope j = .ok ts) :
    (∃ members, j = .object members ∧ isCondition members = true) ∨ IsValue j := by
  unfold parseCondition at h
  split at h
  · next members =>
    split at h
    · next hc => exact .inl ⟨members, rfl, hc⟩
    · split at h
      · cases h
      · next hany =>
        refine .inr ?_
        rintro _ ⟨⟩ m hm
        by_contra hd
        exact hany (List.any_eq_true.2 ⟨m, hm, Bool.of_not_eq_false hd⟩)
  · next hj =>
    refine .inr fun members hmembers => ?_
    exact absurd hmembers (hj members)

end Test

end DocFlow
