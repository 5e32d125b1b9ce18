import DocFlow.Proofs.Json.Inside
import DocFlow.Proofs.Query.Members

/-!
# Queries that do not fail

A query fails where a function of the host program fails, and where a field that is to hold candidates holds no array.
A query without these is plain (`Query.Plain`), and its answer is a truth value on every document
(`Query.Plain.exists_accepts`), so that a list of plain queries or tests is a conjunction or disjunction of truth values
and its order does not count.  A specification in which no such operator stands at any depth (`Query.Uses`) is read as a
plain query (`Query.plain_parse`).
-/

namespace DocFlow

variable {ctx : Context} {scope : Scope} {d : Document} {q : Query} {qs : List Query} {t : Test} {ts : List Test}

/-! ## Plain queries -/

mutual

/-- The query calls no function of the host program and takes no candidates from a field. -/
def Query.Plain : Query → Prop
  | .all qs => Query.AllPlain qs
  | .any qs => Query.AllPlain qs
  | .neither qs => Query.AllPlain qs
  | .call _ => False
  | .field _ tests => Test.AllPlain tests

def Query.AllPlain : List Query → Prop
  | [] => True
  | q :: qs => q.Plain ∧ Query.AllPlain qs

/-- The test calls no function of the host program and takes no candidates from a field. -/
def Test.Plain : Test → Prop
  | .among o => ∃ items, o = .literal (.array items)
  | .notAmong o => ∃ items, o = .literal (.array items)
  | .item tests => Test.AllPlain tests
  | .itemQuery q => q.Plain
  | .negation tests => Test.AllPlain tests
  | .call _ => False
  | _ => True

def Test.AllPlain : List Test → Prop
  | [] => True
  | t :: ts => t.Plain ∧ Test.AllPlain ts

end

theorem Query.allPlain_iff : AllPlain qs ↔ ∀ q ∈ qs, q.Plain := by
  induction qs with
  | nil => simp [AllPlain]
  | cons q qs ih => simp [AllPlain, ih]

theorem Test.allPlain_iff : AllPlain ts ↔ ∀ t ∈ ts, t.Plain := by
  induction ts with
  | nil => simp [AllPlain]
  | cons t ts ih => simp [AllPlain, ih]

theorem Query.plain_together : (together qs).Plain ↔ AllPlain qs := by
  match qs with
  | [] => exact Iff.rfl
  | [q] => simp [together, AllPlain]
  | _ :: _ :: _ => exact Iff.rfl

/-! ## Answers -/

theorem exists_firstPassing {p : Value → Except Error Bool} {vs : List Value} (h : ∀ v, ∃ b, p v = .ok b) :
    ∃ b, firstPassing p vs = .ok b := by
  induction vs with
  | nil => exact ⟨false, rfl⟩
  | cons v vs ih =>
    obtain ⟨b, hb⟩ := h v
    cases b with
    | true => exact ⟨true, by simp [firstPassing, hb]⟩
    | false =>
      obtain ⟨b', hb'⟩ := ih
      exact ⟨b', by simp [firstPassing, hb, hb']⟩

mutual

/-- A plain query answers on every document. -/
theorem Query.Plain.exists_accepts (d : Document) : ∀ {q : Query}, q.Plain → ∃ b, q.accepts d = .ok b
  | .all qs, h => Query.exists_allAccept d qs h
  | .any qs, h => Query.exists_someAccepts d qs h
  | .neither qs, h => by
    obtain ⟨b, hb⟩ := Query.exists_someAccepts d qs h
    exact ⟨!b, by simp [Query.accepts, hb]⟩
  | .field path tests, h => Test.exists_allHold d _ (d.get path) tests h

theorem Query.exists_allAccept (d : Document) : ∀ qs : List Query, Query.AllPlain qs → ∃ b, Query.allAccept d qs = .ok b
  | [], _ => ⟨true, rfl⟩
  | q :: qs, h => by
    obtain ⟨b, hb⟩ := Query.Plain.exists_accepts d h.1
    obtain ⟨b', hb'⟩ := Query.exists_allAccept d qs h.2
    exact ⟨b && b', by cases b <;> simp [Query.allAccept, hb, hb']⟩

theorem Query.exists_someAccepts (d : Document) :
    ∀ qs : List Query, Query.AllPlain qs → ∃ b, Query.someAccepts d qs = .ok b
  | [], _ => ⟨false, rfl⟩
  | q :: qs, h => by
    obtain ⟨b, hb⟩ := Query.Plain.exists_accepts d h.1
    obtain ⟨b', hb'⟩ := Query.exists_someAccepts d qs h.2
    exact ⟨b || b', by cases b <;> simp [Query.someAccepts, hb, hb']⟩

theorem Test.Plain.exists_holds (d : Document) (scope : Scope) (v : Value) :
    ∀ {t : Test}, t.Plain → ∃ b, t.holds d scope v = .ok b
  | .eq _, _ | .ne _, _ | .compare _ _, _ | .matching _, _ | .present _, _ | .modulo _ _, _ | .containsAll _, _
  | .size _, _ => ⟨_, rfl⟩
  | .among _, ⟨items, ho⟩ => by
    subst ho
    exact ⟨_, rfl⟩
  | .notAmong _, ⟨items, ho⟩ => by
    subst ho
    exact ⟨_, rfl⟩
  | .item tests, h => by
    unfold Test.holds
    split
    · exact exists_firstPassing fun item => Test.exists_allHold d scope item tests h
    · exact ⟨false, rfl⟩
  | .itemQuery q, h => by
    unfold Test.holds
    split
    · refine exists_firstPassing fun item => ?_
      split
      · exact Query.Plain.exists_accepts _ h
      · exact ⟨false, rfl⟩
    · exact ⟨false, rfl⟩
  | .negation tests, h => by
    obtain ⟨b, hb⟩ := Test.exists_allHold d scope v tests h
    exact ⟨!b, by simp [Test.holds, hb]⟩

theorem Test.exists_allHold (d : Document) (scope : Scope) (v : Value) :
    ∀ ts : List Test, Test.AllPlain ts → ∃ b, Test.allHold d scope v ts = .ok b
  | [], _ => ⟨true, rfl⟩
  | t :: ts, h => by
    obtain ⟨b, hb⟩ := Test.Plain.exists_holds d scope v h.1
    obtain ⟨b', hb'⟩ := Test.exists_allHold d scope v ts h.2
    exact ⟨b && b', by cases b <;> simp [Test.allHold, hb, hb']⟩

end

/-! ## Operators of a specification -/

mutual

/-- An operator stands with its argument in a specification of a query, at any depth. -/
inductive Query.Uses (name : String) (arg : Json) : Entries Json → Prop
  | here {members : Entries Json} (h : (name, arg) ∈ members) : Query.Uses name arg members
  | combination {members inner : Entries Json} {key : String} {items : List Json}
    (hm : (key, .array items) ∈ members) (hk : key ∈ ["$and", "$or", "$nor"]) (hi : .object inner ∈ items)
    (h : Query.Uses name arg inner) : Query.Uses name arg members
  | condition {members condition : Entries Json} {key : String} (hm : (key, .object condition) ∈ members)
    (hk : isDollar key = false) (hc : Test.isCondition condition = true) (h : Test.Uses name arg condition) :
    Query.Uses name arg members

/-- An operator stands with its argument in a condition, at any depth. -/
inductive Test.Uses (name : String) (arg : Json) : Entries Json → Prop
  | here {condition : Entries Json} (h : (name, arg) ∈ condition) : Test.Uses name arg condition
  | negation {condition body : Entries Json} (hm : ("$not", .object body) ∈ condition) (h : Test.Uses name arg body) :
    Test.Uses name arg condition
  | item {condition body : Entries Json} (hm : ("$elemMatch", .object body) ∈ condition)
    (hb : Test.isItemCondition body = true) (h : Test.Uses name arg body) : Test.Uses name arg condition
  | itemQuery {condition body : Entries Json} (hm : ("$elemMatch", .object body) ∈ condition)
    (hb : Test.isItemCondition body = false) (h : Query.Uses name arg body) : Test.Uses name arg condition

end

/-- The operator calls no function of the host program and takes no candidates from a field. -/
def Test.Harmless (name : String) (arg : Json) : Prop :=
  name ≠ "$call" ∧ (name = "$in" ∨ name = "$nin" → arg.reference? = none)

/-- A condition that holds no other one is harmless if its members are. -/
theorem Test.harmless_of_flat {condition : Entries Json} {name : String} {arg : Json}
    (h : ∀ m ∈ condition, Harmless m.1 m.2 ∧ ∀ body, m.2 ≠ .object body) (hu : Uses name arg condition) :
    Harmless name arg := by
  cases hu with
  | here hm => exact (h _ hm).1
  | negation hm => exact absurd rfl ((h _ hm).2 _)
  | item hm => exact absurd rfl ((h _ hm).2 _)
  | itemQuery hm => exact absurd rfl ((h _ hm).2 _)

theorem Test.exists_items_of_parseCandidates {operator : String} {arg : Json} {o : Operand}
    (harg : arg.reference? = none) (h : parseCandidates scope operator arg = .ok o) :
    ∃ items, o = .literal (.array items) := by
  unfold parseCandidates at h
  rw [Operand.ofJson_of_reference? harg] at h
  split at h
  · exact ⟨_, (Except.ok.inj h).symm⟩
  · cases h
  · next hne => exact absurd rfl (hne _)

theorem Test.plain_of_parseSimple {condition : Entries Json} {name : String} {arg : Json} (hop : Harmless name arg)
    (h : parseSimple scope ctx condition name arg = .ok t) : t.Plain := by
  unfold parseSimple at h
  split at h
  · unfold parseComparison at h
    split at h
    · split at h
      · obtain rfl := Except.ok.inj h
        trivial
      · cases h
    · obtain rfl := Except.ok.inj h
      trivial
  split at h
  case h_1 | h_2 =>
    obtain rfl := Except.ok.inj h
    trivial
  case h_3 | h_4 =>
    obtain ⟨o, ho, h⟩ := Except.bind_eq_ok.1 h
    obtain rfl := Except.ok.inj h
    exact exists_items_of_parseCandidates (hop.2 (by simp)) ho
  case h_5 | h_6 | h_7 | h_9 | h_10 =>
    obtain ⟨_, _, h⟩ := Except.bind_eq_ok.1 h
    obtain rfl := Except.ok.inj h
    trivial
  case h_8 =>
    unfold parseModulo at h
    split at h
    · split at h
      · cases h
      · obtain rfl := Except.ok.inj h
        trivial
    · cases h
  case h_11 => exact absurd rfl hop.1
  case h_12 => cases h

theorem forall_mem_of_forall₂ {α β : Type} {R : α → β → Prop} {P : β → Prop} {as : List α} {bs : List β}
    (h : List.Forall₂ R as bs) (hP : ∀ a ∈ as, ∀ b, R a b → P b) : ∀ b ∈ bs, P b := by
  induction h with
  | nil => exact nofun
  | cons hab _ ih =>
    obtain ⟨ha, has⟩ := List.forall_mem_cons.1 hP
    exact List.forall_mem_cons.2 ⟨ha _ hab, ih has⟩

/-- An object in which no harmful operator stands is read as something plain, whether as a specification of a query or as
a condition. -/
structure Query.ReadsPlain (ctx : Context) (j : Json) : Prop where
  query : ∀ members, j = .object members → (∀ name arg, Query.Uses name arg members → Test.Harmless name arg) →
    ∀ q, parse ctx (.object members) = .ok q → q.Plain
  tests : ∀ members, j = .object members → (∀ name arg, Test.Uses name arg members → Test.Harmless name arg) →
    ∀ scope condition ts, Test.parseMembers ctx scope condition members = .ok ts → Test.AllPlain ts

theorem Query.plain_of_member {members : Entries Json} {m : String × Json} (hm : m ∈ members)
    (hinside : ∀ part, part.Inside (.object members) → ReadsPlain ctx part)
    (huses : ∀ name arg, Uses name arg members → Test.Harmless name arg) (h : Member ctx m q) : q.Plain := by
  cases h with
  | @combination key make items qs hk hne h =>
    have hall : AllPlain qs := by
      refine allPlain_iff.2 (forall_mem_of_forall₂ h fun item hitem q hq => ?_)
      cases item with
      | object inner =>
        refine (hinside _ (Json.Inside.trans (.item hitem) (.member hm))).query inner rfl (fun name arg hu => ?_) q hq
        refine huses name arg (.combination hm ?_ hitem hu)
        cases hk <;> simp
      | _ => cases hq
    cases hk <;> exact hall
  | call h => exact absurd rfl (huses _ _ (.here hm)).1
  | @field key arg ts hk h =>
    rcases Test.parseCondition_cases h with ⟨condition, rfl, hc⟩ | hvalue
    · rw [Test.parseCondition_of_isCondition hc] at h
      exact (hinside _ (.member hm)).tests condition rfl
        (fun name arg hu => huses name arg (.condition hm hk hc hu)) _ _ ts h
    · rw [Test.parseCondition_of_isValue hvalue] at h
      obtain rfl := Except.ok.inj h
      exact ⟨trivial, trivial⟩

theorem Test.plain_of_member {members condition : Entries Json} {m : String × Json} (hm : m ∈ members)
    (hinside : ∀ part, part.Inside (.object members) → Query.ReadsPlain ctx part)
    (huses : ∀ name arg, Uses name arg members → Harmless name arg) (h : Member ctx scope condition m ts) :
    AllPlain ts := by
  cases h with
  | options h => trivial
  | item hne hb h =>
    exact ⟨(hinside _ (.member hm)).tests _ rfl (fun name arg hu => huses name arg (.item hm hb hu)) _ _ _ h, trivial⟩
  | itemQuery hne hb h =>
    exact ⟨(hinside _ (.member hm)).query _ rfl (fun name arg hu => huses name arg (.itemQuery hm hb hu)) _ h, trivial⟩
  | negation hb h =>
    exact ⟨(hinside _ (.member hm)).tests _ rfl (fun name arg hu => huses name arg (.negation hm hu)) _ _ _ h, trivial⟩
  | simple hname h => exact ⟨plain_of_parseSimple (huses _ _ (.here hm)) h, trivial⟩

theorem Query.readsPlain (ctx : Context) (j : Json) : ReadsPlain ctx j := by
  induction j using Json.inside_induction with
  | step j hinside =>
    constructor
    · rintro members rfl huses q hq
      obtain ⟨qs, hqs, rfl⟩ := parse_object_iff.1 hq
      rw [plain_together, allPlain_iff]
      exact forall_mem_of_forall₂ hqs fun m hm q h => plain_of_member hm hinside huses h
    · rintro members rfl huses scope condition ts hts
      obtain ⟨tss, htss, rfl⟩ := Test.parseMembers_iff.1 hts
      have hall := forall_mem_of_forall₂ htss fun m hm ts h => Test.plain_of_member hm hinside huses h
      rw [Test.allPlain_iff]
      intro t ht
      obtain ⟨ts, hts, ht⟩ := List.mem_flatten.1 ht
      exact Test.allPlain_iff.1 (hall ts hts) t ht

/-- A specification in which no operator calls a function of the host program or takes candidates from a field is read
as a plain query. -/
theorem Query.plain_parse {members : Entries Json} (h : parse ctx (.object members) = .ok q)
    (huses : ∀ name arg, Uses name arg members → Test.Harmless name arg) : q.Plain :=
  (readsPlain ctx _).query members rfl huses q h

end DocFlow
