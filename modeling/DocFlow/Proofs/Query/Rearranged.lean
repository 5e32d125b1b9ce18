import DocFlow.Proofs.Query.Conjunction
import DocFlow.Proofs.Query.Plain

/-!
# Specifications in another order

A specification is rearranged by writing the members of its objects and the items of its combinations in another order,
at any depth (`Query.Rearranged`).  What a list of members is read as is rearranged with the list
(`Reordered.exists_forall₂`), and a list of plain queries or tests gives the same answer in any order.  So a
specification without harmful operators never fails, and rearranged it can still be read and answers the same
(`Query.accepts_of_rearranged`).
-/

namespace DocFlow

/-! ## Related lists -/

/-- The one list is the other in another order, with items that are related. -/
inductive Reordered {α : Type} (R : α → α → Prop) : List α → List α → Prop
  | nil : Reordered R [] []
  | cons {a a' : α} {as as' : List α} (ha : R a a') (has : Reordered R as as') : Reordered R (a :: as) (a' :: as')
  | perm {as between as' : List α} (hperm : as.Perm between) (h : Reordered R between as') : Reordered R as as'

namespace Reordered

variable {α β ε : Type} {R : α → α → Prop} {as as' : List α}

/-- What the relation keeps of each item is permuted with the list. -/
theorem perm_map {f : α → β} (h : Reordered R as as') (hf : ∀ a a', R a a' → f a' = f a) :
    (as.map f).Perm (as'.map f) := by
  induction h with
  | nil => exact .nil
  | cons ha _ ih =>
    rw [List.map_cons, List.map_cons, hf _ _ ha]
    exact ih.cons _
  | perm hperm _ ih => exact (hperm.map f).trans ih

theorem ne_nil (h : Reordered R as as') (hne : as ≠ []) : as' ≠ [] := by
  induction h with
  | nil => exact hne
  | cons => exact List.cons_ne_nil _ _
  | perm hperm _ ih => exact ih fun hnil => hne (hnil ▸ hperm).eq_nil

/-- If each item of a reordered list can be read as something alike, then so can the list, in its order. -/
theorem exists_forall₂ {S S' : α → β → Prop} {E : β → β → Prop} {bs : List β} (h : Reordered R as as')
    (hS : List.Forall₂ S as bs) (hstep : ∀ a ∈ as, ∀ b ∈ bs, ∀ a', R a a' → S a b → ∃ b', S' a' b' ∧ E b b') :
    ∃ bs', List.Forall₂ S' as' bs' ∧ Reordered E bs bs' := by
  induction h generalizing bs with
  | nil =>
    obtain rfl := List.forall₂_nil_left_iff.1 hS
    exact ⟨[], .nil, .nil⟩
  | cons ha _ ih =>
    obtain ⟨b, rest, hb, hrest, rfl⟩ := List.forall₂_cons_left_iff.1 hS
    obtain ⟨b', hb', hE⟩ := hstep _ List.mem_cons_self b List.mem_cons_self _ ha hb
    obtain ⟨bs', hbs', hEs⟩ :=
      ih hrest fun a ha b hb => hstep a (List.mem_cons_of_mem _ ha) b (List.mem_cons_of_mem _ hb)
    exact ⟨b' :: bs', .cons hb' hbs', .cons hE hEs⟩
  | perm hperm _ ih =>
    -- In the order between, the items are read as the same things in that order.
    obtain ⟨cs, hcs, hbs⟩ := List.perm_comp_forall₂ hperm.symm hS
    obtain ⟨bs', hbs', hE⟩ := ih hcs fun a ha b hb => hstep a (hperm.mem_iff.2 ha) b (hbs.mem_iff.1 hb)
    exact ⟨bs', hbs', .perm hbs.symm hE⟩

/-- A conjunction of checks that do not fail does not depend on their order. -/
theorem allM_eq {p : α → Except ε Bool} (h : Reordered R as as') (hp : ∀ a ∈ as, ∃ b, p a = .ok b)
    (hR : ∀ a a', R a a' → p a' = p a) : as'.allM p = as.allM p := by
  induction h with
  | nil => rfl
  | cons ha _ ih => rw [List.allM_cons, List.allM_cons, hR _ _ ha, ih fun a ha => hp a (List.mem_cons_of_mem _ ha)]
  | perm hperm _ ih => exact (ih fun a ha => hp a (hperm.mem_iff.2 ha)).trans (Except.allM_perm hp hperm)

theorem anyM_eq {p : α → Except ε Bool} (h : Reordered R as as') (hp : ∀ a ∈ as, ∃ b, p a = .ok b)
    (hR : ∀ a a', R a a' → p a' = p a) : as'.anyM p = as.anyM p := by
  rw [Except.anyM_eq_not_allM_not, Except.anyM_eq_not_allM_not]
  refine congrArg _ (h.allM_eq (fun a ha => ?_) fun a a' ha => congrArg _ (hR a a' ha))
  obtain ⟨b, hb⟩ := hp a ha
  exact ⟨!b, by rw [hb]; rfl⟩

end Reordered

/-! ## Rearranged specifications -/

mutual

/-- The member of a specification is the other, rearranged inside. -/
inductive Query.MemberRearranged : String × Json → String × Json → Prop
  | same (m : String × Json) : Query.MemberRearranged m m
  | combination {key : String} {items items' : List Json} (hk : key ∈ ["$and", "$or", "$nor"])
    (h : Reordered Query.ItemRearranged items items') :
    Query.MemberRearranged (key, .array items) (key, .array items')
  | condition {key : String} {members members' : Entries Json} (hk : isDollar key = false)
    (hc : Test.isCondition members = true) (hd : members.Distinct)
    (h : Reordered Test.MemberRearranged members members') :
    Query.MemberRearranged (key, .object members) (key, .object members')

/-- The specification is the other, rearranged. -/
inductive Query.ItemRearranged : Json → Json → Prop
  | object {members members' : Entries Json} (h : Reordered Query.MemberRearranged members members') :
    Query.ItemRearranged (.object members) (.object members')

/-- The member of a condition is the other, rearranged inside. -/
inductive Test.MemberRearranged : String × Json → String × Json → Prop
  | same (m : String × Json) : Test.MemberRearranged m m
  | negation {body body' : Entries Json} (hd : body.Distinct) (h : Reordered Test.MemberRearranged body body') :
    Test.MemberRearranged ("$not", .object body) ("$not", .object body')
  | item {body body' : Entries Json} (hb : Test.isItemCondition body = true) (hd : body.Distinct)
    (h : Reordered Test.MemberRearranged body body') :
    Test.MemberRearranged ("$elemMatch", .object body) ("$elemMatch", .object body')
  | itemQuery {body body' : Entries Json} (hb : Test.isItemCondition body = false)
    (h : Reordered Query.MemberRearranged body body') :
    Test.MemberRearranged ("$elemMatch", .object body) ("$elemMatch", .object body')

end

/-- The members of the one specification are those of the other in another order, and so at any depth: the items of its
combinations, the members of its conditions, and those of the bodies of `$not` and `$elemMatch`. -/
def Query.Rearranged : Entries Json → Entries Json → Prop := Reordered Query.MemberRearranged

/-- The members of the one condition are those of the other in another order, and so at any depth.  Inside a
specification, a condition is rearranged if it holds each key once, as an object does: options are looked up by key. -/
def Test.Rearranged : Entries Json → Entries Json → Prop := Reordered Test.MemberRearranged

variable {ctx : Context} {scope : Scope} {members members' body body' : Entries Json} {m m' : String × Json}
  {key : String} {q q' : Query} {qs qs' : List Query} {ts ts' : List Test} {tss tss' : List (List Test)}

/-! ## Keys and options -/

theorem Query.MemberRearranged.key_eq (h : MemberRearranged m m') : m'.1 = m.1 := by
  cases h <;> rfl

theorem Test.MemberRearranged.key_eq (h : MemberRearranged m m') : m'.1 = m.1 := by
  cases h <;> rfl

theorem Query.Rearranged.perm_keys (h : Rearranged members members') :
    (Entries.keys members).Perm (Entries.keys members') :=
  Reordered.perm_map h fun _ _ hm => hm.key_eq

theorem Test.Rearranged.perm_keys (h : Rearranged members members') :
    (Entries.keys members).Perm (Entries.keys members') :=
  Reordered.perm_map h fun _ _ hm => hm.key_eq

theorem Entries.all_keys {α : Type} (p : String → Bool) (es : Entries α) : (es.all fun e => p e.1) = (keys es).all p :=
  List.all_map.symm

theorem Entries.any_keys {α : Type} (p : String → Bool) (es : Entries α) : (es.any fun e => p e.1) = (keys es).any p :=
  List.any_map.symm

namespace Test

theorem isCondition_eq_of_perm (h : (Entries.keys members).Perm (Entries.keys members')) :
    isCondition members' = isCondition members := by
  have hempty : members'.isEmpty = members.isEmpty := by
    rw [← List.isEmpty_map (f := Prod.fst), ← List.isEmpty_map (f := Prod.fst)]
    exact h.symm.isEmpty_eq
  unfold isCondition
  rw [hempty, Entries.all_keys isDollar, Entries.all_keys isDollar, h.all_eq]

theorem isItemCondition_eq_of_perm (h : (Entries.keys members).Perm (Entries.keys members')) :
    isItemCondition members' = isItemCondition members := by
  let p : String → Bool := fun key => Family.query.has key && key ≠ "$and" && key ≠ "$or" && key ≠ "$nor"
  show (members'.all fun m => p m.1) = members.all fun m => p m.1
  rw [Entries.all_keys p, Entries.all_keys p, h.all_eq]

theorem hasPattern_eq_of_perm (h : (Entries.keys members).Perm (Entries.keys members')) :
    hasPattern members' = hasPattern members := by
  have hkey (key : String) : Entries.hasKey key members' = Entries.hasKey key members := by
    unfold Entries.hasKey
    rw [Entries.any_keys (· = key), Entries.any_keys (· = key), h.any_eq]
  unfold hasPattern
  rw [hkey, hkey]

/-- Options have no parts that could be rearranged, so a condition keeps its options. -/
theorem Rearranged.get?_options (h : Rearranged members members') (hd : members.Distinct) :
    Entries.get? "$options" members' = Entries.get? "$options" members := by
  have hd' : members'.Distinct := h.perm_keys.nodup_iff.1 hd
  let options (m : String × Json) : Option Json := if m.1 = "$options" then some m.2 else none
  have hmem (members : Entries Json) (j : Json) : ("$options", j) ∈ members ↔ some j ∈ members.map options := by
    simp [options]
  have hperm : (members.map options).Perm (members'.map options) := by
    refine Reordered.perm_map h fun m m' hm => ?_
    cases hm <;> rfl
  ext j
  rw [Entries.get?_eq_some_iff hd', Entries.get?_eq_some_iff hd, hmem, hmem, hperm.mem_iff]

end Test

/-! ## Answers -/

/-- The queries have the same answer on every document. -/
def Query.Agree (q q' : Query) : Prop := ∀ d, q'.accepts d = q.accepts d

/-- The tests have the same answer on every value of every document. -/
def Test.Agree (ts ts' : List Test) : Prop := ∀ d scope v, allHold d scope v ts' = allHold d scope v ts

theorem Query.allAccept_eq (h : Reordered Agree qs qs') (hqs : AllPlain qs) (d : Document) :
    allAccept d qs' = allAccept d qs := by
  rw [allAccept_eq_allM, allAccept_eq_allM]
  exact h.allM_eq (fun q hq => (allPlain_iff.1 hqs q hq).exists_accepts d) fun q q' hq => hq d

theorem Query.someAccepts_eq (h : Reordered Agree qs qs') (hqs : AllPlain qs) (d : Document) :
    someAccepts d qs' = someAccepts d qs := by
  rw [someAccepts_eq_anyM, someAccepts_eq_anyM]
  exact h.anyM_eq (fun q hq => (allPlain_iff.1 hqs q hq).exists_accepts d) fun q q' hq => hq d

theorem Query.Combines.agree {make : List Query → Query} (hk : Combines key make) (h : Reordered Agree qs qs')
    (hqs : AllPlain qs) : Agree (make qs) (make qs') := by
  intro d
  cases hk with
  | all => exact allAccept_eq h hqs d
  | any => exact someAccepts_eq h hqs d
  | neither =>
    show (do return !(← someAccepts d qs')) = (do return !(← someAccepts d qs) : Except Error Bool)
    rw [someAccepts_eq h hqs d]

theorem Query.Combines.plain_iff {make : List Query → Query} (hk : Combines key make) :
    (make qs).Plain ↔ AllPlain qs := by
  cases hk <;> exact Iff.rfl

theorem Query.agree_together (h : Reordered Agree qs qs') (hqs : AllPlain qs) :
    Agree (together qs) (together qs') := by
  intro d
  rw [accepts_together, accepts_together]
  exact allAccept_eq h hqs d

theorem Test.agree_flatten (h : Reordered Agree tss tss') (htss : AllPlain tss.flatten) :
    Agree tss.flatten tss'.flatten := by
  intro d scope v
  simp only [allHold_eq_allM, Except.allM_flatten]
  refine h.allM_eq (fun ts hts => ?_) fun ts ts' hts => ?_
  · have hplain : AllPlain ts := allPlain_iff.2 fun t ht => allPlain_iff.1 htss t (List.mem_flatten_of_mem hts ht)
    obtain ⟨b, hb⟩ := exists_allHold d scope v ts hplain
    exact ⟨b, by rw [← allHold_eq_allM, hb]⟩
  · rw [← allHold_eq_allM, ← allHold_eq_allM]
    exact hts d scope v

/-! ## Reading -/

/-- A rearranged object is read, as a specification of a query or as a condition, as something that agrees with what the
object is read as. -/
structure Query.Rearranges (ctx : Context) (j : Json) : Prop where
  query : ∀ members members', j = .object members → Rearranged members members' →
    ∀ q, parse ctx (.object members) = .ok q → q.Plain → ∃ q', parse ctx (.object members') = .ok q' ∧ Agree q q'
  tests : ∀ members members', j = .object members → Entries.Distinct members → Test.Rearranged members members' →
    ∀ scope ts, Test.parseMembers ctx scope members members = .ok ts → Test.AllPlain ts →
      ∃ ts', Test.parseMembers ctx scope members' members' = .ok ts' ∧ Test.Agree ts ts'

section Members

variable (hm : m ∈ members) (hinside : ∀ part, part.Inside (.object members) → Query.Rearranges ctx part)

include hm hinside

theorem Query.MemberRearranged.exists_member (hr : MemberRearranged m m') (h : Member ctx m q) (hq : q.Plain) :
    ∃ q', Member ctx m' q' ∧ Agree q q' := by
  cases hr with
  | same => exact ⟨q, h, fun _ => rfl⟩
  | @combination key items items' hk hitems =>
    cases h with
    | @combination _ make _ qs hmake hne h =>
      have hqs : AllPlain qs := hmake.plain_iff.1 hq
      have hitems' :
          ∃ qs', List.Forall₂ (fun item q => parse ctx item = .ok q) items' qs' ∧ Reordered Agree qs qs' := by
        refine hitems.exists_forall₂ h fun item hitem q hq item' hr hparse => ?_
        obtain ⟨hr⟩ := hr
        exact (hinside _ (Json.Inside.trans (.item hitem) (.member hm))).query _ _ rfl hr q hparse
          (allPlain_iff.1 hqs q hq)
      obtain ⟨qs', hqs', hagree⟩ := hitems'
      exact ⟨make qs', .combination hmake (hitems.ne_nil hne) hqs', hmake.agree hagree hqs⟩
    | call => simp at hk
    | field hdollar =>
      simp at hk
      rcases hk with rfl | rfl | rfl <;> cases hdollar
  | @condition key members members' hk hc hd hr =>
    cases h with
    | call => cases hk
    | field _ h =>
      rw [Test.parseCondition_of_isCondition hc] at h
      obtain ⟨ts', hts', hagree⟩ := (hinside _ (.member hm)).tests _ _ rfl hd hr _ _ h hq
      have hc' : Test.isCondition members' = true :=
        (Test.isCondition_eq_of_perm (Test.Rearranged.perm_keys hr)).trans hc
      refine ⟨_, .field hk ((Test.parseCondition_of_isCondition hc').trans hts'), fun d => ?_⟩
      exact hagree d _ _

theorem Test.MemberRearranged.exists_member {condition : Entries Json} (hr : MemberRearranged m m')
    (h : Member ctx scope condition m ts) (hts : AllPlain ts) :
    ∃ ts', Member ctx scope condition m' ts' ∧ Agree ts ts' := by
  cases hr with
  | same => exact ⟨ts, h, fun _ _ _ => rfl⟩
  | @negation body body' hd hr =>
    obtain ⟨inner, hc, hinner, rfl⟩ := h.of_not
    obtain ⟨inner', hinner', hagree⟩ := (hinside _ (.member hm)).tests _ _ rfl hd hr _ _ hinner hts.1
    have hc' : isCondition body' = true := (isCondition_eq_of_perm (Rearranged.perm_keys hr)).trans hc
    refine ⟨_, .negation hc' hinner', fun d scope v => ?_⟩
    simp only [allHold, holds, hagree d scope v]
  | @item body body' hb hd hr =>
    obtain ⟨hne, ⟨inner, -, hinner, rfl⟩ | ⟨_, hb', -, -⟩⟩ := h.of_elemMatch
    · obtain ⟨inner', hinner', hagree⟩ := (hinside _ (.member hm)).tests _ _ rfl hd hr _ _ hinner hts.1
      have hb' : isItemCondition body' = true := (isItemCondition_eq_of_perm (Rearranged.perm_keys hr)).trans hb
      refine ⟨_, .item (hr.ne_nil hne) hb' hinner', fun d scope v => ?_⟩
      simp only [allHold, holds, hagree d scope]
    · cases hb.symm.trans hb'
  | @itemQuery body body' hb hr =>
    obtain ⟨hne, ⟨_, hb', -, -⟩ | ⟨inner, -, hinner, rfl⟩⟩ := h.of_elemMatch
    · cases hb.symm.trans hb'
    · obtain ⟨inner', hinner', hagree⟩ := (hinside _ (.member hm)).query _ _ rfl hr _ hinner hts.1
      have hb' : isItemCondition body' = false := (isItemCondition_eq_of_perm (Query.Rearranged.perm_keys hr)).trans hb
      refine ⟨_, .itemQuery (hr.ne_nil hne) hb' hinner', fun d scope v => ?_⟩
      simp only [allHold, holds, hagree _]

end Members

theorem Query.rearranges (ctx : Context) (j : Json) : Rearranges ctx j := by
  induction j using Json.inside_induction with
  | step j hinside =>
    constructor
    · rintro members members' rfl hr q hq hplain
      obtain ⟨qs, hqs, rfl⟩ := parse_object_iff.1 hq
      rw [plain_together] at hplain
      obtain ⟨qs', hqs', hagree⟩ := Reordered.exists_forall₂ (E := Agree) hr hqs fun m hm q hq m' hr h =>
        hr.exists_member hm hinside h (allPlain_iff.1 hplain q hq)
      exact ⟨together qs', parse_object_iff.2 ⟨qs', hqs', rfl⟩, agree_together hagree hplain⟩
    · rintro members members' rfl hd hr scope ts hts hplain
      obtain ⟨tss, htss, rfl⟩ := Test.parseMembers_iff.1 hts
      -- The members are read in the one condition and in the other, but only its options count.
      have hoptions := hr.get?_options hd
      have hpattern := Test.hasPattern_eq_of_perm hr.perm_keys
      obtain ⟨tss', htss', hagree⟩ :=
        Reordered.exists_forall₂ (E := Test.Agree) hr htss fun m hm ts hts m' hr h => by
          have hts : Test.AllPlain ts :=
            Test.allPlain_iff.2 fun t ht => Test.allPlain_iff.1 hplain t (List.mem_flatten_of_mem hts ht)
          obtain ⟨ts', hm', hagree⟩ := hr.exists_member hm hinside h hts
          exact ⟨ts', hm'.congr hoptions fun _ => hpattern, hagree⟩
      exact ⟨tss'.flatten, Test.parseMembers_iff.2 ⟨tss', htss', rfl⟩, Test.agree_flatten hagree hplain⟩

namespace Query

/-- A specification without an operator that calls a function of the host program or takes candidates from a field is
read as a query that answers on every document, and rearranged it is read as a query with the same answers. -/
theorem accepts_of_rearranged (h : parse ctx (.object members) = .ok q)
    (huses : ∀ name arg, Uses name arg members → Test.Harmless name arg) :
    (∀ d, ∃ b, q.accepts d = .ok b) ∧ ∀ members', Rearranged members members' →
      ∃ q', parse ctx (.object members') = .ok q' ∧ ∀ d, q'.accepts d = q.accepts d := by
  have hplain : q.Plain := plain_parse h huses
  exact ⟨fun d => hplain.exists_accepts d,
    fun members' hr => (rearranges ctx _).query members members' rfl hr q h hplain⟩

/-- The members, the items of the combination and four conditions are in another order. -/
theorem accepts_of_rearranged_combination :
    let number (n : Int) : Json := .number (.int n)
    let range : Entries Json := [("$gte", number 2), ("$lt", number 5)]
    let listed : Entries Json := [("$in", .array [number 1, .string "none"]), ("$size", number 3)]
    let flags : Entries Json := [("$regex", .string ""), ("$options", .string "i")]
    let absent : Json := .object [("name", .object [("$exists", .bool false)])]
    let members : Entries Json := [("sizes", .object [("$elemMatch", .object range), ("$not", .object listed)]),
      ("$or", .array [.object [("name", .object flags)], absent])]
    let members' : Entries Json := [("$or", .array [absent, .object [("name", .object flags.reverse)]]),
      ("sizes", .object [("$not", .object listed.reverse), ("$elemMatch", .object range.reverse)])]
    Rearranged members members' ∧ (∀ name arg, Uses name arg members → Test.Harmless name arg) ∧
    ∃ q, parse .default (.object members) = .ok q ∧ (∀ d, ∃ b, q.accepts d = .ok b) ∧
      ∃ q', parse .default (.object members') = .ok q' ∧ ∀ d, q'.accepts d = q.accepts d := by
  intro number range listed flags absent members members'
  have hreversed : ∀ {e e' : String × Json}, Test.Rearranged [e, e'] [e', e] :=
    fun {e e'} => .perm (.swap e' e []) (.cons (.same e') (.cons (.same e) .nil))
  have hr : Rearranged members members' := by
    refine .perm (.swap _ _ []) (.cons (.combination (by simp) (.perm (.swap _ _ []) ?_)) (.cons ?_ .nil))
    · refine .cons (.object (.cons (.same _) .nil)) (.cons (.object (.cons ?_ .nil)) .nil)
      exact .condition rfl (by simp [flags, Test.isCondition, isDollar]) (by decide) hreversed
    · refine .condition rfl (by simp [Test.isCondition, isDollar]) (by decide) (.perm (.swap _ _ []) ?_)
      exact .cons (.negation (by decide) hreversed) (.cons (.item (by decide) (by decide) hreversed) .nil)
  have hsizes : ∀ name arg, Test.Uses name arg [("$elemMatch", .object range), ("$not", .object listed)] →
      Test.Harmless name arg := by
    rintro name arg (h | ⟨hm, hu⟩ | ⟨hm, hb, hu⟩ | ⟨hm, hb, hu⟩)
    · obtain ⟨rfl, -⟩ | ⟨rfl, -⟩ : (name = "$elemMatch" ∧ _) ∨ (name = "$not" ∧ _) := by simpa using h
      · simp [Test.Harmless]
      · simp [Test.Harmless]
    · obtain rfl : _ = listed := by simpa using hm
      exact Test.harmless_of_flat (by simp [listed, number, Test.Harmless, Json.reference?]) hu
    · obtain rfl : _ = range := by simpa using hm
      exact Test.harmless_of_flat (by simp [range, number, Test.Harmless]) hu
    · obtain rfl : _ = range := by simpa using hm
      cases hb
  have hname : ∀ {condition : Entries Json}, (∀ m ∈ condition, Test.Harmless m.1 m.2 ∧ ∀ body, m.2 ≠ .object body) →
      ∀ name arg, Uses name arg [("name", .object condition)] → Test.Harmless name arg := by
    rintro condition hcondition name arg (h | ⟨hm, -, -, -⟩ | ⟨hm, -, -, hu⟩)
    · obtain ⟨rfl, -⟩ : _ ∧ _ := by simpa using h
      simp [Test.Harmless]
    · simp at hm
    · obtain ⟨-, rfl⟩ : _ ∧ _ := by simpa using hm
      exact Test.harmless_of_flat hcondition hu
  have huses : ∀ name arg, Uses name arg members → Test.Harmless name arg := by
    rintro name arg (h | ⟨hm, -, hi, hu⟩ | ⟨hm, -, -, hu⟩)
    · have hall : ∀ m ∈ members, Test.Harmless m.1 m.2 := by simp [members, Test.Harmless]
      exact hall _ h
    · obtain ⟨-, rfl⟩ : _ ∧ _ := by simpa [members] using hm
      obtain rfl | rfl : _ = [("name", Json.object flags)] ∨ _ = [("name", Json.object [("$exists", .bool false)])] := by
        simpa [absent] using hi
      · exact hname (by simp [flags, Test.Harmless]) name arg hu
      · exact hname (by simp [Test.Harmless]) name arg hu
    · obtain ⟨-, rfl⟩ : _ ∧ _ := by simpa [members] using hm
      exact hsizes name arg hu
  obtain ⟨q, hq⟩ : ∃ q, parse .default (.object members) = .ok q := by
    simp only [members, range, listed, flags, absent, number]
    exact ⟨_, rfl⟩
  obtain ⟨hanswers, hsame⟩ := accepts_of_rearranged hq huses
  exact ⟨hr, huses, q, hq, hanswers, hsame members' hr⟩

end Query

end DocFlow
