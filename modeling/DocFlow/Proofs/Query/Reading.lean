import DocFlow.Proofs.Argument
import DocFlow.Proofs.Error
import DocFlow.Proofs.Json.Inside
import DocFlow.Query.Parser

/-!
# Errors of reading a query

Queries and conditions hold each other, so what is proved of reading them is proved of both at once, by induction
over the specification (`Query.Reads`).  Every error of reading a query is one of construction
(`Query.failsOnly_parse`).
-/

namespace DocFlow

open DocFlow.Except (FailsOnly)
open DocFlow.Error (OfConstruction)

variable {ctx : Context} {scope : Scope} {condition : Entries Json} {name : String} {arg : Json}

/-! ## Plain tests -/

namespace Test

theorem failsOnly_parseFlags {cs : List Char} {flags : Regex.Flags} :
    FailsOnly OfConstruction (parseFlags scope flags cs) := by
  fun_induction parseFlags scope flags cs with
  | case1 flags => exact .ok _
  | case2 flags cs ih | case3 flags cs ih | case4 flags cs ih | case5 flags cs ih => exact ih
  | case6 flags c cs => exact .error rfl

theorem failsOnly_parsePattern : FailsOnly OfConstruction (parsePattern scope name condition arg) := by
  unfold parsePattern
  refine .bind (Argument.failsOnly_text rfl) fun pattern _ => ?_
  have hrest (options : String) : FailsOnly OfConstruction (do
      let flags ← parseFlags scope .default options.toList
      Argument.pattern scope name flags pattern) :=
    .bind failsOnly_parseFlags fun _ _ => Argument.failsOnly_pattern fun _ => rfl
  dsimp only
  split
  · exact .bind (Argument.failsOnly_text rfl) fun options _ => hrest options
  · exact hrest ""

theorem failsOnly_parseCandidates : FailsOnly OfConstruction (parseCandidates scope name arg) := by
  unfold parseCandidates
  split
  · exact .ok _
  · exact .error rfl
  · exact .ok _

theorem failsOnly_parseComparison {c : Comparison} :
    FailsOnly OfConstruction (parseComparison scope c arg) := by
  unfold parseComparison
  split
  · split
    · exact .ok _
    · exact .error rfl
  · exact .ok _

theorem failsOnly_parsePresence : FailsOnly OfConstruction (parsePresence scope arg) := by
  unfold parsePresence
  split
  · exact .ok _
  · exact .ok _
  · exact .error rfl

theorem failsOnly_parseModulo : FailsOnly OfConstruction (parseModulo scope arg) := by
  unfold parseModulo
  split
  · split
    · exact .error rfl
    · exact .ok _
  · exact .error rfl

theorem failsOnly_parseContents : FailsOnly OfConstruction (parseContents scope arg) := by
  unfold parseContents
  split
  · exact .ok _
  · exact .error rfl

theorem failsOnly_parseSize : FailsOnly OfConstruction (parseSize scope arg) := by
  unfold parseSize
  split
  · exact .ok _
  · exact .error rfl

/-- A test whose argument holds no tests. -/
theorem failsOnly_parseSimple : FailsOnly OfConstruction (parseSimple scope ctx condition name arg) := by
  unfold parseSimple
  split
  · exact failsOnly_parseComparison
  split
  case h_1 | h_2 => exact .ok _
  case h_3 | h_4 => exact .bind failsOnly_parseCandidates fun _ _ => .ok _
  case h_5 | h_6 => exact .bind failsOnly_parsePattern fun _ _ => .ok _
  case h_7 => exact .bind failsOnly_parsePresence fun _ _ => .ok _
  case h_8 => exact failsOnly_parseModulo
  case h_9 => exact .bind failsOnly_parseContents fun _ _ => .ok _
  case h_10 => exact .bind failsOnly_parseSize fun _ _ => .ok _
  case h_11 => exact .bind (Argument.failsOnly_function rfl fun _ => rfl) fun _ _ => .ok _
  case h_12 => exact .error rfl

end Test

/-! ## Queries and conditions -/

/-- The errors of reading the value as a part of a query, wherever it may stand there, are of construction. -/
structure Query.Reads (ctx : Context) (j : Json) : Prop where
  items : ∀ key, FailsOnly OfConstruction (parseItems ctx key j)
  condition : ∀ scope, FailsOnly OfConstruction (Test.parseCondition ctx scope j)
  members : ∀ members, j = .object members → FailsOnly OfConstruction (parseMembers ctx members)
  tests : ∀ members, j = .object members → ∀ scope condition,
    FailsOnly OfConstruction (Test.parseMembers ctx scope condition members)

theorem Query.failsOnly_parseMembers {members : List (String × Json)} (h : ∀ m ∈ members, Reads ctx m.2) :
    FailsOnly OfConstruction (parseMembers ctx members) := by
  induction members with
  | nil => exact .ok _
  | cons m members ih =>
    obtain ⟨key, arg⟩ := m
    obtain ⟨harg, hmembers⟩ := List.forall_mem_cons.1 h
    unfold parseMembers
    refine .bind ?_ fun q _ => .bind (ih hmembers) fun _ _ => .ok _
    split
    case h_1 | h_2 | h_3 => exact .bind (harg.items _) fun _ _ => .ok _
    case h_4 => exact .bind (Argument.failsOnly_function rfl fun _ => rfl) fun _ _ => .ok _
    case h_5 =>
      split
      · exact .error rfl
      · exact .bind (harg.condition _) fun _ _ => .ok _

theorem Query.failsOnly_parseList {key : String} {items : List Json} (h : ∀ item ∈ items, Reads ctx item) :
    FailsOnly OfConstruction (parseList ctx key items) := by
  induction items with
  | nil => exact .ok _
  | cons item items ih =>
    obtain ⟨hitem, hitems⟩ := List.forall_mem_cons.1 h
    unfold parseList
    split
    · cases ‹_ = []›
    · rename_i members rest heq
      cases heq
      exact .bind (hitem.members members rfl) fun _ _ => .bind (ih hitems) fun _ _ => .ok _
    · exact .error rfl

theorem Test.failsOnly_parseMembers {members : List (String × Json)} (h : ∀ m ∈ members, Query.Reads ctx m.2) :
    FailsOnly OfConstruction (parseMembers ctx scope condition members) := by
  induction members with
  | nil => exact .ok _
  | cons m members ih =>
    obtain ⟨name, arg⟩ := m
    obtain ⟨harg, hmembers⟩ := List.forall_mem_cons.1 h
    unfold parseMembers
    split
    case h_1 =>
      split
      · exact .error rfl
      · exact ih hmembers
    case h_2 =>
      split
      · rename_i member members
        refine .bind ?_ fun _ _ => .bind (ih hmembers) fun _ _ => .ok _
        split
        · exact .bind (harg.tests _ rfl _ _) fun _ _ => .ok _
        · exact .bind (harg.members _ rfl) fun _ _ => .ok _
      · exact .error rfl
    case h_3 =>
      split
      · split
        · exact .error rfl
        · exact .bind (harg.tests _ rfl _ _) fun _ _ => .bind (ih hmembers) fun _ _ => .ok _
      · exact .error rfl
    case h_4 => exact .bind failsOnly_parseSimple fun _ _ => .bind (ih hmembers) fun _ _ => .ok _

theorem Query.reads (ctx : Context) (j : Json) : Reads ctx j := by
  induction j using Json.inside_induction with
  | step j hinside =>
    have hmembers {members : List (String × Json)} (hj : j = .object members) : ∀ m ∈ members, Reads ctx m.2 :=
      fun m hm => hinside m.2 (hj ▸ .member hm)
    refine ⟨fun key => ?_, fun scope => ?_, fun members hj => failsOnly_parseMembers (hmembers hj),
      fun members hj scope condition => Test.failsOnly_parseMembers (hmembers hj)⟩
    · unfold parseItems
      split
      · exact failsOnly_parseList fun item hitem => hinside item (.item hitem)
      · exact .error rfl
    · unfold Test.parseCondition
      split
      · split
        · exact Test.failsOnly_parseMembers (hmembers rfl)
        · split
          · exact .error rfl
          · exact .ok _
      · exact .ok _

/-- Every error of reading a query is one of construction. -/
theorem Query.failsOnly_parse (ctx : Context) (j : Json) : FailsOnly OfConstruction (parse ctx j) := by
  unfold parse
  split
  · exact .bind ((reads ctx _).members _ rfl) fun _ _ => .ok _
  · exact .error rfl

end DocFlow
