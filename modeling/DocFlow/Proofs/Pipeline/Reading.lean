import DocFlow.Pipeline
import DocFlow.Proofs.Expr.Reading
import DocFlow.Proofs.Query.Reading

/-!
# Errors of building a pipeline

Whatever the specification, the options and the functions of the host program: a pipeline is built, or there is an
error of construction (`Pipeline.failsOnly_build`).
-/

namespace DocFlow

open DocFlow.Except (FailsOnly)
open DocFlow.Error (OfConstruction)

variable {ctx : Context} {scope : Scope}

/-! ## Expressions and projections -/

theorem Expr.covers_ofConstruction (ctx : Context) : Covers ctx fun _ => OfConstruction where
  fault _ := rfl
  mono _ h := h
  refusal _ _ accepted operator scope := by
    unfold expecting
    dsimp only
    split
    · exact .ok _
    · exact .error rfl

/-- Every error of reading an operator is one of construction. -/
theorem Expr.failsOnly_operator (members : List (String × Json)) :
    FailsOnly OfConstruction (parseOperator scope ctx members) :=
  (covers_ofConstruction ctx).parseOperator fun part _ => (covers_ofConstruction ctx).parse part

theorem Projection.failsOnly_parseFields (members : List (String × Json)) :
    FailsOnly OfConstruction (parseFields ctx members) := by
  induction members with
  | nil => exact .ok _
  | cons member members ih =>
    unfold parseFields
    dsimp only
    split
    · exact .error rfl
    · exact .bind ((Expr.covers_ofConstruction ctx).parseField _ _) fun _ _ => .bind ih fun _ _ => .ok _

theorem Projection.failsOnly_parse (j : Json) : FailsOnly OfConstruction (parse ctx j) := by
  unfold parse
  split
  · dsimp only
    split
    · exact .bind (failsOnly_parseFields _) fun _ _ => .ok _
    · split
      · exact .error rfl
      · exact .ok _
  · exact .error rfl

/-! ## Groups -/

namespace GroupKey

theorem failsOnly_parseMembers {members : List (String × Json)}
    (h : ∀ m ∈ members, FailsOnly OfConstruction (parse scope ctx m.2)) :
    FailsOnly OfConstruction (parseMembers scope ctx members) := by
  induction members with
  | nil => exact .ok _
  | cons member members ih =>
    obtain ⟨hmember, hmembers⟩ := List.forall_mem_cons.1 h
    unfold parseMembers
    exact .bind hmember fun _ _ => .bind (ih hmembers) fun _ _ => .ok _

theorem failsOnly_parseItems {items : List Json} (h : ∀ item ∈ items, FailsOnly OfConstruction (parse scope ctx item)) :
    FailsOnly OfConstruction (parseItems scope ctx items) := by
  induction items with
  | nil => exact .ok _
  | cons item items ih =>
    obtain ⟨hitem, hitems⟩ := List.forall_mem_cons.1 h
    unfold parseItems
    exact .bind hitem fun _ _ => .bind (ih hitems) fun _ _ => .ok _

theorem failsOnly_parse (j : Json) : FailsOnly OfConstruction (parse scope ctx j) := by
  induction j using Json.inside_induction with
  | step j hinside =>
    unfold parse
    split
    · split
      · exact .bind (Expr.failsOnly_operator _) fun _ _ => .ok _
      · split
        · exact .error rfl
        · exact .bind (failsOnly_parseMembers fun m hm => hinside m.2 (.member hm)) fun _ _ => .ok _
    · exact .bind (failsOnly_parseItems fun item hitem => hinside item (.item hitem)) fun _ _ => .ok _
    · exact .ok _

end GroupKey

namespace Accumulator

theorem failsOnly_parseOperator {name : String} {arg : Json} :
    FailsOnly OfConstruction (parseOperator scope ctx name arg) := by
  unfold parseOperator
  split
  · exact .bind (Argument.failsOnly_function rfl fun _ => rfl) fun _ _ => .ok _
  · refine .bind ((Expr.covers_ofConstruction ctx).parse arg scope) fun source _ => ?_
    split
    · exact .error rfl
    · split
      · split
        · exact .error rfl
        · exact .ok _
      · exact .ok _

theorem failsOnly_parseMembers {scopeOf : String → Scope} {members : List (String × Json)}
    (h : ∀ m ∈ members, ∀ scope, FailsOnly OfConstruction (parse scope ctx m.2)) :
    FailsOnly OfConstruction (parseMembers scopeOf ctx members) := by
  induction members with
  | nil => exact .ok _
  | cons member members ih =>
    obtain ⟨hmember, hmembers⟩ := List.forall_mem_cons.1 h
    unfold parseMembers
    exact .bind (hmember (scopeOf member.1)) fun _ _ => .bind (ih hmembers) fun _ _ => .ok _

theorem failsOnly_parse (j : Json) : ∀ scope, FailsOnly OfConstruction (parse scope ctx j) := by
  induction j using Json.inside_induction with
  | step j hinside =>
    intro scope
    unfold parse
    split
    · split
      · exact failsOnly_parseOperator
      · split
        · exact .bind (failsOnly_parseMembers fun m hm => hinside m.2 (.member hm)) fun _ _ => .ok _
        · exact .error rfl
    · exact .error rfl

end Accumulator

namespace Grouping

theorem failsOnly_parse (j : Json) : FailsOnly OfConstruction (parse ctx j) := by
  unfold parse
  split
  · split
    · exact .error rfl
    · refine .bind (GroupKey.failsOnly_parse _) fun _ _ => .bind ?_ fun _ _ => .ok _
      exact Accumulator.failsOnly_parseMembers fun m _ => Accumulator.failsOnly_parse m.2
  · exact .error rfl

end Grouping

/-! ## Orders -/

namespace SortKey

theorem failsOnly_parseDirection (j : Json) : FailsOnly OfConstruction (parseDirection j) := by
  unfold parseDirection
  split
  · exact .ok _
  · exact .ok _
  · exact .error rfl

theorem failsOnly_parsePairs (items : List Json) : FailsOnly OfConstruction (parsePairs items) := by
  induction items with
  | nil => exact .ok _
  | cons item items ih =>
    unfold parsePairs
    split
    · exact .ok _
    · rename_i heq
      cases heq
      exact .bind (failsOnly_parseDirection _) fun _ _ => .bind ih fun _ _ => .ok _
    · exact .error rfl

theorem failsOnly_parseMembers (members : List (String × Json)) : FailsOnly OfConstruction (parseMembers members) := by
  induction members with
  | nil => exact .ok _
  | cons member members ih =>
    unfold parseMembers
    exact .bind (failsOnly_parseDirection _) fun _ _ => .bind ih fun _ _ => .ok _

theorem failsOnly_parse (j : Json) : FailsOnly OfConstruction (parse j) := by
  unfold parse
  refine .bind ?_ fun keys _ => ?_
  · split
    · exact failsOnly_parsePairs _
    · exact failsOnly_parseMembers _
    · exact .error rfl
  · split
    · exact .error rfl
    · exact .ok _

end SortKey

/-! ## Stages -/

namespace Stage

theorem failsOnly_parseCount (name : StageName) (j : Json) : FailsOnly OfConstruction (parseCount name j) := by
  unfold parseCount
  split
  · exact .ok _
  · exact .error rfl

theorem failsOnly_parseUnwindPath (j : Json) : FailsOnly OfConstruction (parseUnwindPath j) := by
  unfold parseUnwindPath
  dsimp only
  split
  · exact .ok _
  · exact .error rfl

theorem failsOnly_parseNamed (cap : Option Nat) (name : String) (j : Json) :
    FailsOnly OfConstruction (parseNamed ctx cap name j) := by
  unfold parseNamed
  split
  case h_1 => exact .bind (Query.failsOnly_parse ctx j) fun _ _ => .ok _
  case h_2 => exact .bind (Projection.failsOnly_parse j) fun _ _ => .ok _
  case h_3 => exact .bind (Grouping.failsOnly_parse j) fun _ _ => .ok _
  case h_4 => exact .bind (SortKey.failsOnly_parse j) fun _ _ => .ok _
  case h_5 | h_6 => exact .bind (failsOnly_parseCount _ j) fun _ _ => .ok _
  case h_7 => exact .bind (failsOnly_parseUnwindPath j) fun _ _ => .ok _
  case h_8 => exact .error rfl

theorem failsOnly_parse (cap : Option Nat) (j : Json) : FailsOnly OfConstruction (parse ctx cap j) := by
  unfold parse
  split
  · exact failsOnly_parseNamed cap _ _
  · exact .error rfl
  · exact .error rfl

end Stage

theorem Chain.failsOnly_parse (cap : Option Nat) (js : List Json) : FailsOnly OfConstruction (parse ctx cap js) := by
  induction js with
  | nil => exact .ok _
  | cons j js ih =>
    unfold parse
    exact .bind (Stage.failsOnly_parse cap j) fun _ _ => .bind ih fun _ _ => .ok _

/-! ## Pipelines -/

theorem Options.failsOnly_offset (o : Options) : FailsOnly OfConstruction o.offset := by
  unfold offset
  split
  · exact .ok _
  · exact .error rfl

theorem Options.failsOnly_validate (o : Options) : FailsOnly OfConstruction o.validate := by
  unfold validate
  refine .bind o.failsOnly_offset fun _ _ => ?_
  split
  · exact .error rfl
  · exact .ok _

/-- Every error of building a pipeline is one of construction. -/
theorem Pipeline.failsOnly_build (options : Options) (registry : Registry) (spec : Json) :
    FailsOnly OfConstruction (build options registry spec) := by
  unfold build
  refine .bind options.failsOnly_validate fun _ _ => ?_
  split
  · exact .error rfl
  · exact .bind options.failsOnly_offset fun _ _ => .bind (Chain.failsOnly_parse _ _) fun _ _ => .ok _
  · exact .error rfl

end DocFlow
