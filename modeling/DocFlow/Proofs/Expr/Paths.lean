import DocFlow.Expr.Eval

/-!
# Paths of an expression

An expression that calls no function of the host program only sees a document at the paths that it names
(`Expr.paths`): documents that have the same values there give the same value, or the same error (`Expr.eval_congr`).
-/

namespace DocFlow

variable {d d' : Document} {p : Path} {ps ps' : List Path}

/-! ## Documents that agree -/

/-- Two documents have the same values at some paths. -/
def Document.AgreeOn (ps : List Path) (d d' : Document) : Prop := ∀ p ∈ ps, d.get p = d'.get p

theorem Document.agreeOn_cons : AgreeOn (p :: ps) d d' ↔ d.get p = d'.get p ∧ AgreeOn ps d d' :=
  List.forall_mem_cons

theorem Document.agreeOn_append : AgreeOn (ps ++ ps') d d' ↔ AgreeOn ps d d' ∧ AgreeOn ps' d d' :=
  List.forall_mem_append

def Operand.paths : Operand → List Path
  | literal _ => []
  | field p => [p]

theorem Operand.resolve_congr {o : Operand} (h : Document.AgreeOn o.paths d d') : o.resolve d = o.resolve d' := by
  cases o with
  | literal v => rfl
  | field p => exact h p List.mem_cons_self

/-! ## Paths of expressions -/

namespace Expr

mutual

/-- The paths of the fields that an expression refers to. -/
def paths : Expr → List Path
  | operand o => o.paths
  | value e => e.paths
  | extract source _ _ => source.paths
  | timestamp source _ _ _ => source.paths
  | arithmetic _ left right => left.paths ++ right.paths
  | letterCase _ source => source.paths
  | toNumber source => source.paths
  | concat parts => pathsOfParts parts
  | substr source _ _ => source.paths
  | substring source _ _ => source.paths
  | datePart _ source _ => source.paths
  | object fields => pathsOfFields fields
  | call _ => []

def pathsOfParts : List Expr → List Path
  | [] => []
  | e :: es => e.paths ++ pathsOfParts es

def pathsOfFields : List (String × Expr) → List Path
  | [] => []
  | (_, e) :: es => e.paths ++ pathsOfFields es

end

mutual

def CallFree : Expr → Prop
  | operand _ => True
  | value e => e.CallFree
  | extract source _ _ => source.CallFree
  | timestamp source _ _ _ => source.CallFree
  | arithmetic _ left right => left.CallFree ∧ right.CallFree
  | letterCase _ source => source.CallFree
  | toNumber source => source.CallFree
  | concat parts => PartsCallFree parts
  | substr source _ _ => source.CallFree
  | substring source _ _ => source.CallFree
  | datePart _ source _ => source.CallFree
  | object fields => FieldsCallFree fields
  | call _ => False

def PartsCallFree : List Expr → Prop
  | [] => True
  | e :: es => e.CallFree ∧ PartsCallFree es

def FieldsCallFree : List (String × Expr) → Prop
  | [] => True
  | (_, e) :: es => e.CallFree ∧ FieldsCallFree es

end

/-! ## Values -/

open Document (AgreeOn agreeOn_append)

mutual

/-- Documents that agree on the paths of an expression without calls give the same value or error. -/
theorem eval_congr {scope : Scope} :
    ∀ e : Expr, e.CallFree → AgreeOn e.paths d d' → e.eval d scope = e.eval d' scope
  | .operand _, _, h => congrArg Except.ok (Operand.resolve_congr h)
  | .value e, hcall, h => eval_congr e hcall h
  | .extract source _ _, hcall, h => congrArg (· >>= _) (eval_congr source hcall h)
  | .timestamp source _ _ _, hcall, h => congrArg (· >>= _) (eval_congr source hcall h)
  | .arithmetic op left right, hcall, h => by
    obtain ⟨hleft, hright⟩ := agreeOn_append.1 h
    simp only [eval, eval_congr left hcall.1 hleft, eval_congr right hcall.2 hright]
  | .letterCase true source, hcall, h => congrArg (· >>= _) (eval_congr source hcall h)
  | .letterCase false source, hcall, h => congrArg (· >>= _) (eval_congr source hcall h)
  | .toNumber source, hcall, h => congrArg (· >>= _) (eval_congr source hcall h)
  | .concat parts, hcall, h => joinParts_congr parts hcall h ""
  | .substr source _ _, hcall, h => congrArg (· >>= _) (eval_congr source hcall h)
  | .substring source _ _, hcall, h => congrArg (· >>= _) (eval_congr source hcall h)
  | .datePart _ source _, hcall, h => congrArg (· >>= _) (eval_congr source hcall h)
  | .object fields, hcall, h => congrArg (· >>= _) (evalFields_congr fields hcall h (fun _ => scope) [])

theorem joinParts_congr {scope : Scope} :
    ∀ es : List Expr, PartsCallFree es → AgreeOn (pathsOfParts es) d d' →
      ∀ done, joinParts d scope done es = joinParts d' scope done es
  | [], _, _, _ => rfl
  | e :: es, hcall, h, done => by
    obtain ⟨he, hes⟩ := agreeOn_append.1 h
    simp only [joinParts, eval_congr e hcall.1 he, joinParts_congr es hcall.2 hes]

theorem evalFields_congr :
    ∀ fields : List (String × Expr), FieldsCallFree fields → AgreeOn (pathsOfFields fields) d d' →
      ∀ scopeOf done, evalFields d scopeOf done fields = evalFields d' scopeOf done fields
  | [], _, _, _, _ => rfl
  | (key, e) :: fields, hcall, h, scopeOf, done => by
    obtain ⟨he, hfields⟩ := agreeOn_append.1 h
    simp only [evalFields, eval_congr e hcall.1 he, evalFields_congr fields hcall.2 hfields]

end

end Expr

end DocFlow
