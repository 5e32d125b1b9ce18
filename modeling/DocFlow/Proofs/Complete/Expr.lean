import DocFlow.Group.Key
import DocFlow.Proofs.Complete.Value
import DocFlow.Proofs.Expr.Kinds
import DocFlow.Proofs.Json.Inside
import DocFlow.Stage.Projection

/-!
# Expressions that leave nothing missing

An expression is tidy if its values for complete documents are (`Expr.Tidy`).  Most operators give no containers,
so the kinds of their values are enough to know; objects leave out what is missing; and the functions of the host
program are tidy by assumption (`Registry.Tidy`).  So every expression that is read is tidy (`Expr.tidy_parse`,
`Expr.tidy_parseField`), the keys of groups are complete (`GroupKey.complete_parse`), and projections keep documents
complete (`Projection.tidy_parse`).
-/

namespace DocFlow

open DocFlow.Except (Yields)

/-- The functions of the host program give tidy values. -/
structure Registry.Tidy (r : Registry) : Prop where
  projectors : ∀ f ∈ r.projectors, ∀ d v, f.2 d = .ok v → v.Tidy
  reducers : ∀ f ∈ r.reducers, ∀ v d w, f.2 v d = .ok w → w.Tidy

/-- A function that is found by its name is one of those registered. -/
theorem Argument.exists_of_function {F : Type} {scope : Scope} {notName : OperatorFault}
    {unknown : String → OperatorFault} {registered : Entries F} {j : Json} {f : Named F}
    (h : Argument.function scope notName unknown registered j = .ok f) : (f.name, f.run) ∈ registered := by
  obtain ⟨name, _, h⟩ := Except.bind_eq_ok.1 h
  split at h
  · rename_i hf
    obtain rfl := Except.ok.inj h
    obtain ⟨run, hrun, rfl⟩ := Option.map_eq_some_iff.1 hf
    exact Entries.mem_of_get? hrun
  · cases h

namespace Expr

variable {ctx : Context} {scope : Scope} {j : Json} {d : Document}

/-- The values of the expression for complete documents are tidy. -/
def Tidy (e : Expr) : Prop := ∀ ⦃d⦄ scope, d.Complete → Yields Value.Tidy (e.eval d scope)

/-- An expression that gives no containers is tidy. -/
theorem tidy_of_kinds {e : Expr} (harray : e.kinds.contains .array = false)
    (hdocument : e.kinds.contains .document = false) : e.Tidy := by
  intro d scope _ v hv
  have hkind := kind_of_eval e hv
  refine Value.tidy_of_kind ?_ ?_ <;> intro h <;> rw [h] at hkind
  · exact absurd hkind (by simp [harray])
  · exact absurd hkind (by simp [hdocument])

theorem tidy_field (p : Path) : (operand (.field p)).Tidy := fun _ _ hd => .ok hd.get

theorem tidy_ofJson (j : Json) : (operand (.ofJson j)).Tidy := by
  unfold Operand.ofJson
  split
  · exact tidy_field _
  · exact fun _ _ _ => .ok (.inr (Value.complete_ofJson j))

theorem tidy_value {e : Expr} (h : e.Tidy) : (value e).Tidy := h

theorem complete_evalFields {scopeOf : String → Scope} {fields : List (String × Expr)} {done : Entries Value}
    (hd : d.Complete) (hfields : ∀ f ∈ fields, f.2.Tidy) (hdone : Fields.Complete done) :
    Yields Fields.Complete (evalFields d scopeOf done fields) := by
  induction fields generalizing done with
  | nil => exact .ok hdone
  | cons f fields ih =>
    obtain ⟨hf, hfields⟩ := List.forall_mem_cons.1 hfields
    refine .bind fun v hv => ?_
    have hv := hf (scopeOf f.1) hd v hv
    split
    · exact ih hfields hdone
    · rename_i hthere
      exact ih hfields (hdone.put (hv.complete hthere))

theorem tidy_object {fields : List (String × Expr)} (h : ∀ f ∈ fields, f.2.Tidy) : (object fields).Tidy := by
  intro d scope hd
  refine .bind fun fields hfields => .ok (.inr ?_)
  exact Value.complete_document_iff.2 (complete_evalFields hd h Fields.complete_nil fields hfields)

theorem tidy_parseCall (hr : ctx.registry.Tidy) {arg : Json} : Yields Tidy (parseCall scope ctx arg) := by
  refine .bind fun f hf => .ok fun d scope _ v hv => ?_
  have hmem := Argument.exists_of_function hf
  have hcall : scope.call "$call" (f.run d) = .ok v := hv
  unfold Scope.call at hcall
  split at hcall
  · rename_i hrun
    obtain rfl := Except.ok.inj hcall
    exact hr.projectors _ hmem d _ hrun
  · cases hcall

/-! ## Expressions that are read -/

theorem tidy_parseOperator (hr : ctx.registry.Tidy) {members : List (String × Json)}
    (hread : ∀ part, part.Inside (.object members) → ∀ scope, Yields Tidy (parse scope ctx part)) :
    Yields Tidy (parseOperator scope ctx members) := by
  unfold parseOperator
  split
  swap
  · exact .error _
  rename_i name arg
  have harg : arg.Inside (.object [(name, arg)]) := .member List.mem_cons_self
  split
  · exact .error _
  split
  · split
    · exact .bind fun _ _ => .bind fun _ _ => .bind fun _ _ => .bind fun _ _ => .ok (tidy_of_kinds rfl rfl)
    · exact .error _
  · exact .bind fun _ _ => .bind fun _ _ => .ok (tidy_of_kinds rfl rfl)
  · split
    case h_1 =>
      split
      · exact .ok (tidy_value (tidy_field _))
      · exact .bind fun e he => .ok (tidy_value (hread arg harg scope e he))
    case h_2 =>
      split
      · exact .bind fun _ _ => .bind fun _ _ => .bind fun _ _ => .bind fun _ _ => .ok (tidy_of_kinds rfl rfl)
      · exact .error _
    case h_3 =>
      split
      · refine .bind fun _ _ => .bind fun _ _ => .bind fun _ _ => ?_
        split
        · exact .ok (tidy_of_kinds rfl rfl)
        · exact .error _
      · exact .error _
    case h_4 => exact .bind fun _ _ => .bind fun _ _ => .ok (tidy_of_kinds rfl rfl)
    case h_5 => exact .bind fun _ _ => .bind fun _ _ => .ok (tidy_of_kinds rfl rfl)
    case h_6 => exact .bind fun _ _ => .bind fun _ _ => .ok (tidy_of_kinds rfl rfl)
    case h_7 =>
      split
      · exact .bind fun _ _ => .bind fun _ _ => .bind fun _ _ => .ok (tidy_of_kinds rfl rfl)
      · exact .error _
    case h_8 =>
      split
      · exact .bind fun _ _ => .bind fun _ _ => .bind fun _ _ => .bind fun _ _ => .ok (tidy_of_kinds rfl rfl)
      · exact .error _
    case h_9 =>
      split
      · exact .bind fun _ _ => .bind fun _ _ => .bind fun _ _ => .ok (tidy_of_kinds rfl rfl)
      · exact .bind fun _ _ => .bind fun _ _ => .bind fun _ _ => .bind fun _ _ => .ok (tidy_of_kinds rfl rfl)
      · exact .error _
    case h_10 => exact tidy_parseCall hr
    case h_11 => exact .error _

/-- An expression that is read is tidy. -/
theorem tidy_parse (hr : ctx.registry.Tidy) (j : Json) : ∀ scope, Yields Tidy (parse scope ctx j) := by
  induction j using Json.inside_induction with
  | step j hread =>
    intro scope
    unfold parse
    split
    · split
      · exact tidy_parseOperator hr hread
      · exact .ok (tidy_ofJson _)
    · exact .ok (tidy_ofJson _)

theorem tidy_parseFields {members : List (String × Json)}
    (hfield : ∀ m ∈ members, ∀ scope, Yields Tidy (parseField scope ctx m.2)) :
    Yields (fun fields => ∀ f ∈ fields, f.2.Tidy) (parseFields scope ctx members) := by
  induction members with
  | nil => exact .ok nofun
  | cons m members ih =>
    obtain ⟨key, part⟩ := m
    obtain ⟨hpart, hmembers⟩ := List.forall_mem_cons.1 hfield
    unfold parseFields
    dsimp only
    split
    · exact .error _
    · refine .bind fun e he => .bind fun fields hfields => .ok ?_
      exact List.forall_mem_cons.2 ⟨hpart _ e he, ih hmembers fields hfields⟩

theorem tidy_parseField (hr : ctx.registry.Tidy) (j : Json) : ∀ scope, Yields Tidy (parseField scope ctx j) := by
  induction j using Json.inside_induction with
  | step j hfield =>
    intro scope
    unfold parseField
    split
    · split
      · exact tidy_parseOperator hr fun part _ => tidy_parse hr part
      · split
        · exact .error _
        · split
          · exact .error _
          · refine .bind fun fields hfields => .ok (tidy_object ?_)
            exact tidy_parseFields (fun m hm => hfield m.2 (.member hm)) fields hfields
    · split
      · exact .ok (tidy_field _)
      · exact .ok (tidy_ofJson _)

end Expr

/-! ## Keys of groups -/

namespace GroupKey

variable {ctx : Context} {scope : Scope} {d : Document}

def Complete (key : GroupKey) : Prop := ∀ ⦃d⦄ scope, d.Complete → Yields Value.Complete (key.eval d scope)

theorem complete_computed {e : Expr} (h : e.Tidy) : (computed e).Complete := fun _ scope hd =>
  .bind fun v hv => .ok (h scope hd v hv).orNull

theorem complete_evalMembers {parts : List (String × GroupKey)} {done : Entries Value} (hd : d.Complete)
    (hparts : ∀ p ∈ parts, p.2.Complete) (hdone : Fields.Complete done) :
    Yields Fields.Complete (evalMembers d scope done parts) := by
  induction parts generalizing done with
  | nil => exact .ok hdone
  | cons part parts ih =>
    obtain ⟨hpart, hparts⟩ := List.forall_mem_cons.1 hparts
    exact .bind fun v hv => ih hparts (hdone.put (hpart scope hd v hv))

theorem complete_object {parts : List (String × GroupKey)} (h : ∀ p ∈ parts, p.2.Complete) :
    (object parts).Complete := fun _ _ hd => .bind fun fields hfields =>
  .ok (Value.complete_document_iff.2 (complete_evalMembers hd h Fields.complete_nil fields hfields))

theorem complete_evalItems {parts : List GroupKey} (hd : d.Complete) (hparts : ∀ p ∈ parts, p.Complete) :
    Yields (fun vs => ∀ v ∈ vs, v.Complete) (evalItems d scope parts) := by
  induction parts with
  | nil => exact .ok nofun
  | cons part parts ih =>
    obtain ⟨hpart, hparts⟩ := List.forall_mem_cons.1 hparts
    exact .bind fun v hv => .bind fun vs hvs =>
      .ok (List.forall_mem_cons.2 ⟨hpart scope hd v hv, ih hparts vs hvs⟩)

theorem complete_array {parts : List GroupKey} (h : ∀ p ∈ parts, p.Complete) : (array parts).Complete :=
  fun _ _ hd => .bind fun vs hvs => .ok (Value.complete_array_iff.2 (complete_evalItems hd h vs hvs))

theorem complete_parseMembers {members : List (String × Json)}
    (h : ∀ m ∈ members, ∀ scope, Yields Complete (parse scope ctx m.2)) :
    Yields (fun parts => ∀ p ∈ parts, p.2.Complete) (parseMembers scope ctx members) := by
  induction members with
  | nil => exact .ok nofun
  | cons m members ih =>
    obtain ⟨hm, hmembers⟩ := List.forall_mem_cons.1 h
    exact .bind fun key hkey => .bind fun parts hparts =>
      .ok (List.forall_mem_cons.2 ⟨hm scope key hkey, ih hmembers parts hparts⟩)

theorem complete_parseItems {items : List Json} (h : ∀ j ∈ items, ∀ scope, Yields Complete (parse scope ctx j)) :
    Yields (fun parts => ∀ p ∈ parts, p.Complete) (parseItems scope ctx items) := by
  induction items with
  | nil => exact .ok nofun
  | cons j items ih =>
    obtain ⟨hj, hitems⟩ := List.forall_mem_cons.1 h
    exact .bind fun key hkey => .bind fun parts hparts =>
      .ok (List.forall_mem_cons.2 ⟨hj scope key hkey, ih hitems parts hparts⟩)

/-- The values of a key that is read are complete. -/
theorem complete_parse (hr : ctx.registry.Tidy) (j : Json) : ∀ scope, Yields Complete (parse scope ctx j) := by
  induction j using Json.inside_induction with
  | step j hpart =>
    intro scope
    unfold parse
    split
    · split
      · refine .bind fun e he => .ok (complete_computed ?_)
        exact Expr.tidy_parseOperator hr (fun part _ => Expr.tidy_parse hr part) e he
      · split
        · exact .error _
        · refine .bind fun parts hparts => .ok (complete_object ?_)
          exact complete_parseMembers (fun m hm => hpart m.2 (.member hm)) parts hparts
    · refine .bind fun parts hparts => .ok (complete_array ?_)
      exact complete_parseItems (fun j hj => hpart j (.item hj)) parts hparts
    · exact .ok (complete_computed (Expr.tidy_ofJson _))

end GroupKey

/-! ## Projections -/

namespace Projection

variable {ctx : Context} {d : Document}

def Tidy (p : Projection) : Prop := ∀ ⦃d⦄, d.Complete → Yields Document.Complete (p.apply d)

theorem tidy_compute {fields : List (String × Expr)} (h : ∀ f ∈ fields, f.2.Tidy) : (compute fields).Tidy :=
  fun _ hd => .bind fun out hout => .ok (Expr.complete_evalFields hd h Fields.complete_nil out hout)

theorem tidy_without (paths : List Path) : (without paths).Tidy := by
  intro d hd
  refine .ok ?_
  induction paths generalizing d with
  | nil => exact hd
  | cons p paths ih => exact ih hd.delete

theorem tidy_parseFields (hr : ctx.registry.Tidy) {members : List (String × Json)} :
    Yields (fun fields => ∀ f ∈ fields, f.2.Tidy) (parseFields ctx members) := by
  induction members with
  | nil => exact .ok nofun
  | cons m members ih =>
    obtain ⟨key, j⟩ := m
    unfold parseFields
    dsimp only
    split
    · exact .error _
    · exact .bind fun e he => .bind fun fields hfields =>
        .ok (List.forall_mem_cons.2 ⟨Expr.tidy_parseField hr j _ e he, ih fields hfields⟩)

/-- A projection that is read keeps documents complete. -/
theorem tidy_parse (hr : ctx.registry.Tidy) {j : Json} : Yields Tidy (parse ctx j) := by
  unfold parse
  split
  · dsimp only
    split
    · exact .bind fun fields hfields => .ok (tidy_compute (tidy_parseFields hr fields hfields))
    · split
      · exact .error _
      · exact .ok (tidy_without _)
  · exact .error _

end Projection

end DocFlow
