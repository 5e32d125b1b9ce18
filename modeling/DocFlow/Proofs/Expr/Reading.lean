import DocFlow.Expr.Parser
import DocFlow.Proofs.Argument
import DocFlow.Proofs.Json.Inside

/-!
# Errors of reading an expression

Reading an expression fails with a fault of some operator, or because the kinds of an operand do not fit.  A property
that covers both (`Covers`) holds of every error of reading an expression, at any depth (`Covers.parse`), also of a
field of a projection (`Covers.parseField`).
-/

namespace DocFlow.Expr

open DocFlow.Except (FailsOnly)

/-- A property of errors of reading a specification.  It holds of all faults of operators but for the kinds of an
operand, and of operands inside that are refused for their kinds; and what it says of a part it says of the whole. -/
structure Covers (ctx : Context) (P : Json → Error → Prop) : Prop where
  fault : ∀ {j : Json} {scope : Scope} {operator : String} {fault : OperatorFault},
    (∀ what produced accepted, fault ≠ .kindMismatch what produced accepted) → P j (scope.invalid operator fault)
  refusal : ∀ {j part : Json} {scope : Scope} {e : Expr}, part.Inside j → parse scope ctx part = .ok e →
    ∀ accepted operator scope', FailsOnly (P j) (e.expecting accepted operator scope')
  mono : ∀ {j part : Json} {err : Error}, part.Inside j → P part err → P j err

namespace Covers

variable {ctx : Context} {P : Json → Error → Prop} {scope : Scope} {j part : Json} {α : Type}

/-- The property holds of the errors of reading the parts of a specification. -/
def Reads (ctx : Context) (P : Json → Error → Prop) (j : Json) : Prop :=
  ∀ part, part.Inside j → ∀ scope, FailsOnly (P part) (Expr.parse scope ctx part)

section Part

variable (hP : Covers ctx P) (hread : Reads ctx P j) (hpart : part.Inside j)

include hP hread hpart

theorem parsePart : FailsOnly (P j) (Expr.parse scope ctx part) :=
  (hread part hpart scope).imp fun _ => hP.mono hpart

/-- Reading an operand and checking its kinds. -/
theorem operand {accepted : KindSet} {operator : String} {f : Expr → Except Error α}
    (hf : ∀ e, FailsOnly (P j) (f e)) :
    FailsOnly (P j) (do f (← (← Expr.parse scope ctx part).expecting accepted operator scope)) :=
  .bind (hP.parsePart hread hpart) fun _ he =>
    .bind (hP.refusal hpart he accepted operator scope) fun e _ => hf e

end Part

section

variable (hP : Covers ctx P)

include hP

theorem text {operator : String} {fault : OperatorFault} {arg : Json}
    (h : ∀ what produced accepted, fault ≠ .kindMismatch what produced accepted) :
    FailsOnly (P j) (Argument.text scope operator fault arg) := Argument.failsOnly_text (hP.fault h)

theorem integer {operator what : String} {arg : Json} :
    FailsOnly (P j) (Argument.integer scope operator what arg) := Argument.failsOnly_integer (hP.fault nofun)

theorem pattern {operator : String} {flags : Regex.Flags} {s : String} :
    FailsOnly (P j) (Argument.pattern scope operator flags s) :=
  Argument.failsOnly_pattern fun _ => hP.fault nofun

theorem parseCall {arg : Json} : FailsOnly (P j) (Expr.parseCall scope ctx arg) :=
  .bind (Argument.failsOnly_function (hP.fault nofun) fun _ => hP.fault nofun) fun _ _ => .ok _

theorem parseParts {js : List Json} (hread : Reads ctx P j) (hjs : ∀ part ∈ js, part.Inside j) :
    FailsOnly (P j) (Expr.parseParts scope ctx js) := by
  induction js with
  | nil => exact .ok _
  | cons part js ih =>
    obtain ⟨hpart, hjs⟩ := List.forall_mem_cons.1 hjs
    unfold Expr.parseParts
    exact hP.operand hread hpart fun e => .bind (ih hjs) fun _ _ => .ok _

theorem parseOperator {members : List (String × Json)} (hread : Reads ctx P (.object members)) :
    FailsOnly (P (.object members)) (Expr.parseOperator scope ctx members) := by
  unfold Expr.parseOperator
  split
  swap
  · exact .error (hP.fault nofun)
  rename_i name arg
  have harg : arg.Inside (.object [(name, arg)]) := .member List.mem_cons_self
  have hitem {items : List Json} (h : .array items = arg) : ∀ part ∈ items, part.Inside (.object [(name, arg)]) :=
    fun part hpart => .trans (.item hpart) (h ▸ harg)
  split
  · exact .error (hP.fault nofun)
  split
  · -- arithmetic reads both operands before it checks them
    split
    · rename_i left right
      have hleft := hitem rfl left (by simp)
      have hright := hitem rfl right (by simp)
      refine .bind (hP.parsePart hread hleft) fun l hl => .bind (hP.parsePart hread hright) fun r hr => ?_
      exact .bind (hP.refusal hleft hl _ _ _) fun _ _ => .bind (hP.refusal hright hr _ _ _) fun _ _ => .ok _
    · exact .error (hP.fault nofun)
  · exact hP.operand hread harg fun _ => .ok _
  · split
    case h_1 =>
      split
      · exact .ok _
      · exact .bind (hP.parsePart hread harg) fun _ _ => .ok _
    case h_2 =>
      split
      · exact hP.operand hread (hitem rfl _ (by simp)) fun _ =>
          .bind (hP.text nofun) fun _ _ => .bind hP.pattern fun _ _ => .ok _
      · exact .error (hP.fault nofun)
    case h_3 =>
      split
      · refine hP.operand hread (hitem rfl _ (by simp)) fun _ => .bind (hP.text nofun) fun _ _ => ?_
        split
        · exact .ok _
        · exact .error (hP.fault nofun)
      · exact .error (hP.fault nofun)
    case h_4 => exact hP.operand hread harg fun _ => .ok _
    case h_5 => exact hP.operand hread harg fun _ => .ok _
    case h_6 => exact hP.operand hread harg fun _ => .ok _
    case h_7 =>
      split
      · rename_i part parts
        have hparts := List.forall_mem_cons.1 (hitem rfl)
        exact hP.operand hread hparts.1 fun _ => .bind (hP.parseParts hread hparts.2) fun _ _ => .ok _
      · exact .error (hP.fault nofun)
    case h_8 =>
      split
      · exact hP.operand hread (hitem rfl _ (by simp)) fun _ =>
          .bind hP.integer fun _ _ => .bind hP.integer fun _ _ => .ok _
      · exact .error (hP.fault nofun)
    case h_9 =>
      split
      · exact hP.operand hread (hitem rfl _ (by simp)) fun _ => .bind hP.integer fun _ _ => .ok _
      · exact hP.operand hread (hitem rfl _ (by simp)) fun _ =>
          .bind hP.integer fun _ _ => .bind hP.integer fun _ _ => .ok _
      · exact .error (hP.fault nofun)
    case h_10 => exact hP.parseCall
    case h_11 => exact .error (hP.fault nofun)

/-- The property holds of every error of reading an expression. -/
theorem parse (j : Json) : ∀ scope, FailsOnly (P j) (Expr.parse scope ctx j) := by
  induction j using Json.inside_induction with
  | step j hread =>
    intro scope
    unfold Expr.parse
    split
    · split
      · exact hP.parseOperator hread
      · exact .ok _
    · exact .ok _

theorem parseFields {members : List (String × Json)}
    (hfield : ∀ part, part.Inside j → ∀ scope, FailsOnly (P part) (Expr.parseField scope ctx part))
    (hmembers : ∀ m ∈ members, m.2.Inside j) : FailsOnly (P j) (Expr.parseFields scope ctx members) := by
  induction members with
  | nil => exact .ok _
  | cons m members ih =>
    obtain ⟨key, part⟩ := m
    obtain ⟨hpart, hmembers⟩ := List.forall_mem_cons.1 hmembers
    unfold Expr.parseFields
    dsimp only
    split
    · exact .error (hP.fault nofun)
    · exact .bind ((hfield part hpart _).imp fun _ => hP.mono hpart) fun _ _ => .bind (ih hmembers) fun _ _ => .ok _

/-- The property holds of every error of reading a field of a projection. -/
theorem parseField (j : Json) : ∀ scope, FailsOnly (P j) (Expr.parseField scope ctx j) := by
  induction j using Json.inside_induction with
  | step j hfield =>
    intro scope
    unfold Expr.parseField
    split
    · rename_i members
      split
      · exact hP.parseOperator fun part _ => hP.parse part
      · split
        · exact .error (hP.fault nofun)
        · split
          · exact .error (hP.fault nofun)
          · exact .bind (hP.parseFields hfield fun m hm => .member hm) fun _ _ => .ok _
    · exact .ok _

end

end Covers

end DocFlow.Expr
