import DocFlow.Proofs.Expr.Kinds
import DocFlow.Proofs.Expr.Reading

/-!
# Expressions that are refused for their kinds

An operand is refused if the kinds of its values do not fit the operator.  Then it has no value that the operator
could have used (`Unusable`), so nothing is lost: wherever in a specification an operand is refused, the part that
was refused is an expression of which no value is usable (`failsOnly_parse`, `failsOnly_parseField`).
-/

namespace DocFlow

namespace Expr

open DocFlow.Except (FailsOnly)

/-- No value of the expression is of one of the kinds `accepted`, but for values that stand for no value. -/
def Unusable (e : Expr) (accepted : KindSet) : Prop :=
  ∀ d scope v, e.eval d scope = .ok v → v.isNullish = false → accepted.contains v.kind = false

/-- If the error refuses an operand for its kinds, then a part of the specification is an expression of these
kinds that is unusable. -/
def Justified (ctx : Context) (j : Json) (err : Error) : Prop :=
  ∀ scope operator what produced accepted,
    err = .invalidOperator scope operator (.kindMismatch what produced accepted) →
      ∃ part scope' e, part.Inside j ∧ parse scope' ctx part = .ok e ∧ e.operator? = what ∧ e.kinds = produced ∧
        e.Unusable accepted

variable {ctx : Context} {scope : Scope} {j part : Json}

theorem Justified.mono {err : Error} (h : part.Inside j) (hj : Justified ctx part err) : Justified ctx j err := by
  intro scope operator what produced accepted herr
  obtain ⟨part', scope', e, hinside, hrest⟩ := hj scope operator what produced accepted herr
  exact ⟨part', scope', e, hinside.trans h, hrest⟩

theorem justified_of_ne {operator : String} {fault : OperatorFault}
    (h : ∀ what produced accepted, fault ≠ .kindMismatch what produced accepted) :
    Justified ctx j (scope.invalid operator fault) := by
  rintro _ _ what produced accepted ⟨⟩
  exact absurd rfl (h what produced accepted)

/-- An operand that is refused is unusable. -/
theorem failsOnly_expecting {e : Expr} (hinside : part.Inside j) (hpart : parse scope ctx part = .ok e)
    (accepted : KindSet) (operator : String) (scope' : Scope) :
    FailsOnly (Justified ctx j) (e.expecting accepted operator scope') := by
  intro err herr
  have hunusable : e.Unusable accepted := fun d scope v hv => not_accepted_of_expecting herr hv
  unfold expecting at herr
  dsimp only at herr
  split at herr
  · cases herr
  · cases herr
    rintro _ _ _ _ _ ⟨⟩
    exact ⟨part, scope, e, hinside, hpart, rfl, rfl, hunusable⟩

/-- Refusals for kinds are justified throughout a specification. -/
theorem covers_justified (ctx : Context) : Covers ctx (Justified ctx) where
  fault := justified_of_ne
  refusal := failsOnly_expecting
  mono := fun h hj => hj.mono h

/-- An operand is refused only if it is unusable, wherever it stands in the specification. -/
theorem failsOnly_parse (j : Json) (scope : Scope) : FailsOnly (Justified ctx j) (parse scope ctx j) :=
  (covers_justified ctx).parse j scope

theorem failsOnly_parseField (j : Json) (scope : Scope) : FailsOnly (Justified ctx j) (parseField scope ctx j) :=
  (covers_justified ctx).parseField j scope

/-! ## Soundness -/

/-- **Static kinds are sound.**  The value of an expression is of a kind that the expression may give; so an
operand that is refused for its kinds is unusable, and no specification is refused for the kinds of an operand
unless the part that stands for the operand is unusable. -/
theorem kinds_sound :
    (∀ (e : Expr) d scope v, e.eval d scope = .ok v → e.kinds.contains v.kind = true) ∧
    (∀ (e : Expr) accepted operator scope err, e.expecting accepted operator scope = .error err →
      e.Unusable accepted) ∧
    ∀ ctx scope j err, (parse scope ctx j = .error err ∨ parseField scope ctx j = .error err) →
      Justified ctx j err := by
  refine ⟨fun e d scope v hv => kind_of_eval e hv, ?_, ?_⟩
  · intro e accepted operator scope err herr d scope' v hv
    exact not_accepted_of_expecting herr hv
  · rintro ctx scope j err (herr | herr)
    · exact failsOnly_parse j scope err herr
    · exact failsOnly_parseField j scope err herr

/-- A text in capital letters is no operand of an addition. -/
theorem kinds_sound_upper :
    let scope : Scope := ⟨.project, "b"⟩
    let e : Expr := .letterCase true (.operand (.field ⟨"a", []⟩))
    let d : Document := ⟨[("a", .string "x")]⟩
    let j : Json := .object [("$add", .array [.object [("$toUpper", .string "$a")], .number (.int 1)])]
    let err := scope.invalid "$add" (.kindMismatch (some "$toUpper") textual numeric)
    e.eval d scope = .ok (.string "X") ∧ e.kinds.contains .string = true ∧
      e.expecting numeric "$add" scope = .error err ∧ e.Unusable numeric ∧
      parseField scope .default j = .error err ∧ Justified .default j err := by
  intro scope e d j err
  have hv : e.eval d scope = .ok (.string "X") := rfl
  have hrefused : e.expecting numeric "$add" scope = .error err := rfl
  have herr : parseField scope .default j = .error err := rfl
  exact ⟨hv, kinds_sound.1 e d scope _ hv, hrefused, kinds_sound.2.1 e _ _ _ _ hrefused, herr,
    kinds_sound.2.2 .default scope j err (.inr herr)⟩

end Expr

end DocFlow
