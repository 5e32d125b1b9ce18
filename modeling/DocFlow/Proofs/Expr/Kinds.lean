import DocFlow.Expr.Eval
import DocFlow.Proofs.Outcome

/-!
# Kinds of the values of expressions

The value of an expression is of one of the kinds that the expression may give (`kind_of_eval`), by a lemma for
the function of values that each operator applies.  So an operand that is refused for its kinds has no value
that the operator could have used (`not_accepted_of_expecting`).
-/

namespace DocFlow.Expr

variable {scope : Scope} {v w : Value}

/-! ## The functions of the operators -/

theorem kind_mapText {operator : String} {f : String → String} (h : mapText operator scope f w = .ok v) :
    textual.contains v.kind = true := by
  unfold mapText at h
  split at h <;> cases h <;> rfl

theorem kind_extractFrom {pattern : Regex} {group : Nat} (h : extractFrom pattern group scope w = .ok v) :
    (KindSet.of [.string, .missing]).contains v.kind = true := by
  unfold extractFrom at h
  split at h
  · split at h <;> cases h <;> rfl
  · cases h
    rfl
  · cases h

theorem kind_readTimestamp {format : String} {items : List Calendar.Item} {offset : Calendar.Offset}
    (h : readTimestamp format items offset scope w = .ok v) :
    ((KindSet.of [.timestamp]).union .nullish).contains v.kind = true := by
  unfold readTimestamp at h
  split at h
  · split at h
    · cases h
    · split at h <;> cases h
      rfl
  · cases h
    rfl
  · cases h
    rfl
  · cases h

theorem kind_calculate {op : Arithmetic} {a b : Value} (h : calculate op scope a b = .ok v) :
    (KindSet.of [.number, .null]).contains v.kind = true := by
  unfold calculate at h
  split at h
  · cases h
    rfl
  · split at h
    · split at h <;> cases h
      rfl
    · cases h

theorem kind_convertToNumber (h : convertToNumber scope w = .ok v) : numeric.contains v.kind = true := by
  unfold convertToNumber at h
  split at h
  · cases h
    rfl
  · split at h <;> cases h
    rfl
  · cases h
    rfl
  · cases h
    rfl
  · cases h

theorem kind_takePart {part : Calendar.Part} {offset : Calendar.Offset}
    (h : takePart part offset scope w = .ok v) : numeric.contains v.kind = true := by
  unfold takePart at h
  split at h
  · cases h
    rfl
  · split at h <;> cases h
    rfl
  · cases h
    rfl
  · cases h
    rfl
  · cases h

theorem kind_joinParts {d : Document} {done : String} {parts : List Expr}
    (h : joinParts d scope done parts = .ok v) : (KindSet.of [.string, .null]).contains v.kind = true := by
  induction parts generalizing done with
  | nil =>
    cases h
    rfl
  | cons e es ih =>
    obtain ⟨w, _, h⟩ := Except.bind_eq_ok.1 h
    split at h
    · exact ih h
    · cases h
      rfl
    · cases h
      rfl
    · cases h

/-! ## Expressions -/

/-- The value of an expression is of a kind that the expression may give. -/
theorem kind_of_eval {d : Document} : ∀ e : Expr, e.eval d scope = .ok v → e.kinds.contains v.kind = true
  | .operand (.literal w), h => by
    cases h
    simp [kinds, Operand.kinds, Operand.resolve, KindSet.of]
  | .operand (.field _), _ => rfl
  | .value e, h => kind_of_eval e h
  | .extract _ _ _, h => by
    obtain ⟨_, _, h⟩ := Except.bind_eq_ok.1 h
    exact kind_extractFrom h
  | .timestamp _ _ _ _, h => by
    obtain ⟨_, _, h⟩ := Except.bind_eq_ok.1 h
    exact kind_readTimestamp h
  | .arithmetic _ _ _, h => by
    obtain ⟨_, _, h⟩ := Except.bind_eq_ok.1 h
    obtain ⟨_, _, h⟩ := Except.bind_eq_ok.1 h
    exact kind_calculate h
  | .letterCase true _, h => by
    obtain ⟨_, _, h⟩ := Except.bind_eq_ok.1 h
    exact kind_mapText h
  | .letterCase false _, h => by
    obtain ⟨_, _, h⟩ := Except.bind_eq_ok.1 h
    exact kind_mapText h
  | .toNumber _, h => by
    obtain ⟨_, _, h⟩ := Except.bind_eq_ok.1 h
    exact kind_convertToNumber h
  | .concat _, h => kind_joinParts h
  | .substr _ _ _, h => by
    obtain ⟨_, _, h⟩ := Except.bind_eq_ok.1 h
    exact kind_mapText h
  | .substring _ _ _, h => by
    obtain ⟨_, _, h⟩ := Except.bind_eq_ok.1 h
    exact kind_mapText h
  | .datePart _ _ _, h => by
    obtain ⟨_, _, h⟩ := Except.bind_eq_ok.1 h
    exact kind_takePart h
  | .object _, h => by
    obtain ⟨_, _, h⟩ := Except.bind_eq_ok.1 h
    cases h
    rfl
  | .call _, _ => rfl

theorem contains_nullish_kind (v : Value) : KindSet.nullish.contains v.kind = v.isNullish := by
  cases v <;> rfl

/-- What an operand gives that is refused for its kinds either stands for no value or is not accepted. -/
theorem not_accepted_of_expecting {e : Expr} {accepted : KindSet} {operator : String} {scope' : Scope}
    {err : Error} {d : Document} (h : e.expecting accepted operator scope' = .error err)
    (hv : e.eval d scope = .ok v) (hvalue : v.isNullish = false) : accepted.contains v.kind = false := by
  unfold expecting at h
  dsimp only at h
  split at h
  · cases h
  · rename_i hrefused
    rw [Bool.or_eq_true, not_or] at hrefused
    have hkind : (e.kinds.diff .nullish).contains v.kind = true := by
      rw [KindSet.contains_diff, kind_of_eval e hv, contains_nullish_kind, hvalue]
      rfl
    rw [← Bool.not_eq_true]
    intro haccepted
    exact hrefused.2 ((KindSet.meets_iff _ _).2 ⟨v.kind, hkind, haccepted⟩)

end DocFlow.Expr
