import DocFlow.Proofs.Document.Route
import DocFlow.Proofs.Json.Members
import DocFlow.Proofs.Outcome
import DocFlow.Stage.Projection

/-!
# Fields included by a projection

A member of a projection that is a flag includes a field: the value is read at the dotted join of the keys that lead to
the flag, and comes to stand at these very keys in the document that is made (`Projection.get_included`).  A key with a
dot in it is read as several and written as one.
-/

namespace DocFlow

namespace Expr

/-! ## Computed fields -/

variable {d : Document} {scopeOf : String → Scope} {m : String × Expr} {fields : List (String × Expr)}
  {done out : Entries Value} {key : String}

/-- Adding the first field leaves its value at its key and the others as they are. -/
theorem evalFields_cons (h : evalFields d scopeOf done (m :: fields) = .ok out) :
    ∃ done', evalFields d scopeOf done' fields = .ok out ∧
      (∀ key ≠ m.1, Entries.get? key done' = Entries.get? key done) ∧
      (Entries.get? m.1 done = none →
        ∃ v, m.2.eval d (scopeOf m.1) = .ok v ∧ (Entries.get? m.1 done').getD .missing = v) := by
  obtain ⟨v, hv, h⟩ := Except.bind_eq_ok.1 h
  split at h
  · exact ⟨done, h, fun _ _ => rfl, fun hdone => ⟨_, hv, by rw [hdone]; rfl⟩⟩
  · exact ⟨_, h, fun key hkey => Entries.get?_put_of_ne hkey.symm _ _, fun _ => ⟨_, hv, by simp⟩⟩

theorem get?_evalFields_of_not_mem (h : evalFields d scopeOf done fields = .ok out)
    (hkey : key ∉ Entries.keys fields) : Entries.get? key out = Entries.get? key done := by
  induction fields generalizing done with
  | nil =>
    obtain rfl := Except.ok.inj h
    rfl
  | cons m fields ih =>
    obtain ⟨hm, hfields⟩ := not_or.1 (mt List.mem_cons.2 hkey)
    obtain ⟨done', h, hsame, -⟩ := evalFields_cons h
    rw [ih h hfields, hsame key hm]

/-- Each of several fields with different keys comes to stand with its value, if it is not missing. -/
theorem get?_evalFields (h : evalFields d scopeOf done fields = .ok out) (hd : Entries.Distinct fields)
    (hdone : ∀ m ∈ fields, Entries.get? m.1 done = none) (hm : m ∈ fields) :
    ∃ v, m.2.eval d (scopeOf m.1) = .ok v ∧ (Entries.get? m.1 out).getD .missing = v := by
  induction fields generalizing done with
  | nil => cases hm
  | cons m' fields ih =>
    obtain ⟨hfresh, hd⟩ := List.nodup_cons.1 hd
    obtain ⟨hdone', hdone⟩ := List.forall_mem_cons.1 hdone
    obtain ⟨done', h', hsame, hput⟩ := evalFields_cons h
    rcases List.mem_cons.1 hm with rfl | hm
    · rw [get?_evalFields_of_not_mem h' hfresh]
      exact hput hdone'
    · refine ih h' hd (fun m hm => ?_) hm
      have hne : m.1 ≠ m'.1 := fun hk => hfresh (hk ▸ List.mem_map_of_mem hm)
      rw [hsame m.1 hne, hdone m hm]

/-! ## Members and fields -/

variable {ctx : Context} {scope scope' : Scope} {scopeAt : String → Scope} {members : Entries Json}
  {keys : List String} {j : Json} {e : Expr} {v : Value}

theorem readFrom_of_parseFields (h : parseFields scope ctx members = .ok fields) :
    members.ReadFrom (fun key => parseField (nested scope key) ctx) fields := by
  induction members generalizing fields with
  | nil =>
    obtain rfl := Except.ok.inj h
    exact .nil
  | cons m members ih =>
    unfold parseFields at h
    split at h
    · cases h
    · obtain ⟨e, he, h⟩ := Except.bind_eq_ok.1 h
      obtain ⟨fields, hfields, h⟩ := Except.bind_eq_ok.1 h
      obtain rfl := Except.ok.inj h
      exact .cons he (ih hfields)

/-- In the document of the values of fields that are read from members, the value of the field read from a member stands
at its key. -/
theorem get?_of_readFrom
    (hread : members.ReadFrom (fun key => parseField (scopeAt key) ctx) fields) (hd : members.Distinct)
    (hm : (key, j) ∈ members) (hout : evalFields d scopeOf [] fields = .ok out) :
    ∃ e v, parseField (scopeAt key) ctx j = .ok e ∧ e.eval d (scopeOf key) = .ok v ∧
      (Entries.get? key out).getD .missing = v := by
  obtain ⟨e, he, hparse⟩ := hread.exists_of_mem hm
  obtain ⟨v, hv, hget⟩ := get?_evalFields hout (hread.distinct hd) (fun _ _ => rfl) he
  exact ⟨e, v, hparse, hv, hget⟩

/-! ## Flags -/

/-- The specification includes the field at some keys, from the outside in: it is a flag, also one written as an
operator, or it is an object of nested fields, one of which includes the field at the other keys. -/
inductive Includes : Json → List String → Prop
  | flag {j : Json} (h : isIncludeFlag j = true) : Includes j []
  | operator {j : Json} (h : isIncludeFlag j = true) : Includes (.object [("$value", j)]) []
  | nested {members : Entries Json} {key : String} {j : Json} {keys : List String} (hd : members.Distinct)
    (hm : (key, j) ∈ members) (hkey : isDollar key = false) (h : Includes j keys) :
    Includes (.object members) (key :: keys)

theorem parseField_flag (h : isIncludeFlag j = true) : parseField scope ctx j = .ok (included scope) := by
  cases j with
  | bool b => simp [parseField, h]
  | number n => simp [parseField, h]
  | _ => cases h

theorem parseField_operator (h : isIncludeFlag j = true) :
    parseField scope ctx (.object [("$value", j)]) = .ok (.value (included scope)) := by
  have hread : parseField scope ctx (.object [("$value", j)]) =
      if isIncludeFlag j then .ok (.value (included scope)) else do return .value (← parse scope ctx j) := by
    unfold parseField parseOperator
    rfl
  rw [hread, if_pos h]

theorem parseField_nested (hm : (key, j) ∈ members) (hkey : isDollar key = false)
    (h : parseField scope ctx (.object members) = .ok e) :
    ∃ fields, parseFields scope ctx members = .ok fields ∧ e = .object fields := by
  have hoperator : (singleOperator? members).isSome = false := by
    unfold singleOperator?
    split
    · obtain ⟨rfl, -⟩ := Prod.mk.inj (List.mem_singleton.1 hm)
      simp [hkey]
    · rfl
  unfold parseField at h
  rw [hoperator, if_neg Bool.false_ne_true] at h
  split at h
  · cases h
  · split at h
    · cases h
    · obtain ⟨fields, hfields, h⟩ := Except.bind_eq_ok.1 h
      exact ⟨fields, hfields, (Except.ok.inj h).symm⟩

/-- The value of a field that includes the field at some keys is read where the scope and these keys lead to. -/
theorem get_of_includes (h : Includes j keys) (hparse : parseField scope ctx j = .ok e)
    (heval : e.eval d scope' = .ok v) (hv : (Entries.get? key out).getD .missing = v) :
    (Document.mk out).get ⟨key, keys⟩ = d.get (.ofString (Path.text ⟨scope.key, keys⟩)) := by
  induction h generalizing scope e out key v with
  | flag h =>
    obtain rfl := Except.ok.inj ((parseField_flag h).symm.trans hparse)
    exact hv.trans (Except.ok.inj heval).symm
  | operator h =>
    obtain rfl := Except.ok.inj ((parseField_operator h).symm.trans hparse)
    exact hv.trans (Except.ok.inj heval).symm
  | @nested members key' j keys hd hm hkey h ih =>
    -- the expression is an object whose fields are read in longer scopes, but all evaluated in the scope of the whole
    obtain ⟨fields, hfields, rfl⟩ := parseField_nested hm hkey hparse
    obtain ⟨inner, hinner, heval⟩ := Except.bind_eq_ok.1 heval
    obtain rfl := Except.ok.inj heval
    obtain ⟨e, v, he, hev, hv'⟩ := get?_of_readFrom (readFrom_of_parseFields hfields) hd hm hinner
    have hfield : (Document.mk out).field? key = some (Document.mk inner).toValue := by
      rcases Option.getD_eq_iff.1 hv with hget | ⟨-, hmissing⟩
      · exact hget
      · cases hmissing
    calc (Document.mk out).get ⟨key, key' :: keys⟩
      _ = (Document.mk inner).get ⟨key', keys⟩ := Document.get_under_document (p := ⟨key', keys⟩) hfield
      _ = d.get (.ofString (Path.text ⟨(nested scope key').key, keys⟩)) := ih he hev hv'

end Expr

/-! ## Projections -/

namespace Projection

variable {ctx : Context} {members : List (String × Json)} {spec : Json} {fields : List (String × Expr)}
  {d out : Document} {p : Path}

theorem readFrom_of_parseFields (h : parseFields ctx members = .ok fields) :
    Entries.ReadFrom (fun key => Expr.parseField (scopeOf key) ctx) members fields := by
  induction members generalizing fields with
  | nil =>
    obtain rfl := Except.ok.inj h
    exact .nil
  | cons m members ih =>
    unfold parseFields at h
    split at h
    · cases h
    · obtain ⟨e, he, h⟩ := Except.bind_eq_ok.1 h
      obtain ⟨fields, hfields, h⟩ := Except.bind_eq_ok.1 h
      obtain rfl := Except.ok.inj h
      exact .cons he (ih hfields)

theorem parseFields_of_parse (h : parse ctx (.object members) = .ok (.compute fields)) :
    parseFields ctx members = .ok fields := by
  unfold parse at h
  split at h
  · rename_i member rest hmembers
    obtain rfl := Json.object.inj hmembers
    dsimp only at h
    split at h
    · obtain ⟨fields', hfields, h⟩ := Except.bind_eq_ok.1 h
      cases h
      exact hfields
    · split at h <;> cases h
  · cases h

/-- **Included fields.**  What a projection includes at some keys stands at these keys in the document that it makes, as
it is read from the document that came in at their dotted join.  So it reads the same at the dotted join, if no key has
a dot in it. -/
theorem get_included (hparse : parse ctx spec = .ok (.compute fields)) (happly : (compute fields).apply d = .ok out)
    (h : Expr.Includes spec p.keys) :
    out.get p = d.get (.ofString p.text) ∧
      ((∀ key ∈ p.keys, '.' ∉ key.toList) → out.get (.ofString p.text) = d.get (.ofString p.text)) := by
  have hget : out.get p = d.get (.ofString p.text) := by
    obtain ⟨key, keys⟩ := p
    cases h with
    | nested hd hm hkey h =>
      have hread := readFrom_of_parseFields (parseFields_of_parse hparse)
      obtain ⟨entries, hentries, happly⟩ := Except.bind_eq_ok.1 happly
      obtain rfl := Except.ok.inj happly
      obtain ⟨e, v, he, hv, hfield⟩ := Expr.get?_of_readFrom hread hd hm hentries
      have hincluded := Expr.get_of_includes h he hv hfield
      exact hincluded
  exact ⟨hget, fun hplain => by rw [Path.ofString_text hplain, hget, Path.ofString_text hplain]⟩

/-- A field is included from the documents of an array, beside one with a dot in its key. -/
theorem get_included_nested :
    let spec : Json := .object [("a", .object [("b", .bool true), ("e.f", .bool true)])]
    let fields : List (String × Expr) :=
      [("a", .object [("b", .included ⟨.project, "a.b"⟩), ("e.f", .included ⟨.project, "a.e.f"⟩)])]
    let d : Document := ⟨[("a", .array [.document [("b", .string "x")], .document [("b", .string "y")]])]⟩
    let out : Document := ⟨[("a", .document [("b", .array [.string "x", .string "y"]), ("e.f", .array [])])]⟩
    parse .default spec = .ok (.compute fields) ∧ (compute fields).apply d = .ok out ∧
      Expr.Includes spec (Path.keys ⟨"a", ["b"]⟩) ∧ out.get (.ofString "a.b") = d.get (.ofString "a.b") := by
  intro spec fields d out
  have hparse : parse .default spec = .ok (.compute fields) := rfl
  have happly : (compute fields).apply d = .ok out := rfl
  have hincludes : Expr.Includes spec (Path.keys ⟨"a", ["b"]⟩) :=
    .nested (by decide) List.mem_cons_self (by decide) (.nested (by decide) List.mem_cons_self (by decide) (.flag rfl))
  obtain ⟨-, hplain⟩ := get_included hparse happly hincludes
  exact ⟨hparse, happly, hincludes, hplain (by decide)⟩

/-- A field is included by a key with a dot in it, and is not read at its path. -/
theorem included_dotted_unread :
    ¬ ∀ (spec : Json) (fields : List (String × Expr)) (d out : Document) (p : Path),
      parse .default spec = .ok (.compute fields) → (compute fields).apply d = .ok out → Expr.Includes spec p.keys →
        out.get (.ofString p.text) = d.get (.ofString p.text) := by
  intro h
  let d : Document := ⟨[("a", .document [("b", .string "x")])]⟩
  have hincludes : Expr.Includes (.object [("a.b", .bool true)]) (Path.keys ⟨"a.b", []⟩) :=
    .nested (by decide) List.mem_cons_self (by decide) (.flag rfl)
  have hsame := h (.object [("a.b", .bool true)]) _ d ⟨[("a.b", .string "x")]⟩ ⟨"a.b", []⟩ rfl rfl hincludes
  cases hsame

end Projection

end DocFlow
