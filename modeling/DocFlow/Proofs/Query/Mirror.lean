import DocFlow.Proofs.Order.Value
import DocFlow.Proofs.Query.Itemwise

/-!
# Comparisons between two fields

A comparison of one field with another can be read from either side: that the first is less than the second says the same
as that the second is greater than the first (`Query.accepts_mirror`).  It does not matter on which side a text is read
as a number, and where the two values stand in no order, neither comparison holds.  An array is left out, as a test looks
at the items of the value found but not at those of the value it is compared with.
-/

namespace DocFlow

/-! ## The two sides exchanged -/

namespace Comparison

def mirror : Comparison → Comparison
  | lt => gt
  | le => ge
  | gt => lt
  | ge => le

theorem mirror_accepts (c : Comparison) (o : Ordering) : c.mirror.accepts o = c.accepts o.swap := by
  cases c <;> cases o <;> rfl

theorem isDollar_operator (c : Comparison) : isDollar c.operator = true := by
  cases c <;> decide

theorem operator_notMem (c : Comparison) : c.operator ∉ ["$options", "$elemMatch", "$not"] := by
  cases c <;> decide

end Comparison

namespace Test

/-- A text is read as a number beside a number, on whichever side it stands. -/
theorem compareRead?_swap (v w : Value) : (compareRead? v w).map Ordering.swap = compareRead? w v := by
  cases v with
  | number a =>
    cases w with
    | number b => exact Number.compare?_swap a b
    | string s =>
      show ((Number.ofTrimmed? s).bind (Number.compare? a)).map _ = (Number.ofTrimmed? s).bind (Number.compare? · a)
      cases Number.ofTrimmed? s with
      | none => rfl
      | some b => exact Number.compare?_swap a b
    | _ => rfl
  | string s =>
    cases w with
    | number b =>
      show ((Number.ofTrimmed? s).bind (Number.compare? · b)).map _ = (Number.ofTrimmed? s).bind (Number.compare? b)
      cases Number.ofTrimmed? s with
      | none => rfl
      | some a => exact Number.compare?_swap a b
    | string t => exact Value.compare?_swap (.string s) (.string t)
    | _ => rfl
  | bool x =>
    cases w with
    | bool y => exact Value.compare?_swap (.bool x) (.bool y)
    | _ => rfl
  | timestamp t =>
    cases w with
    | timestamp u => exact Value.compare?_swap (.timestamp t) (.timestamp u)
    | _ => rfl
  | _ => cases w <;> rfl

theorem passes_mirror (c : Comparison) (v w : Value) : passes c.mirror w v = passes c v w := by
  rw [passes, passes, ← compareRead?_swap v w]
  cases compareRead? v w with
  | none => rfl
  | some o =>
    show c.mirror.accepts o.swap = c.accepts o
    rw [c.mirror_accepts, Ordering.swap_swap]

end Test

/-! ## Two fields -/

/-- The text of a reference names the path behind the dollar sign. -/
theorem reference?_dollar {path : String} (hpath : path ≠ "") : (Json.string ("$" ++ path)).reference? = some path := by
  obtain ⟨c, cs, hcs⟩ := List.exists_cons_of_ne_nil (mt String.toList_eq_nil_iff.1 hpath)
  have htext : ("$" ++ path).toList = '$' :: c :: cs := by
    rw [String.toList_append, hcs]
    rfl
  have hpath : String.ofList (c :: cs) = path := by rw [← hcs, String.ofList_toList]
  show referenceOf? ("$" ++ path) = some path
  simp only [referenceOf?, htext, hpath]

namespace Query

variable {ctx : Context} {a b : String} {d : Document}

/-- The specification of a comparison of a field with another. -/
def between (a : String) (c : Comparison) (b : String) : Json :=
  .object [(a, .object [(c.operator, .string ("$" ++ b))])]

theorem parse_between (c : Comparison) (ha : isDollar a = false) (hb : b ≠ "") :
    parse ctx (between a c b) = .ok (.field (.ofString a) [.compare c (.field (.ofString b))]) := by
  have hoperand : Operand.ofJson (.string ("$" ++ b)) = .field (.ofString b) := by
    rw [Operand.ofJson, reference?_dollar hb]
  have hcomparison : Test.parseComparison (queryScope a) c (.string ("$" ++ b)) =
      .ok (.compare c (.field (.ofString b))) := by
    rw [Test.parseComparison, hoperand]
  refine parse_simple ha c.isDollar_operator c.operator_notMem ?_
  cases c <;> exact hcomparison

/-- A field that is no array is compared as a whole. -/
theorem accepts_between (c : Comparison) (ha : (d.get (.ofString a)).kind ≠ .array) :
    (field (.ofString a) [.compare c (.field (.ofString b))]).accepts d =
      .ok (Test.passes c (d.get (.ofString a)) (d.get (.ofString b))) := by
  rw [accepts, Test.allHold_singleton, Test.holds, Test.anyItem_of_kind _ ha]
  rfl

/-- **Comparisons between two fields.**  A field is compared with another by one of the four operators, and the other
with it by the mirrored one.  Both specifications can be read, and on every document in which neither field is an array
both give the same answer, whatever the kinds of the two values; neither fails. -/
theorem accepts_mirror (ctx : Context) (c : Comparison) (ha : a ≠ "") (hb : b ≠ "") (hadollar : isDollar a = false)
    (hbdollar : isDollar b = false) :
    ∃ q q', parse ctx (between a c b) = .ok q ∧ parse ctx (between b c.mirror a) = .ok q' ∧
      ∀ d : Document, (d.get (.ofString a)).kind ≠ .array → (d.get (.ofString b)).kind ≠ .array →
        ∃ answer, q.accepts d = .ok answer ∧ q'.accepts d = .ok answer := by
  refine ⟨_, _, parse_between c hadollar hb, parse_between c.mirror hbdollar ha, fun d hda hdb => ?_⟩
  have hmirror := accepts_between (b := a) c.mirror hdb
  rw [Test.passes_mirror] at hmirror
  exact ⟨_, accepts_between c hda, hmirror⟩

/-- A number is less than a text with blanks around a numeral, which stands at a nested path. -/
theorem accepts_mirror_numeral :
    let d : Document := ⟨[("n", .number 1), ("t", .document [("s", .string " 2.5 ")])]⟩
    "n" ≠ "" ∧ "t.s" ≠ "" ∧ isDollar "n" = false ∧ isDollar "t.s" = false ∧
    (d.get (.ofString "n")).kind ≠ .array ∧ (d.get (.ofString "t.s")).kind ≠ .array ∧
    ∃ q q', parse .default (.object [("n", .object [("$lt", .string "$t.s")])]) = .ok q ∧
      parse .default (.object [("t.s", .object [("$gt", .string "$n")])]) = .ok q' ∧
      q.accepts d = .ok true ∧ q'.accepts d = .ok true := by
  intro d
  have hn : (d.get (.ofString "n")).kind ≠ .array := by decide
  have ht : (d.get (.ofString "t.s")).kind ≠ .array := by decide
  obtain ⟨q, q', hq, hq', hsame⟩ := accepts_mirror (a := "n") (b := "t.s") .default .lt (by decide) (by decide) rfl rfl
  obtain ⟨answer, hanswer, hanswer'⟩ := hsame d hn ht
  have hless : q.accepts d = .ok true := by
    have hread := @parse_between .default "n" "t.s" .lt rfl (by decide)
    have htrimmed : Text.trimBlanks " 2.5 ".toList = "2.5".toList := by
      simp only [Text.trimBlanks, Text.dropBlanks, Text.isBlank_eq]
      decide
    have hnumeral : Number.ofTrimmed? " 2.5 " = some (.ofScientific 25 true 1) := by
      rw [Number.ofTrimmed?, htrimmed]
      rfl
    have horder : Test.compareRead? (.number 1) (.string " 2.5 ") = some .lt := by
      rw [Test.compareRead?, hnumeral]
      decide
    rw [Except.ok.inj (hq.symm.trans hread), accepts_between .lt hn]
    show Except.ok (Test.passes .lt (.number 1) (.string " 2.5 ")) = _
    rw [Test.passes, horder]
    rfl
  obtain rfl := Except.ok.inj (hanswer.symm.trans hless)
  exact ⟨by decide, by decide, rfl, rfl, hn, ht, q, q', hq, hq', hanswer, hanswer'⟩

end Query

end DocFlow
