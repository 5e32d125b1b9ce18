import DocFlow.Expr.Parser
import DocFlow.Proofs.Calendar.Wall
import DocFlow.Proofs.Expr.Kinds

/-!
# Timestamps read back

The operator that makes a timestamp takes the offset of the context away from the wall-clock time that it has read, and
the operators that take a date apart add it again.  So in one context each of them gives its field of the wall-clock
time that was read, whichever expression brings the timestamp to it (`Expr.parts_of_timestamp`).
-/

namespace DocFlow.Expr

open Calendar (Item Part Wall Instant)
open Calendar.Reading (readWall)

variable {ctx : Context} {scope scope' : Scope} {arg operand : Json} {d : Document} {e e' : Expr} {v : Value}
  {t : Instant} {accepted : KindSet} {operator : String} {part : Part}

/-! ## Kinds that are expected -/

theorem eq_of_expecting (h : e.expecting accepted operator scope = .ok e') : e' = e := by
  unfold expecting at h
  dsimp only at h
  split at h
  · exact (Except.ok.inj h).symm
  · cases h

/-- An operand that has a value of an accepted kind is not refused. -/
theorem expecting_of_eval (hv : e.eval d scope' = .ok v) (hvalue : v.isNullish = false)
    (haccepted : accepted.contains v.kind = true) : e.expecting accepted operator scope = .ok e := by
  cases h : e.expecting accepted operator scope with
  | ok e' => rw [eq_of_expecting h]
  | error err =>
    rw [not_accepted_of_expecting h hv hvalue] at haccepted
    cases haccepted

/-! ## Making a timestamp -/

/-- An operator that makes a timestamp is read from a source and a format. -/
theorem exists_of_parse_timestamp (h : parseOperator scope ctx [("$timestamp", arg)] = .ok e) :
    ∃ source format sourceExpr items, arg = .array [source, .string format] ∧
      parse scope ctx source = .ok sourceExpr ∧ Item.ofFormat? format = some items ∧
      e = .timestamp sourceExpr format items ctx.offset := by
  -- Any other argument than a list of two is refused.
  rcases arg with _ | _ | _ | _ | (_ | ⟨source, _ | ⟨format, _ | ⟨_, _⟩⟩⟩) | _
  case array.cons.cons.nil =>
    obtain ⟨sourceExpr, hsource, h⟩ := Except.bind_eq_ok.1 h
    obtain ⟨_, hexpecting, h⟩ := Except.bind_eq_ok.1 h
    rw [eq_of_expecting hexpecting] at h
    obtain ⟨format, hformat, h⟩ := Except.bind_eq_ok.1 h
    unfold Argument.text at hformat
    split at hformat
    · obtain rfl := Except.ok.inj hformat
      split at h
      · rename_i items hitems
        exact ⟨_, _, _, items, rfl, hsource, hitems, (Except.ok.inj h).symm⟩
      · cases h
    · cases hformat
  all_goals cases h

/-- A timestamp has been read from a text as a wall-clock time. -/
theorem exists_of_eval_timestamp {format : String} {items : List Item} {offset : Calendar.Offset}
    (h : (timestamp e format items offset).eval d scope = .ok (.timestamp t)) :
    ∃ text wall, e.eval d scope = .ok (.string text) ∧ readWall items text = some wall ∧
      wall.toInstant? offset = some t := by
  obtain ⟨v, hv, h⟩ := Except.bind_eq_ok.1 h
  unfold readTimestamp at h
  split at h
  · rename_i text
    split at h
    · cases h
    · rename_i wall hwall
      split at h
      · cases h
      · rename_i t' ht
        obtain rfl := Value.timestamp.inj (Except.ok.inj h)
        exact ⟨text, wall, hv, hwall, ht⟩
  · cases h
  · cases h
  · cases h

/-! ## Taking a timestamp apart -/

theorem parseOperator_part :
    parseOperator scope ctx [(part.operator, operand)] = (do
      let source ← parse scope ctx operand
      let source ← source.expecting temporal part.operator scope
      return .datePart part source ctx.offset) := by
  cases part <;> rfl

/-- An operator that takes dates apart gives a part of a timestamp. -/
theorem exists_part_of_eval (part : Part) (hparse : parse scope ctx operand = .ok e)
    (hv : e.eval d scope' = .ok (.timestamp t)) :
    ∃ e', parseOperator scope ctx [(part.operator, operand)] = .ok e' ∧
      e'.eval d scope' = .ok (partAt part ctx.offset t) := by
  have hexpecting : e.expecting temporal part.operator scope = .ok e := expecting_of_eval hv rfl rfl
  refine ⟨.datePart part e ctx.offset, ?_, ?_⟩
  · rw [parseOperator_part, hparse, Except.ok_bind, hexpecting]
    rfl
  · rw [eval, hv]
    rfl

/-- **Wall-clock time reads back unchanged.**  A timestamp that the operator for it makes in a context comes from a text
that has been read as a wall-clock time in a format.  Any operator that takes dates apart, in the same context, is read
with any operand that brings the timestamp to it, and gives its field of that wall-clock time, as a calendar and a clock
show it. -/
theorem parts_of_timestamp {stamp : Expr} (hparse : parseOperator scope ctx [("$timestamp", arg)] = .ok stamp)
    (hvalue : stamp.eval d scope' = .ok (.timestamp t)) :
    ∃ source format sourceExpr items text wall, arg = .array [source, .string format] ∧
      parse scope ctx source = .ok sourceExpr ∧ sourceExpr.eval d scope' = .ok (.string text) ∧
      Item.ofFormat? format = some items ∧ readWall items text = some wall ∧
      ∃ field : Part → Int, wall.Shows field ∧
        ∀ (part : Part) (scope₁ scope₂ : Scope) (operand : Json) (e : Expr) (d₂ : Document),
          parse scope₁ ctx operand = .ok e → e.eval d₂ scope₂ = .ok (.timestamp t) →
            ∃ e', parseOperator scope₁ ctx [(part.operator, operand)] = .ok e' ∧
              e'.eval d₂ scope₂ = .ok (.number (Float.ofInt (field part))) := by
  obtain ⟨source, format, sourceExpr, items, rfl, hsource, hitems, rfl⟩ := exists_of_parse_timestamp hparse
  obtain ⟨text, wall, htext, hwall, hinstant⟩ := exists_of_eval_timestamp hvalue
  refine ⟨source, format, sourceExpr, items, text, wall, rfl, hsource, htext, hitems, hwall, fun part => part.of wall,
    Wall.shows_iff.2 fun _ => rfl, fun part scope₁ scope₂ operand e d₂ hoperand he => ?_⟩
  obtain ⟨e', he', hpart⟩ := exists_part_of_eval part hoperand he
  rw [partAt, Wall.toWall_of_toInstant? hinstant] at hpart
  exact ⟨e', he', hpart⟩

/-- The last second of a year that ends with a leap second is read in a country where the next year starts later. -/
theorem readWall_leapSecond :
    readWall [.number .year, .literal ['-'], .number .month, .literal ['-'], .number .day, .blanks, .number .hour,
        .literal [':'], .number .minute, .literal [':'], .number .second, .fraction none] "2016-12-31 23:59:60.5" =
      some ⟨⟨2016, 366, by decide, by decide⟩, 86399, 1500000000, by decide⟩ := by
  simp only [readWall, Calendar.Reading.readFields, List.foldlM_cons, List.foldlM_nil, Calendar.Reading.readItem,
    Calendar.Reading.readNumber, Text.dropBlanks, Text.isBlank_eq]
  decide +kernel

/-- In UTC, that second lies in the next year.  Its fields are those of the old year, and its fraction counts from a
thousand milliseconds. -/
theorem parts_of_timestamp_leapSecond :
    let ctx : Context := ⟨.empty, ⟨-18000, by decide⟩⟩
    let scope : Scope := ⟨.project, "x"⟩
    let arg : Json := .array [.string "$t", .string "%F%t%T%.f"]
    let d : Document := ⟨[("t", .string "2016-12-31 23:59:60.5")]⟩
    let t : Instant := ⟨1483246799, 1500000000⟩
    let shown : Part → Int
      | .dayOfYear => 366
      | .dayOfMonth => 31
      | .dayOfWeek => 7
      | .year => 2016
      | .month => 12
      | .hour => 23
      | .minute => 59
      | .second => 59
      | .millisecond => 1500
    (t.toWall .utc).date.year = 2017 ∧ ∃ stamp, parseOperator scope ctx [("$timestamp", arg)] = .ok stamp ∧
      stamp.eval d scope = .ok (.timestamp t) ∧
      ∀ part : Part, ∃ e, parseOperator scope ctx [(part.operator, .object [("$timestamp", arg)])] = .ok e ∧
        e.eval d scope = .ok (.number (Float.ofInt (shown part))) := by
  intro ctx scope arg d t shown
  let items : List Item := [.number .year, .literal ['-'], .number .month, .literal ['-'], .number .day, .blanks,
    .number .hour, .literal [':'], .number .minute, .literal [':'], .number .second, .fraction none]
  let stamp : Expr := .timestamp (.operand (.field (.ofString "t"))) "%F%t%T%.f" items ctx.offset
  have hstamp : parseOperator scope ctx [("$timestamp", arg)] = .ok stamp := rfl
  have hvalue : stamp.eval d scope = .ok (.timestamp t) := by
    have hsource : (operand (.field (.ofString "t"))).eval d scope = .ok (.string "2016-12-31 23:59:60.5") := rfl
    rw [eval, hsource, Except.ok_bind, readTimestamp, readWall_leapSecond]
    rfl
  obtain ⟨source, format, sourceExpr, items', text, wall, harg, hsource, htext, hitems, hwall, field, hfield, hparts⟩ :=
    parts_of_timestamp hstamp hvalue
  obtain ⟨rfl, rfl⟩ : .string "$t" = source ∧ "%F%t%T%.f" = format := by simpa [arg] using harg
  obtain rfl : items = items' := Option.some.inj hitems
  obtain rfl := Except.ok.inj hsource
  obtain rfl : "2016-12-31 23:59:60.5" = text := Value.string.inj (Except.ok.inj htext)
  obtain rfl := Option.some.inj (readWall_leapSecond.symm.trans hwall)
  refine ⟨rfl, stamp, hstamp, hvalue, fun part => ?_⟩
  have hshown : field part = shown part := by
    rw [Wall.shows_iff.1 hfield]
    cases part <;> rfl
  exact hshown ▸ hparts part scope scope _ stamp d hstamp hvalue

end DocFlow.Expr
