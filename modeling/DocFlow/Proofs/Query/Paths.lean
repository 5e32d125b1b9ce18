import DocFlow.Expr.Parser
import DocFlow.Proofs.Expr.Paths
import DocFlow.Query.Parser

/-!
# Paths of a query

A query that calls no function of the host program only sees a document at the paths of the fields it tests and of the
fields its tests refer to (`Query.paths`): documents that agree on these get the same answer, or the same error
(`Query.accepts_congr`).  The query of an item of an array sees the item and nothing of the document around it, so its
paths do not count.
-/

namespace DocFlow

variable {d d' : Document}

/-! ## Paths of queries -/

mutual

/-- The paths at which a query sees the document: of the fields it tests, and of those its tests refer to. -/
def Query.paths : Query → List Path
  | .all qs => Query.pathsOfAll qs
  | .any qs => Query.pathsOfAll qs
  | .neither qs => Query.pathsOfAll qs
  | .call _ => []
  | .field path tests => path :: Test.pathsOfAll tests

def Query.pathsOfAll : List Query → List Path
  | [] => []
  | q :: qs => q.paths ++ Query.pathsOfAll qs

/-- The paths of the fields of the document that a test refers to. -/
def Test.paths : Test → List Path
  | .eq o => o.paths
  | .ne o => o.paths
  | .compare _ o => o.paths
  | .among o => o.paths
  | .notAmong o => o.paths
  | .item tests => Test.pathsOfAll tests
  | .negation tests => Test.pathsOfAll tests
  | .matching _ | .present _ | .modulo _ _ | .containsAll _ | .size _ | .itemQuery _ | .call _ => []

def Test.pathsOfAll : List Test → List Path
  | [] => []
  | t :: ts => t.paths ++ Test.pathsOfAll ts

end

mutual

def Query.CallFree : Query → Prop
  | .all qs => Query.AllCallFree qs
  | .any qs => Query.AllCallFree qs
  | .neither qs => Query.AllCallFree qs
  | .call _ => False
  | .field _ tests => Test.AllCallFree tests

def Query.AllCallFree : List Query → Prop
  | [] => True
  | q :: qs => q.CallFree ∧ Query.AllCallFree qs

def Test.CallFree : Test → Prop
  | .item tests => Test.AllCallFree tests
  | .itemQuery q => q.CallFree
  | .negation tests => Test.AllCallFree tests
  | .call _ => False
  | _ => True

def Test.AllCallFree : List Test → Prop
  | [] => True
  | t :: ts => t.CallFree ∧ Test.AllCallFree ts

end

/-! ## Answers -/

open Document (AgreeOn agreeOn_cons agreeOn_append)

mutual

/-- Documents that agree on the paths of a query without calls get the same answer or error. -/
theorem Query.accepts_congr : ∀ q : Query, q.CallFree → AgreeOn q.paths d d' → q.accepts d = q.accepts d'
  | .all qs, hcall, h => Query.allAccept_congr qs hcall h
  | .any qs, hcall, h => Query.someAccepts_congr qs hcall h
  | .neither qs, hcall, h => congrArg (· >>= _) (Query.someAccepts_congr qs hcall h)
  | .field path tests, hcall, h => by
    obtain ⟨hpath, htests⟩ := agreeOn_cons.1 h
    rw [Query.accepts, Query.accepts, hpath]
    exact Test.allHold_congr tests hcall htests _ _

theorem Query.allAccept_congr : ∀ qs : List Query, Query.AllCallFree qs → AgreeOn (Query.pathsOfAll qs) d d' →
    Query.allAccept d qs = Query.allAccept d' qs
  | [], _, _ => rfl
  | q :: qs, hcall, h => by
    obtain ⟨hq, hqs⟩ := agreeOn_append.1 h
    rw [Query.allAccept, Query.allAccept, Query.accepts_congr q hcall.1 hq, Query.allAccept_congr qs hcall.2 hqs]

theorem Query.someAccepts_congr : ∀ qs : List Query, Query.AllCallFree qs → AgreeOn (Query.pathsOfAll qs) d d' →
    Query.someAccepts d qs = Query.someAccepts d' qs
  | [], _, _ => rfl
  | q :: qs, hcall, h => by
    obtain ⟨hq, hqs⟩ := agreeOn_append.1 h
    rw [Query.someAccepts, Query.someAccepts, Query.accepts_congr q hcall.1 hq, Query.someAccepts_congr qs hcall.2 hqs]

/-- A test holds of a value in documents that agree on its paths, or in neither. -/
theorem Test.holds_congr : ∀ t : Test, t.CallFree → AgreeOn t.paths d d' →
    ∀ scope v, t.holds d scope v = t.holds d' scope v
  | .eq o, _, h, _, _ | .ne o, _, h, _, _ | .compare _ o, _, h, _, _ | .among o, _, h, _, _
  | .notAmong o, _, h, _, _ => by simp only [Test.holds, Operand.resolve_congr h]
  | .matching _, _, _, _, _ | .present _, _, _, _, _ | .modulo _ _, _, _, _, _ | .containsAll _, _, _, _, _
  | .size _, _, _, _, _ => rfl
  | .item tests, hcall, h, scope, v => by
    have hitem (item : Value) : Test.allHold d scope item tests = Test.allHold d' scope item tests :=
      Test.allHold_congr tests hcall h scope item
    simp only [Test.holds, hitem]
  | .itemQuery _, _, _, _, _ => rfl
  | .negation tests, hcall, h, scope, v => congrArg (· >>= _) (Test.allHold_congr tests hcall h scope v)

theorem Test.allHold_congr : ∀ ts : List Test, Test.AllCallFree ts → AgreeOn (Test.pathsOfAll ts) d d' →
    ∀ scope v, Test.allHold d scope v ts = Test.allHold d' scope v ts
  | [], _, _, _, _ => rfl
  | t :: ts, hcall, h, scope, v => by
    obtain ⟨ht, hts⟩ := agreeOn_append.1 h
    rw [Test.allHold, Test.allHold, Test.holds_congr t hcall.1 ht, Test.allHold_congr ts hcall.2 hts]

end

/-- **Only the named paths count.**  Documents with the same values at the paths of an expression that calls no function
of the host program give the same value or the same error; and with the same values at the paths of a query that calls
none they get the same answer or the same error. -/
theorem Document.AgreeOn.answers_eq :
    (∀ (e : Expr) (d d' : Document), e.CallFree → AgreeOn e.paths d d' → ∀ scope, e.eval d scope = e.eval d' scope) ∧
      ∀ (q : Query) (d d' : Document), q.CallFree → AgreeOn q.paths d d' → q.accepts d = q.accepts d' :=
  ⟨fun e _ _ hcall h _ => Expr.eval_congr e hcall h, fun q _ _ hcall h => Query.accepts_congr q hcall h⟩

/-- A field that is included, an operator inside an object, and fields that a negation, a test of items and a query of
items refer to.  The documents differ at the field of which only the query of items has the name. -/
theorem Document.AgreeOn.answers_eq_hidden :
    let fields : Json := .object [("kept", .bool true),
      ("text", .object [("$concat", .array [.string "$a.b", .string "$c"])])]
    let members : Entries Json := [("n", .object [("$not", .object [("$gt", .string "$top")])]),
      ("xs", .object [("$elemMatch", .object [("$gte", .string "$low")])]),
      ("ys", .object [("$elemMatch", .object [("key", .object [("$eq", .string "$hidden")])])])]
    let d (hidden : String) : Document := ⟨[("x", .document [("kept", .null)]), ("a", .document [("b", .string "u"),
      ("hidden", .string hidden)]), ("c", .string "v"), ("n", .string "1"), ("top", .string "2"),
      ("xs", .array [.string "4"]), ("low", .string "3"), ("ys", .array [.document [("key", .string "k"),
      ("hidden", .string "k")]]), ("hidden", .string hidden)]⟩
    let scope : Scope := ⟨.project, "x"⟩
    ∃ e q, e.CallFree ∧ q.CallFree ∧ Expr.parseField scope .default fields = .ok e ∧
      Query.parse .default (.object members) = .ok q ∧
      e.paths = [.ofString "x.kept", .ofString "a.b", .ofString "c"] ∧
      q.paths = ["n", "top", "xs", "low", "ys"].map .ofString ∧
      AgreeOn e.paths (d "s") (d "t") ∧ AgreeOn q.paths (d "s") (d "t") ∧
      e.eval (d "s") scope = e.eval (d "t") scope ∧ q.accepts (d "s") = q.accepts (d "t") ∧
      q.accepts (d "s") = .ok true := by
  intro fields members d scope
  let e : Expr := .object [("kept", .operand (.field (.ofString "x.kept"))),
    ("text", .concat [.operand (.field (.ofString "a.b")), .operand (.field (.ofString "c"))])]
  let q : Query := .all [.field (.ofString "n") [.negation [.compare .gt (.field (.ofString "top"))]],
    .field (.ofString "xs") [.item [.compare .ge (.field (.ofString "low"))]],
    .field (.ofString "ys") [.itemQuery (.field (.ofString "key") [.eq (.field (.ofString "hidden"))])]]
  have he : e.CallFree := by simp [e, Expr.CallFree, Expr.FieldsCallFree, Expr.PartsCallFree]
  have hq : q.CallFree := by simp [q, Query.CallFree, Query.AllCallFree, Test.CallFree, Test.AllCallFree]
  have hfields : AgreeOn e.paths (d "s") (d "t") :=
    agreeOn_cons.2 ⟨rfl, agreeOn_cons.2 ⟨rfl, agreeOn_cons.2 ⟨rfl, nofun⟩⟩⟩
  have htests : AgreeOn q.paths (d "s") (d "t") := agreeOn_cons.2 ⟨rfl, agreeOn_cons.2 ⟨rfl, agreeOn_cons.2 ⟨rfl,
    agreeOn_cons.2 ⟨rfl, agreeOn_cons.2 ⟨rfl, nofun⟩⟩⟩⟩⟩
  exact ⟨e, q, he, hq, rfl, rfl, rfl, rfl, hfields, htests, answers_eq.1 e _ _ he hfields scope,
    answers_eq.2 q _ _ hq htests, rfl⟩

end DocFlow
