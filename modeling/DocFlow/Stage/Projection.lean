import DocFlow.Expr.Eval
import DocFlow.Expr.Parser

/-!
# Projections

A projection makes a new document from the values of named expressions, or takes fields away from
the document that comes in.  The two are not mixed.
-/

namespace DocFlow

/-- What a projection keeps. -/
inductive Projection where
  /-- A document of the values of the expressions. -/
  | compute (fields : List (String × Expr))
  /-- The document without the fields at the paths. -/
  | without (paths : List Path)

namespace Projection

def scopeOf (key : String) : Scope := ⟨.project, key⟩

def fault (f : StageFault) : Error := .invalidStage "$project" f

/-! ## Reading -/

/-- The members that are flags to exclude a field. -/
def excluded (members : Entries Json) : Entries Json :=
  members.filter fun member => Expr.isExcludeFlag member.2

def parseFields (ctx : Context) : List (String × Json) → Except Error (List (String × Expr))
  | [] => .ok []
  | (key, j) :: rest => do
    if isDollar key then throw (fault (.dollarKey key))
    let e ← Expr.parseField (scopeOf key) ctx j
    return (key, e) :: (← parseFields ctx rest)

def parse (ctx : Context) : Json → Except Error Projection
  | .object (member :: members) =>
    let all := member :: members
    let out := excluded all
    -- flags that exclude stand alone; one of them beside another member is refused
    if out.isEmpty then do return .compute (← parseFields ctx all)
    else if out.length ≠ all.length then .error (fault .mixedProjection)
    else .ok (.without (out.keys.map Path.ofString))
  | _ => .error (fault .projectNotObject)

/-! ## Applying -/

def apply (d : Document) : Projection → Except Error Document
  | compute fields => do return ⟨← Expr.evalFields d scopeOf [] fields⟩
  | without paths => .ok (paths.foldl Document.delete d)

end Projection

end DocFlow
