import DocFlow.Text.Table.Case
import DocFlow.Text.Table.Property

/-!
# Capital and small letters

The full case mappings of the Unicode standard, which may lengthen a text (`ß` becomes `SS`), with
the one rule that looks at the neighbours: a capital sigma at the end of a word becomes `ς`.
-/

namespace DocFlow.Text

/-- The image of a code under the runs of a table; a code in no run stays. -/
def moveCode (runs : List Table.Run) (c : Nat) : Nat :=
  match runs.find? fun (a, b, step, _) => a ≤ c && c ≤ b && (c - a) % step == 0 with
  | some (_, _, _, delta) => ((c : Int) + delta).toNat
  | none => c

/-- The image of a character under a table of expansions and a table of runs. -/
def mapCase (expansions : List (Nat × List Nat)) (runs : List Table.Run) (c : Char) : List Char :=
  match expansions.lookup c.toNat with
  | some cs => cs.map Char.ofNat
  | none => [Char.ofNat (moveCode runs c.toNat)]

def upperOf (c : Char) : List Char :=
  if c.toNat < 0x80 then [c.toUpper] else mapCase Table.upperExpansions Table.upperRuns c

/-- The small form of a character on its own. -/
def lowerOf (c : Char) : List Char :=
  if c.toNat < 0x80 then [c.toLower] else mapCase Table.lowerExpansions Table.lowerRuns c

/-- The first character that is not skipped in the search for case has a case. -/
def meetsCased (cs : List Char) : Bool :=
  match cs.dropWhile Table.caseIgnorable.contains with
  | c :: _ => Table.cased.contains c
  | [] => false

/-- The small form of `Σ` between the characters `before`, nearest first, and `after`. -/
def lowerSigma (before after : List Char) : Char :=
  if meetsCased before && !meetsCased after then 'ς' else 'σ'

/-- The small forms of the characters `cs` that stand behind `before`, nearest first. -/
def lowerAfter (before : List Char) : List Char → List Char
  | [] => []
  | c :: cs =>
    (if c = 'Σ' then [lowerSigma before cs] else lowerOf c) ++ lowerAfter (c :: before) cs

def upper (s : String) : String := String.ofList (s.toList.flatMap upperOf)

def lower (s : String) : String := String.ofList (lowerAfter [] s.toList)

end DocFlow.Text
