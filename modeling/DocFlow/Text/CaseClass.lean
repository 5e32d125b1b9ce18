import DocFlow.Text.CharSet
import DocFlow.Text.Table.Case

/-!
# Case classes

Characters that differ only in case form a class, which the table `Table.foldRuns` gives by a
representative.  A set is closed under case if with a character it holds the whole class;
`CharSet.caseClosure` is the least such set.
-/

namespace DocFlow.Text

/-- The codes of a run, each with the code it is moved to. -/
def runPairs (run : Table.Run) : List (Nat × Nat) :=
  let (first, last, step, delta) := run
  (List.range ((last - first) / step + 1)).map fun i =>
    (first + i * step, ((first + i * step : Nat) + delta).toNat)

/-- Every code that is not the representative of its case class, with the representative. -/
def casePairs : List (Nat × Nat) := Table.foldRuns.flatMap runPairs

namespace CharSet

def ofCodes (cs : List Nat) : CharSet := ofRanges (cs.map fun c => (c, c))

/-- The set together with all characters that differ from one of it only in case. -/
def caseClosure (s : CharSet) : CharSet :=
  let met := casePairs.filter fun (c, r) => s.containsCode c || s.containsCode r
  let representatives := ofCodes (met.map Prod.snd)
  let members := casePairs.filter fun (_, r) => representatives.containsCode r
  s.union (representatives.union (ofCodes (members.map Prod.fst)))

/-- The letters `a` to `z` and `A` to `Z` of a set, in the other case. -/
def swapAsciiCase (s : CharSet) : CharSet :=
  let letters := (s.inter (ofRanges [(0x41, 0x5A), (0x61, 0x7A)])).ranges.toList
  ofRanges (letters.map fun (a, b) => if a < 0x60 then (a + 32, b + 32) else (a - 32, b - 32))

/-- The set together with the ASCII letters that differ from one of it only in case. -/
def asciiCaseClosure (s : CharSet) : CharSet := s.union s.swapAsciiCase

def isAscii (s : CharSet) : Bool := s.ranges.all fun r => r.2 < 0x80

end CharSet

end DocFlow.Text
