/-!
# Sets of characters

A set of characters as an array of inclusive ranges of code points, sorted and disjoint.  Tables of
the Unicode standard are written as ranges in hexadecimal (`0041-005A 00AA`); `CharSet.ofHex` reads
them.  The operations are those of a bracket expression: union, intersection, complement.
-/

namespace DocFlow.Text

/-- A set of characters: inclusive ranges of code points, sorted and disjoint. -/
structure CharSet where
  ranges : Array (Nat × Nat)
  deriving Inhabited

namespace CharSet

def maxCode : Nat := 0x10FFFF

/-! ## Building -/

/-- The ranges of a sorted list put behind `(a, b)`, where touching ranges become one. -/
def absorb (a b : Nat) : List (Nat × Nat) → List (Nat × Nat)
  | [] => [(a, b)]
  | (c, d) :: rest => if c ≤ b + 1 then absorb a (max b d) rest else (a, b) :: absorb c d rest

/-- The set covered by any list of ranges; a range whose ends are in the wrong order is empty. -/
def ofRanges (rs : List (Nat × Nat)) : CharSet :=
  match (rs.filter fun r => r.1 ≤ r.2).mergeSort (fun r s => r.1 ≤ s.1) with
  | [] => ⟨#[]⟩
  | (a, b) :: rest => ⟨(absorb a b rest).toArray⟩

def empty : CharSet := ⟨#[]⟩

def all : CharSet := ⟨#[(0, maxCode)]⟩

def singleton (c : Char) : CharSet := ⟨#[(c.toNat, c.toNat)]⟩

def range (a b : Char) : CharSet := ofRanges [(a.toNat, b.toNat)]

/-- The value of a hexadecimal digit in capitals. -/
def hexValue (c : Char) : Nat :=
  if c.isDigit then c.toNat - '0'.toNat else c.toNat - 'A'.toNat + 10

/-- A table being read: the ranges so far, the lower end before a dash, the code being read. -/
structure HexScan where
  done : Array (Nat × Nat)
  low : Option Nat
  code : Option Nat

/-- The ranges with the one that ends where the scan stands. -/
def HexScan.flush (s : HexScan) : Array (Nat × Nat) :=
  match s.code with
  | some code => s.done.push (s.low.getD code, code)
  | none => s.done

def HexScan.step (s : HexScan) (c : Char) : HexScan :=
  if c = ' ' || c = '\n' then ⟨s.flush, none, none⟩
  else if c = '-' then ⟨s.done, s.code, none⟩
  else { s with code := some (s.code.getD 0 * 16 + hexValue c) }

/-- The set written as hexadecimal ranges, parted by blanks and ends of lines. -/
def ofHex (text : String) : CharSet := ⟨(text.foldl HexScan.step ⟨#[], none, none⟩).flush⟩

/-! ## Membership -/

/-- Binary search for the range that holds `c` among the positions from `lo` up to `hi`. -/
def search (rs : Array (Nat × Nat)) (c : Nat) : (fuel lo hi : Nat) → Bool
  | 0, _, _ => false
  | fuel + 1, lo, hi =>
    if lo < hi then
      let mid := (lo + hi) / 2
      match rs[mid]? with
      | none => false
      | some (a, b) =>
        if c < a then search rs c fuel lo mid
        else if b < c then search rs c fuel (mid + 1) hi
        else true
    else false

def containsCode (s : CharSet) (c : Nat) : Bool := search s.ranges c (s.ranges.size + 1) 0 s.ranges.size

def contains (s : CharSet) (c : Char) : Bool := s.containsCode c.toNat

def isEmpty (s : CharSet) : Bool := s.ranges.isEmpty

/-! ## Operations -/

def union (s t : CharSet) : CharSet := ofRanges (s.ranges.toList ++ t.ranges.toList)

/-- The codes from `start` on that the sorted ranges leave out. -/
def gaps (start : Nat) : List (Nat × Nat) → List (Nat × Nat)
  | [] => [(start, maxCode)]
  | (a, b) :: rest => (start, a - 1) :: gaps (b + 1) rest

def compl (s : CharSet) : CharSet :=
  match s.ranges.toList with
  | [] => all
  | (0, b) :: rest => ofRanges (gaps (b + 1) rest)
  | rs => ofRanges (gaps 0 rs)

def inter (s t : CharSet) : CharSet := (s.compl.union t.compl).compl

def diff (s t : CharSet) : CharSet := s.inter t.compl

def symmDiff (s t : CharSet) : CharSet := (s.diff t).union (t.diff s)

def unions (ss : List CharSet) : CharSet := ofRanges (ss.flatMap fun s => s.ranges.toList)

end CharSet

end DocFlow.Text
