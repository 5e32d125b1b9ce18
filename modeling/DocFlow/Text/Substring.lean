/-!
# Parts of a text

Two ways to name a part of a text by its characters.  `take` counts from a start and takes a length;
`slice` goes from a start to an end, and counts negative places from the end of the text.
-/

namespace DocFlow.Text

/-- So many characters from `start` on; a negative length takes all of them, and from a negative
start there are none. -/
def take (s : String) (start length : Int) : String :=
  if start < 0 then ""
  else
    let rest := s.toList.drop start.toNat
    String.ofList (if length < 0 then rest else rest.take length.toNat)

/-- The place that an index stands for in a text of `n` characters: a negative index counts from the
end, and one beyond an end is that end. -/
def clamp (n : Nat) (i : Int) : Nat := if i < 0 then (n + i).toNat else min i.toNat n

/-- The characters from `start` up to `stop`, or up to the end. -/
def slice (s : String) (start : Int) (stop : Option Int) : String :=
  let cs := s.toList
  let first := clamp cs.length start
  let last := (stop.map (clamp cs.length)).getD cs.length
  String.ofList ((cs.take last).drop first)

end DocFlow.Text
