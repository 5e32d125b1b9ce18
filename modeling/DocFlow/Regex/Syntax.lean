import DocFlow.Text.CharSet

/-!
# Syntax of patterns

A pattern as a tree.  Flags have been worked into it: the sets of a pattern that ignores case are
closed under case, a dot is the set of the characters it stands for, and an anchor says which ends
it looks for.
-/

namespace DocFlow.Regex

open DocFlow.Text

/-- What is asked of the edge of a word. -/
inductive Edge where
  /-- A word starts or ends here. -/
  | boundary
  /-- No word starts or ends here. -/
  | inside
  /-- A word starts here. -/
  | start
  /-- A word ends here. -/
  | finish
  /-- No word character stands before. -/
  | startHalf
  /-- No word character stands behind. -/
  | finishHalf
  deriving DecidableEq, Repr

/-- What is asked of the place between two characters. -/
inductive Look where
  | textStart
  | textEnd
  /-- The start of a line; with `crlf` a line also ends with a carriage return. -/
  | lineStart (crlf : Bool)
  /-- The end of a line. -/
  | lineEnd (crlf : Bool)
  /-- An edge of a word made of the given characters. -/
  | word (edge : Edge) (letters : CharSet)

inductive Node where
  /-- The empty text. -/
  | empty
  /-- One character of a set. -/
  | set (s : CharSet)
  /-- The empty text where a condition holds. -/
  | look (l : Look)
  /-- Repetitions of a pattern, as many as can be or as few. -/
  | loop (greedy : Bool) (least : Nat) (most : Option Nat) (body : Node)
  /-- A group that is captured under its number. -/
  | group (index : Nat) (name : Option String) (body : Node)
  /-- One pattern after the other. -/
  | concat (items : List Node)
  /-- The first pattern that matches. -/
  | alternate (items : List Node)
  deriving Inhabited

namespace Node

def sequence : List Node → Node
  | [] => empty
  | [n] => n
  | ns => concat ns

def choice : List Node → Node
  | [n] => n
  | ns => alternate ns

mutual

/-- The pattern asks for no character. -/
def matchesOnlyEmpty : Node → Bool
  | empty => true
  | set _ => false
  | look _ => true
  | loop _ _ most body => most.isSome && body.matchesOnlyEmpty
  | group _ _ body => body.matchesOnlyEmpty
  | concat items => allOnlyEmpty items
  | alternate items => allOnlyEmpty items

def allOnlyEmpty : List Node → Bool
  | [] => true
  | n :: ns => n.matchesOnlyEmpty && allOnlyEmpty ns

end

mutual

def matchesEmpty : Node → Bool
  | empty => true
  | set _ => false
  | look _ => true
  | loop _ least _ body => least = 0 || body.matchesEmpty
  | group _ _ body => body.matchesEmpty
  | concat items => allMatchEmpty items
  | alternate items => someMatchesEmpty items

def allMatchEmpty : List Node → Bool
  | [] => true
  | n :: ns => n.matchesEmpty && allMatchEmpty ns

def someMatchesEmpty : List Node → Bool
  | [] => false
  | n :: ns => n.matchesEmpty || someMatchesEmpty ns

end

/-- Repetitions of a pattern.  One that asks for no character is repeated at most once, and no repetition at all is the empty pattern. -/
def repeated (greedy : Bool) (least : Nat) (most : Option Nat) (body : Node) : Node :=
  let (least, most) :=
    if body.matchesOnlyEmpty then (min least 1, some (min (most.getD 1) 1)) else (least, most)
  if most = some 0 then empty
  else if least = 1 ∧ most = some 1 then body
  else loop greedy least most body

mutual

/-- The captured groups of the pattern: number and name. -/
def groups : Node → List (Nat × Option String)
  | empty => []
  | set _ => []
  | look _ => []
  | loop _ _ _ body => body.groups
  | group index name body => (index, name) :: body.groups
  | concat items => groupsOf items
  | alternate items => groupsOf items

def groupsOf : List Node → List (Nat × Option String)
  | [] => []
  | n :: ns => n.groups ++ groupsOf ns

end

mutual

def depth : Node → Nat
  | empty => 0
  | set _ => 0
  | look _ => 0
  | loop _ _ _ body => body.depth + 1
  | group _ _ body => body.depth + 1
  | concat items => depthOf items + 1
  | alternate items => depthOf items + 1

def depthOf : List Node → Nat
  | [] => 0
  | n :: ns => max n.depth (depthOf ns)

end

mutual

/-- The memory that the compiled pattern takes, in bytes: some for each instruction, and more for
the ranges of a set. -/
def weight : Node → Nat
  | empty => 32
  | set s => 32 + 70 * (s.ranges.size - 1)
  | look _ => 32
  | loop _ least most body =>
    match most with
    | none => (max least 1) * body.weight + 64
    | some n => n * (body.weight + 32) + 32
  | group _ _ body => body.weight + 64
  | concat items => weightOf items
  | alternate items => weightOf items + 32

def weightOf : List Node → Nat
  | [] => 0
  | n :: ns => n.weight + weightOf ns

end

end Node

end DocFlow.Regex
