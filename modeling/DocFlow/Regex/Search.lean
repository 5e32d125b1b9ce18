import DocFlow.Regex.Class
import DocFlow.Regex.Program

/-!
# Searching a text

The threads of a program run over the text side by side, in order of preference: an earlier start
before a later one, and among those of one start the order of the forks.  At each place a program
line is taken by the first thread that gets there.  A thread that accepts ends all threads behind
it, and the last to accept is the match.
-/

namespace DocFlow.Regex

/-- The characters around a place of a text. -/
structure Place where
  position : Nat
  before : Option Char
  after : Option Char

/-- A thread: where it is in the program, and the places it has noted in slots. -/
structure Thread where
  line : Nat
  slots : List (Nat × Nat)

/-- A character of the set stands there. -/
def holdsAt (s : Text.CharSet) (c : Option Char) : Bool := c.any s.contains

def Edge.holds (before after : Bool) : Edge → Bool
  | boundary => before != after
  | inside => before == after
  | start => !before && after
  | finish => before && !after
  | startHalf => !before
  | finishHalf => !after

def Look.holds (p : Place) : Look → Bool
  | textStart => p.before.isNone
  | textEnd => p.after.isNone
  | lineStart false => p.before.isNone || p.before = some '\n'
  | lineStart true =>
    p.before.isNone || p.before = some '\n' || (p.before = some '\r' && p.after ≠ some '\n')
  | lineEnd false => p.after.isNone || p.after = some '\n'
  | lineEnd true =>
    p.after.isNone || p.after = some '\r' || (p.after = some '\n' && p.before ≠ some '\r')
  | word edge letters => edge.holds (holdsAt letters p.before) (holdsAt letters p.after)

def Thread.save (t : Thread) (slot position : Nat) : Thread :=
  { t with slots := (slot, position) :: t.slots.filter fun s => s.1 ≠ slot }

namespace Program

/-- The count of all ways from a line to another. -/
def edges (p : Program) : Nat := p.code.foldl (fun n i => n + i.targets.length) 0

/-- The lines that threads reach without taking a character, each line once. -/
def follow (p : Program) (place : Place) : (fuel : Nat) → (waiting : List Thread) →
    (seen : Array Bool) → (reached : List Thread) → List Thread
  | 0, _, _, reached => reached.reverse
  | _, [], _, reached => reached.reverse
  | fuel + 1, t :: waiting, seen, reached =>
    if seen.getD t.line true then follow p place fuel waiting seen reached
    else
      let seen := seen.setIfInBounds t.line true
      match p.code[t.line]? with
      | some (.fork ts) =>
        follow p place fuel (ts.map (fun line => { t with line := line }) ++ waiting) seen reached
      | some (.save slot next) =>
        let t := t.save slot place.position
        follow p place fuel ({ t with line := next } :: waiting) seen reached
      | some (.look l next) =>
        if l.holds place then follow p place fuel ({ t with line := next } :: waiting) seen reached
        else follow p place fuel waiting seen reached
      | some (.set _ _) => follow p place fuel waiting seen (t :: reached)
      | some .accept => follow p place fuel waiting seen (t :: reached)
      | none => follow p place fuel waiting seen reached

/-- The threads that go on over the character `c`, up to one that accepts. -/
def step (p : Program) (c : Option Char) : (threads : List Thread) → List Thread × Option Thread
  | [] => ([], none)
  | t :: ts =>
    match p.code[t.line]? with
    | some .accept => ([], some t)
    | some (.set s next) =>
      let (going, accepted) := step p c ts
      if holdsAt s c then ({ t with line := next } :: going, accepted) else (going, accepted)
    | _ => step p c ts

/-- Runs threads over the rest of a text; `best` is the last to have accepted.  While there is none
a new thread starts at each place. -/
def run (p : Program) (fuel : Nat) : (rest : List Char) → (position : Nat) →
    (before : Option Char) → (threads : List Thread) → (best : Option Thread) → Option Thread
  | [], position, before, threads, best => (arrive [] position before threads best).2
  | c :: cs, position, before, threads, best =>
    let (going, best) := arrive (c :: cs) position before threads best
    if going.isEmpty && best.isSome then best
    else run p fuel cs (position + 1) (some c) going best
where
  /-- The threads that go on from a place, and the last to have accepted. -/
  arrive (rest : List Char) (position : Nat) (before : Option Char) (threads : List Thread)
      (best : Option Thread) : List Thread × Option Thread :=
    let waiting := if best.isNone then threads ++ [⟨p.start, []⟩] else threads
    let place : Place := ⟨position, before, rest.head?⟩
    let reached :=
      follow p place (fuel + waiting.length) waiting (Array.replicate p.code.size false) []
    let (going, accepted) := p.step rest.head? reached
    (going, accepted <|> best)

/-- The thread that has accepted, if the pattern matches somewhere in the text. -/
def search? (p : Program) (text : List Char) : Option Thread :=
  p.run (p.edges + 1) text 0 none [] none

end Program

end DocFlow.Regex
