import DocFlow.Regex.Class
import DocFlow.Regex.Syntax
import DocFlow.Text.Blank
import DocFlow.Text.CaseClass

/-!
# Reading patterns

The grammar of patterns: characters, dots and anchors, escapes, bracketed sets with nesting and set
operations, groups, alternatives and repetitions.  Flags such as `(?i)` hold to the end of the group
they stand in; they are worked into the tree as it is built (`Flags`).  There is no look-around and
no back-reference.
-/

namespace DocFlow.Regex

-- Powers are those of core, also where a library brings others; for that a literal exponent has its type written out.
attribute [local instance (high)] instPowNat

open DocFlow.Text

/-- The flags under which a part of a pattern is read. -/
structure Flags where
  /-- Case is ignored (`i`). -/
  caseless : Bool
  /-- Anchors look for the ends of lines (`m`). -/
  lines : Bool
  /-- A dot also stands for the end of a line (`s`). -/
  dotAll : Bool
  /-- Repetitions are as few as can be unless marked (`U`). -/
  swapGreed : Bool
  /-- Classes are those of Unicode (`u`). -/
  unicode : Bool
  /-- A line also ends with a carriage return (`R`). -/
  crlf : Bool
  /-- Blanks and comments in the pattern count for nothing (`x`). -/
  verbose : Bool
  deriving DecidableEq, Repr

def Flags.default : Flags := ⟨false, false, false, false, true, false, false⟩

/-- The flags with the one of a letter set or cleared. -/
def Flags.set? (f : Flags) (letter : Char) (on : Bool) : Option Flags :=
  match letter with
  | 'i' => some { f with caseless := on }
  | 'm' => some { f with lines := on }
  | 's' => some { f with dotAll := on }
  | 'U' => some { f with swapGreed := on }
  | 'u' => some { f with unicode := on }
  | 'R' => some { f with crlf := on }
  | 'x' => some { f with verbose := on }
  | _ => none

/-- Why a text is no pattern. -/
inductive Fault where
  | unclosedGroup
  | unopenedGroup
  | lookAround
  | badGroupName
  | repeatedGroupName (name : String)
  | badFlags
  | nothingToRepeat
  | badCount
  | unclosedSet
  | badRange
  | badSetMember
  | trailingBackslash
  | backReference
  | badEscape (c : Char)
  | badCode
  | badEdge
  | unknownProperty (name : String)
  | beyondAscii
  | tooDeep
  | tooLarge
  deriving DecidableEq, Repr

def Fault.message : Fault → String
  | unclosedGroup => "unclosed group"
  | unopenedGroup => "unopened group"
  | lookAround => "look-around is not supported"
  | badGroupName => "invalid group name"
  | repeatedGroupName name => "duplicate group name '" ++ name ++ "'"
  | badFlags => "invalid flags"
  | nothingToRepeat => "repetition without an expression"
  | badCount => "invalid repetition count"
  | unclosedSet => "unclosed character class"
  | badRange => "invalid character class range"
  | badSetMember => "invalid character class member"
  | trailingBackslash => "incomplete escape sequence"
  | backReference => "backreferences are not supported"
  | badEscape c => "unrecognized escape sequence '\\" ++ c.toString ++ "'"
  | badCode => "invalid character code"
  | badEdge => "invalid word boundary"
  | unknownProperty name => "unknown property '" ++ name ++ "'"
  | beyondAscii => "pattern leaves ASCII without the flag u"
  | tooDeep => "pattern is nested too deeply"
  | tooLarge => "compiled pattern is too large"

/-! ## The cursor -/

/-- Where the reading of a pattern stands. -/
structure Cursor where
  rest : List Char
  flags : Flags
  /-- The count of captured groups opened so far. -/
  groups : Nat
  names : List String

abbrev Scan (α : Type) := StateT Cursor (Except Fault) α

namespace Parser

def peek : Scan (Option Char) := do return (← get).rest.head?

/-- The characters behind comments and blanks, as a verbose pattern has them. -/
def skipComments : (comment : Bool) → List Char → List Char
  | _, [] => []
  | true, c :: cs => skipComments (c ≠ '\n') cs
  | false, c :: cs =>
    if isBlank c then skipComments false cs
    else if c = '#' then skipComments true cs
    else c :: cs

/-- Comments and blanks are passed over in a verbose pattern. -/
def skipIgnored : Scan Unit :=
  modify fun s => if s.flags.verbose then { s with rest := skipComments false s.rest } else s

def goto (rest : List Char) : Scan Unit := modify fun s => { s with rest := rest }

def bump : Scan Unit := modify fun s => { s with rest := s.rest.drop 1 }

/-- Passes over one character, and what is to be ignored behind it. -/
def bumpOver : Scan Unit := do bump; skipIgnored

/-- Passes over a text if it is next. -/
def accept (text : List Char) : Scan Bool := do
  let s ← get
  if text.isPrefixOf s.rest then
    goto (s.rest.drop text.length)
    return true
  return false

/-- The next character, which has to be there. -/
def need (fault : Fault) : Scan Char := do
  match ← peek with
  | some c => return c
  | none => throw fault

/-- Passes over the characters that satisfy a condition, one at a time with what is to be ignored
behind each, and returns them. -/
def takeOver (p : Char → Bool) : (fuel : Nat) → Scan (List Char)
  | 0 => return []
  | fuel + 1 => do
    match ← peek with
    | some c =>
      if p c then
        bumpOver
        return c :: (← takeOver p fuel)
      return []
    | none => return []

def remaining : Scan Nat := do return (← get).rest.length

/-! ## Sets and characters under flags -/

/-- The set, closed under case if case is ignored. -/
def foldSet (f : Flags) (s : CharSet) : CharSet :=
  if f.caseless then (if f.unicode then s.caseClosure else s.asciiCaseClosure) else s

/-- The set, refused if it leaves ASCII where it must not. -/
def checkSet (f : Flags) (s : CharSet) : Except Fault CharSet :=
  if f.unicode || s.isAscii then .ok s else .error .beyondAscii

/-- The set or its complement, after case has been seen to. -/
def closeSet (f : Flags) (negated : Bool) (s : CharSet) : Except Fault CharSet :=
  let s := foldSet f s
  checkSet f (if negated then s.compl else s)

def literal (f : Flags) (c : Char) : Node :=
  .set (if f.unicode || c.toNat < 0x80 then foldSet f (.singleton c) else .singleton c)

def dot (f : Flags) : Except Fault Node :=
  if !f.unicode then .error .beyondAscii
  else if f.dotAll then .ok (.set .all)
  else if f.crlf then .ok (.set (CharSet.ofCodes [0x0A, 0x0D]).compl)
  else .ok (.set (CharSet.singleton '\n').compl)

def edge (f : Flags) (e : Edge) : Node :=
  .look (.word e (if f.unicode then Class.words else Class.asciiWords))

/-! ## Escapes -/

/-- What stands for one thing in a pattern: a character, a set, or a condition. -/
inductive Atom where
  | char (c : Char)
  | set (s : CharSet)
  | other (n : Node)

def isMeta (c : Char) : Bool := "\\.+*?()|[]\x7b\x7d^$#&-~".toList.contains c

/-- An ASCII character that stands for itself behind a backslash. -/
def isEscapable (c : Char) : Bool :=
  isMeta c || (c.toNat < 0x80 && !c.isAlphanum && c ≠ '<' && c ≠ '>')

/-- The character that a letter stands for behind a backslash. -/
def control? (c : Char) : Option Char :=
  match c with
  | 'a' => some '\x07'
  | 'f' => some '\x0c'
  | 't' => some '\t'
  | 'n' => some '\n'
  | 'r' => some '\r'
  | 'v' => some '\x0b'
  | _ => none

def isHex (c : Char) : Bool := c.isDigit || ('a' ≤ c && c ≤ 'f') || ('A' ≤ c && c ≤ 'F')

def hexValue (c : Char) : Nat :=
  if c.isDigit then c.toNat - '0'.toNat else c.toLower.toNat - 'a'.toNat + 10

def ofHexDigits (ds : List Char) : Except Fault Char :=
  let n := ds.foldl (fun n d => n * 16 + hexValue d) 0
  if h : n.isValidChar then .ok (Char.ofNatAux n h) else .error .badCode

def hexDigits : (count : Nat) → Scan (List Char)
  | 0 => return []
  | count + 1 => do
    let c ← need .trailingBackslash
    if !isHex c then throw .badCode
    bumpOver
    return c :: (← hexDigits count)

/-- A character by its code: behind `\x`, `\u` or `\U`, in braces or of fixed width.  Two digits
behind `\x` stand for a byte, which must be ASCII if the pattern is to stay in ASCII. -/
def codeEscape (kind : Char) : Scan Char := do
  bumpOver
  let c ← need .trailingBackslash
  if c = '\x7b' then
    bumpOver
    let ds ← takeOver (· ≠ '\x7d') (← remaining)
    let _ ← need .trailingBackslash
    bumpOver
    if ds.isEmpty || !ds.all isHex then throw .badCode
    ofHexDigits ds
  else
    let ds ← hexDigits (if kind = 'x' then 2 else if kind = 'u' then 4 else 8)
    let c ← ofHexDigits ds
    if kind = 'x' && !(← get).flags.unicode && 0x80 ≤ c.toNat then throw .beyondAscii
    return c

/-- The parts of a text before and behind the first place where another text stands. -/
def splitAt? (mark : List Char) : List Char → Option (List Char × List Char)
  | [] => none
  | c :: cs =>
    if mark.isPrefixOf (c :: cs) then some ([], (c :: cs).drop mark.length)
    else (splitAt? mark cs).map fun (before, behind) => (c :: before, behind)

/-- The set that the text in braces behind `\p` names, and whether a `!=` negates it. -/
def propertySet (name : List Char) : Except Fault (CharSet × Bool) :=
  let found (s : Option CharSet) (negated : Bool) :=
    match s with
    | some s => .ok (s, negated)
    | none => .error (.unknownProperty (String.ofList name))
  let valued (parts : List Char × List Char) :=
    Property.valued? (String.ofList parts.1) (String.ofList parts.2)
  match splitAt? ['!', '='] name with
  | some parts => found (valued parts) true
  | none =>
    match splitAt? [':'] name with
    | some parts => found (valued parts) false
    | none =>
      match splitAt? ['='] name with
      | some parts => found (valued parts) false
      | none => found (Property.named? (String.ofList name)) false

/-- A set by a property, behind `\p` or `\P`. -/
def propertyEscape (negated : Bool) : Scan CharSet := do
  bumpOver
  let c ← need .trailingBackslash
  let (s, inverted) ← (do
    if c = '\x7b' then
      bumpOver
      let name ← takeOver (· ≠ '\x7d') (← remaining)
      let _ ← need .trailingBackslash
      bump
      propertySet name
    else
      if c = '\\' then throw (.unknownProperty "\\")
      bumpOver
      propertySet [c])
  let f := (← get).flags
  if !f.unicode then throw .beyondAscii
  closeSet f (negated != inverted) s

/-- The edge that a name in braces behind `\b` stands for. -/
def edge? (name : List Char) : Option Edge :=
  match String.ofList name with
  | "start" => some .start
  | "end" => some .finish
  | "start-half" => some .startHalf
  | "end-half" => some .finishHalf
  | _ => none

/-- The edge behind `\b`: a name in braces, unless the braces hold the count of a repetition. -/
def edgeEscape : Scan Edge := do
  let s ← get
  if s.rest.head? ≠ some '\x7b' then return .boundary
  bumpOver
  let isNameChar := fun (c : Char) => c.isAlpha || c = '-'
  if !isNameChar (← need .badEdge) then
    goto s.rest
    return .boundary
  let name ← takeOver isNameChar (← remaining)
  if (← need .badEdge) ≠ '\x7d' then throw .badEdge
  bump
  match edge? name with
  | some e => return e
  | none => throw .badEdge

/-- What stands behind a backslash. -/
def escape : Scan Atom := do
  bump
  let c ← need .trailingBackslash
  let f := (← get).flags
  if c.isDigit then throw .backReference
  if c = 'x' || c = 'u' || c = 'U' then return .char (← codeEscape c)
  if c = 'p' || c = 'P' then return .set (← propertyEscape (c = 'P'))
  bump
  match Class.escape? f.unicode c.toLower with
  | some s => return .set (← checkSet f (if c.isUpper then s.compl else s))
  | none =>
    if isEscapable c then return .char c
    match control? c with
    | some c => return .char c
    | none =>
      match c with
      | 'A' => return .other (.look .textStart)
      | 'z' => return .other (.look .textEnd)
      | 'b' => return .other (edge f (← edgeEscape))
      | 'B' => return .other (edge f .inside)
      | '<' => return .other (edge f .start)
      | '>' => return .other (edge f .finish)
      | c => throw (.badEscape c)

/-- A single thing outside brackets. -/
def primitive (c : Char) : Scan Node := do
  let f := (← get).flags
  match c with
  | '\\' =>
    match ← escape with
    | .char c => return literal f c
    | .set s => return .set s
    | .other n => return n
  | '.' => bump; dot f
  | '^' => bump; return .look (if f.lines then .lineStart f.crlf else .textStart)
  | '$' => bump; return .look (if f.lines then .lineEnd f.crlf else .textEnd)
  | c => bump; return literal f c

/-! ## Sets in brackets -/

/-- The operations between parts of a bracketed set. -/
inductive SetOp where
  | inter | diff | symmDiff
  deriving DecidableEq, Repr

def SetOp.apply : SetOp → CharSet → CharSet → CharSet
  | inter => CharSet.inter
  | diff => CharSet.diff
  | symmDiff => CharSet.symmDiff

/-- The left side of an operation, if there is one, together with the right side. -/
def combine (f : Flags) (left : Option (CharSet × SetOp)) (s : CharSet) : CharSet :=
  match left with
  | none => s
  | some (l, op) => op.apply (foldSet f l) (foldSet f s)

/-- The operation that is written by two equal characters. -/
def setOp? : List Char → Option SetOp
  | '&' :: '&' :: _ => some .inter
  | '-' :: '-' :: _ => some .diff
  | '~' :: '~' :: _ => some .symmDiff
  | _ => none

/-- A class in the form `[:name:]` at the start of a text, and what follows it. -/
def posix? (f : Flags) (cs : List Char) : Option (Except Fault CharSet × List Char) :=
  match cs with
  | '[' :: ':' :: cs =>
    let (negated, cs) := match cs with | '^' :: cs => (true, cs) | cs => (false, cs)
    match splitAt? [':'] cs with
    | some (name, ']' :: rest) =>
      (Class.posix? (String.ofList name)).map fun s => (closeSet f negated s, rest)
    | _ => none
  | _ => none

/-- A member of a set that is no range: a character or a set. -/
def setMember (c : Char) : Scan (Char ⊕ CharSet) := do
  if c = '\\' then
    match ← escape with
    | .char c =>
      let f := (← get).flags
      if !f.unicode && 0x80 ≤ c.toNat then throw .beyondAscii
      return .inl c
    | .set s => return .inr s
    | .other _ => throw .badSetMember
  else
    if !(← get).flags.unicode && 0x80 ≤ c.toNat then throw .beyondAscii
    bump
    return .inl c

/-- The next character is a dash that makes a range of what stands around it. -/
def isRangeDash (s : Cursor) : Bool :=
  match s.rest with
  | '-' :: cs =>
    let cs := if s.flags.verbose then skipComments false cs else cs
    cs.head? ≠ some ']' && cs.head? ≠ some '-'
  | _ => false

/-- A member of a set: a character, a range of characters, or a set. -/
def setRange (c : Char) : Scan CharSet := do
  let low ← setMember c
  skipIgnored
  let _ ← need .unclosedSet
  if isRangeDash (← get) then
    bumpOver
    let high ← setMember (← need .unclosedSet)
    match low, high with
    | .inl a, .inl b => if a ≤ b then return .range a b else throw .badRange
    | _, _ => throw .badRange
  else
    match low with
    | .inl a => return .singleton a
    | .inr s => return s

/-- Dashes at the start of a set stand for themselves. -/
def leadingDashes : Scan (List CharSet) := do
  let ds ← takeOver (· = '-') (← remaining)
  return ds.map CharSet.singleton

/-- The start of a set behind its bracket: whether it is negated, and the dashes or the closing
bracket that stand for themselves. -/
def openSet : Scan (Bool × List CharSet) := do
  bumpOver
  let negated := (← need .unclosedSet) = '^'
  if negated then bumpOver
  let dashes ← leadingDashes
  let c ← need .unclosedSet
  if dashes.isEmpty && c = ']' then
    bumpOver
    let _ ← need .unclosedSet
    return (negated, [.singleton ']'])
  return (negated, dashes)

/-- The members of a set up to its closing bracket. -/
def setBody : (fuel : Nat) → (left : Option (CharSet × SetOp)) → (members : List CharSet) →
    Scan CharSet
  | 0, _, _ => throw .unclosedSet
  | fuel + 1, left, members => do
    skipIgnored
    let c ← need .unclosedSet
    let s ← get
    match c, setOp? s.rest with
    | _, some op =>
      goto (s.rest.drop 2)
      setBody fuel (some (combine s.flags left (.unions members), op)) []
    | ']', none =>
      bump
      return combine s.flags left (.unions members)
    | '[', none =>
      match posix? s.flags s.rest with
      | some (found, rest) =>
        let found ← found
        goto rest
        setBody fuel left (found :: members)
      | none =>
        let (negated, first) ← openSet
        let inner ← setBody fuel none first
        let inner ← closeSet s.flags negated inner
        setBody fuel left (inner :: members)
    | c, none =>
      let member ← setRange c
      setBody fuel left (member :: members)

def bracketed : Scan Node := do
  let f := (← get).flags
  let (negated, first) ← openSet
  let s ← setBody ((← remaining) + 1) none first
  return .set (← closeSet f negated s)

/-! ## Repetitions -/

/-- Whether a repetition takes as much as it can; `marked` says that a `?` stands behind it. -/
def greed (f : Flags) (marked : Bool) : Bool := f.swapGreed == marked

/-- A count: decimal digits between blanks, below two to the thirty-second. -/
def count : Scan Nat := do
  let s ← get
  goto (dropBlanks s.rest)
  let ds ← takeOver Char.isDigit (← remaining)
  let _ ← takeOver isBlank (← remaining)
  let n := ds.foldl (fun n d => n * 10 + (d.toNat - '0'.toNat)) 0
  if ds.isEmpty || 2 ^ (32 : Nat) ≤ n then throw .badCount
  return n

/-- The counts in braces: the least, and the most if there is one. -/
def counts : Scan (Nat × Option Nat) := do
  bumpOver
  let least ← count
  let c ← need .badCount
  if c = ',' then
    bumpOver
    if (← need .badCount) = '\x7d' then return (least, none)
    let most ← count
    if (← need .badCount) ≠ '\x7d' || most < least then throw .badCount
    return (least, some most)
  else if c = '\x7d' then return (least, some least)
  else throw .badCount

/-- The repetition of `body` that the next character writes. -/
def repetition (c : Char) (body : Node) : Scan Node := do
  let f := (← get).flags
  match c with
  | '*' => bump; return .repeated (greed f (← accept ['?'])) 0 none body
  | '+' => bump; return .repeated (greed f (← accept ['?'])) 1 none body
  | '?' => bump; return .repeated (greed f (← accept ['?'])) 0 (some 1) body
  | _ =>
    let (least, most) ← counts
    bumpOver
    return .repeated (greed f (← accept ['?'])) least most body

/-! ## Groups -/

/-- The flags written by letters up to a colon or a closing bracket, which is left. -/
def flagLetters : (fuel : Nat) → Flags → (seen : List Char) → Scan (Flags × List Char)
  | 0, _, _ => throw .badFlags
  | fuel + 1, f, seen => do
    let c ← need .unclosedGroup
    if c = ':' || c = ')' then
      if seen.head? = some '-' then throw .badFlags
      return (f, seen)
    if seen.contains c then throw .badFlags
    bump
    if c = '-' then flagLetters fuel f (c :: seen)
    else
      match f.set? c (!seen.contains '-') with
      | some f => flagLetters fuel f (c :: seen)
      | none => throw .badFlags

def isNameChar (first : Bool) (c : Char) : Bool :=
  c = '_' || Table.alphabetic.contains c
    || (!first && (c = '.' || c = '[' || c = ']'
      || Table.nd.contains c || Table.nl.contains c || Table.no.contains c))

/-- The name of a group up to its closing angle. -/
def groupName : Scan String := do
  let s ← get
  match splitAt? ['>'] s.rest with
  | some (c :: cs, rest) =>
    let name := String.ofList (c :: cs)
    if !isNameChar true c || !cs.all (isNameChar false) then throw .badGroupName
    if s.names.contains name then throw (.repeatedGroupName name)
    set { s with rest := rest, names := name :: s.names }
    return name
  | _ => throw .badGroupName

inductive Opening where
  /-- Flags that hold from here on. -/
  | directive
  /-- A group that is not captured. -/
  | plain
  | captured (index : Nat) (name : Option String)

def newGroup : Scan Nat := do
  let s ← get
  set { s with groups := s.groups + 1 }
  return s.groups + 1

/-- The start of a group behind its bracket; the flags it gives hold from here on. -/
def openGroup : Scan Opening := do
  bumpOver
  let s ← get
  let starts (text : String) := text.toList.isPrefixOf s.rest
  if starts "?=" || starts "?!" || starts "?<=" || starts "?<!" then throw .lookAround
  if (← accept "?P<".toList) || (← accept "?<".toList) then
    let index ← newGroup
    return .captured index (some (← groupName))
  if ← accept ['?'] then
    let (f, seen) ← flagLetters ((← remaining) + 1) s.flags []
    let closed := (← peek) = some ')'
    bump
    if closed && seen.isEmpty then throw .nothingToRepeat
    modify fun s => { s with flags := f }
    return if closed then .directive else .plain
  return .captured (← newGroup) none

def Opening.wrap : Opening → Node → Node
  | captured index name, body => .group index name body
  | _, body => body

/-! ## Patterns -/

/-- The choice among finished branches, latest first, and the items of the last one, latest first;
an item that is `none` only sets flags. -/
def finish (branches : List Node) (items : List (Option Node)) : Node :=
  .choice ((Node.sequence (items.reverse.filterMap id) :: branches).reverse)

/-- A pattern up to the end or to a closing bracket, which is left. -/
def pattern : (fuel : Nat) → (branches : List Node) → (items : List (Option Node)) → Scan Node
  | 0, _, _ => throw .tooDeep
  | fuel + 1, branches, items => do
    skipIgnored
    match ← peek with
    | none => return finish branches items
    | some ')' => return finish branches items
    | some '|' =>
      bump
      pattern fuel (Node.sequence (items.reverse.filterMap id) :: branches) []
    | some '(' =>
      let outer := (← get).flags
      match ← openGroup with
      | .directive => pattern fuel branches (none :: items)
      | opening =>
        let body ← pattern fuel [] []
        if !(← accept [')']) then throw .unclosedGroup
        modify fun s => { s with flags := outer }
        pattern fuel branches (some (opening.wrap body) :: items)
    | some '[' =>
      let node ← bracketed
      pattern fuel branches (some node :: items)
    | some c =>
      if c = '?' || c = '*' || c = '+' || c = '\x7b' then
        match items with
        | some body :: items =>
          let node ← repetition c body
          pattern fuel branches (some node :: items)
        | _ => throw .nothingToRepeat
      else
        let node ← primitive c
        pattern fuel branches (some node :: items)

def maxDepth : Nat := 250

/-- The greatest weight of a pattern, in bytes. -/
def maxWeight : Nat := 10 * 2 ^ (20 : Nat)

def whole (flags : Flags) (text : String) : Except Fault Node := do
  let cs := text.toList
  let (node, s) ← (pattern (cs.length + 1) [] []).run ⟨cs, flags, 0, []⟩
  if !s.rest.isEmpty then throw .unopenedGroup
  if maxDepth < node.depth then throw .tooDeep
  if maxWeight < node.weight then throw .tooLarge
  return node

end Parser

def Node.parse (flags : Flags) (text : String) : Except Fault Node := Parser.whole flags text

end DocFlow.Regex
