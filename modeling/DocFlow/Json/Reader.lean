import DocFlow.Json.Numeral

/-!
# Reading JSON

A strict reader of JSON texts.  A repeated key keeps its first place and its last value; nesting is
bounded; a surrogate escape counts only as one half of a pair.
-/

namespace DocFlow.Json

def skipSpace (cs : List Char) : List Char :=
  cs.dropWhile fun c => c = ' ' || c = '\n' || c = '\t' || c = '\r'

/-- The text behind the word `w`. -/
def expect : (w cs : List Char) → Except ReadError (List Char)
  | [], cs => pure cs
  | _ :: _, [] => throw .unexpectedEnd
  | w :: ws, c :: cs => if c = w then expect ws cs else throw (.unexpected c)

/-! ## Strings -/

def hexValue? (c : Char) : Option Nat :=
  if c.isDigit then some (c.toNat - '0'.toNat)
  else if 'a' ≤ c ∧ c ≤ 'f' then some (c.toNat - 'a'.toNat + 10)
  else if 'A' ≤ c ∧ c ≤ 'F' then some (c.toNat - 'A'.toNat + 10)
  else none

def hex4? (a b c d : Char) : Option Nat := do
  let a ← hexValue? a
  let b ← hexValue? b
  let c ← hexValue? c
  let d ← hexValue? d
  pure (((a * 16 + b) * 16 + c) * 16 + d)

def ofSurrogates (high low : Nat) : Char := Char.ofNat (0x10000 + (high - 0xD800) * 0x400 + (low - 0xDC00))

/-- The code is the first half of a surrogate pair. -/
def isHigh (n : Nat) : Bool := 0xD800 ≤ n && n < 0xDC00

/-- The code is the second half of a surrogate pair. -/
def isLow (n : Nat) : Bool := 0xDC00 ≤ n && n < 0xE000

/-- The character of an escape of one letter. -/
def simpleEscape? : Char → Option Char
  | '"' => some '"'
  | '\\' => some '\\'
  | '/' => some '/'
  | 'b' => some '\x08'
  | 'f' => some '\x0c'
  | 'n' => some '\n'
  | 'r' => some '\r'
  | 't' => some '\t'
  | _ => none

/-- The characters up to the closing quotation mark, behind `acc` in reverse. -/
def readChars (acc : List Char) : List Char → Except ReadError (String × List Char)
  | [] => throw .unexpectedEnd
  | '"' :: cs => pure (String.ofList acc.reverse, cs)
  | '\\' :: 'u' :: a :: b :: c :: d :: cs =>
    match hex4? a b c d with
    | none => throw .badEscape
    | some n =>
      if isLow n then throw .loneSurrogate
      else if isHigh n then
        match cs with
        | '\\' :: 'u' :: a :: b :: c :: d :: cs =>
          match hex4? a b c d with
          | none => throw .badEscape
          | some m =>
            if isLow m then readChars (ofSurrogates n m :: acc) cs else throw .loneSurrogate
        | _ => throw .loneSurrogate
      else readChars (Char.ofNat n :: acc) cs
  | '\\' :: c :: cs =>
    match simpleEscape? c with
    | some e => readChars (e :: acc) cs
    | none => throw .badEscape
  | c :: cs => if c.toNat < 0x20 then throw .controlCharacter else readChars (c :: acc) cs

/-! ## Values -/

/-- Containers may be nested one less deep than this. -/
def maxDepth : Nat := 128

mutual

/-- A value at the start of the text, inside fewer than `depth` further containers. -/
def readValue : (fuel depth : Nat) → List Char → Except ReadError (Json × List Char)
  | 0, _, _ => throw .unexpectedEnd
  | fuel + 1, depth, cs =>
    match skipSpace cs with
    | [] => throw .unexpectedEnd
    | '"' :: cs => do
      let (s, cs) ← readChars [] cs
      pure (.string s, cs)
    | '[' :: cs =>
      if depth ≤ 1 then throw .tooDeep
      else
        match skipSpace cs with
        | ']' :: cs => pure (.array [], cs)
        | cs => do
          let (items, cs) ← readItems fuel (depth - 1) cs
          pure (.array items, cs)
    | '\x7b' :: cs =>
      if depth ≤ 1 then throw .tooDeep
      else
        match skipSpace cs with
        | '\x7d' :: cs => pure (.object [], cs)
        | cs => do
          let (members, cs) ← readMembers fuel (depth - 1) cs
          pure (.object (Entries.ofList members), cs)
    | 't' :: cs => do
      let cs ← expect "rue".toList cs
      pure (.bool true, cs)
    | 'f' :: cs => do
      let cs ← expect "alse".toList cs
      pure (.bool false, cs)
    | 'n' :: cs => do
      let cs ← expect "ull".toList cs
      pure (.null, cs)
    | cs => do
      let (n, cs) ← readNumber cs
      pure (.number n, cs)

/-- The items of an array up to its closing bracket. -/
def readItems : (fuel depth : Nat) → List Char → Except ReadError (List Json × List Char)
  | 0, _, _ => throw .unexpectedEnd
  | fuel + 1, depth, cs => do
    let (item, cs) ← readValue fuel depth cs
    match skipSpace cs with
    | ',' :: cs => do
      let (items, cs) ← readItems fuel depth cs
      pure (item :: items, cs)
    | ']' :: cs => pure ([item], cs)
    | c :: _ => throw (.unexpected c)
    | [] => throw .unexpectedEnd

/-- The members of an object up to its closing brace. -/
def readMembers : (fuel depth : Nat) → List Char → Except ReadError (List (String × Json) × List Char)
  | 0, _, _ => throw .unexpectedEnd
  | fuel + 1, depth, cs =>
    match skipSpace cs with
    | '"' :: cs => do
      let (key, cs) ← readChars [] cs
      match skipSpace cs with
      | ':' :: cs => do
        let (value, cs) ← readValue fuel depth cs
        match skipSpace cs with
        | ',' :: cs => do
          let (members, cs) ← readMembers fuel depth cs
          pure ((key, value) :: members, cs)
        | '\x7d' :: cs => pure ([(key, value)], cs)
        | c :: _ => throw (.unexpected c)
        | [] => throw .unexpectedEnd
      | c :: _ => throw (.unexpected c)
      | [] => throw .unexpectedEnd
    | c :: _ => throw (.unexpected c)
    | [] => throw .unexpectedEnd

end

/-- The value that the whole text writes.  Each container level and each item costs a character, so
the fuel outlasts the text. -/
def parse (text : String) : Except ReadError Json := do
  let cs := text.toList
  let (j, rest) ← readValue (2 * cs.length + 2) maxDepth cs
  if (skipSpace rest).isEmpty then pure j else throw .trailing

end DocFlow.Json
