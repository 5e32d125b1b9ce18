/-!
# Paths

A path names a field by the keys that lead to it, from the outside in.  Its text has dots between
the keys; every text is the text of exactly one path, and a text without dots is a single key.
-/

namespace DocFlow

/-- The keys that lead to a field; there is at least one. -/
structure Path where
  head : String
  rest : List String
  deriving DecidableEq, Repr

namespace Path

/-- The pieces of a text between dots: the first, and the others. -/
def splitDots : List Char → List Char × List (List Char)
  | [] => ([], [])
  | c :: cs =>
    let (first, others) := splitDots cs
    if c = '.' then ([], first :: others) else (c :: first, others)

def ofString (s : String) : Path :=
  let (first, others) := splitDots s.toList
  ⟨String.ofList first, others.map String.ofList⟩

/-- The keys from the outside in. -/
def keys (p : Path) : List String := p.head :: p.rest

def text (p : Path) : String := String.intercalate "." p.keys

def last (p : Path) : String := p.rest.getLastD p.head

/-! ## Paths and their texts -/

/-- A piece without dots is put in front of the first one. -/
theorem splitDots_append {cs : List Char} (h : '.' ∉ cs) (rest : List Char) :
    splitDots (cs ++ rest) = (cs ++ (splitDots rest).1, (splitDots rest).2) := by
  induction cs with
  | nil => rfl
  | cons c cs ih =>
    obtain ⟨hc, hcs⟩ := not_or.1 (mt List.mem_cons.2 h)
    rw [List.cons_append, splitDots, ih hcs]
    simp [Ne.symm hc]

theorem ofString_of_not_mem {s : String} (h : '.' ∉ s.toList) : ofString s = ⟨s, []⟩ := by
  have hsplit : splitDots s.toList = (s.toList, []) := by simpa [splitDots] using splitDots_append h []
  simp only [ofString, hsplit, String.ofList_toList, List.map_nil]

theorem ofString_dot {s : String} (h : '.' ∉ s.toList) (s' : String) :
    ofString (s ++ "." ++ s') = ⟨s, (ofString s').keys⟩ := by
  have hsplit : splitDots (s ++ "." ++ s').toList = (s.toList, (splitDots s'.toList).1 :: (splitDots s'.toList).2) := by
    rw [String.append_assoc, String.toList_append, splitDots_append h]
    simp [splitDots]
  simp only [ofString, hsplit, String.ofList_toList, List.map_cons, keys]

theorem text_append (s key : String) (rest : List String) : text ⟨s ++ key, rest⟩ = s ++ text ⟨key, rest⟩ := by
  induction rest generalizing key with
  | nil => rfl
  | cons next rest ih =>
    show text ⟨s ++ key ++ "." ++ next, rest⟩ = s ++ text ⟨key ++ "." ++ next, rest⟩
    rw [← ih, String.append_assoc, String.append_assoc, String.append_assoc]

/-- A path whose keys hold no dots is that of its text. -/
theorem ofString_text {p : Path} (h : ∀ key ∈ p.keys, '.' ∉ key.toList) : ofString p.text = p := by
  obtain ⟨key, rest⟩ := p
  induction rest generalizing key with
  | nil => exact ofString_of_not_mem (h key List.mem_cons_self)
  | cons next rest ih =>
    obtain ⟨hkey, hrest⟩ := List.forall_mem_cons.1 h
    have htext : text ⟨key, next :: rest⟩ = key ++ "." ++ text ⟨next, rest⟩ := text_append (key ++ ".") next rest
    rw [htext, ofString_dot hkey, ih next hrest]
    rfl

end Path

end DocFlow
