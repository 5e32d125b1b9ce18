import DocFlow.Json.Printer
import DocFlow.Proofs.Json.Quoted

/-!
# Texts that show where they end

The pieces of a larger text can be told apart if each of them shows where it ends (`Apart`), given that what
follows is the end of the text or a comma, a bracket or a brace (`Ends`).  A text without these characters does
(`apart_of_words`), and so does a list of pieces with commas between them, up to the bracket that closes it
(`commaSeparated_append_inj`).
-/

namespace DocFlow

/-- A character that follows a piece of a larger text. -/
def isDelimiter (c : Char) : Bool := c = ',' || c = ']' || c = '\x7d'

/-- The text is at its end, or a delimiter follows. -/
def Ends (r : List Char) : Prop := ∀ c ∈ r.head?, isDelimiter c = true

/-- No delimiter is in the text. -/
def IsWord (t : List Char) : Prop := ∀ c ∈ t, isDelimiter c = false

/-- The text begins, and not with a delimiter. -/
def Starts (t : List Char) : Prop := ∃ c ∈ t.head?, isDelimiter c = false

/-- If two texts and what follows them are the same, the two texts are. -/
def Apart (t t' : List Char) : Prop := ∀ ⦃r r' : List Char⦄, Ends r → Ends r' → t ++ r = t' ++ r' → t = t'

theorem ends_cons {c : Char} (hc : isDelimiter c = true) (r : List Char) : Ends (c :: r) := by
  rintro _ ⟨⟩
  exact hc

theorem starts_cons {c : Char} (hc : isDelimiter c = false) (t : List Char) : Starts (c :: t) := ⟨c, rfl, hc⟩

theorem isDelimiter_of_isDigit {c : Char} (hc : c.isDigit = true) : isDelimiter c = false := by
  rw [← Bool.not_eq_true]
  intro h
  simp only [isDelimiter, Bool.or_eq_true, decide_eq_true_eq] at h
  rcases h with (rfl | rfl) | rfl <;> cases hc

variable {t t' r r' : List Char}

/-! ## Words -/

theorem isWord_of_any (h : t.any isDelimiter = false) : IsWord t := fun c hc =>
  Bool.eq_false_iff.2 (List.any_eq_false.1 h c hc)

theorem takeWhile_word (ht : IsWord t) (hr : Ends r) : (t ++ r).takeWhile (!isDelimiter ·) = t := by
  rw [List.takeWhile_append_of_pos fun c hc => by simp [ht c hc]]
  cases r with
  | nil => simp
  | cons c r => simp [hr c rfl]

theorem apart_of_words (ht : IsWord t) (ht' : IsWord t') : Apart t t' := by
  intro r r' hr hr' h
  rw [← takeWhile_word ht hr, h, takeWhile_word ht' hr']

/-! ## Fields -/

def fieldText (f : String × List Char) : List Char := Text.quoted f.1 ++ ':' :: f.2

theorem starts_fieldText (f : String × List Char) : Starts (fieldText f) := starts_cons rfl _

theorem fieldText_inj {f g : String × List Char} (h : fieldText f = fieldText g) : f = g := by
  obtain ⟨hkey, hrest⟩ := Json.quoted_append_inj h
  exact Prod.ext hkey (List.cons.inj hrest).2

theorem apart_fieldText {f g : String × List Char} (h : Apart f.2 g.2) : Apart (fieldText f) (fieldText g) := by
  intro r r' hr hr' heq
  simp only [fieldText, List.append_assoc, List.cons_append] at heq
  obtain ⟨hkey, hrest⟩ := Json.quoted_append_inj heq
  rw [fieldText, fieldText, hkey, h hr hr' (List.cons.inj hrest).2]

/-! ## Pieces between commas -/

variable {ts ts' : List (List Char)} {close : Char}

/-- The rest of a list of pieces behind the first. -/
def behind (close : Char) (r : List Char) : List (List Char) → List Char
  | [] => close :: r
  | t :: ts => ',' :: (t ++ behind close r ts)

theorem commaSeparated_cons (t : List Char) (ts : List (List Char)) (close : Char) (r : List Char) :
    commaSeparated (t :: ts) ++ close :: r = t ++ behind close r ts := by
  induction ts generalizing t with
  | nil => rfl
  | cons t' ts ih =>
    rw [commaSeparated, List.append_assoc, List.cons_append, ih, behind]
    exact nofun

theorem ends_behind (hclose : isDelimiter close = true) (r : List Char) (ts : List (List Char)) :
    Ends (behind close r ts) := by
  cases ts with
  | nil => exact ends_cons hclose r
  | cons t ts => exact ends_cons rfl _

theorem behind_inj (hclose : isDelimiter close = true) (hcomma : close ≠ ',')
    (hapart : ∀ t ∈ ts, ∀ t' ∈ ts', Apart t t') (h : behind close r ts = behind close r' ts') :
    ts = ts' ∧ r = r' := by
  induction ts generalizing ts' with
  | nil =>
    cases ts' with
    | nil => exact ⟨rfl, (List.cons.inj h).2⟩
    | cons t' ts' => exact absurd (List.cons.inj h).1 hcomma
  | cons t ts ih =>
    cases ts' with
    | nil => exact absurd (List.cons.inj h).1.symm hcomma
    | cons t' ts' =>
      have hrest := (List.cons.inj h).2
      have ht := hapart t (by simp) t' (by simp) (ends_behind hclose r ts) (ends_behind hclose r' ts') hrest
      subst ht
      have hapart : ∀ t ∈ ts, ∀ t' ∈ ts', Apart t t' := fun t ht t' ht' =>
        hapart t (List.mem_cons_of_mem _ ht) t' (List.mem_cons_of_mem _ ht')
      obtain ⟨rfl, rfl⟩ := ih hapart (List.append_cancel_left hrest)
      exact ⟨rfl, rfl⟩

/-- Pieces with commas between them can be told apart, up to the bracket that closes them. -/
theorem commaSeparated_append_inj (hclose : isDelimiter close = true) (hcomma : close ≠ ',')
    (hts : ∀ t ∈ ts, Starts t) (hts' : ∀ t ∈ ts', Starts t) (hapart : ∀ t ∈ ts, ∀ t' ∈ ts', Apart t t')
    (h : commaSeparated ts ++ close :: r = commaSeparated ts' ++ close :: r') : ts = ts' ∧ r = r' := by
  -- a piece does not start with the bracket that closes the list
  have hstart {t : List Char} (ht : Starts t) (r r' : List Char) : close :: r ≠ t ++ r' := by
    obtain ⟨c, hc, hdelimiter⟩ := ht
    cases t with
    | nil => cases hc
    | cons c' t =>
      cases hc
      intro h
      rw [← (List.cons.inj h).1, hclose] at hdelimiter
      cases hdelimiter
  cases ts with
  | nil =>
    cases ts' with
    | nil => exact ⟨rfl, (List.cons.inj h).2⟩
    | cons t' ts' =>
      rw [commaSeparated_cons] at h
      exact absurd h (hstart (hts' t' (by simp)) _ _)
  | cons t ts =>
    cases ts' with
    | nil =>
      rw [commaSeparated_cons] at h
      exact absurd h.symm (hstart (hts t (by simp)) _ _)
    | cons t' ts' =>
      rw [commaSeparated_cons, commaSeparated_cons] at h
      exact behind_inj hclose hcomma hapart (congrArg (',' :: ·) h)

end DocFlow
