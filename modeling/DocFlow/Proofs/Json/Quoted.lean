import DocFlow.Json.Reader
import DocFlow.Proofs.Outcome
import DocFlow.Text.Quoted

/-!
# Quoted strings read back

The reader of JSON gives back the string that stands between quotation marks, and what follows it
(`readChars_quoted`).  So the text of a quoted string shows where it ends, whatever follows
(`quoted_append_inj`).
-/

namespace DocFlow.Json

theorem hexValue?_hexDigit {n : Nat} (hn : n < 16) : hexValue? (Text.hexDigit n) = some n := by
  have hall : ∀ n : Fin 16, hexValue? (Text.hexDigit n) = some n.val := by decide
  exact hall ⟨n, hn⟩

/-- The digits of an escaped control character. -/
theorem hex4?_control {n : Nat} (hn : n < 0x20) :
    hex4? '0' '0' (Text.hexDigit (n / 16)) (Text.hexDigit (n % 16)) = some n := by
  have hzero : hexValue? '0' = some 0 := rfl
  simp only [hex4?, hzero, hexValue?_hexDigit (show n / 16 < 16 by omega),
    hexValue?_hexDigit (Nat.mod_lt n (by omega))]
  exact congrArg some (by omega)

/-- The reader undoes the escape of a character. -/
theorem readChars_escape (c : Char) (acc cs : List Char) :
    readChars acc (Text.escape c ++ cs) = readChars (c :: acc) cs := by
  unfold Text.escape
  split
  · subst c; rfl
  split
  · subst c; rfl
  split
  · subst c; rfl
  split
  · subst c; rfl
  split
  · subst c; rfl
  split
  · subst c; rfl
  split
  · subst c; rfl
  split
  · rename_i hcontrol
    have hlow : isLow c.toNat = false := by simp [isLow]; omega
    have hhigh : isHigh c.toNat = false := by simp [isHigh]; omega
    simp only [List.cons_append, List.nil_append, readChars, hex4?_control hcontrol, hlow, hhigh, Char.ofNat_toNat]
    rfl
  · -- any other character stands for itself
    rename_i hquote hslash _ _ _ _ _ hcontrol
    rw [List.singleton_append, readChars.eq_def]
    split
    · cases ‹_ = []›
    · rename_i h
      exact absurd (List.cons.inj h).1 hquote
    · rename_i h
      exact absurd (List.cons.inj h).1 hslash
    · rename_i h
      exact absurd (List.cons.inj h).1 hslash
    · rename_i h
      obtain ⟨rfl, rfl⟩ := List.cons.inj h
      rw [if_neg hcontrol]

/-- The reader gives back a quoted string and what follows it. -/
theorem readChars_quoted (s acc r : List Char) :
    readChars acc (s.flatMap Text.escape ++ '"' :: r) = .ok (String.ofList (acc.reverse ++ s), r) := by
  induction s generalizing acc with
  | nil => simp [readChars]
  | cons c s ih => simp [readChars_escape, ih]

/-- A quoted string shows where it ends. -/
theorem quoted_append_inj {s t : String} {r r' : List Char}
    (h : Text.quoted s ++ r = Text.quoted t ++ r') : s = t ∧ r = r' := by
  have hbody (s : String) (r : List Char) :
      Text.quoted s ++ r = '"' :: (s.toList.flatMap Text.escape ++ '"' :: r) := by
    simp [Text.quoted]
  rw [hbody, hbody] at h
  have hread := congrArg (readChars []) (List.cons.inj h).2
  rw [readChars_quoted, readChars_quoted] at hread
  simpa using hread

end DocFlow.Json
