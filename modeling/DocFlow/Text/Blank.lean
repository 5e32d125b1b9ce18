import DocFlow.Text.Table.Property

/-!
# Blanks

White space in the sense of the Unicode standard, and the text without the blanks at its ends.
-/

namespace DocFlow.Text

def isBlank (c : Char) : Bool := Table.whiteSpace.contains c

/-- The codes of the blanks. -/
theorem isBlank_eq : isBlank = CharSet.contains ⟨#[(0x09, 0x0D), (0x20, 0x20), (0x85, 0x85), (0xA0, 0xA0),
    (0x1680, 0x1680), (0x2000, 0x200A), (0x2028, 0x2029), (0x202F, 0x202F), (0x205F, 0x205F), (0x3000, 0x3000)]⟩ := by
  unfold isBlank Table.whiteSpace CharSet.ofHex
  rw [String.foldl_eq_foldl_toList]
  rfl

def dropBlanks (cs : List Char) : List Char := cs.dropWhile isBlank

def trimBlanks (cs : List Char) : List Char := (dropBlanks (dropBlanks cs).reverse).reverse

end DocFlow.Text
