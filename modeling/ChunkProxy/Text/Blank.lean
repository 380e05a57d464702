/-!
# Blank characters and trimming

The blanks are the characters with the Unicode property White_Space: the ASCII
controls from tab to carriage return, the space, NEL, the no-break space, the
Ogham space mark, the spaces from U+2000 to U+200A, the line and paragraph
separators, the narrow no-break space, the medium mathematical space and the
ideographic space.  Header values, range specs and configuration numbers are
trimmed of exactly these at both ends.
-/

namespace ChunkProxy.Text

set_option autoImplicit false

/-- A character is blank when it has the White_Space property. -/
def isBlank (c : Char) : Bool :=
  let n := c.toNat
  (0x09 ≤ n && n ≤ 0x0D) || n == 0x20 || n == 0x85 || n == 0xA0 || n == 0x1680 ||
    (0x2000 ≤ n && n ≤ 0x200A) || n == 0x2028 || n == 0x2029 || n == 0x202F ||
    n == 0x205F || n == 0x3000

/-- Drops the blanks at the front of a character list. -/
def dropBlanks (cs : List Char) : List Char := cs.dropWhile isBlank

/-- Drops the blanks at both ends of a character list. -/
def trimBlanksList (cs : List Char) : List Char :=
  ((dropBlanks cs).reverse.dropWhile isBlank).reverse

/-- Trims blanks at both ends. -/
def trimBlanks (s : String) : String := String.ofList (trimBlanksList s.toList)

/-- Trims blanks at the front. -/
def trimBlanksStart (s : String) : String := String.ofList (dropBlanks s.toList)

/-- Every ASCII space character that core recognises is blank. -/
theorem isBlank_of_isWhitespace (c : Char) (h : c.isWhitespace = true) : isBlank c = true := by
  simp only [Char.isWhitespace, Bool.or_eq_true, decide_eq_true_eq] at h
  simp only [isBlank, Bool.or_eq_true, Bool.and_eq_true, decide_eq_true_eq, beq_iff_eq]
  rcases h with ((h | h) | h) | h <;> subst h <;> decide

end ChunkProxy.Text
