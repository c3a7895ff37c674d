/-!
# Glean.Text.Blank

White space as Unicode defines it (the property `White_Space`), and the text
that is left when white space is taken from both ends.  Selectors, schema
names and converted texts are all trimmed by this rule, so "blank" means the
same thing everywhere in the library.
-/

namespace Glean.Text

/-! ## The class -/

/-- The twenty-five code points with the property `White_Space`. -/
def isBlank (c : Char) : Bool :=
  ('\t' ≤ c && c ≤ '\r') || c == ' ' || c == '\u0085' || c == '\u00a0' || c == '\u1680' ||
    ('\u2000' ≤ c && c ≤ '\u200a') || c == '\u2028' || c == '\u2029' || c == '\u202f' ||
    c == '\u205f' || c == '\u3000'

/-! ## Trimming -/

/-- Drop the blanks at both ends. -/
def trimList (cs : List Char) : List Char :=
  ((cs.dropWhile isBlank).reverse.dropWhile isBlank).reverse

/-- The text without the blanks at its ends. -/
def trim (s : String) : String := String.ofList (trimList s.toList)

/-- Whether the text holds nothing but blanks. -/
def isBlankText (s : String) : Bool := s.toList.all isBlank

end Glean.Text
