import DiagnosticHints.Text.Basic

/-!
# Blank characters

The characters that trimming removes: the tab to the carriage return, the space separators, the
two line separators and the byte order mark.
-/

namespace DiagnosticHints

namespace Text

/-- The characters removed from the ends of a clause. -/
def isBlank (c : Char) : Bool :=
  (9 ≤ c.toNat && c.toNat ≤ 13) || c.toNat == 0x20 || c.toNat == 0xA0 || c.toNat == 0x1680 ||
    (0x2000 ≤ c.toNat && c.toNat ≤ 0x200A) || c.toNat == 0x2028 || c.toNat == 0x2029 ||
    c.toNat == 0x202F || c.toNat == 0x205F || c.toNat == 0x3000 || c.toNat == 0xFEFF

/-- The text without the blanks in front. -/
def trimStart (t : Text) : Text := t.dropWhile isBlank

/-- The text without the blanks at its end. -/
def trimEnd (t : Text) : Text := (t.reverse.dropWhile isBlank).reverse

/-- The text without the blanks at both ends. -/
def trim (t : Text) : Text := trimEnd (trimStart t)

/-- The byte order mark U+FEFF. -/
def byteOrderMark : Char := '\uFEFF'

/-- The text without one byte order mark in front. -/
def dropMark : Text → Text
  | [] => []
  | c :: t => if c = byteOrderMark then t else c :: t

end Text

end DiagnosticHints
