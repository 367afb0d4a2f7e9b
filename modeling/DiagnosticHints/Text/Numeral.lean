import DiagnosticHints.Text.Digits

/-!
# Numerals

What a number looks like in the words of a command line: ASCII digits, perhaps with a point in
them, a minus sign in front, and an exponent behind. A number is told apart by its look alone; its
value is never taken.
-/

namespace DiagnosticHints

namespace Text

/-- Whether a text is made of digits, perhaps with a point and more digits behind it. -/
def isDecimal (t : Text) : Bool :=
  match splitFirst? ['.'] t with
  | none => isDigits t
  | some (whole, fraction) => isDigits whole && isDigits fraction

/-- The text without a minus sign in front. -/
def dropMinus : Text → Text
  | '-' :: t => t
  | t => t

/-- Whether a text is a decimal number, perhaps with a minus sign and an exponent. -/
def isNumeral (t : Text) : Bool :=
  match splitFirst? ['e'] (dropMinus t) with
  | none => isDecimal (dropMinus t)
  | some (mantissa, exponent) => isDecimal mantissa && isDigits (dropMinus exponent)

/-- Whether a text is a minus sign and a number, which may lack the digits before its point. -/
def isNegativeNumber : Text → Bool
  | '-' :: '.' :: fraction => isDigits fraction
  | '-' :: t => isDecimal t
  | _ => false

end Text

end DiagnosticHints
