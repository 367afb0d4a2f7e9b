import DiagnosticHints.Text.Basic

/-!
# Whole numbers as digits

The decimal digits of a whole number, and the reading of such digits. Leading zeros are read but
never written.
-/

namespace DiagnosticHints

namespace Text

/-- The decimal digits of a natural number. -/
def ofNat (n : Nat) : Text := Nat.toDigits 10 n

/-- The decimal digits of an integer, after a minus sign when it is negative. -/
def ofInt (n : Int) : Text :=
  if n < 0 then '-' :: ofNat n.natAbs else ofNat n.natAbs

/-- Whether a text is made of ASCII digits and is not empty. -/
def isDigits (t : Text) : Bool := !t.isEmpty && t.all Char.isDigit

/-- The value of a text of ASCII digits. -/
def toNat? (t : Text) : Option Nat :=
  if isDigits t then some (Nat.ofDigitChars 10 t 0) else none

theorem ofInt_natCast (n : Nat) : ofInt n = ofNat n := by
  rw [ofInt, if_neg (by omega), Int.natAbs_natCast]

theorem isDigit_of_mem_ofNat {n : Nat} {c : Char} (h : c ∈ ofNat n) : c.isDigit = true :=
  Nat.isDigit_of_mem_toDigits (by omega) (by omega) h

end Text

end DiagnosticHints
