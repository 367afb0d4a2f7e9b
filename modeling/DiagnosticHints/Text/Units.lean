import DiagnosticHints.Text.Basic

/-!
# UTF-16 units

Positions in a checker's output count UTF-16 units, and property names sort by them. A character
beyond U+FFFF is a pair of surrogates, so it counts twice and sorts below U+E000.
-/

namespace DiagnosticHints

namespace Text

/-- The UTF-16 units of one character. -/
def charUnits (c : Char) : List Nat :=
  if c.toNat < 0x10000 then [c.toNat]
  else [0xD800 + (c.toNat - 0x10000) / 0x400, 0xDC00 + (c.toNat - 0x10000) % 0x400]

/-- The UTF-16 units of a text. -/
def codeUnits (t : Text) : List Nat := t.flatMap charUnits

/-- The number of UTF-16 units of a text. -/
def units (t : Text) : Nat := (codeUnits t).length

/-- The order of texts by their UTF-16 units. -/
def unitsLe (a b : Text) : Bool := !List.lex (codeUnits b) (codeUnits a) Nat.blt

/-- The text followed by as many blanks as it lacks to `width` units. -/
def padEnd (width : Nat) (t : Text) : Text := t ++ List.replicate (width - units t) ' '

theorem codeUnits_append (a b : Text) : codeUnits (a ++ b) = codeUnits a ++ codeUnits b :=
  List.flatMap_append

@[simp] theorem units_nil : units [] = 0 := rfl

@[simp] theorem units_append (a b : Text) : units (a ++ b) = units a + units b := by
  simp [units, codeUnits]

theorem units_cons (c : Char) (t : Text) : units (c :: t) = (charUnits c).length + units t := by
  simp [units, codeUnits]

theorem charUnits_length_pos (c : Char) : 0 < (charUnits c).length := by
  unfold charUnits
  split <;> simp

theorem units_pos {t : Text} (h : t ≠ []) : 0 < units t := by
  cases t with
  | nil => exact absurd rfl h
  | cons c t =>
    have := charUnits_length_pos c
    rw [units_cons]
    omega

end Text

end DiagnosticHints
