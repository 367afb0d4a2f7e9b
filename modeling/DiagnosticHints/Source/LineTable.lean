import DiagnosticHints.Text.Units

/-!
# Lines and offsets

The table of the offsets at which the lines of a text start, and the search for the line that an
offset lies on. The search halves an interval whose ends are the candidates, so its midpoint is
rounded up: otherwise two neighbours would never be told apart.
-/

namespace DiagnosticHints

namespace Source

/-- The starts of the lines behind the first one, in a text that starts at `offset`. -/
def lineOffsetsFrom (offset : Nat) : Text → List Nat
  | [] => []
  | c :: t =>
    let next := offset + (Text.charUnits c).length
    if c = '\n' then next :: lineOffsetsFrom next t else lineOffsetsFrom next t

/-- The offsets at which the lines of a text start; the first line starts at 0. -/
def lineOffsets (t : Text) : Array Nat := (0 :: lineOffsetsFrom 0 t).toArray

/-- The greatest index from `low` to `high` whose start is at most `offset`, given that the start
at `low` is. -/
def lineSearch (starts : Array Nat) (offset low high : Nat) : Nat :=
  if low < high then
    let middle := (low + high + 1) / 2
    if starts.getD middle 0 ≤ offset then lineSearch starts offset middle high
    else lineSearch starts offset low (middle - 1)
  else low
termination_by high - low

/-- The index of the line that an offset lies on. -/
def lineIndex (starts : Array Nat) (offset : Nat) : Nat :=
  lineSearch starts offset 0 (starts.size - 1)

end Source

end DiagnosticHints
