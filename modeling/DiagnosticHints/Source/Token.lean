import DiagnosticHints.Source.Group
import DiagnosticHints.Source.LineTable
import DiagnosticHints.Text.Blank

/-!
# Tokens of a source file

A token is a lexeme with its line and column. Lines count from 1 and columns from 0, in UTF-16
units; a checker's columns count from 1. A byte order mark in front belongs to no line.
-/

namespace DiagnosticHints

/-- A lexeme at a place in a source file. -/
structure Token where
  raw : Text
  line : Int
  column : Int
  deriving DecidableEq, Repr

/-- Whether a token covers a place, given by its line and its column from 0. A token of several
lines counts with its whole length on the line where it starts. -/
def Token.covers (token : Token) (line column : Int) : Bool :=
  token.line == line && token.column ≤ column &&
    column < token.column + (Text.units token.raw : Int)

namespace Source

/-- The token of a lexeme, by the table of the starts of lines. -/
def tokenOf (starts : Array Nat) (x : Lexeme) : Token :=
  let index := lineIndex starts x.offset
  ⟨x.raw, (index : Int) + 1, (x.offset : Int) - starts.getD index 0⟩

/-- The tokens of a source file, found in groups of the given size. -/
def tokensBy (size : GroupSize) (source : Text) : List Token :=
  let text := Text.dropMark source
  let starts := lineOffsets text
  (groupedLexemes size text).map (tokenOf starts)

/-- The tokens of a source file. -/
def tokens (source : Text) : List Token := tokensBy .standard source

/-- The first token that covers a place, given as a checker does: line and column from 1. -/
def tokenUnder? (tokens : List Token) (line column : Int) : Option Token :=
  if column < 1 then none else tokens.find? (·.covers line (column - 1))

end Source

end DiagnosticHints
