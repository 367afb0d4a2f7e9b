import DiagnosticHints.Text.Basic

/-!
# Quoted parts of a message

A checker quotes the subjects of its messages with apostrophes, at places that depend on the
wording. This file finds them by their number, by a marker in front, or as the two types of an
assignment. Where the wording differs nothing is found.
-/

namespace DiagnosticHints

/-- The types of a value and of the place that it does not fit. -/
structure Assignment where
  source : Text
  target : Text
  deriving DecidableEq, Repr

namespace Message

/-- The apostrophe that opens and closes a quoted part. -/
def quote : Char := '\x27'

/-- The part of a message with the given number, when the message is split at its apostrophes;
the quoted parts have the odd numbers. -/
def part? (message : Text) (index : Int) : Option Text :=
  match index with
  | .ofNat n => (message.splitOn quote)[n]?
  | .negSucc _ => none

/-- The text behind the first occurrence of `marker`, up to the next apostrophe. -/
def firstAfter? (message marker : Text) : Option Text :=
  (Text.afterFirst? marker message).bind (Text.beforeFirst? [quote])

/-- The text behind the last occurrence of `marker`, up to the next apostrophe. -/
def lastAfter? (message marker : Text) : Option Text :=
  (Text.afterLast? marker message).bind (Text.beforeFirst? [quote])

/-- The end of the word "type" or "Type" with the opening apostrophe behind it. -/
def typeMark : Text := "ype '"

/-- The two types of an assignment: the quoted part behind the first `typeMark` that does not
start the message, and the next quoted part, which may lack its closing apostrophe. -/
def assignment? (message : Text) : Option Assignment := do
  let rest ← Text.afterFirst? typeMark (message.drop 1)
  let (source, rest) ← Text.splitFirst? [quote] rest
  let rest ← Text.afterFirst? [quote] rest
  return ⟨source, rest.takeWhile (· != quote)⟩

end Message

end DiagnosticHints
