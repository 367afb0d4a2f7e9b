import DiagnosticHints.Catalog.Notice

/-!
# Failures

What went wrong when a file was read or a text was written: an error with a message and perhaps a
code, or some other datum that was raised in its place.
-/

namespace DiagnosticHints

/-- A datum of no fixed kind. -/
inductive Datum where
  | null
  | truth (b : Bool)
  | number (x : Float)
  | text (t : Text)
  | list (items : List Datum)
  | record
  deriving Inhabited

namespace Datum

mutual

/-- The text that a datum is written as; the items of a list are joined by commas, and a null
item is written as nothing. -/
def toText : Datum → Text
  | .null => "null"
  | .truth b => if b then "true".toList else "false".toList
  | .number x => Text.ofFloat x
  | .text t => t
  | .list items => List.intercalate [','] (itemTexts items)
  | .record => "[object Object]"

/-- The texts of the items of a list. -/
def itemTexts : List Datum → List Text
  | [] => []
  | .null :: rest => [] :: itemTexts rest
  | item :: rest => toText item :: itemTexts rest

end

end Datum

/-- Why an operation did not succeed. -/
inductive Failure where
  | error (message : Text) (code : Option Datum)
  | raised (datum : Datum)

namespace Failure

/-- Whether the failure carries a code of the system. -/
def hasCode : Failure → Bool
  | error _ code => code.isSome
  | raised _ => false

/-- Whether the failure has the given code. -/
def isCoded (code : Text) : Failure → Bool
  | error _ (some (.text t)) => t == code
  | _ => false

/-- Whether the reader of a pipe has gone away. -/
def isClosedPipe (failure : Failure) : Bool := failure.isCoded "EPIPE"

/-- The reason of the failure in words. -/
def reason : Failure → Text
  | error message _ => message
  | raised datum => datum.toText

/-- The notice about a file that could not be read. -/
def notice (path : Text) (failure : Failure) : Text :=
  if failure.isCoded "ENOENT" then Notice.fileNotFound.text [("path", .text path)]
  else Notice.unreadableFile.text [("reason", .text failure.reason)]

end Failure

end DiagnosticHints
