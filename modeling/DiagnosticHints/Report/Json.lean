import DiagnosticHints.Text.Digits

/-!
# JSON documents

Values of JSON and their text, with two blanks of indentation for each level. Only the quotation
mark, the backslash and the control characters are escaped.
-/

namespace DiagnosticHints

/-- A value of JSON whose numbers are whole. -/
inductive Json where
  | null
  | number (n : Int)
  | text (t : Text)
  | array (items : List Json)
  | object (members : List (Text × Json))

namespace Json

/-- The hexadecimal digit of a number below 16. -/
def hexDigit (n : Nat) : Char := (Nat.toDigits 16 (n % 16)).headD '0'

/-- A character of a text as it is written between quotation marks. -/
def escape (c : Char) : Text :=
  if c = '\x22' then ['\\', '\x22']
  else if c = '\\' then ['\\', '\\']
  else if c = '\x08' then ['\\', 'b']
  else if c = '\t' then ['\\', 't']
  else if c = '\n' then ['\\', 'n']
  else if c = '\x0c' then ['\\', 'f']
  else if c = '\r' then ['\\', 'r']
  else if c.toNat < 0x20 then
    ['\\', 'u', '0', '0', hexDigit (c.toNat / 16), hexDigit c.toNat]
  else [c]

/-- A text between quotation marks. -/
def quoted (t : Text) : Text := '\x22' :: (t.flatMap escape ++ ['\x22'])

/-- A line feed and the indentation of a level. -/
def newline (level : Nat) : Text := '\n' :: List.replicate (2 * level) ' '

mutual

/-- The text of a value that stands on a given level. -/
def print (level : Nat) : Json → Text
  | null => "null"
  | number n => Text.ofInt n
  | text t => quoted t
  | array [] => ['[', ']']
  | array (item :: rest) =>
    '[' :: (newline (level + 1) ++ print (level + 1) item ++ printItems (level + 1) rest ++
      newline level ++ [']'])
  | object [] => ['\x7b', '\x7d']
  | object ((key, value) :: rest) =>
    '\x7b' :: (newline (level + 1) ++ quoted key ++ ':' :: ' ' :: print (level + 1) value ++
      printMembers (level + 1) rest ++ newline level ++ ['\x7d'])

/-- The text of the items behind the first one. -/
def printItems (level : Nat) : List Json → Text
  | [] => []
  | item :: rest => ',' :: (newline level ++ print level item ++ printItems level rest)

/-- The text of the members behind the first one. -/
def printMembers (level : Nat) : List (Text × Json) → Text
  | [] => []
  | (key, value) :: rest =>
    ',' :: (newline level ++ quoted key ++ ':' :: ' ' :: print level value ++
      printMembers level rest)

end

/-- The document of a value. -/
def document (value : Json) : Text := print 0 value

end Json

end DiagnosticHints
