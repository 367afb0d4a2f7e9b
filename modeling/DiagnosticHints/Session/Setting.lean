import DiagnosticHints.Text.Numeral
import DiagnosticHints.Text.Units

/-!
# Settings

The words of a command line set options and give operands. An option is written `--name`,
`--name value`, `--name=value`, `--no-name`, or with a letter for its name, `-n value`; letters may
share a dash. A single dash and a negative number are operands, and behind `--` every word is one.
Which words an option takes for its value depends on what is expected of it, so a reading is
given what it may expect of each name.

All this follows the argument parser that the command framework of the program uses, as that parser
is documented and behaves; the program does not read its arguments itself, but is handed the
settings.
-/

namespace DiagnosticHints

/-- What an option is set to: a switch is on or off, any other option has a text. -/
inductive Given where
  | switch (on : Bool)
  | text (t : Text)
  deriving DecidableEq, Repr

namespace Given

/-- The text of a setting; that of a switch tells whether it is on. -/
def toText : Given → Text
  | switch true => "true"
  | switch false => "false"
  | text t => t

/-- Whether nothing is given: an empty text, or a switch that is off. -/
def isNothing : Given → Bool
  | switch on => !on
  | text t => t.isEmpty

end Given

/-- An option and what it is set to by the argument parser. -/
structure Setting where
  name : Text
  value : Given
  deriving DecidableEq, Repr

namespace Setting

/-- The name that operands are set under. -/
def operandName : Text := "_"

/-- An operand. -/
def operand (t : Text) : Setting := ⟨operandName, .text t⟩

end Setting

/-- What is expected of an option: whether it is a switch, and what it is set to where no value
follows its name. -/
structure Expectation where
  isSwitch : Bool
  bare : Given
  deriving DecidableEq, Repr

namespace Expectation

/-- What an option is set to by a value; a switch is on where the value says so. -/
def settle (e : Expectation) : Given → Given
  | .text t => if e.isSwitch then .switch (t == "true".toList) else .text t
  | value => value

end Expectation

/-- The form of an option that may take the next word for its value. -/
inductive NameForm where
  | long
  | letter
  | dotted
  deriving DecidableEq, Repr

namespace NameForm

/-- Whether a text is a name behind one or two dashes. -/
def isNamed : Text → Bool
  | '-' :: '-' :: c :: _ => c != '-'
  | '-' :: c :: _ => c != '-'
  | _ => false

/-- Whether an option takes the next word for its value. A switch takes `true` and `false` alone;
any other option takes a negative number and what does not look like an option. -/
def takes (form : NameForm) (e : Expectation) (next : Text) : Bool :=
  if e.isSwitch then next == "true".toList || next == "false".toList
  else
    match form with
    | long => next.head? != some '-' || Text.isNegativeNumber next
    | letter => !isNamed next || Text.isNegativeNumber next
    | dotted => next.head? != some '-'

end NameForm

/-- An option in a word, with its value if the word holds it. -/
structure Mention where
  name : Text
  value : Option Given
  deriving DecidableEq, Repr

/-- The setting that a mention makes. -/
def Mention.setting (expect : Text → Expectation) (mention : Mention) : Setting :=
  let e := expect mention.name
  ⟨mention.name, (mention.value.map e.settle).getD e.bare⟩

/-- The reading of a word: the options it settles, and a last one whose value may be the next
word. -/
structure Word where
  mentions : List Mention
  pending : Option (Text × NameForm)
  deriving DecidableEq, Repr

namespace Word

/-- A word that gives one option or operand a value. -/
def single (name : Text) (value : Given) : Word := ⟨[⟨name, some value⟩], none⟩

/-- A word that is an operand. -/
def operand (t : Text) : Word := single Setting.operandName (.text t)

/-- The text without the pair of equal quotes around it, if there is one. -/
def unquoted : Text → Text
  | q :: c :: t =>
    if (q = '\x27' ∨ q = '\x22') ∧ (c :: t).getLast? = some q then (c :: t).dropLast else q :: c :: t
  | t => t

/-- Whether a character is a letter, a digit or a low line. -/
def isNameChar (c : Char) : Bool := c.isAlphanum || c == '_'

/-- The options behind a single dash. Each letter is a name of its own, until one has the rest for
its value: behind an equals sign, a number behind a letter, a mark, or a last dash. -/
def ofLetters : Text → Word
  | [] => ⟨[], none⟩
  | [c] => ⟨[], some ([c], .letter)⟩
  | c :: d :: t =>
    if d = '=' ∧ t ≠ [] then single [c] (.text t)
    else if (d = '-' ∧ t = []) ∨ (c.isAlpha ∧ Text.isNumeral (d :: t)) ∨
        (!isNameChar d ∧ 1 < Text.units (d :: t)) then
      single [c] (.text (d :: t))
    else
      let word := ofLetters (d :: t)
      { word with mentions := ⟨[c], none⟩ :: word.mentions }

/-- Whether an equals sign stands in the first line of a text, behind its first character. -/
def hasAssignment (t : Text) : Bool := (Text.firstLine t).tail.contains '='

/-- The reading of the text behind two dashes. The name ends at an equals sign or with its line;
`no-` in front of it turns the option off. Without a name the word is an operand. -/
def ofLong (t : Text) : Word :=
  let behindDashes := t.dropWhile (· == '-')
  if t.head? = some '-' ∧ (behindDashes = [] ∨ behindDashes.head? = some '=') then
    operand ('-' :: '-' :: t)
  else
    match (Text.splitFirst? ['='] t).filter fun _ => hasAssignment t with
    | some (name, value) =>
      single (if name.isEmpty then ['-'] else name) (.text (unquoted value))
    | none =>
      let name := Text.firstLine t
      if "no-".toList.isPrefixOf name ∧ 3 < name.length then single (name.drop 3) (.switch false)
      else if name.isEmpty then operand ('-' :: '-' :: t)
      else ⟨[], some (name, .long)⟩

/-- The reading of the text behind a single dash. A point behind the first letter makes one name
of the whole line; otherwise each letter is a name. -/
def ofShort (t : Text) : Word :=
  let letters :=
    if t.isEmpty ∨ Text.isNegativeNumber ('-' :: t) then operand ('-' :: t) else ofLetters t
  match t with
  | c :: '.' :: rest =>
    let line := Text.firstLine rest
    if Text.isLineEnd c ∨ Text.units [c] ≠ 1 ∨ line.isEmpty then letters
    else if hasAssignment rest then
      match Text.splitFirst? ['='] t with
      | some (d :: name, value) => single (d :: name) (.text value)
      | _ => ⟨[], none⟩
    else if Text.isNegativeNumber ('-' :: t) then letters
    else ⟨[], some (c :: '.' :: line, .dotted)⟩
  | _ => letters

/-- The reading of a word. -/
def ofText : Text → Word
  | '-' :: '-' :: t => ofLong t
  | '-' :: t => ofShort t
  | t => operand t

end Word

namespace Setting

/-- The settings that the words of a command line make, in their order, as the argument parser of
the program reads them. -/
def read (expect : Text → Expectation) : List Text → List Setting
  | [] => []
  | t :: rest =>
    if t = "--".toList then rest.map operand
    else
      let word := Word.ofText t
      word.mentions.map (·.setting expect) ++
        match word.pending with
        | none => read expect rest
        | some (name, form) =>
          let e := expect name
          match rest with
          | [] => [⟨name, e.bare⟩]
          | next :: others =>
            if form.takes e next then ⟨name, e.settle (.text next)⟩ :: read expect others
            else ⟨name, e.bare⟩ :: read expect (next :: others)

/-- What a name is set to, each time it is set. -/
def valuesBy (p : Text → Bool) (settings : List Setting) : List Given :=
  (settings.filter (p ·.name)).map (·.value)

/-- What the operands are. -/
def operands (settings : List Setting) : List Given := valuesBy (· == operandName) settings

/-- The number that a name is, written in the one way a number is written. -/
def indexName? (name : Text) : Option Nat :=
  (Text.toNat? name).filter fun n => Text.ofNat n == name && n < Nat.pow 2 32 - 1

/-- The name to speak of among several: the least number among them, or else the first of them. -/
def foremost? (names : List Text) : Option Text :=
  match (names.filterMap indexName?).min? with
  | some n => some (Text.ofNat n)
  | none => names.head?

end Setting

end DiagnosticHints
