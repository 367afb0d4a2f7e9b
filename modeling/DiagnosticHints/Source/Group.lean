import DiagnosticHints.Lexicon.Lexeme

/-!
# Groups of lines

A long text is cut into lexemes a group of lines at a time. A group that ends inside a construct
is enlarged: twice as many lines are taken until it is closed or the text ends. An open construct
shows in the group's own lexemes, since its opening is then left over as a punctuator.
-/

namespace DiagnosticHints

namespace Source

/-- How many lines a group takes: at least one. -/
structure GroupSize where
  lines : Nat
  pos : 0 < lines
  deriving DecidableEq, Repr

namespace GroupSize

/-- The size nearest to a number of lines that may be zero or negative. What is asked for is a whole
number of lines; to ask for infinitely many is to ask for any number beyond those of the text. -/
def ofInt (n : Int) : GroupSize := ⟨max 1 n.toNat, by omega⟩

/-- Twice as many lines. -/
def double (size : GroupSize) : GroupSize := ⟨2 * size.lines, by have := size.pos; omega⟩

/-- The size of groups when no other one is asked for. -/
def standard : GroupSize := ⟨256, by decide⟩

end GroupSize

/-- A run of whole lines and its lexemes. -/
structure Group where
  text : Text
  lexemes : List Lexeme

/-- The group of some lines. -/
def Group.ofLines (lines : List Text) : Group :=
  let text := lines.flatten
  ⟨text, Lexicon.lexemes text⟩

/-- Whether a lexeme leaves a construct open: a lone backtick is a template without an end, a
slash right before an asterisk a comment without an end, and a lone quote a string that goes on
when the last line is `continued` by a backslash. -/
def opensConstruct (continued : Bool) : List Lexeme → Bool
  | [] => false
  | x :: rest =>
    x.raw == [Lexicon.backtick] ||
    (continued && (x.raw == ['\x22'] || x.raw == ['\x27'])) ||
    (x.raw == ['/'] &&
      match rest with
      | [] => false
      | y :: _ => y.offset == x.offset + 1 && y.raw.head? == some '*') ||
    opensConstruct continued rest

/-- Whether a group may end inside a construct. -/
def Group.isOpen (group : Group) : Bool :=
  opensConstruct (['\\', '\n'].isSuffixOf group.text) group.lexemes

/-- The groups that a list of lines falls into, when `size` lines are tried for the first one and
`base` lines for each of the others. -/
def groupsFrom (base size : GroupSize) (lines : List Text) : List Group :=
  if lines.isEmpty then []
  else
    let group := Group.ofLines (lines.take size.lines)
    if size.lines < lines.length ∧ group.isOpen then groupsFrom base size.double lines
    else group :: groupsFrom base base (lines.drop size.lines)
termination_by (lines.length, lines.length - size.lines)
decreasing_by
  · have hpos := size.pos
    apply Prod.Lex.right
    simp only [GroupSize.double]
    omega
  · have hpos := size.pos
    apply Prod.Lex.left
    have : lines ≠ [] := by simp_all
    have := List.length_pos_iff.2 this
    rw [List.length_drop]
    omega

/-- The groups of a text. -/
def groups (size : GroupSize) (t : Text) : List Group := groupsFrom size size (Text.lines t)

/-- The lexemes of consecutive groups, the first of which starts at `offset`. -/
def placeGroups (offset : Nat) : List Group → List Lexeme
  | [] => []
  | group :: rest =>
    (group.lexemes.map fun x => { x with offset := x.offset + offset }) ++
      placeGroups (offset + Text.units group.text) rest

/-- The lexemes of a text, found a group at a time. -/
def groupedLexemes (size : GroupSize) (t : Text) : List Lexeme := placeGroups 0 (groups size t)

end Source

end DiagnosticHints
