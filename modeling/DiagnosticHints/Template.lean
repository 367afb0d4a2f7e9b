import DiagnosticHints.Decimal.Shortest

/-!
# Templates

A template is a text with holes `{key}`, where a key is a run of ASCII letters, digits and
underscores. Filling puts values into all holes at once: a value is never searched for holes, and
a hole without a value stays as it is written.
-/

namespace DiagnosticHints

namespace Template

/-- A character of a template, or a hole with its key. -/
inductive Piece where
  | char (c : Char)
  | hole (key : Text)
  deriving DecidableEq, Repr

/-- The characters of a key. -/
def isKeyChar (c : Char) : Bool := c.isAlphanum || c == '_'

/-- The key that is closed right behind an opening brace, and the text behind the hole. -/
def hole? (t : Text) : Option (Text × Text) :=
  match t.dropWhile isKeyChar with
  | c :: rest =>
    if c = '\x7d' ∧ t.takeWhile isKeyChar ≠ [] then some (t.takeWhile isKeyChar, rest) else none
  | [] => none

theorem append_of_hole? {t key rest : Text} (h : hole? t = some (key, rest)) :
    key ++ '\x7d' :: rest = t := by
  unfold hole? at h
  split at h
  · next c rest' hdrop =>
    split at h
    · next hc =>
      simp only [Option.some.injEq, Prod.mk.injEq] at h
      obtain ⟨rfl, rfl⟩ := h
      rw [← hc.1, ← hdrop, List.takeWhile_append_dropWhile]
    · simp at h
  · simp at h

theorem length_lt_of_hole? {t key rest : Text} (h : hole? t = some (key, rest)) :
    rest.length < t.length := by
  rw [← append_of_hole? h, List.length_append, List.length_cons]
  omega

/-- The pieces of a template, from left to right. -/
def pieces (template : Text) : List Piece :=
  match template with
  | [] => []
  | c :: t =>
    if c = '\x7b' then
      match h : hole? t with
      | some (key, rest) =>
        have : rest.length < t.length := length_lt_of_hole? h
        .hole key :: pieces rest
      | none => .char c :: pieces t
    else .char c :: pieces t
termination_by template.length
decreasing_by
  · exact Nat.lt_succ_of_lt (by assumption)
  · exact Nat.lt_succ_self t.length
  · exact Nat.lt_succ_self t.length

/-- The text of a piece as it is written in a template. -/
def Piece.source : Piece → Text
  | char c => [c]
  | hole key => '\x7b' :: (key ++ ['\x7d'])

/-- The text of a piece with the given values. -/
def Piece.fill (value : Text → Option Text) : Piece → Text
  | char c => [c]
  | hole key => (value key).getD (hole key).source

/-- The template with the given values in its holes. -/
def fill (value : Text → Option Text) (template : Text) : Text :=
  (pieces template).flatMap (Piece.fill value)

/-- The key of a piece that is a hole. -/
def Piece.key? : Piece → Option Text
  | char _ => none
  | hole key => some key

/-- The keys of a template, each once, in the order of first use. -/
def keys (template : Text) : List Text := ((pieces template).filterMap Piece.key?).eraseDups

/-- The pieces make up the template again. -/
theorem flatMap_source_pieces (template : Text) :
    (pieces template).flatMap Piece.source = template := by
  fun_induction pieces template with
  | case1 => rfl
  | case2 t key rest h _ ih => simp [Piece.source, ih, append_of_hole? h]
  | case3 t h ih => simp [Piece.source, ih]
  | case4 c t hc ih => simp [Piece.source, ih]

end Template

/-- A value for the holes of a template. -/
inductive Value where
  | text (t : Text)
  | number (x : Float)

/-- The text that a value is written as. -/
def Value.toText : Value → Text
  | text t => t
  | number x => Text.ofFloat x

/-- The values of a template, by their keys. -/
abbrev Arguments := List (Text × Value)

/-- The template with the values of its arguments. The arguments have the keys they are given and
no others: keys that every object inherits, such as toString, are outside of the model. -/
def Arguments.fill (arguments : Arguments) (template : Text) : Text :=
  Template.fill (fun key => (arguments.lookup key).map Value.toText) template

end DiagnosticHints
