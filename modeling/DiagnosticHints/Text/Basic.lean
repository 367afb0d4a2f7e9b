/-!
# Texts and searches in them

A text is the list of its characters. This file holds the searches the library is built on: the
first and the last occurrence of a marker, the entry of a table that has a text as its key, and the
lines of a text with their line feeds.
-/

namespace DiagnosticHints

/-- A text is the list of its characters. A character is a Unicode scalar value, so a surrogate
that stands alone, which a sequence of UTF-16 units may hold, has no counterpart here. -/
abbrev Text := List Char

instance : Coe String Text := ⟨String.toList⟩

namespace Text

/-! ## Occurrences of a marker -/

/-- The text before and the text after the first occurrence of `marker`. -/
def splitFirst? (marker : Text) : Text → Option (Text × Text)
  | [] => if marker.isEmpty then some ([], []) else none
  | c :: t =>
    if marker.isPrefixOf (c :: t) then some ([], (c :: t).drop marker.length)
    else (splitFirst? marker t).map fun (before, after) => (c :: before, after)

/-- The text after the first occurrence of `marker`. -/
def afterFirst? (marker t : Text) : Option Text := (splitFirst? marker t).map (·.2)

/-- The text before the first occurrence of `marker`. -/
def beforeFirst? (marker t : Text) : Option Text := (splitFirst? marker t).map (·.1)

/-- The text after the last occurrence of `marker`; an empty marker occurs last at the end. -/
def afterLast? (marker : Text) : Text → Option Text
  | [] => if marker.isEmpty then some [] else none
  | c :: t =>
    match afterLast? marker t with
    | some rest => some rest
    | none =>
      if marker.isPrefixOf (c :: t) then some ((c :: t).drop marker.length) else none

/-- The two parts and the marker between them make up the text. -/
theorem append_of_splitFirst? {marker before after : Text} :
    ∀ {t : Text}, splitFirst? marker t = some (before, after) → before ++ marker ++ after = t
  | [], h => by
    cases marker with
    | nil => simp [splitFirst?] at h; obtain ⟨rfl, rfl⟩ := h; rfl
    | cons => simp [splitFirst?] at h
  | c :: t, h => by
    unfold splitFirst? at h
    split at h
    · next hp =>
      obtain ⟨rest, hrest⟩ := List.isPrefixOf_iff_prefix.1 hp
      simp only [Option.some.injEq, Prod.mk.injEq] at h
      obtain ⟨rfl, rfl⟩ := h
      simp [← hrest]
    · simp only [Option.map_eq_some_iff, Prod.mk.injEq] at h
      obtain ⟨⟨b, a⟩, hs, rfl, rfl⟩ := h
      have := append_of_splitFirst? hs
      simp_all

/-! ## Tables with texts as keys -/

theorem mem_of_lookup {α : Type} {table : List (Text × α)} {key : Text} {value : α}
    (h : table.lookup key = some value) : (key, value) ∈ table := by
  obtain ⟨before, after, heq, -⟩ := List.lookup_eq_some_iff.1 h
  simp [heq]

theorem exists_lookup_of_mem_keys {α : Type} {table : List (Text × α)} {key : Text}
    (h : key ∈ table.map (·.1)) :
    ∃ value, table.lookup key = some value ∧ (key, value) ∈ table := by
  obtain ⟨entry, hmem, rfl⟩ := List.mem_map.1 h
  have hsome : (table.lookup entry.1).isSome = true :=
    List.lookup_isSome_iff.2 ⟨entry, hmem, beq_self_eq_true _⟩
  obtain ⟨value, hvalue⟩ := Option.isSome_iff_exists.1 hsome
  exact ⟨value, hvalue, mem_of_lookup hvalue⟩

/-! ## Lines -/

/-- One character put in front of a list of lines: a line feed closes a line of its own. -/
def consLine (c : Char) : List Text → List Text
  | [] => if c = '\n' then [[c], []] else [[c]]
  | line :: lines => if c = '\n' then [c] :: line :: lines else (c :: line) :: lines

/-- The lines of a text, each with its line feed; the last one has none and may be empty. -/
def lines (t : Text) : List Text := t.foldr consLine [[]]

/-- Some texts as lines of one text, with a line feed between each two of them. -/
def joinLines (ts : List Text) : Text := List.intercalate ['\n'] ts

/-- Whether a character ends a line: a line feed, a carriage return, or a separator of lines or
paragraphs. -/
def isLineEnd (c : Char) : Bool :=
  c == '\n' || c == '\r' || c == '\u2028' || c == '\u2029'

/-- The text before its first line end of any kind. -/
def firstLine (t : Text) : Text := t.takeWhile fun c => !isLineEnd c

theorem joinLines_cons_cons (t u : Text) (ts : List Text) :
    joinLines (t :: u :: ts) = t ++ '\n' :: joinLines (u :: ts) := by
  simp [joinLines, List.intercalate_cons_cons]

theorem consLine_ne_nil (c : Char) (ls : List Text) : consLine c ls ≠ [] := by
  cases ls <;> simp only [consLine] <;> split <;> simp

theorem lines_ne_nil (t : Text) : lines t ≠ [] := by
  cases t with
  | nil => simp [lines]
  | cons c t => exact consLine_ne_nil c _

/-- No character is lost: the lines put together are the text. -/
theorem flatten_lines (t : Text) : (lines t).flatten = t := by
  induction t with
  | nil => rfl
  | cons c t ih =>
    have h : lines (c :: t) = consLine c (lines t) := rfl
    rw [h]
    cases hl : lines t with
    | nil => exact absurd hl (lines_ne_nil t)
    | cons line rest =>
      rw [hl] at ih
      simp only [consLine]
      split <;> simp_all

end Text

end DiagnosticHints
