import DiagnosticHints.Suggestion.Strategy
import Mathlib.Data.List.Forall2

/-!
# Filled templates

What it means that every hole of a template is replaced by its value, said without the pieces of
the template: the text between the holes stays, each hole gives way to its value, and nothing is
looked for in a value. The templates of the catalog have holes for the subjects of their problem
only and no other braces, so each of them can be filled in this sense.
-/

namespace DiagnosticHints

namespace Template

/-- The text that a template becomes when each of its holes has a value and is replaced by it. -/
inductive Filled (value : Text → Option Text) : Text → Text → Prop
  | nil : Filled value [] []
  | char {c : Char} {t out : Text} : c ≠ '\x7b' → Filled value t out →
      Filled value (c :: t) (c :: out)
  | hole {key v t out : Text} : key ≠ [] → (∀ c ∈ key, isKeyChar c = true) →
      value key = some v → Filled value t out →
      Filled value ('\x7b' :: (key ++ '\x7d' :: t)) (v ++ out)

theorem pieces_char {c : Char} (h : c ≠ '\x7b') (t : Text) :
    pieces (c :: t) = .char c :: pieces t := by
  rw [pieces, if_neg h]

theorem pieces_hole {t key rest : Text} (h : hole? t = some (key, rest)) :
    pieces ('\x7b' :: t) = .hole key :: pieces rest := by
  rw [pieces, if_pos rfl]
  split
  · next heq =>
    rw [h, Option.some.injEq, Prod.mk.injEq] at heq
    rw [heq.1, heq.2]
  · next heq =>
    rw [h] at heq
    cases heq

theorem pieces_brace {t : Text} (h : hole? t = none) :
    pieces ('\x7b' :: t) = .char '\x7b' :: pieces t := by
  rw [pieces, if_pos rfl]
  split
  · next heq =>
    rw [h] at heq
    cases heq
  · rfl

theorem hole?_append {key : Text} (hne : key ≠ []) (hkey : ∀ c ∈ key, isKeyChar c = true)
    (rest : Text) : hole? (key ++ '\x7d' :: rest) = some (key, rest) := by
  have hbrace : isKeyChar '\x7d' = false := by decide
  have htake : (key ++ '\x7d' :: rest).takeWhile isKeyChar = key := by
    rw [List.takeWhile_append_of_pos hkey, List.takeWhile_cons, hbrace]
    simp
  have hdrop : (key ++ '\x7d' :: rest).dropWhile isKeyChar = '\x7d' :: rest := by
    rw [List.dropWhile_append_of_pos hkey, List.dropWhile_cons, hbrace]
    simp
  rw [hole?, hdrop, htake]
  simp [hne]

theorem isKeyChar_of_hole? {t key rest : Text} (h : hole? t = some (key, rest)) :
    key ≠ [] ∧ ∀ c ∈ key, isKeyChar c = true := by
  unfold hole? at h
  split at h
  · split at h
    · next hc =>
      rw [Option.some.injEq, Prod.mk.injEq] at h
      rw [← h.1]
      exact ⟨hc.2, List.all_eq_true.1 List.all_takeWhile⟩
    · cases h
  · cases h

/-- Filling replaces every hole by its value. -/
theorem fill_eq_of_filled {value : Text → Option Text} {template out : Text}
    (h : Filled value template out) : fill value template = out := by
  induction h with
  | nil => rw [fill, pieces, List.flatMap_nil]
  | @char c t out hc _ ih =>
    rw [fill, pieces_char hc, List.flatMap_cons, ← fill, ih]
    rfl
  | @hole key v t out hne hkey hv _ ih =>
    rw [fill, pieces_hole (hole?_append hne hkey t), List.flatMap_cons, ← fill, ih, Piece.fill, hv]
    rfl

theorem Filled.append_left {value : Text → Option Text} {words t out : Text}
    (hwords : '\x7b' ∉ words) (h : Filled value t out) :
    Filled value (words ++ t) (words ++ out) := by
  induction words with
  | nil => exact h
  | cons c words ih =>
    rw [List.mem_cons, not_or] at hwords
    exact .char (Ne.symm hwords.1) (ih hwords.2)

theorem Filled.words {value : Text → Option Text} {words : Text} (h : '\x7b' ∉ words) :
    Filled value words words := by
  have hfilled : Filled value (words ++ []) (words ++ []) := .append_left h .nil
  rwa [List.append_nil] at hfilled

/-- Whether a template has holes for some keys only, and no brace that belongs to no hole. -/
def hasOnly (keys : List Text) (template : Text) : Bool :=
  (pieces template).all fun
    | .char c => c != '\x7b' && c != '\x7d'
    | .hole key => keys.contains key

theorem hasOnly_cons_char {keys : List Text} {c : Char} (h : c ≠ '\x7b') {t : Text}
    (hc : hasOnly keys (c :: t) = true) : hasOnly keys t = true := by
  rw [hasOnly, pieces_char h, List.all_cons, Bool.and_eq_true] at hc
  exact hc.2

theorem hasOnly_cons_hole {keys : List Text} {t key rest : Text}
    (h : hole? t = some (key, rest)) (hc : hasOnly keys ('\x7b' :: t) = true) :
    key ∈ keys ∧ hasOnly keys rest = true := by
  rw [hasOnly, pieces_hole h, List.all_cons, Bool.and_eq_true] at hc
  exact ⟨List.contains_iff_mem.1 hc.1, hc.2⟩

/-- A template is filled when its keys have values. -/
theorem filled_fill {keys : List Text} {value : Text → Option Text} {template : Text}
    (h : hasOnly keys template = true) (hvalue : ∀ key ∈ keys, (value key).isSome = true) :
    Filled value template (fill value template) := by
  induction template using pieces.induct with
  | case1 =>
    rw [fill, pieces, List.flatMap_nil]
    exact .nil
  | case2 t key rest hhole _ ih =>
    obtain ⟨hmem, hrest⟩ := hasOnly_cons_hole hhole h
    obtain ⟨hne, hkey⟩ := isKeyChar_of_hole? hhole
    obtain ⟨v, hv⟩ := Option.isSome_iff_exists.1 (hvalue key hmem)
    have hfilled := Filled.hole hne hkey hv (ih hrest)
    rw [append_of_hole? hhole] at hfilled
    rwa [fill_eq_of_filled hfilled]
  | case3 t hhole ih =>
    rw [hasOnly, pieces_brace hhole, List.all_cons, Bool.and_eq_true] at h
    exact absurd h.1 (by simp)
  | case4 c t hc ih =>
    have hfilled := Filled.char hc (ih (hasOnly_cons_char hc h))
    rwa [fill_eq_of_filled hfilled]

/-- A template in a program text may be looked at as the list of its characters. -/
theorem hasOnly_toList {keys : List Text} {template : String} {t : Text}
    (ht : template = String.ofList t) (h : hasOnly keys t = true) :
    hasOnly keys template.toList = true := by
  rwa [ht, String.toList_ofList]

end Template

/-- Around its only hole a template is kept, and the value stands in the hole as it is. -/
theorem Arguments.fill_single {before key after : Text} (hbefore : '\x7b' ∉ before)
    (hafter : '\x7b' ∉ after) (hne : key ≠ []) (hkey : ∀ c ∈ key, Template.isKeyChar c = true)
    (v : Text) :
    Arguments.fill [(key, .text v)] (before ++ '\x7b' :: (key ++ '\x7d' :: after)) =
      before ++ (v ++ after) := by
  refine Template.fill_eq_of_filled (.append_left hbefore (.hole hne hkey ?_ (.words hafter)))
  rw [List.lookup_cons_self, Option.map_some, Value.toText]

/-- The templates of the lines and of the help of an entry. -/
def Entry.templates (entry : Entry) : List Text := entry.suggestions ++ entry.help.toList

set_option maxRecDepth 4000 in
/-- The templates of a problem have holes for its subjects only. The lines about one property of
an object type are another matter, as their subjects come from each property that differs. -/
theorem hasOnly_templates {p : Problem} (hp : p ≠ .inlineTypeMismatch) :
    ∀ template ∈ p.entry.templates,
      Template.hasOnly (p.subjects.map (·.key)) template = true := by
  cases p
  case inlineTypeMismatch => exact absurd rfl hp
  all_goals
    repeat refine List.forall_mem_cons.2 ⟨Template.hasOnly_toList rfl (by decide +kernel), ?_⟩
    exact List.forall_mem_nil _

/-- Without emphasis a filled template is filled with the subjects as they are. -/
theorem Entry.fill_plain (entry : Entry) (subjects : Subjects) (template : Text) :
    entry.fill subjects .plain template =
      Template.fill (fun key => subjects.lookup key) template := by
  simp [Entry.fill, Emphasis.plain]

/-- A suggestion has a line for each template of an entry, and help if there is a template for it,
each of them filled. -/
structure Suggestion.Fills (s : Suggestion) (entry : Entry) (value : Text → Option Text) :
    Prop where
  lines : List.Forall₂ (Template.Filled value) entry.suggestions s.lines
  help : Option.Rel (Template.Filled value) entry.help s.help

/-- The suggestion of an entry fills its templates when all their keys have a subject. -/
theorem fills_suggestion {entry : Entry} {keys : List Text} {subjects : Subjects}
    (hkeys : ∀ key ∈ keys, (subjects.lookup key).isSome = true)
    (h : ∀ template ∈ entry.templates, Template.hasOnly keys template = true) :
    (entry.suggestion subjects .plain).Fills entry (fun key => subjects.lookup key) := by
  have hfilled : ∀ template ∈ entry.templates,
      Template.Filled (fun key => subjects.lookup key) template
        (entry.fill subjects .plain template) := fun template hmem => by
    rw [Entry.fill_plain]
    exact Template.filled_fill (h template hmem) hkeys
  constructor
  · rw [Entry.suggestion, Entry.fillAll, List.forall₂_map_right_iff, List.forall₂_same]
    exact fun template hmem => hfilled template (List.mem_append_left _ hmem)
  · cases hhelp : entry.help with
    | none => simp [Entry.suggestion, Entry.fillHelp, hhelp]
    | some template =>
      have hmem : template ∈ entry.templates := by simp [Entry.templates, hhelp]
      simpa [Entry.suggestion, Entry.fillHelp, hhelp] using hfilled template hmem

end DiagnosticHints
