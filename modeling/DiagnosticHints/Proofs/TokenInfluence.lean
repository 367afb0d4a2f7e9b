import DiagnosticHints.Proofs.Occurrences
import DiagnosticHints.Proofs.Outline

/-!
# What tokens can change

A standard suggestion is made from the kind and the words of a diagnostic and from at most one token,
the one under the error. Which file the diagnostic is about, where it points and what else stands in
the file make no difference. Most problems look at no token at all; for the four that do, the file
says which messages settle the suggestion alone, and that all other messages leave it to the token.
-/

namespace DiagnosticHints

/-! ## The last quoted part -/

/-- Nothing is quoted behind a marker exactly when no apostrophe closes what stands behind its last
occurrence. -/
theorem Message.lastAfter?_eq_none_iff {c : Char} {m : Text} (hm : c ∉ m) (message : Text) :
    lastAfter? message (c :: m) = none ↔
      ∀ before after, message = before ++ (c :: m ++ after) → ¬ c :: m <:+: after →
        quote ∉ after := by
  have hquote (t : Text) : Text.beforeFirst? [quote] t = none ↔ quote ∉ t := by
    rw [Text.beforeFirst?, Option.map_eq_none_iff, Text.splitFirst?_eq_none_iff (by simp),
      List.singleton_infix_iff]
  rw [lastAfter?]
  constructor
  · rintro h before after rfl hlast
    have hfound : ¬ c :: m <:+: m ++ after := fun hin =>
      hlast (Text.infix_of_infix_append hm hin)
    rw [Text.afterLast?_append hfound, Option.bind_some] at h
    exact (hquote after).1 h
  · intro h
    cases hafter : Text.afterLast? (c :: m) message with
    | none => rfl
    | some after =>
      obtain ⟨before, hmessage, hlast⟩ := Text.exists_of_afterLast? (by simp) hafter
      rw [Option.bind_some]
      exact (hquote after).2 (h before after hmessage hlast)

theorem Message.part?_one_isSome_iff (message : Text) :
    (part? message 1).isSome = true ↔ quote ∈ message := by
  constructor
  · intro h
    by_contra hquote
    change ((message.splitOn quote)[1]?).isSome = true at h
    rw [List.splitOn_eq_singleton hquote] at h
    cases h
  · intro h
    obtain ⟨before, after, rfl⟩ := List.append_of_mem h
    show (((before ++ quote :: after).splitOn quote)[1]?).isSome = true
    rw [List.splitOn_append_cons_self]
    have hbefore := List.length_pos_of_ne_nil (List.splitOn_ne_nil quote before)
    have hafter := List.length_pos_of_ne_nil (List.splitOn_ne_nil quote after)
    rw [List.getElem?_eq_getElem (by rw [List.length_append]; omega), Option.isSome_some]

/-! ## Messages that settle a suggestion -/

/-- The message alone settles the suggestion for the problem. A call with missing arguments is always
named by a token; the three other problems that may take a token do so where the message does not
name its subject, or names a type to go with it. -/
def Problem.SettledBy (message : Text) : Problem → Prop
  | .missingParameters => False
  | .uncallableExpression => Message.quote ∈ message
  | .objectPossiblyUndefined => ¬ "Object is possibly".toList <+: message
  | .propertyMissingInType =>
    ∀ before after, message = before ++ ("type '".toList ++ after) →
      ¬ "type '".toList <:+: after → Message.quote ∉ after
  | _ => True

/-- The message alone settles the suggestion for a kind; an unsupported one has none. -/
def Kind.SettledBy (message : Text) : Kind → Prop
  | .known p => p.SettledBy message
  | .unsupported _ => True

theorem Reading.lastType_eq_none_iff (d : Diagnostic) (tokens : List Token) :
    lastType d tokens = none ↔ Problem.propertyMissingInType.SettledBy d.message :=
  Message.lastAfter?_eq_none_iff (c := 't') (m := ['y', 'p', 'e', ' ', '\x27']) (by decide)
    d.message

/-! ## Two diagnostics with the same words -/

section

variable {d d' : Diagnostic} (hmessage : d.message = d'.message) (tokens tokens' : List Token)

namespace Reading

include hmessage

theorem quoted_congr (index : Nat) : quoted index d tokens = quoted index d' tokens' := by
  rw [quoted, quoted, hmessage]

theorem source_congr : source d tokens = source d' tokens' := by
  rw [source, source, hmessage]

theorem target_congr : target d tokens = target d' tokens' := by
  rw [target, target, hmessage]

theorem lastType_congr : lastType d tokens = lastType d' tokens' := by
  rw [lastType, lastType, hmessage]

variable {tokens tokens'}

theorem possiblyUndefined_congr
    (h : underError d tokens = underError d' tokens' ∨
      Problem.objectPossiblyUndefined.SettledBy d.message) :
    possiblyUndefined d tokens = possiblyUndefined d' tokens' := by
  rw [possiblyUndefined, possiblyUndefined, ← hmessage]
  by_cases hmark : unnamedMark.isPrefixOf d.message = true
  · rw [if_pos hmark, if_pos hmark]
    exact h.resolve_right fun hsettled => hsettled (List.isPrefixOf_iff_prefix.1 hmark)
  · rw [if_neg hmark, if_neg hmark]
    exact quoted_congr hmessage tokens tokens' 1

/-- The part of the message goes first, and the token is taken only where there is none. -/
theorem quoted_orElse_congr
    (h : underError d tokens = underError d' tokens' ∨
      Problem.uncallableExpression.SettledBy d.message) :
    orElse (quoted 1) underError d tokens = orElse (quoted 1) underError d' tokens' := by
  rw [orElse, orElse, ← quoted_congr hmessage tokens tokens' 1]
  cases hquoted : quoted 1 d tokens with
  | some subject => rfl
  | none =>
    refine h.resolve_right fun hsettled => ?_
    have hsome := (Message.part?_one_isSome_iff d.message).2 hsettled
    change Message.part? d.message 1 = none at hquoted
    rw [hquoted] at hsome
    cases hsome

end Reading

include hmessage

variable {tokens tokens'}

/-- The outlines for two diagnostics of a problem with the same message are the same if the tokens
under the errors have the same text, or if the message settles the suggestion. -/
theorem Problem.outline?_congr (p : Problem)
    (h : Reading.underError d tokens = Reading.underError d' tokens' ∨ p.SettledBy d.message) :
    p.outline? d tokens = p.outline? d' tokens' := by
  have hquoted := Reading.quoted_congr hmessage tokens tokens'
  cases p
  case missingParameters =>
    have htoken := h.resolve_right id
    simp only [outline?, subjects, List.map, Subject.read, Reading.orElse, htoken, hquoted]
  case uncallableExpression =>
    simp only [outline?, subjects, List.map, Subject.read, Reading.quoted_orElse_congr hmessage h]
  case objectPossiblyUndefined =>
    simp only [outline?, subjects, List.map, Subject.read,
      Reading.possiblyUndefined_congr hmessage h]
  case propertyMissingInType =>
    have hlast := Reading.lastType_congr hmessage tokens tokens'
    rcases h with htoken | hsettled
    · simp only [outline?, subjects, List.map, Subject.read, hlast, htoken]
    · -- without a type there is nothing to name, so that the fallback is taken on both sides
      have hnone := (Reading.lastType_eq_none_iff d tokens).2 hsettled
      simp only [outline?, ← hlast, hnone, Option.isSome_none, Bool.false_eq_true, if_false]
  case inlineTypeMismatch => simp only [outline?, hmessage]
  case typeMismatch =>
    have hsource := Reading.source_congr hmessage tokens tokens'
    have htarget := Reading.target_congr hmessage tokens tokens'
    simp only [outline?, subjects, List.map, Subject.read, hsource, htarget]
  -- all others read numbered parts of the message, or nothing
  all_goals simp only [outline?, subjects, List.map, Subject.read, hquoted]

end

/-! ## Messages that leave the suggestion to the token -/

namespace Template

/-- The first hole of a template is one for the key. -/
def OpensWith (key template : Text) : Prop :=
  ∃ before after, '\x7b' ∉ before ∧ template = before ++ '\x7b' :: (key ++ '\x7d' :: after)

/-- A template in a program text may be looked at as the list of its characters. -/
theorem opensWith_toList {key t : Text} {template : String} (ht : template = String.ofList t)
    (h : ('\x7b' :: (key ++ ['\x7d'])).isPrefixOf (t.dropWhile (· != '\x7b')) = true) :
    OpensWith key template.toList := by
  obtain ⟨after, hafter⟩ := List.isPrefixOf_iff_prefix.1 h
  refine ⟨t.takeWhile (· != '\x7b'), after, ?_, ?_⟩
  · intro hmem
    have hne := List.all_eq_true.1 List.all_takeWhile _ hmem
    simp at hne
  · rw [ht, String.toList_ofList]
    conv_lhs => rw [← List.takeWhile_append_dropWhile (p := (· != '\x7b')) (l := t), ← hafter]
    simp

theorem fill_hole {before key rest v : Text} {value : Text → Option Text}
    (hbefore : '\x7b' ∉ before) (hne : key ≠ []) (hkey : ∀ c ∈ key, isKeyChar c = true)
    (hv : value key = some v) :
    fill value (before ++ '\x7b' :: (key ++ '\x7d' :: rest)) = before ++ (v ++ fill value rest) := by
  induction before with
  | nil =>
    rw [List.nil_append, fill, pieces_hole (hole?_append hne hkey rest), List.flatMap_cons, ← fill,
      Piece.fill, hv]
    rfl
  | cons c before ih =>
    rw [List.mem_cons, not_or] at hbefore
    rw [List.cons_append, fill, pieces_char (Ne.symm hbefore.1), List.flatMap_cons, ← fill,
      ih hbefore.2]
    rfl

/-- Different characters in the first hole of a template are told from each other. -/
theorem OpensWith.fill_ne {key template : Text} (h : OpensWith key template) (hne : key ≠ [])
    (hkey : ∀ c ∈ key, isKeyChar c = true) {value value' : Text → Option Text} {c c' : Char}
    (hc : c ≠ c') (hv : value key = some [c]) (hv' : value' key = some [c']) :
    fill value template ≠ fill value' template := by
  obtain ⟨before, after, hbefore, rfl⟩ := h
  rw [fill_hole hbefore hne hkey hv, fill_hole hbefore hne hkey hv']
  intro heq
  have htails := (List.append_right_inj before).1 heq
  exact hc (List.cons.inj htails).1

end Template

/-- A message that does not settle the suggestion leaves its name to the token under the error. -/
theorem Problem.outline?_of_not_settledBy {p : Problem} {d : Diagnostic} {tokens : List Token}
    {raw : Text} (hp : ¬ p.SettledBy d.message) (hraw : Reading.underError d tokens = some raw) :
    ∃ subjects : Subjects, p.outline? d tokens = some (.ofEntry p.entry subjects) ∧
      subjects.lookup "name".toList = some raw := by
  cases p
  case missingParameters =>
    refine ⟨_, rfl, ?_⟩
    simp [subjects, Subject.read, Reading.orElse, hraw]
  case uncallableExpression =>
    have hnone : Reading.quoted 1 d tokens = none := by
      rw [← Option.not_isSome_iff_eq_none]
      exact mt (Message.part?_one_isSome_iff d.message).1 hp
    refine ⟨_, rfl, ?_⟩
    simp [subjects, Subject.read, Reading.orElse, hraw, hnone]
  case objectPossiblyUndefined =>
    have hmark : Reading.unnamedMark.isPrefixOf d.message = true :=
      List.isPrefixOf_iff_prefix.2 (Classical.not_not.1 hp)
    refine ⟨_, rfl, ?_⟩
    simp [subjects, Subject.read, Reading.possiblyUndefined, hraw, hmark]
  case propertyMissingInType =>
    have hsome : (Reading.lastType d tokens).isSome = true := by
      rw [← Option.isSome_iff_ne_none.trans (not_congr (Reading.lastType_eq_none_iff d tokens))] at hp
      exact hp
    refine ⟨_, if_pos hsome, ?_⟩
    simp [subjects, Subject.read, hraw]
  all_goals exact absurd trivial hp

/-- The first line about each problem that takes a token opens with its name. -/
theorem Problem.opensWith_of_not_settledBy {p : Problem} {message : Text}
    (hp : ¬ p.SettledBy message) :
    ∃ template others, p.entry.suggestions = template :: others ∧
      Template.OpensWith "name".toList template := by
  cases p
  case missingParameters => exact ⟨_, _, rfl, Template.opensWith_toList rfl (by decide +kernel)⟩
  case uncallableExpression => exact ⟨_, _, rfl, Template.opensWith_toList rfl (by decide +kernel)⟩
  case objectPossiblyUndefined =>
    exact ⟨_, _, rfl, Template.opensWith_toList rfl (by decide +kernel)⟩
  case propertyMissingInType =>
    exact ⟨_, _, rfl, Template.opensWith_toList rfl (by decide +kernel)⟩
  all_goals exact absurd trivial hp

/-! ## Suggestions -/

/-- A diagnostic of a kind with a message, in any file and at any place. -/
structure Diagnostic.Says (d : Diagnostic) (kind : Kind) (message : Text) : Prop where
  kind_eq : d.kind = kind
  message_eq : d.message = message

section

variable {kind : Kind} {message : Text} {d d' : Diagnostic}

theorem Diagnostic.Says.outline?_eq (h : d.Says kind message) (h' : d'.Says kind message)
    {tokens tokens' : List Token}
    (hagree : Reading.underError d tokens = Reading.underError d' tokens' ∨
      kind.SettledBy message) :
    d.outline? tokens = d'.outline? tokens' := by
  obtain ⟨hkind, hmessage⟩ := h
  obtain ⟨hkind', hmessage'⟩ := h'
  rw [Diagnostic.outline?, Diagnostic.outline?, hkind, hkind']
  cases kind with
  | unsupported code => rfl
  | known p =>
    refine p.outline?_congr (hmessage.trans hmessage'.symm) ?_
    rwa [hmessage]

/-- A diagnostic at the start of a file. -/
def Diagnostic.atStart (kind : Kind) (message : Text) : Diagnostic := ⟨[], 1, 1, kind, message⟩

/-- A file of one token, which is a single character. -/
def Source.single (c : Char) : List Token := [⟨[c], 1, 0⟩]

theorem Reading.underError_single (c : Char) :
    underError (.atStart kind message) (Source.single c) = some [c] := by
  have hunits : 0 < Text.units [c] := Text.units_pos (by simp)
  have hcovers : Token.covers ⟨[c], 1, 0⟩ 1 (1 - 1) = true := by
    simp only [Token.covers]
    simpa using hunits
  rw [underError, Source.tokenUnder?]
  show Option.map _ (if (1 : Int) < 1 then none else
    List.find? (fun token : Token => token.covers 1 (1 - 1)) [⟨[c], 1, 0⟩]) = some [c]
  rw [if_neg (by omega), List.find?_singleton, if_pos hcovers]
  rfl

/-- Two files of one token each make two suggestions where the message does not settle one. -/
theorem Diagnostic.suggest?_single_ne (h : ¬ kind.SettledBy message) {c c' : Char} (hc : c ≠ c') :
    (atStart kind message).suggest? (Source.single c) .plain ≠
      (atStart kind message).suggest? (Source.single c') .plain := by
  cases kind with
  | unsupported code => exact absurd trivial h
  | known p =>
    obtain ⟨subjects, houtline, hname⟩ := Problem.outline?_of_not_settledBy
      (d := atStart (.known p) message) h (Reading.underError_single c)
    obtain ⟨subjects', houtline', hname'⟩ := Problem.outline?_of_not_settledBy
      (d := atStart (.known p) message) h (Reading.underError_single c')
    obtain ⟨template, others, hlines, hopens⟩ := Problem.opensWith_of_not_settledBy h
    rw [Options.plain, suggest?_eq_outline, suggest?_eq_outline]
    show (p.outline? _ _).map _ ≠ (p.outline? _ _).map _
    rw [houtline, houtline', Option.map_some, Option.map_some, Outline.suggestion_ofEntry,
      Outline.suggestion_ofEntry]
    intro heq
    have hsame := congrArg Suggestion.lines (Option.some.inj heq)
    rw [Entry.suggestion, Entry.suggestion, Entry.fillAll, Entry.fillAll, hlines, List.map_cons,
      List.map_cons, List.cons.injEq, Entry.fill_plain, Entry.fill_plain] at hsame
    exact hopens.fill_ne (by decide) (List.all_eq_true.1 rfl) hc hname hname' hsame.1

/-- **Tokens matter through the one under the error alone.**  For two diagnostics of one kind with
the same message, wherever they stand, the suggestions are the same under any emphasis if there is
no token under either error or two of them with the same text. They are the same for all tokens and
all places exactly if the message settles the suggestion; all problems but four are settled by every
message. -/
theorem Diagnostic.suggest?_of_tokenUnder? (kind : Kind) (message : Text) :
    (∀ d d' tokens tokens' emphasis, Says d kind message → Says d' kind message →
      (Source.tokenUnder? tokens d.line d.column).map (·.raw) =
        (Source.tokenUnder? tokens' d'.line d'.column).map (·.raw) →
      d.suggest? tokens ⟨emphasis, fun _ => none⟩ =
        d'.suggest? tokens' ⟨emphasis, fun _ => none⟩) ∧
    (kind.SettledBy message ↔
      ∀ d d' tokens tokens' emphasis, Says d kind message → Says d' kind message →
        d.suggest? tokens ⟨emphasis, fun _ => none⟩ =
          d'.suggest? tokens' ⟨emphasis, fun _ => none⟩) := by
  refine ⟨?_, ?_, ?_⟩
  · intro d d' tokens tokens' emphasis h h' htoken
    rw [suggest?_eq_outline, suggest?_eq_outline, h.outline?_eq h' (Or.inl htoken)]
  · intro hsettled d d' tokens tokens' emphasis h h'
    rw [suggest?_eq_outline, suggest?_eq_outline, h.outline?_eq h' (Or.inr hsettled)]
  · intro hall
    by_contra hsettled
    have hne : 'a' ≠ 'b' := by decide
    exact suggest?_single_ne hsettled hne
      (hall (atStart kind message) (atStart kind message) _ _ .plain ⟨rfl, rfl⟩ ⟨rfl, rfl⟩)

end

/-- A call that lacks arguments is explained by its name, wherever it stands and whatever stands
around it, and a message that quotes what cannot be called is enough without a name. -/
theorem Diagnostic.suggest?_callUnderError :
    let missing (file : Text) (line column : Int) : Diagnostic :=
      ⟨file, line, column, .known .missingParameters, "Expected 2 arguments, but got 1."⟩
    let uncallable : Diagnostic :=
      ⟨"a.ts", 1, 1, .known .uncallableExpression, "Type 'String' has no call signatures."⟩
    let call : List Token := [⟨"load", 1, 0⟩, ⟨"(", 1, 4⟩]
    let others : List Token := [⟨"x", 2, 0⟩, ⟨"load", 7, 3⟩]
    (missing "a.ts" 1 1).suggest? call .plain = (missing "b.ts" 7 5).suggest? others .plain ∧
    (missing "b.ts" 7 5).suggest? others .plain = some
      ⟨["Check if all required arguments are provided when invoking `load`.".toList],
        some "Function `load` is missing 1 or more arguments."⟩ ∧
    (missing "b.ts" 7 5).suggest? call .plain ≠ (missing "b.ts" 7 5).suggest? others .plain ∧
    uncallable.suggest? call .plain = uncallable.suggest? [] .plain := by
  intro missing uncallable call others
  have hmissing := (suggest?_of_tokenUnder? (.known .missingParameters)
    "Expected 2 arguments, but got 1.").1
  have huncallable := (suggest?_of_tokenUnder? (.known .uncallableExpression)
    "Type 'String' has no call signatures.").2.1
  refine ⟨?_, by decide +kernel, by decide +kernel, ?_⟩
  · have htoken : (Source.tokenUnder? call 1 1).map (·.raw) =
        (Source.tokenUnder? others 7 5).map (·.raw) := by decide +kernel
    exact hmissing (missing "a.ts" 1 1) (missing "b.ts" 7 5) call others _ ⟨rfl, rfl⟩ ⟨rfl, rfl⟩
      htoken
  · have hsettled : Problem.uncallableExpression.SettledBy
        "Type 'String' has no call signatures.".toList := by
      show Message.quote ∈ "Type 'String' has no call signatures.".toList
      decide
    exact huncallable hsettled uncallable uncallable call [] _ ⟨rfl, rfl⟩ ⟨rfl, rfl⟩

end DiagnosticHints
