import DiagnosticHints.Proofs.Occurrences
import DiagnosticHints.Session.CommandLine

/-!
# How a command is spelled

The choices that a user makes about a run can be spelled in several ways and in any order. Behind
the command that explains, words that spell some choices, each kind of them once at most, are read
as the request with these choices.
-/

namespace DiagnosticHints

/-- What one or two words of a command line choose. -/
inductive Choice where
  | input (path : Text)
  | directory (path : Text)
  | format (name : Text)
  | plain
  deriving DecidableEq, Repr

namespace Choice

/-- A word that is taken for the value of an option in front of it: it does not look like an option,
and it is not empty, as an empty word is a value that is missing. -/
def IsValue (t : Text) : Prop :=
  t ≠ [] ∧ (t.head? ≠ some '-' ∨ Text.isNegativeNumber t = true)

instance (t : Text) : Decidable (IsValue t) := inferInstanceAs (Decidable (_ ∧ _))

/-- The words that spell some choices, in the same order. An input is any word that can be a value,
or a single dash; the word behind the switch must not be read as its value. -/
inductive Spells : List Text → List Choice → Prop
  | nil : Spells [] []
  | input {path : Text} {words : List Text} {choices : List Choice} :
      IsValue path ∨ path = ['-'] → Spells words choices →
      Spells (path :: words) (.input path :: choices)
  | directory {path : Text} {words : List Text} {choices : List Choice} :
      IsValue path → Spells words choices →
      Spells ("--cwd".toList :: path :: words) (.directory path :: choices)
  | directoryAssigned {path : Text} {words : List Text} {choices : List Choice} :
      Word.unquoted path ≠ [] → Spells words choices →
      Spells (("--cwd=".toList ++ path) :: words) (.directory (Word.unquoted path) :: choices)
  | format {name : Text} {words : List Text} {choices : List Choice} :
      IsValue name → Spells words choices →
      Spells ("--format".toList :: name :: words) (.format name :: choices)
  | formatLetter {name : Text} {words : List Text} {choices : List Choice} :
      IsValue name → Spells words choices →
      Spells ("-f".toList :: name :: words) (.format name :: choices)
  | formatAssigned {name : Text} {words : List Text} {choices : List Choice} :
      Word.unquoted name ≠ [] → Spells words choices →
      Spells (("--format=".toList ++ name) :: words) (.format (Word.unquoted name) :: choices)
  | plain {words : List Text} {choices : List Choice} :
      words.head? ≠ some "true".toList ∧ words.head? ≠ some "false".toList →
      Spells words choices → Spells ("--plain".toList :: words) (.plain :: choices)

/-- The flag of a choice; an input has none. -/
def flag? : Choice → Option Flag
  | input _ => none
  | directory _ => some .cwd
  | format _ => some .format
  | plain => some .plain

/-- What a choice gives to its flag. -/
def given : Choice → Given
  | input path => .text path
  | directory path => .text path
  | format name => .text name
  | plain => .switch true

/-- What is chosen for a flag, or for the input, if anything is. -/
def chosen? (choices : List Choice) (flag? : Option Flag) : Option Given :=
  (choices.find? (·.flag? == flag?)).map given

/-- The request with some choices. -/
def request (choices : List Choice) : ExplainRequest where
  input := (chosen? choices none).map Given.toText
  directory := (chosen? choices (some .cwd)).map Given.toText
  format := ((chosen? choices (some .format)).map Given.toText).getD Format.text.name
  plain := (chosen? choices (some .plain)).isSome

end Choice

/-! ## The reading of a word -/

namespace Text

theorem isDigit_of_isDigits {t : Text} (h : isDigits t = true) : ∀ c ∈ t, c.isDigit = true := by
  rw [isDigits, Bool.and_eq_true, List.all_eq_true] at h
  exact h.2

theorem isDecimal_chars {t : Text} (h : isDecimal t = true) :
    ∀ c ∈ t, c.isDigit = true ∨ c = '.' := by
  intro c hc
  rw [isDecimal] at h
  split at h
  · exact Or.inl (isDigit_of_isDigits h c hc)
  · next whole fraction hsplit =>
    rw [Bool.and_eq_true] at h
    rw [← append_of_splitFirst? hsplit, List.mem_append, List.mem_append] at hc
    rcases hc with (hc | hc) | hc
    · exact Or.inl (isDigit_of_isDigits h.1 c hc)
    · exact Or.inr (List.mem_singleton.1 hc)
    · exact Or.inl (isDigit_of_isDigits h.2 c hc)

/-- A negative number is a minus sign with digits and points behind it. -/
theorem isNegativeNumber_chars {t : Text} (h : isNegativeNumber t = true) :
    ∃ number, t = '-' :: number ∧ ∀ c ∈ number, c.isDigit = true ∨ c = '.' := by
  unfold isNegativeNumber at h
  split at h
  · next fraction =>
    refine ⟨_, rfl, fun c hc => ?_⟩
    rcases List.mem_cons.1 hc with rfl | hc
    · exact Or.inr rfl
    · exact Or.inl (isDigit_of_isDigits h c hc)
  · exact ⟨_, rfl, isDecimal_chars h⟩
  · cases h

end Text

namespace Word

theorem hasAssignment_eq_false {t : Text} (h : '=' ∉ t) : hasAssignment t = false := by
  rw [hasAssignment, Bool.eq_false_iff, ne_eq, List.contains_iff_mem]
  intro hmem
  exact h ((List.takeWhile_prefix _).subset (List.mem_of_mem_tail hmem))

theorem ofShort_number {number : Text} (hchars : ∀ c ∈ number, c.isDigit = true ∨ c = '.')
    (h : Text.isNegativeNumber ('-' :: number) = true) :
    ofShort number = operand ('-' :: number) := by
  have hassignment : ∀ rest, rest <:+ number → hasAssignment rest = false := by
    intro rest hrest
    apply hasAssignment_eq_false
    intro hmem
    rcases hchars '=' (hrest.subset hmem) with hdigit | hpoint
    · cases hdigit
    · cases hpoint
  unfold ofShort
  simp only [h, or_true, if_true]
  split
  · next c rest =>
    have hrest : rest <:+ c :: '.' :: rest := ⟨[c, '.'], rfl⟩
    simp [hassignment rest hrest]
  · rfl

/-- An input is read as an operand. -/
theorem ofText_input {path : Text} (h : Choice.IsValue path ∨ path = ['-']) :
    ofText path = operand path := by
  rcases h with ⟨hne, hhead | hnumber⟩ | rfl
  · cases path with
    | nil => exact absurd rfl hne
    | cons c t =>
      have hc : c ≠ '-' := fun heq => hhead (congrArg some heq)
      rw [ofText]
      · intro t' heq
        exact hc (List.cons.inj heq).1
      · intro t' heq
        exact hc (List.cons.inj heq).1
  · obtain ⟨number, rfl, hchars⟩ := Text.isNegativeNumber_chars hnumber
    rw [ofText]
    · exact ofShort_number hchars hnumber
    · rintro t' rfl
      rcases hchars '-' List.mem_cons_self with hdigit | hpoint
      · cases hdigit
      · cases hpoint
  · rfl

theorem ne_dashes_of_input {path : Text} (h : Choice.IsValue path ∨ path = ['-']) :
    path ≠ "--".toList := by
  rintro rfl
  revert h
  decide

theorem isLineEnd_of_isNameChar {c : Char} (h : isNameChar c = true) :
    Text.isLineEnd c = false := by
  rw [Bool.eq_false_iff]
  intro hend
  simp only [Text.isLineEnd, Bool.or_eq_true, beq_iff_eq] at hend
  rcases hend with ((rfl | rfl) | rfl) | rfl
  all_goals cases h

/-- A name and a value with an equals sign between them give one option its value. -/
theorem ofText_assigned {c : Char} {name : Text} (hname : (c :: name).all isNameChar = true)
    (value : Text) : ofText ('-' :: '-' :: (c :: name ++ '=' :: value)) =
      single (c :: name) (.text (unquoted value)) := by
  rw [List.all_eq_true] at hname
  have hsplit : Text.splitFirst? ['='] (c :: name ++ '=' :: value) = some (c :: name, value) :=
    Text.splitFirst?_char (fun hmem => nomatch hname '=' hmem) value
  have hline : Text.firstLine (c :: name ++ '=' :: value) =
      c :: name ++ '=' :: Text.firstLine value := by
    have hall : ∀ d ∈ c :: name, (!Text.isLineEnd d) = true := by
      intro d hd
      rw [isLineEnd_of_isNameChar (hname d hd)]
      rfl
    rw [Text.firstLine, List.takeWhile_append_of_pos hall, List.takeWhile_cons_of_pos (by decide)]
    rfl
  have hassignment : hasAssignment (c :: name ++ '=' :: value) = true := by
    rw [hasAssignment, hline, List.contains_iff_mem]
    exact List.mem_append_right name List.mem_cons_self
  have hhead : ¬ (c :: name ++ '=' :: value).head? = some '-' := by
    intro heq
    have hc := hname c List.mem_cons_self
    rw [List.cons_append, List.head?_cons, Option.some.injEq] at heq
    rw [heq] at hc
    cases hc
  rw [ofText, ofLong, hsplit, Option.filter_some, if_pos hassignment, if_neg (fun h => hhead h.1)]
  rfl

end Word

namespace Setting

variable {expect : Text → Expectation} {t name : Text} {value : Given} {form : NameForm}

theorem read_single (hdashes : t ≠ "--".toList) (hword : Word.ofText t = Word.single name value)
    (rest : List Text) :
    read expect (t :: rest) = ⟨name, (expect name).settle value⟩ :: read expect rest := by
  rw [read, if_neg hdashes, hword]
  rfl

theorem read_taken (hdashes : t ≠ "--".toList) (hword : Word.ofText t = ⟨[], some (name, form)⟩)
    {next : Text} (htakes : form.takes (expect name) next = true) (rest : List Text) :
    read expect (t :: next :: rest) =
      ⟨name, (expect name).settle (.text next)⟩ :: read expect rest := by
  rw [read, if_neg hdashes, hword]
  simp [htakes]

theorem read_bare (hdashes : t ≠ "--".toList) (hword : Word.ofText t = ⟨[], some (name, form)⟩)
    {rest : List Text} (htakes : ∀ next ∈ rest.head?, form.takes (expect name) next = false) :
    read expect (t :: rest) = ⟨name, (expect name).bare⟩ :: read expect rest := by
  rw [read, if_neg hdashes, hword]
  cases rest with
  | nil => simp [read]
  | cons next others => simp [htakes next rfl]

end Setting

/-! ## From words to settings -/

namespace Choice

/-- A choice and the setting that is made for it. -/
structure Makes (choice : Choice) (setting : Setting) : Prop where
  flag : Flag.ofName? Flag.ofExplain setting.name = choice.flag?
  operand : choice.flag? = none → setting.name = Setting.operandName
  value : setting.value = choice.given

theorem takes_of_isValue {t : Text} (h : IsValue t) {form : NameForm} {e : Expectation}
    (hswitch : e.isSwitch = false) (hform : form ≠ .dotted) : form.takes e t = true := by
  obtain ⟨hne, hhead⟩ := h
  cases form with
  | dotted => exact absurd rfl hform
  | long => simpa [NameForm.takes, hswitch] using hhead
  | letter =>
    rcases hhead with hhead | hnumber
    · cases t with
      | nil => exact absurd rfl hne
      | cons c t =>
        have hc : c ≠ '-' := fun heq => hhead (congrArg some heq)
        have hnamed : NameForm.isNamed (c :: t) = false := by
          unfold NameForm.isNamed
          split <;> simp_all
        simp [NameForm.takes, hswitch, hnamed]
    · simp [NameForm.takes, hswitch, hnumber]

section

variable {words : List Text} {choices : List Choice} {choice : Choice} {flag : Flag}

/-- The settings that words make for the command that explains. -/
def settings (words : List Text) : List Setting :=
  Setting.read (Flag.expect Flag.ofExplain) words

theorem makes_flag {name : Text} {value : Given}
    (hname : Flag.ofName? Flag.ofExplain name = some flag) (hflag : choice.flag? = some flag)
    (hvalue : choice.given = value) : Makes choice ⟨name, value⟩ := by
  refine ⟨hname.trans hflag.symm, fun hnone => ?_, hvalue.symm⟩
  rw [hflag] at hnone
  cases hnone

theorem expect_of_ofName? {name : Text} (hname : Flag.ofName? Flag.ofExplain name = some flag) :
    Flag.expect Flag.ofExplain name = flag.expectation := by
  rw [Flag.expect, hname]
  rfl

theorem settle_text {e : Expectation} (hswitch : e.isSwitch = false) (t : Text) :
    e.settle (.text t) = .text t := by
  rw [Expectation.settle, hswitch]
  rfl

/-- An option with its value in the next word. -/
theorem makes_taken {word name value : Text} {form : NameForm} (hdashes : word ≠ "--".toList)
    (hword : Word.ofText word = ⟨[], some (name, form)⟩) (hform : form ≠ .dotted)
    (hname : Flag.ofName? Flag.ofExplain name = some flag)
    (hswitch : flag.expectation.isSwitch = false) (hflag : choice.flag? = some flag)
    (hgiven : choice.given = .text value) (hvalue : IsValue value)
    (h : List.Forall₂ Makes choices (settings words)) :
    List.Forall₂ Makes (choice :: choices) (settings (word :: value :: words)) := by
  have hexpect := expect_of_ofName? hname
  rw [settings, Setting.read_taken hdashes hword
    (takes_of_isValue hvalue (by rw [hexpect, hswitch]) hform), hexpect, settle_text hswitch]
  exact .cons (makes_flag hname hflag hgiven) h

/-- An option with its value behind an equals sign. -/
theorem makes_assigned {c : Char} {name value : Text}
    (hchars : (c :: name).all Word.isNameChar = true)
    (hname : Flag.ofName? Flag.ofExplain (c :: name) = some flag)
    (hswitch : flag.expectation.isSwitch = false) (hflag : choice.flag? = some flag)
    (hgiven : choice.given = .text (Word.unquoted value))
    (h : List.Forall₂ Makes choices (settings words)) :
    List.Forall₂ Makes (choice :: choices)
      (settings (('-' :: '-' :: (c :: name ++ '=' :: value)) :: words)) := by
  have hexpect := expect_of_ofName? hname
  rw [settings, Setting.read_single (by simp) (Word.ofText_assigned hchars value), hexpect,
    settle_text hswitch]
  exact .cons (makes_flag hname hflag hgiven) h

/-- Words that spell some choices make a setting for each of them. -/
theorem Spells.makes (h : Spells words choices) : List.Forall₂ Makes choices (settings words) := by
  induction h with
  | nil => exact .nil
  | input hpath _ ih =>
    rw [settings, Setting.read_single (Word.ne_dashes_of_input hpath) (Word.ofText_input hpath)]
    exact .cons ⟨rfl, fun _ => rfl, rfl⟩ ih
  | directory hpath _ ih =>
    have hword : Word.ofText "--cwd".toList = ⟨[], some ("cwd".toList, .long)⟩ := rfl
    exact makes_taken (by decide) hword (by decide) rfl rfl rfl rfl hpath ih
  | directoryAssigned _ _ ih =>
    have hchars : "cwd".toList.all Word.isNameChar = true := rfl
    exact makes_assigned hchars rfl rfl rfl rfl ih
  | format hname _ ih =>
    have hword : Word.ofText "--format".toList = ⟨[], some ("format".toList, .long)⟩ := rfl
    exact makes_taken (by decide) hword (by decide) rfl rfl rfl rfl hname ih
  | formatLetter hname _ ih =>
    have hword : Word.ofText "-f".toList = ⟨[], some ("f".toList, .letter)⟩ := rfl
    exact makes_taken (by decide) hword (by decide) rfl rfl rfl rfl hname ih
  | formatAssigned _ _ ih =>
    have hchars : "format".toList.all Word.isNameChar = true := rfl
    exact makes_assigned hchars rfl rfl rfl rfl ih
  | @plain words _ hnext _ ih =>
    have hword : Word.ofText "--plain".toList = ⟨[], some ("plain".toList, .long)⟩ := rfl
    have htakes : ∀ next ∈ words.head?,
        NameForm.long.takes (Flag.expect Flag.ofExplain "plain".toList) next = false := by
      intro next hnext'
      rw [Option.mem_def.1 hnext'] at hnext
      have hexpect : Flag.expect Flag.ofExplain "plain".toList = ⟨true, .switch true⟩ := rfl
      rw [hexpect]
      simpa [NameForm.takes] using hnext
    rw [settings, Setting.read_bare (by decide) hword htakes]
    exact .cons (makes_flag rfl rfl rfl) ih

/-- Every choice gives something. -/
theorem Spells.isNothing_given (h : Spells words choices) :
    ∀ c ∈ choices, c.given.isNothing = false := by
  induction h with
  | nil => exact List.forall_mem_nil _
  | input hpath _ ih =>
    refine List.forall_mem_cons.2 ⟨?_, ih⟩
    rcases hpath with hpath | rfl
    · exact List.isEmpty_eq_false_iff.2 hpath.1
    · rfl
  | directory hpath _ ih =>
    exact List.forall_mem_cons.2 ⟨List.isEmpty_eq_false_iff.2 hpath.1, ih⟩
  | directoryAssigned hpath _ ih =>
    exact List.forall_mem_cons.2 ⟨List.isEmpty_eq_false_iff.2 hpath, ih⟩
  | format hname _ ih =>
    exact List.forall_mem_cons.2 ⟨List.isEmpty_eq_false_iff.2 hname.1, ih⟩
  | formatLetter hname _ ih =>
    exact List.forall_mem_cons.2 ⟨List.isEmpty_eq_false_iff.2 hname.1, ih⟩
  | formatAssigned hname _ ih =>
    exact List.forall_mem_cons.2 ⟨List.isEmpty_eq_false_iff.2 hname, ih⟩
  | plain _ _ ih =>
    exact List.forall_mem_cons.2 ⟨rfl, ih⟩

/-! ## From settings to the request -/

theorem valuesBy_of_makes {made : List Setting} {p : Text → Bool} {q : Choice → Bool}
    (hpq : ∀ c s, Makes c s → p s.name = q c) (h : List.Forall₂ Makes choices made) :
    Setting.valuesBy p made = (choices.filter q).map given := by
  induction h with
  | nil => rfl
  | @cons c s choices made hmakes _ ih =>
    rw [Setting.valuesBy] at ih ⊢
    rw [List.filter_cons, List.filter_cons, hpq c s hmakes]
    by_cases hq : q c = true
    · rw [if_pos hq, if_pos hq, List.map_cons, List.map_cons, ih, hmakes.value]
    · rw [if_neg hq, if_neg hq, ih]

theorem filter_eq_toList_find? {α β : Type} [BEq β] [LawfulBEq β] {f : α → β}
    {as : List α}
    (h : (as.map f).Nodup) (b : β) :
    as.filter (f · == b) = (as.find? (f · == b)).toList := by
  induction as with
  | nil => rfl
  | cons a as ih =>
    rw [List.map_cons, List.nodup_cons] at h
    rw [List.filter_cons, List.find?_cons]
    by_cases ha : (f a == b) = true
    · have hrest : as.filter (f · == b) = [] := by
        rw [List.filter_eq_nil_iff]
        intro x hx heq
        have hsame : f x = f a := (beq_iff_eq.1 heq).trans (beq_iff_eq.1 ha).symm
        exact h.1 (hsame ▸ List.mem_map_of_mem hx)
      rw [if_pos ha, hrest, ha]
      rfl
    · rw [if_neg ha, Bool.eq_false_iff.2 ha]
      exact ih h.2

theorem valuesBy_settings (h : Spells words choices) (honce : (choices.map Choice.flag?).Nodup)
    {p : Text → Bool} (flag? : Option Flag)
    (hp : ∀ c s, Makes c s → p s.name = (c.flag? == flag?)) :
    Setting.valuesBy p (settings words) = (chosen? choices flag?).toList := by
  rw [valuesBy_of_makes hp h.makes, filter_eq_toList_find? honce, chosen?]
  cases choices.find? (·.flag? == flag?) <;> rfl

theorem values_settings (h : Spells words choices) (honce : (choices.map Choice.flag?).Nodup)
    (flag : Flag) :
    (Settings.ofWords Flag.ofExplain words).values flag = (chosen? choices (some flag)).toList :=
  valuesBy_settings h honce (some flag) fun _ _ hmakes => congrArg (· == some flag) hmakes.flag

theorem operands_settings (h : Spells words choices) (honce : (choices.map Choice.flag?).Nodup) :
    Setting.operands (settings words) = (chosen? choices none).toList := by
  refine valuesBy_settings h honce none fun c s hmakes => ?_
  rw [Bool.eq_iff_iff, beq_iff_eq, beq_iff_eq]
  constructor
  · intro hname
    rw [← hmakes.flag, hname]
    rfl
  · exact hmakes.operand

theorem of_chosen? {flag? : Option Flag} {g : Given} (h : chosen? choices flag? = some g) :
    ∃ c ∈ choices, c.flag? = flag? ∧ c.given = g := by
  rw [chosen?, Option.map_eq_some_iff] at h
  obtain ⟨c, hfind, hgiven⟩ := h
  have hflag := List.find?_some hfind
  exact ⟨c, List.mem_of_find?_eq_some hfind, beq_iff_eq.1 hflag, hgiven⟩

theorem isNothing_chosen? (h : Spells words choices) {flag? : Option Flag} {g : Given}
    (hchosen : chosen? choices flag? = some g) : g.isNothing = false := by
  obtain ⟨c, hc, -, rfl⟩ := of_chosen? hchosen
  exact h.isNothing_given c hc

/-- The input, if one is given, is a text. -/
theorem chosen?_none_cases (h : Spells words choices) :
    chosen? choices none = none ∨ ∃ c t, chosen? choices none = some (.text (c :: t)) := by
  cases hchosen : chosen? choices none with
  | none => exact Or.inl rfl
  | some g =>
    have hsome := isNothing_chosen? h hchosen
    obtain ⟨choice, -, hflag, rfl⟩ := of_chosen? hchosen
    cases choice with
    | input path =>
      obtain ⟨c, t, rfl⟩ := List.exists_cons_of_ne_nil (List.isEmpty_eq_false_iff.1 hsome)
      exact Or.inr ⟨c, t, rfl⟩
    | directory path => cases hflag
    | format name => cases hflag
    | plain => cases hflag

/-- The switch, if it is given, is on. -/
theorem chosen?_plain_cases (choices : List Choice) :
    chosen? choices (some .plain) = none ∨
      chosen? choices (some .plain) = some (.switch true) := by
  cases hchosen : chosen? choices (some .plain) with
  | none => exact Or.inl rfl
  | some g =>
    obtain ⟨choice, -, hflag, rfl⟩ := of_chosen? hchosen
    cases choice with
    | input path => cases hflag
    | directory path => cases hflag
    | format name => cases hflag
    | plain => exact Or.inr rfl

theorem chosen?_version (choices : List Choice) : chosen? choices (some .version) = none := by
  cases hchosen : chosen? choices (some .version) with
  | none => rfl
  | some g =>
    obtain ⟨choice, -, hflag, rfl⟩ := of_chosen? hchosen
    cases choice <;> cases hflag

theorem input_settings (h : Spells words choices) (honce : (choices.map Choice.flag?).Nodup) :
    (Settings.ofWords Flag.ofExplain words).input = .ok (request choices).input := by
  have hoperands : Setting.operands (Settings.ofWords Flag.ofExplain words).made =
      (chosen? choices none).toList := operands_settings h honce
  rw [Settings.input, hoperands, request]
  rcases chosen?_none_cases h with hnone | ⟨c, t, hsome⟩
  · rw [hnone]
    rfl
  · rw [hsome]
    rfl

theorem unknownNames_settings (h : Spells words choices) :
    (Settings.ofWords Flag.ofExplain words).unknownNames = [] := by
  have hmakes : ∀ c s, Makes c s → (s.name != Setting.operandName &&
      (Flag.ofName? Flag.ofExplain s.name).isNone) = false := by
    intro c s hmakes
    rw [hmakes.flag]
    cases hflag : c.flag? with
    | none => simp [hmakes.operand hflag]
    | some flag => simp
  have hvalues := valuesBy_of_makes (q := fun _ => false)
    (p := fun name => name != Setting.operandName && (Flag.ofName? Flag.ofExplain name).isNone)
    hmakes h.makes
  rw [Setting.valuesBy, List.filter_false, List.map_nil, List.map_eq_nil_iff] at hvalues
  rw [Settings.unknownNames, List.filter_map, List.map_eq_nil_iff]
  exact hvalues

theorem flagMisuse?_settings (h : Spells words choices)
    (honce : (choices.map Choice.flag?).Nodup) :
    (Settings.ofWords Flag.ofExplain words).flagMisuse? = none := by
  rw [Settings.flagMisuse?, unknownNames_settings h]
  show Option.map _ (List.find? _ _) = none
  rw [Option.map_eq_none_iff, List.find?_eq_none]
  intro flag _
  rw [values_settings h honce]
  cases hchosen : chosen? choices (some flag) with
  | none => decide
  | some given => exact Bool.eq_false_iff.1 (isNothing_chosen? h hchosen)

theorem asksVersion_settings (h : Spells words choices)
    (honce : (choices.map Choice.flag?).Nodup) :
    (Settings.ofWords Flag.ofExplain words).asksVersion = false := by
  rw [Settings.asksVersion, values_settings h honce, chosen?_version]
  rfl

/-- **What a command is read as.**  Behind the command that explains, words that spell some choices,
each kind of them at most once, ask for the request with these choices and for nothing else. -/
theorem Spells.ofArguments (h : Spells words choices) (honce : (choices.map Choice.flag?).Nodup) :
    Invocation.ofArguments ("explain".toList :: words) =
      ⟨false, .ok (some (.explain (request choices)))⟩ := by
  have hdirectory : (Settings.ofWords Flag.ofExplain words).directory =
      (request choices).directory := by
    rw [Settings.directory, values_settings h honce, request]
    cases chosen? choices (some .cwd) <;> rfl
  have hformat : (Settings.ofWords Flag.ofExplain words).format = (request choices).format := by
    rw [Settings.format, values_settings h honce, request]
    cases chosen? choices (some .format) with
    | none => rfl
    | some given => simp
  have hplain : (Settings.ofWords Flag.ofExplain words).isOn .plain = (request choices).plain := by
    rw [Settings.isOn, values_settings h honce, request]
    rcases chosen?_plain_cases choices with hnone | hsome
    · rw [hnone]
      rfl
    · rw [hsome]
      rfl
  have hcommand : Command.ofExplain (Settings.ofWords Flag.ofExplain words) =
      .ok (.explain (request choices)) := by
    rw [Command.ofExplain, input_settings h honce, flagMisuse?_settings h honce]
    simp only
    rw [hdirectory, hformat, hplain]
  rw [Invocation.ofArguments, if_neg (by decide), if_pos rfl]
  simp only [Invocation.ofSettings, hcommand, asksVersion_settings h honce]
  rfl

/-- An empty word is no value, and no command is run. -/
example : (Settings.ofWords Flag.ofExplain ["--cwd".toList, []]).flagMisuse? =
    some (.emptyFlag .cwd) := by decide +kernel

end

end Choice

end DiagnosticHints
