import Mathlib.Data.List.Chain
import DiagnosticHints.Proofs.TokenPlaces

/-!
# The passes that find the groups of a text

The groups of a text are found in a loop over the table of line starts. A pass tries some lines; if
their group is open while lines are left behind it, the pass is given up and the next one tries
twice as many from the same line on. Any other group is accepted, and the next pass starts behind
it with the size that was asked for. The loop makes no more passes than the text has lines, and the
accepted groups are the text cut at some of its line starts.
-/

namespace DiagnosticHints

namespace Source

/-- One pass of the loop: `size` lines are tried, from the one with the index `first` on. -/
structure Pass where
  first : Nat
  size : GroupSize

namespace Pass

section

variable (t : Text) (pass : Pass)

/-- The index behind the lines of a pass, which end at the latest with the lines of the text. -/
def last : Nat := min (pass.first + pass.size.lines) (Text.lines t).length

/-- The lines of a pass. -/
def lines : List Text := (Text.lines t).extract pass.first (pass.last t)

/-- The group of a pass. -/
def group : Group := Group.ofLines (pass.lines t)

/-- A pass is given up when lines are left behind it and its group may end inside a construct. -/
def GivenUp : Prop := pass.last t < (Text.lines t).length ∧ (pass.group t).isOpen = true

instance : Decidable (pass.GivenUp t) := inferInstanceAs (Decidable (_ ∧ _))

/-- The pass that tries twice as many lines. -/
def enlarged : Pass := ⟨pass.first, pass.size.double⟩

/-- The pass that tries the lines behind those of this one. -/
def behind (base : GroupSize) : Pass := ⟨pass.last t, base⟩

end

end Pass

/-- All passes of the loop from one on: it ends where the text has no line. -/
inductive Passes (t : Text) (base : GroupSize) : Pass → List Pass → Prop
  | done {pass : Pass} : (Text.lines t).length ≤ pass.first → Passes t base pass []
  | retry {pass : Pass} {rest : List Pass} : pass.first < (Text.lines t).length →
      pass.GivenUp t → Passes t base pass.enlarged rest → Passes t base pass (pass :: rest)
  | accept {pass : Pass} {rest : List Pass} : pass.first < (Text.lines t).length →
      ¬ pass.GivenUp t → Passes t base (pass.behind t base) rest →
      Passes t base pass (pass :: rest)

/-- The passes whose groups are accepted. -/
def accepted (t : Text) (passes : List Pass) : List Pass :=
  passes.filter fun pass => !decide (pass.GivenUp t)

variable {t : Text} {base : GroupSize} {pass : Pass} {passes rest : List Pass}

theorem accepted_of_givenUp (h : pass.GivenUp t) :
    accepted t (pass :: rest) = accepted t rest := by
  simp [accepted, h]

theorem accepted_of_not_givenUp (h : ¬ pass.GivenUp t) :
    accepted t (pass :: rest) = pass :: accepted t rest := by
  simp [accepted, h]

theorem mem_accepted : pass ∈ accepted t passes ↔ pass ∈ passes ∧ ¬ pass.GivenUp t := by
  simp [accepted]

namespace Pass

/-! ## One pass -/

theorem last_le (t : Text) (pass : Pass) : pass.last t ≤ (Text.lines t).length :=
  Nat.min_le_right _ _

/-- A pass takes at least one line. -/
theorem first_lt_last (h : pass.first < (Text.lines t).length) : pass.first < pass.last t := by
  have hpos := pass.size.pos
  rw [last]
  omega

/-- A pass that is given up leaves lines to take in addition. -/
theorem last_lt_enlarged (h : pass.GivenUp t) : pass.last t < pass.enlarged.last t := by
  have hpos := pass.size.pos
  have hlast := h.1
  show min (pass.first + pass.size.lines) _ < min (pass.first + 2 * pass.size.lines) _
  rw [last] at hlast
  omega

/-- The lines of a pass are as many as it tries, or all that are left. -/
theorem lines_eq_take (t : Text) (pass : Pass) :
    pass.lines t = ((Text.lines t).drop pass.first).take pass.size.lines := by
  rw [lines, List.extract_eq_take_drop, List.take_eq_take_iff, List.length_drop, last]
  omega

/-- A pass and the lines behind it. -/
theorem lines_append_drop (h : pass.first < (Text.lines t).length) :
    pass.lines t ++ (Text.lines t).drop (pass.last t) = (Text.lines t).drop pass.first := by
  have hlt := first_lt_last h
  have hdrop : (Text.lines t).drop (pass.last t) =
      ((Text.lines t).drop pass.first).drop (pass.last t - pass.first) := by
    rw [List.drop_drop, Nat.add_sub_cancel' hlt.le]
  rw [lines, List.extract_eq_take_drop, hdrop, List.take_append_drop]

/-- The lines in front of a pass and those of the pass. -/
theorem take_append_lines (h : pass.first < (Text.lines t).length) :
    (Text.lines t).take pass.first ++ pass.lines t = (Text.lines t).take (pass.last t) := by
  rw [lines, List.extract_eq_take_drop, ← List.take_add,
    Nat.add_sub_cancel' (first_lt_last h).le]

theorem lines_ne_nil (h : pass.first < (Text.lines t).length) : pass.lines t ≠ [] := by
  have hlt := first_lt_last h
  have hle := last_le t pass
  rw [← List.length_pos_iff, lines, List.extract_eq_take_drop, List.length_take, List.length_drop]
  omega

/-! ## The text of a pass -/

/-- The lines in front of the last one end with a line feed, and so does a pass that takes only
such lines. -/
theorem getLast?_text (h : pass.first < (Text.lines t).length)
    (hlast : pass.last t < (Text.lines t).length) :
    (pass.group t).text.getLast? = some '\n' := by
  have hfeed : ∀ line ∈ pass.lines t, line.getLast? = some '\n' := fun line hline => by
    rw [lines, List.extract_eq_take_drop, ← List.drop_take] at hline
    have htake := List.mem_of_mem_drop hline
    exact Text.wholeLines_lines t line (Text.mem_dropLast_of_mem_take htake hlast)
  obtain ⟨body, line, hlines⟩ := (List.eq_nil_or_concat _).resolve_left (lines_ne_nil h)
  have hline := hfeed line (by rw [hlines]; simp)
  show (pass.lines t).flatten.getLast? = some '\n'
  rw [hlines, List.concat_eq_append, List.flatten_append, List.flatten_singleton,
    List.getLast?_append, hline, Option.some_or]

/-- The text of a pass is what stands between the starts of two lines. -/
theorem codeUnits_text (h : pass.first < (Text.lines t).length) :
    Text.codeUnits (pass.group t).text = (Text.codeUnits t).extract
      (Text.lineStart t pass.first) (Text.lineStart t (pass.last t)) := by
  have hstands : Text.StandsAt t (Text.lineStart t pass.first) (pass.group t).text
      ((Text.lines t).drop (pass.last t)).flatten := by
    refine ⟨((Text.lines t).take pass.first).flatten, ?_, rfl⟩
    show _ ++ ((pass.lines t).flatten ++ _) = t
    rw [← List.flatten_append, lines_append_drop h, ← List.flatten_append,
      List.take_append_drop, Text.flatten_lines]
  have hstop : Text.lineStart t pass.first + Text.units (pass.group t).text =
      Text.lineStart t (pass.last t) := by
    rw [Text.lineStart, Text.lineStart, ← take_append_lines h, List.flatten_append,
      Text.units_append]
    rfl
  rw [← hstop, hstands.extract_codeUnits]

/-! ## The step of the search for groups -/

theorem givenUp_iff (h : pass.first < (Text.lines t).length) : pass.GivenUp t ↔
    pass.size.lines < ((Text.lines t).drop pass.first).length ∧
      (Group.ofLines (((Text.lines t).drop pass.first).take pass.size.lines)).isOpen = true := by
  have hlast : pass.last t < (Text.lines t).length ↔
      pass.size.lines < ((Text.lines t).drop pass.first).length := by
    rw [List.length_drop, last]
    omega
  rw [GivenUp, group, lines_eq_take, hlast]

/-- A group that is given up is looked for again, in the same lines. -/
theorem groupsFrom_of_givenUp (h : pass.first < (Text.lines t).length) (hgiven : pass.GivenUp t) :
    groupsFrom base pass.size ((Text.lines t).drop pass.first) =
      groupsFrom base pass.enlarged.size ((Text.lines t).drop pass.enlarged.first) := by
  have hne : (Text.lines t).drop pass.first ≠ [] := by
    rw [Ne, List.drop_eq_nil_iff]
    omega
  rw [groupsFrom, if_neg (mt List.isEmpty_iff.1 hne)]
  exact if_pos ((givenUp_iff h).1 hgiven)

/-- An accepted group stands in front of the groups of the lines behind it. -/
theorem groupsFrom_of_not_givenUp (h : pass.first < (Text.lines t).length)
    (hgiven : ¬ pass.GivenUp t) :
    groupsFrom base pass.size ((Text.lines t).drop pass.first) =
      pass.group t :: groupsFrom base base ((Text.lines t).drop (pass.behind t base).first) := by
  have hne : (Text.lines t).drop pass.first ≠ [] := by
    rw [Ne, List.drop_eq_nil_iff]
    omega
  have hbehind : (Text.lines t).drop (pass.behind t base).first =
      ((Text.lines t).drop pass.first).drop pass.size.lines := by
    show (Text.lines t).drop (pass.last t) = _
    rw [List.drop_drop, List.drop_eq_drop_iff, last]
    omega
  rw [groupsFrom, if_neg (mt List.isEmpty_iff.1 hne), group, lines_eq_take, hbehind]
  exact if_neg (mt (givenUp_iff h).2 hgiven)

end Pass

/-! ## All passes -/

namespace Passes

theorem unique {passes' : List Pass} (h : Passes t base pass passes)
    (h' : Passes t base pass passes') : passes' = passes := by
  induction h generalizing passes' with
  | done hend =>
    cases h' with
    | done => rfl
    | retry hline => omega
    | accept hline => omega
  | retry hline hgiven _ ih =>
    cases h' with
    | done hend => omega
    | retry _ _ h' => rw [ih h']
    | accept _ haccept => exact absurd hgiven haccept
  | accept hline haccept _ ih =>
    cases h' with
    | done hend => omega
    | retry _ hgiven => exact absurd hgiven haccept
    | accept _ _ h' => rw [ih h']

/-- The loop ends. It has a budget of one pass for each line: a pass that is given up is paid by a
line that the next one takes in addition, since a size is larger than the number of its
doublings. -/
theorem exists_of_budget (t : Text) (base : GroupSize) (budget doublings : Nat) (pass : Pass)
    (hsize : doublings < pass.size.lines)
    (hlines : doublings = 0 ∨ pass.first + doublings < (Text.lines t).length)
    (hbudget : (Text.lines t).length ≤ pass.first + doublings + budget) :
    ∃ passes, Passes t base pass passes ∧ passes.length ≤ budget := by
  induction budget generalizing doublings pass with
  | zero => exact ⟨[], .done (by omega), Nat.le_refl 0⟩
  | succ budget ih =>
    by_cases hline : pass.first < (Text.lines t).length
    · by_cases hgiven : pass.GivenUp t
      · have hlast := hgiven.1
        rw [Pass.last] at hlast
        have hdouble : doublings + 1 < pass.enlarged.size.lines := by
          show doublings + 1 < 2 * pass.size.lines
          omega
        have hleft : pass.enlarged.first + (doublings + 1) < (Text.lines t).length := by
          show pass.first + (doublings + 1) < (Text.lines t).length
          omega
        have hrest : (Text.lines t).length ≤ pass.enlarged.first + (doublings + 1) + budget := by
          show (Text.lines t).length ≤ pass.first + (doublings + 1) + budget
          omega
        obtain ⟨rest, hpasses, hlength⟩ := ih (doublings + 1) _ hdouble (Or.inr hleft) hrest
        exact ⟨pass :: rest, .retry hline hgiven hpasses, Nat.succ_le_succ hlength⟩
      · have hrest : (Text.lines t).length ≤ (pass.behind t base).first + 0 + budget := by
          show (Text.lines t).length ≤ pass.last t + 0 + budget
          rw [Pass.last]
          omega
        obtain ⟨rest, hpasses, hlength⟩ := ih 0 _ base.pos (Or.inl rfl) hrest
        exact ⟨pass :: rest, .accept hline hgiven hpasses, Nat.succ_le_succ hlength⟩
    · exact ⟨[], .done (not_lt.1 hline), Nat.zero_le _⟩

/-- The groups that are found from a pass on are those that the passes accept. -/
theorem groupsFrom_eq (h : Passes t base pass passes) :
    groupsFrom base pass.size ((Text.lines t).drop pass.first) =
      (accepted t passes).map (Pass.group t) := by
  induction h with
  | done hend =>
    rw [List.drop_eq_nil_of_le hend, groupsFrom]
    rfl
  | retry hline hgiven _ ih =>
    rw [accepted_of_givenUp hgiven, Pass.groupsFrom_of_givenUp hline hgiven, ih]
  | accept hline hgiven _ ih =>
    rw [accepted_of_not_givenUp hgiven, Pass.groupsFrom_of_not_givenUp hline hgiven, List.map_cons,
      ← ih]
    rfl

/-- The accepted passes take each line from the first pass on once, in order. -/
theorem flatten_lines (h : Passes t base pass passes) :
    ((accepted t passes).map (Pass.lines t)).flatten = (Text.lines t).drop pass.first := by
  induction h with
  | done hend =>
    rw [List.drop_eq_nil_of_le hend]
    rfl
  | retry _ hgiven _ ih =>
    rw [accepted_of_givenUp hgiven, ih, Pass.enlarged]
  | accept hline hgiven _ ih =>
    rw [accepted_of_not_givenUp hgiven, List.map_cons, List.flatten_cons, ih, Pass.behind,
      Pass.lines_append_drop hline]

/-- No pass starts in front of the first one, or behind the lines of the text. -/
theorem first_bounds (h : Passes t base pass passes) {later : Pass} (hlater : later ∈ passes) :
    pass.first ≤ later.first ∧ later.first < (Text.lines t).length := by
  induction h with
  | done => cases hlater
  | retry hline _ _ ih =>
    rcases List.mem_cons.1 hlater with rfl | hlater
    · exact ⟨Nat.le_refl _, hline⟩
    · exact ih hlater
  | accept hline _ _ ih =>
    rcases List.mem_cons.1 hlater with rfl | hlater
    · exact ⟨Nat.le_refl _, hline⟩
    · obtain ⟨hfirst, hlt⟩ := ih hlater
      exact ⟨(Pass.first_lt_last hline).le.trans hfirst, hlt⟩

/-- Only the last accepted pass takes the last line. -/
theorem last_lt_of_mem_dropLast (h : Passes t base pass passes) {early : Pass}
    (hearly : early ∈ (accepted t passes).dropLast) :
    early.last t < (Text.lines t).length := by
  induction h with
  | done => cases hearly
  | retry _ hgiven _ ih =>
    rw [accepted_of_givenUp hgiven] at hearly
    exact ih hearly
  | @accept pass rest _ hgiven hrest ih =>
    rw [accepted_of_not_givenUp hgiven] at hearly
    cases hlater : accepted t rest with
    | nil =>
      rw [hlater] at hearly
      cases hearly
    | cons later passes =>
      rw [hlater, List.dropLast_cons_cons, ← hlater] at hearly
      rcases List.mem_cons.1 hearly with rfl | hearly
      · -- a pass behind this one starts at a line of the text
        have hmem : later ∈ accepted t rest := by
          rw [hlater]
          exact List.mem_cons_self
        obtain ⟨hfirst, hlt⟩ := hrest.first_bounds (mem_accepted.1 hmem).1
        exact Nat.lt_of_le_of_lt hfirst hlt
      · exact ih hearly

/-- Each accepted group but the last one ends with a line feed and leaves nothing open. -/
theorem closed_of_mem_dropLast (h : Passes t base pass passes) {group : Group}
    (hgroup : group ∈ ((accepted t passes).map (Pass.group t)).dropLast) :
    group.text.getLast? = some '\n' ∧ group.isOpen = false := by
  rw [← List.map_dropLast] at hgroup
  obtain ⟨early, hearly, rfl⟩ := List.mem_map.1 hgroup
  obtain ⟨hmem, hgiven⟩ := mem_accepted.1 (List.mem_of_mem_dropLast hearly)
  have hlast := h.last_lt_of_mem_dropLast hearly
  refine ⟨Pass.getLast?_text (h.first_bounds hmem).2 hlast, ?_⟩
  exact Bool.eq_false_iff.2 fun hopen => hgiven ⟨hlast, hopen⟩

theorem eq_of_mem_head? (h : Passes t base pass passes) {first : Pass}
    (hfirst : first ∈ passes.head?) : first = pass := by
  cases h with
  | done => cases hfirst
  | retry => exact (Option.some.inj hfirst).symm
  | accept => exact (Option.some.inj hfirst).symm

/-- A pass that is given up is followed by the enlarged one, and any other one by the one behind
it. -/
theorem isChain (h : Passes t base pass passes) :
    passes.IsChain fun a b =>
      (a.GivenUp t → b = a.enlarged) ∧ (¬ a.GivenUp t → b = a.behind t base) := by
  induction h with
  | done => exact .nil
  | retry _ hgiven hrest ih =>
    refine List.isChain_cons.2 ⟨fun first hfirst => ?_, ih⟩
    exact ⟨fun _ => hrest.eq_of_mem_head? hfirst, fun haccept => absurd hgiven haccept⟩
  | accept _ hgiven hrest ih =>
    refine List.isChain_cons.2 ⟨fun first hfirst => ?_, ih⟩
    exact ⟨fun hretry => absurd hretry hgiven, fun _ => hrest.eq_of_mem_head? hfirst⟩

/-- The last pass is not given up. -/
theorem not_givenUp_of_mem_getLast? (h : Passes t base pass passes) {final : Pass}
    (hfinal : final ∈ passes.getLast?) : ¬ final.GivenUp t := by
  induction h with
  | done => cases hfinal
  | @retry pass rest hline _ hrest ih =>
    -- the enlarged pass starts at the same line, so the loop does not end there
    cases hrest with
    | done hend => exact absurd hline (not_lt.2 hend)
    | retry => exact ih hfinal
    | accept => exact ih hfinal
  | @accept pass rest _ hgiven _ ih =>
    cases rest with
    | nil =>
      have heq : pass = final := Option.some.inj hfinal
      rwa [← heq]
    | cons => exact ih hfinal

end Passes

/-! ## The groups of a text -/

/-- Lines that are open behind each one but the last are a single group. -/
theorem groupsFrom_of_isOpen {lines : List Text} (hne : lines ≠ [])
    (hopen : ∀ count, 0 < count → count < lines.length →
      (Group.ofLines (lines.take count)).isOpen = true) (size : GroupSize) :
    groupsFrom base size lines = [Group.ofLines lines] := by
  induction size, lines using groupsFrom.induct base with
  | case1 size lines hnil => exact absurd (List.isEmpty_iff.1 hnil) hne
  | case2 size lines hnil group hretry ih =>
    rw [groupsFrom, if_neg hnil, if_pos hretry]
    exact ih hne hopen
  | case3 size lines hnil group haccept _ =>
    have hall : lines.length ≤ size.lines := not_lt.1 fun hlt =>
      haccept ⟨hlt, hopen size.lines size.pos hlt⟩
    rw [groupsFrom, if_neg hnil, if_neg haccept, List.drop_eq_nil_of_le hall, groupsFrom]
    show [Group.ofLines (lines.take size.lines)] = _
    rw [List.take_of_length_le hall]

/-- What the loop over the groups of a text comes to: its passes and the groups that are found. -/
structure Grouping (t : Text) (base : GroupSize) (passes : List Pass) (found : List Group) :
    Prop where
  /-- The loop ends, with these passes and no other ones. -/
  ends : Passes t base ⟨0, base⟩ passes
  only : ∀ passes', Passes t base ⟨0, base⟩ passes' → passes' = passes
  /-- It makes no more passes than there are lines. -/
  length_le : passes.length ≤ (Text.lines t).length
  /-- A pass takes at least one line, and its text stands between two entries of the table of line
  starts, where the end of the text counts as one entry more. -/
  between : ∀ pass ∈ passes, pass.first < pass.last t ∧
    Text.codeUnits (pass.group t).text = (Text.codeUnits t).extract
      ((lineOffsets t).getD pass.first (Text.units t))
      ((lineOffsets t).getD (pass.last t) (Text.units t))
  /-- The groups found are those of the passes that are not given up. -/
  found_eq : found = (accepted t passes).map (Pass.group t)
  /-- Put together they are the lines of the text, each one once and in order, and so the text. -/
  lines_eq : ((accepted t passes).map (Pass.lines t)).flatten = Text.lines t
  text_eq : (found.map Group.text).flatten = t
  /-- Each group but the last one ends with a line feed and leaves nothing open. -/
  closed : ∀ group ∈ found.dropLast, group.text.getLast? = some '\n' ∧ group.isOpen = false
  /-- A pass that is given up is followed by a larger one from the same line on. -/
  enlarged : passes.IsChain fun a b => a.GivenUp t → b.first = a.first ∧ a.last t < b.last t
  /-- A pass that is closed or reaches the last line is followed by the lines behind it. -/
  advanced : passes.IsChain fun a b => ¬ a.GivenUp t → b.first = a.last t
  settled : ∀ pass ∈ passes.getLast?, ¬ pass.GivenUp t
  /-- A text that is open at the end of each line but the last one is a single group. -/
  unclosed : (∀ count, 0 < count → count < (Text.lines t).length →
    (Group.ofLines ((Text.lines t).take count)).isOpen = true) →
    found = [Group.ofLines (Text.lines t)]

/-- **The loop over the groups ends, and its groups are the text.**  With every size of groups the
loop comes to its end after no more passes than there are lines; the groups that it accepts take
whole lines, all of them and in order, and every one but the last is closed; a pass that is given up
is enlarged from the same line on until it is closed or takes the last line. -/
theorem exists_grouping_groups (t : Text) (base : GroupSize) :
    ∃ passes, Grouping t base passes (groups base t) := by
  obtain ⟨passes, hends, hlength⟩ := Passes.exists_of_budget t base (Text.lines t).length 0
    ⟨0, base⟩ base.pos (Or.inl rfl) (Nat.le_add_left _ _)
  have hfound : groups base t = (accepted t passes).map (Pass.group t) := hends.groupsFrom_eq
  have hlines : ((accepted t passes).map (Pass.lines t)).flatten = Text.lines t :=
    hends.flatten_lines
  refine ⟨passes, ?_⟩
  constructor
  case ends => exact hends
  case only => exact fun _ => hends.unique
  case length_le => exact hlength
  case between =>
    intro pass hpass
    have hline := (hends.first_bounds hpass).2
    refine ⟨Pass.first_lt_last hline, ?_⟩
    rw [Pass.codeUnits_text hline, getD_lineOffsets_units hline.le,
      getD_lineOffsets_units (Pass.last_le t pass)]
  case found_eq => exact hfound
  case lines_eq => exact hlines
  case text_eq =>
    have hflatten := congrArg List.flatten hlines
    rw [List.flatten_flatten, List.map_map, Text.flatten_lines] at hflatten
    rw [hfound, List.map_map]
    exact hflatten
  case closed =>
    intro group hgroup
    rw [hfound] at hgroup
    exact hends.closed_of_mem_dropLast hgroup
  case enlarged =>
    refine hends.isChain.imp fun a b hnext hgiven => ?_
    rw [hnext.1 hgiven]
    exact ⟨rfl, Pass.last_lt_enlarged hgiven⟩
  case advanced =>
    refine hends.isChain.imp fun a b hnext hgiven => ?_
    rw [hnext.2 hgiven, Pass.behind]
  case settled => exact fun _ => hends.not_givenUp_of_mem_getLast?
  case unclosed => exact fun hopen => groupsFrom_of_isOpen (Text.lines_ne_nil t) hopen base

end Source

end DiagnosticHints
