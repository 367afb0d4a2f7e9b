import DiagnosticHints.Proofs.JsonReading

/-!
# Lines of JSON documents

A line feed stands between the parts of a document and never inside one, and no part but a text
holds a parenthesis. So no line of a document ends in a closing parenthesis, and a text with such
a line is none.
-/

namespace DiagnosticHints

namespace Json

/-! ## Parentheses at the ends of lines -/

/-- Whether a closing parenthesis stands at the end of a line of the text. -/
def parenthesisEndsLine : Text → Bool
  | [] => false
  | c :: t => (c == ')' && t.head?.getD '\n' == '\n') || parenthesisEndsLine t

theorem parenthesisEndsLine_cons {c : Char} {t : Text} (h : c ≠ ')' ∨ t.head?.getD '\n' ≠ '\n') :
    parenthesisEndsLine (c :: t) = parenthesisEndsLine t := by
  rw [parenthesisEndsLine]
  rcases h with h | h <;> simp [h]

theorem parenthesisEndsLine_append {a b : Text} (ha : parenthesisEndsLine a = false)
    (hb : parenthesisEndsLine b = false) : parenthesisEndsLine (a ++ b) = false := by
  induction a with
  | nil => exact hb
  | cons c a ih =>
    rw [parenthesisEndsLine, Bool.or_eq_false_iff] at ha
    rw [List.cons_append, parenthesisEndsLine_cons, ih ha.2]
    cases a with
    | nil => exact Or.inl (by simpa using ha.1)
    | cons d a => exact Decidable.not_or_of_imp (by simpa using ha.1)

theorem parenthesisEndsLine_of_mem (a b : Text) :
    parenthesisEndsLine (a ++ ')' :: '\n' :: b) = true := by
  induction a with
  | nil => rfl
  | cons c a ih => rw [List.cons_append, parenthesisEndsLine, ih, Bool.or_true]

/-! ## What the reader passes -/

/-- Reading goes from a text to a rest of it, past no closing parenthesis at the end of a line. -/
def Passes (t rest : Text) : Prop := ∃ used, used ++ rest = t ∧ parenthesisEndsLine used = false

namespace Passes

theorem refl (t : Text) : Passes t t := ⟨[], rfl, rfl⟩

theorem trans {t u rest : Text} (h : Passes t u) (h' : Passes u rest) : Passes t rest := by
  obtain ⟨first, rfl, hfirst⟩ := h
  obtain ⟨second, rfl, hsecond⟩ := h'
  exact ⟨first ++ second, by simp, parenthesisEndsLine_append hfirst hsecond⟩

theorem cons {c : Char} (hc : c ≠ ')') {t rest : Text} (h : Passes t rest) :
    Passes (c :: t) rest := by
  obtain ⟨used, rfl, hused⟩ := h
  exact ⟨c :: used, rfl, by rw [parenthesisEndsLine_cons (Or.inl hc), hused]⟩

theorem dropWhile {p : Char → Bool} (hp : p ')' = false) (t : Text) :
    Passes t (t.dropWhile p) := by
  induction t with
  | nil => exact refl []
  | cons c t ih =>
    rw [List.dropWhile_cons]
    by_cases hc : p c = true
    · rw [if_pos hc]
      exact ih.cons (fun h => by simp [h, hp] at hc)
    · rw [if_neg hc]
      exact refl _

theorem skip (t : Text) : Passes t (Json.skip t) := dropWhile rfl t

end Passes

theorem ne_lineFeed_of_ofHex? {a b c d x : Char} (h : ofHex? a b c d = some x) :
    a ≠ '\n' ∧ b ≠ '\n' ∧ c ≠ '\n' ∧ d ≠ '\n' := by
  have hnone : hexValue? '\n' = none := rfl
  simp only [ofHex?, Option.bind_eq_bind, Option.bind_eq_some_iff] at h
  obtain ⟨_, ha, _, hb, _, hc, _, hd, _⟩ := h
  refine ⟨?_, ?_, ?_, ?_⟩ <;> rintro rfl <;> simp_all

/-- A text between quotation marks stays in its line. -/
theorem exists_of_readText? {t s rest : Text} (h : readText? t = some (s, rest)) :
    ∃ body, body ++ '\x22' :: rest = t ∧ '\n' ∉ body := by
  fun_induction readText? t generalizing s rest with
  | case1 => cases h
  | case2 rest' =>
    cases h
    exact ⟨[], rfl, List.not_mem_nil⟩
  | case3 a b c d t ih =>
    simp only [Option.bind_eq_bind, Option.bind_eq_some_iff] at h
    obtain ⟨x, hx, ⟨s', rest'⟩, hread, hrest⟩ := h
    cases hrest
    obtain ⟨body, rfl, hbody⟩ := ih hread
    obtain ⟨ha, hb, hc, hd⟩ := ne_lineFeed_of_ofHex? hx
    exact ⟨'\\' :: 'u' :: a :: b :: c :: d :: body, rfl,
      by simp [hbody, ha.symm, hb.symm, hc.symm, hd.symm]⟩
  | case4 e t ht ih =>
    simp only [Option.bind_eq_bind, Option.bind_eq_some_iff] at h
    obtain ⟨x, hx, ⟨s', rest'⟩, hread, hrest⟩ := h
    cases hrest
    obtain ⟨body, rfl, hbody⟩ := ih hread
    have he : e ≠ '\n' := by
      rintro rfl
      cases hx
    exact ⟨'\\' :: e :: body, rfl, by simp [hbody, he.symm]⟩
  | case5 => cases h
  | case6 c t hquote _ _ hplain ih =>
    simp only [Option.bind_eq_bind, Option.bind_eq_some_iff] at h
    obtain ⟨⟨s', rest'⟩, hread, hrest⟩ := h
    cases hrest
    obtain ⟨body, rfl, hbody⟩ := ih hread
    have hc : c ≠ '\n' := by
      rintro rfl
      exact hplain (Or.inr (by decide))
    exact ⟨c :: body, rfl, by simp [hbody, hc.symm]⟩

theorem parenthesisEndsLine_quote {body : Text} (h : '\n' ∉ body) :
    parenthesisEndsLine (body ++ ['\x22']) = false := by
  induction body with
  | nil => rfl
  | cons c body ih =>
    rw [List.mem_cons, not_or] at h
    rw [List.cons_append, parenthesisEndsLine_cons, ih h.2]
    cases body with
    | nil => exact Or.inr (by decide)
    | cons d body =>
      refine Or.inr fun hd => h.2 ?_
      rw [List.cons_append, List.head?_cons, Option.getD_some] at hd
      rw [hd]
      exact List.mem_cons_self

namespace Passes

theorem readText? {t s rest : Text} (h : Json.readText? t = some (s, rest)) :
    Passes t rest := by
  obtain ⟨body, rfl, hbody⟩ := exists_of_readText? h
  exact ⟨body ++ ['\x22'], by simp, parenthesisEndsLine_quote hbody⟩

theorem readNat? {t rest : Text} {n : Nat} (h : Json.readNat? t = some (n, rest)) :
    Passes t rest := by
  unfold Json.readNat? at h
  dsimp only at h
  split at h
  · cases h
  · cases h
    exact dropWhile rfl t

theorem readAtom? {t rest : Text} {v : Json} (h : Json.readAtom? t = some (v, rest)) :
    Passes t rest := by
  fun_cases Json.readAtom? t with
  | case1 rest' =>
    cases h
    exact ⟨['n', 'u', 'l', 'l'], rfl, rfl⟩
  | case2 t' =>
    obtain ⟨⟨n, rest'⟩, hn, hrest⟩ := Option.map_eq_some_iff.1 h
    cases hrest
    exact (readNat? hn).cons (by decide)
  | case3 hnull hminus =>
    rw [Json.readAtom?] at h
    · obtain ⟨⟨n, rest'⟩, hn, hrest⟩ := Option.map_eq_some_iff.1 h
      cases hrest
      exact readNat? hn
    all_goals assumption

mutual

theorem readValue? : ∀ {steps : Nat} {t rest : Text} {v : Json},
    Json.readValue? steps t = some (v, rest) → Passes t rest
  | 0, _, _, _, h => nomatch h
  | steps + 1, t, rest, v, h => by
    unfold Json.readValue? at h
    split at h
    · next t =>
      obtain ⟨⟨s, rest'⟩, hs, hrest⟩ := Option.map_eq_some_iff.1 h
      cases hrest
      exact (readText? hs).cons (by decide)
    · next t =>
      refine cons (by decide) ((skip t).trans ?_)
      split at h
      · next rest' heq =>
        cases h
        rw [heq]
        exact (refl _).cons (by decide)
      · simp only [Option.bind_eq_bind, Option.bind_eq_some_iff] at h
        obtain ⟨⟨item, u⟩, hitem, ⟨items, rest'⟩, hitems, hrest⟩ := h
        cases hrest
        exact (readValue? hitem).trans (readItems? hitems)
    · next t =>
      refine cons (by decide) ((skip t).trans ?_)
      split at h
      · next rest' heq =>
        cases h
        rw [heq]
        exact (refl _).cons (by decide)
      · simp only [Option.bind_eq_bind, Option.bind_eq_some_iff] at h
        obtain ⟨⟨member, u⟩, hmember, ⟨members, rest'⟩, hmembers, hrest⟩ := h
        cases hrest
        exact (readMember? hmember).trans (readMembers? hmembers)
    · exact readAtom? h

theorem readItems? : ∀ {steps : Nat} {t rest : Text} {items : List Json},
    Json.readItems? steps t = some (items, rest) → Passes t rest
  | 0, _, _, _, h => nomatch h
  | steps + 1, t, rest, items, h => by
    unfold Json.readItems? at h
    refine (skip t).trans ?_
    split at h
    · next rest' heq =>
      cases h
      rw [heq]
      exact (refl _).cons (by decide)
    · next t' heq =>
      simp only [Option.bind_eq_bind, Option.bind_eq_some_iff] at h
      obtain ⟨⟨item, u⟩, hitem, ⟨items', rest'⟩, hitems, hrest⟩ := h
      cases hrest
      rw [heq]
      exact (((skip t').trans (readValue? hitem)).trans (readItems? hitems)).cons (by decide)
    · cases h

theorem readMember? : ∀ {steps : Nat} {t rest : Text} {member : Text × Json},
    Json.readMember? steps t = some (member, rest) → Passes t rest
  | 0, _, _, _, h => nomatch h
  | steps + 1, t, rest, member, h => by
    unfold Json.readMember? at h
    split at h
    · next t =>
      simp only [Option.bind_eq_bind, Option.bind_eq_some_iff] at h
      obtain ⟨⟨key, u⟩, hkey, h⟩ := h
      refine cons (by decide) ((readText? hkey).trans ((skip u).trans ?_))
      split at h
      · next t' heq =>
        simp only [Option.bind_eq_some_iff] at h
        obtain ⟨⟨value, rest'⟩, hvalue, hrest⟩ := h
        cases hrest
        rw [heq]
        exact ((skip t').trans (readValue? hvalue)).cons (by decide)
      · cases h
    · cases h

theorem readMembers? : ∀ {steps : Nat} {t rest : Text} {members : List (Text × Json)},
    Json.readMembers? steps t = some (members, rest) → Passes t rest
  | 0, _, _, _, h => nomatch h
  | steps + 1, t, rest, members, h => by
    unfold Json.readMembers? at h
    refine (skip t).trans ?_
    split at h
    · next rest' heq =>
      cases h
      rw [heq]
      exact (refl _).cons (by decide)
    · next t' heq =>
      simp only [Option.bind_eq_bind, Option.bind_eq_some_iff] at h
      obtain ⟨⟨member, u⟩, hmember, ⟨members', rest'⟩, hmembers, hrest⟩ := h
      cases hrest
      rw [heq]
      exact (((skip t').trans (readMember? hmember)).trans (readMembers? hmembers)).cons (by decide)
    · cases h

end

end Passes

/-- A text in which a line ends in a closing parenthesis is no document. -/
theorem read?_parenthesis (before after : Text) :
    read? (before ++ ')' :: '\n' :: after) = none := by
  cases hread : read? (before ++ ')' :: '\n' :: after) with
  | none => rfl
  | some v =>
    rw [read?] at hread
    split at hread
    · next v' rest hvalue =>
      by_cases hrest : Json.skip rest = []
      · have hpasses := (((Passes.skip _).trans (Passes.readValue? hvalue)).trans (Passes.skip _))
        rw [hrest] at hpasses
        obtain ⟨used, hused, hends⟩ := hpasses
        rw [List.append_nil] at hused
        rw [hused, parenthesisEndsLine_of_mem] at hends
        cases hends
      · rw [if_neg hrest] at hread
        cases hread
    · cases hread

end Json

end DiagnosticHints
