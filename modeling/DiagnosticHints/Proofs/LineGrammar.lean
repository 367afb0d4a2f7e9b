import DiagnosticHints.Diagnostic.Line
import DiagnosticHints.Proofs.Occurrences
import Mathlib.Algebra.Group.Nat.Defs

/-!
# The grammar of diagnostic lines

The lines that are read as diagnostics, described by their parts and not by the reading: a line is
read exactly when it is put together from well-formed parts, and then it is read as these parts.
The reading splits five times at marks that overlap, and what follows the first mark may hold all
of them again; the proofs show that no earlier occurrence of a mark can be mistaken for the one
that was meant.
-/

namespace DiagnosticHints

/-- The texts between the marks of a line `file(row,column): error code: message`. -/
structure LineParts where
  file : Text
  row : Text
  column : Text
  code : Text
  message : Text
  deriving DecidableEq, Repr

namespace LineParts

/-- The line that is put together from the parts. -/
def text (p : LineParts) : Text :=
  p.file ++ "(".toList ++ p.row ++ ",".toList ++ p.column ++ "): error ".toList ++ p.code ++
    ": ".toList ++ p.message

/-- A text of ASCII digits, of any length, whose value is at most 2^53 - 1. -/
structure IsCoordinate (t : Text) : Prop where
  ne_nil : t ≠ []
  digits : ∀ c ∈ t, c.isDigit = true
  value_le : Nat.ofDigitChars 10 t 0 ≤ 2 ^ 53 - 1

/-- Parts that do not hold the mark behind them. The message is any text. -/
structure WellFormed (p : LineParts) : Prop where
  file : '(' ∉ p.file
  row : IsCoordinate p.row
  column : IsCoordinate p.column
  code : ¬ ": ".toList <:+: p.code

/-- The diagnostic that the parts stand for. -/
def diagnostic (p : LineParts) : Diagnostic where
  file := p.file
  line := Nat.ofDigitChars 10 p.row 0
  column := Nat.ofDigitChars 10 p.column 0
  kind := .ofCode p.code
  message := p.message

/-! ## Coordinates -/

theorem coordinate?_eq_some_iff {t : Text} {n : Nat} :
    Diagnostic.coordinate? t = some n ↔ IsCoordinate t ∧ n = Nat.ofDigitChars 10 t 0 := by
  have hdigits : Text.isDigits t = true ↔ t ≠ [] ∧ ∀ c ∈ t, c.isDigit = true := by
    simp [Text.isDigits]
  rw [Diagnostic.coordinate?, Text.toNat?, Option.filter_eq_some_iff]
  constructor
  · rintro ⟨h, hle⟩
    split at h
    · next hd =>
      obtain ⟨hne, hall⟩ := hdigits.1 hd
      rw [Option.some.injEq] at h
      subst h
      exact ⟨⟨hne, hall, of_decide_eq_true hle⟩, rfl⟩
    · cases h
  · rintro ⟨⟨hne, hall, hle⟩, rfl⟩
    rw [if_pos (hdigits.2 ⟨hne, hall⟩)]
    exact ⟨rfl, decide_eq_true hle⟩

theorem IsCoordinate.coordinate? {t : Text} (h : IsCoordinate t) :
    Diagnostic.coordinate? t = some (Nat.ofDigitChars 10 t 0) :=
  coordinate?_eq_some_iff.2 ⟨h, rfl⟩

theorem IsCoordinate.not_mem {t : Text} (h : IsCoordinate t) {c : Char}
    (hc : c.isDigit = false) : c ∉ t := fun hmem => by
  rw [h.digits c hmem] at hc
  cases hc

theorem ofDigitChars_ofNat (n : Nat) : Nat.ofDigitChars 10 (Text.ofNat n) 0 = n := by
  rw [Text.ofNat, Nat.ofDigitChars_toDigits (by omega) (by omega)]

/-- The digits of a number that is not too great can be read as a coordinate. -/
theorem isCoordinate_ofNat {n : Nat} (h : n ≤ 2 ^ 53 - 1) : IsCoordinate (Text.ofNat n) where
  ne_nil := Nat.toDigits_ne_nil
  digits _ hc := Text.isDigit_of_mem_ofNat hc
  value_le := by rwa [ofDigitChars_ofNat]

/-! ## The four splits -/

/-- What stands between the parentheses. -/
def place (p : LineParts) : Text := p.row ++ ',' :: p.column

/-- What stands behind the place and its mark. -/
def detail (p : LineParts) : Text := p.code ++ (Diagnostic.messageMark ++ p.message)

theorem text_eq (p : LineParts) :
    p.text = p.file ++ '(' :: (p.place ++ (Diagnostic.errorMark ++ p.detail)) := by
  simp only [text, place, detail, List.append_assoc, List.cons_append]
  rfl

theorem eq_of_splits {p q : LineParts} (hf : p.file = q.file) (hr : p.row = q.row)
    (hc : p.column = q.column) (hk : p.code = q.code) (hm : p.message = q.message) : p = q := by
  cases p
  cases q
  simp_all

namespace WellFormed

variable {p : LineParts}

theorem split_file (h : p.WellFormed) :
    Text.splitFirst? ['('] p.text =
      some (p.file, p.place ++ (Diagnostic.errorMark ++ p.detail)) := by
  rw [text_eq]
  exact Text.splitFirst?_char h.file _

theorem split_place (h : p.WellFormed) :
    Text.splitFirst? Diagnostic.errorMark (p.place ++ (Diagnostic.errorMark ++ p.detail)) =
      some (p.place, p.detail) := by
  have hparen : ')' ∉ p.place := by
    simp [place, h.row.not_mem (c := ')') rfl, h.column.not_mem (c := ')') rfl]
  have hmark : Diagnostic.errorMark = ')' :: [':', ' ', 'e', 'r', 'r', 'o', 'r', ' '] := rfl
  rw [hmark]
  refine Text.splitFirst?_append (by decide) (fun hin => hparen ?_) p.detail
  exact List.IsInfix.mem List.mem_cons_self hin

theorem split_coordinates (h : p.WellFormed) :
    Text.splitFirst? [','] p.place = some (p.row, p.column) :=
  Text.splitFirst?_char (h.row.not_mem rfl) p.column

theorem split_code (h : p.WellFormed) :
    Text.splitFirst? Diagnostic.messageMark p.detail = some (p.code, p.message) := by
  have hmark : Diagnostic.messageMark = ':' :: [' '] := rfl
  rw [detail, hmark]
  exact Text.splitFirst?_append (by decide) h.code p.message

/-- A line put together from well-formed parts is read as these parts. -/
theorem parse? (h : p.WellFormed) {line : Text} (hline : Diagnostic.dropReturn line = p.text) :
    Diagnostic.parse? line = some p.diagnostic := by
  simp only [Diagnostic.parse?, hline, h.split_file, h.split_place, h.split_coordinates,
    h.split_code, h.row.coordinate?, h.column.coordinate?, Option.bind_eq_bind,
    Option.bind_some]
  rfl

/-- A line has at most one decomposition into well-formed parts. -/
theorem eq_of_text_eq {q : LineParts} (hp : p.WellFormed) (hq : q.WellFormed)
    (h : p.text = q.text) : p = q := by
  -- each split is a function of the text in front of it, so its results agree one by one
  have hfile := hp.split_file
  rw [h, hq.split_file, Option.some.injEq, Prod.mk.injEq] at hfile
  have hplace := hp.split_place
  rw [← hfile.2, hq.split_place, Option.some.injEq, Prod.mk.injEq] at hplace
  have hcoordinates := hp.split_coordinates
  rw [← hplace.1, hq.split_coordinates, Option.some.injEq, Prod.mk.injEq] at hcoordinates
  have hcode := hp.split_code
  rw [← hplace.2, hq.split_code, Option.some.injEq, Prod.mk.injEq] at hcode
  exact eq_of_splits hfile.1.symm hcoordinates.1.symm hcoordinates.2.symm hcode.1.symm
    hcode.2.symm

end WellFormed

/-- A line that is read has well-formed parts. -/
theorem exists_of_parse? {line : Text} {d : Diagnostic} (h : Diagnostic.parse? line = some d) :
    ∃ p : LineParts, p.WellFormed ∧ p.text = Diagnostic.dropReturn line ∧ p.diagnostic = d := by
  simp only [Diagnostic.parse?, Option.bind_eq_bind, Option.bind_eq_some_iff] at h
  obtain ⟨⟨file, rest⟩, hfile, ⟨place, detail⟩, hplace, ⟨row, column⟩, hcoordinates,
    ⟨code, message⟩, hcode, n, hn, m, hm, hd⟩ := h
  obtain ⟨hrow, rfl⟩ := coordinate?_eq_some_iff.1 hn
  obtain ⟨hcolumn, rfl⟩ := coordinate?_eq_some_iff.1 hm
  refine ⟨⟨file, row, column, code, message⟩, ⟨?_, hrow, hcolumn, ?_⟩, ?_, ?_⟩
  · exact (Text.splitFirst?_char_eq_some_iff.1 hfile).2
  · exact Text.not_infix_of_splitFirst? (by decide) hcode
  · have htext := Text.append_of_splitFirst? hfile
    have hrest := Text.append_of_splitFirst? hplace
    have hpair := Text.append_of_splitFirst? hcoordinates
    have hbody := Text.append_of_splitFirst? hcode
    dsimp only at hrest hpair hbody
    rw [text_eq, ← htext, ← hrest, ← hpair, ← hbody]
    simp [LineParts.place, LineParts.detail]
  · exact Option.some.inj hd

end LineParts

namespace Diagnostic

/-- Only what stands at the end of a line can lose a carriage return. -/
theorem dropReturn_append (s : Text) {t : Text} (ht : t ≠ []) :
    dropReturn (s ++ t) = s ++ dropReturn t := by
  rw [dropReturn, dropReturn, List.getLast?_append_of_ne_nil _ ht,
    List.dropLast_append_of_ne_nil ht]
  split <;> rfl

/-- **Reading accepts exactly the grammar.**  With one carriage return at its end passed over, a
line is read exactly when it is put together from well-formed parts, every field is read as its
part says, and no line has two decompositions. -/
theorem parse?_eq_some_iff_wellFormed (line : Text) :
    (∀ d, parse? line = some d ↔
      ∃ p : LineParts, p.WellFormed ∧ p.text = dropReturn line ∧ p.diagnostic = d) ∧
    ∀ p q : LineParts, p.WellFormed → q.WellFormed →
      p.text = dropReturn line → q.text = dropReturn line → p = q := by
  refine ⟨fun d => ⟨LineParts.exists_of_parse?, ?_⟩, fun p q hp hq h h' => ?_⟩
  · rintro ⟨p, hp, htext, rfl⟩
    exact hp.parse? htext.symm
  · exact hp.eq_of_text_eq hq (h.trans h'.symm)

/-! ## Coordinates are read as doubles -/

/-- The number with 53 significant binary digits that is nearest to a whole number, the one with
the even last digit where two are equally near. -/
def nearestDouble (n : Nat) : Nat :=
  let unit := 2 ^ (n.log2 - 52)
  if 2 * (n % unit) < unit ∨ (2 * (n % unit) = unit ∧ n / unit % 2 = 0) then n / unit * unit
  else (n / unit + 1) * unit

theorem nearestDouble_of_lt {n : Nat} (h : n < 2 ^ 53) : nearestDouble n = n := by
  have hlog : n.log2 - 52 = 0 := by
    rcases Nat.eq_zero_or_pos n with rfl | hpos
    · rfl
    · have := (Nat.log2_lt (by omega)).2 h
      omega
  simp [nearestDouble, hlog, Nat.mod_one]

theorem le_nearestDouble {n : Nat} (h : 2 ^ 53 ≤ n) : 2 ^ 53 ≤ nearestDouble n := by
  have hlog : 53 ≤ n.log2 := (Nat.le_log2 (by omega)).2 h
  -- the leading 53 digits are at least 2^52, and their unit is at least 2
  have hunit : 2 ^ 52 * 2 ^ (n.log2 - 52) ≤ n := by
    rw [← Nat.pow_add, show 52 + (n.log2 - 52) = n.log2 by omega]
    exact Nat.log2_self_le (by omega)
  have hquot : 2 ^ 52 ≤ n / 2 ^ (n.log2 - 52) := by
    rwa [Nat.le_div_iff_mul_le (Nat.two_pow_pos _)]
  have htwo : 2 ^ 1 ≤ 2 ^ (n.log2 - 52) := Nat.pow_le_pow_right (by omega) (by omega)
  have hlow : 2 ^ 53 ≤ n / 2 ^ (n.log2 - 52) * 2 ^ (n.log2 - 52) := Nat.mul_le_mul hquot htwo
  rw [nearestDouble]
  split
  · exact hlow
  · exact hlow.trans (Nat.mul_le_mul_right _ (Nat.le_succ _))

/-- Rounding a coordinate to a double before it is compared with the greatest one neither lets a
further text in nor changes a value. -/
theorem coordinate?_eq_nearestDouble (t : Text) :
    coordinate? t = ((Text.toNat? t).map nearestDouble).filter (· ≤ greatestCoordinate) := by
  rw [coordinate?]
  cases Text.toNat? t with
  | none => rfl
  | some n =>
    rw [Option.map_some, Option.filter_some, Option.filter_some]
    rcases Nat.lt_or_ge n (2 ^ 53) with h | h
    · rw [nearestDouble_of_lt h]
    · have hgreat : ∀ k, 2 ^ 53 ≤ k → ¬ decide (k ≤ greatestCoordinate) = true := fun k hk => by
        rw [decide_eq_true_eq, greatestCoordinate, Nat.pow_eq]
        omega
      rw [if_neg (hgreat n h), if_neg (hgreat _ (le_nearestDouble h))]

end Diagnostic

end DiagnosticHints
