import DiagnosticHints.Proofs.Verbatim

/-!
# Object types read back

Properties that are written out as an object type are read back as they were, each once: a repeated
property stands where it stood first, with the type that it had last. Names and types may be empty,
and then the blanks that set them off are trimmed with the ends of their clause. What was read from
any text at all can be written out in this way, so that reading is a normal form.
-/

namespace DiagnosticHints

namespace Text

/-! ## Trimmed texts -/

/-- A text with no blank at its ends. -/
structure Trimmed (t : Text) : Prop where
  head : ∀ c ∈ t.head?, isBlank c = false
  last : ∀ c ∈ t.getLast?, isBlank c = false

instance (t : Text) : Decidable t.Trimmed :=
  decidable_of_iff (t.head?.any isBlank = false ∧ t.getLast?.any isBlank = false)
    ⟨fun h => ⟨(Option.any_eq_false _ _).1 h.1, (Option.any_eq_false _ _).1 h.2⟩,
      fun h => ⟨(Option.any_eq_false _ _).2 h.head, (Option.any_eq_false _ _).2 h.last⟩⟩

/-- A text of blanks only. -/
def Blank (t : Text) : Prop := ∀ c ∈ t, isBlank c = true

section

variable {space space' t : Text}

theorem Blank.append (h : Blank space) (h' : Blank space') : Blank (space ++ space') :=
  List.forall_mem_append.2 ⟨h, h'⟩

theorem blank_nil : Blank [] := List.forall_mem_nil _

theorem blank_space : Blank [' '] := List.forall_mem_singleton.2 rfl

theorem trimStart_append (h : Blank space) (ht : ∀ c ∈ t.head?, isBlank c = false) :
    trimStart (space ++ t) = t := by
  rw [trimStart, List.dropWhile_append_of_pos h]
  cases t with
  | nil => rfl
  | cons c t => rw [List.dropWhile_cons, ht c rfl, if_neg Bool.false_ne_true]

theorem trimEnd_eq (t : Text) : trimEnd t = (trimStart t.reverse).reverse := rfl

theorem trimEnd_append (h : Blank space) (ht : ∀ c ∈ t.getLast?, isBlank c = false) :
    trimEnd (t ++ space) = t := by
  have hspace : Blank space.reverse := fun c hc => h c (List.mem_reverse.1 hc)
  rw [trimEnd_eq, List.reverse_append, trimStart_append hspace (by rwa [List.head?_reverse]),
    List.reverse_reverse]

/-- Only the blanks around a trimmed text are trimmed. -/
theorem trim_append (h : Blank space) (h' : Blank space') (ht : t.Trimmed) :
    trim (space ++ (t ++ space')) = t := by
  rw [trim]
  cases t with
  | nil =>
    have hall := trimStart_append (t := []) (h.append h') (by simp)
    rw [List.append_nil] at hall
    rw [List.nil_append, hall]
    rfl
  | cons c t =>
    rw [trimStart_append h (t := c :: t ++ space') ht.head, trimEnd_append h' ht.last]

theorem Trimmed.trim_eq (h : t.Trimmed) : trim t = t := by
  have htrim := trim_append blank_nil blank_nil h
  rwa [List.append_nil, List.nil_append] at htrim

theorem trim_of_blank (h : Blank t) : trim t = [] := by
  have htrim := trim_append h blank_nil (t := []) ⟨by simp, by simp⟩
  rwa [List.append_nil, List.append_nil] at htrim

theorem head?_trimStart (t : Text) : ∀ c ∈ (trimStart t).head?, isBlank c = false := by
  intro c hc
  have hhead := List.head?_dropWhile_not isBlank t
  rw [trimStart, Option.mem_def] at hc
  rwa [hc] at hhead

theorem trimmed_trim (t : Text) : (trim t).Trimmed where
  head c hc := by
    have hfront : trim t <+: trimStart t := by
      rw [trim, trimEnd_eq, ← List.reverse_suffix, List.reverse_reverse]
      exact List.dropWhile_suffix _
    obtain ⟨behind, hbehind⟩ := hfront
    refine head?_trimStart t c ?_
    rw [← hbehind, Option.mem_def, List.head?_append, Option.mem_def.1 hc, Option.some_or]
  last c hc := by
    rw [trim, trimEnd_eq, List.getLast?_reverse] at hc
    exact head?_trimStart _ c hc

end

end Text

/-! ## Properties in order -/

theorem PropertyList.insert_of_not_mem {l : List (Text × Text)} {property : Text}
    (h : property ∉ l.map Prod.fst) (type : Text) :
    insert property type l = l ++ [(property, type)] := by
  induction l with
  | nil => rfl
  | cons p l ih =>
    rw [List.map_cons, List.mem_cons, not_or] at h
    rw [insert, if_neg (Ne.symm h.1), ih h.2, List.cons_append]

theorem PropertyList.keys_insert_of_mem {l : List (Text × Text)} {property : Text}
    (h : property ∈ l.map Prod.fst) (type : Text) :
    (insert property type l).map Prod.fst = l.map Prod.fst := by
  induction l with
  | nil => cases h
  | cons p l ih =>
    by_cases hp : p.1 = property
    · rw [insert, if_pos hp, List.map_cons, List.map_cons]
    · rw [List.map_cons, List.mem_cons] at h
      rw [insert, if_neg hp, List.map_cons, List.map_cons, ih (h.resolve_left (Ne.symm hp))]

namespace PropertyMap

open Text (Blank Trimmed)

theorem toList_insert (m : PropertyMap) (property type : Text) :
    (m.insert property type).toList = PropertyList.insert property type m.toList :=
  rfl

theorem ofList_append_singleton (l : List (Text × Text)) (p : Text × Text) :
    ofList (l ++ [p]) = (ofList l).insert p.1 p.2 :=
  List.foldl_concat ..

/-- A property stands where it was inserted first. -/
theorem keys_ofList (l : List (Text × Text)) : (ofList l).keys = (l.map Prod.fst).eraseDups := by
  induction l using List.reverseRecOn with
  | nil => rfl
  | append_singleton l p ih =>
    rw [ofList_append_singleton, List.map_append, List.eraseDups_append, ← ih]
    have hmem : p.1 ∈ (ofList l).keys ↔ p.1 ∈ l.map Prod.fst := by
      rw [ih, List.mem_eraseDups]
    by_cases hp : p.1 ∈ l.map Prod.fst
    · have hnone : [p.1].removeAll (l.map Prod.fst) = [] := by
        simpa [List.removeAll] using hp
      rw [List.map_singleton, hnone, List.eraseDups_nil, List.append_nil]
      exact PropertyList.keys_insert_of_mem (hmem.2 hp) p.2
    · have hself : [p.1].removeAll (l.map Prod.fst) = [p.1] := by
        simpa [List.removeAll] using hp
      have hinsert := PropertyList.insert_of_not_mem (mt hmem.1 hp) p.2
      rw [List.map_singleton, hself, keys, toList_insert, hinsert, List.map_append]
      rfl

/-- A property has the type that it was given last. -/
theorem get?_ofList (l : List (Text × Text)) (property : Text) :
    (ofList l).get? property = l.reverse.lookup property := by
  induction l using List.reverseRecOn with
  | nil => rfl
  | append_singleton l p ih =>
    obtain ⟨name, type⟩ := p
    rw [ofList_append_singleton, get?_insert, List.reverse_append, List.reverse_singleton,
      List.singleton_append, List.lookup_cons, ih]
    by_cases hp : property = name
    · rw [if_pos hp, hp, beq_self_eq_true]
    · rw [if_neg hp, beq_false_of_ne hp]

/-- Pairs of distinct properties are the pairs of their map. -/
theorem toList_ofList {l : List (Text × Text)} (h : (l.map Prod.fst).Nodup) :
    (ofList l).toList = l := by
  induction l using List.reverseRecOn with
  | nil => rfl
  | append_singleton l p ih =>
    rw [List.map_append, List.map_singleton, List.nodup_append] at h
    obtain ⟨hl, -, hp⟩ := h
    have hnew : p.1 ∉ l.map Prod.fst := fun hmem => hp p.1 hmem p.1 List.mem_cons_self rfl
    rw [ofList_append_singleton, toList_insert, ih hl]
    exact PropertyList.insert_of_not_mem hnew p.2

theorem ofList_toList (m : PropertyMap) : ofList m.toList = m := by
  have h := toList_ofList m.nodup_keys
  cases m
  rwa [PropertyMap.mk.injEq]

/-! ## Clauses -/

/-- The clause of a property and its type. -/
def spellClause (p : Text × Text) : Text := p.1 ++ ':' :: ' ' :: p.2

/-- A property and a type whose clause can be told from what stands around it. -/
structure Spellable (p : Text × Text) : Prop where
  trimmed_name : p.1.Trimmed
  trimmed_type : p.2.Trimmed
  colon : ':' ∉ p.1
  semicolon_name : ';' ∉ p.1
  semicolon_type : ';' ∉ p.2

instance (p : Text × Text) : Decidable (Spellable p) :=
  decidable_of_iff (p.1.Trimmed ∧ p.2.Trimmed ∧ ':' ∉ p.1 ∧ ';' ∉ p.1 ∧ ';' ∉ p.2)
    ⟨fun h => ⟨h.1, h.2.1, h.2.2.1, h.2.2.2.1, h.2.2.2.2⟩,
      fun h => ⟨h.1, h.2, h.3, h.4, h.5⟩⟩

section

variable {p : Text × Text} {space space' inner rest : Text} {pairs : List (Text × Text)}

/-- The blank behind the colon is trimmed when no type follows it. -/
theorem exists_trim_spellClause (hp : Spellable p) (h : Blank space) (h' : Blank space') :
    ∃ gap, Blank gap ∧
      Text.trim (space ++ (spellClause p ++ space')) = p.1 ++ ':' :: (gap ++ p.2) := by
  have hhead : ∀ behind, ∀ c ∈ (p.1 ++ ':' :: behind).head?, Text.isBlank c = false := by
    intro behind c hc
    cases hname : p.1 with
    | nil =>
      rw [hname] at hc
      obtain rfl := Option.some.inj hc
      rfl
    | cons d name =>
      rw [hname] at hc
      refine hp.trimmed_name.head c ?_
      rw [hname]
      exact hc
  cases htype : p.2 with
  | nil =>
    have htrimmed : (p.1 ++ [':']).Trimmed := ⟨hhead [], by simp [Text.isBlank]⟩
    refine ⟨[], Text.blank_nil, ?_⟩
    have hblank : Blank ([' '] ++ space') := Text.blank_space.append h'
    have htrim := Text.trim_append h hblank htrimmed
    simpa [spellClause, htype] using htrim
  | cons d type =>
    have htrimmed : (spellClause p).Trimmed := by
      refine ⟨hhead _, fun c hc => hp.trimmed_type.last c ?_⟩
      simpa [spellClause, htype, List.getLast?_cons] using hc
    refine ⟨[' '], Text.blank_space, ?_⟩
    rw [Text.trim_append h h' htrimmed, spellClause, htype]
    rfl

/-- A clause is read back, whatever blanks stand around it. -/
theorem clause?_spellClause (hp : Spellable p) (h : Blank space) (h' : Blank space') :
    clause? (space ++ (spellClause p ++ space')) = some p := by
  obtain ⟨gap, hgap, htrim⟩ := exists_trim_spellClause hp h h'
  have htype := Text.trim_append hgap Text.blank_nil hp.trimmed_type
  rw [List.append_nil] at htype
  rw [clause?, htrim, Text.splitFirst?_char hp.colon, Option.map_some]
  dsimp only
  rw [hp.trimmed_name.trim_eq, htype]

theorem clause?_of_blank (h : Blank space) : clause? space = none := by
  rw [clause?, Text.trim_of_blank h]
  rfl

/-- The texts between braces that spell some pairs, with a semicolon between each two clauses and
perhaps behind the last one. -/
inductive Clauses : Text → List (Text × Text) → Prop
  | blank {space : Text} : Blank space → Clauses space []
  | last {p : Text × Text} {space space' : Text} : Spellable p → Blank space → Blank space' →
      Clauses (space ++ (spellClause p ++ space')) [p]
  | cons {p : Text × Text} {pairs : List (Text × Text)} {space space' rest : Text} :
      Spellable p → Blank space → Blank space' → Clauses rest pairs →
      Clauses (space ++ (spellClause p ++ space') ++ ';' :: rest) (p :: pairs)

theorem semicolon_not_mem_blank (h : Blank space) : ';' ∉ space := by
  intro hmem
  cases h ';' hmem

theorem semicolon_not_mem_clause (hp : Spellable p) (h : Blank space) (h' : Blank space') :
    ';' ∉ space ++ (spellClause p ++ space') := by
  have hspace := semicolon_not_mem_blank h
  have hspace' := semicolon_not_mem_blank h'
  simp [spellClause, hp.semicolon_name, hp.semicolon_type, hspace, hspace']

/-- The pairs that are spelled are read. -/
theorem Clauses.filterMap_clause? (h : Clauses inner pairs) :
    (inner.splitOn ';').filterMap clause? = pairs := by
  induction h with
  | blank h =>
    rw [List.splitOn_eq_singleton (semicolon_not_mem_blank h),
      List.filterMap_cons_none (clause?_of_blank h), List.filterMap_nil]
  | last hp h h' =>
    rw [List.splitOn_eq_singleton (semicolon_not_mem_clause hp h h'),
      List.filterMap_cons_some (clause?_spellClause hp h h'), List.filterMap_nil]
  | cons hp h h' _ ih =>
    rw [List.splitOn_append_cons_self_of_not_mem (semicolon_not_mem_clause hp h h'),
      List.filterMap_cons_some (clause?_spellClause hp h h'), ih]

/-- A text in braces with nothing around them. -/
def braced (inner : Text) : Text := '\x7b' :: (inner ++ ['\x7d'])

theorem ofLiteral_braced (inner : Text) :
    ofLiteral (braced inner) = ofList ((inner.splitOn ';').filterMap clause?) := by
  have htrimmed : (braced inner).Trimmed := by
    constructor
    · intro c hc
      obtain rfl := Option.some.inj hc
      rfl
    · intro c hc
      rw [braced, ← List.cons_append, List.getLast?_concat] at hc
      obtain rfl := Option.some.inj hc
      rfl
  have hlast : (braced inner).getLast? = some '\x7d' := by
    rw [braced, ← List.cons_append, List.getLast?_concat]
  rw [ofLiteral, htrimmed.trim_eq, if_pos ⟨rfl, hlast⟩, braced, List.drop_one, List.tail_cons,
    List.dropLast_concat]

/-! ## Written out and read back -/

/-- The object type with some properties, its clauses apart from each other and from the braces. -/
def render (pairs : List (Text × Text)) : Text :=
  braced (' ' :: (List.intercalate [';', ' '] (pairs.map spellClause) ++ [' ']))

theorem clauses_render (h : ∀ p ∈ pairs, Spellable p) :
    Clauses (' ' :: (List.intercalate [';', ' '] (pairs.map spellClause) ++ [' '])) pairs := by
  induction pairs with
  | nil => exact .blank (Text.blank_space.append Text.blank_space)
  | cons p pairs ih =>
    rw [List.forall_mem_cons] at h
    cases pairs with
    | nil =>
      rw [List.map_singleton, List.intercalate_singleton]
      exact .last h.1 Text.blank_space Text.blank_space
    | cons q pairs =>
      have hcons := Clauses.cons h.1 Text.blank_space Text.blank_nil (ih h.2)
      simpa [List.intercalate_cons_cons] using hcons

theorem ofLiteral_render_eq (h : ∀ p ∈ pairs, Spellable p) :
    ofLiteral (render pairs) = ofList pairs := by
  rw [render, ofLiteral_braced, (clauses_render h).filterMap_clause?]

theorem spellable_of_clause? {clause : Text} (h : clause? clause = some p)
    (hclause : ';' ∉ clause) : Spellable p := by
  obtain ⟨hname, htype⟩ := infix_of_clause? h
  obtain ⟨⟨before, after⟩, hsplit, rfl⟩ := Option.map_eq_some_iff.1 h
  have hbefore : ':' ∉ before := (Text.splitFirst?_char_eq_some_iff.1 hsplit).2
  exact ⟨Text.trimmed_trim before, Text.trimmed_trim after,
    fun hmem => hbefore ((Text.trim_infix before).subset hmem),
    fun hmem => hclause (hname.subset hmem), fun hmem => hclause (htype.subset hmem)⟩

/-- What is read from any text can be written out. -/
theorem spellable_of_mem_ofLiteral {literal : Text} (h : p ∈ (ofLiteral literal).toList) :
    Spellable p := by
  rw [ofLiteral] at h
  split at h
  · obtain ⟨clause, hclause, hp⟩ := List.mem_filterMap.1 (mem_of_mem_ofList h)
    exact spellable_of_clause? hp (Text.not_mem_of_mem_splitOn hclause)
  · cases h

end

/-- **Object types are read back.**  Properties that are written out are read as they were, each at
the place where it stood first and with the type that it had last; and what was read from any text
is read again, in order, from what it is written out to. -/
theorem ofLiteral_render :
    (∀ pairs : List (Text × Text), (∀ p ∈ pairs, Spellable p) →
      (ofLiteral (render pairs)).keys = (pairs.map Prod.fst).eraseDups ∧
      ∀ property, (ofLiteral (render pairs)).get? property = pairs.reverse.lookup property) ∧
    ∀ literal : Text, ofLiteral (render (ofLiteral literal).toList) = ofLiteral literal := by
  constructor
  · intro pairs h
    rw [ofLiteral_render_eq h]
    exact ⟨keys_ofList pairs, get?_ofList pairs⟩
  · intro literal
    rw [ofLiteral_render_eq fun p => spellable_of_mem_ofLiteral, ofList_toList]

/-- Properties of which one comes three times, one has no name, and some have no type. -/
def repeatedPairs : List (Text × Text) :=
  [("b", "x: \x7by\x7d"), ([], []), ("a c", "z"), ("b", []), ([], "'d'"), ("b", "\x7d \x7b")]

theorem ofLiteral_render_repeatedPairs :
    (∀ p ∈ repeatedPairs, Spellable p) ∧
      (ofLiteral (render repeatedPairs)).keys = (repeatedPairs.map Prod.fst).eraseDups ∧
      ∀ property,
        (ofLiteral (render repeatedPairs)).get? property = repeatedPairs.reverse.lookup property :=
  have h : ∀ p ∈ repeatedPairs, Spellable p := by decide +kernel
  ⟨h, ofLiteral_render.1 repeatedPairs h⟩

end PropertyMap

end DiagnosticHints
