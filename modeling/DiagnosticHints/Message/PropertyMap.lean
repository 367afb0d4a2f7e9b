import DiagnosticHints.Text.Basic

/-!
# Maps from properties to types

A property map keeps its properties in the order of their first insertion, each once. Inserting
a property again changes its type and not its place.
-/

namespace DiagnosticHints

namespace PropertyList

/-- The list with a property's type changed, or with the property at its end. -/
def insert (property type : Text) : List (Text × Text) → List (Text × Text)
  | [] => [(property, type)]
  | (p, t) :: rest =>
    if p = property then (p, type) :: rest else (p, t) :: insert property type rest

theorem mem_keys_insert {property type k : Text} (l : List (Text × Text)) :
    k ∈ (insert property type l).map Prod.fst ↔ k = property ∨ k ∈ l.map Prod.fst := by
  induction l with
  | nil => simp [insert]
  | cons x l ih =>
    obtain ⟨p, t⟩ := x
    by_cases h : p = property
    · subst h
      simp [insert]
    · rw [insert, if_neg h, List.map_cons, List.mem_cons, ih, List.map_cons, List.mem_cons]
      constructor
      · rintro (rfl | rfl | hk)
        · exact .inr (.inl rfl)
        · exact .inl rfl
        · exact .inr (.inr hk)
      · rintro (rfl | rfl | hk)
        · exact .inr (.inl rfl)
        · exact .inl rfl
        · exact .inr (.inr hk)

theorem nodup_keys_insert {property type : Text} {l : List (Text × Text)}
    (h : (l.map Prod.fst).Nodup) : ((insert property type l).map Prod.fst).Nodup := by
  induction l with
  | nil => simp [insert]
  | cons x l ih =>
    obtain ⟨p, t⟩ := x
    rw [List.map_cons, List.nodup_cons] at h
    by_cases hp : p = property
    · rw [insert, if_pos hp, List.map_cons, List.nodup_cons]
      exact h
    · rw [insert, if_neg hp, List.map_cons, List.nodup_cons]
      refine ⟨fun hmem => ?_, ih h.2⟩
      rcases (mem_keys_insert l).1 hmem with heq | hmem
      · exact hp heq
      · exact h.1 hmem

end PropertyList

/-- Properties with their types, each property once. -/
structure PropertyMap where
  toList : List (Text × Text)
  nodup_keys : (toList.map Prod.fst).Nodup
  deriving DecidableEq, Repr

namespace PropertyMap

/-- The map without properties. -/
def empty : PropertyMap := ⟨[], by simp⟩

/-- The properties in order. -/
def keys (m : PropertyMap) : List Text := m.toList.map Prod.fst

/-- The type of a property. -/
def get? (m : PropertyMap) (property : Text) : Option Text := m.toList.lookup property

/-- The map with a property's type set. -/
def insert (m : PropertyMap) (property type : Text) : PropertyMap :=
  ⟨PropertyList.insert property type m.toList, PropertyList.nodup_keys_insert m.nodup_keys⟩

/-- The map of a list of properties, inserted one after the other. -/
def ofList (l : List (Text × Text)) : PropertyMap :=
  l.foldl (fun m (property, type) => m.insert property type) empty

theorem get?_insert (m : PropertyMap) (property type k : Text) :
    (m.insert property type).get? k = if k = property then some type else m.get? k := by
  obtain ⟨l, hl⟩ := m
  simp only [get?, insert]
  clear hl
  induction l with
  | nil => by_cases h : k = property <;> simp [PropertyList.insert, h]
  | cons x l ih =>
    obtain ⟨p, t⟩ := x
    by_cases hp : p = property
    · subst hp
      by_cases h : k = p
      · simp [PropertyList.insert, h]
      · have hb : (k == p) = false := by simpa using h
        simp [PropertyList.insert, List.lookup_cons, hb, h]
    · by_cases hk : k = p
      · subst hk
        simp [PropertyList.insert, hp]
      · have hb : (k == p) = false := by simpa using hk
        simp [PropertyList.insert, List.lookup_cons, hp, hb, ih]

end PropertyMap

end DiagnosticHints
