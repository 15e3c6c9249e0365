/-!
# Sets of languages

A language is known by its name. A `LanguageSet` keeps the names in the order of their characters,
each name once, so that equal sets are equal values and are listed in one order. `mem_ofList` says
that building a set from a list keeps exactly the names of the list.
-/

namespace PhoneticCatalog

/-- A finite set of language names, in ascending order. -/
structure LanguageSet where
  names : List (List Char)
  ascending : names.Pairwise (· < ·)

namespace LanguageSet

instance : DecidableEq LanguageSet := fun s t =>
  decidable_of_iff (s.names = t.names) (by cases s; cases t; simp)

instance : Membership (List Char) LanguageSet := ⟨fun s name => name ∈ s.names⟩

instance (name : List Char) (s : LanguageSet) : Decidable (name ∈ s) :=
  inferInstanceAs (Decidable (name ∈ s.names))

/-- No language at all. -/
def empty : LanguageSet := ⟨[], .nil⟩

instance : Inhabited LanguageSet := ⟨empty⟩

/-- Puts a name in its place in an ascending list. -/
def insertName (name : List Char) : List (List Char) → List (List Char)
  | [] => [name]
  | other :: rest =>
    if name < other then name :: other :: rest
    else if name = other then other :: rest
    else other :: insertName name rest

/-- Putting a name in its place adds that name and nothing else. -/
theorem mem_insertName {a name : List Char} {l : List (List Char)} :
    a ∈ insertName name l ↔ a = name ∨ a ∈ l := by
  induction l with
  | nil => simp [insertName]
  | cons other rest ih =>
    by_cases h : name < other
    · simp [insertName, h]
    · by_cases e : name = other
      · subst e
        rw [insertName, if_neg h, if_pos rfl]
        simp
      · simp only [insertName, if_neg h, if_neg e, List.mem_cons, ih]
        exact or_left_comm

/-- A list in ascending order stays so. -/
theorem pairwise_insertName {name : List Char} {l : List (List Char)}
    (h : l.Pairwise (· < ·)) : (insertName name l).Pairwise (· < ·) := by
  induction l with
  | nil => simp [insertName]
  | cons other rest ih =>
    obtain ⟨first, others⟩ := List.pairwise_cons.1 h
    -- The name comes before the first one, is the first one, or goes into the rest.
    by_cases lt : name < other
    · simp only [insertName, if_pos lt]
      refine List.pairwise_cons.2 ⟨fun a ha => ?_, h⟩
      rcases List.mem_cons.1 ha with rfl | ha
      · exact lt
      · exact List.lt_trans lt (first a ha)
    · by_cases e : name = other
      · simp only [insertName, if_neg lt, if_pos e]
        exact h
      · simp only [insertName, if_neg lt, if_neg e]
        refine List.pairwise_cons.2 ⟨fun a ha => ?_, ih others⟩
        rcases mem_insertName.1 ha with rfl | ha
        · exact Classical.byContradiction fun ge =>
            e (List.le_antisymm (List.not_lt.1 ge) (List.not_lt.1 lt))
        · exact first a ha

/-- The set with one more name. -/
def insert (s : LanguageSet) (name : List Char) : LanguageSet :=
  ⟨insertName name s.names, pairwise_insertName s.ascending⟩

/-- The names of a list as a set. -/
def ofList (names : List (List Char)) : LanguageSet := names.foldl insert empty

/-- What a set with one more language holds. -/
theorem mem_insert {s : LanguageSet} {a name : List Char} :
    a ∈ s.insert name ↔ a = name ∨ a ∈ s := mem_insertName

/-- The set of some names holds these names. -/
theorem mem_ofList {names : List (List Char)} {a : List Char} :
    a ∈ ofList names ↔ a ∈ names := by
  suffices h : ∀ s : LanguageSet, a ∈ names.foldl insert s ↔ a ∈ names ∨ a ∈ s by
    have h := h empty
    have none : a ∉ empty := List.not_mem_nil
    simpa [ofList, none] using h
  induction names with
  | nil => simp
  | cons name rest ih =>
    intro s
    rw [List.foldl_cons, ih, mem_insert, List.mem_cons]
    exact or_left_comm.trans or_assoc.symm

/-- Every name of `s` is in `t`. -/
def subset (s t : LanguageSet) : Bool := s.names.all (· ∈ t)

/-- Some name of `s` is in `t`. -/
def meets (s t : LanguageSet) : Bool := s.names.any (· ∈ t)

end LanguageSet

end PhoneticCatalog
