import PhoneticCatalog.Catalog.LanguageRegistry
import PhoneticCatalog.Proofs.Inclusion.Walk

/-!
# What a registry declares

A registry of languages answers from its shelf where it can. `LanguageRegistry.declared` is what it
answers with an empty shelf, and a shelf is truthful if the registry gives the same answers with it.
An empty shelf is truthful, and every answer leaves a truthful shelf behind
(`Truthful.languages`). So all that a shelf spares is that a catalog of languages is asked for
again (`trace_languages_after`).
-/

namespace PhoneticCatalog.Catalog.LanguageRegistry

variable {registry : LanguageRegistry} {shelf shelf' : Shelf} {t : NameType} {set : LanguageSet}

/-- The languages that a registry declares for a name type, or why they cannot be read. -/
def declared (registry : LanguageRegistry) (t : NameType) : Except LoadError LanguageSet :=
  (registry.languages [] t).result.map Prod.fst

/-- With the shelf the registry answers like one that has read nothing yet. -/
def Truthful (registry : LanguageRegistry) (shelf : Shelf) : Prop :=
  ∀ t, (registry.languages shelf t).result.map Prod.fst = registry.declared t

/-! ## Answers -/

/-- A fixed registry gives what it was given, and keeps nothing. -/
theorem languages_fixed (given shelf : Shelf) (t : NameType) :
    (fixed given).languages shelf t = pure ((given.lookup t).getD .empty, shelf) := rfl

/-- A set on the shelf is given again. -/
theorem languages_of_held {source : Source} (h : shelf.lookup t = some set) :
    (catalogs source).languages shelf t = pure (set, shelf) := by
  rw [languages, h]

/-- A list that was not read yet is read and put on the shelf. -/
theorem languages_of_unread {source : Source} (h : shelf.lookup t = none) :
    (catalogs source).languages shelf t =
      readLanguages source t >>= fun set => pure (set, (t, set) :: shelf) := by
  rw [languages, h]

/-- What a catalog of languages is read as. -/
theorem readLanguages_eq (source : Source) (t : NameType) :
    readLanguages source t =
      match (source.read t.languagesCatalog).result with
      | .ok text =>
        ⟨{ opened := [t.languagesCatalog]
           events := (source.read t.languagesCatalog).events
             ++ [.languagesLoaded t (parseLanguages text).names.length] },
          .ok (parseLanguages text)⟩
      | .error fault =>
        ⟨{ opened := [t.languagesCatalog], events := (source.read t.languagesCatalog).events },
          .error (.notOpened t.languagesCatalog fault)⟩ := by
  rw [readLanguages]
  cases (source.read t.languagesCatalog).result <;> rfl

/-- A registry of catalogs declares what the catalog of the name type lists. -/
theorem declared_catalogs (source : Source) (t : NameType) :
    (catalogs source).declared t =
      match (source.read t.languagesCatalog).result with
      | .ok text => .ok (parseLanguages text)
      | .error fault => .error (.notOpened t.languagesCatalog fault) := by
  rw [declared, languages_of_unread rfl, readLanguages_eq]
  cases (source.read t.languagesCatalog).result <;> rfl

/-- No answer skips a line of a catalog of rules. -/
theorem diagnostics_languages (registry : LanguageRegistry) (shelf : Shelf) (t : NameType) :
    (registry.languages shelf t).trace.diagnostics = [] := by
  cases registry with
  | fixed given => rfl
  | catalogs source =>
    cases h : shelf.lookup t with
    | some set =>
      rw [languages_of_held h]
      rfl
    | none =>
      rw [languages_of_unread h, readLanguages_eq]
      cases (source.read t.languagesCatalog).result <;> rfl

/-! ## Shelves -/

/-- What an answer leaves on the shelf: nothing new, or what was read. -/
theorem shelf_of_languages (h : (registry.languages shelf t).result = .ok (set, shelf')) :
    shelf' = shelf ∧ (registry.languages shelf t).trace = {} ∨ shelf' = (t, set) :: shelf := by
  -- Only a list that is read now is put on the shelf.
  cases registry with
  | fixed given =>
    obtain ⟨-, rfl⟩ := Prod.mk.inj (Except.ok.inj h)
    exact Or.inl ⟨rfl, rfl⟩
  | catalogs source =>
    cases hlookup : shelf.lookup t with
    | some held =>
      rw [languages_of_held hlookup] at h ⊢
      obtain ⟨-, rfl⟩ := Prod.mk.inj (Except.ok.inj h)
      exact Or.inl ⟨rfl, rfl⟩
    | none =>
      rw [languages_of_unread hlookup, readLanguages_eq] at h
      cases hread : (source.read t.languagesCatalog).result with
      | error fault =>
        rw [hread] at h
        cases h
      | ok text =>
        rw [hread] at h
        obtain ⟨rfl, rfl⟩ := Prod.mk.inj (Except.ok.inj h)
        exact Or.inr rfl

/-- With one more set on the shelf only the answer for its name type may change. -/
theorem languages_cons_of_ne {u : NameType} (h : u ≠ t) :
    (registry.languages ((t, set) :: shelf) u).trace = (registry.languages shelf u).trace ∧
    (registry.languages ((t, set) :: shelf) u).result.map Prod.fst =
      (registry.languages shelf u).result.map Prod.fst := by
  have hlookup : List.lookup u ((t, set) :: shelf) = shelf.lookup u := by
    rw [List.lookup_cons, beq_eq_false_iff_ne.2 h]
  cases registry with
  | fixed given => exact ⟨rfl, rfl⟩
  | catalogs source =>
    cases hshelf : shelf.lookup u with
    | some held =>
      rw [languages_of_held (hlookup.trans hshelf), languages_of_held hshelf]
      exact ⟨rfl, rfl⟩
    | none =>
      rw [languages_of_unread (hlookup.trans hshelf), languages_of_unread hshelf, readLanguages_eq]
      cases (source.read u.languagesCatalog).result <;> exact ⟨rfl, rfl⟩

/-- An empty shelf holds nothing wrong. -/
theorem truthful_nil (registry : LanguageRegistry) : registry.Truthful [] := fun _ => rfl

/-- What a truthful shelf lets the registry answer. -/
theorem Truthful.exists_of_ok (h : registry.Truthful shelf) (hset : registry.declared t = .ok set) :
    ∃ shelf', (registry.languages shelf t).result = .ok (set, shelf') := by
  have hmap := (h t).trans hset
  cases hresult : (registry.languages shelf t).result with
  | error e =>
    rw [hresult] at hmap
    cases hmap
  | ok answer =>
    rw [hresult] at hmap
    obtain rfl := Except.ok.inj hmap
    exact ⟨answer.2, rfl⟩

/-- A list that cannot be read is not on a truthful shelf, so that the question fails. -/
theorem Truthful.error_of_error {e : LoadError} (h : registry.Truthful shelf)
    (he : registry.declared t = .error e) : (registry.languages shelf t).result = .error e := by
  have hmap := (h t).trans he
  cases hresult : (registry.languages shelf t).result with
  | error e' =>
    rw [hresult] at hmap
    rw [Except.error.inj hmap]
  | ok answer =>
    rw [hresult] at hmap
    cases hmap

/-- An answer leaves a truthful shelf behind. -/
theorem Truthful.languages (h : registry.Truthful shelf)
    (hanswer : (registry.languages shelf t).result = .ok (set, shelf')) :
    registry.Truthful shelf' := by
  rcases shelf_of_languages hanswer with ⟨rfl, -⟩ | rfl
  · exact h
  intro u
  by_cases hu : u = t
  · -- The set on the shelf is the one that was answered.
    subst hu
    cases registry with
    | fixed given => exact h u
    | catalogs source =>
      have hdeclared := h u
      rw [hanswer] at hdeclared
      have hlookup : List.lookup u ((u, set) :: shelf) = some set := List.lookup_cons_self
      rw [languages_of_held hlookup]
      exact hdeclared
  · rw [(languages_cons_of_ne hu).2]
    exact h u

/-- After an answer the same name type costs nothing, and the others cost what they did. -/
theorem trace_languages_after (h : (registry.languages shelf t).result = .ok (set, shelf'))
    (u : NameType) :
    (registry.languages shelf' u).trace =
      if u = t then {} else (registry.languages shelf u).trace := by
  split
  · rename_i hu
    subst hu
    rcases shelf_of_languages h with ⟨rfl, htrace⟩ | rfl
    · exact htrace
    cases registry with
    | fixed given => rfl
    | catalogs source =>
      have hlookup : List.lookup u ((u, set) :: shelf) = some set := List.lookup_cons_self
      rw [languages_of_held hlookup]
      rfl
  · rename_i hu
    rcases shelf_of_languages h with ⟨rfl, -⟩ | rfl
    · rfl
    · exact (languages_cons_of_ne hu).1

end PhoneticCatalog.Catalog.LanguageRegistry
