import PhoneticCatalog.Proofs.Sessions.History

/-!
# Questions to a registry of languages

A registry that reads catalogs of languages is asked about one argument after the other. What it has
on its shelf never shows in its answers: they are what the catalogs list, and what a new registry
answers. It shows in what is requested of the source (`catalogsRead`). A catalog that can be read is
requested when its name type is asked for the first time, whatever it lists, and a catalog that
cannot be read is requested every time (`questions_read_once`).

`Session.HasAnswered` says what is on the shelf and what was requested after some questions; one
more question keeps it so (`Session.HasAnswered.concat`).
-/

namespace PhoneticCatalog

open Catalog

/-! ## Catalogs of languages -/

namespace Catalog.Source

/-- What the catalog of languages of a name type lists, or why it cannot be read. -/
def listed (source : Source) (t : NameType) : Except LoadError LanguageSet :=
  match (source.read t.languagesCatalog).result with
  | .ok text => .ok (parseLanguages text)
  | .error fault => .error (.notOpened t.languagesCatalog fault)

/-- What the catalogs of languages list for an argument, or why they list nothing. -/
def listedFor (source : Source) (a : Argument) : Except LanguagesError LanguageSet :=
  match a.nameType? with
  | some t => (source.listed t).mapError .load
  | none => .error (.argument (.noNameType a))

end Catalog.Source

/-- One of the arguments denotes the name type. -/
def IsAskedFor (t : NameType) (arguments : List Argument) : Prop :=
  ∃ a ∈ arguments, a.nameType? = some t

instance (t : NameType) (arguments : List Argument) : Decidable (IsAskedFor t arguments) :=
  inferInstanceAs (Decidable (∃ a ∈ arguments, a.nameType? = some t))

/-- The catalog that is read for an argument after others: that of the name type that it denotes,
unless it can be read and was asked for earlier. -/
def catalogRead (source : Source) (earlier : List Argument) (a : Argument) : Option (List Char) :=
  match a.nameType? with
  | none => none
  | some t =>
    match source.listed t with
    | .ok _ => if IsAskedFor t earlier then none else some t.languagesCatalog
    | .error _ => some t.languagesCatalog

/-- The catalogs that are read for arguments, one after the other. -/
def catalogsRead (source : Source) (arguments : List Argument) : List (List Char) :=
  arguments.zipIdx.filterMap fun (a, i) => catalogRead source (arguments.take i) a

/-- One more question reads at most one more list. -/
theorem catalogsRead_concat (source : Source) (arguments : List Argument) (a : Argument) :
    catalogsRead source (arguments ++ [a]) =
      catalogsRead source arguments ++ (catalogRead source arguments a).toList := by
  have hearlier : (arguments.zipIdx.filterMap fun (b, i) =>
      catalogRead source ((arguments ++ [a]).take i) b) = catalogsRead source arguments := by
    refine List.filterMap_congr fun entry hentry => ?_
    have hi : entry.2 ≤ arguments.length := Nat.le_of_lt (List.snd_lt_of_mem_zipIdx hentry)
    simp only [List.take_append_of_le_length hi]
  have hlast : (arguments ++ [a]).take (0 + arguments.length) = arguments := by
    rw [Nat.zero_add]
    exact List.take_left
  rw [catalogsRead, List.zipIdx_append, List.filterMap_append, hearlier, List.zipIdx_singleton]
  simp only [List.filterMap_cons, List.filterMap_nil, hlast]
  cases catalogRead source arguments a <;> rfl

/-- A name type is asked for by earlier questions or by the last one. -/
theorem isAskedFor_concat {t : NameType} {arguments : List Argument} {a : Argument} :
    IsAskedFor t (arguments ++ [a]) ↔ IsAskedFor t arguments ∨ a.nameType? = some t := by
  simp only [IsAskedFor, List.mem_append, List.mem_singleton, or_and_right, exists_or,
    exists_eq_left]

/-- An argument for a name type is taken as it. -/
theorem toNameType_of_some {a : Argument} {t : NameType} (h : a.nameType? = some t) :
    a.toNameType = .ok t := by
  rw [Argument.toNameType, h]

/-- An argument for no name type is refused. -/
theorem toNameType_of_none {a : Argument} (h : a.nameType? = none) :
    a.toNameType = .error (.noNameType a) := by
  rw [Argument.toNameType, h]

/-! ## One question -/

namespace Session

variable {source : Source} {s : Session} {a : Argument} {t : NameType}

/-- A question with an argument for no name type changes nothing. -/
theorem languagesFor_of_invalid {registry : LanguageRegistry} (h : a.nameType? = none) :
    s.languagesFor registry a = (.error (.argument (.noNameType a)), s) := by
  rw [languagesFor, toNameType_of_none h]

/-- A name type whose languages are on the shelf costs nothing. -/
theorem languagesFor_of_held {set : LanguageSet} (ha : a.nameType? = some t)
    (h : s.shelf.lookup t = some set) :
    s.languagesFor (.catalogs source) a = (.ok set, s) := by
  rw [languagesFor, toNameType_of_some ha]
  simp only [run_languages, LanguageRegistry.languages_of_held h]
  rw [Walk.pure_eq, leaving_empty]
  rfl

/-- A name type that is not on the shelf has its catalog read. Languages are put on the shelf, and
an error leaves it as it is. -/
theorem languagesFor_of_unread (source : Source) (ha : a.nameType? = some t)
    (h : s.shelf.lookup t = none) :
    (s.languagesFor (.catalogs source) a).1 = (source.listed t).mapError .load ∧
    (s.languagesFor (.catalogs source) a).2.opened = s.opened ++ [t.languagesCatalog] ∧
    (s.languagesFor (.catalogs source) a).2.shelf =
      match source.listed t with
      | .ok set => (t, set) :: s.shelf
      | .error _ => s.shelf := by
  rw [languagesFor, toNameType_of_some ha, Source.listed]
  simp only [run_languages, LanguageRegistry.languages_of_unread h,
    LanguageRegistry.readLanguages_eq]
  cases (source.read t.languagesCatalog).result with
  | ok text => exact ⟨rfl, rfl, rfl⟩
  | error fault => exact ⟨rfl, rfl, rfl⟩

/-! ## Questions one after the other -/

/-- The session of a registry after some questions, which starts with an empty shelf. -/
def askedFor (source : Source) (arguments : List Argument) : Session :=
  arguments.foldl (fun s a => (s.languagesFor (.catalogs source) a).2) {}

/-- What a session holds after some questions. On the shelf is what was asked for and could be read,
and what was requested are the catalogs that are read for the questions. -/
structure HasAnswered (source : Source) (arguments : List Argument) (s : Session) : Prop where
  shelf : ∀ t set, s.shelf.lookup t = some set ↔
    IsAskedFor t arguments ∧ source.listed t = .ok set
  opened : s.opened = catalogsRead source arguments

namespace HasAnswered

variable {arguments : List Argument}

/-- Before the first question nothing was read. -/
theorem nil (source : Source) : HasAnswered source [] {} where
  shelf t set := iff_of_false (Option.some_ne_none set).symm (by simp [IsAskedFor])
  opened := rfl

/-- A refused question leaves everything as it is. -/
theorem concat_invalid (h : HasAnswered source arguments s) (ha : a.nameType? = none) :
    HasAnswered source (arguments ++ [a]) s where
  shelf t set := by
    simp only [h.shelf t set, isAskedFor_concat, ha, reduceCtorEq, or_false]
  opened := by
    rw [catalogsRead_concat, catalogRead, ha, h.opened]
    exact (List.append_nil _).symm

/-- What is on the shelf was asked for before, and is not read again. -/
theorem concat_held (h : HasAnswered source arguments s) (ha : a.nameType? = some t)
    {set : LanguageSet} (hheld : s.shelf.lookup t = some set) :
    HasAnswered source (arguments ++ [a]) s := by
  obtain ⟨hasked, hlisted⟩ := (h.shelf t set).1 hheld
  have hread : catalogRead source arguments a = none := by
    simp only [catalogRead, ha, hlisted, if_pos hasked]
  have hsame : ∀ u, IsAskedFor u (arguments ++ [a]) ↔ IsAskedFor u arguments := by
    intro u
    rw [isAskedFor_concat, ha, or_iff_left_iff_imp]
    exact fun hu => Option.some.inj hu ▸ hasked
  constructor
  · intro u other
    rw [h.shelf u other, hsame]
  · rw [catalogsRead_concat, hread, h.opened]
    exact (List.append_nil _).symm

/-- What is not on the shelf is read, since it was not asked for or could not be read. -/
theorem concat_unread (h : HasAnswered source arguments s) (ha : a.nameType? = some t)
    (hunread : s.shelf.lookup t = none) {after : Session}
    (hopened : after.opened = s.opened ++ [t.languagesCatalog])
    (hshelf : after.shelf =
      match source.listed t with
      | .ok set => (t, set) :: s.shelf
      | .error _ => s.shelf) :
    HasAnswered source (arguments ++ [a]) after := by
  -- A list that can be read would be on the shelf, had it been asked for.
  have hnew : ∀ set, source.listed t = .ok set → ¬ IsAskedFor t arguments := by
    intro set hset hasked
    rw [(h.shelf t set).2 ⟨hasked, hset⟩] at hunread
    cases hunread
  have hread : catalogRead source arguments a = some t.languagesCatalog := by
    simp only [catalogRead, ha]
    cases hlisted : source.listed t with
    | ok set => exact if_neg (hnew set hlisted)
    | error e => rfl
  constructor
  · intro u set
    rw [hshelf, isAskedFor_concat, ha, Option.some.injEq]
    -- The shelf changes for this name type only.
    by_cases hu : t = u
    · subst hu
      cases hlisted : source.listed t with
      | ok listed => simp
      | error e => simp [hunread]
    · have hother : (u == t) = false := beq_eq_false_iff_ne.2 (Ne.symm hu)
      cases hlisted : source.listed t with
      | ok listed => simp only [List.lookup_cons, hother, h.shelf u set, hu, or_false]
      | error e => simp only [h.shelf u set, hu, or_false]
  · rw [catalogsRead_concat, hread, hopened, h.opened]
    rfl

/-- A question is answered from its catalog, and leaves the session as all questions up to it do. -/
theorem concat (h : HasAnswered source arguments s) (a : Argument) :
    (s.languagesFor (.catalogs source) a).1 = source.listedFor a ∧
    HasAnswered source (arguments ++ [a]) (s.languagesFor (.catalogs source) a).2 := by
  rw [Source.listedFor]
  cases ha : a.nameType? with
  | none =>
    rw [languagesFor_of_invalid ha]
    exact ⟨rfl, h.concat_invalid ha⟩
  | some t =>
    cases hshelf : s.shelf.lookup t with
    | some set =>
      rw [languagesFor_of_held ha hshelf]
      simp only [((h.shelf t set).1 hshelf).2]
      exact ⟨rfl, h.concat_held ha hshelf⟩
    | none =>
      obtain ⟨hanswer, hopened, hafter⟩ := languagesFor_of_unread source ha hshelf
      exact ⟨hanswer, h.concat_unread ha hshelf hopened hafter⟩

end HasAnswered

/-- After any questions the shelf and the requests are those of the lists that were read. -/
theorem hasAnswered_askedFor (source : Source) (arguments : List Argument) :
    HasAnswered source arguments (askedFor source arguments) := by
  -- By induction from the end, where the last question is asked.
  induction arguments using List.reverseRecOn with
  | nil => exact .nil source
  | append_singleton arguments a ih =>
    rw [askedFor, List.foldl_append]
    exact (ih.concat a).2

end Session

/-- A registry that has been asked about any arguments answers the next one with what its catalog of
languages lists, or with why it cannot be read: as a new registry does. An argument that denotes no
name type is refused and changes nothing. On the shelf are the languages of the name types that were
asked for and whose catalogs can be read, and no others. What was requested of the source are the
catalogs of the questions, in their order: one that can be read for the first question that asks
for it, and one that cannot be read for every question. -/
theorem questions_read_once (source : Source) (earlier : List Argument) (a : Argument) :
    ((Session.askedFor source earlier).languagesFor (.catalogs source) a).1 =
      source.listedFor a ∧
    (({} : Session).languagesFor (.catalogs source) a).1 = source.listedFor a ∧
    (a.nameType? = none →
      (Session.askedFor source earlier).languagesFor (.catalogs source) a =
        (.error (.argument (.noNameType a)), Session.askedFor source earlier)) ∧
    (∀ t set, (Session.askedFor source earlier).shelf.lookup t = some set ↔
      IsAskedFor t earlier ∧ source.listed t = .ok set) ∧
    (Session.askedFor source earlier).opened = catalogsRead source earlier := by
  have hearlier := Session.hasAnswered_askedFor source earlier
  exact ⟨(hearlier.concat a).1, ((Session.HasAnswered.nil source).concat a).1,
    Session.languagesFor_of_invalid, hearlier.shelf, hearlier.opened⟩

/-- A source whose list for generic names is empty, and which has no other list. -/
def emptyListSource : Source := .ofList [("gen_languages".toList, [])]

/-- Questions about generic names, about Ashkenazic ones and about nothing. -/
def mixedQuestions : List Argument :=
  [.text "gen".toList, .nameType .ashkenazi, .nothing, .nameType .generic, .text "ash".toList]

/-- Questions with a refused argument, with repetitions, about an empty list and about a missing
one: the missing list is requested at every question. -/
theorem questions_read_once_mixed :
    Argument.nothing.nameType? = none ∧
    (Session.askedFor emptyListSource mixedQuestions).languagesFor (.catalogs emptyListSource)
        .nothing =
      (.error (.argument (.noNameType .nothing)), Session.askedFor emptyListSource mixedQuestions) ∧
    (Session.askedFor emptyListSource mixedQuestions).shelf.lookup .generic = some .empty ∧
    (Session.askedFor emptyListSource mixedQuestions).opened =
      ["gen_languages".toList, "ash_languages".toList, "ash_languages".toList] := by
  obtain ⟨-, -, hinvalid, hshelf, hopened⟩ :=
    questions_read_once emptyListSource mixedQuestions .nothing
  have hgeneric : IsAskedFor .generic mixedQuestions := by decide
  refine ⟨rfl, hinvalid rfl, (hshelf _ _).2 ⟨hgeneric, rfl⟩, ?_⟩
  rw [hopened]
  decide

end PhoneticCatalog
