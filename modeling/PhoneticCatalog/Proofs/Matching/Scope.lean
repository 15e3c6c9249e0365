import PhoneticCatalog.Rule

/-!
# The scope of a rule

Whether a rule applies to what is asked for is a question of three cases (`Rule.appliesTo_iff`): any
language is asked for, the rule has no languages, or its languages are asked for as its combinator
wants it, all of them or some. The laws of scope follow from there (`Rule.scope_laws`): only the set
of names counts, more names never take a rule out of scope, and a rule with several languages
applies as the rules with its single languages do, all of them or one of them.
-/

namespace PhoneticCatalog

namespace LanguageSet

variable {s t : LanguageSet}

/-- A set is empty if it holds no language. -/
theorem isEmpty_iff : s.names.isEmpty = true ↔ ∀ l, l ∉ s :=
  List.isEmpty_iff.trans List.eq_nil_iff_forall_not_mem

/-- A set other than the empty one holds a language. -/
theorem exists_mem_of_ne_empty (h : s ≠ .empty) : ∃ l, l ∈ s := by
  obtain ⟨names, ascending⟩ := s
  cases names with
  | nil => exact absurd rfl h
  | cons l rest => exact ⟨l, List.mem_cons_self⟩

/-- One set is contained in another if all its languages are. -/
theorem subset_iff : s.subset t = true ↔ ∀ l ∈ s, l ∈ t := by
  simp only [subset, List.all_eq_true, decide_eq_true_eq]
  rfl

/-- Two sets meet if they share a language. -/
theorem meets_iff : s.meets t = true ↔ ∃ l ∈ s, l ∈ t := by
  simp only [meets, List.any_eq_true, decide_eq_true_eq]
  rfl

end LanguageSet

namespace Rule

variable {r : Rule} {q q' u : Requested}

/-- The languages are asked for as the combinator wants it, all of them or some. -/
def AsksFor (logical : List Char) (languages : LanguageSet) (q : Requested) : Prop :=
  if logical = allLanguages then ∀ l ∈ languages, l ∈ q.names else ∃ l ∈ languages, l ∈ q.names

/-- A rule applies if any language is asked for, if it has no languages, or if its languages are
asked for as its combinator wants it. -/
theorem appliesTo_iff :
    r.appliesTo q = true ↔
      anyLanguage ∈ q.names ∨ (∀ l, l ∉ r.fields.languages) ∨
        AsksFor r.fields.logical r.fields.languages q := by
  have hmem : ∀ l, l ∈ q.languages ↔ l ∈ q.names := fun l => LanguageSet.mem_ofList
  rw [appliesTo, inScope, Bool.or_eq_true, Bool.or_eq_true, decide_eq_true_eq, or_assoc,
    LanguageSet.isEmpty_iff, hmem]
  refine or_congr_right (or_congr_right ?_)
  rw [AsksFor]
  split
  · simp only [LanguageSet.subset_iff, hmem]
  · simp only [LanguageSet.meets_iff, hmem]

/-- A rule for all of its languages asks for each of them. -/
theorem asksFor_all {languages : LanguageSet} :
    AsksFor allLanguages languages q ↔ ∀ l ∈ languages, l ∈ q.names := by
  rw [AsksFor, if_pos rfl]

/-- A rule for some of its languages asks for one of them. -/
theorem asksFor_of_ne {logical : List Char} (h : logical ≠ allLanguages) {languages : LanguageSet} :
    AsksFor logical languages q ↔ ∃ l ∈ languages, l ∈ q.names := by
  rw [AsksFor, if_neg h]

/-- A request for more languages still has what a rule asks for. -/
theorem AsksFor.mono {logical : List Char} {languages : LanguageSet}
    (hnames : ∀ l ∈ q.names, l ∈ q'.names) (h : AsksFor logical languages q) :
    AsksFor logical languages q' := by
  by_cases hlogical : logical = allLanguages
  · subst hlogical
    exact asksFor_all.2 fun l hl => hnames l (asksFor_all.1 h l hl)
  · obtain ⟨l, hl, hq⟩ := (asksFor_of_ne hlogical).1 h
    exact (asksFor_of_ne hlogical).2 ⟨l, hl, hnames l hq⟩

/-- Where all languages are asked for, some are. -/
theorem AsksFor.of_all {languages : LanguageSet} (h : AsksFor allLanguages languages q)
    (hne : ∃ l, l ∈ languages) (logical : List Char) : AsksFor logical languages q := by
  by_cases hlogical : logical = allLanguages
  · exact hlogical ▸ h
  · obtain ⟨l, hl⟩ := hne
    exact (asksFor_of_ne hlogical).2 ⟨l, hl, asksFor_all.1 h l hl⟩

/-! ## Laws -/

/-- More names never take a rule out of scope. -/
theorem appliesTo_mono (hnames : ∀ l ∈ q.names, l ∈ q'.names) (h : r.appliesTo q = true) :
    r.appliesTo q' = true :=
  appliesTo_iff.2 ((appliesTo_iff.1 h).imp (hnames _) (Or.imp_right (AsksFor.mono hnames)))

/-- Only the set of names counts. -/
theorem appliesTo_congr (hnames : ∀ l, l ∈ q.names ↔ l ∈ q'.names) :
    r.appliesTo q = r.appliesTo q' :=
  Bool.eq_iff_iff.2
    ⟨appliesTo_mono fun l => (hnames l).1, appliesTo_mono fun l => (hnames l).2⟩

/-- A rule that wants some of its languages applies to what two requests ask for together if it
applies to one of them. -/
theorem appliesTo_or (hlogical : r.fields.logical ≠ allLanguages)
    (hnames : ∀ l, l ∈ u.names ↔ l ∈ q.names ∨ l ∈ q'.names) :
    r.appliesTo u = (r.appliesTo q || r.appliesTo q') := by
  rw [Bool.eq_iff_iff, Bool.or_eq_true]
  constructor
  · simp only [appliesTo_iff, asksFor_of_ne hlogical]
    rintro (hany | hempty | ⟨l, hl, hasked⟩)
    · exact ((hnames _).1 hany).imp Or.inl Or.inl
    · exact Or.inl (Or.inr (Or.inl hempty))
    · exact ((hnames l).1 hasked).imp (fun h => Or.inr (Or.inr ⟨l, hl, h⟩))
        fun h => Or.inr (Or.inr ⟨l, hl, h⟩)
  · rintro (h | h)
    · exact appliesTo_mono (fun l hl => (hnames l).2 (Or.inl hl)) h
    · exact appliesTo_mono (fun l hl => (hnames l).2 (Or.inr hl)) h

/-! ## Other scopes -/

/-- The rule with other languages and another combinator. Its contexts are the same. -/
def withScope (r : Rule) (languages : LanguageSet) (logical : List Char) : Rule where
  fields := { r.fields with languages, logical }
  leftContext := r.leftContext
  rightContext := r.rightContext
  left_read := r.left_read
  right_read := r.right_read

/-- A rule that wants all of its languages wants the most. -/
theorem appliesTo_withScope_of_all (hlogical : r.fields.logical = allLanguages)
    (h : r.appliesTo q = true) (logical : List Char) :
    (r.withScope r.fields.languages logical).appliesTo q = true := by
  refine appliesTo_iff.2 ((appliesTo_iff.1 h).imp_right fun hlanguages => ?_)
  by_cases hempty : ∀ l, l ∉ r.fields.languages
  · exact Or.inl hempty
  · have hasks := hlanguages.resolve_left hempty
    rw [hlogical] at hasks
    exact Or.inr (hasks.of_all (Classical.not_forall_not.1 hempty) logical)

/-- The combinator of a rule with one language does not matter. -/
theorem appliesTo_withScope_singleton {l logical : List Char} :
    (r.withScope (.ofList [l]) logical).appliesTo q = true ↔
      anyLanguage ∈ q.names ∨ l ∈ q.names := by
  have hmem : ∀ l', l' ∈ LanguageSet.ofList [l] ↔ l' = l := fun l' =>
    LanguageSet.mem_ofList.trans List.mem_singleton
  have hempty : ¬ ∀ l', l' ∉ LanguageSet.ofList [l] := fun h => h l ((hmem l).2 rfl)
  have hasks : AsksFor logical (.ofList [l]) q ↔ l ∈ q.names := by
    rw [AsksFor]
    split
    · simp only [hmem, forall_eq]
    · simp only [hmem, exists_eq_left]
  exact appliesTo_iff.trans (or_congr_right ((or_iff_right hempty).trans hasks))

/-- A rule with languages applies if any language is requested, or what it asks for. -/
theorem appliesTo_iff_of_ne_empty (h : r.fields.languages ≠ .empty) :
    r.appliesTo q = true ↔
      anyLanguage ∈ q.names ∨ AsksFor r.fields.logical r.fields.languages q := by
  obtain ⟨l, hl⟩ := LanguageSet.exists_mem_of_ne_empty h
  have hempty : ¬ ∀ l, l ∉ r.fields.languages := fun h => h l hl
  exact appliesTo_iff.trans (or_congr_right (or_iff_right hempty))

/-- A rule that wants all of its languages applies where the rules with one of them all do. -/
theorem appliesTo_iff_forall_singleton (hne : r.fields.languages ≠ .empty)
    (hlogical : r.fields.logical = allLanguages) (logical : List Char) :
    r.appliesTo q = true ↔
      ∀ l ∈ r.fields.languages, (r.withScope (.ofList [l]) logical).appliesTo q = true := by
  simp only [appliesTo_withScope_singleton]
  rw [appliesTo_iff_of_ne_empty hne, hlogical, asksFor_all]
  constructor
  · exact fun h l hl => h.imp_right fun hnames => hnames l hl
  · intro h
    by_cases hany : anyLanguage ∈ q.names
    · exact Or.inl hany
    · exact Or.inr fun l hl => (h l hl).resolve_left hany

/-- A rule that wants some of its languages applies where a rule with one of them does. -/
theorem appliesTo_iff_exists_singleton (hne : r.fields.languages ≠ .empty)
    (hlogical : r.fields.logical ≠ allLanguages) (logical : List Char) :
    r.appliesTo q = true ↔
      ∃ l ∈ r.fields.languages, (r.withScope (.ofList [l]) logical).appliesTo q = true := by
  simp only [appliesTo_withScope_singleton]
  rw [appliesTo_iff_of_ne_empty hne, asksFor_of_ne hlogical]
  constructor
  · rintro (hany | ⟨l, hl, hasked⟩)
    · obtain ⟨l, hl⟩ := LanguageSet.exists_mem_of_ne_empty hne
      exact ⟨l, hl, Or.inl hany⟩
    · exact ⟨l, hl, Or.inr hasked⟩
  · rintro ⟨l, hl, hany | hasked⟩
    · exact Or.inl hany
    · exact Or.inr ⟨l, hl, hasked⟩

/-- The laws of scope. Which names are asked for decides alone whether a rule applies, and more
names never take it out of scope. A rule that wants all of its languages applies only where it
applies with any other combinator. It applies if the rules with one of its languages all do, and a
rule that wants some of its languages if one of them does. Such a rule applies to what two requests
ask for together if it applies to one of them. -/
theorem scope_laws (r : Rule) (q q' : Requested) :
    ((∀ l, l ∈ q.names ↔ l ∈ q'.names) → r.appliesTo q = r.appliesTo q') ∧
    (∀ l, r.appliesTo (.one l) = r.appliesTo (.several [l])) ∧
    ((∀ l ∈ q.names, l ∈ q'.names) → r.appliesTo q = true → r.appliesTo q' = true) ∧
    (r.fields.logical = allLanguages → r.appliesTo q = true →
      ∀ logical, (r.withScope r.fields.languages logical).appliesTo q = true) ∧
    (r.fields.languages ≠ .empty → r.fields.logical = allLanguages →
      ∀ logical, (r.appliesTo q = true ↔
        ∀ l ∈ r.fields.languages, (r.withScope (.ofList [l]) logical).appliesTo q = true)) ∧
    (r.fields.languages ≠ .empty → r.fields.logical ≠ allLanguages →
      ∀ logical, (r.appliesTo q = true ↔
        ∃ l ∈ r.fields.languages, (r.withScope (.ofList [l]) logical).appliesTo q = true)) ∧
    (r.fields.logical ≠ allLanguages →
      ∀ u : Requested, (∀ l, l ∈ u.names ↔ l ∈ q.names ∨ l ∈ q'.names) →
        r.appliesTo u = (r.appliesTo q || r.appliesTo q')) :=
  ⟨appliesTo_congr, fun _ => appliesTo_congr fun _ => Iff.rfl, appliesTo_mono,
    appliesTo_withScope_of_all, appliesTo_iff_forall_singleton, appliesTo_iff_exists_singleton,
    fun hlogical _ => appliesTo_or hlogical⟩

/-- A rule without contexts for two languages, one of which is called like any language. -/
def forTwo (logical : List Char) : Rule where
  fields :=
    { pattern := ['P']
      left := []
      right := []
      phoneme := ['y']
      languages := .ofList [anyLanguage, "en".toList]
      logical := logical }
  leftContext := ⟨.anchor .textEnd, .unicode⟩
  rightContext := ⟨.anchor .textStart, .unicode⟩
  left_read := rfl
  right_read := rfl

/-- A rule for English and the language that is called like any, and requests in which languages are
repeated, several, or any. -/
theorem scope_laws_any :
    (forTwo allLanguages).appliesTo (.several ["fr".toList, "en".toList, "fr".toList]) =
      (forTwo allLanguages).appliesTo (.several ["en".toList, "fr".toList]) ∧
    (forTwo allLanguages).appliesTo (.several ["fr".toList, anyLanguage]) = true ∧
    ((forTwo allLanguages).withScope (forTwo allLanguages).fields.languages []).appliesTo
      (.one anyLanguage) = true ∧
    (∀ l ∈ (forTwo allLanguages).fields.languages,
      ((forTwo allLanguages).withScope (.ofList [l]) []).appliesTo (.one anyLanguage) = true) ∧
    (∃ l ∈ (forTwo []).fields.languages,
      ((forTwo []).withScope (.ofList [l]) allLanguages).appliesTo (.one "en".toList) = true) ∧
    (forTwo []).appliesTo (.several ["en".toList, "fr".toList]) =
      ((forTwo []).appliesTo (.one "en".toList) || (forTwo []).appliesTo (.one "fr".toList)) := by
  have hany : (forTwo allLanguages).appliesTo (.one anyLanguage) = true := by decide
  have henglish : (forTwo []).appliesTo (.one "en".toList) = true := by decide
  obtain ⟨hset, -⟩ := scope_laws (forTwo allLanguages)
    (.several ["fr".toList, "en".toList, "fr".toList]) (.several ["en".toList, "fr".toList])
  obtain ⟨-, -, hmono, hall, hforall, -, -⟩ := scope_laws (forTwo allLanguages)
    (.one anyLanguage) (.several ["fr".toList, anyLanguage])
  obtain ⟨-, -, -, -, -, hexists, hor⟩ := scope_laws (forTwo []) (.one "en".toList)
    (.one "fr".toList)
  refine ⟨hset fun l => ?_, hmono (by decide) hany, hall rfl hany [],
    (hforall (by decide) rfl []).1 hany, (hexists (by decide) (by decide) allLanguages).1 henglish,
    hor (by decide) _ fun l => ?_⟩
  · simp only [Requested.names, List.mem_cons, List.not_mem_nil, or_false]
    exact or_left_comm.trans (or_congr_right or_self_iff)
  · simp only [Requested.names, List.mem_cons, List.not_mem_nil, or_false]

end Rule

end PhoneticCatalog
