import Mathlib.Data.List.TakeWhile
import PhoneticCatalog.Proofs.Building.Keys
import PhoneticCatalog.Proofs.Building.Lookups

/-!
# Names of catalogs

The names of catalogs tell their keys apart (`catalogName_inj`), and none of them is the name of a
catalog of languages (`catalogName_ne_languagesCatalog`). The language comes last in a name and may
hold anything, underscores and the names of other catalogs included: the values of name types and
rule types hold no underscore, so the first two underscores of a name are those behind its name type
and its rule type.

A registry asks for catalogs of languages only. So a build takes the languages that it loads rules
for from no catalog of rules, and whatever the source of its languages holds under the name of one
makes no difference to it (`Repository.build_catalogs_congr`).
-/

namespace PhoneticCatalog

open Catalog

/-! ## Values -/

namespace NameType

/-- Name types are told apart by their values. -/
theorem value_injective : Function.Injective value := by
  intro n m h
  have hn : ofValue? n.value = some n := ofValue?_eq_some_iff.2 rfl
  have hm : ofValue? n.value = some m := ofValue?_eq_some_iff.2 h
  exact Option.some.inj (hn.symm.trans hm)

/-- The value of a name type has no underscore, which separates the parts of a name. -/
theorem underscore_not_mem_value (n : NameType) : '_' ∉ n.value := by
  cases n <;> decide

end NameType

namespace RuleType

/-- Rule types are told apart by their values. -/
theorem value_injective : Function.Injective value := by
  intro t u h
  have ht : ofValue? t.value = some t := ofValue?_eq_some_iff.2 rfl
  have hu : ofValue? t.value = some u := ofValue?_eq_some_iff.2 h
  exact Option.some.inj (ht.symm.trans hu)

/-- The value of a rule type has no underscore, which separates the parts of a name. -/
theorem underscore_not_mem_value (t : RuleType) : '_' ∉ t.value := by
  cases t <;> decide

end RuleType

/-! ## Names -/

/-- A text is cut in one way at its first underscore. -/
theorem append_underscore_inj {start start' rest rest' : List Char} (h : '_' ∉ start)
    (h' : '_' ∉ start') (heq : start ++ '_' :: rest = start' ++ '_' :: rest') :
    start = start' ∧ rest = rest' := by
  have hstart : ∀ {first : List Char} (later : List Char), '_' ∉ first →
      (first ++ '_' :: later).takeWhile (· != '_') = first := by
    intro first later hfirst
    have hkept : ∀ c ∈ first, (c != '_') = true := fun c hc =>
      bne_iff_ne.2 fun hunderscore => hfirst (hunderscore ▸ hc)
    rw [List.takeWhile_append_of_pos hkept, List.takeWhile_cons_of_neg (by decide),
      List.append_nil]
  have hsame : start = start' := by rw [← hstart rest h, heq, hstart rest' h']
  subst hsame
  exact ⟨rfl, (List.cons.inj (List.append_cancel_left heq)).2⟩

section Names

variable {n n' m : NameType} {t t' : RuleType} {language language' : List Char}

/-- A catalog's name determines what it is for. -/
theorem catalogName_inj (h : catalogName n t language = catalogName n' t' language') :
    n = n' ∧ t = t' ∧ language = language' := by
  obtain ⟨hn, hrest⟩ :=
    append_underscore_inj n.underscore_not_mem_value n'.underscore_not_mem_value h
  obtain ⟨ht, hlanguage⟩ :=
    append_underscore_inj t.underscore_not_mem_value t'.underscore_not_mem_value hrest
  exact ⟨NameType.value_injective hn, RuleType.value_injective ht, hlanguage⟩

/-- Keys are told apart by the names of their catalogs. -/
theorem RuleKey.catalog_injective : Function.Injective RuleKey.catalog := by
  rintro ⟨n, t, language⟩ ⟨n', t', language'⟩ h
  obtain ⟨rfl, rfl, rfl⟩ := catalogName_inj h
  rfl

/-- Behind its first underscore a catalog of rules has a second one, a list of languages has not. -/
theorem catalogName_ne_languagesCatalog : catalogName n t language ≠ m.languagesCatalog := by
  intro h
  have hlanguages : m.languagesCatalog = m.value ++ '_' :: "languages".toList := rfl
  obtain ⟨-, hrest⟩ :=
    append_underscore_inj n.underscore_not_mem_value m.underscore_not_mem_value
      (h.trans hlanguages)
  have hmem : '_' ∈ t.value ++ '_' :: language := List.mem_append_right _ List.mem_cons_self
  rw [hrest] at hmem
  exact absurd hmem (by decide)

end Names

/-! ## Names for arguments -/

section Arguments

variable {a b : Argument} {n : NameType} {t : RuleType} {language name : List Char}

/-- An argument is taken as a name type if it stands for one. -/
theorem Argument.toNameType_eq_ok_iff : a.toNameType = .ok n ↔ a.IsNameType n := by
  rw [← nameType?_eq_some_iff, toNameType]
  cases a.nameType? with
  | none => exact iff_of_false nofun nofun
  | some m => rw [Except.ok.injEq, Option.some.injEq]

/-- An argument is taken as a rule type if it stands for one. -/
theorem Argument.toRuleType_eq_ok_iff : a.toRuleType = .ok t ↔ a.IsRuleType t := by
  rw [← ruleType?_eq_some_iff, toRuleType]
  cases a.ruleType? with
  | none => exact iff_of_false nofun nofun
  | some u => rw [Except.ok.injEq, Option.some.injEq]

/-- Arguments that denote a name type and a rule type, by member or by value, have the name of what
they denote, and no others have one. -/
theorem catalogNameOf_eq_ok_iff :
    catalogNameOf a b language = .ok name ↔
      ∃ n t, a.IsNameType n ∧ b.IsRuleType t ∧ name = catalogName n t language := by
  simp only [← Argument.toNameType_eq_ok_iff, ← Argument.toRuleType_eq_ok_iff, catalogNameOf]
  cases a.toNameType with
  | error e => simp [bind, Except.bind]
  | ok n =>
    cases b.toRuleType with
    | error e => simp [bind, Except.bind]
    | ok t => simp [bind, Except.bind, pure, Except.pure, eq_comm]

/-- Arguments that have the same name denote the same name type and the same rule type. -/
theorem catalogNameOf_inj {a' b' : Argument} {language' : List Char}
    (h : catalogNameOf a b language = .ok name) (h' : catalogNameOf a' b' language' = .ok name) :
    (∃ n, a.IsNameType n ∧ a'.IsNameType n) ∧ (∃ t, b.IsRuleType t ∧ b'.IsRuleType t) ∧
      language = language' := by
  obtain ⟨n, t, ha, hb, rfl⟩ := catalogNameOf_eq_ok_iff.1 h
  obtain ⟨n', t', ha', hb', hname⟩ := catalogNameOf_eq_ok_iff.1 h'
  obtain ⟨rfl, rfl, rfl⟩ := catalogName_inj hname
  exact ⟨⟨n, ha, ha'⟩, ⟨t, hb, hb'⟩, rfl⟩

end Arguments

/-! ## Registries and builds -/

/-- A registry asks for no catalog of rules, whatever it has read before. -/
theorem Catalog.LanguageRegistry.catalog_not_mem_opened (registry : LanguageRegistry)
    (shelf : Shelf) (n : NameType) (k : RuleKey) :
    k.catalog ∉ (registry.languages shelf n).trace.opened := by
  cases registry with
  | fixed given => exact List.not_mem_nil
  | catalogs source =>
    cases h : shelf.lookup n with
    | some held =>
      rw [languages_of_held h]
      exact List.not_mem_nil
    | none =>
      have hopened : ((catalogs source).languages shelf n).trace.opened = [n.languagesCatalog] := by
        rw [languages_of_unread h, readLanguages_eq]
        cases (source.read n.languagesCatalog).result <;> rfl
      rw [hopened, List.mem_singleton]
      exact catalogName_ne_languagesCatalog

/-- The keys that a build stores rules for have different catalogs. -/
theorem Repository.nodup_catalogs_of_build {L : Loader Rule} {registry : LanguageRegistry}
    {nameTypes : List NameType} {ruleTypes : List RuleType} {r : Repository}
    (h : (build L registry nameTypes ruleTypes).result = .ok r) :
    (r.keys.map RuleKey.catalog).Nodup := by
  rw [keys_of_build h]
  exact (nodup_declaredKeys registry nameTypes ruleTypes).map RuleKey.catalog_injective

/-- The sources give the same answers to all names but those of catalogs of rules. -/
def Catalog.Source.AgreesBesidesRules (source source' : Source) : Prop :=
  ∀ name, (∀ k : RuleKey, name ≠ k.catalog) → source.read name = source'.read name

section Registries

variable {lists lists' : Source}

/-- A registry of language lists does not read the catalogs of rules. -/
theorem Catalog.LanguageRegistry.languages_catalogs_congr (h : lists.AgreesBesidesRules lists')
    (shelf : Shelf) (n : NameType) :
    (catalogs lists).languages shelf n = (catalogs lists').languages shelf n := by
  have hread : lists.read n.languagesCatalog = lists'.read n.languagesCatalog :=
    h _ fun _ => Ne.symm catalogName_ne_languagesCatalog
  cases hheld : shelf.lookup n with
  | some held => rw [languages_of_held hheld, languages_of_held hheld]
  | none =>
    rw [languages_of_unread hheld, languages_of_unread hheld, readLanguages_eq, readLanguages_eq,
      hread]

/-- A load does not read its language lists off the catalogs of rules. -/
theorem Repository.loadNameTypes_catalogs_congr (L : Loader Rule)
    (h : lists.AgreesBesidesRules lists') (ruleTypes : List RuleType) (shelf : Shelf)
    (nameTypes : List NameType) :
    loadNameTypes L (.catalogs lists) ruleTypes shelf nameTypes =
      loadNameTypes L (.catalogs lists') ruleTypes shelf nameTypes := by
  induction nameTypes generalizing shelf with
  | nil => rfl
  | cons n rest ih =>
    simp only [loadNameTypes, LanguageRegistry.languages_catalogs_congr h, ih]

/-- What the source of its languages holds under the names of catalogs of rules makes no difference
to a build. -/
theorem Repository.build_catalogs_congr (L : Loader Rule) (h : lists.AgreesBesidesRules lists')
    (nameTypes : List NameType) (ruleTypes : List RuleType) :
    build L (.catalogs lists) nameTypes ruleTypes =
      build L (.catalogs lists') nameTypes ruleTypes := by
  rw [build, build, loadNameTypes_catalogs_congr L h]

end Registries

/-- No two keys share a catalog, and no key shares one with a list of languages. The name of a
catalog determines its name type, its rule type and its language, whatever the language is. Members
and values have the same names, so that arguments with one name denote one name type and one rule
type. A registry asks for no catalog of rules. So the catalogs of the keys that a build stores rules
for are all different, and no build depends on what the source of its languages holds under the
names of catalogs of rules. -/
theorem catalogs_tell_keys_apart :
    (∀ n t language n' t' language',
      catalogName n t language = catalogName n' t' language' →
        n = n' ∧ t = t' ∧ language = language') ∧
    (∀ a b language name, catalogNameOf a b language = .ok name ↔
      ∃ n t, a.IsNameType n ∧ b.IsRuleType t ∧ name = catalogName n t language) ∧
    (∀ a b language a' b' language' name,
      catalogNameOf a b language = .ok name → catalogNameOf a' b' language' = .ok name →
        (∃ n, a.IsNameType n ∧ a'.IsNameType n) ∧ (∃ t, b.IsRuleType t ∧ b'.IsRuleType t) ∧
          language = language') ∧
    (∀ n t language m, catalogName n t language ≠ NameType.languagesCatalog m) ∧
    (∀ (registry : LanguageRegistry) (shelf : Shelf) (n : NameType) (k : RuleKey),
      k.catalog ∉ (registry.languages shelf n).trace.opened) ∧
    ∀ (L : Loader Rule) (nameTypes : List NameType) (ruleTypes : List RuleType),
      (∀ registry r, (Repository.build L registry nameTypes ruleTypes).result = .ok r →
        (r.keys.map RuleKey.catalog).Nodup) ∧
      ∀ lists lists' : Source, lists.AgreesBesidesRules lists' →
        Repository.build L (.catalogs lists) nameTypes ruleTypes =
          Repository.build L (.catalogs lists') nameTypes ruleTypes := by
  refine ⟨?_, ?_, ?_, ?_, LanguageRegistry.catalog_not_mem_opened,
    fun L nameTypes ruleTypes => ⟨?_, ?_⟩⟩
  · intro n t language n' t' language'
    exact catalogName_inj
  · intro a b language name
    exact catalogNameOf_eq_ok_iff
  · intro a b language a' b' language' name
    exact catalogNameOf_inj
  · intro n t language m
    exact catalogName_ne_languagesCatalog
  · intro registry r
    exact Repository.nodup_catalogs_of_build
  · intro lists lists' hagree
    exact Repository.build_catalogs_congr L hagree nameTypes ruleTypes

/-- Catalogs of rules make no other difference to a source than that it holds them. -/
theorem Catalog.Source.agreesBesidesRules_ofList {catalogs rules : List (List Char × List Char)}
    (h : ∀ entry ∈ rules, ∃ k : RuleKey, entry.1 = k.catalog) :
    (ofList (catalogs ++ rules)).AgreesBesidesRules (ofList catalogs) := by
  intro name hname
  have hmissing : rules.reverse.lookup name = none := by
    refine List.lookup_eq_none_iff.2 fun entry hentry => ?_
    obtain ⟨k, hk⟩ := h entry (List.mem_reverse.1 hentry)
    exact bne_iff_ne.2 (hk ▸ hname k)
  simp only [ofList, List.reverse_append, List.lookup_append, hmissing, Option.none_or]

/-- Languages whose names look like parts of the names of catalogs. -/
def oddLists : List (List Char × List Char) := [("gen_languages".toList, "languages\n_".toList)]

/-- Rules for these languages. -/
def oddRules : List (List Char × List Char) :=
  [("gen_approx_languages".toList, "x '' '' x".toList),
    ("gen_approx__".toList, "y '' '' y".toList), ("gen_approx_common".toList, [])]

/-- A loader of the rules. -/
def oddLoader : Loader Rule := flatLoader (.ofList (oddLists ++ oddRules))

/-- Arguments of two kinds for one key, and languages with odd names: one that holds the value of a
rule type, one that is called like the lists of languages, and a mere underscore. -/
theorem catalogs_tell_keys_apart_odd :
    (catalogNameOf (.nameType .generic) (.text "approx".toList) "exact_common".toList =
        .ok "gen_approx_exact_common".toList ∧
      catalogNameOf (.text "gen".toList) (.ruleType .approx) "exact_common".toList =
        .ok "gen_approx_exact_common".toList ∧
      ∃ t, (Argument.text "approx".toList).IsRuleType t ∧
        (Argument.ruleType .approx).IsRuleType t) ∧
    (∃ r, (Repository.build oddLoader (.catalogs (.ofList (oddLists ++ oddRules))) [.generic]
        [.approx]).result = .ok r ∧
      (r.keys.map RuleKey.catalog).Nodup) ∧
    (Source.ofList (oddLists ++ oddRules)).AgreesBesidesRules (.ofList oddLists) ∧
    Repository.build oddLoader (.catalogs (.ofList (oddLists ++ oddRules))) [.generic] [.approx] =
      Repository.build oddLoader (.catalogs (.ofList oddLists)) [.generic] [.approx] := by
  obtain ⟨-, -, harguments, -, -, hbuilds⟩ := catalogs_tell_keys_apart
  obtain ⟨hkeys, hlists⟩ := hbuilds oddLoader [.generic] [.approx]
  have hvalue : catalogNameOf (.nameType .generic) (.text "approx".toList) "exact_common".toList =
      .ok "gen_approx_exact_common".toList := by rfl
  have hmember : catalogNameOf (.text "gen".toList) (.ruleType .approx) "exact_common".toList =
      .ok "gen_approx_exact_common".toList := by rfl
  -- Every odd catalog is one of rules, also the one that is named like a list of languages.
  have hrules : ∀ entry ∈ oddRules, ∃ k : RuleKey, entry.1 = k.catalog := by
    intro entry hentry
    simp only [oddRules, List.mem_cons, List.not_mem_nil, or_false] at hentry
    rcases hentry with rfl | rfl | rfl
    · exact ⟨⟨.generic, .approx, "languages".toList⟩, rfl⟩
    · exact ⟨⟨.generic, .approx, ['_']⟩, rfl⟩
    · exact ⟨⟨.generic, .approx, commonLanguage⟩, rfl⟩
  have hagree : (Source.ofList (oddLists ++ oddRules)).AgreesBesidesRules (.ofList oddLists) :=
    Source.agreesBesidesRules_ofList hrules
  obtain ⟨r, hr⟩ : (Repository.build oddLoader (.catalogs (.ofList (oddLists ++ oddRules)))
      [.generic] [.approx]).Succeeds := Walk.error?_eq_none.1 (by decide +kernel)
  exact ⟨⟨hvalue, hmember, (harguments _ _ _ _ _ _ _ hvalue hmember).2.1⟩, ⟨r, hr, hkeys _ r hr⟩,
    hagree, hlists _ _ hagree⟩

end PhoneticCatalog
