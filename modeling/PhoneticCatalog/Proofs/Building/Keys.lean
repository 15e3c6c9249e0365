import Mathlib.Data.List.Nodup
import PhoneticCatalog.Proofs.Building.Plan
import PhoneticCatalog.Proofs.Building.Tables
import PhoneticCatalog.Proofs.Inclusion.Content

/-!
# What a build stores

A build stores the rules of exactly the catalogs that are declared, each once and in the order in
which the name types, the rule types and the languages first occur (`build_stores_declared`). A
catalog may be loaded several times: for a name type or a rule type that is asked for again, and
where the common language is declared like another. The table keeps one of these loads, which are
all alike.

What is loaded depends on the keys only (`eq_of_loadNameTypes`), so that it becomes a table of
computed values, level by level (`tableOf_contents`).
-/

namespace PhoneticCatalog

open Catalog

namespace Catalog.LanguageRegistry

/-- The languages that a registry declares for a name type, none if they cannot be read. -/
def declaredSet (registry : LanguageRegistry) (n : NameType) : LanguageSet :=
  (registry.declared n).toOption.getD .empty

/-- The declared languages are those that the registry gives. -/
theorem declaredSet_of_ok {registry : LanguageRegistry} {n : NameType} {declared : LanguageSet}
    (h : registry.declared n = .ok declared) : registry.declaredSet n = declared := by
  rw [declaredSet, h]
  rfl

end Catalog.LanguageRegistry

/-- No language is in a set twice. -/
theorem LanguageSet.nodup_names (s : LanguageSet) : s.names.Nodup :=
  s.ascending.imp fun {a b} hlt (heq : a = b) => List.lt_irrefl b (heq ▸ hlt)

namespace Repository

/-! ## Keys -/

section Keys

variable {k : RuleKey} {n : NameType} {nameTypes : List NameType} {ruleTypes : List RuleType}

/-- The keys of a name type join its rule types with their languages. -/
theorem mem_keysOf {languages : RuleType → List (List Char)} :
    k ∈ keysOf n ruleTypes languages ↔
      k.nameType = n ∧ k.ruleType ∈ ruleTypes ∧ k.language ∈ languages k.ruleType := by
  simp only [keysOf, List.mem_flatMap, List.mem_map]
  constructor
  · rintro ⟨t, ht, language, hlanguage, rfl⟩
    exact ⟨rfl, ht, hlanguage⟩
  · rintro ⟨rfl, ht, hlanguage⟩
    exact ⟨k.ruleType, ht, k.language, hlanguage, rfl⟩

/-- The keys of several name types join them with the rule types and their languages. -/
theorem mem_flatMap_keysOf {languages : NameType → RuleType → List (List Char)} :
    k ∈ nameTypes.flatMap (fun n => keysOf n ruleTypes (languages n)) ↔
      k.nameType ∈ nameTypes ∧ k.ruleType ∈ ruleTypes ∧
        k.language ∈ languages k.nameType k.ruleType := by
  simp only [List.mem_flatMap, mem_keysOf]
  constructor
  · rintro ⟨n, hn, rfl, hk⟩
    exact ⟨hn, hk⟩
  · rintro ⟨hn, hk⟩
    exact ⟨k.nameType, hn, rfl, hk⟩

/-- The keys of a name type are all different if rule types and languages are. -/
theorem nodup_keysOf {languages : RuleType → List (List Char)} (ht : ruleTypes.Nodup)
    (hlanguages : ∀ t ∈ ruleTypes, (languages t).Nodup) :
    (keysOf n ruleTypes languages).Nodup := by
  refine List.nodup_flatMap.2 ⟨fun t hmem => ?_, ht.imp fun {t u} hne => ?_⟩
  · exact (hlanguages t hmem).map fun a b heq => (RuleKey.mk.inj heq).2.2
  · intro k hfirst hsecond
    obtain ⟨a, -, rfl⟩ := List.mem_map.1 hfirst
    obtain ⟨b, -, heq⟩ := List.mem_map.1 hsecond
    exact hne (RuleKey.mk.inj heq).2.1.symm

/-- The keys of several name types are all different if name types, rule types and languages are. -/
theorem nodup_flatMap_keysOf {languages : NameType → RuleType → List (List Char)}
    (hn : nameTypes.Nodup) (ht : ruleTypes.Nodup)
    (hlanguages : ∀ n ∈ nameTypes, ∀ t ∈ ruleTypes, (languages n t).Nodup) :
    (nameTypes.flatMap fun n => keysOf n ruleTypes (languages n)).Nodup := by
  refine List.nodup_flatMap.2 ⟨fun n hmem => nodup_keysOf ht (hlanguages n hmem), ?_⟩
  refine hn.imp fun {n m} hne k hfirst hsecond => hne ?_
  exact (mem_keysOf.1 hfirst).1.symm.trans (mem_keysOf.1 hsecond).1

end Keys

/-! ## Tables -/

/-- The contents of a repository that has computed rules for some name types, rule types and
languages. -/
def contents (nameTypes : List NameType) (ruleTypes : List RuleType)
    (languages : NameType → RuleType → List (List Char)) (rules : RuleKey → List Rule) :
    Table NameType (Table RuleType LanguageTable) :=
  nameTypes.map fun n => (n, ruleTypes.map fun t => (t, (languages n t).map fun language =>
    (language, rules ⟨n, t, language⟩)))

section Contents

variable (nameTypes : List NameType) (ruleTypes : List RuleType)
  (languages : NameType → RuleType → List (List Char)) (rules : RuleKey → List Rule)
  (diagnostics : List Diagnostic)

/-- In a table name types, rule types and languages are kept where they first occur. -/
theorem tableOf_contents :
    tableOf (contents nameTypes ruleTypes languages rules) =
      contents nameTypes.eraseDups ruleTypes.eraseDups (fun n t => (languages n t).eraseDups)
        rules := by
  rw [tableOf, contents, List.map_map]
  refine (Table.ofEntries_map (fun n => Table.ofEntries _) nameTypes).trans ?_
  refine List.map_congr_left fun n _ => congrArg (Prod.mk n) ?_
  rw [List.map_map]
  refine (Table.ofEntries_map (fun t => Table.ofEntries _) ruleTypes).trans ?_
  refine List.map_congr_left fun t _ => congrArg (Prod.mk t) ?_
  exact Table.ofEntries_map (fun language => rules ⟨n, t, language⟩) (languages n t)

/-- The keys of a repository in the order of its tables. -/
theorem keys_contents :
    keys ⟨contents nameTypes ruleTypes languages rules, diagnostics⟩ =
      nameTypes.flatMap fun n => keysOf n ruleTypes (languages n) := by
  simp only [keys, contents, keysOf, List.flatMap_map, Table.keys_map]

/-- The rules of a key are computed from it, if it is there. -/
theorem find?_contents (k : RuleKey) :
    find? ⟨contents nameTypes ruleTypes languages rules, diagnostics⟩ k =
      if k ∈ nameTypes.flatMap (fun n => keysOf n ruleTypes (languages n)) then some (rules k)
      else none := by
  simp only [find?, contents, Table.find?_map, List.contains_iff_mem, mem_flatMap_keysOf]
  by_cases hn : k.nameType ∈ nameTypes
  · by_cases ht : k.ruleType ∈ ruleTypes
    · simp only [hn, ht, if_true, true_and, Option.bind_eq_bind, Option.bind_some,
        Table.find?_map, List.contains_iff_mem]
    · simp only [hn, ht, if_true, if_false, true_and, false_and, Option.bind_eq_bind,
        Option.bind_some, Option.bind_none, Table.find?_map, List.contains_iff_mem]
  · simp only [hn, if_false, false_and, Option.bind_eq_bind, Option.bind_none]

/-- A repository has as many rules as all its keys together. -/
theorem ruleCount_contents :
    ruleCount ⟨contents nameTypes ruleTypes languages rules, diagnostics⟩ =
      ((nameTypes.flatMap fun n => keysOf n ruleTypes (languages n)).map
        fun k => (rules k).length).sum := by
  simp only [ruleCount, contents, keysOf, Table.total_map, List.flatMap, List.map_flatten,
    List.map_map, List.sum_flatten, Function.comp_def]

end Contents

/-! ## What is loaded -/

section Loaded

variable {L : Loader Rule} {registry : LanguageRegistry} {shelf : Shelf} {n : NameType}
  {t : RuleType} {nameTypes : List NameType} {ruleTypes : List RuleType}

/-- The rules that a loader reads for a key. -/
def rulesFor (L : Loader Rule) (k : RuleKey) : List Rule := (L.load k.catalog).yield

/-- Loading some languages gives each of them its rules. -/
theorem eq_of_loadLanguages {languages : List (List Char)} {loaded : List (List Char × List Rule)}
    (h : (loadLanguages L n t languages).result = .ok loaded) :
    loaded = languages.map fun language => (language, rulesFor L ⟨n, t, language⟩) := by
  induction languages generalizing loaded with
  | nil => exact (Except.ok.inj h).symm
  | cons language rest ih =>
    obtain ⟨rules, hrules, h⟩ := Walk.exists_of_bind h
    obtain ⟨others, hothers, h⟩ := Walk.exists_of_bind h
    obtain rfl := Except.ok.inj h
    have hfirst : rulesFor L ⟨n, t, language⟩ = rules := Walk.yield_of_ok hrules
    rw [List.map_cons, ← ih hothers, hfirst]

/-- Loading some rule types gives each of them its languages with their rules. -/
theorem eq_of_loadRuleTypes {declared : LanguageSet}
    {loaded : List (RuleType × List (List Char × List Rule))}
    (h : (loadRuleTypes L n declared ruleTypes).result = .ok loaded) :
    loaded = ruleTypes.map fun t => (t, (loadedLanguages declared t).map fun language =>
      (language, rulesFor L ⟨n, t, language⟩)) := by
  induction ruleTypes generalizing loaded with
  | nil => exact (Except.ok.inj h).symm
  | cons t rest ih =>
    obtain ⟨first, hfirst, h⟩ := Walk.exists_of_bind h
    obtain ⟨others, hothers, h⟩ := Walk.exists_of_bind h
    obtain rfl := Except.ok.inj h
    rw [List.map_cons, ← ih hothers, ← eq_of_loadLanguages hfirst]

/-- What is loaded are the rules for each key, whatever is on a truthful shelf. -/
theorem eq_of_loadNameTypes (hshelf : registry.Truthful shelf)
    {loaded : List (NameType × List (RuleType × List (List Char × List Rule)))}
    (h : (loadNameTypes L registry ruleTypes shelf nameTypes).result = .ok loaded) :
    loaded = contents nameTypes ruleTypes (fun n => loadedLanguages (registry.declaredSet n))
      (rulesFor L) := by
  induction nameTypes generalizing shelf loaded with
  | nil => exact (Except.ok.inj h).symm
  | cons n rest ih =>
    obtain ⟨⟨declared, shelf'⟩, hanswer, h⟩ := Walk.exists_of_bind h
    obtain ⟨first, hfirst, h⟩ := Walk.exists_of_bind h
    obtain ⟨others, hothers, h⟩ := Walk.exists_of_bind h
    obtain rfl := Except.ok.inj h
    have hdeclared : registry.declared n = .ok declared := by
      rw [← hshelf n, hanswer]
      rfl
    rw [contents, List.map_cons, ← contents, ← ih (hshelf.languages hanswer) hothers,
      LanguageRegistry.declaredSet_of_ok hdeclared, ← eq_of_loadRuleTypes hfirst]

end Loaded

/-! ## What is stored -/

/-- The languages that rules of a rule type are stored for: those that are declared and, except for
the main rules, the common one, at its place if it is declared and else at the end. -/
def storedLanguages (declared : LanguageSet) (t : RuleType) : List (List Char) :=
  declared.names ++ if t = .rules ∨ commonLanguage ∈ declared then [] else [commonLanguage]

/-- A language that is loaded twice is stored once. -/
theorem eraseDups_loadedLanguages (declared : LanguageSet) (t : RuleType) :
    (loadedLanguages declared t).eraseDups = storedLanguages declared t := by
  rw [loadedLanguages, storedLanguages]
  by_cases ht : t = .rules
  · rw [if_pos ht, if_pos (Or.inl ht), List.append_nil, eraseDups_of_nodup declared.nodup_names]
  · rw [if_neg ht, eraseDups_concat, eraseDups_of_nodup declared.nodup_names]
    simp only [ht, false_or, List.contains_iff_mem]
    rfl

/-- No language is stored twice. -/
theorem nodup_storedLanguages (declared : LanguageSet) (t : RuleType) :
    (storedLanguages declared t).Nodup := by
  rw [← eraseDups_loadedLanguages]
  exact nodup_eraseDups _

/-- The declared languages are stored, and the common one unless the rules for finding languages are
loaded. -/
theorem mem_storedLanguages {declared : LanguageSet} {t : RuleType} {language : List Char} :
    language ∈ storedLanguages declared t ↔
      language ∈ declared ∨ language = commonLanguage ∧ t ≠ .rules := by
  rw [← eraseDups_loadedLanguages, List.mem_eraseDups, loadedLanguages, List.mem_append]
  refine or_congr Iff.rfl ?_
  by_cases ht : t = .rules
  · rw [if_pos ht]
    exact iff_of_false List.not_mem_nil fun h => h.2 ht
  · rw [if_neg ht, List.mem_singleton]
    exact (and_iff_left ht).symm

/-- The keys that a build stores rules for. Name types and rule types stand where they are first
asked for. -/
def declaredKeys (registry : LanguageRegistry) (nameTypes : List NameType)
    (ruleTypes : List RuleType) : List RuleKey :=
  nameTypes.eraseDups.flatMap fun n =>
    keysOf n ruleTypes.eraseDups (storedLanguages (registry.declaredSet n))

section Stored

variable {L : Loader Rule} {registry : LanguageRegistry} {nameTypes : List NameType}
  {ruleTypes : List RuleType} {r : Repository} {k : RuleKey}

/-- The declared keys are all different. -/
theorem nodup_declaredKeys (registry : LanguageRegistry) (nameTypes : List NameType)
    (ruleTypes : List RuleType) : (declaredKeys registry nameTypes ruleTypes).Nodup :=
  nodup_flatMap_keysOf (nodup_eraseDups _) (nodup_eraseDups _)
    fun _ _ _ _ => nodup_storedLanguages _ _

/-- The declared keys join name types and rule types with the declared languages and the common one.
-/
theorem mem_declaredKeys :
    k ∈ declaredKeys registry nameTypes ruleTypes ↔
      k.nameType ∈ nameTypes ∧ k.ruleType ∈ ruleTypes ∧
        (k.language ∈ registry.declaredSet k.nameType ∨
          k.language = commonLanguage ∧ k.ruleType ≠ .rules) := by
  refine (mem_flatMap_keysOf ..).trans ?_
  rw [List.mem_eraseDups, List.mem_eraseDups, mem_storedLanguages]

/-- A build with a result stores the rules for each declared key. -/
theorem table_of_build (h : (build L registry nameTypes ruleTypes).result = .ok r) :
    r.table = contents nameTypes.eraseDups ruleTypes.eraseDups
      (fun n => storedLanguages (registry.declaredSet n)) (rulesFor L) := by
  obtain ⟨-, loaded, hloaded, rfl, -⟩ := build_of_ok h
  rw [eq_of_loadNameTypes registry.truthful_nil hloaded, tableOf_contents]
  simp only [eraseDups_loadedLanguages]

/-- A repository that was built holds the declared keys in their order. -/
theorem keys_of_build (h : (build L registry nameTypes ruleTypes).result = .ok r) :
    r.keys = declaredKeys registry nameTypes ruleTypes := by
  obtain ⟨table, diagnostics⟩ := r
  obtain rfl : table = _ := table_of_build h
  exact keys_contents _ _ _ _ _

/-- A build with a result has read the languages of every name type. -/
theorem declared_of_build (h : (build L registry nameTypes ruleTypes).result = .ok r)
    {n : NameType} (hn : n ∈ nameTypes) : registry.declared n = .ok (registry.declaredSet n) := by
  obtain ⟨hsteps, -⟩ := build_of_ok h
  have hstep := hsteps (.languages n) (List.mem_flatMap.2 ⟨n, hn, List.mem_cons_self⟩)
  rw [BuildStep.result] at hstep
  cases hdeclared : registry.declared n with
  | error e =>
    rw [hdeclared] at hstep
    cases hstep
  | ok declared => rw [LanguageRegistry.declaredSet_of_ok hdeclared]

/-- A build with a result has loaded the catalog of every key that it stores rules for. -/
theorem load_of_build (h : (build L registry nameTypes ruleTypes).result = .ok r)
    (hk : k ∈ declaredKeys registry nameTypes ruleTypes) :
    (L.load k.catalog).result = .ok (rulesFor L k) := by
  obtain ⟨hn, ht, hlanguage⟩ := mem_declaredKeys.1 hk
  obtain ⟨hsteps, -⟩ := build_of_ok h
  have hloaded : k.language ∈ loadedLanguages (registry.declaredSet k.nameType) k.ruleType := by
    rw [← List.mem_eraseDups, eraseDups_loadedLanguages]
    exact mem_storedLanguages.2 hlanguage
  -- The catalog of the key is a step of the plan, and every step of the plan went well.
  have hmem : .catalog k ∈ planFor registry ruleTypes k.nameType := by
    rw [planFor, declared_of_build h hn]
    exact List.mem_cons_of_mem _ (List.mem_map_of_mem (mem_keysOf.2 ⟨rfl, ht, hloaded⟩))
  have hstep := hsteps _ (List.mem_flatMap.2 ⟨k.nameType, hn, hmem⟩)
  rw [BuildStep.result] at hstep
  cases hload : (L.load k.catalog).result with
  | error e =>
    rw [hload] at hstep
    cases hstep
  | ok rules => rw [rulesFor, Walk.yield_of_ok hload]

/-- A build with a result finds the rules of the keys that it stores rules for, and of no others.
-/
theorem find?_of_build (h : (build L registry nameTypes ruleTypes).result = .ok r) (k : RuleKey) :
    r.find? k =
      if k ∈ declaredKeys registry nameTypes ruleTypes then some (rulesFor L k) else none := by
  obtain ⟨table, diagnostics⟩ := r
  obtain rfl : table = _ := table_of_build h
  exact find?_contents _ _ _ _ _ k

end Stored

end Repository

/-- A build stores exactly the declared catalogs. If it has a result, its keys are the declared ones
without repetition: those of the name types and rule types that were asked for whose language is
declared for the name type, or is the common one and the rule type is not that of the main rules.
The rules of a key are those that the loader reads from its catalog, and each key counts once. If
the build fails, it does so at the first step of its plan that fails, with the error of that step,
and nothing is requested after it. -/
theorem build_stores_declared (L : Loader Rule) (registry : LanguageRegistry)
    (nameTypes : List NameType) (ruleTypes : List RuleType) :
    let w := Repository.build L registry nameTypes ruleTypes
    (∀ r, w.result = .ok r →
      r.keys = Repository.declaredKeys registry nameTypes ruleTypes ∧ r.keys.Nodup ∧
      (∀ k, k ∈ r.keys ↔ k.nameType ∈ nameTypes ∧ k.ruleType ∈ ruleTypes ∧
        ∃ declared, registry.declared k.nameType = .ok declared ∧
          (k.language ∈ declared ∨ k.language = commonLanguage ∧ k.ruleType ≠ .rules)) ∧
      (∀ k ∈ r.keys, ∃ rules, (L.load k.catalog).result = .ok rules ∧
        ∀ n t, Repository.key? n t k.language = some k →
          (r.lookup n t (.one k.language)).result = .ok rules) ∧
      r.ruleCount = (r.keys.map fun k => (L.load k.catalog).yield.length).sum) ∧
    ∀ e, w.result = .error e → ∃ done step rest,
      Repository.plan registry nameTypes ruleTypes = done ++ step :: rest ∧
      (∀ earlier ∈ done, earlier.result L registry = .ok ()) ∧ step.result L registry = .error e ∧
      w.trace.opened = (Repository.traceOf L registry [] (done ++ [step])).opened := by
  intro w
  refine ⟨fun r hr => ?_, fun e he => ?_⟩
  · -- Everything about the table follows from its being the table of the declared keys.
    rw [Repository.keys_of_build hr]
    refine ⟨rfl, Repository.nodup_declaredKeys _ _ _, fun k => ?_, fun k hk => ?_, ?_⟩
    · rw [Repository.mem_declaredKeys]
      refine and_congr_right fun hn => and_congr_right fun _ => ?_
      constructor
      · exact fun h => ⟨_, Repository.declared_of_build hr hn, h⟩
      · rintro ⟨declared, hdeclared, h⟩
        rwa [LanguageRegistry.declaredSet_of_ok hdeclared]
    · refine ⟨_, Repository.load_of_build hr hk, fun n t hkey => ?_⟩
      have hfound : (Repository.key? n t k.language).bind r.find? =
          some (Repository.rulesFor L k) := by
        rw [hkey]
        exact (Repository.find?_of_build hr k).trans (if_pos hk)
      rw [Repository.lookup, Requested.language, hfound]
    · obtain ⟨table, diagnostics⟩ := r
      obtain rfl : table = _ := Repository.table_of_build hr
      exact Repository.ruleCount_contents _ _ _ _ _
  · obtain ⟨done, step, rest, hplan, hdone, hstep, htrace⟩ := Repository.build_of_error he
    refine ⟨done, step, rest, hplan, hdone, hstep, ?_⟩
    rw [htrace]
    rfl

/-- Catalogs of two languages, one of them named like the common one. -/
def sharedNameSource : Source :=
  .ofList [("gen_languages".toList, "polish\ncommon".toList),
    ("gen_approx_polish".toList, "x '' '' x".toList),
    ("gen_approx_common".toList, "y '' '' y".toList)]

/-- The loader of texts that has no catalog open inside of another one. -/
def flatLoader (source : Source) : Loader Rule := .ofKind .text source 1

/-- A loader for these catalogs. -/
def sharedNameLoader : Loader Rule := flatLoader sharedNameSource

/-- A build with a name type given twice and a declared language of the common name, and one that
stops at a list of languages that is missing. -/
theorem build_stores_declared_shared_name :
    (∃ r, (Repository.build sharedNameLoader (.catalogs sharedNameSource)
          [.generic, .generic] [.approx]).result = .ok r ∧
      r.keys = [⟨.generic, .approx, "common".toList⟩, ⟨.generic, .approx, "polish".toList⟩] ∧
      r.ruleCount = 2) ∧
    ∃ done step rest,
      Repository.plan (.catalogs sharedNameSource) [.generic, .sephardic] [.approx] =
        done ++ step :: rest ∧
      step.result sharedNameLoader (.catalogs sharedNameSource) =
        .error (.notOpened "sep_languages".toList .notHeld) ∧
      (Repository.build sharedNameLoader (.catalogs sharedNameSource)
          [.generic, .sephardic] [.approx]).trace.opened =
        (Repository.traceOf sharedNameLoader (.catalogs sharedNameSource) []
          (done ++ [step])).opened := by
  obtain ⟨r, hr⟩ : (Repository.build sharedNameLoader (.catalogs sharedNameSource)
      [.generic, .generic] [.approx]).Succeeds := Walk.error?_eq_none.1 (by decide +kernel)
  have he : (Repository.build sharedNameLoader (.catalogs sharedNameSource)
      [.generic, .sephardic] [.approx]).result =
        .error (.notOpened "sep_languages".toList .notHeld) :=
    Walk.error?_eq_some.1 (by decide +kernel)
  have hdeclared : Repository.declaredKeys (.catalogs sharedNameSource)
      [.generic, .generic] [.approx] =
        [⟨.generic, .approx, "common".toList⟩, ⟨.generic, .approx, "polish".toList⟩] := by
    decide +kernel
  obtain ⟨hkeys, -, -, -, hcount⟩ := (build_stores_declared sharedNameLoader _ _ _).1 r hr
  obtain ⟨done, step, rest, hplan, -, hstep, hopened⟩ :=
    (build_stores_declared sharedNameLoader _ _ _).2 _ he
  rw [hkeys, hdeclared] at hcount
  refine ⟨⟨r, hr, hkeys.trans hdeclared, hcount.trans ?_⟩, done, step, rest, hplan, hstep,
    hopened⟩
  decide +kernel

end PhoneticCatalog
