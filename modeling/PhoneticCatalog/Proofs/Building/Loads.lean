import PhoneticCatalog.Proofs.Building.Keys

/-!
# What a build loads

The catalogs that a build loads are those of the declared languages and, except for the main rules,
that of the common language at the end of each list. Nothing keeps a language from being declared
under the name of the common one. Its catalog is then stored once and loaded twice, with all of its
skipped lines reported twice, and it is stored for the main rules as well.

So a build without repeated arguments loads each catalog that it stores exactly once only if no name
type shares that name, or only main rules are asked for (`loads_follow_keys_iff`). For a shared name
this fails (`common_catalog_loaded_twice`).
-/

namespace PhoneticCatalog

open Catalog

namespace Repository

/-- The key whose catalog a step loads. -/
def BuildStep.key? : BuildStep → Option RuleKey
  | .languages _ => none
  | .catalog k => some k

/-- The keys whose catalogs a build loads, in order. -/
def loadedKeys (registry : LanguageRegistry) (nameTypes : List NameType)
    (ruleTypes : List RuleType) : List RuleKey :=
  (plan registry nameTypes ruleTypes).filterMap BuildStep.key?

variable {L : Loader Rule} {registry : LanguageRegistry} {nameTypes : List NameType}
  {ruleTypes : List RuleType} {r : Repository}

/-- The steps of some keys load the catalogs of these keys. -/
theorem filterMap_key?_catalogs (keys : List RuleKey) :
    (catalogs keys).filterMap BuildStep.key? = keys := by
  rw [catalogs, List.filterMap_map]
  exact List.filterMap_some

/-- Where all languages are declared, the catalogs are loaded name type by name type. -/
theorem loadedKeys_eq (h : ∀ n ∈ nameTypes, registry.declared n = .ok (registry.declaredSet n)) :
    loadedKeys registry nameTypes ruleTypes =
      nameTypes.flatMap fun n => keysOf n ruleTypes (loadedLanguages (registry.declaredSet n)) := by
  rw [loadedKeys, plan, List.filterMap_flatMap]
  refine List.flatMap_congr fun n hn => ?_
  rw [planFor, h n hn, List.filterMap_cons_none rfl]
  exact filterMap_key?_catalogs _

/-- Only the catalogs that are loaded have lines to skip. -/
theorem diagnostics_traceOf (before steps : List BuildStep) :
    (traceOf L registry before steps).diagnostics =
      (steps.filterMap BuildStep.key?).flatMap fun k => (L.load k.catalog).trace.diagnostics := by
  -- By induction over the steps. Reading a list of languages leaves no diagnostics.
  induction steps generalizing before with
  | nil => rfl
  | cons step rest ih =>
    rw [traceOf, Trace.diagnostics_append, ih]
    cases step with
    | languages n =>
      have hnone : ((BuildStep.languages n).trace L registry before).diagnostics = [] := by
        rw [BuildStep.trace]
        split
        · rfl
        · exact LanguageRegistry.diagnostics_languages registry [] n
      rw [hnone, List.filterMap_cons_none rfl, List.nil_append]
    | catalog k =>
      have hcons : (BuildStep.catalog k :: rest).filterMap BuildStep.key? =
          k :: rest.filterMap BuildStep.key? := rfl
      rw [hcons, List.flatMap_cons]
      rfl

/-- A repository has as many catalogs as keys. -/
theorem catalogCount_contents (nameTypes : List NameType) (ruleTypes : List RuleType)
    (languages : NameType → RuleType → List (List Char)) (rules : RuleKey → List Rule) :
    catalogCount (contents nameTypes ruleTypes languages rules) =
      (nameTypes.flatMap fun n => keysOf n ruleTypes (languages n)).length := by
  simp only [catalogCount, contents, keysOf, Table.total_map, List.length_flatMap, List.length_map]

/-! ## Shared names -/

/-- A list of languages holds the common one twice if it is declared, except for main rules. -/
theorem nodup_loadedLanguages_iff {declared : LanguageSet} {t : RuleType} :
    (loadedLanguages declared t).Nodup ↔ (commonLanguage ∈ declared → t = .rules) := by
  rw [loadedLanguages]
  by_cases ht : t = .rules
  · rw [if_pos ht, List.append_nil]
    exact iff_of_true declared.nodup_names fun _ => ht
  · rw [if_neg ht, ← List.concat_eq_append, List.nodup_concat, and_iff_left declared.nodup_names]
    exact ⟨fun h hmem => absurd hmem h, fun h hmem => ht (h hmem)⟩

/-- What is loaded for a rule type is what is stored, unless the common language is declared. -/
theorem loadedLanguages_eq_of {declared : LanguageSet} {t : RuleType}
    (h : commonLanguage ∈ declared → t = .rules) :
    loadedLanguages declared t = storedLanguages declared t := by
  rw [← eraseDups_loadedLanguages, eraseDups_of_nodup (nodup_loadedLanguages_iff.2 h)]

/-- If no key is loaded twice, no language is declared under the name of the common one where the
common one is loaded as well. -/
theorem unshared_of_nodup (h : (nameTypes.flatMap fun n =>
      keysOf n ruleTypes (loadedLanguages (registry.declaredSet n))).Nodup)
    {n : NameType} (hn : n ∈ nameTypes) (hcommon : commonLanguage ∈ registry.declaredSet n)
    {t : RuleType} (ht : t ∈ ruleTypes) : t = .rules := by
  have hkeys := (List.nodup_flatMap.1 h).1 n hn
  have hlanguages := ((List.nodup_flatMap.1 hkeys).1 t ht).of_map
  exact nodup_loadedLanguages_iff.1 hlanguages hcommon

end Repository

/-- A build of different name types and rule types with a result does nothing but load catalogs, one
for each key of a list, after reading the languages of their name type. Its diagnostics are those
of these loads, one after the other. The list is that of the keys of the repository exactly if no
language is declared under the name of the common one, or only main rules are asked for. The common
language is stored only for other rule types exactly if main rules are not asked for or no language
is declared under its name. -/
theorem loads_follow_keys_iff {L : Loader Rule} {registry : LanguageRegistry}
    {nameTypes : List NameType} {ruleTypes : List RuleType} {r : Repository}
    (hn : nameTypes.Nodup) (ht : ruleTypes.Nodup)
    (h : (Repository.build L registry nameTypes ruleTypes).result = .ok r) :
    let loads := Repository.loadedKeys registry nameTypes ruleTypes
    (Repository.build L registry nameTypes ruleTypes).trace =
      { events := [.buildStarted L.format.kind nameTypes ruleTypes] }
        ++ Repository.traceOf L registry [] (Repository.plan registry nameTypes ruleTypes)
        ++ { events := [.buildCompleted loads.length r.ruleCount r.diagnostics.length] } ∧
    r.diagnostics = loads.flatMap (fun k => (L.load k.catalog).trace.diagnostics) ∧
    (loads = r.keys ↔
      ∀ n ∈ nameTypes, commonLanguage ∈ registry.declaredSet n → ∀ t ∈ ruleTypes, t = .rules) ∧
    ((∀ k ∈ r.keys, k.language = commonLanguage → k.ruleType ≠ .rules) ↔
      ∀ n ∈ nameTypes, commonLanguage ∈ registry.declaredSet n → .rules ∉ ruleTypes) := by
  intro loads
  have hdeclared : ∀ n ∈ nameTypes, registry.declared n = .ok (registry.declaredSet n) :=
    fun n hmem => Repository.declared_of_build h hmem
  have hloads : loads = nameTypes.flatMap fun n =>
      Repository.keysOf n ruleTypes (Repository.loadedLanguages (registry.declaredSet n)) :=
    Repository.loadedKeys_eq hdeclared
  have hkeys : r.keys = nameTypes.flatMap fun n =>
      Repository.keysOf n ruleTypes (Repository.storedLanguages (registry.declaredSet n)) := by
    rw [Repository.keys_of_build h, Repository.declaredKeys, eraseDups_of_nodup hn,
      eraseDups_of_nodup ht]
  obtain ⟨-, loaded, hloaded, hr, htrace⟩ := Repository.build_of_ok h
  refine ⟨?_, ?_, ⟨fun heq => ?_, fun hunshared => ?_⟩, ⟨fun hothers => ?_, fun hmain => ?_⟩⟩
  · have hcount : Repository.catalogCount loaded = loads.length := by
      rw [Repository.eq_of_loadNameTypes registry.truthful_nil hloaded, hloads]
      exact Repository.catalogCount_contents _ _ _ _
    rw [htrace, hcount]
  · rw [hr]
    exact Repository.diagnostics_traceOf _ _
  · -- Keys are never repeated, so neither are loads that follow them.
    have hnodup : loads.Nodup := by
      rw [heq, Repository.keys_of_build h]
      exact Repository.nodup_declaredKeys _ _ _
    rw [hloads] at hnodup
    exact fun n hmem hcommon t => Repository.unshared_of_nodup hnodup hmem hcommon
  · rw [hloads, hkeys]
    refine List.flatMap_congr fun n hmem => List.flatMap_congr fun t htmem => ?_
    rw [Repository.loadedLanguages_eq_of fun hcommon => hunshared n hmem hcommon t htmem]
  · -- A common language that is declared is stored for the main rules like any other.
    intro n hmem hcommon hrules
    have hkey : (⟨n, .rules, commonLanguage⟩ : RuleKey) ∈ r.keys := by
      rw [Repository.keys_of_build h]
      exact Repository.mem_declaredKeys.2 ⟨hmem, hrules, Or.inl hcommon⟩
    exact hothers _ hkey rfl rfl
  · intro k hk hlanguage hrules
    rw [Repository.keys_of_build h] at hk
    obtain ⟨hmem, hruleType, hcommon | ⟨-, hother⟩⟩ := Repository.mem_declaredKeys.1 hk
    · exact hmain k.nameType hmem (hlanguage ▸ hcommon) (hrules ▸ hruleType)
    · exact hother hrules

/-- A catalog for the common language with a line that is skipped, and two for another language. -/
def brokenCommonSource : Source :=
  .ofList [("gen_approx_common".toList, "broken".toList),
    ("gen_approx_polish".toList, "x '' '' x".toList), ("gen_rules_polish".toList, [])]

/-- A loader for these catalogs. -/
def brokenCommonLoader : Loader Rule := flatLoader brokenCommonSource

/-- A registry that declares a single language for one name type. -/
def soleLanguage (language : String) : LanguageRegistry :=
  .fixed [(.generic, .ofList [language.toList])]

/-- A registry without a language of the common name, over a broken common catalog. -/
theorem loads_follow_keys_polish :
    ∃ r, (Repository.build brokenCommonLoader (soleLanguage "polish") [.generic]
          [.approx, .rules]).result = .ok r ∧
      Repository.loadedKeys (soleLanguage "polish") [.generic] [.approx, .rules] = r.keys ∧
      r.diagnostics =
        r.keys.flatMap fun k => (brokenCommonLoader.load k.catalog).trace.diagnostics := by
  obtain ⟨r, hr⟩ : (Repository.build brokenCommonLoader (soleLanguage "polish") [.generic]
      [.approx, .rules]).Succeeds := Walk.error?_eq_none.1 (by decide +kernel)
  obtain ⟨-, hdiagnostics, hkeys, -⟩ := loads_follow_keys_iff (by decide) (by decide) hr
  have hloads := hkeys.2 (by decide +kernel)
  exact ⟨r, hr, hloads, hloads ▸ hdiagnostics⟩

/-- A language that is declared under the name of the common one has its catalog loaded twice. The
repository has a single key, and reports the line that is skipped in its catalog two times. -/
theorem common_catalog_loaded_twice :
    let k : RuleKey := ⟨.generic, .approx, commonLanguage⟩
    let d : Diagnostic := ⟨"gen_approx_common".toList, 1, .rule 1, "broken".toList⟩
    ∃ r, (Repository.build brokenCommonLoader (soleLanguage "common") [.generic]
          [.approx]).result = .ok r ∧
      r.keys = [k] ∧
      Repository.loadedKeys (soleLanguage "common") [.generic] [.approx] = [k, k] ∧
      (brokenCommonLoader.load k.catalog).trace.diagnostics = [d] ∧ r.diagnostics = [d, d] := by
  intro k d
  obtain ⟨r, hr⟩ : (Repository.build brokenCommonLoader (soleLanguage "common") [.generic]
      [.approx]).Succeeds := Walk.error?_eq_none.1 (by decide +kernel)
  -- The second load replaces the rules, but its diagnostic is kept beside that of the first one.
  have hstored : (Repository.build brokenCommonLoader (soleLanguage "common") [.generic]
      [.approx]).result.toOption.map (fun r => (r.keys, r.diagnostics)) =
        some ([⟨.generic, .approx, commonLanguage⟩],
          [⟨"gen_approx_common".toList, 1, .rule 1, "broken".toList⟩,
            ⟨"gen_approx_common".toList, 1, .rule 1, "broken".toList⟩]) := by
    decide +kernel
  rw [hr] at hstored
  obtain ⟨hkeys, hdiagnostics⟩ := Prod.mk.inj (Option.some.inj hstored)
  refine ⟨r, hr, hkeys, ?_, ?_, hdiagnostics⟩
  · show Repository.loadedKeys (soleLanguage "common") [.generic] [.approx] =
      [⟨.generic, .approx, commonLanguage⟩, ⟨.generic, .approx, commonLanguage⟩]
    decide +kernel
  · show (brokenCommonLoader.load "gen_approx_common".toList).trace.diagnostics =
      [⟨"gen_approx_common".toList, 1, .rule 1, "broken".toList⟩]
    decide +kernel

end PhoneticCatalog
