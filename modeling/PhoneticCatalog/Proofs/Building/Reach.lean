import PhoneticCatalog.Catalog.FileSource
import PhoneticCatalog.Proofs.Building.Keys
import PhoneticCatalog.Proofs.Inclusion.DepthBound
import PhoneticCatalog.Proofs.Inclusion.Requests
import PhoneticCatalog.Proofs.Sessions.History

/-!
# What stored rules depend on

The rules that a build stores for a key depend on the catalogs of languages and on those catalogs
that the one of the key reaches by includes. Whatever else is in the source, also the catalogs of
other keys that the same loader has read before, makes no difference.
-/

namespace PhoneticCatalog

open Catalog

/-- Sources with the same catalog of languages, or none, declare the same. -/
theorem Catalog.LanguageRegistry.declaredSet_catalogs_eq {lists lists' : Source} {n : NameType}
    (h : lists.AgreesOn lists' n.languagesCatalog) :
    (catalogs lists).declaredSet n = (catalogs lists').declaredSet n := by
  have hset : ∀ source : Source, (catalogs source).declaredSet n =
      ((source.read n.languagesCatalog).result.toOption.map parseLanguages).getD .empty := by
    intro source
    rw [declaredSet, declared_catalogs]
    cases (source.read n.languagesCatalog).result <;> rfl
  unfold Source.AgreesOn at h
  rw [hset, hset, h]

namespace Catalog.Loader

variable {kind : Journal.LoaderKind} {source source' : Source} {depth depth' : ℕ+}
  {name : List Char} {rules rules' : List Rule}

/-- Two loads with results give the same rules if the sources hold the same texts wherever includes
lead to in the first one. -/
theorem rules_eq_of_reach (h : ((ofKind kind source depth).load name).result = .ok rules)
    (h' : ((ofKind kind source' depth').load name).result = .ok rules')
    (hreach : ∀ path, source.IncludePath kind name path → ∀ x ∈ path, source.AgreesOn source' x) :
    rules = rules' := by
  -- With a depth that is enough for both, only the sources differ.
  have havoids : ∀ {w : Walk (List Rule)} {rs : List Rule}, w.result = .ok rs →
      w.Avoids LoadError.IsTooDeep :=
    fun hok e he => absurd (hok.symm.trans he) nofun
  rw [← load_eq_of_le (le_max_left depth depth') (havoids h)] at h
  rw [← load_eq_of_le (le_max_right depth depth') (havoids h')] at h'
  have hsame : Walk.Same source source'
      ((ofKind kind source (max depth depth')).load name)
      ((ofKind kind source' (max depth depth')).load name) := by
    refine answer_sameIf (ofKind kind source (max depth depth')) source' (.load name) ?_
    intro x hx
    obtain ⟨path, hpath, hmem⟩ := includePath_of_opened hx
    exact hreach path hpath x hmem
  exact Except.ok.inj ((hsame.result_of_ok h).symm.trans h')

end Catalog.Loader

namespace Repository

variable {kind : Journal.LoaderKind} {source source' lists lists' : Source} {depth depth' : ℕ+}
  {nameTypes : List NameType} {ruleTypes : List RuleType} {r r' : Repository}

/-- Of two builds over the same lists of languages, a key has the same rules in both if the sources
hold the same texts wherever includes lead to from its catalog. -/
theorem find?_eq_of_reach
    (h : (build (.ofKind kind source depth) (.catalogs lists) nameTypes ruleTypes).result = .ok r)
    (h' : (build (.ofKind kind source' depth') (.catalogs lists') nameTypes ruleTypes).result =
      .ok r')
    (hlists : ∀ n ∈ nameTypes, lists.AgreesOn lists' n.languagesCatalog)
    {k : RuleKey} (hreach : ∀ path, source.IncludePath kind k.catalog path → ∀ x ∈ path,
      source.AgreesOn source' x) :
    r.find? k = r'.find? k := by
  have hkeys : declaredKeys (.catalogs lists) nameTypes ruleTypes =
      declaredKeys (.catalogs lists') nameTypes ruleTypes := by
    refine List.flatMap_congr fun n hn => ?_
    rw [LanguageRegistry.declaredSet_catalogs_eq (hlists n (List.mem_eraseDups.1 hn))]
  rw [find?_of_build h, find?_of_build h', ← hkeys]
  by_cases hk : k ∈ declaredKeys (.catalogs lists) nameTypes ruleTypes
  · rw [if_pos hk, if_pos hk,
      Loader.rules_eq_of_reach (load_of_build h hk) (load_of_build h' (hkeys ▸ hk)) hreach]
  · rw [if_neg hk, if_neg hk]

end Repository

/-- Loads and parses depend on nothing but the answers to what they request. Over two sources that
hold the same texts, or none, under all names that the first run requests, the second run has the
same diagnostics and counters, the same requests, and the same result or error, unless both sources
refuse a requested catalog: then each run ends in the refusal of its source. If the answers are the
same with the reasons of refusals, the errors are as well.

So whatever differs between the sources of two builds with results, and whatever the loaders and
registries have been used for before, a look-up has the same answer in both if the sources hold the
same catalogs of languages and the same catalogs wherever includes lead to from the catalog that is
looked up. -/
theorem loads_depend_on_requests (kind : Journal.LoaderKind) (source source' : Source)
    (depth : ℕ+) :
    let L := Loader.ofKind kind source depth
    let L' := Loader.ofKind kind source' depth
    (∀ call, (∀ x ∈ (L.answer call).trace.opened, source.AgreesOn source' x) →
      ((L.answer call).result = (L'.answer call).result ∨
        Walk.BothRefused source source' (L.answer call) (L'.answer call)) ∧
      ((∀ x ∈ (L.answer call).trace.opened, (source.read x).result = (source'.read x).result) →
        (L.answer call).result = (L'.answer call).result) ∧
      (L.answer call).trace.diagnostics = (L'.answer call).trace.diagnostics ∧
      (L.answer call).trace.counters = (L'.answer call).trace.counters ∧
      (L.answer call).trace.opened = (L'.answer call).trace.opened) ∧
    ∀ (depth' : ℕ+) (lists lists' : Source) history history' nameTypes ruleTypes r r',
      let M := Loader.ofKind kind source' depth'
      ((Session.after L (.catalogs lists) history).run
        (Session.build L (.catalogs lists) nameTypes ruleTypes)).1 = .ok r →
      ((Session.after M (.catalogs lists') history').run
        (Session.build M (.catalogs lists') nameTypes ruleTypes)).1 = .ok r' →
      (∀ n ∈ nameTypes, lists.AgreesOn lists' n.languagesCatalog) →
      ∀ n t requested, (∀ k, Repository.key? n t requested.language = some k →
        ∀ path, source.IncludePath kind k.catalog path → ∀ x ∈ path, source.AgreesOn source' x) →
      r.lookup n t requested = r'.lookup n t requested := by
  intro L L'
  refine ⟨fun call hagree => ?_, ?_⟩
  · have h : (L.answer call).Same source source' (L'.answer call) :=
      L.answer_sameIf source' call hagree
    exact ⟨h.result, h.result_eq, h.diagnostics, h.counters, h.opened⟩
  · intro depth' lists lists' history history' nameTypes ruleTypes r r' M hr hr' hlists n t
      requested hreach
    -- Both builds are those of new loaders and registries.
    rw [(Session.run_build L (Session.truthful_after L _ history) _ _).1] at hr
    rw [(Session.run_build M (Session.truthful_after M _ history') _ _).1] at hr'
    have hfind : (Repository.key? n t requested.language).bind r.find? =
        (Repository.key? n t requested.language).bind r'.find? := by
      cases hkey : Repository.key? n t requested.language with
      | none => rfl
      | some k => exact Repository.find?_eq_of_reach hr hr' hlists (hreach k hkey)
    rw [Repository.lookup, Repository.lookup, hfind]

/-- Catalogs of a language and of the common one, which holds the given text. -/
def commonTextSource (text : String) : Source :=
  .ofList [("gen_languages".toList, "polish".toList),
    ("gen_approx_polish".toList, "x '' '' x".toList),
    ("gen_approx_common".toList, text.toList)]

/-- The catalog of the language includes nothing. -/
theorem commonTextSource_path {text : String} {path : List (List Char)}
    (h : (commonTextSource text).IncludePath .text "gen_approx_polish".toList path) :
    path = ["gen_approx_polish".toList] := by
  rcases h.cases with rfl | ⟨b, rest, -, ⟨polish, hread, before, raw, after, hlines, -, hraw⟩, -⟩
  · rfl
  · have hpolish : ((commonTextSource text).read "gen_approx_polish".toList).result =
        .ok "x '' '' x".toList := rfl
    obtain rfl := Except.ok.inj (hpolish.symm.trans hread)
    -- The catalog has a single line, and this is no include.
    have hsole : Text.splitLines "x '' '' x".toList = ["x '' '' x".toList] := by decide +kernel
    have hmem : raw ∈ ["x '' '' x".toList] := by
      rw [← hsole, hlines]
      exact List.mem_append_right _ List.mem_cons_self
    obtain rfl := List.mem_singleton.1 hmem
    have hrule : (match LineContent.ofLine "x '' '' x".toList with
        | .include _ => true
        | _ => false) = false := by decide +kernel
    rw [hraw] at hrule
    cases hrule

/-- A build of these catalogs with a loader that has looked for another one in vain. -/
theorem commonTextSource_builds (text : String)
    (h : (Repository.build (.ofKind .text (commonTextSource text) 1)
      (.catalogs (commonTextSource text)) [.generic] [.approx]).error? = none) :
    ∃ r, ((Session.after (.ofKind .text (commonTextSource text) 1)
        (.catalogs (commonTextSource text)) [.call (.load "missing".toList)]).run
      (Session.build (.ofKind .text (commonTextSource text) 1) (.catalogs (commonTextSource text))
        [.generic] [.approx])).1 = .ok r := by
  obtain ⟨r, hr⟩ := Walk.error?_eq_none.1 h
  exact ⟨r, (Session.run_build _ (Session.truthful_after _ _ _) _ _).1.trans hr⟩

/-- Two sources that differ in a catalog which is not requested. -/
theorem loads_depend_on_requests_common_text :
    ((Loader.ofKind .text (commonTextSource "y '' '' y") 1).load
        "gen_approx_polish".toList).result =
      ((Loader.ofKind .text (commonTextSource "z '' '' z") 1).load
        "gen_approx_polish".toList).result ∧
    ∃ r r',
      ((Session.after (.ofKind .text (commonTextSource "y '' '' y") 1)
          (.catalogs (commonTextSource "y '' '' y")) [.call (.load "missing".toList)]).run
        (Session.build (.ofKind .text (commonTextSource "y '' '' y") 1)
          (.catalogs (commonTextSource "y '' '' y")) [.generic] [.approx])).1 = .ok r ∧
      ((Session.after (.ofKind .text (commonTextSource "z '' '' z") 1)
          (.catalogs (commonTextSource "z '' '' z")) [.call (.load "missing".toList)]).run
        (Session.build (.ofKind .text (commonTextSource "z '' '' z") 1)
          (.catalogs (commonTextSource "z '' '' z")) [.generic] [.approx])).1 = .ok r' ∧
      r.lookup (.nameType .generic) (.ruleType .approx) (.one "polish".toList) =
        r'.lookup (.nameType .generic) (.ruleType .approx) (.one "polish".toList) := by
  obtain ⟨r, hr⟩ := commonTextSource_builds "y '' '' y" (by decide +kernel)
  obtain ⟨r', hr'⟩ := commonTextSource_builds "z '' '' z" (by decide +kernel)
  -- Both sources have the same catalog of the language, which is all that it reaches.
  have hread : ∀ path, (commonTextSource "y '' '' y").IncludePath .text
      "gen_approx_polish".toList path → ∀ x ∈ path,
        ((commonTextSource "y '' '' y").read x).result =
          ((commonTextSource "z '' '' z").read x).result := by
    intro path hpath x hx
    rw [commonTextSource_path hpath] at hx
    obtain rfl := List.mem_singleton.1 hx
    rfl
  have hopened : ∀ x ∈ ((Loader.ofKind .text (commonTextSource "y '' '' y") 1).load
      "gen_approx_polish".toList).trace.opened,
        ((commonTextSource "y '' '' y").read x).result =
          ((commonTextSource "z '' '' z").read x).result := by
    intro x hx
    obtain ⟨path, hpath, hmem⟩ := Loader.includePath_of_opened hx
    exact hread path hpath x hmem
  obtain ⟨hcalls, hbuilds⟩ := loads_depend_on_requests .text (commonTextSource "y '' '' y")
    (commonTextSource "z '' '' z") 1
  have hload := hcalls (.load "gen_approx_polish".toList)
  simp only [Loader.answer] at hload
  obtain ⟨-, hresult, -⟩ := hload fun x hx => congrArg Except.toOption (hopened x hx)
  refine ⟨hresult hopened, r, r', hr, hr', hbuilds 1 _ _ _ _ _ _ r r' hr hr' ?_ _ _ _ ?_⟩
  · intro n hn
    obtain rfl := List.mem_singleton.1 hn
    rfl
  · intro k hk path hpath x hmem
    obtain rfl := Option.some.inj hk
    exact congrArg Except.toOption (hread path hpath x hmem)

/-- A folder without files, and a source that holds nothing. Both hold no text under a name, but the
folder says which file it has looked for, and so does the error of a load from it. -/
theorem absences_have_reasons :
    let held := Source.ofList []
    let folder := Source.ofFolder ⟨[]⟩ (.ofText "catalogs".toList) {}
    let name := "missing".toList
    ((Loader.ofKind .text held 1).load name).trace.opened = [name] ∧
    held.AgreesOn folder name ∧
    ((Loader.ofKind .text held 1).load name).result = .error (.notOpened name .notHeld) ∧
    ((Loader.ofKind .text folder 1).load name).result =
      .error (.notOpened name (.noFile "catalogs/missing.txt".toList)) := by
  intro held folder name
  refine ⟨?_, ?_, Walk.error?_eq_some.1 ?_, Walk.error?_eq_some.1 ?_⟩
  · show ((Loader.ofKind .text (.ofList []) 1).load "missing".toList).trace.opened =
      ["missing".toList]
    decide +kernel
  · show ((Source.ofList []).read "missing".toList).result.toOption =
      ((Source.ofFolder ⟨[]⟩ (.ofText "catalogs".toList) {}).read "missing".toList).result.toOption
    decide +kernel
  · show ((Loader.ofKind .text (.ofList []) 1).load "missing".toList).error? =
      some (.notOpened "missing".toList .notHeld)
    decide +kernel
  · show ((Loader.ofKind .text (.ofFolder ⟨[]⟩ (.ofText "catalogs".toList) {}) 1).load
        "missing".toList).error? =
      some (.notOpened "missing".toList (.noFile "catalogs/missing.txt".toList))
    decide +kernel

end PhoneticCatalog
