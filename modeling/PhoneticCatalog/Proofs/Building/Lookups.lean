import Mathlib.Algebra.BigOperators.Group.List.Basic
import PhoneticCatalog.Proofs.Building.Plan
import PhoneticCatalog.Proofs.Building.Tables

/-!
# Look-ups and keys

The entries of a repository are its keys with their rules (`Repository.entries`). A repository that
has been built or made from a table has every key once, so that a look-up finds exactly the entries
whose keys are asked for (`Repository.result_lookup_eq_ok_iff`). Keys, look-ups and the number of
rules are three readings of the same entries (`lookup_agrees_with_keys`).

What arguments ask for is stated as relations: `Argument.IsNameType`, `Argument.IsRuleType` and
`Requested.ComesTo`, which together say that a key is asked for (`RuleKey.IsAskedBy`).
-/

namespace PhoneticCatalog

/-! ## What is asked for -/

/-- A name type is found by its value alone. -/
theorem NameType.ofValue?_eq_some_iff {s : List Char} {n : NameType} :
    ofValue? s = some n ↔ s = n.value := by
  constructor
  · intro h
    have hvalue := List.find?_some h
    exact (of_decide_eq_true hvalue).symm
  · rintro rfl
    cases n <;> rfl

/-- A rule type is found by its value alone. -/
theorem RuleType.ofValue?_eq_some_iff {s : List Char} {t : RuleType} :
    ofValue? s = some t ↔ s = t.value := by
  constructor
  · intro h
    have hvalue := List.find?_some h
    exact (of_decide_eq_true hvalue).symm
  · rintro rfl
    cases t <;> rfl

namespace Argument

/-- The argument is a name type or its value. -/
inductive IsNameType : Argument → NameType → Prop
  | member (n : NameType) : IsNameType (.nameType n) n
  | value (n : NameType) : IsNameType (.text n.value) n

/-- The argument is a rule type or its value. -/
inductive IsRuleType : Argument → RuleType → Prop
  | member (t : RuleType) : IsRuleType (.ruleType t) t
  | value (t : RuleType) : IsRuleType (.text t.value) t

/-- What an argument is called where nothing is found for it: a member by its value, anything else
by its own text. Where the text denotes a member it is the value of that member. -/
inductive IsNamed : Argument → List Char → Prop
  | nameType (n : NameType) : IsNamed (.nameType n) n.value
  | ruleType (t : RuleType) : IsNamed (.ruleType t) t.value
  | text (s : List Char) : IsNamed (.text s) s
  | integer (i : Int) : IsNamed (.integer i) (toString i).toList
  | decimal (x : Text.Binary64) : IsNamed (.decimal x) x.shown
  | yes : IsNamed (.truth true) "True".toList
  | no : IsNamed (.truth false) "False".toList
  | nothing : IsNamed .nothing "None".toList

/-- An argument gives the name type that it stands for. -/
theorem nameType?_eq_some_iff {a : Argument} {n : NameType} :
    a.nameType? = some n ↔ a.IsNameType n := by
  constructor
  · intro h
    cases a with
    | nameType m =>
      obtain rfl := Option.some.inj h
      exact .member m
    | text s =>
      obtain rfl := NameType.ofValue?_eq_some_iff.1 h
      exact .value n
    | ruleType _ | integer _ | decimal _ | truth _ | nothing => cases h
  · rintro (_ | _)
    · rfl
    · exact NameType.ofValue?_eq_some_iff.2 rfl

/-- An argument gives the rule type that it stands for. -/
theorem ruleType?_eq_some_iff {a : Argument} {t : RuleType} :
    a.ruleType? = some t ↔ a.IsRuleType t := by
  constructor
  · intro h
    cases a with
    | ruleType u =>
      obtain rfl := Option.some.inj h
      exact .member u
    | text s =>
      obtain rfl := RuleType.ofValue?_eq_some_iff.1 h
      exact .value t
    | nameType _ | integer _ | decimal _ | truth _ | nothing => cases h
  · rintro (_ | _)
    · rfl
    · exact RuleType.ofValue?_eq_some_iff.2 rfl

/-- The own text of an argument is a name for it. -/
theorem isNamed_ownText (a : Argument) : a.IsNamed a.ownText := by
  cases a with
  | nameType n => exact .nameType n
  | ruleType t => exact .ruleType t
  | text s => exact .text s
  | integer i => exact .integer i
  | decimal x => exact .decimal x
  | truth b => cases b with
    | true => exact .yes
    | false => exact .no
  | nothing => exact .nothing

end Argument

/-- The language that a request comes to: the one language, also where it is the only member of a
collection, and any language for every other collection. -/
inductive Requested.ComesTo : Requested → List Char → Prop
  | one (l : List Char) : ComesTo (.one l) l
  | single (l : List Char) : ComesTo (.several [l]) l
  | several (ls : List (List Char)) (h : ls.length ≠ 1) : ComesTo (.several ls) anyLanguage

/-- What was requested comes to a single language, its own. -/
theorem Requested.comesTo_iff {q : Requested} {l : List Char} : q.ComesTo l ↔ q.language = l := by
  constructor
  · rintro (_ | _ | ⟨ls, h⟩)
    · rfl
    · rfl
    · match ls, h with
      | [], _ => rfl
      | _ :: _ :: _, _ => rfl
  · rintro rfl
    match q with
    | .one l => exact .one l
    | .several [] => exact .several [] (by decide)
    | .several [l] => exact .single l
    | .several (a :: b :: rest) => exact .several (a :: b :: rest) (by simp)

/-- The key is asked for: the arguments denote its members, and the request comes to its
language. -/
structure RuleKey.IsAskedBy (k : RuleKey) (n t : Argument) (q : Requested) : Prop where
  nameType : n.IsNameType k.nameType
  ruleType : t.IsRuleType k.ruleType
  language : q.ComesTo k.language

/-- A key is asked for by its members and by their values, with its language alone or in a
collection. -/
theorem RuleKey.isAskedBy_of_mem {k : RuleKey} {n t : Argument} {q : Requested}
    (hn : n ∈ [.nameType k.nameType, .text k.nameType.value])
    (ht : t ∈ [.ruleType k.ruleType, .text k.ruleType.value])
    (hq : q ∈ [.one k.language, .several [k.language]]) : k.IsAskedBy n t q := by
  refine ⟨?_, ?_, ?_⟩
  · rcases List.mem_pair.1 hn with rfl | rfl
    · exact .member _
    · exact .value _
  · rcases List.mem_pair.1 ht with rfl | rfl
    · exact .member _
    · exact .value _
  · rcases List.mem_pair.1 hq with rfl | rfl
    · exact .one _
    · exact .single _

namespace Repository

variable {r : Repository} {k : RuleKey} {n t : Argument} {q : Requested} {rules : List Rule}

/-- A look-up finds a key if it is the one that is asked by it. -/
theorem key?_eq_some_iff : key? n t q.language = some k ↔ k.IsAskedBy n t q := by
  obtain ⟨m, u, l⟩ := k
  simp only [key?, Option.bind_eq_bind, Option.bind_eq_some_iff, Option.pure_def,
    Option.some.injEq, RuleKey.mk.injEq, Argument.nameType?_eq_some_iff,
    Argument.ruleType?_eq_some_iff]
  constructor
  · rintro ⟨m, hm, u, hu, rfl, rfl, hl⟩
    exact ⟨hm, hu, Requested.comesTo_iff.2 hl⟩
  · rintro ⟨hm, hu, hl⟩
    exact ⟨m, hm, u, hu, rfl, rfl, Requested.comesTo_iff.1 hl⟩

instance : Decidable (k.IsAskedBy n t q) := decidable_of_iff _ key?_eq_some_iff

/-! ## Entries -/

/-- The keys with their rules, in the order of the table. -/
def entries (r : Repository) : List (RuleKey × List Rule) :=
  r.table.flatMap fun (n, byRuleType) =>
    byRuleType.flatMap fun (t, byLanguage) =>
      byLanguage.map fun (l, rules) => (⟨n, t, l⟩, rules)

/-- The keys of a repository are those of its entries. -/
theorem map_fst_entries (r : Repository) : r.entries.map (·.1) = r.keys := by
  simp only [entries, keys, Table.keys, List.map_flatMap, List.map_map, Function.comp_def]

/-- The rules of a repository are those of its entries. -/
theorem ruleCount_eq_sum (r : Repository) :
    r.ruleCount = (r.entries.map fun entry => entry.2.length).sum := by
  simp only [ruleCount, entries, Table.total_eq_sum, List.flatMap, List.map_flatten, List.map_map,
    List.sum_flatten, Function.comp_def]

/-- An entry lies in the table of its rule type, which lies in that of its name type. -/
theorem mem_entries :
    (k, rules) ∈ r.entries ↔ ∃ byRuleType, (k.nameType, byRuleType) ∈ r.table ∧
      ∃ byLanguage, (k.ruleType, byLanguage) ∈ byRuleType ∧ (k.language, rules) ∈ byLanguage := by
  simp only [entries, List.mem_flatMap, List.mem_map, Prod.exists, Prod.mk.injEq]
  constructor
  · rintro ⟨n, byRuleType, hn, t, byLanguage, ht, l, _, hl, rfl, rfl⟩
    exact ⟨byRuleType, hn, byLanguage, ht, hl⟩
  · rintro ⟨byRuleType, hn, byLanguage, ht, hl⟩
    exact ⟨k.nameType, byRuleType, hn, k.ruleType, byLanguage, ht, k.language, rules, hl, rfl, rfl⟩

/-- A key of a repository has an entry. -/
theorem mem_keys : k ∈ r.keys ↔ ∃ rules, (k, rules) ∈ r.entries := by
  rw [← map_fst_entries, List.mem_map]
  constructor
  · rintro ⟨⟨k, rules⟩, hmem, rfl⟩
    exact ⟨rules, hmem⟩
  · rintro ⟨rules, hmem⟩
    exact ⟨(k, rules), hmem, rfl⟩

/-! ## Repositories that are made -/

/-- The repository has been made from a table, or a build has had it as its result. -/
inductive IsMade : Repository → Prop
  | ofTable (rules : List (NameType × List (RuleType × List (List Char × List Rule)))) :
      IsMade (.ofTable rules)
  | build {L : Catalog.Loader Rule} {registry : Catalog.LanguageRegistry}
      {nameTypes : List NameType} {ruleTypes : List RuleType} {r : Repository}
      (h : (build L registry nameTypes ruleTypes).result = .ok r) : IsMade r

/-- A repository that was made holds a table of some lists. -/
theorem IsMade.exists_table (hr : r.IsMade) : ∃ loaded, r.table = tableOf loaded := by
  cases hr with
  | ofTable rules => exact ⟨rules, rfl⟩
  | build h =>
    obtain ⟨-, loaded, -, rfl, -⟩ := build_of_ok h
    exact ⟨loaded, rfl⟩

/-- At every level of the table the keys are distinct. -/
structure HasDistinctKeys (r : Repository) : Prop where
  nameTypes : r.table.keys.Nodup
  ruleTypes : ∀ {n byRuleType}, (n, byRuleType) ∈ r.table → byRuleType.keys.Nodup
  languages : ∀ {n byRuleType}, (n, byRuleType) ∈ r.table →
    ∀ {t byLanguage}, (t, byLanguage) ∈ byRuleType → byLanguage.keys.Nodup

/-- A repository that was made has distinct keys at every level. -/
theorem IsMade.hasDistinctKeys (hr : r.IsMade) : r.HasDistinctKeys := by
  obtain ⟨loaded, htable⟩ := hr.exists_table
  -- Every inner table is the table of what was loaded for a name type, or for a rule type of it.
  have hinner : ∀ {n byRuleType}, (n, byRuleType) ∈ r.table →
      ∃ run : List (RuleType × List (List Char × List Rule)),
        byRuleType = .ofEntries (run.map fun entry => (entry.1, .ofEntries entry.2)) := by
    intro n byRuleType hmem
    rw [htable] at hmem
    obtain ⟨⟨_, run⟩, -, heq⟩ := List.mem_map.1 (Table.mem_of_mem_ofEntries hmem)
    exact ⟨run, (Prod.mk.inj heq).2.symm⟩
  refine ⟨?_, fun hmem => ?_, fun hmem t byLanguage hinmost => ?_⟩
  · rw [htable]
    exact Table.nodup_keys_ofEntries _
  · obtain ⟨run, rfl⟩ := hinner hmem
    exact Table.nodup_keys_ofEntries _
  · obtain ⟨run, rfl⟩ := hinner hmem
    obtain ⟨⟨_, list⟩, -, heq⟩ := List.mem_map.1 (Table.mem_of_mem_ofEntries hinmost)
    obtain rfl := (Prod.mk.inj heq).2
    exact Table.nodup_keys_ofEntries _

/-! ## Look-ups -/

/-- The rules that are found under a key are those of its entry. -/
theorem find?_eq_some_iff (h : r.HasDistinctKeys) :
    r.find? k = some rules ↔ (k, rules) ∈ r.entries := by
  simp only [find?, Option.bind_eq_bind, Option.bind_eq_some_iff, mem_entries,
    Table.find?_eq_some_iff h.nameTypes]
  refine exists_congr fun byRuleType => and_congr_right fun hn => ?_
  simp only [Table.find?_eq_some_iff (h.ruleTypes hn)]
  exact exists_congr fun byLanguage => and_congr_right fun ht =>
    Table.find?_eq_some_iff (h.languages hn ht)

/-- A look-up finds the rules of the key that is asked for. -/
theorem result_lookup_eq_ok_iff (h : r.HasDistinctKeys) :
    (r.lookup n t q).result = .ok rules ↔ ∃ k, k.IsAskedBy n t q ∧ (k, rules) ∈ r.entries := by
  have hbind : (key? n t q.language).bind r.find? = some rules ↔
      ∃ k, k.IsAskedBy n t q ∧ (k, rules) ∈ r.entries := by
    simp only [Option.bind_eq_some_iff, key?_eq_some_iff, find?_eq_some_iff h]
  rw [← hbind, lookup]
  cases (key? n t q.language).bind r.find? with
  | none => simp only [reduceCtorEq]
  | some found => simp only [Except.ok.injEq, Option.some.injEq]

/-- A look-up finds something if the key that is asked for is there. -/
theorem exists_result_lookup_iff (h : r.HasDistinctKeys) :
    (∃ rules, (r.lookup n t q).result = .ok rules) ↔ ∃ k ∈ r.keys, k.IsAskedBy n t q := by
  simp only [result_lookup_eq_ok_iff h, mem_keys]
  constructor
  · rintro ⟨rules, k, hk, hmem⟩
    exact ⟨k, ⟨rules, hmem⟩, hk⟩
  · rintro ⟨k, ⟨rules, hmem⟩, hk⟩
    exact ⟨rules, k, hk, hmem⟩

/-- A look-up that finds nothing says what was asked for. -/
theorem eq_of_result_lookup_eq_error {e : MissingRules}
    (h : (r.lookup n t q).result = .error e) : e = ⟨n, t, q.language⟩ := by
  rw [lookup] at h
  cases hfound : (key? n t q.language).bind r.find? with
  | none =>
    rw [hfound] at h
    exact (Except.error.inj h).symm
  | some found =>
    rw [hfound] at h
    cases h

/-- The rules that are found for the members and the language of a key, none if it is missing. -/
def rulesOf (r : Repository) (k : RuleKey) : List Rule :=
  match (r.lookup (.nameType k.nameType) (.ruleType k.ruleType) (.one k.language)).result with
  | .ok rules => rules
  | .error _ => []

/-- The rules of a key are those of its entry. -/
theorem rulesOf_eq (h : r.HasDistinctKeys) (hmem : (k, rules) ∈ r.entries) :
    r.rulesOf k = rules := by
  have hfound : (r.lookup (.nameType k.nameType) (.ruleType k.ruleType)
      (.one k.language)).result = .ok rules :=
    (result_lookup_eq_ok_iff h).2 ⟨k, ⟨.member _, .member _, .one _⟩, hmem⟩
  rw [rulesOf, hfound]

/-- Look-ups agree with the keys. In a repository that has been made, a look-up finds exactly the
rules of the key that is asked for, also where there are none of them, and it finds something
exactly if that key is among the keys. Otherwise its error carries what the arguments are called and
what the request comes to. Every key is found by its members as well as by their values, with its
language alone or in a collection; and the number of rules is the sum of the lengths of what is
found. -/
theorem lookup_agrees_with_keys (hr : r.IsMade) :
    r.entries.map (·.1) = r.keys ∧
    (∀ n t q,
      (∀ rules, (r.lookup n t q).result = .ok rules ↔
        ∃ k, k.IsAskedBy n t q ∧ (k, rules) ∈ r.entries) ∧
      ((∃ rules, (r.lookup n t q).result = .ok rules) ↔ ∃ k ∈ r.keys, k.IsAskedBy n t q) ∧
      ((∀ k ∈ r.keys, ¬ k.IsAskedBy n t q) → ∃ e, (r.lookup n t q).result = .error e ∧
        n.IsNamed e.nameType.ownText ∧ t.IsNamed e.ruleType.ownText ∧ q.ComesTo e.language)) ∧
    (∀ k ∈ r.keys, ∃ rules, (k, rules) ∈ r.entries ∧
      ∀ n ∈ [.nameType k.nameType, .text k.nameType.value],
      ∀ t ∈ [.ruleType k.ruleType, .text k.ruleType.value],
      ∀ q ∈ [.one k.language, .several [k.language]],
        (r.lookup n t q).result = .ok rules) ∧
    r.ruleCount = (r.keys.map fun k => (r.rulesOf k).length).sum := by
  have hdistinct := hr.hasDistinctKeys
  refine ⟨map_fst_entries r, fun n t q => ⟨fun rules => result_lookup_eq_ok_iff hdistinct,
    exists_result_lookup_iff hdistinct, fun hmissing => ?_⟩, fun k hk => ?_, ?_⟩
  · cases hresult : (r.lookup n t q).result with
    | ok rules =>
      obtain ⟨k, hk, hasked⟩ := (exists_result_lookup_iff hdistinct).1 ⟨rules, hresult⟩
      exact absurd hasked (hmissing k hk)
    | error e =>
      obtain rfl := eq_of_result_lookup_eq_error hresult
      exact ⟨_, rfl, n.isNamed_ownText, t.isNamed_ownText, Requested.comesTo_iff.2 rfl⟩
  · obtain ⟨rules, hmem⟩ := mem_keys.1 hk
    exact ⟨rules, hmem, fun n hn t ht q hq => (result_lookup_eq_ok_iff hdistinct).2
      ⟨k, RuleKey.isAskedBy_of_mem hn ht hq, hmem⟩⟩
  · -- Every entry is counted by what is found for its key.
    rw [ruleCount_eq_sum, ← map_fst_entries, List.map_map]
    refine congrArg List.sum (List.map_congr_left fun entry hmem => ?_)
    exact congrArg List.length (rulesOf_eq hdistinct hmem).symm

/-- A rule without contexts that writes a phoneme. -/
def ruleWriting (phoneme : List Char) : Rule where
  fields := { pattern := ['a'], left := [], right := [], phoneme := phoneme }
  leftContext := ⟨.anchor .textEnd, .unicode⟩
  rightContext := ⟨.anchor .textStart, .unicode⟩
  left_read := rfl
  right_read := rfl

/-- A repository that has rules for some keys only, and a key that has none. -/
def partialRepository : Repository :=
  .ofTable [(.generic,
    [(.rules, [(anyLanguage, [ruleWriting ['o']]),
        ("english".toList, [ruleWriting ['e'], ruleWriting ['i']])]),
      (.approx, [(commonLanguage, [])])])]

/-- Look-ups in a repository that lacks some keys: an empty catalog, a language asked for twice,
and a key that is missing. -/
theorem lookup_agrees_with_keys_partial :
    partialRepository.IsMade ∧
    (partialRepository.lookup (.text "gen".toList) (.ruleType .approx)
      (.several [commonLanguage])).result = .ok [] ∧
    (partialRepository.lookup (.nameType .generic) (.text "rules".toList)
      (.several ["english".toList, "english".toList])).result = .ok [ruleWriting ['o']] ∧
    (∃ e, (partialRepository.lookup .nothing (.ruleType .exact) (.one "english".toList)).result =
        .error e ∧
      Argument.nothing.IsNamed e.nameType.ownText ∧
      (Argument.ruleType .exact).IsNamed e.ruleType.ownText ∧
      (Requested.one "english".toList).ComesTo e.language) ∧
    partialRepository.ruleCount =
      (partialRepository.keys.map fun k => (partialRepository.rulesOf k).length).sum ∧
    partialRepository.ruleCount = 3 := by
  have hmade : partialRepository.IsMade := .ofTable _
  obtain ⟨-, hlookup, -, hcount⟩ := lookup_agrees_with_keys hmade
  refine ⟨hmade, ?_, ?_, ?_, hcount, by decide⟩
  · obtain ⟨hrules, -, -⟩ := hlookup (.text "gen".toList) (.ruleType .approx)
      (.several [commonLanguage])
    exact (hrules []).2 ⟨⟨.generic, .approx, commonLanguage⟩, by decide, by decide⟩
  · obtain ⟨hrules, -, -⟩ := hlookup (.nameType .generic) (.text "rules".toList)
      (.several ["english".toList, "english".toList])
    exact (hrules _).2 ⟨⟨.generic, .rules, anyLanguage⟩, by decide, by decide⟩
  · obtain ⟨-, -, herror⟩ := hlookup .nothing (.ruleType .exact) (.one "english".toList)
    exact herror (by decide)

end Repository

end PhoneticCatalog
