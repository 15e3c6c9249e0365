import PhoneticCatalog.Catalog.LanguageRegistry
import PhoneticCatalog.Catalog.Loader
import PhoneticCatalog.Table

/-!
# Repositories of rules

A repository holds lists of rules by name type, rule type and language. It is built by loading one
catalog for each language that a registry declares for a name type and, except for the main rules,
one for the common language; or it is made from a table of rules. `Repository.lookup` answers with
the rules for a name type, a rule type and the requested languages.
-/

namespace PhoneticCatalog

/-- What rules are filed under. -/
structure RuleKey where
  nameType : NameType
  ruleType : RuleType
  language : List Char
  deriving DecidableEq, Repr

/-- The name of the catalog for a key. -/
def RuleKey.catalog (k : RuleKey) : List Char := catalogName k.nameType k.ruleType k.language

/-- There are no rules for what was asked for. -/
structure MissingRules where
  nameType : Argument
  ruleType : Argument
  language : List Char
  deriving DecidableEq, Repr

/-- The wording of the error that there are no rules. -/
def MissingRules.message (m : MissingRules) : String :=
  "No rules found for " ++ String.ofList m.nameType.ownText ++ ", "
    ++ String.ofList m.ruleType.ownText ++ ", " ++ String.ofList m.language ++ "."

/-- The answer of a repository, and the events told with it. -/
structure Lookup where
  events : List Journal.Event
  result : Except MissingRules (List Rule)

/-- The rules for one name type and rule type, by language. -/
abbrev LanguageTable := Table (List Char) (List Rule)

/-- Rules by name type, rule type and language. -/
structure Repository where
  table : Table NameType (Table RuleType LanguageTable)
  diagnostics : List Catalog.Diagnostic := []

namespace Repository

/-- The keys of all rules, in the order of the table. -/
def keys (r : Repository) : List RuleKey :=
  r.table.flatMap fun (n, byRuleType) =>
    byRuleType.flatMap fun (t, byLanguage) =>
      byLanguage.keys.map fun l => ⟨n, t, l⟩

/-- The number of rules, counted once per key. -/
def ruleCount (r : Repository) : Nat :=
  r.table.total fun byRuleType => byRuleType.total fun byLanguage => byLanguage.total List.length

/-- The rules of a key. -/
def find? (r : Repository) (k : RuleKey) : Option (List Rule) := do
  let byRuleType ← r.table.find? k.nameType
  let byLanguage ← byRuleType.find? k.ruleType
  byLanguage.find? k.language

/-- The key that arguments and a language denote. -/
def key? (n t : Argument) (language : List Char) : Option RuleKey := do
  let n ← n.nameType?
  let t ← t.ruleType?
  return ⟨n, t, language⟩

/-- The rules for a name type, a rule type and the requested languages. What is not found is told
about. -/
def lookup (r : Repository) (n t : Argument) (requested : Requested) : Lookup :=
  let language := requested.language
  match (key? n t language).bind r.find? with
  | some rules => ⟨[], .ok rules⟩
  | none => ⟨[.lookupMissed n t language], .error ⟨n, t, language⟩⟩

/-! ## Building -/

/-- The languages whose catalogs are loaded for a rule type. -/
def loadedLanguages (declared : LanguageSet) (t : RuleType) : List (List Char) :=
  declared.names ++ if t = .rules then [] else [commonLanguage]

/-- Loads the catalogs of some languages. -/
def loadLanguages (L : Catalog.Loader Rule) (n : NameType) (t : RuleType) :
    List (List Char) → Catalog.Walk (List (List Char × List Rule))
  | [] => pure []
  | language :: rest => do
    let rules ← L.load (catalogName n t language)
    return (language, rules) :: (← loadLanguages L n t rest)

/-- Loads the catalogs of some rule types. -/
def loadRuleTypes (L : Catalog.Loader Rule) (n : NameType) (declared : LanguageSet) :
    List RuleType → Catalog.Walk (List (RuleType × List (List Char × List Rule)))
  | [] => pure []
  | t :: rest => do
    let loaded ← loadLanguages L n t (loadedLanguages declared t)
    return (t, loaded) :: (← loadRuleTypes L n declared rest)

/-- What the catalogs of some name types hold, in the order in which they are loaded. -/
def loadNameTypes (L : Catalog.Loader Rule) (registry : Catalog.LanguageRegistry)
    (ruleTypes : List RuleType) : (shelf : Catalog.Shelf) → List NameType →
    Catalog.Walk (List (NameType × List (RuleType × List (List Char × List Rule))))
  | _, [] => pure []
  | shelf, n :: rest => do
    let (declared, shelf) ← registry.languages shelf n
    let loaded ← loadRuleTypes L n declared ruleTypes
    return (n, loaded) :: (← loadNameTypes L registry ruleTypes shelf rest)

/-- The table of what was loaded. Of two lists for one key the last one counts, as does the last of
two runs for one name type or one rule type. -/
def tableOf (loaded : List (NameType × List (RuleType × List (List Char × List Rule)))) :
    Table NameType (Table RuleType LanguageTable) :=
  .ofEntries (loaded.map fun (n, byRuleType) =>
    (n, .ofEntries (byRuleType.map fun (t, byLanguage) => (t, .ofEntries byLanguage))))

/-- The number of catalogs that were loaded. -/
def catalogCount (loaded : List (NameType × List (RuleType × List (List Char × List Rule)))) :
    Nat :=
  Table.total loaded fun byRuleType => Table.total byRuleType List.length

/-- Adds the repository of a finished walk to it, and tells about it. -/
def complete (w : Catalog.Walk (List (NameType × List (RuleType × List (List Char × List Rule))))) :
    Catalog.Walk Repository :=
  match w.result with
  | .ok loaded =>
    let r : Repository := ⟨tableOf loaded, w.trace.diagnostics⟩
    let told := Journal.Event.buildCompleted (catalogCount loaded) r.ruleCount r.diagnostics.length
    ⟨w.trace ++ { events := [told] }, .ok r⟩
  | .error e => ⟨w.trace, .error e⟩

/-- Builds the repository of all catalogs for some name types and rule types. -/
def build (L : Catalog.Loader Rule) (registry : Catalog.LanguageRegistry)
    (nameTypes : List NameType) (ruleTypes : List RuleType) : Catalog.Walk Repository :=
  complete do
    Catalog.Walk.leave { events := [.buildStarted L.format.kind nameTypes ruleTypes] }
    loadNameTypes L registry ruleTypes [] nameTypes

/-- Builds a repository for name types and rule types that are given as arguments, which are all
checked before anything is loaded. -/
def buildFor (L : Catalog.Loader Rule) (registry : Catalog.LanguageRegistry)
    (nameTypes ruleTypes : List Argument) : Except ArgumentError (Catalog.Walk Repository) := do
  let nameTypes ← nameTypes.mapM Argument.toNameType
  let ruleTypes ← ruleTypes.mapM Argument.toRuleType
  return build L registry nameTypes ruleTypes

/-- The repository of a table of rules. -/
def ofTable (rules : List (NameType × List (RuleType × List (List Char × List Rule)))) :
    Repository := ⟨tableOf rules, []⟩

end Repository

end PhoneticCatalog
