import PhoneticCatalog.Catalog.Diagnostic
import PhoneticCatalog.Category
import PhoneticCatalog.Journal.Level

/-!
# Events

What the library tells about its work while it is done. An `Event` names one thing that happened;
`Event.level` and `Event.origin` say how important it is and which part of the library tells it.
-/

namespace PhoneticCatalog.Journal

/-- The formats that catalogs are written in. -/
inductive LoaderKind where
  | text
  | document
  deriving DecidableEq, Repr

/-- The name that a loader goes by. -/
def LoaderKind.label : LoaderKind → String
  | text => "RuleTextParser"
  | document => "RuleCatalogCompiler"

/-- Something that happened. -/
inductive Event where
  /-- A catalog was loaded, with all it includes. -/
  | catalogLoaded (loader : LoaderKind) (catalog : List Char) (counters : Catalog.Counters)
  /-- A line of a catalog was skipped. -/
  | lineSkipped (loader : LoaderKind) (diagnostic : Catalog.Diagnostic)
  /-- There is no file for a catalog. -/
  | sourceMissing (catalog path : List Char)
  /-- The file of a catalog cannot be read. -/
  | sourceUnreadable (catalog path : List Char) (error : String)
  /-- The file of a catalog was read; it holds so many characters. -/
  | sourceRead (catalog path : List Char) (size : Nat)
  /-- The languages of a name type were read. -/
  | languagesLoaded (nameType : NameType) (count : Nat)
  /-- The build of a repository began. -/
  | buildStarted (loader : LoaderKind) (nameTypes : List NameType) (ruleTypes : List RuleType)
  /-- The build of a repository is done. -/
  | buildCompleted (catalogs rules diagnostics : Nat)
  /-- There are no rules for what was looked up. -/
  | lookupMissed (nameType ruleType : Argument) (language : List Char)
  deriving DecidableEq, Repr

namespace Event

/-- How important the event is. -/
def level : Event → Level
  | catalogLoaded .. | sourceRead .. | languagesLoaded .. => .debug
  | buildStarted .. | buildCompleted .. => .info
  | lineSkipped .. | lookupMissed .. => .warning
  | sourceMissing .. | sourceUnreadable .. => .error

/-- The part of the library that tells the event. -/
def origin : Event → String
  | catalogLoaded loader _ _ | lineSkipped loader _ => "domain.rules." ++ loader.label
  | sourceMissing .. | sourceUnreadable .. | sourceRead .. => "infrastructure.catalog_source"
  | languagesLoaded .. => "infrastructure.language_registry"
  | buildStarted .. | buildCompleted .. | lookupMissed .. => "infrastructure.rule_repository"

/-- The name of what happened. -/
def name : Event → String
  | catalogLoaded .. => "rule_catalog_loaded"
  | lineSkipped .. => "rule_catalog_malformed_line"
  | sourceMissing .. => "catalog_source_missing"
  | sourceUnreadable .. => "catalog_source_unreadable"
  | sourceRead .. => "catalog_source_read"
  | languagesLoaded .. => "language_registry_loaded"
  | buildStarted .. => "rule_repository_build_started"
  | buildCompleted .. => "rule_repository_build_completed"
  | lookupMissed .. => "rule_repository_lookup_miss"

end Event

end PhoneticCatalog.Journal
