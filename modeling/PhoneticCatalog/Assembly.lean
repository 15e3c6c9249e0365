import PhoneticCatalog.Catalog.DocumentFormat
import PhoneticCatalog.Catalog.FileSource
import PhoneticCatalog.Catalog.TextFormat
import PhoneticCatalog.Configuration.Basic
import PhoneticCatalog.Repository

/-!
# Putting a repository together

What a configuration stands for: a source of catalogs in a folder, a loader of its format, a
registry of languages, and the repository that is built with them. A caller may bring a source or a
registry of its own.
-/

namespace PhoneticCatalog

/-- Why a repository is not even begun. -/
inductive AssemblyError where
  | configuration (e : ConfigurationError)
  | depth (e : Catalog.DepthError)
  deriving DecidableEq, Repr

namespace Configuration

/-- The way in which the files of a suffix are read. -/
def style (c : Configuration) (suffix : List Char) : Catalog.FileStyle :=
  let standard : Catalog.FileStyle := {}
  ⟨suffix, c.catalogEncoding.getD standard.encoding⟩

/-- The folder of the catalogs. -/
def folder (c : Configuration) : Except ConfigurationError Storage.Path :=
  match c.catalogPath with
  | some path => .ok (.ofText path)
  | none => .error (.setting .catalogPath .noFolder)

/-- The catalogs in a folder. -/
def source (c : Configuration) (tree : Storage.FileTree) (folder : Storage.Path) : Catalog.Source :=
  .ofFolder tree folder (c.style c.catalogFormat.suffix)

/-- The lists of languages in a folder, which are plain texts whatever the format of the catalogs.
-/
def languageSource (c : Configuration) (tree : Storage.FileTree) (folder : Storage.Path) :
    Catalog.Source :=
  .ofFolder tree folder (c.style CatalogFormat.text.suffix)

/-- The format that the catalogs are written in. -/
def format (c : Configuration) : Catalog.Format Rule :=
  match c.catalogFormat with
  | .text => Catalog.textFormat
  | .document => Catalog.documentFormat

/-- The loader for the catalogs of a source. -/
def loader (c : Configuration) (source : Catalog.Source) :
    Except Catalog.DepthError (Catalog.Loader Rule) :=
  Catalog.Loader.ofDepth c.format source c.maxIncludeDepth

/-- The source of the catalogs and the one of the lists of languages: a source of the caller serves
as both. -/
def sources (c : Configuration) (tree : Storage.FileTree) (source? : Option Catalog.Source) :
    Except ConfigurationError (Catalog.Source × Catalog.Source) :=
  match source? with
  | some source => .ok (source, source)
  | none => c.folder.map fun folder => (c.source tree folder, c.languageSource tree folder)

/-- Builds the repository of all name types and all rule types. -/
def buildRepository (c : Configuration) (tree : Storage.FileTree)
    (source? : Option Catalog.Source) (languages? : Option Catalog.LanguageRegistry) :
    Except AssemblyError (Catalog.Walk Repository) := do
  let (source, lists) ← (c.sources tree source?).mapError .configuration
  let L ← (c.loader source).mapError .depth
  return Repository.build L (languages?.getD (.catalogs lists)) NameType.all RuleType.all

end Configuration

end PhoneticCatalog
