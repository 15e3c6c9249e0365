import PhoneticCatalog.Catalog.TextFormat
import PhoneticCatalog.Catalog.Walk
import PhoneticCatalog.LanguageSet

/-!
# Language registries

The languages of a name type are listed one per line. Unlike in catalogs of rules, lines are trimmed
before comment signs are looked for, and a comment takes a whole line.

A registry answers a name type with its languages. A fixed registry has them from its caller. A
catalog registry reads them from the language catalog of the name type, and asks the source for it
only once: `Shelf` holds the sets that were read so far. A failed read leaves the shelf as it was.
-/

namespace PhoneticCatalog.Catalog

/-! ## Lists of languages -/

/-- The languages named on some lines, inside or outside of a block comment. -/
def listedNames : (inBlock : Bool) → List (List Char) → List (List Char)
  | _, [] => []
  | true, raw :: rest => listedNames (!Text.endsWith (Text.trim raw) blockEnd) rest
  | false, raw :: rest =>
    let line := Text.trim raw
    if Text.startsWith line blockStart then listedNames true rest
    else if line.isEmpty || Text.startsWith line commentSign then listedNames false rest
    else line :: listedNames false rest

/-- The set of languages that a text lists. -/
def parseLanguages (text : List Char) : LanguageSet :=
  .ofList (listedNames false (Text.splitLines text))

/-! ## Registries -/

/-- Sets of languages by name type. Of two entries for a name type the first one counts. -/
abbrev Shelf := List (NameType × LanguageSet)

/-- Where the languages of a name type come from. -/
inductive LanguageRegistry where
  | fixed (shelf : Shelf)
  | catalogs (source : Source)

namespace LanguageRegistry

/-- The registry with the languages that a caller gives for name types. Every name type is checked;
of two lists for one name type the last one counts. -/
def ofLists (lists : List (Argument × List (List Char))) :
    Except ArgumentError LanguageRegistry := do
  let shelf ← lists.mapM fun (argument, names) => do
    return (← argument.toNameType, LanguageSet.ofList names)
  return .fixed shelf.reverse

/-- Reads the languages of a name type from its catalog. -/
def readLanguages (source : Source) (t : NameType) : Walk LanguageSet := do
  let name := t.languagesCatalog
  let reading := source.read name
  let text : List Char ←
    ⟨{ opened := [name], events := reading.events }, reading.result.mapError (.notOpened name)⟩
  let languages := parseLanguages text
  Walk.leave { events := [.languagesLoaded t languages.names.length] }
  return languages

/-- The languages of a name type, given what was read so far, and the shelf afterwards. A fixed
registry has none for a name type that it was not given. -/
def languages (r : LanguageRegistry) (shelf : Shelf) (t : NameType) :
    Walk (LanguageSet × Shelf) :=
  match r with
  | fixed given => pure ((given.lookup t).getD .empty, shelf)
  | catalogs source =>
    match shelf.lookup t with
    | some set => pure (set, shelf)
    | none => do
      let set ← readLanguages source t
      return (set, (t, set) :: shelf)

end LanguageRegistry

end PhoneticCatalog.Catalog
