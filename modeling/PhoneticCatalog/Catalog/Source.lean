import PhoneticCatalog.Catalog.Error
import PhoneticCatalog.Journal.Event

/-!
# Sources of catalogs

A source answers the name of a catalog with its text, or with the reason why it cannot be opened,
and may tell about it. The same name is always answered in the same way.
-/

namespace PhoneticCatalog.Catalog

/-- The answer of a source, and the events told with it. -/
structure Reading where
  events : List Journal.Event
  result : Except OpenFault (List Char)

/-- Where catalogs are read from. -/
structure Source where
  read : List Char → Reading

namespace Source

/-- The source that holds the texts of a list of named catalogs. Of two catalogs with one name it
holds the last. -/
def ofList (catalogs : List (List Char × List Char)) : Source where
  read name :=
    match catalogs.reverse.lookup name with
    | some text => ⟨[], .ok text⟩
    | none => ⟨[], .error .notHeld⟩

/-- Of several texts with one name, the last one is read. -/
theorem result_ofList {catalogs : List (List Char × List Char)} {name text : List Char} :
    ((ofList catalogs).read name).result = .ok text ↔
      catalogs.reverse.lookup name = some text := by
  simp only [ofList]
  cases catalogs.reverse.lookup name with
  | some held =>
    exact ⟨fun h => congrArg some (Except.ok.inj h), fun h => by rw [Option.some.inj h]⟩
  | none => exact iff_of_false (fun h => by cases h) fun h => by cases h

end Source

end PhoneticCatalog.Catalog
