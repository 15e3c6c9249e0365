import PhoneticCatalog.Catalog.Entry
import PhoneticCatalog.Catalog.Loader
import PhoneticCatalog.Text.Line

/-!
# The document format

A catalog is written as a document that lists its entries. The whole document is checked before the
first entry is carried out. A document that stands for nothing is a catalog without entries, and its
lines do not count.
-/

namespace PhoneticCatalog.Catalog

/-- The error of a text that cannot be read as a document. -/
def LoadError.ofRead (catalog : List Char) : Document.ReadFault → LoadError
  | .malformed => .format catalog .syntaxError
  | .scalar f => .scalar f

/-- The steps of the entries of a document, counted from a number on. -/
def entrySteps (catalog : List Char) : (number : Nat) → List Entry → List (Step Rule)
  | _, [] => []
  | number, .include name :: rest => .splice name :: entrySteps catalog (number + 1) rest
  | number, .rule fields :: rest =>
    .ofFields catalog (.entry number) fields :: entrySteps catalog (number + 1) rest

/-- The steps of a value that a text was read as. -/
def valueSteps (catalog text : List Char) (v : Document.Value) : List (Step Rule) :=
  match v with
  | .nothing => []
  | v =>
    match entriesOf v with
    | .error m => [.abort (.format catalog (.shape m))]
    | .ok entries => .tally (Text.splitLines text).length 0 :: entrySteps catalog 0 entries

/-- The steps of a text. -/
def documentSteps (catalog text : List Char) : List (Step Rule) :=
  match Document.read text with
  | .error f => [.abort (.ofRead catalog f)]
  | .ok v => valueSteps catalog text v

/-- The document format. -/
def documentFormat : Format Rule := ⟨.document, documentSteps⟩

end PhoneticCatalog.Catalog
