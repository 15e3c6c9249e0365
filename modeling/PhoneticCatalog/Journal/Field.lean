import PhoneticCatalog.Text.Binary64
import PhoneticCatalog.Text.JsonString

/-!
# Fields

The values that are told with an event, and the two ways to write them. `Field.json` writes a value
in JSON, with the keys of every record in ascending order. `Field.shown` writes it as values are
shown in messages, with the keys in their own order.
-/

namespace PhoneticCatalog.Journal

/-- A value that is told with an event. -/
inductive Field where
  | nothing
  | truth (b : Bool)
  | integer (n : Int)
  | decimal (x : Text.Binary64)
  | text (s : List Char)
  | list (items : List Field)
  | record (entries : List (List Char × Field))
  /-- What differs from run to run, such as a time. A star is written for it. -/
  | varying

instance : Inhabited Field := ⟨.nothing⟩

namespace Field

/-- Entries in ascending order of their keys. -/
def sortEntries {α : Type} (entries : List (List Char × α)) : List (List Char × α) :=
  entries.mergeSort fun a b => !decide (b.1 < a.1)

/-- A decimal number in JSON, which is extended by the numbers that are not finite. -/
def jsonDecimal : Text.Binary64 → List Char
  | .notNumber => "NaN".toList
  | .infinite negative => (if negative then "-Infinity" else "Infinity").toList
  | x => x.shown

/-- The members of a record in JSON. -/
def jsonMembers (members : List (List Char × List Char)) : List Char :=
  '\x7b' :: Text.commas
      ((sortEntries members).map fun (k, v) => Text.jsonString k ++ ": ".toList ++ v)
    ++ ['\x7d']

mutual

/-- A value in JSON. -/
def json : Field → List Char
  | nothing => "null".toList
  | truth b => (if b then "true" else "false").toList
  | integer n => (toString n).toList
  | decimal x => jsonDecimal x
  | text s => Text.jsonString s
  | list items => '[' :: Text.commas (jsonItems items) ++ [']']
  | record entries => jsonMembers (jsonEntries entries)
  | varying => Text.jsonString ['*']

/-- Values in JSON. -/
def jsonItems : List Field → List (List Char)
  | [] => []
  | v :: rest => v.json :: jsonItems rest

/-- Keys with their values in JSON. -/
def jsonEntries : List (List Char × Field) → List (List Char × List Char)
  | [] => []
  | (k, v) :: rest => (k, v.json) :: jsonEntries rest

end

mutual

/-- A value as it is shown. -/
def shown : Field → List Char
  | nothing => "None".toList
  | truth b => (if b then "True" else "False").toList
  | integer n => (toString n).toList
  | decimal x => x.shown
  | text s => Text.quote s
  | list items => '[' :: Text.commas (shownItems items) ++ [']']
  | record entries => '\x7b' :: Text.commas (shownEntries entries) ++ ['\x7d']
  | varying => ['*']

/-- Values as they are shown. -/
def shownItems : List Field → List (List Char)
  | [] => []
  | v :: rest => v.shown :: shownItems rest

/-- Entries of a record as they are shown. -/
def shownEntries : List (List Char × Field) → List (List Char)
  | [] => []
  | (k, v) :: rest => (Text.quote k ++ ": ".toList ++ v.shown) :: shownEntries rest

end

end Field

end PhoneticCatalog.Journal
