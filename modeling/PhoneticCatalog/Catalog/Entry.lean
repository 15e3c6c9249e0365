import PhoneticCatalog.Document.Value.Build
import PhoneticCatalog.Rule

/-!
# Entries of catalog documents

A document is a catalog if it is a mapping whose `rules` are a list of entries, each of them a rule
or an include. A rule is a mapping of its fields to texts, where `languages` are a list of texts
none of which comes twice; only pattern and phoneme have to be there. An include is a mapping of
`include` to a name without blanks. No other keys are allowed.

`entriesOf` gives the entries of a document, or says what is wrong with it. Of several entries that
are wrong the last one is reported. What is reported of it is the fault that lies deepest, and of
several the one of the key that comes first in the alphabet; if only the keys are wrong, it is the
entry as a whole.
-/

namespace PhoneticCatalog.Catalog

open Document (Value)

/-- An entry of a catalog document. -/
inductive Entry where
  | rule (fields : RuleFields)
  | include (name : List Char)
  deriving DecidableEq

namespace Entry

/-- The key of the entries in a document. -/
def rulesKey : List Char := "rules".toList

/-- The key of an include. -/
def includeKey : List Char := "include".toList

/-- The keys of a rule. -/
def ruleKeys : List (List Char) :=
  ["pattern", "left", "right", "phoneme", "languages", "logical"].map String.toList

/-- All keys of a mapping are among the given ones. -/
def onlyKeys (keys : List (List Char)) (entries : List (Value × Value)) : Bool :=
  entries.all fun e => match e.1 with
    | .text s => keys.contains s
    | _ => false

/-- The value as a text. -/
def textOf? : Value → Option (List Char)
  | .text s => some s
  | _ => none

/-- The text of a key, or the empty text if there is no such key. -/
def optionalText? (entries : List (Value × Value)) (key : String) : Option (List Char) :=
  match Value.entry? entries key.toList with
  | some v => textOf? v
  | none => some []

/-- No text comes twice. -/
def allDistinct : List (List Char) → Bool
  | [] => true
  | s :: rest => !rest.contains s && allDistinct rest

/-- The languages of a rule: none if there is no such key. -/
def languagesOf? (entries : List (Value × Value)) : Option LanguageSet :=
  match Value.entry? entries "languages".toList with
  | none => some .empty
  | some (.list items) => do
    let names ← items.mapM textOf?
    if allDistinct names then some (.ofList names) else none
  | some _ => none

/-- The rule that a mapping is. -/
def ruleOf? (entries : List (Value × Value)) : Option RuleFields := do
  if !onlyKeys ruleKeys entries then none
  let pattern ← textOf? (← Value.entry? entries "pattern".toList)
  let phoneme ← textOf? (← Value.entry? entries "phoneme".toList)
  let left ← optionalText? entries "left"
  let right ← optionalText? entries "right"
  let logical ← optionalText? entries "logical"
  let languages ← languagesOf? entries
  return { pattern, left, right, phoneme, languages, logical }

/-- A name that can be included: not empty and without blanks, a line feed at its end aside. -/
def isIncludable (name : List Char) : Bool :=
  let body := if name.getLast? = some '\n' then name.dropLast else name
  !body.isEmpty && body.all fun c => !Text.isSpace c.toNat

/-- The include that a mapping is. -/
def includeOf? (entries : List (Value × Value)) : Option (List Char) := do
  if !onlyKeys [includeKey] entries then none
  let name ← textOf? (← Value.entry? entries includeKey)
  if isIncludable name then some name else none

/-- The entry that a value is. -/
def ofValue? : Value → Option Entry
  | .mapping entries =>
    match ruleOf? entries with
    | some r => some (rule r)
    | none => (includeOf? entries).map Entry.include
  | _ => none

/-! ## What is wrong with an entry -/

/-- The message that a value is not of a kind. -/
def notOfType (v : Value) (kind : String) : List Char :=
  v.shown ++ (" is not of type '" ++ kind ++ "'").toList

/-- What is wrong with an include's name. -/
def nameFault? (v : Value) : Option (List Char) :=
  match v with
  | .text s =>
    if isIncludable s then none else some (v.shown ++ " does not match '^\\\\S+$'".toList)
  | v => some (notOfType v "string")

/-- What is wrong with the first item of a list of languages that is no text. -/
def itemFault? (v : Value) : Option (List Char) :=
  match v with
  | .list items => (items.find? fun i => (textOf? i).isNone).map (notOfType · "string")
  | _ => none

/-- What is wrong with a list of languages whose items are texts. -/
def languagesFault? (v : Value) : Option (List Char) :=
  match v with
  | .list items =>
    if allDistinct (items.filterMap textOf?) then none
    else some (v.shown ++ " has non-unique elements".toList)
  | v => some (notOfType v "array")

/-- What is wrong with a field that has to be a text. -/
def textFault? (v : Value) : Option (List Char) :=
  match v with
  | .text _ => none
  | v => some (notOfType v "string")

/-- What can be wrong with the value of a key, with the keys in the order of the alphabet. -/
def keyFaults : List (String × (Value → Option (List Char))) :=
  [("include", nameFault?), ("languages", languagesFault?), ("left", textFault?),
   ("logical", textFault?), ("pattern", textFault?), ("phoneme", textFault?), ("right", textFault?)]

/-- The fault of a value that lies deepest. -/
def deepestFault? (entries : List (Value × Value)) : Option (List Char) :=
  match (Value.entry? entries "languages".toList).bind itemFault? with
  | some m => some m
  | none => keyFaults.findSome? fun (key, fault?) => (Value.entry? entries key.toList).bind fault?

/-- What is wrong with a value that is no entry. -/
def fault (v : Value) : List Char :=
  let whole := v.shown ++ " is not valid under any of the given schemas".toList
  match v with
  | .mapping entries => (deepestFault? entries).getD whole
  | _ => whole

end Entry

/-- The message that a document is no mapping. -/
def noMapping (v : Value) : List Char := Entry.notOfType v "object"

/-- The message that a document has no entries. -/
def noRules : List Char := "'rules' is a required property".toList

/-- The entries of a list of values, or what is wrong with the last one that is no entry. -/
def entriesOfList : List Value → Except (List Char) (List Entry)
  | [] => .ok []
  | v :: rest =>
    match entriesOfList rest, Entry.ofValue? v with
    | .error m, _ => .error m
    | .ok _, none => .error (Entry.fault v)
    | .ok es, some e => .ok (e :: es)

/-- The entries of a document, or what is wrong with it. -/
def entriesOf : Value → Except (List Char) (List Entry)
  | .mapping entries =>
    match Value.entry? entries Entry.rulesKey with
    | some (.list items) => entriesOfList items
    | some v => .error (Entry.notOfType v "array")
    | none => .error noRules
  | v => .error (noMapping v)

end PhoneticCatalog.Catalog
