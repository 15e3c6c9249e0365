import PhoneticCatalog.Catalog.DocumentFormat

/-!
# Documents that are not checked

A catalog document may be taken as it is, with no more asked of it than that it is a mapping, or a
mapping with entries. Its entries can then be of any shape. `LooseRule` is a rule whose fields are
what the document says, texts or not; only its contexts have to be texts that can be read. What is
no entry at all ends the load with an `EntryFault`.
-/

namespace PhoneticCatalog.Catalog

open Document (Value)

/-- A rule whose fields need not be texts. -/
structure LooseRule where
  pattern : Value
  left : List Char
  right : List Char
  phoneme : Value
  /-- Texts first, in ascending order. No language comes twice. -/
  languages : List Value
  logical : Value

namespace LooseRule

/-- The members of a value. -/
def members (v : Value) : Except EntryFault (List Value) :=
  match v with
  | .list items => .ok items
  | .pair k v => .ok [k, v]
  | .set items => .ok items
  | .mapping entries => .ok (entries.map (·.1))
  | .text s => .ok (s.map fun c => .text [c])
  | .bytes b => .ok (b.map fun b => .integer b.toNat)
  | v => .error (.notIterable v.kindName)

/-- The value can be a member of a set. -/
def isMember : Value → Bool
  | .list _ | .set _ | .mapping _ | .enclosing _ => false
  | _ => true

/-- A text stands somewhere in another one. -/
def occursIn (part : List Char) : List Char → Bool
  | [] => part.isEmpty
  | c :: rest => part.isPrefixOf (c :: rest) || occursIn part rest

/-- The value has the key of an include. -/
def hasInclude (v : Value) : Except EntryFault Bool :=
  match v with
  | .mapping entries => .ok (Value.entry? entries Entry.includeKey).isSome
  | .text s => .ok (occursIn Entry.includeKey s)
  | .list items | .set items => .ok (items.any (· == .text Entry.includeKey))
  | .pair k w => .ok ([k, w].any (· == .text Entry.includeKey))
  | .bytes _ => .error .searchedBytes
  | v => .error (.notSearchable v.kindName)

/-- The value of a key. -/
def get (v : Value) (key : List Char) : Except EntryFault Value :=
  match v with
  | .mapping entries =>
    match Value.entry? entries key with
    | some w => .ok w
    | none => .error (.noKey key)
  | .set _ => .error (.notSubscriptable v.kindName)
  | v => .error (.needsIndex v.kindName)

/-- The value of a key of a mapping, or an empty text. -/
def getOr (v : Value) (key : String) : Value :=
  match v with
  | .mapping entries => (Value.entry? entries key.toList).getD (.text [])
  | _ => .text []

/-- The languages of a rule. -/
def languagesOf (v : Value) : Except EntryFault (List Value) :=
  match v with
  | .mapping entries =>
    match Value.entry? entries "languages".toList with
    | none => .ok []
    | some v => do
      let items ← members v
      if let some item := items.find? (!isMember ·) then throw (.notHashable item.kindName)
      let texts := LanguageSet.ofList (items.filterMap Entry.textOf?)
      let others := items.filter fun i => (Entry.textOf? i).isNone
      return texts.names.map .text ++ (Table.ofEntries (others.map (·, ()))).keys
  | _ => .ok []

/-- Reads a context of an entry. -/
def checkContext (catalog : List Char) (number : Nat) (text : List Char) : Except LoadError Unit :=
  match readContext text with
  | .ok _ => .ok ()
  | .error e => .error (.ofContext catalog (.entry number) e)

/-- The rule that an entry is. -/
def ofValue (catalog : List Char) (number : Nat) (v : Value) : Except LoadError LooseRule := do
  let pattern ← (get v "pattern".toList).mapError .entry
  let left := getOr v "left"
  let right := getOr v "right"
  let phoneme ← (get v "phoneme".toList).mapError .entry
  let languages ← (languagesOf v).mapError .entry
  let leftText ← match left with
    | .text s => pure s
    | w => throw (.entry (.leftNoText w.kindName))
  checkContext catalog number (leftText ++ ['$'])
  let rightText ← match right with
    | .text s => pure s
    | w => throw (.entry (.rightNoText w.kindName))
  checkContext catalog number ('^' :: rightText)
  return ⟨pattern, leftText, rightText, phoneme, languages, getOr v "logical"⟩

end LooseRule

/-- The name that an include gives. -/
def looseName (v : Value) : Except EntryFault (List Char) :=
  match v with
  | .text s => .ok s
  | v => if LooseRule.isMember v then .ok v.shown else .error (.notHashable v.kindName)

/-- The step of an entry. -/
def looseStep (catalog : List Char) (number : Nat) (v : Value) : Step LooseRule :=
  match LooseRule.hasInclude v with
  | .error f => .abort (.entry f)
  | .ok true =>
    match LooseRule.get v Entry.includeKey >>= looseName with
    | .ok name => .splice name
    | .error f => .abort (.entry f)
  | .ok false =>
    match LooseRule.ofValue catalog number v with
    | .ok r => .rule r
    | .error e => .abort e

/-- The steps of entries, counted from a number on. -/
def looseSteps (catalog : List Char) : (number : Nat) → List Value → List (Step LooseRule)
  | _, [] => []
  | number, v :: rest => looseStep catalog number v :: looseSteps catalog (number + 1) rest

/-- The steps of a value that a text was read as. -/
def looseValueSteps (needsRules : Bool) (catalog text : List Char) (v : Value) :
    List (Step LooseRule) :=
  match v with
  | .nothing => []
  | .mapping entries =>
    let rules := Value.entry? entries Entry.rulesKey
    if needsRules && rules.isNone then [.abort (.format catalog (.shape noRules))]
    else
      .tally (Text.splitLines text).length 0 ::
        match rules with
        | none => [.abort (.entry (.noKey Entry.rulesKey))]
        | some w =>
          match LooseRule.members w with
          | .ok items => looseSteps catalog 0 items
          | .error f => [.abort (.entry f)]
  | v => [.abort (.format catalog (.shape (noMapping v)))]

/-- The format of documents that are not checked; `needsRules` if they have to have entries. -/
def looseFormat (needsRules : Bool) : Format LooseRule where
  kind := .document
  steps catalog text :=
    match Document.read text with
    | .error f => [.abort (.ofRead catalog f)]
    | .ok v => looseValueSteps needsRules catalog text v

end PhoneticCatalog.Catalog
