import PhoneticCatalog.Journal.Event
import PhoneticCatalog.Journal.Field

/-!
# Notes

What a journal is told: by this library, which tells its events with `Event.note`, by its user, or
by another library. The notes of the first two are signed with the service and its version.
-/

namespace PhoneticCatalog.Journal

/-- Something told to a journal. -/
structure Note where
  level : Level
  origin : List Char
  name : List Char
  fields : List (List Char × Field) := []
  signed : Bool := true

/-- An argument as the value of a field: of a member its short name. -/
def Field.ofArgument (a : Argument) : Field :=
  match a.plain with
  | .text s => .text s
  | .integer n => .integer n
  | .decimal x => .decimal x
  | .truth b => .truth b
  | _ => .nothing

namespace Event

/-- A key with a text. -/
def textField (key : String) (s : List Char) : List Char × Field := (key.toList, .text s)

/-- A key with a number. -/
def countField (key : String) (n : Nat) : List Char × Field := (key.toList, .integer n)

/-- A key with a list of texts. -/
def textsField (key : String) (l : List (List Char)) : List Char × Field :=
  (key.toList, .list (l.map .text))

/-- The time that something took. -/
def durationField : List Char × Field := ("duration_ms".toList, .varying)

/-- The values that are told with an event. -/
def fields : Event → List (List Char × Field)
  | catalogLoaded _ catalog k =>
    [textField "catalog" catalog, countField "rules_count" k.rules,
     countField "catalogs_read" k.catalogs, countField "includes_resolved" k.includes,
     countField "diagnostics_count" k.diagnostics, durationField]
  | lineSkipped _ d =>
    [textField "catalog" d.source, countField "line_number" d.line,
     textField "kind" d.problem.kind.toList, textField "detail" d.problem.message.toList,
     textField "raw_line" d.raw]
  | sourceMissing catalog path => [textField "catalog" catalog, textField "path" path]
  | sourceUnreadable catalog path error =>
    [textField "catalog" catalog, textField "path" path, textField "error" error.toList]
  | sourceRead catalog path size =>
    [textField "catalog" catalog, textField "path" path, countField "size" size]
  | languagesLoaded nameType count =>
    [textField "name_type" nameType.value, countField "languages_count" count]
  | buildStarted loader nameTypes ruleTypes =>
    [textField "loader" loader.label.toList, textsField "name_types" (nameTypes.map (·.value)),
     textsField "rule_types" (ruleTypes.map (·.value))]
  | buildCompleted catalogs rules diagnostics =>
    [countField "catalogs_loaded" catalogs, countField "rules_count" rules,
     countField "diagnostics_count" diagnostics, durationField]
  | lookupMissed nameType ruleType language =>
    [("name_type".toList, .ofArgument nameType), ("rule_type".toList, .ofArgument ruleType),
     textField "language" language]

/-- An event as it is told to a journal. -/
def note (e : Event) : Note :=
  ⟨e.level, e.origin.toList, e.name.toList, e.fields, true⟩

end Event

end PhoneticCatalog.Journal
