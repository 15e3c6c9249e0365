import PhoneticCatalog.Journal.Note
import PhoneticCatalog.Table

/-!
# Lines of a journal

A journal writes one line for each note that reaches its threshold. `Setup.record` gathers what
stands on the line: the values of the note, and what the journal adds to them. `Setup.line?` writes
it down, as a JSON object or as keys with their values.
-/

namespace PhoneticCatalog.Journal

/-- The two ways to write a line. -/
inductive LineFormat where
  | json
  | console
  deriving DecidableEq, Repr

/-- The name that signs the notes of this library and its user. -/
def service : List Char := "phonorules".toList

/-- The version that signs them where no other one is set. -/
def ownVersion : List Char := "1.0.0".toList

/-- How a journal is kept. -/
structure Setup where
  /-- The least important level that is written. -/
  threshold : Level
  format : LineFormat
  /-- Every line says where in the program it comes from. -/
  callSites : Bool
  version : List Char := ownVersion

namespace Setup

/-- The setup for an environment and a level that are given by name. Call sites are written in
development only, and only if they are wanted. -/
def ofNames (environment level : List Char) (format : LineFormat) (callSites : Bool) : Setup where
  threshold := .requested level
  format
  callSites := callSites && environment = "development".toList

/-- The name of an origin. The nameless one stands above all others. -/
def originName (origin : List Char) : List Char :=
  if origin.isEmpty then "root".toList else origin

/-- The values that sign a note. -/
def signature (setup : Setup) : List (List Char × Field) :=
  [("service".toList, .text service), ("version".toList, .text setup.version)]

/-- The keys that say where in the program a line comes from. -/
def callSiteKeys : List (List Char) := ["filename".toList, "func_name".toList, "lineno".toList]

/-- The build that a note is told in, unless the note names one of its own. -/
def stampFields (stamp : Option (List Char)) (fields : Table (List Char) Field) :
    Table (List Char) Field :=
  match stamp with
  | some id =>
    if (fields.find? "build_id".toList).isSome then [] else [("build_id".toList, .text id)]
  | none => []

/-- The keys whose values differ from run to run, whoever sets them. -/
def varyingKeys : List (List Char) :=
  ["timestamp".toList, "duration_ms".toList] ++ callSiteKeys

/-- The value for a key as it is written. -/
def masked (entry : List Char × Field) : List Char × Field :=
  if varyingKeys.contains entry.1 then (entry.1, .varying) else entry

/-- What stands on the line of a note. The values of a note replace those that sign it; what the
journal adds replaces both. -/
def record (setup : Setup) (stamp : Option (List Char)) (n : Note) : Table (List Char) Field :=
  let told := Table.ofEntries <|
    (if n.signed then setup.signature else []) ++ n.fields ++ [("event".toList, .text n.name)]
  let added := stampFields stamp told ++
    [("timestamp".toList, .varying), ("level".toList, .text n.level.label.toList),
     ("logger".toList, .text (originName n.origin))] ++
    if setup.callSites then callSiteKeys.map fun k => (k, .varying) else []
  (Table.ofEntries (told ++ added)).map masked

/-- The keys that come first where keys are written with their values. -/
def firstKeys : List (List Char) :=
  ["timestamp".toList, "level".toList, "event".toList, "logger".toList, "build_id".toList]

/-- Entries with those of the first keys in front, in the order of these keys. -/
def firstKeysFirst (entries : Table (List Char) Field) : Table (List Char) Field :=
  firstKeys.filterMap (fun k => (entries.find? k).map fun v => (k, v)) ++
    entries.filter fun e => !firstKeys.contains e.1

/-- The text of a line. -/
def lineText (format : LineFormat) (entries : Table (List Char) Field) : List Char :=
  match format with
  | .json => (Field.record entries).json
  | .console =>
    ([' '] : List Char).intercalate <|
      (firstKeysFirst entries).map fun (k, v) => k ++ '=' :: v.shown

/-- A note of this level is written. -/
def shows (setup : Setup) (l : Level) : Bool := setup.threshold.number ≤ l.number

/-- The line for a note, if there is one. -/
def line? (setup : Setup) (stamp : Option (List Char)) (n : Note) : Option (List Char) :=
  if setup.shows n.level then some (lineText setup.format (setup.record stamp n)) else none

end Setup

end PhoneticCatalog.Journal
