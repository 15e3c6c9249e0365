import PhoneticCatalog.Catalog.Loader
import PhoneticCatalog.Configuration.Settings
import PhoneticCatalog.Journal.Line
import PhoneticCatalog.Text.Number

/-!
# Configurations

A `Configuration` says where catalogs are, how they are written and how the journal is kept.
`Configuration.ofSettings` reads one from settings; `Configuration.validate` checks what a single
setting cannot tell. `Configuration.toSettings` gives settings that it can be read from again.
-/

namespace PhoneticCatalog

/-- What a program is run for. -/
inductive Environment where
  | development
  | test
  | production
  deriving DecidableEq, Repr

namespace Environment

/-- All environments. -/
def all : List Environment := [development, test, production]

/-- The name of an environment. -/
def label : Environment → String
  | development => "development"
  | test => "test"
  | production => "production"

end Environment

/-- How catalogs are written. -/
inductive CatalogFormat where
  | text
  | document
  deriving DecidableEq, Repr

namespace CatalogFormat

/-- All catalog formats. -/
def all : List CatalogFormat := [text, document]

/-- The name of a catalog format. -/
def label : CatalogFormat → String
  | text => "text"
  | document => "yaml"

/-- The suffix of the files of catalogs in this format. -/
def suffix : CatalogFormat → List Char
  | text => ".txt".toList
  | document => ".yaml".toList

end CatalogFormat

namespace Journal.LineFormat

/-- All formats of lines. -/
def all : List LineFormat := [json, console]

/-- The name of a format of lines. -/
def label : LineFormat → String
  | json => "json"
  | console => "console"

end Journal.LineFormat

/-- What is wrong with a setting. -/
inductive SettingFault where
  /-- The text is none of those that are allowed. -/
  | notAllowed (allowed : List String) (given : List Char)
  /-- The text is no whole number. -/
  | noInteger (given : List Char)
  /-- The number is below one. -/
  | notPositive
  /-- There is no level of that name. -/
  | unknownLevel (name : List Char)
  /-- A setting that production cannot do without is missing. -/
  | missingInProduction
  /-- There is no folder to read catalogs from. -/
  | noFolder
  deriving DecidableEq, Repr

/-- The wording of a fault. -/
def SettingFault.message : SettingFault → String
  | notAllowed allowed given =>
    "must be one of " ++ ", ".intercalate allowed ++ ", got " ++ String.ofList (Text.quote given)
  | noInteger given => "must be an integer, got " ++ String.ofList (Text.quote given)
  | notPositive => "must be positive"
  | unknownLevel name => "unknown level " ++ String.ofList (Text.quote name)
  | missingInProduction => "must be set in production"
  | noFolder => "catalog directory is not configured"

/-- Why there is no configuration. -/
inductive ConfigurationError where
  /-- A setting cannot be used. -/
  | setting (s : Setting) (fault : SettingFault)
  /-- The key of the level is there without a text. -/
  | levelWithoutText
  /-- Nothing was configured so far, and there are no settings to do so. -/
  | noSettings
  deriving DecidableEq, Repr

/-- The wording of a configuration error. -/
def ConfigurationError.message : ConfigurationError → String
  | setting s fault => s.key ++ ": " ++ fault.message
  | levelWithoutText => "'NoneType' object has no attribute 'upper'"
  | noSettings =>
    "SettingsProvider must be provided when creating Config for the first time"

/-- Where catalogs are, how they are written, and how the journal is kept. -/
structure Configuration where
  environment : Environment
  /-- The folder of the catalogs, which is never the empty text. -/
  catalogPath : Option (List Char)
  catalogFormat : CatalogFormat
  /-- The encoding of the catalogs. There is none if its key was given without a text. -/
  catalogEncoding : Option (List Char)
  maxIncludeDepth : Int
  /-- The level of the journal, in capitals. -/
  logLevel : List Char
  logFormat : Journal.LineFormat
  deriving DecidableEq, Repr

namespace Configuration

/-- The choice that a setting makes by name. Case and blanks around the name do not count, and
without a text the setting makes the default choice. -/
def choice {α : Type} (settings : Settings) (s : Setting) (choices : List α) (label : α → String)
    (default : α) : Except ConfigurationError α :=
  match settings.text? s with
  | none => .ok default
  | some given =>
    let name := Text.toSmall (Text.strip given)
    match choices.find? fun c => (label c).toList = name with
    | some c => .ok c
    | none => .error (.setting s (.notAllowed (choices.map label) given))

/-- The include depth that the settings ask for. -/
def depthOf (settings : Settings) : Except ConfigurationError Int :=
  match settings.text? .maxIncludeDepth with
  | none => .ok Catalog.defaultMaxDepth
  | some given =>
    match Text.readInt? given with
    | some n => .ok n
    | none => .error (.setting .maxIncludeDepth (.noInteger given))

/-- The level of the journal that the settings ask for, in capitals. -/
def levelOf (settings : Settings) : Except ConfigurationError (List Char) :=
  match settings.value? .logLevel with
  | none => .ok Journal.Level.info.capitals
  | some (some given) => .ok (Text.toCapitals given)
  | some none => .error .levelWithoutText

/-- The configuration that settings describe. Of several faults the first one counts. -/
def ofSettings (settings : Settings) : Except ConfigurationError Configuration := do
  let environment ← choice settings .environment Environment.all Environment.label .development
  let catalogFormat ← choice settings .catalogFormat CatalogFormat.all CatalogFormat.label .text
  let maxIncludeDepth ← depthOf settings
  let logLevel ← levelOf settings
  let logFormat ← choice settings .logFormat Journal.LineFormat.all Journal.LineFormat.label .json
  return {
    environment, catalogFormat, maxIncludeDepth, logLevel, logFormat
    catalogPath := settings.text? .catalogPath
    catalogEncoding := (settings.value? .catalogEncoding).getD (some "utf-8".toList) }

/-- Checks that the depth is positive, that the level is known, and that production has a folder of
catalogs, in this order. -/
def validate (c : Configuration) : Except ConfigurationError Unit :=
  if c.maxIncludeDepth < 1 then .error (.setting .maxIncludeDepth .notPositive)
  else if (Journal.Level.ofCapitals? c.logLevel).isNone then
    .error (.setting .logLevel (.unknownLevel c.logLevel))
  else if c.environment = .production && c.catalogPath.isNone then
    .error (.setting .catalogPath .missingInProduction)
  else .ok ()

/-- The settings that write a configuration down. -/
def toSettings (c : Configuration) : Settings :=
  .ofEntries <|
    [(Setting.environment.key.toList, some c.environment.label.toList),
     (Setting.catalogFormat.key.toList, some c.catalogFormat.label.toList),
     (Setting.catalogEncoding.key.toList, c.catalogEncoding),
     (Setting.maxIncludeDepth.key.toList, some (toString c.maxIncludeDepth).toList),
     (Setting.logLevel.key.toList, some c.logLevel),
     (Setting.logFormat.key.toList, some c.logFormat.label.toList)] ++
    match c.catalogPath with
    | some path => [(Setting.catalogPath.key.toList, some path)]
    | none => []

/-- How the journal of a configuration is kept. -/
def journal (c : Configuration) : Journal.Setup :=
  .ofNames c.environment.label.toList c.logLevel c.logFormat true

end Configuration

end PhoneticCatalog
