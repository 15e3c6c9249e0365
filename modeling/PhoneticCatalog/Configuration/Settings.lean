import PhoneticCatalog.Table

/-!
# Settings

Settings are texts by key. A key may also be there without a text, which is not the same as a key
that is not there. `Setting` lists the settings that a configuration is read from, and a
`SettingsProvider` is where it gets them.
-/

namespace PhoneticCatalog

/-- A setting of a configuration. -/
inductive Setting where
  | environment
  | catalogPath
  | catalogFormat
  | catalogEncoding
  | maxIncludeDepth
  | logLevel
  | logFormat
  deriving DecidableEq, Repr

/-- The key of a setting. -/
def Setting.key : Setting → String
  | environment => "PHONORULES_ENVIRONMENT"
  | catalogPath => "PHONORULES_CATALOG_PATH"
  | catalogFormat => "PHONORULES_CATALOG_FORMAT"
  | catalogEncoding => "PHONORULES_CATALOG_ENCODING"
  | maxIncludeDepth => "PHONORULES_MAX_INCLUDE_DEPTH"
  | logLevel => "PHONORULES_LOG_LEVEL"
  | logFormat => "PHONORULES_LOG_FORMAT"

/-- Texts by key; a key may have none. -/
abbrev Settings := Table (List Char) (Option (List Char))

namespace Settings

/-- What stands under the key of a setting, if the key is there: a text or nothing. -/
def value? (s : Settings) (key : Setting) : Option (Option (List Char)) :=
  s.find? key.key.toList

/-- The text of a setting, unless it is empty. -/
def text? (s : Settings) (key : Setting) : Option (List Char) :=
  (s.value? key).join.filter (!·.isEmpty)

end Settings

/-- Where settings come from. -/
inductive SettingsProvider where
  /-- A mapping that a caller has made. -/
  | mapping (values : Settings)
  /-- The variables of the process, or those that a caller gives in their place. -/
  | environment (given? : Option Settings) (inherited : Settings)

/-- The settings that a provider has. -/
def SettingsProvider.settings : SettingsProvider → Settings
  | mapping values => values
  | environment given? inherited => given?.getD inherited

end PhoneticCatalog
