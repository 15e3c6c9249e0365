import PhoneticCatalog.Text.LetterCase

/-!
# Levels

How important something is that gets told. Levels are ordered by their numbers, and a journal leaves
out what lies below its threshold.
-/

namespace PhoneticCatalog.Journal

/-- How important something is. -/
inductive Level where
  | debug
  | info
  | warning
  | error
  | critical
  deriving DecidableEq, Repr

namespace Level

/-- All levels, from the least important one on. -/
def all : List Level := [debug, info, warning, error, critical]

/-- The number that levels are compared by. -/
def number : Level → Nat
  | debug => 10
  | info => 20
  | warning => 30
  | error => 40
  | critical => 50

/-- The name of a level, in small letters. -/
def label : Level → String
  | debug => "debug"
  | info => "info"
  | warning => "warning"
  | error => "error"
  | critical => "critical"

/-- The name of a level in capitals. -/
def capitals (l : Level) : List Char := Text.toCapitals l.label.toList

/-- The level with a name in capitals. -/
def ofCapitals? (name : List Char) : Option Level := all.find? (·.capitals = name)

/-- The level that a name in any case asks for. A name of no level asks for the level of
information. -/
def requested (name : List Char) : Level := (ofCapitals? (Text.toCapitals name)).getD info

end Level

end PhoneticCatalog.Journal
