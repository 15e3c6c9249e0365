/-!
# Diagnostics and counters

Lines of a catalog that cannot be used are skipped, and a `Diagnostic` keeps each of them.
`Counters` says how much was read on the way.
-/

namespace PhoneticCatalog.Catalog

/-- Why a line was skipped. -/
inductive Malformation where
  /-- The line has this number of fields, and not the four of a rule. -/
  | rule (parts : Nat)
  /-- The include names nothing, or its name has a separator in it. -/
  | inclusion
  deriving DecidableEq, Repr

namespace Malformation

/-- The short name of the kind of problem. -/
def kind : Malformation → String
  | rule _ => "malformed_rule"
  | inclusion => "malformed_include"

/-- The wording of the problem. -/
def message : Malformation → String
  | rule parts => "malformed rule statement split into " ++ toString parts ++ " parts"
  | inclusion => "malformed include statement"

end Malformation

/-- A line that was skipped: the catalog it stands in, its number counted from one, and its text. -/
structure Diagnostic where
  source : List Char
  line : Nat
  problem : Malformation
  raw : List Char
  deriving DecidableEq, Repr

/-- A diagnostic on one line. -/
def Diagnostic.text (d : Diagnostic) : List Char :=
  d.source ++ (":" ++ toString d.line ++ ": " ++ d.problem.message).toList

/-- How much was read. `rules` and `diagnostics` are filled in at the end of a load only. -/
structure Counters where
  catalogs : Nat := 0
  lines : Nat := 0
  comments : Nat := 0
  rules : Nat := 0
  includes : Nat := 0
  diagnostics : Nat := 0
  deriving DecidableEq, Repr

/-- Both counts together. -/
instance : Add Counters where
  add a b :=
    ⟨a.catalogs + b.catalogs, a.lines + b.lines, a.comments + b.comments, a.rules + b.rules,
     a.includes + b.includes, a.diagnostics + b.diagnostics⟩

end PhoneticCatalog.Catalog
