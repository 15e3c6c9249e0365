import PhoneticCatalog.Category
import PhoneticCatalog.LanguageSet

/-!
# Requested languages

Rules are asked for with one language or with a collection of languages. A repository looks a
request up as a single language (`Requested.language`), and the scope of a rule is compared with the
set of the languages (`Requested.languages`).
-/

namespace PhoneticCatalog

/-- The languages that rules are asked for: one, or a collection of them. -/
inductive Requested where
  | one (language : List Char)
  | several (languages : List (List Char))
  deriving DecidableEq, Repr

namespace Requested

/-- The language that a request is looked up as. A collection of one is that one; any other
collection is looked up as any language. -/
def language : Requested → List Char
  | one l => l
  | several [l] => l
  | several _ => anyLanguage

/-- The names that are asked for. One name is not taken for a collection of its letters. -/
def names : Requested → List (List Char)
  | one l => [l]
  | several ls => ls

/-- The set of the names that are asked for. -/
def languages (requested : Requested) : LanguageSet := .ofList requested.names

end Requested

end PhoneticCatalog
