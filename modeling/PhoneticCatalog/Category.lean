import PhoneticCatalog.Text.Binary64
import PhoneticCatalog.Text.Quoted

/-!
# Name types, rule types and catalog names

A catalog of rules is addressed by the kind of names it is for, the stage at which its rules apply,
and a language; `catalogName` writes the three down as one name. Callers may give a kind or a stage
by its member, by its short name, or by something that denotes neither (`Argument`).
-/

namespace PhoneticCatalog

/-- Kinds of names that rules are tuned for. -/
inductive NameType where
  | ashkenazi
  | generic
  | sephardic
  deriving DecidableEq, Repr

/-- Stages at which rules apply. -/
inductive RuleType where
  | approx
  | exact
  | rules
  deriving DecidableEq, Repr

/-- The language that lifts every language restriction. -/
def anyLanguage : List Char := "any".toList

/-- The combinator that requires all languages of a rule. -/
def allLanguages : List Char := "ALL".toList

/-- The stand-in for a language that holds the rules common to all languages. -/
def commonLanguage : List Char := "common".toList

namespace NameType

/-- All name types, in their order. -/
def all : List NameType := [ashkenazi, generic, sephardic]

/-- The short name, which catalog names start with. -/
def value : NameType → List Char
  | ashkenazi => "ash".toList
  | generic => "gen".toList
  | sephardic => "sep".toList

/-- The name of the member. -/
def label : NameType → List Char
  | ashkenazi => "ASHKENAZI".toList
  | generic => "GENERIC".toList
  | sephardic => "SEPHARDIC".toList

/-- The name type with a short name. -/
def ofValue? (s : List Char) : Option NameType := all.find? (·.value = s)

/-- The name of the catalog that lists the languages of a name type. -/
def languagesCatalog (t : NameType) : List Char := t.value ++ "_languages".toList

end NameType

namespace RuleType

/-- All rule types, in their order. -/
def all : List RuleType := [approx, exact, rules]

/-- The short name, which stands second in catalog names. -/
def value : RuleType → List Char
  | approx => "approx".toList
  | exact => "exact".toList
  | rules => "rules".toList

/-- The name of the member. -/
def label : RuleType → List Char
  | approx => "APPROX".toList
  | exact => "EXACT".toList
  | rules => "RULES".toList

/-- The rule type with a short name. -/
def ofValue? (s : List Char) : Option RuleType := all.find? (·.value = s)

end RuleType

/-- The name of the catalog for a name type, a rule type and a language. -/
def catalogName (n : NameType) (r : RuleType) (language : List Char) : List Char :=
  n.value ++ '_' :: (r.value ++ '_' :: language)

/-! ## Arguments -/

/-- What a caller may give where a name type or a rule type is wanted. Whole numbers of any size may
be given, and have all of their digits as their text. -/
inductive Argument where
  | nameType (t : NameType)
  | ruleType (t : RuleType)
  | text (s : List Char)
  | integer (n : Int)
  | decimal (x : Text.Binary64)
  | truth (b : Bool)
  | nothing
  deriving DecidableEq, Repr

/-- A member of an enumeration, as it is shown in a message. -/
def memberText (enumeration : String) (label value : List Char) : List Char :=
  '<' :: enumeration.toList ++ '.' :: label ++ ": ".toList ++ Text.quote value ++ ['>']

namespace Argument

/-- The argument as it is shown in a message. -/
def shown : Argument → List Char
  | nameType t => memberText "NameType" t.label t.value
  | ruleType t => memberText "RuleType" t.label t.value
  | text s => Text.quote s
  | integer n => (toString n).toList
  | decimal x => x.shown
  | truth b => (if b then "True" else "False").toList
  | nothing => "None".toList

/-- The value that the argument stands for: of a member its short name, else the argument itself. -/
def plain : Argument → Argument
  | nameType t => text t.value
  | ruleType t => text t.value
  | a => a

/-- The argument's own text: of a member its short name. -/
def ownText (a : Argument) : List Char :=
  match a.plain with
  | text s => s
  | b => b.shown

/-- The name type that the argument denotes. -/
def nameType? : Argument → Option NameType
  | nameType t => some t
  | text s => NameType.ofValue? s
  | _ => none

/-- The rule type that the argument denotes. -/
def ruleType? : Argument → Option RuleType
  | ruleType t => some t
  | text s => RuleType.ofValue? s
  | _ => none

end Argument

/-- An argument that denotes no member of the enumeration it should. -/
inductive ArgumentError where
  | noNameType (a : Argument)
  | noRuleType (a : Argument)
  deriving DecidableEq, Repr

/-- The wording of an argument error. -/
def ArgumentError.message : ArgumentError → String
  | noNameType a => String.ofList a.shown ++ " is not a valid NameType"
  | noRuleType a => String.ofList a.shown ++ " is not a valid RuleType"

namespace Argument

/-- The name type that the argument denotes, or the error that it denotes none. -/
def toNameType (a : Argument) : Except ArgumentError NameType :=
  match a.nameType? with
  | some t => .ok t
  | none => .error (.noNameType a)

/-- The rule type that the argument denotes, or the error that it denotes none. -/
def toRuleType (a : Argument) : Except ArgumentError RuleType :=
  match a.ruleType? with
  | some t => .ok t
  | none => .error (.noRuleType a)

end Argument

/-- The catalog name for two arguments and a language. The name type is looked at first. -/
def catalogNameOf (n r : Argument) (language : List Char) :
    Except ArgumentError (List Char) := do
  let n ← n.toNameType
  let r ← r.toRuleType
  return catalogName n r language

end PhoneticCatalog
