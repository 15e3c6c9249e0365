import PhoneticCatalog.Context.Reader
import PhoneticCatalog.Requested

/-!
# Phonetic rules

A rule replaces a literal pattern by a phoneme where the text before the pattern satisfies the left
context and the text after it satisfies the right one, and where the rule's languages are in scope.
A `Rule` exists only if both contexts can be read: it carries the two expressions together with the
proof that they come from the texts of the contexts.

The left context is read with an end-of-text sign behind it and the right one with a start-of-text
sign before it. Each is then looked for in its own part of the text, cut out at the pattern.
-/

namespace PhoneticCatalog

/-- The fields that a rule is written with. Rules are the same if all of them are. -/
structure RuleFields where
  pattern : List Char
  left : List Char
  right : List Char
  phoneme : List Char
  languages : LanguageSet := .empty
  logical : List Char := []
  deriving DecidableEq

namespace RuleFields

/-- The text that the left context is read from. -/
def leftText (f : RuleFields) : List Char := f.left ++ ['$']

/-- The text that the right context is read from. -/
def rightText (f : RuleFields) : List Char := '^' :: f.right

end RuleFields

/-- A rule whose contexts can be read. -/
structure Rule where
  fields : RuleFields
  leftContext : Context.Search
  rightContext : Context.Search
  left_read : Context.Search.read fields.leftText = .ok leftContext
  right_read : Context.Search.read fields.rightText = .ok rightContext

/-- A context that cannot be read: the text that was tried, and why it was refused. -/
structure ContextError where
  text : List Char
  refusal : Context.Refusal
  deriving DecidableEq, Repr

/-- The wording of a context error. -/
def ContextError.message (e : ContextError) : String := e.refusal.message e.text

/-- The position asked for lies before the text. -/
structure InvalidPosition where
  position : Int
  deriving DecidableEq, Repr

/-- The wording of an invalid position. -/
def InvalidPosition.message (e : InvalidPosition) : String :=
  "Can not match pattern at negative index " ++ toString e.position

/-- A result together with the proof that it is the result. -/
def witnessed {ε α : Type} : (x : Except ε α) → Except ε { a : α // x = .ok a }
  | .ok a => .ok ⟨a, rfl⟩
  | .error e => .error e

/-- Reads a context. -/
def readContext (text : List Char) :
    Except ContextError { s : Context.Search // Context.Search.read text = .ok s } :=
  (witnessed (Context.Search.read text)).mapError (⟨text, ·⟩)

namespace Rule

/-- The rule with the given fields. The left context is read first. -/
def ofFields (f : RuleFields) : Except ContextError Rule := do
  let left ← readContext f.leftText
  let right ← readContext f.rightText
  return ⟨f, left.1, right.1, left.2, right.2⟩

/-- Rules with the same fields are the same rule. -/
theorem ext_fields {r s : Rule} (h : r.fields = s.fields) : r = s := by
  obtain ⟨f, l, m, hl, hm⟩ := r
  obtain ⟨g, l', m', hl', hm'⟩ := s
  subst h
  obtain rfl : l = l' := Except.ok.inj (hl.symm.trans hl')
  obtain rfl : m = m' := Except.ok.inj (hm.symm.trans hm')
  rfl

instance : DecidableEq Rule := fun r s =>
  decidable_of_iff (r.fields = s.fields) ⟨ext_fields, fun h => h ▸ rfl⟩

/-- The text before the pattern satisfies the left context. -/
def leftHolds (r : Rule) (before : List Char) : Bool := r.leftContext.occursIn before

/-- The text after the pattern satisfies the right context. -/
def rightHolds (r : Rule) (after : List Char) : Bool := r.rightContext.occursIn after

/-- Pattern and contexts match at an offset of the text. An offset beyond the end never matches. -/
def matchesAt (r : Rule) (text : List Char) (i : Nat) : Bool :=
  let stop := i + r.fields.pattern.length
  stop ≤ text.length && (text.drop i).take r.fields.pattern.length = r.fields.pattern
    && r.rightHolds (text.drop stop) && r.leftHolds (text.take i)

/-- Pattern and contexts match at a position, which may not be negative. -/
def matches? (r : Rule) (text : List Char) (position : Int) : Except InvalidPosition Bool :=
  if position < 0 then .error ⟨position⟩ else .ok (r.matchesAt text position.toNat)

/-- The rule applies to the requested languages: one of them lifts all restrictions, or the rule has
none, or its languages are all requested or, unless it wants them all, some are. -/
def inScope (r : Rule) (requested : LanguageSet) : Bool :=
  anyLanguage ∈ requested || r.fields.languages.names.isEmpty ||
    if r.fields.logical = allLanguages then r.fields.languages.subset requested
    else r.fields.languages.meets requested

/-- The rule applies to what is asked for. -/
def appliesTo (r : Rule) (requested : Requested) : Bool := r.inScope requested.languages

end Rule

end PhoneticCatalog
