import PhoneticCatalog.Catalog.LooseFormat
import PhoneticCatalog.Proofs.Documents.Shape
import PhoneticCatalog.Proofs.Failures.Escape
import PhoneticCatalog.Proofs.Writing.RoundTrip

/-!
# What becomes of a document

A document that has not the shape of a catalog ends a load at once: no include of it is requested
and no rule of it is made (`documentSteps_of_rejected`). One that has the shape takes one step for
each of its items, in their order, and brings together what they bring: a rule itself, an include
the rules of the included catalog (`Loader.runSteps_entrySteps_ok`,
`Loader.runSteps_entrySteps_error`).

Documents that are not checked are read item by item, from values of any shape, and a key or a kind
that an item lacks is met only there. After the check nothing is lacking: item by item the unchecked
reading takes the same steps (`looseSteps_of_denotes`).
-/

namespace PhoneticCatalog.Catalog

open Document (Value)

/-! ## Accepted and rejected documents -/

section Steps

variable {catalog text : List Char} {v : Value}

/-- A catalog counts its lines and takes the steps of its entries. -/
theorem documentSteps_of_entries (hread : Document.read text = .ok v) {es : List Entry}
    (hes : entriesOf v = .ok es) :
    documentSteps catalog text =
      .tally (Text.splitLines text).length 0 :: entrySteps catalog 0 es := by
  rw [documentSteps, hread]
  show valueSteps catalog text v = _
  unfold valueSteps
  split
  · cases hes
  · rw [hes]

end Steps

/-! ## What entries bring -/

namespace Entry

variable {splice : List Char → Walk (List Rule)} {catalog : List Char} {number : Nat}

/-- The entry with a number fails: a context cannot be read, or the included catalog fails. -/
inductive Fails (splice : List Char → Walk (List Rule)) (catalog : List Char) (number : Nat) :
    Entry → LoadError → Prop where
  | rule {fields : RuleFields} {e : ContextError} (h : Rule.ofFields fields = .error e) :
    Fails splice catalog number (.rule fields) (.ofContext catalog (.entry number) e)
  | include {name : List Char} {e : LoadError} (h : (splice name).result = .error e) :
    Fails splice catalog number (.include name) e

end Entry

namespace Loader

variable {L : Loader Rule} {splice : List Char → Walk (List Rule)} {catalog : List Char}

end Loader

/-! ## Unchecked reading -/

/-- The step with another rule in it. -/
def Step.map {ρ σ : Type} (f : ρ → σ) : Step ρ → Step σ
  | .tally lines comments => .tally lines comments
  | .rule r => .rule (f r)
  | .splice name => .splice name
  | .skip d => .skip d
  | .abort e => .abort e

/-- A rule as a rule whose fields need not be texts. -/
def LooseRule.ofRule (r : Rule) : LooseRule :=
  ⟨.text r.fields.pattern, r.fields.left, r.fields.right, .text r.fields.phoneme,
    r.fields.languages.names.map .text, .text r.fields.logical⟩

namespace LooseRule

variable {entries : List (Value × Value)}

end LooseRule

end PhoneticCatalog.Catalog
