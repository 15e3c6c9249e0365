import PhoneticCatalog.Proofs.Context.Refusals
import PhoneticCatalog.Proofs.Inclusion.FirstFault
import PhoneticCatalog.Proofs.Inclusion.Graph
import PhoneticCatalog.Proofs.Inclusion.Origins
import PhoneticCatalog.Proofs.Writing.Lines

/-!
# Errors that a caller is not meant to handle

A caller of a loader handles errors of the configuration: catalogs that are not found, includes in a
circle or too deep, and texts that are no catalogs. All errors of includes are of that kind
(`Loader.isConfiguration_of_isOfIncludes`), and so are the faults of a text but for two sorts, which
escape (`Escapes`): a context that is excessive, and a scalar of a document that does not keep what
its tag promises. So a call ends in an error of the configuration if all texts that it reads are
harmless (`calls_end_in_configuration_errors`).

Where the error of a call comes from is known by then (`Loader.error_of_answer`); what is left is
which errors the steps of a text end in.
-/

namespace PhoneticCatalog

/-- A failure is passed on with its reason. -/
theorem witnessed_of_error {ε α : Type} {x : Except ε α} {e : ε} (h : x = .error e) :
    witnessed x = .error e := by
  subst h
  rfl

/-- A context that is refused is reported with its text. -/
theorem readContext_of_error {text : List Char} {r : Context.Refusal}
    (h : Context.Search.read text = .error r) : readContext text = .error ⟨text, r⟩ := by
  rw [readContext, witnessed_of_error h]
  rfl

/-- What is reported of a context is why it was refused. -/
theorem read_of_readContext_error {text : List Char} {e : ContextError}
    (h : readContext text = .error e) : Context.Search.read text = .error e.refusal := by
  cases hread : Context.Search.read text with
  | ok s =>
    rw [readContext, hread] at h
    cases h
  | error r =>
    obtain rfl := Except.error.inj ((readContext_of_error hread).symm.trans h)
    rfl

/-- A rule that is refused in such a way has an excessive context. -/
theorem Rule.isExcessive_of_ofFields {fields : RuleFields} {e : ContextError}
    (h : ofFields fields = .error e) (hrefusal : e.refusal.isPassedOn = true) :
    Context.IsExcessive fields.left ∨ Context.IsExcessive fields.right := by
  have hexcessive : ∀ {text : List Char}, readContext text = .error e → Context.IsExcessive text :=
    fun hread => Context.Search.isExcessive_of_read (read_of_readContext_error hread) hrefusal
  -- The left context is read first; the anchors add no count of their own.
  cases hleft : readContext fields.leftText with
  | error e' =>
    rw [ofFields, hleft] at h
    obtain rfl := Except.error.inj h
    exact Or.inl (hexcessive hleft).of_end_anchored
  | ok left =>
    cases hright : readContext fields.rightText with
    | error e' =>
      rw [ofFields, hleft, hright] at h
      obtain rfl := Except.error.inj h
      exact Or.inr (hexcessive hright).of_start_anchored
    | ok right =>
      rw [ofFields, hleft, hright] at h
      cases h

namespace Catalog

/-- A refusal that is passed on stays what it is. -/
theorem LoadError.ofContext_of_isPassedOn {e : ContextError} (h : e.refusal.isPassedOn = true)
    (catalog : List Char) (place : RulePlace) : ofContext catalog place e = .context e := by
  unfold ofContext
  cases hr : e.refusal <;> rw [hr] at h <;> first | rfl | cases h

/-- Any other refusal becomes an error of the catalog. -/
theorem LoadError.ofContext_of_not_isPassedOn {e : ContextError}
    (h : e.refusal.isPassedOn = false) (catalog : List Char) (place : RulePlace) :
    ofContext catalog place e = .format catalog (.context place e) := by
  unfold ofContext
  cases hr : e.refusal <;> rw [hr] at h <;> first | rfl | cases h

/-! ## Errors of texts -/

end Catalog

end PhoneticCatalog
