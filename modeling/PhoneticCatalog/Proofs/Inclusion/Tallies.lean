import PhoneticCatalog.Catalog.LooseFormat
import PhoneticCatalog.Proofs.Inclusion.FirstFault
import PhoneticCatalog.Proofs.Inclusion.OpenCatalogs

/-!
# Counted catalogs

A catalog is counted when it is read, an include when it is met, and a request when it is made, so
that the counts differ by one where a run breaks off in between. `Walk.Tallies` says by how much,
for every result of a walk; it holds of a single step, and with that of runs, of visits and of calls
(`Loader.answer_balances`).

That holds in all formats in which a step ends a run by an error of the text only
(`Format.AbortsInText`), which are the ones there are.
-/

namespace PhoneticCatalog.Catalog

/-! ## Formats -/

/-- Where a step ends a run, it does so in an error of the text. -/
def Format.AbortsInText {ρ : Type} (format : Format ρ) : Prop :=
  ∀ catalog text e, .abort e ∈ format.steps catalog text → e.isTextual

/-- The formats of catalogs abort with errors of the text alone. -/
theorem abortsInText_ofKind (kind : Journal.LoaderKind) : (Format.ofKind kind).AbortsInText := by
  intro catalog text e h
  rcases abort_mem_steps h with hitems | ⟨-, c, place, -, cause, -, -, -, rfl⟩
  · exact isTextual_of_itemsOf hitems
  · exact isTextual_ofContext c place cause

section Loose

open Document (Value)

/-- Where there is no value, there is an error of the text. -/
def FailsInText {α : Type} (x : Except LoadError α) : Prop := ∀ e, x = .error e → e.isTextual

/-- Two readings in turn fail in the text if each of them does. -/
theorem FailsInText.bind {α β : Type} {x : Except LoadError α} {f : α → Except LoadError β}
    (h : FailsInText x) (hf : ∀ a, FailsInText (f a)) : FailsInText (x >>= f) := by
  cases x with
  | ok a => exact hf a
  | error e => exact fun e' he' => h e' (Except.error.inj he' ▸ rfl)

/-- A value is no failure. -/
theorem failsInText_ok {α : Type} (a : α) : FailsInText (.ok a) := nofun

/-- A fault of an entry is an error of the text. -/
theorem failsInText_entry {α : Type} (fault : EntryFault) :
    FailsInText (.error (.entry fault) : Except LoadError α) := by
  intro e he
  obtain rfl := Except.error.inj he
  rfl

/-- What fails with faults of entries fails in the text. -/
theorem failsInText_mapError {α : Type} (x : Except EntryFault α) :
    FailsInText (x.mapError .entry) := by
  cases x with
  | ok a => exact failsInText_ok a
  | error fault => exact failsInText_entry fault

/-- A context that does not compile is an error of the text. -/
theorem failsInText_checkContext (catalog : List Char) (number : Nat) (text : List Char) :
    FailsInText (LooseRule.checkContext catalog number text) := by
  rw [LooseRule.checkContext]
  split
  · exact failsInText_ok ()
  · intro e he
    obtain rfl := Except.error.inj he
    exact isTextual_ofContext _ _ _

/-- A rule of a loose document fails in the text. -/
theorem failsInText_ofValue (catalog : List Char) (number : Nat) (v : Value) :
    FailsInText (LooseRule.ofValue catalog number v) := by
  rw [LooseRule.ofValue]
  refine (failsInText_mapError _).bind fun pattern => ?_
  refine (failsInText_mapError _).bind fun phoneme => ?_
  refine (failsInText_mapError _).bind fun languages => ?_
  -- Each context is a text, which is read, or the rule ends with what it is instead.
  dsimp only
  split
  · rw [pure_bind]
    refine (failsInText_checkContext _ _ _).bind fun _ => ?_
    split
    · rw [pure_bind]
      exact (failsInText_checkContext _ _ _).bind fun _ => failsInText_ok _
    · exact failsInText_entry _
  · exact failsInText_entry _

/-- An entry of a loose document aborts with an error of the text. -/
theorem isTextual_of_looseStep {catalog : List Char} {number : Nat} {v : Value} {e : LoadError}
    (h : .abort e = looseStep catalog number v) : e.isTextual := by
  rw [looseStep] at h
  split at h
  · obtain rfl := Step.abort.inj h
    rfl
  · split at h
    · cases h
    · obtain rfl := Step.abort.inj h
      rfl
  · split at h
    · cases h
    · rename_i hrule
      obtain rfl := Step.abort.inj h
      exact failsInText_ofValue _ _ _ _ hrule

/-- The entries of a loose document abort with errors of the text. -/
theorem isTextual_of_looseSteps {catalog : List Char} {number : Nat} {items : List Value}
    {e : LoadError} (h : .abort e ∈ looseSteps catalog number items) : e.isTextual := by
  induction items generalizing number with
  | nil => exact absurd h List.not_mem_nil
  | cons v rest ih =>
    rcases List.mem_cons.1 h with hstep | hrest
    · exact isTextual_of_looseStep hstep
    · exact ih hrest

/-- Loose documents abort with errors of the text alone. -/
theorem abortsInText_loose (needsRules : Bool) : (looseFormat needsRules).AbortsInText := by
  intro catalog text e h
  have habort : ∀ e', e'.isTextual → Step.abort e ∈ [Step.abort (ρ := LooseRule) e'] →
      e.isTextual := by
    intro e' he' hmem
    obtain rfl := Step.abort.inj (List.mem_singleton.1 hmem)
    exact he'
  simp only [looseFormat] at h
  split at h
  · rename_i fault _
    exact habort _ (by cases fault <;> rfl) h
  -- A document that is read aborts for its shape, or within one of its entries.
  unfold looseValueSteps at h
  split at h
  · exact absurd h List.not_mem_nil
  · dsimp only at h
    split at h
    · exact habort _ rfl h
    · rcases List.mem_cons.1 h with htally | h
      · cases htally
      split at h
      · exact habort _ rfl h
      · split at h
        · exact isTextual_of_looseSteps h
        · exact habort _ rfl h
  · exact habort _ rfl h

end Loose

/-! ## Tallies -/

/-- The catalogs that were included, or asked for first, and that a result leaves unread. -/
def unread {α : Type} : Except LoadError α → Nat
  | .ok _ => 0
  | .error e => if e.isTextual then 0 else 1

/-- The requests that a result leaves without a text. -/
def refused {α : Type} : Except LoadError α → Nat
  | .error (.notOpened _ _) => 1
  | _ => 0

namespace Walk

variable {α β : Type}

/-- What a walk has counted fits together, where `n` catalogs are read without an include. -/
structure Tallies (n : Nat) (w : Walk α) : Prop where
  catalogs : w.trace.counters.catalogs + unread w.result = w.trace.counters.includes + n
  opened : w.trace.opened.length = w.trace.counters.catalogs + refused w.result
  rules : w.trace.counters.rules = 0
  diagnostics : w.trace.counters.diagnostics = 0

namespace Tallies

variable {v w : Walk α}

/-- A mere result counts nothing. -/
theorem pure (a : α) : (Pure.pure a : Walk α).Tallies 0 := ⟨rfl, rfl, rfl, rfl⟩

/-- An error of the text counts nothing. -/
theorem fail {e : LoadError} (h : e.isTextual) : (Walk.fail e : Walk α).Tallies 0 := by
  cases e with
  | notOpened _ _ | cycle _ | tooDeep _ _ => cases h
  | _ => exact ⟨rfl, rfl, rfl, rfl⟩

/-- Tallies add up, up to the first error. -/
theorem bind {f : α → Walk β} (h : v.Tallies 0) (hf : ∀ a, (f a).Tallies 0) :
    (v >>= f).Tallies 0 := by
  obtain ⟨hcatalogs, hopened, hrules, hdiagnostics⟩ := h
  -- What failed has left its tally; else the two tallies add up.
  cases hv : v.result with
  | error e =>
    rw [hv] at hcatalogs hopened
    rw [bind_of_error hv]
    refine ⟨hcatalogs, ?_, hrules, hdiagnostics⟩
    rw [hopened]
    cases e <;> rfl
  | ok a =>
    rw [hv] at hcatalogs hopened
    obtain ⟨hcatalogs', hopened', hrules', hdiagnostics'⟩ := hf a
    simp only [unread, refused, Nat.add_zero] at hcatalogs hopened
    rw [bind_of_ok hv]
    constructor <;>
      simp only [Trace.counters_append, Trace.opened_append, Counters.add_eq,
        List.length_append] <;>
      omega

/-- An include is counted before its catalog is. -/
theorem include_bind (h : w.Tallies 1) :
    (Walk.leave { counters := { includes := 1 } } >>= fun _ => w).Tallies 0 := by
  obtain ⟨hcatalogs, hopened, hrules, hdiagnostics⟩ := h
  rw [leave_bind]
  constructor <;> simp only [Trace.counters_append, Trace.opened_append, Counters.add_eq,
    List.nil_append] <;> omega

/-- A catalog that is read is counted after the request. -/
theorem read_bind {name : List Char} {events : List Journal.Event} (h : w.Tallies 0) :
    (Walk.leave { opened := [name], events } >>= fun _ =>
      Walk.leave { counters := { catalogs := 1 } } >>= fun _ => w).Tallies 1 := by
  obtain ⟨hcatalogs, hopened, hrules, hdiagnostics⟩ := h
  rw [leave_bind, leave_bind]
  constructor <;> simp only [Trace.counters_append, Trace.opened_append, Counters.add_eq,
    List.length_append, List.length_singleton, List.length_nil] <;> omega

end Tallies

end Walk

namespace Loader

variable {ρ : Type} {L : Loader ρ}

/-- Steps add up if the visits of included catalogs do, each of which reads one catalog. -/
theorem runSteps_tallies {splice : List Char → Walk (List ρ)} {steps : List (Step ρ)}
    (hsplice : ∀ b, (splice b).Tallies 1) (haborts : ∀ e, .abort e ∈ steps → e.isTextual) :
    (L.runSteps splice steps).Tallies 0 := by
  induction steps with
  | nil => exact .pure []
  | cons s rest ih =>
    have hstep : (L.runStep splice s).Tallies 0 := by
      cases s with
      | tally lines comments => exact ⟨rfl, rfl, rfl, rfl⟩
      | rule r => exact .pure [r]
      | splice b => exact .include_bind (hsplice b)
      | skip d => exact ⟨rfl, rfl, rfl, rfl⟩
      | abort e => exact .fail (haborts e List.mem_cons_self)
    rw [runSteps_cons]
    apply hstep.bind
    intro first
    apply (ih fun e he => haborts e (List.mem_cons_of_mem s he)).bind
    intro others
    exact .pure _

/-- A visit reads one catalog more than it meets includes, unless it ends in an error of includes.
-/
theorem visit_tallies (h : L.format.AbortsInText) (room : Nat) (stack : List (List Char))
    (name : List Char) : (L.visit room stack name).Tallies 1 := by
  refine L.visit_induction (motive := fun _ _ _ w => w.Tallies 1) ?cycle ?full ?refused ?run
    room stack name
  case cycle => exact fun _ _ _ _ => ⟨rfl, rfl, rfl, rfl⟩
  case full => exact fun _ _ _ => ⟨rfl, rfl, rfl, rfl⟩
  case refused => exact fun _ _ _ _ _ _ => ⟨rfl, rfl, rfl, rfl⟩
  case run =>
    intro room stack name text _ _ ih
    exact .read_bind (runSteps_tallies ih (h name text))

end Loader

/-! ## Calls -/

/-- The texts that a call brings along. -/
def Call.ownTexts : Call → Nat
  | .load _ => 0
  | .parse .. => 1

/-- The counters that a call leaves behind balance. Every catalog was included, but for the first
one, and every text was requested, but for one that a call brings along; the rules and diagnostics
of a call that fails are not counted. -/
structure Call.Balances {ρ : Type} (call : Call) (w : Walk (List ρ)) : Prop where
  catalogs : w.trace.counters.catalogs + unread w.result = w.trace.counters.includes + 1
  opened : w.trace.opened.length + call.ownTexts = w.trace.counters.catalogs + refused w.result
  unfinished : ∀ e, w.result = .error e →
    w.trace.counters.rules = 0 ∧ w.trace.counters.diagnostics = 0

namespace Loader

variable {ρ : Type} {L : Loader ρ}

/-- What comes at the end of a run changes the counts of its rules and diagnostics only, and none of
them if the run has failed. -/
theorem finish_balances {call : Call} {name : List Char} {w : Walk (List ρ)}
    (h : call.Balances w) : call.Balances (L.finish name w) := by
  obtain ⟨hcatalogs, hincludes⟩ := L.finish_counters name w
  have halike := L.finish_alike name w
  refine ⟨?_, ?_, fun e he => ?_⟩
  · rw [hcatalogs, hincludes, halike.result, h.catalogs]
  · rw [hcatalogs, halike.opened, halike.result, h.opened]
  · have he : w.result = .error e := halike.result.symm.trans he
    rw [finish_of_error L name he]
    exact h.unfinished e he

/-- In every format the counters of a call balance. -/
theorem answer_balances (h : L.format.AbortsInText) (call : Call) :
    call.Balances (L.answer call) := by
  cases call with
  | load name =>
    have hvisit := visit_tallies h L.maxDepth [] name
    exact finish_balances ⟨hvisit.catalogs, hvisit.opened,
      fun _ _ => ⟨hvisit.rules, hvisit.diagnostics⟩⟩
  | parse text name =>
    obtain ⟨hcatalogs, hopened, hrules, hdiagnostics⟩ :=
      runSteps_tallies (L := L) (visit_tallies h (L.maxDepth - 1) [name]) (h name text)
    refine finish_balances ⟨?_, ?_, fun _ _ => ?_⟩ <;>
      rw [Walk.leave_bind] <;>
      simp only [Trace.counters_append, Trace.opened_append, Counters.add_eq, List.nil_append,
        Call.ownTexts] <;>
      omega

end Loader

end PhoneticCatalog.Catalog
