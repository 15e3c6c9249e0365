import PhoneticCatalog.Catalog.Loader
import PhoneticCatalog.Proofs.Inclusion.Walk

/-!
# Carrying out steps

`Loader.runStep` is the walk of a single step, and a list of steps is carried out by the walks of
its steps, one after the other (`runSteps_cons`, `runSteps_append`). Either all steps succeed, and
then the run brings together what each of them yields (`runSteps_of_succeeds`), or there is a first
step that fails, and then the run ends in its error (`runSteps_of_fails`).

`runSteps_congr` compares two runs of the same steps: they are equal as soon as the included
catalogs are read alike wherever the first run does not end in an error of some kind.
-/

namespace PhoneticCatalog.Catalog

/-- The walk has a result. -/
def Walk.Succeeds {α : Type} (w : Walk α) : Prop := ∃ a, w.result = .ok a

/-- The results of a walk, none if it failed. -/
def Walk.yield {α : Type} (w : Walk (List α)) : List α :=
  match w.result with
  | .ok a => a
  | .error _ => []

/-- The yield of a walk is its result, if it has one. -/
theorem Walk.yield_of_ok {α : Type} {w : Walk (List α)} {a : List α} (h : w.result = .ok a) :
    w.yield = a := by
  rw [yield, h]

/-- The result of a walk that succeeds is its yield. -/
theorem Walk.Succeeds.result_eq {α : Type} {w : Walk (List α)} (h : w.Succeeds) :
    w.result = .ok w.yield := by
  obtain ⟨a, ha⟩ := h
  rw [yield_of_ok ha, ha]

/-- A walk succeeds, or fails with an error. -/
theorem Walk.succeeds_or_fails {α : Type} (w : Walk α) :
    w.Succeeds ∨ ∃ e, w.result = .error e := by
  cases h : w.result with
  | ok a => exact Or.inl ⟨a, h⟩
  | error e => exact Or.inr ⟨e, rfl⟩

/-- The error of a walk, if it failed. -/
def Walk.error? {α : Type} (w : Walk α) : Option LoadError :=
  match w.result with
  | .ok _ => none
  | .error e => some e

/-- A walk without an error succeeds. -/
theorem Walk.error?_eq_none {α : Type} {w : Walk α} : w.error? = none ↔ w.Succeeds := by
  rw [error?]
  split <;> rename_i h
  · exact iff_of_true rfl ⟨_, h⟩
  · exact iff_of_false nofun fun ⟨a, ha⟩ => nomatch h.symm.trans ha

/-- The error of a walk is the one that it ends with. -/
theorem Walk.error?_eq_some {α : Type} {w : Walk α} {e : LoadError} :
    w.error? = some e ↔ w.result = .error e := by
  rw [error?]
  split <;> rename_i h <;> rw [h]
  · exact iff_of_false nofun nofun
  · rw [Option.some.injEq, Except.error.injEq]

/-- The step is more than a count of lines. -/
def Step.isItem {ρ : Type} : Step ρ → Bool
  | .tally .. => false
  | _ => true

namespace Loader

variable {ρ : Type} (L : Loader ρ) (splice : List Char → Walk (List ρ))

/-- Carries out a single step. -/
def runStep : Step ρ → Walk (List ρ)
  | .tally lines comments => do
    Walk.leave { counters := { lines, comments } }
    return []
  | .rule r => return [r]
  | .splice name => do
    Walk.leave { counters := { includes := 1 } }
    splice name
  | .skip d => do
    Walk.leave { diagnostics := [d], events := [.lineSkipped L.format.kind d] }
    return []
  | .abort e => Walk.fail e

/-! ## One step after the other -/

/-- The first step is carried out, then the others. -/
theorem runSteps_cons (s : Step ρ) (rest : List (Step ρ)) :
    L.runSteps splice (s :: rest) = do
      let first ← L.runStep splice s
      let others ← L.runSteps splice rest
      return first ++ others := by
  cases s <;> simp [runSteps, runStep]

/-- Steps in a row are carried out one part after the other. -/
theorem runSteps_append (steps more : List (Step ρ)) :
    L.runSteps splice (steps ++ more) = do
      let first ← L.runSteps splice steps
      let others ← L.runSteps splice more
      return first ++ others := by
  induction steps with
  | nil => simp [runSteps]
  | cons s rest ih =>
    rw [List.cons_append, runSteps_cons, runSteps_cons, ih]
    simp only [bind_assoc, pure_bind, List.append_assoc]

/-! ## All steps succeed, or a first one fails -/

/-- If all steps succeed, the run brings together what they yield and what they leave behind. -/
theorem runSteps_of_succeeds {steps : List (Step ρ)}
    (h : ∀ s ∈ steps, (L.runStep splice s).Succeeds) :
    (L.runSteps splice steps).result = .ok (steps.flatMap fun s => (L.runStep splice s).yield) ∧
    (L.runSteps splice steps).trace.diagnostics =
      steps.flatMap (fun s => (L.runStep splice s).trace.diagnostics) ∧
    (L.runSteps splice steps).trace.opened =
      steps.flatMap fun s => (L.runStep splice s).trace.opened := by
  induction steps with
  | nil => exact ⟨rfl, rfl, rfl⟩
  | cons s rest ih =>
    have hs := (h s List.mem_cons_self).result_eq
    obtain ⟨hr, hd, ho⟩ := ih fun t ht => h t (List.mem_cons_of_mem s ht)
    rw [runSteps_cons, Walk.bind_of_ok hs, Walk.bind_of_ok hr]
    refine ⟨rfl, ?_, ?_⟩
    · simp [Walk.pure_eq, hd]
    · simp [Walk.pure_eq, ho]

/-- If the steps before one succeed and that one fails, the run ends with its error. -/
theorem runSteps_of_fails {before : List (Step ρ)} {s : Step ρ} {e : LoadError}
    (h : ∀ t ∈ before, (L.runStep splice t).Succeeds) (he : (L.runStep splice s).result = .error e)
    (after : List (Step ρ)) :
    (L.runSteps splice (before ++ s :: after)).result = .error e ∧
    (L.runSteps splice (before ++ s :: after)).trace.opened =
      before.flatMap (fun t => (L.runStep splice t).trace.opened)
        ++ (L.runStep splice s).trace.opened := by
  obtain ⟨hr, -, ho⟩ := L.runSteps_of_succeeds splice h
  rw [runSteps_append, Walk.bind_of_ok hr, runSteps_cons, Walk.bind_of_error he,
    Walk.bind_of_error rfl]
  exact ⟨rfl, by rw [Trace.opened_append, ho]⟩

/-- Either all steps succeed or there is a first one that fails. -/
theorem forall_succeeds_or_exists_fails (steps : List (Step ρ)) :
    (∀ s ∈ steps, (L.runStep splice s).Succeeds) ∨
    ∃ before s after e, steps = before ++ s :: after ∧
      (∀ t ∈ before, (L.runStep splice t).Succeeds) ∧ (L.runStep splice s).result = .error e := by
  induction steps with
  | nil => exact Or.inl fun s hs => absurd hs List.not_mem_nil
  | cons s rest ih =>
    rcases (L.runStep splice s).succeeds_or_fails with hs | ⟨e, he⟩
    · rcases ih with hrest | ⟨before, t, after, e, rfl, hbefore, he⟩
      · exact Or.inl (List.forall_mem_cons.2 ⟨hs, hrest⟩)
      · exact Or.inr ⟨s :: before, t, after, e, rfl, List.forall_mem_cons.2 ⟨hs, hbefore⟩, he⟩
    · exact Or.inr ⟨[], s, rest, e, rfl, fun t ht => absurd ht List.not_mem_nil, he⟩

/-- A run succeeds exactly if all of its steps do. -/
theorem runSteps_succeeds_iff (steps : List (Step ρ)) :
    (L.runSteps splice steps).Succeeds ↔ ∀ s ∈ steps, (L.runStep splice s).Succeeds := by
  constructor
  · rintro ⟨rules, hrules⟩
    rcases L.forall_succeeds_or_exists_fails splice steps with h | ⟨before, s, after, e, rfl, h, he⟩
    · exact h
    · rw [(L.runSteps_of_fails splice h he _).1] at hrules
      cases hrules
  · intro h
    exact ⟨_, (L.runSteps_of_succeeds splice h).1⟩

/-! ## Runs of the same steps -/

/-- Only the items among the steps matter for the result, the diagnostics and the requests. -/
theorem runSteps_alike_filter (steps : List (Step ρ)) :
    (L.runSteps splice steps).Alike (L.runSteps splice (steps.filter Step.isItem)) := by
  induction steps with
  | nil => exact .refl _
  | cons s rest ih =>
    have hbind : (L.runSteps splice (s :: rest)).Alike
        (L.runSteps splice (s :: rest.filter Step.isItem)) := by
      rw [runSteps_cons, runSteps_cons]
      exact .bind (.refl _) fun a => .bind ih fun b => .refl _
    cases s with
    | tally lines comments => exact hbind.trans ⟨rfl, rfl, rfl⟩
    | rule r => exact hbind
    | splice name => exact hbind
    | skip d => exact hbind
    | abort e => exact hbind

/-- Two runs of the same steps are equal if they read the included catalogs alike, wherever the
first one avoids a kind of errors. -/
theorem runSteps_congr {kind : LoadError → Prop} {L' : Loader ρ}
    {splice' : List Char → Walk (List ρ)} (hformat : L'.format.kind = L.format.kind)
    {steps : List (Step ρ)}
    (hsplice : ∀ name, .splice name ∈ steps → (splice name).Avoids kind →
      splice' name = splice name)
    (h : (L.runSteps splice steps).Avoids kind) :
    L'.runSteps splice' steps = L.runSteps splice steps := by
  induction steps with
  | nil => rfl
  | cons s rest ih =>
    rw [runSteps_cons] at h
    -- If the run avoids the errors as a whole, each step that is carried out does so.
    have hs : L'.runStep splice' s = L.runStep splice s := by
      cases s with
      | splice name =>
        have havoids : (splice name).Avoids kind := h.of_bind
        rw [runStep, runStep, hsplice name List.mem_cons_self havoids]
      | skip d => rw [runStep, runStep, hformat]
      | _ => rfl
    rw [runSteps_cons, runSteps_cons, hs]
    cases hr : (L.runStep splice s).result with
    | error e => rw [Walk.bind_of_error hr, Walk.bind_of_error hr]
    | ok first =>
      have hrest := (h.of_bind_ok hr).of_bind
      rw [Walk.bind_of_ok hr, Walk.bind_of_ok hr,
        ih (fun name hname => hsplice name (List.mem_cons_of_mem s hname)) hrest]

end Loader

end PhoneticCatalog.Catalog
