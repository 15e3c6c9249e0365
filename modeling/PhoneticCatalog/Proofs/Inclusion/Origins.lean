import PhoneticCatalog.Proofs.Inclusion.OpenCatalogs

/-!
# Where errors and diagnostics come from

A walk ends in the error of a step and leaves the diagnostics of steps behind it; such a step shows
in the walk (`Step.ShowsIn`). What shows in a run is one of its own steps, or shows in the walk of
an included catalog (`Loader.step_of_runSteps`). So what shows in a call is a step of a text that
the call reads (`Loader.step_of_answer`), except for the errors of includes, which no text contains.
-/

namespace PhoneticCatalog.Catalog

/-! ## Steps that show in a walk -/

/-- The walk ends in the error of the step, or leaves its diagnostic behind. -/
def Step.ShowsIn {ρ α : Type} (w : Walk α) : Step ρ → Prop
  | .abort e => w.result = .error e
  | .skip d => d ∈ w.trace.diagnostics
  | _ => False

namespace Step.ShowsIn

variable {ρ α β : Type} {s : Step ρ} {v w : Walk α}

theorem abort_iff {e : LoadError} : (.abort e : Step ρ).ShowsIn w ↔ w.result = .error e := Iff.rfl

/-- A step that skips a line shows by its diagnostic. -/
theorem skip_iff {d : Diagnostic} : (.skip d : Step ρ).ShowsIn w ↔ d ∈ w.trace.diagnostics :=
  Iff.rfl

/-- What shows in a walk shows in every walk that looks alike. -/
theorem of_alike (h : s.ShowsIn v) (halike : v.Alike w) : s.ShowsIn w := by
  cases s with
  | abort e => exact halike.result.symm.trans h
  | skip d => rwa [skip_iff, ← halike.diagnostics]
  | tally _ _ | rule _ | splice _ => exact h

/-- What shows in a walk that goes on shows in it up to its result or after it. -/
theorem of_bind {f : α → Walk β} (h : s.ShowsIn (v >>= f)) :
    s.ShowsIn v ∨ ∃ a, v.result = .ok a ∧ s.ShowsIn (f a) := by
  cases hv : v.result with
  | error e =>
    rw [Walk.bind_of_error hv] at h
    cases s with
    | abort e' =>
      obtain rfl := Except.error.inj (abort_iff.1 h)
      exact Or.inl hv
    | skip d => exact Or.inl h
    | tally _ _ | rule _ | splice _ => exact h.elim
  | ok a =>
    rw [Walk.bind_of_ok hv] at h
    cases s with
    | abort e' => exact Or.inr ⟨a, rfl, h⟩
    | skip d => exact (List.mem_append.1 h).imp_right fun h => ⟨a, rfl, h⟩
    | tally _ _ | rule _ | splice _ => exact h.elim

/-- A failure shows nothing but its error. -/
theorem of_fail {e : LoadError} (h : s.ShowsIn (Walk.fail e : Walk α)) : s = .abort e := by
  cases s with
  | abort e' => rw [Except.error.inj (abort_iff.1 h)]
  | skip d => exact absurd h List.not_mem_nil
  | tally _ _ | rule _ | splice _ => exact h.elim

/-- Nothing shows in a walk that only leaves something else behind. -/
theorem not_leave {t : Trace} (ht : t.diagnostics = []) : ¬ s.ShowsIn (Walk.leave t) := by
  intro h
  cases s with
  | abort e => cases h
  | skip d => exact List.ne_nil_of_mem (skip_iff.1 h) ht
  | tally _ _ | rule _ | splice _ => exact h

/-- What was left behind shows nothing if it has no diagnostics. -/
theorem of_leave_bind {t : Trace} {f : Unit → Walk β} (ht : t.diagnostics = [])
    (h : s.ShowsIn (Walk.leave t >>= f)) : s.ShowsIn (f ()) := by
  rcases h.of_bind with hleave | ⟨⟨⟩, -, hrest⟩
  · exact absurd hleave (not_leave ht)
  · exact hrest

/-- A mere result shows nothing. -/
theorem not_pure {a : α} : ¬ s.ShowsIn (pure a : Walk α) := by
  intro h
  cases s with
  | abort e => cases h
  | skip d => exact absurd h List.not_mem_nil
  | tally _ _ | rule _ | splice _ => exact h

end Step.ShowsIn

namespace Walk

variable {α β : Type} {v : Walk α}

/-- What is requested up to the result of a walk stays requested. -/
theorem opened_subset_bind (v : Walk α) (f : α → Walk β) :
    v.trace.opened ⊆ (v >>= f).trace.opened := by
  cases hv : v.result with
  | error e =>
    rw [bind_of_error hv]
    exact List.Subset.refl _
  | ok a =>
    rw [bind_of_ok hv]
    exact List.subset_append_left _ _

/-- What the second of two walks opens is opened by both in turn, if the first one succeeds. -/
theorem opened_subset_bind_of_ok {a : α} (h : v.result = .ok a) (f : α → Walk β) :
    (f a).trace.opened ⊆ (v >>= f).trace.opened := by
  rw [bind_of_ok h]
  exact List.subset_append_right _ _

end Walk

/-! ## Runs -/

namespace Loader

variable {ρ : Type} {L : Loader ρ} {s : Step ρ} {splice : List Char → Walk (List ρ)}

/-- In the walk of a step the step itself shows, or what shows in that of its catalog. -/
theorem step_of_runStep {own : Step ρ} (h : s.ShowsIn (L.runStep splice own)) :
    s = own ∨ ∃ b, s.ShowsIn (splice b) ∧
      (splice b).trace.opened ⊆ (L.runStep splice own).trace.opened := by
  cases own with
  | tally lines comments => exact absurd (h.of_leave_bind rfl) Step.ShowsIn.not_pure
  | rule r => exact absurd h Step.ShowsIn.not_pure
  | splice b => exact Or.inr ⟨b, h.of_leave_bind rfl, List.Subset.refl _⟩
  | skip d =>
    cases s with
    | abort e => cases h
    | skip d' => exact Or.inl (congrArg Step.skip (List.mem_singleton.1 h))
    | tally _ _ | rule _ | splice _ => exact h.elim
  | abort e => exact Or.inl h.of_fail

/-- What shows in a run is one of its steps, or shows in the walk of an included catalog. -/
theorem step_of_runSteps {steps : List (Step ρ)} (h : s.ShowsIn (L.runSteps splice steps)) :
    s ∈ steps ∨ ∃ b, s.ShowsIn (splice b) ∧
      (splice b).trace.opened ⊆ (L.runSteps splice steps).trace.opened := by
  induction steps with
  | nil => exact absurd h Step.ShowsIn.not_pure
  | cons own rest ih =>
    rw [runSteps_cons] at h ⊢
    -- The step shows in the first one, or in the rest of the run.
    rcases h.of_bind with hown | ⟨first, hfirst, hrest⟩
    · rcases step_of_runStep hown with rfl | ⟨b, hb, hsubset⟩
      · exact Or.inl List.mem_cons_self
      · exact Or.inr ⟨b, hb, List.Subset.trans hsubset (Walk.opened_subset_bind _ _)⟩
    · have hafter := Walk.opened_subset_bind_of_ok hfirst fun first => do
        let others ← L.runSteps splice rest
        return first ++ others
      rcases hrest.of_bind with hrest | ⟨others, -, hnone⟩
      · refine (ih hrest).imp (List.mem_cons_of_mem own) ?_
        rintro ⟨b, hb, hsubset⟩
        exact ⟨b, hb, List.Subset.trans hsubset
          (List.Subset.trans (Walk.opened_subset_bind _ _) hafter)⟩
      · exact absurd hnone Step.ShowsIn.not_pure

/-! ## Visits and calls -/

/-- The error is one of includes: they run in a circle or too deep, or lead to a catalog that the
source refuses. -/
inductive IsOfIncludes (L : Loader ρ) : LoadError → Prop where
  | cycle (chain : List (List Char)) : IsOfIncludes L (.cycle chain)
  | tooDeep (name : List Char) : IsOfIncludes L (.tooDeep name L.maxDepth)
  | notOpened {name : List Char} {fault : OpenFault}
    (h : (L.source.read name).result = .error fault) : IsOfIncludes L (.notOpened name fault)

/-- What shows in a visit is an error of includes, or a step of a text that was requested. -/
theorem step_of_visit {room : Nat} {stack : List (List Char)} {name : List Char}
    (h : s.ShowsIn (L.visit room stack name)) :
    (∃ e, s = .abort e ∧ L.IsOfIncludes e) ∨
      ∃ c text, c ∈ (L.visit room stack name).trace.opened ∧
        (L.source.read c).result = .ok text ∧ s ∈ L.format.steps c text := by
  refine L.visit_induction
    (motive := fun _ _ _ w => s.ShowsIn w → (∃ e, s = .abort e ∧ L.IsOfIncludes e) ∨
      ∃ c text, c ∈ w.trace.opened ∧ (L.source.read c).result = .ok text ∧
        s ∈ L.format.steps c text) ?cycle ?full ?refused ?run room stack name h
  case cycle => exact fun room stack name _ h => Or.inl ⟨_, h.of_fail, .cycle _⟩
  case full => exact fun stack name _ h => Or.inl ⟨_, h.of_fail, .tooDeep name⟩
  case refused =>
    intro room stack name fault _ hread h
    exact Or.inl ⟨_, (h.of_leave_bind rfl).of_fail, .notOpened hread⟩
  case run =>
    intro room stack name text _ hread ih h
    rcases step_of_runSteps ((h.of_leave_bind rfl).of_leave_bind rfl) with hstep | ⟨b, hb, hsubset⟩
    · exact Or.inr ⟨name, text, List.mem_append_left _ List.mem_cons_self, hread, hstep⟩
    -- What an included catalog has requested was requested meanwhile.
    · refine (ih b hb).imp_right ?_
      rintro ⟨c, text', hc, hread', hstep⟩
      exact ⟨c, text', List.mem_append_right _ (hsubset hc), hread', hstep⟩

end Loader

/-- A call reads a text under a name: its own, or one that it requests. -/
inductive Call.Reads {ρ : Type} (L : Loader ρ) (call : Call) (name text : List Char) : Prop where
  | own (h : call = .parse text name)
  | requested (h : name ∈ (L.answer call).trace.opened)
    (hread : (L.source.read name).result = .ok text)

namespace Loader

variable {ρ : Type} {L : Loader ρ} {s : Step ρ} {call : Call}

/-- What shows in a call is an error of includes, or a step of a text that the call reads. -/
theorem step_of_answer (h : s.ShowsIn (L.answer call)) :
    (∃ e, s = .abort e ∧ L.IsOfIncludes e) ∨
      ∃ name text, call.Reads L name text ∧ s ∈ L.format.steps name text := by
  cases call with
  | load name =>
    -- Finishing a call adds to its counters and events only.
    have halike := finish_alike L name (L.visit L.maxDepth [] name)
    refine (step_of_visit (h.of_alike halike)).imp_right ?_
    rintro ⟨c, text, hc, hread, hstep⟩
    exact ⟨c, text, .requested (halike.opened ▸ hc) hread, hstep⟩
  | parse text name =>
    have halike := finish_alike L name (Walk.leave { counters := { catalogs := 1 } } >>= fun _ =>
      L.runSteps (L.visit (L.maxDepth - 1) [name]) (L.format.steps name text))
    rcases step_of_runSteps ((h.of_alike halike).of_leave_bind rfl) with
      hstep | ⟨b, hb, hsubset⟩
    · exact Or.inr ⟨name, text, .own rfl, hstep⟩
    · refine (step_of_visit hb).imp_right ?_
      rintro ⟨c, text', hc, hread, hstep⟩
      exact ⟨c, text', .requested (halike.opened ▸ hsubset hc) hread, hstep⟩

/-- Each diagnostic of a call is that of a step of a text that it reads. -/
theorem skip_of_answer {d : Diagnostic} (h : d ∈ (L.answer call).trace.diagnostics) :
    ∃ name text, call.Reads L name text ∧ .skip d ∈ L.format.steps name text := by
  have hshows : (Step.skip d : Step ρ).ShowsIn (L.answer call) := h
  exact (step_of_answer hshows).resolve_left nofun

end Loader

end PhoneticCatalog.Catalog
