import PhoneticCatalog.Proofs.Inclusion.OpenCatalogs

/-!
# What a load depends on

A load depends on nothing but the answers to its own requests. If another source holds the same
texts, or none, under the names that were requested of a first one, the load over the other source
is the same (`Loader.answer_sameIf`). Nothing has to be known of what the other source is asked for:
up to every request the two loads were the same, so that it is one of the first load as well.

Only the reason why a catalog is refused is the source's own. Where both sources refuse a catalog,
the two loads end in errors that may differ in it (`Walk.BothRefused`).

All requests of a load lie on paths of includes from its catalog (`Loader.includePath_of_opened`).
-/

namespace PhoneticCatalog.Catalog

/-- The sources hold the same text under a name, or both hold none. -/
def Source.AgreesOn (source source' : Source) (name : List Char) : Prop :=
  (source.read name).result.toOption = (source'.read name).result.toOption

namespace Walk

variable {α β : Type} {source source' : Source}

/-! ## Walks that are the same -/

/-- The walks have come to a catalog that both sources refuse, each for a reason of its own. -/
def BothRefused (source source' : Source) (v w : Walk α) : Prop :=
  ∃ c ∈ v.trace.opened, ∃ fault fault',
    (source.read c).result = .error fault ∧ (source'.read c).result = .error fault' ∧
    v.result = .error (.notOpened c fault) ∧ w.result = .error (.notOpened c fault')

/-- The walks over two sources are the same, events and the reasons of the sources aside. -/
structure Same (source source' : Source) (v w : Walk α) : Prop where
  result : v.result = w.result ∨ BothRefused source source' v w
  diagnostics : v.trace.diagnostics = w.trace.diagnostics
  counters : v.trace.counters = w.trace.counters
  opened : v.trace.opened = w.trace.opened

namespace Same

variable {v w : Walk α}

theorem refl (v : Walk α) : Same source source' v v := ⟨Or.inl rfl, rfl, rfl, rfl⟩

/-- A walk with a result has it over the other source as well. -/
theorem result_of_ok {a : α} (h : Same source source' v w) (hv : v.result = .ok a) :
    w.result = .ok a := by
  rcases h.result with heq | ⟨c, -, fault, fault', -, -, hrefused, -⟩
  · exact heq.symm.trans hv
  · cases hv.symm.trans hrefused

/-- Sources with the same answers give the same reasons. -/
theorem result_eq (h : Same source source' v w)
    (hsame : ∀ x ∈ v.trace.opened, (source.read x).result = (source'.read x).result) :
    v.result = w.result := by
  rcases h.result with heq | ⟨c, hc, fault, fault', hread, hread', hv, hw⟩
  · exact heq
  · obtain rfl := Except.error.inj (hread.symm.trans ((hsame c hc).trans hread'))
    rw [hv, hw]

end Same

/-- The second walk is the same as the first one, provided that the sources agree on all names that
the first one has requested. -/
def SameIf (source source' : Source) (v w : Walk α) : Prop :=
  (∀ x ∈ v.trace.opened, source.AgreesOn source' x) → v.Same source source' w

namespace SameIf

variable {v w : Walk α} {f g : α → Walk β}

theorem refl (v : Walk α) : SameIf source source' v v := fun _ => .refl v

/-- What comes after walks that are the same goes on to be the same. -/
theorem bind (h : SameIf source source' v w) (hf : ∀ a, SameIf source source' (f a) (g a)) :
    SameIf source source' (v >>= f) (w >>= g) := by
  intro hagree
  cases hv : v.result with
  | error e =>
    rw [bind_of_error hv] at hagree ⊢
    have hsame := h hagree
    rcases hsame.result with heq | ⟨c, hc, fault, fault', hread, hread', hrefused, hw⟩
    · rw [bind_of_error (heq.symm.trans hv)]
      exact ⟨Or.inl rfl, hsame.diagnostics, hsame.counters, hsame.opened⟩
    · obtain rfl := Except.error.inj (hv.symm.trans hrefused)
      rw [bind_of_error hw]
      exact ⟨Or.inr ⟨c, hc, fault, fault', hread, hread', rfl, rfl⟩, hsame.diagnostics,
        hsame.counters, hsame.opened⟩
  | ok a =>
    rw [bind_of_ok hv] at hagree ⊢
    -- The sources agree on the requests of both parts, the second one being that after `a`.
    obtain ⟨hfirst, hnext⟩ := List.forall_mem_append.1 hagree
    have hsame := h hfirst
    have hsame' := hf a hnext
    rw [bind_of_ok (hsame.result_of_ok hv)]
    refine ⟨hsame'.result.imp_right ?_, ?_, ?_, ?_⟩
    · rintro ⟨c, hc, hrefused⟩
      exact ⟨c, List.mem_append_right _ hc, hrefused⟩
    · rw [Trace.diagnostics_append, Trace.diagnostics_append, hsame.diagnostics,
        hsame'.diagnostics]
    · rw [Trace.counters_append, Trace.counters_append, hsame.counters, hsame'.counters]
    · rw [Trace.opened_append, Trace.opened_append, hsame.opened, hsame'.opened]

end SameIf

/-- What a walk has requested was requested before its result or after it. -/
theorem mem_opened_bind {w : Walk α} {f : α → Walk β} {x : List Char}
    (h : x ∈ (w >>= f).trace.opened) :
    x ∈ w.trace.opened ∨ ∃ a, w.result = .ok a ∧ x ∈ (f a).trace.opened := by
  cases hw : w.result with
  | error e =>
    rw [bind_of_error hw] at h
    exact Or.inl h
  | ok a =>
    rw [bind_of_ok hw] at h
    exact (List.mem_append.1 h).imp_right fun hx => ⟨a, rfl, hx⟩

end Walk

namespace Loader

/-! ## Loads over two sources -/

section Same

variable {ρ : Type} (L : Loader ρ) (source : Source)

/-- The loader for another source. -/
def withSource : Loader ρ := { L with source }

/-- A catalog is opened alike if the sources agree on it. -/
theorem openCatalog_sameIf (name : List Char) :
    (L.openCatalog name).SameIf L.source source ((L.withSource source).openCatalog name) := by
  intro hagree
  have hname : L.source.AgreesOn source name := hagree name List.mem_cons_self
  refine ⟨?_, rfl, rfl, rfl⟩
  unfold Source.AgreesOn at hname
  -- Sources that agree both have the text, or both refuse, maybe for different reasons.
  cases hread : (L.source.read name).result with
  | ok text =>
    cases hread' : (source.read name).result with
    | ok text' =>
      rw [hread, hread'] at hname
      obtain rfl := Option.some.inj hname
      rw [L.openCatalog_of_read hread, (L.withSource source).openCatalog_of_read hread']
      exact Or.inl rfl
    | error fault => rw [hread, hread'] at hname; cases hname
  | error fault =>
    cases hread' : (source.read name).result with
    | ok text => rw [hread, hread'] at hname; cases hname
    | error fault' =>
      exact Or.inr ⟨name, List.mem_cons_self, fault, fault', hread, hread',
        L.openCatalog_of_fault hread, (L.withSource source).openCatalog_of_fault hread'⟩

/-- A step is carried out alike if the catalogs that it splices in are visited alike. -/
theorem runStep_sameIf {splice splice' : List Char → Walk (List ρ)}
    (h : ∀ b, (splice b).SameIf L.source source (splice' b)) (step : Step ρ) :
    (L.runStep splice step).SameIf L.source source
      ((L.withSource source).runStep splice' step) := by
  cases step with
  | splice b => exact .bind (.refl _) fun _ => h b
  | tally lines comments => exact .refl _
  | rule r => exact .refl _
  | skip d => exact .refl _
  | abort e => exact .refl _

/-- Steps are carried out alike if the catalogs that they splice in are visited alike. -/
theorem runSteps_sameIf {splice splice' : List Char → Walk (List ρ)}
    (h : ∀ b, (splice b).SameIf L.source source (splice' b)) (steps : List (Step ρ)) :
    (L.runSteps splice steps).SameIf L.source source
      ((L.withSource source).runSteps splice' steps) := by
  induction steps with
  | nil => exact .refl _
  | cons step rest ih =>
    rw [runSteps_cons, runSteps_cons]
    exact .bind (L.runStep_sameIf source h step) fun first => .bind ih fun others => .refl _

/-- A visit is the same over two sources that agree on what it requests of the first one. -/
theorem visit_sameIf (room : Nat) (stack : List (List Char)) (name : List Char) :
    (L.visit room stack name).SameIf L.source source
      ((L.withSource source).visit room stack name) := by
  induction room generalizing stack name with
  | zero =>
    by_cases hmem : name ∈ stack
    · rw [visit_of_mem _ hmem, visit_of_mem _ hmem]
      exact .refl _
    · rw [visit_zero _ hmem, visit_zero _ hmem]
      exact .refl _
  | succ room ih =>
    by_cases hmem : name ∈ stack
    · rw [visit_of_mem _ hmem, visit_of_mem _ hmem]
      exact .refl _
    · rw [visit_succ _ hmem, visit_succ _ hmem]
      refine .bind (L.openCatalog_sameIf source name) fun text => .bind (.refl _) fun _ => ?_
      exact L.runSteps_sameIf source (fun b => ih (stack ++ [name]) b) _

/-- A call ends alike. -/
theorem finish_sameIf {v w : Walk (List ρ)} (h : v.SameIf L.source source w) (name : List Char) :
    (L.finish name v).SameIf L.source source ((L.withSource source).finish name w) := by
  intro hagree
  -- The end of a call requests nothing.
  rw [(finish_alike L name v).opened] at hagree
  have hsame := h hagree
  cases hv : v.result with
  | error e =>
    obtain ⟨e', hw⟩ : ∃ e', w.result = .error e' := by
      rcases hsame.result with heq | ⟨c, -, fault, fault', -, -, -, hw⟩
      · exact ⟨e, heq.symm.trans hv⟩
      · exact ⟨_, hw⟩
    rw [finish, finish, hv, hw]
    exact hsame
  | ok rules =>
    rw [finish, finish, hv, hsame.result_of_ok hv]
    refine ⟨Or.inl rfl, hsame.diagnostics, ?_, hsame.opened⟩
    simp only [hsame.counters, hsame.diagnostics]

/-- A call is answered alike over two sources that agree on what it requests of the first one. -/
theorem answer_sameIf (call : Call) :
    (L.answer call).SameIf L.source source ((L.withSource source).answer call) := by
  cases call with
  | load name => exact L.finish_sameIf source (L.visit_sameIf source L.maxDepth [] name) name
  | parse text name =>
    refine L.finish_sameIf source (.bind (.refl _) fun _ => ?_) name
    exact L.runSteps_sameIf source (L.visit_sameIf source (L.maxDepth - 1) [name]) _

end Same

/-! ## Requests lie on paths -/

/-- What a run has requested was requested by an included catalog. -/
theorem mem_opened_runSteps {ρ : Type} {L : Loader ρ} {splice : List Char → Walk (List ρ)}
    {steps : List (Step ρ)} {x : List Char} (h : x ∈ (L.runSteps splice steps).trace.opened) :
    ∃ b, .splice b ∈ steps ∧ x ∈ (splice b).trace.opened := by
  induction steps with
  | nil => exact absurd h List.not_mem_nil
  | cons step rest ih =>
    rw [runSteps_cons] at h
    rcases Walk.mem_opened_bind h with hstep | ⟨first, -, hrest⟩
    · -- Of all steps only an include requests anything.
      cases step with
      | splice b => exact ⟨b, List.mem_cons_self, hstep⟩
      | tally lines comments => exact absurd hstep List.not_mem_nil
      | rule r => exact absurd hstep List.not_mem_nil
      | skip d => exact absurd hstep List.not_mem_nil
      | abort e => exact absurd hstep List.not_mem_nil
    · rcases Walk.mem_opened_bind hrest with hrest | ⟨others, -, hnone⟩
      · obtain ⟨b, hb, hx⟩ := ih hrest
        exact ⟨b, List.mem_cons_of_mem step hb, hx⟩
      · exact absurd hnone List.not_mem_nil

/-- All that a visit requests lies on paths of includes from its catalog. -/
theorem includePath_of_visit {kind : Journal.LoaderKind} {source : Source} {depth : ℕ+}
    {room : Nat} {stack : List (List Char)} {name x : List Char}
    (h : x ∈ ((ofKind kind source depth).visit room stack name).trace.opened) :
    ∃ path, source.IncludePath kind name path ∧ x ∈ path := by
  refine visit_induction _
    (motive := fun _ _ name w => x ∈ w.trace.opened →
      ∃ path, source.IncludePath kind name path ∧ x ∈ path) ?cycle ?full ?refused ?run
    room stack name h
  case cycle => exact fun _ _ _ _ h => absurd h List.not_mem_nil
  case full => exact fun _ _ _ h => absurd h List.not_mem_nil
  case refused => exact fun _ _ name _ _ _ h => ⟨[name], .singleton, h⟩
  case run =>
    intro room stack name text _ hread ih h
    rcases Walk.mem_opened_bind h with hname | ⟨-, -, hrun⟩
    · exact ⟨[name], .singleton, hname⟩
    -- What is requested while the catalog is open is requested by a catalog that it includes.
    · obtain ⟨b, hb, hx⟩ := mem_opened_runSteps hrun
      obtain ⟨path, hpath, hx⟩ := ih b hx
      exact ⟨name :: path, hpath.cons ⟨text, hread, textIncludes_of_splice_mem hb⟩,
        List.mem_cons_of_mem name hx⟩

/-- All that a load requests lies on paths of includes from its catalog. -/
theorem includePath_of_opened {kind : Journal.LoaderKind} {source : Source} {depth : ℕ+}
    {name x : List Char} (h : x ∈ ((ofKind kind source depth).load name).trace.opened) :
    ∃ path, source.IncludePath kind name path ∧ x ∈ path := by
  rw [(load_alike kind source depth name).opened] at h
  exact includePath_of_visit h

end Loader

end PhoneticCatalog.Catalog
