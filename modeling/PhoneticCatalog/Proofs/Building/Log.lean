import PhoneticCatalog.Proofs.Building.Loads
import PhoneticCatalog.Proofs.Inclusion.Visit

/-!
# What is told of a build

A build tells of its work while it is done, and keeps a repository of what it has loaded. The two
records agree (`log_agrees_with_repository`): each line that is skipped is told of once and kept
once, in the same order, each load that comes to its end is told of once, and the numbers at the end
are those of the repository. A load that fails is not told of.

Sources tell of their work in between, and nothing is known of what they tell. So the events of a
build are described as its own events with foreign ones among them (`Interspersed`). For walks that
load catalogs the own events are known from the lines that were skipped (`Walk.Reports`), for a
whole build they are gathered step by step (`Repository.Logs`).
-/

namespace PhoneticCatalog

open Catalog

namespace Journal

namespace Event

/-- The event tells of the beginning or the end of a build. -/
def isOfBuild : Event → Bool
  | buildStarted .. | buildCompleted .. => true
  | _ => false

/-- The event warns of a line that was skipped. -/
def isLineSkipped : Event → Bool
  | lineSkipped .. => true
  | _ => false

/-- The event tells of a load that has come to its end. -/
def isCatalogLoaded : Event → Bool
  | catalogLoaded .. => true
  | _ => false

/-- The event tells of a file that was asked for. -/
def isOfFile : Event → Bool
  | sourceMissing .. | sourceUnreadable .. | sourceRead .. => true
  | _ => false

end Event

/-- The events are some own ones, in order, with foreign ones among them. -/
inductive Interspersed (foreign : Event → Prop) : (own events : List Event) → Prop where
  | nil : Interspersed foreign [] []
  | own {e : Event} {own events : List Event} (h : Interspersed foreign own events) :
      Interspersed foreign (e :: own) (e :: events)
  | foreign {e : Event} {own events : List Event} (he : foreign e)
      (h : Interspersed foreign own events) : Interspersed foreign own (e :: events)

namespace Interspersed

variable {foreign other : Event → Prop} {own own' events events' : List Event}

/-- Events are interspersed with none. -/
theorem refl (events : List Event) : Interspersed foreign events events := by
  induction events with
  | nil => exact .nil
  | cons e rest ih => exact .own ih

/-- Foreign events alone are interspersed with none of one's own. -/
theorem of_foreign (h : ∀ e ∈ events, foreign e) : Interspersed foreign [] events := by
  induction events with
  | nil => exact .nil
  | cons e rest ih =>
    exact .foreign (h e List.mem_cons_self) (ih fun d hd => h d (List.mem_cons_of_mem e hd))

/-- Events in turn are interspersed one part after the other. -/
theorem append (h : Interspersed foreign own events) (h' : Interspersed foreign own' events') :
    Interspersed foreign (own ++ own') (events ++ events') := by
  induction h with
  | nil => exact h'
  | own _ ih => exact .own ih
  | foreign he _ ih => exact .foreign he ih

/-- Events are interspersed with those of a wider kind as well. -/
theorem mono (h : Interspersed foreign own events) (hother : ∀ e, foreign e → other e) :
    Interspersed other own events := by
  induction h with
  | nil => exact .nil
  | own _ ih => exact .own ih
  | foreign he _ ih => exact .foreign (hother _ he) ih

/-- Foreign events do not count where only own ones are asked for. -/
theorem filter_eq {p : Event → Bool} (h : Interspersed foreign own events)
    (hforeign : ∀ e, foreign e → p e = false) : events.filter p = own.filter p := by
  induction h with
  | nil => rfl
  | own _ ih => rw [List.filter_cons, List.filter_cons, ih]
  | foreign he _ ih => rw [List.filter_cons_of_neg (by rw [hforeign _ he]; decide), ih]

/-- If a class of events is that of the foreign ones, the own ones are all others. -/
theorem eq_filter {p : Event → Bool} (h : Interspersed foreign own events)
    (hforeign : ∀ e, foreign e → p e = true) (hown : ∀ e ∈ own, p e = false) :
    own = events.filter fun e => !p e := by
  have hevents := h.filter_eq (p := fun e => !p e) fun e he => by rw [hforeign e he]; rfl
  rw [hevents, List.filter_eq_self.2 fun e he => by rw [hown e he]; rfl]

end Interspersed

end Journal

open Journal (Event Interspersed)

namespace Catalog

/-- The source may tell the event, in answer to some name. -/
def Source.Tells (source : Source) (e : Event) : Prop := ∃ name, e ∈ (source.read name).events

/-- The source that the registry reads languages from may tell the event. -/
def LanguageRegistry.Tells (registry : LanguageRegistry) (e : Event) : Prop :=
  ∃ source, registry = catalogs source ∧ source.Tells e

/-! ## Events of loads -/

section Loads

variable {ρ α β : Type} (L : Loader ρ)

/-- The warnings of a loader about some lines. -/
def Loader.warnings (skipped : List Diagnostic) : List Event :=
  skipped.map (.lineSkipped L.format.kind)

/-- The walk tells of each line that it skips. All other events are those of the source. -/
def Walk.Reports (w : Walk α) : Prop :=
  Interspersed L.source.Tells (L.warnings w.trace.diagnostics) w.trace.events

variable {L}

/-- A walk without diagnostics and events has nothing to report. -/
theorem Walk.Reports.of_silent {w : Walk α} (hdiagnostics : w.trace.diagnostics = [])
    (hevents : w.trace.events = []) : w.Reports L := by
  rw [Reports, hdiagnostics, hevents]
  exact .nil

/-- Two walks in turn report what each of them does. -/
theorem Walk.Reports.bind {w : Walk α} {f : α → Walk β} (h : w.Reports L)
    (hf : ∀ a, (f a).Reports L) : (w >>= f).Reports L := by
  cases hw : w.result with
  | error e =>
    rw [bind_of_error hw]
    exact h
  | ok a =>
    rw [bind_of_ok hw, Reports, Trace.diagnostics_append, Trace.events_append, Loader.warnings,
      List.map_append]
    exact h.append (hf a)

namespace Loader

/-- Asking a source tells events of the source alone. -/
theorem reports_request (name : List Char) :
    (Walk.leave { opened := [name], events := (L.source.read name).events }).Reports L :=
  .of_foreign fun _ he => ⟨name, he⟩

/-- Steps report the lines that they skip if the visits of included catalogs do. -/
theorem reports_runSteps {splice : List Char → Walk (List ρ)}
    (h : ∀ b, (splice b).Reports L) (steps : List (Step ρ)) :
    (L.runSteps splice steps).Reports L := by
  induction steps with
  | nil => exact .of_silent rfl rfl
  | cons step rest ih =>
    rw [runSteps_cons]
    refine .bind ?_ fun first => .bind ih fun others => .of_silent rfl rfl
    cases step with
    | tally lines comments => exact .of_silent rfl rfl
    | rule r => exact .of_silent rfl rfl
    | splice b => exact .bind (.of_silent rfl rfl) fun _ => h b
    | skip d => exact .refl _
    | abort e => exact .of_silent rfl rfl

/-- A visit tells of each line that it skips, in its catalog and in all that it includes. -/
theorem reports_visit (room : Nat) (stack : List (List Char)) (name : List Char) :
    (L.visit room stack name).Reports L := by
  refine L.visit_induction (motive := fun _ _ _ w => w.Reports L) ?cycle ?full ?refused ?run
    room stack name
  case cycle => exact fun _ _ _ _ => .of_silent rfl rfl
  case full => exact fun _ _ _ => .of_silent rfl rfl
  case refused =>
    exact fun _ _ name _ _ _ => .bind (reports_request name) fun _ => .of_silent rfl rfl
  case run =>
    intro room stack name text _ _ ih
    apply Walk.Reports.bind (reports_request name)
    intro _
    apply Walk.Reports.bind (.of_silent rfl rfl)
    intro _
    exact reports_runSteps ih _

end Loader

end Loads

end Catalog

/-! ## Events of steps -/

namespace Repository

/-- The event may be told by the source of a loader or by that of a registry. -/
def Foreign (L : Loader Rule) (registry : LanguageRegistry) (e : Event) : Prop :=
  L.source.Tells e ∨ registry.Tells e

/-- What is told meanwhile are some own events with foreign ones among them. The own ones warn of
the lines that are skipped, tell of so many loads, and tell of no build and no file. -/
structure Logs (L : Loader Rule) (registry : LanguageRegistry) (t : Trace) (own : List Event)
    (loads : Nat) : Prop where
  interspersed : Interspersed (Foreign L registry) own t.events
  warnings : own.filter (·.isLineSkipped) = L.warnings t.diagnostics
  loaded : own.countP (·.isCatalogLoaded) = loads
  inside : ∀ e ∈ own, e.isOfBuild = false ∧ e.isOfFile = false

variable {L : Loader Rule} {registry : LanguageRegistry} {t t' : Trace} {own own' : List Event}
  {loads loads' : Nat}

/-- Nothing is logged before a build begins. -/
theorem Logs.empty : Logs L registry {} [] 0 := ⟨.nil, rfl, rfl, by simp⟩

/-- Two logs in turn make one log, whose loads add up. -/
theorem Logs.append (h : Logs L registry t own loads) (h' : Logs L registry t' own' loads') :
    Logs L registry (t ++ t') (own ++ own') (loads + loads') := by
  refine ⟨h.interspersed.append h'.interspersed, ?_, ?_, ?_⟩
  · rw [List.filter_append, h.warnings, h'.warnings, Trace.diagnostics_append, Loader.warnings,
      Loader.warnings, Loader.warnings, List.map_append]
  · rw [List.countP_append, h.loaded, h'.loaded]
  · exact List.forall_mem_append.2 ⟨h.inside, h'.inside⟩

/-- Counters and requests are not told of. -/
theorem Logs.of_eq (h : Logs L registry t own loads) (hdiagnostics : t'.diagnostics = t.diagnostics)
    (hevents : t'.events = t.events) : Logs L registry t' own loads :=
  ⟨hevents ▸ h.interspersed, hdiagnostics ▸ h.warnings, h.loaded, h.inside⟩

/-! ### Loads -/

/-- A visit warns of lines and tells nothing else. -/
theorem logs_visit (room : Nat) (stack : List (List Char)) (name : List Char) :
    let trace := (L.visit room stack name).trace
    Logs L registry trace (L.warnings trace.diagnostics) 0 := by
  refine ⟨(L.reports_visit room stack name).mono fun _ => Or.inl, ?_, ?_, ?_⟩
  · rw [List.filter_eq_self]
    simp [Loader.warnings, Event.isLineSkipped]
  · rw [List.countP_eq_zero]
    simp [Loader.warnings, Event.isCatalogLoaded]
  · simp [Loader.warnings, Event.isOfBuild, Event.isOfFile]

/-- A load that comes to its end tells so, once. -/
theorem exists_logs_load {name : List Char} {rules : List Rule}
    (h : (L.load name).result = .ok rules) :
    ∃ own, Logs L registry (L.load name).trace own 1 := by
  have hvisit : (L.visit L.maxDepth [] name).result = .ok rules :=
    (L.finish_alike name _).result.symm.trans h
  unfold Loader.load Loader.finish
  rw [hvisit]
  have hend : ∀ counters, Logs L registry
      { events := [.catalogLoaded L.format.kind name counters] }
      [.catalogLoaded L.format.kind name counters] 1 := fun counters =>
    ⟨.refl _, rfl, rfl, by simp [Event.isOfBuild, Event.isOfFile]⟩
  exact ⟨_, ((logs_visit L.maxDepth [] name).append (hend _)).of_eq (List.append_nil _).symm rfl⟩

/-- A load that fails tells nothing of the kind. -/
theorem logs_load_of_error {name : List Char} {e : LoadError}
    (h : (L.load name).result = .error e) :
    Logs L registry (L.load name).trace (L.warnings (L.load name).trace.diagnostics) 0 := by
  have hvisit : (L.visit L.maxDepth [] name).result = .error e :=
    (L.finish_alike name _).result.symm.trans h
  have hload : L.load name = L.visit L.maxDepth [] name := by
    rw [Loader.load, Loader.finish, hvisit]
  rw [hload]
  exact logs_visit L.maxDepth [] name

/-! ### Steps -/

/-- A registry warns of nothing, and tells of no load. -/
theorem exists_logs_languages (before : List BuildStep) (n : NameType) :
    ∃ own, Logs L registry ((BuildStep.languages n).trace L registry before) own 0 := by
  rw [BuildStep.trace]
  -- A list that was read before is not read again, and nothing is told.
  split
  · exact ⟨[], .empty⟩
  cases registry with
  | fixed given => exact ⟨[], .empty⟩
  | catalogs source =>
    have hforeign : ∀ e ∈ (source.read n.languagesCatalog).events,
        Foreign L (.catalogs source) e := fun e he => Or.inr ⟨source, rfl, n.languagesCatalog, he⟩
    rw [LanguageRegistry.languages_of_unread rfl, LanguageRegistry.readLanguages_eq]
    -- What the source tells is foreign; the registry itself tells of a list that it has read.
    cases (source.read n.languagesCatalog).result with
    | error fault => exact ⟨[], .of_foreign hforeign, rfl, rfl, by simp⟩
    | ok text =>
      let told : Event := .languagesLoaded n (parseLanguages text).names.length
      have hlogs : Logs L (.catalogs source)
          { events := (source.read n.languagesCatalog).events ++ [told] } [told] 0 :=
        ⟨(Interspersed.of_foreign hforeign).append (.refl [told]), rfl, rfl,
          by simp [told, Event.isOfBuild, Event.isOfFile]⟩
      exact ⟨[told], hlogs.of_eq rfl (List.append_nil _)⟩

/-- A step tells that a load has come to its end if it is such a load. -/
theorem exists_logs_step (before : List BuildStep) {step : BuildStep}
    (h : step.result L registry = .ok ()) :
    ∃ own, Logs L registry (step.trace L registry before) own step.key?.toList.length := by
  cases step with
  | languages n => exact exists_logs_languages before n
  | catalog k =>
    cases hload : (L.load k.catalog).result with
    | ok rules => exact exists_logs_load hload
    | error e =>
      rw [BuildStep.result, hload] at h
      cases h

/-- A step that fails tells of no load that has come to its end. -/
theorem exists_logs_step_of_error (before : List BuildStep) {step : BuildStep} {e : LoadError}
    (h : step.result L registry = .error e) :
    ∃ own, Logs L registry (step.trace L registry before) own 0 := by
  cases step with
  | languages n => exact exists_logs_languages before n
  | catalog k =>
    cases hload : (L.load k.catalog).result with
    | ok rules =>
      rw [BuildStep.result, hload] at h
      cases h
    | error e => exact ⟨_, logs_load_of_error hload⟩

/-- Steps that are carried out tell of as many loads as there are among them. -/
theorem exists_logs_traceOf (before : List BuildStep) {steps : List BuildStep}
    (h : ∀ step ∈ steps, step.result L registry = .ok ()) :
    ∃ own, Logs L registry (traceOf L registry before steps) own
      (steps.filterMap BuildStep.key?).length := by
  induction steps generalizing before with
  | nil => exact ⟨[], .empty⟩
  | cons step rest ih =>
    obtain ⟨own, hown⟩ := exists_logs_step before (h step List.mem_cons_self)
    obtain ⟨others, hothers⟩ := ih (before ++ [step]) fun s hs => h s (List.mem_cons_of_mem step hs)
    have hlength : ((step :: rest).filterMap BuildStep.key?).length =
        step.key?.toList.length + (rest.filterMap BuildStep.key?).length := by
      cases step with
      | languages n => exact (Nat.zero_add _).symm
      | catalog k => exact Nat.add_comm _ 1
    rw [hlength, traceOf]
    exact ⟨own ++ others, hown.append hothers⟩

/-- The trace of steps in two parts is that of one part after the other. -/
theorem traceOf_append (before steps more : List BuildStep) :
    traceOf L registry before (steps ++ more) =
      traceOf L registry before steps ++ traceOf L registry (before ++ steps) more := by
  induction steps generalizing before with
  | nil => rw [List.nil_append, traceOf, Trace.empty_append, List.append_nil]
  | cons step rest ih =>
    rw [List.cons_append, traceOf, traceOf, ih, Trace.append_assoc, List.append_assoc]
    rfl

/-- A build counts the catalogs that it loads. -/
theorem catalogCount_of_loadNameTypes {nameTypes : List NameType} {ruleTypes : List RuleType}
    {loaded : List (NameType × List (RuleType × List (List Char × List Rule)))}
    (h : (loadNameTypes L registry ruleTypes [] nameTypes).result = .ok loaded)
    (hdeclared : ∀ n ∈ nameTypes, registry.declared n = .ok (registry.declaredSet n)) :
    catalogCount loaded = (loadedKeys registry nameTypes ruleTypes).length := by
  rw [eq_of_loadNameTypes registry.truthful_nil h, loadedKeys_eq hdeclared]
  exact catalogCount_contents _ _ _ _

/-! ### Builds -/

section Builds

variable {nameTypes : List NameType} {ruleTypes : List RuleType}

/-- A build that comes to its end has warned of the diagnostics that it keeps, and tells last how
much there is. -/
theorem exists_log_of_ok {r : Repository}
    (h : (build L registry nameTypes ruleTypes).result = .ok r) :
    ∃ between,
      Interspersed (Foreign L registry)
        (.buildStarted L.format.kind nameTypes ruleTypes :: between ++
          [.buildCompleted (between.countP (·.isCatalogLoaded)) r.ruleCount r.diagnostics.length])
        (build L registry nameTypes ruleTypes).trace.events ∧
      between.filter (·.isLineSkipped) = r.diagnostics.map (.lineSkipped L.format.kind) ∧
      ∀ e ∈ between, e.isOfBuild = false ∧ e.isOfFile = false := by
  obtain ⟨hok, loaded, hloaded, hr, htrace⟩ := build_of_ok h
  obtain ⟨between, hlogs⟩ := exists_logs_traceOf [] hok
  have hcount : catalogCount loaded = between.countP (·.isCatalogLoaded) :=
    (catalogCount_of_loadNameTypes hloaded fun n hn => declared_of_build h hn).trans
      hlogs.loaded.symm
  refine ⟨between, ?_, ?_, hlogs.inside⟩
  · rw [htrace, hcount]
    exact .own (hlogs.interspersed.append (.refl _))
  · rw [hlogs.warnings, hr]
    rfl

/-- A build that fails has told of the loads before the step that fails, and of no other one. -/
theorem exists_log_of_error {e : LoadError}
    (h : (build L registry nameTypes ruleTypes).result = .error e) :
    ∃ done step rest before during,
      plan registry nameTypes ruleTypes = done ++ step :: rest ∧ step.result L registry = .error e ∧
      Interspersed (Foreign L registry)
        (.buildStarted L.format.kind nameTypes ruleTypes :: (before ++ during))
        (build L registry nameTypes ruleTypes).trace.events ∧
      before.countP (·.isCatalogLoaded) = (done.filterMap BuildStep.key?).length ∧
      Interspersed (Foreign L registry) during (step.trace L registry done).events ∧
      (∀ e ∈ during, e.isCatalogLoaded = false) ∧
      ∀ e ∈ before ++ during, e.isOfBuild = false ∧ e.isOfFile = false := by
  obtain ⟨done, step, rest, hplan, hdone, hstep, htrace⟩ := build_of_error h
  obtain ⟨before, hbefore⟩ := exists_logs_traceOf [] hdone
  obtain ⟨during, hduring⟩ := exists_logs_step_of_error done hstep
  -- The trace ends in the step that failed, so that its events come last.
  have hevents : (build L registry nameTypes ruleTypes).trace.events =
      .buildStarted L.format.kind nameTypes ruleTypes ::
        ((traceOf L registry [] done).events ++ (step.trace L registry done).events) := by
    rw [htrace, traceOf_append, traceOf, traceOf, Trace.append_empty]
    rfl
  have hloads : ∀ e ∈ during, e.isCatalogLoaded = false := by
    simpa using List.countP_eq_zero.1 hduring.loaded
  refine ⟨done, step, rest, before, during, hplan, hstep, ?_, hbefore.loaded,
    hduring.interspersed, hloads, List.forall_mem_append.2 ⟨hbefore.inside, hduring.inside⟩⟩
  rw [hevents]
  exact .own (hbefore.interspersed.append hduring.interspersed)

end Builds

end Repository

/-- The events of a build are its own ones with those of the sources among them, and the own ones
agree with what the build comes to. First it tells that it has begun. If it comes to its end, it
tells so last, with the numbers of its repository and of its loads; in between there is a warning
for each diagnostic of the repository, in order, and one event for each load. If it fails, it never
tells that it is done, and the step that fails tells of no load.

If the sources tell of files only, the own events are all others. -/
theorem log_agrees_with_repository (L : Loader Rule) (registry : LanguageRegistry)
    (nameTypes : List NameType) (ruleTypes : List RuleType) :
    let w := Repository.build L registry nameTypes ruleTypes
    let started := Event.buildStarted L.format.kind nameTypes ruleTypes
    let foreign := fun e => L.source.Tells e ∨ registry.Tells e
    ∃ own, Interspersed foreign own w.trace.events ∧
      (∀ r, w.result = .ok r → ∃ between,
        own = started :: between ++ [.buildCompleted (between.countP (·.isCatalogLoaded))
          r.ruleCount r.diagnostics.length] ∧
        between.filter (·.isLineSkipped) = r.diagnostics.map (.lineSkipped L.format.kind) ∧
        ∀ e ∈ between, e.isOfBuild = false) ∧
      (∀ e, w.result = .error e → ∃ done step rest before during,
        Repository.plan registry nameTypes ruleTypes = done ++ step :: rest ∧
        step.result L registry = .error e ∧
        own = started :: (before ++ during) ∧
        before.countP (·.isCatalogLoaded) = (done.filterMap Repository.BuildStep.key?).length ∧
        Interspersed foreign during (step.trace L registry done).events ∧
        (∀ e ∈ during, e.isCatalogLoaded = false) ∧
        ∀ e ∈ before ++ during, e.isOfBuild = false) ∧
      ((∀ e, foreign e → e.isOfFile = true) →
        own = w.trace.events.filter fun e => !e.isOfFile) := by
  intro w started foreign
  -- A build that succeeds ends with its summary; one that fails ends within a step.
  cases hw : w.result with
  | ok r =>
    obtain ⟨between, hown, hwarnings, hinside⟩ := Repository.exists_log_of_ok hw
    refine ⟨_, hown, ?_, ?_, fun hfile => hown.eq_filter hfile ?_⟩
    · rintro _ ⟨⟩
      exact ⟨between, rfl, hwarnings, fun e he => (hinside e he).1⟩
    · intro e he
      cases he
    · refine List.forall_mem_cons.2 ⟨rfl, List.forall_mem_append.2 ⟨?_, ?_⟩⟩
      · exact fun e he => (hinside e he).2
      · simp [Event.isOfFile]
  | error e =>
    obtain ⟨done, step, rest, before, during, hplan, hstep, hown, hbefore, hduring, hloads,
      hinside⟩ := Repository.exists_log_of_error hw
    refine ⟨_, hown, ?_, ?_, fun hfile => hown.eq_filter hfile ?_⟩
    · intro r hr
      cases hr
    · rintro _ ⟨⟩
      exact ⟨done, step, rest, before, during, hplan, hstep, rfl, hbefore, hduring, hloads,
        fun e he => (hinside e he).1⟩
    · exact List.forall_mem_cons.2 ⟨rfl, fun e he => (hinside e he).2⟩

end PhoneticCatalog
