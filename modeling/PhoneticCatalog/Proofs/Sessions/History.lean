import PhoneticCatalog.Proofs.Building.Plan
import PhoneticCatalog.Proofs.Inclusion.OpenCatalogs
import PhoneticCatalog.Proofs.Sessions.Loading

/-!
# Calls leave no mark on later ones

A loader and a registry may have been used for anything before, with or without success. The next
call is answered as by a new loader, and the next build gives what it gives with a new loader and a
new registry (`history_leaves_no_mark`).

For calls this holds in every session, since a call clears what the loader keeps. For builds the
session has to have a truthful shelf. Work that `Yields` a walk needs no more of the session than
that, and leaves it so; hence the sessions after all histories have truthful shelves
(`truthful_after`).
-/

namespace PhoneticCatalog

open Catalog

namespace Session

variable {α β ρ : Type}

/-! ## Calls -/

/-- Answers a call in a session. -/
def answer (L : Loader ρ) : Call → Work (List ρ)
  | .load name => load L name
  | .parse text name => parse L text name

/-- A call in a session has the result of the loader, and leaves its trace in a cleared session. -/
theorem run_answer (L : Loader ρ) (s : Session) (call : Call) :
    s.run (answer L call) = ((L.answer call).result, s.cleared.leaving (L.answer call).trace) := by
  cases call with
  | load name => exact run_load L s name
  | parse text name => exact run_parse L s text name

/-- What is observed of a call is the answer of the loader, in every session. -/
theorem observe_answer (L : Loader ρ) (s : Session) (call : Call) :
    s.observe (answer L call) = L.answer call := by
  simp only [observe, run_answer]
  refine Walk.ext (Trace.ext ?_ ?_ ?_ ?_) rfl
  · exact List.nil_append _
  · exact Counters.empty_add _
  · exact List.drop_left
  · exact List.drop_left

/-! ## Registries -/

/-- The registry of a session answers from the shelf that the session has. -/
theorem run_languages (registry : LanguageRegistry) (s : Session) (t : NameType) :
    s.run (languages registry t) =
      match (registry.languages s.shelf t).result with
      | .ok (set, shelf) =>
        (.ok set, { s.leaving (registry.languages s.shelf t).trace with shelf })
      | .error e => (.error e, s.leaving (registry.languages s.shelf t).trace) := by
  cases registry with
  | fixed given =>
    rw [LanguageRegistry.languages_fixed, languages, run_pure, Walk.pure_eq, leaving_empty]
  | catalogs source =>
    rw [languages, run_bind_of_ok run_get]
    -- A list on the shelf is not asked for again.
    cases hlookup : s.shelf.lookup t with
    | some set =>
      rw [LanguageRegistry.languages_of_held hlookup, run_pure, Walk.pure_eq, leaving_empty]
    | none =>
      have hask := run_ask s source t.languagesCatalog
      rw [LanguageRegistry.languages_of_unread hlookup, LanguageRegistry.readLanguages_eq]
      cases hread : (source.read t.languagesCatalog).result with
      | error fault =>
        rw [hread] at hask
        exact run_bind_of_error hask _
      | ok text =>
        rw [hread] at hask
        rw [run_bind_of_ok hask, Walk.bind_of_ok rfl, Walk.pure_eq, Trace.append_empty]
        simp only [leaving, ← List.append_assoc]
        rfl

/-! ## Builds -/

section Build

variable {registry : LanguageRegistry}

/-- The work has the outcome of the walk in every session with a truthful shelf, and leaves one. -/
def Yields (registry : LanguageRegistry) (work : Work (β × List Diagnostic)) (w : Walk β) : Prop :=
  ∀ s : Session, registry.Truthful s.shelf →
    (s.run work).1 = w.outcome ∧ registry.Truthful (s.run work).2.shelf

namespace Yields

variable {work : Work (β × List Diagnostic)} {w : Walk β} {s : Session}

/-- Where the walk fails, the work fails in the same way. -/
theorem run_of_error (h : Yields registry work w) (hs : registry.Truthful s.shelf) {e : LoadError}
    (he : w.result = .error e) :
    ∃ t, s.run work = (.error e, t) ∧ registry.Truthful t.shelf := by
  obtain ⟨hresult, hshelf⟩ := h s hs
  rw [Walk.outcome, he] at hresult
  exact ⟨(s.run work).2, Prod.ext hresult rfl, hshelf⟩

/-- Where the walk has a result, the work brings the skipped lines along with it. -/
theorem run_of_ok (h : Yields registry work w) (hs : registry.Truthful s.shelf) {b : β}
    (hb : w.result = .ok b) :
    ∃ t, s.run work = (.ok (b, w.trace.diagnostics), t) ∧ registry.Truthful t.shelf := by
  obtain ⟨hresult, hshelf⟩ := h s hs
  rw [Walk.outcome, hb] at hresult
  exact ⟨(s.run work).2, Prod.ext hresult rfl, hshelf⟩

/-- Work that yields a walk yields every walk with the same outcome. -/
theorem of_outcome_eq {v : Walk β} (h : Yields registry work v) (heq : w.outcome = v.outcome) :
    Yields registry work w := by
  intro s hs
  rw [heq]
  exact h s hs

/-- What is made of a result changes nothing about the session. -/
theorem map {γ : Type} (h : Yields registry work w) (f : β → γ) :
    Yields registry (work >>= fun (b, skipped) => pure (f b, skipped))
      (w >>= fun b => pure (f b)) := by
  intro s hs
  cases hw : w.result with
  | error e =>
    obtain ⟨t, hrun, hshelf⟩ := h.run_of_error hs hw
    rw [run_bind_of_error hrun, Walk.bind_of_error hw]
    exact ⟨rfl, hshelf⟩
  | ok b =>
    obtain ⟨t, hrun, hshelf⟩ := h.run_of_ok hs hw
    rw [run_bind_of_ok hrun, Walk.bind_of_ok hw, Walk.outcome, Walk.pure_eq, Trace.append_empty]
    exact ⟨rfl, hshelf⟩

/-- Collecting nothing yields nothing. -/
theorem collect_nil (work : α → Work (β × List Diagnostic)) :
    Yields registry (collect work []) (pure []) := by
  intro s hs
  exact ⟨rfl, hs⟩

/-- The work for a list yields the walk of its first member and then that of the others. -/
theorem collect_cons {work : α → Work (β × List Diagnostic)} {a : α} {rest : List α}
    {ws : Walk (List β)} (hfirst : Yields registry (work a) w)
    (hrest : Yields registry (collect work rest) ws) :
    Yields registry (collect work (a :: rest))
      (w >>= fun b => ws >>= fun bs => pure (b :: bs)) := by
  intro s hs
  rw [collect]
  -- The first failure ends the work, with a shelf that is truthful still.
  cases hw : w.result with
  | error e =>
    obtain ⟨t, hrun, hshelf⟩ := hfirst.run_of_error hs hw
    rw [run_bind_of_error hrun, Walk.bind_of_error hw]
    exact ⟨rfl, hshelf⟩
  | ok b =>
    obtain ⟨t, hrun, hshelf⟩ := hfirst.run_of_ok hs hw
    rw [run_bind_of_ok hrun, Walk.bind_of_ok hw]
    cases hws : ws.result with
    | error e =>
      obtain ⟨u, hrun', hshelf'⟩ := hrest.run_of_error hshelf hws
      rw [run_bind_of_error hrun', Walk.bind_of_error hws]
      exact ⟨rfl, hshelf'⟩
    | ok bs =>
      obtain ⟨u, hrun', hshelf'⟩ := hrest.run_of_ok hshelf hws
      rw [run_bind_of_ok hrun', Walk.bind_of_ok hws, run_pure, Walk.outcome, Walk.pure_eq,
        Trace.append_empty]
      exact ⟨rfl, hshelf'⟩

end Yields

variable (L : Loader Rule)

/-- The work for a key yields the load of its catalog. -/
theorem yields_loadKey (k : RuleKey) :
    Yields registry (loadKey L k) (L.load k.catalog >>= fun rules => pure (k.language, rules)) := by
  intro s hs
  have hrun := run_load L s k.catalog
  rw [loadKey]
  cases hload : (L.load k.catalog).result with
  | error e =>
    rw [hload] at hrun
    rw [run_bind_of_error hrun, Walk.bind_of_error hload]
    exact ⟨rfl, hs⟩
  | ok rules =>
    rw [hload] at hrun
    rw [run_bind_of_ok hrun, run_bind_of_ok run_get, Walk.bind_of_ok hload, Walk.outcome,
      Walk.pure_eq, Trace.append_empty]
    exact ⟨rfl, hs⟩

/-- The work for some languages yields the loads of their catalogs. -/
theorem yields_languages (n : NameType) (t : RuleType) (languages : List (List Char)) :
    Yields registry (collect (fun language => loadKey L ⟨n, t, language⟩) languages)
      (Repository.loadLanguages L n t languages) := by
  induction languages with
  | nil => exact .collect_nil _
  | cons language rest ih =>
    have hwalk : Yields registry
        (collect (fun language => loadKey L ⟨n, t, language⟩) (language :: rest)) _ :=
      .collect_cons (yields_loadKey L ⟨n, t, language⟩) ih
    simp only [bind_assoc, pure_bind] at hwalk
    exact hwalk

/-- The work for some rule types yields the loads of their languages. -/
theorem yields_ruleTypes (n : NameType) (declared : LanguageSet) (ruleTypes : List RuleType) :
    Yields registry (collect (loadRuleType L n declared) ruleTypes)
      (Repository.loadRuleTypes L n declared ruleTypes) := by
  induction ruleTypes with
  | nil => exact .collect_nil _
  | cons t rest ih =>
    have hfirst : Yields registry (loadRuleType L n declared t)
        (Repository.loadLanguages L n t (Repository.loadedLanguages declared t) >>=
          fun loaded => pure (t, loaded)) :=
      (yields_languages L n t _).map _
    have hwalk := hfirst.collect_cons ih
    simp only [bind_assoc, pure_bind] at hwalk
    exact hwalk

/-- A name type is loaded alike with all truthful shelves. -/
theorem yields_nameType (ruleTypes : List RuleType) {shelf : Shelf}
    (hshelf : registry.Truthful shelf) (n : NameType) :
    Yields registry (loadNameType L registry ruleTypes n)
      (registry.languages shelf n >>= fun answer =>
        Repository.loadRuleTypes L n answer.1 ruleTypes >>= fun loaded => pure (n, loaded)) := by
  intro s hs
  have hrun := run_languages registry s n
  rw [loadNameType]
  -- Both shelves are truthful, so that both answer with what is declared.
  cases hdeclared : registry.declared n with
  | error e =>
    rw [hs.error_of_error hdeclared] at hrun
    rw [run_bind_of_error hrun, Walk.bind_of_error (hshelf.error_of_error hdeclared)]
    exact ⟨rfl, hs⟩
  | ok declared =>
    obtain ⟨shelf', hanswer⟩ := hs.exists_of_ok hdeclared
    obtain ⟨shelf'', hanswer'⟩ := hshelf.exists_of_ok hdeclared
    rw [hanswer] at hrun
    rw [run_bind_of_ok hrun, Walk.bind_of_ok hanswer']
    rw [Walk.outcome, Trace.diagnostics_append, LanguageRegistry.diagnostics_languages,
      List.nil_append]
    exact ((yields_ruleTypes L n declared ruleTypes).map (Prod.mk n)) _ (hs.languages hanswer)

/-- The work for some name types yields the loads of their rule types, whatever a truthful shelf
holds. -/
theorem yields_nameTypes (ruleTypes : List RuleType) {shelf : Shelf}
    (hshelf : registry.Truthful shelf) (nameTypes : List NameType) :
    Yields registry (collect (loadNameType L registry ruleTypes) nameTypes)
      (Repository.loadNameTypes L registry ruleTypes shelf nameTypes) := by
  induction nameTypes generalizing shelf with
  | nil => exact .collect_nil _
  | cons n rest ih =>
    have hfirst := yields_nameType L ruleTypes hshelf n
    rw [Repository.loadNameTypes]
    cases hanswer : (registry.languages shelf n).result with
    | error e =>
      refine (hfirst.collect_cons (ih hshelf)).of_outcome_eq ?_
      rw [Walk.bind_of_error hanswer, Walk.bind_of_error hanswer, Walk.bind_of_error rfl]
    | ok answer =>
      obtain ⟨declared, shelf'⟩ := answer
      -- The walk goes on with the shelf of its own answer, the work with that of the session.
      refine (hfirst.collect_cons (ih (hshelf.languages hanswer))).of_outcome_eq ?_
      rw [bind_assoc, Walk.bind_of_ok hanswer, Walk.bind_of_ok hanswer]
      simp only [bind_assoc, pure_bind]

/-- A build gives the repository, or the error, of a build with a new loader and registry. -/
theorem run_build {s : Session} (hs : registry.Truthful s.shelf) (nameTypes : List NameType)
    (ruleTypes : List RuleType) :
    (s.run (build L registry nameTypes ruleTypes)).1 =
      (Repository.build L registry nameTypes ruleTypes).result ∧
    registry.Truthful (s.run (build L registry nameTypes ruleTypes)).2.shelf := by
  have hwork := yields_nameTypes L ruleTypes registry.truthful_nil nameTypes
  let told : Session :=
    { s with events := s.events ++ [.buildStarted L.format.kind nameTypes ruleTypes] }
  have htold : registry.Truthful told.shelf := hs
  rw [build, run_bind_of_ok (run_tell _), Repository.result_build, Walk.outcome]
  cases hw : (Repository.loadNameTypes L registry ruleTypes [] nameTypes).result with
  | error e =>
    obtain ⟨t, hrun, hshelf⟩ := hwork.run_of_error htold hw
    rw [run_bind_of_error hrun]
    exact ⟨rfl, hshelf⟩
  | ok loaded =>
    obtain ⟨t, hrun, hshelf⟩ := hwork.run_of_ok htold hw
    rw [run_bind_of_ok hrun]
    exact ⟨rfl, hshelf⟩

end Build

/-! ## Histories -/

/-- What a loader and a registry are used for. -/
inductive Request where
  /-- A call of the loader. -/
  | call (call : Call)
  /-- A question to the registry. -/
  | languages (t : NameType)
  /-- A build with both of them. -/
  | build (nameTypes : List NameType) (ruleTypes : List RuleType)

/-- The session after a request, whatever came out of it. -/
def serve (L : Loader Rule) (registry : LanguageRegistry) (s : Session) : Request → Session
  | .call call => (s.run (answer L call)).2
  | .languages t => (s.run (Session.languages registry t)).2
  | .build nameTypes ruleTypes => (s.run (Session.build L registry nameTypes ruleTypes)).2

/-- The session after some requests, one after the other, to a new loader and a new registry. -/
def after (L : Loader Rule) (registry : LanguageRegistry) (history : List Request) : Session :=
  history.foldl (serve L registry) {}

/-- No request leaves a shelf behind that is not truthful. -/
theorem truthful_serve (L : Loader Rule) {registry : LanguageRegistry} {s : Session}
    (hs : registry.Truthful s.shelf) (request : Request) :
    registry.Truthful (s.serve L registry request).shelf := by
  cases request with
  | call call =>
    rw [serve, run_answer]
    exact hs
  | languages t =>
    rw [serve, run_languages]
    cases hanswer : (registry.languages s.shelf t).result with
    | error e => exact hs
    | ok answer => exact hs.languages hanswer
  | build nameTypes ruleTypes => exact (run_build L hs nameTypes ruleTypes).2

/-- After every history the shelf is truthful. -/
theorem truthful_after (L : Loader Rule) (registry : LanguageRegistry) (history : List Request) :
    registry.Truthful (after L registry history).shelf := by
  -- The induction on the history starts from any session with a truthful shelf.
  have hall : ∀ s : Session, registry.Truthful s.shelf →
      registry.Truthful (history.foldl (serve L registry) s).shelf := by
    induction history with
    | nil => exact fun s hs => hs
    | cons request rest ih => exact fun s hs => ih _ (truthful_serve L hs request)
  exact hall {} registry.truthful_nil

end Session

/-- A loader and a registry that have been used for anything before, with or without success, do
what new ones do. Of a later call the same is observed as of a first one: the result or the error,
the skipped lines, the counters, the requests and what is told. A later build gives the same
repository or the same error after every history, the one that a new loader and registry give. -/
theorem history_leaves_no_mark (L : Loader Rule) (registry : LanguageRegistry)
    (history other : List Session.Request) :
    (∀ call, (Session.after L registry history).observe (Session.answer L call) =
      ({} : Session).observe (Session.answer L call)) ∧
    ∀ nameTypes ruleTypes,
      ((Session.after L registry history).run
          (Session.build L registry nameTypes ruleTypes)).1 =
        ((Session.after L registry other).run
          (Session.build L registry nameTypes ruleTypes)).1 ∧
      ((Session.after L registry history).run
          (Session.build L registry nameTypes ruleTypes)).1 =
        (Repository.build L registry nameTypes ruleTypes).result := by
  have hbuild : ∀ history nameTypes ruleTypes,
      ((Session.after L registry history).run (Session.build L registry nameTypes ruleTypes)).1 =
        (Repository.build L registry nameTypes ruleTypes).result :=
    fun history nameTypes ruleTypes =>
      (Session.run_build L (Session.truthful_after L registry history) nameTypes ruleTypes).1
  refine ⟨fun call => ?_, fun nameTypes ruleTypes => ⟨?_, hbuild history nameTypes ruleTypes⟩⟩
  · rw [Session.observe_answer, Session.observe_answer]
  · rw [hbuild history, hbuild other]

end PhoneticCatalog
