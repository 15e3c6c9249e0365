import PhoneticCatalog.Proofs.Building.Registry
import PhoneticCatalog.Proofs.Inclusion.Steps
import PhoneticCatalog.Repository

/-!
# The plan of a build

A build asks for the languages of each name type and loads a catalog for each of its rule types and
languages. `Repository.plan` lists these steps in their order. Each step has a result of its own,
which depends on no other step, and leaves a trace, which depends on the steps before only in that
languages are read once.

A build carries out its plan (`carryOut_loadNameTypes`). If all steps have results, all are carried
out (`build_of_ok`); otherwise the build ends in the error of the first step that fails, and none
of the later ones is carried out (`build_of_error`).
-/

namespace PhoneticCatalog

open Catalog

namespace Catalog.Walk

variable {α β : Type}

/-- What a walk leaves behind, and whether it fails. -/
def forget (w : Walk α) : Walk Unit := ⟨w.trace, w.result.map fun _ => ()⟩

theorem forget_pure (a : α) : forget (pure a) = pure () := rfl

/-- Forgetting the result of two walks in turn is forgetting that of the second one. -/
theorem forget_bind (w : Walk α) (f : α → Walk β) :
    (w >>= f).forget = w >>= fun a => (f a).forget := by
  cases h : w.result with
  | error e =>
    rw [bind_of_error h, bind_of_error h]
    rfl
  | ok a =>
    rw [bind_of_ok h, bind_of_ok h]
    rfl

/-- Changing a result does not matter once it is forgotten. -/
theorem forget_bind_pure (w : Walk α) (f : α → β) :
    (w >>= fun a => pure (f a)).forget = w.forget := by
  rw [forget_bind]
  cases h : w.result with
  | error e =>
    rw [bind_of_error h, forget, h]
    rfl
  | ok a =>
    rw [bind_of_ok h, forget_pure, pure_eq, Trace.append_empty, forget, h]
    rfl

/-- What does not depend on a result goes on alike when the result is forgotten. -/
theorem forget_bind_const (w : Walk α) (v : Walk β) :
    (w.forget >>= fun _ => v) = w >>= fun _ => v := by
  cases h : w.result with
  | error e =>
    have hforget : w.forget.result = .error e := congrArg (Except.map fun _ => ()) h
    rw [bind_of_error hforget, bind_of_error h]
    rfl
  | ok a =>
    have hforget : w.forget.result = .ok () := congrArg (Except.map fun _ => ()) h
    rw [bind_of_ok hforget, bind_of_ok h]
    rfl

/-- The result of a walk together with the lines that it has skipped. -/
def outcome (w : Walk α) : Except LoadError (α × List Diagnostic) :=
  w.result.map fun a => (a, w.trace.diagnostics)

end Catalog.Walk

namespace Repository

/-! ## Steps -/

/-- A step of a build. -/
inductive BuildStep where
  /-- The languages of a name type are asked for. -/
  | languages (n : NameType)
  /-- The catalog of a key is loaded. -/
  | catalog (k : RuleKey)
  deriving DecidableEq

variable (L : Loader Rule) (registry : LanguageRegistry)

/-- Whether a step fails. -/
def BuildStep.result : BuildStep → Except LoadError Unit
  | .languages n => (registry.declared n).map fun _ => ()
  | .catalog k => (L.load k.catalog).result.map fun _ => ()

/-- What a step leaves behind after some others. Languages are read only once. -/
def BuildStep.trace (before : List BuildStep) : BuildStep → Trace
  | .languages n => if .languages n ∈ before then {} else (registry.languages [] n).trace
  | .catalog k => (L.load k.catalog).trace

/-- Carries out some steps after some others. -/
def carryOut : (before : List BuildStep) → List BuildStep → Walk Unit
  | _, [] => pure ()
  | before, step :: rest => do
    ⟨step.trace L registry before, step.result L registry⟩
    carryOut (before ++ [step]) rest

/-- What some steps leave behind after some others. -/
def traceOf : (before : List BuildStep) → List BuildStep → Trace
  | _, [] => {}
  | before, step :: rest => step.trace L registry before ++ traceOf (before ++ [step]) rest

/-- The steps of loading the catalogs of some keys. -/
def catalogs (keys : List RuleKey) : List BuildStep := keys.map .catalog

/-- The keys of a name type for some rule types and the languages of each of them. -/
def keysOf (n : NameType) (ruleTypes : List RuleType) (languages : RuleType → List (List Char)) :
    List RuleKey :=
  ruleTypes.flatMap fun t => (languages t).map fun language => ⟨n, t, language⟩

/-- The steps for a name type. The catalogs depend on the languages that it has. -/
def planFor (ruleTypes : List RuleType) (n : NameType) : List BuildStep :=
  .languages n ::
    match registry.declared n with
    | .ok declared => catalogs (keysOf n ruleTypes (loadedLanguages declared))
    | .error _ => []

/-- The steps of a build. -/
def plan (nameTypes : List NameType) (ruleTypes : List RuleType) : List BuildStep :=
  nameTypes.flatMap (planFor registry ruleTypes)

variable {L registry}

/-! ## Steps that are carried out -/

/-- Steps in two parts are carried out one part after the other. -/
theorem carryOut_append (before steps more : List BuildStep) :
    carryOut L registry before (steps ++ more) =
      carryOut L registry before steps >>= fun _ => carryOut L registry (before ++ steps) more := by
  induction steps generalizing before with
  | nil => rw [List.nil_append, carryOut, pure_bind, List.append_nil]
  | cons step rest ih =>
    rw [List.cons_append, carryOut, carryOut, bind_assoc]
    simp only [ih, List.append_assoc, List.cons_append, List.nil_append]

/-- Either all steps have results and are carried out, or there is a first one that fails, in whose
error carrying them out ends. -/
theorem carryOut_cases (before steps : List BuildStep) :
    ((∀ step ∈ steps, step.result L registry = .ok ()) ∧
      carryOut L registry before steps = ⟨traceOf L registry before steps, .ok ()⟩) ∨
    ∃ done step rest e, steps = done ++ step :: rest ∧
      (∀ earlier ∈ done, earlier.result L registry = .ok ()) ∧
      step.result L registry = .error e ∧
      carryOut L registry before steps =
        ⟨traceOf L registry before (done ++ [step]), .error e⟩ := by
  induction steps generalizing before with
  | nil => exact Or.inl ⟨fun step hstep => absurd hstep List.not_mem_nil, rfl⟩
  | cons step rest ih =>
    cases hstep : step.result L registry with
    | error e =>
      refine Or.inr ⟨[], step, rest, e, rfl, fun _ h => absurd h List.not_mem_nil, hstep, ?_⟩
      rw [carryOut, Walk.bind_of_error hstep, List.nil_append, traceOf, traceOf,
        Trace.append_empty]
    | ok _ =>
      rw [carryOut, Walk.bind_of_ok hstep]
      rcases ih (before ++ [step])
        with ⟨hrest, heq⟩ | ⟨done, failing, after, e, rfl, hdone, he, heq⟩
      · refine Or.inl ⟨List.forall_mem_cons.2 ⟨hstep, hrest⟩, ?_⟩
        rw [heq, traceOf]
      · -- The first failure of the rest is the first of all, since this step has a result.
        refine Or.inr ⟨step :: done, failing, after, e, rfl,
          List.forall_mem_cons.2 ⟨hstep, hdone⟩, he, ?_⟩
        rw [heq, List.cons_append, traceOf]

/-! ## Builds carry out their plans -/

/-- The step of a key loads the catalog of the key. -/
theorem carryOut_catalog (before : List BuildStep) (k : RuleKey) (rest : List BuildStep) :
    carryOut L registry before (.catalog k :: rest) =
      L.load k.catalog >>= fun _ => carryOut L registry (before ++ [.catalog k]) rest := by
  rw [← Walk.forget_bind_const]
  rfl

/-- Loading some languages carries out one step for each of them. -/
theorem carryOut_loadLanguages (before : List BuildStep) (n : NameType) (t : RuleType)
    (languages : List (List Char)) :
    carryOut L registry before (catalogs (languages.map fun language => ⟨n, t, language⟩)) =
      (loadLanguages L n t languages).forget := by
  induction languages generalizing before with
  | nil => rfl
  | cons language rest ih =>
    rw [loadLanguages, Walk.forget_bind]
    simp only [Walk.forget_bind_pure, ← ih (before ++ [.catalog ⟨n, t, language⟩])]
    exact carryOut_catalog before ⟨n, t, language⟩ _

/-- Loading some rule types carries out the steps for the keys of all of them. -/
theorem carryOut_loadRuleTypes (before : List BuildStep) (n : NameType) (declared : LanguageSet)
    (ruleTypes : List RuleType) :
    carryOut L registry before (catalogs (keysOf n ruleTypes (loadedLanguages declared))) =
      (loadRuleTypes L n declared ruleTypes).forget := by
  induction ruleTypes generalizing before with
  | nil => rfl
  | cons t rest ih =>
    have hkeys : catalogs (keysOf n (t :: rest) (loadedLanguages declared)) =
        catalogs ((loadedLanguages declared t).map fun language => ⟨n, t, language⟩)
          ++ catalogs (keysOf n rest (loadedLanguages declared)) := List.map_append
    rw [loadRuleTypes, Walk.forget_bind, hkeys, carryOut_append, carryOut_loadLanguages, ih,
      Walk.forget_bind_const]
    simp only [Walk.forget_bind_pure]

/-- The shelf is truthful, and holds the languages that were asked for in some steps. -/
structure Records (registry : LanguageRegistry) (before : List BuildStep) (shelf : Shelf) :
    Prop where
  truthful : registry.Truthful shelf
  trace : ∀ n, (registry.languages shelf n).trace =
    if .languages n ∈ before then {} else (registry.languages [] n).trace

/-- An empty shelf records that nothing was asked. -/
theorem records_nil (registry : LanguageRegistry) : Records registry [] [] :=
  ⟨registry.truthful_nil, fun _ => (if_neg List.not_mem_nil).symm⟩

/-- After the steps of a name type the shelf holds its languages as well. -/
theorem Records.next {before : List BuildStep} {shelf shelf' : Shelf} {n : NameType}
    {declared : LanguageSet} (h : Records registry before shelf)
    (hanswer : (registry.languages shelf n).result = .ok (declared, shelf'))
    (keys : List RuleKey) :
    Records registry (before ++ .languages n :: catalogs keys) shelf' := by
  refine ⟨h.truthful.languages hanswer, fun u => ?_⟩
  have hmem : .languages u ∈ before ++ .languages n :: catalogs keys ↔
      u = n ∨ .languages u ∈ before := by
    simp [catalogs, or_comm]
  rw [LanguageRegistry.trace_languages_after hanswer, h.trace, ite_cond_congr (propext hmem)]
  by_cases hu : u = n
  · rw [if_pos hu, if_pos (Or.inl hu)]
  · simp only [hu, false_or, if_false]

/-- Loading some name types carries out the plan of the build. -/
theorem carryOut_loadNameTypes {before : List BuildStep} {shelf : Shelf}
    (h : Records registry before shelf) (nameTypes : List NameType) (ruleTypes : List RuleType) :
    carryOut L registry before (plan registry nameTypes ruleTypes) =
      (loadNameTypes L registry ruleTypes shelf nameTypes).forget := by
  induction nameTypes generalizing before shelf with
  | nil => rfl
  | cons n rest ih =>
    have hplan : plan registry (n :: rest) ruleTypes =
        planFor registry ruleTypes n ++ plan registry rest ruleTypes := rfl
    have htrace : (registry.languages shelf n).trace =
        (BuildStep.languages n).trace L registry before := h.trace n
    rw [hplan, planFor, loadNameTypes, List.cons_append, carryOut, ← htrace]
    -- The languages are read first. Their catalogs and the other name types come after them on both
    -- sides, so that there are steps for them only if the languages can be read.
    cases hdeclared : registry.declared n with
    | error e =>
      have hstep : (BuildStep.languages n).result L registry = .error e :=
        congrArg (Except.map fun _ => ()) hdeclared
      rw [Walk.bind_of_error hstep, Walk.bind_of_error (h.truthful.error_of_error hdeclared)]
      rfl
    | ok declared =>
      have hstep : (BuildStep.languages n).result L registry = .ok () :=
        congrArg (Except.map fun _ => ()) hdeclared
      obtain ⟨shelf', hanswer⟩ := h.truthful.exists_of_ok hdeclared
      have hnext := h.next hanswer (keysOf n ruleTypes (loadedLanguages declared))
      rw [Walk.bind_of_ok hstep, Walk.bind_of_ok hanswer, carryOut_append, List.append_assoc,
        List.singleton_append, ih hnext, carryOut_loadRuleTypes, Walk.forget_bind_const]
      have hrest : (do
          let loaded ← loadRuleTypes L n declared ruleTypes
          let others ← loadNameTypes L registry ruleTypes shelf' rest
          return (n, loaded) :: others : Walk _).forget = (do
          let _ ← loadRuleTypes L n declared ruleTypes
          (loadNameTypes L registry ruleTypes shelf' rest).forget) := by
        rw [Walk.forget_bind]
        simp only [Walk.forget_bind_pure]
      rw [← hrest]
      rfl

section Build

variable {nameTypes : List NameType} {ruleTypes : List RuleType}

/-- Name types that are loaded have carried out the whole plan. -/
theorem loadNameTypes_of_ok
    {loaded : List (NameType × List (RuleType × List (List Char × List Rule)))}
    (h : (loadNameTypes L registry ruleTypes [] nameTypes).result = .ok loaded) :
    (∀ step ∈ plan registry nameTypes ruleTypes, step.result L registry = .ok ()) ∧
    (loadNameTypes L registry ruleTypes [] nameTypes).trace =
      traceOf L registry [] (plan registry nameTypes ruleTypes) := by
  have hplan := carryOut_loadNameTypes (L := L) (records_nil registry) nameTypes ruleTypes
  rcases carryOut_cases [] (plan registry nameTypes ruleTypes)
    with ⟨hok, heq⟩ | ⟨done, step, rest, e, -, -, -, heq⟩
  · exact ⟨hok, congrArg Walk.trace (hplan.symm.trans heq)⟩
  · have hfailed := congrArg Walk.result (hplan.symm.trans heq)
    cases hfailed.symm.trans (congrArg (Except.map fun _ => ()) h)

/-- Name types that cannot be loaded have carried out the plan up to the first step that fails. -/
theorem loadNameTypes_of_error {e : LoadError}
    (h : (loadNameTypes L registry ruleTypes [] nameTypes).result = .error e) :
    ∃ done step rest, plan registry nameTypes ruleTypes = done ++ step :: rest ∧
      (∀ earlier ∈ done, earlier.result L registry = .ok ()) ∧
      step.result L registry = .error e ∧
      (loadNameTypes L registry ruleTypes [] nameTypes).trace =
        traceOf L registry [] (done ++ [step]) := by
  have hplan := carryOut_loadNameTypes (L := L) (records_nil registry) nameTypes ruleTypes
  rcases carryOut_cases [] (plan registry nameTypes ruleTypes)
    with ⟨-, heq⟩ | ⟨done, step, rest, e', hsteps, hdone, he, heq⟩
  · have hdone := congrArg Walk.result (hplan.symm.trans heq)
    cases hdone.symm.trans (congrArg (Except.map fun _ => ()) h)
  · have hfailed := congrArg Walk.result (hplan.symm.trans heq)
    obtain rfl := Except.error.inj (hfailed.symm.trans (congrArg (Except.map fun _ => ()) h))
    exact ⟨done, step, rest, hsteps, hdone, he, congrArg Walk.trace (hplan.symm.trans heq)⟩

/-- The result of a build is made of what its walk through the name types has loaded. -/
theorem result_build :
    (build L registry nameTypes ruleTypes).result =
      (loadNameTypes L registry ruleTypes [] nameTypes).outcome.map
        fun loaded => ⟨tableOf loaded.1, loaded.2⟩ := by
  rw [build, Walk.leave_bind, complete, Walk.outcome]
  cases (loadNameTypes L registry ruleTypes [] nameTypes).result <;> rfl

/-- A build with a result has carried out its whole plan. -/
theorem build_of_ok {r : Repository} (h : (build L registry nameTypes ruleTypes).result = .ok r) :
    (∀ step ∈ plan registry nameTypes ruleTypes, step.result L registry = .ok ()) ∧
    ∃ loaded, (loadNameTypes L registry ruleTypes [] nameTypes).result = .ok loaded ∧
      r = ⟨tableOf loaded,
        (traceOf L registry [] (plan registry nameTypes ruleTypes)).diagnostics⟩ ∧
      (build L registry nameTypes ruleTypes).trace =
        { events := [.buildStarted L.format.kind nameTypes ruleTypes] }
          ++ traceOf L registry [] (plan registry nameTypes ruleTypes)
          ++ { events :=
            [.buildCompleted (catalogCount loaded) r.ruleCount r.diagnostics.length] } := by
  rw [build, Walk.leave_bind, complete] at h ⊢
  cases hloaded : (loadNameTypes L registry ruleTypes [] nameTypes).result with
  | error e =>
    rw [hloaded] at h
    cases h
  | ok loaded =>
    obtain ⟨hok, htrace⟩ := loadNameTypes_of_ok hloaded
    rw [hloaded] at h
    obtain rfl := Except.ok.inj h
    rw [htrace]
    exact ⟨hok, loaded, rfl, rfl, rfl⟩

/-- A build that fails has carried out its plan up to the first step that fails. -/
theorem build_of_error {e : LoadError}
    (h : (build L registry nameTypes ruleTypes).result = .error e) :
    ∃ done step rest, plan registry nameTypes ruleTypes = done ++ step :: rest ∧
      (∀ earlier ∈ done, earlier.result L registry = .ok ()) ∧
      step.result L registry = .error e ∧
      (build L registry nameTypes ruleTypes).trace =
        { events := [.buildStarted L.format.kind nameTypes ruleTypes] }
          ++ traceOf L registry [] (done ++ [step]) := by
  rw [build, Walk.leave_bind, complete] at h ⊢
  cases hloaded : (loadNameTypes L registry ruleTypes [] nameTypes).result with
  | ok loaded =>
    rw [hloaded] at h
    cases h
  | error e' =>
    rw [hloaded] at h
    obtain rfl := Except.error.inj h
    obtain ⟨done, step, rest, heq, hdone, he, htrace⟩ := loadNameTypes_of_error hloaded
    rw [htrace]
    exact ⟨done, step, rest, heq, hdone, he, rfl⟩

end Build

end Repository

end PhoneticCatalog
