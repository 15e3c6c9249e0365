import PhoneticCatalog.Repository

/-!
# Sessions

A loader and a registry of languages are made once and used many times. A `Session` is what they
keep meanwhile. The loader keeps its open catalogs, its counters and its diagnostics, and changes
them line by line; it clears them when it is called the next time, and not when it is done. The
registry keeps the languages that it has read.

`Work` is something that is done in a session. An error does not undo what was done before it, so
that a call which fails leaves the session somewhere in between; only the catalogs that it has open
are closed on the way out.
-/

namespace PhoneticCatalog

open Catalog

/-- What a loader and a registry keep while they are used, and what others have seen of them. -/
structure Session where
  /-- The catalogs that the loader has open, outermost first. -/
  stack : List (List Char) := []
  /-- What the loader has counted. -/
  counters : Counters := {}
  /-- The lines that the loader has skipped. -/
  diagnostics : List Diagnostic := []
  /-- The languages that the registry has read. -/
  shelf : Shelf := []
  /-- The names that were asked of a source. -/
  opened : List (List Char) := []
  /-- What was told. -/
  events : List Journal.Event := []

/-- Why there are no languages for an argument. -/
inductive LanguagesError where
  /-- The argument denotes no name type. -/
  | argument (e : ArgumentError)
  /-- The catalog of languages cannot be read. -/
  | load (e : LoadError)
  deriving DecidableEq, Repr

/-- Something that is done in a session. -/
abbrev Work := ExceptT LoadError (StateM Session)

namespace Session

variable {α β ρ : Type}

/-- Does some work in a session: what comes out of it, and the session afterwards. -/
def run (s : Session) (work : Work α) : Except LoadError α × Session := StateT.run work.run s

/-- Does some work in a session. Of the session afterwards the trace shows what the loader keeps
then, and what was asked and told meanwhile. -/
def observe (s : Session) (work : Work α) : Walk α :=
  let (result, t) := s.run work
  let trace : Trace :=
    { diagnostics := t.diagnostics
      counters := t.counters
      opened := t.opened.drop s.opened.length
      events := t.events.drop s.events.length }
  ⟨trace, result⟩

/-- Adds to the counters. -/
def count (counters : Counters) : Work Unit :=
  modify fun s => { s with counters := s.counters + counters }

/-- Tells about something. -/
def tell (event : Journal.Event) : Work Unit :=
  modify fun s => { s with events := s.events ++ [event] }

/-- Asks a source for a catalog. -/
def ask (source : Source) (name : List Char) : Work (List Char) := do
  let reading := source.read name
  modify fun s => { s with opened := s.opened ++ [name], events := s.events ++ reading.events }
  MonadExcept.ofExcept (reading.result.mapError (.notOpened name))

/-! ## Loading -/

/-- Does some work while a catalog is open, and closes the catalog, also after an error. -/
def whileOpen (name : List Char) (work : Work α) : Work α := do
  modify fun s => { s with stack := s.stack ++ [name] }
  try work
  finally modify fun s => { s with stack := s.stack.dropLast }

/-- Carries out a step of a catalog, where `splice` reads an included one. -/
def runStep (L : Loader ρ) (splice : List Char → Work (List ρ)) : Step ρ → Work (List ρ)
  | .tally lines comments => do
    count { lines, comments }
    return []
  | .rule r => return [r]
  | .splice name => do
    count { includes := 1 }
    splice name
  | .skip d => do
    modify fun s => { s with diagnostics := s.diagnostics ++ [d] }
    tell (.lineSkipped L.format.kind d)
    return []
  | .abort e => throw e

/-- Carries out the steps of a catalog. -/
def runSteps (L : Loader ρ) (splice : List Char → Work (List ρ)) : List (Step ρ) → Work (List ρ)
  | [] => return []
  | step :: rest => do
    let rules ← runStep L splice step
    let others ← runSteps L splice rest
    return rules ++ others

/-- Reads a catalog inside of those that the session has open. It may have others open inside of
it, one in the other, as far as there are `levels` left and the loader allows. -/
def visit (L : Loader ρ) : (levels : Nat) → List Char → Work (List ρ)
  | levels, name => do
    let stack := (← get).stack
    if name ∈ stack then throw (.cycle (stack ++ [name]))
    if L.maxDepth ≤ stack.length then throw (.tooDeep name L.maxDepth)
    match levels with
    | 0 => throw (.tooDeep name L.maxDepth)
    | levels + 1 => do
      let text ← ask L.source name
      count { catalogs := 1 }
      whileOpen name (runSteps L (visit L levels) (L.format.steps name text))

/-- Clears what a loader keeps. -/
def reset : Work Unit := modify fun s => { s with stack := [], counters := {}, diagnostics := [] }

/-- Completes the counters of a call that came to its end, and tells about it. -/
def finish (L : Loader ρ) (name : List Char) (rules : List ρ) : Work (List ρ) := do
  let s ← get
  let counters :=
    { s.counters with
      rules := rules.length
      diagnostics := s.diagnostics.length }
  set { s with counters }
  tell (.catalogLoaded L.format.kind name counters)
  return rules

/-- The rules of a catalog and of all catalogs it includes. -/
def load (L : Loader ρ) (name : List Char) : Work (List ρ) := do
  reset
  let rules ← visit L L.maxDepth name
  finish L name rules

/-- The rules of a text that stands for a catalog of the given name. -/
def parse (L : Loader ρ) (text name : List Char) : Work (List ρ) := do
  reset
  let rules ← whileOpen name do
    count { catalogs := 1 }
    runSteps L (visit L L.maxDepth) (L.format.steps name text)
  finish L name rules

/-! ## Building -/

/-- The languages of a name type. They are read once, and kept if they could be read. -/
def languages (registry : LanguageRegistry) (t : NameType) : Work LanguageSet :=
  match registry with
  | .fixed given => return (given.lookup t).getD .empty
  | .catalogs source => do
    match (← get).shelf.lookup t with
    | some declared => return declared
    | none => do
      let text ← ask source t.languagesCatalog
      let declared := parseLanguages text
      modify fun s => { s with shelf := (t, declared) :: s.shelf }
      tell (.languagesLoaded t declared.names.length)
      return declared

/-- The languages of the name type that an argument denotes. An argument that denotes none is
refused before the registry is asked. -/
def languagesFor (s : Session) (registry : LanguageRegistry) (a : Argument) :
    Except LanguagesError LanguageSet × Session :=
  match a.toNameType with
  | .error e => (.error (.argument e), s)
  | .ok t =>
    let (result, after) := s.run (languages registry t)
    (result.mapError .load, after)

/-- Does some work for each member of a list, one after the other, and brings the results and the
diagnostics together. -/
def collect (work : α → Work (β × List Diagnostic)) : List α → Work (List β × List Diagnostic)
  | [] => return ([], [])
  | a :: rest => do
    let (b, skipped) ← work a
    let (others, more) ← collect work rest
    return (b :: others, skipped ++ more)

/-- Loads the catalog of a key, and takes over the diagnostics of the loader. -/
def loadKey (L : Loader Rule) (k : RuleKey) : Work ((List Char × List Rule) × List Diagnostic) := do
  let rules ← load L k.catalog
  return ((k.language, rules), (← get).diagnostics)

/-- Loads the catalogs of a rule type. -/
def loadRuleType (L : Loader Rule) (n : NameType) (declared : LanguageSet) (t : RuleType) :
    Work ((RuleType × List (List Char × List Rule)) × List Diagnostic) := do
  let (loaded, skipped) ←
    collect (fun language => loadKey L ⟨n, t, language⟩) (Repository.loadedLanguages declared t)
  return ((t, loaded), skipped)

/-- Loads the catalogs of a name type. -/
def loadNameType (L : Loader Rule) (registry : LanguageRegistry) (ruleTypes : List RuleType)
    (n : NameType) :
    Work ((NameType × List (RuleType × List (List Char × List Rule))) × List Diagnostic) := do
  let declared ← languages registry n
  let (loaded, skipped) ← collect (loadRuleType L n declared) ruleTypes
  return ((n, loaded), skipped)

/-- Builds the repository of all catalogs for some name types and rule types. -/
def build (L : Loader Rule) (registry : LanguageRegistry) (nameTypes : List NameType)
    (ruleTypes : List RuleType) : Work Repository := do
  tell (.buildStarted L.format.kind nameTypes ruleTypes)
  let (loaded, diagnostics) ← collect (loadNameType L registry ruleTypes) nameTypes
  let r : Repository := ⟨Repository.tableOf loaded, diagnostics⟩
  tell (.buildCompleted (Repository.catalogCount loaded) r.ruleCount r.diagnostics.length)
  return r

end Session

end PhoneticCatalog
