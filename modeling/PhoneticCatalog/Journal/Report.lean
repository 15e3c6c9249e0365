import PhoneticCatalog.Catalog.Walk
import PhoneticCatalog.Journal.Note
import PhoneticCatalog.Text.Quoted

/-!
# Reports of builds and walks

Everything that is told while something is built carries the id of the build. A `Task` is a run of
things told and of failures, some of it inside of builds. `Task.run` carries it out: a build inside
of a build goes under the id of the outermost one, and where that one ends, well or not, no build is
under way. `Surroundings.during` is that rule for whatever is done in a build. A walk is reported by
telling its events and then failing if the walk did (`Walk.report`).
-/

namespace PhoneticCatalog

namespace Journal

/-- The id of a build. Ids are told apart by number. -/
structure BuildId where
  number : Nat
  deriving DecidableEq, Repr

/-- An id as it is written. -/
def BuildId.text (id : BuildId) : List Char := "build_".toList ++ Text.hexDigits 12 id.number

/-- What is known of builds at a moment of a run. -/
structure Surroundings where
  /-- The build that is under way. -/
  current : Option BuildId := none
  /-- The id that is put on what is told. -/
  stamp : Option BuildId := none
  /-- How many ids were given out. -/
  issued : Nat := 0
  deriving DecidableEq, Repr

/-- Does something inside of a build: the one under way or else a new one, which ends with it. -/
def Surroundings.during {β : Type} (s : Surroundings) (body : Surroundings → β × Surroundings) :
    β × Surroundings :=
  match s.current with
  | some _ => body s
  | none =>
    let id : BuildId := ⟨s.issued⟩
    let (result, after) := body ⟨some id, some id, s.issued + 1⟩
    (result, { after with current := none, stamp := none })

/-- Something to be done, where `α` is told and `ε` are failures. -/
inductive Task (ε α : Type) where
  /-- Tells something. -/
  | tell (a : α)
  /-- Fails. -/
  | fail (e : ε)
  /-- Does tasks in turn, and stops at the first failure, which goes no further. -/
  | attempt (steps : List (Task ε α))
  /-- Does tasks in turn inside of a build, and fails with the first failure. -/
  | build (steps : List (Task ε α))

/-- What a task leaves behind. -/
inductive Trail (ε α : Type) where
  /-- Something was told, in these surroundings. -/
  | told (a : α) (surroundings : Surroundings)
  /-- A failure. -/
  | failed (e : ε)
  /-- The trails of an attempt. -/
  | attempted (steps : List (Trail ε α))
  /-- The trails of a build. -/
  | built (steps : List (Trail ε α))

namespace Task

variable {ε α : Type}

instance : Inhabited (Task ε α) := ⟨attempt []⟩

mutual

/-- Carries out a task: its trail, its failure if it has one, and the surroundings afterwards. -/
def run : Task ε α → Surroundings → (Trail ε α × Option ε) × Surroundings
  | tell a, s => ((.told a s, none), s)
  | fail e, s => ((.failed e, some e), s)
  | attempt steps, s =>
    let ((trails, _), s) := runAll steps s
    ((.attempted trails, none), s)
  | build steps, s =>
    let ((trails, failure?), s) := s.during (runAll steps)
    ((.built trails, failure?), s)

/-- Carries out tasks in turn up to the first failure. -/
def runAll : List (Task ε α) → Surroundings → (List (Trail ε α) × Option ε) × Surroundings
  | [], s => (([], none), s)
  | task :: rest, s =>
    match run task s with
    | ((trail, some e), s) => (([trail], some e), s)
    | ((trail, none), s) =>
      let ((trails, failure?), s) := runAll rest s
      ((trail :: trails, failure?), s)

end

end Task

namespace Trail

variable {ε α : Type}

mutual

/-- What was told, in order, with the surroundings it was told in. -/
def notes : Trail ε α → List (α × Surroundings)
  | told a s => [(a, s)]
  | failed _ => []
  | attempted steps => allNotes steps
  | built steps => allNotes steps

/-- What was told by trails in turn. -/
def allNotes : List (Trail ε α) → List (α × Surroundings)
  | [] => []
  | trail :: rest => trail.notes ++ allNotes rest

end

end Trail

end Journal

/-- The tasks that report a walk. -/
def Catalog.Walk.report {α : Type} (w : Catalog.Walk α) :
    List (Journal.Task Catalog.LoadError Journal.Note) :=
  w.trace.events.map (fun e => .tell e.note) ++
    match w.result with
    | .ok _ => []
    | .error e => [.fail e]

end PhoneticCatalog
