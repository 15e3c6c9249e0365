import PhoneticCatalog.Catalog.Walk

/-!
# Loading catalogs

A format turns the text of a catalog into steps: rules, includes of other catalogs, skipped lines
and, possibly, an error that ends the load. A `Loader` carries these steps out. An include is
replaced by the rules of the catalog it names, which is read in turn; `visit` does so with the names
of the open catalogs at hand, innermost last. A catalog that is open already is a cycle, and no more
catalogs may be open at once than `maxDepth` allows. The number of further catalogs that may be
opened is what the recursion runs on, so that a load ends for every source.
-/

namespace PhoneticCatalog.Catalog

/-- One step of reading a catalog, for rules of type `ρ`. -/
inductive Step (ρ : Type) where
  /-- Lines were read, some of them comments. -/
  | tally (lines comments : Nat)
  /-- A rule. -/
  | rule (r : ρ)
  /-- The rules of another catalog. -/
  | splice (name : List Char)
  /-- A line is skipped. -/
  | skip (d : Diagnostic)
  /-- The text cannot be understood from here on. -/
  | abort (e : LoadError)

/-- The step of a rule that is written with some fields at a place of a catalog. -/
def Step.ofFields (catalog : List Char) (place : RulePlace) (fields : RuleFields) : Step Rule :=
  match Rule.ofFields fields with
  | .ok r => .rule r
  | .error e => .abort (.ofContext catalog place e)

/-- A way to write catalogs. -/
structure Format (ρ : Type) where
  kind : Journal.LoaderKind
  steps : (catalog text : List Char) → List (Step ρ)

/-- A format, the source it is read from, and how many catalogs may be open at once. -/
structure Loader (ρ : Type) where
  format : Format ρ
  source : Source
  maxDepth : Nat
  maxDepth_pos : 0 < maxDepth

/-- The depth that a loader gets where none is asked for. -/
def defaultMaxDepth : Nat := 32

/-- The depth asked for does not allow a single catalog. -/
structure DepthError where
  depth : Int
  deriving DecidableEq, Repr

/-- The wording of a depth error. -/
def DepthError.message (_ : DepthError) : String := "max_include_depth must be positive"

namespace Loader

variable {ρ : Type}

/-- The loader with a depth, which has to be positive. -/
def ofDepth (format : Format ρ) (source : Source) (depth : Int) : Except DepthError (Loader ρ) :=
  if h : 0 < depth then .ok ⟨format, source, depth.toNat, by omega⟩
  else .error ⟨depth⟩

/-- Asks the source for a catalog. -/
def openCatalog (L : Loader ρ) (name : List Char) : Walk (List Char) :=
  let reading := L.source.read name
  ⟨{ opened := [name], events := reading.events },
   reading.result.mapError (.notOpened name)⟩

/-- Carries out the steps of a catalog, where `splice` reads an included one. -/
def runSteps (L : Loader ρ) (splice : List Char → Walk (List ρ)) : List (Step ρ) → Walk (List ρ)
  | [] => pure []
  | .tally lines comments :: rest => do
    Walk.leave { counters := { lines, comments } }
    runSteps L splice rest
  | .rule r :: rest => do
    let rules ← runSteps L splice rest
    return r :: rules
  | .splice name :: rest => do
    Walk.leave { counters := { includes := 1 } }
    let included ← splice name
    let rules ← runSteps L splice rest
    return included ++ rules
  | .skip d :: rest => do
    Walk.leave { diagnostics := [d], events := [.lineSkipped L.format.kind d] }
    runSteps L splice rest
  | .abort e :: _ => Walk.fail e

/-- Reads a catalog inside of the open ones of `stack`, with `room` more that may be opened. -/
def visit (L : Loader ρ) : (room : Nat) → (stack : List (List Char)) → List Char → Walk (List ρ)
  | room, stack, name =>
    if name ∈ stack then Walk.fail (.cycle (stack ++ [name]))
    else
      match room with
      | 0 => Walk.fail (.tooDeep name L.maxDepth)
      | room + 1 => do
        let text ← L.openCatalog name
        Walk.leave { counters := { catalogs := 1 } }
        L.runSteps (visit L room (stack ++ [name])) (L.format.steps name text)

/-- Completes the counters of a load that came to its end, and tells about it. -/
def finish (L : Loader ρ) (name : List Char) (w : Walk (List ρ)) : Walk (List ρ) :=
  match w.result with
  | .ok rules =>
    let counters :=
      { w.trace.counters with
        rules := rules.length
        diagnostics := w.trace.diagnostics.length }
    ⟨{ w.trace with
        counters
        events := w.trace.events ++ [.catalogLoaded L.format.kind name counters] },
     .ok rules⟩
  | .error _ => w

/-- The rules of a catalog and of all catalogs it includes, in the order of the texts. -/
def load (L : Loader ρ) (name : List Char) : Walk (List ρ) :=
  L.finish name (L.visit L.maxDepth [] name)

/-- The rules of a text that stands for a catalog of the given name. Includes are read from the
source. -/
def parse (L : Loader ρ) (text name : List Char) : Walk (List ρ) :=
  L.finish name do
    Walk.leave { counters := { catalogs := 1 } }
    L.runSteps (L.visit (L.maxDepth - 1) [name]) (L.format.steps name text)

end Loader

end PhoneticCatalog.Catalog
