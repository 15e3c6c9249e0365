import PhoneticCatalog.Catalog.Source

/-!
# What a run leaves behind

Reading catalogs produces a result or an error, and leaves a `Trace` in either case: the
diagnostics, the counters, the names that were asked of the source and the events, each in order. A
`Walk` is a result with its trace; one walk after the other adds up their traces, up to the first
error.
-/

namespace PhoneticCatalog.Catalog

/-- What a run leaves behind. -/
structure Trace where
  diagnostics : List Diagnostic := []
  counters : Counters := {}
  opened : List (List Char) := []
  events : List Journal.Event := []

/-- One trace after the other. -/
instance : Append Trace where
  append a b :=
    ⟨a.diagnostics ++ b.diagnostics, a.counters + b.counters, a.opened ++ b.opened,
     a.events ++ b.events⟩

/-- A result or an error, and the trace of getting there. -/
structure Walk (α : Type) where
  trace : Trace
  result : Except LoadError α

namespace Walk

/-- A result without a trace. -/
def done {α : Type} (a : α) : Walk α := ⟨{}, .ok a⟩

/-- An error without a trace. -/
def fail {α : Type} (e : LoadError) : Walk α := ⟨{}, .error e⟩

/-- A trace without a result of its own. -/
def leave (t : Trace) : Walk Unit := ⟨t, .ok ()⟩

/-- A walk and then another one that depends on its result. After an error there is no other one. -/
def andThen {α β : Type} (w : Walk α) (f : α → Walk β) : Walk β :=
  match w.result with
  | .ok a =>
    let next := f a
    ⟨w.trace ++ next.trace, next.result⟩
  | .error e => ⟨w.trace, .error e⟩

instance : Monad Walk where
  pure := done
  bind := andThen

end Walk

end PhoneticCatalog.Catalog
