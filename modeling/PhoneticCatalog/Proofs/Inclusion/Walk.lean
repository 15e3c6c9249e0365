import PhoneticCatalog.Catalog.Walk

/-!
# Walks add up

Traces are added field by field, and the empty trace adds nothing. Walks are therefore a lawful
monad: how a run is cut into parts matters neither to its result nor to what it leaves behind.

`Walk.Alike` relates walks that differ at most in their counters and events, and `Walk.Avoids` says
that a walk does not end in an error of some kind.
-/

namespace PhoneticCatalog.Catalog

/-! ## Counters and traces -/

namespace Counters

/-- Counters are added one by one. -/
theorem add_eq (a b : Counters) :
    a + b = ⟨a.catalogs + b.catalogs, a.lines + b.lines, a.comments + b.comments,
      a.rules + b.rules, a.includes + b.includes, a.diagnostics + b.diagnostics⟩ := rfl

theorem add_empty (a : Counters) : a + ({} : Counters) = a := rfl

/-- Nothing is counted before a walk begins. -/
theorem empty_add (a : Counters) : ({} : Counters) + a = a := by
  rw [add_eq]
  simp only [Nat.zero_add]

/-- It does not matter in which order counts are added up. -/
theorem add_assoc (a b c : Counters) : a + b + c = a + (b + c) := by
  simp only [add_eq, Nat.add_assoc]

end Counters

namespace Trace

/-- A trace is what it reports, counts and opens, and the events it tells. -/
theorem ext {a b : Trace} (diagnostics : a.diagnostics = b.diagnostics)
    (counters : a.counters = b.counters) (opened : a.opened = b.opened)
    (events : a.events = b.events) : a = b := by
  cases a
  cases b
  simp_all

/-- The diagnostics of two traces in turn. -/
@[simp]
theorem diagnostics_append (a b : Trace) : (a ++ b).diagnostics = a.diagnostics ++ b.diagnostics :=
  rfl

/-- The counts of two traces add up. -/
@[simp]
theorem counters_append (a b : Trace) : (a ++ b).counters = a.counters + b.counters := rfl

/-- The catalogs opened by two traces in turn. -/
@[simp]
theorem opened_append (a b : Trace) : (a ++ b).opened = a.opened ++ b.opened := rfl

/-- The events told by two traces in turn. -/
@[simp]
theorem events_append (a b : Trace) : (a ++ b).events = a.events ++ b.events := rfl

/-- Nothing happens after the end of a walk. -/
@[simp]
theorem append_empty (t : Trace) : t ++ ({} : Trace) = t :=
  ext (List.append_nil _) (Counters.add_empty _) (List.append_nil _) (List.append_nil _)

/-- Nothing happens before a walk begins. -/
@[simp]
theorem empty_append (t : Trace) : ({} : Trace) ++ t = t :=
  ext (List.nil_append _) (Counters.empty_add _) (List.nil_append _) (List.nil_append _)

/-- Three traces in turn are one trace. -/
theorem append_assoc (a b c : Trace) : a ++ b ++ c = a ++ (b ++ c) :=
  ext (List.append_assoc _ _ _) (Counters.add_assoc _ _ _) (List.append_assoc _ _ _)
    (List.append_assoc _ _ _)

end Trace

/-! ## The monad of walks -/

namespace Walk

variable {α β γ : Type}

/-- A walk is its trace and its result. -/
theorem ext {v w : Walk α} (trace : v.trace = w.trace) (result : v.result = w.result) : v = w := by
  cases v
  cases w
  simp_all

/-- After a result the next walk goes on. -/
theorem bind_of_ok {w : Walk α} {a : α} (h : w.result = .ok a) (f : α → Walk β) :
    w >>= f = ⟨w.trace ++ (f a).trace, (f a).result⟩ := by
  change andThen w f = _
  rw [andThen, h]

/-- After an error there is no next walk. -/
theorem bind_of_error {w : Walk α} {e : LoadError} (h : w.result = .error e) (f : α → Walk β) :
    w >>= f = ⟨w.trace, .error e⟩ := by
  change andThen w f = _
  rw [andThen, h]

/-- A walk with a result has gone on from a result. -/
theorem exists_of_bind {w : Walk α} {f : α → Walk β} {b : β} (h : (w >>= f).result = .ok b) :
    ∃ a, w.result = .ok a ∧ (f a).result = .ok b := by
  cases hw : w.result with
  | error e =>
    rw [bind_of_error hw] at h
    cases h
  | ok a =>
    rw [bind_of_ok hw] at h
    exact ⟨a, rfl, h⟩

/-- Behind a failure nothing happens any more. -/
@[simp]
theorem fail_bind (e : LoadError) (f : α → Walk β) : (fail e >>= f) = fail e := rfl

/-- What is left behind stands before the trace of what follows. -/
theorem leave_bind (t : Trace) (f : Unit → Walk β) :
    (leave t >>= f) = ⟨t ++ (f ()).trace, (f ()).result⟩ := rfl

theorem pure_eq (a : α) : (pure a : Walk α) = ⟨{}, .ok a⟩ := rfl

/-- A result alone leaves no trace before what follows. -/
private theorem pure_bind' (a : α) (f : α → Walk β) : (pure a >>= f) = f a := by
  rw [bind_of_ok rfl, pure_eq, Trace.empty_append]

/-- Giving the result on leaves no trace. -/
private theorem bind_pure' (w : Walk α) : (w >>= pure) = w := by
  cases h : w.result with
  | ok a =>
    rw [bind_of_ok h, pure_eq, Trace.append_empty]
    exact ext rfl h.symm
  | error e =>
    rw [bind_of_error h]
    exact ext rfl h.symm

/-- Three walks in turn are one walk. -/
private theorem bind_assoc' (w : Walk α) (f : α → Walk β) (g : β → Walk γ) :
    (w >>= f >>= g) = (w >>= fun a => f a >>= g) := by
  cases h : w.result with
  | error e => rw [bind_of_error h, bind_of_error h, bind_of_error rfl]
  | ok a =>
    rw [bind_of_ok h, bind_of_ok h]
    cases hf : (f a).result with
    | error e => rw [bind_of_error rfl, bind_of_error hf]
    | ok b => rw [bind_of_ok rfl, bind_of_ok hf, Trace.append_assoc]

instance : LawfulMonad Walk :=
  LawfulMonad.mk' Walk (fun w => bind_pure' w) (fun a f => pure_bind' a f)
    (fun w f g => bind_assoc' w f g)

/-- What only changes the result leaves nothing behind. -/
theorem trace_bind_pure (w : Walk α) (f : α → β) : (w >>= fun a => pure (f a)).trace = w.trace := by
  cases h : w.result with
  | error e => rw [bind_of_error h]
  | ok a => rw [bind_of_ok h, pure_eq, Trace.append_empty]

/-! ## Walks that differ in their counters and events -/

/-- The walks have the same result, the same diagnostics and the same requests. -/
structure Alike (v w : Walk α) : Prop where
  result : v.result = w.result
  diagnostics : v.trace.diagnostics = w.trace.diagnostics
  opened : v.trace.opened = w.trace.opened

namespace Alike

theorem refl (w : Walk α) : Alike w w := ⟨rfl, rfl, rfl⟩

/-- Walks that look alike to a third one look alike. -/
theorem trans {u v w : Walk α} (h : Alike u v) (h' : Alike v w) : Alike u w :=
  ⟨h.result.trans h'.result, h.diagnostics.trans h'.diagnostics, h.opened.trans h'.opened⟩

/-- What comes after walks that are alike stays alike. -/
theorem bind {v w : Walk α} {f g : α → Walk β} (h : Alike v w) (hf : ∀ a, Alike (f a) (g a)) :
    Alike (v >>= f) (w >>= g) := by
  cases hw : w.result with
  | error e =>
    rw [bind_of_error (h.result.trans hw), bind_of_error hw]
    exact ⟨rfl, h.diagnostics, h.opened⟩
  | ok a =>
    rw [bind_of_ok (h.result.trans hw), bind_of_ok hw]
    refine ⟨(hf a).result, ?_, ?_⟩
    · rw [Trace.diagnostics_append, Trace.diagnostics_append, h.diagnostics, (hf a).diagnostics]
    · rw [Trace.opened_append, Trace.opened_append, h.opened, (hf a).opened]

end Alike

/-! ## Kinds of errors -/

/-- The walk does not end in an error of a kind. -/
def Avoids (kind : LoadError → Prop) (w : Walk α) : Prop := ∀ e, w.result = .error e → ¬ kind e

/-- A failure of another kind avoids the kind. -/
theorem avoids_of_error {kind : LoadError → Prop} {w : Walk α} {e : LoadError}
    (h : w.result = .error e) (he : ¬ kind e) : Avoids kind w := by
  intro e' he'
  obtain rfl := Except.error.inj (h.symm.trans he')
  exact he

/-- Two walks in turn avoid a kind of failure only if the first one does. -/
theorem Avoids.of_bind {kind : LoadError → Prop} {w : Walk α} {f : α → Walk β}
    (h : Avoids kind (w >>= f)) : Avoids kind w := by
  intro e he
  rw [bind_of_error he] at h
  exact h e rfl

/-- Two walks in turn avoid a kind of failure only if the second one does, once it is reached. -/
theorem Avoids.of_bind_ok {kind : LoadError → Prop} {w : Walk α} {f : α → Walk β} {a : α}
    (h : Avoids kind (w >>= f)) (ha : w.result = .ok a) : Avoids kind (f a) := by
  rw [bind_of_ok ha] at h
  exact h

end Walk

end PhoneticCatalog.Catalog
