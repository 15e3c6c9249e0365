import PhoneticCatalog.Proofs.Inclusion.Steps
import PhoneticCatalog.Proofs.Inclusion.Visit
import PhoneticCatalog.Session

/-!
# Loading in a session

A loader that is used in a session changes what it keeps with every line. `Session.Performs` says
that some work, inside of some open catalogs, has the result of a walk and leaves the session with
what the walk leaves behind added to it. Work that is put together from parts performs the walk of
its parts (`Performs.bind`), and a catalog that is open meanwhile is closed again, also after an
error (`Performs.whileOpen`).

A visit in a session performs the visit of the loader (`performs_visit`). Since a call clears
first what an earlier one has left, it gives what the loader gives, whatever the session was like
(`run_load`, `run_parse`).
-/

namespace PhoneticCatalog

open Catalog

namespace Session

variable {α β ρ : Type} {s : Session}

/-! ## Work in a session -/

/-- The session with all added that a trace tells. -/
def leaving (s : Session) (t : Trace) : Session :=
  { s with
    counters := s.counters + t.counters
    diagnostics := s.diagnostics ++ t.diagnostics
    opened := s.opened ++ t.opened
    events := s.events ++ t.events }

/-- A trace without anything changes nothing. -/
@[simp]
theorem leaving_empty (s : Session) : s.leaving {} = s := by
  cases s
  simp [leaving, Counters.add_empty]

/-- Two traces in turn are added one after the other. -/
theorem leaving_append (s : Session) (t u : Trace) :
    s.leaving (t ++ u) = (s.leaving t).leaving u := by
  simp [leaving, Counters.add_assoc]

theorem run_pure (a : α) : s.run (pure a) = (.ok a, s) := rfl

theorem run_throw (e : LoadError) : s.run (throw e : Work α) = (.error e, s) := rfl

theorem run_get : s.run get = (.ok s, s) := rfl

theorem run_modify (f : Session → Session) : s.run (modify f) = (.ok (), f s) := rfl

/-- Telling an event adds it to those told before. -/
theorem run_tell (event : Journal.Event) :
    s.run (tell event) = (.ok (), { s with events := s.events ++ [event] }) := rfl

/-- After a result the next work is done in the session that is left. -/
theorem run_bind_of_ok {work : Work α} {a : α} {t : Session} (h : s.run work = (.ok a, t))
    (f : α → Work β) : s.run (work >>= f) = t.run (f a) := by
  rw [run] at h
  rw [run, ExceptT.run_bind, StateT.run_bind, h]
  rfl

/-- After an error no next work is done. -/
theorem run_bind_of_error {work : Work α} {e : LoadError} {t : Session}
    (h : s.run work = (.error e, t)) (f : α → Work β) : s.run (work >>= f) = (.error e, t) := by
  rw [run] at h
  rw [run, ExceptT.run_bind, StateT.run_bind, h]
  rfl

/-- What is done in the end is done after a result and after an error. -/
theorem run_finally (work : Work α) (f : Session → Session) :
    s.run (do try work finally modify f) = ((s.run work).1, f (s.run work).2) := by
  cases h : s.run work with
  | mk result t =>
    have hwork : work s = (result, t) := h
    simp only [run, tryFinally, tryFinally', ExceptT.run_map, StateT.run_map, ExceptT.run_mk,
      StateT.run_bind]
    cases result <;> simp only [StateT.run, hwork] <;> rfl

/-! ## Work that performs a walk -/

/-- Inside of some open catalogs the work has the result of the walk, and leaves the session with
the trace of the walk added to it. -/
def Performs (stack : List (List Char)) (work : Work α) (w : Walk α) : Prop :=
  ∀ s : Session, s.stack = stack → s.run work = (w.result, s.leaving w.trace)

namespace Performs

variable {stack : List (List Char)} {work : Work α} {w : Walk α}

/-- A mere result performs the walk of that result. -/
theorem pure (a : α) : Performs stack (pure a) (pure a) := by
  intro s _
  rw [run_pure, Walk.pure_eq, leaving_empty]

/-- An error performs the walk that fails with it. -/
theorem fail (e : LoadError) : Performs stack (throw e : Work α) (Walk.fail e) := by
  intro s _
  rw [run_throw, Walk.fail, leaving_empty]

/-- What is done next goes on where the walk goes on. -/
theorem bind {f : α → Work β} {g : α → Walk β} (h : Performs stack work w)
    (hf : ∀ a, Performs stack (f a) (g a)) : Performs stack (work >>= f) (w >>= g) := by
  intro s hs
  have hrun := h s hs
  cases hw : w.result with
  | error e =>
    rw [hw] at hrun
    rw [run_bind_of_error hrun, Walk.bind_of_error hw]
  | ok a =>
    rw [hw] at hrun
    rw [run_bind_of_ok hrun, Walk.bind_of_ok hw, leaving_append]
    exact hf a _ hs

/-- What is added to a session is what a walk leaves behind. -/
theorem leave {f : Session → Session} {t : Trace} (h : ∀ s, f s = s.leaving t) :
    Performs stack (modify f) (Walk.leave t) := by
  intro s _
  rw [run_modify, h, Walk.leave]

/-- Counting performs a walk that counts the same. -/
theorem count (counters : Counters) :
    Performs stack (Session.count counters) (Walk.leave { counters }) :=
  .leave fun s => by simp [leaving]

/-- Telling an event performs a walk that tells it. -/
theorem tell (event : Journal.Event) :
    Performs stack (Session.tell event) (Walk.leave { events := [event] }) :=
  .leave fun s => by simp [leaving, Counters.add_empty]

/-- A catalog that is open meanwhile is closed again. -/
theorem whileOpen {name : List Char} (h : Performs (stack ++ [name]) work w) :
    Performs stack (Session.whileOpen name work) w := by
  intro s hs
  have hopen : run { s with stack := s.stack ++ [name] } work =
      (w.result, leaving { s with stack := s.stack ++ [name] } w.trace) :=
    h _ (congrArg (· ++ [name]) hs)
  have hclose : (s.stack ++ [name]).dropLast = s.stack := List.dropLast_concat
  rw [Session.whileOpen, run_bind_of_ok (run_modify _), run_finally, hopen]
  simp only [leaving, hclose]

end Performs

/-! ## Visits -/

section Visit

variable {L : Loader ρ} {stack : List (List Char)}

/-- Asking a source adds the request and the events of the source, whether it succeeds or not. -/
theorem run_ask (s : Session) (source : Source) (name : List Char) :
    s.run (ask source name) =
      ((source.read name).result.mapError (.notOpened name),
        s.leaving { opened := [name], events := (source.read name).events }) := by
  rw [ask, run_bind_of_ok (run_modify _)]
  cases (source.read name).result <;> simp only [leaving, Counters.add_empty, List.append_nil] <;>
    rfl

/-- Asking a source performs the opening of the catalog. -/
theorem performs_openCatalog (L : Loader ρ) (name : List Char) :
    Performs stack (ask L.source name) (L.openCatalog name) :=
  fun s _ => run_ask s L.source name

/-- A step performs that of the loader if the visits of included catalogs do. -/
theorem performs_runStep {splice : List Char → Work (List ρ)} {splice' : List Char → Walk (List ρ)}
    (h : ∀ b, Performs stack (splice b) (splice' b)) (step : Step ρ) :
    Performs stack (runStep L splice step) (L.runStep splice' step) := by
  cases step with
  | tally lines comments => exact .bind (.count _) fun _ => .pure []
  | rule r => exact .pure [r]
  | splice b => exact .bind (.count _) fun _ => h b
  | skip d =>
    have hskip : L.runStep splice' (.skip d) = Walk.leave { diagnostics := [d] } >>= fun _ =>
        Walk.leave { events := [.lineSkipped L.format.kind d] } >>= fun _ => pure [] := rfl
    rw [hskip]
    refine .bind (.leave fun s => ?_) fun _ => .bind (.tell _) fun _ => .pure []
    simp only [leaving, Counters.add_empty, List.append_nil]
  | abort e => exact .fail e

/-- Steps perform those of the loader if the visits of included catalogs do. -/
theorem performs_runSteps {splice : List Char → Work (List ρ)}
    {splice' : List Char → Walk (List ρ)} (h : ∀ b, Performs stack (splice b) (splice' b))
    (steps : List (Step ρ)) :
    Performs stack (runSteps L splice steps) (L.runSteps splice' steps) := by
  induction steps with
  | nil => exact .pure []
  | cons step rest ih =>
    rw [Loader.runSteps_cons]
    exact .bind (performs_runStep h step) fun first => .bind ih fun others => .pure _

/-- A visit checks the open catalogs first, then opens the catalog and carries out its steps. -/
theorem visit_eq (levels : Nat) (name : List Char) :
    visit L levels name = (do
      let stack := (← get).stack
      if name ∈ stack then throw (.cycle (stack ++ [name]))
      if L.maxDepth ≤ stack.length then throw (.tooDeep name L.maxDepth)
      match levels with
      | 0 => throw (.tooDeep name L.maxDepth)
      | levels + 1 => do
        let text ← ask L.source name
        count { catalogs := 1 }
        whileOpen name (runSteps L (visit L levels) (L.format.steps name text))) := by
  cases levels <;> rfl

/-- Before anything is opened, a visit looks at the catalogs that the session has open. -/
theorem run_visit_of_mem {levels : Nat} {name : List Char} (h : name ∈ s.stack) :
    s.run (visit L levels name) = (.error (.cycle (s.stack ++ [name])), s) := by
  rw [visit_eq]
  simp only [run_bind_of_ok run_get]
  rw [if_pos h]
  rfl

/-- Where no more catalogs may be open the visit fails, and leaves the session as it is. -/
theorem run_visit_of_full {levels : Nat} {name : List Char} (h : name ∉ s.stack)
    (hfull : L.maxDepth ≤ s.stack.length) :
    s.run (visit L levels name) = (.error (.tooDeep name L.maxDepth), s) := by
  rw [visit_eq]
  simp only [run_bind_of_ok run_get]
  rw [if_neg h, if_pos hfull]
  rfl

/-- Where there is room the catalog is opened, and closed again after its steps. -/
theorem run_visit_of_room {levels : Nat} {name : List Char} (h : name ∉ s.stack)
    (hroom : s.stack.length < L.maxDepth) :
    s.run (visit L (levels + 1) name) =
      s.run (ask L.source name >>= fun text => count { catalogs := 1 } >>= fun _ =>
        whileOpen name (runSteps L (visit L levels) (L.format.steps name text))) := by
  rw [visit_eq]
  simp only [run_bind_of_ok run_get]
  rw [if_neg h, if_neg (Nat.not_le.2 hroom)]

/-- A visit that is refused is refused in the session as well, for the same reason. -/
theorem performs_visit_of_refused {levels room : Nat} {name : List Char}
    (hroom : stack.length + room = L.maxDepth) (h : name ∈ stack ∨ room = 0) :
    Performs stack (visit L levels name) (L.visit room stack name) := by
  rintro s rfl
  by_cases hmem : name ∈ s.stack
  · rw [run_visit_of_mem hmem, L.visit_of_mem hmem, Walk.fail, leaving_empty]
  · obtain rfl := h.resolve_left hmem
    rw [run_visit_of_full hmem (by omega), L.visit_zero hmem, Walk.fail, leaving_empty]

/-- A visit in a session performs the visit of the loader, with as much room as is left. -/
theorem performs_visit {levels room : Nat} (hlevels : room ≤ levels)
    (hroom : stack.length + room = L.maxDepth) (name : List Char) :
    Performs stack (visit L levels name) (L.visit room stack name) := by
  -- The room is what the loader allows; the levels only bound the recursion and are never fewer.
  induction levels generalizing room stack name with
  | zero => exact performs_visit_of_refused hroom (Or.inr (by omega))
  | succ levels ih =>
    by_cases hrefused : name ∈ stack ∨ room = 0
    · exact performs_visit_of_refused hroom hrefused
    obtain ⟨hmem, hpos⟩ := not_or.1 hrefused
    obtain ⟨room, rfl⟩ := Nat.exists_eq_succ_of_ne_zero hpos
    have hincluded : ∀ b, Performs (stack ++ [name]) (visit L levels b)
        (L.visit room (stack ++ [name]) b) := by
      refine fun b => ih (by omega) ?_ b
      rw [List.length_append, List.length_singleton]
      omega
    have hwork : Performs stack
        (ask L.source name >>= fun text => count { catalogs := 1 } >>= fun _ =>
          whileOpen name (runSteps L (visit L levels) (L.format.steps name text)))
        (L.visit (room + 1) stack name) := by
      rw [L.visit_succ hmem]
      exact .bind (performs_openCatalog L name) fun text => .bind (.count _) fun _ =>
        .whileOpen (performs_runSteps hincluded _)
    intro s hs
    subst hs
    rw [run_visit_of_room hmem (by omega), hwork s rfl]

end Visit

/-! ## Calls -/

section Call

variable (L : Loader ρ) (s : Session)

/-- The session in which a loader has cleared what it keeps. -/
def cleared (s : Session) : Session := { s with stack := [], counters := {}, diagnostics := [] }

/-- A cleared session keeps what a trace tells, and nothing else. -/
theorem leaving_cleared (t : Trace) :
    s.cleared.leaving t =
      { s.cleared with
        counters := t.counters
        diagnostics := t.diagnostics
        opened := s.opened ++ t.opened
        events := s.events ++ t.events } := by
  simp only [leaving, cleared, Counters.empty_add, List.nil_append]

/-- The end of a call tells what the session has counted since it was cleared. -/
theorem run_finish (name : List Char) {work : Work (List ρ)} {w : Walk (List ρ)}
    (h : Performs [] work w) :
    s.cleared.run (work >>= finish L name) =
      ((L.finish name w).result, s.cleared.leaving (L.finish name w).trace) := by
  have hrun := h s.cleared rfl
  cases hw : w.result with
  | error e =>
    rw [hw] at hrun
    rw [run_bind_of_error hrun, Loader.finish, hw]
    simp only [hw]
  | ok rules =>
    rw [hw] at hrun
    rw [run_bind_of_ok hrun, finish, run_bind_of_ok run_get, Loader.finish, hw, leaving_cleared,
      leaving_cleared]
    simp only [← List.append_assoc]
    rfl

/-- A load in a session gives what the loader gives, whatever the session was like. -/
theorem run_load (name : List Char) :
    s.run (load L name) = ((L.load name).result, s.cleared.leaving (L.load name).trace) := by
  rw [load, reset, run_bind_of_ok (run_modify _)]
  exact run_finish L s name (performs_visit le_rfl (Nat.zero_add _) name)

/-- A parse in a session gives what the loader gives, whatever the session was like. -/
theorem run_parse (text name : List Char) :
    s.run (parse L text name) =
      ((L.parse text name).result, s.cleared.leaving (L.parse text name).trace) := by
  rw [parse, reset, run_bind_of_ok (run_modify _)]
  -- The text that is parsed takes up one level itself.
  have hpos := L.maxDepth_pos
  have hroom : ([] ++ [name]).length + (L.maxDepth - 1) = L.maxDepth := by
    rw [List.nil_append, List.length_singleton]
    omega
  refine run_finish L s name (.whileOpen (.bind (.count _) fun _ => ?_))
  exact performs_runSteps (performs_visit (Nat.sub_le _ _) hroom) _

end Call

end Session

end PhoneticCatalog
