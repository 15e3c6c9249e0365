import Mathlib.Computability.StateTransition
import PhoneticCatalog.Proofs.Inclusion.Visit

/-!
# Loads moment by moment

A load can be watched while it runs. A `Moment` holds the catalogs that are open, innermost first,
each with the steps that are left of its text, and what the loader is about to do. `Loader.next`
goes on from one moment to the next: it opens a catalog, carries out one step of the innermost one,
closes it at its end, or, after an error, closes all of them one by one.

`Loader.resume` is the walk that is left at a moment. It consists of visits inside of the catalogs
that are open at that moment. No move changes it (`resume_next`), so that a run through the moments
ends with what the load gives (`resume_of_next_eq_none`).
-/

namespace PhoneticCatalog.Catalog

open StateTransition

/-- A catalog that is open, and the steps that are left of its text. -/
structure Frame (ρ : Type) where
  name : List Char
  rest : List (Step ρ)

/-- What a loader is about to do. -/
inductive Phase where
  /-- A catalog is to be opened. -/
  | enter (name : List Char)
  /-- The innermost open catalog is to be read on. -/
  | read
  /-- The open catalogs are to be closed because of an error. -/
  | raise (e : LoadError)

/-- A load at some moment: the open catalogs, innermost first, what comes next, and what was left
behind and collected so far. -/
structure Moment (ρ : Type) where
  frames : List (Frame ρ)
  phase : Phase
  trace : Trace
  rules : List ρ

/-- The names of open catalogs, outermost first. -/
def openNames {ρ : Type} (frames : List (Frame ρ)) : List (List Char) :=
  (frames.map Frame.name).reverse

/-- The innermost open catalog is the last one by name. -/
@[simp]
theorem openNames_cons {ρ : Type} (f : Frame ρ) (below : List (Frame ρ)) :
    openNames (f :: below) = openNames below ++ [f.name] := by
  simp [openNames]

/-- Every open catalog has a name. -/
@[simp]
theorem length_openNames {ρ : Type} (frames : List (Frame ρ)) :
    (openNames frames).length = frames.length := by
  simp [openNames]

namespace Moment

variable {ρ : Type}

/-- The names of the catalogs that are open, outermost first. -/
def stack (m : Moment ρ) : List (List Char) := openNames m.frames

/-- The result of a run that stops at this moment. -/
def result (m : Moment ρ) : Except LoadError (List ρ) :=
  match m.phase with
  | .raise e => .error e
  | _ => .ok m.rules

/-- What a run that stops at this moment gives and leaves behind. -/
def walk (m : Moment ρ) : Walk (List ρ) := ⟨m.trace, m.result⟩

end Moment

namespace Loader

variable {ρ : Type} (L : Loader ρ)

/-- The moment after a step of the innermost open catalog. -/
def carryOut (m : Moment ρ) : Step ρ → Moment ρ
  | .tally lines comments => { m with trace := m.trace ++ { counters := { lines, comments } } }
  | .rule r => { m with rules := m.rules ++ [r] }
  | .splice name =>
    { m with phase := .enter name, trace := m.trace ++ { counters := { includes := 1 } } }
  | .skip d =>
    { m with
      trace := m.trace ++ { diagnostics := [d], events := [.lineSkipped L.format.kind d] } }
  | .abort e => { m with phase := .raise e }

/-- The moment after a catalog was to be opened. It is refused if it is open already, or if as many
are open as allowed. -/
def enter (m : Moment ρ) (name : List Char) : Moment ρ :=
  if m.stack.contains name then { m with phase := .raise (.cycle (m.stack ++ [name])) }
  else if L.maxDepth ≤ m.stack.length then { m with phase := .raise (.tooDeep name L.maxDepth) }
  else
    let answer := L.openCatalog name
    match answer.result with
    | .error e => { m with phase := .raise e, trace := m.trace ++ answer.trace }
    | .ok text =>
      { m with
        frames := ⟨name, L.format.steps name text⟩ :: m.frames
        phase := .read
        trace := m.trace ++ answer.trace ++ { counters := { catalogs := 1 } } }

/-- The next moment of a load, if it is not over. -/
def next (m : Moment ρ) : Option (Moment ρ) :=
  match m.phase with
  | .enter name => some (L.enter m name)
  | .read =>
    match m.frames with
    | [] => none
    | ⟨_, []⟩ :: below => some { m with frames := below }
    | ⟨name, step :: rest⟩ :: below =>
      some (L.carryOut { m with frames := ⟨name, rest⟩ :: below } step)
  | .raise _ =>
    match m.frames with
    | [] => none
    | _ :: below => some { m with frames := below }

/-! ## One move -/

variable {L}

section Enter

variable {frames : List (Frame ρ)} {phase : Phase} {t : Trace} {rs : List ρ} {name : List Char}

/-- An open catalog is not entered again: the circle is raised. -/
theorem enter_of_mem (h : name ∈ openNames frames) :
    L.enter ⟨frames, phase, t, rs⟩ name =
      ⟨frames, .raise (.cycle (openNames frames ++ [name])), t, rs⟩ :=
  if_pos (List.contains_iff_mem.2 h)

/-- A catalog that is not open is not found among the open ones. -/
private theorem not_contains (h : name ∉ openNames frames) :
    ¬ (openNames frames).contains name = true := fun hmem => h (List.contains_iff_mem.1 hmem)

/-- Where no more catalogs may be open, none is entered. -/
theorem enter_of_full (h : name ∉ openNames frames)
    (hfull : L.maxDepth ≤ (openNames frames).length) :
    L.enter ⟨frames, phase, t, rs⟩ name = ⟨frames, .raise (.tooDeep name L.maxDepth), t, rs⟩ :=
  (if_neg (not_contains h)).trans (if_pos hfull)

/-- A catalog that cannot be opened is asked for, and its error is raised. -/
theorem enter_of_error {e : LoadError} (h : name ∉ openNames frames)
    (hroom : (openNames frames).length < L.maxDepth)
    (hopen : (L.openCatalog name).result = .error e) :
    L.enter ⟨frames, phase, t, rs⟩ name =
      ⟨frames, .raise e, t ++ (L.openCatalog name).trace, rs⟩ := by
  refine (if_neg (not_contains h)).trans ((if_neg (Nat.not_le.2 hroom)).trans ?_)
  simp only [hopen]

/-- A catalog that can be opened is open from then on, with all its steps ahead. -/
theorem enter_of_ok {text : List Char} (h : name ∉ openNames frames)
    (hroom : (openNames frames).length < L.maxDepth)
    (hopen : (L.openCatalog name).result = .ok text) :
    L.enter ⟨frames, phase, t, rs⟩ name =
      ⟨⟨name, L.format.steps name text⟩ :: frames, .read,
        t ++ (L.openCatalog name).trace ++ { counters := { catalogs := 1 } }, rs⟩ := by
  refine (if_neg (not_contains h)).trans ((if_neg (Nat.not_le.2 hroom)).trans ?_)
  simp only [hopen]

variable (L frames phase t rs name) in
/-- All that can happen to a catalog that is to be opened: it is refused, or it becomes the
innermost one. -/
theorem enter_cases :
    (∃ e t', L.enter ⟨frames, phase, t, rs⟩ name = ⟨frames, .raise e, t', rs⟩) ∨
    (name ∉ openNames frames ∧ (openNames frames).length < L.maxDepth ∧
      ∃ text t', (L.source.read name).result = .ok text ∧
        L.enter ⟨frames, phase, t, rs⟩ name =
          ⟨⟨name, L.format.steps name text⟩ :: frames, .read, t', rs⟩) := by
  by_cases hmem : name ∈ openNames frames
  · exact Or.inl ⟨_, _, enter_of_mem hmem⟩
  by_cases hfull : L.maxDepth ≤ (openNames frames).length
  · exact Or.inl ⟨_, _, enter_of_full hmem hfull⟩
  have hroom : (openNames frames).length < L.maxDepth := Nat.not_le.1 hfull
  cases hread : (L.source.read name).result with
  | error fault =>
    exact Or.inl ⟨_, _, enter_of_error hmem hroom (L.openCatalog_of_fault hread)⟩
  | ok text =>
    exact Or.inr ⟨hmem, hroom, text, _, rfl,
      enter_of_ok hmem hroom (L.openCatalog_of_read hread)⟩

end Enter

/-- A moment before a catalog is entered is followed by entering it. -/
theorem next_of_enter {m : Moment ρ} {name : List Char} (h : m.phase = .enter name) :
    L.next m = some (L.enter m name) := by
  rw [next, h]

/-- All that can happen in one move. -/
theorem next_cases {m m' : Moment ρ} (h : L.next m = some m') :
    (∃ name, m.phase = .enter name ∧ m' = L.enter m name) ∨
    (∃ f step rest below, m.phase = .read ∧ m.frames = f :: below ∧ f.rest = step :: rest ∧
      m' = L.carryOut { m with frames := ⟨f.name, rest⟩ :: below } step) ∨
    (∃ f below, m.frames = f :: below ∧ m' = { m with frames := below } ∧
      (m.phase = .read ∧ f.rest = [] ∨ ∃ e, m.phase = .raise e)) := by
  obtain ⟨frames, phase, trace, rules⟩ := m
  -- One case for each phase; a catalog that is being read has steps left, or is closed.
  cases phase with
  | enter name =>
    refine Or.inl ⟨name, rfl, ?_⟩
    exact (Option.some.inj h).symm
  | read =>
    match frames, h with
    | ⟨name, []⟩ :: below, h =>
      refine Or.inr (Or.inr ⟨_, below, rfl, ?_, Or.inl ⟨rfl, rfl⟩⟩)
      exact (Option.some.inj h).symm
    | ⟨name, step :: rest⟩ :: below, h =>
      refine Or.inr (Or.inl ⟨⟨name, step :: rest⟩, step, rest, below, rfl, rfl, rfl, ?_⟩)
      exact (Option.some.inj h).symm
  | raise e =>
    match frames, h with
    | f :: below, h =>
      refine Or.inr (Or.inr ⟨f, below, rfl, ?_, Or.inr ⟨e, rfl⟩⟩)
      exact (Option.some.inj h).symm

/-- A load is over when no catalog is open and none is to be opened. -/
theorem next_eq_none {m : Moment ρ} :
    L.next m = none ↔ m.frames = [] ∧ ∀ name, m.phase ≠ .enter name := by
  obtain ⟨frames, phase, trace, rules⟩ := m
  cases phase with
  | enter name =>
    rw [next_of_enter rfl]
    exact iff_of_false nofun fun h => h.2 name rfl
  | read =>
    match frames with
    | [] => exact iff_of_true rfl ⟨rfl, nofun⟩
    | ⟨name, []⟩ :: below => exact iff_of_false nofun fun h => nomatch h.1
    | ⟨name, step :: rest⟩ :: below => exact iff_of_false nofun fun h => nomatch h.1
  | raise e =>
    match frames with
    | [] => exact iff_of_true rfl ⟨rfl, nofun⟩
    | f :: below => exact iff_of_false nofun fun h => nomatch h.1

/-! ## What is left to do -/

variable (L)

/-- The walk through what is left of open catalogs, the innermost one first. -/
def readOn : List (Frame ρ) → Walk (List ρ)
  | [] => pure []
  | f :: below => do
    let room := L.maxDepth - (f :: below).length
    let rules ← L.runSteps (L.visit room (openNames (f :: below))) f.rest
    let others ← readOn below
    return rules ++ others

/-- The walk that is left at a moment. -/
def resume (m : Moment ρ) : Walk (List ρ) := do
  Walk.leave m.trace
  match m.phase with
  | .enter name => do
    let rules ← L.visit (L.maxDepth - m.frames.length) m.stack name
    let others ← L.readOn m.frames
    return m.rules ++ (rules ++ others)
  | .read => do
    let others ← L.readOn m.frames
    return m.rules ++ others
  | .raise e => Walk.fail e

variable {L}

/-! ## No move changes what is left to do -/

/-- Two traces left behind in turn are left behind as one. -/
private theorem leave_append (t t' : Trace) :
    Walk.leave (t ++ t') = Walk.leave t >>= fun _ => Walk.leave t' := rfl

/-- A failure keeps the trace that was left behind before. -/
private theorem leave_fail (t : Trace) (e : LoadError) :
    (Walk.leave t >>= fun _ => Walk.fail (α := List ρ) e) = ⟨t, .error e⟩ := by
  rw [Walk.leave_bind]
  show Walk.mk (t ++ {}) (Except.error e) = _
  rw [Trace.append_empty]

/-- Before a catalog is entered what is left is a visit of it and the rest of the open catalogs. -/
theorem resume_enter (frames : List (Frame ρ)) (name : List Char) (t : Trace) (rs : List ρ) :
    L.resume ⟨frames, .enter name, t, rs⟩ = do
      Walk.leave t
      let rules ← L.visit (L.maxDepth - frames.length) (openNames frames) name
      let others ← L.readOn frames
      return rs ++ (rules ++ others) := rfl

/-- While catalogs are read what is left is the rest of them. -/
theorem resume_read (frames : List (Frame ρ)) (t : Trace) (rs : List ρ) :
    L.resume ⟨frames, .read, t, rs⟩ = do
      Walk.leave t
      let others ← L.readOn frames
      return rs ++ others := rfl

/-- Once an error is raised nothing is left to be done. -/
theorem resume_raise (frames : List (Frame ρ)) (e : LoadError) (t : Trace) (rs : List ρ) :
    L.resume ⟨frames, .raise e, t, rs⟩ = ⟨t, .error e⟩ := leave_fail t e

/-- The steps of the innermost catalog come first. -/
theorem readOn_cons (name : List Char) (rest : List (Step ρ)) (below : List (Frame ρ)) :
    L.readOn (⟨name, rest⟩ :: below) = do
      let rules ← L.runSteps
        (L.visit (L.maxDepth - (below.length + 1)) (openNames below ++ [name])) rest
      let others ← L.readOn below
      return rules ++ others := by
  rw [readOn, openNames_cons, List.length_cons]

/-- Opening a catalog, or refusing to, changes nothing of what is left to do. -/
theorem resume_of_enter (frames : List (Frame ρ)) (name : List Char) (t : Trace) (rs : List ρ) :
    L.resume (L.enter ⟨frames, .enter name, t, rs⟩ name) =
      L.resume ⟨frames, .enter name, t, rs⟩ := by
  rw [resume_enter]
  by_cases hmem : name ∈ openNames frames
  · rw [visit_of_mem L hmem, Walk.fail_bind, leave_fail, enter_of_mem hmem, resume_raise]
  have hlength : (openNames frames).length = frames.length := length_openNames frames
  by_cases hfull : L.maxDepth ≤ (openNames frames).length
  · have hroom : L.maxDepth - frames.length = 0 := by omega
    rw [hroom, visit_zero L hmem, Walk.fail_bind, leave_fail, enter_of_full hmem hfull,
      resume_raise]
  have hlt : (openNames frames).length < L.maxDepth := Nat.not_le.1 hfull
  have hroom : L.maxDepth - frames.length = L.maxDepth - (frames.length + 1) + 1 := by omega
  rw [hroom, visit_succ L hmem]
  cases hopen : (L.openCatalog name).result with
  | error e =>
    rw [Walk.bind_of_error hopen, enter_of_error hmem hlt hopen, resume_raise]
    rfl
  | ok text =>
    rw [enter_of_ok hmem hlt hopen, resume_read, readOn_cons, Trace.append_assoc, leave_append t,
      leave_append]
    -- What was left behind by opening the catalog now belongs to the past of the run.
    have hanswer : ∀ f : List Char → Walk (List ρ),
        L.openCatalog name >>= f = Walk.leave (L.openCatalog name).trace >>= fun _ => f text :=
      fun f => by rw [Walk.bind_of_ok hopen, Walk.leave_bind]
    rw [hanswer]
    simp only [bind_assoc, pure_bind]

/-- A step of the innermost catalog changes nothing of what is left to do. -/
theorem resume_of_step (name : List Char) (step : Step ρ) (rest : List (Step ρ))
    (below : List (Frame ρ)) (t : Trace) (rs : List ρ) :
    L.resume (L.carryOut ⟨⟨name, rest⟩ :: below, .read, t, rs⟩ step) =
      L.resume ⟨⟨name, step :: rest⟩ :: below, .read, t, rs⟩ := by
  rw [resume_read, readOn_cons, runSteps_cons]
  -- Carrying out a step now is what the rest of the run would start with.
  cases step with
  | tally lines comments =>
    rw [carryOut, resume_read, readOn_cons, leave_append, runStep]
    simp only [bind_assoc, pure_bind, List.nil_append]
  | rule r =>
    rw [carryOut, resume_read, readOn_cons, runStep]
    simp only [bind_assoc, pure_bind, List.append_assoc, List.cons_append]
  | splice b =>
    rw [carryOut, resume_enter, readOn_cons, leave_append, runStep, openNames_cons,
      List.length_cons]
    simp only [bind_assoc, pure_bind, List.append_assoc]
  | skip d =>
    rw [carryOut, resume_read, readOn_cons, leave_append, runStep]
    simp only [bind_assoc, pure_bind, List.nil_append]
  | abort e =>
    rw [carryOut, resume_raise, runStep, Walk.fail_bind, Walk.fail_bind, Walk.fail_bind,
      leave_fail]

/-- No move changes what is left to do. -/
theorem resume_next {m m' : Moment ρ} (h : L.next m = some m') : L.resume m' = L.resume m := by
  obtain ⟨frames, phase, t, rs⟩ := m
  rcases next_cases h with ⟨name, rfl, rfl⟩ |
    ⟨⟨name, steps⟩, step, rest, below, rfl, rfl, rfl, rfl⟩ |
    ⟨⟨name, steps⟩, below, rfl, rfl, hend⟩
  · exact resume_of_enter frames name t rs
  · exact resume_of_step name step rest below t rs
  · rcases hend with ⟨rfl, rfl⟩ | ⟨e, rfl⟩
    · rw [resume_read, resume_read, readOn_cons, runSteps]
      simp only [pure_bind, List.nil_append, bind_pure]
    · rw [resume_raise, resume_raise]

/-- At the end nothing is left to do. -/
theorem resume_of_next_eq_none {m : Moment ρ} (h : L.next m = none) : L.resume m = m.walk := by
  obtain ⟨frames, phase, t, rs⟩ := m
  obtain ⟨rfl, hphase⟩ := next_eq_none.1 h
  cases phase with
  | enter name => exact absurd rfl (hphase name)
  | read =>
    rw [resume_read, readOn, pure_bind, Walk.leave_bind, List.append_nil, Walk.pure_eq,
      Trace.append_empty]
    rfl
  | raise e => exact resume_raise [] e t rs

/-- At all moments of a run the same is left to do as at its start, what was done included. -/
theorem resume_of_reaches {m m' : Moment ρ} (h : Reaches L.next m m') :
    L.resume m' = L.resume m := by
  induction h with
  | refl => rfl
  | tail _ hnext ih => rw [resume_next hnext, ih]

end Loader

end PhoneticCatalog.Catalog
