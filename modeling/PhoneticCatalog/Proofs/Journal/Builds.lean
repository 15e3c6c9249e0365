import PhoneticCatalog.Journal.Line
import PhoneticCatalog.Journal.Report
import PhoneticCatalog.Proofs.Building.Tables

/-!
# Builds inside of builds

`Task.begun` lists the tasks that are begun in the course of a task, with the surroundings in which
each begins; what is told is read off it (`Task.notes_run`). `Course` says what a stretch of a run
keeps: under a build nothing changes any more, and where no build is under way none is left behind,
and one id is given out for each build that is begun there. There is one rule for each kind of task,
and `Task.course_begun` is the induction over the tree of tasks.

On the record of a note stands the build that it was told in, unless the note names one of its own
(`Setup.find?_record`). Together this is `builds_nest`: all that is done and told inside of an
outermost build goes under its id, however deep, and after whatever was caught.
-/

namespace PhoneticCatalog.Journal

namespace Surroundings

/-- The surroundings of what is done inside of a build that is begun here. -/
def inside (s : Surroundings) : Surroundings :=
  match s.current with
  | some _ => s
  | none => ⟨some ⟨s.issued⟩, some ⟨s.issued⟩, s.issued + 1⟩

/-- What a build that was begun here leaves behind, where the last thing done inside of it has left
behind `last`. -/
def afterwards (s last : Surroundings) : Surroundings :=
  match s.current with
  | some _ => last
  | none => { last with current := none, stamp := none }

/-- What is done in a build starts inside of it, and leaves what holds afterwards. -/
theorem during_eq {β : Type} (s : Surroundings) (body : Surroundings → β × Surroundings) :
    s.during body = ((body s.inside).1, s.afterwards (body s.inside).2) := by
  obtain ⟨current, stamp, issued⟩ := s
  cases current <;> rfl

/-- No build is under way, and no id is put on what is told. -/
structure IsIdle (s : Surroundings) : Prop where
  current : s.current = none
  stamp : s.stamp = none

/-- The build with this id is under way, and its id is put on what is told. -/
structure IsUnder (s : Surroundings) (id : BuildId) : Prop where
  current : s.current = some id
  stamp : s.stamp = some id

variable {s : Surroundings}

/-- Inside of a build another one changes nothing. -/
theorem inside_of_isSome (h : s.current.isSome) : s.inside = s := by
  obtain ⟨id, hid⟩ := Option.isSome_iff_exists.1 h
  rw [inside, hid]

/-- The end of an inner build changes nothing. -/
theorem afterwards_of_isSome (h : s.current.isSome) (last : Surroundings) :
    s.afterwards last = last := by
  obtain ⟨id, hid⟩ := Option.isSome_iff_exists.1 h
  rw [afterwards, hid]

/-- Where no build is under way a new one begins, under the next id. -/
theorem inside_of_none (h : s.current = none) :
    s.inside = ⟨some ⟨s.issued⟩, some ⟨s.issued⟩, s.issued + 1⟩ := by
  rw [inside, h]

/-- The outermost build leaves none under way. -/
theorem afterwards_of_none (h : s.current = none) (last : Surroundings) :
    s.afterwards last = { last with current := none, stamp := none } := by
  rw [afterwards, h]

/-- Inside of a new build everything goes under its id. -/
theorem isUnder_inside (h : s.current = none) : s.inside.IsUnder ⟨s.issued⟩ := by
  rw [inside_of_none h]
  exact ⟨rfl, rfl⟩

/-- A build in which nothing happens gives out one id. -/
theorem IsIdle.afterwards_inside (h : s.IsIdle) :
    s.afterwards s.inside = { s with issued := s.issued + 1 } := by
  rw [afterwards_of_none h.current, inside_of_none h.current, ← h.current]
  exact congrArg (Surroundings.mk s.current · (s.issued + 1)) (h.current.trans h.stamp.symm)

end Surroundings

/-! ## Tasks that are begun -/

namespace Task

variable {ε α : Type}

mutual

/-- The tasks that are begun in the course of a task, itself first, each with the surroundings in
which it begins. -/
def begun : Task ε α → Surroundings → List (Task ε α × Surroundings)
  | tell a, s => [(tell a, s)]
  | fail e, s => [(fail e, s)]
  | attempt steps, s => (attempt steps, s) :: allBegun steps s
  | build steps, s => (build steps, s) :: allBegun steps s.inside

/-- The tasks that are begun in the course of tasks in turn, up to the first failure. -/
def allBegun : List (Task ε α) → Surroundings → List (Task ε α × Surroundings)
  | [], _ => []
  | task :: rest, s =>
    begun task s ++ if (run task s).1.2.isSome then [] else allBegun rest (run task s).2

end

/-- What a task tells, unless it does something else. -/
def told? : Task ε α → Option α
  | tell a => some a
  | _ => none

/-- An outermost build: it is begun where no build is under way. -/
def isOutermost : Task ε α × Surroundings → Bool
  | (build _, s) => s.current.isNone
  | _ => false

variable (task : Task ε α) (steps rest : List (Task ε α)) (s : Surroundings)

/-- A build is carried out by its steps inside of it. -/
theorem run_build :
    run (build steps) s =
      ((.built (runAll steps s.inside).1.1, (runAll steps s.inside).1.2),
        s.afterwards (runAll steps s.inside).2) := by
  rw [run, Surroundings.during_eq]

/-- The first task is carried out, then the others unless it failed. -/
theorem runAll_cons :
    runAll (task :: rest) s =
      if (run task s).1.2.isSome then
        (([(run task s).1.1], (run task s).1.2), (run task s).2)
      else
        (((run task s).1.1 :: (runAll rest (run task s).2).1.1, (runAll rest (run task s).2).1.2),
          (runAll rest (run task s).2).2) := by
  rw [runAll]
  obtain ⟨⟨trail, failure?⟩, after⟩ := run task s
  cases failure? <;> rfl

mutual

/-- The notes of a run are what its tasks tell, in the surroundings in which they begin. -/
theorem notes_run (task : Task ε α) (s : Surroundings) :
    (run task s).1.1.notes =
      (begun task s).filterMap fun entry => entry.1.told?.map (·, entry.2) := by
  cases task with
  | tell a => rfl
  | fail e => rfl
  | attempt steps => exact notes_runAll steps s
  | build steps =>
    rw [run_build]
    exact notes_runAll steps s.inside

/-- What is told by tasks in turn is read off those that are begun. -/
theorem notes_runAll (steps : List (Task ε α)) (s : Surroundings) :
    Trail.allNotes (runAll steps s).1.1 =
      (allBegun steps s).filterMap fun entry => entry.1.told?.map (·, entry.2) := by
  cases steps with
  | nil => rfl
  | cons task rest =>
    rw [runAll_cons, allBegun, List.filterMap_append, ← notes_run task s]
    split
    · exact rfl
    · rw [← notes_runAll rest (run task s).2]
      rfl

end

end Task

/-! ## What a run keeps -/

/-- What a stretch of a run keeps that begins in `s` and ends in `last`, if `entries` are the tasks
that are begun in it. -/
structure Course {ε α : Type} (s : Surroundings) (entries : List (Task ε α × Surroundings))
    (last : Surroundings) : Prop where
  /-- Under a build nothing changes. -/
  under : s.current.isSome → last = s ∧ ∀ entry ∈ entries, entry.2 = s
  /-- Where no build is under way, none is left behind, and every outermost build has its own id. -/
  idle : s.IsIdle → last.IsIdle ∧ last.issued = s.issued + entries.countP Task.isOutermost ∧
    ∀ entry ∈ entries, entry.2.current = none → entry.2.IsIdle

namespace Course

variable {ε α : Type} {s middle last : Surroundings} {entries more : List (Task ε α × Surroundings)}

theorem nil (s : Surroundings) : Course s ([] : List (Task ε α × Surroundings)) s where
  under _ := ⟨rfl, by simp⟩
  idle h := ⟨h, rfl, by simp⟩

/-- Two stretches in turn keep what each of them keeps. -/
theorem append (h : Course s entries middle) (hmore : Course middle more last) :
    Course s (entries ++ more) last where
  under hs := by
    obtain ⟨rfl, hentries⟩ := h.under hs
    obtain ⟨rfl, hrest⟩ := hmore.under hs
    exact ⟨rfl, List.forall_mem_append.2 ⟨hentries, hrest⟩⟩
  idle hs := by
    obtain ⟨hmiddle, hissued, hentries⟩ := h.idle hs
    obtain ⟨hlast, hissued', hrest⟩ := hmore.idle hmiddle
    refine ⟨hlast, ?_, List.forall_mem_append.2 ⟨hentries, hrest⟩⟩
    rw [hissued', hissued, List.countP_append, Nat.add_assoc]

/-- A task that is no build counts for nothing itself. -/
theorem cons {task : Task ε α} (h : Course s entries last)
    (hother : Task.isOutermost (task, s) = false) : Course s ((task, s) :: entries) last where
  under hs := ⟨(h.under hs).1, List.forall_mem_cons.2 ⟨rfl, (h.under hs).2⟩⟩
  idle hs := by
    obtain ⟨hlast, hissued, hentries⟩ := h.idle hs
    refine ⟨hlast, ?_, List.forall_mem_cons.2 ⟨fun _ => hs, hentries⟩⟩
    rwa [List.countP_cons_of_neg (by simp [hother])]

/-- A build is the stretch inside of it, which goes under its own id if it is an outermost one. -/
theorem build {steps : List (Task ε α)} (h : Course s.inside entries last) :
    Course s ((.build steps, s) :: entries) (s.afterwards last) where
  under hs := by
    rw [Surroundings.inside_of_isSome hs] at h
    rw [Surroundings.afterwards_of_isSome hs]
    exact ⟨(h.under hs).1, List.forall_mem_cons.2 ⟨rfl, (h.under hs).2⟩⟩
  idle hs := by
    rw [Surroundings.inside_of_none hs.current] at h
    -- Inside of it a build is under way, so that none of the builds in there is an outermost one.
    obtain ⟨rfl, hentries⟩ := h.under rfl
    have hinner : entries.countP Task.isOutermost = 0 := by
      refine List.countP_eq_zero.2 fun entry hentry => ?_
      obtain ⟨task, surroundings⟩ := entry
      obtain rfl := hentries _ hentry
      cases task <;> exact Bool.false_ne_true
    have houter : Task.isOutermost (Task.build steps, s) = true := by
      rw [Task.isOutermost, hs.current]
      rfl
    refine ⟨?_, ?_, List.forall_mem_cons.2 ⟨fun _ => hs, fun entry hentry hnone => ?_⟩⟩
    · rw [Surroundings.afterwards_of_none hs.current]
      exact ⟨rfl, rfl⟩
    · rw [Surroundings.afterwards_of_none hs.current, List.countP_cons_of_pos houter, hinner]
    · rw [hentries entry hentry] at hnone
      cases hnone

end Course

namespace Task

variable {ε α : Type}

-- By induction over the tree of tasks, with the surroundings that each task finds.
mutual

/-- Every task keeps the course of builds, by induction over the tasks inside of it. -/
theorem course_begun (task : Task ε α) (s : Surroundings) :
    Course s (task.begun s) (task.run s).2 := by
  cases task with
  | tell a => exact (Course.nil s).cons rfl
  | fail e => exact (Course.nil s).cons rfl
  | attempt steps => exact (course_allBegun steps s).cons rfl
  | build steps =>
    rw [run_build]
    exact (course_allBegun steps s.inside).build

/-- Tasks in turn keep the course of builds. -/
theorem course_allBegun (steps : List (Task ε α)) (s : Surroundings) :
    Course s (allBegun steps s) (runAll steps s).2 := by
  cases steps with
  | nil => exact Course.nil s
  | cons task rest =>
    have hfirst := course_begun task s
    rw [runAll_cons, allBegun]
    split
    · rwa [List.append_nil]
    · exact hfirst.append (course_allBegun rest (run task s).2)

end

end Task

/-! ## Builds on records -/

/-- The build that a note names itself. -/
def Note.ownBuild? (n : Note) : Option Field := (Table.ofEntries n.fields).find? "build_id".toList

namespace Setup

/-- Values whose keys do not vary from run to run are written as they are. -/
theorem find?_masked {k : List Char} (h : k ∉ varyingKeys) (entries : Table (List Char) Field) :
    Table.find? (entries.map masked) k = entries.find? k := by
  induction entries with
  | nil => rfl
  | cons entry rest ih =>
    rw [List.map_cons, Table.find?_cons, Table.find?_cons, ih, masked]
    split
    · rename_i hvarying
      have hne : ¬ (k == entry.1) = true := fun heq =>
        h (List.contains_iff_mem.1 (eq_of_beq heq ▸ hvarying))
      rw [if_neg hne, if_neg hne]
    · rfl

/-- Nothing but the note says what build it belongs to. -/
theorem find?_told (setup : Setup) (n : Note) :
    (Table.ofEntries ((if n.signed then setup.signature else []) ++ n.fields ++
      [("event".toList, .text n.name)])).find? "build_id".toList = n.ownBuild? := by
  have hsignature : Table.find? (if n.signed then setup.signature else []).reverse
      "build_id".toList = none := by
    cases n.signed <;> rfl
  have hevent : Table.find? [("event".toList, Field.text n.name)] "build_id".toList = none := rfl
  rw [Note.ownBuild?, Table.find?_ofEntries, Table.find?_ofEntries]
  rw [List.reverse_append, List.reverse_append, Table.find?_append, Table.find?_append, hsignature,
    List.reverse_singleton, hevent, Option.or_none, Option.none_or]

/-- The journal adds the build that a note was told in, unless there is one already. -/
theorem find?_stampFields (id : List Char) (fields : Table (List Char) Field) :
    Table.find? (stampFields (some id) fields).reverse "build_id".toList =
      if (fields.find? "build_id".toList).isSome then none else some (.text id) := by
  rw [stampFields]
  split <;> rfl

/-- On the record of a note stands its own build, or else the one that it was told in. -/
theorem find?_record (setup : Setup) (id : List Char) (n : Note) :
    (setup.record (some id) n).find? "build_id".toList = some (n.ownBuild?.getD (.text id)) := by
  -- The key of the build is not masked, and not among what else the journal adds.
  have hvarying : "build_id".toList ∉ varyingKeys := by decide +kernel
  have hlevel : Table.find? [("timestamp".toList, Field.varying),
      ("level".toList, .text n.level.label.toList),
      ("logger".toList, .text (originName n.origin))].reverse "build_id".toList = none := rfl
  have hplace : Table.find? (if setup.callSites then callSiteKeys.map fun k => (k, Field.varying)
      else []).reverse "build_id".toList = none := by
    cases setup.callSites <;> rfl
  unfold record
  extract_lets told added
  have hadded : Table.find? added.reverse "build_id".toList =
      if n.ownBuild?.isSome then none else some (.text id) := by
    rw [List.reverse_append, List.reverse_append, Table.find?_append, Table.find?_append, hplace,
      hlevel, find?_stampFields, find?_told]
    rfl
  rw [find?_masked hvarying, Table.find?_ofEntries, List.reverse_append, Table.find?_append, hadded,
    Table.find?_reverse (Table.nodup_keys_ofEntries _), find?_told]
  cases n.ownBuild? <;> rfl

end Setup

/-- A task that begins where no build is under way leaves none behind, whether it fails or not, and
one id is given out for each outermost build that is begun. All that begins inside of an outermost
build, up to where its steps leave off, goes under the id that is given out to it, and on the record
of every note that is told in it stands this id, unless the note names a build of its own. -/
theorem builds_nest {ε : Type} (task : Task ε Note) (s : Surroundings) (hs : s.IsIdle) :
    (task.run s).2.IsIdle ∧
    (task.run s).2.issued = s.issued + (task.begun s).countP Task.isOutermost ∧
    ∀ steps around, (Task.build steps, around) ∈ task.begun s → around.current = none →
      (∀ entry ∈ Task.allBegun steps around.inside, entry.2.IsUnder ⟨around.issued⟩) ∧
      (Task.runAll steps around.inside).2.IsUnder ⟨around.issued⟩ ∧
      ((Task.build steps).run around).2 = { around with issued := around.issued + 1 } ∧
      ∀ note ∈ ((Task.build steps).run around).1.1.notes, ∀ setup : Setup,
        (setup.record (note.2.stamp.map BuildId.text) note.1).find? "build_id".toList =
          some (note.1.ownBuild?.getD (.text (BuildId.text ⟨around.issued⟩))) := by
  obtain ⟨hidle, hissued, houtside⟩ := (task.course_begun s).idle hs
  refine ⟨hidle, hissued, fun steps around hbegun hnone => ?_⟩
  have haround : around.IsIdle := houtside _ hbegun hnone
  have hunder := Surroundings.isUnder_inside hnone
  -- Within an outermost build the surroundings stay as they are, whatever is begun there.
  obtain ⟨hlast, hentries⟩ := (Task.course_allBegun steps around.inside).under
    (Option.isSome_iff_exists.2 ⟨_, hunder.current⟩)
  refine ⟨fun entry hentry => hentries entry hentry ▸ hunder, hlast.symm ▸ hunder, ?_, ?_⟩
  · rw [Task.run_build, hlast]
    exact haround.afterwards_inside
  · intro note hnote setup
    -- Every note of the build is told by something that it begins.
    have htold : note ∈ Trail.allNotes (Task.runAll steps around.inside).1.1 := by
      rwa [Task.run_build] at hnote
    rw [Task.notes_runAll, List.mem_filterMap] at htold
    obtain ⟨entry, hentry, htold⟩ := htold
    obtain ⟨a, -, rfl⟩ := Option.map_eq_some_iff.1 htold
    rw [hentries entry hentry, hunder.stamp]
    exact setup.find?_record _ a

/-- A build whose inner build fails and is caught, and a second one that fails. -/
theorem builds_nest_caught :
    let n : Note := ⟨.info, [], "told".toList, [], true⟩
    let failing : Task Unit Note := .build [.tell n, .fail ()]
    let steps := [.attempt [failing], .tell n]
    let last := ((Task.attempt [.build steps, failing, .tell n]).run {}).2
    last.IsIdle ∧ last.issued = 2 ∧
      ∀ entry ∈ Task.allBegun steps (Surroundings.inside {}), entry.2.IsUnder ⟨0⟩ := by
  intro n failing steps last
  obtain ⟨hidle, hissued, houtermost⟩ :=
    builds_nest (.attempt [.build steps, failing, .tell n]) {} ⟨rfl, rfl⟩
  have hbegun : (Task.build steps, {}) ∈ (Task.attempt [.build steps, failing, .tell n]).begun {} :=
    List.mem_cons_of_mem _ List.mem_cons_self
  exact ⟨hidle, hissued, (houtermost steps {} hbegun rfl).1⟩

/-- A note that names a build of its own keeps it inside of another build. -/
theorem own_build_kept :
    let n : Note := ⟨.info, "tests.x".toList, "hello".toList,
      [("build_id".toList, .text "own".toList)], true⟩
    let setup : Setup := .ofNames "test".toList "INFO".toList .json true
    ((Task.build [.tell n] : Task Unit Note).run {}).1.1.notes = [(n, Surroundings.inside {})] ∧
      (setup.record (some (BuildId.text ⟨0⟩)) n).find? "build_id".toList ≠
        some (.text (BuildId.text ⟨0⟩)) := by
  intro n setup
  refine ⟨rfl, fun h => ?_⟩
  have hown : n.ownBuild? = some (.text "own".toList) := rfl
  rw [setup.find?_record, hown] at h
  have htext : "own".toList = BuildId.text ⟨0⟩ := Field.text.inj (Option.some.inj h)
  exact absurd htext (by decide +kernel)

end PhoneticCatalog.Journal
