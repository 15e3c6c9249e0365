import PhoneticCatalog.Proofs.Inclusion.DepthBound
import PhoneticCatalog.Proofs.Inclusion.Moment

/-!
# Open catalogs

Loads and parses end, and the catalogs that are open meanwhile form a path of includes that is no
longer than allowed (`calls_end_within_depth`).

A run ends although a source may hold infinitely many catalogs: opening a catalog leaves less room,
and where the room stays the same the steps that are left become fewer. `Loader.ends_enter` is the
induction on the room, and `Loader.ends_read` the induction on the steps. What is known of the open
catalogs is the invariant `Loader.Sound`; it holds at the start (`sound_start`), and every move
keeps it (`Sound.next`), be it that a catalog is opened, closed at its end or closed after an error.
-/

namespace PhoneticCatalog.Catalog

open StateTransition

/-- What a loader can be asked for. -/
inductive Call where
  /-- The catalog of a name. -/
  | load (name : List Char)
  /-- A text that stands for the catalog of a name. -/
  | parse (text name : List Char)

namespace Call

/-- The name of the outermost catalog of a call. -/
def name : Call → List Char
  | load name => name
  | parse _ name => name

/-- The source as a call sees it: a text that is parsed stands for the catalog of its name. -/
def view (source : Source) : Call → Source
  | load _ => source
  | parse text name => source.answering name text

/-- A call sees all catalogs but its own as they are. -/
theorem view_read {source : Source} {call : Call} {x : List Char} (h : x ≠ call.name) :
    (call.view source).read x = source.read x := by
  cases call with
  | load name => rfl
  | parse text name => exact if_neg h

end Call

namespace Loader

section

variable {ρ : Type} (L : Loader ρ)

/-- The answer to a call. -/
def answer : Call → Walk (List ρ)
  | .load name => L.load name
  | .parse text name => L.parse text name

/-- The first moment of a call. A text that is parsed is open from the start. -/
def start : Call → Moment ρ
  | .load name => ⟨[], .enter name, {}, []⟩
  | .parse text name =>
    ⟨[⟨name, L.format.steps name text⟩], .read, { counters := { catalogs := 1 } }, []⟩

/-- What is left to do at the start of a call gives the answer. -/
theorem finish_resume_start (call : Call) :
    L.finish call.name (L.resume (L.start call)) = L.answer call := by
  cases call with
  | load name =>
    -- With nothing open, what is left of the run is the whole visit.
    have hstart : L.resume (L.start (.load name)) = L.visit L.maxDepth [] name := by
      show L.resume ⟨[], .enter name, {}, []⟩ = _
      rw [resume_enter, Walk.leave_bind, Trace.empty_append]
      simp only [readOn, pure_bind, List.nil_append, List.append_nil, bind_pure]
      rfl
    rw [hstart]
    rfl
  | parse text name =>
    have hstart : L.resume (L.start (.parse text name)) =
        Walk.leave { counters := { catalogs := 1 } } >>= fun _ =>
          L.runSteps (L.visit (L.maxDepth - 1) [name]) (L.format.steps name text) := by
      show L.resume ⟨[⟨name, L.format.steps name text⟩], .read, _, []⟩ = _
      rw [resume_read, readOn_cons]
      simp only [readOn, pure_bind, List.nil_append, List.append_nil, bind_pure]
      rfl
    rw [hstart]
    rfl

/-! ## Runs end -/

/-- The run from a moment on comes to its end. -/
def Ends (m : Moment ρ) : Prop := (eval L.next m).Dom

variable {L}

/-- A moment without a next one is the end. -/
theorem ends_of_next_eq_none {m : Moment ρ} (h : L.next m = none) : L.Ends m :=
  Part.dom_iff_mem.2 ⟨m, mem_eval.2 ⟨.refl, h⟩⟩

/-- A run comes to its end if it does from the next moment on. -/
theorem Ends.of_next {m m' : Moment ρ} (hnext : L.next m = some m') (h : L.Ends m') :
    L.Ends m := by
  have hreaches : Reaches L.next m m' := .single hnext
  unfold Ends
  rw [reaches_eval hreaches]
  exact h

/-- After an error all open catalogs are closed. -/
theorem ends_raise (frames : List (Frame ρ)) (e : LoadError) (t : Trace) (rs : List ρ) :
    L.Ends ⟨frames, .raise e, t, rs⟩ := by
  induction frames with
  | nil => exact ends_of_next_eq_none rfl
  | cons f below ih => exact .of_next rfl ih

/-- The run through what is left of open catalogs comes to its end, whatever came before. -/
def EndsIn (L : Loader ρ) (frames : List (Frame ρ)) : Prop :=
  ∀ t rs, L.Ends ⟨frames, .read, t, rs⟩

/-- A catalog is read to its end if all catalogs are that are opened meanwhile. -/
theorem ends_read {below : List (Frame ρ)} (hbelow : L.EndsIn below)
    (henter : ∀ frames : List (Frame ρ), frames.length = below.length + 1 → L.EndsIn frames →
      ∀ b t rs, L.Ends ⟨frames, .enter b, t, rs⟩)
    (name : List Char) (steps : List (Step ρ)) : L.EndsIn (⟨name, steps⟩ :: below) := by
  induction steps with
  | nil =>
    intro t rs
    exact .of_next rfl (hbelow t rs)
  | cons step rest ih =>
    intro t rs
    refine .of_next rfl ?_
    cases step with
    | tally lines comments => exact ih _ _
    | rule r => exact ih _ _
    | splice b => exact henter _ rfl ih b _ _
    | skip d => exact ih _ _
    | abort e => exact ends_raise _ e _ _

/-- What is to be opened is opened and read to its end, or refused, whatever room is left. -/
theorem ends_enter (room : Nat) {frames : List (Frame ρ)}
    (hroom : frames.length + room = L.maxDepth) (hframes : L.EndsIn frames) (name : List Char)
    (t : Trace) (rs : List ρ) :
    L.Ends ⟨frames, .enter name, t, rs⟩ := by
  induction room generalizing frames name t rs with
  | zero =>
    refine .of_next rfl ?_
    rcases L.enter_cases frames (.enter name) t rs name with ⟨e, t', hrefused⟩ | ⟨-, hless, -⟩
    · rw [hrefused]
      exact ends_raise frames e t' rs
    · rw [length_openNames] at hless
      omega
  | succ room ih =>
    refine .of_next rfl ?_
    rcases L.enter_cases frames (.enter name) t rs name
      with ⟨e, t', hrefused⟩ | ⟨-, -, text, t', -, hopened⟩
    · rw [hrefused]
      exact ends_raise frames e t' rs
    · -- The catalog takes up some room, and what it includes is left with less.
      rw [hopened]
      refine ends_read hframes ?_ name _ t' rs
      intro frames' hlength hends b t'' rs'
      exact ih (by omega) hends b t'' rs'

/-- Some moves lead to a moment of the run. -/
theorem reaches_of_iterate {m m' : Moment ρ} {k : Nat}
    (h : (fun m? => m?.bind L.next)^[k] (some m) = some m') : Reaches L.next m m' := by
  induction k generalizing m' with
  | zero =>
    obtain rfl := Option.some.inj h
    exact .refl
  | succ k ih =>
    rw [Function.iterate_succ_apply'] at h
    obtain ⟨before, hbefore, hnext⟩ := Option.bind_eq_some_iff.1 h
    exact (ih hbefore).tail hnext

/-- All calls end. -/
theorem ends_start (L : Loader ρ) (call : Call) : L.Ends (L.start call) := by
  have hnone : L.EndsIn [] := fun t rs => ends_of_next_eq_none rfl
  cases call with
  | load name => exact ends_enter L.maxDepth (Nat.zero_add _) hnone name {} []
  | parse text name =>
    have hpos := L.maxDepth_pos
    refine ends_read hnone ?_ name _ _ _
    intro frames hlength hends b t rs
    have hroom : frames.length + (L.maxDepth - 1) = L.maxDepth := by
      rw [hlength, List.length_nil]
      omega
    exact ends_enter (L.maxDepth - 1) hroom hends b t rs

end

/-! ## The catalogs that are open -/

section

variable {ρ : Type} {L : Loader ρ}

/-- A step opens and closes nothing by itself. -/
theorem carryOut_frames (m : Moment ρ) (step : Step ρ) :
    (L.carryOut m step).frames = m.frames := by
  cases step <;> rfl

/-- Only an include makes a catalog be opened. -/
theorem eq_splice_of_carryOut {m : Moment ρ} {step : Step ρ} {b : List Char}
    (hread : m.phase = .read) (h : (L.carryOut m step).phase = .enter b) : step = .splice b := by
  cases step with
  | splice name =>
    obtain rfl := Phase.enter.inj h
    rfl
  | abort e => exact absurd h nofun
  | tally lines comments => exact absurd (hread.symm.trans h) nofun
  | rule r => exact absurd (hread.symm.trans h) nofun
  | skip d => exact absurd (hread.symm.trans h) nofun

end

/-- The steps of a text splice in what the text includes. -/
theorem textIncludes_of_splice_mem {kind : Journal.LoaderKind} {catalog text b : List Char}
    (h : .splice b ∈ (Format.ofKind kind).steps catalog text) : TextIncludes kind text b :=
  (textIncludes_iff catalog).2 (splice_mem_steps h)

/-- What is known of the open catalogs at every moment of a call. They are all different, no more
than allowed, and each is included by the one around it. The same holds of the catalogs that are
still to be opened: the steps that are left splice in only what their catalogs include. -/
structure Sound (kind : Journal.LoaderKind) (source : Source) (depth : ℕ+) (call : Call)
    (m : Moment Rule) : Prop where
  nodup : m.stack.Nodup
  length_le : m.stack.length ≤ depth
  path : m.stack = [] ∨ (call.view source).IncludePath kind call.name m.stack
  steps : ∀ f ∈ m.frames, ∀ b, .splice b ∈ f.rest → (call.view source).Includes kind f.name b
  entering : ∀ b, m.phase = .enter b →
    (call.view source).IncludePath kind call.name (m.stack ++ [b]) ∧
      (b ∉ m.stack → (call.view source).read b = source.read b)

section

variable {kind : Journal.LoaderKind} {source : Source} {depth : ℕ+} {call : Call}
  {m m' : Moment Rule}

/-- When a call starts no catalog is open, and the one to be entered is that of the call. -/
theorem sound_start (kind : Journal.LoaderKind) (source : Source) (depth : ℕ+) (call : Call) :
    Sound kind source depth call ((ofKind kind source depth).start call) := by
  cases call with
  | load name =>
    refine ⟨List.nodup_nil, Nat.zero_le _, Or.inl rfl, ?_, ?_⟩
    · intro f hf
      exact absurd hf List.not_mem_nil
    · intro b hb
      obtain rfl := Phase.enter.inj hb
      exact ⟨.singleton, fun _ => rfl⟩
  | parse text name =>
    refine ⟨List.nodup_singleton name, depth.pos, Or.inr .singleton, ?_, ?_⟩
    · intro f hf b hb
      obtain rfl := List.mem_singleton.1 hf
      have hread : (source.answering name text).read name = ⟨[], .ok text⟩ := if_pos rfl
      exact ⟨text, congrArg Reading.result hread, textIncludes_of_splice_mem hb⟩
    · intro b hb
      exact absurd hb nofun

/-- A catalog that is closed leaves the others as they were. -/
theorem Sound.close {f : Frame Rule} {below : List (Frame Rule)}
    (h : Sound kind source depth call m) (hframes : m.frames = f :: below)
    (hphase : ∀ b, m.phase ≠ .enter b) :
    Sound kind source depth call { m with frames := below } := by
  have hstack : m.stack = openNames below ++ [f.name] := by
    rw [Moment.stack, hframes, openNames_cons]
  have hnodup := h.nodup
  have hlength := h.length_le
  have hpath := h.path
  rw [hstack] at hnodup hlength hpath
  refine ⟨(List.nodup_append.1 hnodup).1, ?_, ?_, ?_, ?_⟩
  · show (openNames below).length ≤ depth
    rw [List.length_append] at hlength
    omega
  · show openNames below = [] ∨ (call.view source).IncludePath kind call.name (openNames below)
    -- The last catalog of the path is closed, and what is left is the start of that path.
    rcases hpath with hempty | ⟨hhead, hchain⟩
    · exact absurd hempty (by simp)
    · by_cases hbelow : openNames below = []
      · exact Or.inl hbelow
      · refine Or.inr ⟨?_, hchain.left_of_append⟩
        rw [← hhead, List.head?_append_of_ne_nil _ hbelow]
  · intro g hg
    exact h.steps g (hframes ▸ List.mem_cons_of_mem f hg)
  · intro b hb
    exact absurd hb (hphase b)

/-- The invariant survives a step of the innermost catalog, which is the last one of the path. -/
theorem Sound.step {f : Frame Rule} {step : Step Rule} {rest : List (Step Rule)}
    {below : List (Frame Rule)} (h : Sound kind source depth call m) (hread : m.phase = .read)
    (hframes : m.frames = f :: below) (hrest : f.rest = step :: rest) :
    Sound kind source depth call
      ((ofKind kind source depth).carryOut
        { m with frames := ⟨f.name, rest⟩ :: below } step) := by
  have hstack : ((ofKind kind source depth).carryOut
      { m with frames := ⟨f.name, rest⟩ :: below } step).stack = m.stack := by
    rw [Moment.stack, carryOut_frames, Moment.stack, hframes, openNames_cons, openNames_cons]
  refine ⟨?_, ?_, ?_, ?_, ?_⟩
  · rw [hstack]; exact h.nodup
  · rw [hstack]; exact h.length_le
  · rw [hstack]; exact h.path
  · rw [carryOut_frames]
    intro g hg b hb
    rcases List.mem_cons.1 hg with rfl | hg
    · exact h.steps f (by simp [hframes]) b (by simp [hrest, hb])
    · exact h.steps g (by simp [hframes, hg]) b hb
  · rw [hstack]
    intro b hb
    obtain rfl := eq_splice_of_carryOut (m := { m with frames := ⟨f.name, rest⟩ :: below }) hread hb
    have hedge : (call.view source).Includes kind f.name b :=
      h.steps f (by simp [hframes]) b (by simp [hrest])
    have hlast : m.stack = openNames below ++ [f.name] := by
      rw [Moment.stack, hframes, openNames_cons]
    have hpath : (call.view source).IncludePath kind call.name m.stack :=
      h.path.resolve_left (by simp [hlast])
    refine ⟨?_, fun hfresh => ?_⟩
    · rw [hlast] at hpath ⊢
      exact hpath.concat hedge
    · -- The outermost catalog is open, so that the included one is another.
      have hopen : call.name ∈ m.stack := List.mem_of_mem_head? (by rw [hpath.head_eq]; rfl)
      exact Call.view_read fun heq => hfresh (heq ▸ hopen)

/-- The invariant survives that a catalog is opened or refused. -/
theorem Sound.enter {name : List Char} (h : Sound kind source depth call m)
    (henter : m.phase = .enter name) :
    Sound kind source depth call ((ofKind kind source depth).enter m name) := by
  obtain ⟨frames, phase, t, rs⟩ := m
  obtain ⟨hpath, hview⟩ := h.entering name henter
  -- A catalog that is refused changes no stack; one that is opened comes on top.
  rcases (ofKind kind source depth).enter_cases frames phase t rs name
    with ⟨e, t', hrefused⟩ | ⟨hfresh, hroom, text, t', hread, hopened⟩
  · rw [hrefused]
    exact ⟨h.nodup, h.length_le, h.path, h.steps, fun b hb => absurd hb nofun⟩
  · rw [hopened]
    have hroom : (openNames frames).length < depth := hroom
    have hstack : ∀ t' : Trace, Moment.stack
        (⟨⟨name, (ofKind kind source depth).format.steps name text⟩ :: frames, .read, t', rs⟩ :
          Moment Rule) = openNames frames ++ [name] := by
      intro t'
      rw [Moment.stack, openNames_cons]
    refine ⟨?_, ?_, ?_, ?_, ?_⟩
    · rw [hstack, ← List.concat_eq_append]
      exact h.nodup.concat hfresh
    · rw [hstack, List.length_append, List.length_singleton]
      omega
    · rw [hstack]
      exact Or.inr hpath
    · intro f hf b hb
      rcases List.mem_cons.1 hf with rfl | hf
      · refine ⟨text, ?_, textIncludes_of_splice_mem hb⟩
        rw [hview hfresh]
        exact hread
      · exact h.steps f hf b hb
    · intro b hb
      exact absurd hb nofun

/-- Every move keeps the invariant. -/
theorem Sound.next (h : Sound kind source depth call m)
    (hnext : (ofKind kind source depth).next m = some m') : Sound kind source depth call m' := by
  rcases next_cases hnext with ⟨name, henter, rfl⟩ |
    ⟨f, step, rest, below, hread, hframes, hrest, rfl⟩ | ⟨f, below, hframes, rfl, hend⟩
  · exact h.enter henter
  · exact h.step hread hframes hrest
  · refine h.close hframes fun b hb => ?_
    rcases hend with ⟨hread, -⟩ | ⟨e, hraise⟩
    · exact absurd (hread.symm.trans hb) nofun
    · exact absurd (hraise.symm.trans hb) nofun

/-- The invariant holds at all moments of a call. -/
theorem sound_of_reaches
    (h : Reaches (ofKind kind source depth).next ((ofKind kind source depth).start call) m) :
    Sound kind source depth call m := by
  induction h with
  | refl => exact sound_start kind source depth call
  | tail _ hnext ih => exact ih.next hnext

end

end Loader

/-- Every call of a loader ends, whatever its source answers: the run through its moments comes to a
last one, at which no catalog is open and whose outcome is the answer of the call. At every moment
of the run the open catalogs are all different and no more than allowed, they form a path of
includes from the outermost catalog of the call, and what is left to do inside of them still leads
to the same answer. -/
theorem calls_end_within_depth (kind : Journal.LoaderKind) (source : Source) (depth : ℕ+)
    (call : Call) :
    let L := Loader.ofKind kind source depth
    (∃ last ∈ eval L.next (L.start call),
      last.stack = [] ∧ L.finish call.name last.walk = L.answer call) ∧
    ∀ m, Reaches L.next (L.start call) m →
      m.stack.Nodup ∧ m.stack.length ≤ depth ∧
      (m.stack = [] ∨ (call.view source).IncludePath kind call.name m.stack) ∧
      L.finish call.name (L.resume m) = L.answer call := by
  intro L
  -- What a call comes to does not change from one moment to the next.
  have hanswer : ∀ m, Reaches L.next (L.start call) m →
      L.finish call.name (L.resume m) = L.answer call := by
    intro m hm
    rw [Loader.resume_of_reaches hm]
    exact L.finish_resume_start call
  constructor
  · obtain ⟨last, hlast⟩ := Part.dom_iff_mem.1 (L.ends_start call)
    obtain ⟨hreaches, hover⟩ := mem_eval.1 hlast
    refine ⟨last, hlast, ?_, ?_⟩
    · rw [Moment.stack, (Loader.next_eq_none.1 hover).1]
      rfl
    · rw [← Loader.resume_of_next_eq_none hover]
      exact hanswer last hreaches
  · intro m hm
    have hsound : Loader.Sound kind source depth call m := Loader.sound_of_reaches hm
    exact ⟨hsound.nodup, hsound.length_le, hsound.path, hanswer m hm⟩

/-- The source in which every name is that of a catalog, which includes one with a longer name. -/
def endlessSource : Source where
  read name := ⟨[], .ok ("#include ".toList ++ name ++ ['x'])⟩

/-- Catalogs that include each other without an end, and a call that stops at the bound. -/
theorem calls_end_within_depth_endless :
    let L := Loader.ofKind .text endlessSource 2
    (∃ last ∈ eval L.next (L.start (.load ['a'])),
      last.stack = [] ∧ L.finish ['a'] last.walk = L.load ['a']) ∧
    ∃ m, Reaches L.next (L.start (.load ['a'])) m ∧ m.stack = [['a'], ['a', 'x']] ∧
      m.stack.length ≤ 2 ∧ endlessSource.IncludePath .text ['a'] m.stack := by
  intro L
  -- After four moves both catalogs are open.
  have hmoves : ((fun m? => m?.bind L.next)^[4] (some (L.start (.load ['a'])))).map Moment.stack =
      some [['a'], ['a', 'x']] := by decide +kernel
  obtain ⟨m, hm, hstack⟩ := Option.map_eq_some_iff.1 hmoves
  have hreaches : Reaches L.next (L.start (.load ['a'])) m := Loader.reaches_of_iterate hm
  obtain ⟨hends, hmoments⟩ := calls_end_within_depth .text endlessSource 2 (.load ['a'])
  obtain ⟨-, hlength, hpath, -⟩ := hmoments m hreaches
  have hnonempty : m.stack ≠ [] := by
    rw [hstack]
    exact List.cons_ne_nil _ _
  exact ⟨hends, m, hreaches, hstack, hlength, hpath.resolve_left hnonempty⟩

end PhoneticCatalog.Catalog
