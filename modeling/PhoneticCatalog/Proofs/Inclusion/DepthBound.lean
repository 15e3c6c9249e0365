import Mathlib.Data.Finset.Card
import Mathlib.Data.Finset.Dedup
import PhoneticCatalog.Proofs.Inclusion.FirstFault
import PhoneticCatalog.Proofs.Inclusion.Success

/-!
# The depth is a bound only

A load or a parse that does not end in an error of depth is the same, with all that it leaves
behind, for every larger depth (`load_eq_of_le`, `parse_eq_of_le`). The catalogs that are open
around a fault are all held by the source and all different, so that a depth beyond their number is
never exceeded (`load_avoids_tooDeep`), and a circle is then found out as such
(`load_cycle_or_not_builds`).

A parse has the result of a load from the source that answers its name with its text
(`parse_result`), which holds at most one catalog more.
-/

namespace PhoneticCatalog.Catalog

/-- The source that answers a name with a text, and all other names as before. -/
def Source.answering (source : Source) (name text : List Char) : Source where
  read x := if x = name then ⟨[], .ok text⟩ else source.read x

/-- The answer makes a source hold one catalog more at most. -/
theorem Source.holds_of_answering {source : Source} {name text x : List Char}
    (h : (source.answering name text).Holds x) : x = name ∨ source.Holds x := by
  by_cases hx : x = name
  · exact Or.inl hx
  · obtain ⟨answer, hanswer⟩ := h
    exact Or.inr ⟨answer, (congrArg Reading.result (if_neg hx)).symm.trans hanswer⟩

/-- The error is one of depth. -/
def LoadError.IsTooDeep (e : LoadError) : Prop := ∃ c limit, e = .tooDeep c limit

namespace Loader

variable {kind : Journal.LoaderKind} {source : Source} {depth more : ℕ+} {name text : List Char}

/-! ## Larger depths -/

/-- A load that does not run too deep is the same with a larger depth. -/
theorem load_eq_of_le (hle : depth ≤ more)
    (h : ((ofKind kind source depth).load name).Avoids LoadError.IsTooDeep) :
    (ofKind kind source more).load name = (ofKind kind source depth).load name := by
  have havoids : ((ofKind kind source depth).visit depth [] name).Avoids LoadError.IsTooDeep :=
    fun e he => h e ((load_alike kind source depth name).result.trans he)
  have hvisit : (ofKind kind source more).visit more [] name =
      (ofKind kind source depth).visit depth [] name :=
    visit_eq rfl (fun _ _ => rfl) (Or.inr ⟨hle, fun _ _ => ⟨_, _, rfl⟩⟩) (Or.inl rfl) havoids
  exact congrArg (finish _ name) hvisit

/-- A parse that does not run too deep is the same with a larger depth. -/
theorem parse_eq_of_le (hle : depth ≤ more)
    (h : ((ofKind kind source depth).parse text name).Avoids LoadError.IsTooDeep) :
    (ofKind kind source more).parse text name = (ofKind kind source depth).parse text name := by
  have hroom : (depth : ℕ) - 1 ≤ more - 1 := Nat.sub_le_sub_right hle 1
  have havoids : ((ofKind kind source depth).runSteps
      ((ofKind kind source depth).visit (depth - 1) [name])
      ((Format.ofKind kind).steps name text)).Avoids LoadError.IsTooDeep :=
    fun e he => h e ((parse_alike kind source depth text name).result.trans he)
  have hrun : (ofKind kind source more).runSteps ((ofKind kind source more).visit (more - 1) [name])
      ((Format.ofKind kind).steps name text) =
      (ofKind kind source depth).runSteps ((ofKind kind source depth).visit (depth - 1) [name])
        ((Format.ofKind kind).steps name text) :=
    runSteps_visit_eq rfl (fun _ _ => rfl) (Or.inr ⟨hroom, fun b limit => ⟨b, limit, rfl⟩⟩) havoids
  exact congrArg (fun run => finish (ofKind kind source depth) name
    (Walk.leave { counters := { catalogs := 1 } } >>= fun _ => run)) hrun

/-! ## A text in place of a catalog -/

/-- A visit of the name that is answered carries out the steps of its text, after a request and the
count of the catalog. The name stays open all the time, so that its answer is not asked for again.
-/
theorem visit_answering :
    let run := (ofKind kind source depth).runSteps
      ((ofKind kind source depth).visit (depth - 1) [name]) ((Format.ofKind kind).steps name text)
    (ofKind kind (source.answering name text) depth).visit depth [] name =
      ⟨{ opened := [name] } ++ (({ counters := { catalogs := 1 } } : Trace) ++ run.trace),
        run.result⟩ := by
  obtain ⟨room, hroom⟩ : ∃ room, (depth : ℕ) = room + 1 :=
    ⟨depth - 1, by have := depth.pos; omega⟩
  have hread : (source.answering name text).read name = ⟨[], .ok text⟩ := if_pos rfl
  have hopen : (ofKind kind (source.answering name text) depth).openCatalog name =
      ⟨{ opened := [name] }, .ok text⟩ :=
    congrArg (fun reading : Reading => (⟨{ opened := [name], events := reading.events },
      reading.result.mapError (LoadError.notOpened name)⟩ : Walk (List Char))) hread
  have hother : ∀ x, x ∉ [name] → (source.answering name text).read x = source.read x :=
    fun x hx => if_neg fun heq => hx (List.mem_singleton.2 heq)
  -- The text of the name itself is not asked for again, since it is open all the time.
  have hrun : (ofKind kind (source.answering name text) depth).runSteps
      ((ofKind kind (source.answering name text) depth).visit room [name])
      ((Format.ofKind kind).steps name text) =
      (ofKind kind source depth).runSteps ((ofKind kind source depth).visit room [name])
        ((Format.ofKind kind).steps name text) :=
    runSteps_visit_eq rfl hother (Or.inl ⟨rfl, rfl⟩) fun _ _ => not_false
  rw [hroom, visit_succ _ List.not_mem_nil, hopen, Walk.bind_of_ok rfl, Nat.add_sub_cancel, ← hrun]
  rfl

/-- A parse has the result of a load of a catalog with its text. -/
theorem parse_result :
    ((ofKind kind source depth).parse text name).result =
      ((ofKind kind (source.answering name text) depth).load name).result := by
  rw [(parse_alike kind source depth text name).result, (load_alike kind _ depth name).result,
    visit_answering]

/-- A parse has the diagnostics of a load of a catalog with its text. -/
theorem parse_diagnostics :
    ((ofKind kind source depth).parse text name).trace.diagnostics =
      ((ofKind kind (source.answering name text) depth).load name).trace.diagnostics := by
  rw [(parse_alike kind source depth text name).diagnostics,
    (load_alike kind _ depth name).diagnostics, visit_answering]
  rfl

/-! ## Depths beyond the number of catalogs -/

/-- All catalogs around a fault are held, none of them twice, so that no more can be open than are
held. -/
theorem load_avoids_tooDeep {held : Finset (List Char)} (hheld : ∀ x, source.Holds x → x ∈ held)
    (hcard : held.card < depth) (kind : Journal.LoaderKind) (name : List Char) :
    ((ofKind kind source depth).load name).Avoids LoadError.IsTooDeep := by
  rintro _ h ⟨c, limit, rfl⟩
  obtain ⟨position, q, hfirst, hpath, -⟩ := exists_firstFault h
  obtain ⟨-, -, hfull, -⟩ := (Point.hasFault hfirst.fault_eq).tooDeep_inv
  have hsubset : q.stack.toFinset ⊆ held := by
    intro x hx
    exact hheld x (hpath.holds x (List.mem_toFinset.1 hx))
  have hlength : q.stack.length ≤ held.card := by
    rw [← List.toFinset_card_of_nodup hpath.nodup]
    exact Finset.card_le_card hsubset
  omega

/-- Where no depth is exceeded, a path of includes that meets a catalog twice makes a load end in a
circle, unless a catalog on some path cannot be built. -/
theorem load_cycle_or_not_builds
    (hdeep : ((ofKind kind source depth).load name).Avoids LoadError.IsTooDeep)
    {path : List (List Char)} (hpath : source.IncludePath kind name path)
    (hrepeats : ¬ path.Nodup) :
    (∃ chain, ((ofKind kind source depth).load name).result = .error (.cycle chain)) ∨
      ∃ other, source.IncludePath kind name other ∧ ∃ x ∈ other, ¬ source.Builds kind x := by
  rcases ((ofKind kind source depth).load name).succeeds_or_fails with ⟨rules, hrules⟩ | ⟨e, he⟩
  · rw [(load_alike kind source depth name).result] at hrules
    exact absurd (visit_succeeds_iff_paths.1 ⟨rules, hrules⟩ path hpath).1 hrepeats
  · obtain ⟨position, q, hfirst, hplace, -⟩ := exists_firstFault he
    -- All errors that are left but that of a circle tell of a catalog that cannot be built.
    cases Point.hasFault hfirst.fault_eq with
    | cycle hitem hopen => exact Or.inl ⟨_, he⟩
    | tooDeep hitem hfresh hfull => exact absurd ⟨_, _, rfl⟩ (hdeep _ he)
    | notOpened hitem hfresh hroom hread =>
      refine Or.inr ⟨_, hplace.includePath hitem, _, List.mem_concat_self, ?_⟩
      rintro ⟨text, htext, -⟩
      cases hread.symm.trans htext
    | noCatalog hitem hfresh hroom hcontent htextual =>
      refine Or.inr ⟨_, hplace.includePath hitem, _, List.mem_concat_self, fun hbuilds => ?_⟩
      obtain ⟨items, hitems, -⟩ := Source.builds_iff.1 hbuilds
      cases hcontent.symm.trans hitems
    | noRule hitem hfields htextual =>
      rcases hplace.place with ⟨-, hroot⟩ | ⟨front, a, items, hstack, hinclude, hcontent, hmem⟩
      · cases hitem.symm.trans hroot
      · refine Or.inr ⟨_, hinclude, a, hstack ▸ List.mem_concat_self, fun hbuilds => ?_⟩
        obtain ⟨items', hitems, hcompiles⟩ := Source.builds_iff.1 hbuilds
        obtain rfl := Except.ok.inj (hcontent.symm.trans hitems)
        obtain ⟨r, hr⟩ := Rule.exists_ofFields_iff.2 (hcompiles _ _ _ (hitem ▸ hmem))
        cases hfields.symm.trans hr

end Loader

/-- The depth matters as a bound only. What does not run too deep, be it a load or a parse, is the
same for every larger depth, with its result and all that it leaves behind. Over a source of some
catalogs, no load runs too deep whose depth exceeds their number, and no parse whose depth exceeds
it by more than one; if a path of includes then meets a catalog twice, the error is one of a circle,
unless a catalog on some path cannot be built. -/
theorem depth_only_bounds (kind : Journal.LoaderKind) (source : Source) :
    (∀ depth more : ℕ+, depth ≤ more → ∀ name,
      ((Loader.ofKind kind source depth).load name).Avoids LoadError.IsTooDeep →
        (Loader.ofKind kind source more).load name = (Loader.ofKind kind source depth).load name) ∧
    (∀ depth more : ℕ+, depth ≤ more → ∀ text name,
      ((Loader.ofKind kind source depth).parse text name).Avoids LoadError.IsTooDeep →
        (Loader.ofKind kind source more).parse text name =
          (Loader.ofKind kind source depth).parse text name) ∧
    ∀ held : Finset (List Char), (∀ x, source.Holds x ↔ x ∈ held) → ∀ depth : ℕ+,
      (held.card < depth → ∀ name,
        ((Loader.ofKind kind source depth).load name).Avoids LoadError.IsTooDeep ∧
        ∀ path, source.IncludePath kind name path → ¬ path.Nodup →
          (∃ chain, ((Loader.ofKind kind source depth).load name).result = .error (.cycle chain)) ∨
            ∃ other, source.IncludePath kind name other ∧ ∃ x ∈ other, ¬ source.Builds kind x) ∧
      (held.card + 1 < depth → ∀ text name,
        ((Loader.ofKind kind source depth).parse text name).Avoids LoadError.IsTooDeep ∧
        ∀ path, (source.answering name text).IncludePath kind name path → ¬ path.Nodup →
          (∃ chain,
            ((Loader.ofKind kind source depth).parse text name).result = .error (.cycle chain)) ∨
            ∃ other, (source.answering name text).IncludePath kind name other ∧
              ∃ x ∈ other, ¬ (source.answering name text).Builds kind x) := by
  refine ⟨fun _ _ hle _ h => Loader.load_eq_of_le hle h,
    fun _ _ hle _ _ h => Loader.parse_eq_of_le hle h, fun held hheld depth => ⟨?_, ?_⟩⟩
  · intro hcard name
    have hdeep := Loader.load_avoids_tooDeep (fun x => (hheld x).1) hcard kind name
    exact ⟨hdeep, fun path hpath => Loader.load_cycle_or_not_builds hdeep hpath⟩
  · intro hcard text name
    -- A parsed text counts as one more catalog that can be opened.
    have hanswering : ∀ x, (source.answering name text).Holds x → x ∈ insert name held := by
      intro x hx
      rcases Source.holds_of_answering hx with rfl | hx
      · exact Finset.mem_insert_self _ _
      · exact Finset.mem_insert_of_mem ((hheld x).1 hx)
    have hdeep := Loader.load_avoids_tooDeep hanswering
      ((Finset.card_insert_le name held).trans_lt hcard) kind name
    refine ⟨fun e he => hdeep e (Loader.parse_result.symm.trans he), fun path hpath hrepeats => ?_⟩
    rw [Loader.parse_result]
    exact Loader.load_cycle_or_not_builds hdeep hpath hrepeats

/-- A circle is a path that comes back to its start. -/
theorem circleSource_path : circleSource.IncludePath .text ['a'] [['a'], ['b'], ['a']] := by
  have hab : circleSource.Includes .text ['a'] ['b'] :=
    ⟨_, rfl, [], "#include b".toList, ["#include c".toList], by decide +kernel,
      ⟨rfl, by decide⟩, by decide +kernel⟩
  have hba : circleSource.Includes .text ['b'] ['a'] :=
    ⟨_, rfl, [], "#include a".toList, [], by decide +kernel, ⟨rfl, by decide⟩, by decide +kernel⟩
  exact .cons hab (.cons hba .singleton)

/-- Two catalogs that include each other, with bounds beyond the number of catalogs. -/
theorem depth_only_bounds_circle :
    let L := Loader.ofKind .text circleSource
    (L 3).load ['a'] = (L 2).load ['a'] ∧
    (L 4).parse "#include a".toList ['c'] = (L 3).parse "#include a".toList ['c'] ∧
    ((L 4).parse "#include b".toList ['d']).Avoids LoadError.IsTooDeep ∧
    ((L 3).load ['a']).Avoids LoadError.IsTooDeep ∧
    ((∃ chain, ((L 3).load ['a']).result = .error (.cycle chain)) ∨
      ∃ other, circleSource.IncludePath .text ['a'] other ∧
        ∃ x ∈ other, ¬ circleSource.Builds .text x) := by
  intro L
  have hload : ((L 2).load ['a']).result = .error (.cycle [['a'], ['b'], ['a']]) :=
    Walk.error?_eq_some.1 (by decide +kernel)
  have hparse : ((L 3).parse "#include a".toList ['c']).result =
      .error (.cycle [['c'], ['a'], ['b'], ['a']]) := Walk.error?_eq_some.1 (by decide +kernel)
  have hheld : ∀ x, circleSource.Holds x ↔ x ∈ ({['a'], ['b']} : Finset (List Char)) := by
    simp [circleSource, Source.holds_ofList]
  obtain ⟨hmore, hmoreParse, hbound⟩ := depth_only_bounds .text circleSource
  obtain ⟨hdeep, hcircle⟩ := (hbound _ hheld 3).1 (by decide) ['a']
  refine ⟨hmore 2 3 (by decide) _ (Walk.avoids_of_error hload nofun),
    hmoreParse 3 4 (by decide) _ _ (Walk.avoids_of_error hparse nofun),
    ((hbound _ hheld 4).2 (by decide) _ ['d']).1, hdeep, hcircle _ circleSource_path (by decide)⟩

end PhoneticCatalog.Catalog
