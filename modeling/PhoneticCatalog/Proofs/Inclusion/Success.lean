import PhoneticCatalog.Proofs.Inclusion.Graph

/-!
# When a catalog can be loaded

A load succeeds exactly if every path of includes from its catalog on is sound: it runs through
catalogs that are held and can be built, through none of them twice, and through no more than may be
open at once (`load_succeeds_iff`).

A visit inside of other open catalogs succeeds exactly if the paths are sound that start at it,
where the open catalogs may not be met again and the room that is left bounds the length
(`Loader.visit_succeeds_iff_paths`). The proof is by induction on the room: one catalog more is one
more step on each path.
-/

namespace PhoneticCatalog.Catalog

namespace Loader

variable {kind : Journal.LoaderKind} {source : Source} {depth : ℕ+}

/-- One more catalog can be visited if it is not open, can be built, and so can be visited all that
it includes. -/
theorem visit_succ_succeeds_iff {room : Nat} {stack : List (List Char)} {name : List Char} :
    ((ofKind kind source depth).visit (room + 1) stack name).Succeeds ↔
      name ∉ stack ∧ source.Builds kind name ∧ ∀ b, source.Includes kind name b →
        ((ofKind kind source depth).visit room (stack ++ [name]) b).Succeeds := by
  by_cases hmem : name ∈ stack
  · rw [visit_of_mem _ hmem]
    exact ⟨nofun, fun h => absurd hmem h.1⟩
  cases hcontent : source.content kind name with
  | error e =>
    constructor
    · rintro ⟨rules, hrules⟩
      rw [(visit_of_error _ _ hmem hcontent).1] at hrules
      cases hrules
    · rintro ⟨-, hbuilds, -⟩
      obtain ⟨items, hitems, -⟩ := Source.builds_iff.1 hbuilds
      cases hcontent.symm.trans hitems
  | ok items =>
    -- A catalog with content succeeds if each of its items does.
    have hrun := runSteps_succeeds_iff (ofKind kind source depth)
      ((ofKind kind source depth).visit room (stack ++ [name])) (items.map Item.step)
    rw [Walk.Succeeds, (visit_of_content _ _ hmem hcontent).1, ← Walk.Succeeds, hrun,
      List.forall_mem_map]
    simp only [runStep_item_succeeds_iff, Source.builds_iff, Source.includes_iff, hcontent]
    constructor
    · intro h
      refine ⟨hmem, ⟨items, rfl, fun c place fields hitem => ?_⟩, fun b => ?_⟩
      · exact (h _ hitem).1 c place fields rfl
      · rintro ⟨items', heq, hitem⟩
        obtain rfl := Except.ok.inj heq
        exact (h _ hitem).2 b rfl
    · rintro ⟨-, ⟨items', heq, hbuilds⟩, hincludes⟩ item hitem
      obtain rfl := Except.ok.inj heq
      refine ⟨fun c place fields h => ?_, fun b h => ?_⟩
      · exact hbuilds c place fields (h ▸ hitem)
      · exact hincludes b ⟨items, rfl, h ▸ hitem⟩

/-- A visit succeeds exactly if all paths of includes from its catalog on are sound. -/
theorem visit_succeeds_iff_paths {room : Nat} {stack : List (List Char)} {name : List Char} :
    ((ofKind kind source depth).visit room stack name).Succeeds ↔
      ∀ path, source.IncludePath kind name path →
        path.Nodup ∧ (∀ x ∈ path, x ∉ stack) ∧ path.length ≤ room ∧
          ∀ x ∈ path, source.Builds kind x := by
  induction room generalizing stack name with
  | zero =>
    -- The path of the catalog alone is longer than nothing.
    constructor
    · rintro ⟨rules, hrules⟩
      by_cases hmem : name ∈ stack
      · rw [visit_of_mem _ hmem] at hrules; cases hrules
      · rw [visit_zero _ hmem] at hrules; cases hrules
    · intro h
      have hlength := (h [name] .singleton).2.2.1
      rw [List.length_singleton] at hlength
      omega
  | succ room ih =>
    rw [visit_succ_succeeds_iff]
    constructor
    · rintro ⟨hmem, hbuilds, hvisit⟩ path hpath
      rcases hpath.cases with rfl | ⟨b, rest, rfl, hb, hrest⟩
      · refine ⟨List.pairwise_singleton _ name, ?_, ?_, ?_⟩
        · exact List.forall_mem_singleton.2 hmem
        · rw [List.length_singleton]; omega
        · exact List.forall_mem_singleton.2 hbuilds
      · obtain ⟨hnodup, hfresh, hlength, hrest⟩ := ih.1 (hvisit b hb) rest hrest
        have hname : name ∉ rest := fun h => hfresh name h (List.mem_append_right _ (by simp))
        have hstack : ∀ x ∈ rest, x ∉ stack := fun x hx h =>
          hfresh x hx (List.mem_append_left _ h)
        refine ⟨List.nodup_cons.2 ⟨hname, hnodup⟩, ?_, ?_, ?_⟩
        · exact List.forall_mem_cons.2 ⟨hmem, hstack⟩
        · rw [List.length_cons]; omega
        · exact List.forall_mem_cons.2 ⟨hbuilds, hrest⟩
    · intro h
      obtain ⟨-, hmem, -, hbuilds⟩ := h [name] .singleton
      refine ⟨hmem name List.mem_cons_self, hbuilds name List.mem_cons_self, fun b hb => ?_⟩
      refine ih.2 fun path hpath => ?_
      obtain ⟨hnodup, hfresh, hlength, hbuilds⟩ := h (name :: path) (hpath.cons hb)
      obtain ⟨hname, hnodup⟩ := List.nodup_cons.1 hnodup
      rw [List.length_cons] at hlength
      refine ⟨hnodup, fun x hx hopen => ?_, by omega, fun x hx => ?_⟩
      · rcases List.mem_append.1 hopen with hopen | hopen
        · exact hfresh x (List.mem_cons_of_mem _ hx) hopen
        · obtain rfl := List.mem_singleton.1 hopen
          exact hname hx
      · exact hbuilds x (List.mem_cons_of_mem _ hx)

end Loader

/-- A load returns rules exactly if every path of includes from the catalog on runs through catalogs
that are held, through none of them twice, through no more than may be open at once, and if all of
their rules can be built. -/
theorem load_succeeds_iff (kind : Journal.LoaderKind) (source : Source) (depth : ℕ+)
    (name : List Char) :
    (∃ rules, ((Loader.ofKind kind source depth).load name).result = .ok rules) ↔
      ∀ path, source.IncludePath kind name path →
        (∀ x ∈ path, source.Holds x) ∧ path.Nodup ∧ path.length ≤ depth ∧
          ∀ x ∈ path, source.Builds kind x := by
  rw [(Loader.load_alike kind source depth name).result, ← Walk.Succeeds,
    Loader.visit_succeeds_iff_paths]
  refine forall_congr' fun path => imp_congr_right fun _ => ?_
  constructor
  · rintro ⟨hnodup, -, hlength, hbuilds⟩
    exact ⟨fun x hx => (hbuilds x hx).imp fun _ h => h.1, hnodup, hlength, hbuilds⟩
  · rintro ⟨-, hnodup, hlength, hbuilds⟩
    exact ⟨hnodup, fun _ _ => List.not_mem_nil, hlength, hbuilds⟩

end PhoneticCatalog.Catalog
