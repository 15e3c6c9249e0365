import PhoneticCatalog.Proofs.Inclusion.Graph

/-!
# Includes do not depend on where they stand

A visit that succeeds inside of some open catalogs succeeds in the same way inside of fewer of them
and with more room (`Loader.visit_eq`). An included catalog is therefore read as if it were loaded
on its own, and a load brings together what its items bring: a rule itself, an include all that the
load of its catalog gives (`load_eq_flatMap`).

Whether a block comment is open is a matter of the lines of one text only, so that a comment which
an included catalog leaves open ends with it.
-/

namespace PhoneticCatalog.Catalog

namespace Loader

/-- The rules that an item brings into its catalog. -/
def rulesOf (L : Loader Rule) : Item → List Rule
  | .rule _ _ fields =>
    match Rule.ofFields fields with
    | .ok r => [r]
    | .error _ => []
  | .inclusion name => (L.load name).yield
  | .malformed _ => []

/-- The diagnostics that an item brings into its catalog. -/
def diagnosticsOf (L : Loader Rule) : Item → List Diagnostic
  | .rule .. => []
  | .inclusion name => (L.load name).trace.diagnostics
  | .malformed d => [d]

section Load

variable {kind : Journal.LoaderKind} {source : Source} {depth : ℕ+} {room : Nat}
  {stack : List (List Char)}

/-- A catalog that can be visited inside of others can be loaded, to the same effect. -/
theorem load_alike_visit {b : List Char} (hroom : room ≤ depth)
    (h : ((ofKind kind source depth).visit room stack b).Succeeds) :
    ((ofKind kind source depth).load b).Alike ((ofKind kind source depth).visit room stack b) := by
  obtain ⟨rules, hrules⟩ := h
  have havoids : ((ofKind kind source depth).visit room stack b).Avoids fun _ => True := by
    intro e he
    cases hrules.symm.trans he
  have hvisit : (ofKind kind source depth).visit depth [] b =
      (ofKind kind source depth).visit room stack b :=
    visit_eq rfl (fun _ _ => rfl) (Or.inr ⟨hroom, fun _ _ => trivial⟩)
      (Or.inr ⟨List.nil_subset stack, fun _ => trivial⟩) havoids
  rw [← hvisit]
  exact load_alike kind source depth b

/-- An item that is carried out inside of open catalogs yields what it brings into its catalog. -/
theorem runStep_eq_rulesOf (hroom : room ≤ depth) {item : Item}
    (h : ((ofKind kind source depth).runStep
      ((ofKind kind source depth).visit room stack) item.step).Succeeds) :
    ((ofKind kind source depth).runStep
        ((ofKind kind source depth).visit room stack) item.step).yield =
      (ofKind kind source depth).rulesOf item ∧
    ((ofKind kind source depth).runStep
        ((ofKind kind source depth).visit room stack) item.step).trace.diagnostics =
      (ofKind kind source depth).diagnosticsOf item := by
  cases item with
  | rule c place fields =>
    obtain ⟨r, hr⟩ := Rule.exists_ofFields_iff.2
      (((runStep_item_succeeds_iff _ _ _).1 h).1 c place fields rfl)
    rw [runStep_rule _ _ hr, rulesOf, hr]
    exact ⟨rfl, rfl⟩
  | inclusion b =>
    have hvisit := ((runStep_item_succeeds_iff _ _ _).1 h).2 b rfl
    have halike := load_alike_visit hroom hvisit
    refine ⟨?_, halike.diagnostics.symm⟩
    rw [rulesOf, Walk.yield_of_ok (halike.result.trans hvisit.result_eq)]
    rfl
  | malformed d => exact ⟨rfl, rfl⟩

/-- A load brings together what its items bring. -/
theorem load_eq_flatMap {a : List Char} {rules : List Rule}
    (h : ((ofKind kind source depth).load a).result = .ok rules) :
    ∃ items, source.content kind a = .ok items ∧
      (∀ c place fields, .rule c place fields ∈ items → ∃ r, Rule.ofFields fields = .ok r) ∧
      (∀ b, .inclusion b ∈ items → ((ofKind kind source depth).load b).Succeeds) ∧
      rules = items.flatMap (ofKind kind source depth).rulesOf ∧
      ((ofKind kind source depth).load a).trace.diagnostics =
        items.flatMap (ofKind kind source depth).diagnosticsOf := by
  obtain ⟨room, hroom⟩ : ∃ room, (depth : ℕ) = room + 1 :=
    ⟨depth - 1, by have := depth.pos; omega⟩
  have halike := load_alike kind source depth a
  rw [hroom] at halike
  have hvisit := halike.result.symm.trans h
  cases hcontent : source.content kind a with
  | error e =>
    rw [(visit_of_error _ _ List.not_mem_nil hcontent).1] at hvisit
    cases hvisit
  | ok items =>
    obtain ⟨hresult, hdiagnostics, -⟩ := visit_of_content depth room List.not_mem_nil hcontent
    have hsteps := (runSteps_succeeds_iff _ _ _).1 ⟨rules, hresult.symm.trans hvisit⟩
    have hitems := List.forall_mem_map.1 hsteps
    -- The items are carried out inside of their own catalog, where less room is left.
    obtain ⟨hrules, hdiags, -⟩ := runSteps_of_succeeds _ _ hsteps
    have hbrings := fun item hitem => runStep_eq_rulesOf (by omega) (hitems item hitem)
    rw [List.flatMap_map] at hrules hdiags
    rw [List.flatMap_congr fun item hitem => (hbrings item hitem).1] at hrules
    rw [List.flatMap_congr fun item hitem => (hbrings item hitem).2] at hdiags
    refine ⟨items, rfl, fun c place fields hitem => ?_, fun b hitem => ?_, ?_, ?_⟩
    · exact Rule.exists_ofFields_iff.2
        (((runStep_item_succeeds_iff _ _ _).1 (hitems _ hitem)).1 c place fields rfl)
    · have hb := ((runStep_item_succeeds_iff _ _ _).1 (hitems _ hitem)).2 b rfl
      exact ⟨_, (load_alike_visit (by omega) hb).result.trans hb.result_eq⟩
    · exact Except.ok.inj ((hresult.symm.trans hvisit).symm.trans hrules)
    · rw [halike.diagnostics, hdiagnostics, hdiags]

end Load

end Loader

/-- The items on lines that follow an include start outside of block comments. -/
theorem linesItems_inclusion (catalog : List Char) {before after : List (List Char)}
    {raw b : List Char} (houtside : OutsideBlocks before raw)
    (hraw : LineContent.ofLine raw = .include b) :
    linesItems catalog false 1 (before ++ raw :: after) =
      linesItems catalog false 1 before ++
        .inclusion b :: linesItems catalog false (before.length + 2) after := by
  obtain ⟨hopen, hstart⟩ := houtside
  have hnumber : 1 + before.length + 1 = before.length + 2 := by omega
  have hclosed : blockAfter false raw = false := hstart
  have hlines : codeLines false (1 + before.length) (raw :: after) =
      (1 + before.length, raw) :: codeLines false (before.length + 2) after := by
    rw [codeLines, hstart, if_neg (by decide), hclosed, hnumber]
  rw [linesItems_append, hopen]
  refine congrArg (linesItems catalog false 1 before ++ ·) ?_
  rw [linesItems, hlines, List.filterMap_cons_some (lineItem?_eq_inclusion.2 hraw)]
  rfl

/-- Includes are spliced in, whatever the loader was doing when it met them. If a catalog is loaded,
so are on their own all catalogs that it includes, and its rules and diagnostics are those of its
items, in the order of the text, where an include stands for the load of its catalog. In a text, the
lines after an include are read outside of block comments, whatever the included catalog ends with.
-/
theorem load_splices_includes (kind : Journal.LoaderKind) (source : Source) (depth : ℕ+)
    {a : List Char} {rules : List Rule}
    (h : ((Loader.ofKind kind source depth).load a).result = .ok rules) :
    let L := Loader.ofKind kind source depth
    (∀ b, source.Includes kind a b → ∃ included, (L.load b).result = .ok included) ∧
    (∃ items, source.content kind a = .ok items ∧
      (∀ c place fields, .rule c place fields ∈ items → ∃ r, Rule.ofFields fields = .ok r) ∧
      rules = items.flatMap L.rulesOf ∧
      (L.load a).trace.diagnostics = items.flatMap L.diagnosticsOf) ∧
    (kind = .text → ∀ text before raw after b, (source.read a).result = .ok text →
      Text.splitLines text = before ++ raw :: after → OutsideBlocks before raw →
      LineContent.ofLine raw = .include b →
      rules = (linesItems a false 1 before).flatMap L.rulesOf ++ (L.load b).yield ++
        (linesItems a false (before.length + 2) after).flatMap L.rulesOf) := by
  obtain ⟨items, hcontent, hbuilt, hloaded, hrules, hdiagnostics⟩ := Loader.load_eq_flatMap h
  refine ⟨fun b hb => ?_, ⟨items, hcontent, hbuilt, hrules, hdiagnostics⟩, ?_⟩
  · obtain ⟨items', hcontent', hmem⟩ := Source.includes_iff.1 hb
    obtain rfl := Except.ok.inj (hcontent.symm.trans hcontent')
    exact hloaded b hmem
  · rintro rfl text before raw after b hread hlines houtside hraw
    -- The lines before and after the include are read on their own, so that the items come in three
    -- parts.
    have hitems : itemsOf .text a text = .ok items :=
      (Source.content_of_read hread).symm.trans hcontent
    obtain rfl := Except.ok.inj hitems
    rw [hrules, textItems, hlines, linesItems_inclusion a houtside hraw, List.flatMap_append,
      List.flatMap_cons, List.append_assoc]
    rfl

/-- A catalog with a rule on either side of an include, and one that leaves a comment open. -/
def openCommentSource : Source :=
  .ofList [(['a'], "x '' '' x\n#include b\ny '' '' y".toList), (['b'], "/* open".toList)]

/-- A catalog with an open block comment does not comment out the lines behind its inclusion. -/
theorem load_splices_open_comment :
    let L := Loader.ofKind .text openCommentSource 2
    ∃ rules, (L.load ['a']).result = .ok rules ∧
      rules = (linesItems ['a'] false 1 ["x '' '' x".toList]).flatMap L.rulesOf
        ++ (L.load ['b']).yield
        ++ (linesItems ['a'] false 3 ["y '' '' y".toList]).flatMap L.rulesOf := by
  obtain ⟨rules, h⟩ : ((Loader.ofKind .text openCommentSource 2).load ['a']).Succeeds :=
    Walk.error?_eq_none.1 (by decide +kernel)
  obtain ⟨-, -, hsplice⟩ := load_splices_includes .text openCommentSource 2 h
  refine ⟨rules, h, hsplice rfl _ ["x '' '' x".toList] "#include b".toList ["y '' '' y".toList]
    ['b'] rfl ?_ ⟨?_, ?_⟩ ?_⟩ <;> decide +kernel

end PhoneticCatalog.Catalog
