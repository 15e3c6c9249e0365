import PhoneticCatalog.Proofs.Inclusion.OpenCatalogs

/-!
# Lines that are skipped on the way

A walk leaves a diagnostic for each malformed line that it gets to, and it gets to all positions
below a point that come before the first fault (`Point.Reaches`, `Point.Skips`). The diagnostics of
a walk are those of the skipped lines, each of them once, in the order of the positions
(`Point.Records`); a line of a catalog that is visited several times has a position for each visit.

For the items of a catalog that is an induction on the items: as long as they succeed nothing below
them has a fault, and the first one that fails hides all that come after it
(`Point.exists_entries`).
-/

namespace PhoneticCatalog.Catalog

namespace Point

variable (kind : Journal.LoaderKind) (source : Source) (depth : ℕ+)

/-- A malformed line stands at a position, and the walk gets to it. -/
structure Skips (p : Point) (position : List Nat) (d : Diagnostic) : Prop where
  reaches : p.Reaches kind source depth position
  at_eq : ∃ stack, p.at? kind source position = some ⟨stack, .malformed d⟩

/-- The diagnostics are those of the lines that are skipped below a point, in the order of their
positions. -/
def Records (p : Point) (diagnostics : List Diagnostic) : Prop :=
  ∃ entries : List (List Nat × Diagnostic), entries.map Prod.snd = diagnostics ∧
    entries.Pairwise (fun a b => List.Lex (· < ·) a.1 b.1) ∧
    ∀ position d, (position, d) ∈ entries ↔ p.Skips kind source depth position d

variable {kind source depth} {p q : Point} {d : Diagnostic}

/-! ## Points without items below -/

/-- Nothing is skipped below a fault. -/
theorem not_skips_of_fault {e : LoadError} (h : p.fault? kind source depth = some e)
    (position : List Nat) : ¬ p.Skips kind source depth position d := by
  rintro ⟨hreaches, stack, hat⟩
  match position with
  | [] =>
    obtain rfl := Option.some.inj hat
    cases h
  | i :: rest => cases h.symm.trans (hreaches [] .nil)

/-- A rule is never skipped. -/
theorem not_skips_of_rule {stack : List (List Char)} {catalog : List Char} {place : RulePlace}
    {fields : RuleFields} (position : List Nat) :
    ¬ Skips kind source depth ⟨stack, .rule catalog place fields⟩ position d := by
  rintro ⟨-, stack', hat⟩
  match position with
  | [] => cases hat
  | i :: rest => cases hat

/-- A malformed line is skipped itself, and nothing is below it. -/
theorem skips_malformed_iff {stack : List (List Char)} {own : Diagnostic} {position : List Nat} :
    Skips kind source depth ⟨stack, .malformed own⟩ position d ↔ position = [] ∧ d = own := by
  constructor
  · rintro ⟨-, stack', hat⟩
    match position with
    | [] =>
      obtain ⟨-, hitem⟩ := Point.mk.inj (Option.some.inj hat)
      exact ⟨rfl, (Item.malformed.inj hitem).symm⟩
    | i :: rest => cases hat
  · rintro ⟨rfl, rfl⟩
    exact ⟨fun before hbefore => (nomatch hbefore), stack, rfl⟩

/-- Where nothing is skipped there is nothing to record. -/
theorem records_nil (h : ∀ position d, ¬ p.Skips kind source depth position d) :
    p.Records kind source depth [] :=
  ⟨[], rfl, .nil, fun position d => iff_of_false List.not_mem_nil (h position d)⟩

/-- A point with a fault records nothing, because nothing below it is reached. -/
theorem records_of_fault {e : LoadError} (h : p.fault? kind source depth = some e) :
    p.Records kind source depth [] :=
  records_nil fun position _ => not_skips_of_fault h position

/-! ## The items of a catalog -/

/-- Below a child that nothing comes before, lines are skipped as from the child itself. -/
theorem skips_cons_iff {before after : List Point} {position : List Nat}
    (hfault : p.fault? kind source depth = none)
    (hchildren : p.children kind source = before ++ q :: after)
    (hbefore : ∀ q ∈ before, q.Faultless kind source depth) :
    p.Skips kind source depth (before.length :: position) d ↔
      q.Skips kind source depth position d := by
  have hat : p.at? kind source (before.length :: position) = q.at? kind source position :=
    at?_cons (child_of_append hchildren)
  have hreaches : p.Reaches kind source depth (before.length :: position) ↔
      q.Reaches kind source depth position := reaches_cons_iff hfault hchildren hbefore
  constructor
  · rintro ⟨hp, stack, hstack⟩
    exact ⟨hreaches.1 hp, stack, hat ▸ hstack⟩
  · rintro ⟨hq, stack, hstack⟩
    exact ⟨hreaches.2 hq, stack, hat.trans hstack⟩

/-- The entries of a child, as entries of the point above. -/
def below (i : Nat) (entries : List (List Nat × Diagnostic)) : List (List Nat × Diagnostic) :=
  entries.map fun entry => (i :: entry.1, entry.2)

/-- Positions are moved below a child without changing the diagnostics. -/
theorem map_below (i : Nat) (entries : List (List Nat × Diagnostic)) :
    (below i entries).map Prod.snd = entries.map Prod.snd := by
  rw [below, List.map_map]
  rfl

/-- Positions stay in order when they are moved below a child. -/
theorem pairwise_below {entries : List (List Nat × Diagnostic)} (i : Nat)
    (h : entries.Pairwise fun a b => List.Lex (· < ·) a.1 b.1) :
    (below i entries).Pairwise fun a b => List.Lex (· < ·) a.1 b.1 :=
  List.pairwise_map.2 (h.imp List.Lex.cons)

/-- The positions below a child begin with its index. -/
theorem mem_below {entries : List (List Nat × Diagnostic)} {i : Nat} {position : List Nat} :
    (position, d) ∈ below i entries ↔ ∃ rest, position = i :: rest ∧ (rest, d) ∈ entries := by
  rw [below, List.mem_map]
  constructor
  · rintro ⟨⟨rest, d'⟩, hmem, heq⟩
    obtain ⟨rfl, rfl⟩ := Prod.mk.inj heq
    exact ⟨rest, rfl, hmem⟩
  · rintro ⟨rest, rfl, hmem⟩
    exact ⟨(rest, d), hmem, rfl⟩

/-- No walk gets to what comes after a child with a fault. -/
theorem not_reaches_of_firstFault {before after : List Point} {position later : List Nat} {i : Nat}
    {q' : Point} {e : LoadError} (hchildren : p.children kind source = before ++ q :: after)
    (h : q.FirstFault kind source depth position q' e) (hi : before.length < i) :
    ¬ p.Reaches kind source depth (i :: later) := by
  intro hreaches
  have hfault := hreaches (before.length :: position) (.rel hi)
  rw [at?_cons (child_of_append hchildren), h.at_eq, Option.bind_some, h.fault_eq] at hfault
  cases hfault

/-- The diagnostics of the items from one on are those of the lines that are skipped below them, if
all items before are faultless. -/
theorem exists_entries {L : Loader Rule} {splice : List Char → Walk (List Rule)}
    {stack : List (List Char)} (hfault : p.fault? kind source depth = none)
    (hagrees : ∀ item : Item,
      Agrees kind source depth ⟨stack, item⟩ (L.runStep splice item.step))
    (hrecords : ∀ item : Item,
      Records kind source depth ⟨stack, item⟩ (L.runStep splice item.step).trace.diagnostics)
    (items : List Item) (before : List Point)
    (hchildren : p.children kind source = before ++ items.map fun item => ⟨stack, item⟩)
    (hbefore : ∀ q ∈ before, q.Faultless kind source depth) :
    ∃ entries : List (List Nat × Diagnostic),
      entries.map Prod.snd = (L.runSteps splice (items.map Item.step)).trace.diagnostics ∧
      entries.Pairwise (fun a b => List.Lex (· < ·) a.1 b.1) ∧
      ∀ position d, (position, d) ∈ entries ↔
        p.Skips kind source depth position d ∧
          ∃ i rest, position = i :: rest ∧ before.length ≤ i := by
  induction items generalizing before with
  | nil =>
    refine ⟨[], rfl, .nil, fun position d => iff_of_false List.not_mem_nil ?_⟩
    rintro ⟨⟨-, stack', hat⟩, i, rest, rfl, hi⟩
    rw [List.map_nil, List.append_nil] at hchildren
    rw [at?_cons_none (by rw [hchildren]; exact List.getElem?_eq_none hi)] at hat
    cases hat
  | cons item items ih =>
    rw [List.map_cons] at hchildren
    obtain ⟨own, hown, hordered, hmem⟩ := hrecords item
    have hmemOwn : ∀ position d, (position, d) ∈ below before.length own ↔
        ∃ rest, position = before.length :: rest ∧ p.Skips kind source depth position d := by
      intro position d
      rw [mem_below]
      refine exists_congr fun rest => and_congr_right ?_
      rintro rfl
      rw [hmem, skips_cons_iff hfault hchildren hbefore]
    rw [List.map_cons, Loader.runSteps_cons]
    rcases (L.runStep splice item.step).succeeds_or_fails with hok | ⟨e, he⟩
    -- If the item succeeds, nothing below it has a fault, and the later items follow.
    · have hbefore' : ∀ q ∈ before ++ [⟨stack, item⟩], q.Faultless kind source depth := by
        rw [List.forall_mem_append]
        exact ⟨hbefore, List.forall_mem_singleton.2 ((hagrees item).faultless hok)⟩
      obtain ⟨later, hlater, horderedLater, hmemLater⟩ := ih (before ++ [⟨stack, item⟩])
        (by rw [hchildren, List.append_assoc, List.singleton_append]) hbefore'
      rw [List.length_append, List.length_singleton] at hmemLater
      refine ⟨below before.length own ++ later, ?_, ?_, fun position d => ?_⟩
      · rw [Walk.bind_of_ok hok.result_eq, Trace.diagnostics_append, Walk.trace_bind_pure,
          List.map_append, map_below, hown, hlater]
      · refine List.pairwise_append.2 ⟨pairwise_below _ hordered, horderedLater, ?_⟩
        rintro ⟨position, d⟩ hfirst ⟨position', d'⟩ hsecond
        obtain ⟨rest, rfl, -⟩ := (hmemOwn _ _).1 hfirst
        obtain ⟨-, i, rest', rfl, hi⟩ := (hmemLater _ _).1 hsecond
        exact .rel hi
      · rw [List.mem_append, hmemOwn, hmemLater]
        constructor
        · rintro (⟨rest, rfl, hskips⟩ | ⟨hskips, i, rest, rfl, hi⟩)
          · exact ⟨hskips, _, rest, rfl, le_rfl⟩
          · exact ⟨hskips, i, rest, rfl, Nat.le_of_succ_le hi⟩
        · rintro ⟨hskips, i, rest, rfl, hi⟩
          rcases Nat.eq_or_lt_of_le hi with rfl | hlt
          · exact Or.inl ⟨rest, rfl, hskips⟩
          · exact Or.inr ⟨hskips, i, rest, rfl, hlt⟩
    -- If it fails, the walk ends there.
    · obtain ⟨fault, q', -, hfirst, -⟩ := (hagrees item).firstFault e he
      refine ⟨below before.length own, ?_, pairwise_below _ hordered, fun position d => ?_⟩
      · rw [map_below, hown, Walk.bind_of_error he]
      · rw [hmemOwn]
        constructor
        · rintro ⟨rest, rfl, hskips⟩
          exact ⟨hskips, _, rest, rfl, le_rfl⟩
        · rintro ⟨hskips, i, rest, rfl, hi⟩
          rcases Nat.eq_or_lt_of_le hi with rfl | hlt
          · exact ⟨rest, rfl, hskips⟩
          · exact absurd hskips.reaches (not_reaches_of_firstFault hchildren hfirst hlt)

/-- A catalog records what its items do. -/
theorem Records.of_items {L : Loader Rule} {splice : List Char → Walk (List Rule)}
    {stack : List (List Char)} {name : List Char} {items : List Item}
    (hfault : fault? kind source depth ⟨stack, .inclusion name⟩ = none)
    (hcontent : source.content kind name = .ok items)
    (hagrees : ∀ item : Item,
      Agrees kind source depth ⟨stack ++ [name], item⟩ (L.runStep splice item.step))
    (hrecords : ∀ item : Item, Records kind source depth ⟨stack ++ [name], item⟩
      (L.runStep splice item.step).trace.diagnostics) :
    Records kind source depth ⟨stack, .inclusion name⟩
      (L.runSteps splice (items.map Item.step)).trace.diagnostics := by
  obtain ⟨entries, hmap, hpairwise, hmem⟩ := exists_entries hfault hagrees hrecords items []
    (children_of_content hcontent) fun _ h => absurd h List.not_mem_nil
  refine ⟨entries, hmap, hpairwise, fun position d => (hmem position d).trans ?_⟩
  refine ⟨And.left, fun hskips => ⟨hskips, ?_⟩⟩
  obtain ⟨stack', hat⟩ := hskips.at_eq
  match position with
  | [] => cases hat
  | i :: rest => exact ⟨i, rest, rfl, Nat.zero_le i⟩

/-- If includes record what is skipped below them, so do all items. -/
theorem Records.item {L : Loader Rule} {splice : List Char → Walk (List Rule)}
    {stack : List (List Char)}
    (h : ∀ b, Records kind source depth ⟨stack, .inclusion b⟩ (splice b).trace.diagnostics)
    (item : Item) :
    Records kind source depth ⟨stack, item⟩ (L.runStep splice item.step).trace.diagnostics := by
  cases item with
  | rule catalog place fields =>
    have hnone :
        (L.runStep splice (Item.rule catalog place fields).step).trace.diagnostics = [] := by
      rw [Item.step, Step.ofFields]
      split <;> rfl
    rw [hnone]
    exact records_nil fun position d => not_skips_of_rule position
  | inclusion b => exact h b
  | malformed own =>
    refine ⟨[([], own)], rfl, List.pairwise_singleton _ _, fun position d => ?_⟩
    rw [List.mem_singleton, Prod.mk.injEq, skips_malformed_iff]

end Point

/-! ## Visits and calls -/

namespace Loader

variable (kind : Journal.LoaderKind) (source : Source) (depth : ℕ+)

variable {kind source depth} in
/-- A visit leaves the diagnostics of the lines that are skipped below the include of its catalog.
-/
theorem visit_records {room : Nat} {stack : List (List Char)} (hroom : stack.length + room = depth)
    (name : List Char) :
    Point.Records kind source depth ⟨stack, .inclusion name⟩
      ((ofKind kind source depth).visit room stack name).trace.diagnostics := by
  -- By induction on the room, which together with the open catalogs makes up the depth.
  induction room generalizing stack name with
  | zero =>
    by_cases hmem : name ∈ stack
    · rw [visit_of_mem _ hmem]
      exact Point.records_of_fault (Point.fault?_of_mem hmem)
    · rw [visit_zero _ hmem]
      exact Point.records_of_fault (Point.fault?_of_full hmem (by omega))
  | succ room ih =>
    by_cases hmem : name ∈ stack
    · rw [visit_of_mem _ hmem]
      exact Point.records_of_fault (Point.fault?_of_mem hmem)
    have hfault := Point.fault?_of_room kind source hmem (show stack.length < depth by omega)
    cases hcontent : source.content kind name with
    | error e =>
      rw [hcontent] at hfault
      rw [(visit_of_error depth room hmem hcontent).2.1]
      exact Point.records_of_fault hfault
    | ok items =>
      rw [hcontent] at hfault
      obtain ⟨-, hdiagnostics, -⟩ := visit_of_content depth room hmem hcontent
      have hlength : (stack ++ [name]).length + room = depth := by
        rw [List.length_append, List.length_singleton]
        omega
      rw [hdiagnostics]
      exact .of_items hfault hcontent (.item fun b => visit_agrees hlength b)
        (.item fun b => ih hlength b)

/-- A call leaves the diagnostics of the lines that are skipped below the include of its catalog. -/
theorem answer_records (call : Call) :
    Point.Records kind (call.view source) depth ⟨[], .inclusion call.name⟩
      ((ofKind kind source depth).answer call).trace.diagnostics := by
  have hvisit : Point.Records kind (call.view source) depth ⟨[], .inclusion call.name⟩
      ((ofKind kind (call.view source) depth).load call.name).trace.diagnostics := by
    rw [(load_alike kind _ depth call.name).diagnostics]
    exact visit_records (Nat.zero_add _) call.name
  cases call with
  | load name => exact hvisit
  | parse text name =>
    rw [answer, parse_diagnostics]
    exact hvisit

/-- A call succeeds only if no position below the include of its catalog has a fault, and fails in
the first one that has. -/
theorem answer_ends (call : Call) :
    (((ofKind kind source depth).answer call).Succeeds →
      Point.Faultless kind (call.view source) depth ⟨[], .inclusion call.name⟩) ∧
    ∀ e, ((ofKind kind source depth).answer call).result = .error e → ∃ position q,
      Point.FirstFault kind (call.view source) depth ⟨[], .inclusion call.name⟩ position q e := by
  have hresult : ((ofKind kind source depth).answer call).result =
      ((ofKind kind (call.view source) depth).visit depth [] call.name).result := by
    rw [← (load_alike kind _ depth call.name).result]
    cases call with
    | load name => rfl
    | parse text name => exact parse_result
  have hagrees : Point.Agrees kind (call.view source) depth ⟨[], .inclusion call.name⟩
      ((ofKind kind (call.view source) depth).visit depth [] call.name) :=
    visit_agrees (Nat.zero_add _) call.name
  rw [Walk.Succeeds, hresult]
  refine ⟨hagrees.faultless, fun e he => ?_⟩
  obtain ⟨position, q, -, hfirst, -⟩ := hagrees.firstFault e he
  exact ⟨position, q, hfirst⟩

end Loader

end PhoneticCatalog.Catalog
