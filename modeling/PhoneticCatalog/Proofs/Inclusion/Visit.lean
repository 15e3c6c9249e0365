import PhoneticCatalog.Proofs.Inclusion.Content

/-!
# Visits

How a visit of a catalog goes on depends on the content of the catalog: if there is none, the visit
ends with the reason (`visit_of_error`), and otherwise it carries out the items
(`visit_of_content`). An item of a rule succeeds if both contexts can be read, and an include if the
visit of the included catalog does (`runStep_item_succeeds_iff`).

Properties of all visits are proved by `visit_induction`, which has a case for each way in which a
visit goes. `visit_eq` compares visits of one catalog that differ in the room that is left, in the
catalogs that are open or in the source. A load and a parse are such walks, counters and events
aside (`load_alike`, `parse_alike`).
-/

namespace PhoneticCatalog

/-! ## Rules -/

/-- A result comes with the reason that it is one. -/
theorem witnessed_of_ok {ε α : Type} {x : Except ε α} {a : α} (h : x = .ok a) :
    witnessed x = .ok ⟨a, h⟩ := by
  subst h
  rfl

/-- A context is read exactly if its text can be. -/
theorem exists_readContext_iff {text : List Char} :
    (∃ s, readContext text = .ok s) ↔ ∃ s, Context.Search.read text = .ok s := by
  constructor
  · rintro ⟨s, -⟩
    exact ⟨s.1, s.2⟩
  · rintro ⟨s, hs⟩
    refine ⟨⟨s, hs⟩, ?_⟩
    rw [readContext, witnessed_of_ok hs]
    rfl

/-- Both contexts of a rule can be read. -/
def RuleFields.Compiles (fields : RuleFields) : Prop :=
  (∃ s, Context.Search.read fields.leftText = .ok s) ∧
    ∃ s, Context.Search.read fields.rightText = .ok s

/-- A rule exists exactly if both of its contexts can be read. -/
theorem Rule.exists_ofFields_iff {fields : RuleFields} :
    (∃ r, ofFields fields = .ok r) ↔ fields.Compiles := by
  rw [RuleFields.Compiles, ← exists_readContext_iff, ← exists_readContext_iff]
  constructor
  · rintro ⟨r, hr⟩
    cases hleft : readContext fields.leftText with
    | error e => rw [ofFields, hleft] at hr; cases hr
    | ok left =>
      cases hright : readContext fields.rightText with
      | error e => rw [ofFields, hleft, hright] at hr; cases hr
      | ok right => exact ⟨⟨left, rfl⟩, right, rfl⟩
  · rintro ⟨⟨left, hleft⟩, right, hright⟩
    refine ⟨⟨fields, left.1, right.1, left.2, right.2⟩, ?_⟩
    rw [ofFields, hleft, hright]
    rfl

namespace Catalog

namespace Loader

section Visit

variable {ρ : Type} (L : Loader ρ) {room : Nat} {stack : List (List Char)} {name : List Char}

/-- A catalog is opened with the text that its source holds. -/
theorem openCatalog_of_read {text : List Char} (h : (L.source.read name).result = .ok text) :
    (L.openCatalog name).result = .ok text :=
  congrArg (Except.mapError (LoadError.notOpened name)) h

/-- A catalog that cannot be opened is reported by its name. -/
theorem openCatalog_of_fault {fault : OpenFault}
    (h : (L.source.read name).result = .error fault) :
    (L.openCatalog name).result = .error (.notOpened name fault) :=
  congrArg (Except.mapError (LoadError.notOpened name)) h

variable {L} in
/-- What comes after a catalog that could be opened goes on with its text. -/
theorem openCatalog_bind_of_read {α : Type} {text : List Char}
    (h : (L.source.read name).result = .ok text) (f : List Char → Walk α) :
    (L.openCatalog name >>= f) =
      Walk.leave { opened := [name], events := (L.source.read name).events } >>=
        fun _ => f text := by
  rw [Walk.bind_of_ok (L.openCatalog_of_read h)]
  rfl

variable {L} in
/-- A catalog that cannot be opened is asked for, and then the walk fails. -/
theorem openCatalog_bind_of_fault {α : Type} {fault : OpenFault}
    (h : (L.source.read name).result = .error fault) (f : List Char → Walk α) :
    (L.openCatalog name >>= f) =
      Walk.leave { opened := [name], events := (L.source.read name).events } >>= fun _ =>
        Walk.fail (.notOpened name fault) := by
  rw [Walk.bind_of_error (L.openCatalog_of_fault h), Walk.leave_bind]
  exact Walk.ext (Trace.append_empty _).symm rfl

/-- A catalog that is open already is not opened again. -/
theorem visit_of_mem (h : name ∈ stack) :
    L.visit room stack name = Walk.fail (.cycle (stack ++ [name])) := by
  cases room <;> exact if_pos h

/-- Where no room is left nothing is opened. -/
theorem visit_zero (h : name ∉ stack) :
    L.visit 0 stack name = Walk.fail (.tooDeep name L.maxDepth) := if_neg h

/-- Otherwise the catalog is opened, and its steps are carried out with less room. -/
theorem visit_succ (h : name ∉ stack) :
    L.visit (room + 1) stack name =
      (L.openCatalog name >>= fun text =>
        Walk.leave { counters := { catalogs := 1 } } >>= fun _ =>
          L.runSteps (L.visit room (stack ++ [name])) (L.format.steps name text)) := if_neg h

/-- To prove something of all visits, it is proved where a catalog is open already, where no room is
left and where the source refuses a catalog, and carried over from the visits of included catalogs
to the run of a text. -/
theorem visit_induction {motive : Nat → List (List Char) → List Char → Walk (List ρ) → Prop}
    (cycle : ∀ room stack name, name ∈ stack →
      motive room stack name (Walk.fail (.cycle (stack ++ [name]))))
    (full : ∀ stack name, name ∉ stack →
      motive 0 stack name (Walk.fail (.tooDeep name L.maxDepth)))
    (refused : ∀ room stack name fault, name ∉ stack →
      (L.source.read name).result = .error fault →
      motive (room + 1) stack name
        (Walk.leave { opened := [name], events := (L.source.read name).events } >>= fun _ =>
          Walk.fail (.notOpened name fault)))
    (run : ∀ room stack name text, name ∉ stack → (L.source.read name).result = .ok text →
      (∀ b, motive room (stack ++ [name]) b (L.visit room (stack ++ [name]) b)) →
      motive (room + 1) stack name
        (Walk.leave { opened := [name], events := (L.source.read name).events } >>= fun _ =>
          Walk.leave { counters := { catalogs := 1 } } >>= fun _ =>
            L.runSteps (L.visit room (stack ++ [name])) (L.format.steps name text)))
    (room : Nat) (stack : List (List Char)) (name : List Char) :
    motive room stack name (L.visit room stack name) := by
  induction room generalizing stack name with
  | zero =>
    by_cases hmem : name ∈ stack
    · rw [visit_of_mem L hmem]
      exact cycle 0 stack name hmem
    · rw [visit_zero L hmem]
      exact full stack name hmem
  | succ room ih =>
    by_cases hmem : name ∈ stack
    · rw [visit_of_mem L hmem]
      exact cycle (room + 1) stack name hmem
    rw [visit_succ L hmem]
    cases hread : (L.source.read name).result with
    | error fault =>
      rw [openCatalog_bind_of_fault hread]
      exact refused room stack name fault hmem hread
    | ok text =>
      rw [openCatalog_bind_of_read hread]
      exact run room stack name text hmem hread (ih (stack ++ [name]))

/-- A visit with a result has opened its catalog and carried out the steps of its text. -/
theorem exists_run_of_visit {rules : List ρ} (h : (L.visit room stack name).result = .ok rules) :
    ∃ room' text, room = room' + 1 ∧ name ∉ stack ∧ (L.source.read name).result = .ok text ∧
      (L.runSteps (L.visit room' (stack ++ [name])) (L.format.steps name text)).result =
        .ok rules := by
  by_cases hmem : name ∈ stack
  · rw [visit_of_mem L hmem] at h
    cases h
  cases room with
  | zero =>
    rw [visit_zero L hmem] at h
    cases h
  | succ room =>
    rw [visit_succ L hmem] at h
    cases hread : (L.source.read name).result with
    | error fault =>
      rw [Walk.bind_of_error (L.openCatalog_of_fault hread)] at h
      cases h
    | ok text =>
      rw [Walk.bind_of_ok (L.openCatalog_of_read hread)] at h
      exact ⟨room, text, rfl, hmem, rfl, h⟩

end Visit

variable {kind : Journal.LoaderKind} {source : Source} {stack : List (List Char)}
  {name : List Char}

/-- A catalog without content ends the visit, after it was requested. -/
theorem visit_of_error (depth : ℕ+) (room : Nat) {e : LoadError} (h : name ∉ stack)
    (hcontent : source.content kind name = .error e) :
    ((ofKind kind source depth).visit (room + 1) stack name).result = .error e ∧
    ((ofKind kind source depth).visit (room + 1) stack name).trace.diagnostics = [] ∧
    ((ofKind kind source depth).visit (room + 1) stack name).trace.opened = [name] := by
  rw [visit_succ _ h]
  cases hread : (source.read name).result with
  | error fault =>
    rw [Source.content_of_error hread] at hcontent
    obtain rfl := Except.error.inj hcontent
    rw [Walk.bind_of_error ((ofKind kind source depth).openCatalog_of_fault hread)]
    exact ⟨rfl, rfl, rfl⟩
  | ok text =>
    rw [Source.content_of_read hread] at hcontent
    have hsteps : (ofKind kind source depth).format.steps name text = [.abort e] :=
      steps_of_error hcontent
    rw [Walk.bind_of_ok ((ofKind kind source depth).openCatalog_of_read hread), hsteps]
    exact ⟨rfl, rfl, rfl⟩

/-- A visit of a catalog with content carries out its items. -/
theorem visit_of_content (depth : ℕ+) (room : Nat) {items : List Item} (h : name ∉ stack)
    (hcontent : source.content kind name = .ok items) :
    let L := ofKind kind source depth
    let run := L.runSteps (L.visit room (stack ++ [name])) (items.map Item.step)
    (L.visit (room + 1) stack name).result = run.result ∧
    (L.visit (room + 1) stack name).trace.diagnostics = run.trace.diagnostics ∧
    (L.visit (room + 1) stack name).trace.opened = name :: run.trace.opened := by
  intro L run
  obtain ⟨text, hread⟩ := Source.holds_of_content hcontent
  rw [Source.content_of_read hread] at hcontent
  have halike := L.runSteps_alike_filter (L.visit room (stack ++ [name])) (L.format.steps name text)
  -- The steps without an item leave the result, the diagnostics and the requests alone.
  have hfilter : (L.format.steps name text).filter Step.isItem = items.map Item.step :=
    filter_steps hcontent
  rw [hfilter] at halike
  rw [visit_succ L h, Walk.bind_of_ok (L.openCatalog_of_read hread), Walk.leave_bind]
  refine ⟨halike.result, ?_, ?_⟩
  · rw [← halike.diagnostics]; rfl
  · rw [← halike.opened]; rfl

/-! ## Items -/

section Items

variable (L : Loader Rule) (splice : List Char → Walk (List Rule))

/-- A rule yields itself, if it exists. -/
theorem runStep_rule {catalog : List Char} {place : RulePlace} {fields : RuleFields} {r : Rule}
    (h : Rule.ofFields fields = .ok r) :
    L.runStep splice (Item.rule catalog place fields).step = ⟨{}, .ok [r]⟩ := by
  rw [Item.step, Step.ofFields, h]
  rfl

/-- A rule that does not exist ends the run. -/
theorem runStep_rule_of_error {catalog : List Char} {place : RulePlace} {fields : RuleFields}
    {e : ContextError} (h : Rule.ofFields fields = .error e) :
    L.runStep splice (Item.rule catalog place fields).step =
      Walk.fail (.ofContext catalog place e) := by
  rw [Item.step, Step.ofFields, h]
  rfl

/-- An item succeeds if its rule exists or its catalog is read. -/
theorem runStep_item_succeeds_iff (item : Item) :
    (L.runStep splice item.step).Succeeds ↔
      (∀ c place fields, item = .rule c place fields → fields.Compiles) ∧
      ∀ b, item = .inclusion b → (splice b).Succeeds := by
  -- A rule has to compile, an include has to succeed, and a malformed line never fails.
  cases item with
  | rule c place fields =>
    constructor
    · rintro ⟨rules, hrules⟩
      refine ⟨fun _ _ _ heq => ?_, nofun⟩
      obtain ⟨-, -, rfl⟩ := Item.rule.inj heq
      cases hr : Rule.ofFields fields with
      | ok r => exact Rule.exists_ofFields_iff.1 ⟨r, hr⟩
      | error e => rw [runStep_rule_of_error L splice hr] at hrules; cases hrules
    · rintro ⟨h, -⟩
      obtain ⟨r, hr⟩ := Rule.exists_ofFields_iff.2 (h c place fields rfl)
      exact ⟨[r], by rw [runStep_rule L splice hr]⟩
  | inclusion b =>
    constructor
    · intro h
      refine ⟨nofun, fun b' heq => ?_⟩
      obtain rfl := Item.inclusion.inj heq
      exact h
    · rintro ⟨-, h⟩
      exact h b rfl
  | malformed d =>
    refine ⟨fun _ => ⟨nofun, nofun⟩, fun _ => ?_⟩
    exact ⟨[], rfl⟩

end Items

/-! ## Visits that are the same -/

section Congr

variable {ρ : Type} {L L' : Loader ρ} {kind : LoadError → Prop} {room room' : Nat}
  {stack stack' : List (List Char)} {name : List Char}

/-- A visit of a catalog that is open fails alike on every stack that holds it, or fails in a way
that is not avoided. -/
private theorem visit_eq_of_mem (hmem : name ∈ stack)
    (hstack : stack' = stack ∨ stack' ⊆ stack ∧ ∀ chain, kind (.cycle chain))
    (h : (L.visit room stack name).Avoids kind) :
    L'.visit room' stack' name = L.visit room stack name := by
  rw [visit_of_mem L hmem] at h ⊢
  rcases hstack with rfl | ⟨-, hcycle⟩
  · rw [visit_of_mem L' hmem]
  · exact absurd (hcycle _) (h _ rfl)

/-- Visits are the same over sources that differ on open catalogs only. Those that avoid errors of
depth are also the same with more room, and those that avoid circles inside of fewer open catalogs.
-/
theorem visit_eq (hformat : L'.format = L.format)
    (hsource : ∀ x, x ∉ stack → L'.source.read x = L.source.read x)
    (hroom : room' = room ∧ L'.maxDepth = L.maxDepth ∨
      room ≤ room' ∧ ∀ b limit, kind (.tooDeep b limit))
    (hstack : stack' = stack ∨ stack' ⊆ stack ∧ ∀ chain, kind (.cycle chain))
    (h : (L.visit room stack name).Avoids kind) :
    L'.visit room' stack' name = L.visit room stack name := by
  induction room generalizing room' stack stack' name with
  | zero =>
    by_cases hmem : name ∈ stack
    · exact visit_eq_of_mem hmem hstack h
    have hmem' : name ∉ stack' := fun hname =>
      hmem (hstack.elim (fun heq => heq ▸ hname) fun hfewer => hfewer.1 hname)
    rw [visit_zero L hmem] at h ⊢
    rcases hroom with ⟨rfl, hdepth⟩ | ⟨-, hdeep⟩
    · rw [visit_zero L' hmem', hdepth]
    · exact absurd (hdeep _ _) (h _ rfl)
  | succ room ih =>
    by_cases hmem : name ∈ stack
    · exact visit_eq_of_mem hmem hstack h
    have hmem' : name ∉ stack' := fun hname =>
      hmem (hstack.elim (fun heq => heq ▸ hname) fun hfewer => hfewer.1 hname)
    obtain ⟨room', rfl⟩ : ∃ r, room' = r + 1 := ⟨room' - 1, by omega⟩
    have hroom' : room' = room ∧ L'.maxDepth = L.maxDepth ∨
        room ≤ room' ∧ ∀ b limit, kind (.tooDeep b limit) :=
      hroom.imp (And.imp_left Nat.succ.inj) (And.imp_left Nat.le_of_succ_le_succ)
    have hsource' : ∀ x, x ∉ stack ++ [name] → L'.source.read x = L.source.read x :=
      fun x hx => hsource x fun hopen => hx (List.mem_append_left _ hopen)
    have hstack' : stack' ++ [name] = stack ++ [name] ∨
        stack' ++ [name] ⊆ stack ++ [name] ∧ ∀ chain, kind (.cycle chain) :=
      hstack.imp (congrArg (· ++ [name])) (And.imp_left fun hfewer =>
        List.append_subset.2 ⟨List.subset_append_of_subset_left _ hfewer,
          List.subset_append_right _ _⟩)
    have hopen : L'.openCatalog name = L.openCatalog name := by
      rw [openCatalog, openCatalog, hsource name hmem]
    rw [visit_succ L hmem] at h
    rw [visit_succ L hmem, visit_succ L' hmem', hopen, hformat]
    cases htext : (L.openCatalog name).result with
    | error e => rw [Walk.bind_of_error htext, Walk.bind_of_error htext]
    | ok text =>
      -- Both carry out the same steps, and the included catalogs are read alike by induction.
      have hrun := (h.of_bind_ok htext).of_bind_ok rfl
      rw [Walk.bind_of_ok htext, Walk.bind_of_ok htext, Walk.leave_bind, Walk.leave_bind,
        L.runSteps_congr _ (congrArg Format.kind hformat)
          (fun b _ hb => ih hsource' hroom' hstack' hb) hrun]

/-- Under visits that are the same, so are runs. -/
theorem runSteps_visit_eq {steps : List (Step ρ)} (hformat : L'.format = L.format)
    (hsource : ∀ x, x ∉ stack → L'.source.read x = L.source.read x)
    (hroom : room' = room ∧ L'.maxDepth = L.maxDepth ∨
      room ≤ room' ∧ ∀ b limit, kind (.tooDeep b limit))
    (h : (L.runSteps (L.visit room stack) steps).Avoids kind) :
    L'.runSteps (L'.visit room' stack) steps = L.runSteps (L.visit room stack) steps :=
  L.runSteps_congr _ (congrArg Format.kind hformat)
    (fun _ _ hb => visit_eq hformat hsource hroom (Or.inl rfl) hb) h

end Congr

/-! ## Loads and parses -/

/-- The end of a call changes neither result nor diagnostics nor what was opened. -/
theorem finish_alike {ρ : Type} (L : Loader ρ) (name : List Char) (w : Walk (List ρ)) :
    (L.finish name w).Alike w := by
  rw [finish]
  split
  · rename_i rules h
    exact ⟨h.symm, rfl, rfl⟩
  · exact .refl w

/-- The counters that are completed at the end of a load are others. -/
theorem finish_counters {ρ : Type} (L : Loader ρ) (name : List Char) (w : Walk (List ρ)) :
    (L.finish name w).trace.counters.catalogs = w.trace.counters.catalogs ∧
    (L.finish name w).trace.counters.includes = w.trace.counters.includes := by
  rw [finish]
  split <;> exact ⟨rfl, rfl⟩

/-- The end of a failed call leaves the walk as it is. -/
theorem finish_of_error {ρ : Type} (L : Loader ρ) (name : List Char) {w : Walk (List ρ)}
    {e : LoadError} (h : w.result = .error e) : L.finish name w = w := by
  rw [finish, h]

/-- At the end of a run that succeeds, rules and diagnostics are counted. -/
theorem finish_counters_of_ok {ρ : Type} (L : Loader ρ) (name : List Char) {w : Walk (List ρ)}
    {rules : List ρ} (h : w.result = .ok rules) :
    (L.finish name w).trace.counters =
      { w.trace.counters with
        rules := rules.length
        diagnostics := w.trace.diagnostics.length } := by
  rw [finish, h]

/-- A load is the visit of its catalog, counters and events aside. -/
theorem load_alike (kind : Journal.LoaderKind) (source : Source) (depth : ℕ+) (name : List Char) :
    ((ofKind kind source depth).load name).Alike
      ((ofKind kind source depth).visit depth [] name) := finish_alike _ _ _

/-- A parse carries out the steps of its text inside of the catalog it stands for, counters and
events aside. -/
theorem parse_alike (kind : Journal.LoaderKind) (source : Source) (depth : ℕ+)
    (text name : List Char) :
    ((ofKind kind source depth).parse text name).Alike
      ((ofKind kind source depth).runSteps ((ofKind kind source depth).visit (depth - 1) [name])
        ((Format.ofKind kind).steps name text)) :=
  (finish_alike _ _ _).trans ⟨rfl, rfl, rfl⟩

end Loader

end Catalog

end PhoneticCatalog
