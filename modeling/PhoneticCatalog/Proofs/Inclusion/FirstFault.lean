import Mathlib.Data.List.Nodup
import PhoneticCatalog.Proofs.Inclusion.Graph

/-!
# The first fault of a load

A load runs through the tree of includes: below an include stand the items of its catalog, in the
order of the text. A `Point` of this tree is an item with the catalogs that are open around it, and
a position is the list of the numbers of the items on the way to a point. To read a catalog depth
first means to meet positions in lexicographic order.

`Point.fault?` is what is wrong at a point itself. A load ends in the fault of the first position
that has one, and succeeds if there is none (`Loader.visit_agrees`). What an error says about the
catalogs around it follows from the points above, none of which has a fault (`Point.OnPath`).
-/

namespace PhoneticCatalog.Catalog

/-- The error is one of a text, and of no include. -/
def LoadError.isTextual : LoadError → Bool
  | .notOpened .. | .cycle _ | .tooDeep .. => false
  | _ => true

/-- An error of a context is one of the text. -/
theorem isTextual_ofContext (catalog : List Char) (place : RulePlace) (e : ContextError) :
    (LoadError.ofContext catalog place e).isTextual := by
  rw [LoadError.ofContext]
  split <;> rfl

/-- A catalog without items has an error of its text. -/
theorem isTextual_of_itemsOf {kind : Journal.LoaderKind} {catalog text : List Char} {e : LoadError}
    (h : itemsOf kind catalog text = .error e) : e.isTextual := by
  cases kind with
  | text => cases h
  | document =>
    rw [itemsOf, documentItems] at h
    split at h
    · rename_i f _
      obtain rfl := Except.error.inj h
      cases f <;> rfl
    · cases h
    · split at h
      · obtain rfl := Except.error.inj h
        rfl
      · cases h

/-- An item, and the catalogs that are open around it, the outermost one first. -/
structure Point where
  stack : List (List Char)
  item : Item

namespace Point

variable (kind : Journal.LoaderKind) (source : Source) (depth : ℕ+)

/-- What is wrong at a point itself. An include may lead back to an open catalog, or else too deep,
or else to a catalog that is none. -/
def fault? (p : Point) : Option LoadError :=
  match p.item with
  | .rule catalog place fields =>
    match Rule.ofFields fields with
    | .ok _ => none
    | .error e => some (.ofContext catalog place e)
  | .inclusion name =>
    if p.stack.contains name then some (.cycle (p.stack ++ [name]))
    else if depth ≤ p.stack.length then some (.tooDeep name depth)
    else
      match source.content kind name with
      | .ok _ => none
      | .error e => some e
  | .malformed _ => none

/-- The points directly below a point, in the order of the text. -/
def children (p : Point) : List Point :=
  match p.item with
  | .inclusion name =>
    match source.content kind name with
    | .ok items => items.map fun item => ⟨p.stack ++ [name], item⟩
    | .error _ => []
  | _ => []

/-- The point at a position below a point. -/
def at? (p : Point) : (position : List Nat) → Option Point
  | [] => some p
  | i :: rest =>
    match (p.children kind source)[i]? with
    | some q => q.at? rest
    | none => none

/-- No position has a fault. -/
def Faultless (p : Point) : Prop :=
  ∀ position, (p.at? kind source position).bind (fault? kind source depth) = none

/-- A walk gets to a position: no earlier one has a fault. -/
def Reaches (p : Point) (position : List Nat) : Prop :=
  ∀ before, List.Lex (· < ·) before position →
    (p.at? kind source before).bind (fault? kind source depth) = none

/-- A position has a fault, and no earlier one has any. -/
structure FirstFault (p : Point) (position : List Nat) (q : Point) (e : LoadError) : Prop where
  at_eq : p.at? kind source position = some q
  fault_eq : q.fault? kind source depth = some e
  earlier : ∀ before, List.Lex (· < ·) before position →
    (p.at? kind source before).bind (fault? kind source depth) = none

variable {kind source depth} {p q : Point} {e : LoadError}

/-! ## Faults below a point -/

/-- A rule has a fault if it does not compile. -/
theorem fault?_rule (stack : List (List Char)) (catalog : List Char) (place : RulePlace)
    (fields : RuleFields) :
    fault? kind source depth ⟨stack, .rule catalog place fields⟩ =
      match Rule.ofFields fields with
      | .ok _ => none
      | .error e => some (.ofContext catalog place e) := rfl

/-- The inclusion of an open catalog is a circle. -/
theorem fault?_of_mem {stack : List (List Char)} {name : List Char} (h : name ∈ stack) :
    fault? kind source depth ⟨stack, .inclusion name⟩ = some (.cycle (stack ++ [name])) :=
  if_pos (List.contains_iff_mem.2 h)

/-- An inclusion is too deep if as many catalogs are open as may be. -/
theorem fault?_of_full {stack : List (List Char)} {name : List Char} (h : name ∉ stack)
    (hfull : depth ≤ stack.length) :
    fault? kind source depth ⟨stack, .inclusion name⟩ = some (.tooDeep name depth) :=
  (if_neg (mt List.contains_iff_mem.1 h)).trans (if_pos hfull)

variable (kind source) in
/-- Any other inclusion has a fault if the catalog has no content. -/
theorem fault?_of_room {stack : List (List Char)} {name : List Char} (h : name ∉ stack)
    (hroom : stack.length < depth) :
    fault? kind source depth ⟨stack, .inclusion name⟩ =
      match source.content kind name with
      | .ok _ => none
      | .error e => some e :=
  (if_neg (mt List.contains_iff_mem.1 h)).trans (if_neg (Nat.not_le.2 hroom))

/-- Below an inclusion there are the items of the catalog. -/
theorem children_of_content {stack : List (List Char)} {name : List Char} {items : List Item}
    (h : source.content kind name = .ok items) :
    children kind source ⟨stack, .inclusion name⟩ =
      items.map fun item => ⟨stack ++ [name], item⟩ := by
  simp only [children, h]

/-- What has children is an include of a catalog with content. -/
theorem exists_content_of_mem_children (h : q ∈ p.children kind source) :
    ∃ name items, p.item = .inclusion name ∧ source.content kind name = .ok items ∧
      p.children kind source = items.map fun item => ⟨p.stack ++ [name], item⟩ := by
  obtain ⟨stack, item⟩ := p
  cases item with
  | inclusion name =>
    cases hcontent : source.content kind name with
    | ok items => exact ⟨name, items, rfl, hcontent, children_of_content hcontent⟩
    | error e =>
      simp only [children, hcontent] at h
      exact absurd h List.not_mem_nil
  | rule _ _ _ | malformed _ => exact absurd h List.not_mem_nil

/-- A position is found by its first index, and from there on. -/
theorem at?_cons {i : Nat} {rest : List Nat} (h : (p.children kind source)[i]? = some q) :
    p.at? kind source (i :: rest) = q.at? kind source rest := by
  rw [at?, h]

/-- Nothing lies at a position whose first index is too large. -/
theorem at?_cons_none {i : Nat} {rest : List Nat} (h : (p.children kind source)[i]? = none) :
    p.at? kind source (i :: rest) = none := by
  rw [at?, h]

/-- The positions of length one are those of the children. -/
theorem at?_singleton (p : Point) (i : Nat) :
    p.at? kind source [i] = (p.children kind source)[i]? := by
  cases hchild : (p.children kind source)[i]? with
  | none => rw [at?_cons_none hchild]
  | some q => exact at?_cons hchild

/-- The last step to a position leads to a child. -/
theorem at?_concat {position : List Nat} {i : Nat} :
    p.at? kind source (position ++ [i]) = some q ↔
      ∃ r, p.at? kind source position = some r ∧ (r.children kind source)[i]? = some q := by
  induction position generalizing p with
  | nil =>
    rw [List.nil_append, at?_singleton]
    exact ⟨fun h => ⟨p, rfl, h⟩, fun ⟨r, hr, h⟩ => Option.some.inj hr ▸ h⟩
  | cons k rest ih =>
    rw [List.cons_append]
    cases hchild : (p.children kind source)[k]? with
    | none =>
      rw [at?_cons_none hchild, at?_cons_none hchild]
      exact iff_of_false nofun nofun
    | some r => rw [at?_cons hchild, at?_cons hchild, ih]

/-- A point is faultless if it has no fault itself and all points below are faultless. -/
theorem Faultless.of_children (hfault : p.fault? kind source depth = none)
    (h : ∀ q ∈ p.children kind source, q.Faultless kind source depth) :
    p.Faultless kind source depth := by
  intro position
  match position with
  | [] => exact hfault
  | i :: rest =>
    cases hchild : (p.children kind source)[i]? with
    | none => rw [at?_cons_none hchild]; rfl
    | some q => rw [at?_cons hchild]; exact h q (List.mem_of_getElem? hchild) rest

/-- A fault of the point itself is the first one. -/
theorem FirstFault.here (h : p.fault? kind source depth = some e) :
    p.FirstFault kind source depth [] p e :=
  ⟨rfl, h, fun _ hbefore => nomatch hbefore⟩

/-- A child is found by the number of children before it. -/
theorem child_of_append {before after : List Point}
    (h : p.children kind source = before ++ q :: after) :
    (p.children kind source)[before.length]? = some q := by
  rw [h, List.getElem?_append_right (Nat.le_refl _), Nat.sub_self]
  rfl

/-- A walk gets to a position below a child as it does from the child itself, if the children before
are faultless. -/
theorem reaches_cons_iff {before after : List Point} {position : List Nat}
    (hfault : p.fault? kind source depth = none)
    (hchildren : p.children kind source = before ++ q :: after)
    (hbefore : ∀ q ∈ before, q.Faultless kind source depth) :
    p.Reaches kind source depth (before.length :: position) ↔
      q.Reaches kind source depth position := by
  have hchild := child_of_append hchildren
  constructor
  · intro h earlier hearlier
    rw [← at?_cons hchild]
    exact h _ (.cons hearlier)
  · intro h earlier hearlier
    -- What comes before a position below a child is the point itself, or lies below an earlier
    -- child, or below this one.
    match earlier, hearlier with
    | [], _ => exact hfault
    | i :: rest, .rel hi =>
      have hother : (p.children kind source)[i]? = some before[i] := by
        rw [hchildren, List.getElem?_append_left hi, List.getElem?_eq_getElem hi]
      rw [at?_cons hother]
      exact hbefore _ (List.getElem_mem hi) rest
    | _ :: rest, .cons hrest =>
      rw [at?_cons hchild]
      exact h rest hrest

/-- The first fault below a child is the first one if the children before are faultless. -/
theorem FirstFault.below {before after : List Point} {child : Point} {position : List Nat}
    (hfault : p.fault? kind source depth = none)
    (hchildren : p.children kind source = before ++ child :: after)
    (hbefore : ∀ q ∈ before, q.Faultless kind source depth)
    (h : child.FirstFault kind source depth position q e) :
    p.FirstFault kind source depth (before.length :: position) q e := by
  have hat : p.at? kind source (before.length :: position) = child.at? kind source position :=
    at?_cons (child_of_append hchildren)
  exact ⟨hat.trans h.at_eq, h.fault_eq, (reaches_cons_iff hfault hchildren hbefore).2 h.earlier⟩

/-! ## What a fault says -/

/-- The faults that a point can have, each with what it says about the point. -/
inductive HasFault (kind : Journal.LoaderKind) (source : Source) (depth : ℕ+) (p : Point) :
    LoadError → Prop where
  | cycle {c : List Char} (item_eq : p.item = .inclusion c) (open_mem : c ∈ p.stack) :
      HasFault kind source depth p (.cycle (p.stack ++ [c]))
  | tooDeep {c : List Char} (item_eq : p.item = .inclusion c) (fresh : c ∉ p.stack)
      (full : depth ≤ p.stack.length) : HasFault kind source depth p (.tooDeep c depth)
  | notOpened {c : List Char} {fault : OpenFault} (item_eq : p.item = .inclusion c)
      (fresh : c ∉ p.stack) (room : p.stack.length < depth)
      (read_eq : (source.read c).result = .error fault) :
      HasFault kind source depth p (.notOpened c fault)
  | noCatalog {c : List Char} {e : LoadError} (item_eq : p.item = .inclusion c)
      (fresh : c ∉ p.stack) (room : p.stack.length < depth)
      (content_eq : source.content kind c = .error e) (textual : e.isTextual) :
      HasFault kind source depth p e
  | noRule {catalog : List Char} {place : RulePlace} {fields : RuleFields} {cause : ContextError}
      {e : LoadError} (item_eq : p.item = .rule catalog place fields)
      (fields_eq : Rule.ofFields fields = .error cause) (textual : e.isTextual) :
      HasFault kind source depth p e

/-- A fault that a point has by itself is a fault of the point. -/
theorem hasFault (h : p.fault? kind source depth = some e) : p.HasFault kind source depth e := by
  rw [fault?] at h
  split at h
  · rename_i catalog place fields hitem
    split at h
    · cases h
    · rename_i e' hfields
      obtain rfl := Option.some.inj h
      exact .noRule hitem hfields (isTextual_ofContext _ _ _)
  · rename_i name hitem
    simp only [List.contains_iff_mem] at h
    -- The checks come in this order: whether the catalog is open, whether there is room, what it
    -- holds.
    split_ifs at h with hmem hfull
    · obtain rfl := Option.some.inj h
      exact .cycle hitem hmem
    · obtain rfl := Option.some.inj h
      exact .tooDeep hitem hmem hfull
    · split at h
      · cases h
      · rename_i e' hcontent
        obtain rfl := Option.some.inj h
        cases hread : (source.read name).result with
        | error fault =>
          rw [Source.content_of_error hread] at hcontent
          obtain rfl := Except.error.inj hcontent
          exact .notOpened hitem hmem (by omega) hread
        | ok text =>
          refine .noCatalog hitem hmem (by omega) hcontent ?_
          rw [Source.content_of_read hread] at hcontent
          exact isTextual_of_itemsOf hcontent
  · cases h

/-- A circle closes at an open catalog. -/
theorem HasFault.cycle_inv {chain : List (List Char)}
    (h : p.HasFault kind source depth (.cycle chain)) :
    ∃ c, p.item = .inclusion c ∧ c ∈ p.stack ∧ chain = p.stack ++ [c] := by
  cases h with
  | cycle hitem hopen => exact ⟨_, hitem, hopen, rfl⟩
  | noCatalog _ _ _ _ htextual => cases htextual
  | noRule _ _ htextual => cases htextual

/-- What is too deep is an include inside of as many other catalogs as allowed. -/
theorem HasFault.tooDeep_inv {c : List Char} {limit : Nat}
    (h : p.HasFault kind source depth (.tooDeep c limit)) :
    p.item = .inclusion c ∧ c ∉ p.stack ∧ depth ≤ p.stack.length ∧ limit = depth := by
  cases h with
  | tooDeep hitem hfresh hfull => exact ⟨hitem, hfresh, hfull, rfl⟩
  | noCatalog _ _ _ _ htextual => cases htextual
  | noRule _ _ htextual => cases htextual

/-- What cannot be opened is an include for which there was room. -/
theorem HasFault.notOpened_inv {c : List Char} {fault : OpenFault}
    (h : p.HasFault kind source depth (.notOpened c fault)) :
    p.item = .inclusion c ∧ c ∉ p.stack ∧ p.stack.length < depth ∧
      (source.read c).result = .error fault := by
  cases h with
  | notOpened hitem hfresh hroom hread => exact ⟨hitem, hfresh, hroom, hread⟩
  | noCatalog _ _ _ _ htextual => cases htextual
  | noRule _ _ htextual => cases htextual

/-! ## The catalogs around a point -/

/-- The catalogs around a point lead to it from a catalog on: each is held and included by the one
before, none comes twice, and there are no more than may be open at once. -/
structure OnPath (kind : Journal.LoaderKind) (source : Source) (depth : ℕ+) (name : List Char)
    (p : Point) : Prop where
  nodup : p.stack.Nodup
  length_le : p.stack.length ≤ depth
  holds : ∀ x ∈ p.stack, source.Holds x
  place : p.stack = [] ∧ p.item = .inclusion name ∨
    ∃ front a items, p.stack = front ++ [a] ∧ source.IncludePath kind name p.stack ∧
      source.content kind a = .ok items ∧ p.item ∈ items

/-- The catalog that is loaded lies on the path to itself. -/
theorem OnPath.root (name : List Char) : OnPath kind source depth name ⟨[], .inclusion name⟩ :=
  ⟨.nil, Nat.zero_le _, fun _ hx => absurd hx List.not_mem_nil, Or.inl ⟨rfl, rfl⟩⟩

/-- An include is on a path that ends with the catalog it names. -/
theorem OnPath.includePath {name c : List Char} (h : OnPath kind source depth name p)
    (hitem : p.item = .inclusion c) : source.IncludePath kind name (p.stack ++ [c]) := by
  rcases h.place with ⟨hstack, hroot⟩ | ⟨front, a, items, hstack, hpath, hcontent, hmem⟩
  · obtain rfl := Item.inclusion.inj (hitem.symm.trans hroot)
    rw [hstack]
    exact .singleton
  · have hedge : source.Includes kind a c := Source.includes_iff.2 ⟨items, hcontent, hitem ▸ hmem⟩
    rw [hstack] at hpath ⊢
    exact hpath.concat hedge

/-- Below a point without a fault one more catalog is open. -/
theorem OnPath.child {name : List Char} (h : OnPath kind source depth name p)
    (hfault : p.fault? kind source depth = none) (hq : q ∈ p.children kind source) :
    OnPath kind source depth name q := by
  obtain ⟨b, items, hitem, hcontent, hchildren⟩ := exists_content_of_mem_children hq
  rw [hchildren] at hq
  obtain ⟨item, hmem, rfl⟩ := List.mem_map.1 hq
  rw [fault?, hitem] at hfault
  simp only [List.contains_iff_mem] at hfault
  split_ifs at hfault with hopen hfull
  -- Since the point has no fault, its catalog is opened above those on the stack.
  refine ⟨?_, ?_, ?_, Or.inr ⟨p.stack, b, items, rfl, h.includePath hitem, hcontent, hmem⟩⟩
  · rw [← List.concat_eq_append]
    exact h.nodup.concat hopen
  · rw [List.length_append, List.length_singleton]
    omega
  · intro x hx
    rcases List.mem_append.1 hx with hx | hx
    · exact h.holds x hx
    · obtain rfl := List.mem_singleton.1 hx
      exact Source.holds_of_content hcontent

/-- The first fault below a point on a path is on a path. -/
theorem OnPath.firstFault {name : List Char} {position : List Nat}
    (h : OnPath kind source depth name p) (hfirst : p.FirstFault kind source depth position q e) :
    OnPath kind source depth name q := by
  induction position generalizing p with
  | nil =>
    obtain rfl := Option.some.inj hfirst.at_eq
    exact h
  | cons i rest ih =>
    -- The points on the way stand before the fault, so that they have none themselves.
    have hfault : p.fault? kind source depth = none := hfirst.earlier [] .nil
    cases hchild : (p.children kind source)[i]? with
    | none =>
      have hat := hfirst.at_eq
      rw [at?_cons_none hchild] at hat
      cases hat
    | some child =>
      refine ih (h.child hfault (List.mem_of_getElem? hchild)) ⟨?_, hfirst.fault_eq, ?_⟩
      · rw [← at?_cons hchild, hfirst.at_eq]
      · intro before hbefore
        rw [← at?_cons hchild]
        exact hfirst.earlier (i :: before) (.cons hbefore)

/-! ## The walk of a point -/

/-- A walk is that of a point: it succeeds only if the point is faultless, and ends only in the
first fault below the point. If that is one of depth, the last catalog it requested is the last one
that is open around the fault. -/
structure Agrees (kind : Journal.LoaderKind) (source : Source) (depth : ℕ+) (p : Point)
    (w : Walk (List Rule)) : Prop where
  faultless : w.Succeeds → p.Faultless kind source depth
  firstFault : ∀ e, w.result = .error e → ∃ position q more,
    p.FirstFault kind source depth position q e ∧ q.stack = p.stack ++ more ∧
      ((∃ c, e = .tooDeep c depth) → w.trace.opened.getLast? = more.getLast?)

/-- A point with a fault agrees with a walk that ends in it, before it requests anything if the
fault is one of depth. -/
theorem Agrees.of_fault {w : Walk (List Rule)} (hfault : p.fault? kind source depth = some e)
    (hresult : w.result = .error e) (hopened : (∃ c, e = .tooDeep c depth) → w.trace.opened = []) :
    p.Agrees kind source depth w := by
  refine ⟨fun ⟨rules, hrules⟩ => ?_, fun e' he' => ?_⟩
  · cases hresult.symm.trans hrules
  · obtain rfl := Except.error.inj (hresult.symm.trans he')
    refine ⟨[], p, [], .here hfault, (List.append_nil _).symm, fun hdeep => ?_⟩
    rw [hopened hdeep]

/-- A point without anything below that has no fault agrees with a walk that succeeds. -/
theorem Agrees.of_leaf {w : Walk (List Rule)} (hfault : p.fault? kind source depth = none)
    (hchildren : p.children kind source = []) (hresult : w.Succeeds) :
    p.Agrees kind source depth w := by
  refine ⟨fun _ => .of_children hfault fun q hq => ?_, fun e he => ?_⟩
  · rw [hchildren] at hq
    exact absurd hq List.not_mem_nil
  · obtain ⟨rules, hrules⟩ := hresult
    cases hrules.symm.trans he

/-- If includes agree with their points, so do all items. -/
theorem Agrees.item {L : Loader Rule} {splice : List Char → Walk (List Rule)}
    {stack : List (List Char)}
    (h : ∀ b, Agrees kind source depth ⟨stack, .inclusion b⟩ (splice b)) (item : Item) :
    Agrees kind source depth ⟨stack, item⟩ (L.runStep splice item.step) := by
  cases item with
  | rule catalog place fields =>
    cases hfields : Rule.ofFields fields with
    | ok r =>
      rw [L.runStep_rule splice hfields]
      exact .of_leaf (by rw [fault?_rule, hfields]) rfl ⟨_, rfl⟩
    | error e =>
      rw [L.runStep_rule_of_error splice hfields]
      exact .of_fault (by rw [fault?_rule, hfields]) rfl fun _ => rfl
  | inclusion b => exact ⟨(h b).faultless, (h b).firstFault⟩
  | malformed d => exact .of_leaf rfl rfl ⟨_, rfl⟩

/-- A catalog agrees with the run of its items, whose includes agree with their points, if its own
request comes first. Where the items are as deep as allowed, those that succeed must not request
anything. -/
theorem Agrees.of_items {L : Loader Rule} {splice : List Char → Walk (List Rule)}
    {stack : List (List Char)} {name : List Char} {items : List Item} {w : Walk (List Rule)}
    (hfault : fault? kind source depth ⟨stack, .inclusion name⟩ = none)
    (hcontent : source.content kind name = .ok items)
    (hresult : w.result = (L.runSteps splice (items.map Item.step)).result)
    (hopened : w.trace.opened = name :: (L.runSteps splice (items.map Item.step)).trace.opened)
    (hitems : ∀ item : Item,
      Agrees kind source depth ⟨stack ++ [name], item⟩ (L.runStep splice item.step))
    (hfull : depth ≤ (stack ++ [name]).length → ∀ item : Item,
      (L.runStep splice item.step).Succeeds → (L.runStep splice item.step).trace.opened = []) :
    Agrees kind source depth ⟨stack, .inclusion name⟩ w := by
  have hchildren : children kind source ⟨stack, .inclusion name⟩ =
      items.map fun item => ⟨stack ++ [name], item⟩ := children_of_content hcontent
  rcases L.forall_succeeds_or_exists_fails splice (items.map Item.step)
    with hall | ⟨before, s, after, e, hsplit, hbefore, he⟩
  -- All items succeed, and are therefore faultless.
  · refine ⟨fun _ => .of_children hfault fun q hq => ?_, fun e he => ?_⟩
    · rw [hchildren] at hq
      obtain ⟨item, hitem, rfl⟩ := List.mem_map.1 hq
      exact (hitems item).faultless (hall _ (List.mem_map_of_mem hitem))
    · obtain ⟨hok, -⟩ := L.runSteps_of_succeeds splice hall
      cases (hresult.trans hok).symm.trans he
  -- A first item fails, and its first fault is the first one of the catalog.
  · obtain ⟨hrun, hopenedRun⟩ := L.runSteps_of_fails splice hbefore he after
    rw [hsplit, hrun] at hresult
    rw [hsplit, hopenedRun] at hopened
    obtain ⟨front, rest, rfl, rfl, hrest⟩ := List.map_eq_append_iff.1 hsplit
    obtain ⟨item, back, rfl, rfl, -⟩ := List.map_eq_cons_iff.1 hrest
    obtain ⟨position, q, more, hfirst, hstack, hlast⟩ := (hitems item).firstFault e he
    refine ⟨fun ⟨rules, hrules⟩ => (nomatch hresult.symm.trans hrules), fun e' he' => ?_⟩
    obtain rfl := Except.error.inj (hresult.symm.trans he')
    refine ⟨front.length :: position, q, name :: more, ?_, ?_, fun hdeep => ?_⟩
    · rw [List.map_append, List.map_cons] at hchildren
      have hlength : (front.map fun item => (⟨stack ++ [name], item⟩ : Point)).length =
          front.length := List.length_map _
      rw [← hlength]
      refine .below hfault hchildren (fun p hp => ?_) hfirst
      obtain ⟨sibling, hsibling, rfl⟩ := List.mem_map.1 hp
      exact (hitems sibling).faultless (hbefore _ (List.mem_map_of_mem hsibling))
    · rw [hstack, List.append_assoc, List.singleton_append]
    · rw [hopened, List.getLast?_cons, List.getLast?_cons, List.getLast?_append, hlast hdeep]
      cases hmore : more.getLast? with
      | some x => rfl
      | none =>
        obtain rfl := List.getLast?_eq_none_iff.1 hmore
        -- The fault stands among the items themselves, so those before have no room for requests.
        obtain ⟨c, rfl⟩ := hdeep
        obtain ⟨-, -, hdepth, -⟩ := (hasFault hfirst.fault_eq).tooDeep_inv
        rw [hstack, List.append_nil] at hdepth
        have hnone : (front.map Item.step).flatMap (fun t => (L.runStep splice t).trace.opened) =
            [] := by
          refine List.flatMap_eq_nil_iff.2 fun t ht => ?_
          obtain ⟨sibling, hsibling, rfl⟩ := List.mem_map.1 ht
          exact hfull hdepth sibling (hbefore _ ht)
        rw [hnone]
        rfl

end Point

/-- Where no room is left, an item that succeeds requests nothing. -/
theorem Loader.opened_of_succeeds_zero {L : Loader Rule} {stack : List (List Char)} {item : Item}
    (h : (L.runStep (L.visit 0 stack) item.step).Succeeds) :
    (L.runStep (L.visit 0 stack) item.step).trace.opened = [] := by
  cases item with
  | rule catalog place fields =>
    rw [Item.step, Step.ofFields]
    split <;> rfl
  | inclusion b =>
    obtain ⟨rules, hrules⟩ := ((L.runStep_item_succeeds_iff _ _).1 h).2 b rfl
    by_cases hmem : b ∈ stack
    · rw [visit_of_mem L hmem] at hrules; cases hrules
    · rw [visit_zero L hmem] at hrules; cases hrules
  | malformed d => rfl

/-- The walk of a visit is that of the include of its catalog. -/
theorem Loader.visit_agrees {kind : Journal.LoaderKind} {source : Source} {depth : ℕ+} {room : Nat}
    {stack : List (List Char)} (hroom : stack.length + room = depth) (name : List Char) :
    Point.Agrees kind source depth ⟨stack, .inclusion name⟩
      ((ofKind kind source depth).visit room stack name) := by
  induction room generalizing stack name with
  | zero =>
    by_cases hmem : name ∈ stack
    · rw [visit_of_mem _ hmem]
      exact .of_fault (Point.fault?_of_mem hmem) rfl fun _ => rfl
    · rw [visit_zero _ hmem]
      exact .of_fault (Point.fault?_of_full hmem (by omega)) rfl fun _ => rfl
  | succ room ih =>
    by_cases hmem : name ∈ stack
    · rw [visit_of_mem _ hmem]
      exact .of_fault (Point.fault?_of_mem hmem) rfl fun _ => rfl
    have hfault := Point.fault?_of_room kind source hmem (show stack.length < depth by omega)
    cases hcontent : source.content kind name with
    | error e =>
      rw [hcontent] at hfault
      refine .of_fault hfault (visit_of_error _ _ hmem hcontent).1 ?_
      rintro ⟨c, rfl⟩
      obtain ⟨-, -, hfull, -⟩ := (Point.hasFault hfault).tooDeep_inv
      exact absurd hfull (show ¬ depth ≤ stack.length by omega)
    | ok items =>
      rw [hcontent] at hfault
      obtain ⟨hresult, -, hopened⟩ := visit_of_content depth room hmem hcontent
      -- One more catalog is open while its items are carried out, and room is left for one less.
      have hlength : (stack ++ [name]).length + room = depth := by
        rw [List.length_append, List.length_singleton]
        omega
      refine .of_items hfault hcontent hresult hopened (.item fun b => ih hlength b) ?_
      intro hfull item hitem
      obtain rfl : room = 0 := by omega
      exact opened_of_succeeds_zero hitem

/-- A load that fails ends in the first fault below the include of its catalog, around which a path
of catalogs is open. If that fault is one of depth, the last one of them was requested last. -/
theorem Loader.exists_firstFault {kind : Journal.LoaderKind} {source : Source} {depth : ℕ+}
    {name : List Char} {e : LoadError}
    (h : ((ofKind kind source depth).load name).result = .error e) :
    ∃ position q, Point.FirstFault kind source depth ⟨[], .inclusion name⟩ position q e ∧
      q.OnPath kind source depth name ∧
      ((∃ c, e = .tooDeep c depth) →
        ((ofKind kind source depth).load name).trace.opened.getLast? = q.stack.getLast?) := by
  have halike := load_alike kind source depth name
  have hagrees : Point.Agrees kind source depth ⟨[], .inclusion name⟩
      ((ofKind kind source depth).visit depth [] name) := visit_agrees (Nat.zero_add _) name
  obtain ⟨position, q, more, hfirst, rfl, hlast⟩ :=
    hagrees.firstFault e (halike.result.symm.trans h)
  exact ⟨position, q, hfirst, (Point.OnPath.root name).firstFault hfirst,
    fun hdeep => halike.opened ▸ hlast hdeep⟩

/-- A load that fails ends in the first fault that is met depth first, and what its error says is
true. The chain of a circle is a path of includes that closes at its end and nowhere before; a path
as long as allowed leads to what is too deep, which was not requested when the load got there; and
a path of at most that length leads to what cannot be opened. -/
theorem load_ends_in_first_fault (kind : Journal.LoaderKind) (source : Source) (depth : ℕ+)
    {name : List Char} {e : LoadError}
    (h : ((Loader.ofKind kind source depth).load name).result = .error e) :
    (∃ position q, Point.FirstFault kind source depth ⟨[], .inclusion name⟩ position q e) ∧
    (∀ chain, e = .cycle chain → source.IncludePath kind name chain ∧
      chain.dropLast.Nodup ∧ chain.dropLast.length ≤ depth ∧
      ∃ c ∈ chain.dropLast, chain.getLast? = some c) ∧
    (∀ c limit, e = .tooDeep c limit → limit = depth ∧ ∃ path a,
      source.IncludePath kind name path ∧ path.length = depth ∧ path.Nodup ∧
      (∀ x ∈ path, source.Holds x) ∧ path.getLast? = some a ∧ source.Includes kind a c ∧
      c ∉ path ∧ ((Loader.ofKind kind source depth).load name).trace.opened.getLast? = some a) ∧
    (∀ c fault, e = .notOpened c fault → (source.read c).result = .error fault ∧ ∃ path,
      source.IncludePath kind name path ∧ path.getLast? = some c ∧ path.Nodup ∧
      path.length ≤ depth) := by
  obtain ⟨position, q, hfirst, hpath, hlast⟩ := Loader.exists_firstFault h
  have hfault := Point.hasFault hfirst.fault_eq
  refine ⟨⟨position, q, hfirst⟩, ?_, ?_, ?_⟩
  · rintro chain rfl
    obtain ⟨c, hitem, hopen, rfl⟩ := hfault.cycle_inv
    rw [List.dropLast_concat]
    exact ⟨hpath.includePath hitem, hpath.nodup, hpath.length_le, c, hopen, List.getLast?_concat⟩
  · rintro c limit rfl
    obtain ⟨hitem, hfresh, hfull, rfl⟩ := hfault.tooDeep_inv
    refine ⟨rfl, ?_⟩
    -- As the depth is positive, some catalog is open around the fault.
    rcases hpath.place with ⟨hempty, -⟩ | ⟨front, a, items, hstack, hinclude, hcontent, hmem⟩
    · rw [hempty] at hfull
      exact absurd depth.pos (Nat.not_lt.2 hfull)
    · have hend : q.stack.getLast? = some a := by rw [hstack, List.getLast?_concat]
      have hincludes : source.Includes kind a c :=
        Source.includes_iff.2 ⟨items, hcontent, hitem ▸ hmem⟩
      exact ⟨q.stack, a, hinclude, Nat.le_antisymm hpath.length_le hfull, hpath.nodup, hpath.holds,
        hend, hincludes, hfresh, (hlast ⟨c, rfl⟩).trans hend⟩
  · rintro c fault rfl
    obtain ⟨hitem, hfresh, hroom, hread⟩ := hfault.notOpened_inv
    refine ⟨hread, q.stack ++ [c], hpath.includePath hitem, List.getLast?_concat, ?_, ?_⟩
    · rw [← List.concat_eq_append]
      exact hpath.nodup.concat hfresh
    · rw [List.length_append, List.length_singleton]
      omega

/-- Two catalogs that include each other, one of them also a third that does not exist. -/
def circleSource : Source :=
  .ofList [(['a'], "#include b\n#include c".toList), (['b'], "#include a".toList)]

/-- Two catalogs that include each other. -/
theorem load_ends_in_circle :
    ((Loader.ofKind .text circleSource 2).load ['a']).result =
      .error (.cycle [['a'], ['b'], ['a']]) ∧
      circleSource.IncludePath .text ['a'] [['a'], ['b'], ['a']] := by
  have h : ((Loader.ofKind .text circleSource 2).load ['a']).result =
      .error (.cycle [['a'], ['b'], ['a']]) := Walk.error?_eq_some.1 (by decide +kernel)
  obtain ⟨-, hcycle, -⟩ := load_ends_in_first_fault .text circleSource 2 h
  exact ⟨h, (hcycle _ rfl).1⟩

end PhoneticCatalog.Catalog
