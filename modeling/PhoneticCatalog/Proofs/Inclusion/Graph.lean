import Mathlib.Data.List.Chain
import PhoneticCatalog.Proofs.Inclusion.Visit

/-!
# The graph of includes

`Source.Includes` is the graph of includes of a source: an edge leads from a catalog to each catalog
that is named on a line of its text outside of comments, or in an entry of its document.
`Source.IncludePath` are the paths in this graph, and `Source.Builds` says that a catalog can be
understood and that the contexts of its rules can be read.

Whether a catalog can be loaded is a matter of the paths that start at it (`load_succeeds_iff`). The
open catalogs of a visit restrict only which names a path may run through
(`Loader.visit_succeeds_iff_paths`).
-/

namespace PhoneticCatalog.Catalog

/-! ## Edges -/

/-- The line after some others is outside of block comments. -/
def OutsideBlocks (before : List (List Char)) (raw : List Char) : Prop :=
  before.foldl blockAfter false = false ∧ Text.startsWith raw blockStart = false

/-- A text includes a catalog. -/
def TextIncludes : Journal.LoaderKind → (text name : List Char) → Prop
  | .text, text, name => ∃ before raw after, Text.splitLines text = before ++ raw :: after ∧
      OutsideBlocks before raw ∧ LineContent.ofLine raw = .include name
  | .document, text, name => ∃ v entries, Document.read text = .ok v ∧
      entriesOf v = .ok entries ∧ .include name ∈ entries

/-- A text is one of a catalog, and all of its rules can be built. -/
def TextBuilds : Journal.LoaderKind → (text : List Char) → Prop
  | .text, text => ∀ before raw after pattern left right phoneme,
      Text.splitLines text = before ++ raw :: after → OutsideBlocks before raw →
      LineContent.ofLine raw = .rule pattern left right phoneme →
      RuleFields.Compiles { pattern, left, right, phoneme }
  | .document, text => ∃ v, Document.read text = .ok v ∧
      (v = .nothing ∨ ∃ entries, entriesOf v = .ok entries ∧
        ∀ fields, .rule fields ∈ entries → fields.Compiles)

namespace Source

variable (source : Source) (kind : Journal.LoaderKind)

/-- A catalog of the source includes another one. -/
def Includes (a b : List Char) : Prop :=
  ∃ text, (source.read a).result = .ok text ∧ TextIncludes kind text b

/-- A catalog of the source can be understood, and all of its rules can be built. -/
def Builds (a : List Char) : Prop :=
  ∃ text, (source.read a).result = .ok text ∧ TextBuilds kind text

/-- The catalogs of a list start with a given one, and each includes the next. -/
structure IncludePath (name : List Char) (path : List (List Char)) : Prop where
  head_eq : path.head? = some name
  chain : path.IsChain (source.Includes kind)

end Source

/-! ## Paths -/

namespace Source.IncludePath

variable {source : Source} {kind : Journal.LoaderKind} {name b : List Char}
  {path : List (List Char)}

/-- A catalog is a path to itself. -/
theorem singleton : source.IncludePath kind name [name] := ⟨rfl, .singleton name⟩

/-- A path from an included catalog is one from the catalog that includes it. -/
theorem cons (h : source.Includes kind name b) (hpath : source.IncludePath kind b path) :
    source.IncludePath kind name (name :: path) := by
  refine ⟨rfl, hpath.chain.cons fun c hc => ?_⟩
  obtain rfl := Option.some.inj (hc.symm.trans hpath.head_eq)
  exact h

/-- A path goes on to whatever its last catalog includes. -/
theorem concat {a c : List Char} (h : source.IncludePath kind name (path ++ [a]))
    (hc : source.Includes kind a c) : source.IncludePath kind name (path ++ [a] ++ [c]) := by
  refine ⟨?_, ?_⟩
  · rw [List.head?_append, h.head_eq]
    rfl
  · rw [List.append_assoc]
    exact List.isChain_append_cons_cons.2 ⟨h.chain, hc, .singleton c⟩

/-- A path stops at its first catalog, or goes on from a catalog that is included there. -/
theorem cases (h : source.IncludePath kind name path) :
    path = [name] ∨
      ∃ b rest, path = name :: rest ∧ source.Includes kind name b ∧
        source.IncludePath kind b rest := by
  obtain ⟨hhead, hchain⟩ := h
  match path, hhead, hchain with
  | [a], hhead, _ =>
    obtain rfl := Option.some.inj hhead
    exact Or.inl rfl
  | a :: b :: rest, hhead, hchain =>
    obtain rfl := Option.some.inj hhead
    obtain ⟨hab, hrest⟩ := List.isChain_cons_cons.1 hchain
    exact Or.inr ⟨b, b :: rest, rfl, hab, rfl, hrest⟩

end Source.IncludePath

/-! ## Edges and items -/

/-- A numbered line is outside of block comments if none is open after the lines before. -/
theorem mem_codeLines {lines : List (List Char)} {inBlock : Bool} {number k : Nat}
    {raw : List Char} :
    (k, raw) ∈ codeLines inBlock number lines ↔
      ∃ before after, lines = before ++ raw :: after ∧ k = number + before.length ∧
        before.foldl blockAfter inBlock = false ∧ Text.startsWith raw blockStart = false := by
  constructor
  · intro h
    -- The lines before it decide whether the line lies in a block.
    induction lines generalizing inBlock number with
    | nil => rw [codeLines] at h; exact absurd h List.not_mem_nil
    | cons line rest ih =>
      have later : (k, raw) ∈ codeLines (blockAfter inBlock line) (number + 1) rest →
          ∃ before after, line :: rest = before ++ raw :: after ∧ k = number + before.length ∧
            before.foldl blockAfter inBlock = false ∧ Text.startsWith raw blockStart = false := by
        intro h
        obtain ⟨before, after, rfl, rfl, hopen, hstart⟩ := ih h
        refine ⟨line :: before, after, rfl, ?_, hopen, hstart⟩
        rw [List.length_cons]
        omega
      rw [codeLines] at h
      split at h
      · exact later h
      · rename_i houtside
        rcases List.mem_cons.1 h with heq | h
        · obtain ⟨rfl, rfl⟩ := Prod.mk.inj heq
          rw [Bool.or_eq_true, not_or, Bool.not_eq_true, Bool.not_eq_true] at houtside
          exact ⟨[], rest, rfl, rfl, houtside⟩
        · exact later h
  · rintro ⟨before, after, rfl, rfl, hopen, hstart⟩
    rw [codeLines_append, hopen, codeLines, hstart, if_neg (by decide)]
    exact List.mem_append_right _ List.mem_cons_self

/-- The items of a text stand on its lines outside of block comments. -/
theorem mem_textItems {catalog text : List Char} {item : Item} :
    item ∈ textItems catalog text ↔
      ∃ before raw after, Text.splitLines text = before ++ raw :: after ∧
        OutsideBlocks before raw ∧ lineItem? catalog (1 + before.length, raw) = some item := by
  rw [textItems, linesItems, List.mem_filterMap]
  constructor
  · rintro ⟨⟨k, raw⟩, hmem, hitem⟩
    obtain ⟨before, after, hlines, rfl, houtside⟩ := mem_codeLines.1 hmem
    exact ⟨before, raw, after, hlines, houtside, hitem⟩
  · rintro ⟨before, raw, after, hlines, houtside, hitem⟩
    exact ⟨(1 + before.length, raw), mem_codeLines.2 ⟨before, after, hlines, rfl, houtside⟩, hitem⟩

/-- A line is an inclusion if it is written as one. -/
theorem lineItem?_eq_inclusion {catalog name : List Char} {line : Nat × List Char} :
    lineItem? catalog line = some (.inclusion name) ↔
      LineContent.ofLine line.2 = .include name := by
  rw [lineItem?]
  split <;> rename_i h <;> simp [h]

/-- A line is a rule if it is written as four fields, which are those of the rule. -/
theorem lineItem?_eq_rule {catalog c : List Char} {line : Nat × List Char} {place : RulePlace}
    {fields : RuleFields} :
    lineItem? catalog line = some (.rule c place fields) ↔
      ∃ pattern left right phoneme,
        LineContent.ofLine line.2 = .rule pattern left right phoneme ∧
        c = catalog ∧ place = .line line.1 ∧ fields = { pattern, left, right, phoneme } := by
  rw [lineItem?]
  split <;> rename_i h <;> simp [h, eq_comm]

/-- A line is malformed as its diagnostic says, with number, problem and text of the line. -/
theorem lineItem?_eq_malformed {catalog : List Char} {line : Nat × List Char} {d : Diagnostic} :
    lineItem? catalog line = some (.malformed d) ↔
      catalog = d.source ∧ line.1 = d.line ∧
        LineContent.ofLine line.2 = .malformed d.problem ∧ line.2 = d.raw := by
  obtain ⟨source, number, problem, raw⟩ := d
  rw [lineItem?]
  split <;> rename_i h <;> simp [h]

/-- A document has items if it stands for nothing, or has the shape of a catalog. -/
theorem documentItems_eq_ok {catalog text : List Char} {items : List Item} :
    documentItems catalog text = .ok items ↔
      ∃ v, Document.read text = .ok v ∧ (v = .nothing ∧ items = [] ∨
        ∃ entries, entriesOf v = .ok entries ∧ items = entries.zipIdx.map (entryItem catalog)) := by
  rw [documentItems]
  constructor
  · intro h
    split at h
    · cases h
    · rename_i hread
      obtain rfl := Except.ok.inj h
      exact ⟨.nothing, hread, Or.inl ⟨rfl, rfl⟩⟩
    · rename_i v _ hread
      split at h
      · cases h
      · rename_i entries hentries
        obtain rfl := Except.ok.inj h
        exact ⟨v, hread, Or.inr ⟨entries, hentries, rfl⟩⟩
  · rintro ⟨v, hread, ⟨rfl, rfl⟩ | ⟨entries, hentries, rfl⟩⟩
    · rw [hread]
    · rw [hread]
      split
      · -- A value with entries is not the value that stands for nothing.
        rename_i h; cases h
      · rename_i h
        obtain rfl := Except.ok.inj h
        cases hentries
      · rename_i h
        obtain rfl := Except.ok.inj h
        rw [hentries]

/-- The inclusions of a document are its entries for them. -/
theorem inclusion_mem_entryItems {catalog name : List Char} {entries : List Entry} :
    .inclusion name ∈ entries.zipIdx.map (entryItem catalog) ↔ .include name ∈ entries := by
  rw [List.mem_map]
  constructor
  · rintro ⟨⟨entry, number⟩, hmem, hitem⟩
    rcases entry with fields | other
    · cases hitem
    · obtain rfl := Item.inclusion.inj hitem
      exact List.fst_mem_of_mem_zipIdx hmem
  · intro h
    obtain ⟨number, hnumber⟩ := List.mem_iff_getElem?.1 h
    exact ⟨_, List.mk_mem_zipIdx_iff_getElem?.2 hnumber, rfl⟩

/-- The rules of a document are its entries for them. -/
theorem rule_mem_entryItems {catalog : List Char} {fields : RuleFields} {entries : List Entry} :
    (∃ c place, .rule c place fields ∈ entries.zipIdx.map (entryItem catalog)) ↔
      .rule fields ∈ entries := by
  constructor
  · rintro ⟨c, place, h⟩
    obtain ⟨⟨entry, number⟩, hmem, hitem⟩ := List.mem_map.1 h
    rcases entry with other | name
    · obtain ⟨-, -, rfl⟩ := Item.rule.inj hitem
      exact List.fst_mem_of_mem_zipIdx hmem
    · cases hitem
  · intro h
    obtain ⟨number, hnumber⟩ := List.mem_iff_getElem?.1 h
    exact ⟨_, _, List.mem_map.2 ⟨_, List.mk_mem_zipIdx_iff_getElem?.2 hnumber, rfl⟩⟩

/-- A text includes a catalog if that is one of its items. -/
theorem textIncludes_iff {kind : Journal.LoaderKind} (catalog : List Char)
    {text name : List Char} :
    TextIncludes kind text name ↔
      ∃ items, itemsOf kind catalog text = .ok items ∧ .inclusion name ∈ items := by
  cases kind with
  | text =>
    constructor
    · rintro ⟨before, raw, after, hlines, houtside, hraw⟩
      exact ⟨_, rfl, mem_textItems.2
        ⟨before, raw, after, hlines, houtside, lineItem?_eq_inclusion.2 hraw⟩⟩
    · rintro ⟨items, hitems, hmem⟩
      obtain rfl := Except.ok.inj hitems
      obtain ⟨before, raw, after, hlines, houtside, hitem⟩ := mem_textItems.1 hmem
      exact ⟨before, raw, after, hlines, houtside, lineItem?_eq_inclusion.1 hitem⟩
  | document =>
    constructor
    · rintro ⟨v, entries, hread, hentries, hmem⟩
      exact ⟨_, documentItems_eq_ok.2 ⟨v, hread, Or.inr ⟨entries, hentries, rfl⟩⟩,
        inclusion_mem_entryItems.2 hmem⟩
    · rintro ⟨items, hitems, hmem⟩
      obtain ⟨v, hread, ⟨-, rfl⟩ | ⟨entries, hentries, rfl⟩⟩ := documentItems_eq_ok.1 hitems
      · exact absurd hmem List.not_mem_nil
      · exact ⟨v, entries, hread, hentries, inclusion_mem_entryItems.1 hmem⟩

/-- A text is one of a catalog that can be built if it has items and the rules among them can. -/
theorem textBuilds_iff {kind : Journal.LoaderKind} (catalog : List Char) {text : List Char} :
    TextBuilds kind text ↔
      ∃ items, itemsOf kind catalog text = .ok items ∧
        ∀ c place fields, .rule c place fields ∈ items → fields.Compiles := by
  cases kind with
  | text =>
    constructor
    · intro h
      refine ⟨_, rfl, fun c place fields hmem => ?_⟩
      obtain ⟨before, raw, after, hlines, houtside, hitem⟩ := mem_textItems.1 hmem
      obtain ⟨pattern, left, right, phoneme, hraw, -, -, rfl⟩ := lineItem?_eq_rule.1 hitem
      exact h before raw after pattern left right phoneme hlines houtside hraw
    · rintro ⟨items, hitems, h⟩ before raw after pattern left right phoneme hlines houtside hraw
      obtain rfl := Except.ok.inj hitems
      exact h catalog _ _ (mem_textItems.2 ⟨before, raw, after, hlines, houtside,
        lineItem?_eq_rule.2 ⟨pattern, left, right, phoneme, hraw, rfl, rfl, rfl⟩⟩)
  | document =>
    constructor
    · rintro ⟨v, hread, hv | ⟨entries, hentries, h⟩⟩
      · exact ⟨[], documentItems_eq_ok.2 ⟨v, hread, Or.inl ⟨hv, rfl⟩⟩,
          fun _ _ _ hmem => absurd hmem List.not_mem_nil⟩
      · exact ⟨_, documentItems_eq_ok.2 ⟨v, hread, Or.inr ⟨entries, hentries, rfl⟩⟩,
          fun c place fields hmem => h fields (rule_mem_entryItems.1 ⟨c, place, hmem⟩)⟩
    · rintro ⟨items, hitems, h⟩
      obtain ⟨v, hread, ⟨hv, -⟩ | ⟨entries, hentries, rfl⟩⟩ := documentItems_eq_ok.1 hitems
      · exact ⟨v, hread, Or.inl hv⟩
      · refine ⟨v, hread, Or.inr ⟨entries, hentries, fun fields hmem => ?_⟩⟩
        obtain ⟨c, place, hitem⟩ := rule_mem_entryItems.2 hmem
        exact h c place fields hitem

/-- A catalog includes those that its items name. -/
theorem Source.includes_iff {source : Source} {kind : Journal.LoaderKind} {a b : List Char} :
    source.Includes kind a b ↔
      ∃ items, source.content kind a = .ok items ∧ .inclusion b ∈ items := by
  simp only [Includes, textIncludes_iff a, content_eq_ok]
  constructor
  · rintro ⟨text, hread, items, hitems, hmem⟩
    exact ⟨items, ⟨text, hread, hitems⟩, hmem⟩
  · rintro ⟨items, ⟨text, hread, hitems⟩, hmem⟩
    exact ⟨text, hread, items, hitems, hmem⟩

/-- A catalog builds if it has content and all its rules compile. -/
theorem Source.builds_iff {source : Source} {kind : Journal.LoaderKind} {a : List Char} :
    source.Builds kind a ↔ ∃ items, source.content kind a = .ok items ∧
      ∀ c place fields, .rule c place fields ∈ items → fields.Compiles := by
  simp only [Builds, textBuilds_iff a, content_eq_ok]
  constructor
  · rintro ⟨text, hread, items, hitems, h⟩
    exact ⟨items, ⟨text, hread, hitems⟩, h⟩
  · rintro ⟨items, ⟨text, hread, hitems⟩, h⟩
    exact ⟨text, hread, items, hitems, h⟩

end PhoneticCatalog.Catalog
