import Mathlib.Data.PNat.Defs
import PhoneticCatalog.Catalog.DocumentFormat
import PhoneticCatalog.Catalog.TextFormat
import PhoneticCatalog.Proofs.Inclusion.Steps

/-!
# What a catalog holds

The content of a catalog is the list of its items, in the order of its text: rules, includes of
other catalogs and malformed lines. In the text format an item stands on a line outside of block
comments (`textItems`), in the document format it is an entry of a document that can be read and has
the shape of a catalog (`documentItems`).

The steps of both formats are the steps of these items, counts of lines aside (`filter_steps`).
`Source.content` is the content of a catalog of a source.
-/

namespace PhoneticCatalog.Catalog

/-- What stands at one place of a catalog. -/
inductive Item where
  | rule (catalog : List Char) (place : RulePlace) (fields : RuleFields)
  | inclusion (name : List Char)
  | malformed (d : Diagnostic)

/-- The step that carries out an item. -/
def Item.step : Item → Step Rule
  | .rule catalog place fields => .ofFields catalog place fields
  | .inclusion name => .splice name
  | .malformed d => .skip d

/-! ## Texts -/

/-- Whether a block comment is open after a line, if it was or was not before. -/
def blockAfter (inBlock : Bool) (raw : List Char) : Bool :=
  if inBlock then !Text.endsWith raw blockEnd else Text.startsWith raw blockStart

/-- The lines outside of block comments, numbered from a number on. -/
def codeLines : (inBlock : Bool) → (number : Nat) → List (List Char) → List (Nat × List Char)
  | _, _, [] => []
  | inBlock, number, raw :: rest =>
    if inBlock || Text.startsWith raw blockStart then
      codeLines (blockAfter inBlock raw) (number + 1) rest
    else (number, raw) :: codeLines (blockAfter inBlock raw) (number + 1) rest

/-- What a numbered line outside of block comments holds, if it is not blank. -/
def lineItem? (catalog : List Char) (line : Nat × List Char) : Option Item :=
  match LineContent.ofLine line.2 with
  | .blank _ => none
  | .include name => some (.inclusion name)
  | .rule pattern left right phoneme =>
    some (.rule catalog (.line line.1) { pattern, left, right, phoneme })
  | .malformed problem => some (.malformed ⟨catalog, line.1, problem, line.2⟩)

/-- The items on some lines, numbered from a number on, inside or outside of a block comment. -/
def linesItems (catalog : List Char) (inBlock : Bool) (number : Nat) (lines : List (List Char)) :
    List Item :=
  (codeLines inBlock number lines).filterMap (lineItem? catalog)

/-- The items of a text. -/
def textItems (catalog text : List Char) : List Item :=
  linesItems catalog false 1 (Text.splitLines text)

/-- Lines are read one after the other. All that the later ones are told of the earlier ones is
their number and whether they leave a block comment open. -/
theorem codeLines_append (before after : List (List Char)) (inBlock : Bool) (number : Nat) :
    codeLines inBlock number (before ++ after) =
      codeLines inBlock number before
        ++ codeLines (before.foldl blockAfter inBlock) (number + before.length) after := by
  induction before generalizing inBlock number with
  | nil => rfl
  | cons raw rest ih =>
    have hnumber : number + 1 + rest.length = number + (rest.length + 1) := by omega
    rw [List.cons_append, codeLines, codeLines, ih, List.foldl_cons, List.length_cons, hnumber]
    split <;> rfl

/-- The items of lines in two parts, where the second part starts within a block comment or not as
the first one ends. -/
theorem linesItems_append (catalog : List Char) (before after : List (List Char)) (inBlock : Bool)
    (number : Nat) :
    linesItems catalog inBlock number (before ++ after) =
      linesItems catalog inBlock number before
        ++ linesItems catalog (before.foldl blockAfter inBlock) (number + before.length) after := by
  rw [linesItems, codeLines_append, List.filterMap_append]
  rfl

/-- Fields are an item, whether they compile or not. -/
theorem isItem_ofFields (catalog : List Char) (place : RulePlace) (fields : RuleFields) :
    (Step.ofFields catalog place fields).isItem = true := by
  rw [Step.ofFields]
  split <;> rfl

/-- The steps of a line outside of block comments carry out its item. -/
theorem filter_lineSteps (catalog : List Char) (number : Nat) (raw : List Char) :
    (lineSteps catalog number raw).filter Step.isItem =
      (lineItem? catalog (number, raw)).toList.map Item.step := by
  rw [lineSteps, lineItem?]
  split <;> rename_i h <;> rw [h]
  · rfl
  · rfl
  · rfl
  · rw [List.filter_cons_of_neg (by decide), List.filter_cons_of_pos (isItem_ofFields _ _ _)]
    rfl

/-- The steps of some lines carry out their items. -/
theorem filter_linesSteps (catalog : List Char) (lines : List (List Char)) (inBlock : Bool)
    (number : Nat) :
    (linesSteps catalog inBlock number lines).filter Step.isItem =
      (linesItems catalog inBlock number lines).map Item.step := by
  -- By induction over the lines. Those of a block comment are counted only.
  induction lines generalizing inBlock number with
  | nil => rw [linesSteps]; rfl
  | cons raw rest ih =>
    cases inBlock with
    | true => exact ih _ _
    | false =>
      rw [linesSteps, linesItems, codeLines]
      by_cases h : Text.startsWith raw blockStart = true
      · rw [if_pos h, if_pos (by rw [h]; rfl), blockAfter, if_neg (by decide), h]
        exact ih true (number + 1)
      · have h : Text.startsWith raw blockStart = false := by simpa using h
        rw [if_neg (by rw [h]; decide), if_neg (by rw [h]; decide), blockAfter,
          if_neg (by decide), h, List.filter_append, filter_lineSteps, ih]
        rw [linesItems]
        cases hitem : lineItem? catalog (number, raw) with
        | none => rw [List.filterMap_cons_none hitem]; rfl
        | some item => rw [List.filterMap_cons_some hitem]; rfl

/-! ## Documents -/

/-- What a numbered entry of a document is. -/
def entryItem (catalog : List Char) : Entry × Nat → Item
  | (.include name, _) => .inclusion name
  | (.rule fields, number) => .rule catalog (.entry number) fields

/-- The items of a document, if the text is one of a catalog. -/
def documentItems (catalog text : List Char) : Except LoadError (List Item) :=
  match Document.read text with
  | .error f => .error (.ofRead catalog f)
  | .ok .nothing => .ok []
  | .ok v =>
    match entriesOf v with
    | .error m => .error (.format catalog (.shape m))
    | .ok entries => .ok (entries.zipIdx.map (entryItem catalog))

/-- The steps of some entries carry out their items. -/
theorem filter_entrySteps (catalog : List Char) (entries : List Entry) (number : Nat) :
    (entrySteps catalog number entries).filter Step.isItem =
      ((entries.zipIdx number).map (entryItem catalog)).map Item.step := by
  induction entries generalizing number with
  | nil => rw [entrySteps]; rfl
  | cons entry rest ih =>
    rw [List.zipIdx_cons, List.map_cons, List.map_cons, ← ih]
    rcases entry with fields | name
    · rw [entrySteps, List.filter_cons_of_pos (isItem_ofFields _ _ _)]
      rfl
    · rfl

/-! ## Both formats -/

/-- The format of a kind of loader. -/
def Format.ofKind : Journal.LoaderKind → Format Rule
  | .text => textFormat
  | .document => documentFormat

/-- The loader of a kind for a source, which may have so many catalogs open at once. -/
def Loader.ofKind (kind : Journal.LoaderKind) (source : Source) (depth : ℕ+) : Loader Rule :=
  ⟨.ofKind kind, source, depth, depth.pos⟩

/-- The items of a text that is read in a format, or why the text is no catalog at all. -/
def itemsOf : (kind : Journal.LoaderKind) → (catalog text : List Char) →
    Except LoadError (List Item)
  | .text, catalog, text => .ok (textItems catalog text)
  | .document, catalog, text => documentItems catalog text

/-- The steps of a catalog carry out its items. -/
theorem filter_steps {kind : Journal.LoaderKind} {catalog text : List Char} {items : List Item}
    (h : itemsOf kind catalog text = .ok items) :
    ((Format.ofKind kind).steps catalog text).filter Step.isItem = items.map Item.step := by
  cases kind with
  | text =>
    obtain rfl := Except.ok.inj h
    exact filter_linesSteps catalog (Text.splitLines text) false 1
  | document =>
    change (documentSteps catalog text).filter _ = _
    change documentItems catalog text = _ at h
    rw [documentItems] at h
    rw [documentSteps]
    split at h
    · cases h
    · rename_i hread
      obtain rfl := Except.ok.inj h
      rw [hread]
      rfl
    · rename_i v hv hread
      rw [hread]
      change (valueSteps catalog text v).filter _ = _
      split at h
      · cases h
      · rename_i entries hentries
        obtain rfl := Except.ok.inj h
        -- The steps of a document are its count of lines, and then one for each entry.
        have hsteps : valueSteps catalog text v =
            .tally (Text.splitLines text).length 0 :: entrySteps catalog 0 entries := by
          unfold valueSteps
          split
          · exact absurd rfl hv
          · rw [hentries]
        rw [hsteps]
        exact filter_entrySteps catalog entries 0

/-- A text that is no catalog takes a single step. -/
theorem steps_of_error {kind : Journal.LoaderKind} {catalog text : List Char} {e : LoadError}
    (h : itemsOf kind catalog text = .error e) :
    (Format.ofKind kind).steps catalog text = [.abort e] := by
  cases kind with
  | text => cases h
  | document =>
    change documentSteps catalog text = _
    change documentItems catalog text = _ at h
    rw [documentItems] at h
    rw [documentSteps]
    split at h
    · rename_i f hread
      obtain rfl := Except.error.inj h
      rw [hread]
    · cases h
    · rename_i v hv hread
      rw [hread]
      split at h
      · rename_i m hm
        obtain rfl := Except.error.inj h
        change valueSteps catalog text v = _
        unfold valueSteps
        split
        · exact absurd rfl hv
        · rw [hm]
      · cases h

/-- A step that is more than a count of lines is that of an item, or ends the run of a text that is
no catalog. -/
theorem item_of_mem_steps {kind : Journal.LoaderKind} {catalog text : List Char} {s : Step Rule}
    (h : s ∈ (Format.ofKind kind).steps catalog text) (hs : s.isItem = true) :
    (∃ e, itemsOf kind catalog text = .error e ∧ s = .abort e) ∨
      ∃ items item, itemsOf kind catalog text = .ok items ∧ item ∈ items ∧ item.step = s := by
  cases hitems : itemsOf kind catalog text with
  | error e =>
    rw [steps_of_error hitems] at h
    exact Or.inl ⟨e, rfl, List.mem_singleton.1 h⟩
  | ok items =>
    have hmem : s ∈ items.map Item.step := by
      rw [← filter_steps hitems]
      exact List.mem_filter.2 ⟨h, hs⟩
    obtain ⟨item, hitem, hstep⟩ := List.mem_map.1 hmem
    exact Or.inr ⟨items, item, rfl, hitem, hstep⟩

/-- A run is ended by a text that is no catalog, or by a rule that does not exist. -/
theorem abort_mem_steps {kind : Journal.LoaderKind} {catalog text : List Char} {e : LoadError}
    (h : .abort e ∈ (Format.ofKind kind).steps catalog text) :
    itemsOf kind catalog text = .error e ∨
      ∃ items c place fields cause, itemsOf kind catalog text = .ok items ∧
        .rule c place fields ∈ items ∧ Rule.ofFields fields = .error cause ∧
        e = .ofContext c place cause := by
  rcases item_of_mem_steps h rfl with ⟨e', he', heq⟩ | ⟨items, item, hitems, hitem, hstep⟩
  · exact Or.inl (Step.abort.inj heq ▸ he')
  · -- Among the items only a rule can abort, when it does not compile.
    cases item with
    | rule c place fields =>
      rw [Item.step, Step.ofFields] at hstep
      cases hr : Rule.ofFields fields with
      | ok r =>
        rw [hr] at hstep
        cases hstep
      | error cause =>
        rw [hr] at hstep
        exact Or.inr
          ⟨items, c, place, fields, cause, hitems, hitem, hr, (Step.abort.inj hstep).symm⟩
    | inclusion b => cases hstep
    | malformed d => cases hstep

/-- An included catalog is that of an include. -/
theorem splice_mem_steps {kind : Journal.LoaderKind} {catalog text b : List Char}
    (h : .splice b ∈ (Format.ofKind kind).steps catalog text) :
    ∃ items, itemsOf kind catalog text = .ok items ∧ .inclusion b ∈ items := by
  rcases item_of_mem_steps h rfl with ⟨e, -, heq⟩ | ⟨items, item, hitems, hitem, hstep⟩
  · cases heq
  · cases item with
    | rule c place fields =>
      rw [Item.step, Step.ofFields] at hstep
      split at hstep <;> cases hstep
    | inclusion name => exact ⟨items, hitems, Step.splice.inj hstep ▸ hitem⟩
    | malformed d => cases hstep

/-- A line that is skipped is a malformed one. -/
theorem skip_mem_steps {kind : Journal.LoaderKind} {catalog text : List Char} {d : Diagnostic}
    (h : .skip d ∈ (Format.ofKind kind).steps catalog text) :
    ∃ items, itemsOf kind catalog text = .ok items ∧ .malformed d ∈ items := by
  rcases item_of_mem_steps h rfl with ⟨e, -, heq⟩ | ⟨items, item, hitems, hitem, hstep⟩
  · cases heq
  · cases item with
    | rule c place fields =>
      rw [Item.step, Step.ofFields] at hstep
      split at hstep <;> cases hstep
    | inclusion name => cases hstep
    | malformed d' => exact ⟨items, hitems, Step.skip.inj hstep ▸ hitem⟩

/-! ## Catalogs of a source -/

/-- The source holds a catalog of that name. -/
def Source.Holds (source : Source) (name : List Char) : Prop :=
  ∃ text, (source.read name).result = .ok text

/-- The source of a list holds the catalogs that are named in it. -/
theorem Source.holds_ofList {catalogs : List (List Char × List Char)} {name : List Char} :
    (ofList catalogs).Holds name ↔ name ∈ catalogs.map Prod.fst := by
  have hlookup : (catalogs.reverse.lookup name).isSome ↔ name ∈ catalogs.map Prod.fst := by
    simp [List.lookup_isSome_iff]
  rw [← hlookup, Holds]
  simp only [ofList]
  cases catalogs.reverse.lookup name with
  | none =>
    refine iff_of_false ?_ Bool.false_ne_true
    rintro ⟨text, htext⟩
    cases htext
  | some text => exact iff_of_true ⟨text, rfl⟩ rfl

/-- The items of a catalog of a source, or why it cannot be opened or is no catalog. -/
def Source.content (source : Source) (kind : Journal.LoaderKind) (name : List Char) :
    Except LoadError (List Item) :=
  match (source.read name).result with
  | .error fault => .error (.notOpened name fault)
  | .ok text => itemsOf kind name text

/-- The content of a catalog that can be read. -/
theorem Source.content_of_read {source : Source} {kind : Journal.LoaderKind}
    {name text : List Char} (h : (source.read name).result = .ok text) :
    source.content kind name = itemsOf kind name text := by
  rw [content, h]

/-- A catalog that cannot be opened has no content. -/
theorem Source.content_of_error {source : Source} {kind : Journal.LoaderKind}
    {name : List Char} {fault : OpenFault} (h : (source.read name).result = .error fault) :
    source.content kind name = .error (.notOpened name fault) := by
  rw [content, h]

/-- A catalog has content if it can be read, and its text has items. -/
theorem Source.content_eq_ok {source : Source} {kind : Journal.LoaderKind} {name : List Char}
    {items : List Item} :
    source.content kind name = .ok items ↔
      ∃ text, (source.read name).result = .ok text ∧ itemsOf kind name text = .ok items := by
  cases hread : (source.read name).result with
  | error fault => simp [content_of_error hread]
  | ok text => simp [content_of_read hread]

/-- What has a content is held. -/
theorem Source.holds_of_content {source : Source} {kind : Journal.LoaderKind} {name : List Char}
    {items : List Item} (h : source.content kind name = .ok items) : source.Holds name := by
  obtain ⟨text, hread, -⟩ := content_eq_ok.1 h
  exact ⟨text, hread⟩

end PhoneticCatalog.Catalog
