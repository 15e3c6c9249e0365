import Mathlib.Data.List.Forall2
import PhoneticCatalog.Catalog.DocumentFormat
import PhoneticCatalog.Proofs.Writing.Lines

/-!
# Entries as documents

How the entries of a catalog are written in a document: each as a mapping with the keys of a rule or
with the key of an include, in any order, where contexts that are empty may be left out. If all
entries are plain, such a document is a catalog with just these entries (`entriesOf_catalogValue`),
and takes one step for each of them (`documentSteps_of_read`).
-/

namespace PhoneticCatalog.Catalog

open Document (Node Ranked Value)

namespace Entry

/-- The keys of the mapping that an entry is written as, with their values. -/
def members : Entry → List (Value × Value)
  | .rule fields =>
    [(.text "pattern".toList, .text fields.pattern), (.text "left".toList, .text fields.left),
     (.text "right".toList, .text fields.right), (.text "phoneme".toList, .text fields.phoneme)]
  | .include name => [(.text includeKey, .text name)]

/-- What need not be written. -/
def omissible : List (Value × Value) :=
  [(.text "left".toList, .text []), (.text "right".toList, .text [])]

/-- The value is a mapping with the keys of the entry, without those that need not be written or
with them. -/
def IsWrittenAs (e : Entry) (v : Value) : Prop :=
  ∃ written, v = .mapping written ∧ written ⊆ e.members ∧
    ∀ m ∈ e.members, m ∈ written ∨ m ∈ omissible

/-! ## Keys of a mapping -/

section Keys

variable {entries : List (Value × Value)} {key : List Char}

/-- What is found for a key stands in the mapping. -/
theorem mem_of_found {v : Value} (h : Value.entry? entries key = some v) :
    (.text key, v) ∈ entries := by
  rw [Value.entry?, Option.map_eq_some_iff] at h
  obtain ⟨⟨k, w⟩, hfind, rfl⟩ := h
  have hmem := List.mem_of_find?_eq_some hfind
  have hkey := List.find?_some hfind
  cases k with
  | text s =>
    obtain rfl : s = key := by simpa using hkey
    exact hmem
  | _ => cases hkey

/-- Where nothing is found for a key, nothing stands there. -/
theorem not_mem_of_missing (h : Value.entry? entries key = none) (v : Value) :
    (.text key, v) ∉ entries := by
  rw [Value.entry?, Option.map_eq_none_iff, List.find?_eq_none] at h
  intro hmem
  exact h _ hmem (decide_eq_true rfl)

/-- What stands in the mapping alone for a key is found. -/
theorem entry?_eq_some {v : Value} (hmem : (.text key, v) ∈ entries)
    (hunique : ∀ w, (.text key, w) ∈ entries → w = v) : Value.entry? entries key = some v := by
  cases h : Value.entry? entries key with
  | some w => rw [hunique w (mem_of_found h)]
  | none => exact absurd hmem (not_mem_of_missing h v)

/-- A key that is not there has no value. -/
theorem entry?_eq_none (h : ∀ v, (.text key, v) ∉ entries) :
    Value.entry? entries key = none :=
  Option.eq_none_iff_forall_ne_some.2 fun v hv => h v (mem_of_found hv)

/-- The text of a key that may be left out if it is empty. -/
theorem optionalText?_eq_some {key : String} {s : List Char}
    (hmem : (.text key.toList, .text s) ∈ entries ∨ s = [])
    (hunique : ∀ v, (.text key.toList, v) ∈ entries → v = .text s) :
    optionalText? entries key = some s := by
  rw [optionalText?]
  cases h : Value.entry? entries key.toList with
  | some v =>
    obtain rfl := hunique v (mem_of_found h)
    rfl
  | none =>
    obtain rfl := hmem.resolve_left (not_mem_of_missing h _)
    rfl

end Keys

/-! ## Entries -/

/-- No key comes twice in what an entry is written as. -/
theorem members_unique (e : Entry) {key : List Char} {v w : Value}
    (hv : (.text key, v) ∈ e.members) (hw : (.text key, w) ∈ e.members) : w = v := by
  rcases e with fields | name
  · simp only [members, List.mem_cons, List.not_mem_nil, or_false, Prod.mk.injEq,
      Value.text.injEq] at hv hw
    rcases hv with ⟨rfl, rfl⟩ | ⟨rfl, rfl⟩ | ⟨rfl, rfl⟩ | ⟨rfl, rfl⟩ <;> simpa using hw
  · simp only [members, List.mem_singleton, Prod.mk.injEq] at hv hw
    rw [hv.2, hw.2]

section Written

variable {e : Entry} {written : List (Value × Value)} (hsubset : written ⊆ e.members)
  (hwritten : ∀ m ∈ e.members, m ∈ written ∨ m ∈ omissible)

include hsubset in
/-- The keys that are written are keys of the entry. -/
theorem onlyKeys_written {keys : List (List Char)} (h : onlyKeys keys e.members = true) :
    onlyKeys keys written = true := by
  rw [onlyKeys, List.all_eq_true] at h ⊢
  exact fun m hm => h m (hsubset hm)

include hsubset in
/-- Keys that are none of the entry are not written. -/
theorem entry?_written_none {key : List Char} (h : ∀ v, (.text key, v) ∉ e.members) :
    Value.entry? written key = none :=
  entry?_eq_none fun v hv => h v (hsubset hv)

include hsubset hwritten in
/-- A key that has to be written has the value that it has for the entry. -/
theorem entry?_written {key : List Char} {v : Value} (hmem : (.text key, v) ∈ e.members)
    (hrequired : (.text key, v) ∉ omissible) : Value.entry? written key = some v :=
  entry?_eq_some ((hwritten _ hmem).resolve_right hrequired)
    fun _ hw => members_unique e hmem (hsubset hw)

include hsubset hwritten in
/-- The text of a key is that of the entry, written or not. -/
theorem optionalText?_written {key : String} {s : List Char}
    (hmem : (.text key.toList, .text s) ∈ e.members) : optionalText? written key = some s := by
  refine optionalText?_eq_some ((hwritten _ hmem).imp_right ?_)
    fun _ hw => members_unique e hmem (hsubset hw)
  -- A key that is not written is that of a context, and stands for the empty text.
  intro homitted
  simp only [omissible, List.mem_cons, List.not_mem_nil, or_false, Prod.mk.injEq,
    Value.text.injEq] at homitted
  exact homitted.elim And.right And.right

end Written

/-- The mapping of a rule is read as the rule. -/
theorem ruleOf?_written {fields : RuleFields} (h : fields.IsTextual)
    {written : List (Value × Value)} (hsubset : written ⊆ (rule fields).members)
    (hwritten : ∀ m ∈ (rule fields).members, m ∈ written ∨ m ∈ omissible) :
    ruleOf? written = some fields := by
  have hkeys : onlyKeys ruleKeys written = true := onlyKeys_written hsubset rfl
  have hpattern : Value.entry? written "pattern".toList = some (.text fields.pattern) :=
    entry?_written hsubset hwritten (by simp [members]) (by simp [omissible])
  have hphoneme : Value.entry? written "phoneme".toList = some (.text fields.phoneme) :=
    entry?_written hsubset hwritten (by simp [members]) (by simp [omissible])
  have hleft : optionalText? written "left" = some fields.left :=
    optionalText?_written hsubset hwritten (by simp [members])
  have hright : optionalText? written "right" = some fields.right :=
    optionalText?_written hsubset hwritten (by simp [members])
  -- What is not written has the default that the rule has anyway.
  have hlogical : Value.entry? written "logical".toList = none :=
    entry?_written_none hsubset (by simp [members])
  have hlanguages : Value.entry? written "languages".toList = none :=
    entry?_written_none hsubset (by simp [members])
  have hdefault : optionalText? written "logical" = some fields.logical := by
    rw [optionalText?, hlogical, h.logical]
  have hnone : languagesOf? written = some fields.languages := by
    rw [languagesOf?, hlanguages, h.languages]
  unfold ruleOf?
  simp only [hkeys, hpattern, hphoneme, hleft, hright, hdefault, hnone]
  rfl

/-- A plain name can be included. -/
theorem isIncludable_of_isPlainName {name : List Char} (h : IsPlainName name) :
    isIncludable name = true := by
  have hfeed : name.getLast? ≠ some '\n' := by
    intro hlast
    have : 0x20 < '\n'.toNat := h.last '\n' hlast
    exact absurd this (by decide)
  have hempty : name.isEmpty = false := by
    simpa using h.nonempty
  have hblank : name.all (fun c => !Text.isSpace c.toNat) = true := by
    rw [List.all_eq_true]
    intro c hc
    rw [h.unblank c hc]
    rfl
  unfold isIncludable
  simp only [if_neg hfeed, hempty, hblank]
  rfl

/-- The mapping of an include is no rule and is read as the include. -/
theorem includeOf?_written {name : List Char} (h : IsPlainName name)
    {written : List (Value × Value)} (hsubset : written ⊆ (Entry.include name).members)
    (hwritten : ∀ m ∈ (Entry.include name).members, m ∈ written ∨ m ∈ omissible) :
    ruleOf? written = none ∧ includeOf? written = some name := by
  have hleft : includeKey ≠ "left".toList := by decide
  have hright : includeKey ≠ "right".toList := by decide
  have hname : Value.entry? written includeKey = some (.text name) :=
    entry?_written hsubset hwritten (List.mem_singleton_self _) (by
      simp only [omissible, List.mem_cons, List.not_mem_nil, or_false, Prod.mk.injEq,
        Value.text.injEq]
      exact fun hmem => hmem.elim (fun h => hleft h.1) fun h => hright h.1)
  have hkeys : onlyKeys [includeKey] written = true := onlyKeys_written hsubset rfl
  have hkey : ruleKeys.contains includeKey = false := by decide
  -- The key of an include is none of a rule, so that the entry is read as an include.
  have hrule : onlyKeys ruleKeys written = false := by
    rw [onlyKeys, List.all_eq_false]
    refine ⟨_, mem_of_found hname, ?_⟩
    show ¬ ruleKeys.contains includeKey = true
    rw [hkey]
    decide
  constructor
  · unfold ruleOf?
    rw [hrule]
    rfl
  · unfold includeOf?
    simp only [hkeys, hname]
    show (if isIncludable name then some name else none) = some name
    rw [if_pos (isIncludable_of_isPlainName h)]

/-- What a plain entry is written as is read as that entry. -/
theorem ofValue?_of_isWrittenAs {e : Entry} {v : Value} (h : e.IsPlain) (hv : e.IsWrittenAs v) :
    ofValue? v = some e := by
  obtain ⟨written, rfl, hsubset, hwritten⟩ := hv
  rcases e with fields | name
  · rw [ofValue?, ruleOf?_written h hsubset hwritten]
  · obtain ⟨hrule, hinclude⟩ := includeOf?_written h hsubset hwritten
    rw [ofValue?, hrule, hinclude]
    rfl

/-! ## Documents -/

/-- The list of what plain entries are written as is read as the list of these entries. -/
theorem entriesOfList_of_isWrittenAs {entries : List Entry} {items : List Value}
    (h : ∀ e ∈ entries, e.IsPlain) (hitems : List.Forall₂ IsWrittenAs entries items) :
    entriesOfList items = .ok entries := by
  induction hitems with
  | nil => rfl
  | @cons e v rest items hv _ ih =>
    have hfirst : ofValue? v = some e := ofValue?_of_isWrittenAs (h e List.mem_cons_self) hv
    have hrest : entriesOfList items = .ok rest :=
      ih fun other hother => h other (List.mem_cons_of_mem e hother)
    rw [entriesOfList, hfirst, hrest]

end Entry

/-- The document that lists some values as its entries. -/
def catalogValue (items : List Value) : Value :=
  .mapping [(.text Entry.rulesKey, .list items)]

/-- The entries of a catalog document are those that its items are written for. -/
theorem entriesOf_catalogValue {entries : List Entry} {items : List Value}
    (h : ∀ e ∈ entries, e.IsPlain) (hitems : List.Forall₂ Entry.IsWrittenAs entries items) :
    entriesOf (catalogValue items) = .ok entries :=
  Entry.entriesOfList_of_isWrittenAs h hitems

/-- The value of a text is that text. -/
theorem build_text (level : Nat) (s : List Char) :
    Value.build level (.scalar .text s) = .ok (.text s) := by
  rw [Value.build]
  rfl

/-- The key is a text, and the value is built from its node. -/
inductive BuiltFrom (level : Nat) : Value × Value → Node × Node → Prop where
  | text (key : List Char) {v : Value} {n : Node} (h : Value.build level n = .ok v) :
      BuiltFrom level (.text key, v) (.scalar .text key, n)

section Nodes

variable {level : Nat} {entries : List (Value × Value)} {nodes : List (Node × Node)}
  (h : List.Forall₂ (BuiltFrom level) entries nodes)

include h

/-- Texts as keys leave nothing to be merged. -/
theorem canMerge_of_texts : Value.canMerge nodes = true := by
  induction h with
  | nil => rfl
  | cons hfirst _ ih =>
    cases hfirst
    exact ih

/-- Texts as keys bring no merged entries. -/
theorem buildMerged_of_texts : Value.buildMerged level nodes = .ok [] := by
  induction h with
  | nil => rw [Value.buildMerged]
  | cons hfirst _ ih =>
    cases hfirst
    rw [Value.buildMerged]
    exact ih

/-- Texts as keys have the values of their nodes. -/
theorem buildOwn_of_texts : Value.buildOwn level nodes = .ok entries := by
  induction h with
  | nil => rw [Value.buildOwn]
  | cons hfirst _ ih =>
    obtain ⟨key, hvalue⟩ := hfirst
    rw [Value.buildOwn, ih, hvalue]
    show Ranked.both _ (Ranked.both _ (Value.build level (.scalar .text key)) _) _ = _
    rw [build_text]
    rfl

/-- Where all keys are texts, nothing is merged, and each key has the value of its node. -/
theorem buildEntries_of_texts : Value.buildEntries level nodes = .ok (Value.putAll entries) := by
  rw [Value.buildEntries, if_pos (canMerge_of_texts h), buildMerged_of_texts h,
    buildOwn_of_texts h]
  rfl

end Nodes

/-- A list is built if all its items are. -/
theorem buildItems_of_forall {level : Nat} {items : List Value} {nodes : List Node}
    (h : List.Forall₂ (fun v n => Value.build level n = .ok v) items nodes) :
    Value.buildItems level nodes = .ok items := by
  induction h with
  | nil => rw [Value.buildItems]
  | cons hfirst _ ih =>
    rw [Value.buildItems, ih, hfirst]
    rfl

/-- A text whose node lists some nodes as its entries is read as the document that lists their
values. -/
theorem read_of_entryNodes {document : List Char} {items : List Value} {nodes : List Node}
    (hnode : Node.ofTokens? (Document.tokens document) =
      .ok (some (.mapping .mapping
        [(.scalar .text Entry.rulesKey, .sequence .sequence nodes)])))
    (hitems : List.Forall₂ (fun v n => Value.build 2 n = .ok v) items nodes) :
    Document.read document = .ok (catalogValue items) := by
  have hlist : Value.build 1 (.sequence .sequence nodes) = .ok (.list items) := by
    rw [Value.build, buildItems_of_forall hitems]
    rfl
  rw [Document.read, hnode]
  show Value.ofNode _ = _
  rw [Value.ofNode, Value.build, buildEntries_of_texts (.cons (.text Entry.rulesKey hlist) .nil)]
  rfl

/-- The value of a mapping of texts. -/
theorem build_of_texts (level : Nat) (texts : List (List Char × List Char)) :
    Value.build level
        (.mapping .mapping (texts.map fun t => (.scalar .text t.1, .scalar .text t.2))) =
      .ok (.mapping (Value.putAll (texts.map fun t => (.text t.1, .text t.2)))) := by
  have hentries : List.Forall₂ (BuiltFrom (level + 1)) (texts.map fun t => (.text t.1, .text t.2))
      (texts.map fun t => (.scalar .text t.1, .scalar .text t.2)) := by
    rw [List.forall₂_map_left_iff, List.forall₂_map_right_iff, List.forall₂_same]
    exact fun t _ => .text t.1 (build_text _ t.2)
  rw [Value.build, buildEntries_of_texts hentries]
  rfl

/-- Tokens that make up a list of mappings of texts are read as this list. -/
theorem read_of_texts (entries : List (List (List Char × List Char))) {document : List Char}
    {tokens : List Document.Token} (htokens : Document.tokens document = tokens)
    (hnode : Node.ofTokens? tokens =
      .ok (some (.mapping .mapping [(.scalar .text Entry.rulesKey, .sequence .sequence
        (entries.map fun texts =>
          .mapping .mapping (texts.map fun t => (.scalar .text t.1, .scalar .text t.2))))]))) :
    Document.read document = .ok (catalogValue (entries.map fun texts =>
      .mapping (Value.putAll (texts.map fun t => (.text t.1, .text t.2))))) := by
  refine read_of_entryNodes (htokens ▸ hnode) ?_
  rw [List.forall₂_map_left_iff, List.forall₂_map_right_iff, List.forall₂_same]
  exact fun texts _ => build_of_texts 2 texts

/-- The first entry has its own step, and the others are numbered on from there. -/
theorem entrySteps_cons (catalog : List Char) (number : Nat) (e : Entry) (rest : List Entry) :
    entrySteps catalog number (e :: rest) =
      e.step catalog (.entry number) :: entrySteps catalog (number + 1) rest := by
  rcases e with fields | name <;> rw [entrySteps] <;> rfl

/-- A text that is read as a catalog counts its lines and then takes the steps of its entries. -/
theorem documentSteps_of_read (catalog : List Char) {document : List Char} {entries : List Entry}
    {items : List Value} (h : ∀ e ∈ entries, e.IsPlain)
    (hitems : List.Forall₂ Entry.IsWrittenAs entries items)
    (hread : Document.read document = .ok (catalogValue items)) :
    documentSteps catalog document =
      .tally (Text.splitLines document).length 0 :: entrySteps catalog 0 entries := by
  have hentries : entriesOf (catalogValue items) = .ok entries := entriesOf_catalogValue h hitems
  rw [documentSteps, hread]
  show valueSteps catalog document (catalogValue items) = _
  unfold valueSteps
  split
  · rename_i hnothing
    cases hnothing
  · rw [hentries]

end PhoneticCatalog.Catalog
