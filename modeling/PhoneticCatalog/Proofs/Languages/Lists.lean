import Mathlib.Data.List.Infix
import Mathlib.Data.List.Sort
import PhoneticCatalog.Catalog.LanguageRegistry
import PhoneticCatalog.Proofs.Text.Fields
import PhoneticCatalog.Proofs.Text.Terminators

/-!
# What a list of languages names

The languages of a text are listable names (`IsListable`), and every list of listable names can be
written down and read back (`languages_round_trip`). It may be written with blanks around the names,
with blank lines, comment lines and block comments anywhere between them, and with terminators of
all kinds: a list is written from passages, and each `Passage` adds its own name to what the lines
after it name, or none (`listedNames_lines_append`).
-/

namespace PhoneticCatalog

/-- Sets with the same members are equal. -/
theorem LanguageSet.ext_mem {s t : LanguageSet} (h : ∀ name, name ∈ s ↔ name ∈ t) : s = t := by
  have hnames : s.names = t.names := s.ascending.eq_of_mem_iff t.ascending fun {name} => h name
  obtain ⟨names, ascending⟩ := s
  obtain rfl : names = t.names := hnames
  rfl

namespace Catalog

/-! ## Names and passages -/

/-- A text without terminators, which stands on one line. -/
def IsUnbroken (line : List Char) : Prop := ∀ c ∈ line, Text.isTerminator c = false

instance (line : List Char) : Decidable (IsUnbroken line) := List.decidableBAll _ line

/-- A name that can stand in a list of languages. -/
structure IsListable (name : List Char) : Prop where
  nonempty : name ≠ []
  trimmed : Text.trim name = name
  unbroken : IsUnbroken name
  uncommented : ¬ commentSign <+: name
  unblocked : ¬ blockStart <+: name

instance (name : List Char) : Decidable (IsListable name) :=
  decidable_of_iff (name ≠ [] ∧ Text.trim name = name ∧ IsUnbroken name ∧ ¬ commentSign <+: name ∧
      ¬ blockStart <+: name)
    ⟨fun ⟨nonempty, trimmed, unbroken, uncommented, unblocked⟩ =>
        ⟨nonempty, trimmed, unbroken, uncommented, unblocked⟩,
      fun h => ⟨h.nonempty, h.trimmed, h.unbroken, h.uncommented, h.unblocked⟩⟩

/-- A character that may stand around a name: a control character or the space, but neither a line
feed nor a carriage return. -/
def IsPadding (c : Char) : Prop := c.toNat ≤ 0x20 ∧ c ≠ '\n' ∧ c ≠ '\r'

instance (c : Char) : Decidable (IsPadding c) := inferInstanceAs (Decidable (_ ∧ _))

/-- A part of a list of languages. -/
inductive Passage where
  /-- A line with a name, and what stands before and behind it. -/
  | entry (before name after : List Char)
  /-- A blank line. -/
  | blank (line : List Char)
  /-- A comment line. -/
  | remark (line : List Char)
  /-- A block comment: its first line, those inside, and its last one. -/
  | block (first : List Char) (inner : List (List Char)) (last : List Char)

namespace Passage

/-- The lines of a passage. -/
def lines : Passage → List (List Char)
  | entry before name after => [before ++ name ++ after]
  | blank line | remark line => [line]
  | block first inner last => first :: (inner ++ [last])

/-- The name in a passage. -/
def name? : Passage → Option (List Char)
  | entry _ name _ => some name
  | _ => none

/-- The passage is what it is called. A block comment starts with a line that starts with its sign,
blanks aside, and goes on up to the first later line that ends with its sign. -/
def IsSound : Passage → Prop
  | entry before name after => IsListable name ∧ ∀ c ∈ before ++ after, IsPadding c
  | blank line => ∀ c ∈ line, IsPadding c
  | remark line => IsUnbroken line ∧ commentSign <+: Text.trim line
  | block first inner last =>
    (∀ line ∈ first :: (inner ++ [last]), IsUnbroken line) ∧ blockStart <+: Text.trim first ∧
      (∀ line ∈ inner, ¬ blockEnd <:+ Text.trim line) ∧ blockEnd <:+ Text.trim last

instance (p : Passage) : Decidable p.IsSound :=
  match p with
  | entry before name after =>
    have : Decidable (∀ c ∈ before ++ after, IsPadding c) := List.decidableBAll _ _
    inferInstanceAs (Decidable (IsListable name ∧ ∀ c ∈ before ++ after, IsPadding c))
  | blank line => List.decidableBAll _ line
  | remark line => inferInstanceAs (Decidable (IsUnbroken line ∧ commentSign <+: Text.trim line))
  | block first inner last =>
    inferInstanceAs (Decidable ((∀ line ∈ first :: (inner ++ [last]), IsUnbroken line) ∧
      blockStart <+: Text.trim first ∧ (∀ line ∈ inner, ¬ blockEnd <:+ Text.trim line) ∧
      blockEnd <:+ Text.trim last))

end Passage

/-! ## Reading lines -/

/-- A text starts with another one if that is a prefix of it. -/
theorem startsWith_iff {text start : List Char} :
    Text.startsWith text start = true ↔ start <+: text := List.isPrefixOf_iff_prefix

/-- A text ends with another one if that is a suffix of it. -/
theorem endsWith_iff {text tail : List Char} : Text.endsWith text tail = true ↔ tail <:+ text :=
  List.isSuffixOf_iff_suffix

/-- What is named on the lines from one on that is outside of block comments and opens none. -/
theorem listedNames_cons_of_not_opened {line : List Char} (h : ¬ blockStart <+: Text.trim line)
    (rest : List (List Char)) :
    listedNames false (line :: rest) =
      if Text.trim line = [] ∨ commentSign <+: Text.trim line then listedNames false rest
      else Text.trim line :: listedNames false rest := by
  rw [listedNames]
  simp only [startsWith_iff, Bool.or_eq_true, List.isEmpty_iff, if_neg h]

/-- A line that opens a comment block names nothing. -/
theorem listedNames_cons_of_opened {line : List Char} (h : blockStart <+: Text.trim line)
    (rest : List (List Char)) : listedNames false (line :: rest) = listedNames true rest := by
  rw [listedNames]
  exact if_pos (startsWith_iff.2 h)

/-- A line that closes a comment block names nothing. -/
theorem listedNames_cons_of_closed {line : List Char} (h : blockEnd <:+ Text.trim line)
    (rest : List (List Char)) : listedNames true (line :: rest) = listedNames false rest := by
  rw [listedNames, endsWith_iff.2 h]
  rfl

/-- A line inside of a comment block names nothing. -/
theorem listedNames_cons_of_not_closed {line : List Char} (h : ¬ blockEnd <:+ Text.trim line)
    (rest : List (List Char)) : listedNames true (line :: rest) = listedNames true rest := by
  rw [listedNames, eq_false_of_ne_true (endsWith_iff.not.2 h)]
  rfl

/-- Empty lines are as good as none. -/
theorem listedNames_filter (inBlock : Bool) (lines : List (List Char)) :
    listedNames inBlock (lines.filter (!·.isEmpty)) = listedNames inBlock lines := by
  induction lines generalizing inBlock with
  | nil => rfl
  | cons line rest ih =>
    cases line with
    | nil =>
      have hempty : listedNames inBlock ([] :: rest) = listedNames inBlock rest := by
        cases inBlock <;> rfl
      rw [hempty, ← ih]
      rfl
    | cons c line =>
      rw [List.filter_cons_of_pos (by simp)]
      cases inBlock <;> simp only [listedNames, ih]

/-! ## What is named can be listed -/

/-- A line names what stands on it, unless it is blank or a comment. -/
theorem isListable_trim {line : List Char} (hline : IsUnbroken line)
    (hne : Text.trim line ≠ []) (hcomment : ¬ commentSign <+: Text.trim line)
    (hblock : ¬ blockStart <+: Text.trim line) : IsListable (Text.trim line) where
  nonempty := hne
  trimmed :=
    have h := Text.isStripped_stripWhile Text.isBlank line
    Text.stripWhile_eq_self h.head h.last
  unbroken c hc := hline c ((Text.stripWhile_infix Text.isBlank line).subset hc)
  uncommented := hcomment
  unblocked := hblock

/-- Whatever lines name can be listed. -/
theorem isListable_of_mem_listedNames {inBlock : Bool} {lines : List (List Char)}
    (hlines : ∀ line ∈ lines, IsUnbroken line) {name : List Char}
    (h : name ∈ listedNames inBlock lines) : IsListable name := by
  induction lines generalizing inBlock with
  | nil => cases inBlock <;> exact absurd h List.not_mem_nil
  | cons line rest ih =>
    have hrest : ∀ {inBlock}, name ∈ listedNames inBlock rest → IsListable name :=
      ih fun other hother => hlines other (List.mem_cons_of_mem line hother)
    cases inBlock with
    | true => exact hrest h
    | false =>
      -- Outside of blocks a line is no opener, nor blank, nor a comment, if it lists a name.
      by_cases hblock : blockStart <+: Text.trim line
      · rw [listedNames_cons_of_opened hblock] at h
        exact hrest h
      rw [listedNames_cons_of_not_opened hblock] at h
      split at h
      · exact hrest h
      · rename_i hname
        obtain ⟨hne, hcomment⟩ := not_or.1 hname
        rcases List.mem_cons.1 h with rfl | h
        · exact isListable_trim (hlines line List.mem_cons_self) hne hcomment hblock
        · exact hrest h

/-! ## What is written is named -/

/-- Padding is blank. -/
theorem IsPadding.isBlank {c : Char} (h : IsPadding c) : Text.isBlank c = true :=
  decide_eq_true h.1

/-- Padding does not end a line. -/
theorem IsPadding.not_isTerminator {c : Char} (h : IsPadding c) : Text.isTerminator c = false := by
  obtain ⟨hlow, hfeed, hreturn⟩ := h
  have hhigh : ∀ d : Char, 0x20 < d.toNat → c ≠ d := by
    rintro d hd rfl
    omega
  simp [Text.isTerminator, hfeed, hreturn, hhigh '\u0085' (by decide), hhigh '\u2028' (by decide),
    hhigh '\u2029' (by decide)]

/-- A comment line does not open a block. -/
theorem not_blockStart_of_commentSign {text : List Char} (h : commentSign <+: text) :
    ¬ blockStart <+: text := by
  intro hblock
  have hsame := List.prefix_of_prefix_length_le h hblock (by decide)
  exact absurd hsame (by decide)

/-- A comment block names nothing, and ends with its first closing line. -/
theorem listedNames_block {inner : List (List Char)} {last : List Char}
    (hinner : ∀ line ∈ inner, ¬ blockEnd <:+ Text.trim line) (hlast : blockEnd <:+ Text.trim last)
    (rest : List (List Char)) :
    listedNames true (inner ++ last :: rest) = listedNames false rest := by
  induction inner with
  | nil => exact listedNames_cons_of_closed hlast rest
  | cons line inner ih =>
    rw [List.cons_append, listedNames_cons_of_not_closed (hinner line List.mem_cons_self)]
    exact ih fun other hother => hinner other (List.mem_cons_of_mem line hother)

/-- The lines of a passage add its name, if it has one, to what is named behind them. -/
theorem listedNames_lines_append {p : Passage} (h : p.IsSound) (rest : List (List Char)) :
    listedNames false (p.lines ++ rest) = p.name?.toList ++ listedNames false rest := by
  -- One case for each kind of passage; what decides is how its line starts when it is trimmed.
  cases p with
  | entry before name after =>
    obtain ⟨hname, hpadding⟩ := h
    have hblank : ∀ c ∈ before ++ after, Text.isBlank c = true :=
      fun c hc => (hpadding c hc).isBlank
    have htrim : Text.trim (before ++ name ++ after) = name :=
      Text.stripWhile_eq_iff.2 ⟨hname.trimmed ▸ Text.isStripped_stripWhile Text.isBlank name,
        before, after, rfl, fun c hc => hblank c (List.mem_append_left after hc),
        fun c hc => hblank c (List.mem_append_right before hc)⟩
    have hcons := listedNames_cons_of_not_opened (htrim ▸ hname.unblocked) rest
    rw [htrim, if_neg (not_or.2 ⟨hname.nonempty, hname.uncommented⟩)] at hcons
    exact hcons
  | blank line =>
    have htrim : Text.trim line = [] :=
      Text.stripWhile_eq_iff.2 ⟨⟨by simp, by simp⟩, line, [], by simp,
        fun c hc => (h c hc).isBlank, by simp⟩
    have hblock : ¬ blockStart <+: Text.trim line := by
      rw [htrim]
      decide
    have hcons := listedNames_cons_of_not_opened hblock rest
    rw [if_pos (Or.inl htrim)] at hcons
    exact hcons
  | remark line =>
    have hcomment : commentSign <+: Text.trim line := h.2
    have hcons := listedNames_cons_of_not_opened (not_blockStart_of_commentSign hcomment) rest
    rw [if_pos (Or.inr hcomment)] at hcons
    exact hcons
  | block first inner last =>
    obtain ⟨-, hfirst, hinner, hlast⟩ := h
    show listedNames false (first :: (inner ++ [last]) ++ rest) = listedNames false rest
    rw [List.cons_append, List.append_assoc, listedNames_cons_of_opened hfirst]
    exact listedNames_block hinner hlast rest

/-- Sound passages name what they are for, one after the other. -/
theorem listedNames_passages {passages : List Passage} (h : ∀ p ∈ passages, p.IsSound) :
    listedNames false (passages.flatMap Passage.lines) = passages.filterMap Passage.name? := by
  induction passages with
  | nil => rfl
  | cons p rest ih =>
    have hrest := ih fun other hother => h other (List.mem_cons_of_mem p hother)
    rw [List.flatMap_cons, listedNames_lines_append (h p List.mem_cons_self), hrest,
      List.filterMap_cons]
    cases p.name? <;> rfl

/-- No passage reaches over the end of a line. -/
theorem isUnbroken_of_mem_lines {p : Passage} (h : p.IsSound) {line : List Char}
    (hline : line ∈ p.lines) : IsUnbroken line := by
  cases p with
  | entry before name after =>
    obtain ⟨hname, hpadding⟩ := h
    obtain rfl := List.mem_singleton.1 hline
    intro c hc
    rcases List.mem_append.1 hc with hc | hc
    · rcases List.mem_append.1 hc with hc | hc
      · exact (hpadding c (List.mem_append_left after hc)).not_isTerminator
      · exact hname.unbroken c hc
    · exact (hpadding c (List.mem_append_right before hc)).not_isTerminator
  | blank line' =>
    obtain rfl := List.mem_singleton.1 hline
    exact fun c hc => (h c hc).not_isTerminator
  | remark line' =>
    obtain rfl := List.mem_singleton.1 hline
    exact h.1
  | block first inner last => exact h.1 line hline

/-! ## Whole texts -/

/-- Whatever a list of languages names can be listed. -/
theorem isListable_of_mem_parseLanguages {text name : List Char} (h : name ∈ parseLanguages text) :
    IsListable name :=
  isListable_of_mem_listedNames (fun _ hline => Text.not_isTerminator_of_mem_splitLines hline)
    (LanguageSet.mem_ofList.1 h)

/-- A text that is written from passages lists the names in them. -/
theorem parseLanguages_of_isWritten {passages : List Passage} (h : ∀ p ∈ passages, p.IsSound)
    {text : List Char} (htext : Text.IsWritten (passages.flatMap Passage.lines) text) :
    parseLanguages text = .ofList (passages.filterMap Passage.name?) := by
  have hlines : ∀ line ∈ passages.flatMap Passage.lines, IsUnbroken line := by
    intro line hline
    obtain ⟨p, hp, hline⟩ := List.mem_flatMap.1 hline
    exact isUnbroken_of_mem_lines (h p hp) hline
  rw [parseLanguages, ← listedNames_filter, Text.filter_splitLines htext hlines, listedNames_filter,
    listedNames_passages h]

/-- Listable names on lines of their own are all listed. -/
theorem parseLanguages_intercalate {names : List (List Char)}
    (h : ∀ name ∈ names, IsListable name) :
    parseLanguages (['\n'].intercalate names) = .ofList names := by
  let passages : List Passage := names.map fun name => .entry [] name []
  have hsound : ∀ p ∈ passages, p.IsSound := by
    intro p hp
    obtain ⟨name, hname, rfl⟩ := List.mem_map.1 hp
    exact ⟨h name hname, by simp⟩
  have hlines : passages.flatMap Passage.lines = names := by
    simp [passages, Passage.lines, List.flatMap_map]
  have hnames : passages.filterMap Passage.name? = names := by
    simp [passages, Passage.name?, List.filterMap_map, Function.comp_def]
  have htext := Text.isWritten_intercalate names
  rw [← hlines] at htext
  have hparse := parseLanguages_of_isWritten hsound htext
  rwa [hlines, hnames] at hparse

/-- Lists of languages are read and written without loss. What a text lists are listable names, and
a text that is written from passages lists exactly the names in them, in whatever order and however
often they are there, with whatever comments and blanks stand between them. So the languages of a
text, one to a line, are the languages of the text that these lines make up. -/
theorem languages_round_trip :
    (∀ text, ∀ name ∈ parseLanguages text, IsListable name) ∧
    (∀ (passages : List Passage) (text : List Char), (∀ p ∈ passages, p.IsSound) →
      Text.IsWritten (passages.flatMap Passage.lines) text →
      ∀ name, name ∈ parseLanguages text ↔ ∃ p ∈ passages, p.name? = some name) ∧
    ∀ text, parseLanguages (['\n'].intercalate (parseLanguages text).names) =
      parseLanguages text := by
  refine ⟨fun text name hname => isListable_of_mem_parseLanguages hname, ?_, fun text => ?_⟩
  · intro passages text hsound htext name
    rw [parseLanguages_of_isWritten hsound htext, LanguageSet.mem_ofList, List.mem_filterMap]
  · rw [parseLanguages_intercalate fun name hname => isListable_of_mem_parseLanguages hname]
    exact LanguageSet.ext_mem fun name => LanguageSet.mem_ofList

/-- Two names, one of them twice, with a block comment, a comment line and blank lines. -/
def mixedPassages : List Passage :=
  [.block "  /* names */".toList [" in use".toList, []] "until now */ ".toList,
   .entry ['\t'] "any".toList [' '], .blank [], .remark " // old".toList,
   .entry [] "polish / silesian".toList [], .blank [' ', '\x0c'], .entry [] "any".toList []]

/-- Their lines, which end in all kinds of terminators. One line feed follows a carriage return. -/
def mixedText : List Char :=
  ("  /* names */\r\n in use\r\nuntil now */ \u0085\tany \u2028\u2029 // old\npolish / silesian\r"
    ++ " \x0c\nany").toList

/-- A list with padding, a comment line, a block and a name with a slash. -/
theorem languages_round_trip_mixed :
    (∀ p ∈ mixedPassages, p.IsSound) ∧
    Text.IsWritten (mixedPassages.flatMap Passage.lines) mixedText ∧
    (∀ name, name ∈ parseLanguages mixedText ↔ ∃ p ∈ mixedPassages, p.name? = some name) ∧
    "polish / silesian".toList ∈ parseLanguages mixedText := by
  have hsound : ∀ p ∈ mixedPassages, p.IsSound := by decide
  have htext : Text.IsWritten (mixedPassages.flatMap Passage.lines) mixedText :=
    .ended _ .returnFeed <| .ended _ .carriageReturn <| .ended _ .feed <| .ended _ .nextLine <|
      .ended _ .lineSeparator <| .ended _ .paragraphSeparator <| .ended _ .feed <|
      .ended _ .carriageReturn <| .ended _ .feed <| .unended _
  have hnames := languages_round_trip.2.1 mixedPassages mixedText hsound htext
  refine ⟨hsound, htext, hnames, (hnames _).2 ⟨.entry [] "polish / silesian".toList [], ?_, rfl⟩⟩
  simp [mixedPassages]

end Catalog

end PhoneticCatalog
