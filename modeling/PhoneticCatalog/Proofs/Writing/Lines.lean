import PhoneticCatalog.Catalog.Entry
import PhoneticCatalog.Catalog.TextFormat
import PhoneticCatalog.Proofs.Text.Line

/-!
# Entries as lines

How the entries of a catalog are written in the text format: a rule as its four fields in double
quotes, an include as its word and a name, each on a line of its own. `Entry.IsPlain` says which
entries can be written so. A line that was written is read as the entry it was written for
(`ofLine_line`), and a text of such lines takes one step for each of them (`textSteps_writeText`).
-/

namespace PhoneticCatalog

/-- The characters that no field of a line can hold: those that separate fields and those that end
lines. -/
def fieldBreaks : List Char :=
  [' ', '\t', '\n', '\x0b', '\x0c', '\r', '\u0085', '\u2028', '\u2029']

/-- The field can be written on a line, with quotes around it. -/
structure Writable (field : List Char) : Prop where
  unbroken : ∀ c ∈ field, c ∉ fieldBreaks
  uncommented : ¬ Catalog.commentSign <:+: field

/-- A character breaks a field if it separates fields or ends a line. -/
theorem not_mem_fieldBreaks {c : Char} :
    c ∉ fieldBreaks ↔ Text.isSeparator c = false ∧ Text.isTerminator c = false := by
  simp only [fieldBreaks, Text.isSeparator, Text.isTerminator, List.mem_cons, List.not_mem_nil,
    Bool.or_eq_false_iff, decide_eq_false_iff_not]
  tauto

namespace Writable

variable {field : List Char}

instance : Decidable (Writable field) :=
  decidable_of_iff (field.all (· ∉ fieldBreaks) ∧ ¬ Catalog.commentSign <:+: field)
    ⟨fun h => ⟨by simpa using h.1, h.2⟩, fun h => ⟨by simpa using h.unbroken, h.uncommented⟩⟩

/-- A writable field has no separator. -/
theorem not_isSeparator (h : Writable field) : ∀ c ∈ field, Text.isSeparator c = false :=
  fun c hc => (not_mem_fieldBreaks.1 (h.unbroken c hc)).1

/-- A writable field has no terminator. -/
theorem not_isTerminator (h : Writable field) : ∀ c ∈ field, Text.isTerminator c = false :=
  fun c hc => (not_mem_fieldBreaks.1 (h.unbroken c hc)).2

/-- A part of a field that can be written can be written. -/
theorem of_infix {part : List Char} (h : Writable field) (hpart : part <:+: field) :
    Writable part :=
  ⟨fun c hc => h.unbroken c (hpart.subset hc), fun hmark => h.uncommented (hmark.trans hpart)⟩

end Writable

/-- All fields of the rule can be written, and it has nothing but these fields. -/
structure RuleFields.IsTextual (fields : RuleFields) : Prop where
  pattern : Writable fields.pattern
  left : Writable fields.left
  right : Writable fields.right
  phoneme : Writable fields.phoneme
  languages : fields.languages = .empty
  logical : fields.logical = []

instance (fields : RuleFields) : Decidable fields.IsTextual :=
  decidable_of_iff (Writable fields.pattern ∧ Writable fields.left ∧ Writable fields.right ∧
      Writable fields.phoneme ∧ fields.languages = .empty ∧ fields.logical = [])
    ⟨fun ⟨pattern, left, right, phoneme, languages, logical⟩ =>
        ⟨pattern, left, right, phoneme, languages, logical⟩,
      fun h => ⟨h.1, h.2, h.3, h.4, h.5, h.6⟩⟩

/-- The line of a rule. -/
def RuleFields.line (fields : RuleFields) : List Char :=
  Text.quoted fields.pattern ++ ' ' :: (Text.quoted fields.left ++ ' ' ::
    (Text.quoted fields.right ++ ' ' :: Text.quoted fields.phoneme))

namespace Catalog

/-- The name can be written behind the word of an include, and can be read from a document. -/
structure IsPlainName (name : List Char) : Prop where
  nonempty : name ≠ []
  unblank : ∀ c ∈ name, Text.isSpace c.toNat = false
  uncommented : ¬ commentSign <:+: name
  head : ∀ c ∈ name.head?, 0x20 < c.toNat
  last : ∀ c ∈ name.getLast?, 0x20 < c.toNat

instance (name : List Char) : Decidable (IsPlainName name) :=
  decidable_of_iff (name ≠ [] ∧ name.all (!Text.isSpace ·.toNat) ∧ ¬ commentSign <:+: name ∧
      name.head?.toList.all (0x20 < ·.toNat) ∧ name.getLast?.toList.all (0x20 < ·.toNat))
    ⟨fun ⟨nonempty, unblank, uncommented, head, last⟩ =>
        ⟨nonempty, by simpa using unblank, uncommented, by simpa using head, by simpa using last⟩,
      fun h => ⟨h.nonempty, by simpa using h.unblank, h.uncommented, by simpa using h.head,
        by simpa using h.last⟩⟩

namespace Entry

/-- The entry can be written on a line. -/
def IsPlain : Entry → Prop
  | .rule fields => fields.IsTextual
  | .include name => IsPlainName name

instance (e : Entry) : Decidable e.IsPlain :=
  match e with
  | .rule fields => inferInstanceAs (Decidable fields.IsTextual)
  | .include name => inferInstanceAs (Decidable (IsPlainName name))

/-- The line of an entry. -/
def line : Entry → List Char
  | .rule fields => fields.line
  | .include name => includeWord ++ ' ' :: name

/-- What the line of an entry holds. -/
def content : Entry → LineContent
  | .rule fields => .rule fields.pattern fields.left fields.right fields.phoneme
  | .include name => .include name

/-- The step of an entry that stands at a place. -/
def step (catalog : List Char) (place : RulePlace) : Entry → Step Rule
  | .rule fields => .ofFields catalog place fields
  | .include name => .splice name

end Entry

/-- The text of entries, a line for each of them. -/
def writeText (entries : List Entry) : List Char := (entries.map Entry.line).flatMap (· ++ ['\n'])

/-! ## The line of a rule -/

theorem quoted_eq (field : List Char) : Text.quoted field = [] ++ '"' :: (field ++ '"' :: []) := rfl

/-- A quoted field holds no characters of a class that neither the field nor the quotes belong to.
-/
theorem eq_false_of_mem_quoted {p : Char → Bool} (hquote : p '"' = false) {field : List Char}
    (h : ∀ c ∈ field, p c = false) : ∀ c ∈ Text.quoted field, p c = false := by
  intro c hc
  simp only [Text.quoted, List.mem_cons, List.mem_append, List.not_mem_nil, or_false] at hc
  rcases hc with rfl | hc | rfl
  · exact hquote
  · exact h c hc
  · exact hquote

/-- A writable field has no separator between its quotes either. -/
theorem not_isSeparator_quoted {field : List Char} (h : Writable field) :
    ∀ c ∈ Text.quoted field, Text.isSeparator c = false :=
  eq_false_of_mem_quoted rfl h.not_isSeparator

/-- A writable field has no terminator between its quotes either. -/
theorem not_isTerminator_quoted {field : List Char} (h : Writable field) :
    ∀ c ∈ Text.quoted field, Text.isTerminator c = false :=
  eq_false_of_mem_quoted rfl h.not_isTerminator

/-- No comment starts between two parts of a line that a character divides which is no slash. -/
theorem not_comment_append {before after : List Char} {c : Char} (hc : c ∉ commentSign)
    (hbefore : ¬ commentSign <:+: before) (hafter : ¬ commentSign <:+: after) :
    ¬ commentSign <:+: before ++ c :: after := by
  intro h
  rcases Text.infix_append_cons hc h with h | h
  · exact hbefore h
  · exact hafter h

/-- A writable field has no comment sign between its quotes. -/
theorem not_comment_quoted {field : List Char} (h : Writable field) :
    ¬ commentSign <:+: Text.quoted field := by
  have hnil : ¬ commentSign <:+: [] := by decide
  have hquote : '"' ∉ commentSign := by decide
  rw [quoted_eq]
  exact not_comment_append hquote hnil (not_comment_append hquote h.uncommented hnil)

section Rule

variable {fields : RuleFields}

/-- The line of a rule has no comment sign. -/
theorem not_comment_line (h : fields.IsTextual) : ¬ commentSign <:+: fields.line := by
  have hspace : ' ' ∉ commentSign := by decide
  exact not_comment_append hspace (not_comment_quoted h.pattern)
    (not_comment_append hspace (not_comment_quoted h.left)
      (not_comment_append hspace (not_comment_quoted h.right) (not_comment_quoted h.phoneme)))

/-- The line of a rule has no terminator. -/
theorem not_isTerminator_line (h : fields.IsTextual) :
    ∀ c ∈ fields.line, Text.isTerminator c = false := by
  intro c hc
  simp only [RuleFields.line, List.mem_append, List.mem_cons] at hc
  rcases hc with hc | rfl | hc | rfl | hc | rfl | hc
  · exact not_isTerminator_quoted h.pattern c hc
  · rfl
  · exact not_isTerminator_quoted h.left c hc
  · rfl
  · exact not_isTerminator_quoted h.right c hc
  · rfl
  · exact not_isTerminator_quoted h.phoneme c hc

/-- The fields of a rule come back from its line, with their quotes. -/
theorem splitFields_line (h : fields.IsTextual) :
    Text.splitFields fields.line =
      [Text.quoted fields.pattern, Text.quoted fields.left, Text.quoted fields.right,
        Text.quoted fields.phoneme] := by
  have hquote : Text.isSeparator '"' = false := rfl
  -- A quoted field has no separator, and the one behind it is followed by a quote.
  have hstep : ∀ field rest : List Char, Writable field →
      Text.splitFields (Text.quoted field ++ ' ' :: '"' :: rest) =
        Text.quoted field :: Text.splitFields ('"' :: rest) :=
    fun field rest hfield => Text.splitFields_append (not_isSeparator_quoted hfield) hquote
  have hlast : Text.splitFields (Text.quoted fields.phoneme) = [Text.quoted fields.phoneme] :=
    Text.splitFields_eq_singleton (not_isSeparator_quoted h.phoneme)
  calc Text.splitFields fields.line
      = Text.quoted fields.pattern :: Text.splitFields (Text.quoted fields.left ++ ' ' ::
          (Text.quoted fields.right ++ ' ' :: Text.quoted fields.phoneme)) :=
        hstep fields.pattern _ h.pattern
    _ = Text.quoted fields.pattern :: Text.quoted fields.left ::
          Text.splitFields (Text.quoted fields.right ++ ' ' :: Text.quoted fields.phoneme) :=
        congrArg _ (hstep fields.left _ h.left)
    _ = Text.quoted fields.pattern :: Text.quoted fields.left :: Text.quoted fields.right ::
          Text.splitFields (Text.quoted fields.phoneme) :=
        congrArg (fun rest => _ :: _ :: rest) (hstep fields.right _ h.right)
    _ = _ := by rw [hlast]

/-- The line of a rule starts and ends with a quote. -/
theorem trim_line (fields : RuleFields) : Text.trim fields.line = fields.line := by
  have hend : fields.line = (Text.quoted fields.pattern ++ ' ' :: (Text.quoted fields.left ++ ' ' ::
      (Text.quoted fields.right ++ ' ' :: '"' :: fields.phoneme))) ++ ['"'] := by
    simp [RuleFields.line, Text.quoted]
  refine Text.stripWhile_eq_self ?_ ?_
  · intro c hc
    obtain rfl : '"' = c := Option.some.inj hc
    rfl
  · intro c hc
    rw [hend, List.getLast?_concat] at hc
    obtain rfl : '"' = c := Option.some.inj hc
    rfl

end Rule

/-! ## The line of an include -/

theorem includeWord_eq : includeWord = '#' :: "include".toList := by decide

/-- A character that separates fields or ends a line is a blank one. -/
theorem isSpace_of_isSeparator {c : Char} (h : Text.isSeparator c = true) :
    Text.isSpace c.toNat = true := by
  simp only [Text.isSeparator, Bool.or_eq_true, decide_eq_true_eq] at h
  rcases h with ((((rfl | rfl) | rfl) | rfl) | rfl) | rfl <;> rfl

/-- Whatever ends a line is a space. -/
theorem isSpace_of_isTerminator {c : Char} (h : Text.isTerminator c = true) :
    Text.isSpace c.toNat = true := by
  simp only [Text.isTerminator, Bool.or_eq_true, decide_eq_true_eq] at h
  rcases h with (((rfl | rfl) | rfl) | rfl) | rfl <;> rfl

/-- What comes after the space is not stripped from the ends of a text. -/
theorem isBlank_eq_false {c : Char} (h : 0x20 < c.toNat) : Text.isBlank c = false :=
  decide_eq_false (Nat.not_le.2 h)

section Include

variable {name : List Char}

/-- A plain name holds no characters of a class of blank ones. -/
theorem IsPlainName.eq_false_of_blank (h : IsPlainName name) {p : Char → Bool}
    (hblank : ∀ c, p c = true → Text.isSpace c.toNat = true) : ∀ c ∈ name, p c = false := by
  intro c hc
  by_contra hp
  have hspace : Text.isSpace c.toNat = true := hblank c (by simpa using hp)
  rw [h.unblank c hc] at hspace
  cases hspace

/-- A plain name has no separator. -/
theorem IsPlainName.not_isSeparator (h : IsPlainName name) :
    ∀ c ∈ name, Text.isSeparator c = false :=
  h.eq_false_of_blank fun _ => isSpace_of_isSeparator

/-- A plain name has no terminator. -/
theorem IsPlainName.not_isTerminator (h : IsPlainName name) :
    ∀ c ∈ name, Text.isTerminator c = false :=
  h.eq_false_of_blank fun _ => isSpace_of_isTerminator

/-- A plain name has no blanks around it. -/
theorem IsPlainName.trim_eq (h : IsPlainName name) : Text.trim name = name :=
  Text.stripWhile_eq_self (fun c hc => isBlank_eq_false (h.head c hc))
    fun c hc => isBlank_eq_false (h.last c hc)

/-- The line of an include starts with its word and ends with its name. -/
theorem trim_includeLine (h : IsPlainName name) :
    Text.trim (includeWord ++ ' ' :: name) = includeWord ++ ' ' :: name := by
  refine Text.stripWhile_eq_self ?_ ?_
  · intro c hc
    rw [includeWord_eq] at hc
    obtain rfl : '#' = c := Option.some.inj hc
    rfl
  · intro c hc
    rw [List.getLast?_append_of_ne_nil _ (List.cons_ne_nil _ _),
      List.getLast?_cons_of_ne_nil h.nonempty] at hc
    exact isBlank_eq_false (h.last c hc)

/-- The line for a plain name is read as its inclusion. -/
theorem ofTrimmed_includeLine (h : IsPlainName name) :
    LineContent.ofTrimmed (includeWord ++ ' ' :: name) = .include name := by
  have hstarts : Text.startsWith (includeWord ++ ' ' :: name) includeWord = true :=
    List.isPrefixOf_iff_prefix.2 (List.prefix_append _ _)
  have hname : Text.trim ((includeWord ++ ' ' :: name).drop includeWord.length) = name := by
    rw [List.drop_left]
    exact (Text.stripWhile_cons rfl name).trans h.trim_eq
  have hempty : name.isEmpty = false := by
    simpa using h.nonempty
  have hseparators : name.any Text.isSeparator = false := by
    simpa using h.not_isSeparator
  unfold LineContent.ofTrimmed
  rw [if_pos hstarts]
  simp only [hname, hempty, hseparators]
  rfl

end Include

/-! ## Lines and texts -/

/-- A trimmed line without a comment is read as it is. -/
theorem ofLine_eq_ofTrimmed {line : List Char} (hcomment : ¬ commentSign <:+: line)
    (htrim : Text.trim line = line) (hne : line ≠ []) :
    LineContent.ofLine line = LineContent.ofTrimmed line := by
  have hbefore : Text.before? commentSign line = none :=
    (Text.before?_eq_none_iff (by decide)).2 hcomment
  have hempty : ¬ line.isEmpty = true := by
    simpa using hne
  unfold LineContent.ofLine
  simp only [hbefore, Option.getD_none, htrim]
  exact if_neg hempty

/-- The line of a rule is read as its four fields. -/
theorem ofTrimmed_ruleLine {fields : RuleFields} (h : fields.IsTextual) :
    LineContent.ofTrimmed fields.line =
      .rule fields.pattern fields.left fields.right fields.phoneme := by
  have hword : Text.startsWith fields.line includeWord = false := by
    rw [includeWord_eq]
    rfl
  unfold LineContent.ofTrimmed
  rw [if_neg (by rw [hword]; decide), splitFields_line h]
  simp only [Text.stripQuotes_quoted]

/-- A line that was written for an entry holds that entry. -/
theorem ofLine_line {e : Entry} (h : e.IsPlain) : LineContent.ofLine e.line = e.content := by
  rcases e with fields | name
  · calc LineContent.ofLine fields.line
        = LineContent.ofTrimmed fields.line :=
          ofLine_eq_ofTrimmed (not_comment_line h) (trim_line fields) (List.cons_ne_nil _ _)
      _ = _ := ofTrimmed_ruleLine h
  · have hcomment : ¬ commentSign <:+: includeWord ++ ' ' :: name :=
      not_comment_append (by decide) (by decide) h.uncommented
    calc LineContent.ofLine (includeWord ++ ' ' :: name)
        = LineContent.ofTrimmed (includeWord ++ ' ' :: name) :=
          ofLine_eq_ofTrimmed hcomment (trim_includeLine h) (by simp)
      _ = _ := ofTrimmed_includeLine h

/-- The fields of a rule on a line are cut out of the code of the line, which stands before a
comment and holds no sign of one. -/
theorem LineContent.exists_code_of_rule {raw pattern left right phoneme : List Char}
    (h : ofLine raw = .rule pattern left right phoneme) :
    ∃ code p l m q, code <:+: raw ∧ ¬ commentSign <:+: code ∧
      Text.splitFields code = [p, l, m, q] ∧ pattern = Text.stripQuotes p ∧
      left = Text.stripQuotes l ∧ right = Text.stripQuotes m ∧ phoneme = Text.stripQuotes q := by
  let uncommented := (Text.before? commentSign raw).getD raw
  have hcode : Text.trim uncommented <:+: uncommented :=
    Text.stripWhile_infix Text.isBlank uncommented
  have hfields : ofTrimmed (Text.trim uncommented) = .rule pattern left right phoneme := by
    unfold ofLine at h
    simp only at h
    split at h
    · cases h
    · exact h
  unfold ofTrimmed at hfields
  split at hfields
  · simp only at hfields
    split at hfields <;> cases hfields
  · split at hfields
    · rename_i p l m q hsplit
      obtain ⟨rfl, rfl, rfl, rfl⟩ := LineContent.rule.inj hfields
      refine ⟨_, p, l, m, q, hcode.trans (Text.infix_getD_before? commentSign raw), ?_, hsplit, rfl,
        rfl, rfl, rfl⟩
      exact fun hmark => Text.not_infix_getD_before? (by decide) (hmark.trans hcode)
    · cases hfields

/-- A line that was written for an entry holds no terminator. -/
theorem not_isTerminator_entryLine {e : Entry} (h : e.IsPlain) :
    ∀ c ∈ e.line, Text.isTerminator c = false := by
  rcases e with fields | name
  · exact not_isTerminator_line h
  · have hword : includeWord.all (!Text.isTerminator ·) = true := by decide
    intro c hc
    simp only [Entry.line, List.mem_append, List.mem_cons] at hc
    rcases hc with hc | rfl | hc
    · simpa using List.all_eq_true.1 hword c hc
    · rfl
    · exact h.not_isTerminator c hc

/-- A line that was written for an entry opens no block comment. -/
theorem not_blockStart_line (e : Entry) : Text.startsWith e.line blockStart = false := by
  rcases e with fields | name
  · rfl
  · show Text.startsWith (includeWord ++ ' ' :: name) blockStart = false
    rw [includeWord_eq]
    rfl

/-- The steps of a line that was written for an entry. -/
theorem lineSteps_line (catalog : List Char) (number : Nat) {e : Entry} (h : e.IsPlain) :
    lineSteps catalog number e.line = [.tally 1 0, e.step catalog (.line number)] := by
  rw [lineSteps, ofLine_line h]
  rcases e with fields | name
  · obtain ⟨pattern, left, right, phoneme, languages, logical⟩ := fields
    obtain rfl : languages = .empty := h.languages
    obtain rfl : logical = [] := h.logical
    rfl
  · rfl

/-- A line that was written for an entry counts as a line and then takes the step of the entry. -/
theorem linesSteps_cons_line (catalog : List Char) (number : Nat) {e : Entry} (h : e.IsPlain)
    (rest : List (List Char)) :
    linesSteps catalog false number (e.line :: rest) =
      .tally 1 0 :: e.step catalog (.line number) ::
        linesSteps catalog false (number + 1) rest := by
  rw [linesSteps, not_blockStart_line e, lineSteps_line catalog number h]
  rfl

/-- The lines of a text that was written are those of its entries. -/
theorem splitLines_writeText {entries : List Entry} (h : ∀ e ∈ entries, e.IsPlain) :
    Text.splitLines (writeText entries) = entries.map Entry.line := by
  refine Text.splitLines_flatMap ?_
  intro line hline
  obtain ⟨e, he, rfl⟩ := List.mem_map.1 hline
  exact not_isTerminator_entryLine (h e he)

/-- A written text has the steps of the lines of its entries. -/
theorem textSteps_writeText (catalog : List Char) {entries : List Entry}
    (h : ∀ e ∈ entries, e.IsPlain) :
    textSteps catalog (writeText entries) =
      linesSteps catalog false 1 (entries.map Entry.line) := by
  rw [textSteps, splitLines_writeText h]

end Catalog

end PhoneticCatalog
