import PhoneticCatalog.Proofs.Lines.Grammar
import PhoneticCatalog.Proofs.Lines.Rewriting

/-!
# Comments are transparent

Comments can be taken out of catalogs beforehand (`Rewriting.withoutComments`): a line of a block
comment is emptied, and another line is cut where the sign of a comment stands for the first time.
What is left holds what the line held before (`ofLine_lineCode`), and no line of it opens a block
comment. A load from the stripped catalogs differs in nothing but the number of comments and the
texts of the malformed lines (`comments_are_transparent`).
-/

namespace PhoneticCatalog.Catalog

/-! ## Lines without comments -/

section Lines

variable {raw : List Char}

/-- The code of a line is its start. -/
theorem exists_eq_lineCode_append (raw : List Char) : ∃ rest, raw = lineCode raw ++ rest := by
  rw [lineCode]
  cases h : Text.before? commentSign raw with
  | some start =>
    obtain ⟨rest, hrest⟩ := Text.prefix_of_before? h
    exact ⟨rest, hrest.symm⟩
  | none => exact ⟨[], (List.append_nil raw).symm⟩

/-- The code of a line holds no comment sign. -/
theorem before?_lineCode (raw : List Char) : Text.before? commentSign (lineCode raw) = none :=
  (Text.before?_eq_none_iff (by decide)).2 (Text.not_infix_getD_before? (by decide))

/-- What is left of a line opens no block comment, unless the line does. -/
theorem not_startsWith_lineCode (h : Text.startsWith raw blockStart = false) :
    Text.startsWith (lineCode raw) blockStart = false := by
  obtain ⟨rest, hrest⟩ := exists_eq_lineCode_append raw
  rw [← Bool.not_eq_true] at h ⊢
  intro hstart
  apply h
  have hcode : blockStart <+: lineCode raw := List.isPrefixOf_iff_prefix.1 hstart
  rw [hrest]
  exact List.isPrefixOf_iff_prefix.2 (hcode.trans (List.prefix_append _ rest))

/-- What is left of the content of a line without comments: only a blank line tells of them. -/
def LineContent.uncommented : LineContent → LineContent
  | .blank _ => .blank false
  | content => content

/-- Code is the same without comments. -/
theorem LineContent.uncommented_of_isCode {content : LineContent} (h : content.isCode = true) :
    content.uncommented = content := by
  cases content <;> first | rfl | cases h

/-- What is read of a line without a comment is the same without comments. -/
theorem uncommented_ofTrimmed (line : List Char) :
    (LineContent.ofTrimmed line).uncommented = LineContent.ofTrimmed line := by
  rw [LineContent.ofTrimmed]
  split
  · simp only
    split <;> rfl
  · split <;> rfl

/-- Without its comment a line holds what it held with it. -/
theorem ofLine_lineCode (raw : List Char) :
    LineContent.ofLine (lineCode raw) = (LineContent.ofLine raw).uncommented := by
  have hcode : IsCode (lineCode raw) (lineCode raw) :=
    .whole ((Text.before?_eq_none_iff (by decide)).1 (before?_lineCode raw))
  by_cases hblank : Text.trim (lineCode raw) = []
  · have hraw := derives_iff.1 (.blank (isCode_lineCode raw) hblank isSome_before?_iff)
    rw [hraw]
    apply derives_iff.1
    apply Derives.blank hcode hblank
    rw [← isSome_before?_iff, before?_lineCode]
    rfl
  · rw [ofLine_of_trim_ne_nil hcode hblank, ofLine_of_trim_ne_nil (isCode_lineCode raw) hblank,
      uncommented_ofTrimmed]

end Lines

/-- Comments are taken out: the lines of a block comment are emptied, and any other line is cut
where a comment starts. -/
def Rewriting.withoutComments : Rewriting where
  line commented raw := if commented then [] else lineCode raw
  state _ := false
  starts := rfl
  unbroken commented raw h := by
    cases commented with
    | true => exact fun c hc => absurd hc List.not_mem_nil
    | false => exact fun c hc => h c ((Text.infix_getD_before? commentSign raw).subset hc)
  follows inBlock raw := by
    cases hcomment : inComment inBlock raw with
    | true => rfl
    | false => exact not_startsWith_lineCode (Bool.or_eq_false_iff.1 hcomment).2

example : Rewriting.withoutComments.text "x a // b\r/* y\n#include z */".toList =
    "x a \n\n\n".toList := by decide +kernel

/-- Without comments a line of a block comment is empty, and any other line is its code. -/
theorem Rewriting.withoutComments_line {text raw : List Char} {before after : List (List Char)}
    (h : Text.splitLines text = before ++ raw :: after) :
    let line := (Text.splitLines (withoutComments.text text))[before.length]?
    let inBlock := InBlock (Text.splitLines text) before.length
    (inBlock → line = some []) ∧ (¬ inBlock → ∃ code, IsCode raw code ∧ line = some code) := by
  intro line inBlock
  obtain ⟨commented, hline, hblock⟩ := withoutComments.getElem?_splitLines_text h
  constructor
  · intro hin
    obtain rfl := hblock.2 hin
    exact hline
  · intro hout
    obtain rfl := Bool.not_eq_true _ ▸ mt hblock.1 hout
    exact ⟨_, isCode_lineCode raw, hline⟩

/-! ## Loads without comments -/

/-- The diagnostic without the text of its line. -/
def Diagnostic.withoutRaw (d : Diagnostic) : Diagnostic := { d with raw := [] }

/-- The second trace has no comments, and texts of malformed lines may differ. -/
structure Trace.SameButComments (s t : Trace) : Prop where
  diagnostics : t.diagnostics.map Diagnostic.withoutRaw = s.diagnostics.map Diagnostic.withoutRaw
  counters : t.counters = { s.counters with comments := 0 }
  opened : t.opened = s.opened

/-- The comparison of loads with and without comments. -/
def Comparison.comments : Comparison where
  rel := Trace.SameButComments
  append {s t s' t'} h h' := by
    constructor
    · rw [Trace.diagnostics_append, Trace.diagnostics_append, List.map_append, List.map_append,
        h.diagnostics, h'.diagnostics]
    · rw [Trace.counters_append, Trace.counters_append, h.counters, h'.counters]
      rfl
    · rw [Trace.opened_append, Trace.opened_append, h.opened, h'.opened]
  plain {t} h := by
    refine ⟨rfl, ?_, rfl⟩
    rw [← h.comments]
  finish {s t} h rules events events' := by
    have hlength : t.diagnostics.length = s.diagnostics.length := by
      simpa using congrArg List.length h.diagnostics
    refine ⟨h.diagnostics, ?_, h.opened⟩
    simp only [h.counters, hlength]

/-- Taking the comment off a line changes the counts of comments and the raw lines alone. -/
theorem Rewriting.withoutComments_keeps : withoutComments.Keeps .comments := by
  intro L L' splice splice' hsplice catalog inBlock number raw
  have hstate : withoutComments.state inBlock = false := rfl
  cases hcomment : inComment inBlock raw with
  | true =>
    rw [lineRole_of_inComment hcomment]
    exact ⟨rfl, rfl, rfl, rfl⟩
  | false =>
    -- The machine reads on outside of blocks, where the code opens none.
    have hline : withoutComments.line false raw = lineCode raw := rfl
    have hopens : inComment false (lineCode raw) = false :=
      not_startsWith_lineCode (Bool.or_eq_false_iff.1 hcomment).2
    rw [lineRole_of_not_inComment hcomment, hstate, hline, lineRole_of_not_inComment hopens,
      ofLine_lineCode]
    rcases (LineContent.ofLine raw).blank_or_malformed_or_isCode with
      ⟨commented, hraw⟩ | ⟨problem, hraw⟩ | hcode
    · rw [hraw]
      exact ⟨rfl, rfl, rfl, rfl⟩
    · rw [hraw]
      exact ⟨rfl, rfl, rfl, rfl⟩
    · rw [LineContent.uncommented_of_isCode hcode]
      exact Loader.readAs_related hsplice hcode catalog number _ _

/-- A load from catalogs whose comments are taken out has the same result, asks for the same
catalogs, and has the same diagnostics but for the texts of their lines. Its counters are the same,
without any comments. -/
theorem comments_are_transparent (source : Source) (depth : ℕ+) (name : List Char) :
    let original := (Loader.ofKind .text source depth).load name
    let stripped := (Loader.ofKind .text (source.rewrite .withoutComments) depth).load name
    stripped.result = original.result ∧ original.trace.SameButComments stripped.trace := by
  intro original stripped
  have h := Loader.load_related Rewriting.withoutComments_keeps source depth name
  exact ⟨h.result, h.trace⟩

end PhoneticCatalog.Catalog
