import PhoneticCatalog.Proofs.Lines.Grammar
import PhoneticCatalog.Proofs.Lines.Rewriting

/-!
# Malformed lines influence nothing but diagnostics

Catalogs can be repaired beforehand (`Rewriting.repaired`): each malformed line outside of block
comments is emptied. A malformed line neither opens a block comment nor ends one, so that all other
lines keep their numbers and their roles. A load from the repaired catalogs differs in nothing but
the diagnostics, of which it has none (`malformed_lines_only_diagnosed`).
-/

namespace PhoneticCatalog.Catalog

/-- What the line holds is skipped with a diagnostic. -/
def LineContent.isMalformed : LineContent → Bool
  | .malformed _ => true
  | _ => false

/-- Malformed content has a problem. -/
theorem LineContent.isMalformed_iff {content : LineContent} :
    content.isMalformed = true ↔ ∃ problem, content = .malformed problem := by
  cases content <;> simp [isMalformed]

/-- Code is not malformed. -/
theorem LineContent.not_isMalformed_of_isCode {content : LineContent}
    (h : content.isCode = true) : ¬ content.isMalformed = true := by
  cases content <;> simp_all [isCode, isMalformed]

/-- Malformed lines outside of block comments are emptied. -/
def Rewriting.repaired : Rewriting where
  line commented raw := if !commented && (LineContent.ofLine raw).isMalformed then [] else raw
  state inBlock := inBlock
  starts := rfl
  unbroken commented raw h := by
    split
    · exact fun c hc => absurd hc List.not_mem_nil
    · exact h
  follows inBlock raw := by
    split
    · rename_i hskipped
      -- No block comment is open where a line is skipped, and the line opens none.
      obtain ⟨hcomment, -⟩ := Bool.and_eq_true_iff.1 hskipped
      rw [Bool.not_eq_true', inComment, Bool.or_eq_false_iff] at hcomment
      rw [blockAfter, blockAfter, hcomment.1, hcomment.2]
      rfl
    · rfl

example : Rewriting.repaired.text "x a\n/* b\n#include */\n#include c d".toList =
    "\n/* b\n#include */\n\n".toList := by decide +kernel

/-- In a repaired text a malformed line outside of block comments is empty, and any other line is as
it was. -/
theorem Rewriting.repaired_line {text raw : List Char} {before after : List (List Char)}
    (h : Text.splitLines text = before ++ raw :: after) :
    let line := (Text.splitLines (repaired.text text))[before.length]?
    let skipped := ¬ InBlock (Text.splitLines text) before.length ∧
      ∃ problem, Derives raw (.malformed problem)
    (skipped → line = some []) ∧ (¬ skipped → line = some raw) := by
  intro line skipped
  obtain ⟨commented, hline, hblock⟩ := repaired.getElem?_splitLines_text h
  have hskipped : (!commented && (LineContent.ofLine raw).isMalformed) = true ↔ skipped := by
    rw [Bool.and_eq_true, LineContent.isMalformed_iff, Bool.not_eq_true', ← Bool.not_eq_true,
      hblock]
    simp only [skipped, derives_iff]
  constructor
  · intro hs
    exact hline.trans (congrArg some (if_pos (hskipped.2 hs)))
  · intro hs
    exact hline.trans (congrArg some (if_neg (mt hskipped.1 hs)))

/-! ## Loads from repaired catalogs -/

/-- The second trace has no diagnostics. -/
structure Trace.SameButDiagnostics (s t : Trace) : Prop where
  diagnostics : t.diagnostics = []
  counters : t.counters = { s.counters with diagnostics := 0 }
  opened : t.opened = s.opened

/-- The comparison of loads with and without malformed lines. -/
def Comparison.diagnostics : Comparison where
  rel := Trace.SameButDiagnostics
  append {s t s' t'} h h' := by
    constructor
    · rw [Trace.diagnostics_append, h.diagnostics, h'.diagnostics]
      rfl
    · rw [Trace.counters_append, Trace.counters_append, h.counters, h'.counters]
      rfl
    · rw [Trace.opened_append, Trace.opened_append, h.opened, h'.opened]
  plain {t} h := by
    refine ⟨h.diagnostics, ?_, rfl⟩
    rw [← h.count]
  finish {s t} h rules events events' := by
    refine ⟨h.diagnostics, ?_, h.opened⟩
    simp only [h.counters, h.diagnostics, List.length_nil]

/-- Repairing a malformed line takes away its diagnostic and nothing else. -/
theorem Rewriting.repaired_keeps : repaired.Keeps .diagnostics := by
  intro L L' splice splice' hsplice catalog inBlock number raw
  have hstate : repaired.state inBlock = inBlock := rfl
  rw [hstate]
  cases hcomment : inComment inBlock raw with
  | true =>
    have hline : repaired.line true raw = raw := rfl
    rw [hline, lineRole_of_inComment hcomment]
    exact ⟨rfl, rfl, rfl, rfl⟩
  | false =>
    have hline : repaired.line false raw =
        if (LineContent.ofLine raw).isMalformed then [] else raw := rfl
    rw [hline, lineRole_of_not_inComment hcomment]
    rcases (LineContent.ofLine raw).blank_or_malformed_or_isCode with
      ⟨commented, hraw⟩ | ⟨problem, hraw⟩ | hcode
    · have hkept : ¬ (LineContent.ofLine raw).isMalformed = true := by
        rw [hraw]
        exact Bool.false_ne_true
      rw [if_neg hkept, lineRole_of_not_inComment hcomment, hraw]
      exact ⟨rfl, rfl, rfl, rfl⟩
    -- The malformed line is diagnosed, and the empty one in its place is blank.
    · have hskipped := LineContent.isMalformed_iff.2 ⟨problem, hraw⟩
      have hrole : lineRole inBlock [] = some (.blank false) := by
        obtain ⟨rfl, -⟩ := Bool.or_eq_false_iff.1 hcomment
        rfl
      rw [if_pos hskipped, hrole, hraw]
      exact ⟨rfl, rfl, rfl, rfl⟩
    · rw [if_neg (LineContent.not_isMalformed_of_isCode hcode), lineRole_of_not_inComment hcomment]
      exact Loader.readAs_related hsplice hcode catalog number raw raw

/-- A load from catalogs whose malformed lines are emptied has the same result and asks for the same
catalogs. It has no diagnostics, and otherwise the same counters. -/
theorem malformed_lines_only_diagnosed (source : Source) (depth : ℕ+) (name : List Char) :
    let original := (Loader.ofKind .text source depth).load name
    let repaired := (Loader.ofKind .text (source.rewrite .repaired) depth).load name
    repaired.result = original.result ∧ original.trace.SameButDiagnostics repaired.trace := by
  intro original repaired
  have h := Loader.load_related Rewriting.repaired_keeps source depth name
  exact ⟨h.result, h.trace⟩

end PhoneticCatalog.Catalog
