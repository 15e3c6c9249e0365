import PhoneticCatalog.Proofs.Lines.Blocks
import PhoneticCatalog.Proofs.Lines.Reading
import PhoneticCatalog.Proofs.Writing.Agreement

/-!
# Rewriting catalogs line by line

A `Rewriting` puts a line in the place of each line of a catalog, and a source is rewritten by
rewriting all of its catalogs (`Source.rewrite`). Lines keep their numbers, and what the later lines
are told of the earlier ones is rewritten along with them (`Rewriting.follows`).

Two loads are compared by their results and, through a `Comparison`, by what they leave behind.
What has to be shown of a rewriting is that it keeps a comparison on a single line
(`Rewriting.Keeps`); loads from the source and from the rewritten one then compare as well
(`Loader.load_related`).
-/

namespace PhoneticCatalog.Catalog

/-! ## Rewriting -/

/-- What to put in the place of a line. The line is told whether it belongs to a block comment. -/
structure Rewriting where
  line : (commented : Bool) → (raw : List Char) → List Char
  /-- Whether a block comment is open after rewriting, if it was or was not before. -/
  state : (inBlock : Bool) → Bool
  starts : state false = false
  unbroken : ∀ commented raw, (∀ c ∈ raw, Text.isTerminator c = false) →
    ∀ c ∈ line commented raw, Text.isTerminator c = false
  follows : ∀ inBlock raw,
    blockAfter (state inBlock) (line (inComment inBlock raw) raw) = state (blockAfter inBlock raw)

namespace Rewriting

variable (rw : Rewriting)

/-- Rewrites some lines, inside or outside of a block comment. -/
def lines : (inBlock : Bool) → List (List Char) → List (List Char)
  | _, [] => []
  | inBlock, raw :: rest =>
    rw.line (inComment inBlock raw) raw :: lines (blockAfter inBlock raw) rest

/-- Rewrites a text. All of its lines end with a line feed then. -/
def text (text : List Char) : List Char :=
  (rw.lines false (Text.splitLines text)).flatMap (· ++ ['\n'])

/-- Lines in two parts are rewritten one part after the other. -/
theorem lines_append (before after : List (List Char)) (inBlock : Bool) :
    rw.lines inBlock (before ++ after) =
      rw.lines inBlock before ++ rw.lines (before.foldl blockAfter inBlock) after := by
  induction before generalizing inBlock with
  | nil => rfl
  | cons raw rest ih =>
    rw [List.cons_append, lines, lines, ih]
    rfl

/-- Every line is rewritten to one line. -/
theorem length_lines (lines : List (List Char)) (inBlock : Bool) :
    (rw.lines inBlock lines).length = lines.length := by
  induction lines generalizing inBlock with
  | nil => rfl
  | cons raw rest ih => simp only [Rewriting.lines, List.length_cons, ih]

/-- Rewritten lines are lines still. -/
theorem not_isTerminator_of_mem_lines {lines : List (List Char)} {inBlock : Bool}
    (h : ∀ raw ∈ lines, ∀ c ∈ raw, Text.isTerminator c = false) :
    ∀ raw ∈ rw.lines inBlock lines, ∀ c ∈ raw, Text.isTerminator c = false := by
  induction lines generalizing inBlock with
  | nil => exact fun raw hraw => absurd hraw List.not_mem_nil
  | cons raw rest ih =>
    rw [lines, List.forall_mem_cons]
    constructor
    · exact rw.unbroken _ raw (h raw List.mem_cons_self)
    · exact ih fun other hother => h other (List.mem_cons_of_mem raw hother)

/-- The lines of the rewritten text are the rewritten lines. -/
theorem splitLines_text (text : List Char) :
    Text.splitLines (rw.text text) = rw.lines false (Text.splitLines text) :=
  Text.splitLines_flatMap
    (rw.not_isTerminator_of_mem_lines fun _ => Text.not_isTerminator_of_mem_splitLines)

/-- A line is rewritten in its place, as one of a block comment if it belongs to one. -/
theorem getElem?_splitLines_text {text raw : List Char} {before after : List (List Char)}
    (h : Text.splitLines text = before ++ raw :: after) :
    ∃ commented, (Text.splitLines (rw.text text))[before.length]? = some (rw.line commented raw) ∧
      (commented = true ↔ InBlock (Text.splitLines text) before.length) := by
  refine ⟨inComment (before.foldl blockAfter false) raw, ?_, ?_⟩
  · rw [splitLines_text, h, lines_append, ← rw.length_lines before false, lines]
    simp
  · rw [← not_iff_not, ← outsideBlocks_iff h, inComment, Bool.not_eq_true, Bool.or_eq_false_iff]
    rfl

end Rewriting

/-- The source with all of its catalogs rewritten. -/
def Source.rewrite (source : Source) (rw : Rewriting) : Source where
  read name := ⟨(source.read name).events, (source.read name).result.map rw.text⟩

/-! ## Comparing what loads leave behind -/

/-- Nothing was a comment or malformed. -/
structure Trace.IsPlain (t : Trace) : Prop where
  diagnostics : t.diagnostics = []
  comments : t.counters.comments = 0
  count : t.counters.diagnostics = 0

/-- A relation of what two loads leave behind, which holds of the whole if it holds of the parts.
-/
structure Comparison where
  rel : Trace → Trace → Prop
  append : ∀ {s t s' t' : Trace}, rel s t → rel s' t' → rel (s ++ s') (t ++ t')
  plain : ∀ {t : Trace}, t.IsPlain → rel t t
  /-- The counters that are completed at the end of a load, and its last event. -/
  finish : ∀ {s t : Trace}, rel s t → ∀ rules events events',
    rel { s with
        counters := { s.counters with rules, diagnostics := s.diagnostics.length }, events }
      { t with
        counters := { t.counters with rules, diagnostics := t.diagnostics.length }
        events := events' }

namespace Walk

variable {α β : Type} {C : Comparison}

/-- The walks have the same result, and what they leave behind compares. -/
structure Related (C : Comparison) (v w : Walk α) : Prop where
  result : w.result = v.result
  trace : C.rel v.trace w.trace

namespace Related

/-- A walk that leaves nothing to compare is related to itself. -/
theorem of_plain {w : Walk α} (h : w.trace.IsPlain) : Related C w w := ⟨rfl, C.plain h⟩

/-- Walks in turn are related if each of them is. -/
theorem bind {v w : Walk α} {f g : α → Walk β} (h : Related C v w)
    (hf : ∀ a, Related C (f a) (g a)) : Related C (v >>= f) (w >>= g) := by
  cases hv : v.result with
  | ok a =>
    rw [bind_of_ok hv, bind_of_ok (h.result.trans hv)]
    exact ⟨(hf a).result, C.append h.trace (hf a).trace⟩
  | error e =>
    rw [bind_of_error hv, bind_of_error (h.result.trans hv)]
    exact ⟨rfl, h.trace⟩

end Related

end Walk

/-- What the line holds is a rule or an include. -/
def LineContent.isCode : LineContent → Bool
  | .include _ | .rule .. => true
  | .blank _ | .malformed _ => false

/-- A line is blank, malformed, or code. -/
theorem LineContent.blank_or_malformed_or_isCode (content : LineContent) :
    (∃ commented, content = .blank commented) ∨ (∃ problem, content = .malformed problem) ∨
      content.isCode = true := by
  cases content <;> simp [isCode]

/-- Lines compare that hold the same rule or the same include. -/
theorem Loader.readAs_related {C : Comparison} {L L' : Loader Rule}
    {splice splice' : List Char → Walk (List Rule)}
    (hsplice : ∀ name, (splice name).Related C (splice' name)) {content : LineContent}
    (h : content.isCode = true) (catalog : List Char) (number : Nat) (raw raw' : List Char) :
    (L.readAs splice catalog number raw (some content)).Related C
      (L'.readAs splice' catalog number raw' (some content)) := by
  match content, h with
  | .include name, _ => exact .bind (.of_plain ⟨rfl, rfl, rfl⟩) fun _ => hsplice name
  | .rule .., _ => exact .of_plain ⟨rfl, rfl, rfl⟩

/-- On a single line the rewriting keeps the comparison of two loads, if it holds of the catalogs
that are included. -/
def Rewriting.Keeps (rw : Rewriting) (C : Comparison) : Prop :=
  ∀ {L L' : Loader Rule} {splice splice' : List Char → Walk (List Rule)},
    (∀ name, (splice name).Related C (splice' name)) →
    ∀ catalog inBlock number raw,
      (L.readAs splice catalog number raw (lineRole inBlock raw)).Related C
        (L'.readAs splice' catalog number (rw.line (inComment inBlock raw) raw)
          (lineRole (rw.state inBlock) (rw.line (inComment inBlock raw) raw)))

/-! ## Loads from a rewritten source -/

namespace Loader

variable {rw : Rewriting} {C : Comparison}

/-- Readings of some lines compare. -/
theorem readLines_related (hkeeps : rw.Keeps C) {L L' : Loader Rule}
    {splice splice' : List Char → Walk (List Rule)}
    (hsplice : ∀ name, (splice name).Related C (splice' name)) (catalog : List Char)
    (lines : List (List Char)) (inBlock : Bool) (number : Nat) :
    (L.readLines splice catalog inBlock number lines).Related C
      (L'.readLines splice' catalog (rw.state inBlock) number (rw.lines inBlock lines)) := by
  induction lines generalizing inBlock number with
  | nil => exact .of_plain ⟨rfl, rfl, rfl⟩
  | cons raw rest ih =>
    have hrest := ih (blockAfter inBlock raw) (number + 1)
    rw [← rw.follows] at hrest
    rw [readLines, Rewriting.lines, readLines]
    apply Walk.Related.bind (hkeeps hsplice catalog inBlock number raw)
    intro own
    apply Walk.Related.bind hrest
    intro others
    exact .of_plain ⟨rfl, rfl, rfl⟩

/-- Runs of a text and of the rewritten one compare. -/
theorem runSteps_text_related (hkeeps : rw.Keeps C) {L L' : Loader Rule}
    {splice splice' : List Char → Walk (List Rule)}
    (hsplice : ∀ name, (splice name).Related C (splice' name)) (catalog text : List Char) :
    (L.runSteps splice (textSteps catalog text)).Related C
      (L'.runSteps splice' (textSteps catalog (rw.text text))) := by
  have hlines : (L.readLines splice catalog false 1 (Text.splitLines text)).Related C
      (L'.readLines splice' catalog (rw.state false) 1 (rw.lines false (Text.splitLines text))) :=
    readLines_related hkeeps hsplice catalog _ _ _
  rw [rw.starts, ← rw.splitLines_text] at hlines
  rwa [runSteps_text, runSteps_text]

variable {source : Source} {depth : ℕ+}

/-- Visits of a catalog compare, whatever room is left and whichever catalogs are open. -/
theorem visit_related (hkeeps : rw.Keeps C) (room : Nat) (stack : List (List Char))
    (name : List Char) :
    ((ofKind .text source depth).visit room stack name).Related C
      ((ofKind .text (source.rewrite rw) depth).visit room stack name) := by
  induction room generalizing stack name with
  | zero =>
    by_cases hmem : name ∈ stack
    · rw [visit_of_mem _ hmem, visit_of_mem _ hmem]
      exact .of_plain ⟨rfl, rfl, rfl⟩
    · rw [visit_zero _ hmem, visit_zero _ hmem]
      exact .of_plain ⟨rfl, rfl, rfl⟩
  | succ room ih =>
    by_cases hmem : name ∈ stack
    · rw [visit_of_mem _ hmem, visit_of_mem _ hmem]
      exact .of_plain ⟨rfl, rfl, rfl⟩
    -- Both ask for the same catalog, and either both get its text or neither does.
    rw [visit_succ _ hmem, visit_succ _ hmem]
    cases hread : (source.read name).result with
    | error fault =>
      have hread' : ((source.rewrite rw).read name).result = .error fault :=
        congrArg (Except.map rw.text) hread
      rw [openCatalog_bind_of_fault hread, openCatalog_bind_of_fault hread']
      exact .of_plain ⟨rfl, rfl, rfl⟩
    | ok text =>
      have hread' : ((source.rewrite rw).read name).result = .ok (rw.text text) :=
        congrArg (Except.map rw.text) hread
      rw [openCatalog_bind_of_read hread, openCatalog_bind_of_read hread']
      apply Walk.Related.bind (.of_plain ⟨rfl, rfl, rfl⟩)
      intro _
      apply Walk.Related.bind (.of_plain ⟨rfl, rfl, rfl⟩)
      intro _
      exact runSteps_text_related hkeeps (ih (stack ++ [name])) name text

/-- Calls that are related before their end are so afterwards. -/
theorem finish_related {L L' : Loader Rule} {v w : Walk (List Rule)} (name : List Char)
    (h : v.Related C w) : (L.finish name v).Related C (L'.finish name w) := by
  rw [finish, finish, h.result]
  cases v.result with
  | ok rules => exact ⟨rfl, C.finish h.trace _ _ _⟩
  | error e => exact h

/-- Loads from a source and from the rewritten one compare, if the rewriting keeps the comparison on
each line. -/
theorem load_related (hkeeps : rw.Keeps C) (source : Source) (depth : ℕ+) (name : List Char) :
    ((ofKind .text source depth).load name).Related C
      ((ofKind .text (source.rewrite rw) depth).load name) :=
  finish_related name (visit_related hkeeps depth [] name)

end Loader

end PhoneticCatalog.Catalog
