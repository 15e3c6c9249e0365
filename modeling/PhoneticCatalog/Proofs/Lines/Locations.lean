import PhoneticCatalog.Proofs.Inclusion.Skipped
import PhoneticCatalog.Proofs.Lines.Grammar

/-!
# Where diagnostics lead

A diagnostic names a catalog and a line, and the line is there: it is the one with this number in
the text of the catalog, it belongs to no block comment, and it is malformed in the way that is said
(`Diagnostic.Locates`). The text is one that the call has read (`Loader.reads_of_mem_diagnostics`).

A call leaves exactly one diagnostic for each malformed line and each visit of its catalog, as far
as it got (`diagnostics_locate_lines`). The lines of one visit are children of one point, and they
follow one another there as in the text (`line_lt_of_textItems`).
-/

namespace PhoneticCatalog.Catalog

/-! ## Malformed lines -/

/-- The diagnostic is that of a line of a text, which is numbered from one: a line outside of block
comments whose code is malformed in the way that is said. -/
structure Diagnostic.Locates (d : Diagnostic) (text : List Char) : Prop where
  line : ∃ i, d.line = i + 1 ∧ (Text.splitLines text)[i]? = some d.raw ∧
    ¬ InBlock (Text.splitLines text) i
  code : ∃ code, IsCode d.raw code ∧ IsMalformed code d.problem

/-- Kind and message of a diagnostic fit the code of its line. It is a malformed include if the code
starts as an include does, where the name is missing or has a separator in it; otherwise it is a
malformed rule, and the message counts its fields. -/
structure Diagnostic.Explains (d : Diagnostic) (code : List Char) : Prop where
  of_start : includeWord <+: Text.trim code →
    d.problem.kind = "malformed_include" ∧ d.problem.message = "malformed include statement" ∧
      ∃ rest, Text.trim code = includeWord ++ rest ∧
        (Text.trim rest = [] ∨ ∃ c ∈ Text.trim rest, Text.isSeparator c = true)
  of_not_start : ¬ includeWord <+: Text.trim code →
    d.problem.kind = "malformed_rule" ∧
      ∃ fields, Text.IsSplit (Text.trim code) fields ∧ fields.length ≠ 4 ∧ d.problem.message =
        "malformed rule statement split into " ++ toString fields.length ++ " parts"

section Malformed

variable {raw code catalog text : List Char} {problem : Malformation} {d : Diagnostic}

/-- A line is malformed if its code is. -/
theorem derives_malformed_iff :
    Derives raw (.malformed problem) ↔ ∃ code, IsCode raw code ∧ IsMalformed code problem := by
  constructor
  · intro h
    cases h with
    | malformed hcode h => exact ⟨_, hcode, h⟩
  · rintro ⟨code, hcode, h⟩
    exact .malformed hcode h

/-- The malformed items of a text are those of its malformed lines. -/
theorem malformed_mem_textItems_iff :
    .malformed d ∈ textItems catalog text ↔ d.source = catalog ∧ d.Locates text := by
  rw [mem_textItems]
  constructor
  · rintro ⟨before, raw, after, hlines, houtside, hitem⟩
    obtain ⟨rfl, hnumber, hcontent, rfl⟩ := lineItem?_eq_malformed.1 hitem
    refine ⟨rfl, ⟨before.length, ?_, ?_, (outsideBlocks_iff hlines).1 houtside⟩,
      derives_malformed_iff.1 (derives_iff.2 hcontent)⟩
    · rw [← hnumber, Nat.add_comm]
    · simp [hlines]
  · rintro ⟨rfl, ⟨i, hnumber, hline, hblock⟩, hcode⟩
    obtain ⟨hi, hraw⟩ := List.getElem?_eq_some_iff.1 hline
    -- The place of a line cuts the text into what comes before and what comes after.
    have hlines : Text.splitLines text =
        (Text.splitLines text).take i ++ d.raw :: (Text.splitLines text).drop (i + 1) := by
      rw [← hraw, List.getElem_cons_drop, List.take_append_drop]
    have hlength : ((Text.splitLines text).take i).length = i :=
      List.length_take_of_le (Nat.le_of_lt hi)
    refine ⟨_, d.raw, _, hlines, (outsideBlocks_iff hlines).2 (by rwa [hlength]), ?_⟩
    refine lineItem?_eq_malformed.2 ⟨rfl, ?_, derives_iff.1 (derives_malformed_iff.2 hcode), rfl⟩
    rw [hlength, hnumber, Nat.add_comm]

/-- A diagnostic that locates a line explains what is wrong with the code of the line. -/
theorem Diagnostic.Locates.explains (h : d.Locates text) (hcode : IsCode d.raw code) :
    d.Explains code := by
  obtain ⟨code', hcode', h⟩ := h.code
  obtain rfl : code = code' := (isCode_iff.1 hcode).trans (isCode_iff.1 hcode').symm
  obtain ⟨source, number, problem, raw⟩ := d
  dsimp only at h
  cases h with
  | @inclusion rest hstart hname =>
    have hprefix : includeWord <+: Text.trim code := hstart ▸ List.prefix_append _ _
    exact ⟨fun _ => ⟨rfl, rfl, rest, hstart, hname⟩, fun hnot => absurd hprefix hnot⟩
  | @rule fields hne hstart hsplit hfields =>
    exact ⟨fun hprefix => absurd hprefix hstart, fun _ => ⟨rfl, fields, hsplit, hfields, rfl⟩⟩

/-- Lines outside of block comments are numbered in ascending order. -/
theorem codeLines_pairwise (lines : List (List Char)) (inBlock : Bool) (number : Nat) :
    (codeLines inBlock number lines).Pairwise (·.1 < ·.1) := by
  induction lines generalizing inBlock number with
  | nil => rw [codeLines]; exact .nil
  | cons raw rest ih =>
    rw [codeLines]
    split
    · exact ih _ _
    · refine List.pairwise_cons.2 ⟨?_, ih _ _⟩
      rintro ⟨k, later⟩ hmem
      obtain ⟨before, after, -, rfl, -⟩ := mem_codeLines.1 hmem
      exact Nat.lt_of_lt_of_le (Nat.lt_succ_self number) (Nat.le_add_right _ _)

/-- Malformed lines follow one another as their items do. -/
theorem line_lt_of_textItems {i j : Nat} {d' : Diagnostic} (hij : i < j)
    (hi : (textItems catalog text)[i]? = some (.malformed d))
    (hj : (textItems catalog text)[j]? = some (.malformed d')) : d.line < d'.line := by
  have hpairwise : (textItems catalog text).Pairwise fun a b =>
      ∀ d d', a = .malformed d → b = .malformed d' → d.line < d'.line := by
    refine (codeLines_pairwise (Text.splitLines text) false 1).filterMap _ ?_
    rintro line line' hlt _ hitem _ hitem' d d' rfl rfl
    rw [← (lineItem?_eq_malformed.1 hitem).2.1, ← (lineItem?_eq_malformed.1 hitem').2.1]
    exact hlt
  obtain ⟨hi, hitem⟩ := List.getElem?_eq_some_iff.1 hi
  obtain ⟨hj, hitem'⟩ := List.getElem?_eq_some_iff.1 hj
  exact List.pairwise_iff_getElem.1 hpairwise i j hi hj hij d d' hitem hitem'

end Malformed

/-! ## The texts of diagnostics -/

section Reads

variable {source : Source} {depth : ℕ+} {d : Diagnostic} {catalog text : List Char}

/-- A step of a text that skips a line leads to that line. -/
theorem locates_of_skip_mem (h : .skip d ∈ (Format.ofKind .text).steps catalog text) :
    d.source = catalog ∧ d.Locates text := by
  obtain ⟨items, hitems, hmem⟩ := skip_mem_steps h
  obtain rfl := Except.ok.inj hitems
  exact malformed_mem_textItems_iff.1 hmem

/-- Each diagnostic of a call leads to a line of a text that the call has read. -/
theorem Loader.reads_of_mem_diagnostics {call : Call}
    (h : d ∈ ((ofKind .text source depth).answer call).trace.diagnostics) :
    ∃ text, call.Reads (ofKind .text source depth) d.source text ∧ d.Locates text := by
  obtain ⟨catalog, text, hreads, hstep⟩ := skip_of_answer h
  obtain ⟨rfl, hlocates⟩ := locates_of_skip_mem hstep
  exact ⟨text, hreads, hlocates⟩

end Reads

/-! ## The lines of a visit -/

section Visits

variable {source : Source} {depth : ℕ+} {p : Point} {d d' : Diagnostic}

/-- The malformed lines of a catalog are children of each of its includes, and nothing else is. -/
theorem malformed_mem_children_iff {stack : List (List Char)} {catalog text : List Char}
    (hread : (source.read catalog).result = .ok text) :
    ⟨stack ++ [catalog], .malformed d⟩ ∈ Point.children .text source ⟨stack, .inclusion catalog⟩ ↔
      d.source = catalog ∧ d.Locates text := by
  have hcontent : source.content .text catalog = .ok (textItems catalog text) :=
    Source.content_of_read hread
  rw [Point.children_of_content hcontent, ← malformed_mem_textItems_iff, List.mem_map]
  constructor
  · rintro ⟨item, hitem, heq⟩
    exact (Point.mk.inj heq).2 ▸ hitem
  · exact fun h => ⟨_, h, rfl⟩

/-- The items of a catalog are found at the positions of their points. -/
theorem getElem?_of_points {items : List Item} {front stack : List (List Char)} {item : Item}
    {k : Nat} (h : (items.map fun item => (⟨front, item⟩ : Point))[k]? = some ⟨stack, item⟩) :
    items[k]? = some item := by
  rw [List.getElem?_map, Option.map_eq_some_iff] at h
  obtain ⟨item', hitem, heq⟩ := h
  rw [hitem, (Point.mk.inj heq).2]

/-- Among the children of one point, malformed lines come in the order of their numbers. -/
theorem line_lt_of_children {i j : Nat} {stack stack' : List (List Char)} (hij : i < j)
    (hi : (p.children .text source)[i]? = some ⟨stack, .malformed d⟩)
    (hj : (p.children .text source)[j]? = some ⟨stack', .malformed d'⟩) : d.line < d'.line := by
  obtain ⟨name, items, -, hcontent, hchildren⟩ :=
    Point.exists_content_of_mem_children (List.mem_of_getElem? hi)
  obtain ⟨text, -, hitems⟩ := Source.content_eq_ok.1 hcontent
  obtain rfl := Except.ok.inj hitems
  rw [hchildren] at hi hj
  exact line_lt_of_textItems hij (getElem?_of_points hi) (getElem?_of_points hj)

/-- Positions that differ in their last index alone are in the order of that index. -/
theorem lt_of_lex_concat {position : List Nat} {i j : Nat}
    (h : List.Lex (· < ·) (position ++ [i]) (position ++ [j])) : i < j := by
  induction position with
  | nil =>
    cases h with
    | rel h => exact h
    | cons h => cases h
  | cons k rest ih =>
    cases h with
    | rel h => exact absurd h (Nat.lt_irrefl k)
    | cons h => exact ih h

/-- Lines that are skipped in one visit have numbers in the order of their positions. -/
theorem line_lt_of_skips {position position' : List Nat}
    (h : p.Skips .text source depth position d) (h' : p.Skips .text source depth position' d')
    (hne : position ≠ []) (hne' : position' ≠ []) (hlex : List.Lex (· < ·) position position')
    (hvisit : position.dropLast = position'.dropLast) : d.line < d'.line := by
  obtain ⟨stack, hat⟩ := h.at_eq
  obtain ⟨stack', hat'⟩ := h'.at_eq
  rw [← List.dropLast_append_getLast hne] at hat hlex
  rw [← List.dropLast_append_getLast hne', ← hvisit] at hat' hlex
  obtain ⟨q, hq, hchild⟩ := Point.at?_concat.1 hat
  obtain ⟨q', hq', hchild'⟩ := Point.at?_concat.1 hat'
  obtain rfl := Option.some.inj (hq.symm.trans hq')
  exact line_lt_of_children (lt_of_lex_concat hlex) hchild hchild'

end Visits

/-- The diagnostics of a call locate their lines, whether it succeeds or fails. Each names a catalog
that the call has read, or the text it was given, and a line of it that is malformed as it says.
There is one for each malformed line and each visit of its catalog, as far as the call got before it
ended in the first fault, in the order in which catalogs are read depth first, and within one visit
the line numbers increase. -/
theorem diagnostics_locate_lines (source : Source) (depth : ℕ+) (call : Call) :
    let L := Loader.ofKind .text source depth
    let view := call.view source
    let root : Point := ⟨[], .inclusion call.name⟩
    (∀ d ∈ (L.answer call).trace.diagnostics, ∃ text, call.Reads L d.source text ∧
      d.Locates text ∧ ∀ code, IsCode d.raw code → d.Explains code) ∧
    (∃ entries : List (List Nat × Diagnostic),
      entries.map Prod.snd = (L.answer call).trace.diagnostics ∧
      (∀ position d, (position, d) ∈ entries ↔ root.Skips .text view depth position d) ∧
      entries.Pairwise fun a b => List.Lex (· < ·) a.1 b.1 ∧
        (a.1.dropLast = b.1.dropLast → a.2.line < b.2.line)) ∧
    ((L.answer call).Succeeds → root.Faultless .text view depth) ∧
    (∀ e, (L.answer call).result = .error e →
      ∃ position q, root.FirstFault .text view depth position q e) ∧
    ∀ stack catalog text, (view.read catalog).result = .ok text → ∀ d,
      (⟨stack ++ [catalog], .malformed d⟩ ∈
          Point.children .text view ⟨stack, .inclusion catalog⟩ ↔
        d.source = catalog ∧ d.Locates text) := by
  intro L view root
  obtain ⟨hfaultless, hfirst⟩ := Loader.answer_ends .text source depth call
  refine ⟨fun d hd => ?_, ?_, hfaultless, hfirst,
    fun stack catalog text hread d => malformed_mem_children_iff hread⟩
  · obtain ⟨text, hreads, hlocates⟩ := Loader.reads_of_mem_diagnostics hd
    exact ⟨text, hreads, hlocates, fun code => hlocates.explains⟩
  · obtain ⟨entries, hmap, hordered, hmem⟩ :=
      Loader.answer_records .text source depth call
    -- The root is an include, so that no line is skipped there.
    have hne : ∀ {position d}, root.Skips .text view depth position d → position ≠ [] := by
      rintro position d ⟨-, stack, hat⟩ rfl
      cases (Point.mk.inj (Option.some.inj hat)).2
    refine ⟨entries, hmap, hmem, hordered.imp_of_mem fun {a b} ha hb hlex => ⟨hlex, ?_⟩⟩
    have hskips := (hmem a.1 a.2).1 ha
    have hskips' := (hmem b.1 b.2).1 hb
    exact line_lt_of_skips hskips hskips' (hne hskips) (hne hskips') hlex

/-- A catalog that includes another one twice, in which malformed lines stand around a comment. -/
def repeatingSource : Source :=
  .ofList [(['a'], "#include b\n#include b\nx\n".toList),
    (['b'], "y\n/*\n*/\n#include\n".toList)]

/-- A catalog that includes another one twice, whose diagnostics come twice. -/
theorem diagnostics_locate_lines_repeating :
    let L := Loader.ofKind .text repeatingSource 2
    let first : Diagnostic := ⟨['b'], 1, .rule 1, ['y']⟩
    let second : Diagnostic := ⟨['b'], 4, .inclusion, "#include".toList⟩
    (L.answer (.load ['a'])).trace.diagnostics =
        [first, second, first, second, ⟨['a'], 3, .rule 1, ['x']⟩] ∧
      ∃ text, Call.Reads L (.load ['a']) ['b'] text ∧ second.Locates text := by
  intro L first second
  have hdiagnostics : (L.answer (.load ['a'])).trace.diagnostics =
      [first, second, first, second, ⟨['a'], 3, .rule 1, ['x']⟩] := by decide +kernel
  obtain ⟨hlocates, -⟩ := diagnostics_locate_lines repeatingSource 2 (.load ['a'])
  obtain ⟨text, hreads, hsecond, -⟩ := hlocates second (by rw [hdiagnostics]; simp)
  exact ⟨hdiagnostics, text, hreads, hsecond⟩

end PhoneticCatalog.Catalog
