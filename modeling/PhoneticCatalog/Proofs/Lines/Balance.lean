import Mathlib.Algebra.GroupWithZero.Nat
import PhoneticCatalog.Proofs.Inclusion.Tallies
import PhoneticCatalog.Proofs.Lines.Grammar

/-!
# Counted lines

Every line that is read is counted as one thing: a rule, an include, a diagnostic or a comment, or
it is blank, which is what no counter is kept of. `blankLines` counts these by themselves, from what
makes a line blank, and a walk that succeeds has read as many lines as all of them together
(`Walk.LinesAddUp`). With the counts of catalogs and requests this is what the counters of a call
come to (`counters_balance`).
-/

namespace PhoneticCatalog.Catalog

/-! ## Blank lines -/

section Blank

variable {lines before after : List (List Char)} {raw : List Char}

/-- The line at an index is blank: it belongs to no block comment, holds no comment, and nothing is
left of it when it is trimmed. -/
def IsBlankLine (lines : List (List Char)) (i : Nat) : Prop :=
  ∃ raw, lines[i]? = some raw ∧ ¬ InBlock lines i ∧ ¬ commentSign <:+: raw ∧ Text.trim raw = []

/-- A line is blank without a comment if it has no comment sign and nothing but blanks. -/
theorem derives_blank_iff :
    Derives raw (.blank false) ↔ ¬ commentSign <:+: raw ∧ Text.trim raw = [] := by
  constructor
  · intro h
    cases h with
    | @blank code _ hcode h hcommented =>
      have hsign : ¬ commentSign <:+: raw := fun hsign => Bool.false_ne_true (hcommented.2 hsign)
      have hwhole : code = raw := (isCode_iff.1 hcode).trans (isCode_iff.1 (.whole hsign)).symm
      exact ⟨hsign, hwhole ▸ h⟩
  · rintro ⟨hsign, h⟩
    exact .blank (.whole hsign) h (iff_of_false Bool.false_ne_true hsign)

/-- A line is blank exactly if it is read as such. -/
theorem isBlankLine_iff (h : lines = before ++ raw :: after) :
    IsBlankLine lines before.length ↔
      lineRole (before.foldl blockAfter false) raw = some (.blank false) := by
  have hline : lines[before.length]? = some raw := by simp [h]
  rw [IsBlankLine, lineRole_eq_some_iff, outsideBlocks_iff h, derives_blank_iff, hline]
  simp

instance (lines : List (List Char)) (i : Nat) : Decidable (IsBlankLine lines i) :=
  decidable_of_iff
    (∃ raw ∈ lines[i]?, lineRole ((lines.take i).foldl blockAfter false) raw = some (.blank false))
    (by
      cases hline : lines[i]? with
      | none => simp [IsBlankLine, hline]
      | some raw =>
        obtain ⟨hi, rfl⟩ := List.getElem?_eq_some_iff.1 hline
        have hsplit : lines = lines.take i ++ lines[i] :: lines.drop (i + 1) := by simp
        have hiff := isBlankLine_iff hsplit
        rw [List.length_take_of_le (Nat.le_of_lt hi)] at hiff
        simp [hiff])

/-- The number of blank lines. -/
def blankLines (lines : List (List Char)) : Nat :=
  (List.range lines.length).countP (IsBlankLine lines ·)

/-- The number of blank lines of a catalog, if the source holds one of that name. -/
def Source.blankLines (source : Source) (name : List Char) : Nat :=
  match (source.read name).result with
  | .ok text => Catalog.blankLines (Text.splitLines text)
  | .error _ => 0

/-- The number of blank lines that a call meets, which visits the given catalogs. -/
def Call.blankLines (source : Source) (visited : List (List Char)) (call : Call) : Nat :=
  (match call with
    | .load _ => 0
    | .parse text _ => Catalog.blankLines (Text.splitLines text))
  + (visited.map source.blankLines).sum

end Blank

/-! ## Lines add up -/

/-- A walk that succeeds has read a line for each rule, include, diagnostic and comment, `own` blank
lines and those of the catalogs that it visits, which are counted by `blanks`. -/
def Walk.LinesAddUp (blanks : List Char → Nat) (own : Nat) (w : Walk (List Rule)) : Prop :=
  ∀ rules, w.result = .ok rules →
    w.trace.counters.lines =
      rules.length + w.trace.counters.includes + w.trace.diagnostics.length
        + w.trace.counters.comments + (own + (w.trace.opened.map blanks).sum)

namespace Walk.LinesAddUp

variable {blanks : List Char → Nat} {n m : Nat} {v w : Walk (List Rule)}

/-- Nothing has to add up for a walk that fails. -/
theorem of_error {e : LoadError} (h : w.result = .error e) : w.LinesAddUp blanks n :=
  fun _ hrules => nomatch h.symm.trans hrules

/-- Two walks in turn add up to the blank lines of both. -/
theorem append (h : v.LinesAddUp blanks n) (h' : w.LinesAddUp blanks m) :
    (do
      let rules ← v
      let others ← w
      return rules ++ others).LinesAddUp blanks (n + m) := by
  intro both hboth
  obtain ⟨rules, hrules, hrest⟩ := Walk.exists_of_bind hboth
  obtain ⟨others, hothers, hreturn⟩ := Walk.exists_of_bind hrest
  obtain rfl : rules ++ others = both := Except.ok.inj hreturn
  have hv := h rules hrules
  have hw := h' others hothers
  rw [Walk.bind_of_ok hrules, Walk.bind_of_ok hothers, Walk.pure_eq, Trace.append_empty]
  simp only [Trace.counters_append, Trace.diagnostics_append, Trace.opened_append, Counters.add_eq,
    List.length_append, List.map_append, List.sum_append]
  omega

/-- What is left behind before a walk adds up with it, if it adds up itself but for blank lines, and
those of the catalogs that it visits are counted. -/
theorem leave_bind {t : Trace}
    (ht : t.counters.lines =
      t.counters.includes + t.diagnostics.length + t.counters.comments)
    (h : w.LinesAddUp blanks (n + (t.opened.map blanks).sum)) :
    (Walk.leave t >>= fun _ => w).LinesAddUp blanks n := by
  intro rules hrules
  have hw := h rules hrules
  rw [Walk.leave_bind]
  simp only [Trace.counters_append, Trace.diagnostics_append, Trace.opened_append, Counters.add_eq,
    List.length_append, List.map_append, List.sum_append]
  omega

/-- The line of an include is counted before its catalog is read. -/
theorem include_bind (h : w.LinesAddUp blanks 0) :
    (Walk.leave { counters := { lines := 1, includes := 1 } } >>= fun _ => w).LinesAddUp
      blanks 0 :=
  leave_bind rfl h

/-- The blank lines of a catalog that is requested are those of its visit. -/
theorem request_bind {name : List Char} {events : List Journal.Event}
    (h : w.LinesAddUp blanks (blanks name)) :
    (Walk.leave { opened := [name], events } >>= fun _ => w).LinesAddUp blanks 0 :=
  leave_bind rfl (by simpa using h)

/-- No line is read where a catalog is counted. -/
theorem catalog_bind (h : w.LinesAddUp blanks n) :
    (Walk.leave { counters := { catalogs := 1 } } >>= fun _ => w).LinesAddUp blanks n :=
  leave_bind rfl h

end Walk.LinesAddUp

namespace Loader

section Lines

variable {L : Loader Rule} {splice : List Char → Walk (List Rule)} {blanks : List Char → Nat}

/-- A line is one thing, or blank. -/
theorem readAs_linesAddUp (hsplice : ∀ b, (splice b).LinesAddUp blanks 0) (catalog : List Char)
    (number : Nat) (raw : List Char) (role : Option LineContent) :
    (L.readAs splice catalog number raw role).LinesAddUp blanks
      (if role = some (.blank false) then 1 else 0) := by
  -- A line of a block, a blank or commented one, an include, a rule, and a malformed line.
  rcases role with _ | commented | b | ⟨pattern, left, right, phoneme⟩ | problem
  · rintro rules ⟨⟩
    rfl
  · rintro rules ⟨⟩
    cases commented <;> rfl
  · rw [if_neg (by simp)]
    exact .include_bind (hsplice b)
  · intro rules hrules
    rw [readAs] at hrules
    cases hr : Rule.ofFields { pattern, left, right, phoneme } with
    | error e => rw [hr] at hrules; cases hrules
    | ok r =>
      rw [hr] at hrules
      obtain rfl := Except.ok.inj hrules
      rfl
  · rintro rules ⟨⟩
    rfl

/-- Lines behind other lines add up to the blank ones among them. -/
theorem readLines_linesAddUp (hsplice : ∀ b, (splice b).LinesAddUp blanks 0) (catalog : List Char)
    (before rest : List (List Char)) (number : Nat) :
    (L.readLines splice catalog (before.foldl blockAfter false) number rest).LinesAddUp blanks
      ((List.range' before.length rest.length).countP (IsBlankLine (before ++ rest) ·)) := by
  induction rest generalizing before number with
  | nil =>
    rintro rules ⟨⟩
    rfl
  | cons raw rest ih =>
    have hrest := ih (before ++ [raw]) (number + 1)
    rw [List.foldl_append, List.length_append, List.append_assoc] at hrest
    have hown := readAs_linesAddUp (L := L) hsplice catalog number raw
      (lineRole (before.foldl blockAfter false) raw)
    rw [readLines, List.length_cons, List.range'_succ, List.countP_cons, Nat.add_comm]
    simp only [decide_eq_true_eq, isBlankLine_iff rfl]
    exact hown.append hrest

/-- The lines of a text add up, with its own blank lines. -/
theorem runSteps_linesAddUp (hsplice : ∀ b, (splice b).LinesAddUp blanks 0)
    (catalog text : List Char) :
    (L.runSteps splice (textSteps catalog text)).LinesAddUp blanks
      (blankLines (Text.splitLines text)) := by
  have h := readLines_linesAddUp (L := L) hsplice catalog [] (Text.splitLines text) 1
  rw [runSteps_text, blankLines, List.range_eq_range']
  exact h

end Lines

/-- The lines of a visit add up, each visit counting the blank lines of its catalog. -/
theorem visit_linesAddUp (source : Source) (depth : ℕ+) (room : Nat) (stack : List (List Char))
    (name : List Char) :
    ((ofKind .text source depth).visit room stack name).LinesAddUp source.blankLines 0 := by
  refine visit_induction _ (motive := fun _ _ _ w => w.LinesAddUp source.blankLines 0)
    ?cycle ?full ?refused ?run room stack name
  case cycle => exact fun _ _ _ _ => .of_error rfl
  case full => exact fun _ _ _ => .of_error rfl
  case refused => exact fun _ _ _ _ _ _ => .of_error rfl
  case run =>
    intro room stack name text _ hread ih
    have hblanks : source.blankLines name = blankLines (Text.splitLines text) := by
      rw [Source.blankLines, show (source.read name).result = .ok text from hread]
    exact .request_bind (.catalog_bind (hblanks ▸ runSteps_linesAddUp ih name text))

/-- At the end of a run that succeeds, the counters of its results are completed. -/
theorem finish_lines {L : Loader Rule} {w : Walk (List Rule)} {name : List Char}
    {blanks : List Char → Nat} {own : Nat} (h : w.LinesAddUp blanks own)
    (hok : (L.finish name w).Succeeds) :
    (L.finish name w).trace.counters.lines =
      (L.finish name w).trace.counters.rules + (L.finish name w).trace.counters.includes
        + (L.finish name w).trace.counters.diagnostics + (L.finish name w).trace.counters.comments
        + (own + ((L.finish name w).trace.opened.map blanks).sum) := by
  obtain ⟨rules, hrules⟩ := hok
  have hrules : w.result = .ok rules := (L.finish_alike name w).result.symm.trans hrules
  rw [finish_counters_of_ok L name hrules, (L.finish_alike name w).opened]
  exact h rules hrules

end Loader

/-- The counters of a call balance. When a call of the text format succeeds, the lines that were
read are the rules, includes, diagnostics and comments and the blank lines that were met, in the
text of the call and in the catalog of each visit. In both formats, documents that are not checked
among them, and whatever the outcome, all catalogs but the first one were included, except for an
include that ended the run; all catalogs but the text of the call were requested, and so was one
that could not be opened; and nothing is counted as a result of a call that fails. -/
theorem counters_balance (source : Source) (depth : ℕ+) (call : Call) :
    let w := (Loader.ofKind .text source depth).answer call
    (w.Succeeds →
      w.trace.counters.lines = w.trace.counters.rules + w.trace.counters.includes
        + w.trace.counters.diagnostics + w.trace.counters.comments
        + call.blankLines source w.trace.opened) ∧
    (∀ kind, call.Balances ((Loader.ofKind kind source depth).answer call)) ∧
    ∀ needsRules, call.Balances
      (Loader.answer ⟨looseFormat needsRules, source, depth, depth.pos⟩ call) := by
  refine ⟨fun hok => ?_, fun kind => ?_, fun needsRules => ?_⟩
  · cases call with
    | load name =>
      exact Loader.finish_lines (Loader.visit_linesAddUp source depth depth [] name) hok
    | parse text name =>
      -- The text itself counts as a catalog, in which the includes are visited.
      have hlines := Loader.runSteps_linesAddUp (L := Loader.ofKind .text source depth)
        (Loader.visit_linesAddUp source depth (depth - 1) [name]) name text
      exact Loader.finish_lines (.catalog_bind hlines) hok
  · exact Loader.answer_balances (abortsInText_ofKind kind) call
  · exact Loader.answer_balances (abortsInText_loose needsRules) call

/-- A catalog with a blank line that includes another one with a block comment and a blank line. -/
def nestedSource : Source :=
  .ofList [(['a'], "#include b\n\nx // y\n".toList), (['b'], "/* z\n*/\n\t\n".toList)]

/-- A catalog with blank lines and comments that includes another one twice. -/
theorem counters_balance_nested :
    let call := Call.load ['a']
    let w := (Loader.ofKind .text nestedSource 2).answer call
    w.Succeeds ∧ w.trace.counters = ⟨2, 6, 2, 0, 1, 1⟩ ∧
      call.blankLines nestedSource w.trace.opened = 2 := by
  intro call w
  have hok : w.Succeeds := Walk.error?_eq_none.1 (by decide +kernel)
  have hcounters : w.trace.counters = ⟨2, 6, 2, 0, 1, 1⟩ := by decide +kernel
  have hlines := (counters_balance nestedSource 2 call).1 hok
  rw [show (Loader.ofKind .text nestedSource 2).answer call = w from rfl, hcounters] at hlines
  exact ⟨hok, hcounters, (Nat.add_left_cancel hlines).symm⟩

end PhoneticCatalog.Catalog
