import PhoneticCatalog.Proofs.Inclusion.OpenCatalogs
import PhoneticCatalog.Proofs.Writing.Lines

/-!
# Writing rules and reading them again

`writeRules` is the text of some rules, a line for each of them. If all fields are textual, a parse
of this text gives the rules back, whatever quotes or other signs the fields hold. The rules that a
text loader returns always are of that kind: they stand on lines of some text
(`Loader.exists_step_of_mem_answer`), and what stands there has gone through the cuts at line
terminators, comment signs and separators (`ruleSteps_textual`). So a catalog with all its includes
can be flattened into a single text (`text_round_trip`).
-/

namespace PhoneticCatalog

/-- A rule has the fields it is built from. -/
theorem Rule.fields_eq_of_ofFields {fields : RuleFields} {r : Rule}
    (h : ofFields fields = .ok r) : r.fields = fields := by
  cases hleft : readContext fields.leftText with
  | error e => rw [ofFields, hleft] at h; cases h
  | ok left =>
    cases hright : readContext fields.rightText with
    | error e => rw [ofFields, hleft, hright] at h; cases h
    | ok right =>
      rw [ofFields, hleft, hright] at h
      obtain rfl := Except.ok.inj h
      rfl

/-- The fields of a rule are fields that it can be built from. -/
theorem Rule.ofFields_fields (r : Rule) : ofFields r.fields = .ok r := by
  have hcompiles : r.fields.Compiles := ⟨⟨_, r.left_read⟩, _, r.right_read⟩
  obtain ⟨s, hs⟩ := exists_ofFields_iff.2 hcompiles
  rw [hs, ext_fields (fields_eq_of_ofFields hs)]

namespace Catalog

/-- The text of some rules, a line for each of them. -/
def writeRules (rules : List Rule) : List Char := writeText (rules.map fun r => .rule r.fields)

/-! ## Reading what was written -/

/-- Each line that was written for a rule takes a step, after it was counted. -/
theorem linesSteps_rules (catalog : List Char) (number : Nat) {rules : List Rule}
    (h : ∀ r ∈ rules, r.fields.IsTextual) :
    linesSteps catalog false number (rules.map fun r => (Entry.rule r.fields).line) =
      rules.flatMap fun r => [.tally 1 0, .rule r] := by
  induction rules generalizing number with
  | nil =>
    rw [List.map_nil, linesSteps]
    rfl
  | cons r rest ih =>
    have hr : (Entry.rule r.fields).IsPlain := h r List.mem_cons_self
    have hstep : (Entry.rule r.fields).step catalog (.line number) = .rule r := by
      rw [Entry.step, Step.ofFields, r.ofFields_fields]
    rw [List.map_cons, linesSteps_cons_line catalog number hr, hstep,
      ih (number + 1) fun s hs => h s (List.mem_cons_of_mem r hs)]
    rfl

/-- Written rules are read line by line as these rules. -/
theorem textSteps_writeRules (catalog : List Char) {rules : List Rule}
    (h : ∀ r ∈ rules, r.fields.IsTextual) :
    textSteps catalog (writeRules rules) = rules.flatMap fun r => [.tally 1 0, .rule r] := by
  have hplain : ∀ e ∈ rules.map fun r => Entry.rule r.fields, e.IsPlain := by
    intro e he
    obtain ⟨r, hr, rfl⟩ := List.mem_map.1 he
    exact h r hr
  rw [writeRules, textSteps_writeText catalog hplain, List.map_map]
  exact linesSteps_rules catalog 1 h

/-- Steps of rules yield the rules and leave no diagnostics. -/
theorem Loader.runSteps_rules (L : Loader Rule) (splice : List Char → Walk (List Rule))
    (rules : List Rule) :
    let run := L.runSteps splice (rules.flatMap fun r => [.tally 1 0, .rule r])
    run.result = .ok rules ∧ run.trace.diagnostics = [] := by
  induction rules with
  | nil => exact ⟨rfl, rfl⟩
  | cons r rest ih =>
    obtain ⟨hresult, hdiagnostics⟩ := ih
    intro run
    have hrun : run = Walk.leave { counters := { lines := 1, comments := 0 } } >>= fun _ =>
        L.runSteps splice (rest.flatMap fun r => [.tally 1 0, .rule r]) >>= fun rules =>
          pure (r :: rules) := rfl
    rw [hrun, Walk.leave_bind, Walk.bind_of_ok hresult]
    refine ⟨rfl, ?_⟩
    simp only [Trace.diagnostics_append, hdiagnostics]
    rfl

/-- A written text is read as its rules, without diagnostics. -/
theorem Loader.parse_writeRules (source : Source) (depth : ℕ+) {rules : List Rule}
    (name : List Char) (h : ∀ r ∈ rules, r.fields.IsTextual) :
    let parse := (ofKind .text source depth).parse (writeRules rules) name
    parse.result = .ok rules ∧ parse.trace.diagnostics = [] := by
  intro parse
  have halike := parse_alike .text source depth (writeRules rules) name
  have hsteps : (Format.ofKind .text).steps name (writeRules rules) =
      rules.flatMap fun r => [.tally 1 0, .rule r] := textSteps_writeRules name h
  rw [hsteps] at halike
  obtain ⟨hresult, hdiagnostics⟩ := (ofKind .text source depth).runSteps_rules
    ((ofKind .text source depth).visit (depth - 1) [name]) rules
  exact ⟨halike.result.trans hresult, halike.diagnostics.trans hdiagnostics⟩

/-! ## Where rules come from -/

section

variable {ρ : Type} {L : Loader ρ} {r : ρ} {rules : List ρ}

/-- A rule that a run yields is one of its steps or comes from an included catalog. -/
theorem Loader.mem_of_runSteps {splice : List Char → Walk (List ρ)} {steps : List (Step ρ)}
    (h : (L.runSteps splice steps).result = .ok rules) (hr : r ∈ rules) :
    .rule r ∈ steps ∨ ∃ b included, (splice b).result = .ok included ∧ r ∈ included := by
  have hsucceeds : ∀ s ∈ steps, (L.runStep splice s).Succeeds :=
    (L.runSteps_succeeds_iff splice steps).1 ⟨rules, h⟩
  rw [(L.runSteps_of_succeeds splice hsucceeds).1] at h
  obtain rfl := Except.ok.inj h
  obtain ⟨s, hs, hyield⟩ := List.mem_flatMap.1 hr
  have hresult := (hsucceeds s hs).result_eq
  -- Only rules and includes yield anything.
  cases s with
  | tally lines comments => exact absurd hyield List.not_mem_nil
  | rule r' =>
    obtain rfl := List.mem_singleton.1 hyield
    exact Or.inl hs
  | splice b => exact Or.inr ⟨b, _, hresult, hyield⟩
  | skip d => exact absurd hyield List.not_mem_nil
  | abort e => exact absurd hyield List.not_mem_nil

/-- A rule that a visit yields stands in the text of some catalog. -/
theorem Loader.exists_step_of_mem_visit {room : Nat} {stack : List (List Char)}
    {name : List Char} (h : (L.visit room stack name).result = .ok rules) (hr : r ∈ rules) :
    ∃ catalog text, .rule r ∈ L.format.steps catalog text := by
  induction room generalizing stack name rules with
  | zero =>
    obtain ⟨room', -, hroom, -⟩ := L.exists_run_of_visit h
    omega
  | succ room ih =>
    obtain ⟨room', text, hroom, -, -, hrun⟩ := L.exists_run_of_visit h
    obtain rfl : room = room' := Nat.succ.inj hroom
    rcases mem_of_runSteps hrun hr with hstep | ⟨b, included, hb, hr⟩
    · exact ⟨name, text, hstep⟩
    · exact ih hb hr

/-- A rule that a call returns stands in some text. -/
theorem Loader.exists_step_of_mem_answer {call : Call}
    (h : (L.answer call).result = .ok rules) (hr : r ∈ rules) :
    ∃ catalog text, .rule r ∈ L.format.steps catalog text := by
  cases call with
  | load name =>
    have hvisit : (L.visit L.maxDepth [] name).result = .ok rules :=
      (finish_alike L name _).result.symm.trans h
    exact exists_step_of_mem_visit hvisit hr
  | parse text name =>
    have hwalk : (Walk.leave { counters := { catalogs := 1 } } >>= fun _ =>
        L.runSteps (L.visit (L.maxDepth - 1) [name]) (L.format.steps name text)).result =
          .ok rules := (finish_alike L name _).result.symm.trans h
    have hrun : (L.runSteps (L.visit (L.maxDepth - 1) [name])
        (L.format.steps name text)).result = .ok rules := hwalk
    rcases mem_of_runSteps hrun hr with hstep | ⟨b, included, hb, hr⟩
    · exact ⟨name, text, hstep⟩
    · exact exists_step_of_mem_visit hb hr

end

/-! ## Rules of texts -/

/-- What is left of a field of a line can be written, if no line ends and no comment starts there.
-/
theorem writable_stripQuotes {line f : List Char} (hline : ∀ c ∈ line, Text.isTerminator c = false)
    (hcomment : ¬ commentSign <:+: line) (hf : f ∈ Text.splitFields line) :
    Writable (Text.stripQuotes f) := by
  have hpart : f <:+: line := Text.infix_of_mem_splitFields hf
  have hfield : Writable f := by
    refine ⟨fun c hc => not_mem_fieldBreaks.2 ⟨?_, ?_⟩, fun hmark => hcomment (hmark.trans hpart)⟩
    · exact Text.not_isSeparator_of_mem_splitFields hf c hc
    · exact hline c (hpart.subset hc)
  exact hfield.of_infix (Text.stripQuotes_infix f)

/-- The fields of a rule on a line can be written. -/
theorem textual_of_ofLine {raw pattern left right phoneme : List Char}
    (hraw : ∀ c ∈ raw, Text.isTerminator c = false)
    (h : LineContent.ofLine raw = .rule pattern left right phoneme) :
    RuleFields.IsTextual { pattern, left, right, phoneme } := by
  obtain ⟨code, p, l, m, q, hpart, hcomment, hsplit, rfl, rfl, rfl, rfl⟩ :=
    LineContent.exists_code_of_rule h
  have hline : ∀ c ∈ code, Text.isTerminator c = false := fun c hc => hraw c (hpart.subset hc)
  have hwritable : ∀ f ∈ [p, l, m, q], Writable (Text.stripQuotes f) :=
    fun f hf => writable_stripQuotes hline hcomment (hsplit ▸ hf)
  exact ⟨hwritable p (by simp), hwritable l (by simp), hwritable m (by simp),
    hwritable q (by simp), rfl, rfl⟩

/-- The rules of a text are textual. -/
theorem ruleSteps_textual {catalog text : List Char} {r : Rule}
    (h : .rule r ∈ textSteps catalog text) : r.fields.IsTextual := by
  have hmem : .rule r ∈ (textItems catalog text).map Item.step := by
    rw [textItems, ← filter_linesSteps]
    exact List.mem_filter.2 ⟨h, rfl⟩
  obtain ⟨item, hitem, hstep⟩ := List.mem_map.1 hmem
  obtain ⟨before, raw, after, hlines, -, hraw⟩ := mem_textItems.1 hitem
  have hline : raw ∈ Text.splitLines text := by simp [hlines]
  have hterminator := Text.not_isTerminator_of_mem_splitLines hline
  -- A step with a rule comes from a line that is read as a rule.
  rw [lineItem?] at hraw
  split at hraw
  · cases hraw
  · obtain rfl := Option.some.inj hraw
    cases hstep
  · rename_i pattern left right phoneme hcontent
    obtain rfl := Option.some.inj hraw
    rw [Item.step, Step.ofFields] at hstep
    split at hstep
    · rename_i r' hr'
      obtain rfl := Step.rule.inj hstep
      rw [Rule.fields_eq_of_ofFields hr']
      exact textual_of_ofLine hterminator hcontent
    · cases hstep
  · obtain rfl := Option.some.inj hraw
    cases hstep

/-! ## The round trip -/

/-- Rules whose fields are textual come back from the text that is written of them, in order and
without diagnostics. All rules that a text loader ever returns are of that kind, so that a catalog
can be replaced by the text of its rules and those of all catalogs it includes. -/
theorem text_round_trip (source : Source) (depth : ℕ+) :
    (∀ (rules : List Rule) (name : List Char), (∀ r ∈ rules, r.fields.IsTextual) →
      let parse := (Loader.ofKind .text source depth).parse (writeRules rules) name
      parse.result = .ok rules ∧ parse.trace.diagnostics = []) ∧
    ∀ (call : Call) (rules : List Rule),
      ((Loader.ofKind .text source depth).answer call).result = .ok rules →
      (∀ r ∈ rules, r.fields.IsTextual) ∧
      ∀ (source' : Source) (depth' : ℕ+) (name : List Char),
        let parse := (Loader.ofKind .text source' depth').parse (writeRules rules) name
        parse.result = .ok rules ∧ parse.trace.diagnostics = [] := by
  refine ⟨fun rules name h => Loader.parse_writeRules source depth name h, ?_⟩
  intro call rules h
  -- Every rule of a result stems from a line of some text, which can write it again.
  have htextual : ∀ r ∈ rules, r.fields.IsTextual := by
    intro r hr
    obtain ⟨catalog, text, hstep⟩ := Loader.exists_step_of_mem_answer h hr
    exact ruleSteps_textual hstep
  refine ⟨htextual, ?_⟩
  intro source' depth' name
  exact Loader.parse_writeRules source' depth' name htextual

/-- A catalog with quotes inside of a field and with empty fields, and one that it includes. -/
def quotedSource : Source :=
  .ofList [(['a'], "#include b // first\n\"\"x\" \"\" '' \"".toList),
    (['b'], "y [ab] \"\" z".toList)]

/-- Rules whose fields hold quotes and signs of expressions. -/
theorem text_round_trip_quotes :
    ∃ rules, ((Loader.ofKind .text quotedSource 2).answer (.load ['a'])).result = .ok rules ∧
      writeRules rules = "\"y\" \"[ab]\" \"\" \"z\"\n\"\"x\" \"\" \"''\" \"\"\n".toList ∧
      ((Loader.ofKind .text quotedSource 2).parse (writeRules rules) ['b']).result = .ok rules := by
  let answer := (Loader.ofKind .text quotedSource 2).answer (.load ['a'])
  have hanswer : answer.result = .ok answer.yield :=
    (Walk.error?_eq_none.1 (by decide +kernel)).result_eq
  have htext : writeRules answer.yield =
      "\"y\" \"[ab]\" \"\" \"z\"\n\"\"x\" \"\" \"''\" \"\"\n".toList := by decide +kernel
  obtain ⟨hwritten, hreturned⟩ := text_round_trip quotedSource 2
  obtain ⟨htextual, -⟩ := hreturned (.load ['a']) answer.yield hanswer
  exact ⟨answer.yield, hanswer, htext, (hwritten answer.yield ['b'] htextual).1⟩

end Catalog

end PhoneticCatalog
