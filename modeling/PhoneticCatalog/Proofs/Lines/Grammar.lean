import PhoneticCatalog.Proofs.Failures.Escape
import PhoneticCatalog.Proofs.Lines.Blocks
import PhoneticCatalog.Proofs.Lines.Reading
import PhoneticCatalog.Proofs.Text.Fields
import PhoneticCatalog.Proofs.Writing.RoundTrip

/-!
# The grammar of lines

What a line is can be said by a grammar. Its code is what stands before the sign of a comment
(`IsCode`); outside of block comments the code is that of a rule (`IsRule`), that of an include
(`IsInclude`), blank, or malformed (`IsMalformed`), and it can only be one of them (`Derives`,
`derives_iff`).

A parse reads its lines one after the other, each of them in the role that the grammar gives it
(`lines_read_by_grammar`). A rule whose context cannot be read ends the parse with the number of its
line, unless the context is excessive (`excessive_line`).
-/

namespace PhoneticCatalog.Catalog

/-! ## The grammar -/

/-- The code of a line is what stands before the first sign of a comment, or all of it. -/
inductive IsCode (raw : List Char) : (code : List Char) → Prop where
  | whole (h : ¬ commentSign <:+: raw) : IsCode raw raw
  | cut {code : List Char} (h : Text.IsBefore commentSign raw code) : IsCode raw code

/-- The code is that of a rule: four fields with separators in between and blanks around. The first
one does not start as an include does. -/
structure IsRule (code f₁ f₂ f₃ f₄ : List Char) : Prop where
  shape : ∃ b s₁ s₂ s₃ b', code = b ++ Text.fourFields f₁ s₁ f₂ s₂ f₃ s₃ f₄ ++ b' ∧
    (∀ s ∈ [b, b'], ∀ c ∈ s, Text.isBlank c = true) ∧
    ∀ s ∈ [s₁, s₂, s₃], s ≠ [] ∧ ∀ c ∈ s, Text.isSeparator c = true
  fields : ∀ f ∈ [f₁, f₂, f₃, f₄], f ≠ [] ∧ ∀ c ∈ f, Text.isSeparator c = false
  head : ∀ c ∈ f₁.head?, Text.isBlank c = false
  last : ∀ c ∈ f₄.getLast?, Text.isBlank c = false
  start : ¬ includeWord <+: f₁

/-- The code is that of an include: its word, and then a name without separators. -/
structure IsInclude (code name : List Char) : Prop where
  start : ∃ rest, Text.trim code = includeWord ++ rest ∧ Text.trim rest = name
  ne_nil : name ≠ []
  separators : ∀ c ∈ name, Text.isSeparator c = false

/-- The code is neither blank nor one of the others. -/
inductive IsMalformed (code : List Char) : Malformation → Prop where
  | inclusion {rest : List Char} (hstart : Text.trim code = includeWord ++ rest)
    (hname : Text.trim rest = [] ∨ ∃ c ∈ Text.trim rest, Text.isSeparator c = true) :
    IsMalformed code .inclusion
  | rule {fields : List (List Char)} (hne : Text.trim code ≠ [])
    (hstart : ¬ includeWord <+: Text.trim code) (hsplit : Text.IsSplit (Text.trim code) fields)
    (hfields : fields.length ≠ 4) : IsMalformed code (.rule fields.length)

/-- What a line outside of block comments holds, by the grammar. -/
inductive Derives (raw : List Char) : LineContent → Prop where
  | rule {code f₁ f₂ f₃ f₄ : List Char} (hcode : IsCode raw code) (h : IsRule code f₁ f₂ f₃ f₄) :
    Derives raw (.rule (Text.stripQuotes f₁) (Text.stripQuotes f₂) (Text.stripQuotes f₃)
      (Text.stripQuotes f₄))
  | inclusion {code name : List Char} (hcode : IsCode raw code) (h : IsInclude code name) :
    Derives raw (.include name)
  | blank {code : List Char} {commented : Bool} (hcode : IsCode raw code)
    (h : Text.trim code = []) (hcommented : commented = true ↔ commentSign <:+: raw) :
    Derives raw (.blank commented)
  | malformed {code : List Char} {problem : Malformation} (hcode : IsCode raw code)
    (h : IsMalformed code problem) : Derives raw (.malformed problem)

/-! ## Codes -/

section Codes

variable {raw code name : List Char}

/-- What is read of a line outside of block comments. -/
def lineCode (raw : List Char) : List Char := (Text.before? commentSign raw).getD raw

/-- The code of a line is what stands before its first comment sign, or all of it. -/
theorem isCode_iff : IsCode raw code ↔ code = lineCode raw := by
  have hsign : commentSign ≠ [] := by decide
  constructor
  · rintro (h | h)
    · rw [lineCode, (Text.before?_eq_none_iff hsign).2 h]
      rfl
    · rw [lineCode, (Text.before?_eq_some_iff hsign).2 h]
      rfl
  · rintro rfl
    rw [lineCode]
    cases hbefore : Text.before? commentSign raw with
    | none => exact .whole ((Text.before?_eq_none_iff hsign).1 hbefore)
    | some start => exact .cut ((Text.before?_eq_some_iff hsign).1 hbefore)

/-- Something stands before the comment sign if the line has one. -/
theorem isSome_before?_iff : (Text.before? commentSign raw).isSome ↔ commentSign <:+: raw := by
  rw [← not_iff_not, Bool.not_eq_true, Option.isSome_eq_false_iff, Option.isNone_iff_eq_none,
    Text.before?_eq_none_iff (by decide)]

/-- The word of an include holds no separator, so that it does not reach beyond the first field. -/
theorem includeWord_prefix_iff {field gap rest : List Char} (hgap : gap ≠ [])
    (hseparators : ∀ c ∈ gap, Text.isSeparator c = true) :
    includeWord <+: field ++ gap ++ rest ↔ includeWord <+: field := by
  obtain ⟨c, gap, rfl⟩ := List.exists_cons_of_ne_nil hgap
  have hc : c ∉ includeWord := by
    intro hmem
    have hword : includeWord.all (!Text.isSeparator ·) = true := by decide
    have hnone := List.all_eq_true.1 hword c hmem
    rw [hseparators c List.mem_cons_self] at hnone
    cases hnone
  rw [List.append_assoc, List.cons_append]
  exact ⟨Text.prefix_of_prefix_append_cons hc, fun h => h.trans (List.prefix_append _ _)⟩

/-- The four fields of a rule are those that its trimmed code is made of. -/
theorem isRule_iff {f₁ f₂ f₃ f₄ : List Char} :
    IsRule code f₁ f₂ f₃ f₄ ↔
      ¬ includeWord <+: Text.trim code ∧ Text.IsSplit (Text.trim code) [f₁, f₂, f₃, f₄] := by
  have htrimmed : Text.IsStripped Text.isBlank (Text.trim code) := Text.isStripped_stripWhile _ _
  rw [Text.isSplit_four_iff htrimmed.of_isBlank]
  constructor
  · rintro ⟨⟨b, s₁, s₂, s₃, b', hcode, hblanks, hruns⟩, hfields, hhead, hlast, hstart⟩
    obtain ⟨hb, hb', -⟩ := List.forall_mem_cons.1 hblanks |>.imp_right List.forall_mem_cons.1
    -- The blanks around are all that is trimmed, since the first and the last field end in none.
    have hline : Text.trim code = Text.fourFields f₁ s₁ f₂ s₂ f₃ s₃ f₄ := by
      refine Text.stripWhile_eq_iff.2 ⟨⟨?_, ?_⟩, b, b', hcode, hb, hb'⟩
      · rwa [Text.head?_fourFields (hfields f₁ (by simp)).1]
      · rwa [Text.getLast?_fourFields (hfields f₄ (by simp)).1]
    have hrun := hruns s₁ (by simp)
    refine ⟨?_, s₁, s₂, s₃, hline, hruns, hfields⟩
    rwa [hline, Text.fourFields, includeWord_prefix_iff hrun.1 hrun.2]
  · rintro ⟨hstart, s₁, s₂, s₃, hline, hruns, hfields⟩
    obtain ⟨b, b', hcode, hb, hb'⟩ := Text.exists_stripped Text.isBlank code
    have hrun := hruns s₁ (by simp)
    rw [hline] at htrimmed
    rw [← Text.trim, hline] at hcode
    refine ⟨⟨b, s₁, s₂, s₃, b', hcode, by simpa using ⟨hb, hb'⟩, hruns⟩, hfields, ?_, ?_, ?_⟩
    · rw [← Text.head?_fourFields (hfields f₁ (by simp)).1 s₁ f₂ s₂ f₃ s₃ f₄]
      exact htrimmed.head
    · rw [← Text.getLast?_fourFields (hfields f₄ (by simp)).1 f₁ s₁ f₂ s₂ f₃ s₃]
      exact htrimmed.last
    · rwa [hline, Text.fourFields, includeWord_prefix_iff hrun.1 hrun.2] at hstart

end Codes

/-! ## Contents -/

section Contents

variable {raw code : List Char} {content : LineContent}

/-- Every line has its code. -/
theorem isCode_lineCode (raw : List Char) : IsCode raw (lineCode raw) := isCode_iff.2 rfl

/-- A line with code that is not blank is read by this code, without the blanks around it. -/
theorem ofLine_of_trim_ne_nil (hcode : IsCode raw code) (h : Text.trim code ≠ []) :
    LineContent.ofLine raw = LineContent.ofTrimmed (Text.trim code) := by
  obtain rfl := isCode_iff.1 hcode
  exact if_neg (mt List.isEmpty_iff.1 h)

/-- A line that starts with the word for inclusions is one, or is malformed as one. -/
theorem ofTrimmed_of_start {line rest : List Char} (h : line = includeWord ++ rest) :
    LineContent.ofTrimmed line =
      if (Text.trim rest).isEmpty || (Text.trim rest).any Text.isSeparator then
        .malformed .inclusion
      else .include (Text.trim rest) := by
  have hstart : Text.startsWith line includeWord = true :=
    List.isPrefixOf_iff_prefix.2 (h ▸ List.prefix_append _ _)
  rw [LineContent.ofTrimmed, if_pos hstart, h, List.drop_left]

/-- A line holds what the grammar says. -/
theorem Derives.ofLine_eq (h : Derives raw content) : LineContent.ofLine raw = content := by
  have hword : ∀ rest, includeWord ++ rest ≠ [] := fun rest => List.cons_ne_nil _ _
  have hfields : ∀ {line}, ¬ includeWord <+: line → ¬ Text.startsWith line includeWord = true :=
    mt List.isPrefixOf_iff_prefix.1
  cases h with
  | @rule code f₁ f₂ f₃ f₄ hcode h =>
    obtain ⟨hstart, hsplit⟩ := isRule_iff.1 h
    have hne : Text.trim code ≠ [] := by
      intro hnil
      rw [hnil] at hsplit
      cases hsplit.splitFields_eq
    rw [ofLine_of_trim_ne_nil hcode hne, LineContent.ofTrimmed, if_neg (hfields hstart),
      hsplit.splitFields_eq]
  | inclusion hcode h =>
    obtain ⟨⟨rest, hrest, rfl⟩, hname, hseparators⟩ := h
    rw [ofLine_of_trim_ne_nil hcode (hrest ▸ hword rest), ofTrimmed_of_start hrest]
    simpa using ⟨hname, hseparators⟩
  | blank hcode h hcommented =>
    obtain rfl := isCode_iff.1 hcode
    refine (if_pos (List.isEmpty_iff.2 h)).trans (congrArg LineContent.blank ?_)
    rw [Bool.eq_iff_iff, hcommented, isSome_before?_iff]
  | malformed hcode h =>
    -- Either an include without a name, or fields that are not four.
    cases h with
    | @inclusion rest hrest hname =>
      rw [ofLine_of_trim_ne_nil hcode (hrest ▸ hword rest), ofTrimmed_of_start hrest,
        if_pos (by simpa using hname)]
    | rule hne hstart hsplit hlength =>
      rw [ofLine_of_trim_ne_nil hcode hne, LineContent.ofTrimmed, if_neg (hfields hstart),
        hsplit.splitFields_eq]
      split
      · exact absurd rfl hlength
      · rfl

/-- Each line is derived as something. -/
theorem exists_derives (raw : List Char) : ∃ content, Derives raw content := by
  have hcode := isCode_lineCode raw
  by_cases hblank : Text.trim (lineCode raw) = []
  · exact ⟨_, .blank hcode hblank isSome_before?_iff⟩
  by_cases hstart : includeWord <+: Text.trim (lineCode raw)
  · obtain ⟨rest, hrest⟩ := hstart
    by_cases hname : Text.trim rest = [] ∨ ∃ c ∈ Text.trim rest, Text.isSeparator c = true
    · exact ⟨_, .malformed hcode (.inclusion hrest.symm hname)⟩
    · simp only [not_or, not_exists, not_and, Bool.not_eq_true] at hname
      exact ⟨_, .inclusion hcode ⟨⟨rest, hrest.symm, rfl⟩, hname.1, hname.2⟩⟩
  -- What is neither blank nor an include is a rule or malformed by the number of its fields.
  · have hsplit := Text.isSplit_splitFields (Text.trim (lineCode raw))
    by_cases hfields : (Text.splitFields (Text.trim (lineCode raw))).length = 4
    · obtain ⟨f₁, f₂, f₃, f₄, hfour⟩ := List.length_eq_four.1 hfields
      rw [hfour] at hsplit
      exact ⟨_, .rule hcode (isRule_iff.2 ⟨hstart, hsplit⟩)⟩
    · exact ⟨_, .malformed hcode (.rule hblank hstart hsplit hfields)⟩

/-- A line is derived as what it holds, and as nothing else. -/
theorem derives_iff : Derives raw content ↔ LineContent.ofLine raw = content := by
  refine ⟨Derives.ofLine_eq, ?_⟩
  rintro rfl
  obtain ⟨content, h⟩ := exists_derives raw
  rwa [h.ofLine_eq]

end Contents

/-! ## Reading lines -/

section Roles

variable {before : List (List Char)} {raw : List Char} {content : LineContent}

/-- A line behind others is passed over if it lies within a block comment. -/
theorem lineRole_eq_none_iff :
    lineRole (before.foldl blockAfter false) raw = none ↔ ¬ OutsideBlocks before raw := by
  rw [lineRole, inComment, OutsideBlocks]
  cases before.foldl blockAfter false <;> cases Text.startsWith raw blockStart <;> simp

/-- A line behind others is read if it lies outside of block comments, as the grammar derives it. -/
theorem lineRole_eq_some_iff :
    lineRole (before.foldl blockAfter false) raw = some content ↔
      OutsideBlocks before raw ∧ Derives raw content := by
  rw [lineRole, inComment, OutsideBlocks, derives_iff]
  cases before.foldl blockAfter false <;> cases Text.startsWith raw blockStart <;> simp

end Roles

namespace Loader

variable {L : Loader Rule} {splice : List Char → Walk (List Rule)} {catalog : List Char}

/-- A rule that can be built has the fields of its line. -/
theorem readAs_rule_of_compiles {number : Nat} {raw pattern left right phoneme : List Char}
    (h : RuleFields.Compiles { pattern, left, right, phoneme }) :
    ∃ r : Rule, r.fields = { pattern, left, right, phoneme } ∧
      L.readAs splice catalog number raw (some (.rule pattern left right phoneme)) =
        ⟨{ counters := { lines := 1 } }, .ok [r]⟩ := by
  obtain ⟨r, hr⟩ := Rule.exists_ofFields_iff.2 h
  refine ⟨r, Rule.fields_eq_of_ofFields hr, ?_⟩
  rw [readAs, hr]

/-- A rule that cannot be built ends the load with the number of its line, unless a context is
excessive. -/
theorem readAs_rule_of_not_compiles {number : Nat} {raw pattern left right phoneme : List Char}
    (h : ¬ RuleFields.Compiles { pattern, left, right, phoneme }) :
    let own := L.readAs splice catalog number raw (some (.rule pattern left right phoneme))
    ∃ e, Rule.ofFields { pattern, left, right, phoneme } = .error e ∧
      (own.result = .error (.format catalog (.context (.line number) e)) ∨
        own.result = .error (.context e) ∧ e.refusal.isPassedOn = true ∧
          (Context.IsExcessive left ∨ Context.IsExcessive right)) := by
  intro own
  cases hr : Rule.ofFields { pattern, left, right, phoneme } with
  | ok r => exact absurd (Rule.exists_ofFields_iff.1 ⟨r, hr⟩) h
  | error e =>
    have hown : own.result = .error (.ofContext catalog (.line number) e) := by
      simp only [own, readAs, hr]
    refine ⟨e, rfl, ?_⟩
    -- An error that is passed on comes from an excessive context, any other one is told with its
    -- line.
    cases hrefusal : e.refusal.isPassedOn with
    | true =>
      rw [LoadError.ofContext_of_isPassedOn hrefusal] at hown
      exact Or.inr ⟨hown, rfl, Rule.isExcessive_of_ofFields hr hrefusal⟩
    | false =>
      rw [LoadError.ofContext_of_not_isPassedOn hrefusal] at hown
      exact Or.inl hown

end Loader

/-- A parse reads its lines one after the other, up to the first one that ends it. Each of them is
read in the role that the grammar gives it: it belongs to a block comment, or it holds what its code
is derived as. A rule has the fields that stand in the line; if they are not those of a rule that
can be built, the error names the line, unless one of its contexts is excessive. -/
theorem lines_read_by_grammar (source : Source) (depth : ℕ+) {text name raw : List Char}
    {before after : List (List Char)} (h : Text.splitLines text = before ++ raw :: after) :
    let L := Loader.ofKind .text source depth
    let splice := L.visit (depth - 1) [name]
    let number := before.length + 1
    let role := lineRole (before.foldl blockAfter false) raw
    let own := L.readAs splice name number raw role
    L.parse text name = L.finish name (do
        Walk.leave { counters := { catalogs := 1 } }
        let earlier ← L.readLines splice name false 1 before
        let rules ← own
        let later ← L.readLines splice name (blockAfter (before.foldl blockAfter false) raw)
          (number + 1) after
        return earlier ++ rules ++ later) ∧
      (role = none ↔ InBlock (Text.splitLines text) before.length) ∧
      (∀ content, role = some content ↔
        ¬ InBlock (Text.splitLines text) before.length ∧ Derives raw content) ∧
      ∀ pattern left right phoneme, role = some (.rule pattern left right phoneme) →
        let fields : RuleFields := { pattern, left, right, phoneme }
        (fields.Compiles → ∃ r, r.fields = fields ∧ own.result = .ok [r]) ∧
        (¬ fields.Compiles → ∃ e, Rule.ofFields fields = .error e ∧
          (own.result = .error (.format name (.context (.line number) e)) ∨
            own.result = .error (.context e) ∧ e.refusal.isPassedOn = true ∧
              (Context.IsExcessive left ∨ Context.IsExcessive right))) := by
  intro L splice number role own
  refine ⟨?_, ?_, fun content => ?_, ?_⟩
  · have hlines : L.runSteps splice (L.format.steps name text) =
        L.readLines splice name false 1 (before ++ raw :: after) := h ▸ L.runSteps_text text
    have hnumber : 1 + before.length = number := Nat.add_comm 1 before.length
    change L.finish name (Walk.leave { counters := { catalogs := 1 } } >>= fun _ =>
      L.runSteps splice (L.format.steps name text)) = _
    rw [hlines, Loader.readLines_append, Loader.readLines, hnumber]
    simp only [bind_assoc, pure_bind, List.append_assoc]
    rfl
  · rw [lineRole_eq_none_iff, outsideBlocks_iff h, not_not]
  · rw [lineRole_eq_some_iff, outsideBlocks_iff h]
  · intro pattern left right phoneme hrole fields
    have hown : own = L.readAs splice name number raw (some (.rule pattern left right phoneme)) :=
      congrArg (L.readAs splice name number raw) hrole
    rw [hown]
    refine ⟨fun hcompiles => ?_, Loader.readAs_rule_of_not_compiles⟩
    obtain ⟨r, hfields, hr⟩ := Loader.readAs_rule_of_compiles hcompiles
    exact ⟨r, hfields, congrArg Walk.result hr⟩

/-- A rule after a block comment, with a comment behind it. -/
def commentedText : List Char := "/* x\n*/\nx \"\" \"\" y // z\n".toList

/-- A rule with a comment, behind a block comment. -/
theorem lines_read_by_grammar_commented :
    Text.splitLines commentedText =
        ["/* x".toList, "*/".toList] ++ "x \"\" \"\" y // z".toList :: [] ∧
      ¬ InBlock (Text.splitLines commentedText) 2 ∧
      Derives "x \"\" \"\" y // z".toList (.rule ['x'] [] [] ['y']) := by
  have h : Text.splitLines commentedText =
      ["/* x".toList, "*/".toList] ++ "x \"\" \"\" y // z".toList :: [] := by decide +kernel
  obtain ⟨-, -, hcontent, -⟩ := @lines_read_by_grammar (.ofList []) 1 commentedText ['a'] _ _ _ h
  exact ⟨h, (hcontent _).1 (by decide +kernel)⟩

/-- A rule with a left context that repeats a letter more often than any count allows. -/
def excessiveLine : List Char := "x a\x7b4294967295\x7d \"\" y".toList

/-- The line is that of a rule by the grammar, and it cannot be built; the error of the parse does
not name the line. -/
theorem excessive_line :
    Text.splitLines excessiveLine = [] ++ excessiveLine :: [] ∧
      ¬ InBlock (Text.splitLines excessiveLine) 0 ∧
      Derives excessiveLine (.rule ['x'] "a\x7b4294967295\x7d".toList [] ['y']) ∧
      ((Loader.ofKind .text (.ofList []) 1).parse excessiveLine "<string>".toList).result =
        .error (.context ⟨"a\x7b4294967295\x7d$".toList, .repetitionTooLarge⟩) := by
  have h : Text.splitLines excessiveLine = [] ++ excessiveLine :: [] := by decide +kernel
  have houtside : OutsideBlocks [] excessiveLine := ⟨rfl, by decide +kernel⟩
  refine ⟨h, (outsideBlocks_iff h).1 houtside, derives_iff.2 (by decide +kernel), ?_⟩
  exact Walk.error?_eq_some.1 (by decide +kernel)

end PhoneticCatalog.Catalog
