import PhoneticCatalog.Proofs.Text.Line

/-!
# What a line is made of

Cutting off, trimming and splitting, said without the functions that do it. What stands before a
mark ends where the mark stands for the first time (`before?_eq_some_iff`). A text is what is left
of it between two runs of characters to strip (`stripWhile_eq_iff`), and a line is its fields with a
run of separators between two of them (`IsSplit`, `splitFields_eq_iff`).
-/

namespace PhoneticCatalog.Text

/-! ## Before a mark -/

/-- The text ends before the first place of a longer one where a mark stands. -/
structure IsBefore (mark text start : List Char) : Prop where
  stands : start ++ mark <+: text
  first : ∀ start', start' ++ mark <+: text → start.length ≤ start'.length

/-- `before?` gives what stands before the first occurrence of a mark. -/
theorem before?_eq_some_iff {mark : List Char} (hmark : mark ≠ []) {text start : List Char} :
    before? mark text = some start ↔ IsBefore mark text start := by
  induction text generalizing start with
  | nil =>
    rw [before?, if_neg (by simpa using hmark)]
    refine iff_of_false (Option.some_ne_none start).symm fun h => hmark ?_
    exact (List.append_eq_nil_iff.1 (List.prefix_nil.1 h.stands)).2
  | cons c rest ih =>
    rw [before?]
    by_cases hstart : mark.isPrefixOf (c :: rest) = true
    · rw [if_pos hstart, Option.some.injEq]
      have hfirst : [] ++ mark <+: c :: rest := List.isPrefixOf_iff_prefix.1 hstart
      constructor
      · rintro rfl
        exact ⟨hfirst, fun _ _ => Nat.zero_le _⟩
      · intro h
        exact (List.eq_nil_of_length_eq_zero (Nat.le_zero.1 (h.first [] hfirst))).symm
    · rw [if_neg hstart, Option.map_eq_some_iff]
      -- No mark stands at the first character, so that it belongs to what is before one.
      have hlater : ∀ {start'}, start' ++ mark <+: c :: rest →
          ∃ tail, start' = c :: tail ∧ tail ++ mark <+: rest := by
        intro start' h
        cases start' with
        | nil => exact absurd (List.isPrefixOf_iff_prefix.2 h) hstart
        | cons d tail =>
          obtain ⟨rfl, htail⟩ := List.cons_prefix_cons.1 h
          exact ⟨tail, rfl, htail⟩
      constructor
      · rintro ⟨tail, htail, rfl⟩
        have h := ih.1 htail
        refine ⟨(List.prefix_cons_inj c).2 h.stands, fun start' hstart' => ?_⟩
        obtain ⟨tail', rfl, htail'⟩ := hlater hstart'
        exact Nat.succ_le_succ (h.first tail' htail')
      · intro h
        obtain ⟨tail, rfl, htail⟩ := hlater h.stands
        refine ⟨tail, ih.2 ⟨htail, fun start' hstart' => ?_⟩, rfl⟩
        exact Nat.le_of_succ_le_succ (h.first (c :: start') ((List.prefix_cons_inj c).2 hstart'))

/-! ## Ends of a text -/

section Strip

variable {p : Char → Bool} {text : List Char}

/-- No character to strip is left at either end of the text. -/
structure IsStripped (p : Char → Bool) (text : List Char) : Prop where
  head : ∀ c ∈ text.head?, p c = false
  last : ∀ c ∈ text.getLast?, p c = false

/-- What is left after dropping characters does not start with one of them. -/
theorem not_of_mem_head?_dropWhile (p : Char → Bool) (text : List Char) :
    ∀ c ∈ (text.dropWhile p).head?, p c = false := by
  intro c hc
  have h := List.head?_dropWhile_not p text
  rw [hc] at h
  exact h

/-- A stripped text neither starts nor ends with a character to be stripped. -/
theorem isStripped_stripWhile (p : Char → Bool) (text : List Char) :
    IsStripped p (stripWhile p text) := by
  constructor
  · -- What is stripped from the end of a text leaves its first character where it is.
    intro c hc
    have hfirst : stripWhile p text <+: text.dropWhile p := by
      rw [← List.reverse_suffix, stripWhile, List.reverse_reverse]
      exact List.dropWhile_suffix p
    obtain ⟨rest, hrest⟩ := hfirst
    refine not_of_mem_head?_dropWhile p text c ?_
    rw [← hrest, List.head?_append, hc]
    rfl
  · intro c hc
    rw [stripWhile, List.getLast?_reverse] at hc
    exact not_of_mem_head?_dropWhile p _ c hc

/-- What is stripped are two runs of characters to strip. -/
theorem exists_stripped (p : Char → Bool) (text : List Char) :
    ∃ before after, text = before ++ stripWhile p text ++ after ∧
      (∀ c ∈ before, p c = true) ∧ ∀ c ∈ after, p c = true := by
  refine ⟨text.takeWhile p, ((text.dropWhile p).reverse.takeWhile p).reverse, ?_, ?_, ?_⟩
  · rw [stripWhile, List.append_assoc, ← List.reverse_append, List.takeWhile_append_dropWhile,
      List.reverse_reverse, List.takeWhile_append_dropWhile]
  · exact fun c hc => List.mem_takeWhile_imp hc
  · exact fun c hc => List.mem_takeWhile_imp (List.mem_reverse.1 hc)

/-- Stripping takes away what surrounds a stripped text. -/
theorem stripWhile_append {before after : List Char} (hbefore : ∀ c ∈ before, p c = true)
    (hafter : ∀ c ∈ after, p c = true) (h : IsStripped p text) :
    stripWhile p (before ++ text ++ after) = text := by
  have hdrop : ∀ {run rest : List Char}, (∀ c ∈ run, p c = true) →
      (run ++ rest).dropWhile p = rest.dropWhile p := fun hrun => List.dropWhile_append_of_pos hrun
  cases text with
  | nil =>
    rw [stripWhile, List.append_nil, hdrop hbefore, ← List.append_nil after, hdrop hafter]
    rfl
  | cons c rest =>
    have hstart : (c :: rest ++ after).dropWhile p = c :: rest ++ after :=
      List.dropWhile_cons_of_neg (by simp [h.head c rfl])
    have hend : (after.reverse ++ (c :: rest).reverse).dropWhile p =
        ((c :: rest).reverse).dropWhile p := hdrop (by simpa using hafter)
    rw [stripWhile, List.append_assoc, hdrop hbefore, hstart, List.reverse_append, hend]
    have hself := stripWhile_eq_self h.head h.last
    rwa [stripWhile, List.dropWhile_cons_of_neg (by simp [h.head c rfl])] at hself

/-- A text is stripped to what stands between two runs of characters to strip. -/
theorem stripWhile_eq_iff {stripped : List Char} :
    stripWhile p text = stripped ↔ IsStripped p stripped ∧ ∃ before after,
      text = before ++ stripped ++ after ∧ (∀ c ∈ before, p c = true) ∧
        ∀ c ∈ after, p c = true := by
  constructor
  · rintro rfl
    exact ⟨isStripped_stripWhile p text, exists_stripped p text⟩
  · rintro ⟨hstripped, before, after, rfl, hbefore, hafter⟩
    exact stripWhile_append hbefore hafter hstripped

end Strip

/-! ## Fields -/

/-- The line is made of the fields, which hold no separator, with a run of separators between two of
them. -/
inductive IsSplit : (line : List Char) → (fields : List (List Char)) → Prop where
  | last {field : List Char} (hfield : ∀ c ∈ field, isSeparator c = false) :
      IsSplit field [field]
  | cons {field run rest : List Char} {fields : List (List Char)}
      (hfield : ∀ c ∈ field, isSeparator c = false) (hrun : run ≠ [])
      (hseparators : ∀ c ∈ run, isSeparator c = true)
      (hnext : ∀ c ∈ rest.head?, isSeparator c = false) (hrest : IsSplit rest fields) :
      IsSplit (field ++ run ++ rest) (field :: fields)

section Split

variable {line field : List Char} {fields : List (List Char)} {c : Char}

/-- A run of separators ends an empty field. -/
theorem splitFields_run {run rest : List Char} (hrun : run ≠ [])
    (hseparators : ∀ c ∈ run, isSeparator c = true)
    (hnext : ∀ c ∈ rest.head?, isSeparator c = false) :
    splitFields (run ++ rest) = [] :: splitFields rest := by
  -- The last separator of the run ends the empty field, and those before it extend the run.
  induction run with
  | nil => exact absurd rfl hrun
  | cons c run ih =>
    have hc : isSeparator c = true := hseparators c List.mem_cons_self
    cases run with
    | nil =>
      obtain ⟨fields, hfields, -⟩ := splitFields_eq_cons rest
      have hlast : rest.head?.any isSeparator = false := by
        cases rest with
        | nil => rfl
        | cons d tail => exact hnext d rfl
      rw [List.singleton_append, splitFields_cons_separator hc hfields, hlast, hfields]
      rfl
    | cons d run =>
      have hrest := ih (List.cons_ne_nil d run) fun e he =>
        hseparators e (List.mem_cons_of_mem c he)
      have hd : isSeparator d = true := hseparators d (by simp)
      rw [List.cons_append, splitFields_cons_separator hc hrest]
      simp [hd]

/-- A line is split into the fields that it is composed of. -/
theorem IsSplit.splitFields_eq (h : IsSplit line fields) : splitFields line = fields := by
  induction h with
  | last hfield => exact splitFields_eq_singleton hfield
  | @cons field run rest fields hfield hrun hseparators hnext _ ih =>
    induction field with
    | nil => rw [List.nil_append, splitFields_run hrun hseparators hnext, ih]
    | cons c field ihfield =>
      have hc : isSeparator c = false := hfield c List.mem_cons_self
      exact splitFields_cons hc (ihfield fun d hd => hfield d (List.mem_cons_of_mem c hd))

/-- A character that separates nothing belongs to the first field. -/
theorem IsSplit.cons_char (hc : isSeparator c = false) (h : IsSplit line (field :: fields)) :
    IsSplit (c :: line) ((c :: field) :: fields) := by
  cases h with
  | last hfield => exact .last (List.forall_mem_cons.2 ⟨hc, hfield⟩)
  | cons hfield hrun hseparators hnext hrest =>
    exact .cons (List.forall_mem_cons.2 ⟨hc, hfield⟩) hrun hseparators hnext hrest

/-- One more separator before others changes nothing. -/
theorem IsSplit.cons_run (hc : isSeparator c = true) (h : IsSplit line fields)
    (hline : ∃ d ∈ line.head?, isSeparator d = true) : IsSplit (c :: line) fields := by
  obtain ⟨d, hd, hseparator⟩ := hline
  cases h with
  | last hfield =>
    have hnone := hfield d (List.mem_of_mem_head? hd)
    rw [hseparator] at hnone
    cases hnone
  | @cons field run rest fields hfield hrun hseparators hnext hrest =>
    -- The line starts with a separator, so that its first field is empty.
    cases field with
    | nil =>
      have hcons : c :: ([] ++ run ++ rest) = [] ++ c :: run ++ rest := rfl
      rw [hcons]
      exact .cons (by simp) (List.cons_ne_nil c run)
        (List.forall_mem_cons.2 ⟨hc, hseparators⟩) hnext hrest
    | cons e field =>
      obtain rfl : e = d := Option.some.inj hd
      have hnone := hfield e List.mem_cons_self
      rw [hseparator] at hnone
      cases hnone

/-- Every line is composed of the fields that it is split into. -/
theorem isSplit_splitFields (line : List Char) : IsSplit line (splitFields line) := by
  induction line with
  | nil => exact .last (by simp)
  | cons c rest ih =>
    obtain ⟨fields, hfields, -⟩ := splitFields_eq_cons rest
    rw [hfields] at ih
    -- A separator extends the run behind it, or starts one; any other character belongs to the
    -- first field.
    by_cases hc : isSeparator c = true
    · rw [splitFields_cons_separator hc hfields]
      split
      · rename_i hnext
        refine ih.cons_run hc ?_
        simpa [Option.any_eq_true] using hnext
      · rename_i hnext
        have hrest : ∀ d ∈ rest.head?, isSeparator d = false := by
          intro d hd
          rw [Option.mem_def.1 hd] at hnext
          simpa using hnext
        exact @IsSplit.cons [] [c] rest _ (by simp) (List.cons_ne_nil c []) (by simpa using hc)
          hrest ih
    · have hc : isSeparator c = false := by simpa using hc
      rw [splitFields_cons hc hfields]
      exact ih.cons_char hc

/-- A line is split into the fields that it is made of. -/
theorem splitFields_eq_iff : splitFields line = fields ↔ IsSplit line fields :=
  ⟨fun h => h ▸ isSplit_splitFields line, IsSplit.splitFields_eq⟩

/-- A separator is one of the characters that are trimmed. -/
theorem isBlank_of_isSeparator (h : isSeparator c = true) : isBlank c = true := by
  simp only [isSeparator, Bool.or_eq_true, decide_eq_true_eq] at h
  rcases h with ((((rfl | rfl) | rfl) | rfl) | rfl) | rfl <;> rfl

/-- A trimmed line neither starts nor ends with a separator. -/
theorem IsStripped.of_isBlank (h : IsStripped isBlank line) : IsStripped isSeparator line := by
  have himp : ∀ {c}, isBlank c = false → isSeparator c = false := by
    intro c hc
    rw [← Bool.not_eq_true] at hc ⊢
    exact mt isBlank_of_isSeparator hc
  exact ⟨fun c hc => himp (h.head c hc), fun c hc => himp (h.last c hc)⟩

/-- A line does not start with a separator if it starts with a field that is not empty. -/
theorem not_isSeparator_head?_append (hne : field ≠ [])
    (hfield : ∀ c ∈ field, isSeparator c = false) (rest : List Char) :
    ∀ c ∈ (field ++ rest).head?, isSeparator c = false := by
  intro c hc
  rw [List.head?_append_of_ne_nil _ hne] at hc
  exact hfield c (List.mem_of_mem_head? hc)

/-- No field is empty of a line that neither starts nor ends with a separator. -/
theorem IsSplit.forall_ne_nil (h : IsSplit line fields) (hline : IsStripped isSeparator line)
    (hne : line ≠ []) : ∀ f ∈ fields, f ≠ [] := by
  induction h with
  | last hfield => simpa using hne
  | @cons field run rest fields hfield hrun hseparators hnext _ ih =>
    obtain ⟨c, run, rfl⟩ := List.exists_cons_of_ne_nil hrun
    have hnonempty : field ≠ [] := by
      rintro rfl
      cases (hline.head c rfl).symm.trans (hseparators c List.mem_cons_self)
    have hlast : ∀ c ∈ rest.getLast?, isSeparator c = false := by
      intro c hc
      exact hline.last c (by rw [List.getLast?_append, hc]; rfl)
    -- A run at the end of the line would leave a separator there.
    have hrest : rest ≠ [] := by
      rintro rfl
      have hlast? := List.getLast?_eq_some_getLast hrun
      have hend := hline.last _ (by rw [List.append_nil, List.getLast?_append, hlast?]; rfl)
      cases hend.symm.trans (hseparators _ (List.getLast_mem hrun))
    exact List.forall_mem_cons.2 ⟨hnonempty, ih ⟨hnext, hlast⟩ hrest⟩

/-- Four fields with a run of separators between two of them. -/
def fourFields (f₁ s₁ f₂ s₂ f₃ s₃ f₄ : List Char) : List Char :=
  f₁ ++ s₁ ++ (f₂ ++ s₂ ++ (f₃ ++ s₃ ++ f₄))

variable {f₁ f₂ f₃ f₄ : List Char}

/-- A line of four fields starts as its first field does. -/
theorem head?_fourFields (hne : f₁ ≠ []) (s₁ f₂ s₂ f₃ s₃ f₄ : List Char) :
    (fourFields f₁ s₁ f₂ s₂ f₃ s₃ f₄).head? = f₁.head? := by
  rw [fourFields, List.append_assoc, List.head?_append_of_ne_nil _ hne]

/-- A line of four fields ends as its last field does. -/
theorem getLast?_fourFields (hne : f₄ ≠ []) (f₁ s₁ f₂ s₂ f₃ s₃ : List Char) :
    (fourFields f₁ s₁ f₂ s₂ f₃ s₃ f₄).getLast? = f₄.getLast? := by
  simp only [fourFields, ← List.append_assoc]
  exact List.getLast?_append_of_ne_nil _ hne

/-- A line that neither starts nor ends with a separator has four fields if it is made of them, and
then none is empty. -/
theorem isSplit_four_iff (hline : IsStripped isSeparator line) :
    IsSplit line [f₁, f₂, f₃, f₄] ↔
      ∃ s₁ s₂ s₃, line = fourFields f₁ s₁ f₂ s₂ f₃ s₃ f₄ ∧
        (∀ s ∈ [s₁, s₂, s₃], s ≠ [] ∧ ∀ c ∈ s, isSeparator c = true) ∧
        ∀ f ∈ [f₁, f₂, f₃, f₄], f ≠ [] ∧ ∀ c ∈ f, isSeparator c = false := by
  constructor
  · intro h
    have hne : line ≠ [] := by
      rintro rfl
      cases h.splitFields_eq
    have hnonempty := h.forall_ne_nil hline hne
    have hfields : ∀ f ∈ [f₁, f₂, f₃, f₄], ∀ c ∈ f, isSeparator c = false := fun f hf =>
      not_isSeparator_of_mem_splitFields (h.splitFields_eq ▸ hf)
    -- Three runs of separators are read off, and the fourth field is the last one.
    cases h with | @cons _ s₁ _ _ _ hne₁ hs₁ _ h =>
    cases h with | @cons _ s₂ _ _ _ hne₂ hs₂ _ h =>
    cases h with | @cons _ s₃ _ _ _ hne₃ hs₃ _ h =>
    cases h with
    | cons _ _ _ _ h => cases h
    | last =>
      refine ⟨s₁, s₂, s₃, rfl, ?_, fun f hf => ⟨hnonempty f hf, hfields f hf⟩⟩
      simpa using ⟨⟨hne₁, hs₁⟩, ⟨hne₂, hs₂⟩, hne₃, hs₃⟩
  · rintro ⟨s₁, s₂, s₃, rfl, hruns, hfields⟩
    simp only [List.forall_mem_cons] at hruns hfields
    obtain ⟨⟨hne₁, hs₁⟩, ⟨hne₂, hs₂⟩, ⟨hne₃, hs₃⟩, -⟩ := hruns
    obtain ⟨⟨-, h₁⟩, ⟨hf₂, h₂⟩, ⟨hf₃, h₃⟩, ⟨hf₄, h₄⟩, -⟩ := hfields
    have hthird : IsSplit (f₃ ++ s₃ ++ f₄) [f₃, f₄] :=
      .cons h₃ hne₃ hs₃ (fun c hc => h₄ c (List.mem_of_mem_head? hc)) (.last h₄)
    have hsecond : IsSplit (f₂ ++ s₂ ++ (f₃ ++ s₃ ++ f₄)) [f₂, f₃, f₄] := by
      refine .cons h₂ hne₂ hs₂ ?_ hthird
      rw [List.append_assoc]
      exact not_isSeparator_head?_append hf₃ h₃ _
    refine .cons h₁ hne₁ hs₁ ?_ hsecond
    rw [List.append_assoc]
    exact not_isSeparator_head?_append hf₂ h₂ _

end Split

end PhoneticCatalog.Text
