import PhoneticCatalog.Proofs.Inclusion.Content

/-!
# Reading lines

A line takes one of a few roles: it belongs to a block comment, or it holds something by itself
(`lineRole`). All that it has to be told of the lines before is whether they leave a block comment
open. `Loader.readAs` is the walk of a line in its role, and the steps of some lines are carried out
by reading them one after the other (`Loader.runSteps_lines`).
-/

namespace PhoneticCatalog.Catalog

/-- The line belongs to a block comment: one is open, or the line opens one. -/
def inComment (inBlock : Bool) (raw : List Char) : Bool :=
  inBlock || Text.startsWith raw blockStart

/-- The role of a line: none if it belongs to a block comment, and what it holds otherwise. -/
def lineRole (inBlock : Bool) (raw : List Char) : Option LineContent :=
  if inComment inBlock raw then none else some (.ofLine raw)

/-- A line in a block comment has no role. -/
theorem lineRole_of_inComment {inBlock : Bool} {raw : List Char}
    (h : inComment inBlock raw = true) : lineRole inBlock raw = none := if_pos h

/-- A line outside of block comments is read by itself. -/
theorem lineRole_of_not_inComment {inBlock : Bool} {raw : List Char}
    (h : inComment inBlock raw = false) : lineRole inBlock raw = some (.ofLine raw) :=
  if_neg (Bool.not_eq_true _ ▸ h)

/-! ## Steps of lines -/

/-- A single line is a comment, or has the steps of its content. -/
theorem linesSteps_singleton (catalog : List Char) (inBlock : Bool) (number : Nat)
    (raw : List Char) :
    linesSteps catalog inBlock number [raw] =
      if inComment inBlock raw then [.tally 1 1] else lineSteps catalog number raw := by
  rw [inComment]
  cases inBlock with
  | true => rfl
  | false =>
    cases h : Text.startsWith raw blockStart <;> rw [linesSteps, h]
    · exact List.append_nil _
    · rfl

/-- The steps of the first line are followed by those of the others, which are told whether a block
comment is open now. -/
theorem linesSteps_cons (catalog : List Char) (inBlock : Bool) (number : Nat) (raw : List Char)
    (rest : List (List Char)) :
    linesSteps catalog inBlock number (raw :: rest) =
      linesSteps catalog inBlock number [raw]
        ++ linesSteps catalog (blockAfter inBlock raw) (number + 1) rest := by
  rw [linesSteps_singleton, blockAfter, inComment]
  cases inBlock with
  | true => rfl
  | false => cases h : Text.startsWith raw blockStart <;> rw [linesSteps, h] <;> rfl

/-! ## Walks of lines -/

namespace Loader

variable (L : Loader Rule) (splice : List Char → Walk (List Rule)) (catalog : List Char)

/-- Reads a numbered line in its role, where `splice` reads an included catalog. -/
def readAs (number : Nat) (raw : List Char) : Option LineContent → Walk (List Rule)
  | none => ⟨{ counters := { lines := 1, comments := 1 } }, .ok []⟩
  | some (.blank commented) =>
    ⟨{ counters := { lines := 1, comments := if commented then 1 else 0 } }, .ok []⟩
  | some (.include name) => do
    Walk.leave { counters := { lines := 1, includes := 1 } }
    splice name
  | some (.malformed problem) =>
    let d : Diagnostic := ⟨catalog, number, problem, raw⟩
    ⟨{ diagnostics := [d], counters := { lines := 1 }, events := [.lineSkipped L.format.kind d] },
      .ok []⟩
  | some (.rule pattern left right phoneme) =>
    ⟨{ counters := { lines := 1 } },
      match Rule.ofFields { pattern, left, right, phoneme } with
      | .ok r => .ok [r]
      | .error e => .error (.ofContext catalog (.line number) e)⟩

/-- Reads the lines from a number on, inside or outside of a block comment, each of them in its
role. -/
def readLines : (inBlock : Bool) → (number : Nat) → List (List Char) → Walk (List Rule)
  | _, _, [] => pure []
  | inBlock, number, raw :: rest => do
    let own ← L.readAs splice catalog number raw (lineRole inBlock raw)
    let others ← readLines (blockAfter inBlock raw) (number + 1) rest
    return own ++ others

variable {L splice catalog}

/-- Lines in two parts are read one part after the other. -/
theorem readLines_append (before after : List (List Char)) (inBlock : Bool) (number : Nat) :
    L.readLines splice catalog inBlock number (before ++ after) = do
      let first ← L.readLines splice catalog inBlock number before
      let others ← L.readLines splice catalog (before.foldl blockAfter inBlock)
        (number + before.length) after
      return first ++ others := by
  induction before generalizing inBlock number with
  | nil => simp [readLines]
  | cons raw rest ih =>
    have hnumber : number + 1 + rest.length = number + (rest.length + 1) := by omega
    rw [List.cons_append, readLines, readLines, ih]
    simp only [bind_assoc, pure_bind, List.append_assoc, List.foldl_cons, List.length_cons, hnumber]

/-- The steps of a line read it in its role. -/
theorem runSteps_line (inBlock : Bool) (number : Nat) (raw : List Char) :
    L.runSteps splice (linesSteps catalog inBlock number [raw]) =
      L.readAs splice catalog number raw (lineRole inBlock raw) := by
  rw [linesSteps_singleton, lineRole]
  split
  · rfl
  · rw [lineSteps]
    rcases LineContent.ofLine raw with commented | name | ⟨pattern, left, right, phoneme⟩ | problem
    · rfl
    · simp only [runSteps, readAs, Walk.leave_bind, bind_pure, List.append_nil, pure_bind]
      rw [← Trace.append_assoc]
      rfl
    · simp only [Step.ofFields, readAs]
      cases Rule.ofFields { pattern, left, right, phoneme } <;> rfl
    · rfl

/-- The steps of some lines read them, one after the other. -/
theorem runSteps_lines (inBlock : Bool) (number : Nat) (lines : List (List Char)) :
    L.runSteps splice (linesSteps catalog inBlock number lines) =
      L.readLines splice catalog inBlock number lines := by
  induction lines generalizing inBlock number with
  | nil => rw [linesSteps, readLines, runSteps]
  | cons raw rest ih => rw [linesSteps_cons, runSteps_append, runSteps_line, ih, readLines]

/-- The steps of a text read its lines. -/
theorem runSteps_text (text : List Char) :
    L.runSteps splice (textSteps catalog text) =
      L.readLines splice catalog false 1 (Text.splitLines text) :=
  runSteps_lines false 1 _

end Loader

end PhoneticCatalog.Catalog
