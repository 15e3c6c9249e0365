import PhoneticCatalog.Proofs.Text.Line

/-!
# Lines with terminators of all kinds

A text is written from lines by ending each of them with some terminator; behind the last line there
may be none (`IsWritten`). The lines of the written text are the ones that it was written from,
except for empty lines (`filter_splitLines`). An empty line can get lost in two places: at the end,
where no terminator shows it, and between a carriage return and a line feed, which are one
terminator when nothing stands between them.
-/

namespace PhoneticCatalog.Text

/-- What ends a line. -/
inductive Terminator where
  | returnFeed
  | feed
  | carriageReturn
  | nextLine
  | lineSeparator
  | paragraphSeparator
  deriving DecidableEq, Repr

/-- The characters of a terminator. -/
def Terminator.text : Terminator → List Char
  | returnFeed => ['\r', '\n']
  | feed => ['\n']
  | carriageReturn => ['\r']
  | nextLine => ['\u0085']
  | lineSeparator => ['\u2028']
  | paragraphSeparator => ['\u2029']

/-- The text is written from the lines. Each line is ended by a terminator of any kind, which may be
missing behind the last one. -/
inductive IsWritten : List (List Char) → List Char → Prop where
  | nothing : IsWritten [] []
  | unended (line : List Char) : IsWritten [line] line
  | ended (line : List Char) (t : Terminator) {lines : List (List Char)} {text : List Char}
      (rest : IsWritten lines text) : IsWritten (line :: lines) (line ++ t.text ++ text)

/-- Lines with line feeds between them. -/
theorem isWritten_intercalate (lines : List (List Char)) :
    IsWritten lines (['\n'].intercalate lines) := by
  induction lines with
  | nil => exact .nothing
  | cons line rest ih =>
    cases rest with
    | nil =>
      rw [List.intercalate_singleton]
      exact .unended line
    | cons next others =>
      rw [List.intercalate_cons_cons]
      exact ih.ended line .feed

/-! ## Reading the lines back -/

/-- Characters that are no terminators belong to the first piece. -/
theorem splitPieces_line {line : List Char} (hline : ∀ c ∈ line, isTerminator c = false)
    {rest piece : List Char} {pieces : List (List Char)} (h : splitPieces rest = piece :: pieces) :
    splitPieces (line ++ rest) = (line ++ piece) :: pieces := by
  induction line with
  | nil => exact h
  | cons c line ih =>
    have hc : isTerminator c = false := hline c List.mem_cons_self
    obtain ⟨first, others, hfirst, hcons⟩ := splitPieces_cons hc (line ++ rest)
    rw [ih fun d hd => hline d (List.mem_cons_of_mem c hd)] at hfirst
    obtain ⟨rfl, rfl⟩ := List.cons.inj hfirst
    exact hcons

/-- A line feed ends a piece by itself. -/
theorem splitPieces_feed (rest : List Char) : splitPieces ('\n' :: rest) = [] :: splitPieces rest :=
  splitPieces_terminator rfl fun _ h => absurd h (by decide)

/-- A terminator ends a piece. A carriage return takes up a line feed that follows, which would
otherwise end an empty piece of its own. -/
theorem splitPieces_terminator_append (t : Terminator) (rest : List Char) :
    splitPieces (t.text ++ rest) = [] :: splitPieces rest ∨
      ∃ rest', rest = '\n' :: rest' ∧ splitPieces (t.text ++ rest) = [] :: splitPieces rest' := by
  cases t with
  | returnFeed => exact Or.inl (splitPieces.eq_2 rest)
  | carriageReturn =>
    by_cases hrest : ∃ rest', rest = '\n' :: rest'
    · obtain ⟨rest', rfl⟩ := hrest
      exact Or.inr ⟨rest', rfl, splitPieces.eq_2 rest'⟩
    · exact Or.inl (splitPieces_terminator rfl fun rest' _ h => hrest ⟨rest', h⟩)
  | feed => exact Or.inl (splitPieces_feed rest)
  | nextLine | lineSeparator | paragraphSeparator =>
    exact Or.inl (splitPieces_terminator rfl fun _ h => absurd h (by decide))

/-- A line without a terminator is the only one. -/
theorem splitLines_unended {line : List Char} (hline : ∀ c ∈ line, isTerminator c = false) :
    splitLines line = if line.isEmpty then [] else [line] := by
  have hpieces := splitPieces_line hline splitPieces.eq_1
  rw [List.append_nil] at hpieces
  rw [splitLines, hpieces, dropFinalEmpty]

/-- A line with its terminator comes before the lines of the rest. -/
theorem splitLines_ended {line : List Char} (hline : ∀ c ∈ line, isTerminator c = false)
    (t : Terminator) (rest : List Char) :
    ∃ lines, splitLines (line ++ t.text ++ rest) = line :: lines ∧
      (lines = splitLines rest ∨ splitLines rest = [] :: lines) := by
  have hfirst : ∀ after, splitPieces (t.text ++ rest) = [] :: splitPieces after →
      splitLines (line ++ t.text ++ rest) = line :: splitLines after := by
    intro after hafter
    obtain ⟨next, others, hnext⟩ := List.exists_cons_of_ne_nil (splitPieces_ne_nil after)
    rw [splitLines, List.append_assoc, splitPieces_line hline hafter, List.append_nil, hnext,
      dropFinalEmpty, ← hnext, splitLines]
  rcases splitPieces_terminator_append t rest with hafter | ⟨rest', rfl, hafter⟩
  · exact ⟨splitLines rest, hfirst rest hafter, Or.inl rfl⟩
  · have hempty : ∀ c ∈ ([] : List Char), isTerminator c = false := fun _ hc => absurd hc (by simp)
    exact ⟨splitLines rest', hfirst rest' hafter, Or.inr (splitLines_append hempty rest')⟩

/-- The lines of a text are those that it was written from, empty ones aside. -/
theorem filter_splitLines {lines : List (List Char)} {text : List Char} (h : IsWritten lines text)
    (hlines : ∀ line ∈ lines, ∀ c ∈ line, isTerminator c = false) :
    (splitLines text).filter (!·.isEmpty) = lines.filter (!·.isEmpty) := by
  induction h with
  | nothing => rfl
  | unended line =>
    rw [splitLines_unended (hlines line List.mem_cons_self)]
    cases line <;> rfl
  | @ended line t lines text h ih =>
    obtain ⟨others, hsplit, hothers⟩ :=
      splitLines_ended (hlines line List.mem_cons_self) t text
    have hrest : others.filter (!·.isEmpty) = lines.filter (!·.isEmpty) := by
      rw [← ih fun other hother => hlines other (List.mem_cons_of_mem line hother)]
      -- A last empty line is lost, but it does not count here.
      rcases hothers with rfl | hlost
      · rfl
      · rw [hlost]
        rfl
    rw [hsplit, List.filter_cons, List.filter_cons, hrest]

end PhoneticCatalog.Text
