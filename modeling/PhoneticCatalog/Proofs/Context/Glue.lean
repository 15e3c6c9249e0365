import PhoneticCatalog.Proofs.Context.Sequences

/-!
# Signs glued to an expression

A text that is read as one sequence of pieces (`IsSequence`) is still read as these pieces where a
sign for the end of the text is put behind it, or one for the start before it: the sign is one more
piece (`body_of_endSign`, `body_of_startSign`). Neither holds for alternatives, of which the sign
joins only one, and the sign for the end is lost in a comment of a verbose expression.
-/

namespace PhoneticCatalog.Context

open Reader

/-- The text is read as one sequence of pieces, without alternatives outside of groups, and sets
switches for the whole expression. -/
def IsSequence (text : List Char) (ps : List Piece) (flags : List Flag) : Prop :=
  ∃ st, (sequence (4 * text.length + 3) [] true []).run (.initial text) = .ok (ps, st) ∧
    st.cursor.rest = [] ∧ st.flags = flags

variable {text : List Char} {s : Search}

/-- A check that fails was passed by a reading that succeeds. -/
theorem Reader.run_of_unless {α β : Type} {c : Prop} [Decidable c] {m : Reader α} (hm : Fails m)
    {f : α → Reader β} {n : Reader β} {st st' : ReadState} {b : β}
    (h : (if c then m >>= f else n).run st = .ok (b, st')) :
    ¬ c ∧ n.run st = .ok (b, st') := by
  by_cases hc : c
  · rw [if_pos hc] at h
    exact absurd h (hm.bind f _ _ _)
  · rw [if_neg hc] at h
    exact ⟨hc, h⟩

/-- An expression is what its alternatives are, under the switches that they set. -/
theorem Reader.run_whole {st st' : ReadState} (h : whole.run st = .ok (s, st')) :
    st.cursor.rest ≠ ['\\'] ∧ ∃ ps mid,
      (alternatives (4 * st.cursor.rest.length + 4) [] true).run st = .ok (ps, mid) ∧
      s = ⟨Piece.sequence mid.flags ps, alphabetOf mid.flags⟩ := by
  -- First comes the check of the last backslash, then the reading, and what is checked behind it.
  obtain ⟨_, _, hget, h⟩ := exists_of_bind h
  cases hget
  obtain ⟨_, _, hmove, h⟩ := exists_of_bind h
  obtain ⟨hchecked, rfl⟩ := run_moveTo hmove
  obtain ⟨_, _, hget, h⟩ := exists_of_bind h
  cases hget
  obtain ⟨ps, mid, halternatives, h⟩ := exists_of_bind h
  refine ⟨hchecked, ps, mid, halternatives, ?_⟩
  obtain ⟨_, _, hget, h⟩ := exists_of_bind h
  cases hget
  obtain ⟨-, h⟩ := run_of_unless (.throw _) h
  obtain ⟨_, _, -, h⟩ := exists_of_bind h
  obtain ⟨-, h⟩ := run_of_unless (.fail _) h
  obtain ⟨_, _, -, h⟩ := exists_of_bind h
  dsimp only at h
  split at h
  · cases h
  · cases h
    rfl

/-- An expression starts with a sequence, and is no more than that if nothing is left over. -/
theorem exists_sequence_of_read (h : Search.read text = .ok s) :
    text ≠ ['\\'] ∧ ∃ ps st,
      (sequence (4 * text.length + 3) [] true []).run (.initial text) = .ok (ps, st) ∧
      (st.cursor.rest = [] → s.body = Piece.sequence st.flags ps) := by
  obtain ⟨last, hrun⟩ := exists_run_of_read h
  obtain ⟨hchecked, qs, mid, halternatives, rfl⟩ := run_whole hrun
  refine ⟨hchecked, ?_⟩
  obtain ⟨ps, st, hsequence, halternatives⟩ := exists_of_bind halternatives
  refine ⟨ps, st, hsequence, fun hrest => ?_⟩
  obtain ⟨_, _, hget, halternatives⟩ := exists_of_bind halternatives
  cases hget
  obtain ⟨more, _, hmore, halternatives⟩ := exists_of_bind halternatives
  obtain ⟨rfl, rfl⟩ := moreAlternatives_of_end hrest hmore
  cases halternatives
  rfl

/-- The expression of a text that is one sequence. -/
theorem IsSequence.body_eq {ps : List Piece} {flags : List Flag} (hseq : IsSequence text ps flags)
    (h : Search.read text = .ok s) : s.body = Piece.sequence flags ps := by
  obtain ⟨st, hrun, hrest, rfl⟩ := hseq
  obtain ⟨-, qs, st', hrun', hbody⟩ := exists_sequence_of_read h
  obtain ⟨rfl, rfl⟩ := Prod.mk.inj (Except.ok.inj (hrun.symm.trans hrun'))
  exact hbody hrest

/-- The sign for the end of a text behind a sequence is one more piece, unless it may be part of a
comment. -/
theorem IsSequence.body_of_endSign {ps : List Piece} {flags : List Flag}
    (hseq : IsSequence text ps flags) (hverbose : .verbose ∉ flags) (htext : text ≠ ['\\'])
    (h : Search.read (text ++ ['$']) = .ok s) :
    s.body = Piece.sequence flags (ps ++ [.textEnd]) := by
  obtain ⟨st, hrun, hrest, rfl⟩ := hseq
  obtain ⟨-, qs, st', hrun', hbody⟩ := exists_sequence_of_read h
  have haligned : Aligned ['$'] [] (.initial text) (.initial (text ++ ['$'])) :=
    ⟨Or.inr rfl, rfl, htext, rfl, rfl, rfl, rfl⟩
  have hends : SequenceEnds ['$'] [] [] true [] ps qs st st' :=
    (fuelAgrees _ _).sequence _ _ haligned _ _ _ _ hrun hrun'
  obtain ⟨F, -, -, ⟨hmore, -⟩ | ⟨-, hend, rfl, hflags, hpieces⟩⟩ := hends
  · exact absurd hrest hmore
  · rw [hbody hend, hflags, hpieces List.not_mem_nil hverbose]
    rfl

/-- A sequence takes the sign for the start of a text as a piece. -/
theorem Reader.sequence_of_startSign {fuel : Nat} {first : Bool} {terms : List Term}
    {st st' : ReadState} {rest : List Char} {ps : List Piece} (hrest : st.cursor.rest = '^' :: rest)
    (h : (sequence (fuel + 1) [] first terms).run st = .ok (ps, st')) :
    (sequence fuel [] first (.piece .textStart :: terms)).run
      { st with cursor := st.cursor.advance 1 } = .ok (ps, st') := by
  have htoken : st.cursor.token = .plain '^' := by
    unfold Cursor.token
    rw [hrest]
    cases rest <;> rfl
  obtain ⟨_, _, hpeek, h⟩ := exists_of_bind h
  cases hpeek
  rw [htoken] at h
  obtain ⟨_, _, hposition, h⟩ := exists_of_bind h
  cases hposition
  obtain ⟨_, mid, htake, h⟩ := exists_of_bind h
  obtain ⟨rfl, hmove⟩ := run_take htake
  obtain ⟨-, rfl⟩ := run_moveTo hmove
  rw [htoken] at h
  exact h

/-- The sign for the start of a text before a sequence is one more piece. -/
theorem IsSequence.body_of_startSign {ps : List Piece} {flags : List Flag}
    (hseq : IsSequence text ps flags) (htext : text ≠ ['\\'])
    (h : Search.read ('^' :: text) = .ok s) :
    flags = [] ∧ s.body = Piece.sequence [] (.textStart :: ps) := by
  obtain ⟨st, hrun, hrest, rfl⟩ := hseq
  obtain ⟨-, qs, st', hrun', hbody⟩ := exists_sequence_of_read h
  have hrun' := sequence_of_startSign rfl hrun'
  have haligned : Aligned [] [] (.initial text)
      { ReadState.initial ('^' :: text) with
        cursor := (ReadState.initial ('^' :: text)).cursor.advance 1 } :=
    ⟨Or.inl rfl, (List.append_nil _).symm, htext, rfl, rfl, rfl, rfl⟩
  -- The sign is there before all terms, so that no switches for the whole expression can be.
  have hends : SequenceEnds [] [] [] true [.piece .textStart] ps qs st st' :=
    (fuelAgrees _ _).sequence _ _ haligned _ _ _ _ hrun hrun'
  obtain ⟨F, -, hF, ⟨hmore, -⟩ | ⟨-, hend, rfl, hflags, hpieces⟩⟩ := hends
  · exact absurd hrest hmore
  · have hnone : st.flags = [] := hF (Or.inr nofun)
    rw [hnone] at hflags hpieces
    refine ⟨hnone, ?_⟩
    rw [hbody hend, hflags, hpieces List.not_mem_nil List.not_mem_nil]
    exact congrArg _ (List.append_nil _)

end PhoneticCatalog.Context
