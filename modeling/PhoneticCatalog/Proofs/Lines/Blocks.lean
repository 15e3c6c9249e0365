import PhoneticCatalog.Proofs.Inclusion.Graph

/-!
# Block comments

A block comment goes from the line that opens it to the first later line that ends with its sign,
and a line opens one if it starts with the sign and stands in no other one (`OpensBlock`,
`InBlock`). That can be said of a line without running through those before it; a run leaves out
exactly the lines that belong to a block comment (`outsideBlocks_iff`).
-/

namespace PhoneticCatalog.Catalog

section Blocks

variable (lines : List (List Char))

/-- The line at an index starts with the sign of a block comment. -/
def StartsBlock (i : Nat) : Prop := ∃ raw, lines[i]? = some raw ∧ blockStart <+: raw

/-- The line at an index ends with the sign that ends block comments. -/
def EndsBlock (i : Nat) : Prop := ∃ raw, lines[i]? = some raw ∧ blockEnd <:+ raw

/-- A block comment that is opened by one line has not been ended before another one. -/
def StillOpen (i k : Nat) : Prop := ∀ m, i < m → m < k → ¬ EndsBlock lines m

/-- The line at an index opens a block comment: it starts with the sign, and no block comment that
was opened before is still open. -/
def OpensBlock (i : Nat) : Prop :=
  StartsBlock lines i ∧ ∀ j, j < i → OpensBlock j → ¬ StillOpen lines j i
termination_by i

/-- The line at an index belongs to a block comment, as its first line or as a later one. -/
def InBlock (k : Nat) : Prop := ∃ i, i ≤ k ∧ OpensBlock lines i ∧ StillOpen lines i k

variable {lines} {raw : List Char} {k : Nat}

/-- A line starts a block comment if it starts with the sign for it. -/
theorem startsBlock_iff (h : lines[k]? = some raw) :
    StartsBlock lines k ↔ Text.startsWith raw blockStart = true := by
  rw [StartsBlock, h, Text.startsWith, List.isPrefixOf_iff_prefix]
  simp

/-- A line ends a block comment if it ends with the sign for it. -/
theorem endsBlock_iff (h : lines[k]? = some raw) :
    EndsBlock lines k ↔ Text.endsWith raw blockEnd = true := by
  rw [EndsBlock, h, Text.endsWith, List.isSuffixOf_iff_suffix]
  simp

/-- A block is still open one line further if that line does not end it. -/
theorem stillOpen_succ {i : Nat} (hi : i < k) :
    StillOpen lines i (k + 1) ↔ StillOpen lines i k ∧ ¬ EndsBlock lines k := by
  constructor
  · exact fun h => ⟨fun m him hmk => h m him (Nat.lt_succ_of_lt hmk), h k hi (Nat.lt_succ_self k)⟩
  · rintro ⟨h, hend⟩ m him hmk
    rcases Nat.lt_succ_iff_lt_or_eq.1 hmk with hlt | rfl
    · exact h m him hlt
    · exact hend

/-- A block is open right behind the line that opens it. -/
theorem stillOpen_self (i : Nat) : StillOpen lines i (i + 1) :=
  fun _ him hmi => absurd (Nat.lt_succ_iff.1 hmi) (Nat.not_le.2 him)

/-- A line opens a block if it starts one, and none is open there already. -/
theorem opensBlock_iff :
    OpensBlock lines k ↔
      StartsBlock lines k ∧ ¬ ∃ i, i < k ∧ OpensBlock lines i ∧ StillOpen lines i k := by
  rw [OpensBlock]
  simp only [not_exists, not_and]

/-- A line belongs to a block comment if one is still open, or if it starts with the sign itself. -/
theorem inBlock_iff :
    InBlock lines k ↔
      (∃ i, i < k ∧ OpensBlock lines i ∧ StillOpen lines i k) ∨ StartsBlock lines k := by
  constructor
  · rintro ⟨i, hi, hopens, hstill⟩
    rcases Nat.lt_or_eq_of_le hi with hlt | rfl
    · exact Or.inl ⟨i, hlt, hopens, hstill⟩
    · exact Or.inr (opensBlock_iff.1 hopens).1
  · intro h
    by_cases hearlier : ∃ i, i < k ∧ OpensBlock lines i ∧ StillOpen lines i k
    · obtain ⟨i, hi, hopens, hstill⟩ := hearlier
      exact ⟨i, Nat.le_of_lt hi, hopens, hstill⟩
    · have hopens : OpensBlock lines k := opensBlock_iff.2 ⟨h.resolve_left hearlier, hearlier⟩
      exact ⟨k, le_rfl, hopens, fun m hkm hmk => absurd hmk (Nat.lt_asymm hkm)⟩

/-- Some lines leave a block comment open if one of them has opened one that is still open. -/
theorem foldl_blockAfter_iff (hk : k ≤ lines.length) :
    (lines.take k).foldl blockAfter false = true ↔
      ∃ i, i < k ∧ OpensBlock lines i ∧ StillOpen lines i k := by
  induction k with
  | zero => simp
  | succ k ih =>
    have hline : lines[k]? = some lines[k] := List.getElem?_eq_getElem hk
    have ih := ih (Nat.le_of_succ_le hk)
    have hstate : (lines.take (k + 1)).foldl blockAfter false =
        blockAfter ((lines.take k).foldl blockAfter false) lines[k] := by
      rw [List.take_add_one, hline, List.foldl_append]
      rfl
    rw [hstate, blockAfter]
    -- A block comment that is open after a line was open before, or is opened there.
    by_cases hopen : (lines.take k).foldl blockAfter false = true
    · obtain ⟨i, hik, hi, hstill⟩ := ih.1 hopen
      rw [if_pos hopen, Bool.not_eq_true', Bool.eq_false_iff, Ne, ← endsBlock_iff hline]
      constructor
      · exact fun hend => ⟨i, Nat.lt_succ_of_lt hik, hi, (stillOpen_succ hik).2 ⟨hstill, hend⟩⟩
      · rintro ⟨j, hjk, hj, hstill⟩
        rcases Nat.lt_succ_iff_lt_or_eq.1 hjk with hlt | rfl
        · exact ((stillOpen_succ hlt).1 hstill).2
        · exact absurd (ih.1 hopen) (opensBlock_iff.1 hj).2
    · rw [if_neg hopen, ← startsBlock_iff hline]
      rw [ih] at hopen
      constructor
      · intro hstart
        exact ⟨k, Nat.lt_succ_self k, opensBlock_iff.2 ⟨hstart, hopen⟩, stillOpen_self k⟩
      · rintro ⟨j, hjk, hj, hstill⟩
        rcases Nat.lt_succ_iff_lt_or_eq.1 hjk with hlt | rfl
        · exact absurd ⟨j, hlt, hj, ((stillOpen_succ hlt).1 hstill).1⟩ hopen
        · exact (opensBlock_iff.1 hj).1

/-- A line is read outside of block comments exactly if it belongs to none. -/
theorem outsideBlocks_iff {before after : List (List Char)} (h : lines = before ++ raw :: after) :
    OutsideBlocks before raw ↔ ¬ InBlock lines before.length := by
  have hline : lines[before.length]? = some raw := by simp [h]
  have htake : lines.take before.length = before := by simp [h]
  have hlength : before.length ≤ lines.length := by simp [h]
  have hopen := foldl_blockAfter_iff hlength
  rw [htake] at hopen
  rw [inBlock_iff, ← hopen, startsBlock_iff hline, not_or, Bool.not_eq_true, Bool.not_eq_true]
  rfl

end Blocks

end PhoneticCatalog.Catalog
