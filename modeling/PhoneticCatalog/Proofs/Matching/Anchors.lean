import PhoneticCatalog.Proofs.Context.Glue
import PhoneticCatalog.Proofs.Context.Paths
import PhoneticCatalog.Rule

/-!
# Contexts are anchored at the pattern

The left context is read with the sign for the end of a text behind it, and the right one with the
sign for the start before it. Where a context is a single sequence, the sign belongs to the whole of
it, and a match of the rule holds a match of each context that touches the pattern
(`Rule.contexts_anchored`). Where it has alternatives, the sign joins one of them only
(`Rule.first_alternative_not_anchored`).

The sign for the end also holds before a line feed that ends the text, and, in an expression of
several lines, at the end of each line.
-/

namespace PhoneticCatalog

open Context (Search Spot Piece Expr IsSequence)

/-- Where a sign for the end is behind a sequence, a match anywhere in a text holds a match of the
sequence that ends at the end of the text, or before a line feed that ends it. -/
theorem exists_matchesBetween_of_endSign {l s : Search} {ps : List Piece}
    {flags : List Context.Flag} {text : List Char} (hmultiline : .multiline ∉ flags) (hl : l.body = Piece.sequence flags ps)
    (hs : s.body = Piece.sequence flags (ps ++ [.textEnd])) (h : s.occursIn text = true) :
    ∃ a b, a ≤ text.length ∧ l.matchesBetween text a b = true ∧
      (b = text.length ∨ b + 1 = text.length ∧ text[b]? = some '\n') := by
  obtain ⟨a, ha, hstart⟩ := List.any_eq_true.1 h
  have hmatch := (Bool.and_eq_true_iff.1 hstart).2
  have hsign : Piece.toExpr flags .textEnd = .anchor .textEnd := by
    simp [Piece.toExpr, hmultiline]
  -- What the terms before the sign match ends where the sign holds.
  rw [hs, Piece.sequence, List.map_append, Expr.match?_sequence_append, ← Piece.sequence, ← hl]
    at hmatch
  obtain ⟨spot, hspot, hbetween⟩ := Search.exists_matchesBetween hmatch
  refine ⟨a, spot.position, ?_, hbetween, ?_⟩
  · simpa [Nat.lt_succ_iff] using ha
  · simp only [List.map_cons, List.map_nil, Expr.sequence, hsign, Expr.match?] at hspot
    split at hspot
    · rename_i hholds
      simpa [Context.Anchor.holds] using hholds
    · cases hspot

/-- Where a sign for the start is before a sequence, a match anywhere in a text is a match of the
sequence that starts at the start of the text. -/
theorem exists_matchesBetween_of_startSign {m s : Search} {ps : List Piece}
    {text : List Char} (hm : m.body = Piece.sequence [] ps)
    (hs : s.body = Piece.sequence [] (.textStart :: ps)) (h : s.occursIn text = true) :
    ∃ b, m.matchesBetween text 0 b = true := by
  obtain ⟨a, ha, hstart⟩ := List.any_eq_true.1 h
  have hmatch := (Bool.and_eq_true_iff.1 hstart).2
  rw [hs, Piece.sequence, List.map_cons, Expr.match?_sequence_cons, ← Piece.sequence, ← hm]
    at hmatch
  have hsign : Piece.toExpr [] .textStart = .anchor .textStart := rfl
  simp only [hsign, Expr.match?] at hmatch
  split at hmatch
  · rename_i hholds
    obtain rfl : a = 0 := of_decide_eq_true hholds
    obtain ⟨spot, -, hbetween⟩ := Search.exists_matchesBetween hmatch
    exact ⟨_, hbetween⟩
  · cases hmatch

namespace Rule

/-- A match of the pattern is one of both contexts beside it. -/
theorem holds_of_matches? {r : Rule} {text : List Char} {position : Int}
    (h : r.matches? text position = .ok true) :
    r.leftHolds (text.take position.toNat) = true ∧
      r.rightHolds (text.drop (position.toNat + r.fields.pattern.length)) = true := by
  unfold matches? at h
  split at h
  · cases h
  · have hat := Except.ok.inj h
    simp only [matchesAt, Bool.and_eq_true] at hat
    exact ⟨hat.2, hat.1.2⟩

/-- Contexts are anchored at the pattern, where each of them is a single sequence outside of its
groups and the left one switches neither to several lines nor to verbose expressions: a rule matches
only where the left context, read on its own, has a match in the text before the pattern that ends
at its end, or before a line feed that ends it, and the right context, read on its own, has a match
in the text after the pattern that starts at its start. -/
theorem contexts_anchored (r : Rule) {l m : Search}
    (hl : Search.read r.fields.left = .ok l) (hm : Search.read r.fields.right = .ok m)
    {ps qs : List Piece} {flags flags' : List Context.Flag}
    (hleft : IsSequence r.fields.left ps flags) (hmultiline : .multiline ∉ flags)
    (hverbose : .verbose ∉ flags) (hright : IsSequence r.fields.right qs flags')
    (text : List Char) (position : Int) (h : r.matches? text position = .ok true) :
    (∃ a b, l.matchesBetween (text.take position.toNat) a b = true ∧
      (b = (text.take position.toNat).length ∨
        b + 1 = (text.take position.toNat).length ∧
          (text.take position.toNat)[b]? = some '\n')) ∧
    ∃ b, m.matchesBetween (text.drop (position.toNat + r.fields.pattern.length)) 0 b = true := by
  obtain ⟨hbefore, hafter⟩ := holds_of_matches? h
  obtain ⟨hltext, -⟩ := Context.exists_sequence_of_read hl
  obtain ⟨hmtext, -⟩ := Context.exists_sequence_of_read hm
  constructor
  · obtain ⟨a, b, -, hends⟩ := exists_matchesBetween_of_endSign hmultiline (hleft.body_eq hl)
      (hleft.body_of_endSign hverbose hltext r.left_read) hbefore
    exact ⟨a, b, hends⟩
  · obtain ⟨rfl, hbody⟩ := hright.body_of_startSign hmtext r.right_read
    exact exists_matchesBetween_of_startSign (hright.body_eq hm) hbody hafter

/-- A rule with a letter on either side. -/
def betweenLetters : Rule where
  fields := { pattern := ['P'], left := ['a'], right := ['b'], phoneme := ['y'] }
  leftContext := ⟨.seq (.one (.literal false 97 .exact)) (.anchor .textEnd), .unicode⟩
  rightContext := ⟨.seq (.anchor .textStart) (.one (.literal false 98 .exact)), .unicode⟩
  left_read := rfl
  right_read := rfl

/-- A rule between two letters, which match next to the pattern. -/
theorem contexts_anchored_letters :
    betweenLetters.matches? "aPb".toList 1 = .ok true ∧
      (∃ a b, (⟨.one (.literal false 97 .exact), .unicode⟩ : Search).matchesBetween ['a'] a b =
        true ∧ (b = 1 ∨ b + 1 = 1 ∧ ['a'][b]? = some '\n')) ∧
      ∃ b, (⟨.one (.literal false 98 .exact), .unicode⟩ : Search).matchesBetween ['b'] 0 b =
        true := by
  have hmatches : betweenLetters.matches? "aPb".toList 1 = .ok true := rfl
  have hleft : IsSequence ['a'] [.literal false 97] [] := ⟨_, rfl, rfl, rfl⟩
  have hright : IsSequence ['b'] [.literal false 98] [] := ⟨_, rfl, rfl, rfl⟩
  exact ⟨hmatches, contexts_anchored betweenLetters rfl rfl hleft List.not_mem_nil
    List.not_mem_nil hright _ _ hmatches⟩

/-- A rule with two letters to choose from on the left. -/
def afterEither : Rule where
  fields := { pattern := ['P'], left := ['a', '|', 'b'], right := [], phoneme := ['y'] }
  leftContext := ⟨.alt (.one (.literal false 97 .exact))
    (.seq (.one (.literal false 98 .exact)) (.anchor .textEnd)), .unicode⟩
  rightContext := ⟨.anchor .textStart, .unicode⟩
  left_read := rfl
  right_read := rfl

/-- The sign for the end joins the second letter only, so that the first one need not stand at the
pattern. -/
theorem first_alternative_not_anchored :
    afterEither.matches? "axP".toList 2 = .ok true ∧
      ∃ l m, Search.read afterEither.fields.left = .ok l ∧
        Search.read afterEither.fields.right = .ok m ∧
        ∀ a, l.matchesBetween ("axP".toList.take 2) a 2 = false := by
  refine ⟨rfl, ⟨.one (.ofItems false [.point 97, .point 98] .unicode .exact), .unicode⟩,
    ⟨.empty, .unicode⟩, rfl, rfl, fun a => ?_⟩
  match a with
  | 0 => rfl
  | 1 => rfl
  | a + 2 => rfl

end Rule

end PhoneticCatalog
