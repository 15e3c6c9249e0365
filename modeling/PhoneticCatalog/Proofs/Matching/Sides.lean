import PhoneticCatalog.Proofs.Context.Plain
import PhoneticCatalog.Proofs.Inclusion.Visit
import PhoneticCatalog.Proofs.Writing.RoundTrip
import PhoneticCatalog.Rule

/-!
# The two sides of a match

A rule matches where its pattern stands, and what stands before the pattern and what stands behind
it are judged apart from each other, each as a text of its own (`Rule.matchesAt_iff`). So the sides
of two matches can be exchanged (`Rule.match_is_product`).

A literal context is met by the texts that end with it, or start with it
(`Rule.leftHolds_iff_of_literal`, `Rule.rightHolds_iff_of_literal`), so that literal contexts ask
for literal neighbours (`Rule.literal_contexts`). An empty context is one of them and is always
met.
-/

namespace PhoneticCatalog

open Context (IsLiteral Search)

namespace Rule

variable {r : Rule} {text : List Char}

/-! ## Where a rule matches -/

/-- A position that is not negative is checked as it is. -/
theorem matches?_natCast (r : Rule) (text : List Char) (i : Nat) :
    r.matches? text i = .ok (r.matchesAt text i) := by
  rw [matches?, if_neg (Int.not_lt.2 (Int.natCast_nonneg i)), Int.toNat_natCast]

/-- A match is one at an offset of the text. -/
theorem matches?_eq_true_iff {position : Int} :
    r.matches? text position = .ok true ↔
      ∃ i : Nat, (i : Int) = position ∧ r.matchesAt text i = true := by
  constructor
  · intro h
    have hpos : 0 ≤ position := by
      by_contra hneg
      rw [matches?, if_pos (Int.not_le.1 hneg)] at h
      cases h
    obtain ⟨i, rfl⟩ := Int.eq_ofNat_of_zero_le hpos
    exact ⟨i, rfl, Except.ok.inj ((matches?_natCast r text i).symm.trans h)⟩
  · rintro ⟨i, rfl, h⟩
    rw [matches?_natCast, h]

/-- Behind a text and before another one a rule matches if both sides hold. -/
theorem matchesAt_append (r : Rule) (a b : List Char) :
    r.matchesAt (a ++ r.fields.pattern ++ b) a.length = (r.leftHolds a && r.rightHolds b) := by
  simp [matchesAt, Bool.and_comm]

/-- A match splits the text at the pattern. -/
theorem exists_split_of_matchesAt {i : Nat} (h : r.matchesAt text i = true) :
    ∃ a b, text = a ++ r.fields.pattern ++ b ∧ a.length = i := by
  simp only [matchesAt, Bool.and_eq_true, decide_eq_true_eq] at h
  obtain ⟨⟨⟨hroom, hpattern⟩, -⟩, -⟩ := h
  have hlength : (text.take i).length = i := by
    rw [List.length_take]
    omega
  refine ⟨text.take i, (text.drop i).drop r.fields.pattern.length, ?_, hlength⟩
  calc text = text.take i ++ text.drop i := (List.take_append_drop i text).symm
    _ = text.take i ++ ((text.drop i).take r.fields.pattern.length ++
          (text.drop i).drop r.fields.pattern.length) := by
        rw [List.take_append_drop r.fields.pattern.length]
    _ = text.take i ++ r.fields.pattern ++ (text.drop i).drop r.fields.pattern.length := by
        rw [hpattern, List.append_assoc]

/-- A rule matches where the pattern stands between two texts that satisfy the contexts. -/
theorem matchesAt_iff {i : Nat} :
    r.matchesAt text i = true ↔
      ∃ a b, text = a ++ r.fields.pattern ++ b ∧ a.length = i ∧ r.leftHolds a = true ∧
        r.rightHolds b = true := by
  constructor
  · intro h
    obtain ⟨a, b, rfl, rfl⟩ := exists_split_of_matchesAt h
    rw [matchesAt_append, Bool.and_eq_true] at h
    exact ⟨a, b, rfl, rfl, h⟩
  · rintro ⟨a, b, rfl, rfl, hleft, hright⟩
    rw [matchesAt_append, hleft, hright]
    rfl

/-- The same with the texts cut out of the whole one, which a position beyond its end leaves
whole. -/
theorem matchesAt_iff_cut {i : Nat} :
    r.matchesAt text i = true ↔
      i ≤ text.length ∧ (text.drop i).take r.fields.pattern.length = r.fields.pattern ∧
        r.rightHolds (text.drop (i + r.fields.pattern.length)) = true ∧
        r.leftHolds (text.take i) = true := by
  simp only [matchesAt, Bool.and_eq_true, decide_eq_true_eq, and_assoc]
  constructor
  · rintro ⟨hroom, h⟩
    exact ⟨by omega, h⟩
  · rintro ⟨hi, hpattern, h⟩
    have hlength := congrArg List.length hpattern
    rw [List.length_take, List.length_drop] at hlength
    exact ⟨by omega, hpattern, h⟩

/-! ## Literal contexts -/

/-- A literal left context stands right before the pattern, or before a line feed there. -/
theorem leftHolds_iff_of_literal (h : IsLiteral r.fields.left) {before : List Char} :
    r.leftHolds before = true ↔
      r.fields.left <:+ before ∨ r.fields.left ++ ['\n'] <:+ before := by
  rw [leftHolds, Except.ok.inj (r.left_read.symm.trans (Search.read_literalEnd h))]
  exact Context.occursIn_literalEnd

/-- A literal right context stands right behind the pattern. -/
theorem rightHolds_iff_of_literal (h : IsLiteral r.fields.right) {after : List Char} :
    r.rightHolds after = true ↔ r.fields.right <+: after := by
  rw [rightHolds, Except.ok.inj (r.right_read.symm.trans (Search.read_literalStart h))]
  exact Context.occursIn_literalStart

/-- Without contexts a rule matches wherever its pattern stands. -/
theorem matchesAt_iff_of_empty {i : Nat} (hleft : r.fields.left = [])
    (hright : r.fields.right = []) :
    r.matchesAt text i = true ↔ ∃ a b, text = a ++ r.fields.pattern ++ b ∧ a.length = i := by
  refine ⟨exists_split_of_matchesAt, ?_⟩
  rintro ⟨a, b, htext, hi⟩
  have hliteral : IsLiteral [] := fun _ h => nomatch h
  refine matchesAt_iff.2 ⟨a, b, htext, hi, ?_, ?_⟩
  · rw [leftHolds_iff_of_literal (hleft ▸ hliteral), hleft]
    exact Or.inl (List.nil_suffix)
  · rw [rightHolds_iff_of_literal (hright ▸ hliteral), hright]
    exact List.nil_prefix

/-! ## Matches -/

/-- A match is a product of two sides that are independent of each other. A position before the text
is refused, and at any other one there is an answer, which is a match only if the pattern stands
there. Then it depends on whether the text before the pattern satisfies the left context and the
text behind it the right one, so that two matches stay matches when they exchange their sides. A
rule without contexts matches exactly where its pattern stands. -/
theorem match_is_product (r : Rule) :
    (∀ (text : List Char) (position : Int), position < 0 →
      r.matches? text position = .error ⟨position⟩) ∧
    (∀ (text : List Char) (position : Int), 0 ≤ position →
      ∃ found, r.matches? text position = .ok found ∧
        (found = true → ∃ a b, text = a ++ r.fields.pattern ++ b ∧ (a.length : Int) = position)) ∧
    (∀ a b : List Char, r.matches? (a ++ r.fields.pattern ++ b) a.length =
      .ok (r.leftHolds a && r.rightHolds b)) ∧
    (∀ a b a' b' : List Char,
      r.matches? (a ++ r.fields.pattern ++ b) a.length = .ok true →
      r.matches? (a' ++ r.fields.pattern ++ b') a'.length = .ok true →
      r.matches? (a ++ r.fields.pattern ++ b') a.length = .ok true ∧
        r.matches? (a' ++ r.fields.pattern ++ b) a'.length = .ok true) ∧
    (r.fields.left = [] → r.fields.right = [] → ∀ (text : List Char) (position : Int),
      r.matches? text position = .ok true ↔
        ∃ a b, text = a ++ r.fields.pattern ++ b ∧ (a.length : Int) = position) := by
  -- Where the pattern stands, the sides are tried on their own; the rest follows from this.
  have hsides : ∀ a b : List Char, r.matches? (a ++ r.fields.pattern ++ b) a.length =
      .ok (r.leftHolds a && r.rightHolds b) := fun a b => by
    rw [matches?_natCast, matchesAt_append]
  refine ⟨fun text position hneg => if_pos hneg, fun text position hpos => ?_, hsides,
    fun a b a' b' h h' => ?_, fun hleft hright text position => ?_⟩
  · obtain ⟨i, rfl⟩ := Int.eq_ofNat_of_zero_le hpos
    refine ⟨r.matchesAt text i, matches?_natCast r text i, fun hfound => ?_⟩
    obtain ⟨a, b, htext, rfl⟩ := exists_split_of_matchesAt hfound
    exact ⟨a, b, htext, rfl⟩
  · simp only [hsides, Except.ok.injEq, Bool.and_eq_true] at h h' ⊢
    exact ⟨⟨h.1, h'.2⟩, h'.1, h.2⟩
  · simp only [matches?_eq_true_iff, matchesAt_iff_of_empty hleft hright]
    constructor
    · rintro ⟨i, rfl, a, b, htext, rfl⟩
      exact ⟨a, b, htext, rfl⟩
    · rintro ⟨a, b, htext, rfl⟩
      exact ⟨a.length, rfl, a, b, htext, rfl⟩

/-- A rule that looks to both sides without taking a character. -/
def lookingAround : Rule where
  fields :=
    { pattern := "aba".toList
      left := "(?<=x)".toList
      right := "(?!y)".toList
      phoneme := ['y'] }
  leftContext := ⟨.seq (.lookBehind false (.one (.literal false 120 .exact))) (.anchor .textEnd),
    .unicode⟩
  rightContext := ⟨.seq (.anchor .textStart) (.lookAhead true (.one (.literal false 121 .exact))),
    .unicode⟩
  left_read := rfl
  right_read := rfl

/-- A rule without contexts. -/
def withoutContexts : Rule where
  fields := { pattern := "aba".toList, left := [], right := [], phoneme := ['y'] }
  leftContext := ⟨.anchor .textEnd, .unicode⟩
  rightContext := ⟨.anchor .textStart, .unicode⟩
  left_read := rfl
  right_read := rfl

/-- Contexts that take no characters, positions beyond either end, and a pattern that overlaps with
itself. -/
theorem match_is_product_overlapping :
    lookingAround.matches? "xaba".toList (-1) = .error ⟨-1⟩ ∧
    (∃ found, lookingAround.matches? "xaba".toList 1000000000000000000000 = .ok found) ∧
    lookingAround.matches? "yxabax".toList 2 = .ok true ∧
    lookingAround.matches? "xaba".toList 1 = .ok true ∧
    (∃ a b, "ababa".toList = a ++ withoutContexts.fields.pattern ++ b ∧ (a.length : Int) = 2) := by
  obtain ⟨hnegative, hanswer, -, hexchange, -⟩ := match_is_product lookingAround
  obtain ⟨-, -, -, -, hempty⟩ := match_is_product withoutContexts
  obtain ⟨found, hfound, -⟩ := hanswer "xaba".toList 1000000000000000000000 (by decide)
  have hfirst : lookingAround.matches? "xabax".toList 1 = .ok true := rfl
  have hsecond : lookingAround.matches? "yxaba".toList 2 = .ok true := rfl
  obtain ⟨hright, hleft⟩ := hexchange "x".toList "x".toList "yx".toList [] hfirst hsecond
  exact ⟨hnegative _ _ (by decide), ⟨found, hfound⟩, hleft, hright,
    (hempty rfl rfl "ababa".toList 2).1 rfl⟩

/-! ## Literal neighbours -/

/-- The pattern is at an offset of the text, with the left context before it, or the left context
and a line feed, and the right context behind it. Nothing is cut out of the text beyond its end. -/
def HasNeighbours (f : RuleFields) (text : List Char) (i : Nat) : Prop :=
  (text.drop i).take f.pattern.length = f.pattern ∧
    f.right <+: text.drop (i + f.pattern.length) ∧
    (f.left <:+ text.take i ∨ f.left ++ ['\n'] <:+ text.take i)

instance (f : RuleFields) (text : List Char) (i : Nat) : Decidable (HasNeighbours f text i) :=
  inferInstanceAs (Decidable (_ ∧ _ ∧ (_ ∨ _)))

/-- Literal contexts are literal neighbours. A rule with such contexts exists, and it matches at an
offset within the text if and only if the pattern has these neighbours there. -/
theorem literal_contexts (f : RuleFields) (hleft : IsLiteral f.left) (hright : IsLiteral f.right) :
    ∃ r, ofFields f = .ok r ∧ r.fields = f ∧ ∀ (text : List Char) (i : Nat),
      ∃ found, r.matches? text i = .ok found ∧
        (found = true ↔ i ≤ text.length ∧ HasNeighbours f text i) := by
  obtain ⟨r, hr⟩ := exists_ofFields_iff.2
    ⟨⟨_, Search.read_literalEnd hleft⟩, _, Search.read_literalStart hright⟩
  obtain rfl := fields_eq_of_ofFields hr
  refine ⟨r, hr, rfl, fun text i => ⟨_, matches?_natCast r text i, ?_⟩⟩
  rw [matchesAt_iff_cut, rightHolds_iff_of_literal hright, leftHolds_iff_of_literal hleft]
  rfl

/-- A rule whose left context stands several times before the pattern. -/
def repeatedNeighbour : RuleFields :=
  { pattern := "P".toList, left := "ab".toList, right := "c\n".toList, phoneme := ['y'] }

/-- A left context before one line feed holds, and before two it does not. -/
theorem literal_contexts_line_feed :
    IsLiteral repeatedNeighbour.left ∧ IsLiteral repeatedNeighbour.right ∧
      ∃ r, ofFields repeatedNeighbour = .ok r ∧
        r.matches? "abPc\nab\nPc\n".toList 8 = .ok true ∧
        r.matches? "abPc\nab\n\nPc\n".toList 9 = .ok false := by
  have hleft : IsLiteral repeatedNeighbour.left := by decide
  have hright : IsLiteral repeatedNeighbour.right := by decide
  obtain ⟨r, hr, -, hmatches⟩ := literal_contexts repeatedNeighbour hleft hright
  obtain ⟨found, hfound, hiff⟩ := hmatches "abPc\nab\nPc\n".toList 8
  obtain ⟨missed, hmissed, hiff'⟩ := hmatches "abPc\nab\n\nPc\n".toList 9
  obtain rfl : found = true := hiff.2 (by decide)
  obtain rfl : missed = false := eq_false_of_ne_true (mt hiff'.1 (by decide))
  exact ⟨hleft, hright, r, hr, hfound, hmissed⟩

/-- A rule whose pattern and contexts are all empty. -/
def emptyEverywhere : RuleFields := { pattern := [], left := [], right := [], phoneme := ['y'] }

/-- An empty pattern has empty neighbours also beyond the end of a text, where no rule matches. -/
theorem empty_pattern_beyond_end :
    IsLiteral emptyEverywhere.left ∧ IsLiteral emptyEverywhere.right ∧
      HasNeighbours emptyEverywhere [] 1 ∧
      ∃ r, ofFields emptyEverywhere = .ok r ∧ r.matches? [] 1 = .ok false := by
  refine ⟨by decide, by decide, ⟨rfl, List.nil_prefix, Or.inl List.nil_suffix⟩, ?_⟩
  exact ⟨⟨_, ⟨.anchor .textEnd, .unicode⟩, ⟨.anchor .textStart, .unicode⟩, rfl, rfl⟩, rfl, rfl⟩

end Rule

end PhoneticCatalog
