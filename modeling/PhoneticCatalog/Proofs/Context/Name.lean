import PhoneticCatalog.Context.Reader
import PhoneticCatalog.Context.Match

/-!
# Names as an expression finds them

The expression `^\S+$` finds exactly the texts that are names: visible characters, and at least one
of them, with a line feed behind them or without (`occursIn_namePattern`). A repeat of a test on one
character goes on behind any number of characters that pass it (`isSome_match?_repeat_one`).
-/

namespace PhoneticCatalog.Context

/-! ## Repeats of a test -/

section Repeats

variable {text : Array Char} {test : CharTest} {k : Spot → Option Spot} {s : Spot}

/-- The next `n` characters pass a test. -/
def Passes (text : Array Char) (test : CharTest) (s : Spot) (n : Nat) : Prop :=
  ∀ j < n, ∃ c, text[s.position + j]? = some c ∧ test.accepts c = true

/-- A run of characters that pass a test is a first one and the rest. -/
theorem passes_succ {n : Nat} :
    Passes text test s (n + 1) ↔
      (∃ c, text[s.position]? = some c ∧ test.accepts c = true) ∧
        Passes text test (s.goto (s.position + 1)) n := by
  have hposition : ∀ j, s.position + (j + 1) = s.position + 1 + j := by omega
  constructor
  · intro h
    refine ⟨h 0 (Nat.succ_pos n), fun j hj => ?_⟩
    have hnext := h (j + 1) (Nat.succ_lt_succ hj)
    rw [hposition] at hnext
    exact hnext
  · rintro ⟨hfirst, hrest⟩ j hj
    cases j with
    | zero => exact hfirst
    | succ j =>
      rw [hposition]
      exact hrest j (Nat.lt_of_succ_lt_succ hj)

/-- An anchor lets the search go on where it holds. -/
theorem isSome_match?_anchor {a : Anchor} :
    ((Expr.anchor a).match? text s k).isSome ↔ a.holds text s.position = true ∧ (k s).isSome := by
  rw [Expr.match?]
  split <;> simp_all

/-- A test takes one character that passes it. -/
theorem isSome_match?_one :
    ((Expr.one test).match? text s k).isSome ↔
      (∃ c, text[s.position]? = some c ∧ test.accepts c = true) ∧
        (k (s.goto (s.position + 1))).isSome := by
  rw [Expr.match?]
  cases text[s.position]? with
  | none => simp
  | some c => by_cases hc : test.accepts c = true <;> simp [hc]

/-- One of two searches succeeds if either does. -/
theorem isSome_choice (x y : Option Spot) :
    (match x with | some r => some r | none => y).isSome ↔ x.isSome ∨ y.isSome := by
  cases x <;> simp

/-- A repeat of a test goes on behind some characters that pass, which are as many as are missing
at its least count. -/
theorem isSome_repeatGreedy_one {least bound count : Nat} {last : Option Nat}
    (hbound : least - count + (text.size - s.position) < bound)
    (hlast : ∀ p, last = some p → p < s.position) :
    (repeatGreedy ((Expr.one test).match? text) least none k bound count last s).isSome ↔
      ∃ n, least ≤ count + n ∧ Passes text test s n ∧ (k (s.goto (s.position + n))).isSome := by
  induction bound generalizing count last s with
  | zero => exact absurd hbound (Nat.not_lt_zero _)
  | succ bound ih =>
    have hnext : ∀ n, s.position + (n + 1) = s.position + 1 + n := by omega
    rw [repeatGreedy]
    by_cases hcount : count < least
    · -- A round has to be made.
      rw [if_pos hcount, isSome_match?_one, ih (by simp only [Spot.goto]; omega)
        fun p hp => Nat.lt_succ_of_lt (hlast p hp)]
      constructor
      · rintro ⟨hfirst, n, hn, hpasses, h⟩
        refine ⟨n + 1, by omega, passes_succ.2 ⟨hfirst, hpasses⟩, ?_⟩
        rwa [hnext]
      · rintro ⟨n, hn, hpasses, h⟩
        obtain ⟨n, rfl⟩ : ∃ m, n = m + 1 := ⟨n - 1, by omega⟩
        obtain ⟨hfirst, hrest⟩ := passes_succ.1 hpasses
        rw [hnext] at h
        exact ⟨hfirst, n, by omega, hrest, h⟩
    · have hallowed : roundAllowed none count last s = true := by
        have hne : last ≠ some s.position := fun h => Nat.lt_irrefl _ (hlast _ h)
        rw [roundAllowed]
        simp [hne]
      have hround : (∃ c, text[s.position]? = some c ∧ test.accepts c = true) →
          ((repeatGreedy ((Expr.one test).match? text) least none k bound (count + 1)
              (some s.position) (s.goto (s.position + 1))).isSome ↔
            ∃ n, least ≤ count + 1 + n ∧ Passes text test (s.goto (s.position + 1)) n ∧
              (k (s.goto (s.position + 1 + n))).isSome) := by
        rintro ⟨c, hc, -⟩
        obtain ⟨hlt, -⟩ := Array.getElem?_eq_some_iff.1 hc
        refine ih (by simp only [Spot.goto]; omega) fun p hp => ?_
        obtain rfl := Option.some.inj hp
        exact Nat.lt_succ_self _
      rw [if_neg hcount, if_pos hallowed]
      refine (isSome_choice _ _).trans ?_
      rw [isSome_match?_one, and_congr_right hround]
      constructor
      · rintro (⟨hfirst, n, hn, hpasses, h⟩ | h)
        · refine ⟨n + 1, by omega, passes_succ.2 ⟨hfirst, hpasses⟩, ?_⟩
          rwa [hnext]
        · exact ⟨0, by omega, fun j hj => absurd hj (Nat.not_lt_zero j), h⟩
      · rintro ⟨n, hn, hpasses, h⟩
        cases n with
        | zero => exact Or.inr h
        | succ n =>
          obtain ⟨hfirst, hrest⟩ := passes_succ.1 hpasses
          rw [hnext] at h
          exact Or.inl ⟨hfirst, n, by omega, hrest, h⟩

/-- A greedy repeat of a test takes some number of characters that all pass it. -/
theorem isSome_match?_repeat_one {least : Nat} :
    ((Expr.repeated .greedy least none (.one test)).match? text s k).isSome ↔
      ∃ n, least ≤ n ∧ Passes text test s n ∧ (k (s.goto (s.position + n))).isSome := by
  rw [Expr.match?]
  have hlast : ∀ p, (none : Option Nat) = some p → p < s.position := nofun
  refine (isSome_repeatGreedy_one (by rw [repeatBound]; omega) hlast).trans ?_
  simp only [Nat.zero_add]

/-! ## Names -/

/-- The test for a character that is not blank. -/
def visible : CharTest := .set false [.class .space true] .unicode false

/-- The test for visible characters refuses blank ones. -/
theorem accepts_visible {c : Char} :
    visible.accepts c = true ↔ Text.isSpace c.toNat = false := by
  simp [visible, CharTest.accepts, SetItem.holds, CharClass.holds]

/-- The expression for names of includes. -/
def namePattern : Search :=
  ⟨.seq (.anchor .textStart)
      (.seq (.repeated .greedy 1 none (.one visible)) (.anchor .textEnd)), .unicode⟩

/-- The expression for names is read as a start, a repeat of visible characters and an end. -/
theorem read_namePattern : Search.read "^\\S+$".toList = .ok namePattern := rfl

/-- A text is a name if it is made of visible characters, of which there is at least one, with a
line feed behind them or without. -/
def IsName (text : List Char) : Prop :=
  ∃ body, body ≠ [] ∧ (∀ c ∈ body, Text.isSpace c.toNat = false) ∧
    (text = body ∨ text = body ++ ['\n'])

/-- From the start of a text a run passes if its first characters do. -/
theorem passes_start {text : List Char} {n : Nat} :
    Passes text.toArray test (.start 0) n ↔
      n ≤ text.length ∧ ∀ c ∈ text.take n, test.accepts c = true := by
  simp only [Passes, Spot.start, Nat.zero_add, List.getElem?_toArray]
  constructor
  · intro h
    refine ⟨?_, fun c hc => ?_⟩
    · -- The last of the characters that pass bounds their number.
      cases n with
      | zero => exact Nat.zero_le _
      | succ n =>
        obtain ⟨c, hc, -⟩ := h n (Nat.lt_succ_self n)
        exact (List.getElem?_eq_some_iff.1 hc).1
    · obtain ⟨j, hj, rfl⟩ := List.mem_take_iff_getElem.1 hc
      obtain ⟨c, hc, haccepts⟩ := h j (by omega)
      rwa [(List.getElem?_eq_some_iff.1 hc).2]
  · rintro ⟨hlength, h⟩ j hj
    exact ⟨text[j], List.getElem?_eq_getElem (by omega),
      h _ (List.mem_take_iff_getElem.2 ⟨j, by omega, rfl⟩)⟩

end Repeats

/-- The end of a text lies behind its last character or before a last line feed. -/
theorem holds_textEnd {text : List Char} {n : Nat} (h : n ≤ text.length) :
    Anchor.textEnd.holds text.toArray n = true ↔ text.drop n = [] ∨ text.drop n = ['\n'] := by
  rw [Anchor.holds, Bool.or_eq_true, Bool.and_eq_true, decide_eq_true_eq, decide_eq_true_eq,
    decide_eq_true_eq, List.getElem?_toArray, List.size_toArray]
  -- Before its end the text may only go on with a final line feed.
  rcases Nat.lt_or_eq_of_le h with hlt | rfl
  · have hcons : text.drop n = text[n] :: text.drop (n + 1) := List.drop_eq_getElem_cons hlt
    rw [hcons, List.getElem?_eq_getElem hlt, Option.some_inj, List.cons_eq_cons,
      List.drop_eq_nil_iff]
    constructor
    · rintro (heq | ⟨heq, hfeed⟩)
      · omega
      · exact Or.inr ⟨hfeed, by omega⟩
    · rintro (hnil | ⟨hfeed, hle⟩)
      · cases hnil
      · exact Or.inr ⟨by omega, hfeed⟩
  · exact iff_of_true (Or.inl rfl) (Or.inl List.drop_length)

/-- The expression for names matches from the start alone, and takes visible characters up to the
end of the text. -/
theorem isSome_match?_namePattern {text : List Char} {i : Nat} :
    (namePattern.body.match? text.toArray (.start i) some).isSome ↔
      i = 0 ∧ ∃ n, 0 < n ∧ Passes text.toArray visible (.start 0) n ∧
        Anchor.textEnd.holds text.toArray n = true := by
  rw [namePattern, Expr.match?, isSome_match?_anchor, Anchor.holds, decide_eq_true_eq]
  refine and_congr_right fun hi => ?_
  obtain rfl : i = 0 := hi
  rw [Expr.match?, isSome_match?_repeat_one]
  refine exists_congr fun n => and_congr_right fun _ => and_congr_right fun _ => ?_
  rw [isSome_match?_anchor]
  simp [Spot.goto, Spot.start]

/-- The expression finds exactly the names. -/
theorem occursIn_namePattern {text : List Char} :
    namePattern.occursIn text = true ↔ IsName text := by
  -- The pattern begins at the start of the text, wherever the search begins.
  have hoccurs : namePattern.occursIn text = true ↔
      ∃ n, 0 < n ∧ Passes text.toArray visible (.start 0) n ∧
        Anchor.textEnd.holds text.toArray n = true := by
    simp only [Search.occursIn, List.any_eq_true, Bool.and_eq_true, isSome_match?_namePattern]
    constructor
    · rintro ⟨i, -, -, -, h⟩
      exact h
    · intro h
      exact ⟨0, List.mem_range.2 (Nat.succ_pos _), rfl, rfl, h⟩
  rw [hoccurs]
  constructor
  · rintro ⟨n, hn, hpasses, hend⟩
    obtain ⟨hlength, hvisible⟩ := passes_start.1 hpasses
    refine ⟨text.take n, ?_, fun c hc => accepts_visible.1 (hvisible c hc), ?_⟩
    · rw [ne_eq, List.take_eq_nil_iff]
      rintro (rfl | rfl)
      · exact Nat.lt_irrefl 0 hn
      · exact Nat.lt_irrefl 0 (Nat.lt_of_lt_of_le hn hlength)
    · have hsplit : text = text.take n ++ text.drop n := (List.take_append_drop n text).symm
      rcases (holds_textEnd hlength).1 hend with hdrop | hdrop
      · rw [hdrop, List.append_nil] at hsplit
        exact Or.inl hsplit
      · rw [hdrop] at hsplit
        exact Or.inr hsplit
  · rintro ⟨body, hbody, hvisible, htext⟩
    have hprefix : body.length ≤ text.length ∧ text.take body.length = body ∧
        (text.drop body.length = [] ∨ text.drop body.length = ['\n']) := by
      rcases htext with rfl | rfl
      · exact ⟨Nat.le_refl _, List.take_length, Or.inl List.drop_length⟩
      · exact ⟨by simp, List.take_left, Or.inr List.drop_left⟩
    obtain ⟨hlength, htake, hdrop⟩ := hprefix
    refine ⟨body.length, List.length_pos_iff.2 hbody, passes_start.2 ⟨hlength, ?_⟩,
      (holds_textEnd hlength).2 hdrop⟩
    rw [htake]
    exact fun c hc => accepts_visible.2 (hvisible c hc)

end PhoneticCatalog.Context
