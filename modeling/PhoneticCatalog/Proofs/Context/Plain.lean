import PhoneticCatalog.Proofs.Context.Name
import PhoneticCatalog.Proofs.Context.Paths
import PhoneticCatalog.Proofs.Context.Sequences

/-!
# Expressions of plain characters

Most characters are a piece of an expression on their own: the two signs for the ends of a text, the
dot, and all those that stand for themselves. A text of such characters is read as their pieces, one
after the other (`Search.read_of_plain`). So a literal text is read as itself, also with the sign
for the end behind it or the one for the start before it, and then it is found exactly in the texts
that end with it, or start with it (`occursIn_literalEnd`, `occursIn_literalStart`). As everywhere,
the end may have a line feed behind it.
-/

namespace PhoneticCatalog.Context

/-- The characters that start or end something longer than one piece, or repeat what stands before
them. -/
def structuralSigns : List Char := ['\\', '*', '+', '?', '\x7b', '[', '|', '(', ')']

/-- The characters that do not stand for themselves everywhere in an expression. -/
def metacharacters : List Char :=
  ['\\', '.', '^', '$', '*', '+', '?', '\x7b', '\x7d', '[', ']', '|', '(', ')']

/-- The text has no characters of a meaning of their own. -/
def IsLiteral (text : List Char) : Prop := ∀ c ∈ text, c ∉ metacharacters

instance (text : List Char) : Decidable (IsLiteral text) :=
  List.decidableBAll (· ∉ metacharacters) text

/-- The piece that a character is on its own. -/
def Piece.ofChar : Char → Piece
  | '.' => .dot
  | '^' => .textStart
  | '$' => .textEnd
  | c => .literal false c.toNat

/-- The pieces of a literal text. -/
def literalPieces (text : List Char) : List Piece := text.map fun c => .literal false c.toNat

namespace IsLiteral

variable {text : List Char}

/-- A literal text holds no sign of an expression. -/
theorem not_structural (h : IsLiteral text) : ∀ c ∈ text, c ∉ structuralSigns :=
  fun c hc hsign => h c hc ((by decide : structuralSigns ⊆ metacharacters) hsign)

/-- Every character of a literal text is a piece that stands for it alone. -/
theorem map_ofChar (h : IsLiteral text) : text.map .ofChar = literalPieces text := by
  refine List.map_congr_left fun c hc => Piece.ofChar.eq_4 c ?_ ?_ ?_ <;>
    exact fun heq => h c hc (heq ▸ by decide)

end IsLiteral

/-! ## Reading -/

/-- The state with `n` characters passed. -/
def ReadState.advance (st : ReadState) (n : Nat) : ReadState :=
  { st with cursor := st.cursor.advance n }

/-- What is left after some characters were read. -/
theorem ReadState.rest_advance (st : ReadState) (n : Nat) :
    (st.advance n).cursor.rest = st.cursor.rest.drop n := rfl

theorem ReadState.advance_zero (st : ReadState) : st.advance 0 = st := rfl

/-- Reading on twice is reading on by the sum. -/
theorem ReadState.advance_advance (st : ReadState) (m n : Nat) :
    (st.advance m).advance n = st.advance (m + n) := by
  simp [advance, Cursor.advance, Nat.add_assoc]

namespace Reader

variable {fuel : Nat} {st : ReadState} {c : Char} {text rest : List Char}

/-- A reading that succeeds is followed by the next one. -/
theorem run_bind_of_ok {α β : Type} {m : Reader α} {f : α → Reader β} {mid : ReadState} {a : α}
    (h : m.run st = .ok (a, mid)) : (m >>= f).run st = (f a).run mid := by
  rw [StateT.run_bind, h]
  rfl

theorem run_get (st : ReadState) : (get : Reader ReadState).run st = .ok (st, st) := rfl

/-- Looking at a token does not change the state. -/
theorem run_peek {t : Token} (h : st.cursor.token = t) : peek.run st = .ok (t, st) := by
  rw [← h]
  rfl

/-- The cursor can be moved to any place but a lone backslash at the end. -/
theorem run_moveTo_of_ne {k : Cursor} (h : k.rest ≠ ['\\']) :
    (moveTo k).run st = .ok ((), { st with cursor := k }) := by
  simp [moveTo, Cursor.checked, h]
  rfl

/-- A character other than a backslash is a token by itself. -/
theorem token_of_plain (hc : c ≠ '\\') (h : st.cursor.rest = c :: rest) :
    st.cursor.token = .plain c := by
  unfold Cursor.token
  rw [h]
  cases rest <;> simp [hc]

/-- Taking a token that is a single character moves the cursor behind it. -/
theorem run_take_of_plain (hc : c ≠ '\\') (h : st.cursor.rest = c :: rest)
    (hrest : rest ≠ ['\\']) : take.run st = .ok (.plain c, st.advance 1) := by
  have htoken := token_of_plain hc h
  have hnext : (st.cursor.advance 1).rest ≠ ['\\'] := by
    rw [Cursor.advance, h]
    exact hrest
  refine (run_bind_of_ok (run_get st)).trans ?_
  dsimp only
  rw [htoken]
  exact run_bind_of_ok (run_moveTo_of_ne hnext)

/-- A plain character is one more piece of a sequence. -/
theorem run_sequence_plain {first : Bool} {terms : List Term} (hc : c ∉ structuralSigns)
    (h : st.cursor.rest = c :: rest) (hrest : rest ≠ ['\\']) :
    (sequence (fuel + 1) [] first terms).run st =
      (sequence fuel [] first (.piece (.ofChar c) :: terms)).run (st.advance 1) := by
  simp only [structuralSigns, List.mem_cons, List.not_mem_nil, or_false, not_or] at hc
  obtain ⟨hback, hstar, hplus, hoptional, hbrace, hset, hbar, hopen, hclose⟩ := hc
  refine (run_bind_of_ok (run_peek (token_of_plain hback h))).trans ?_
  -- The sign neither ends the sequence nor begins a term of another kind.
  split
  · rename_i heq
    cases heq
  · rename_i heq
    exact absurd (Token.plain.inj heq) hbar
  · rename_i heq
    exact absurd (Token.plain.inj heq) hclose
  have hposition : position.run st = .ok (st.cursor.passed, st) := rfl
  refine (run_bind_of_ok hposition).trans ?_
  refine (run_bind_of_ok (run_take_of_plain hback h hrest)).trans ?_
  simp only [List.contains_nil, Bool.false_and, Bool.false_eq_true, if_false]
  split
  · exact absurd rfl hset
  · rfl
  · rfl
  · rfl
  · exact absurd rfl hopen
  · exact absurd rfl hstar
  · exact absurd rfl hplus
  · exact absurd rfl hoptional
  · exact absurd rfl hbrace
  · rename_i hdot hstart hend _ _ _ _ _
    rw [Piece.ofChar.eq_4 c hdot hstart hend]

/-- At the end of a text a sequence ends with the terms so far. -/
theorem run_sequence_end {flags : List Flag} {first : Bool} {terms : List Term}
    (h : st.cursor.rest = []) :
    (sequence (fuel + 1) flags first terms).run st =
      .ok (terms.reverse.flatMap Term.pieces, st) :=
  run_bind_of_ok (run_peek (token_of_end h))

/-- No text of plain characters is refused for a backslash that ends it. -/
theorem ne_backslash_of_plain (h : ∀ c ∈ text, c ∉ structuralSigns) : text ≠ ['\\'] := by
  rintro rfl
  exact h '\\' List.mem_cons_self List.mem_cons_self

/-- A text of plain characters is a sequence of their pieces. -/
theorem run_sequence_of_plain {first : Bool} {terms : List Term}
    (htext : ∀ c ∈ text, c ∉ structuralSigns) (h : st.cursor.rest = text) :
    (sequence (fuel + text.length + 1) [] first terms).run st =
      .ok (terms.reverse.flatMap Term.pieces ++ text.map .ofChar, st.advance text.length) := by
  induction text generalizing terms st with
  | nil =>
    rw [run_sequence_end h]
    simp [ReadState.advance_zero]
  | cons c rest ih =>
    obtain ⟨hc, hmore⟩ := List.forall_mem_cons.1 htext
    have hnext : (st.advance 1).cursor.rest = rest := by
      rw [ReadState.rest_advance, h]
      rfl
    rw [List.length_cons, ← Nat.add_assoc,
      run_sequence_plain hc h (ne_backslash_of_plain hmore), ih hmore hnext]
    simp [ReadState.advance_advance, Term.pieces, Nat.add_comm]

/-- A text of plain characters has no alternatives. -/
theorem run_alternatives_of_plain (htext : ∀ c ∈ text, c ∉ structuralSigns)
    (h : st.cursor.rest = text) :
    (alternatives (fuel + text.length + 2) [] true).run st =
      .ok (text.map .ofChar, st.advance text.length) := by
  have hend : (st.advance text.length).cursor.rest = [] := by
    rw [ReadState.rest_advance, h, List.drop_length]
  have haccept : (accept '|').run (st.advance text.length) = .ok (false, st.advance text.length) :=
    run_bind_of_ok (run_peek (token_of_end hend))
  have hmore : (moreAlternatives (fuel + text.length + 1) st.flags).run (st.advance text.length) =
      .ok ([], st.advance text.length) := run_bind_of_ok haccept
  refine (run_bind_of_ok (run_sequence_of_plain htext h)).trans ?_
  refine (run_bind_of_ok (run_get _)).trans ?_
  exact run_bind_of_ok hmore

end Reader

/-- A sequence of expressions meets the conditions that each of them meets. -/
theorem Expr.refusal?_sequence {template : Bool} {es : List Expr}
    (h : ∀ e ∈ es, e.refusal? template = none) : (sequence es).refusal? template = none := by
  induction es with
  | nil => rfl
  | cons e es ih =>
    obtain ⟨he, hes⟩ := List.forall_mem_cons.1 h
    cases es with
    | nil => exact he
    | cons f es =>
      change (e.refusal? template <|> (sequence (f :: es)).refusal? template) = none
      rw [he, ih hes]
      rfl

/-- A literal character is never refused. -/
theorem Piece.refusal?_ofChar (c : Char) : ((ofChar c).toExpr []).refusal? false = none := by
  unfold ofChar
  split <;> rfl

/-- A text of plain characters is read as their pieces. -/
theorem Search.read_of_plain {text : List Char} (h : ∀ c ∈ text, c ∉ structuralSigns) :
    read text = .ok ⟨Piece.sequence [] (text.map .ofChar), .unicode⟩ := by
  -- The bound on the depth leaves one step for each character.
  have hfuel : 4 * text.length + 4 = 3 * text.length + 2 + text.length + 2 := by omega
  have hpieces : (Reader.alternatives (4 * text.length + 4) [] true).run (.initial text) =
      .ok (text.map .ofChar, (ReadState.initial text).advance text.length) := by
    rw [hfuel]
    exact Reader.run_alternatives_of_plain h rfl
  have hend : ((ReadState.initial text).advance text.length).cursor.rest = [] := List.drop_length
  have hflags : ((ReadState.initial text).advance text.length).flags = [] := rfl
  have hconditions :
      (Piece.sequence [] (text.map .ofChar)).refusal? (([] : List Flag).contains .template) =
        none := by
    refine Expr.refusal?_sequence fun e he => ?_
    simp only [List.mem_map] at he
    obtain ⟨_, ⟨c, -, rfl⟩, rfl⟩ := he
    exact Piece.refusal?_ofChar c
  have hwhole : Reader.whole.run (.initial text) =
      .ok (⟨Piece.sequence [] (text.map .ofChar), .unicode⟩,
        (ReadState.initial text).advance text.length) := by
    refine (Reader.run_bind_of_ok (Reader.run_get _)).trans ?_
    refine (Reader.run_bind_of_ok
      (Reader.run_moveTo_of_ne (Reader.ne_backslash_of_plain h))).trans ?_
    refine (Reader.run_bind_of_ok (Reader.run_get _)).trans ?_
    refine (Reader.run_bind_of_ok hpieces).trans ?_
    refine (Reader.run_bind_of_ok (Reader.run_get _)).trans ?_
    refine (Reader.run_bind_of_ok (Reader.run_peek (Reader.token_of_end hend))).trans ?_
    dsimp only
    rw [hflags, hconditions]
    rfl
  change (Reader.whole.run (.initial text)).map (·.1) = _
  rw [hwhole]
  rfl

/-- A literal text with the sign for the end is read as its characters and an end. -/
theorem Search.read_literalEnd {text : List Char} (h : IsLiteral text) :
    read (text ++ ['$']) =
      .ok ⟨Piece.sequence [] (literalPieces text ++ [.textEnd]), .unicode⟩ := by
  rw [read_of_plain, List.map_append, h.map_ofChar]
  · rfl
  · exact List.forall_mem_append.2 ⟨h.not_structural, List.forall_mem_singleton.2 (by decide)⟩

/-- A literal text behind the sign for the start is read as a start and its characters. -/
theorem Search.read_literalStart {text : List Char} (h : IsLiteral text) :
    read ('^' :: text) = .ok ⟨Piece.sequence [] (.textStart :: literalPieces text), .unicode⟩ := by
  rw [read_of_plain, List.map_cons, h.map_ofChar]
  · rfl
  · exact List.forall_mem_cons.2 ⟨by decide, h.not_structural⟩

/-! ## Matching -/

/-- A test for one character accepts that one alone. -/
theorem accepts_literal {c d : Char} :
    (CharTest.literal false c.toNat .exact).accepts d = true ↔ d = c := by
  simp [CharTest.accepts, CharTest.sameCode, Char.toNat_inj]

/-- A text starts at a place if its first character is there and the others follow. -/
theorem cons_prefix_drop {c : Char} {chars text : List Char} {i : Nat} :
    c :: chars <+: text.drop i ↔ text[i]? = some c ∧ chars <+: text.drop (i + 1) := by
  rcases Nat.lt_or_ge i text.length with hlt | hge
  · rw [List.drop_eq_getElem_cons hlt, List.cons_prefix_cons, List.getElem?_eq_getElem hlt,
      Option.some_inj, eq_comm]
  · rw [List.drop_of_length_le hge, List.getElem?_eq_none hge]
    simp

/-- Literals match at a spot where they stand, and the match goes on behind them. -/
theorem isSome_match?_literals {text : List Char} {s : Spot} {k : Spot → Option Spot}
    (chars : List Char) (ps : List Piece) :
    ((Piece.sequence [] (literalPieces chars ++ ps)).match? text.toArray s k).isSome ↔
      chars <+: text.drop s.position ∧
        ((Piece.sequence [] ps).match? text.toArray (s.goto (s.position + chars.length))
          k).isSome := by
  induction chars generalizing s with
  | nil => exact (and_iff_right List.nil_prefix).symm
  | cons c chars ih =>
    have hfirst : ((Piece.sequence [] (literalPieces (c :: chars) ++ ps)).match? text.toArray s
        k).isSome ↔ text[s.position]? = some c ∧
          ((Piece.sequence [] (literalPieces chars ++ ps)).match? text.toArray
            (s.goto (s.position + 1)) k).isSome := by
      rw [Piece.sequence, literalPieces, List.map_cons, List.cons_append, List.map_cons,
        Expr.match?_sequence_cons]
      refine isSome_match?_one.trans (and_congr_left' ?_)
      refine (exists_congr fun d => and_congr_right fun _ => accepts_literal).trans ?_
      rw [exists_eq_right, List.getElem?_toArray]
    have hposition : s.position + (c :: chars).length = s.position + 1 + chars.length := by
      rw [List.length_cons]
      omega
    rw [hfirst, ih, cons_prefix_drop, and_assoc, hposition]
    rfl

/-- A match may start at any character, unless the expression starts with a set. -/
theorem Search.occursIn_iff {s : Search} (h : s.body.firstSet? = none) {text : List Char} :
    s.occursIn text = true ↔
      ∃ i ≤ text.length, (s.body.match? text.toArray (.start i) some).isSome := by
  simp only [occursIn, List.size_toArray, startsWith, h, Bool.true_and, List.any_eq_true,
    List.mem_range, Nat.lt_succ_iff]

/-- A sequence can only start as its first part does. -/
theorem firstSet?_sequence_cons {e : Expr} {es : List Expr} :
    (Expr.sequence (e :: es)).firstSet? = e.firstSet? := by
  cases es <;> rfl

/-- Where a match of literals and the sign for the end behind them starts, no more is left than them
and a line feed. -/
theorem isSome_match?_literalEnd {chars text : List Char} {i : Nat} (hi : i ≤ text.length) :
    ((Piece.sequence [] (literalPieces chars ++ [.textEnd])).match? text.toArray (.start i)
        some).isSome ↔
      text.drop i = chars ∨ text.drop i = chars ++ ['\n'] := by
  -- Behind the literal the anchor leaves room for nothing, or for one line feed.
  have hend : ∀ rest, chars ++ rest = text.drop i →
      (((Piece.sequence [] [.textEnd]).match? text.toArray (.goto (.start i) (i + chars.length))
        some).isSome ↔ rest = [] ∨ rest = ['\n']) := by
    intro rest hrest
    have hlength := congrArg List.length hrest
    rw [List.length_append, List.length_drop] at hlength
    have hdrop : text.drop (i + chars.length) = rest := by
      rw [← List.drop_drop, ← hrest, List.drop_left]
    rw [← hdrop]
    refine isSome_match?_anchor.trans ((and_iff_left rfl).trans ?_)
    exact holds_textEnd (by simp only [Spot.goto]; omega)
  rw [isSome_match?_literals]
  constructor
  · rintro ⟨⟨rest, hrest⟩, h⟩
    rw [← show chars ++ rest = text.drop i from hrest]
    rcases (hend rest hrest).1 h with rfl | rfl
    · exact Or.inl (List.append_nil chars)
    · exact Or.inr rfl
  · rintro (heq | heq)
    · rw [← List.append_nil chars] at heq
      exact ⟨⟨_, heq.symm⟩, (hend _ heq.symm).2 (Or.inl rfl)⟩
    · exact ⟨⟨_, heq.symm⟩, (hend _ heq.symm).2 (Or.inr rfl)⟩

/-- A literal text with the sign for the end behind it is found in the texts that end with it, or
with it and a line feed. -/
theorem occursIn_literalEnd {chars text : List Char} :
    (⟨Piece.sequence [] (literalPieces chars ++ [.textEnd]), .unicode⟩ : Search).occursIn text =
        true ↔
      chars <:+ text ∨ chars ++ ['\n'] <:+ text := by
  have hfirst : (Piece.sequence [] (literalPieces chars ++ [.textEnd])).firstSet? = none := by
    cases chars <;> exact firstSet?_sequence_cons
  have hsuffix : ∀ last : List Char, last <:+ text ↔ ∃ i ≤ text.length, text.drop i = last := by
    intro last
    constructor
    · rintro ⟨before, rfl⟩
      exact ⟨before.length, by simp, List.drop_left⟩
    · rintro ⟨i, -, rfl⟩
      exact List.drop_suffix i text
  rw [Search.occursIn_iff hfirst, hsuffix, hsuffix, ← exists_or]
  refine exists_congr fun i => ?_
  rw [← and_or_left]
  exact and_congr_right isSome_match?_literalEnd

/-- A literal text with the sign for the start before it is found in the texts that start with
it. -/
theorem occursIn_literalStart {chars text : List Char} :
    (⟨Piece.sequence [] (.textStart :: literalPieces chars), .unicode⟩ : Search).occursIn text =
        true ↔
      chars <+: text := by
  -- The anchor holds at the first position only, where the search begins anyway.
  have hmatch : ∀ i, ((Piece.sequence [] (.textStart :: literalPieces chars)).match? text.toArray
      (.start i) some).isSome ↔ i = 0 ∧ chars <+: text := by
    intro i
    have hstart : Anchor.textStart.holds text.toArray i = true ↔ i = 0 := decide_eq_true_iff
    rw [Piece.sequence, List.map_cons, Expr.match?_sequence_cons, ← Piece.sequence,
      ← List.append_nil (literalPieces chars)]
    refine isSome_match?_anchor.trans
      ((and_congr hstart (isSome_match?_literals chars [])).trans ?_)
    refine and_congr_right fun hi => (and_iff_left rfl).trans ?_
    rw [show (Spot.start i).position = 0 from hi, List.drop_zero]
  rw [Search.occursIn_iff firstSet?_sequence_cons]
  constructor
  · rintro ⟨i, -, h⟩
    exact ((hmatch i).1 h).2
  · exact fun h => ⟨0, Nat.zero_le _, (hmatch 0).2 ⟨rfl, h⟩⟩

end PhoneticCatalog.Context
