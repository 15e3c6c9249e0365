import PhoneticCatalog.Proofs.Context.Alignment

/-!
# Sequences and groups read with a sign behind them

Inside of a group the end of the first text is never reached by a reading that succeeds, since the
group has to be closed, so that groups agree (`group_together`). A sequence outside of all groups
may reach it, and then the sign behind it is one more piece of the sequence (`SequenceEnds`), unless
a comment that runs to the end of a line has taken it in.

The functions that call each other are related by induction on the fuel of the first reading
(`fuelAgrees`).
-/

namespace PhoneticCatalog.Context.Reader

variable {α β γ : Type}

/-! ## Up to the end of a text -/

section Sequences

variable {s : List Char} {F : List Flag}

/-- The readings agree, unless the first text is used up. -/
def Near (s : List Char) (F : List Flag) (m n : Reader α) : Prop :=
  Together (Aligned s F) m n fun a b st₁ st₂ =>
    st₁.cursor.rest = [] ∨ a = b ∧ Aligned s F st₁ st₂

/-- At the end of a text the reading does not succeed. -/
def FailsAtEnd (m : Reader α) : Prop :=
  ∀ st a st', st.cursor.rest = [] → m.run st ≠ .ok (a, st')

/-- At the end of a text there is no token. -/
theorem token_of_end {st : ReadState} (h : st.cursor.rest = []) : st.cursor.token = .stop := by
  unfold Cursor.token
  rw [h]

/-- At the end of a text no character is found. -/
theorem accept_of_end {c : Char} {st st' : ReadState} {found : Bool} (hrest : st.cursor.rest = [])
    (h : (accept c).run st = .ok (found, st')) : found = false ∧ st' = st := by
  obtain ⟨_, _, hpeek, h⟩ := exists_of_bind h
  cases hpeek
  rw [token_of_end hrest, if_neg nofun] at h
  cases h
  exact ⟨rfl, rfl⟩

/-- The sign behind a text is a token by itself. -/
theorem token_of_sign {st : ReadState} (h : st.cursor.rest = ['$']) :
    st.cursor.token = .plain '$' := by
  unfold Cursor.token
  rw [h]
  rfl

/-- A reading fails at the end if its first step does. -/
theorem FailsAtEnd.bind {m : Reader α} (h : FailsAtEnd m) (f : α → Reader β) :
    FailsAtEnd (m >>= f) := by
  intro st b st' hrest hrun
  obtain ⟨a, mid, hm, -⟩ := exists_of_bind hrun
  exact h _ _ _ hrest hm

/-- Changing anything but the cursor does not help at the end. -/
theorem FailsAtEnd.modify_bind {f : ReadState → ReadState}
    (hf : ∀ st, (f st).cursor = st.cursor) {m : Unit → Reader α} (h : ∀ u, FailsAtEnd (m u)) :
    FailsAtEnd (modify f >>= m) := by
  intro st a st' hrest hrun
  obtain ⟨_, _, hmodify, hrun⟩ := exists_of_bind hrun
  cases hmodify
  exact h _ _ _ _ ((congrArg Cursor.rest (hf st)).trans hrest) hrun

/-- At the end no character is seen, so that only the other branch counts. -/
theorem FailsAtEnd.peek_ite {c : Char} {m n : Reader α} (h : FailsAtEnd n) :
    FailsAtEnd (peek >>= fun t => if t = .plain c then m else n) := by
  intro st a st' hrest hrun
  obtain ⟨_, _, hpeek, hrun⟩ := exists_of_bind hrun
  cases hpeek
  rw [token_of_end hrest, if_neg nofun] at hrun
  exact h _ _ _ hrest hrun

/-- At the end no character is accepted, so that only the other branch counts. -/
theorem FailsAtEnd.accept_ite {c : Char} {m n : Reader α} (h : FailsAtEnd n) :
    FailsAtEnd (accept c >>= fun found => if found then m else n) := by
  intro st a st' hrest hrun
  obtain ⟨found, mid, haccept, hstep⟩ := exists_of_bind hrun
  obtain ⟨rfl, rfl⟩ := accept_of_end hrest haccept
  exact h _ _ _ hrest hstep

/-- No group is closed at the end of a text. -/
theorem FailsAtEnd.closing (start : Nat) : FailsAtEnd (closing start) := by
  intro st a st' hrest hrun
  obtain ⟨found, mid, haccept, hstep⟩ := exists_of_bind hrun
  obtain ⟨rfl, rfl⟩ := accept_of_end hrest haccept
  exact absurd hstep (Fails.failAt _ _ _ _ _)

/-- What does not succeed at the end of a text follows where the text is not used up. -/
theorem Near.bind {m n : Reader α} (h : Near s F m n) {f : α → Reader β} {g : α → Reader γ}
    {Q : β → γ → ReadState → ReadState → Prop} (hend : ∀ a, FailsAtEnd (f a))
    (hf : ∀ a, Together (Aligned s F) (f a) (g a) Q) :
    Together (Aligned s F) (m >>= f) (n >>= g) Q := by
  refine Together.bind h fun a b st₁ st₂ hab => ?_
  rcases hab with hrest | ⟨rfl, haligned⟩
  · exact fun c st₁' _ _ h₁ _ => absurd h₁ (hend a _ _ _ hrest)
  · exact hf a _ _ haligned

/-- A group is closed where the reading of its body agrees. -/
theorem Near.closing {m n : Reader α} (h : Near s F m n) {start start' : Nat} {f : α → Reader β}
    {g : α → Reader γ} {Q : β → γ → ReadState → ReadState → Prop}
    (hf : ∀ a, Together (Aligned s F) (f a) (g a) Q) :
    Together (Aligned s F) (do let a ← m; closing start; f a) (do let a ← n; closing start'; g a)
      Q :=
  h.bind (fun _ => (FailsAtEnd.closing _).bind _) fun a => Agree.bind closing_agrees fun _ => hf a

/-- What becomes of a sequence in the second text, where there are terms `base` before it. Where the
first text is used up, the sign behind it is one more piece. -/
def SequenceEnds (s : List Char) (F flags : List Flag) (first : Bool) (base : List Term)
    (ps qs : List Piece) (st₁ st₂ : ReadState) : Prop :=
  ∃ F', F ⊆ F' ∧ (first = false ∨ base ≠ [] → F' = F) ∧
    (st₁.cursor.rest ≠ [] ∧ qs = base.reverse.flatMap Term.pieces ++ ps ∧ Aligned s F' st₁ st₂ ∨
      st₁.cursor.rest = [] ∧ st₂.cursor.rest = [] ∧ st₁.flags = F' ∧ st₂.flags = F' ∧
        (.verbose ∉ flags → .verbose ∉ F' →
          qs = base.reverse.flatMap Term.pieces ++ ps ++ s.map fun _ => .textEnd))

/-- What becomes of a group. -/
def GroupEnds (s : List Char) (F : List Flag) (a b : GroupRead) (st₁ st₂ : ReadState) : Prop :=
  a = b ∧
    match a with
    | .switches => ∃ on, Aligned s (F ++ on) st₁ st₂
    | _ => Aligned s F st₁ st₂

/-- The functions that call each other agree, where those of the first reading have some fuel. -/
structure FuelAgrees (s : List Char) (fuel : Nat) : Prop where
  alternatives : ∀ {F fuel' flags}, Near s F (alternatives fuel flags false)
    (alternatives fuel' flags false)
  moreAlternatives : ∀ {F fuel' flags}, Near s F (moreAlternatives fuel flags)
    (moreAlternatives fuel' flags)
  sequence : ∀ {F fuel' flags first terms base}, Together (Aligned s F)
    (sequence fuel flags first terms) (sequence fuel' flags first (terms ++ base))
    (SequenceEnds s F flags first base)
  group : ∀ {F fuel' flags start start'}, Together (Aligned s F) (group fuel flags start)
    (group fuel' flags start') (GroupEnds s F)
  captured : ∀ {F fuel' flags start start' name}, Together (Aligned s F)
    (captured fuel flags start name) (captured fuel' flags start' name) (GroupEnds s F)
  lookBehind : ∀ {F fuel' flags start start' negated}, Together (Aligned s F)
    (lookBehind fuel flags start negated) (lookBehind fuel' flags start' negated) (GroupEnds s F)

variable {fuel fuel' : Nat} {flags : List Flag}

/-- A group that ends in the same term agrees. -/
theorem GroupEnds.pure_term (t : Term) : Together (Aligned s F) (pure (.term t)) (pure (.term t))
    (GroupEnds s F) := by
  intro st₁ st₂ h a st₁' b st₂' h₁ h₂
  cases h₁
  cases h₂
  exact ⟨rfl, h⟩

/-- Groups that are captured end alike. -/
theorem captured_together (ih : FuelAgrees s fuel) {start start' : Nat}
    {name : Option (List Char)} : Together (Aligned s F) (captured (fuel + 1) flags start name)
      (captured fuel' flags start' name) (GroupEnds s F) := by
  cases fuel' with
  | zero => exact (Fails.fail _).together_right
  | succ fuel' =>
    refine Agree.bind openGroup_agrees fun number => ?_
    refine Near.closing ih.alternatives fun ps => ?_
    refine Agree.bind closeGroup_agrees fun _ => ?_
    exact GroupEnds.pure_term _

/-- Look-behinds end alike. -/
theorem lookBehind_together (ih : FuelAgrees s fuel) {start start' : Nat} {negated : Bool} :
    Together (Aligned s F) (lookBehind (fuel + 1) flags start negated)
      (lookBehind fuel' flags start' negated) (GroupEnds s F) := by
  cases fuel' with
  | zero => exact (Fails.fail _).together_right
  | succ fuel' =>
    refine Agree.get_bind fun st₁ st₂ h => ?_
    rw [h.lookBehindFrom]
    refine Agree.bind nextGroup_agrees fun next => ?_
    -- The groups that are out of reach within are set before, and set back behind.
    have hset : ∀ floor : Option Nat, Agree s F (modify ({ · with lookBehindFrom := floor }))
        (modify ({ · with lookBehindFrom := floor })) := fun floor =>
      Agree.modify fun _ _ h => ⟨h.sign, h.rest, h.checked, h.groups, rfl, h.flags, h.flags_eq⟩
    refine Agree.bind (hset _) fun _ => ?_
    refine ih.alternatives.bind (fun ps => ?_) fun ps => ?_
    · refine .modify_bind (fun _ => ?_) fun _ => (FailsAtEnd.closing _).bind _
      rfl
    · refine Agree.bind (hset _) fun _ => ?_
      exact Agree.bind closing_agrees fun _ => GroupEnds.pure_term _

/-- A sequence inside of a group is nearly the same. -/
theorem sequence_near (ih : FuelAgrees s fuel) :
    Near s F (sequence fuel flags false []) (sequence fuel' flags false []) := by
  intro st₁ st₂ h a st₁' b st₂' h₁ h₂
  have hsequence : SequenceEnds s F flags false [] a b st₁' st₂' :=
    ih.sequence _ _ h _ _ _ _ h₁ h₂
  obtain ⟨F', -, hF, hends⟩ := hsequence
  obtain rfl := hF (Or.inl rfl)
  rcases hends with ⟨-, rfl, haligned⟩ | ⟨hrest, -⟩
  · exact Or.inr ⟨rfl, haligned⟩
  · exact Or.inl hrest

/-- A comment ends at the same place. -/
theorem comment_together {start start' : Nat} : Together (Aligned s F)
    (do
      let k := (← get).cursor
      match splitName ')' k.rest with
      | (text, .closed _) =>
        moveTo (k.advance (text.length + 1))
        return GroupRead.nothing
      | (_, .open) => failAt .unterminatedComment start
      | (text, .cutOff) => failAt .escapeAtEnd (k.passed + text.length))
    (do
      let k := (← get).cursor
      match splitName ')' k.rest with
      | (text, .closed _) =>
        moveTo (k.advance (text.length + 1))
        return GroupRead.nothing
      | (_, .open) => failAt .unterminatedComment start'
      | (text, .cutOff) => failAt .escapeAtEnd (k.passed + text.length))
    (GroupEnds s F) := by
  intro st₁ st₂ h a st₁' b st₂' h₁ h₂
  obtain ⟨_, _, hget₁, h₁⟩ := exists_of_bind h₁
  obtain ⟨_, _, hget₂, h₂⟩ := exists_of_bind h₂
  cases hget₁
  cases hget₂
  -- Only a comment that is closed is read; its closer stands before the sign in both texts.
  match hsplit : splitName ')' st₁.cursor.rest with
  | (text, .closed left) =>
    obtain ⟨happend, hle⟩ := splitName_append hsplit s
    simp only [hsplit] at h₁
    simp only [h.rest, happend] at h₂
    obtain ⟨_, _, hmove₁, h₁⟩ := exists_of_bind h₁
    obtain ⟨_, _, hmove₂, h₂⟩ := exists_of_bind h₂
    cases h₁
    cases h₂
    exact ⟨rfl, h.moveTo hle hmove₁ hmove₂⟩
  | (text, .open) =>
    simp only [hsplit] at h₁
    exact absurd h₁ (Fails.failAt _ _ _ _ _)
  | (text, .cutOff) =>
    simp only [hsplit] at h₁
    exact absurd h₁ (Fails.failAt _ _ _ _ _)

/-- Groups of every kind end alike, since they are closed before the end of the first text. -/
theorem group_together (ih : FuelAgrees s fuel) {start start' : Nat} :
    Together (Aligned s F) (group (fuel + 1) flags start) (group fuel' flags start')
      (GroupEnds s F) := by
  cases fuel' with
  | zero => exact (Fails.fail _).together_right
  | succ fuel' =>
    refine Agree.bind (accept_agrees (by decide)) fun extended => ?_
    dsimp only
    split
    · exact ih.captured
    refine Agree.take_bind (.fail _) fun t _ => ?_
    split
    · exact (Fails.fail _).together
    · -- A group with a name, or one that is matched again by its name.
      refine Agree.bind (accept_agrees (by decide)) fun named => ?_
      split
      · exact Agree.bind groupName_agrees fun name => ih.captured
      refine Agree.bind (accept_agrees (by decide)) fun again => ?_
      split
      · refine Agree.bind groupName_agrees fun name => ?_
        refine Agree.bind groupNamed?_agrees fun number => ?_
        split
        · exact (Fails.failBack _ _).together
        · exact Agree.bind again_agrees fun p => GroupEnds.pure_term _
      · refine Agree.take_bind (.fail _) fun t _ => ?_
        split
        · exact (Fails.fail _).together
        · exact (Fails.failBack _ _).together
    · exact ih.alternatives.closing fun ps => GroupEnds.pure_term _
    · exact comment_together
    · exact ih.alternatives.closing fun ps => GroupEnds.pure_term _
    · exact ih.alternatives.closing fun ps => GroupEnds.pure_term _
    · -- A look-behind.
      refine Agree.take_bind (.fail _) fun t _ => ?_
      split
      · exact (Fails.fail _).together
      · exact ih.lookBehind
      · exact ih.lookBehind
      · exact (Fails.failBack _ _).together
    · -- A choice by a group. Both branches are sequences, which end before the closing sign.
      refine Agree.bind conditionGroup_agrees fun number => ?_
      refine Agree.bind checkLookBehind_agrees fun _ => ?_
      have hclosing : ∀ yes no : List Piece, FailsAtEnd (do
          closing start
          return GroupRead.term (.piece (.whole
            (.ifGroup number (Piece.sequence flags yes) (Piece.sequence flags no))))) := fun _ _ =>
        (FailsAtEnd.closing _).bind _
      have hterm : ∀ yes no : List Piece, Together (Aligned s F) (do
          closing start
          return GroupRead.term (.piece (.whole
            (.ifGroup number (Piece.sequence flags yes) (Piece.sequence flags no))))) (do
          closing start'
          return GroupRead.term (.piece (.whole
            (.ifGroup number (Piece.sequence flags yes) (Piece.sequence flags no)))))
          (GroupEnds s F) := fun _ _ =>
        Agree.bind closing_agrees fun _ => GroupEnds.pure_term _
      refine (sequence_near ih).bind (fun yes => .accept_ite (hclosing yes [])) fun yes => ?_
      refine Agree.bind (accept_agrees (by decide)) fun bar => ?_
      split
      · refine (sequence_near ih).bind (fun no => .peek_ite (hclosing yes no)) fun no => ?_
        exact Together.peek_ite (by decide) ((Fails.fail _).bind _).together (hterm yes no)
      · exact hterm yes []
    · exact ih.alternatives.closing fun ps => GroupEnds.pure_term _
    · -- Switches, for the whole expression or for a group.
      split
      · refine Together.bind switches_together fun a b st₁ st₂ h => ?_
        obtain ⟨rfl, h⟩ := h
        cases a with
        | whole =>
          intro c st₁' d st₂' h₁ h₂
          cases h₁
          cases h₂
          exact ⟨rfl, h⟩
        | group on off =>
          exact ih.alternatives.closing (fun ps => GroupEnds.pure_term _) _ _ h
      · exact (Fails.failBack _ _).together

/-! ### Alternatives -/

/-- At the end of a text there are no more alternatives. -/
theorem moreAlternatives_of_end {st st' : ReadState} {more : List (List Piece)}
    (hrest : st.cursor.rest = [])
    (h : (moreAlternatives fuel flags).run st = .ok (more, st')) : more = [] ∧ st' = st := by
  cases fuel with
  | zero => exact absurd h (Fails.fail _ _ _ _)
  | succ fuel =>
    obtain ⟨found, mid, haccept, hstep⟩ := exists_of_bind h
    obtain ⟨rfl, rfl⟩ := accept_of_end hrest haccept
    cases hstep
    exact ⟨rfl, rfl⟩

/-- Further alternatives agree unless the first text is used up. -/
theorem moreAlternatives_near (ih : FuelAgrees s fuel) :
    Near s F (moreAlternatives (fuel + 1) flags) (moreAlternatives fuel' flags) := by
  cases fuel' with
  | zero => exact (Fails.fail _).together_right
  | succ fuel' =>
    refine Agree.bind (accept_agrees (by decide)) fun bar => ?_
    split
    · refine Together.bind (sequence_near ih) fun next next' => ?_
      -- Either the first reader stands at its end, where no alternative follows, or both go on
      -- alike.
      refine Together.or (fun st₁ st₂ hrest c st₁' d st₂' h₁ h₂ => ?_) ?_
      · obtain ⟨more, _, hmore, h₁⟩ := exists_of_bind h₁
        cases h₁
        obtain ⟨-, rfl⟩ := moreAlternatives_of_end hrest hmore
        exact Or.inl hrest
      · rintro st₁ st₂ ⟨rfl, h⟩ c st₁' d st₂' h₁ h₂
        obtain ⟨more, _, hmore₁, h₁⟩ := exists_of_bind h₁
        obtain ⟨more', _, hmore₂, h₂⟩ := exists_of_bind h₂
        cases h₁
        cases h₂
        exact (ih.moreAlternatives _ _ h _ _ _ _ hmore₁ hmore₂).imp_right
          fun ⟨heq, haligned⟩ => ⟨congrArg (next :: ·) heq, haligned⟩
    · exact fun st₁ st₂ h a st₁' b st₂' h₁ h₂ => Or.inr (Agree.pure _ _ _ h _ _ _ _ h₁ h₂)

/-- The alternatives within a group agree unless the first text is used up. -/
theorem alternatives_near (ih : FuelAgrees s fuel) :
    Near s F (alternatives (fuel + 1) flags false) (alternatives fuel' flags false) := by
  cases fuel' with
  | zero => exact (Fails.fail _).together_right
  | succ fuel' =>
    refine Together.bind (sequence_near ih) fun next next' => ?_
    -- Where the first reader stands at its end, no alternative follows there; else both read the
    -- same ones.
    refine Together.or (fun st₁ st₂ hrest c st₁' d st₂' h₁ h₂ => ?_) ?_
    · obtain ⟨_, _, hget, h₁⟩ := exists_of_bind h₁
      cases hget
      obtain ⟨more, _, hmore, h₁⟩ := exists_of_bind h₁
      cases h₁
      obtain ⟨-, rfl⟩ := moreAlternatives_of_end hrest hmore
      exact Or.inl hrest
    · rintro st₁ st₂ ⟨rfl, h⟩ c st₁' d st₂' h₁ h₂
      obtain ⟨_, _, hget₁, h₁⟩ := exists_of_bind h₁
      obtain ⟨_, _, hget₂, h₂⟩ := exists_of_bind h₂
      cases hget₁
      cases hget₂
      obtain ⟨more, _, hmore₁, h₁⟩ := exists_of_bind h₁
      obtain ⟨more', _, hmore₂, h₂⟩ := exists_of_bind h₂
      cases h₁
      cases h₂
      exact (ih.moreAlternatives _ _ h _ _ _ _ hmore₁ hmore₂).imp_right
        fun ⟨heq, haligned⟩ => ⟨congrArg (fun more => Piece.alternatives flags (next :: more)) heq,
          haligned⟩

/-! ### Sequences -/

/-- At the end of a text a sequence ends. -/
theorem sequence_of_end {first : Bool} {terms : List Term} {st st' : ReadState} {ps : List Piece}
    (hrest : st.cursor.rest = [])
    (h : (sequence fuel flags first terms).run st = .ok (ps, st')) :
    ps = terms.reverse.flatMap Term.pieces ∧ st' = st := by
  cases fuel with
  | zero => exact absurd h (Fails.fail _ _ _ _)
  | succ fuel =>
    obtain ⟨_, _, hpeek, h⟩ := exists_of_bind h
    cases hpeek
    rw [token_of_end hrest] at h
    cases h
    exact ⟨rfl, rfl⟩

/-- Before the sign that ends a text a sequence ends with one more piece. -/
theorem sequence_of_sign {first : Bool} {terms : List Term} {st st' : ReadState} {ps : List Piece}
    (hrest : st.cursor.rest = ['$'])
    (h : (sequence fuel flags first terms).run st = .ok (ps, st')) :
    ps = terms.reverse.flatMap Term.pieces ++ [.textEnd] ∧ st'.cursor.rest = [] ∧
      st'.flags = st.flags := by
  cases fuel with
  | zero => exact absurd h (Fails.fail _ _ _ _)
  | succ fuel =>
    have htoken := token_of_sign hrest
    obtain ⟨_, _, hpeek, h⟩ := exists_of_bind h
    cases hpeek
    rw [htoken] at h
    obtain ⟨_, _, hposition, h⟩ := exists_of_bind h
    cases hposition
    obtain ⟨_, mid, htake, h⟩ := exists_of_bind h
    obtain ⟨rfl, hmove⟩ := run_take htake
    obtain ⟨-, rfl⟩ := run_moveTo hmove
    rw [htoken] at h
    -- The sign is read as an anchor, and behind it the text is over.
    have hend : (sequence fuel flags first (.piece .textEnd :: terms)).run
        { st with cursor := st.cursor.advance 1 } = .ok (ps, st') := by
      simpa [isVerboseBlank, Token.written] using h
    obtain ⟨rfl, rfl⟩ := sequence_of_end (by simp [Cursor.advance, hrest]) hend
    exact ⟨by simp [Term.pieces], by simp [Cursor.advance, hrest], rfl⟩

/-- A token takes its characters off the text. -/
theorem cursor_of_take {st st' : ReadState} {t : Token} (h : take.run st = .ok (t, st')) :
    st'.cursor.rest = st.cursor.rest.drop t.written.length ∧ st'.flags = st.flags := by
  obtain ⟨rfl, hmove⟩ := run_take h
  obtain ⟨-, rfl⟩ := run_moveTo hmove
  exact ⟨rfl, rfl⟩

/-- A token is not empty, unless it is the end. -/
theorem length_lt_of_take {st st' : ReadState} {t : Token} (h : take.run st = .ok (t, st'))
    (hstop : t ≠ .stop) : st'.cursor.rest.length < st.cursor.rest.length := by
  have hrest : st.cursor.rest ≠ [] :=
    fun hrest => hstop ((run_take h).1.trans (token_of_end hrest))
  have hlength : 0 < t.written.length := by
    cases t with
    | stop => exact absurd rfl hstop
    | plain c => exact Nat.one_pos
    | escaped c => exact Nat.two_pos
  rw [(cursor_of_take h).1, List.length_drop]
  exact Nat.sub_lt (List.length_pos_iff.2 hrest) hlength

/-- At the end of a text there is no line to skip. -/
theorem skipLine_of_end {st st' : ReadState} {u : Unit} (hrest : st.cursor.rest = [])
    (h : (skipLine fuel).run st = .ok (u, st')) :
    st'.cursor.rest = [] ∧ st'.flags = st.flags := by
  cases fuel with
  | zero =>
    cases h
    exact ⟨hrest, rfl⟩
  | succ fuel =>
    obtain ⟨t, mid, htake, h⟩ := exists_of_bind h
    obtain ⟨hcursor, hflags⟩ := cursor_of_take htake
    obtain rfl := (run_take htake).1.trans (token_of_end hrest)
    cases h
    exact ⟨hcursor.trans (by simp [hrest]), hflags⟩

/-- The sign that ends a text is skipped with the line. -/
theorem skipLine_of_sign {st st' : ReadState} {u : Unit} (hrest : st.cursor.rest = ['$'])
    (h : (skipLine (fuel + 1)).run st = .ok (u, st')) :
    st'.cursor.rest = [] ∧ st'.flags = st.flags := by
  have htoken := token_of_sign hrest
  obtain ⟨t, mid, htake, h⟩ := exists_of_bind h
  obtain ⟨hcursor, hflags⟩ := cursor_of_take htake
  obtain rfl := (run_take htake).1.trans htoken
  obtain ⟨hend, hflags'⟩ := skipLine_of_end (hcursor.trans (by rw [hrest]; rfl)) h
  exact ⟨hend, hflags'.trans hflags⟩

/-- Skipping the rest of a line agrees, or uses up both texts. -/
theorem skipLine_together :
    Together (fun st₁ st₂ => Aligned s F st₁ st₂ ∧ st₁.cursor.rest.length < fuel ∧
        st₂.cursor.rest.length < fuel')
      (skipLine fuel) (skipLine fuel') fun _ _ st₁ st₂ =>
        Aligned s F st₁ st₂ ∨ st₁.cursor.rest = [] ∧ st₂.cursor.rest = [] ∧ st₁.flags = F ∧
          st₂.flags = F := by
  induction fuel generalizing fuel' with
  | zero => exact fun st₁ st₂ h => absurd h.2.1 (Nat.not_lt_zero _)
  | succ fuel ih =>
    cases fuel' with
    | zero => exact fun st₁ st₂ h => absurd h.2.2 (Nat.not_lt_zero _)
    | succ fuel' =>
      rintro st₁ st₂ ⟨h, hlt₁, hlt₂⟩ u st₁' v st₂' h₁ h₂
      by_cases hrest : st₁.cursor.rest = []
      · -- In the second text at most the sign is left, and it is skipped with the line.
        obtain ⟨hend₁, hflags₁⟩ := skipLine_of_end hrest h₁
        have hrest₂ := h.rest
        rw [hrest, List.nil_append] at hrest₂
        have hend₂ : st₂'.cursor.rest = [] ∧ st₂'.flags = st₂.flags := by
          rcases h.sign with rfl | rfl
          · exact skipLine_of_end hrest₂ h₂
          · exact skipLine_of_sign hrest₂ h₂
        exact Or.inr ⟨hend₁, hend₂.1, hflags₁.trans h.flags,
          hend₂.2.trans (h.flags_eq.trans h.flags)⟩
      obtain ⟨t, mid₁, htake₁, h₁⟩ := exists_of_bind h₁
      obtain ⟨t', mid₂, htake₂, h₂⟩ := exists_of_bind h₂
      rcases take_together _ _ h _ _ _ _ htake₁ htake₂ with ⟨rfl, hend⟩ | ⟨rfl, hstop, haligned⟩
      · exact absurd (run_take htake₁).1.symm (h.token hrest).2.1
      have hshorter : ∀ {st st' : ReadState} {n : Nat}, take.run st = .ok (t, st') →
          st.cursor.rest.length < n + 1 → st'.cursor.rest.length < n := by
        intro st st' n htake hlt
        have hlength := length_lt_of_take htake hstop
        omega
      have hrec := ih _ _ ⟨haligned, hshorter htake₁ hlt₁, hshorter htake₂ hlt₂⟩ u st₁' v st₂'
      cases t with
      | stop => exact absurd rfl hstop
      | escaped c => exact hrec h₁ h₂
      | plain c =>
        by_cases hline : c = '\n'
        · subst hline
          cases h₁
          cases h₂
          exact Or.inl haligned
        · split at h₁
          · rename_i heq
            cases heq
          · rename_i heq
            exact absurd (Token.plain.inj heq) hline
          split at h₂
          · rename_i heq
            cases heq
          · rename_i heq
            exact absurd (Token.plain.inj heq) hline
          exact hrec h₁ h₂

/-- Positions are asked for, and need not be the same. -/
theorem position_together :
    Together (Aligned s F) position position fun _ _ st₁ st₂ => Aligned s F st₁ st₂ := by
  intro st₁ st₂ h a st₁' b st₂' h₁ h₂
  cases h₁
  cases h₂
  exact h

/-- A comment up to the end of a line is passed alike, or takes in the sign. -/
theorem comment_line_together (ih : FuelAgrees s fuel) {first : Bool} {terms base : List Term}
    (hflags : .verbose ∈ flags) :
    Together (Aligned s F)
      (do
        skipLine ((← get).cursor.rest.length + 1)
        sequence fuel flags first terms)
      (do
        skipLine ((← get).cursor.rest.length + 1)
        sequence fuel' flags first (terms ++ base))
      (SequenceEnds s F flags first base) := by
  intro st₁ st₂ h ps st₁' qs st₂' h₁ h₂
  obtain ⟨_, _, hget₁, h₁⟩ := exists_of_bind h₁
  obtain ⟨_, _, hget₂, h₂⟩ := exists_of_bind h₂
  cases hget₁
  cases hget₂
  obtain ⟨_, _, hskip₁, h₁⟩ := exists_of_bind h₁
  obtain ⟨_, _, hskip₂, h₂⟩ := exists_of_bind h₂
  -- Either the comment ends with its line in both texts, or both texts end in it.
  rcases skipLine_together _ _ ⟨h, Nat.lt_succ_self _, Nat.lt_succ_self _⟩ _ _ _ _ hskip₁ hskip₂
    with haligned | ⟨hrest₁, hrest₂, hflags₁, hflags₂⟩
  · exact ih.sequence _ _ haligned _ _ _ _ h₁ h₂
  · obtain ⟨rfl, rfl⟩ := sequence_of_end hrest₁ h₁
    obtain ⟨rfl, rfl⟩ := sequence_of_end hrest₂ h₂
    exact ⟨F, List.Subset.refl _, fun _ => rfl,
      Or.inr ⟨hrest₁, hrest₂, hflags₁, hflags₂, fun hverbose => absurd hflags hverbose⟩⟩

/-- Before the end of the first text, the same token comes next. -/
theorem Together.peek_bind {f g : Token → Reader α} {Q : α → α → ReadState → ReadState → Prop}
    (hf : ∀ t, t ≠ .stop →
      Together (fun st₁ st₂ => Aligned s F st₁ st₂ ∧ st₁.cursor.rest ≠ []) (f t) (g t) Q) :
    Together (fun st₁ st₂ => Aligned s F st₁ st₂ ∧ st₁.cursor.rest ≠ []) (peek >>= f)
      (peek >>= g) Q := by
  rintro st₁ st₂ ⟨h, hrest⟩ a st₁' b st₂' h₁ h₂
  obtain ⟨_, _, hpeek₁, h₁⟩ := exists_of_bind h₁
  obtain ⟨_, _, hpeek₂, h₂⟩ := exists_of_bind h₂
  cases hpeek₁
  cases hpeek₂
  obtain ⟨htoken, hstop, -⟩ := h.token hrest
  rw [htoken] at h₂
  exact hf _ hstop _ _ ⟨h, hrest⟩ _ _ _ _ h₁ h₂

/-- Both sequences end where the first text is used up. -/
theorem SequenceEnds.of_end {first : Bool} {terms base : List Term} {st₁ st₂ st₁' st₂' : ReadState}
    {ps qs : List Piece} (h : Aligned s F st₁ st₂) (hrest : st₁.cursor.rest = [])
    (h₁ : (sequence fuel flags first terms).run st₁ = .ok (ps, st₁'))
    (h₂ : (sequence fuel' flags first (terms ++ base)).run st₂ = .ok (qs, st₂')) :
    SequenceEnds s F flags first base ps qs st₁' st₂' := by
  obtain ⟨rfl, rfl⟩ := sequence_of_end hrest h₁
  have hrest₂ := h.rest
  rw [hrest, List.nil_append] at hrest₂
  refine ⟨F, List.Subset.refl _, fun _ => rfl, Or.inr ⟨hrest, ?_⟩⟩
  rcases h.sign with rfl | rfl
  · obtain ⟨rfl, rfl⟩ := sequence_of_end hrest₂ h₂
    exact ⟨hrest₂, h.flags, h.flags_eq.trans h.flags, fun _ _ => by simp⟩
  · obtain ⟨rfl, hend, hflags⟩ := sequence_of_sign hrest₂ h₂
    exact ⟨hend, h.flags, (hflags.trans h.flags_eq).trans h.flags, fun _ _ => by simp⟩

/-- A sequence that ends before more text has read the same in both. -/
theorem SequenceEnds.of_terms {first : Bool} {terms base : List Term} :
    Together (fun st₁ st₂ => Aligned s F st₁ st₂ ∧ st₁.cursor.rest ≠ [])
      (pure (terms.reverse.flatMap Term.pieces))
      (pure ((terms ++ base).reverse.flatMap Term.pieces))
      (SequenceEnds s F flags first base) := by
  rintro st₁ st₂ ⟨h, hrest⟩ a st₁' b st₂' h₁ h₂
  cases h₁
  cases h₂
  refine ⟨F, List.Subset.refl _, fun _ => rfl, Or.inl ⟨hrest, ?_, h⟩⟩
  rw [List.reverse_append, List.flatMap_append]

/-- After switches for the whole expression a sequence goes on with them, where it may have them. -/
theorem switches_sequence_together (ih : FuelAgrees s fuel) {first : Bool}
    {terms base : List Term} {start start' : Nat} :
    Together (fun st₁ st₂ => ∃ on, Aligned s (F ++ on) st₁ st₂)
      (do
        if !first || !terms.isEmpty then failAt .flagsNotAtStart start
        let flags := (← get).flags
        sequence fuel flags first terms)
      (do
        if !first || !(terms ++ base).isEmpty then failAt .flagsNotAtStart start'
        let flags := (← get).flags
        sequence fuel' flags first (terms ++ base))
      (SequenceEnds s F flags first base) := by
  rintro st₁ st₂ ⟨on, h⟩ ps st₁' qs st₂' h₁ h₂
  dsimp only at h₁ h₂
  -- Switches for a whole text stand at its start, or both readers fail.
  split at h₁
  · exact absurd h₁ ((Fails.failAt _ _).bind _ _ _ _)
  rename_i hfirst
  split at h₂
  · exact absurd h₂ ((Fails.failAt _ _).bind _ _ _ _)
  obtain ⟨_, _, hget₁, h₁⟩ := exists_of_bind h₁
  obtain ⟨_, _, hget₂, h₂⟩ := exists_of_bind h₂
  cases hget₁
  cases hget₂
  rw [h.flags_eq] at h₂
  rw [h.flags] at h₁ h₂
  obtain ⟨F', hsub, -, hends⟩ := ih.sequence _ _ h _ _ _ _ h₁ h₂
  have hF : F ⊆ F' := fun f hf => hsub (List.mem_append_left _ hf)
  refine ⟨F', hF, fun hnot => absurd hnot (by simp_all), hends.imp_right ?_⟩
  rintro ⟨hrest₁, hrest₂, hflags₁, hflags₂, hpieces⟩
  exact ⟨hrest₁, hrest₂, hflags₁, hflags₂, fun _ hF' => hpieces (fun hon => hF' (hsub hon)) hF'⟩

/-- A sign of a repeat is one, or a letter like others where no counts stand behind it. -/
theorem repeats_together (ih : FuelAgrees s fuel) {c : Char} {start start' : Nat} {first : Bool}
    {terms base : List Term} :
    Together (Aligned s F)
      (do
        match ← counts? c with
        | some counts => sequence fuel flags first (← repeatTerm flags start counts terms)
        | none => sequence fuel flags first (.piece (.literal false c.toNat) :: terms))
      (do
        match ← counts? c with
        | some counts =>
          sequence fuel' flags first (← repeatTerm flags start' counts (terms ++ base))
        | none => sequence fuel' flags first (.piece (.literal false c.toNat) :: (terms ++ base)))
      (SequenceEnds s F flags first base) := by
  refine Agree.bind counts?_agrees fun counts => ?_
  -- A sign that counts nothing is read as itself.
  cases counts with
  | none => exact ih.sequence
  | some counts =>
    refine Together.bind repeatTerm_agrees fun terms' all st₁ st₂ h => ?_
    obtain ⟨rfl, h⟩ := h
    exact ih.sequence st₁ st₂ h

/-- Sequences agree up to the end of the first text, where the sign makes one more piece. -/
theorem sequence_together (ih : FuelAgrees s fuel) {first : Bool} {terms base : List Term} :
    Together (Aligned s F) (sequence (fuel + 1) flags first terms)
      (sequence fuel' flags first (terms ++ base)) (SequenceEnds s F flags first base) := by
  intro st₁ st₂ h
  by_cases hrest : st₁.cursor.rest = []
  · exact fun ps st₁' qs st₂' h₁ h₂ => SequenceEnds.of_end h hrest h₁ h₂
  -- From here on the same token comes next in both texts.
  revert st₁ st₂
  suffices hmore : Together (fun st₁ st₂ => Aligned s F st₁ st₂ ∧ st₁.cursor.rest ≠ [])
      (sequence (fuel + 1) flags first terms) (sequence fuel' flags first (terms ++ base))
      (SequenceEnds s F flags first base) from
    fun st₁ st₂ h hrest => hmore st₁ st₂ ⟨h, hrest⟩
  cases fuel' with
  | zero => exact (Fails.fail _).together_right
  | succ fuel' =>
    refine Together.peek_bind fun t _ => ?_
    split
    · exact SequenceEnds.of_terms
    · exact SequenceEnds.of_terms
    · exact SequenceEnds.of_terms
    refine Together.weaken (fun st₁ st₂ h => h.1) ?_
    refine Together.bind position_together fun start start' => ?_
    refine Agree.take_bind (.fail _) fun t _ => ?_
    split
    · exact (Fails.fail _).together
    · exact Agree.bind escape_agrees fun p => ih.sequence
    rename_i c _
    split
    · exact ih.sequence
    split
    · rename_i hcomment
      exact comment_line_together ih (by simp_all)
    split
    · exact Agree.bind set_agrees fun p => ih.sequence
    · exact ih.sequence
    · exact ih.sequence
    · exact ih.sequence
    · refine Together.bind ih.group fun a b st₁ st₂ h => ?_
      obtain ⟨rfl, h⟩ := h
      cases a with
      | nothing => exact ih.sequence st₁ st₂ h
      | switches => exact switches_sequence_together ih st₁ st₂ h
      | term t => exact ih.sequence st₁ st₂ h
    · exact repeats_together ih
    · exact repeats_together ih
    · exact repeats_together ih
    · exact repeats_together ih
    · exact ih.sequence

/-- The functions that call each other agree, whatever fuel they have. -/
theorem fuelAgrees (s : List Char) (fuel : Nat) : FuelAgrees s fuel := by
  induction fuel with
  | zero =>
    exact ⟨(Fails.fail _).together, (Fails.fail _).together, (Fails.fail _).together,
      (Fails.fail _).together, (Fails.fail _).together, (Fails.fail _).together⟩
  | succ fuel ih =>
    exact ⟨alternatives_near ih, moreAlternatives_near ih, sequence_together ih, group_together ih,
      captured_together ih, lookBehind_together ih⟩

end Sequences

end PhoneticCatalog.Context.Reader
