import PhoneticCatalog.Context.Reader

/-!
# Two readings at once

A text and the same text with the sign for its end behind it are read the same way, up to the end of
the first one. `Together` relates two readings that both succeed, whatever fuel they have and at
whatever positions they stand, and `Agree` says that they keep two states aligned (`Aligned`) and
have the same result. Here are the rules for both, and the readings of single tokens, of characters
that pass a test and of names.
-/

namespace PhoneticCatalog.Context

/-- The state in which a text is read. -/
def ReadState.initial (text : List Char) : ReadState :=
  { cursor := ⟨0, text⟩, groups := [], lookBehindFrom := none, asked := [], flags := [] }

namespace Reader

variable {α β γ δ : Type}

/-- A text is refused by the reading of the whole expression. -/
theorem run_of_read_error {text : List Char} {r : Refusal} (h : Search.read text = .error r) :
    whole.run (.initial text) = .error r := by
  change (whole.run (.initial text)).map (·.1) = .error r at h
  cases hwhole : whole.run (.initial text) with
  | error r' =>
    rw [hwhole] at h
    exact congrArg Except.error (Except.error.inj h)
  | ok p =>
    rw [hwhole] at h
    cases h

/-- A text that is read as an expression has a reading of the whole that succeeds. -/
theorem exists_run_of_read {text : List Char} {s : Search} (h : Search.read text = .ok s) :
    ∃ st, whole.run (.initial text) = .ok (s, st) := by
  change (whole.run (.initial text)).map (·.1) = .ok s at h
  cases hwhole : whole.run (.initial text) with
  | error r =>
    rw [hwhole] at h
    cases h
  | ok p =>
    rw [hwhole] at h
    obtain rfl := Except.ok.inj h
    exact ⟨p.2, rfl⟩

/-! ## Two readings at once -/

/-- If both readings succeed, from states that are related before, then their results and states are
related afterwards. -/
def Together (P : ReadState → ReadState → Prop) (m : Reader α) (n : Reader β)
    (Q : α → β → ReadState → ReadState → Prop) : Prop :=
  ∀ st₁ st₂, P st₁ st₂ → ∀ a st₁' b st₂', m.run st₁ = .ok (a, st₁') → n.run st₂ = .ok (b, st₂') →
    Q a b st₁' st₂'

/-- The reading does not succeed. -/
def Fails (m : Reader α) : Prop := ∀ st a st', m.run st ≠ .ok (a, st')

/-- A reading that succeeds in two steps succeeds in each of them. -/
theorem exists_of_bind {m : Reader α} {f : α → Reader β} {st st' : ReadState} {b : β}
    (h : (m >>= f).run st = .ok (b, st')) :
    ∃ a mid, m.run st = .ok (a, mid) ∧ (f a).run mid = .ok (b, st') := by
  rw [StateT.run_bind] at h
  cases hm : m.run st with
  | error r =>
    rw [hm] at h
    cases h
  | ok p =>
    rw [hm] at h
    exact ⟨p.1, p.2, rfl, h⟩

/-- What follows a reading that fails is never reached. -/
theorem Fails.bind {m : Reader α} (h : Fails m) (f : α → Reader β) : Fails (m >>= f) := by
  intro st b st' hrun
  obtain ⟨a, mid, hm, -⟩ := exists_of_bind hrun
  exact h _ _ _ hm

/-- A refusal is no success. -/
theorem Fails.throw (r : Refusal) : Fails (throw r : Reader α) := fun _ _ _ h => nomatch h

/-- A fault reported further back is no success. -/
theorem Fails.failBack (fault : Fault) (back : Nat) : Fails (failBack fault back : Reader α) :=
  fun _ _ _ h => nomatch h

/-- A fault reported at the cursor is no success. -/
theorem Fails.fail (fault : Fault) : Fails (fail fault : Reader α) := Fails.failBack _ _

/-- A fault reported at a position is no success. -/
theorem Fails.failAt (fault : Fault) (position : Nat) : Fails (failAt fault position : Reader α) :=
  fun _ _ _ h => nomatch h

/-- Nothing has to be shown where the first reading fails. -/
theorem Fails.together {m : Reader α} (h : Fails m) {n : Reader β}
    {P : ReadState → ReadState → Prop} {Q : α → β → ReadState → ReadState → Prop} :
    Together P m n Q := fun _ _ _ _ _ _ _ hm _ => absurd hm (h _ _ _)

/-- Nothing has to be shown where the second reading fails. -/
theorem Fails.together_right {n : Reader β} (h : Fails n) {m : Reader α}
    {P : ReadState → ReadState → Prop} {Q : α → β → ReadState → ReadState → Prop} :
    Together P m n Q := fun _ _ _ _ _ _ _ _ hn => absurd hn (h _ _ _)

/-- Two pairs of readings in turn are related through what is known in between. -/
theorem Together.bind {P : ReadState → ReadState → Prop} {m : Reader α} {n : Reader β}
    {Q : α → β → ReadState → ReadState → Prop} {f : α → Reader γ} {g : β → Reader δ}
    {R : γ → δ → ReadState → ReadState → Prop} (h : Together P m n Q)
    (hf : ∀ a b, Together (Q a b) (f a) (g b) R) : Together P (m >>= f) (n >>= g) R := by
  intro st₁ st₂ hP c st₁' d st₂' hm hn
  obtain ⟨a, mid₁, hm, hfa⟩ := exists_of_bind hm
  obtain ⟨b, mid₂, hn, hgb⟩ := exists_of_bind hn
  exact hf a b _ _ (h _ _ hP _ _ _ _ hm hn) _ _ _ _ hfa hgb

/-- Readings that are related from some states are so from fewer. -/
theorem Together.weaken {P P' : ReadState → ReadState → Prop} {m : Reader α} {n : Reader β}
    {Q : α → β → ReadState → ReadState → Prop} (hP : ∀ st₁ st₂, P st₁ st₂ → P' st₁ st₂)
    (h : Together P' m n Q) : Together P m n Q := fun st₁ st₂ hst => h st₁ st₂ (hP st₁ st₂ hst)

/-- Readings may be related for different reasons from different states. -/
theorem Together.or {P P' : ReadState → ReadState → Prop} {m : Reader α} {n : Reader β}
    {Q : α → β → ReadState → ReadState → Prop} (h : Together P m n Q) (h' : Together P' m n Q) :
    Together (fun st₁ st₂ => P st₁ st₂ ∨ P' st₁ st₂) m n Q :=
  fun st₁ st₂ hP => hP.elim (h st₁ st₂) (h' st₁ st₂)

/-! ## Aligned states -/

/-- Behind what is left of the first text there is `s` in the second one, the empty text or the sign
for the end of a text. All else is the same, but for positions; the switches set are `F`. -/
structure Aligned (s : List Char) (F : List Flag) (st₁ st₂ : ReadState) : Prop where
  sign : s = [] ∨ s = ['$']
  rest : st₂.cursor.rest = st₁.cursor.rest ++ s
  checked : st₁.cursor.rest ≠ ['\\']
  groups : st₂.groups = st₁.groups
  lookBehindFrom : st₂.lookBehindFrom = st₁.lookBehindFrom
  flags : st₁.flags = F
  flags_eq : st₂.flags = st₁.flags

/-- The readings agree: from aligned states they end with the same result, in aligned states. -/
def Agree (s : List Char) (F : List Flag) (m n : Reader α) : Prop :=
  Together (Aligned s F) m n fun a b st₁ st₂ => a = b ∧ Aligned s F st₁ st₂

section Rules

variable {s : List Char} {F : List Flag} {m n : Reader α} {f : α → Reader β} {g : α → Reader γ}
  {Q : β → γ → ReadState → ReadState → Prop}

/-- Readings that agree may be followed by any that are related after the same result. -/
theorem Agree.bind (h : Agree s F m n) (hf : ∀ a, Together (Aligned s F) (f a) (g a) Q) :
    Together (Aligned s F) (m >>= f) (n >>= g) Q := by
  refine Together.bind h fun a b st₁ st₂ hab => ?_
  obtain ⟨rfl, haligned⟩ := hab
  exact hf a st₁ st₂ haligned

/-- The same result without reading anything agrees. -/
theorem Agree.pure (a : α) : Agree s F (pure a) (pure a) := by
  intro st₁ st₂ h b st₁' c st₂' hb hc
  cases hb
  cases hc
  exact ⟨rfl, h⟩

/-- Readings that agree for any two aligned states agree for those that they are in. -/
theorem Agree.get_bind {f : ReadState → Reader β} {g : ReadState → Reader γ}
    (hf : ∀ st₁ st₂, Aligned s F st₁ st₂ → Together (Aligned s F) (f st₁) (g st₂) Q) :
    Together (Aligned s F) (get >>= f) (get >>= g) Q := by
  intro st₁ st₂ h b st₁' c st₂' hb hc
  exact hf st₁ st₂ h st₁ st₂ h _ _ _ _ hb hc

/-- Changes of the states agree if they keep them aligned. -/
theorem Agree.modify {f g : ReadState → ReadState}
    (h : ∀ st₁ st₂, Aligned s F st₁ st₂ → Aligned s F (f st₁) (g st₂)) :
    Agree s F (modify f) (modify g) := by
  intro st₁ st₂ haligned a st₁' b st₂' h₁ h₂
  cases h₁
  cases h₂
  exact ⟨rfl, h _ _ haligned⟩

/-- A reading that fails agrees with any other. -/
theorem Fails.agree {m : Reader α} (h : Fails m) {n : Reader α} : Agree s F m n := h.together

/-- A check that fails on both sides may be passed over. -/
theorem Together.unless {P : ReadState → ReadState → Prop} {c : Prop} [Decidable c]
    {m m' : Reader α} {f : α → Reader β} {g : α → Reader γ} {f' : Reader β} {g' : Reader γ}
    (hm : Fails m) (h : ¬ c → Together P f' g' Q) :
    Together P (if c then m >>= f else f') (if c then m' >>= g else g') Q := by
  by_cases hc : c
  · rw [if_pos hc, if_pos hc]
    exact (hm.bind f).together
  · rw [if_neg hc, if_neg hc]
    exact h hc

/-- Two ways that come together again agree if each of them does. -/
theorem Agree.ite_bind {c : Prop} [Decidable c] {m m' n n' : Reader α} (h : Agree s F m n)
    (h' : Agree s F m' n') (hf : ∀ a, Together (Aligned s F) (f a) (g a) Q) :
    Together (Aligned s F) (if c then m >>= f else m' >>= f) (if c then n >>= g else n' >>= g)
      Q := by
  by_cases hc : c
  · rw [if_pos hc, if_pos hc]
    exact Agree.bind h hf
  · rw [if_neg hc, if_neg hc]
    exact Agree.bind h' hf

end Rules

/-! ## Single tokens -/

section Tokens

variable {s : List Char} {F : List Flag} {st₁ st₂ : ReadState}

/-- Before the end of the first text, the same token comes next. -/
theorem Aligned.token (h : Aligned s F st₁ st₂) (hrest : st₁.cursor.rest ≠ []) :
    st₂.cursor.token = st₁.cursor.token ∧ st₁.cursor.token ≠ .stop ∧
      st₁.cursor.token.written.length ≤ st₁.cursor.rest.length := by
  have hrest₂ := h.rest
  have hchecked := h.checked
  unfold Cursor.token
  rw [hrest₂]
  -- With one character left the second text goes on with a sign behind it, which makes an escape of
  -- a backslash only.
  match hr : st₁.cursor.rest with
  | [] => exact absurd hr hrest
  | [c] =>
    have hc : c ≠ '\\' := by
      rintro rfl
      exact hchecked hr
    rcases h.sign with rfl | rfl <;> simp [hc, Token.written]
  | c :: d :: rest =>
    by_cases hc : c = '\\'
    · subst hc
      simp [Token.written]
    · simp [hc, Token.written]

/-- Moving the cursor succeeds anywhere but before a lone backslash at the end. -/
theorem run_moveTo {k : Cursor} {st st' : ReadState} {u : Unit}
    (h : (moveTo k).run st = .ok (u, st')) :
    k.rest ≠ ['\\'] ∧ st' = { st with cursor := k } := by
  by_cases hk : k.rest = ['\\']
  · refine absurd h ?_
    simp [moveTo, Cursor.checked, hk]
    nofun
  · refine ⟨hk, ?_⟩
    have : (moveTo k).run st = .ok ((), { st with cursor := k }) := by
      simp [moveTo, Cursor.checked, hk]
      rfl
    rw [this] at h
    exact (Prod.mk.inj (Except.ok.inj h)).2.symm

/-- Cursors that are apart by the sign behind them are moved alike. -/
theorem moveTo_agrees {k₁ k₂ : Cursor} (h : k₂.rest = k₁.rest ++ s) :
    Agree s F (moveTo k₁) (moveTo k₂) := by
  intro st₁ st₂ haligned u st₁' v st₂' h₁ h₂
  obtain ⟨hchecked, rfl⟩ := run_moveTo h₁
  obtain ⟨-, rfl⟩ := run_moveTo h₂
  exact ⟨rfl, haligned.sign, h, hchecked, haligned.groups, haligned.lookBehindFrom, haligned.flags,
    haligned.flags_eq⟩

/-- Moving on by the same number of characters keeps the states aligned. -/
theorem Aligned.moveTo (h : Aligned s F st₁ st₂) {n : Nat} (hn : n ≤ st₁.cursor.rest.length) :
    ∀ {st₁' st₂' : ReadState} {u v : Unit},
      (moveTo (st₁.cursor.advance n)).run st₁ = .ok (u, st₁') →
      (moveTo (st₂.cursor.advance n)).run st₂ = .ok (v, st₂') → Aligned s F st₁' st₂' := by
  intro st₁' st₂' u v h₁ h₂
  obtain ⟨hchecked, rfl⟩ := run_moveTo h₁
  obtain ⟨-, rfl⟩ := run_moveTo h₂
  exact ⟨h.sign, by simp [Cursor.advance, h.rest, List.drop_append_of_le_length hn], hchecked,
    h.groups, h.lookBehindFrom, h.flags, h.flags_eq⟩

/-- Taking a token moves the cursor behind what it is written as. -/
theorem run_take {st st' : ReadState} {t : Token} (h : take.run st = .ok (t, st')) :
    t = st.cursor.token ∧
      (moveTo (st.cursor.advance st.cursor.token.written.length)).run st = .ok ((), st') := by
  obtain ⟨_, _, hget, h⟩ := exists_of_bind h
  cases hget
  obtain ⟨_, _, hmove, h⟩ := exists_of_bind h
  cases h
  exact ⟨rfl, hmove⟩

/-- A token that is taken agrees, unless the first text is at its end. -/
theorem take_together :
    Together (Aligned s F) take take fun t u st₁ st₂ =>
      t = .stop ∧ st₁.cursor.rest = [] ∨ t = u ∧ t ≠ .stop ∧ Aligned s F st₁ st₂ := by
  intro st₁ st₂ h t st₁' u st₂' h₁ h₂
  obtain ⟨rfl, hmove₁⟩ := run_take h₁
  obtain ⟨rfl, hmove₂⟩ := run_take h₂
  by_cases hrest : st₁.cursor.rest = []
  · have htoken : st₁.cursor.token = .stop := by
      unfold Cursor.token
      rw [hrest]
    obtain ⟨-, rfl⟩ := run_moveTo hmove₁
    exact Or.inl ⟨htoken, by simp [Cursor.advance, hrest]⟩
  · obtain ⟨htoken, hstop, hle⟩ := h.token hrest
    rw [htoken] at hmove₂
    exact Or.inr ⟨htoken.symm, hstop, h.moveTo hle hmove₁ hmove₂⟩

/-- What follows a token agrees if it agrees for every token, and fails where no token is left. -/
theorem Agree.take_bind {f g : Token → Reader α} {Q : α → α → ReadState → ReadState → Prop}
    (hstop : Fails (f .stop)) (hf : ∀ t, t ≠ .stop → Together (Aligned s F) (f t) (g t) Q) :
    Together (Aligned s F) (Reader.take >>= f) (Reader.take >>= g) Q := by
  refine Together.bind take_together fun t u st₁ st₂ h => ?_
  rcases h with ⟨rfl, -⟩ | ⟨rfl, ht, haligned⟩
  · exact fun a st₁' _ _ h₁ _ => absurd h₁ (hstop _ _ _)
  · exact hf t ht _ _ haligned

/-- Whether a character other than the sign comes next is the same. -/
theorem Aligned.token_eq_plain (h : Aligned s F st₁ st₂) {c : Char} (hc : c ≠ '$') :
    st₂.cursor.token = .plain c ↔ st₁.cursor.token = .plain c := by
  by_cases hrest : st₁.cursor.rest = []
  · have hrest₂ := h.rest
    unfold Cursor.token
    rw [hrest₂, hrest]
    rcases h.sign with rfl | rfl <;> simp [hc.symm]
  · rw [(h.token hrest).1]

/-- Whether a character other than the sign comes next decides the same way. -/
theorem Together.peek_ite {c : Char} (hc : c ≠ '$') {m m' : Reader α} {n n' : Reader β}
    {Q : α → β → ReadState → ReadState → Prop}
    (hyes : Together (fun st₁ st₂ => Aligned s F st₁ st₂ ∧ st₁.cursor.token = .plain c) m n Q)
    (hno : Together (Aligned s F) m' n' Q) :
    Together (Aligned s F) (peek >>= fun t => if t = .plain c then m else m')
      (peek >>= fun t => if t = .plain c then n else n') Q := by
  intro st₁ st₂ h a st₁' b st₂' h₁ h₂
  obtain ⟨_, _, hpeek₁, h₁⟩ := exists_of_bind h₁
  obtain ⟨_, _, hpeek₂, h₂⟩ := exists_of_bind h₂
  cases hpeek₁
  cases hpeek₂
  by_cases hnext : st₁.cursor.token = .plain c
  · rw [if_pos hnext] at h₁
    rw [if_pos ((h.token_eq_plain hc).2 hnext)] at h₂
    exact hyes _ _ ⟨h, hnext⟩ _ _ _ _ h₁ h₂
  · rw [if_neg hnext] at h₁
    rw [if_neg (mt (h.token_eq_plain hc).1 hnext)] at h₂
    exact hno _ _ h _ _ _ _ h₁ h₂

/-- Whether a character other than the sign is accepted agrees. -/
theorem accept_agrees {c : Char} (hc : c ≠ '$') : Agree s F (accept c) (accept c) := by
  refine Together.peek_ite hc ?_ (Agree.pure false)
  rintro st₁ st₂ ⟨h, hnext⟩ a st₁' b st₂' h₁ h₂
  obtain ⟨t, _, htake₁, h₁⟩ := exists_of_bind h₁
  obtain ⟨u, _, htake₂, h₂⟩ := exists_of_bind h₂
  cases h₁
  cases h₂
  rcases take_together _ _ h _ _ _ _ htake₁ htake₂ with ⟨rfl, -⟩ | ⟨-, -, haligned⟩
  · cases (run_take htake₁).1.trans hnext
  · exact ⟨rfl, haligned⟩

/-- Taking characters that pass a test moves the cursor behind them. -/
theorem run_takeUpTo {most : Nat} {test : Char → Bool} {st st' : ReadState} {taken : List Char}
    (h : (takeUpTo most test).run st = .ok (taken, st')) :
    taken = (st.cursor.rest.take most).takeWhile test ∧
      (moveTo (st.cursor.advance taken.length)).run st = .ok ((), st') := by
  obtain ⟨_, _, hget, h⟩ := exists_of_bind h
  cases hget
  obtain ⟨_, _, hmove, h⟩ := exists_of_bind h
  cases h
  exact ⟨rfl, hmove⟩

/-- The sign is not taken with the characters that pass a test. -/
theorem takeWhile_take_append {test : Char → Bool} (hs : s = [] ∨ s = ['$'])
    (htest : test '$' = false) (rest : List Char) (most : Nat) :
    ((rest ++ s).take most).takeWhile test = (rest.take most).takeWhile test := by
  induction rest generalizing most with
  | nil => rcases hs with rfl | rfl <;> cases most <;> simp [htest]
  | cons c rest ih =>
    cases most with
    | zero => rfl
    | succ most =>
      rw [List.cons_append, List.take_succ_cons, List.take_succ_cons, List.takeWhile_cons,
        List.takeWhile_cons, ih]

/-- Readings that take the same characters agree on them. -/
theorem Aligned.takeUpTo {test : Char → Bool} (h : Aligned s F st₁ st₂) {most more : Nat}
    (heq : (st₂.cursor.rest.take more).takeWhile test =
      (st₁.cursor.rest.take most).takeWhile test) {st₁' st₂' : ReadState} {a b : List Char}
    (h₁ : (takeUpTo most test).run st₁ = .ok (a, st₁'))
    (h₂ : (takeUpTo more test).run st₂ = .ok (b, st₂')) : a = b ∧ Aligned s F st₁' st₂' := by
  obtain ⟨rfl, hmove₁⟩ := run_takeUpTo h₁
  obtain ⟨rfl, hmove₂⟩ := run_takeUpTo h₂
  rw [heq] at hmove₂
  have hle : ((st₁.cursor.rest.take most).takeWhile test).length ≤ st₁.cursor.rest.length :=
    Nat.le_trans (List.takeWhile_prefix _).length_le (List.take_prefix _ _).length_le
  exact ⟨heq.symm, h.moveTo hle hmove₁ hmove₂⟩

/-- Characters are taken alike if the sign does not pass the test. -/
theorem takeUpTo_agrees {most : Nat} {test : Char → Bool} (htest : test '$' = false) :
    Agree s F (takeUpTo most test) (takeUpTo most test) := by
  intro st₁ st₂ h a st₁' b st₂' h₁ h₂
  refine h.takeUpTo ?_ h₁ h₂
  rw [h.rest, takeWhile_take_append h.sign htest]

/-- All characters of a kind are taken alike if the sign is not of that kind. -/
theorem takeAll_agrees {test : Char → Bool} (htest : test '$' = false) :
    Agree s F (takeAll test) (takeAll test) := by
  intro st₁ st₂ h a st₁' b st₂' h₁ h₂
  obtain ⟨_, _, hget₁, h₁⟩ := exists_of_bind h₁
  obtain ⟨_, _, hget₂, h₂⟩ := exists_of_bind h₂
  cases hget₁
  cases hget₂
  refine h.takeUpTo ?_ h₁ h₂
  rw [h.rest, takeWhile_take_append h.sign htest, List.take_length,
    List.take_of_length_le (by simp)]

/-- A character behind a backslash belongs to a name. -/
theorem splitName_escaped (closer c : Char) (rest : List Char) :
    splitName closer ('\\' :: c :: rest) =
      ('\\' :: c :: (splitName closer rest).1, (splitName closer rest).2) := rfl

/-- A name goes on up to the character that closes it. -/
theorem splitName_plain (closer : Char) {c : Char} (hc : c ≠ '\\') (rest : List Char) :
    splitName closer (c :: rest) =
      if c = closer then ([], .closed rest)
      else (c :: (splitName closer rest).1, (splitName closer rest).2) :=
  splitName.eq_4 closer c rest (fun h _ => hc h) (fun _ _ h _ => hc h)

/-- A backslash is the last character of a text, or escapes the next one. -/
theorem ne_backslash_of_unescaped {c : Char} {rest : List Char}
    (hlast : c = '\\' → rest = [] → False)
    (hescaped : ∀ d rest', c = '\\' → rest = d :: rest' → False) : c ≠ '\\' := by
  intro hc
  cases rest with
  | nil => exact hlast hc rfl
  | cons d rest' => exact hescaped d rest' hc rfl

/-- A name that is closed in the first text is the same name in the second one. -/
theorem splitName_append {closer : Char} {rest name left : List Char}
    (h : splitName closer rest = (name, .closed left)) (s : List Char) :
    splitName closer (rest ++ s) = (name, .closed (left ++ s)) ∧
      name.length + 1 ≤ rest.length := by
  -- By induction along the reading of the name: only one that is closed has a rest to append to.
  induction rest using splitName.induct closer generalizing name with
  | case1 => cases h
  | case2 => cases h
  | case3 c rest name' ending hsplit ih =>
    rw [splitName_escaped, hsplit] at h
    obtain ⟨rfl, rfl⟩ := Prod.mk.inj h
    obtain ⟨happend, hle⟩ := ih hsplit
    rw [List.cons_append, List.cons_append, splitName_escaped, happend]
    exact ⟨rfl, by simpa using hle⟩
  | case4 rest hlast hescaped =>
    have hc : closer ≠ '\\' := ne_backslash_of_unescaped hlast hescaped
    rw [splitName_plain _ hc, if_pos rfl] at h
    obtain ⟨rfl, hleft⟩ := Prod.mk.inj h
    obtain rfl := NameEnd.closed.inj hleft
    rw [List.cons_append, splitName_plain _ hc, if_pos rfl]
    exact ⟨rfl, by simp⟩
  | case5 c rest hlast hescaped hcloser name' ending hsplit ih =>
    have hc : c ≠ '\\' := ne_backslash_of_unescaped hlast hescaped
    rw [splitName_plain _ hc, if_neg hcloser, hsplit] at h
    obtain ⟨rfl, rfl⟩ := Prod.mk.inj h
    obtain ⟨happend, hle⟩ := ih hsplit
    rw [List.cons_append, splitName_plain _ hc, if_neg hcloser, happend]
    exact ⟨rfl, by simpa using hle⟩

/-- A name that is taken is closed. -/
theorem run_takeName {closer : Char} {missing : Fault} {st st' : ReadState} {name : List Char}
    (h : (takeName closer missing).run st = .ok (name, st')) :
    ∃ left, splitName closer st.cursor.rest = (name, .closed left) ∧
      (moveTo (st.cursor.advance (name.length + 1))).run st = .ok ((), st') := by
  obtain ⟨_, _, hget, h⟩ := exists_of_bind h
  cases hget
  -- Only a name with its closer is taken.
  match hsplit : splitName closer st.cursor.rest with
  | (name', .closed left) =>
    simp only [hsplit] at h
    obtain ⟨_, _, hmove, h⟩ := exists_of_bind h
    split at h
    · exact absurd h (Fails.failBack _ _ _ _ _)
    · cases h
      exact ⟨left, rfl, hmove⟩
  | (name', .open) =>
    simp only [hsplit] at h
    obtain ⟨_, _, -, h⟩ := exists_of_bind h
    split at h
    · exact absurd h (Fails.fail _ _ _ _)
    · exact absurd h (Fails.failBack _ _ _ _ _)
  | (name', .cutOff) =>
    simp only [hsplit] at h
    exact absurd h (Fails.failAt _ _ _ _ _)

/-- A name that is closed is the same in both readings. -/
theorem takeName_agrees {closer : Char} {missing : Fault} :
    Agree s F (takeName closer missing) (takeName closer missing) := by
  intro st₁ st₂ h a st₁' b st₂' h₁ h₂
  obtain ⟨left, hsplit₁, hmove₁⟩ := run_takeName h₁
  obtain ⟨_, hsplit₂, hmove₂⟩ := run_takeName h₂
  obtain ⟨happend, hle⟩ := splitName_append hsplit₁ s
  rw [h.rest, happend] at hsplit₂
  obtain ⟨rfl, -⟩ := Prod.mk.inj hsplit₂
  exact ⟨rfl, h.moveTo hle hmove₁ hmove₂⟩

end Tokens

end Reader

end PhoneticCatalog.Context
