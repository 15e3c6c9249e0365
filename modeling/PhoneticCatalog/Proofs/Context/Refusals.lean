import Mathlib.Data.List.TakeWhile
import PhoneticCatalog.Proofs.Context.Together
import PhoneticCatalog.Proofs.Text.Line

/-!
# Where refusals come from

Of the refusals of an expression two are no faults of its syntax: a count that is too large for a
repeat, and switches for both alphabets. Each of them leaves a mark in the text that everybody can
look for, a long decimal number or the letters of the switches behind `(?`
(`Search.arises_of_read`); a text without such marks is not `IsExcessive`.

`Keeps text m` is what each reader keeps: what is left to be read is an end of the text, the
switches that are set stand in the text, and a refusal on the way is one that the text gives rise
to. Most readers follow by `Ensures.bind` from the readers they are put together from. A group needs
more, since its switches are read after the start of the group: `Behind text read` says that a part
of the text was read just before. The functions that call each other are done together, by
induction on the fuel (`fuelKeeps`).
-/

namespace PhoneticCatalog.Context

/-- The text has a switch in it: right behind the start of a group, among nothing but switches. -/
def Asks (text : List Char) (f : Flag) : Prop :=
  ∃ letters, '(' :: '?' :: letters <:+: text ∧
    (∀ c ∈ letters, (Flag.ofChar? c).isSome = true) ∧ ∃ c ∈ letters, Flag.ofChar? c = some f

/-- The text has a decimal number in it that is no count. -/
def HasLargeNumber (text : List Char) : Prop :=
  ∃ digits, digits <:+: text ∧ (∀ c ∈ digits, c.isDigit = true) ∧
    Reader.countLimit ≤ Reader.valueOf 10 digits

namespace Reader

variable {α β : Type} {text : List Char}

/-- A refusal that the text gives rise to before the whole of it is looked at. -/
def Arises (text : List Char) (r : Refusal) : Prop :=
  r ≠ .conflictingAlphabets ∧ (r = .repetitionTooLarge → HasLargeNumber text)

/-- A reading from a state of a kind ends in a state of a kind, or in a refusal that the text gives
rise to. -/
def Ensures (text : List Char) (P : ReadState → Prop) (m : Reader α) (Q : α → ReadState → Prop) :
    Prop :=
  ∀ st, P st → (∀ r, m.run st = .error r → Arises text r) ∧
    ∀ a st', m.run st = .ok (a, st') → Q a st'

/-- What is left to be read is the end of the text, and the switches set are in it. -/
structure Inside (text : List Char) (st : ReadState) : Prop where
  rest : st.cursor.rest <:+ text
  flags : ∀ f ∈ st.flags, Asks text f

/-- A reading of a part of the text. -/
abbrev Keeps (text : List Char) (m : Reader α) : Prop :=
  Ensures text (Inside text) m fun _ => Inside text

/-! ## Rules -/

section Rules

variable {P : ReadState → Prop} {m : Reader α} {f : α → Reader β} {Q : α → ReadState → Prop}
  {R : β → ReadState → Prop}

/-- Readings in turn ensure what the last one does. -/
theorem Ensures.bind (h : Ensures text P m Q) (hf : ∀ a, Ensures text (Q a) (f a) R) :
    Ensures text P (m >>= f) R := by
  intro st hst
  obtain ⟨herror, hok⟩ := h st hst
  constructor
  · intro r hr
    rw [StateT.run_bind] at hr
    cases hm : m.run st with
    | error r' =>
      rw [hm] at hr
      obtain rfl := Except.error.inj hr
      exact herror _ hm
    | ok p =>
      rw [hm] at hr
      exact (hf p.1 p.2 (hok _ _ hm)).1 r hr
  · intro b st' hb
    obtain ⟨a, mid, hm, hfa⟩ := exists_of_bind hb
    exact (hf a mid (hok _ _ hm)).2 b st' hfa

/-- A result without reading ensures what holds already. -/
theorem Ensures.pure {a : α} (h : ∀ st, P st → Q a st) : Ensures text P (pure a) Q := by
  intro st hst
  refine ⟨nofun, fun b st' hb => ?_⟩
  cases hb
  exact h _ hst

/-- What is ensured from some states is so from fewer, and with less afterwards. -/
theorem Ensures.mono {P' : ReadState → Prop} {Q' : α → ReadState → Prop}
    (h : Ensures text P' m Q') (hP : ∀ st, P st → P' st) (hQ : ∀ a st, Q' a st → Q a st) :
    Ensures text P m Q := fun st hst =>
  ⟨(h st (hP st hst)).1, fun a st' ha => hQ a st' ((h st (hP st hst)).2 a st' ha)⟩

/-- What is ensured from some states is so from fewer. -/
theorem Ensures.weaken {P' : ReadState → Prop} (h : Ensures text P' m Q)
    (hP : ∀ st, P st → P' st) : Ensures text P m Q := h.mono hP fun _ _ h => h

/-- What holds of the result alone may be assumed. -/
theorem Ensures.and_pure {p : Prop} (h : p → Ensures text P m Q) :
    Ensures text (fun st => P st ∧ p) m Q := fun st hst => h hst.2 st hst.1

/-- A fault of the syntax may arise anywhere. -/
theorem Ensures.of_malformed {fault : Fault} {position : Nat} :
    Arises text (.malformed fault position) := ⟨nofun, nofun⟩

/-- A fault reported further back ensures anything. -/
theorem Ensures.failBack {fault : Fault} {back : Nat} :
    Ensures text P (failBack fault back : Reader α) Q := by
  intro st _
  refine ⟨fun r hr => ?_, fun a st' ha => absurd ha (Fails.failBack _ _ _ _ _)⟩
  cases hr
  exact Ensures.of_malformed

/-- A fault reported at the cursor ensures anything. -/
theorem Ensures.fail {fault : Fault} : Ensures text P (fail fault : Reader α) Q := Ensures.failBack

/-- A fault reported at a position ensures anything. -/
theorem Ensures.failAt {fault : Fault} {position : Nat} :
    Ensures text P (failAt fault position : Reader α) Q := by
  intro st _
  refine ⟨fun r hr => ?_, fun a st' ha => absurd ha (Fails.failAt _ _ _ _ _)⟩
  cases hr
  exact Ensures.of_malformed

/-- A check that ends in a fault may be passed over. -/
theorem Ensures.unless {c : Prop} [Decidable c] {n : Reader β}
    (hm : Ensures text P m fun _ _ => False) (h : ¬ c → Ensures text P n R) :
    Ensures text P (if c then m >>= f else n) R := by
  by_cases hc : c
  · rw [if_pos hc]
    exact hm.bind fun _ _ hfalse => hfalse.elim
  · rw [if_neg hc]
    exact h hc

/-- Either of two readings may come first. -/
theorem Ensures.ite_bind {c : Prop} [Decidable c] {m' : Reader α} (h : Ensures text P m Q)
    (h' : Ensures text P m' Q) (hf : ∀ a, Ensures text (Q a) (f a) R) :
    Ensures text P (if c then m >>= f else m' >>= f) R := by
  by_cases hc : c
  · rw [if_pos hc]
    exact h.bind hf
  · rw [if_neg hc]
    exact h'.bind hf

/-- What follows may look at a state of the kind. -/
theorem Ensures.get_bind {f : ReadState → Reader β} (hf : ∀ st, P st → Ensures text P (f st) R) :
    Ensures text P (get >>= f) R := fun st hst => hf st hst st hst

/-- What follows starts from the very state that was asked for. -/
theorem Ensures.get_bind_self {f : ReadState → Reader β}
    (hf : ∀ st, P st → Ensures text (· = st) (f st) R) : Ensures text P (get >>= f) R :=
  fun st hst => hf st hst st rfl

/-- A change of the state ensures what holds of the changed one. -/
theorem Ensures.modify {g : ReadState → ReadState} {Q : Unit → ReadState → Prop}
    (h : ∀ st, P st → Q () (g st)) : Ensures text P (modify g) Q := by
  intro st hst
  refine ⟨nofun, fun u st' hu => ?_⟩
  cases hu
  exact h _ hst

theorem Keeps.pure (a : α) : Keeps text (pure a) := Ensures.pure fun _ h => h

end Rules

/-! ## Single tokens -/

/-- Moving the cursor ensures what holds with the cursor there. -/
theorem moveTo_ensures {P : ReadState → Prop} {Q : Unit → ReadState → Prop} {k : Cursor}
    (h : ∀ st, P st → Q () { st with cursor := k }) : Ensures text P (moveTo k) Q := by
  intro st hst
  constructor
  · intro r hr
    by_cases hk : k.rest = ['\\']
    · have hrun : (moveTo k).run st = .error (.malformed .escapeAtEnd k.passed) := by
        simp [moveTo, Cursor.checked, hk]
        rfl
      rw [hrun] at hr
      obtain rfl := Except.error.inj hr
      exact Ensures.of_malformed
    · have hrun : (moveTo k).run st = .ok ((), { st with cursor := k }) := by
        simp [moveTo, Cursor.checked, hk]
        rfl
      rw [hrun] at hr
      cases hr
  · intro u st' hu
    obtain ⟨-, rfl⟩ := run_moveTo hu
    exact h st hst

/-- The cursor stays inside the text if it is moved to an end of it. -/
theorem moveTo_keeps {k : Cursor} (h : k.rest <:+ text) : Keeps text (moveTo k) :=
  moveTo_ensures fun _ hst => ⟨h, hst.flags⟩

/-- A part of the text was read just before. -/
structure Behind (text read : List Char) (st : ReadState) : Prop extends Inside text st where
  behind : read ++ st.cursor.rest <:+ text

/-- Behind nothing is anywhere inside. -/
theorem Inside.behind {st : ReadState} (h : Inside text st) : Behind text [] st := ⟨h, h.rest⟩

/-- A token is what stands at the cursor, before the rest. -/
theorem Cursor.written_append (k : Cursor) :
    k.token.written ++ (k.advance k.token.written.length).rest = k.rest := by
  unfold Cursor.advance Cursor.token
  split <;> simp_all [Token.written]

/-- The token at the cursor is taken, and then stands right behind it. -/
theorem take_ensures {read : List Char} {st : ReadState} (h : Behind text read st) :
    Ensures text (· = st) take fun t st' =>
      t = st.cursor.token ∧ Behind text (read ++ t.written) st' := by
  have hrest : (st.cursor.advance st.cursor.token.written.length).rest <:+ st.cursor.rest :=
    List.drop_suffix _ _
  have hbehind : (read ++ st.cursor.token.written) ++
      (st.cursor.advance st.cursor.token.written.length).rest <:+ text := by
    rw [List.append_assoc, Cursor.written_append]
    exact h.behind
  refine Ensures.get_bind_self fun st' hst => ?_
  subst hst
  refine (moveTo_ensures (Q := fun _ => Behind text (read ++ st'.cursor.token.written))
    fun st hst => ?_).bind fun _ => Ensures.pure fun _ h => ⟨rfl, h⟩
  subst hst
  exact ⟨⟨hrest.trans h.rest, h.flags⟩, hbehind⟩

/-- A token that is taken adds to the part that was read just before. -/
theorem take_behind {read : List Char} :
    Ensures text (Behind text read) take fun t => Behind text (read ++ t.written) :=
  fun st h => (take_ensures h).mono (fun _ h => h) (fun _ _ h => h.2) st rfl

/-- Taking a token stays inside the text. -/
theorem take_keeps : Keeps text take :=
  take_behind.mono (fun _ h => Inside.behind h) fun _ _ h => h.toInside

/-- A character that is accepted adds to the part that was read just before. -/
theorem accept_behind {read : List Char} {c : Char} :
    Ensures text (Behind text read) (accept c) fun found =>
      Behind text (if found then read ++ [c] else read) := by
  refine Ensures.get_bind_self fun st h => ?_
  by_cases hnext : st.cursor.token = .plain c
  · rw [if_pos hnext]
    refine (take_ensures h).bind fun t => Ensures.pure fun st' h' => ?_
    rw [h'.1, hnext] at h'
    exact h'.2
  · rw [if_neg hnext]
    refine Ensures.pure fun st' hst => ?_
    subst hst
    exact h

/-- Accepting a character stays inside the text. -/
theorem accept_keeps {c : Char} : Keeps text (accept c) :=
  accept_behind.mono (fun _ h => Inside.behind h) fun _ _ h => h.toInside

/-- Characters that are taken are part of the text and pass the test. -/
theorem takeUpTo_ensures {most : Nat} {test : Char → Bool} :
    Ensures text (Inside text) (takeUpTo most test) fun taken st =>
      Inside text st ∧ taken <:+: text ∧ ∀ c ∈ taken, test c = true := by
  refine Ensures.get_bind fun st h => ?_
  have hrest := (List.drop_suffix ((st.cursor.rest.take most).takeWhile test).length
    st.cursor.rest).trans h.rest
  refine (moveTo_keeps (k := st.cursor.advance _) hrest).bind fun _ => Ensures.pure fun st' h' => ?_
  refine ⟨h', ?_, fun c hc => List.mem_takeWhile_imp hc⟩
  exact ((List.takeWhile_prefix _).trans (List.take_prefix _ _)).isInfix.trans h.rest.isInfix

/-- Taking characters stays inside the text. -/
theorem takeUpTo_keeps {most : Nat} {test : Char → Bool} : Keeps text (takeUpTo most test) :=
  takeUpTo_ensures.mono (fun _ h => h) fun _ _ h => h.1

/-- All characters of a kind that are taken are part of the text and of that kind. -/
theorem takeAll_ensures {test : Char → Bool} :
    Ensures text (Inside text) (takeAll test) fun taken st =>
      Inside text st ∧ taken <:+: text ∧ ∀ c ∈ taken, test c = true :=
  Ensures.get_bind fun _ _ => takeUpTo_ensures

/-- Taking a name stays inside the text. -/
theorem takeName_keeps {closer : Char} {missing : Fault} :
    Keeps text (takeName closer missing) := by
  refine Ensures.get_bind fun st h => ?_
  have hadvance : ∀ n, (st.cursor.advance n).rest <:+ text := fun n =>
    (List.drop_suffix _ _).trans h.rest
  dsimp only
  split
  · refine (moveTo_keeps (hadvance _)).bind fun _ => ?_
    split
    · exact Ensures.failBack
    · exact Keeps.pure _
  · refine (moveTo_keeps (hadvance _)).bind fun _ => ?_
    split
    · exact Ensures.fail
    · exact Ensures.failBack
  · exact Ensures.failAt

/-! ## Groups -/

theorem nextGroup_keeps : Keeps text nextGroup := Ensures.get_bind fun _ _ => Keeps.pure _

/-- Opening a group reads nothing; a name given twice is a fault of the syntax. -/
theorem openGroup_keeps {name : Option (List Char)} : Keeps text (openGroup name) := by
  refine Ensures.get_bind fun st _ => ?_
  have hopen : Keeps text
      (do modify ({ · with groups := st.groups ++ [⟨name, none⟩] }); return st.groups.length + 1) :=
    (Ensures.modify fun _ h => ⟨h.rest, h.flags⟩).bind fun _ => Keeps.pure _
  cases name with
  | none => exact hopen
  | some name =>
    dsimp only
    split
    · exact Ensures.bind (Q := fun _ _ => False) Ensures.failBack fun _ _ h => h.elim
    · exact hopen

/-- Closing a group reads nothing. -/
theorem closeGroup_keeps {number : Nat} {width : Width} : Keeps text (closeGroup number width) :=
  Ensures.modify fun _ h => ⟨h.rest, h.flags⟩

theorem widthOf?_keeps {number : Nat} : Keeps text (widthOf? number) :=
  Ensures.get_bind fun _ _ => Keeps.pure _

theorem groupNamed?_keeps {name : List Char} : Keeps text (groupNamed? name) :=
  Ensures.get_bind fun _ _ => Keeps.pure _

/-- A group that is open or too new is a fault of the syntax. -/
theorem checkLookBehind_keeps {number : Nat} : Keeps text (checkLookBehind number) := by
  refine Ensures.get_bind fun st _ => ?_
  split
  · refine widthOf?_keeps.bind fun width => ?_
    refine Ensures.unless Ensures.fail fun _ => ?_
    split
    · exact Ensures.fail
    · exact Keeps.pure _
  · exact Keeps.pure _

/-- A group that cannot be matched again is a fault of the syntax. -/
theorem again_keeps {number back : Nat} : Keeps text (again number back) := by
  refine widthOf?_keeps.bind fun width => ?_
  split
  · exact Ensures.failBack
  · exact checkLookBehind_keeps.bind fun _ => Keeps.pure _

/-! ## Escapes and sets -/

section Escapes

variable {c : Char}

/-- Too few digits, and a number beyond all code points, are faults of the syntax. -/
theorem hexEscape_keeps {count : Nat} : Keeps text (hexEscape c count) := by
  refine takeUpTo_keeps.bind fun digits => ?_
  refine Ensures.unless Ensures.failBack fun _ => ?_
  exact Ensures.unless Ensures.failBack fun _ => Keeps.pure _

/-- An unknown name of a character is a fault of the syntax. -/
theorem namedEscape_keeps : Keeps text namedEscape := by
  refine accept_keeps.bind fun found => ?_
  refine Ensures.unless Ensures.fail fun _ => ?_
  refine takeName_keeps.bind fun name => ?_
  split
  · exact Keeps.pure _
  · exact Ensures.failBack

/-- Escapes for a code point stay inside the text. -/
theorem codeEscape?_keeps {m : Reader Nat} (h : codeEscape? c = some m) : Keeps text m := by
  unfold codeEscape? at h
  split at h
  · cases h
    exact hexEscape_keeps
  · cases h
    exact hexEscape_keeps
  · cases h
    exact hexEscape_keeps
  · cases h
    exact namedEscape_keeps
  · cases h

/-- An octal number that is too large is a fault of the syntax. -/
theorem octalCode_keeps {written : List Char} : Keeps text (octalCode written) :=
  Ensures.unless Ensures.failBack fun _ => Keeps.pure _

/-- A letter without a meaning is a fault of the syntax. -/
theorem selfEscape_keeps : Keeps text (selfEscape c) :=
  Ensures.unless Ensures.failBack fun _ => Keeps.pure _

/-- Escapes in a set stay inside the text. -/
theorem setEscape_keeps : Keeps text (setEscape c) := by
  unfold setEscape
  split
  · exact Keeps.pure _
  split
  · exact Keeps.pure _
  split
  · rename_i hcode
    exact (codeEscape?_keeps hcode).bind fun _ => Keeps.pure _
  split
  · exact takeUpTo_keeps.bind fun _ => octalCode_keeps.bind fun _ => Keeps.pure _
  exact Ensures.unless Ensures.failBack fun _ => selfEscape_keeps.bind fun _ => Keeps.pure _

/-- A number of no group is a fault of the syntax. -/
theorem numberEscape_keeps : Keeps text (numberEscape c) := by
  refine takeUpTo_keeps.bind fun second => ?_
  have hgroup : Keeps text (do
      let number := valueOf 10 (c :: second)
      let length := second.length + 2
      if number < (← nextGroup) then again number length
      else failBack (.invalidGroup number) (length - 1)) := by
    refine nextGroup_keeps.bind fun next => ?_
    split
    · exact again_keeps
    · exact Ensures.failBack
  dsimp only
  split
  · refine takeUpTo_keeps.bind fun third => ?_
    split
    · exact octalCode_keeps.bind fun _ => Keeps.pure _
    · exact hgroup
  · exact hgroup

/-- Every escape stays inside the text. -/
theorem escape_keeps {flags : List Flag} : Keeps text (escape flags c) := by
  unfold escape
  split
  · exact Keeps.pure _
  split
  · exact Keeps.pure _
  split
  · exact Keeps.pure _
  split
  · rename_i hcode
    exact (codeEscape?_keeps hcode).bind fun _ => Keeps.pure _
  split
  · exact takeUpTo_keeps.bind fun _ => Keeps.pure _
  split
  · exact numberEscape_keeps
  · exact selfEscape_keeps.bind fun _ => Keeps.pure _

/-- A member of a set stays inside the text. -/
theorem setMember_keeps {t : Token} : Keeps text (setMember t) := by
  cases t with
  | stop => exact Ensures.fail
  | plain c => exact Keeps.pure _
  | escaped c => exact setEscape_keeps

/-- The items of a set stay inside the text, whatever fuel there is. -/
theorem setItems_keeps {start fuel : Nat} {items : List SetItem} :
    Keeps text (setItems start fuel items) := by
  induction fuel generalizing items with
  | zero => exact Ensures.failAt
  | succ fuel ih =>
    refine take_keeps.bind fun this => ?_
    refine Ensures.unless Ensures.failAt fun _ => ?_
    split
    · exact Keeps.pure _
    refine setMember_keeps.bind fun first => ?_
    refine accept_keeps.bind fun range => ?_
    split
    · exact ih
    refine take_keeps.bind fun that => ?_
    refine Ensures.unless Ensures.failAt fun _ => ?_
    split
    · exact Keeps.pure _
    refine setMember_keeps.bind fun last => ?_
    dsimp only
    split
    · split
      · exact Ensures.failBack
      · exact ih
    · exact Ensures.failBack

/-- A set stays inside the text. -/
theorem set_keeps : Keeps text set := by
  refine Ensures.get_bind fun _ _ => ?_
  refine accept_keeps.bind fun negated => ?_
  refine Ensures.get_bind fun _ _ => ?_
  refine setItems_keeps.bind fun items => ?_
  dsimp only
  split <;> exact Keeps.pure _

end Escapes

/-! ## Repeats -/

/-- A count that reaches the limit is a number of the text. -/
theorem count_keeps {digits : List Char}
    (h : digits <:+: text ∧ ∀ c ∈ digits, c.isDigit = true) : Keeps text (count digits) := by
  intro st hst
  -- The only way to fail is a count beyond the limit, and its digits stand in the text.
  by_cases hlarge : countLimit ≤ valueOf 10 digits
  · have hrun : (count digits).run st = .error .repetitionTooLarge := by
      unfold count
      dsimp only
      rw [if_pos hlarge]
      rfl
    rw [hrun]
    refine ⟨fun r hr => ?_, nofun⟩
    obtain rfl := Except.error.inj hr
    exact ⟨nofun, fun _ => ⟨digits, h.1, h.2, hlarge⟩⟩
  · have hrun : (count digits).run st = .ok (valueOf 10 digits, st) := by
      unfold count
      dsimp only
      rw [if_neg hlarge]
      rfl
    rw [hrun]
    refine ⟨nofun, fun a st' ha => ?_⟩
    cases ha
    exact hst

/-- A count that is too large is a decimal number of the text. -/
theorem bracedCounts?_keeps : Keeps text bracedCounts? := by
  refine Ensures.get_bind fun st h => ?_
  refine Ensures.get_bind fun _ _ => ?_
  split
  · exact Keeps.pure _
  -- Both numbers are taken off the text, which is what makes them numbers of the text.
  refine takeAll_ensures.bind fun lo => Ensures.and_pure fun hlo => ?_
  refine accept_keeps.bind fun comma => ?_
  refine Ensures.ite_bind takeAll_ensures (Ensures.pure fun _ h => ⟨h, hlo⟩) fun hi => ?_
  refine Ensures.and_pure fun hhi => ?_
  refine accept_keeps.bind fun closed => ?_
  dsimp only
  split
  · exact (moveTo_keeps h.rest).bind fun _ => Keeps.pure _
  refine Ensures.ite_bind (Keeps.pure _) (count_keeps hlo) fun least => ?_
  split
  · exact Keeps.pure _
  refine (count_keeps hhi).bind fun greatest => ?_
  exact Ensures.unless Ensures.failAt fun _ => Keeps.pure _

/-- The counts of a repeat stay inside the text. -/
theorem counts?_keeps {c : Char} : Keeps text (counts? c) := by
  unfold counts?
  split
  · exact Keeps.pure _
  · exact Keeps.pure _
  · exact Keeps.pure _
  · exact bracedCounts?_keeps

/-- How a repeat goes on is read inside the text. -/
theorem repeatMode_keeps : Keeps text repeatMode := by
  refine accept_keeps.bind fun lazy => ?_
  split
  · exact Keeps.pure _
  refine accept_keeps.bind fun possessive => ?_
  split <;> exact Keeps.pure _

/-! ## Switches -/

section Switches

/-- The letters are all switches, and some of them are the given ones. -/
def Spells (letters : List Char) (flags : List Flag) : Prop :=
  (∀ c ∈ letters, (Flag.ofChar? c).isSome = true) ∧
    ∀ f ∈ flags, ∃ c ∈ letters, Flag.ofChar? c = some f

theorem Spells.nil : Spells [] [] := ⟨by simp, by simp⟩

/-- One more letter spells one more switch. -/
theorem Spells.append {letters : List Char} {flags : List Flag} (h : Spells letters flags)
    {c : Char} {f : Flag} (hc : Flag.ofChar? c = some f) :
    Spells (letters ++ [c]) (flags ++ [f]) := by
  refine ⟨fun d hd => ?_, fun g hg => ?_⟩
  · rcases List.mem_append.1 hd with hd | hd
    · exact h.1 d hd
    · rw [List.mem_singleton.1 hd, hc]
      rfl
  · rcases List.mem_append.1 hg with hg | hg
    · obtain ⟨d, hd, hdg⟩ := h.2 g hg
      exact ⟨d, List.mem_append_left _ hd, hdg⟩
    · exact ⟨c, List.mem_append_right _ (List.mem_singleton.2 rfl),
        hc.trans (congrArg some (List.mem_singleton.1 hg).symm)⟩

/-- Switches are asked for by the letters that spell them, right behind the start of a group. -/
theorem Spells.asks {letters : List Char} {flags : List Flag} (h : Spells letters flags)
    (htext : '(' :: '?' :: letters <:+: text) : ∀ f ∈ flags, Asks text f := fun f hf =>
  ⟨letters, htext, h.1, h.2 f hf⟩

/-- A token for a switch is its letter. -/
theorem flagOf?_eq_some {t : Token} {f : Flag} (h : flagOf? t = some f) :
    ∃ c, t.written = [c] ∧ Flag.ofChar? c = some f := by
  cases t with
  | stop => cases h
  | escaped c => cases h
  | plain c => exact ⟨c, rfl, h⟩

/-- What was read just before is part of the text. -/
theorem Behind.infix {read : List Char} {st : ReadState} (h : Behind text read st) :
    read <:+: text := (List.prefix_append _ _).isInfix.trans h.behind.isInfix

/-- Switches to be set stand in the text, right behind the start of a group. -/
theorem flagsOn_ensures {fuel : Nat} {flag : Flag} {on : List Flag} {letters : List Char}
    (h : Spells letters (on ++ [flag])) :
    Ensures text (Behind text ('(' :: '?' :: letters)) (flagsOn fuel flag on) fun p st =>
      Inside text st ∧ ∀ f ∈ p.1, Asks text f := by
  induction fuel generalizing flag on letters with
  | zero => exact Ensures.fail
  | succ fuel ih =>
    refine Ensures.unless Ensures.fail fun _ => ?_
    refine Ensures.unless Ensures.fail fun _ => ?_
    refine take_behind.bind fun t => ?_
    -- All letters up to here stand in a row behind the question mark, and so do those of the flags.
    have hreturn : Ensures text (Behind text ('(' :: '?' :: letters ++ t.written))
        (pure (on ++ [flag], t)) fun p st => Inside text st ∧ ∀ f ∈ p.1, Asks text f := by
      refine Ensures.pure fun st hst => ⟨hst.toInside, h.asks ?_⟩
      exact (List.prefix_append _ _).isInfix.trans hst.infix
    split
    · exact Ensures.fail
    · exact hreturn
    · exact hreturn
    · exact hreturn
    · split
      · rename_i next hnext
        obtain ⟨c, hwritten, hc⟩ := flagOf?_eq_some hnext
        rw [hwritten]
        exact ih (h.append hc)
      · exact Ensures.failBack

/-- Switches to be unset are read inside the text. -/
theorem flagsOff_keeps {fuel : Nat} {flag : Flag} {off : List Flag} :
    Keeps text (flagsOff fuel flag off) := by
  induction fuel generalizing flag off with
  | zero => exact Ensures.fail
  | succ fuel ih =>
    refine Ensures.unless Ensures.fail fun _ => ?_
    refine take_keeps.bind fun t => ?_
    split
    · exact Ensures.fail
    · exact Keeps.pure _
    · split
      · exact ih
      · exact Ensures.failBack

/-- Switches are those of the text. -/
theorem switches_ensures {t : Token} :
    Ensures text (Behind text ('(' :: '?' :: t.written)) (switches t) fun _ => Inside text := by
  have hoff : ∀ on off : List Flag, Keeps text (do
      if off.contains .template then failBack .globalFlagOff 1
      if on.any off.contains then failBack .flagOnAndOff 1
      return Switches.group on off) := fun _ _ =>
    Ensures.unless Ensures.failBack fun _ => Ensures.unless Ensures.failBack fun _ => Keeps.pure _
  refine Ensures.get_bind fun _ _ => ?_
  -- Without a letter to switch on there is no flag that the text would have to ask for.
  cases hflag : flagOf? t
  case' none =>
    refine Ensures.bind (Q := fun p st => Inside text st ∧ ∀ f ∈ p.1, Asks text f)
      (Ensures.pure fun st h => ⟨h.toInside, nofun⟩) ?_
  case' some flag =>
    obtain ⟨c, hwritten, hc⟩ := flagOf?_eq_some hflag
    have hletter : Spells [c] ([] ++ [flag]) := Spells.nil.append hc
    rw [hwritten]
    refine (flagsOn_ensures hletter).bind ?_
  all_goals
    rintro ⟨on, ending⟩
    refine Ensures.and_pure fun hasks => ?_
    dsimp only
    split
    · refine (Ensures.modify fun st h => ⟨h.rest, fun f hf => ?_⟩).bind fun _ => Keeps.pure _
      exact (List.mem_append.1 hf).elim (h.flags f) (hasks f)
    refine Ensures.unless Ensures.failBack fun _ => ?_
    split
    · refine take_keeps.bind fun t' => ?_
      refine Ensures.unless Ensures.fail fun _ => ?_
      cases flagOf? t' with
      | none => exact Ensures.bind (Q := fun _ _ => False) Ensures.failBack fun _ _ h => h.elim
      | some flag => exact flagsOff_keeps.bind (hoff on)
    · exact (Keeps.pure _).bind (hoff on)

end Switches

/-! ## Names of groups -/

/-- The name of a group is read inside the text. -/
theorem groupName_keeps {closer : Char} : Keeps text (groupName closer) :=
  takeName_keeps.bind fun _ => Ensures.unless Ensures.failBack fun _ => Keeps.pure _

/-- A condition on no group is a fault of the syntax. -/
theorem conditionGroup_keeps : Keeps text conditionGroup := by
  refine takeName_keeps.bind fun name => ?_
  dsimp only
  split
  · refine groupNamed?_keeps.bind fun number => ?_
    split
    · exact Keeps.pure _
    · exact Ensures.failBack
  · split
    · refine Ensures.unless Ensures.failBack fun _ => ?_
      refine Ensures.unless Ensures.failBack fun _ => ?_
      refine Ensures.get_bind fun _ _ => ?_
      refine (Ensures.modify fun st h => ?_).bind fun _ => Keeps.pure _
      split
      · exact h
      · exact ⟨h.rest, h.flags⟩
    · exact Ensures.failBack

/-! ## Terms -/

/-- Nothing to repeat, and a repeat of a repeat, are faults of the syntax. -/
theorem repeatTerm_keeps {flags : List Flag} {start : Nat} {counts : Counts} {terms : List Term} :
    Keeps text (repeatTerm flags start counts terms) := by
  cases terms with
  | nil => exact Ensures.failAt
  | cons last before =>
    cases last with
    | piece p =>
      refine Ensures.unless Ensures.failAt fun _ => ?_
      refine Ensures.unless Ensures.failAt fun _ => ?_
      exact repeatMode_keeps.bind fun _ => Keeps.pure _
    | span ps => exact repeatMode_keeps.bind fun _ => Keeps.pure _

/-- A group that is not closed is a fault of the syntax. -/
theorem closing_keeps {start : Nat} : Keeps text (closing start) := by
  refine accept_keeps.bind fun closed => ?_
  split
  · exact Ensures.failAt
  · exact Keeps.pure _

/-- A comment up to the end of a line stays inside the text. -/
theorem skipLine_keeps {fuel : Nat} : Keeps text (skipLine fuel) := by
  induction fuel with
  | zero => exact Keeps.pure _
  | succ fuel ih =>
    refine take_keeps.bind fun t => ?_
    split
    · exact Keeps.pure _
    · exact Keeps.pure _
    · exact ih

/-! ## Sequences and groups -/

/-- The functions that call each other read a part of the text, with some fuel. -/
structure FuelKeeps (text : List Char) (fuel : Nat) : Prop where
  alternatives : ∀ {flags top}, Keeps text (alternatives fuel flags top)
  moreAlternatives : ∀ {flags}, Keeps text (moreAlternatives fuel flags)
  sequence : ∀ {flags first terms}, Keeps text (sequence fuel flags first terms)
  group : ∀ {flags start}, Ensures text (Behind text ['(']) (group fuel flags start)
    fun _ => Inside text
  captured : ∀ {flags start name}, Keeps text (captured fuel flags start name)
  lookBehind : ∀ {flags start negated}, Keeps text (lookBehind fuel flags start negated)

section Sequences

variable {fuel : Nat} {flags : List Flag}

/-- Alternatives keep what their sequences do. -/
theorem alternatives_keeps (ih : FuelKeeps text fuel) {top : Bool} :
    Keeps text (alternatives (fuel + 1) flags top) := by
  refine ih.sequence.bind fun first => ?_
  refine Ensures.get_bind fun _ _ => ?_
  exact ih.moreAlternatives.bind fun _ => Keeps.pure _

/-- Further alternatives keep what their sequences do. -/
theorem moreAlternatives_keeps (ih : FuelKeeps text fuel) :
    Keeps text (moreAlternatives (fuel + 1) flags) := by
  refine accept_keeps.bind fun bar => ?_
  split
  · exact ih.sequence.bind fun _ => ih.moreAlternatives.bind fun _ => Keeps.pure _
  · exact Keeps.pure _

/-- A group that is captured keeps what its alternatives do. -/
theorem captured_keeps (ih : FuelKeeps text fuel) {start : Nat} {name : Option (List Char)} :
    Keeps text (captured (fuel + 1) flags start name) := by
  refine openGroup_keeps.bind fun number => ?_
  refine ih.alternatives.bind fun ps => ?_
  refine closing_keeps.bind fun _ => ?_
  exact closeGroup_keeps.bind fun _ => Keeps.pure _

/-- A look-behind keeps what its alternatives do. -/
theorem lookBehind_keeps (ih : FuelKeeps text fuel) {start : Nat} {negated : Bool} :
    Keeps text (lookBehind (fuel + 1) flags start negated) := by
  have hset : ∀ floor : Option Nat, Keeps text (modify ({ · with lookBehindFrom := floor })) :=
    fun _ => Ensures.modify fun _ h => ⟨h.rest, h.flags⟩
  refine Ensures.get_bind fun _ _ => ?_
  refine nextGroup_keeps.bind fun next => ?_
  refine (hset _).bind fun _ => ?_
  refine ih.alternatives.bind fun ps => ?_
  refine (hset _).bind fun _ => ?_
  exact closing_keeps.bind fun _ => Keeps.pure _

/-- A group keeps what its alternatives do; its switches stand right behind its start. -/
theorem group_ensures (ih : FuelKeeps text fuel) {start : Nat} :
    Ensures text (Behind text ['(']) (group (fuel + 1) flags start) fun _ => Inside text := by
  have hclosed : ∀ (m : Reader (List Piece)) (f : List Piece → GroupRead), Keeps text m →
      Keeps text (do let ps ← m; closing start; return f ps) := fun m f hm =>
    hm.bind fun _ => closing_keeps.bind fun _ => Keeps.pure _
  have hinside : ∀ {read : List Char} {m : Reader GroupRead}, Keeps text m →
      Ensures text (Behind text read) m fun _ => Inside text := fun h =>
    h.weaken fun _ h => h.toInside
  refine accept_behind.bind fun extended => ?_
  cases extended with
  | false => exact hinside ih.captured
  | true =>
    refine Ensures.bind (Q := fun t => Behind text ('(' :: '?' :: t.written)) take_behind
      fun t => ?_
    split
    · exact Ensures.fail
    · -- A group with a name, or one that is matched again by its name.
      refine hinside (accept_keeps.bind fun named => ?_)
      split
      · exact groupName_keeps.bind fun name => ih.captured
      refine accept_keeps.bind fun again => ?_
      split
      · refine groupName_keeps.bind fun name => groupNamed?_keeps.bind fun number => ?_
        split
        · exact Ensures.failBack
        · exact again_keeps.bind fun p => Keeps.pure _
      · refine take_keeps.bind fun t => ?_
        split
        · exact Ensures.fail
        · exact Ensures.failBack
    · exact hinside (hclosed _ _ ih.alternatives)
    · -- A comment.
      refine hinside (Ensures.get_bind fun st h => ?_)
      dsimp only
      split
      · exact (moveTo_keeps ((List.drop_suffix _ _).trans h.rest)).bind fun _ => Keeps.pure _
      · exact Ensures.failAt
      · exact Ensures.failAt
    · exact hinside (hclosed _ _ ih.alternatives)
    · exact hinside (hclosed _ _ ih.alternatives)
    · -- A look-behind.
      refine hinside (take_keeps.bind fun t => ?_)
      split
      · exact Ensures.fail
      · exact ih.lookBehind
      · exact ih.lookBehind
      · exact Ensures.failBack
    · -- A choice by a group.
      refine hinside (conditionGroup_keeps.bind fun number => ?_)
      refine checkLookBehind_keeps.bind fun _ => ?_
      refine ih.sequence.bind fun yes => ?_
      refine accept_keeps.bind fun bar => ?_
      have hterm : ∀ no : List Piece, Keeps text (do
          closing start
          return GroupRead.term (.piece (.whole
            (.ifGroup number (Piece.sequence flags yes) (Piece.sequence flags no))))) := fun _ =>
        closing_keeps.bind fun _ => Keeps.pure _
      split
      · refine ih.sequence.bind fun no => Ensures.get_bind fun _ _ => ?_
        exact Ensures.unless Ensures.fail fun _ => hterm no
      · exact hterm []
    · exact hinside (hclosed _ _ ih.alternatives)
    · -- Switches. They are found behind the start of the group, which was read just before.
      split
      · refine switches_ensures.bind fun found => ?_
        split
        · exact Keeps.pure _
        · exact hclosed _ _ ih.alternatives
      · exact Ensures.failBack

/-- A repeat keeps what the sequence after it does. -/
theorem repeats_keeps (ih : FuelKeeps text fuel) {c : Char} {start : Nat} {first : Bool}
    {terms : List Term} : Keeps text (do
      match ← counts? c with
      | some counts => sequence fuel flags first (← repeatTerm flags start counts terms)
      | none => sequence fuel flags first (.piece (.literal false c.toNat) :: terms)) := by
  refine counts?_keeps.bind fun counts => ?_
  cases counts with
  | none => exact ih.sequence
  | some counts => exact repeatTerm_keeps.bind fun _ => ih.sequence

/-- A sequence keeps what its groups do. -/
theorem sequence_keeps (ih : FuelKeeps text fuel) {first : Bool} {terms : List Term} :
    Keeps text (sequence (fuel + 1) flags first terms) := by
  refine Ensures.get_bind fun _ _ => ?_
  split
  · exact Keeps.pure _
  · exact Keeps.pure _
  · exact Keeps.pure _
  refine Ensures.get_bind fun _ _ => ?_
  refine Ensures.bind (take_behind.weaken fun _ h => Inside.behind h) fun t => ?_
  have hinside : ∀ {m : Reader (List Piece)}, Keeps text m →
      Ensures text (Behind text ([] ++ t.written)) m fun _ => Inside text := fun h =>
    h.weaken fun _ h => h.toInside
  -- One case for each sign that a term begins with; all of them go on with the sequence.
  split
  · exact Ensures.fail
  · exact hinside (escape_keeps.bind fun p => ih.sequence)
  rename_i c
  split
  · exact hinside ih.sequence
  split
  · exact hinside (Ensures.get_bind fun _ _ => skipLine_keeps.bind fun _ => ih.sequence)
  split
  · exact hinside (set_keeps.bind fun p => ih.sequence)
  · exact hinside ih.sequence
  · exact hinside ih.sequence
  · exact hinside ih.sequence
  · refine ih.group.bind fun found => ?_
    split
    · exact ih.sequence
    · refine Ensures.unless Ensures.failAt fun _ => ?_
      exact Ensures.get_bind fun _ _ => ih.sequence
    · exact ih.sequence
  · exact hinside (repeats_keeps ih)
  · exact hinside (repeats_keeps ih)
  · exact hinside (repeats_keeps ih)
  · exact hinside (repeats_keeps ih)
  · exact hinside ih.sequence

end Sequences

/-- With any fuel, all the readings that call each other stay inside the text. -/
theorem fuelKeeps (text : List Char) (fuel : Nat) : FuelKeeps text fuel := by
  induction fuel with
  | zero =>
    exact ⟨Ensures.fail, Ensures.fail, Ensures.fail, Ensures.fail, Ensures.fail, Ensures.fail⟩
  | succ fuel ih =>
    exact ⟨alternatives_keeps ih, moreAlternatives_keeps ih, sequence_keeps ih, group_ensures ih,
      captured_keeps ih, lookBehind_keeps ih⟩

/-! ## Whole expressions -/

/-- A loop ensures what each of its turns keeps. -/
theorem forIn_ensures {δ : Type} {P : ReadState → Prop} {f : δ → PUnit → Reader (ForInStep PUnit)}
    (hf : ∀ d u, Ensures text P (f d u) fun _ => P) (ds : List δ) (u : PUnit) :
    Ensures text P (forIn ds u f) fun _ => P := by
  induction ds generalizing u with
  | nil => exact Ensures.pure fun _ h => h
  | cons d ds ih =>
    rw [List.forIn_cons]
    refine (hf d u).bind fun step => ?_
    cases step with
    | done u => exact Ensures.pure fun _ h => h
    | yield u => exact ih u

end Reader

/-- The conditions on a whole expression are none on counts and alphabets. -/
theorem Expr.arises_of_refusal? {template : Bool} {e : Expr} {r : Refusal}
    (h : e.refusal? template = some r) (text : List Char) : Reader.Arises text r := by
  have heither : ∀ {x y : Option Refusal}, (x <|> y) = some r → x = some r ∨ y = some r := by
    intro x y hxy
    cases x with
    | none => exact Or.inr hxy
    | some r' => exact Or.inl hxy
  -- Only groups that look behind and repeats have conditions of their own.
  induction e with
  | empty | one | anchor | again => cases h
  | seq e f ihe ihf | alt e f ihe ihf | ifGroup _ e f ihe ihf =>
    exact (heither h).elim ihe ihf
  | capture n e ih | atomic e ih | lookAhead _ e ih => exact ih h
  | lookBehind _ e ih =>
    unfold refusal? at h
    split at h
    · cases h
      exact ⟨nofun, nofun⟩
    split at h
    · cases h
      exact ⟨nofun, nofun⟩
    · exact ih h
  | repeated mode _ _ e ih =>
    unfold refusal? at h
    split at h
    · cases h
      exact ⟨nofun, nofun⟩
    · exact ih h

namespace Reader

/-- A reading of several steps that does not succeed fails in one of them. -/
theorem error_of_bind {m : Reader α} {f : α → Reader β} {st : ReadState} {r : Refusal}
    (h : (m >>= f).run st = .error r) :
    m.run st = .error r ∨ ∃ a mid, m.run st = .ok (a, mid) ∧ (f a).run mid = .error r := by
  rw [StateT.run_bind] at h
  cases hm : m.run st with
  | error r' =>
    rw [hm] at h
    obtain rfl := Except.error.inj h
    exact Or.inl rfl
  | ok p =>
    rw [hm] at h
    exact Or.inr ⟨p.1, p.2, rfl, h⟩

/-- What is checked of a whole expression does not ask for alphabets. -/
theorem checks_ensures (ps : List Piece) (st : ReadState) : Ensures text (fun _ => True) (do
    if (← peek) ≠ .stop then fail .unbalancedParenthesis
    for (number, position) in st.asked do
      if number > st.groups.length then failAt (.invalidGroup number) position
    let e := Piece.sequence st.flags ps
    match e.refusal? (st.flags.contains .template) with
    | some r => throw r
    | none => return (⟨e, alphabetOf st.flags⟩ : Search)) fun _ _ => True := by
  refine Ensures.get_bind fun _ _ => ?_
  refine Ensures.unless Ensures.fail fun _ => ?_
  refine (forIn_ensures (P := fun _ => True) (fun d u => ?_) _ _).bind fun _ => ?_
  · split
    exact Ensures.unless Ensures.failAt fun _ => Ensures.pure fun _ h => h
  · dsimp only
    split
    · rename_i r hr
      intro st' _
      refine ⟨fun r' hr' => ?_, fun _ _ _ => trivial⟩
      cases hr'
      exact Expr.arises_of_refusal? hr text
    · exact Ensures.pure fun _ h => h

end Reader

/-- A text that is refused for a count has a number in it that is no count, and one that is refused
for its alphabets asks for both of them. -/
theorem Search.arises_of_read {text : List Char} {r : Refusal} (h : Search.read text = .error r) :
    (r = .repetitionTooLarge → HasLargeNumber text) ∧
      (r = .conflictingAlphabets → Asks text .ascii ∧ Asks text .unicode) := by
  have hrun := Reader.run_of_read_error h
  have harises : ∀ {r : Refusal}, Reader.Arises text r →
      (r = .repetitionTooLarge → HasLargeNumber text) ∧
        (r = .conflictingAlphabets → Asks text .ascii ∧ Asks text .unicode) :=
    fun h => ⟨h.2, fun hr => absurd hr h.1⟩
  have hinside : Reader.Inside text (.initial text) := ⟨List.suffix_refl _, nofun⟩
  rcases Reader.error_of_bind hrun with hget | ⟨_, _, hget, hrun⟩
  · cases hget
  cases hget
  rcases Reader.error_of_bind hrun with hmove | ⟨_, _, hmove, hrun⟩
  · exact harises ((Reader.moveTo_keeps (List.suffix_refl _) _ hinside).1 _ hmove)
  obtain ⟨-, rfl⟩ := Reader.run_moveTo hmove
  rcases Reader.error_of_bind hrun with hget | ⟨_, _, hget, hrun⟩
  · cases hget
  cases hget
  rcases Reader.error_of_bind hrun with hread | ⟨ps, mid, hread, hrun⟩
  · exact harises (((Reader.fuelKeeps text _).alternatives _ hinside).1 _ hread)
  have hmid := ((Reader.fuelKeeps text _).alternatives _ hinside).2 _ _ hread
  rcases Reader.error_of_bind hrun with hget | ⟨_, _, hget, hrun⟩
  · cases hget
  cases hget
  -- The alphabets are compared once all of the text is read, whatever else is wrong with it.
  by_cases hboth : (mid.flags.contains .ascii && mid.flags.contains .unicode) = true
  · refine ⟨fun hr => ?_, fun _ => ?_⟩
    · rw [if_pos hboth] at hrun
      cases hrun
      cases hr
    · obtain ⟨hascii, hunicode⟩ := Bool.and_eq_true_iff.1 hboth
      exact ⟨hmid.flags _ (List.contains_iff_mem.1 hascii),
        hmid.flags _ (List.contains_iff_mem.1 hunicode)⟩
  · rw [if_neg hboth] at hrun
    exact harises ((Reader.checks_ensures ps mid _ trivial).1 _ hrun)

/-! ## Excessive texts -/

/-- The refusal is passed on as it is, and not as a fault of the catalog. -/
def Refusal.isPassedOn : Refusal → Bool
  | .repetitionTooLarge | .conflictingAlphabets => true
  | _ => false

/-- The text has a number in it that is no count, or it asks for both alphabets. -/
def IsExcessive (text : List Char) : Prop :=
  HasLargeNumber text ∨ Asks text .ascii ∧ Asks text .unicode

/-- A text is excessive if its refusal is no fault of the syntax. -/
theorem Search.isExcessive_of_read {text : List Char} {r : Refusal} (h : read text = .error r)
    (hr : r.isPassedOn = true) : IsExcessive text := by
  obtain ⟨hnumber, halphabets⟩ := arises_of_read h
  cases r with
  | repetitionTooLarge => exact Or.inl (hnumber rfl)
  | conflictingAlphabets => exact Or.inr (halphabets rfl)
  | _ => cases hr

variable {text : List Char}

/-- A text is excessive that has all the marks which another one has that is excessive. -/
theorem IsExcessive.of_marks {whole : List Char} (h : IsExcessive text)
    (hdigits : ∀ digits, digits <:+: text → (∀ c ∈ digits, c.isDigit = true) → digits <:+: whole)
    (hletters : ∀ letters, '(' :: '?' :: letters <:+: text →
      (∀ c ∈ letters, (Flag.ofChar? c).isSome = true) → '(' :: '?' :: letters <:+: whole) :
    IsExcessive whole := by
  have hasks : ∀ {f}, Asks text f → Asks whole f := by
    rintro f ⟨letters, hin, hflags, hf⟩
    exact ⟨letters, hletters letters hin hflags, hflags, hf⟩
  refine h.imp ?_ fun hboth => ⟨hasks hboth.1, hasks hboth.2⟩
  rintro ⟨digits, hin, hall, hlarge⟩
  exact ⟨digits, hdigits digits hin hall, hall, hlarge⟩

/-- A text is excessive if a part of it is. -/
theorem IsExcessive.of_infix {whole : List Char} (h : IsExcessive text) (hin : text <:+: whole) :
    IsExcessive whole :=
  h.of_marks (fun _ hd _ => hd.trans hin) fun _ hl _ => hl.trans hin

/-- A character that is no part of a mark. -/
structure IsNeutral (c : Char) : Prop where
  digit : c.isDigit = false
  flag : Flag.ofChar? c = none
  start : c ∉ ['(', '?']

/-- A neutral character between two texts does not make them excessive. -/
theorem IsExcessive.of_append_cons {before after whole : List Char} {c : Char} (hc : IsNeutral c)
    (h : IsExcessive (before ++ c :: after)) (hbefore : before <:+: whole)
    (hafter : after <:+: whole) : IsExcessive whole := by
  have hside : ∀ mark, c ∉ mark → mark <:+: before ++ c :: after → mark <:+: whole :=
    fun mark hmark hin => (Text.infix_append_cons hmark hin).elim
      (fun h => h.trans hbefore) fun h => h.trans hafter
  refine h.of_marks (fun digits hin hall => ?_) fun letters hin hall => ?_
  · refine hside digits (fun hmem => ?_) hin
    cases hc.digit.symm.trans (hall c hmem)
  · refine hside _ (fun hmem => ?_) hin
    rcases List.mem_append.1 (show c ∈ ['(', '?'] ++ letters from hmem) with hmem | hmem
    · exact hc.start hmem
    · have hsome := hall c hmem
      rw [hc.flag] at hsome
      cases hsome

/-- An anchor does not make a text excessive. -/
theorem IsExcessive.of_end_anchored (h : IsExcessive (text ++ ['$'])) : IsExcessive text :=
  h.of_append_cons ⟨by decide, by decide, by decide⟩ (List.infix_refl _) List.nil_infix

/-- The sign for the start is no mark of an excessive text. -/
theorem IsExcessive.of_start_anchored (h : IsExcessive ('^' :: text)) : IsExcessive text :=
  (show IsExcessive ([] ++ '^' :: text) from h).of_append_cons
    ⟨by decide, by decide, by decide⟩ List.nil_infix (List.infix_refl _)

end PhoneticCatalog.Context
