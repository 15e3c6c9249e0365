import PhoneticCatalog.Proofs.Context.Together

/-!
# The parts of an expression read with a sign behind it

No escape, set, repeat, switch or name of a group takes in the sign for the end of a text: read from
aligned states, each of them is the same and leaves the states aligned.
-/

namespace PhoneticCatalog.Context.Reader

/-! ## Groups -/

section Groups

variable {s : List Char} {F : List Flag}

/-- The next group gets the same number, since the same groups were opened. -/
theorem nextGroup_agrees : Agree s F nextGroup nextGroup := by
  refine Agree.get_bind fun st₁ st₂ h => ?_
  rw [h.groups]
  exact Agree.pure _

/-- A group is opened alike; a name that was given before is refused in both readings. -/
theorem openGroup_agrees {name : Option (List Char)} :
    Agree s F (openGroup name) (openGroup name) := by
  refine Agree.get_bind fun st₁ st₂ h => ?_
  have hopen : Agree s F
      (do modify ({ · with groups := st₁.groups ++ [⟨name, none⟩] }); return st₁.groups.length + 1)
      (do modify ({ · with groups := st₁.groups ++ [⟨name, none⟩] })
          return st₁.groups.length + 1) := by
    refine Agree.bind (Agree.modify fun _ _ h => ?_) fun _ => Agree.pure _
    exact ⟨h.sign, h.rest, h.checked, rfl, h.lookBehindFrom, h.flags, h.flags_eq⟩
  rw [h.groups]
  cases name with
  | none => exact hopen
  | some name =>
    dsimp only
    split
    · exact ((Fails.failBack _ _).bind _).agree
    · exact hopen

/-- A group is closed with the same width. -/
theorem closeGroup_agrees {number : Nat} {width : Width} :
    Agree s F (closeGroup number width) (closeGroup number width) := by
  refine Agree.modify fun st₁ st₂ h => ?_
  exact ⟨h.sign, h.rest, h.checked, by simp only [h.groups], h.lookBehindFrom, h.flags, h.flags_eq⟩

/-- Groups have the same widths in both readings. -/
theorem widthOf?_agrees {number : Nat} : Agree s F (widthOf? number) (widthOf? number) := by
  refine Agree.get_bind fun st₁ st₂ h => ?_
  rw [h.groups]
  exact Agree.pure _

/-- A name stands for the same group in both readings. -/
theorem groupNamed?_agrees {name : List Char} :
    Agree s F (groupNamed? name) (groupNamed? name) := by
  refine Agree.get_bind fun st₁ st₂ h => ?_
  rw [h.groups]
  exact Agree.pure _

/-- What may be matched again inside of a look-behind is the same. -/
theorem checkLookBehind_agrees {number : Nat} :
    Agree s F (checkLookBehind number) (checkLookBehind number) := by
  refine Agree.get_bind fun st₁ st₂ h => ?_
  rw [h.lookBehindFrom]
  cases st₁.lookBehindFrom with
  | none => exact Agree.pure _
  | some floor =>
    refine Agree.bind widthOf?_agrees fun width => ?_
    refine Together.unless (.fail _) fun _ => ?_
    dsimp only
    split
    · exact (Fails.fail _).agree
    · exact Agree.pure _

/-- A group is matched again alike. -/
theorem again_agrees {number back : Nat} : Agree s F (again number back) (again number back) := by
  refine Agree.bind widthOf?_agrees fun width => ?_
  cases width with
  | none => exact (Fails.failBack _ _).agree
  | some width => exact Agree.bind checkLookBehind_agrees fun _ => Agree.pure _

end Groups

/-! ## Escapes -/

section Escapes

variable {s : List Char} {F : List Flag} {c : Char}

/-- The sign is no hexadecimal digit, so that an escape takes the same digits. -/
theorem hexEscape_agrees {count : Nat} : Agree s F (hexEscape c count) (hexEscape c count) := by
  refine Agree.bind (takeUpTo_agrees (by decide)) fun digits => ?_
  refine Together.unless (.failBack _ _) fun _ => ?_
  refine Together.unless (.failBack _ _) fun _ => ?_
  exact Agree.pure _

/-- The name of a character is closed before the sign. -/
theorem namedEscape_agrees : Agree s F namedEscape namedEscape := by
  refine Agree.bind (accept_agrees (by decide)) fun found => ?_
  refine Together.unless (.fail _) fun _ => ?_
  refine Agree.bind takeName_agrees fun name => ?_
  split
  · exact Agree.pure _
  · exact (Fails.failBack _ _).agree

/-- Escapes for a code point agree. -/
theorem codeEscape?_agrees {m : Reader Nat} (h : codeEscape? c = some m) : Agree s F m m := by
  unfold codeEscape? at h
  split at h
  · cases h
    exact hexEscape_agrees
  · cases h
    exact hexEscape_agrees
  · cases h
    exact hexEscape_agrees
  · cases h
    exact namedEscape_agrees
  · cases h

/-- A code point of octal digits does not depend on what follows. -/
theorem octalCode_agrees {written : List Char} :
    Agree s F (octalCode written) (octalCode written) :=
  Together.unless (.failBack _ _) fun _ => Agree.pure _

/-- A character that stands for itself does not depend on what follows. -/
theorem selfEscape_agrees : Agree s F (selfEscape c) (selfEscape c) :=
  Together.unless (.failBack _ _) fun _ => Agree.pure _

/-- The sign is no octal digit, so that an escape in a set takes the same digits. -/
theorem setEscape_agrees : Agree s F (setEscape c) (setEscape c) := by
  unfold setEscape
  split
  · exact Agree.pure _
  split
  · exact Agree.pure _
  split
  · rename_i hcode
    exact Agree.bind (codeEscape?_agrees hcode) fun _ => Agree.pure _
  split
  · refine Agree.bind (takeUpTo_agrees (by decide)) fun more => ?_
    exact Agree.bind octalCode_agrees fun _ => Agree.pure _
  refine Together.unless (.failBack _ _) fun _ => ?_
  exact Agree.bind selfEscape_agrees fun _ => Agree.pure _

/-- The sign is no digit, so that an escape with a number takes the same digits. -/
theorem numberEscape_agrees : Agree s F (numberEscape c) (numberEscape c) := by
  refine Agree.bind (takeUpTo_agrees (by decide)) fun second => ?_
  have hgroup : Agree s F
      (do
        let number := valueOf 10 (c :: second)
        let length := second.length + 2
        if number < (← nextGroup) then again number length
        else failBack (.invalidGroup number) (length - 1))
      (do
        let number := valueOf 10 (c :: second)
        let length := second.length + 2
        if number < (← nextGroup) then again number length
        else failBack (.invalidGroup number) (length - 1)) := by
    refine Agree.bind nextGroup_agrees fun next => ?_
    split
    · exact again_agrees
    · exact (Fails.failBack _ _).agree
  dsimp only
  split
  · refine Agree.bind (takeUpTo_agrees (by decide)) fun third => ?_
    split
    · exact Agree.bind octalCode_agrees fun _ => Agree.pure _
    · exact hgroup
  · exact hgroup

/-- Every escape agrees. -/
theorem escape_agrees {flags : List Flag} : Agree s F (escape flags c) (escape flags c) := by
  unfold escape
  split
  · exact Agree.pure _
  split
  · exact Agree.pure _
  split
  · exact Agree.pure _
  split
  · rename_i hcode
    exact Agree.bind (codeEscape?_agrees hcode) fun _ => Agree.pure _
  split
  · exact Agree.bind (takeUpTo_agrees (by decide)) fun _ => Agree.pure _
  split
  · exact numberEscape_agrees
  · exact Agree.bind selfEscape_agrees fun _ => Agree.pure _

end Escapes

/-! ## Sets -/

section Sets

variable {s : List Char} {F : List Flag}

/-- A member of a set is the same in both readings. -/
theorem setMember_agrees {t : Token} : Agree s F (setMember t) (setMember t) := by
  cases t with
  | stop => exact (Fails.fail _).agree
  | plain c => exact Agree.pure _
  | escaped c => exact setEscape_agrees

/-- The items of a set agree: it is closed before the sign, whatever fuel there is. -/
theorem setItems_agrees {start start' fuel fuel' : Nat} {items : List SetItem} :
    Agree s F (setItems start fuel items) (setItems start' fuel' items) := by
  induction fuel generalizing fuel' items with
  | zero => exact (Fails.failAt _ _).agree
  | succ fuel ih =>
    -- Both readers have a bound of their own; one without steps left fails, and failures agree with
    -- anything.
    cases fuel' with
    | zero => exact (Fails.failAt _ _).together_right
    | succ fuel' =>
      refine Agree.take_bind ((Fails.failAt _ _).bind _) fun this hthis => ?_
      refine Together.unless (.failAt _ _) fun _ => ?_
      split
      · exact Agree.pure _
      refine Agree.bind setMember_agrees fun first => ?_
      refine Agree.bind (accept_agrees (by decide)) fun range => ?_
      split
      · exact ih
      refine Agree.take_bind ((Fails.failAt _ _).bind _) fun that hthat => ?_
      refine Together.unless (.failAt _ _) fun _ => ?_
      split
      · exact Agree.pure _
      refine Agree.bind setMember_agrees fun last => ?_
      dsimp only
      split
      · split
        · exact (Fails.failBack _ _).agree
        · exact ih
      · exact (Fails.failBack _ _).agree

/-- A set agrees, since it is closed before the sign. -/
theorem set_agrees : Agree s F set set := by
  refine Agree.get_bind fun st₁ st₂ _ => ?_
  refine Agree.bind (accept_agrees (by decide)) fun negated => ?_
  refine Agree.get_bind fun st₁ st₂ _ => ?_
  refine Agree.bind setItems_agrees fun items => ?_
  dsimp only
  split <;> exact Agree.pure _

end Sets

/-! ## Repeats -/

section Repeats

variable {s : List Char} {F : List Flag}

/-- The number that some digits write does not depend on what follows. -/
theorem count_agrees {digits : List Char} : Agree s F (count digits) (count digits) :=
  Together.unless (.throw _) fun _ => Agree.pure _

/-- Counts between braces are closed before the sign, or are none in both readings. -/
theorem bracedCounts?_agrees : Agree s F bracedCounts? bracedCounts? := by
  refine Agree.get_bind fun st₁ st₂ h => ?_
  refine Together.peek_ite (by decide) ?_ ?_
  · exact fun _ _ h => Agree.pure _ _ _ h.1
  refine Agree.bind (takeAll_agrees (by decide)) fun lo => ?_
  refine Agree.bind (accept_agrees (by decide)) fun comma => ?_
  refine Agree.ite_bind (takeAll_agrees (by decide)) (Agree.pure _) fun hi => ?_
  refine Agree.bind (accept_agrees (by decide)) fun closed => ?_
  dsimp only
  split
  · exact Agree.bind (moveTo_agrees h.rest) fun _ => Agree.pure _
  refine Agree.ite_bind (Agree.pure _) count_agrees fun least => ?_
  split
  · exact Agree.pure _
  refine Agree.bind count_agrees fun greatest => ?_
  exact Together.unless (.failAt _ _) fun _ => Agree.pure _

/-- A repeat has the same counts. -/
theorem counts?_agrees {c : Char} : Agree s F (counts? c) (counts? c) := by
  unfold counts?
  split
  · exact Agree.pure _
  · exact Agree.pure _
  · exact Agree.pure _
  · exact bracedCounts?_agrees

/-- The sign does not change how a repeat goes on. -/
theorem repeatMode_agrees : Agree s F repeatMode repeatMode := by
  refine Agree.bind (accept_agrees (by decide)) fun lazy => ?_
  split
  · exact Agree.pure _
  refine Agree.bind (accept_agrees (by decide)) fun possessive => ?_
  split <;> exact Agree.pure _

end Repeats

/-! ## Switches -/

section Switches

variable {s : List Char} {F : List Flag}

/-- Letters of switches to be set end before the sign. -/
theorem flagsOn_agrees {fuel fuel' : Nat} {flag : Flag} {on : List Flag} :
    Agree s F (flagsOn fuel flag on) (flagsOn fuel' flag on) := by
  -- As for the items of a set, the bounds need not be the same.
  induction fuel generalizing fuel' flag on with
  | zero => exact (Fails.fail _).agree
  | succ fuel ih =>
    cases fuel' with
    | zero => exact (Fails.fail _).together_right
    | succ fuel' =>
      refine Together.unless (.fail _) fun _ => ?_
      refine Together.unless (.fail _) fun _ => ?_
      refine Agree.take_bind (.fail _) fun t _ => ?_
      split
      · exact (Fails.fail _).agree
      · exact Agree.pure _
      · exact Agree.pure _
      · exact Agree.pure _
      · split
        · exact ih
        · exact (Fails.failBack _ _).agree

/-- Letters of switches to be unset end before the sign. -/
theorem flagsOff_agrees {fuel fuel' : Nat} {flag : Flag} {off : List Flag} :
    Agree s F (flagsOff fuel flag off) (flagsOff fuel' flag off) := by
  induction fuel generalizing fuel' flag off with
  | zero => exact (Fails.fail _).agree
  | succ fuel ih =>
    cases fuel' with
    | zero => exact (Fails.fail _).together_right
    | succ fuel' =>
      refine Together.unless (.fail _) fun _ => ?_
      refine Agree.take_bind (.fail _) fun t _ => ?_
      split
      · exact (Fails.fail _).agree
      · exact Agree.pure _
      · split
        · exact ih
        · exact (Fails.failBack _ _).agree

/-- What becomes of switches. Those for the whole expression are added to the ones set. -/
def SwitchesEnd (s : List Char) (F : List Flag) (a b : Switches) (st₁ st₂ : ReadState) : Prop :=
  a = b ∧
    match a with
    | .whole => ∃ on, Aligned s (F ++ on) st₁ st₂
    | .group _ _ => Aligned s F st₁ st₂

/-- The switches of a group agree. Where they concern the whole expression, both readings set them.
-/
theorem switches_together {t : Token} :
    Together (Aligned s F) (switches t) (switches t) (SwitchesEnd s F) := by
  have hoff : ∀ on off : List Flag, Together (Aligned s F)
      (do
        if off.contains .template then failBack .globalFlagOff 1
        if on.any off.contains then failBack .flagOnAndOff 1
        return Switches.group on off)
      (do
        if off.contains .template then failBack .globalFlagOff 1
        if on.any off.contains then failBack .flagOnAndOff 1
        return Switches.group on off)
      (SwitchesEnd s F) := by
    intro on off
    refine Together.unless (.failBack _ _) fun _ => Together.unless (.failBack _ _) fun _ => ?_
    intro st₁ st₂ h a st₁' b st₂' h₁ h₂
    cases h₁
    cases h₂
    exact ⟨rfl, h⟩
  refine Agree.get_bind fun st₁ st₂ _ => ?_
  -- Without a letter to switch on, the switches start with those to be turned off.
  cases flagOf? t
  case' none => refine Agree.bind (Agree.pure _) ?_
  case' some => refine Agree.bind flagsOn_agrees ?_
  all_goals
    rintro ⟨on, ending⟩
    dsimp only
    split
    · intro st₁ st₂ h a st₁' b st₂' h₁ h₂
      cases h₁
      cases h₂
      exact ⟨rfl, on, h.sign, h.rest, h.checked, h.groups, h.lookBehindFrom,
        congrArg (· ++ on) h.flags, congrArg (· ++ on) h.flags_eq⟩
    refine Together.unless (.failBack _ _) fun _ => ?_
    split
    · refine Agree.take_bind ((Fails.fail _).bind _) fun t' _ => ?_
      refine Together.unless (.fail _) fun _ => ?_
      cases flagOf? t' with
      | none => exact ((Fails.failBack _ _).bind _).together
      | some flag => exact Agree.bind flagsOff_agrees (hoff on)
    · exact Agree.bind (Agree.pure _) (hoff on)

end Switches

/-! ## Names of groups -/

section Names

variable {s : List Char} {F : List Flag}

/-- The name of a group is closed before the sign. -/
theorem groupName_agrees {closer : Char} : Agree s F (groupName closer) (groupName closer) := by
  refine Agree.bind takeName_agrees fun name => ?_
  exact Together.unless (.failBack _ _) fun _ => Agree.pure _

/-- The group that a condition asks about is the same. -/
theorem conditionGroup_agrees : Agree s F conditionGroup conditionGroup := by
  refine Agree.bind takeName_agrees fun name => ?_
  dsimp only
  split
  · refine Agree.bind groupNamed?_agrees fun number => ?_
    split
    · exact Agree.pure _
    · exact (Fails.failBack _ _).agree
  · split
    · refine Together.unless (.failBack _ _) fun _ => ?_
      refine Together.unless (.failBack _ _) fun _ => ?_
      refine Agree.get_bind fun st₁ st₂ _ => ?_
      refine Agree.bind (Agree.modify fun _ _ h => ?_) fun _ => Agree.pure _
      -- The readers note the position at which a group was asked for, which may differ between
      -- them.
      have hasked : ∀ (st st' : ReadState) (p q : Nat × Nat), Aligned s F st st' →
          Aligned s F
          (if (st.asked.lookup p.1).isSome then st else { st with asked := st.asked ++ [p] })
          (if (st'.asked.lookup q.1).isSome then st'
            else { st' with asked := st'.asked ++ [q] }) := by
        intro st st' p q h
        split <;> split <;>
          exact ⟨h.sign, h.rest, h.checked, h.groups, h.lookBehindFrom, h.flags, h.flags_eq⟩
      exact hasked _ _ (_, _) (_, _) h
    · exact (Fails.failBack _ _).agree

end Names

/-! ## Terms -/

section Terms

variable {s : List Char} {F : List Flag}

/-- A term is repeated the same way if there are other ones before it. -/
theorem repeatTerm_agrees {flags : List Flag} {start start' : Nat} {counts : Counts}
    {terms base : List Term} :
    Together (Aligned s F) (repeatTerm flags start counts terms)
      (repeatTerm flags start' counts (terms ++ base))
      fun terms' all st₁ st₂ => all = terms' ++ base ∧ Aligned s F st₁ st₂ := by
  cases terms with
  | nil => exact (Fails.failAt _ _).together
  | cons last before =>
    -- Only the last term is repeated, so that the terms below it do not matter.
    have hrepeat : ∀ ps : List Piece, Together (Aligned s F)
        (do return .piece (.repeated (.repeated (← repeatMode) counts.least counts.greatest
          (Piece.sequence flags ps))) :: before)
        (do return .piece (.repeated (.repeated (← repeatMode) counts.least counts.greatest
          (Piece.sequence flags ps))) :: (before ++ base))
        fun terms' all st₁ st₂ => all = terms' ++ base ∧ Aligned s F st₁ st₂ := by
      intro ps
      refine Agree.bind repeatMode_agrees fun mode => ?_
      intro st₁ st₂ h a st₁' b st₂' h₁ h₂
      cases h₁
      cases h₂
      exact ⟨rfl, h⟩
    cases last with
    | piece p =>
      refine Together.unless (.failAt _ _) fun _ => ?_
      refine Together.unless (.failAt _ _) fun _ => ?_
      exact hrepeat [p]
    | span ps => exact hrepeat ps

/-- A group is closed before the sign. -/
theorem closing_agrees {start start' : Nat} : Agree s F (closing start) (closing start') := by
  refine Agree.bind (accept_agrees (by decide)) fun closed => ?_
  split
  · exact (Fails.failAt _ _).agree
  · exact Agree.pure _

end Terms

end PhoneticCatalog.Context.Reader
