import PhoneticCatalog.Context.Match

/-!
# A match is a way through the text

An attempt that succeeds does so by reaching a spot where what comes after it succeeds, and it
succeeds with everything else that does so at that spot (`PassesOn`); `Continues` has a rule for
each way in which attempts are put together. So whether an expression matches from one position to
another does not depend on what the match is wanted for: a match of an expression with something
behind it holds a match of the expression alone.
-/

namespace PhoneticCatalog.Context

/-- If the attempt from one spot succeeds, it reaches a spot where what comes next succeeds, and it
succeeds with whatever else succeeds there. -/
def Continues (m : (Spot → Option Spot) → Option Spot) : Prop :=
  ∀ k r, m k = some r → ∃ s', k s' = some r ∧ ∀ k', (k' s').isSome = true → (m k').isSome = true

/-- An attempt continues from wherever it starts. -/
def PassesOn (body : Attempt) : Prop := ∀ s, Continues (body s)

namespace Continues

variable {m n : (Spot → Option Spot) → Option Spot}

/-- Going on at a place is a search that goes on there. -/
theorem stop (s : Spot) : Continues fun k => k s := fun _ _ h => ⟨s, h, fun _ h' => h'⟩

/-- A search that never goes on needs no place. -/
theorem fail : Continues fun _ => none := fun _ _ h => by cases h

/-- Two searches in turn go on where the second one does. -/
theorem bind (hm : Continues m) {f : Spot → (Spot → Option Spot) → Option Spot}
    (hf : ∀ s, Continues (f s)) : Continues fun k => m fun s => f s k := by
  intro k r h
  obtain ⟨s₁, h₁, hpass₁⟩ := hm _ _ h
  obtain ⟨s', h', hpass'⟩ := hf s₁ _ _ h₁
  exact ⟨s', h', fun k' hk' => hpass₁ _ (hpass' _ hk')⟩

/-- A search that depends on a condition goes on where one of its branches does. -/
theorem ite {c : Prop} [Decidable c] (hm : Continues m) (hn : Continues n) :
    Continues fun k => if c then m k else n k := by
  by_cases hc : c
  · simpa only [if_pos hc] using hm
  · simpa only [if_neg hc] using hn

/-- A second way is tried where the first one does not succeed. What comes next may then succeed in
the first way. -/
theorem orElse (hm : Continues m) (hn : Continues n) :
    Continues fun k => match m k with
      | some r => some r
      | none => n k := by
  intro k r h
  -- Another continuation may let the first way succeed where it failed before; either way is an
  -- answer.
  cases hk : m k with
  | some r' =>
    simp only [hk] at h
    obtain rfl := Option.some.inj h
    obtain ⟨s', h', hpass'⟩ := hm _ _ hk
    refine ⟨s', h', fun k' hk' => ?_⟩
    obtain ⟨r'', hr''⟩ := Option.isSome_iff_exists.1 (hpass' _ hk')
    simp only [hr'', Option.isSome_some]
  | none =>
    simp only [hk] at h
    obtain ⟨s', h', hpass'⟩ := hn _ _ h
    refine ⟨s', h', fun k' hk' => ?_⟩
    dsimp only
    cases m k' with
    | some r' => rfl
    | none => exact hpass' _ hk'

/-- What is tried in its first way only passes on its end. -/
theorem of_option (found : Option Spot) : Continues fun k => found.bind k := by
  cases found with
  | none => exact fail
  | some s => exact stop s

/-- A look around a place goes on at that place. -/
theorem look (negated : Bool) (found : Option Spot) (s : Spot) :
    Continues fun k => Context.look negated found s k := by
  cases found with
  | none => exact ite (stop s) fail
  | some s' => exact ite fail (stop _)

end Continues

/-! ## Repeats -/

section Repeats

variable {body : Attempt} {least : Nat} {greatest : Option Nat} {bound count : Nat}
  {last : Option Nat}

/-- A greedy repeat goes on behind one of its turns. -/
theorem passesOn_repeatGreedy (hbody : PassesOn body) :
    PassesOn fun s k => repeatGreedy body least greatest k bound count last s := by
  induction bound generalizing count last with
  | zero => exact Continues.stop
  | succ bound ih =>
    intro s
    have hround : ∀ next, Continues fun k =>
        body s (repeatGreedy body least greatest k bound (count + 1) next) :=
      fun next => Continues.bind (hbody s) ih
    exact .ite (hround last) (.ite (.orElse (hround _) (.stop s)) (.stop s))

/-- A lazy repeat goes on behind one of its turns. -/
theorem passesOn_repeatLazy (hbody : PassesOn body) :
    PassesOn fun s k => repeatLazy body least greatest k bound count last s := by
  induction bound generalizing count last with
  | zero => exact Continues.stop
  | succ bound ih =>
    intro s
    have hround : ∀ next, Continues fun k =>
        body s (repeatLazy body least greatest k bound (count + 1) next) :=
      fun next => Continues.bind (hbody s) ih
    exact .ite (hround last) (.orElse (.stop s) (.ite (hround _) .fail))

end Repeats

/-! ## Expressions -/

namespace Expr

/-- A match ends by going on at some place, which does not depend on what comes after. -/
theorem passesOn_match? (text : Array Char) (e : Expr) : PassesOn (e.match? text) := by
  -- What is looked at, or kept as a whole, is matched with a continuation of its own.
  induction e with
  | empty => exact Continues.stop
  | one test =>
    intro s
    cases hc : text[s.position]? with
    | none => simpa only [match?, hc] using Continues.fail
    | some c => simpa only [match?, hc] using Continues.ite (.stop _) .fail
  | anchor a => exact fun s => .ite (.stop s) .fail
  | seq e f ihe ihf => exact fun s => .bind (ihe s) ihf
  | alt e f ihe ihf => exact fun s => .orElse (ihe s) (ihf s)
  | capture n e ih => exact fun s => .bind (ih _) fun s' => .stop (s'.closeGroup n)
  | atomic e ih => exact fun s => .of_option (e.match? text s some)
  | lookAhead negated e ih => exact fun s => .look negated (e.match? text s some) s
  | lookBehind negated e ih => exact fun s => .look negated _ s
  | again n rule w =>
    intro s
    cases hspan : s.span? n with
    | none => simpa only [match?, hspan] using Continues.fail
    | some span => simpa only [match?, hspan] using Continues.ite (.stop _) .fail
  | ifGroup n e f ihe ihf => exact fun s => .ite (ihe s) (ihf s)
  | repeated mode least greatest e ih =>
    intro s
    cases mode with
    | greedy => exact passesOn_repeatGreedy ih s
    | lazy => exact passesOn_repeatLazy ih s
    | possessive => exact .of_option _

/-- A sequence is matched by its first part, then by the others. -/
theorem match?_sequence_cons (text : Array Char) (e : Expr) (es : List Expr) (s : Spot)
    (k : Spot → Option Spot) :
    (sequence (e :: es)).match? text s k =
      e.match? text s fun s' => (sequence es).match? text s' k := by
  cases es <;> rfl

/-- Two sequences in a row are matched one after the other. -/
theorem match?_sequence_append (text : Array Char) (es fs : List Expr) (s : Spot)
    (k : Spot → Option Spot) :
    (sequence (es ++ fs)).match? text s k =
      (sequence es).match? text s fun s' => (sequence fs).match? text s' k := by
  induction es generalizing s with
  | nil => rfl
  | cons e es ih =>
    rw [List.cons_append, match?_sequence_cons, match?_sequence_cons]
    exact congrArg _ (funext ih)

end Expr

/-! ## From one position to another -/

/-- The expression can match from position `a` of the text to position `b`. -/
def Search.matchesBetween (s : Search) (text : List Char) (a b : Nat) : Bool :=
  (s.body.match? text.toArray (.start a) fun spot =>
    if spot.position = b then some spot else none).isSome

/-- A match that goes on ends somewhere first. -/
theorem Search.exists_matchesBetween {s : Search} {text : List Char} {a : Nat}
    {k : Spot → Option Spot} (h : (s.body.match? text.toArray (.start a) k).isSome = true) :
    ∃ spot, (k spot).isSome = true ∧ s.matchesBetween text a spot.position = true := by
  obtain ⟨r, hr⟩ := Option.isSome_iff_exists.1 h
  obtain ⟨spot, hspot, hpass⟩ := s.body.passesOn_match? text.toArray _ _ _ hr
  refine ⟨spot, Option.isSome_iff_exists.2 ⟨r, hspot⟩, hpass _ ?_⟩
  rw [if_pos rfl]
  rfl

end PhoneticCatalog.Context
