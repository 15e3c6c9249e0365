import PhoneticCatalog.Context.Expr

/-!
# Matching context expressions

`Expr.match?` tries an expression at one place of a text and goes on, at every place where it can
end, with what comes after it; the first way to get through is the answer. `Search.occursIn` asks
whether an expression matches anywhere in a text.

A repeat whose body took nothing is not tried again at the same place. So beyond its least count a
repeat starts each round at a later position than the one before, and `repeatBound` rounds are
enough.
-/

namespace PhoneticCatalog.Context

/-- Where a match stands: the position in the text, and where groups were opened and closed last. -/
structure Spot where
  position : Nat
  opened : Nat → Option Nat
  closed : Nat → Option Nat

namespace Spot

/-- The start of a match at a position. No group has a text. -/
def start (position : Nat) : Spot := ⟨position, fun _ => none, fun _ => none⟩

/-- The spot with another position. -/
def goto (s : Spot) (position : Nat) : Spot := { s with position }

/-- Opens a group at the position. -/
def openGroup (s : Spot) (n : Nat) : Spot :=
  { s with opened := fun m => if m = n then some s.position else s.opened m }

/-- Closes a group at the position. -/
def closeGroup (s : Spot) (n : Nat) : Spot :=
  { s with closed := fun m => if m = n then some s.position else s.closed m }

/-- Where the text of a group starts and ends. A group opened again after it was last closed has
none. -/
def span? (s : Spot) (n : Nat) : Option (Nat × Nat) :=
  match s.opened n, s.closed n with
  | some a, some b => if a ≤ b then some (a, b) else none
  | _, _ => none

end Spot

namespace Anchor

/-- The character at a position is one of a word. -/
private def wordAt (a : Alphabet) (text : Array Char) (i : Nat) : Bool :=
  (text[i]?.map fun c => CharClass.word.holds a c.toNat).getD false

/-- The position is of this kind. The empty text has no edge of a word and no place without one. -/
def holds (text : Array Char) (i : Nat) : Anchor → Bool
  | textStart => i = 0
  | lineStart => i = 0 || text[i - 1]? = some '\n'
  | textEnd => i = text.size || (i + 1 = text.size && text[i]? = some '\n')
  | lineEnd => i = text.size || text[i]? = some '\n'
  | veryEnd => i = text.size
  | wordEdge a negated =>
    !text.isEmpty && ((i ≠ 0 && wordAt a text (i - 1)) != wordAt a text i) != negated

end Anchor

/-- Tries an expression at a spot and goes on with what comes after it. -/
abbrev Attempt := Spot → (Spot → Option Spot) → Option Spot

/-- The number of rounds that a repeat can need from a spot on. -/
def repeatBound (text : Array Char) (least : Nat) (s : Spot) : Nat :=
  least + (text.size - s.position) + 2

/-- Another round is allowed: the count is below the greatest one, and the last optional round did
not start here. -/
def roundAllowed (greatest : Option Nat) (count : Nat) (last : Option Nat) (s : Spot) : Bool :=
  (greatest.all (count < ·)) && last ≠ some s.position

/-- As many rounds as possible first. `count` rounds are done, and `last` is where the last optional
one started. -/
def repeatGreedy (body : Attempt) (least : Nat) (greatest : Option Nat)
    (k : Spot → Option Spot) : (bound count : Nat) → Option Nat → Spot → Option Spot
  | 0, _, _, s => k s
  | bound + 1, count, last, s =>
    if count < least then
      body s (repeatGreedy body least greatest k bound (count + 1) last)
    else if roundAllowed greatest count last s then
      match body s (repeatGreedy body least greatest k bound (count + 1) (some s.position)) with
      | some r => some r
      | none => k s
    else k s

/-- As few rounds as possible first. -/
def repeatLazy (body : Attempt) (least : Nat) (greatest : Option Nat)
    (k : Spot → Option Spot) : (bound count : Nat) → Option Nat → Spot → Option Spot
  | 0, _, _, s => k s
  | bound + 1, count, last, s =>
    if count < least then
      body s (repeatLazy body least greatest k bound (count + 1) last)
    else
      match k s with
      | some r => some r
      | none =>
        if roundAllowed greatest count last s then
          body s (repeatLazy body least greatest k bound (count + 1) (some s.position))
        else none

/-- As many rounds as possible, each in the first way it can go. -/
def repeatPossessive (body : Attempt) (least : Nat) (greatest : Option Nat) :
    (bound count : Nat) → Option Nat → Spot → Option Spot
  | 0, _, _, s => some s
  | bound + 1, count, last, s =>
    if count < least then
      match body s some with
      | some s' => repeatPossessive body least greatest bound (count + 1) last s'
      | none => none
    else if roundAllowed greatest count last s then
      match body s some with
      | some s' =>
        repeatPossessive body least greatest bound (count + 1) (some s.position) s'
      | none => some s
    else some s

/-- A look to the side: if the body matches as wanted, the match goes on where it stands. What a
wanted body has remembered stays. -/
def look (negated : Bool) (found : Option Spot) (s : Spot) (k : Spot → Option Spot) :
    Option Spot :=
  match found with
  | some s' => if negated then none else k (s'.goto s.position)
  | none => if negated then k s else none

/-- The characters are the same under a case rule. -/
def sameChar : CaseRule → Char → Char → Bool
  | .exact, c, d => c = d
  | .ignored a, c, d => a.smallForm c.toNat = a.smallForm d.toNat

/-- The part of the text from `a` to `b` stands at position `i` once more. -/
def standsAgain (text : Array Char) (rule : CaseRule) (a b i : Nat) : Bool :=
  (List.range (b - a)).all fun j =>
    match text[a + j]?, text[i + j]? with
    | some c, some d => sameChar rule c d
    | _, _ => false

namespace Expr

/-- Matches an expression at a spot and goes on with `k` from where it ends. -/
def match? (text : Array Char) : Expr → Attempt
  | empty, s, k => k s
  | one test, s, k =>
    match text[s.position]? with
    | some c => if test.accepts c then k (s.goto (s.position + 1)) else none
    | none => none
  | anchor a, s, k => if a.holds text s.position then k s else none
  | seq e f, s, k => e.match? text s fun s' => f.match? text s' k
  | alt e f, s, k =>
    match e.match? text s k with
    | some r => some r
    | none => f.match? text s k
  | capture n e, s, k => e.match? text (s.openGroup n) fun s' => k (s'.closeGroup n)
  | atomic e, s, k => (e.match? text s some).bind k
  | lookAhead negated e, s, k => look negated (e.match? text s some) s k
  | lookBehind negated e, s, k =>
    let found :=
      if s.position < e.width.least then none
      else e.match? text (s.goto (s.position - e.width.least)) some
    look negated found s k
  | again n rule _, s, k =>
    match s.span? n with
    | some (a, b) =>
      if standsAgain text rule a b s.position then k (s.goto (s.position + (b - a))) else none
    | none => none
  | ifGroup n e f, s, k =>
    if (s.span? n).isSome then e.match? text s k else f.match? text s k
  | repeated mode least greatest e, s, k =>
    let bound := repeatBound text least s
    match mode with
    | .greedy => repeatGreedy (e.match? text) least greatest k bound 0 none s
    | .lazy => repeatLazy (e.match? text) least greatest k bound 0 none s
    | .possessive =>
      (repeatPossessive (e.match? text) least greatest bound 0 none s).bind k

/-- The set that the expression starts with, unless it compares small forms. -/
def firstSet? : Expr → Option (Bool × List SetItem)
  | one (.set negated items alphabet small) =>
    if small && items.any (·.isCased alphabet) then none else some (negated, items)
  | seq e _ | capture _ e => e.firstSet?
  | _ => none

end Expr

/-- An expression to be looked for in texts, and the alphabet chosen for the whole of it. -/
structure Search where
  body : Expr
  alphabet : Alphabet
  deriving Repr

namespace Search

/-- A match may start at this character. If the expression starts with a set, the character has to
be in that set as the alphabet of the whole expression reads it, also where the group that the set
stands in chooses another alphabet. -/
def startsWith (s : Search) (first : Option Char) : Bool :=
  match s.body.firstSet? with
  | some (negated, items) =>
    first.all fun c => items.any (·.holds s.alphabet c.toNat) != negated
  | none => true

/-- The expression matches somewhere in the text. -/
def occursIn (s : Search) (text : List Char) : Bool :=
  let cs := text.toArray
  (List.range (cs.size + 1)).any fun i =>
    s.startsWith cs[i]? && (s.body.match? cs (.start i) some).isSome

end Search

end PhoneticCatalog.Context
