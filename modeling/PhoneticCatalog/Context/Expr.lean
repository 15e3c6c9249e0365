import PhoneticCatalog.Context.CharTest
import PhoneticCatalog.Context.Refusal

/-!
# Context expressions

The expressions that say what may stand beside a pattern, and the lengths of the texts they take.
`Expr.width` bounds these lengths; a look-behind needs them to be equal, which `Expr.refusal?`
checks together with the other conditions on a whole expression.
-/

namespace PhoneticCatalog.Context

/-- Conditions on a position in a text, which take no character. -/
inductive Anchor where
  /-- The start of the text. -/
  | textStart
  /-- The start of a line. -/
  | lineStart
  /-- The end of the text, or before a line feed that ends the text. -/
  | textEnd
  /-- The end of a line. -/
  | lineEnd
  /-- The very end of the text. -/
  | veryEnd
  /-- Between a character of a word and another one, or not so if negated. -/
  | wordEdge (alphabet : Alphabet) (negated : Bool)
  deriving DecidableEq, Repr

/-- The least and the greatest length of a text. -/
structure Width where
  least : Nat
  greatest : Nat
  deriving DecidableEq, Repr

namespace Width

/-- Lengths are not told apart from here on. -/
def bound : Nat := 1 <<< 64

/-- Both lengths cut at the bound. -/
def cut (w : Width) : Width := ⟨min w.least bound, min w.greatest bound⟩

/-- One text after the other. -/
def append (v w : Width) : Width := cut ⟨v.least + w.least, v.greatest + w.greatest⟩

/-- One text or the other. -/
def either (v w : Width) : Width := ⟨min v.least w.least, max v.greatest w.greatest⟩

/-- Between `least` and `greatest` texts; no bound if there is no `greatest`. -/
def times (w : Width) (least : Nat) (greatest : Option Nat) : Width :=
  cut ⟨w.least * least,
    match greatest with
    | some n => w.greatest * n
    | none => if w.greatest = 0 then 0 else bound⟩

end Width

/-- A context expression. -/
inductive Expr where
  /-- The empty text. -/
  | empty
  /-- One character. -/
  | one (test : CharTest)
  /-- No character, at a position of a kind. -/
  | anchor (a : Anchor)
  /-- One expression after the other. -/
  | seq (first second : Expr)
  /-- The first expression or else the second. -/
  | alt (first second : Expr)
  /-- An expression whose text is remembered under a number. -/
  | capture (group : Nat) (body : Expr)
  /-- An expression whose first way to match is the only one tried. -/
  | atomic (body : Expr)
  /-- What follows the position matches the body, or does not if negated. -/
  | lookAhead (negated : Bool) (body : Expr)
  /-- What stands before the position matches the body, or does not if negated. -/
  | lookBehind (negated : Bool) (body : Expr)
  /-- The text of a group once more. `width` is that of the group. -/
  | again (group : Nat) (rule : CaseRule) (width : Width)
  /-- The first expression if the group has a text, else the second. -/
  | ifGroup (group : Nat) (yes no : Expr)
  /-- At least `least` and at most `greatest` times the body. -/
  | repeated (mode : RepeatMode) (least : Nat) (greatest : Option Nat) (body : Expr)
  deriving Repr

namespace Expr

/-- Bounds on the length of what the expression takes. -/
def width : Expr → Width
  | empty | anchor _ | lookAhead _ _ | lookBehind _ _ => ⟨0, 0⟩
  | one _ => ⟨1, 1⟩
  | seq e f => e.width.append f.width
  | alt e f | ifGroup _ e f => e.width.either f.width
  | capture _ e | atomic e => e.width
  | again _ _ w => w
  | repeated _ least greatest e => e.width.times least greatest

/-- One expression after the other, for any number of them. -/
def sequence : List Expr → Expr
  | [] => empty
  | [e] => e
  | e :: es => seq e (sequence es)

/-- The first of several expressions that leads to a match. -/
def choice : List Expr → Expr
  | [] => empty
  | [e] => e
  | e :: es => alt e (choice es)

/-- The longest text that a look-behind can look for. -/
def longestLookBehind : Nat := 4294967295

/-- The first condition on a whole expression that this one does not meet. A template has no
repeats. -/
def refusal? (template : Bool) : Expr → Option Refusal
  | empty | one _ | anchor _ | again _ _ _ => none
  | seq e f | alt e f | ifGroup _ e f => e.refusal? template <|> f.refusal? template
  | capture _ e | atomic e | lookAhead _ e => e.refusal? template
  | lookBehind _ e =>
    if e.width.least > longestLookBehind then some .lookBehindTooLong
    else if e.width.least ≠ e.width.greatest then some .lookBehindNotFixed
    else e.refusal? template
  | repeated mode _ _ e =>
    if template then some (.repeatInTemplate mode) else e.refusal? template

end Expr

end PhoneticCatalog.Context
