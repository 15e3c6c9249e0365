import PhoneticCatalog.Context.Expr

/-!
# Pieces of an expression

While an expression is read, a sequence is kept as a list of pieces: what a repeat sign applies to
is the last piece. Alternatives are brought into a normal form on pieces (`Piece.alternatives`):
what all of them start with is written once, in front, and alternatives that are single characters
or sets become one set.
-/

namespace PhoneticCatalog.Context

/-- The switches that change how an expression is read. -/
inductive Flag where
  | ascii
  | ignoreCase
  | locale
  | multiline
  | dotAll
  | template
  | unicode
  | verbose
  deriving DecidableEq, Repr

namespace Flag

/-- The switch that a letter names. -/
def ofChar? : Char → Option Flag
  | 'a' => some ascii
  | 'i' => some ignoreCase
  | 'L' => some locale
  | 'm' => some multiline
  | 's' => some dotAll
  | 't' => some template
  | 'u' => some unicode
  | 'x' => some verbose
  | _ => none

/-- Switches that choose an alphabet, of which one holds at a time. -/
def choosesAlphabet : Flag → Bool
  | ascii | locale | unicode => true
  | _ => false

/-- The switches inside a group that turns some on and some off. A chosen alphabet takes the place
of the one before. -/
def inGroup (flags on off : List Flag) : List Flag :=
  let kept := if on.any choosesAlphabet then flags.filter (!·.choosesAlphabet) else flags
  (kept ++ on).filter (!off.contains ·)

end Flag

/-- The alphabet that the switches choose. -/
def alphabetOf (flags : List Flag) : Alphabet :=
  if flags.contains .ascii then .ascii else .unicode

/-- The case rule that the switches choose. -/
def caseRuleOf (flags : List Flag) : CaseRule :=
  if flags.contains .ignoreCase then .ignored (alphabetOf flags) else .exact

/-- One piece of a sequence. Simple pieces can be compared and merged. -/
inductive Piece where
  | literal (negated : Bool) (code : Nat)
  | set (negated : Bool) (items : List SetItem)
  | dot
  | textStart
  | textEnd
  | anchor (a : Anchor)
  | again (group : Nat) (width : Width)
  | repeated (e : Expr)
  | whole (e : Expr)
  deriving Repr

namespace Piece

/-- The two pieces are simple and the same. -/
def same : Piece → Piece → Bool
  | literal b n, literal c m => b = c && n = m
  | set b is, set c js => b = c && is = js
  | dot, dot | textStart, textStart | textEnd, textEnd => true
  | anchor a, anchor b => a = b
  | again n _, again m _ => n = m
  | _, _ => false

/-- The piece takes no character, and a repeat of it is refused. -/
def isAnchor : Piece → Bool
  | textStart | textEnd | anchor _ => true
  | _ => false

/-- The piece is a repeat, and a repeat of it is refused. -/
def isRepeated : Piece → Bool
  | repeated _ => true
  | _ => false

/-- The expression of a piece under the switches that hold at its place. -/
def toExpr (flags : List Flag) : Piece → Expr
  | literal negated code => .one (.literal negated code (caseRuleOf flags))
  | set negated items => .one (.ofItems negated items (alphabetOf flags) (caseRuleOf flags))
  | dot => .one (.any (flags.contains .dotAll))
  | textStart => .anchor (if flags.contains .multiline then .lineStart else .textStart)
  | textEnd => .anchor (if flags.contains .multiline then .lineEnd else .textEnd)
  | anchor a => .anchor a
  | again group width => .again group (caseRuleOf flags) width
  | repeated e => e
  | whole e => e

/-- The expression of a sequence of pieces. -/
def sequence (flags : List Flag) (ps : List Piece) : Expr :=
  Expr.sequence (ps.map (toExpr flags))

/-- The simple piece that all sequences start with, and what is left of them. -/
def commonHead? : List (List Piece) → Option (Piece × List (List Piece))
  | [] => none
  | [] :: _ => none
  | (p :: ps) :: others =>
    if others.all (fun qs => match qs with | q :: _ => same p q | [] => false) then
      some (p, ps :: others.map List.tail)
    else none

/-- The simple pieces that all sequences start with, and what is left of them. `bound` is the length
of one of the sequences. -/
def commonStart : (bound : Nat) → List (List Piece) → List Piece × List (List Piece)
  | 0, alternatives => ([], alternatives)
  | bound + 1, alternatives =>
    match commonHead? alternatives with
    | some (p, rest) =>
      let (ps, rest) := commonStart bound rest
      (p :: ps, rest)
    | none => ([], alternatives)

/-- The items of a sequence that is one character or one set. -/
def setItems? : List Piece → Option (List SetItem)
  | [literal false code] => some [.point code]
  | [set false items] => some items
  | _ => none

/-- Several alternatives as one sequence of pieces. -/
def alternatives (flags : List Flag) : List (List Piece) → List Piece
  | [] => []
  | [ps] => ps
  | ps :: others =>
    let (start, rest) := commonStart ps.length (ps :: others)
    match rest.mapM setItems? with
    | some items => start ++ [set false items.flatten.eraseDups]
    | none => start ++ [whole (Expr.choice (rest.map (sequence flags)))]

end Piece

end PhoneticCatalog.Context
