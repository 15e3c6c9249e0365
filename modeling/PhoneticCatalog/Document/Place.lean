/-!
# Places in the text of a document

A `Place` is what is left of a text, together with how many characters were passed, and the line and
the column that this makes. Line breaks are carriage return with line feed, either of them alone,
next line, line separator and paragraph separator.
-/

namespace PhoneticCatalog.Document

/-- The characters that break a line. -/
def isBreak (c : Char) : Bool :=
  c = '\n' || c = '\r' || c = '\u0085' || c = '\u2028' || c = '\u2029'

/-- The characters that leave a gap within a line. -/
def isGap (c : Char) : Bool := c = ' ' || c = '\t'

/-- Nothing, or a gap or a line break, comes next. -/
def endsWord : List Char → Bool
  | [] => true
  | c :: _ => isGap c || isBreak c

/-- Nothing, or a space or a line break, comes next. -/
def endsName : List Char → Bool
  | [] => true
  | c :: _ => c = ' ' || isBreak c

/-- Nothing, or a line break, comes next. -/
def endsLine : List Char → Bool
  | [] => true
  | c :: _ => isBreak c

/-- A place in the text of a document. -/
structure Place where
  rest : List Char
  index : Nat := 0
  line : Nat := 0
  column : Nat := 0
  deriving Repr

namespace Place

/-- The place behind one more character. A byte order mark takes no column. -/
def next (p : Place) : Place :=
  match p.rest with
  | [] => p
  | c :: rest =>
    if isBreak c && !(c = '\r' && rest.head? = some '\n') then ⟨rest, p.index + 1, p.line + 1, 0⟩
    else ⟨rest, p.index + 1, p.line, if c = '\ufeff' then p.column else p.column + 1⟩

/-- The place behind so many characters. -/
def skip (p : Place) : Nat → Place
  | 0 => p
  | n + 1 => p.next.skip n

/-- The characters from here on that pass a test, and the place behind them. -/
def span (p : Place) (test : Char → Bool) : List Char × Place :=
  let taken := p.rest.takeWhile test
  (taken, p.skip taken.length)

/-- The place behind all characters from here on that pass a test. -/
def pass (p : Place) (test : Char → Bool) : Place := (p.span test).2

/-- The place behind the spaces from here on, but not beyond a column. -/
def passSpacesTo (p : Place) (column : Nat) : Place :=
  p.skip (min (p.rest.takeWhile (· = ' ')).length (column - p.column))

/-- The line break at a place, as it counts in a scalar, and the place behind it. -/
def lineBreak? (p : Place) : Option (Char × Place) :=
  match p.rest with
  | '\r' :: '\n' :: _ => some ('\n', p.skip 2)
  | c :: _ =>
    if c = '\u2028' || c = '\u2029' then some (c, p.next)
    else if isBreak c then some ('\n', p.next)
    else none
  | [] => none

/-- Three hyphens or three dots stand here by themselves. -/
def atSeparator (p : Place) : Bool :=
  (p.rest.take 3 = ['-', '-', '-'] || p.rest.take 3 = ['.', '.', '.']) && endsWord (p.rest.drop 3)

/-- The comment that starts here is passed, if there is one. -/
def passComment (p : Place) : Place :=
  if p.rest.head? = some '#' then p.pass (!isBreak ·) else p

end Place

end PhoneticCatalog.Document
