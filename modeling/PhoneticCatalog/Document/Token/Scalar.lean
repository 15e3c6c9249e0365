import PhoneticCatalog.Document.Fault
import PhoneticCatalog.Document.Place
import PhoneticCatalog.Text.LetterCase

/-!
# Scalars as they are written

A scalar is written plainly, between quotes, or as a block of indented lines. Each reader gives the
text of the scalar and the place behind it. A line break within a plain or a quoted scalar counts as
a space, and of several in a row all but the first one count. The readers that follow line breaks
carry a bound on their number of turns, for which the length of the text is enough.
-/

namespace PhoneticCatalog.Document

/-! ## Quoted scalars -/

/-- The character that a backslash and a character stand for. -/
def escapes : List (Char × Char) :=
  [('0', '\x00'), ('a', '\x07'), ('b', '\x08'), ('t', '\t'), ('\t', '\t'), ('n', '\n'),
   ('v', '\x0b'), ('f', '\x0c'), ('r', '\r'), ('e', '\x1b'), (' ', ' '), ('"', '"'), ('\\', '\\'),
   ('/', '/'), ('N', '\u0085'), ('_', '\u00a0'), ('L', '\u2028'), ('P', '\u2029')]

/-- How many hexadecimal digits follow the letter of an escape. -/
def escapeWidth? : Char → Option Nat
  | 'x' => some 2
  | 'u' => some 4
  | 'U' => some 8
  | _ => none

/-- The number that exactly so many hexadecimal digits at the start of a text write. -/
def hexNumber? (width : Nat) (text : List Char) : Option Nat :=
  let digits := text.take width
  if digits.length = width && digits.all fun c => (Text.hexValue? c).isSome then
    some (Text.Number.ofPlain 16 digits)
  else none

/-- The character with a code point. A code point that is reserved for surrogates has none, and is
replaced. -/
def charOf (code : Nat) : Except ReadFault Char :=
  if code < 0x110000 then
    .ok (if code.isValidChar then Char.ofNat code else '\ufffd')
  else if code < 0x80000000 then .error (.scalar .codePoint)
  else .error (.scalar .hugeCodePoint)

/-- The line breaks from here on, with the gaps around them. A separator of documents may not
follow. -/
def foldedBreaks : (turns : Nat) → Place → Except ReadFault (List Char × Place)
  | 0, p => .ok ([], p)
  | turns + 1, p =>
    if p.atSeparator then .error .malformed
    else
      let p := p.pass isGap
      match p.lineBreak? with
      | none => .ok ([], p)
      | some (c, q) => do
        let (more, r) ← foldedBreaks turns q
        return (c :: more, r)

/-- What a line break and the breaks after it count as: a space if it stands alone. -/
def folded (c : Char) (more : List Char) : List Char :=
  if c ≠ '\n' then c :: more else if more.isEmpty then [' '] else more

/-- The gap at a place within a quoted scalar, as it counts. -/
def quotedGap (turns : Nat) (p : Place) : Except ReadFault (List Char × Place) :=
  let (gap, q) := p.span isGap
  match q.lineBreak? with
  | none => if q.rest.isEmpty then .error .malformed else .ok (gap, q)
  | some (c, r) => do
    let (more, s) ← foldedBreaks turns r
    return (folded c more, s)

/-- What an escape stands for. The place is that behind the backslash. -/
def escaped (turns : Nat) (p : Place) : Except ReadFault (List Char × Place) :=
  match p.rest with
  | [] => .error .malformed
  | c :: rest =>
    match escapes.lookup c with
    | some d => .ok ([d], p.next)
    | none =>
      match escapeWidth? c with
      | some width =>
        match hexNumber? width rest with
        | some code => do return ([← charOf code], p.skip (width + 1))
        | none => .error .malformed
      | none =>
        match p.lineBreak? with
        | some (_, q) => foldedBreaks turns q
        | none => .error .malformed

/-- The rest of a quoted scalar, up to its closing quote. -/
def quotedRest (isDouble : Bool) : (turns : Nat) → Place → Except ReadFault (List Char × Place)
  | 0, _ => .error .malformed
  | turns + 1, p => do
    let goOn (text : List Char) (q : Place) : Except ReadFault (List Char × Place) := do
      let (more, r) ← quotedRest isDouble turns q
      return (text ++ more, r)
    match p.rest with
    | [] => .error .malformed
    | c :: rest =>
      if c = '"' && isDouble then return ([], p.next)
      else if c = '\'' && !isDouble then
        if rest.head? = some '\'' then goOn ['\''] (p.skip 2) else return ([], p.next)
      else if c = '\\' && isDouble then
        let (text, q) ← escaped turns p.next
        goOn text q
      else if isGap c || isBreak c then
        let (text, q) ← quotedGap turns p
        goOn text q
      else goOn [c] p.next

/-- A quoted scalar. The place is that of its opening quote. -/
def quotedScalar (isDouble : Bool) (p : Place) : Except ReadFault (List Char × Place) :=
  quotedRest isDouble p.rest.length p.next

/-! ## Plain scalars -/

/-- Characters that end a plain scalar within a flow collection. -/
def isFlowSign (c : Char) : Bool :=
  c = ',' || c = '[' || c = ']' || c = '\x7b' || c = '\x7d'

/-- A colon is followed by something that makes it the sign of a value. -/
def colonEnds (inFlow : Bool) (rest : List Char) : Bool :=
  endsWord rest || (inFlow && rest.head?.any isFlowSign)

/-- The characters of a plain scalar from here on, up to the next gap. -/
def plainWord (inFlow : Bool) : List Char → List Char
  | [] => []
  | c :: rest =>
    if isGap c || isBreak c || (c = ':' && colonEnds inFlow rest) ||
        (inFlow && (c = '?' || isFlowSign c)) then []
    else c :: plainWord inFlow rest

/-- The spaces and the line breaks from here on; nothing if a separator of documents follows one of
the breaks. -/
def plainBreaks : (turns : Nat) → Place → Option (List Char) × Place
  | 0, p => (some [], p)
  | turns + 1, p =>
    if p.atSeparator then (none, p)
    else
      let p := p.pass (· = ' ')
      match p.lineBreak? with
      | none => (some [], p)
      | some (c, q) =>
        let (more, r) := plainBreaks turns q
        (more.map (c :: ·), r)

/-- A gap within a plain scalar: what it counts as, if the scalar may go on behind it, the place
behind it, and whether it has a line break. -/
def plainGap (turns : Nat) (p : Place) : List Char × Place × Bool :=
  let (gap, q) := p.span (· = ' ')
  match q.lineBreak? with
  | none => (gap, q, false)
  | some (c, r) =>
    let (more, s) := plainBreaks turns r
    ((more.map (folded c)).getD [], s, true)

/-- The words of a plain scalar, whose lines after the first one have to start at the column `least`
or beyond; `gap` is what stands before them. The flag tells whether a line break was met after the
last word. -/
def plainWords (inFlow : Bool) (least : Nat) : (turns : Nat) → (gap : List Char) →
    (crossed : Bool) → Place → List Char × Place × Bool
  | 0, _, crossed, p => ([], p, crossed)
  | turns + 1, gap, crossed, p =>
    let word := plainWord inFlow p.rest
    if p.rest.head? = some '#' || word.isEmpty then ([], p, crossed)
    else
      let (next, q, crossed) := plainGap turns (p.skip word.length)
      if next.isEmpty || (!inFlow && q.column < least) then (gap ++ word, q, crossed)
      else
        let (more, r, crossed) := plainWords inFlow least turns next crossed q
        (gap ++ word ++ more, r, crossed)

/-- A plain scalar, the place behind it, and whether that is behind a line break. -/
def plainScalar (inFlow : Bool) (least : Nat) (p : Place) : List Char × Place × Bool :=
  plainWords inFlow least (p.rest.length + 1) [] false p

/-! ## Block scalars -/

/-- What becomes of the line breaks at the end of a block. -/
inductive Chomping where
  | strip
  | clip
  | keep
  deriving DecidableEq, Repr

/-- The chomping that a character asks for. -/
def chomping? (text : List Char) : Option Chomping :=
  match text.head? with
  | some '+' => some .keep
  | some '-' => some .strip
  | _ => none

/-- The indentation that a digit asks for, if there is a digit. Zero is no indentation. -/
def indentation? (text : List Char) : Except ReadFault (Option Nat) :=
  match text.head? with
  | some c =>
    if c.isDigit then
      if c = '0' then .error .malformed else .ok (some (c.toNat - '0'.toNat))
    else .ok none
  | none => .ok none

/-- The head of a block scalar: the two indicators in either order, and a comment. -/
def blockHead (p : Place) : Except ReadFault ((Chomping × Option Nat) × Place) := do
  let first := chomping? p.rest
  let p := if first.isSome then p.next else p
  let width ← indentation? p.rest
  let p := if width.isSome then p.next else p
  let second := if first.isNone && width.isSome then chomping? p.rest else none
  let p := if second.isSome then p.next else p
  if !endsName p.rest then throw .malformed
  let p := (p.pass (· = ' ')).passComment
  if !endsLine p.rest then throw .malformed
  return (((first.or second).getD .clip, width), (p.lineBreak?.map (·.2)).getD p)

/-- The line breaks from here on, the place behind them, and the greatest column that spaces between
them reach. -/
def leadingBreaks : (turns : Nat) → Place → List Char × Nat × Place
  | 0, p => ([], 0, p)
  | turns + 1, p =>
    let (gap, q) := p.span (· = ' ')
    let reached := if gap.isEmpty then 0 else q.column
    match q.lineBreak? with
    | none => ([], reached, q)
    | some (c, r) =>
      let (more, column, s) := leadingBreaks turns r
      (c :: more, max reached column, s)

/-- The line breaks from here on, where each line starts with spaces up to a column. -/
def blockBreaks (column : Nat) : (turns : Nat) → Place → List Char × Place
  | 0, p => ([], p)
  | turns + 1, p =>
    let p := p.passSpacesTo column
    match p.lineBreak? with
    | none => ([], p)
    | some (c, q) =>
      let (more, r) := blockBreaks column turns q
      (c :: more, r)

/-- The text of a block without its end, and that end: the break of its last line, and the breaks
behind. -/
structure BlockText where
  text : List Char
  lastBreak : List Char
  breaks : List Char

/-- The lines of a block at a column. `breaks` stand before the next line. In a folded block a
single line break between two lines that start with no gap counts as a space. -/
def blockLines (isFolded : Bool) (column : Nat) : (turns : Nat) → (breaks : List Char) → Place →
    BlockText × Place
  | 0, breaks, p => (⟨[], [], breaks⟩, p)
  | turns + 1, breaks, p =>
    if p.column ≠ column || p.rest.isEmpty then (⟨[], [], breaks⟩, p)
    else
      let (line, q) := p.span (!isBreak ·)
      let (ending, q) := match q.lineBreak? with
        | some (c, r) => ([c], r)
        | none => ([], q)
      let (more, r) := blockBreaks column turns q
      if r.column = column && !r.rest.isEmpty then
        let joined :=
          isFolded && ending = ['\n'] && !p.rest.head?.any isGap && !r.rest.head?.any isGap
        let glue := if joined then (if more.isEmpty then [' '] else []) else ending
        let (below, s) := blockLines isFolded column turns more r
        (⟨breaks ++ line ++ glue ++ below.text, below.lastBreak, below.breaks⟩, s)
      else (⟨breaks ++ line, ending, more⟩, r)

/-- A block scalar, which lies within a block at a column below `least`. The place is that of its
sign. -/
def blockScalar (isFolded : Bool) (least : Nat) (p : Place) :
    Except ReadFault (List Char × Place) := do
  let turns := p.rest.length
  let ((chomping, width), p) ← blockHead p.next
  let least := max least 1
  let (column, breaks, p) := match width with
    | some n =>
      let column := least + n - 1
      let (breaks, q) := blockBreaks column turns p
      (column, breaks, q)
    | none =>
      let (breaks, reached, q) := leadingBreaks turns p
      (max least reached, breaks, q)
  let (block, p) := blockLines isFolded column turns breaks p
  let tail := match chomping with
    | .strip => []
    | .clip => block.lastBreak
    | .keep => block.lastBreak ++ block.breaks
  return (block.text ++ tail, p)

end PhoneticCatalog.Document
