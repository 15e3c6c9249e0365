import PhoneticCatalog.Document.Token.Name

/-!
# The tokens of a text

`tokens` splits the text of a document into tokens. The `Lexer` keeps the columns of the block
collections that are open, outermost last, and emits tokens for the start and the end of each. A
mapping key on a single line need not be announced, so the lexer remembers where a key may have
begun (`PossibleKey`); the sign of a value then puts the token for the key before what was read
since. Until then no token from there on is handed out. A text that cannot be read any further ends
in a token that says so, which comes right behind the tokens that were handed out before.
-/

namespace PhoneticCatalog.Document

/-- A token that may be the first one of a key: how many tokens there are before it, its place, and
whether it has to be a key, because nothing else may stand in its column. -/
structure PossibleKey where
  number : Nat
  index : Nat
  line : Nat
  column : Nat
  required : Bool
  deriving Repr

/-- The greatest number of characters from the start of an unannounced key to the sign of its value.
-/
def maxKeyLength : Nat := 1024

/-- How far a text was split into tokens. -/
structure Lexer where
  place : Place
  /-- The tokens so far, the newest one first. -/
  emitted : List Token := []
  count : Nat := 0
  /-- The columns of the open block collections, the innermost one first. -/
  columns : List Nat := []
  /-- The possible key of the innermost flow collection, or of the block. -/
  key : Option PossibleKey := none
  /-- The possible keys around each open flow collection, the innermost one first. -/
  outerKeys : List (Option PossibleKey) := []
  /-- A key may begin here. -/
  keyAllowed : Bool := true

namespace Lexer

/-- What a step of the lexer gives. -/
abbrev Step := Except ReadFault Lexer

/-- A flow collection is open. -/
def inFlow (x : Lexer) : Bool := !x.outerKeys.isEmpty

/-- The least column beyond the innermost block collection. -/
def leastColumn (x : Lexer) : Nat := (x.columns.head?.map (· + 1)).getD 0

/-- Adds a token. -/
def emit (x : Lexer) (t : Token) : Lexer :=
  { x with emitted := t :: x.emitted, count := x.count + 1 }

/-- Adds tokens, given in their order, so that there are `number` others before them. -/
def insert (x : Lexer) (number : Nat) (ts : List Token) : Lexer :=
  let later := x.count - number
  { x with
    emitted := x.emitted.take later ++ ts.reverse ++ x.emitted.drop later
    count := x.count + ts.length }

/-- Passes some characters that make up a token. -/
def take (x : Lexer) (length : Nat) (t : Token) : Lexer :=
  { x.emit t with place := x.place.skip length }

/-! ## Blocks -/

/-- Closes all block collections beyond a column; no block collection ends within a flow collection.
-/
def closeBeyond (x : Lexer) (column : Nat) : Lexer :=
  if x.inFlow then x
  else
    let closed := (x.columns.takeWhile (column < ·)).length
    { x with
      columns := x.columns.drop closed
      emitted := List.replicate closed Token.blockEnd ++ x.emitted
      count := x.count + closed }

/-- Closes all block collections. -/
def closeAll (x : Lexer) : Lexer :=
  if x.inFlow then x
  else
    { x with
      columns := []
      emitted := x.columns.map (fun _ => Token.blockEnd) ++ x.emitted
      count := x.count + x.columns.length }

/-- Opens a block collection at a column, unless one is open there. Its start goes before the tokens
after the first `number` ones. -/
def openAt (x : Lexer) (number column : Nat) (start : Token) : Lexer :=
  if x.leastColumn ≤ column then
    { x.insert number [start] with columns := column :: x.columns }
  else x

/-! ## Possible keys -/

/-- Gives up the possible key, which is an error if nothing else may stand there. -/
def dropKey (x : Lexer) : Step :=
  if x.key.any (·.required) then .error .malformed else .ok { x with key := none }

/-- A key that began at another line or too far back is none any more. -/
def freshKey (p : Place) : Option PossibleKey → Except ReadFault (Option PossibleKey)
  | none => .ok none
  | some k =>
    if k.line ≠ p.line || maxKeyLength < p.index - k.index then
      if k.required then .error .malformed else .ok none
    else .ok (some k)

/-- Gives up all possible keys that cannot be keys any more. -/
def dropStaleKeys (x : Lexer) : Step := do
  let key ← freshKey x.place x.key
  let outerKeys ← x.outerKeys.mapM (freshKey x.place)
  return { x with key, outerKeys }

/-- How many tokens are handed out before the next one is read: those before the first possible key
that can still be one, or all. -/
def handedOut (x : Lexer) : Nat :=
  (x.key :: x.outerKeys).foldl (fun n k =>
    match freshKey x.place k with
    | .ok (some k) => min n k.number
    | _ => n) x.count

/-- Remembers that the next token may be the first one of a key. -/
def rememberKey (x : Lexer) : Step :=
  if !x.keyAllowed then .ok x
  else do
    let x ← x.dropKey
    let p := x.place
    let required := !x.inFlow && x.columns.head? = some p.column
    return { x with key := some ⟨x.count, p.index, p.line, p.column, required⟩ }

/-! ## Tokens -/

/-- Passes spaces, comments and line breaks. Behind a line break a key may begin. -/
def passBlanks (inFlow : Bool) : (turns : Nat) → Place → (keyAllowed : Bool) → Place × Bool
  | 0, p, keyAllowed => (p, keyAllowed)
  | turns + 1, p, keyAllowed =>
    let p := (p.pass (· = ' ')).passComment
    match p.lineBreak? with
    | none => (p, keyAllowed)
    | some (_, q) => passBlanks inFlow turns q (keyAllowed || !inFlow)

/-- Goes on to the next token. A byte order mark at the very start is passed. -/
def toToken (x : Lexer) : Lexer :=
  let p := if x.place.index = 0 && x.place.rest.head? = some '\ufeff' then x.place.next else x.place
  let (p, keyAllowed) := passBlanks x.inFlow (p.rest.length + 1) p x.keyAllowed
  { x with place := p, keyAllowed }

/-- A token for a line of its own, which ends all blocks. -/
def ownLine (x : Lexer) : Step := do
  let x ← x.closeAll.dropKey
  return { x with keyAllowed := false }

/-- Opens a flow collection. It may be the first token of a key. -/
def openFlow (x : Lexer) (t : Token) : Step := do
  let x ← x.rememberKey
  return { x.take 1 t with key := none, outerKeys := x.key :: x.outerKeys, keyAllowed := true }

/-- Closes a flow collection. -/
def closeFlow (x : Lexer) (t : Token) : Step := do
  let x ← x.dropKey
  match x.outerKeys with
  | [] => throw .malformed
  | key :: outerKeys => return { x.take 1 t with key, outerKeys, keyAllowed := false }

/-- The sign between the items of a flow collection. -/
def flowEntry (x : Lexer) : Step := do
  let x ← x.dropKey
  return { x.take 1 .flowEntry with keyAllowed := true }

/-- The sign before an item of a block sequence. -/
def blockEntry (x : Lexer) : Step := do
  if !x.inFlow && !x.keyAllowed then throw .malformed
  let x := if x.inFlow then x else x.openAt x.count x.place.column .blockSequenceStart
  let x ← x.dropKey
  return { x.take 1 .blockEntry with keyAllowed := true }

/-- The sign before a key. -/
def announcedKey (x : Lexer) : Step := do
  if !x.inFlow && !x.keyAllowed then throw .malformed
  let x := if x.inFlow then x else x.openAt x.count x.place.column .blockMappingStart
  let x ← x.dropKey
  return { x.take 1 .key with keyAllowed := !x.inFlow }

/-- The sign before a value. What could be a key before it is one. -/
def value (x : Lexer) : Step :=
  match x.key with
  | some k =>
    let x := { x.insert k.number [.key] with key := none, keyAllowed := false }
    let x := if x.inFlow then x else x.openAt k.number k.column .blockMappingStart
    .ok (x.take 1 .value)
  | none => do
    if !x.inFlow && !x.keyAllowed then throw .malformed
    let x := if x.inFlow then x else x.openAt x.count x.place.column .blockMappingStart
    return { x.take 1 .value with keyAllowed := !x.inFlow }

/-- A token that may be the first one of a key, but is followed by none. -/
def nodeToken (x : Lexer) (read : Place → Except ReadFault (Token × Place)) : Step := do
  let x ← x.rememberKey
  let (t, p) ← read x.place
  return { x.emit t with place := p, keyAllowed := false }

/-- A block scalar. -/
def block (x : Lexer) (isFolded : Bool) : Step := do
  let x ← x.dropKey
  let (text, p) ← blockScalar isFolded x.leastColumn x.place
  return { x.emit (.scalar false text) with place := p, keyAllowed := true }

/-- A plain scalar. -/
def plain (x : Lexer) : Step := do
  let x ← x.rememberKey
  let (text, p, crossed) := plainScalar x.inFlow x.leastColumn x.place
  return { x.emit (.scalar true text) with place := p, keyAllowed := crossed }

/-- The signs that no plain scalar starts with. -/
def isSign (c : Char) : Bool := "-?:,[]\x7b\x7d#&*!|>'\"%@`".toList.contains c

/-- A plain scalar starts with a character, given what follows it. -/
def startsPlain (inFlow : Bool) (c : Char) (rest : List Char) : Bool :=
  !(isGap c || isBreak c || isSign c) ||
    (!endsWord rest && (c = '-' || (!inFlow && (c = '?' || c = ':'))))

/-- Reads a scalar between quotes. -/
def quoted (isDouble : Bool) (p : Place) : Except ReadFault (Token × Place) :=
  (quotedScalar isDouble p).map fun (text, q) => (.scalar false text, q)

/-- Reads the next token, which starts with a character; `rest` follows it. -/
def token (x : Lexer) (c : Char) (rest : List Char) : Step := do
  let p := x.place
  let atStart := p.column = 0
  if c = '%' && atStart then
    let x ← x.ownLine
    let (d, q) ← directive p
    return { x.emit (.directive d) with place := q }
  if atStart && p.atSeparator then
    let x ← x.ownLine
    return x.take 3 (if c = '-' then .documentStart else .documentEnd)
  match c with
  | '[' => x.openFlow .flowSequenceStart
  | '\x7b' => x.openFlow .flowMappingStart
  | ']' => x.closeFlow .flowSequenceEnd
  | '\x7d' => x.closeFlow .flowMappingEnd
  | ',' => x.flowEntry
  | '*' => x.nodeToken fun p => (anchorName p).map fun (n, q) => (.alias n, q)
  | '&' => x.nodeToken fun p => (anchorName p).map fun (n, q) => (.anchor n, q)
  | '!' => x.nodeToken tag
  | '\'' => x.nodeToken (quoted false)
  | '"' => x.nodeToken (quoted true)
  | _ =>
    if c = '-' && endsWord rest then x.blockEntry
    else if c = '?' && (x.inFlow || endsWord rest) then x.announcedKey
    else if c = ':' && (x.inFlow || endsWord rest) then x.value
    else if c = '|' && !x.inFlow then x.block false
    else if c = '>' && !x.inFlow then x.block true
    else if startsPlain x.inFlow c rest then x.plain
    else throw .malformed

/-- Goes on to the next token and reads it, unless the text is at its end. -/
def next (x : Lexer) : Except ReadFault (Option Lexer) := do
  let x ← x.toToken.dropStaleKeys
  match x.place.rest with
  | [] => return none
  | c :: rest => return some (← (x.closeBeyond x.place.column).token c rest)

/-- The end of the text, which ends all blocks. -/
def finish (x : Lexer) : Step := x.toToken.closeAll.dropKey

/-- The tokens of a text that cannot be read any further. -/
def cutOff (x : Lexer) (f : ReadFault) : List Token :=
  x.emitted.reverse.take x.handedOut ++ [.unreadable f]

/-- Reads all tokens. -/
def run : (turns : Nat) → Lexer → List Token
  | 0, x => x.emitted.reverse
  | turns + 1, x =>
    match x.next with
    | .ok (some y) => run turns y
    | .error f => x.cutOff f
    | .ok none =>
      match x.finish with
      | .ok y => y.emitted.reverse
      | .error f => x.cutOff f

end Lexer

/-- The characters that a document may hold. -/
def isDocumentChar (c : Char) : Bool :=
  let n := c.toNat
  n = 0x09 || n = 0x0a || n = 0x0d || (0x20 ≤ n && n ≤ 0x7e) || n = 0x85 || (0xa0 ≤ n && n ≤ 0xfffd)
    || 0x10000 ≤ n

/-- The tokens of a text. -/
def tokens (text : List Char) : List Token :=
  if text.all isDocumentChar then Lexer.run (text.length + 1) { place := ⟨text, 0, 0, 0⟩ }
  else [.unreadable .malformed]

end PhoneticCatalog.Document
