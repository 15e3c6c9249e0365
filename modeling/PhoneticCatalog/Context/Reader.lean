import PhoneticCatalog.Context.Cursor
import PhoneticCatalog.Context.Match
import PhoneticCatalog.Context.Piece
import PhoneticCatalog.Text.CharName
import PhoneticCatalog.Text.Number

/-!
# Reading context expressions

`Search.read` makes an expression of a text, or says why not. The text is read once, from left to
right, by recursive descent; the first fault met is the one reported, and conditions on the whole
expression are checked at the end. The functions that call each other carry a bound on their depth,
which `Search.read` takes from the length of the text: every token needs at most three steps.
-/

namespace PhoneticCatalog.Context

/-- A group that was opened: its name, and its width once it is closed. -/
structure Group where
  name : Option (List Char)
  width : Option Width
  deriving Repr

/-- What is known while an expression is read. -/
structure ReadState where
  cursor : Cursor
  /-- The groups opened so far; the first one has number one. -/
  groups : List Group
  /-- Inside a look-behind: the number of the first group that was opened in it. -/
  lookBehindFrom : Option Nat
  /-- The group numbers that conditions ask for, each with its first position. -/
  asked : List (Nat × Nat)
  /-- The switches set for the whole expression. -/
  flags : List Flag

/-- Steps of reading an expression. -/
abbrev Reader := StateT ReadState (Except Refusal)

namespace Reader

/-- Reports a fault `back` characters before the cursor. -/
def failBack {α : Type} (fault : Fault) (back : Nat) : Reader α := do
  throw (.malformed fault ((← get).cursor.passed - back))

/-- Reports a fault at the cursor. -/
def fail {α : Type} (fault : Fault) : Reader α := failBack fault 0

/-- Reports a fault at a position. -/
def failAt {α : Type} (fault : Fault) (position : Nat) : Reader α :=
  throw (.malformed fault position)

/-- The number of characters passed. -/
def position : Reader Nat := do return (← get).cursor.passed

/-- The token at the cursor. -/
def peek : Reader Token := do return (← get).cursor.token

/-- Moves the cursor, which may not come before a backslash that ends the text. -/
def moveTo (k : Cursor) : Reader Unit := do
  let k ← k.checked
  modify ({ · with cursor := k })

/-- Takes the token at the cursor. -/
def take : Reader Token := do
  let k := (← get).cursor
  moveTo (k.advance k.token.written.length)
  return k.token

/-- Takes the token at the cursor if it is the given character. -/
def accept (c : Char) : Reader Bool := do
  if (← peek) = .plain c then
    let _ ← take
    return true
  else
    return false

/-- Takes the characters that pass a test, `most` of them at most. -/
def takeUpTo (most : Nat) (test : Char → Bool) : Reader (List Char) := do
  let k := (← get).cursor
  let taken := (k.rest.take most).takeWhile test
  moveTo (k.advance taken.length)
  return taken

/-- Takes all characters that pass a test. -/
def takeAll (test : Char → Bool) : Reader (List Char) := do
  takeUpTo (← get).cursor.rest.length test

/-- Takes a name and the character that closes it. The name may not be empty. -/
def takeName (closer : Char) (missing : Fault) : Reader (List Char) := do
  let k := (← get).cursor
  match splitName closer k.rest with
  | (name, .closed _) =>
    moveTo (k.advance (name.length + 1))
    if name.isEmpty then failBack missing 1 else return name
  | (name, .open) =>
    moveTo (k.advance name.length)
    if name.isEmpty then fail missing else failBack (.unterminatedName closer) name.length
  | (name, .cutOff) => failAt .escapeAtEnd (k.passed + name.length)

/-! ## Groups -/

/-- The number that the next group gets. -/
def nextGroup : Reader Nat := do return (← get).groups.length + 1

/-- Opens a group. A name may be given once. -/
def openGroup (name : Option (List Char)) : Reader Nat := do
  let st ← get
  let number := st.groups.length + 1
  if let some n := name then
    if let some old := st.groups.findIdx? (·.name = some n) then
      failBack (.redefinedGroup n number (old + 1)) (n.length + 1)
  modify ({ · with groups := st.groups ++ [⟨name, none⟩] })
  return number

/-- Closes a group, whose width is known now. -/
def closeGroup (number : Nat) (width : Width) : Reader Unit :=
  modify fun st =>
    { st with groups := st.groups.modify (number - 1) ({ · with width := some width }) }

/-- The width of a group if it is closed. -/
def widthOf? (number : Nat) : Reader (Option Width) := do
  return (← get).groups[number - 1]? >>= (·.width)

/-- The number of the group with a name. -/
def groupNamed? (name : List Char) : Reader (Option Nat) := do
  return ((← get).groups.findIdx? (·.name = some name)).map (· + 1)

/-- Inside a look-behind, refuses a group that is open or was opened in that look-behind. -/
def checkLookBehind (number : Nat) : Reader Unit := do
  if let some floor := (← get).lookBehindFrom then
    if (← widthOf? number).isNone then fail .openGroup
    if number ≥ floor then fail .groupOfSameLookBehind

/-- A group to be matched again, which must be closed. `back` is where its number or name starts. -/
def again (number back : Nat) : Reader Piece := do
  match ← widthOf? number with
  | none => failBack .openGroup back
  | some width =>
    checkLookBehind number
    return .again number width

/-! ## Escapes -/

def isHex (c : Char) : Bool := (Text.hexValue? c).isSome

def isOctal (c : Char) : Bool := '0' ≤ c && c ≤ '7'

/-- The number that digits of a base write. -/
def valueOf (base : Nat) (digits : List Char) : Nat := Text.Number.ofPlain base digits

/-- A code point written with exactly `count` hexadecimal digits after the letter `c`. -/
def hexEscape (c : Char) (count : Nat) : Reader Nat := do
  let digits ← takeUpTo count isHex
  let written := '\\' :: c :: digits
  if digits.length ≠ count then failBack (.incompleteEscape written) written.length
  let code := valueOf 16 digits
  if code > 0x10ffff then failBack (.badEscape written) written.length
  return code

/-- A code point given by the name of its character. -/
def namedEscape : Reader Nat := do
  if !(← accept '\x7b') then fail .missingBrace
  let name ← takeName '\x7d' .missingCharacterName
  match Text.characterNamed? name with
  | some code => return code
  | none => failBack (.unknownCharacterName name) (name.length + 4)

/-- The escapes that stand for a control character or a backslash. -/
def controlEscape? : Char → Option Nat
  | 'a' => some 0x7
  | 'b' => some 0x8
  | 'f' => some 0xc
  | 'n' => some 0xa
  | 'r' => some 0xd
  | 't' => some 0x9
  | 'v' => some 0xb
  | '\\' => some 0x5c
  | _ => none

/-- The escapes that stand for a class of characters, or all others. -/
def classEscape? : Char → Option SetItem
  | 'd' => some (.class .digit false)
  | 'D' => some (.class .digit true)
  | 's' => some (.class .space false)
  | 'S' => some (.class .space true)
  | 'w' => some (.class .word false)
  | 'W' => some (.class .word true)
  | _ => none

/-- The escapes that stand for a position. -/
def anchorEscape? (flags : List Flag) : Char → Option Anchor
  | 'A' => some .textStart
  | 'Z' => some .veryEnd
  | 'b' => some (.wordEdge (alphabetOf flags) false)
  | 'B' => some (.wordEdge (alphabetOf flags) true)
  | _ => none

/-- The code points that are written the same inside and outside of sets. -/
def codeEscape? (c : Char) : Option (Reader Nat) :=
  match c with
  | 'x' => some (hexEscape 'x' 2)
  | 'u' => some (hexEscape 'u' 4)
  | 'U' => some (hexEscape 'U' 8)
  | 'N' => some namedEscape
  | _ => none

/-- A code point written with octal digits. -/
def octalCode (written : List Char) : Reader Nat := do
  let code := valueOf 8 (written.drop 1)
  if code > 0o377 then failBack (.octalTooLarge written) written.length
  return code

/-- A letter without a meaning after a backslash is refused; any other character stands for itself.
-/
def selfEscape (c : Char) : Reader Nat := do
  if Text.isLatin c.toNat then failBack (.badEscape ['\\', c]) 2
  return c.toNat

/-- What an escape stands for inside a set. -/
def setEscape (c : Char) : Reader SetItem := do
  if let some code := controlEscape? c then return .point code
  if let some item := classEscape? c then return item
  if let some code := codeEscape? c then return .point (← code)
  if isOctal c then
    let more ← takeUpTo 2 isOctal
    return .point (← octalCode ('\\' :: c :: more))
  if c.isDigit then failBack (.badEscape ['\\', c]) 2
  return .point (← selfEscape c)

/-- A number after a backslash: a code point if it has three octal digits, else a group. -/
def numberEscape (c : Char) : Reader Piece := do
  let second ← takeUpTo 1 Char.isDigit
  if isOctal c && second.any isOctal then
    let third ← takeUpTo 1 isOctal
    if !third.isEmpty then
      return .literal false (← octalCode ('\\' :: c :: (second ++ third)))
  let number := valueOf 10 (c :: second)
  let length := second.length + 2
  if number < (← nextGroup) then again number length
  else failBack (.invalidGroup number) (length - 1)

/-- What an escape stands for outside of sets. -/
def escape (flags : List Flag) (c : Char) : Reader Piece := do
  if let some a := anchorEscape? flags c then return .anchor a
  if let some item := classEscape? c then return .set false [item]
  if let some code := controlEscape? c then return .literal false code
  if let some code := codeEscape? c then return .literal false (← code)
  if c = '0' then
    let more ← takeUpTo 2 isOctal
    return .literal false (valueOf 8 more)
  if c.isDigit then numberEscape c
  else return .literal false (← selfEscape c)

/-! ## Sets -/

/-- One member of a set, or one end of a range. -/
def setMember (t : Token) : Reader SetItem :=
  match t with
  | .escaped c => setEscape c
  | .plain c => return .point c.toNat
  | .stop => fail .unterminatedSet

/-- The members of a set up to its closing bracket. `start` is where the set starts. A bracket that
comes first is a member. -/
def setItems (start : Nat) : Nat → List SetItem → Reader (List SetItem)
  | 0, _ => failAt .unterminatedSet start
  | fuel + 1, items => do
    let this ← take
    if this = .stop then failAt .unterminatedSet start
    if this = .plain ']' && !items.isEmpty then return items
    let first ← setMember this
    if !(← accept '-') then setItems start fuel (items ++ [first])
    else
      let that ← take
      if that = .stop then failAt .unterminatedSet start
      if that = .plain ']' then return items ++ [first, .point 0x2d]
      let last ← setMember that
      let wrong := failBack (.badRange this.written that.written)
        (this.written.length + 1 + that.written.length)
      match first, last with
      | .point lo, .point hi =>
        if hi < lo then wrong
        else setItems start fuel (items ++ [.range lo hi])
      | _, _ => wrong

/-- A set, after its opening bracket. -/
def set : Reader Piece := do
  let start := (← position) - 1
  let negated ← accept '^'
  let items := (← setItems start ((← get).cursor.rest.length + 1) []).eraseDups
  match items with
  | [.point code] => return .literal negated code
  | _ => return .set negated items

/-! ## Repeats -/

/-- The largest count of a repeat, and one more. -/
def countLimit : Nat := 4294967295

/-- The counts of a repeat, if there is one. -/
structure Counts where
  least : Nat
  greatest : Option Nat

/-- A count, which may not reach the limit. -/
def count (digits : List Char) : Reader Nat := do
  let n := valueOf 10 digits
  if n ≥ countLimit then throw .repetitionTooLarge
  return n

/-- The counts between braces. If the text is not of that form, the cursor stays behind the opening
brace, which then stands for itself. -/
def bracedCounts? : Reader (Option Counts) := do
  let start := (← get).cursor
  if (← peek) = .plain '\x7d' then return none
  let lo ← takeAll Char.isDigit
  let hi ← if ← accept ',' then takeAll Char.isDigit else pure lo
  if !(← accept '\x7d') then
    moveTo start
    return none
  let least ← if lo.isEmpty then pure 0 else count lo
  if hi.isEmpty then return some ⟨least, none⟩
  let greatest ← count hi
  if greatest < least then failAt .reversedBounds start.passed
  return some ⟨least, some greatest⟩

/-- The counts that a repeat sign stands for. -/
def counts? : Char → Reader (Option Counts)
  | '?' => return some ⟨0, some 1⟩
  | '*' => return some ⟨0, none⟩
  | '+' => return some ⟨1, none⟩
  | _ => bracedCounts?

/-- The order in which a repeat tries, which a sign after the counts may change. -/
def repeatMode : Reader RepeatMode := do
  if ← accept '?' then return .lazy
  if ← accept '+' then return .possessive
  return .greedy

/-! ## Switches -/

/-- What a group with switches is. -/
inductive Switches where
  /-- Switches for the whole expression. -/
  | whole
  /-- Switches for one group, turned on and off. -/
  | group (on off : List Flag)

def flagOf? : Token → Option Flag
  | .plain c => Flag.ofChar? c
  | _ => none

/-- The fault for a token that is no switch. -/
def flagFault (t : Token) (otherwise : Fault) : Fault :=
  match t with
  | .plain c => if Text.isLetter c.toNat then .unknownFlag else otherwise
  | _ => otherwise

/-- The switches turned on, and the token after them. -/
def flagsOn : Nat → Flag → List Flag → Reader (List Flag × Token)
  | 0, _, _ => fail .flagsUnfinished
  | fuel + 1, flag, on => do
    if flag = .locale then fail .localeFlag
    let on := on ++ [flag]
    if flag.choosesAlphabet && on.any (fun f => f.choosesAlphabet && f ≠ flag) then
      fail .conflictingFlags
    let t ← take
    match t with
    | .stop => fail .flagsUnfinished
    | .plain ')' | .plain '-' | .plain ':' => return (on, t)
    | _ =>
      match flagOf? t with
      | some next => flagsOn fuel next on
      | none => failBack (flagFault t .flagsUnfinished) t.written.length

/-- The switches turned off. -/
def flagsOff : Nat → Flag → List Flag → Reader (List Flag)
  | 0, _, _ => fail .missingColon
  | fuel + 1, flag, off => do
    if flag.choosesAlphabet then fail .alphabetFlagOff
    let off := off ++ [flag]
    let t ← take
    match t with
    | .stop => fail .missingColon
    | .plain ':' => return off
    | _ =>
      match flagOf? t with
      | some next => flagsOff fuel next off
      | none => failBack (flagFault t .missingColon) t.written.length

/-- The switches of a group, of which the first token was taken already. -/
def switches (t : Token) : Reader Switches := do
  let length := (← get).cursor.rest.length + 1
  let (on, ending) ← match flagOf? t with
    | some flag => flagsOn length flag []
    | none => pure ([], t)
  if ending = .plain ')' then
    modify fun st => { st with flags := st.flags ++ on }
    return .whole
  if on.contains .template then failBack .globalFlagOn 1
  let off ← if ending = .plain '-' then do
      let t ← take
      if t = .stop then fail .missingFlag
      match flagOf? t with
      | some flag => flagsOff length flag []
      | none => failBack (flagFault t .missingFlag) t.written.length
    else pure []
  if off.contains .template then failBack .globalFlagOff 1
  if on.any off.contains then failBack .flagOnAndOff 1
  return .group on off

/-! ## Names of groups -/

/-- The name of a group, which must be an identifier. -/
def groupName (closer : Char) : Reader (List Char) := do
  let name ← takeName closer .missingGroupName
  if !Text.isIdentifier name then failBack (.badGroupName name) (name.length + 1)
  return name

/-- The largest number of groups. -/
def groupLimit : Nat := 1073741823

/-- The group that a condition asks for, by name or by number. -/
def conditionGroup : Reader Nat := do
  let name ← takeName ')' .missingGroupName
  let back := name.length + 1
  if Text.isIdentifier name then
    match ← groupNamed? name with
    | some number => return number
    | none => failBack (.unknownGroupName name) back
  else
    match Text.readInt? name with
    | some (.ofNat number) =>
      if number = 0 then failBack .badGroupNumber back
      if number ≥ groupLimit then failBack (.invalidGroup number) back
      let start := (← position) - back
      modify fun st =>
        if (st.asked.lookup number).isSome then st
        else { st with asked := st.asked ++ [(number, start)] }
      return number
    | _ => failBack (.badGroupName name) back

/-! ## Sequences and groups -/

/-- A term of a sequence: one piece, or the pieces of a group that is no more than a bracket. -/
inductive Term where
  | piece (p : Piece)
  | span (ps : List Piece)

/-- The pieces of a term. -/
def Term.pieces : Term → List Piece
  | piece p => [p]
  | span ps => ps

/-- What a group is to the sequence that it stands in. -/
inductive GroupRead where
  /-- A comment. -/
  | nothing
  /-- Switches for the whole expression. -/
  | switches
  | term (t : Term)

/-- Repeats a term. A position or a repeat, unless it is in a group, is refused. `start` is where
the repeat sign stands. -/
def repeatTerm (flags : List Flag) (start : Nat) (counts : Counts) :
    List Term → Reader (List Term)
  | [] => failAt .nothingToRepeat start
  | last :: before => do
    match last with
    | .piece p =>
      if p.isAnchor then failAt .nothingToRepeat start
      if p.isRepeated then failAt .multipleRepeat start
    | .span _ => pure ()
    let mode ← repeatMode
    let body := Piece.sequence flags last.pieces
    return .piece (.repeated (.repeated mode counts.least counts.greatest body)) :: before

/-- Takes the closing parenthesis of a group that starts at `start`. -/
def closing (start : Nat) : Reader Unit := do
  if !(← accept ')') then failAt .unterminatedGroup start

/-- Skips a comment that runs to the end of a line. -/
def skipLine : Nat → Reader Unit
  | 0 => return
  | fuel + 1 => do
    match ← take with
    | .stop | .plain '\n' => return
    | _ => skipLine fuel

/-- Blank characters that a verbose expression may hold anywhere. -/
def isVerboseBlank (c : Char) : Bool :=
  c = ' ' || c = '\t' || c = '\n' || c = '\r' || c = '\x0b' || c = '\x0c'

mutual

/-- Alternatives, up to a closing parenthesis or the end of the text. `top` tells the whole
expression from a group. -/
def alternatives : Nat → List Flag → Bool → Reader (List Piece)
  | 0, _, _ => fail .unexpectedEnd
  | fuel + 1, flags, top => do
    let first ← sequence fuel flags top []
    let shared := (← get).flags
    let flags := if top then shared else flags
    return Piece.alternatives flags (first :: (← moreAlternatives fuel flags))

/-- The alternatives after the first one. -/
def moreAlternatives : Nat → List Flag → Reader (List (List Piece))
  | 0, _ => fail .unexpectedEnd
  | fuel + 1, flags => do
    if ← accept '|' then
      let next ← sequence fuel flags false []
      return next :: (← moreAlternatives fuel flags)
    else return []

/-- A sequence of terms, up to a bar, a closing parenthesis or the end of the text. The terms read
so far come last one first. Switches for the whole expression may come where `first` holds, before
any term. -/
def sequence : Nat → List Flag → Bool → List Term → Reader (List Piece)
  | 0, _, _, _ => fail .unexpectedEnd
  | fuel + 1, flags, first, terms => do
    match ← peek with
    | .stop | .plain '|' | .plain ')' => return terms.reverse.flatMap Term.pieces
    | _ =>
      let piece (p : Piece) := sequence fuel flags first (.piece p :: terms)
      let start ← position
      match ← take with
      | .stop => fail .unexpectedEnd
      | .escaped c => piece (← escape flags c)
      | .plain c =>
        if flags.contains .verbose && isVerboseBlank c then sequence fuel flags first terms
        else if flags.contains .verbose && c = '#' then
          skipLine ((← get).cursor.rest.length + 1)
          sequence fuel flags first terms
        else
          match c with
          | '[' => piece (← set)
          | '.' => piece .dot
          | '^' => piece .textStart
          | '$' => piece .textEnd
          | '(' =>
            match ← group fuel flags start with
            | .nothing => sequence fuel flags first terms
            | .switches =>
              if !first || !terms.isEmpty then failAt .flagsNotAtStart start
              let flags := (← get).flags
              sequence fuel flags first terms
            | .term t => sequence fuel flags first (t :: terms)
          | '*' | '+' | '?' | '\x7b' =>
            match ← counts? c with
            | some counts => sequence fuel flags first (← repeatTerm flags start counts terms)
            | none => piece (.literal false c.toNat)
          | _ => piece (.literal false c.toNat)

/-- A group, after its opening parenthesis at `start`. -/
def group : Nat → List Flag → Nat → Reader GroupRead
  | 0, _, _ => fail .unexpectedEnd
  | fuel + 1, flags, start => do
    if !(← accept '?') then captured fuel flags start none
    else
      match ← take with
      | .stop => fail .unexpectedEnd
      | .plain 'P' =>
        if ← accept '<' then
          captured fuel flags start (some (← groupName '>'))
        else if ← accept '=' then
          let name ← groupName ')'
          match ← groupNamed? name with
          | none => failBack (.unknownGroupName name) (name.length + 1)
          | some number => return .term (.piece (← again number (name.length + 1)))
        else
          match ← take with
          | .stop => fail .unexpectedEnd
          | t => failBack (.unknownExtension ('P' :: t.written)) (t.written.length + 2)
      | .plain ':' =>
        let ps ← alternatives fuel flags false
        closing start
        return .term (.span ps)
      | .plain '#' =>
        let k := (← get).cursor
        match splitName ')' k.rest with
        | (text, .closed _) =>
          moveTo (k.advance (text.length + 1))
          return .nothing
        | (_, .open) => failAt .unterminatedComment start
        | (text, .cutOff) => failAt .escapeAtEnd (k.passed + text.length)
      | .plain '=' =>
        let ps ← alternatives fuel flags false
        closing start
        return .term (.piece (.whole (.lookAhead false (Piece.sequence flags ps))))
      | .plain '!' =>
        let ps ← alternatives fuel flags false
        closing start
        return .term (.piece (.whole (.lookAhead true (Piece.sequence flags ps))))
      | .plain '<' =>
        match ← take with
        | .stop => fail .unexpectedEnd
        | .plain '=' => lookBehind fuel flags start false
        | .plain '!' => lookBehind fuel flags start true
        | t => failBack (.unknownExtension ('<' :: t.written)) (t.written.length + 2)
      | .plain '(' =>
        let number ← conditionGroup
        checkLookBehind number
        let yes ← sequence fuel flags false []
        let no ← if ← accept '|' then do
            let no ← sequence fuel flags false []
            if (← peek) = .plain '|' then fail .tooManyBranches
            pure no
          else pure []
        closing start
        return .term (.piece (.whole
          (.ifGroup number (Piece.sequence flags yes) (Piece.sequence flags no))))
      | .plain '>' =>
        let ps ← alternatives fuel flags false
        closing start
        return .term (.piece (.whole (.atomic (Piece.sequence flags ps))))
      | t =>
        if (flagOf? t).isSome || t = .plain '-' then
          match ← switches t with
          | .whole => return .switches
          | .group on off =>
            let inner := Flag.inGroup flags on off
            let ps ← alternatives fuel inner false
            closing start
            return .term (.piece (.whole (Piece.sequence inner ps)))
        else failBack (.unknownExtension t.written) (t.written.length + 1)

/-- A group whose text is remembered. -/
def captured : Nat → List Flag → Nat → Option (List Char) → Reader GroupRead
  | 0, _, _, _ => fail .unexpectedEnd
  | fuel + 1, flags, start, name => do
    let number ← openGroup name
    let ps ← alternatives fuel flags false
    closing start
    let body := Piece.sequence flags ps
    closeGroup number body.width
    return .term (.piece (.whole (.capture number body)))

/-- A look-behind. Groups opened in it cannot be referred to in it. -/
def lookBehind : Nat → List Flag → Nat → Bool → Reader GroupRead
  | 0, _, _, _ => fail .unexpectedEnd
  | fuel + 1, flags, start, negated => do
    let outer := (← get).lookBehindFrom
    let next ← nextGroup
    modify fun st => { st with lookBehindFrom := some (outer.getD next) }
    let ps ← alternatives fuel flags false
    modify fun st => { st with lookBehindFrom := outer }
    closing start
    return .term (.piece (.whole (.lookBehind negated (Piece.sequence flags ps))))

end

/-- A whole expression. What is left over can only be a closing parenthesis. -/
def whole : Reader Search := do
  moveTo (← get).cursor
  let length := (← get).cursor.rest.length
  let ps ← alternatives (4 * length + 4) [] true
  let st ← get
  if st.flags.contains .ascii && st.flags.contains .unicode then throw .conflictingAlphabets
  if (← peek) ≠ .stop then fail .unbalancedParenthesis
  for (number, position) in st.asked do
    if number > st.groups.length then failAt (.invalidGroup number) position
  let e := Piece.sequence st.flags ps
  match e.refusal? (st.flags.contains .template) with
  | some r => throw r
  | none => return ⟨e, alphabetOf st.flags⟩

end Reader

/-- The expression that a text writes, or why it writes none. -/
def Search.read (text : List Char) : Except Refusal Search :=
  (Reader.whole.run
    { cursor := ⟨0, text⟩, groups := [], lookBehindFrom := none, asked := [], flags := [] }).map
    (·.1)

end PhoneticCatalog.Context
