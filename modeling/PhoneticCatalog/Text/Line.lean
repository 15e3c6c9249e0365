import PhoneticCatalog.Text.CharKind

/-!
# Lines and fields of text

Catalogs are read by lines. `splitLines` cuts a text at its line terminators: carriage return with
line feed, either of them alone, next line, line separator and paragraph separator. A terminator at
the very end starts no further line. `trim` strips characters up to the space from both ends,
`strip` strips the blank characters of all scripts, and `splitFields` cuts a line at runs of blank
ASCII characters.
-/

namespace PhoneticCatalog.Text

/-- The characters that end a line by themselves. -/
def isTerminator (c : Char) : Bool :=
  c = '\n' || c = '\r' || c = '\u0085' || c = '\u2028' || c = '\u2029'

/-- The pieces between line terminators. There is always at least one, and the last one is what
follows the last terminator. -/
def splitPieces : List Char → List (List Char)
  | [] => [[]]
  | '\r' :: '\n' :: rest => [] :: splitPieces rest
  | c :: rest =>
    if isTerminator c then [] :: splitPieces rest
    else
      match splitPieces rest with
      | [] => [[c]]
      | piece :: pieces => (c :: piece) :: pieces

/-- Drops a final empty piece. -/
def dropFinalEmpty : List (List Char) → List (List Char)
  | [] => []
  | [p] => if p.isEmpty then [] else [p]
  | p :: q :: ps => p :: dropFinalEmpty (q :: ps)

/-- The lines of a text. A terminator at the end of the text starts no new line. -/
def splitLines (text : List Char) : List (List Char) := dropFinalEmpty (splitPieces text)

/-- A text without the characters of a class at both ends. -/
def stripWhile (p : Char → Bool) (text : List Char) : List Char :=
  ((text.dropWhile p).reverse.dropWhile p).reverse

/-- Control characters and the space, which `trim` strips. -/
def isBlank (c : Char) : Bool := c.toNat ≤ 0x20

/-- A text without leading and trailing control characters and spaces. -/
def trim (text : List Char) : List Char := stripWhile isBlank text

/-- A text without leading and trailing blank characters of any script. -/
def strip (text : List Char) : List Char := stripWhile (isSpace ·.toNat) text

/-- The characters that separate the fields of a line. -/
def isSeparator (c : Char) : Bool :=
  c = ' ' || c = '\t' || c = '\n' || c = '\x0b' || c = '\x0c' || c = '\r'

/-- The fields of a line: what is left between runs of separators. A run at either end leaves an
empty field there. -/
def splitFields : List Char → List (List Char)
  | [] => [[]]
  | c :: rest =>
    match splitFields rest with
    | [] => [[c]]
    | field :: fields =>
      if isSeparator c then
        if (match rest with | d :: _ => isSeparator d | [] => false) then field :: fields
        else [] :: field :: fields
      else (c :: field) :: fields

/-- The text starts with the given characters. -/
def startsWith (text start : List Char) : Bool := start.isPrefixOf text

/-- The text ends with the given characters. -/
def endsWith (text tail : List Char) : Bool := tail.isSuffixOf text

/-- What stands before the first occurrence of `mark`, if there is one. -/
def before? (mark : List Char) : List Char → Option (List Char)
  | [] => if mark.isEmpty then some [] else none
  | c :: rest =>
    if mark.isPrefixOf (c :: rest) then some []
    else (before? mark rest).map (c :: ·)

/-- A field without one leading and one trailing double quote. A lone double quote is its own
leading one, so nothing is left of it. -/
def stripQuotes (field : List Char) : List Char :=
  let rest := match field with
    | '"' :: rest => rest
    | _ => field
  if rest.getLast? = some '"' then rest.dropLast else rest

end PhoneticCatalog.Text
