import PhoneticCatalog.Text.CharKind.Table

/-!
# Kinds of characters

Which characters are letters, digits, spaces, parts of a name, or visible at all. `CharKind.ofCode`
reads the kind of a code point off the runs of ASCII or off the table of all other runs, and every
class below is stated with it.
Classes take code points rather than characters, because a set in an expression may name a code
point that no text can hold.
-/

namespace PhoneticCatalog.Text

/-- The value of a hexadecimal digit in either case. -/
def hexValue? (c : Char) : Option Nat :=
  if '0' ≤ c && c ≤ '9' then some (c.toNat - '0'.toNat)
  else if 'a' ≤ c && c ≤ 'f' then some (c.toNat - 'a'.toNat + 10)
  else if 'A' ≤ c && c ≤ 'F' then some (c.toNat - 'A'.toNat + 10)
  else none

/-- The kinds of characters that expressions and messages tell apart. -/
inductive CharKind where
  | letter
  | decimal
  | letterNumber
  | otherNumber
  | mark
  | connector
  | symbol
  | unprintable
  deriving DecidableEq, Repr

namespace CharKind

/-- The kind that a letter of the table stands for. -/
def ofLetter : Char → Option CharKind
  | 'L' => some letter
  | 'D' => some decimal
  | 'N' => some letterNumber
  | 'O' => some otherNumber
  | 'M' => some mark
  | 'C' => some connector
  | 'S' => some symbol
  | 'U' => some unprintable
  | _ => none

/-- The runs of a written table, each as its first code point and its kind. -/
def readRuns (table : String) : Array (Nat × CharKind) :=
  (table.toList.foldl
    (fun (st : Array (Nat × CharKind) × Nat) c =>
      match ofLetter c with
      | some k => (st.1.push (st.2, k), 0)
      | none => (st.1, st.2 * 16 + (hexValue? c).getD 0))
    (#[], 0)).1

/-- All runs of one kind beyond ASCII, in ascending order. -/
def runs : Array (Nat × CharKind) := readRuns kindRuns

/-- The runs of one kind in ASCII, in descending order. -/
def asciiRuns : List (Nat × CharKind) :=
  [(0x7f, unprintable), (0x7b, symbol), (0x61, letter), (0x60, symbol), (0x5f, connector),
   (0x5b, symbol), (0x41, letter), (0x3a, symbol), (0x30, decimal), (0x21, symbol),
   (0, unprintable)]

/-- The last of the runs `lo`, …, `hi - 1` that starts at or before `code`, or `lo`. -/
def lastRun (table : Array (Nat × CharKind)) (code lo hi : Nat) : Nat :=
  if lo + 1 < hi then
    let mid := (lo + hi) / 2
    if (table[mid]?.map (·.1)).getD 0 ≤ code then lastRun table code mid hi
    else lastRun table code lo mid
  else lo
termination_by hi - lo

/-- The run that holds a code point: where it starts, and its kind. -/
def runOf (code : Nat) : Nat × CharKind :=
  if code < 0x80 then (asciiRuns.find? (·.1 ≤ code)).getD (0, unprintable)
  else runs[lastRun runs code 0 runs.size]?.getD (0, unprintable)

/-- The kind of a code point. -/
def ofCode (code : Nat) : CharKind := (runOf code).2

end CharKind

/-! ## Classes -/

/-- Letters of any case and script. -/
def isLetter (code : Nat) : Bool := CharKind.ofCode code = .letter

/-- The value of a decimal digit of any script. Every run of decimal digits holds whole rows of
ten. -/
def decimalValue? (code : Nat) : Option Nat :=
  match CharKind.runOf code with
  | (start, .decimal) => some ((code - start) % 10)
  | _ => none

/-- Decimal digits of any script. -/
def isDecimal (code : Nat) : Bool := CharKind.ofCode code = .decimal

/-- Characters of a word: letters, numbers of all kinds, and the underscore. -/
def isWord (code : Nat) : Bool :=
  match CharKind.ofCode code with
  | .letter | .decimal | .letterNumber | .otherNumber => true
  | _ => code = 0x5f

/-- Blank characters, control characters that separate included. -/
def isSpace (code : Nat) : Bool :=
  (0x9 ≤ code && code ≤ 0xd) || (0x1c ≤ code && code ≤ 0x20) || code = 0x85 || code = 0xa0
    || code = 0x1680 || (0x2000 ≤ code && code ≤ 0x200a) || code = 0x2028 || code = 0x2029
    || code = 0x202f || code = 0x205f || code = 0x3000

/-- Characters that are shown as they are; of the blank ones this is the plain space alone. -/
def isPrintable (code : Nat) : Bool :=
  code = 0x20 || CharKind.ofCode code ≠ .unprintable

/-! ## Identifiers -/

/-- Letters that cannot stand in an identifier, because their compatibility form holds a space. -/
private def outsideIdentifiers : List Nat :=
  [0x37a, 0x2e2f, 0xfc5e, 0xfc5f, 0xfc60, 0xfc61, 0xfc62, 0xfc63, 0xfdfa, 0xfdfb, 0xfe70, 0xfe72,
   0xfe74, 0xfe76, 0xfe78, 0xfe7a, 0xfe7c, 0xfe7e]

/-- Letters that can stand in an identifier, but not at its start. -/
private def onlyInsideIdentifiers : List Nat := [0xe33, 0xeb3, 0xff9e, 0xff9f]

/-- Characters other than letters that can start an identifier. -/
private def otherIdentifierStarts : List Nat := [0x5f, 0x1885, 0x1886, 0x2118, 0x212e]

/-- Characters other than letters, digits, marks and connectors that can continue an identifier. -/
private def otherIdentifierParts : List Nat :=
  [0xb7, 0x387, 0x1369, 0x136a, 0x136b, 0x136c, 0x136d, 0x136e, 0x136f, 0x1370, 0x1371, 0x19da,
   0x2118, 0x212e]

/-- Characters that can start an identifier. -/
def startsIdentifier (code : Nat) : Bool :=
  otherIdentifierStarts.contains code ||
    ((match CharKind.ofCode code with
      | .letter | .letterNumber => true
      | _ => false)
      && !outsideIdentifiers.contains code && !onlyInsideIdentifiers.contains code)

/-- Characters that can follow the first one of an identifier. -/
def continuesIdentifier (code : Nat) : Bool :=
  otherIdentifierParts.contains code ||
    ((match CharKind.ofCode code with
      | .letter | .letterNumber | .mark | .decimal | .connector => true
      | _ => false)
      && !outsideIdentifiers.contains code)

/-- A name that can serve as an identifier: not empty, and made of the characters allowed there. -/
def isIdentifier : List Char → Bool
  | [] => false
  | c :: cs => startsIdentifier c.toNat && cs.all (continuesIdentifier ·.toNat)

end PhoneticCatalog.Text
